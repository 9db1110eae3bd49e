import CrossRef.Toml.Document
import CrossRef.Toml.Reader
import CrossRef.Text.Utf8
import CrossRef.Decimal.Nearest
/-!
The grammar of TOML keys and values.

Keys are bare (letters, digits, `-`, `_`), or quoted as basic or literal strings, and may be
dotted. Values are strings (basic, literal, and their multi-line forms), integers (decimal with
an optional sign, or `0x`, `0o`, `0b` with digits of that base), floats (a decimal integer part
with a fraction, an exponent or both, or `inf` and `nan` with an optional sign), booleans,
date-times, arrays and inline tables. Underscores may stand between digits only.

A value is told by its first byte; numbers and date-times share their first bytes, so a date-time
is tried first, then a float, then an integer. Integers must fit in 64 bits with a sign, and
floats may not round to infinity (`-inf` from a long negative exponent is accepted, as it is by
the reader this follows). Days are checked against the length of their month, leap years
included. Arrays and inline tables may nest 79 levels deep.

Errors name what was being read (`invalid basic string`, `invalid array`) and what would have
been accepted there.
-/

-- `^` on numbers is core's `NatPow` power here, also where Mathlib's monoid power is in scope.
attribute [local instance (high)] instPowNat

namespace CrossRef.Toml

open Reader

/-! ## Classes of bytes -/

/-- Blank space within a line. -/
def isBlank (b : UInt8) : Bool := b == 32 || b == 9

/-- A decimal digit. -/
def isDigit (b : UInt8) : Bool := 48 ≤ b && b ≤ 57

/-- A hexadecimal digit. -/
def isHexDigit (b : UInt8) : Bool := isDigit b || (65 ≤ b && b ≤ 70) || (97 ≤ b && b ≤ 102)

/-- An octal digit. -/
def isOctDigit (b : UInt8) : Bool := 48 ≤ b && b ≤ 55

/-- A binary digit. -/
def isBinDigit (b : UInt8) : Bool := b == 48 || b == 49

/-- A byte of a bare key. -/
def isBareKeyByte (b : UInt8) : Bool :=
  (65 ≤ b && b ≤ 90) || (97 ≤ b && b ≤ 122) || isDigit b || b == 45 || b == 95

/-- A byte that stands for itself in a basic string. -/
def isBasicByte (b : UInt8) : Bool :=
  isBlank b || b == 0x21 || (0x23 ≤ b && b ≤ 0x5B) || (0x5D ≤ b && b ≤ 0x7E) || 0x80 ≤ b

/-- A byte of a literal string. -/
def isLiteralByte (b : UInt8) : Bool :=
  b == 9 || (0x20 ≤ b && b ≤ 0x26) || (0x28 ≤ b && b ≤ 0x7E) || 0x80 ≤ b

/-- A byte of a comment. -/
def isCommentByte (b : UInt8) : Bool := b == 9 || (0x20 ≤ b && b ≤ 0x7E) || 0x80 ≤ b

/-- The text of bytes read from the document. -/
def textOf (bytes : ByteArray) : String := Utf8.decodeLossy bytes

/-- The text read since a position. -/
def textSince (start : Nat) : Reader String := do
  return textOf ((← read).extract start (← get))

/-! ## Blank space, comments and line ends -/

/-- Blank space. -/
def ws : Reader Unit := discard (takeMany isBlank)

/-- A line feed, or a carriage return and a line feed. -/
def newline : Reader Unit := do
  let b ← any
  if b == 10 then pure ()
  else if b == 13 then discard (byte 10)
  else backtrack

/-- A comment, up to its line end. -/
def comment : Reader Unit := do
  discard (byte 35)
  discard (takeMany isCommentByte)

/-- A line end, or the end of the document. -/
def lineEnding : Reader Unit := alt [newline, eof]

/-- What may close a line: blank space, a comment, and the line end. -/
def lineTrailing : Reader Unit := do
  ws
  discard (opt comment)
  lineEnding

/-- Blank space and line ends. -/
def wsNewline : Reader Unit := discard (many (alt [newline, discard (takeSome isBlank)]))

/-- A line end, then blank space and line ends. -/
def wsNewlines : Reader Unit := do
  newline
  wsNewline

/-- Blank space, comments and line ends, a round at a time. -/
def wsCommentNewlineFor : Nat → Reader Unit
  | 0 => pure ()
  | fuel + 1 => do
    let start ← get
    ws
    match ← peek? with
    | some 35 => do comment; newline
    | some 10 => newline
    | some 13 => newline
    | _ => return ()
    if (← get) = start then pure () else wsCommentNewlineFor fuel

/-- **Blank space, comments and line ends**, as between the items of an array; a comment must
end with a line end. -/
def wsCommentNewline : Reader Unit := do
  wsCommentNewlineFor ((← remaining) + 1)

/-! ## Strings -/

/-- The value of hexadecimal digits. -/
def hexValue (bytes : ByteArray) : Nat :=
  bytes.foldl (fun acc b =>
    acc * 16 + (if isDigit b then b.toNat - 48 else if b ≤ 70 then b.toNat - 55 else b.toNat - 87)) 0

/-- A character given by `n` hexadecimal digits; surrogates and values past `U+10FFFF` are out of
range. -/
def hexEscape (n : Nat) : Reader String :=
  tryMap (verify (takeWhile 0 n isHexDigit) (·.size == n)) fun bytes =>
    let v := hexValue bytes
    if v < 0xD800 ∨ (0xE000 ≤ v ∧ v ≤ 0x10FFFF) then .ok (Char.ofNat v).toString
    else .error Custom.outOfRange.message

/-- The escapes that may follow a backslash. -/
def escapeLetters : List Char := ['b', 'f', 'n', 'r', 't', 'u', 'U', '\\', '"']

/-- The failure for a letter that is not an escape. -/
def badEscape : Reader String :=
  escapeLetters.foldl (fun r c => expect (.char c) r) (label "escape sequence" (cutErr backtrack))

/-- The character an escape stands for, after its backslash. -/
def escapeSequence : Reader String := do
  match ← any with
  | 98 => pure "\x08"
  | 102 => pure "\x0c"
  | 110 => pure "\n"
  | 114 => pure "\r"
  | 116 => pure "\t"
  | 117 => label "unicode 4-digit hex code" (cutErr (hexEscape 4))
  | 85 => label "unicode 8-digit hex code" (cutErr (hexEscape 8))
  | 92 => pure "\\"
  | 34 => pure "\""
  | _ => badEscape

/-- An escape. -/
def escaped : Reader String := do
  discard (byte 92)
  escapeSequence

/-- A run of a basic string. -/
def basicChars : Reader String := alt [textOf <$> takeSome isBasicByte, escaped]

/-- **A basic string**, between double quotes. -/
def basicString : Reader String := do
  discard (byte 34)
  let parts ← many basicChars
  discard (label "basic string" (cutErr (byte 34)))
  pure (String.join parts)

/-- **A literal string**, between single quotes, without escapes. -/
def literalString : Reader String := label "literal string" do
  discard (byte 39)
  let bytes ← cutErr (takeMany isLiteralByte)
  discard (cutErr (byte 39))
  pure (textOf bytes)

/-- Look at what follows without reading it. -/
def lookAhead {α : Type} (r : Reader α) : Reader α := do
  let start ← get
  tryCatch (do let a ← r; set start; pure a) fun e => do set start; throw e

/-- One or two quote bytes followed by something `term` accepts. -/
def quotes (q : UInt8) (term : Reader Unit) : Reader String := do
  let start ← get
  let one := String.singleton (Char.ofNat q.toNat)
  tryCatch (do discard (byte q); discard (byte q); lookAhead term; pure (one ++ one)) fun e =>
    if e.cut then throw e
    else do
      set start
      discard (byte q)
      lookAhead term
      pure one

/-- A byte other than a given one. -/
def noneOf (q : UInt8) : Reader Unit := discard (oneOf (· != q))

/-- A run of a multi-line basic string: plain bytes, a line-ending backslash with the blank space
after it (which stands for nothing), an escape, or a line end. -/
def mlBasicContent : Reader String := alt [
  textOf <$> takeSome isBasicByte,
  (do discard (many1 (do discard (byte 92); ws; wsNewlines)); pure ""),
  escaped,
  (do newline; pure "\n")]

/-- Quotes inside a multi-line basic string, each run followed by more content. -/
def mlBasicQuotedFor : Nat → List String → Reader (List String)
  | 0, acc => pure acc
  | fuel + 1, acc => do
    match ← opt (quotes 34 (noneOf 34)) with
    | none => pure acc
    | some q =>
      match ← opt mlBasicContent with
      | none => pure acc
      | some c =>
        let more ← many mlBasicContent
        mlBasicQuotedFor fuel (acc ++ q :: c :: more)

/-- The body of a multi-line basic string. -/
def mlBasicBody : Reader String := do
  let first ← many mlBasicContent
  let quoted ← mlBasicQuotedFor ((← remaining) + 1) []
  let closing ← opt (quotes 34 (tag "\"\"\""))
  pure (String.join (first ++ quoted ++ closing.toList))

/-- **A multi-line basic string**, between triple double quotes; a line end right after the
opening quotes is dropped. -/
def mlBasicString : Reader String := label "multiline basic string" do
  tag "\"\"\""
  discard (opt newline)
  let body ← cutErr mlBasicBody
  cutErr (tag "\"\"\"")
  pure body

/-- A byte or line end of a multi-line literal string. -/
def mlLiteralContent : Reader Unit := alt [discard (oneOf isLiteralByte), newline]

/-- The body of a multi-line literal string, with its line ends as line feeds. -/
def mlLiteralBody : Reader String := do
  let start ← get
  discard (many mlLiteralContent)
  discard (many (do discard (quotes 39 (noneOf 39)); discard (many1 mlLiteralContent)))
  discard (opt (quotes 39 (tag "'''")))
  let text ← textSince start
  pure ("\n".intercalate (text.splitOn "\r\n"))

/-- **A multi-line literal string**, between triple single quotes. -/
def mlLiteralString : Reader String := label "multiline literal string" do
  tag "'''"
  discard (opt newline)
  let body ← cutErr mlLiteralBody
  cutErr (tag "'''")
  pure body

/-- **A string** of any of the four forms. -/
def string : Reader String := alt [mlBasicString, basicString, mlLiteralString, literalString]

/-! ## Keys -/

/-- A character that a quoted key cannot hold as it is: a control character other than the tab. -/
def needsEscapeCode (c : Char) : Bool := (c.toNat < 0x20 && c != '\t') || c.toNat == 0x7F

/-- A name between double quotes, with escapes. -/
def basicKey (name : String) : String :=
  let escape := fun (c : Char) =>
    match c with
    | '\x08' => "\\b"
    | '\t' => "\\t"
    | '\n' => "\\n"
    | '\x0c' => "\\f"
    | '\r' => "\\r"
    | '"' => "\\\""
    | '\\' => "\\\\"
    | c =>
      if c.toNat ≤ 0x1F ∨ c.toNat = 0x7F then
        let d := Nat.toDigits 16 c.toNat
        "\\u" ++ String.ofList (List.replicate (4 - d.length) '0' ++ d.map Char.toUpper)
      else c.toString
  "\"" ++ String.join (name.toList.map escape) ++ "\""

/-- **A name as a key is written by default**: bare when it can be; else between double quotes
when nothing in it needs an escape; else between single quotes when it holds neither a single
quote nor a control character; else between double quotes with escapes. -/
def keyRepr (name : String) : String :=
  let codes := name.toList.any needsEscapeCode
  if !name.isEmpty && name.toUTF8.toList.all isBareKeyByte then name
  else if !codes && !name.contains '\\' && !name.contains '"' then basicKey name
  else if !codes && !name.contains '\'' then "'" ++ name ++ "'"
  else basicKey name

/-- One key of a dotted key. -/
def simpleKey : Reader Key := do
  let start ← get
  let name ← match ← peek? with
    | some 34 => basicString
    | some 39 => literalString
    | some _ => textOf <$> takeSome isBareKeyByte
    | none => backtrack
  pure { name, raw := keyRepr name, span := ⟨start, ← get⟩ }

/-- The most keys a dotted key may have. -/
def keyDepthLimit : Nat := 80

/-- **A dotted key**, with blank space around its parts. -/
def key : Reader (List Key) := do
  let start ← get
  let keys ← label "key" (separated1 (do ws; let k ← simpleKey; ws; pure k) (byte 46))
  if keys.length ≥ keyDepthLimit then do
    set start
    refuse Custom.recursionLimit.message
  else pure keys

/-! ## Numbers -/

/-- Digits of a class with single underscores between them, after a first digit. -/
def moreDigits (isD : UInt8 → Bool) : Reader Unit :=
  discard (many (alt [discard (oneOf isD),
    do discard (byte 95); discard (expect (.description "digit") (cutErr (oneOf isD)))]))

/-- Digits of a class, the first one given. -/
def digitsOf (isD : UInt8 → Bool) : Reader Unit := do
  discard (oneOf isD)
  moreDigits isD

/-- A sign. -/
def sign : Reader UInt8 := oneOf fun b => b == 43 || b == 45

/-- **A decimal integer**, as written: a sign, then `0` alone or digits without a leading zero. -/
def decInt : Reader String := label "integer" do
  let start ← get
  discard (opt sign)
  alt [do discard (oneOf fun b => 49 ≤ b && b ≤ 57); moreDigits isDigit, discard (oneOf isDigit)]
  textSince start

/-- The text without its underscores. -/
def dropUnderscores (s : String) : String := String.ofList (s.toList.filter (· ≠ '_'))

/-- The value of digits in a base. -/
def digitsValue (base : Nat) (s : String) : Nat :=
  s.toList.foldl (fun acc c =>
    let d := if c.isDigit then c.toNat - 48 else if c.isUpper then c.toNat - 55 else c.toNat - 87
    acc * base + d) 0

/-- The least and greatest 64-bit integers. -/
def int64Min : Int := -(2 ^ (63 : Nat))
def int64Max : Int := 2 ^ (63 : Nat) - 1

/-- A decimal integer as a 64-bit integer. -/
def decIntValue (s : String) : Except String Int :=
  let s := dropUnderscores s
  let (negative, digits) := match s.toList with
    | '-' :: ds => (true, ds)
    | '+' :: ds => (false, ds)
    | ds => (false, ds)
  let v : Int := digitsValue 10 (String.ofList digits)
  let v := if negative then -v else v
  if v > int64Max then .error "number too large to fit in target type"
  else if v < int64Min then .error "number too small to fit in target type"
  else .ok v

/-- Digits of a base after their prefix, as a 64-bit integer. -/
def radixInt (lead : String) (isD : UInt8 → Bool) (base : Nat) (name : String) : Reader Int :=
  cutErr (tryMap (label name do
      tag lead
      let start ← get
      cutErr (digitsOf isD)
      textSince start) fun s =>
    let v := digitsValue base (dropUnderscores s)
    if v > int64Max.toNat then .error "number too large to fit in target type" else .ok v)

/-- **An integer.** -/
def integer : Reader Int := do
  let input ← read
  let pos ← get
  if bytesAt input pos "0x".toUTF8.toList then radixInt "0x" isHexDigit 16 "hexadecimal integer"
  else if bytesAt input pos "0o".toUTF8.toList then radixInt "0o" isOctDigit 8 "octal integer"
  else if bytesAt input pos "0b".toUTF8.toList then radixInt "0b" isBinDigit 2 "binary integer"
  else do
    let s ← decInt
    match decIntValue s with
    | .ok v => pure v
    | .error cause => do
      set pos
      throw { cut := true, cause := some cause }

/-- A fraction: a point and digits, which may start with zero. -/
def fraction : Reader Unit := do
  discard (byte 46)
  expect (.description "digit") (cutErr (digitsOf isDigit))

/-- An exponent: `e` or `E`, a sign, and digits. -/
def exponent : Reader Unit := do
  discard (oneOf fun b => b == 101 || b == 69)
  discard (opt sign)
  cutErr (digitsOf isDigit)

/-- A float as written with digits. -/
def floatDigits : Reader String := do
  let start ← get
  discard decInt
  alt [exponent, do fraction; discard (opt exponent)]
  textSince start

/-- The double nearest to a float as written. -/
def floatValue (s : String) : Float :=
  let cs := (dropUnderscores s).toList
  let (negative, cs) := match cs with
    | '-' :: r => (true, r)
    | '+' :: r => (false, r)
    | r => (false, r)
  let mantissa := cs.takeWhile (fun c => c ≠ 'e' ∧ c ≠ 'E')
  let expPart := (cs.dropWhile (fun c => c ≠ 'e' ∧ c ≠ 'E')).drop 1
  let whole := mantissa.takeWhile (· ≠ '.')
  let frac := (mantissa.dropWhile (· ≠ '.')).drop 1
  let (expNegative, expDigits) := match expPart with
    | '-' :: r => (true, r)
    | '+' :: r => (false, r)
    | r => (false, r)
  let e : Int := digitsValue 10 (String.ofList expDigits)
  let e := if expNegative then -e else e
  Decimal.nearestFloat negative (digitsValue 10 (String.ofList (whole ++ frac))) (e - frac.length)

/-- Infinity. -/
def infinity : Float := 1 / 0

/-- `inf` or `nan`, with a sign. -/
def specialFloat : Reader Float := do
  let s ← opt sign
  let f ← alt [do tag "inf"; pure infinity, do tag "nan"; pure (0 / 0)]
  pure (if s == some 45 then -f else f)

/-- **A float**; one that rounds to positive infinity is refused. -/
def float : Reader Float := label "floating-point number" (alt [
  do
    let start ← get
    let s ← floatDigits
    let f := floatValue s
    if f == infinity then do
      set start
      throw { cut := true }
    else pure f,
  specialFloat])

/-! ## Date-times -/

/-- Exactly `n` digits, as a number. -/
def digitsExactly (n : Nat) : Reader Nat := do
  let bytes ← takeWhile n n isDigit
  pure (digitsValue 10 (textOf bytes))

/-- Two digits within bounds. -/
def twoDigitsIn (lo hi : Nat) : Reader Nat :=
  tryMap (digitsExactly 2) fun d => if lo ≤ d ∧ d ≤ hi then .ok d else .error Custom.outOfRange.message

/-- The days of a month. -/
def daysInMonth (year month : Nat) : Nat :=
  let leap := year % 4 = 0 ∧ (year % 100 ≠ 0 ∨ year % 400 = 0)
  if month = 2 then (if leap then 29 else 28)
  else if month = 4 ∨ month = 6 ∨ month = 9 ∨ month = 11 then 30
  else 31

/-- A date: year, month and day. -/
def fullDate : Reader Unit := do
  let year ← digitsExactly 4
  discard (byte 45)
  let month ← cutErr (twoDigitsIn 1 12)
  discard (cutErr (byte 45))
  let dayStart ← get
  let day ← cutErr (twoDigitsIn 1 31)
  if daysInMonth year month < day then do
    set dayStart
    throw { cut := true, cause := some Custom.outOfRange.message }

/-- A time of day, with optional fractional seconds. -/
def timeOfDay : Reader Unit := do
  discard (twoDigitsIn 0 23)
  discard (byte 58)
  cutErr do
    discard (twoDigitsIn 0 59)
    discard (byte 58)
    discard (twoDigitsIn 0 60)
    discard (opt (do discard (byte 46); discard (takeSome isDigit)))

/-- A time offset: `Z`, or a signed hour and minute. -/
def timeOffset : Reader Unit := label "time offset" (alt [
  discard (oneOf fun b => b == 90 || b == 122),
  do
    discard sign
    cutErr do
      discard (twoDigitsIn 0 23)
      discard (byte 58)
      discard (twoDigitsIn 0 59)])

/-- **A date-time**: a date with an optional time and offset, or a time alone. -/
def dateTime : Reader Unit := alt [
  label "date-time" do
    fullDate
    discard (opt do
      discard (oneOf fun b => b == 84 || b == 116 || b == 32)
      timeOfDay
      discard (opt timeOffset)),
  label "time" timeOfDay]

/-! ## Values -/

/-- The failures of a value that looks like none, reported as if a string had been meant. -/
def asString {α : Type} (r : Reader α) : Reader α :=
  expect (.char '\'') (expect (.char '"') (label "string" r))

/-- The nesting room of arrays and inline tables. -/
def nestingRoom : Nat := 79

/-- The reader of nested values, or the failure of nesting too deep. -/
def nested (inner : Option (Reader Item)) : Reader (Reader Item) :=
  match inner with
  | some r => pure r
  | none => refuse Custom.recursionLimit.message

/-- The items of an array, with the blank space, comments and line ends around them. -/
def arrayValues (v : Reader Item) : Reader (List Item) := do
  let item := do wsCommentNewline; let x ← v; wsCommentNewline; pure x
  let items ← opt do
    let xs ← separated1 item (byte 44)
    discard (opt (byte 44))
    pure xs
  wsCommentNewline
  pure (items.getD [])

/-- A key, `=` and a value inside an inline table. -/
def inlineKeyValue (v : Reader Item) : Reader (List Key × Key × Item) := do
  let path ← key
  cutErr do
    discard (expect (.char '=') (expect (.char '.') (byte 61)))
    ws
    let x ← v
    ws
    pure (path.dropLast, path.getLast?.getD default, x)

/-- The entries of an inline table. -/
def inlineEntries (v : Reader Item) : Reader Entries :=
  tryMap (do
    let pairs ← separated0 (inlineKeyValue v) (byte 44)
    ws
    pure pairs) fun pairs =>
  match inlineTable pairs with
  | .ok es => .ok es
  | .error c => .error c.message

/-- **A value**, reading nested values with `inner` (none when nesting is too deep). -/
def valueWith (inner : Option (Reader Item)) : Reader Item := do
  let start ← get
  let some b ← peek? | backtrack
  let finish := fun (mk : Range → Item) => do
    let stop ← get
    pure (mk ⟨start, stop⟩)
  if b == 34 || b == 39 then
    let s ← string
    finish (.string s)
  else if b == 91 then
    let v ← cutErr (nested inner)
    discard (byte 91)
    let items ← cutErr (arrayValues v)
    discard (expect (.char ']') (label "array" (cutErr (byte 93))))
    finish (.array items)
  else if b == 123 then
    let v ← cutErr (nested inner)
    discard (byte 123)
    let entries ← cutErr (inlineEntries v)
    discard (expect (.char '}') (label "inline table" (cutErr (byte 125))))
    finish fun r => .table (.inline false) entries (some r)
  else if b == 43 || b == 45 || isDigit b then
    let mk ← alt [
      (do dateTime; let t ← textSince start; pure (Item.datetime t)),
      (Item.float <$> float),
      (Item.integer <$> integer)]
    finish mk
  else if b == 95 then
    let i ← expect (.description "leading digit") integer
    finish (.integer i)
  else if b == 46 then
    let f ← expect (.description "leading digit") float
    finish (.float f)
  else if b == 116 then
    asString (do discard (lookAhead (byte 116)); cutErr (tag "true"))
    finish (.boolean true)
  else if b == 102 then
    asString (do discard (lookAhead (byte 102)); cutErr (tag "false"))
    finish (.boolean false)
  else if b == 105 then
    asString (tag "inf")
    finish (.float infinity)
  else if b == 110 then
    asString (tag "nan")
    finish (.float (0 / 0))
  else asString backtrack

/-- **A value**, with the given nesting room. -/
def value : Nat → Reader Item
  | 0 => valueWith none
  | room + 1 => valueWith (some (value room))

end CrossRef.Toml
