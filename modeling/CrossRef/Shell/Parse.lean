import CrossRef.Shell.Syntax
/-!
Reading shell scripts.

A script is read one complete command at a time, up to the end of its line: the grammar of the
POSIX shell, read as a token stream with one token of look-back. A word is read only where the
grammar asks for one, and whether it is a reserved word (`if`, `then`, `{`, …) depends on where it
stands: at the start of a command, after a separator, or where a keyword is expected. A quoted
word is never a reserved word.

Errors are reported in the shell's words, naming the token that was found and, where a single
token would do, the one that was expected: `Syntax error: end of file unexpected (expecting
")")`. A quoted string, a `${`, a `$((` or a backquoted command left open at the end of the input
has its own message.

Here-documents are read from the lines after the one their redirection is on, as soon as that
line's newline is read. A here-document whose delimiter is quoted is taken as it is; otherwise
it is read like text in double quotes, with expansions, where a backslash quotes only `$`, a
backquote, a backslash or a newline.

Every reading function takes fuel, which the reader sets from the length of the input: each step
reads input or goes one level deeper into a construct that will, so the fuel does not run out on
any script.

This module belongs to the simulated test host that one-shot analyzer commands run on, not to
the library's program: the program reaches the host only through `Cli.Machine` and
`Host.System`, and no theorem of the library is about this module.
-/

namespace CrossRef.Shell

/-- A syntax error: the line it was found on and what it says. -/
structure SyntaxError where
  line : Nat
  message : String
  deriving Inhabited

/-- The operators and separators of the grammar. -/
inductive Op where
  | eof
  | newline
  | semi
  | amp
  | andIf
  | orIf
  | pipe
  | lparen
  | rparen
  | dsemi
  deriving DecidableEq, Repr, Inhabited

/-- How an operator is named in error messages. -/
def Op.name : Op → String
  | .eof => "end of file"
  | .newline => "newline"
  | .semi => "\";\""
  | .amp => "\"&\""
  | .andIf => "\"&&\""
  | .orIf => "\"||\""
  | .pipe => "\"|\""
  | .lparen => "\"(\""
  | .rparen => "\")\""
  | .dsemi => "\";;\""

/-- A redirection operator. -/
inductive RedirOp where
  /-- `<` -/
  | input
  /-- `>` -/
  | output
  /-- `>|` -/
  | clobber
  /-- `>>` -/
  | append
  /-- `<>` -/
  | both
  /-- `>&` -/
  | dupOut
  /-- `<&` -/
  | dupIn
  /-- `<<`, or `<<-` which strips leading tabs. -/
  | here (strip : Bool)
  deriving DecidableEq, Repr, Inhabited

/-- A token. -/
inductive Token where
  | op (o : Op)
  /-- A redirection operator, with the descriptor written before it. -/
  | redir (fd : Option Nat) (r : RedirOp)
  /-- A word, and whether any of it was quoted. -/
  | word (w : Word) (quoted : Bool)
  | keyword (k : String)
  deriving Inhabited

namespace Token

/-- How a token is named in error messages. -/
def name : Token → String
  | .op o => o.name
  | .redir .. => "redirection"
  | .word .. => "word"
  | .keyword k => "\"" ++ k ++ "\""

/-- Whether a token is an operator. -/
def isOp (t : Token) (o : Op) : Bool :=
  match t with
  | .op o' => o' == o
  | _ => false

/-- Whether a token is a reserved word. -/
def isKeyword (t : Token) (k : String) : Bool :=
  match t with
  | .keyword k' => k' == k
  | _ => false

/-- Whether a token ends a list of commands. -/
def endsList (t : Token) : Bool :=
  match t with
  | .op .eof | .op .rparen | .op .dsemi => true
  | .keyword k => ["do", "done", "elif", "else", "esac", "fi", "then", "\x7d"].contains k
  | _ => false

end Token

/-- The reserved words. -/
def keywords : List String :=
  ["!", "case", "do", "done", "elif", "else", "esac", "fi", "for", "if", "in", "then", "until",
   "while", "\x7b", "\x7d"]

/-- A here-document whose body is still to be read. -/
structure Pending where
  number : Nat
  delimiter : Bytes
  expand : Bool
  strip : Bool
  deriving Inhabited

/-- The state of a reader. -/
structure Reader where
  /-- The input not yet read. -/
  rest : Bytes
  /-- The line the reader is on. -/
  line : Nat := 1
  pending : List Pending := []
  docs : List HereDoc := []
  nextDoc : Nat := 0
  /-- The token read last. -/
  last : Token := .op .newline
  /-- The word read last. -/
  lastWord : Word := []
  /-- Whether the last token is to be read again. -/
  pushback : Bool := false
  /-- The aliases, by name, with their texts. -/
  aliases : List (String × Bytes) := []
  /-- The aliases whose texts are being read: each name with the length of the input left after
  its text, and whether its text ends with a blank. -/
  expanding : List (String × Nat × Bool) := []
  /-- Whether the next word read may be an alias, where reserved words are not looked for. -/
  aliasNext : Bool := false
  deriving Inhabited

/-- Reading with a reader. -/
abbrev Parser := StateT Reader (Except SyntaxError)

/-- A word being read: the pieces so far and the text not yet made a piece. -/
structure Acc where
  /-- The pieces, last first. -/
  done : List Piece := []
  /-- Unquoted text, last byte first. -/
  plainRun : Bytes := []
  /-- Quoted text, last byte first. -/
  quotedRun : Bytes := []
  /-- Whether anything was quoted. -/
  quoted : Bool := false
  deriving Inhabited

namespace Acc

/-- The word with its pending text made a piece. -/
def flush (a : Acc) : Acc :=
  let done := if a.plainRun.isEmpty then a.done else .plain a.plainRun.reverse :: a.done
  let done := if a.quotedRun.isEmpty then done else .quoted a.quotedRun.reverse :: done
  { a with done, plainRun := [], quotedRun := [] }

/-- Add an unquoted byte. -/
def plain (a : Acc) (c : UInt8) : Acc :=
  if a.quotedRun.isEmpty then { a with plainRun := c :: a.plainRun }
  else { a.flush with plainRun := [c] }

/-- Add a quoted byte. -/
def quote (a : Acc) (c : UInt8) : Acc :=
  if a.plainRun.isEmpty then { a with quotedRun := c :: a.quotedRun, quoted := true }
  else { a.flush with quotedRun := [c], quoted := true }

/-- Add quoted bytes, marking the word quoted even when there are none. -/
def quoteAll (a : Acc) (b : Bytes) : Acc :=
  let a := { a.flush with done := .quoted [] :: a.flush.done, quoted := true }
  b.foldl quote a

/-- Add a piece. -/
def piece (a : Acc) (p : Piece) : Acc := { a.flush with done := p :: a.flush.done }

/-- The word read. -/
def word (a : Acc) : Word := a.flush.done.reverse

end Acc

/-- Skip escaped newlines at the start of some input, counting the lines. -/
def dropEscapedNewlines : Bytes → Nat → Bytes × Nat
  | 92 :: 10 :: rest, n => dropEscapedNewlines rest (n + 1)
  | rest, n => (rest, n)

/-- Skip a comment: everything up to the newline, which stays. -/
def dropComment : Bytes → Bytes
  | 10 :: rest => 10 :: rest
  | _ :: rest => dropComment rest
  | [] => []

/-- The text up to a closing single quote and what follows the quote, if it is closed. -/
def untilQuote : Bytes → Bytes → Option (Bytes × Bytes)
  | 39 :: rest, acc => some (acc.reverse, rest)
  | c :: rest, acc => untilQuote rest (c :: acc)
  | [], _ => none

/-- The number of newlines in some bytes. -/
def newlines (b : Bytes) : Nat := b.count 10

/-- Whether bytes end with a backslash that is not itself quoted by one before it. -/
def endsEscaped (line : Bytes) : Bool := (line.reverse.takeWhile (· == 92)).length % 2 == 1

/-- **The raw body of a here-document**: its lines up to the delimiter line (whose tabs are
stripped first with `<<-`), the input after it, and the lines read. A line whose newline is
escaped joins the next, which is then no delimiter line. -/
def docLines (delim : Bytes) (expand strip : Bool) : Nat → Bytes → Bytes → Bool → Nat → Bytes × Bytes × Nat
  | 0, input, acc, _, n => (acc, input, n)
  | k + 1, input, acc, joined, n =>
    match input with
    | [] => (acc, [], n)
    | _ =>
      let line := input.takeWhile (· != 10)
      let after := input.drop line.length
      let hasNewline := !after.isEmpty
      let after := after.drop 1
      let line := if strip && !joined then line.dropWhile (· == 9) else line
      if !joined && line == delim then (acc, after, n + (if hasNewline then 1 else 0))
      else
        let acc := acc ++ line ++ (if hasNewline then [10] else [])
        if hasNewline then docLines delim expand strip k after acc (expand && endsEscaped line) (n + 1)
        else (acc, [], n)

/-- Whether a word is an assignment: unquoted text that starts with a name and `=`. -/
def isAssignment : Word → Bool
  | .plain b :: _ =>
    let name := b.takeWhile (· != 61)
    name.length < b.length && Bytes.isName name
  | _ => false

namespace Reader

/-- The state at the start of some input, on a line. -/
def start (input : Bytes) (line : Nat := 1) : Reader := { rest := input, line }

end Reader

section Primitives

/-- Fail with a syntax error on the current line. -/
def syntaxError (message : String) : Parser α := do
  throw { line := (← get).line, message := "Syntax error: " ++ message }

/-- Fail naming the last token as unexpected, and what was expected instead. -/
def unexpected (expected : Option String) : Parser α := do
  let found := (← get).last.name
  match expected with
  | some e => syntaxError (found ++ " unexpected (expecting " ++ e ++ ")")
  | none => syntaxError (found ++ " unexpected")

/-- The next byte, without reading it. -/
def peek : Parser (Option UInt8) := do return (← get).rest.head?

/-- Read one byte. -/
def advance : Parser Unit := modify fun s =>
  match s.rest with
  | c :: rest => { s with rest, line := if c == 10 then s.line + 1 else s.line }
  | [] => s

/-- Skip escaped newlines. -/
def skipEscapedNewlines : Parser Unit := modify fun s =>
  let (rest, n) := dropEscapedNewlines s.rest 0
  { s with rest, line := s.line + n }

/-- The next byte after any escaped newlines, without reading it. -/
def peekJoined : Parser (Option UInt8) := do
  skipEscapedNewlines
  peek

/-- Read the next byte after any escaped newlines if it is the given one. -/
def accept (c : UInt8) : Parser Bool := do
  if (← peekJoined) == some c then
    advance
    return true
  return false

/-- Read a variable name. -/
def readName : Parser String := do
  let s ← get
  let n := s.rest.takeWhile Bytes.isNameChar
  set { s with rest := s.rest.drop n.length }
  return String.ofList (n.map fun c => Char.ofNat c.toNat)

/-- Read decimal digits. -/
def readDigits : Parser String := do
  let s ← get
  let n := s.rest.takeWhile Bytes.isDigit
  set { s with rest := s.rest.drop n.length }
  return String.ofList (n.map fun c => Char.ofNat c.toNat)

/-- Read single-quoted text after its opening quote. -/
def singleQuoted : Parser Bytes := do
  let s ← get
  match untilQuote s.rest [] with
  | some (text, rest) =>
    set { s with rest, line := s.line + newlines text }
    return text
  | none =>
    set { s with rest := [], line := s.line + newlines s.rest }
    syntaxError "Unterminated quoted string"

/-- The text of a byte that is part of a name or a special parameter. -/
def charText (c : UInt8) : String := String.singleton (Char.ofNat c.toNat)

/-- Whether a byte names a special parameter. -/
def isSpecialParam (c : UInt8) : Bool := [35, 63, 36, 33, 45, 42, 64].contains c

/-- Whether a byte ends an unquoted word. -/
def endsWord (c : UInt8) : Bool := [32, 9, 10, 59, 38, 124, 40, 41, 60, 62].contains c

/-- Read a redirection operator at `<` or `>`, with the descriptor written before it. -/
def redirection (fd : Option Nat) : Parser Token := do
  let c ← peek
  advance
  if c == some 62 then
    if ← accept 62 then return .redir fd .append
    if ← accept 124 then return .redir fd .clobber
    if ← accept 38 then return .redir fd .dupOut
    return .redir fd .output
  else
    if ← accept 60 then
      if ← accept 45 then return .redir fd (.here true)
      return .redir fd (.here false)
    if ← accept 38 then return .redir fd .dupIn
    if ← accept 62 then return .redir fd .both
    return .redir fd .input

end Primitives

/-- What a `${` expansion was read as: the parameter, the modifier, and whether a word follows. -/
structure Braced where
  name : String
  modifier : Modifier
  hasArg : Bool

/-- The modifier written after a parameter's name in braces, the byte after the name read. -/
def modifierAfter (c : Option UInt8) : Parser (Modifier × Bool) := do
  let simple (nullToo : Bool) : Option UInt8 → Option Modifier
    | some 125 => some .plain
    | some 45 => some (.orDefault nullToo)
    | some 43 => some (.ifSet nullToo)
    | some 63 => some (.orFail nullToo)
    | some 61 => some (.orAssign nullToo)
    | _ => none
  match c with
  | some 58 =>
    let d ← peekJoined
    advance
    match simple true d with
    -- `${x:}` reads on to the next closing brace and expands as `${x}`.
    | some m => return (m, true)
    | none => return (.bad, true)
  | some 37 => return (.dropSuffix (← accept 37), true)
  | some 35 => return (.dropPrefix (← accept 35), true)
  | _ =>
    match simple false c with
    | some .plain => return (.plain, false)
    | some m => return (m, true)
    | none => return (.bad, true)

/-- **Read the head of a `${` expansion** after the brace: the parameter and modifier. -/
def bracedHead : Parser Braced := do
  let c ← peekJoined
  match c with
  | some c =>
    if Bytes.isNameStart c || Bytes.isDigit c then
      let name ← if Bytes.isNameStart c then readName else readDigits
      let d ← peekJoined
      advance
      let (m, hasArg) ← modifierAfter d
      return { name, modifier := m, hasArg }
    else if c == 125 then
      return { name := "", modifier := .bad, hasArg := true }
    else
      advance
      let d ← peekJoined
      if c == 35 then
        match d with
        | some d =>
          if d == 95 || Bytes.isAlnum d then
            let name ← if Bytes.isNameStart d then readName else readDigits
            return { name, modifier := .length, hasArg := true }
          else
            advance
            let e ← peekJoined
            if d == 125 || e != some 125 then
              -- `${#}`, `${#-w}` and the like are `$#` with a modifier.
              let (m, hasArg) ← modifierAfter (some d)
              return { name := "#", modifier := m, hasArg }
            else if isSpecialParam d then
              return { name := charText d, modifier := .length, hasArg := true }
            else return { name := "", modifier := .bad, hasArg := true }
        | none => return { name := "", modifier := .bad, hasArg := true }
      else if isSpecialParam c then
        advance
        let (m, hasArg) ← modifierAfter d
        return { name := charText c, modifier := m, hasArg }
      else return { name := "", modifier := .bad, hasArg := true }
  | none => return { name := "", modifier := .bad, hasArg := true }

/-- Collect the text of a backquoted command after its opening backquote: a backslash before a
backslash, a backquote or a dollar sign (or, in double quotes, a double quote) is dropped. -/
def backquoteText (dq : Bool) : Nat → Bytes → Parser Bytes
  | 0, _ => syntaxError "EOF in backquote substitution"
  | k + 1, acc => do
    skipEscapedNewlines
    match ← peek with
    | none => syntaxError "EOF in backquote substitution"
    | some 96 => advance; return acc.reverse
    | some 92 =>
      advance
      match ← peek with
      | none => syntaxError "EOF in backquote substitution"
      | some d =>
        advance
        if d == 92 || d == 96 || d == 36 || (dq && d == 34) then backquoteText dq k (d :: acc)
        else backquoteText dq k (d :: 92 :: acc)
    | some c => advance; backquoteText dq k (c :: acc)

mutual

/-- **Read an unquoted word**, up to a blank or an operator. In a here-document's delimiter
(`mark`), a dollar sign is plain text. -/
def bareWord (mark : Bool) : Nat → Acc → Parser Acc
  | 0, _ => syntaxError "nesting too deep"
  | k + 1, acc => do
    match ← peek with
    | none => return acc
    | some c =>
      if endsWord c then return acc
      else if c == 92 then
        advance
        match ← peek with
        | none => return acc.quote 92
        | some 10 => advance; bareWord mark k acc
        | some d => advance; bareWord mark k (acc.quote d)
      else if c == 39 then
        advance
        let text ← singleQuoted
        bareWord mark k (acc.quoteAll text)
      else if c == 34 then
        advance
        let start := acc.quoteAll []
        let acc ← doubleQuoted k start
        -- `"$@"` alone in its quotes leaves no empty field when there are no parameters
        let acc := match acc.flush.done with
          | .param "@" .plain [] true :: .quoted [] :: rest =>
            if rest.length + 1 == start.done.length then { acc.flush with done := .param "@" .plain [] true :: rest }
            else acc
          | _ => acc
        bareWord mark k acc
      else if c == 36 && !mark then
        advance
        match ← dollar k false with
        | some p => bareWord mark k (acc.piece p)
        | none => bareWord mark k (acc.plain 36)
      else if c == 96 then
        advance
        let p ← backquoted k false
        bareWord mark k (acc.piece p)
      else
        advance
        bareWord mark k (acc.plain c)
termination_by structural k _ => k

/-- **Read text in double quotes** after the opening quote, up to and with the closing one. -/
def doubleQuoted : Nat → Acc → Parser Acc
  | 0, _ => syntaxError "nesting too deep"
  | k + 1, acc => do
    match ← peek with
    | none => syntaxError "Unterminated quoted string"
    | some 34 => advance; return acc
    | some 92 =>
      advance
      match ← peek with
      | none => doubleQuoted k (acc.quote 92)
      | some 10 => advance; doubleQuoted k acc
      | some d =>
        advance
        if d == 36 || d == 96 || d == 92 || d == 34 then doubleQuoted k (acc.quote d)
        else doubleQuoted k ((acc.quote 92).quote d)
    | some 36 =>
      advance
      match ← dollar k true with
      | some p => doubleQuoted k (acc.piece p)
      | none => doubleQuoted k (acc.quote 36)
    | some 96 =>
      advance
      let p ← backquoted k true
      doubleQuoted k (acc.piece p)
    | some c => advance; doubleQuoted k (acc.quote c)
termination_by structural k _ => k

/-- **Read the word of a `${` expansion**, up to and with its closing brace. In double quotes
(`dq`) a backslash quotes only what it quotes in double quotes and a closing brace, and single
quotes are plain. Its text and its expansions are read as unquoted: whether the word's value is
quoted is the expansion's own, except where the word itself quotes. `eofMessage` is the error at
the end of the input. -/
def argWord (dq : Bool) (eofMessage : String) : Nat → Acc → Parser Acc
  | 0, _ => syntaxError "nesting too deep"
  | k + 1, acc => do
    match ← peek with
    | none => syntaxError eofMessage
    | some 125 => advance; return acc
    | some 92 =>
      advance
      match ← peek with
      | none => argWord dq eofMessage k (acc.quote 92)
      | some 10 => advance; argWord dq eofMessage k acc
      | some d =>
        advance
        if !dq || d == 36 || d == 96 || d == 92 || d == 34 || d == 125 then
          argWord dq eofMessage k (acc.quote d)
        else argWord dq eofMessage k ((acc.quote 92).quote d)
    | some 36 =>
      advance
      match ← dollar k false with
      | some p => argWord dq eofMessage k (acc.piece p)
      | none => argWord dq eofMessage k (acc.plain 36)
    | some 96 =>
      advance
      let p ← backquoted k false
      argWord dq eofMessage k (acc.piece p)
    | some 34 =>
      advance
      let acc ← doubleQuoted k (acc.quoteAll [])
      argWord dq eofMessage k acc
    | some 39 =>
      if dq then
        advance
        argWord dq eofMessage k (acc.plain 39)
      else
        advance
        let text ← singleQuoted
        argWord dq eofMessage k (acc.quoteAll text)
    | some 10 =>
      if dq then
        advance
        argWord dq eofMessage k (acc.plain 10)
      else syntaxError eofMessage
    | some c => advance; argWord dq eofMessage k (acc.plain c)
termination_by structural k _ => k

/-- **Read an arithmetic expression** after `$((`, up to and with the `))` that closes it. -/
def arithWord : Nat → Nat → Acc → Parser Acc
  | 0, _, _ => syntaxError "nesting too deep"
  | k + 1, depth, acc => do
    match ← peek with
    | none => syntaxError "Missing '))'"
    | some 40 => advance; arithWord k (depth + 1) (acc.plain 40)
    | some 41 =>
      advance
      if depth > 0 then arithWord k (depth - 1) (acc.plain 41)
      else if ← accept 41 then return acc
      else arithWord k 0 (acc.plain 41)
    | some 36 =>
      advance
      match ← dollar k true with
      | some p => arithWord k depth (acc.piece p)
      | none => arithWord k depth (acc.plain 36)
    | some 96 =>
      advance
      let p ← backquoted k true
      arithWord k depth (acc.piece p)
    | some 92 =>
      advance
      match ← peek with
      | none => arithWord k depth (acc.quote 92)
      | some 10 => advance; arithWord k depth acc
      | some d => advance; arithWord k depth (acc.quote d)
    | some 34 =>
      advance
      let acc ← doubleQuoted k acc
      arithWord k depth acc
    | some c => advance; arithWord k depth (acc.plain c)
termination_by structural k _ _ => k

/-- **Read an expansion** after its `$`: nothing when the dollar sign is plain text. -/
def dollar : Nat → Bool → Parser (Option Piece)
  | 0, _ => syntaxError "nesting too deep"
  | k + 1, dq => do
    match ← peekJoined with
    | some 40 =>
      advance
      if ← accept 40 then
        let e ← arithWord k 0 {}
        return some (.arith e.word dq)
      else
        let body ← list k 2
        let t ← readToken k false false
        if !t.isOp .rparen then unexpected (some (Op.rparen.name))
        return some (.command body dq)
    | some 123 =>
      advance
      let b ← bracedHead
      if b.hasArg then
        -- a pattern to trim is read as unquoted text, in double quotes too
        let wordDq := match b.modifier with
          | .dropPrefix _ | .dropSuffix _ => false
          | _ => dq
        let msg := if wordDq then "Unterminated quoted string" else "Missing '\x7d'"
        let arg ← argWord wordDq msg k {}
        return some (.param b.name b.modifier arg.word dq)
      else return some (.param b.name b.modifier [] dq)
    | some c =>
      if Bytes.isNameStart c then
        let name ← readName
        return some (.param name .plain [] dq)
      else if Bytes.isDigit c || isSpecialParam c then
        advance
        return some (.param (charText c) .plain [] dq)
      else return none
    | none => return none
termination_by structural k _ => k

/-- **Read a backquoted command** after its opening backquote. -/
def backquoted : Nat → Bool → Parser Piece
  | 0, _ => syntaxError "nesting too deep"
  | k + 1, dq => do
    let text ← backquoteText dq (((← get).rest.length) + 1) []
    let outer ← get
    set (Reader.start text outer.line)
    let body ← list k 2
    let inner ← get
    set outer
    return .command (body.map (·.fill inner.docs)) dq
termination_by structural k _ => k

/-- **Read a token.** With `nl`, newlines before it are skipped, each reading the pending
here-documents; with `kwd`, an unquoted word that is a reserved word is read as one, and one that
is an alias is replaced by the alias's text. A token put back is read again as it was, but may now
become a reserved word. -/
def readToken : Nat → Bool → Bool → Parser Token
  | 0, _, _ => syntaxError "nesting too deep"
  | k + 1, kwd, nl => readTokenAs k kwd kwd nl
termination_by structural k _ _ => k

/-- Read a token, looking for reserved words with `kwd` and for aliases with `aliasOn`. An alias is
looked for too in the word after an alias whose text ends with a blank, and where the reader was
asked to. While an alias's text is being read the alias is not expanded again, so aliases that
name each other end. -/
def readTokenAs : Nat → Bool → Bool → Bool → Parser Token
  | 0, _, _, _ => syntaxError "nesting too deep"
  | k + 1, kwd, aliasOn, nl => do
    let s ← get
    let t ← if s.pushback then do
        set { s with pushback := false }
        pure s.last
      else lexToken k false
    let t ← if nl then skipNewlines k t else pure t
    let r ← get
    let (ended, going) := r.expanding.partition fun e => r.rest.length < e.2.1
    let aliasOn := !s.pushback && (aliasOn || s.aliasNext || ended.any (·.2.2))
    set { r with expanding := going, aliasNext := false }
    let found : Option (String × Bytes) := match t with
      | .word [.plain b] false =>
        let text := Bytes.text b
        if kwd && keywords.contains text then none
        else if aliasOn && !going.any (fun e => e.1 == text) then r.aliases.find? (fun e => e.1 == text)
        else none
      | _ => none
    match found with
    | some (name, value) =>
      let blank := value.getLast? == some 32 || value.getLast? == some 9
      modify fun s => { s with rest := value ++ s.rest, expanding := (name, s.rest.length, blank) :: s.expanding }
      readTokenAs k kwd true nl
    | none =>
      let t : Token := match t with
        | .word [.plain b] false =>
          let text := Bytes.text b
          if kwd && keywords.contains text then .keyword text else t
        | _ => t
      modify fun s => { s with last := t }
      return t
termination_by structural k _ _ _ => k

/-- Skip newline tokens, reading the pending here-documents at each. -/
def skipNewlines : Nat → Token → Parser Token
  | 0, _ => syntaxError "nesting too deep"
  | k + 1, t => do
    if t.isOp .newline then
      readDocs k
      let t ← lexToken k false
      skipNewlines k t
    else return t
termination_by structural k _ => k

/-- **Read the next token from the input**; in a here-document's delimiter (`mark`), a dollar sign
is plain text. -/
def lexToken : Nat → Bool → Parser Token
  | 0, _ => syntaxError "nesting too deep"
  | k + 1, mark => do
    skipEscapedNewlines
    match ← peek with
    | none => return .op .eof
    | some 32 | some 9 => advance; lexToken k mark
    | some 35 => modify (fun s => { s with rest := dropComment s.rest }); lexToken k mark
    | some 10 => advance; return .op .newline
    | some 38 => advance; return .op (if ← accept 38 then .andIf else .amp)
    | some 124 => advance; return .op (if ← accept 124 then .orIf else .pipe)
    | some 59 => advance; return .op (if ← accept 59 then .dsemi else .semi)
    | some 40 => advance; return .op .lparen
    | some 41 => advance; return .op .rparen
    | some 60 | some 62 => redirection none
    | some _ =>
      let acc ← bareWord mark k {}
      let w := acc.word
      let next ← peek
      match w, acc.quoted with
      | [.plain [d]], false =>
        if Bytes.isDigit d && (next == some 60 || next == some 62) then
          redirection (some (d - 48).toNat)
        else
          modify fun s => { s with lastWord := w }
          return .word w acc.quoted
      | _, _ =>
        modify fun s => { s with lastWord := w }
        return .word w acc.quoted
termination_by structural k _ => k

/-- **Read the pending here-documents.** -/
def readDocs : Nat → Parser Unit
  | 0 => syntaxError "nesting too deep"
  | k + 1 => do
    let s ← get
    set { s with pending := [] }
    readEach k s.pending
termination_by structural k => k

/-- Read here-documents in order. -/
def readEach : Nat → List Pending → Parser Unit
  | 0, _ => syntaxError "nesting too deep"
  | _ + 1, [] => pure ()
  | k + 1, p :: ps => do
    let s ← get
    let (body, rest, n) := docLines p.delimiter p.expand p.strip (s.rest.length + 1) s.rest [] false 0
    let word ← if p.expand then do
        set { s with rest := body }
        let acc ← docWord k {}
        pure acc.word
      else pure [.quoted body]
    modify fun t => { t with rest, line := s.line + n,
                             docs := t.docs ++ [{ number := p.number, body := word, expand := p.expand }] }
    readEach k ps
termination_by structural k _ => k

/-- Read the body of a here-document with expansions. -/
def docWord : Nat → Acc → Parser Acc
  | 0, _ => syntaxError "nesting too deep"
  | k + 1, acc => do
    match ← peek with
    | none => return acc
    | some 92 =>
      advance
      match ← peek with
      | none => return acc.quote 92
      | some 10 => advance; docWord k acc
      | some d =>
        advance
        if d == 36 || d == 96 || d == 92 then docWord k (acc.quote d)
        else docWord k ((acc.quote 92).quote d)
    | some 36 =>
      advance
      match ← dollar k true with
      | some p => docWord k (acc.piece p)
      | none => docWord k (acc.quote 36)
    | some 96 =>
      advance
      let p ← backquoted k true
      docWord k (acc.piece p)
    | some c => advance; docWord k (acc.quote c)
termination_by structural k _ => k

/-- **Read a list of and-or lists.** `nl` is 1 at the top of a script, where the list ends at a
newline; otherwise newlines separate the list's commands and it ends before a token that closes
a construct, which may stand first only with `nl = 2`. -/
def list : Nat → Nat → Parser (Option Command)
  | 0, _ => syntaxError "nesting too deep"
  | k + 1, nl => listFrom k nl none
termination_by structural k _ => k

/-- Read the rest of a list after the commands read so far. -/
def listFrom : Nat → Nat → Option Command → Parser (Option Command)
  | 0, _, _ => syntaxError "nesting too deep"
  | k + 1, nl, acc => do
    let chknl := nl % 2 == 0
    let t ← readToken k true chknl
    if t.isOp .newline then
      readDocs k
      return acc
    if t.isOp .eof then
      readDocs k
      modify fun s => { s with pushback := true, last := .op .eof }
      return acc
    modify fun s => { s with pushback := true }
    if nl == 2 && t.endsList then return acc
    let n ← andOr k
    let t ← readToken k false false
    let n := if t.isOp .amp then Command.background n else n
    let acc := some (match acc with
      | some a => Command.seq a n
      | none => n)
    if t.isOp .eof then
      readDocs k
      modify fun s => { s with pushback := true, last := .op .eof }
      return acc
    else if t.isOp .newline then
      modify fun s => { s with pushback := true }
      listFrom k (nl ||| 2) acc
    else if t.isOp .amp || t.isOp .semi then listFrom k (nl ||| 2) acc
    else
      if !chknl then unexpected none
      modify fun s => { s with pushback := true }
      return acc
termination_by structural k _ _ => k

/-- Read an and-or list. -/
def andOr : Nat → Parser Command
  | 0 => syntaxError "nesting too deep"
  | k + 1 => do
    let n ← pipeline k false false
    andOrRest k n
termination_by structural k => k

/-- Read the rest of an and-or list. -/
def andOrRest : Nat → Command → Parser Command
  | 0, _ => syntaxError "nesting too deep"
  | k + 1, n => do
    let t ← readToken k false false
    if t.isOp .andIf then
      let m ← pipeline k true true
      andOrRest k (.both n m)
    else if t.isOp .orIf then
      let m ← pipeline k true true
      andOrRest k (.either n m)
    else
      modify fun s => { s with pushback := true }
      return n
termination_by structural k _ => k

/-- Read a pipeline, with an optional `!` before it. -/
def pipeline : Nat → Bool → Bool → Parser Command
  | 0, _, _ => syntaxError "nesting too deep"
  | k + 1, kwd, nl => do
    let t ← readToken k kwd nl
    let negated := t.isKeyword "!"
    if !negated then modify fun s => { s with pushback := true }
    let first ← command k negated false
    let t ← readToken k false false
    let stages ← if t.isOp .pipe then stagesFrom k [first] else pure [first]
    modify fun s => { s with pushback := true }
    match stages with
    | [c] => return if negated then .pipeline true [c] else c
    | cs => return .pipeline negated cs
termination_by structural k _ _ => k

/-- Read the commands of a pipeline after a pipe. -/
def stagesFrom : Nat → List Command → Parser (List Command)
  | 0, _ => syntaxError "nesting too deep"
  | k + 1, acc => do
    let c ← command k true true
    let t ← readToken k false false
    if t.isOp .pipe then stagesFrom k (acc ++ [c]) else return acc ++ [c]
termination_by structural k _ => k

/-- **Read a command**: a compound command with its redirections, a function definition or a
simple command. -/
def command : Nat → Bool → Bool → Parser Command
  | 0, _, _ => syntaxError "nesting too deep"
  | k + 1, kwd, nl => do
    let line := (← get).line
    let t ← readToken k kwd nl
    match t with
    | .keyword "if" =>
      let c ← ifRest k
      redirected k line c
    | .keyword "while" =>
      let c ← loopRest k false
      redirected k line c
    | .keyword "until" =>
      let c ← loopRest k true
      redirected k line c
    | .keyword "for" =>
      let c ← forRest k line
      redirected k line c
    | .keyword "case" =>
      let c ← caseRest k line
      redirected k line c
    | .op .lparen =>
      let body ← list k 0
      expect k (.op .rparen) ")"
      let rs ← redirections k true []
      return .subshell line body rs
    | .keyword "\x7b" =>
      let body ← list k 0
      expect k (.keyword "\x7d") "\"\x7d\""
      match body with
      | some b => redirected k line b
      | none => unexpected none
    | .word .. | .redir .. =>
      modify fun s => { s with pushback := true }
      simple k
    | _ => unexpected none
termination_by structural k _ _ => k

/-- Read the closing token of a construct, failing when another stands there. -/
def expect : Nat → Token → String → Parser Unit
  | 0, _, _ => syntaxError "nesting too deep"
  | k + 1, t, name => do
    let u ← readToken k false false
    let same := match t, u with
      | .op a, .op b => a == b
      | .keyword a, .keyword b => a == b
      | _, _ => false
    if !same then unexpected (some (if name == ")" then Op.rparen.name else name))
termination_by structural k _ _ => k

/-- A compound command with the redirections that follow it. -/
def redirected : Nat → Nat → Command → Parser Command
  | 0, _, _ => syntaxError "nesting too deep"
  | k + 1, line, c => do
    let rs ← redirections k true []
    return if rs.isEmpty then c else .redirected line c rs
termination_by structural k _ _ => k

/-- Read the redirections after a compound command; the first token read may be a reserved
word. -/
def redirections : Nat → Bool → List Redirect → Parser (List Redirect)
  | 0, _, _ => syntaxError "nesting too deep"
  | k + 1, kwd, acc => do
    let t ← readToken k kwd false
    match t with
    | .redir fd op =>
      let r ← target k fd op
      redirections k false (acc ++ [r])
    | _ =>
      modify fun s => { s with pushback := true }
      return acc
termination_by structural k _ _ => k

/-- **Read the target of a redirection**: a file name, a descriptor, or a here-document's
delimiter, whose body is then pending. -/
def target : Nat → Option Nat → RedirOp → Parser Redirect
  | 0, _, _ => syntaxError "nesting too deep"
  | k + 1, fd, op => do
    let t ← match op with
      | .here _ => do
        let s ← get
        let t ← if s.pushback then readToken k false false else lexToken k true
        modify fun s => { s with last := t }
        pure t
      | _ => readToken k false false
    match t with
    | .word w q =>
      match op with
      | .here strip =>
        let s ← get
        let n := s.nextDoc
        set { s with nextDoc := n + 1,
                     pending := s.pending ++ [({ number := n, delimiter := w.literal, expand := !q, strip } : Pending)] }
        return .doc (fd.getD 0) n
      | .dupOut | .dupIn =>
        let out := op == .dupOut
        let d := fd.getD (if out then 1 else 0)
        match w with
        | [.plain [c]] =>
          if Bytes.isDigit c then return .dup d out (some (c - 48).toNat)
          else if c == 45 then return .dup d out none
          else return .dupWord d out w
        | _ => return .dupWord d out w
      | .input => return .file (fd.getD 0) .read w
      | .both => return .file (fd.getD 0) .readWrite w
      | .output => return .file (fd.getD 1) .write w
      | .clobber => return .file (fd.getD 1) .clobber w
      | .append => return .file (fd.getD 1) .append w
    | _ => unexpected none
termination_by structural k _ _ => k

/-- Read a simple command, or a function definition. -/
def simple : Nat → Parser Command
  | 0 => syntaxError "nesting too deep"
  | k + 1 => do
    let line := (← get).line
    simpleFrom k line [] [] [] true
termination_by structural k => k

/-- Read the rest of a simple command. -/
def simpleFrom : Nat → Nat → List Word → List Word → List Redirect → Bool → Parser Command
  | 0, _, _, _, _, _ => syntaxError "nesting too deep"
  | k + 1, line, assigns, words, redirs, early => do
    -- a word after the assignments may be an alias
    if early then modify fun s => { s with aliasNext := true }
    let t ← readToken k false false
    match t with
    | .word w _ =>
      if early && isAssignment w then simpleFrom k line (assigns ++ [w]) words redirs true
      else simpleFrom k line assigns (words ++ [w]) redirs false
    | .redir fd op =>
      let r ← target k fd op
      simpleFrom k line assigns words (redirs ++ [r]) early
    | .op .lparen =>
      match words, assigns, redirs with
      | [w], [], [] =>
        let t ← readToken k false false
        if !t.isOp .rparen then unexpected (some Op.rparen.name)
        let name := match w with
          | [.plain b] => if Bytes.isName b then some (Bytes.text b) else none
          | _ => none
        match name with
        | some name =>
          if specialBuiltins.contains name then syntaxError "Bad function name"
          let fline := (← get).line
          let body ← command k true true
          return .function fline name body
        | none => syntaxError "Bad function name"
      | _, _, _ =>
        modify fun s => { s with pushback := true }
        return .simple line assigns words redirs
    | _ =>
      modify fun s => { s with pushback := true }
      return .simple line assigns words redirs
termination_by structural k _ _ _ _ _ => k

/-- Read the rest of an `if` after the keyword. -/
def ifRest : Nat → Parser Command
  | 0 => syntaxError "nesting too deep"
  | k + 1 => do
    let cond ← list k 0
    expect k (.keyword "then") "\"then\""
    let body ← list k 0
    let t ← readToken k false false
    if t.isKeyword "elif" then
      let rest ← ifRest k
      return .ifThen cond body (some rest)
    else if t.isKeyword "else" then
      let other ← list k 0
      expect k (.keyword "fi") "\"fi\""
      return .ifThen cond body other
    else
      modify fun s => { s with pushback := true }
      expect k (.keyword "fi") "\"fi\""
      return .ifThen cond body none
termination_by structural k => k

/-- Read the rest of a `while` or `until` loop after the keyword. -/
def loopRest : Nat → Bool → Parser Command
  | 0, _ => syntaxError "nesting too deep"
  | k + 1, negate => do
    let cond ← list k 0
    expect k (.keyword "do") "\"do\""
    let body ← list k 0
    expect k (.keyword "done") "\"done\""
    return .loop negate cond body
termination_by structural k _ => k

/-- Read the rest of a `for` loop after the keyword. -/
def forRest : Nat → Nat → Parser Command
  | 0, _ => syntaxError "nesting too deep"
  | k + 1, line => do
    let t ← readToken k false false
    let var ← match t with
      | .word [.plain b] false => if Bytes.isName b then pure (Bytes.text b) else syntaxError "Bad for loop variable"
      | _ => syntaxError "Bad for loop variable"
    let t ← readToken k true true
    let items ← if t.isKeyword "in" then do
        let ws ← forWords k []
        let l := (← get).last
        if !(l.isOp .newline || l.isOp .semi) then unexpected none
        pure (some ws)
      else do
        if !t.isOp .semi then modify fun s => { s with pushback := true }
        pure none
    let t ← readToken k true true
    if !t.isKeyword "do" then unexpected (some "\"do\"")
    let body ← list k 0
    expect k (.keyword "done") "\"done\""
    return .forIn line var items body
termination_by structural k _ => k

/-- Read the words of a `for` loop. -/
def forWords : Nat → List Word → Parser (List Word)
  | 0, _ => syntaxError "nesting too deep"
  | k + 1, acc => do
    match ← readToken k false false with
    | .word w _ => forWords k (acc ++ [w])
    | _ => return acc
termination_by structural k _ => k

/-- Read the rest of a `case` after the keyword. -/
def caseRest : Nat → Nat → Parser Command
  | 0, _ => syntaxError "nesting too deep"
  | k + 1, line => do
    let t ← readToken k false false
    let subject ← match t with
      | .word w _ => pure w
      | _ => unexpected (some "word")
    let t ← readToken k true true
    if !t.isKeyword "in" then unexpected (some "\"in\"")
    let t ← readTokenAs k true false true
    let arms ← arms k t []
    return .caseOf line subject arms
termination_by structural k _ => k

/-- Read the arms of a `case`, the first token of the next read. -/
def arms : Nat → Token → List (List Word × Option Command) → Parser (List (List Word × Option Command))
  | 0, _, _ => syntaxError "nesting too deep"
  | k + 1, t, acc => do
    if t.isKeyword "esac" then return acc
    if t.isOp .lparen then discard (readToken k false false)
    let pats ← patterns k [(← get).lastWord]
    if !(← get).last.isOp .rparen then unexpected (some Op.rparen.name)
    let body ← list k 2
    let t ← readTokenAs k true false true
    let acc := acc ++ [(pats, body)]
    if t.isKeyword "esac" then return acc
    if !t.isOp .dsemi then unexpected (some Op.dsemi.name)
    let t ← readTokenAs k true false true
    arms k t acc
termination_by structural k _ _ => k

/-- Read the patterns of an arm after its first. -/
def patterns : Nat → List Word → Parser (List Word)
  | 0, _ => syntaxError "nesting too deep"
  | k + 1, acc => do
    let t ← readToken k false false
    if t.isOp .pipe then
      discard (readToken k false false)
      patterns k (acc ++ [(← get).lastWord])
    else return acc
termination_by structural k _ => k

end

/-- What reading the next command of a script found. -/
inductive Parsed where
  /-- The end of the script. -/
  | eof
  /-- A line with no command. -/
  | empty
  | command (c : Command)
  deriving Inhabited

/-- **Read the next command of a script**, with its here-documents. -/
def nextCommand : Parser Parsed := do
  let fuel := 8 * (← get).rest.length + 64
  let c ← list fuel 1
  let s ← get
  set { s with docs := [] }
  match c with
  | some c => return .command (c.fill s.docs)
  | none => return if s.last.isOp .eof then .eof else .empty

end CrossRef.Shell
