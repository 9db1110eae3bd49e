import CrossRef.Json.Basic
import CrossRef.Json.Writer
/-!
The words of decoding errors.

When a decoder meets a value of the wrong kind it says what it found and what it expected:
``invalid type: integer `5`, expected a string``. A value of the right kind but out of range is
an *invalid value*; a record without a required key reports the *missing field*; a key given
twice reports the *duplicate field*; an enumeration given an unknown name lists the names it
knows.

A string found is shown as a debugging literal: between double quotes, with `"`, `\` and the
control characters escaped (`\n`, `\r`, `\t`, `\0` by name, others as `\u{hex}`), and with the
characters that do not print on their own (C1 controls, format characters, combining marks)
escaped the same way.
-/

namespace CrossRef.Json

/-- What a decoder found, for an error message. -/
inductive Found where
  | null
  | bool (b : Bool)
  | unsigned (n : Nat)
  | signed (i : Int)
  | float (f : Float)
  | string (s : String)
  | sequence
  | map

/-- Characters that are not printed as they are inside a debugging literal. -/
def hiddenChar (n : Nat) : Bool :=
  n < 0x20 || n == 0x7F || (0x80 ≤ n && n < 0xA0) || n == 0xAD ||
  (0x300 ≤ n && n < 0x370) || n == 0x61C || n == 0x180E ||
  (0x200B ≤ n && n < 0x2010) || (0x2028 ≤ n && n < 0x202F) || (0x2060 ≤ n && n < 0x2070) ||
  n == 0xFEFF || (0xFFF9 ≤ n && n < 0xFFFC) || (0xE000 ≤ n && n < 0xF900)

/-- One character of a debugging literal. -/
def debugChar (c : Char) : String :=
  match c with
  | '"' => "\\\""
  | '\\' => "\\\\"
  | '\n' => "\\n"
  | '\r' => "\\r"
  | '\t' => "\\t"
  | '\x00' => "\\0"
  | c =>
    if hiddenChar c.toNat then "\\u" ++ "\x7b" ++ String.ofList (Nat.toDigits 16 c.toNat) ++ "\x7d"
    else c.toString

/-- A string as a debugging literal. -/
def debugQuote (s : String) : String :=
  "\"" ++ String.join (s.toList.map debugChar) ++ "\""

/-- A value between backticks. -/
def ticked (s : String) : String := "`" ++ s ++ "`"

/-- How a found value is named in a message. -/
def Found.describe : Found → String
  | .null => "null"
  | .bool b => "boolean " ++ ticked (if b then "true" else "false")
  | .unsigned n => "integer " ++ ticked (toString n)
  | .signed i => "integer " ++ ticked (toString i)
  | .float f => "floating point " ++ ticked (FloatStyle.json.render f)
  | .string s => "string " ++ debugQuote s
  | .sequence => "sequence"
  | .map => "map"

/-- What a value is, for a message. -/
def Found.ofJson : Json → Found
  | .null => .null
  | .bool b => .bool b
  | .number (.nat n) => .unsigned n
  | .number (.neg i) => .signed i
  | .number (.float f) => .float f
  | .string s => .string s
  | .array _ => .sequence
  | .object _ => .map

/-- What a number is, for a message. -/
def Found.ofNumber : Number → Found
  | .nat n => .unsigned n
  | .neg i => .signed i
  | .float f => .float f

/-- A value of the wrong kind. -/
def invalidType (found : Found) (expected : String) : String :=
  "invalid type: " ++ found.describe ++ ", expected " ++ expected

/-- A value of the right kind but outside what is accepted. -/
def invalidValue (found : Found) (expected : String) : String :=
  "invalid value: " ++ found.describe ++ ", expected " ++ expected

/-- A required key that is absent. -/
def missingField (key : String) : String := "missing field " ++ ticked key

/-- A key that appears twice. -/
def duplicateField (key : String) : String := "duplicate field " ++ ticked key

/-- The list of names an enumeration accepts: one, two joined by "or", or "one of" a list. -/
def expectedNames : List String → String
  | [] => "there are no variants"
  | [a] => ticked a
  | [a, b] => ticked a ++ " or " ++ ticked b
  | names => "one of " ++ ", ".intercalate (names.map ticked)

/-- An enumeration name that is not one of the accepted ones. -/
def unknownVariant (name : String) (names : List String) : String :=
  "unknown variant " ++ ticked name ++ ", expected " ++ expectedNames names

/-- A variant of an enumeration from a value: its name as a string, or a map from its name to
`null`; `ofName` decides the name. -/
def variantOfJson (ofName : String → Except String α) (j : Json) : Except String α :=
  match j with
  | .string s => ofName s
  | .object [(k, v)] => do
    let a ← ofName k
    match v with
    | .null => pure a
    | v => throw (invalidType (Found.ofJson v) "unit")
  | .object _ => .error (invalidValue .map "map with a single key")
  | j => .error (invalidType (Found.ofJson j) "string or map")

end CrossRef.Json
