import CrossRef.Json.Basic
import CrossRef.Decimal.Shortest
/-!
Writing JSON text: compact lines and the indented form.

Strings are written between double quotes with `"` and `\` escaped, the five short escapes
`\n \r \t \b \f`, and every other control character below `0x20` as `\u00xx` in lowercase hex;
everything else, non-ASCII included, is written as it is.

A double is written with its shortest round-trip digits (`Decimal.shortest`). Whether it is
written positionally or with an exponent is the format's own decision, kept in one record,
`FloatStyle.json`: positionally when the exponent of the leading digit is in `[-5, 16)`, with
`.0` after a whole number, and otherwise as `d.ddde+x` or `d.ddde-x`. A double that is not finite
has no JSON form and is written `null`.

The indented form puts every item and field on a line of its own, two spaces deeper than its
container, with `": "` after a key; empty containers stay `[]` and `{}`.
-/

namespace CrossRef.Json

open CrossRef.Decimal

/-- The choices a float printer makes once its digits are known. -/
structure FloatStyle where
  /-- Least exponent of the leading digit that is written positionally. -/
  positionalFrom : Int
  /-- Exponents of the leading digit from this one on take the exponent form. -/
  positionalBelow : Int
  /-- The mark between digits and exponent. -/
  mark : String
  /-- Whether a non-negative exponent carries a `+`. -/
  plusSign : Bool

/-- Doubles in this library's JSON: positional for leading exponents in `[-5, 16)`, else
`1.5e-7`, `1e+100`. -/
def FloatStyle.json : FloatStyle :=
  { positionalFrom := -5, positionalBelow := 16, mark := "e", plusSign := true }

/-- `n` zeros. -/
def zeros (n : Nat) : String := String.ofList (List.replicate n '0')

/-- A positive decimal in a style: `digits · 10^exponent` with `digits` free of trailing
zeros. -/
def FloatStyle.decimal (st : FloatStyle) (d : Scientific) : String :=
  let ds := digitString d.digits
  let lead : Int := d.exponent + (ds.length : Int) - 1
  if st.positionalFrom ≤ lead ∧ lead < st.positionalBelow then
    if d.exponent ≥ 0 then ds ++ zeros d.exponent.toNat ++ ".0"
    else if lead ≥ 0 then
      let whole := (lead + 1).toNat
      String.ofList (ds.toList.take whole) ++ "." ++ String.ofList (ds.toList.drop whole)
    else "0." ++ zeros (-lead - 1).toNat ++ ds
  else
    let first := String.ofList (ds.toList.take 1)
    let rest := String.ofList (ds.toList.drop 1)
    let mantissa := if rest.isEmpty then first else first ++ "." ++ rest
    let sign := if lead < 0 then "-" else if st.plusSign then "+" else ""
    mantissa ++ st.mark ++ sign ++ toString lead.natAbs

/-- A finite double in a style; zero keeps its sign. -/
def FloatStyle.render (st : FloatStyle) (f : Float) : String :=
  let b := Binary.ofBits f.toBits
  let sign := if b.negative then "-" else ""
  if b.mantissa = 0 then sign ++ "0.0"
  else sign ++ st.decimal (shortest b)

/-- The text of a double in JSON: `null` when it is not finite. -/
def floatText (f : Float) : String :=
  if f.isFinite then FloatStyle.json.render f else "null"

/-- The text of a number. -/
def numberText : Number → String
  | .nat n => toString n
  | .neg i => toString i
  | .float f => floatText f

/-- Four lowercase hex digits. -/
def hex4 (n : Nat) : String :=
  let d := Nat.toDigits 16 n
  zeros (4 - d.length) ++ String.ofList d

/-- One character of a string's body. -/
def escapeChar (c : Char) : String :=
  match c with
  | '"' => "\\\""
  | '\\' => "\\\\"
  | '\n' => "\\n"
  | '\r' => "\\r"
  | '\t' => "\\t"
  | '\x08' => "\\b"
  | '\x0c' => "\\f"
  | c => if c.toNat < 0x20 then "\\u" ++ hex4 c.toNat else c.toString

/-- A string as a JSON string literal. -/
def quote (s : String) : String :=
  "\"" ++ String.join (s.toList.map escapeChar) ++ "\""

mutual
/-- The compact text of a value, fields in their given order. -/
def render : Json → String
  | .null => "null"
  | .bool b => if b then "true" else "false"
  | .number n => numberText n
  | .string s => quote s
  | .array xs => "[" ++ renderItems xs ++ "]"
  | .object fs => "\x7b" ++ renderFields fs ++ "\x7d"

/-- Items separated by commas. -/
def renderItems : List Json → String
  | [] => ""
  | [x] => render x
  | x :: xs => render x ++ "," ++ renderItems xs

/-- Fields separated by commas. -/
def renderFields : List (String × Json) → String
  | [] => ""
  | [(k, x)] => quote k ++ ":" ++ render x
  | (k, x) :: xs => quote k ++ ":" ++ render x ++ "," ++ renderFields xs
end

/-- Two spaces per level. -/
def indent (depth : Nat) : String := String.ofList (List.replicate (2 * depth) ' ')

mutual
/-- The indented text of a value at a depth. -/
def pretty (depth : Nat) : Json → String
  | .array [] => "[]"
  | .array xs => "[\n" ++ prettyItems (depth + 1) xs ++ "\n" ++ indent depth ++ "]"
  | .object [] => "\x7b\x7d"
  | .object fs => "\x7b\n" ++ prettyFields (depth + 1) fs ++ "\n" ++ indent depth ++ "\x7d"
  | j => render j

/-- Items one per line at a depth. -/
def prettyItems (depth : Nat) : List Json → String
  | [] => ""
  | [x] => indent depth ++ pretty depth x
  | x :: xs => indent depth ++ pretty depth x ++ ",\n" ++ prettyItems depth xs

/-- Fields one per line at a depth. -/
def prettyFields (depth : Nat) : List (String × Json) → String
  | [] => ""
  | [(k, x)] => indent depth ++ quote k ++ ": " ++ pretty depth x
  | (k, x) :: xs => indent depth ++ quote k ++ ": " ++ pretty depth x ++ ",\n" ++ prettyFields depth xs
end

/-- The indented text of a value. -/
def renderPretty (j : Json) : String := pretty 0 j

end CrossRef.Json
