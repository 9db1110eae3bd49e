import CrossRef.Toml.Parse
import CrossRef.Config.Basic
import CrossRef.Error
/-!
Reading the configuration from TOML.

Every part of the configuration has defaults, so any table may leave out any key, and keys the
configuration does not know are passed over. A record (`analyzer`, `analysis`) may be given as a
table, or as an array holding its fields in order (`mode`, `address`, `command`); a date-time
reads as a record whose one key is unknown, so as the defaults. A mode or an event is a string
naming it, or a table with exactly that name as its only key and an empty table or array under
it. Lists are arrays, or arrays of tables.

An error of decoding names what was found (``integer `3` ``, `string "x"`, `sequence`, `map`)
and what was expected, and points at the value it is about, or at its key when the value has no
place of its own (a table made by a dotted key). Floats found are written as decimals, always
with a point.

A text that is not valid TOML, or that does not decode, gives `Error.tomlParse` with the report
of `Toml.Diagnostic.render`.
-/

namespace CrossRef

open Toml

namespace ConfigText

/-- Decoding results. -/
abbrev Decode := Except Diagnostic

/-- A failure at a range. -/
def fail {α : Type} (message : String) (span : Option Range) : Decode α := .error { message, span }

/-- Place a failure at a range unless it has a place already. -/
def within {α : Type} (span : Option Range) (d : Decode α) : Decode α :=
  d.mapError fun e => if e.span.isSome then e else { e with span }

/-- A failure under a key: at the value, or at the key when the value has no place. -/
def underKey {α : Type} (k : Key) (v : Item) (d : Decode α) : Decode α :=
  (within (v.span?.orElse fun _ => some k.span) d).mapError fun e => { e with keys := k.name :: e.keys }

/-- A double as written in a message: positional, with a point, or `inf`, `-inf`, `NaN`. -/
def floatText (f : Float) : String :=
  if f.isNaN then "NaN"
  else if f.isInf then (if f < 0 then "-inf" else "inf")
  else
    ({ positionalFrom := -400, positionalBelow := 400, mark := "e", plusSign := false } : Json.FloatStyle).render f

/-- How a value is named when it is of the wrong kind. -/
def found : Item → String
  | .string s _ => "string " ++ Json.debugQuote s
  | .integer i _ => "integer " ++ Json.ticked (toString i)
  | .float f _ => "floating point " ++ Json.ticked (floatText f)
  | .boolean b _ => "boolean " ++ Json.ticked (if b then "true" else "false")
  | .array .. | .tables .. => "sequence"
  | .datetime .. | .table .. => "map"

/-- A value of the wrong kind. -/
def invalid {α : Type} (item : Item) (expected : String) : Decode α :=
  fail ("invalid type: " ++ found item ++ ", expected " ++ expected) none

/-- **A string.** -/
def string (item : Item) : Decode String :=
  within item.span? <|
    match item with
    | .string s _ => pure s
    | other => invalid other "a string"

/-- **A list**, of an array's items or an array of tables' tables. -/
def list {α : Type} (item : Item) (each : Item → Decode α) : Decode (List α) :=
  within item.span? <|
    match item with
    | .array xs _ | .tables xs _ => xs.mapM fun x => within x.span? (each x)
    | other => invalid other "a sequence"

/-- The value under a variant's name, which must be empty. -/
def unitValue (v : Item) : Decode Unit :=
  match v with
  | .tables xs span => if xs.isEmpty then pure () else fail "expected empty array" span
  | .array xs span => if xs.isEmpty then pure () else fail "expected empty array" (some span)
  | .table _ es span => if es.isEmpty then pure () else fail "expected empty table" span
  | other => fail ("expected table, found " ++ other.typeName) other.span?

/-- A variant from a table that should hold exactly its name. -/
def variantEntry {α : Type} (ofName : String → Except String α) (es : Entries) (span : Option Range) :
    Decode α :=
  match es with
  | [] => fail "wanted exactly 1 element, found 0 elements" span
  | [(k, v)] => do
    let a ← (ofName k.name).mapError fun m => ({ message := m, span := some k.span, keys := [k.name] } : Diagnostic)
    unitValue v
    pure a
  | _ => fail "wanted exactly 1 element, more than 1 element" span

/-- **A variant of an enumeration**: its name, or a table holding only its name. -/
def variant {α : Type} (ofName : String → Except String α) (item : Item) : Decode α :=
  within item.span? <|
    match item with
    | .string s _ => (ofName s).mapError fun m => ({ message := m } : Diagnostic)
    | .table _ es span => variantEntry ofName es span
    | other => fail "wanted string or table" other.span?

/-- How one field of a record is decoded into it. -/
abbrev Field (α : Type) := String × (Item → α → Decode α)

/-- **A record** with defaults: from a table by key, unknown keys passed over; from an array by
position, missing fields left at their defaults. -/
def record {α : Type} (name : String) (default : α) (fields : List (Field α)) (item : Item) : Decode α :=
  within item.span? <|
    match item with
    | .table _ es _ => es.foldlM (fun acc (k, v) =>
        match fields.lookup k.name with
        | some set => underKey k v (set v acc)
        | none => pure acc) default
    | .datetime .. => pure default
    | .array xs _ | .tables xs _ =>
      (fields.zip xs).foldlM (fun acc ((_, set), x) => within x.span? (set x acc)) default
    | other => invalid other ("struct " ++ name)

/-- A mode by name. -/
def modeOfName (s : String) : Except String AnalyzerMode :=
  match s with
  | "socket" => .ok .socket
  | "subprocess" => .ok .subprocess
  | _ => .error (Json.unknownVariant s ["socket", "subprocess"])

/-- The analyzer's part of the configuration. -/
def analyzer (item : Item) : Decode AnalyzerConfig :=
  record "AnalyzerConfig" {} [
    ("mode", fun v c => do return { c with mode := ← variant modeOfName v }),
    ("address", fun v c => do return { c with address := ← string v }),
    ("command", fun v c => do return { c with command := ← list v string })] item

/-- The analysis part of the configuration. -/
def analysis (item : Item) : Decode AnalysisConfig :=
  record "AnalysisConfig" {} [
    ("analyze_on", fun v c => do return { c with analyzeOn := ← list v (variant EditorEvent.ofName) })] item

/-- **The configuration** of a document's root table. -/
def config (root : Entries) : Decode Config :=
  record "Config" {} [
    ("analyzer", fun v c => do return { c with analyzer := ← analyzer v }),
    ("analysis", fun v c => do return { c with analysis := ← analysis v })] (.table (.std false false) root none)

end ConfigText

/-- **Read the configuration from TOML text.** -/
def Config.ofToml (text : String) : Except Error Config :=
  match Toml.parse text >>= ConfigText.config with
  | .ok c => .ok c
  | .error d => .error (.tomlParse (d.render text))

end CrossRef
