import CrossRef.Record.Basic
import CrossRef.Json.Reader.Value
/-!
How a record is decoded, once for both ways of reading it.

A record is read either from a value already parsed (`Schema.ofJson`) or straight from JSON text
(`Schema.read`). The two differ in what they see, not in what they decide: the value's keys come
in increasing order without repeats, the text's in the order written and possibly repeated, and
only the text has places to report errors at. The decisions are shared and fixed by a schema:

1. Each key is taken in turn. A key that names one of the record's own fields is read with that
   field's reader at once, and a key read before is a *duplicate field*; the first failure is the
   answer. Every other key is set aside with its value.
2. When the keys are done, a required field that never came is a *missing field*, the first in
   the record's own field order.
3. The extent is then read from the keys set aside, in their order, with the same rules: its own
   keys in turn, a repeat an error, then a missing `row`, then a missing `col`.
4. What is still set aside is the record's extra map, the last of repeated keys winning.

A field reader is written once against `Source`, the small set of scalar readers, and runs in
both ways of reading.
-/

-- `^` on numbers is core's `NatPow` power here, also where Mathlib's monoid power is in scope.
attribute [local instance (high)] instPowNat

namespace CrossRef.Record

open CrossRef.Json

/-- The scalar readers that fields are built from. -/
class Source (m : Type → Type) where
  u32 : m Nat
  u64 : m Nat
  string : m String
  bool : m Bool
  level : m Level
  optional {α : Type} : m α → m (Option α)

/-- One field of a record under construction `P`: its key, whether it must be given, the slot of
`P` it fills and how its value is read. `get` tells what the slot holds, nothing until the field
is read, and `put` fills it. -/
structure Field (P : Type) where
  key : String
  required : Bool
  /-- What the field holds once read. -/
  Value : Type
  get : P → Option Value
  put : P → Value → P
  reader : {m : Type → Type} → [Monad m] → [Source m] → m Value

namespace Field

/-- Whether the field has been read. -/
def isSet (f : Field P) (p : P) : Bool := (f.get p).isSome

/-- Read the field into its slot. -/
def read {m : Type → Type} [Monad m] [Source m] (f : Field P) (p : P) : m P := do
  return f.put p (← f.reader)

end Field

/-- The level of a name. -/
def levelOfName (s : String) : Except String Level :=
  match s with
  | "error" => .ok .error
  | "warning" => .ok .warning
  | "info" => .ok .info
  | _ => .error (unknownVariant s ["error", "warning", "info"])

/-! ## Reading from a value -/

/-- Reading a field from a value. -/
abbrev FromJson := ReaderT Json (Except String)

/-- An unsigned integer below a bound, from a value. -/
def unsignedOfJson (bound : Nat) (expected : String) (j : Json) : Except String Nat :=
  match j with
  | .number n => Reader.acceptBelow bound expected n
  | j => .error (invalidType (Found.ofJson j) expected)

/-- A level from a value: its name, or a map of its name to `null`. -/
def levelOfJson (j : Json) : Except String Level := variantOfJson levelOfName j

instance : Source FromJson where
  u32 := fun j => unsignedOfJson (2 ^ (32 : Nat)) "u32" j
  u64 := fun j => unsignedOfJson (2 ^ (64 : Nat)) "u64" j
  string := fun j =>
    match j with
    | .string s => .ok s
    | j => .error (invalidType (Found.ofJson j) "a string")
  bool := fun j =>
    match j with
    | .bool b => .ok b
    | j => .error (invalidType (Found.ofJson j) "a boolean")
  level := fun j => levelOfJson j
  optional r := fun j =>
    match j with
    | .null => .ok none
    | j => (r.run j).map some

/-! ## Reading from text -/

/-- Reading a field from text, with the nesting budget left. -/
abbrev FromText := ReaderT Nat Reader

instance : Source FromText where
  u32 := fun _ => Reader.u32
  u64 := fun _ => Reader.u64
  string := fun _ => Reader.text
  bool := fun _ => Reader.boolean
  level := fun d => Reader.enumeration d levelOfName
  optional r := fun d => Reader.optional (r.run d)

/-! ## Schemas -/

/-- The first field with a key. -/
def findField (fields : List (Field P)) (k : String) : Option (Field P) :=
  fields.find? (·.key == k)

/-- The first required field that was not read. -/
def firstMissing (fields : List (Field P)) (p : P) : Option String :=
  (fields.find? fun f => f.required && !f.isSet p).map (·.key)

/-- An extent under construction: for each field, whether it was read and its value. -/
structure ExtentParts where
  filename : Option (Option String) := none
  row : Option Nat := none
  col : Option Nat := none
  endRow : Option (Option Nat) := none
  endCol : Option (Option Nat) := none
  nameRow : Option (Option Nat) := none
  nameCol : Option (Option Nat) := none
  nameEndRow : Option (Option Nat) := none
  nameEndCol : Option (Option Nat) := none

/-- An optional 32-bit field of an extent. -/
def optionalRow (key : String) (get : ExtentParts → Option (Option Nat))
    (put : ExtentParts → Option Nat → ExtentParts) : Field ExtentParts :=
  { key, required := false, Value := Option Nat, get, put,
    reader := Source.optional Source.u32 }

/-- The fields of an extent, in their order. -/
def extentFields : List (Field ExtentParts) :=
  [ { key := "filename", required := false, Value := Option String, get := (·.filename),
      put := fun p v => { p with filename := some v },
      reader := Source.optional Source.string },
    { key := "row", required := true, Value := Nat, get := (·.row),
      put := fun p v => { p with row := some v }, reader := Source.u32 },
    { key := "col", required := true, Value := Nat, get := (·.col),
      put := fun p v => { p with col := some v }, reader := Source.u32 },
    optionalRow "end-row" (·.endRow) fun p v => { p with endRow := some v },
    optionalRow "end-col" (·.endCol) fun p v => { p with endCol := some v },
    optionalRow "name-row" (·.nameRow) fun p v => { p with nameRow := some v },
    optionalRow "name-col" (·.nameCol) fun p v => { p with nameCol := some v },
    optionalRow "name-end-row" (·.nameEndRow) fun p v => { p with nameEndRow := some v },
    optionalRow "name-end-col" (·.nameEndCol) fun p v => { p with nameEndCol := some v } ]

/-- The keys an extent takes. -/
def extentKeys : List String := extentFields.map (·.key)

/-- Read fields from entries: each entry whose key is a field's is read, a repeat being an
error; the others are kept, in order. -/
def takeFields (fields : List (Field P)) :
    P → List (String × Json) → Except String (P × List (String × Json))
  | p, [] => .ok (p, [])
  | p, (k, v) :: rest =>
    match findField fields k with
    | some f =>
      if f.isSet p then .error (duplicateField k)
      else do
        let p ← (f.read (m := FromJson) p).run v
        takeFields fields p rest
    | none => do
      let (p, kept) ← takeFields fields p rest
      pure (p, (k, v) :: kept)

/-- The extent that an extent under construction gives once its `row` and `col` are read: an
optional field read as `null` is absent, as is one not read. -/
def ExtentParts.extent (p : ExtentParts) (row col : Nat) : Extent :=
  { filename := p.filename.join, row, col, endRow := p.endRow.join, endCol := p.endCol.join,
    nameRow := p.nameRow.join, nameCol := p.nameCol.join, nameEndRow := p.nameEndRow.join,
    nameEndCol := p.nameEndCol.join }

/-- **The extent of a record**, from the entries its own fields did not take, and what is left
of them. -/
def extentOfEntries (entries : List (String × Json)) :
    Except String (Extent × List (String × Json)) := do
  let (p, rest) ← takeFields extentFields {} entries
  match p.row, p.col with
  | none, _ => throw (missingField "row")
  | _, none => throw (missingField "col")
  | some row, some col => pure (p.extent row col, rest)

/-- How a kind of record `R` is decoded, through records under construction `P`. -/
structure Schema (P R : Type) where
  /-- The record's name in messages. -/
  name : String
  /-- Nothing read yet. -/
  empty : P
  /-- The record's own fields, in their order. -/
  fields : List (Field P)
  /-- The record from its parts, its extent and its extra map; only called once every required
  field was read. -/
  build : P → Extent → Extra → R

namespace Schema

/-- Steps 2 to 4: the required fields, the extent and the extra map. -/
def finish (s : Schema P R) (p : P) (setAside : List (String × Json)) : Except String R := do
  if let some k := firstMissing s.fields p then throw (missingField k)
  let (e, rest) ← extentOfEntries setAside
  pure (s.build p e (Json.toMap rest))

/-- **Decode a record from a value.** -/
def ofJson (s : Schema P R) (j : Json) : Except String R :=
  match j with
  | .object entries => do
    let (p, setAside) ← takeFields s.fields s.empty entries
    s.finish p setAside
  | j => .error (invalidType (Found.ofJson j) ("struct " ++ s.name))

/-- One entry of a record's text: a field read at once, or a value set aside. -/
def entry (s : Schema P R) (depth : Nat) (acc : P × List (String × Json)) (k : String) :
    Reader (P × List (String × Json)) := do
  let (p, setAside) := acc
  match findField s.fields k with
  | some f =>
    if f.isSet p then Reader.failValue (duplicateField k)
    else
      Reader.colon
      let p ← (f.read (m := FromText) p).run depth
      pure (p, setAside)
  | none =>
    Reader.colon
    let v ← Reader.anyValue depth
    pure (p, (k, v) :: setAside)

/-- **Decode a record from text**, with the nesting budget left. -/
def read (s : Schema P R) (depth : Nat) : Reader R :=
  Reader.object depth ("struct " ++ s.name) fun d => do
    let (p, setAside) ← Reader.entries (s.empty, []) (s.entry d)
    match s.finish p setAside.reverse with
    | .ok r => pure r
    | .error m => Reader.failValue m

end Schema

end CrossRef.Record
