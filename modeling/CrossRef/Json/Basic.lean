/-!
JSON values as the analyzer exchanges them.

A number keeps the class the reader gave it: an unsigned integer below `2^64`, a negative
integer not below `-2^63`, or a double. The class is visible in every answer (`1` and `1.0` are
different values), so it is part of the value and not a detail of printing.

An object is a list of fields. Objects that come out of the reader are *maps*: their keys are
strictly increasing in code-point order and a repeated key keeps its last value. `insert` is the
operation that builds such a map, and `get?` reads it. Objects that the library writes itself
(request lines, pretty output) keep the field order they are built in.

Main statements: `get?_insert_self` and `get?_insert_ne`, the two laws of the map view.
-/

namespace CrossRef

/-- A JSON number, classified the way the reader classifies it. -/
inductive Number where
  /-- An unsigned integer, below `2^64`. -/
  | nat (n : Nat)
  /-- A negative integer, not below `-2^63`. -/
  | neg (i : Int)
  /-- Any other number, as a double. -/
  | float (f : Float)
  deriving Inhabited

/-- A JSON value. -/
inductive Json where
  | null
  | bool (b : Bool)
  | number (n : Number)
  | string (s : String)
  | array (items : List Json)
  | object (fields : List (String × Json))
  deriving Inhabited

namespace Number

/-- Numbers are equal when they have the same class and value; doubles compare as doubles, so
`0.0` equals `-0.0`. -/
def beq : Number → Number → Bool
  | .nat a, .nat b => a == b
  | .neg a, .neg b => a == b
  | .float a, .float b => a == b
  | _, _ => false

instance : BEq Number := ⟨beq⟩

end Number

namespace Json

mutual
/-- Structural equality of values, numbers compared by `Number.beq`. -/
def beq : Json → Json → Bool
  | .null, .null => true
  | .bool a, .bool b => a == b
  | .number a, .number b => a == b
  | .string a, .string b => a == b
  | .array xs, .array ys => beqItems xs ys
  | .object xs, .object ys => beqFields xs ys
  | _, _ => false

/-- Equality of two item lists, position by position. -/
def beqItems : List Json → List Json → Bool
  | [], [] => true
  | x :: xs, y :: ys => beq x y && beqItems xs ys
  | _, _ => false

/-- Equality of two field lists, position by position. -/
def beqFields : List (String × Json) → List (String × Json) → Bool
  | [], [] => true
  | (k, x) :: xs, (l, y) :: ys => k == l && beq x y && beqFields xs ys
  | _, _ => false
end

instance : BEq Json := ⟨beq⟩

/-- An unsigned integer value. -/
def ofNat (n : Nat) : Json := .number (.nat n)

/-- A value for an optional string: `null` when absent. -/
def ofOption (f : α → Json) : Option α → Json
  | some a => f a
  | none => .null

/-! ## Maps -/

/-- Insert a field into a map: the fields stay in increasing key order, and a key already present
takes the new value. -/
def insert (k : String) (v : Json) : List (String × Json) → List (String × Json)
  | [] => [(k, v)]
  | (k', v') :: rest =>
    if k < k' then (k, v) :: (k', v') :: rest
    else if k = k' then (k, v) :: rest
    else (k', v') :: insert k v rest

/-- The map that a list of fields denotes when later fields win: keys in increasing order. -/
def toMap (fields : List (String × Json)) : List (String × Json) :=
  fields.foldl (fun m kv => insert kv.1 kv.2 m) []

/-- The value under a key: the first field with that key. -/
def lookup (k : String) : List (String × Json) → Option Json
  | [] => none
  | (k', v) :: rest => if k = k' then some v else lookup k rest

/-- The value under a key of an object, or `none` for a missing key or a value that is not an
object. -/
def get? (j : Json) (k : String) : Option Json :=
  match j with
  | .object fields => lookup k fields
  | _ => none

theorem lookup_insert_self (k : String) (v : Json) (m : List (String × Json)) :
    lookup k (insert k v m) = some v := by
  induction m with
  | nil => simp [insert, lookup]
  | cons kv rest ih =>
    obtain ⟨k', v'⟩ := kv
    unfold insert
    by_cases h1 : k < k'
    · simp [h1, lookup]
    · by_cases h2 : k = k'
      · simp [h2, lookup]
      · simp [h1, h2, lookup, ih]

theorem lookup_insert_ne {k j : String} (v : Json) (m : List (String × Json)) (h : j ≠ k) :
    lookup j (insert k v m) = lookup j m := by
  induction m with
  | nil => simp [insert, lookup, h]
  | cons kv rest ih =>
    obtain ⟨k', v'⟩ := kv
    unfold insert
    by_cases h1 : k < k'
    · simp [h1, lookup, h]
    · by_cases h2 : k = k'
      · subst h2; simp [lookup, h]
      · simp [h1, h2, lookup, ih]

/-- **Reading back a write.** The key just inserted reads its new value. -/
theorem get?_insert_self (k : String) (v : Json) (m : List (String × Json)) :
    (Json.object (insert k v m)).get? k = some v :=
  lookup_insert_self k v m

/-- **Other keys are untouched.** Inserting one key leaves every other key's value as it was. -/
theorem get?_insert_ne {k j : String} (v : Json) (m : List (String × Json)) (h : j ≠ k) :
    (Json.object (insert k v m)).get? j = (Json.object m).get? j :=
  lookup_insert_ne v m h

mutual
/-- Sort the keys of every object, at every depth, so that output is independent of the order
in which fields were built. -/
def sortKeys : Json → Json
  | .array xs => .array (sortItems xs)
  | .object fs => .object (toMap (sortFields fs))
  | j => j

/-- `sortKeys` on each item. -/
def sortItems : List Json → List Json
  | [] => []
  | x :: xs => sortKeys x :: sortItems xs

/-- `sortKeys` on each field's value. -/
def sortFields : List (String × Json) → List (String × Json)
  | [] => []
  | (k, x) :: xs => (k, sortKeys x) :: sortFields xs
end

end Json

end CrossRef
