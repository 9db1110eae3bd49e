import Mathlib
import CrossRef.Entity
/-!
When an entity equals itself.

Entities are compared field by field, and the values kept in a record's extra fields are
compared as JSON: numbers by class and value, doubles as doubles. Double equality is not
reflexive, since `NaN` differs from itself, so neither is the equality of entities. Nothing
else stands in the way: an entity whose extra fields hold no `NaN` equals itself
(`Entity.beq_self`). JSON text has no spelling for `NaN`, and the number reader makes none, so
every entity read from an analyzer's answer is of this kind
(`Response.entities_nanFree_of_decode`).

The comparison is also not the identity of values (`0.0` equals `-0.0`), so what is proved
here is stated with `==` and not with `=`: looking an entity up in a list finds an item equal
to it in this sense.
-/

namespace CrossRef

/-- A double other than `NaN` equals itself. -/
theorem float_beq_self (f : Float) (h : f.isNaN = false) : (f == f) = true := by
  change f.toModel.unpack.beq f.toModel.unpack = true
  change f.toModel.unpack.isNaN = false at h
  -- a double equals itself when comparing it with itself gives `eq`: every class but `NaN`
  cases hu : f.toModel.unpack with
  | notANumber => simp [hu, Float.Model.UnpackedFloat.isNaN] at h
  | infinity s => cases s <;> rfl
  | zero s => cases s <;> rfl
  | finite s m e hm =>
    cases s <;> simp [Float.Model.UnpackedFloat.beq, Float.Model.UnpackedFloat.compare]

namespace Json

mutual
/-- No double in a value is `NaN`. -/
def NaNFree : Json → Prop
  | .number (.float f) => f.isNaN = false
  | .array xs => ItemsNaNFree xs
  | .object fs => FieldsNaNFree fs
  | _ => True

/-- No double in a list of values is `NaN`. -/
def ItemsNaNFree : List Json → Prop
  | [] => True
  | x :: xs => NaNFree x ∧ ItemsNaNFree xs

/-- No double in the values of a list of fields is `NaN`. -/
def FieldsNaNFree : List (String × Json) → Prop
  | [] => True
  | (_, x) :: xs => NaNFree x ∧ FieldsNaNFree xs
end

mutual
/-- **A value without `NaN` equals itself.** -/
theorem beq_self : ∀ j : Json, j.NaNFree → beq j j = true
  | .null, _ => by simp [beq]
  | .bool b, _ => by simp [beq]
  | .number (.nat n), _ => by simp [beq, BEq.beq, Number.beq]
  | .number (.neg n), _ => by simp [beq, BEq.beq, Number.beq]
  | .number (.float f), h => by
    simp only [beq, BEq.beq, Number.beq]
    exact float_beq_self f h
  | .string s, _ => by simp [beq]
  | .array xs, h => by simp only [beq]; exact beqItems_self xs h
  | .object fs, h => by simp only [beq]; exact beqFields_self fs h

theorem beqItems_self : ∀ xs : List Json, ItemsNaNFree xs → beqItems xs xs = true
  | [], _ => by simp [beqItems]
  | x :: xs, ⟨hx, hxs⟩ => by simp [beqItems, beq_self x hx, beqItems_self xs hxs]

theorem beqFields_self : ∀ fs : List (String × Json), FieldsNaNFree fs → beqFields fs fs = true
  | [], _ => by simp [beqFields]
  | (_, x) :: xs, ⟨hx, hxs⟩ => by simp [beqFields, beq_self x hx, beqFields_self xs hxs]
end

end Json

/-- Extra fields without `NaN` equal themselves. -/
theorem extra_beq_self (fs : Extra) (h : Json.FieldsNaNFree fs) : (fs == fs) = true := by
  induction fs with
  | nil => rfl
  | cons kv fs ih =>
    obtain ⟨k, x⟩ := kv
    obtain ⟨hx, hfs⟩ := h
    have hxx : (x == x) = true := Json.beq_self x hx
    have hkx : ((k, x) == (k, x)) = true := by
      change (k == k && x == x) = true
      simp [hxx]
    simp only [List.cons_beq_cons, hkx, ih hfs, Bool.and_self]

namespace Entity

/-- The extra fields of an entity's record. -/
def extra : Entity → Extra
  | .localUsage u => u.extra
  | .varUsage u => u.extra
  | .localBinding b => b.extra
  | .varDefinition d => d.extra
  | .namespaceUsage u => u.extra
  | .namespaceDefinition d => d.extra

/-- No double in an entity's extra fields is `NaN`. -/
def NaNFree (t : Entity) : Prop := Json.FieldsNaNFree t.extra

/-- **An entity without `NaN` equals itself.** Every other field is compared by a lawful
equality, so only the extra fields need the hypothesis. -/
theorem beq_self (t : Entity) (h : t.NaNFree) : (t == t) = true := by
  have hx : (t.extra == t.extra) = true := extra_beq_self _ h
  -- each record compares its fields in order, the extra fields last
  cases t with
  | localUsage u =>
    show (u.id == u.id && (u.name == u.name && (u.extent == u.extent && u.extra == u.extra))) = true
    simpa [extra] using hx
  | varUsage u =>
    show (u.source == u.source && (u.target == u.target && (u.name == u.name &&
      (u.nsAlias == u.nsAlias && (u.refer == u.refer && (u.extent == u.extent &&
        u.extra == u.extra)))))) = true
    simpa [extra] using hx
  | localBinding b =>
    show (b.id == b.id && (b.name == b.name && (b.extent == b.extent &&
      (b.scopeEndRow == b.scopeEndRow && (b.scopeEndCol == b.scopeEndCol &&
        b.extra == b.extra))))) = true
    simpa [extra] using hx
  | varDefinition d =>
    show (d.ns == d.ns && (d.name == d.name && (d.definedBy == d.definedBy &&
      (d.extent == d.extent && d.extra == d.extra)))) = true
    simpa [extra] using hx
  | namespaceUsage u =>
    show (u.source == u.source && (u.target == u.target && (u.nsAlias == u.nsAlias &&
      (u.extent == u.extent && u.extra == u.extra)))) = true
    simpa [extra] using hx
  | namespaceDefinition d =>
    show (d.name == d.name && (d.extent == d.extent && d.extra == d.extra)) = true
    simpa [extra] using hx

/-- Equal entities are of the same kind. -/
theorem kind_eq_of_beq {a b : Entity} (h : (a == b) = true) : a.kind = b.kind := by
  cases a <;> cases b <;> first | rfl | exact absurd h Bool.false_ne_true

/-- Equal entities are both definitions or both usages. -/
theorem isDefinition_eq_of_beq {a b : Entity} (h : (a == b) = true) :
    a.isDefinition = b.isDefinition := by
  have hk := kind_eq_of_beq h
  cases a <;> cases b <;> simp_all [kind, isDefinition]

end Entity

end CrossRef
