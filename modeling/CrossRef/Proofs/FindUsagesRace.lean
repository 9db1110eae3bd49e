import Mathlib
import CrossRef.Session
import CrossRef.Proofs.StoreMap
/-!
Finding usages while other callers change the store.

`findUsages` reads the buffer's snapshot twice: once to find the entity under the cursor, and
once more to list that entity's occurrences. Each read, and each operation of another caller, is
one atomic step on the store; the two reads together are not. Interleavings are runs of store
operations, in real-time order: `before` runs before the first read and `between` between the
two (`findUsagesAmid`). With nothing around the call it is `findUsages` itself.

**One snapshot when the buffer keeps it.** Operations that neither open, close nor replace the
buffer leave its snapshot as it is (`snapshot?_apply_of_quiet`): navigating changes only its
navigator, and every other operation touches other buffers or only reads. So when no such
operation falls between the two reads, the answer is nothing, or the occurrences in the snapshot
the buffer holds at the first read of the entity under the cursor in that same snapshot
(`findUsagesAmid_single_snapshot`).

**A re-analysis between the reads mixes two snapshots.** The entity is then found in the old
analysis and its occurrences listed in the new one. A binding with one usage, replaced by an
empty analysis between the reads, comes back with no usage, an answer that neither snapshot the
buffer held gives (`findUsages_mixes_snapshots`).
-/

namespace CrossRef

namespace Store

variable {α : Type}

/-- An operation that can change a buffer's snapshot: opening, closing or replacing it. -/
def Op.touches (b : Nat) : Op α → Bool
  | .openBuffer b' | .close b' | .replace b' _ => b' == b
  | _ => false

/-- The stores a run passes through, the first and the last included. -/
def Op.trace (s : Store) : List (Op α) → List Store
  | [] => [s]
  | o :: os => s :: Op.trace (s.apply o).1 os

/-- An operation that does not touch a buffer leaves its snapshot as it was. -/
theorem snapshot?_apply_of_quiet (s : Store) (o : Op α) (b : Nat) (h : o.touches b = false) :
    (s.apply o).1.snapshot? b = s.snapshot? b := by
  cases o with
  | openBuffer b' =>
    have hb : b ≠ b' := fun e => by simp [Op.touches, e] at h
    simp only [snapshot?, apply, openBuffer, Prod.map_fst, id_eq]
    split
    · rfl
    · next hopen => rw [get?_append_new _ _ _ _ (by simpa using hopen), if_neg hb]
  | close b' =>
    have hb : b ≠ b' := fun e => by simp [Op.touches, e] at h
    simp [snapshot?, apply, get?_close, hb]
  | replace b' snap =>
    have hb : b ≠ b' := fun e => by simp [Op.touches, e] at h
    simp only [snapshot?, apply, replace, Prod.map_fst, id_eq]
    split
    · rw [get?_modify, if_neg hb]
    · rfl
  | navigate b' f =>
    simp only [snapshot?, apply, withNavigator, Prod.map_fst, id_eq]
    split
    · rfl
    · -- navigating changes the navigator of its buffer and nothing else
      rw [get?_modify]
      split_ifs <;> simp_all
  | snapshot | navigator | isOpen | len => rfl

/-- A run of operations none of which touches a buffer leaves its snapshot as it was. -/
theorem snapshot?_run_of_quiet (s : Store) (ops : List (Op α)) (b : Nat)
    (h : ∀ o ∈ ops, o.touches b = false) :
    (Op.run apply s ops).1.snapshot? b = s.snapshot? b := by
  induction ops generalizing s with
  | nil => rfl
  | cons o ops ih =>
    simp only [Op.run]
    rw [ih _ fun o' ho' => h o' (List.mem_cons_of_mem o ho'),
      snapshot?_apply_of_quiet s o b (h o List.mem_cons_self)]

end Store

namespace Session

variable {α : Type}

/-- The session once some operations have run on its store. -/
def afterOps (s : Session) (ops : List (Store.Op α)) : Session :=
  { s with store := (Store.Op.run Store.apply s.store ops).1 }

/-- **Finding usages amid other callers**: `before` runs before the first read of the buffer's
snapshot, `between` between the first and the second. -/
def findUsagesAmid (s : Session) (before between : List (Store.Op α)) (b : Nat) (q : Span) :
    Option Occurrences :=
  let first := s.afterOps before
  (first.entityAt b q).bind ((first.afterOps between).occurrencesIn b)

/-- The snapshots a buffer holds from the start of a run to its end. -/
def heldSnapshots (s : Session) (ops : List (Store.Op α)) (b : Nat) : List Snapshot :=
  (Store.Op.trace s.store ops).filterMap (·.snapshot? b)

/-- With no other caller around, the call is `findUsages`. -/
theorem findUsagesAmid_nil (s : Session) (b : Nat) (q : Span) :
    s.findUsagesAmid ([] : List (Store.Op α)) [] b q = s.findUsages b q := rfl

theorem trace_append (s : Store) (xs ys : List (Store.Op α)) :
    Store.Op.trace s (xs ++ ys) =
      (Store.Op.trace s xs).dropLast ++ Store.Op.trace (Store.Op.run Store.apply s xs).1 ys := by
  induction xs generalizing s with
  | nil => simp [Store.Op.trace, Store.Op.run]
  | cons o xs ih =>
    cases xs with
    | nil => simp [Store.Op.trace, Store.Op.run]
    | cons o' xs =>
      simp only [List.cons_append, Store.Op.trace, Store.Op.run] at ih ⊢
      rw [ih]
      simp

/-- The buffer's snapshot when the operations `before` have run is one it holds during the
operations `before ++ between`. -/
theorem snapshot?_mem_heldSnapshots (s : Session) (before between : List (Store.Op α)) (b : Nat)
    {snap : Snapshot} (h : (s.afterOps before).store.snapshot? b = some snap) :
    snap ∈ s.heldSnapshots (before ++ between) b := by
  rw [heldSnapshots, trace_append, List.mem_filterMap]
  refine ⟨(s.afterOps before).store, List.mem_append_right _ ?_, h⟩
  cases between <;> simp [Store.Op.trace, afterOps]

/-- **Finding usages reads one snapshot when the buffer keeps it.** If no operation between the
two reads opens, closes or replaces the buffer, the answer is nothing, or the occurrences in a
snapshot the buffer holds of the entity under the span in that same snapshot. -/
theorem findUsagesAmid_single_snapshot (s : Session) (before between : List (Store.Op α))
    (b : Nat) (q : Span) (hquiet : ∀ o ∈ between, o.touches b = false) :
    s.findUsagesAmid before between b q = none ∨
      ∃ snap ∈ s.heldSnapshots (before ++ between) b, ∃ t, snap.entityAt q = some t ∧
        s.findUsagesAmid before between b q = some (snap.occurrences t) := by
  have hsame : ((s.afterOps before).afterOps between).store.snapshot? b =
      (s.afterOps before).store.snapshot? b :=
    Store.snapshot?_run_of_quiet _ between b hquiet
  cases hsnap : (s.afterOps before).store.snapshot? b with
  | none => simp [findUsagesAmid, entityAt, hsnap]
  | some snap =>
    cases ht : snap.entityAt q with
    | none => simp [findUsagesAmid, entityAt, hsnap, ht]
    | some t =>
      refine .inr ⟨snap, snapshot?_mem_heldSnapshots s before between b hsnap, t, ht, ?_⟩
      simp [findUsagesAmid, entityAt, occurrencesIn, hsnap, ht, hsame]

/-- Navigating in the buffer and replacing another one between the two reads leave the answer
to the snapshot the buffer holds. -/
theorem findUsages_amid_navigation :
    let s : Session := { store := ⟨[(1, { snapshot := Snapshot.build { analysis :=
      { locals := [⟨1, "x", .ofBounds 1 7 1 8, none, none, []⟩],
        localUsages := [⟨1, "x", .ofBounds 2 3 2 4, []⟩] } } })]⟩ }
    let between : List (Store.Op Unit) := [.navigate 1 fun _ n => (n, ()), .replace 2 Snapshot.empty]
    let q := Span.point ⟨1, 7⟩
    (∀ o ∈ between, o.touches 1 = false) ∧
      (s.findUsagesAmid [] between 1 q = none ∨
        ∃ snap ∈ s.heldSnapshots ([] ++ between) 1, ∃ t, snap.entityAt q = some t ∧
          s.findUsagesAmid [] between 1 q = some (snap.occurrences t)) := by
  intro s between q
  exact ⟨by decide, findUsagesAmid_single_snapshot s [] between 1 q (by decide)⟩

/-- **A re-analysis between the two reads mixes two snapshots.** The buffer holds a binding with
one usage when the entity is found; an empty analysis replaces it before the occurrences are
listed, and the answer is the binding alone. No snapshot the buffer held gives that answer: the
first lists the usage too, and the second has nothing under the cursor. -/
theorem findUsages_mixes_snapshots :
    let first := Snapshot.build { analysis :=
      { locals := [⟨1, "x", .ofBounds 1 7 1 8, none, none, []⟩],
        localUsages := [⟨1, "x", .ofBounds 2 3 2 4, []⟩] } }
    let s : Session := { store := ⟨[(1, { snapshot := first })]⟩ }
    let between : List (Store.Op Unit) := [.replace 1 Snapshot.empty]
    let q := Span.point ⟨1, 7⟩
    (s.findUsagesAmid [] between 1 q).isSome ∧
      ∀ snap ∈ s.heldSnapshots ([] ++ between) 1, ∀ t, snap.entityAt q = some t →
        s.findUsagesAmid [] between 1 q ≠ some (snap.occurrences t) := by
  intro first s between q
  refine ⟨by decide, ?_⟩
  intro snap hsnap t ht hanswer
  have hlength : (s.findUsagesAmid [] between 1 q).map (·.items.length) = some 1 := by decide
  -- the buffer held the first analysis, then the empty one
  have hheld : s.heldSnapshots ([] ++ between) 1 = [first, Snapshot.empty] := rfl
  rw [hheld, List.mem_pair] at hsnap
  rcases hsnap with rfl | rfl
  · have hfound :
        first.entityAt q = some (.localBinding ⟨1, "x", .ofBounds 1 7 1 8, none, none, []⟩) := rfl
    rw [hfound, Option.some_inj] at ht
    subst ht
    have hboth : (first.occurrences
        (.localBinding ⟨1, "x", .ofBounds 1 7 1 8, none, none, []⟩)).items.length = 2 := by decide
    rw [hanswer, Option.map_some, hboth] at hlength
    cases hlength
  · have hnothing : Snapshot.empty.entityAt q = none := rfl
    rw [hnothing] at ht
    cases ht

end Session

end CrossRef
