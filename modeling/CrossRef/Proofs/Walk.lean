import Mathlib
import CrossRef.Proofs.Navigation
/-!
Stepping through occurrences is a clamped walk.

A step moves the index of an exploration one place: forward to the next occurrence but never
past the last, back to the previous one but never before the first (`Direction.clamp`). At either
end the index stays, nothing wraps around, and the step returns nothing; a step that moves returns
the occurrence it moved to. `clampedWalk` runs that rule over a list of directions. It is written
with `min` and truncated subtraction, apart from the guards `Exploration.step` tests.

**Stepping is the walk.** From an index inside the list, one step of the navigator is one move of
the walk (`step_exploring`), and by induction on the directions a run of steps is the whole walk
(`stepAll_exploring`). The run keeps the occurrences, and so the identity explored. Every
exploration a run reaches has its index inside the list, or no occurrences at all
(`reachable_valid`), so the walk describes every exploration that has occurrences.

**Closed forms.** `k` steps forward from `i` among `n` occurrences end at `min (i + k) (n - 1)` and
return `min k (n - 1 - i)` occurrences (`clampedWalk_forward`); `k` steps back end at `i - k` and
return `min k i` (`clampedWalk_back`). Once a step stays, every later step in that direction stays
too (`clampedWalk_stuck`).
-/

namespace CrossRef

namespace Direction

/-- **Where a step moves an index** among `n` occurrences: forward to the next one, but not past
the last; back to the previous one, but not before the first. -/
def clamp (n : Nat) : Direction → Nat → Nat
  | .forward, i => min (i + 1) (n - 1)
  | .back, i => i - 1

/-- A step keeps an index inside the list. -/
theorem clamp_lt {n i : Nat} (d : Direction) (h : i < n) : d.clamp n i < n := by
  cases d <;> simp only [clamp] <;> omega

end Direction

/-- **The clamped walk** over the items `xs` from an index: each direction moves the index as
`Direction.clamp` says and yields the item moved to, or nothing when the index stays. The result
is the index at the end and what each step yielded. -/
def clampedWalk {α : Type} (xs : List α) : Nat → List Direction → Nat × List (Option α)
  | i, [] => (i, [])
  | i, d :: ds =>
    let j := d.clamp xs.length i
    let rest := clampedWalk xs j ds
    (rest.1, (if j = i then none else xs[j]?) :: rest.2)

section Walk

variable {α : Type} (xs : List α)

/-- A walk is its first move, then the walk from there. -/
theorem clampedWalk_cons (i : Nat) (d : Direction) (ds : List Direction) :
    clampedWalk xs i (d :: ds) =
      ((clampedWalk xs (d.clamp xs.length i) ds).1,
        (if d.clamp xs.length i = i then none else xs[d.clamp xs.length i]?) ::
          (clampedWalk xs (d.clamp xs.length i) ds).2) := rfl

/-- An index a step leaves where it is stays there, however often the step is repeated. -/
theorem clampedWalk_stuck {i : Nat} {d : Direction} (h : d.clamp xs.length i = i) (k : Nat) :
    clampedWalk xs i (List.replicate k d) = (i, List.replicate k none) := by
  induction k with
  | zero => rfl
  | succ k ih => rw [List.replicate_succ, clampedWalk_cons, h, ih, if_pos rfl, List.replicate_succ]

/-- **Walking forward** `k` steps from an index inside the list ends at `min (i + k) (n - 1)`, and
yields an item at `min k (n - 1 - i)` of the steps. -/
theorem clampedWalk_forward {i : Nat} (h : i < xs.length) (k : Nat) :
    (clampedWalk xs i (List.replicate k .forward)).1 = min (i + k) (xs.length - 1) ∧
      (clampedWalk xs i (List.replicate k .forward)).2.countP Option.isSome =
        min k (xs.length - 1 - i) := by
  induction k generalizing i with
  | zero => simp only [List.replicate_zero, clampedWalk, List.countP_nil]; omega
  | succ k ih =>
    by_cases hlast : i + 1 < xs.length
    · -- the first step moves to the next item; the rest is a walk from there
      have hj : Direction.forward.clamp xs.length i = i + 1 := by
        simp only [Direction.clamp]; omega
      have hget : xs[i + 1]? = some xs[i + 1] := List.getElem?_eq_getElem hlast
      obtain ⟨hend, hmoves⟩ := ih hlast
      rw [List.replicate_succ, clampedWalk_cons, hj, if_neg (Nat.succ_ne_self i), hget,
        List.countP_cons, hend, hmoves, Option.isSome_some, if_pos rfl]
      omega
    · -- the index is on the last item, where every step forward stays
      have hstay : Direction.forward.clamp xs.length i = i := by
        simp only [Direction.clamp]; omega
      rw [clampedWalk_stuck xs hstay, List.countP_replicate, Option.isSome_none, if_neg (by simp)]
      omega

/-- **Walking back** `k` steps ends at `i - k`, and yields an item at `min k i` of the steps. -/
theorem clampedWalk_back {i : Nat} (h : i < xs.length) (k : Nat) :
    (clampedWalk xs i (List.replicate k .back)).1 = i - k ∧
      (clampedWalk xs i (List.replicate k .back)).2.countP Option.isSome = min k i := by
  induction k generalizing i with
  | zero => simp only [List.replicate_zero, clampedWalk, List.countP_nil]; omega
  | succ k ih =>
    by_cases hfirst : 0 < i
    · -- the first step moves to the previous item; the rest is a walk from there
      have hj : Direction.back.clamp xs.length i = i - 1 := rfl
      have hget : xs[i - 1]? = some xs[i - 1] := List.getElem?_eq_getElem (by omega)
      obtain ⟨hend, hmoves⟩ := ih (i := i - 1) (by omega)
      rw [List.replicate_succ, clampedWalk_cons, hj, if_neg (by omega), hget,
        List.countP_cons, hend, hmoves, Option.isSome_some, if_pos rfl]
      omega
    · -- the index is on the first item, where every step back stays
      have hstay : Direction.back.clamp xs.length i = i := by
        simp only [Direction.clamp]; omega
      rw [clampedWalk_stuck xs hstay, List.countP_replicate, Option.isSome_none, if_neg (by simp)]
      omega

/-- A walk whose first step moves never comes back to where it started. -/
theorem clampedWalk_ne_of_moved {d : Direction} {j : Nat} (hj : j < xs.length)
    (hmove : d.clamp xs.length j ≠ j) (N : Nat) :
    (clampedWalk xs (d.clamp xs.length j) (List.replicate N d)).1 ≠ j := by
  have hlt : d.clamp xs.length j < xs.length := d.clamp_lt hj
  cases d with
  | forward =>
    rw [(clampedWalk_forward xs hlt N).1]
    simp only [Direction.clamp] at hmove ⊢
    omega
  | back =>
    rw [(clampedWalk_back xs hlt N).1]
    simp only [Direction.clamp] at hmove ⊢
    omega

end Walk

namespace Exploration

/-- **One step of an exploration**, from an index inside the list: the move of the clamped walk,
or nothing when the walk stays. -/
theorem step_eq_clamp {e : Exploration} (h : e.index < e.len) (d : Direction) :
    e.step d = if d.clamp e.len e.index = e.index then none
      else some { e with index := d.clamp e.len e.index } := by
  cases d with
  | forward =>
    by_cases hlast : e.index + 1 < e.len
    · have hj : Direction.forward.clamp e.len e.index = e.index + 1 := by
        simp only [Direction.clamp]; omega
      rw [hj, if_neg (Nat.succ_ne_self _), step, if_pos hlast]
    · have hj : Direction.forward.clamp e.len e.index = e.index := by
        simp only [Direction.clamp]; omega
      rw [hj, if_pos rfl, step, if_neg hlast]
  | back =>
    by_cases hfirst : e.index > 0
    · have hj : Direction.back.clamp e.len e.index = e.index - 1 := rfl
      rw [hj, if_neg (by omega), step, if_pos hfirst]
    · have hj : Direction.back.clamp e.len e.index = e.index := by
        simp only [Direction.clamp]; omega
      rw [hj, if_pos rfl, step, if_neg hfirst]

end Exploration

namespace Navigator

/-- Step once for each direction in turn: the navigator at the end, and what each step
returned. -/
def stepAll (n : Navigator) : List Direction → Navigator × List (Option Entity)
  | [] => (n, [])
  | d :: ds =>
    let rest := (n.step d).1.stepAll ds
    (rest.1, (n.step d).2 :: rest.2)

/-- **One step of a navigator** exploring with its index inside the list: the index moves as the
clamped walk says, and the step returns the occurrence moved to, or nothing when it stays. -/
theorem step_exploring {e : Exploration} (h : e.index < e.len) (d : Direction) :
    (exploring e).step d =
      (exploring { e with index := d.clamp e.len e.index },
        if d.clamp e.len e.index = e.index then none
        else e.occurrences.items[d.clamp e.len e.index]?) := by
  rw [step, Exploration.step_eq_clamp h d]
  by_cases hstay : d.clamp e.len e.index = e.index
  · -- a step that stays returns the navigator it was given
    simp only [hstay, if_true]
  · simp only [hstay, if_false, Exploration.current]

/-- **A run of steps is the clamped walk**: from an index inside the list, the navigator ends on
the same occurrences at the walk's last index, and each step returns what the walk yields. -/
theorem stepAll_exploring {e : Exploration} (h : e.index < e.len) (ds : List Direction) :
    (exploring e).stepAll ds =
      (exploring { e with index := (clampedWalk e.occurrences.items e.index ds).1 },
        (clampedWalk e.occurrences.items e.index ds).2) := by
  induction ds generalizing e with
  | nil => rfl
  | cons d ds ih =>
    have hj : d.clamp e.len e.index < e.len := d.clamp_lt h
    rw [stepAll, step_exploring h d]
    -- the rest of the run starts from the moved index, still inside the same list
    rw [ih (e := { e with index := d.clamp e.len e.index }) hj]
    rfl

/-- An idle navigator steps nowhere. -/
theorem stepAll_idle (ds : List Direction) :
    idle.stepAll ds = (idle, List.replicate ds.length none) := by
  induction ds with
  | nil => rfl
  | cons d ds ih =>
    rw [stepAll, List.length_cons, List.replicate_succ]
    simp only [step, ih]

/-- **Stepping through occurrences.** From any exploration with its index inside the list, a run
of steps in any directions is the clamped walk: it ends on the same occurrences, so on the same
identity, at the walk's index, and each step returns the occurrence moved to, or nothing when it
stays at an end. `k` steps forward end at `min (i + k) (n - 1)` and return `min k (n - 1 - i)`
occurrences; `k` steps back end at `i - k` and return `min k i`. An idle navigator stays idle and
returns nothing. -/
theorem stepAll_clamped_walk (e : Exploration) (h : e.index < e.len) :
    (∀ ds, (exploring e).stepAll ds =
      (exploring { e with index := (clampedWalk e.occurrences.items e.index ds).1 },
        (clampedWalk e.occurrences.items e.index ds).2)) ∧
    (∀ ds, ((exploring e).stepAll ds).1.exploredId = some e.id ∧
      ((exploring e).stepAll ds).1.occurrences? = some e.occurrences) ∧
    (∀ k, ((exploring e).stepAll (List.replicate k .forward)).1 =
        exploring { e with index := min (e.index + k) (e.len - 1) } ∧
      ((exploring e).stepAll (List.replicate k .forward)).2.countP Option.isSome =
        min k (e.len - 1 - e.index)) ∧
    (∀ k, ((exploring e).stepAll (List.replicate k .back)).1 =
        exploring { e with index := e.index - k } ∧
      ((exploring e).stepAll (List.replicate k .back)).2.countP Option.isSome =
        min k e.index) ∧
    (∀ ds, idle.stepAll ds = (idle, List.replicate ds.length none)) := by
  refine ⟨stepAll_exploring h, fun ds => ?_, fun k => ?_, fun k => ?_, stepAll_idle⟩
  · rw [stepAll_exploring h ds]
    exact ⟨rfl, rfl⟩
  · obtain ⟨hend, hmoves⟩ := clampedWalk_forward e.occurrences.items h k
    rw [stepAll_exploring h, hend, hmoves]
    exact ⟨rfl, rfl⟩
  · obtain ⟨hend, hmoves⟩ := clampedWalk_back e.occurrences.items h k
    rw [stepAll_exploring h, hend, hmoves]
    exact ⟨rfl, rfl⟩

/-- Three occurrences, the first current. -/
def firstOfThree : Exploration :=
  ⟨(Snapshot.build { analysis := { localUsages := [Snapshot.ghostUsage 1, Snapshot.ghostUsage 2,
    Snapshot.ghostUsage 3] } }).occurrences (.localUsage (Snapshot.ghostUsage 1)), 0⟩

/-- Walking forward from the first of three occurrences: two steps move, the third stays on the
last. -/
theorem stepAll_firstOfThree :
    firstOfThree.index < firstOfThree.len ∧
      ((exploring firstOfThree).stepAll (List.replicate 3 .forward)).1 =
        exploring { firstOfThree with index := 2 } ∧
      ((exploring firstOfThree).stepAll (List.replicate 3 .forward)).2.countP Option.isSome = 2 := by
  have h : firstOfThree.index < firstOfThree.len := by decide
  obtain ⟨-, -, hforward, -⟩ := stepAll_clamped_walk firstOfThree h
  obtain ⟨hend, hmoves⟩ := hforward 3
  refine ⟨h, ?_, ?_⟩
  · rw [hend]
    rfl
  · rw [hmoves]
    decide

end Navigator

end CrossRef
