import Mathlib
import CrossRef.Store
/-!
The store of buffers is a finite map.

Callers reach the store through its operations: opening and closing a buffer, replacing its
snapshot, navigating in it, and reading its snapshot, its navigator, whether it is open and how
many buffers are open. The store keeps a list of buffers; what the list stands for is a finite
map from buffer to state (`Store.view`), and each operation is specified against that map
(`BufferMap.apply`): opening adds the entry of an empty snapshot and an idle navigator unless
the buffer has one, closing erases the entry, replacing and navigating change one component of
one entry, and every reading looks the map up.

**The store refines the map.** The list never holds a buffer twice (`Store.Distinct`), so its
length is the map's number of keys, and each operation changes the list as its specification
changes the map, with the same answer (`apply_view`). By induction, every run of operations
from the empty store answers as the map does and leaves a store that stands for the map's final
state (`run_refines_map`). The map's operations on one key leave every other key's entry as it
was, and so, through the view, do the store's.
-/

namespace CrossRef

/-- A finite map from buffer to what the store keeps for it. -/
abbrev BufferMap := Finmap fun _ : Nat => BufferState

namespace Store

/-! ## Operations and runs -/

/-- An operation on the store; navigating runs a function whose result has type `α`. -/
inductive Op (α : Type) where
  | openBuffer (b : Nat)
  | close (b : Nat)
  | replace (b : Nat) (snap : Snapshot)
  | navigate (b : Nat) (f : Snapshot → Navigator → Navigator × α)
  | snapshot (b : Nat)
  | navigator (b : Nat)
  | isOpen (b : Nat)
  | len

/-- What an operation answers. -/
inductive Answer (α : Type) where
  | flag (b : Bool)
  | count (n : Nat)
  | snapshot (s : Option Snapshot)
  | navigator (n : Option Navigator)
  | navigated (r : Option α)

variable {σ α : Type}

/-- Run operations one after another, collecting their answers. -/
def Op.run (apply : σ → Op α → σ × Answer α) (s : σ) : List (Op α) → σ × List (Answer α)
  | [] => (s, [])
  | o :: os =>
    let rest := Op.run apply (apply s o).1 os
    (rest.1, (apply s o).2 :: rest.2)

/-- **One operation on the store.** -/
def apply (s : Store) : Op α → Store × Answer α
  | .openBuffer b => (s.openBuffer b).map id .flag
  | .close b => (s.close b).map id .flag
  | .replace b snap => (s.replace b snap).map id .flag
  | .navigate b f => (s.withNavigator b f).map id .navigated
  | .snapshot b => (s, .snapshot (s.snapshot? b))
  | .navigator b => (s, .navigator (s.navigator? b))
  | .isOpen b => (s, .flag (s.isOpen b))
  | .len => (s, .count s.len)

end Store

namespace BufferMap

/-- **What an operation does to the map of buffers**, and what it answers. -/
def apply (M : BufferMap) : Store.Op α → BufferMap × Store.Answer α
  | .openBuffer b =>
    if b ∈ M then (M, .flag false)
    else (M.insert b ⟨Snapshot.empty, .idle⟩, .flag true)
  | .close b => (M.erase b, .flag (decide (b ∈ M)))
  | .replace b snap =>
    match M.lookup b with
    | some st => (M.insert b { st with snapshot := snap }, .flag true)
    | none => (M, .flag false)
  | .navigate b f =>
    match M.lookup b with
    | some st =>
      let (n, a) := f st.snapshot st.navigator
      (M.insert b { st with navigator := n }, .navigated (some a))
    | none => (M, .navigated none)
  | .snapshot b => (M, .snapshot ((M.lookup b).map (·.snapshot)))
  | .navigator b => (M, .navigator ((M.lookup b).map (·.navigator)))
  | .isOpen b => (M, .flag (decide (b ∈ M)))
  | .len => (M, .count M.keys.card)

end BufferMap

namespace Store

/-- The map a store stands for: each buffer to its first entry. -/
def view (s : Store) : BufferMap :=
  (s.buffers.map fun e => (⟨e.1, e.2⟩ : Σ _ : Nat, BufferState)).toFinmap

/-- No buffer has two entries. -/
def Distinct (s : Store) : Prop := (s.buffers.map (·.1)).Nodup

/-! ## Looking a buffer up -/

theorem dlookup_map_sigma (l : List (Nat × BufferState)) (b : Nat) :
    (l.map fun e => (⟨e.1, e.2⟩ : Σ _ : Nat, BufferState)).dlookup b =
      (l.find? (·.1 = b)).map (·.2) := by
  induction l with
  | nil => rfl
  | cons e l ih =>
    obtain ⟨k, st⟩ := e
    by_cases h : k = b
    · subst h
      simp [List.dlookup_cons_eq]
    · rw [List.map_cons, List.dlookup_cons_ne _ _ (Ne.symm h), ih]
      simp [h]

/-- The view looks a buffer up as the store does. -/
@[simp]
theorem lookup_view (s : Store) (b : Nat) : s.view.lookup b = s.get? b := by
  rw [view, Finmap.dlookup_list_toFinmap, dlookup_map_sigma, get?]

theorem get?_isSome_iff (s : Store) (b : Nat) :
    (s.get? b).isSome ↔ b ∈ s.buffers.map (·.1) := by
  simp [get?, List.find?_isSome]

theorem isOpen_iff_mem (s : Store) (b : Nat) : s.isOpen b = true ↔ b ∈ s.buffers.map (·.1) := by
  simp [isOpen, List.any_eq_true]

/-- A buffer is open exactly when the view has it. -/
theorem isOpen_eq (s : Store) (b : Nat) : s.isOpen b = decide (b ∈ s.view) := by
  have hmem : b ∈ s.view ↔ b ∈ s.buffers.map (·.1) := by
    rw [← Finmap.lookup_isSome, lookup_view, get?_isSome_iff]
  rw [Bool.eq_iff_iff, decide_eq_true_iff, hmem, isOpen_iff_mem]

theorem get?_append_new (s : Store) (b b' : Nat) (st : BufferState) (h : s.isOpen b = false) :
    get? ⟨s.buffers ++ [(b, st)]⟩ b' = if b' = b then some st else s.get? b' := by
  have hnone : s.buffers.find? (·.1 = b) = none := by
    have : s.get? b = none := by
      rw [← lookup_view, Finmap.lookup_eq_none, ← decide_eq_false_iff_not, ← isOpen_eq, h]
    simpa [get?] using this
  simp only [get?, List.find?_append, List.find?_cons, List.find?_nil]
  split_ifs with hb
  · subst hb; simp [hnone]
  · cases s.buffers.find? (·.1 = b') <;> simp [Ne.symm hb]

theorem get?_close (s : Store) (b b' : Nat) :
    (s.close b).1.get? b' = if b' = b then none else s.get? b' := by
  simp only [close, get?, List.find?_filter]
  split_ifs with hb
  · -- no entry kept has the closed buffer
    subst hb
    simp
  · -- an entry of the buffer looked up is never dropped
    have hkeep : (fun e : Nat × BufferState => decide (decide (e.1 ≠ b) = true ∧
        decide (e.1 = b') = true)) = fun e => decide (e.1 = b') := by
      funext e
      by_cases he : e.1 = b' <;> simp [he, hb]
    rw [hkeep]

theorem get?_modify (s : Store) (b b' : Nat) (f : BufferState → BufferState) :
    (s.modify b f).get? b' = if b' = b then (s.get? b).map f else s.get? b' := by
  have hkey : ∀ e : Nat × BufferState, (if e.1 = b then (e.1, f e.2) else e).1 = e.1 := by
    intro e; split <;> rfl
  simp only [modify, get?, List.find?_map, Function.comp_def, hkey, Option.map_map]
  by_cases hb : b' = b
  · subst hb
    simp only [if_true]
    -- the entry found is of the buffer changed
    cases hfind : s.buffers.find? (·.1 = b') with
    | none => rfl
    | some e =>
      have he : e.1 = b' := by simpa using List.find?_some hfind
      simp [he]
  · simp only [hb, if_false]
    cases hfind : s.buffers.find? (·.1 = b') with
    | none => rfl
    | some e =>
      have he : e.1 = b' := by simpa using List.find?_some hfind
      simp [he, hb]

/-! ## What each operation does to the view -/

/-- Opening a buffer that is not open adds its entry; opening an open one changes nothing. -/
theorem view_openBuffer (s : Store) (b : Nat) :
    (s.openBuffer b).1.view =
      if b ∈ s.view then s.view else s.view.insert b ⟨Snapshot.empty, .idle⟩ := by
  by_cases hb : b ∈ s.view
  · simp [openBuffer, isOpen_eq, hb]
  · have hclosed : s.isOpen b = false := by simp [isOpen_eq, hb]
    simp only [openBuffer, hclosed, hb, Bool.false_eq_true, if_false]
    refine Finmap.ext_lookup fun b' => ?_
    rw [lookup_view, get?_append_new _ _ _ _ hclosed]
    by_cases hb' : b' = b
    · subst hb'; simp
    · simp [hb', Finmap.lookup_insert_of_ne _ hb']

/-- Closing a buffer erases its entry. -/
theorem view_close (s : Store) (b : Nat) : (s.close b).1.view = s.view.erase b := by
  refine Finmap.ext_lookup fun b' => ?_
  rw [lookup_view, get?_close]
  by_cases hb' : b' = b
  · subst hb'; simp
  · simp [hb', Finmap.lookup_erase_ne hb']

/-- Changing an open buffer's state changes its entry and nothing else. -/
theorem view_modify (s : Store) (b : Nat) (f : BufferState → BufferState) :
    (s.modify b f).view =
      match s.view.lookup b with
      | some st => s.view.insert b (f st)
      | none => s.view := by
  refine Finmap.ext_lookup fun b' => ?_
  rw [lookup_view, get?_modify, lookup_view]
  by_cases hb' : b' = b
  · subst hb'
    cases hst : s.get? b' <;> simp [hst]
  · cases hst : s.get? b <;> simp [hb', Finmap.lookup_insert_of_ne _ hb']

/-- Entries stay distinct: opening adds only a buffer that is not open, closing drops entries and
changing an entry keeps its buffer. -/
theorem distinct_apply {s : Store} (h : s.Distinct) (o : Op α) : (s.apply o).1.Distinct := by
  have hmodify : ∀ b f, (s.modify b f).Distinct := by
    intro b f
    simpa [Distinct, modify, Function.comp_def, apply_ite] using h
  cases o with
  | openBuffer b =>
    simp only [apply, openBuffer, Prod.map_fst, id_eq]
    split
    · exact h
    · next hopen =>
      rw [isOpen_iff_mem] at hopen
      simpa [Distinct] using h.concat hopen
  | close b => exact (List.Sublist.map _ List.filter_sublist).nodup h
  | replace b snap =>
    simp only [apply, replace, Prod.map_fst, id_eq]
    split
    · exact hmodify _ _
    · exact h
  | navigate b f =>
    simp only [apply, withNavigator, Prod.map_fst, id_eq]
    split
    · exact h
    · exact hmodify _ _
  | snapshot | navigator | isOpen | len => exact h

/-- With distinct entries, the store has as many entries as the view has keys. -/
theorem len_eq_card {s : Store} (h : s.Distinct) : s.len = s.view.keys.card := by
  have hkeys : s.view.keys = (s.buffers.map (·.1)).toFinset := by
    ext b
    rw [Finmap.mem_keys, ← Finmap.lookup_isSome, lookup_view, get?_isSome_iff,
      List.mem_toFinset]
  rw [hkeys, List.toFinset_card_of_nodup h, List.length_map, len]

/-- **One operation refines the map's.** -/
theorem apply_view {s : Store} (h : s.Distinct) (o : Op α) :
    (s.apply o).1.view = (BufferMap.apply s.view o).1 ∧
      (s.apply o).2 = (BufferMap.apply s.view o).2 := by
  cases o with
  | openBuffer b =>
    have hview := view_openBuffer s b
    by_cases hb : b ∈ s.view <;> simp_all [apply, openBuffer, BufferMap.apply, isOpen_eq]
  | close b =>
    simp only [apply, BufferMap.apply, Prod.map_fst, Prod.map_snd, id_eq, view_close]
    simp [close, isOpen_eq]
  | replace b snap =>
    simp only [apply, replace, BufferMap.apply, isOpen_eq, Prod.map_fst, Prod.map_snd, id_eq]
    cases hst : s.view.lookup b with
    | none =>
      have hb : b ∉ s.view := Finmap.lookup_eq_none.1 hst
      simp [hb]
    | some st =>
      have hb : b ∈ s.view := Finmap.lookup_isSome.1 (by rw [hst]; rfl)
      simp [hb, view_modify, hst]
  | navigate b f =>
    simp only [apply, withNavigator, BufferMap.apply, ← lookup_view]
    cases hst : s.view.lookup b with
    | none => simp
    | some st => simp [view_modify, hst]
  | snapshot b => simp [apply, BufferMap.apply, snapshot?]
  | navigator b => simp [apply, BufferMap.apply, navigator?]
  | isOpen b => simp [apply, BufferMap.apply, isOpen_eq]
  | len => simp [apply, BufferMap.apply, len_eq_card h]

/-- Every run from a store with distinct entries answers as the map does from its view. -/
theorem run_view {s : Store} (h : s.Distinct) (ops : List (Op α)) :
    (Op.run apply s ops).1.view = (Op.run BufferMap.apply s.view ops).1 ∧
      (Op.run apply s ops).2 = (Op.run BufferMap.apply s.view ops).2 := by
  induction ops generalizing s with
  | nil => exact ⟨rfl, rfl⟩
  | cons o ops ih =>
    obtain ⟨hview, hanswer⟩ := apply_view h o
    obtain ⟨hrun, hrest⟩ := ih (distinct_apply h o)
    simp only [Op.run]
    rw [hrun, hview, hrest, hanswer, hview]
    exact ⟨rfl, rfl⟩

/-- **The store behaves as a finite map.** Every run of operations from the empty store gives
the answers the map gives from the empty map, and ends in a store that stands for the map's
final state. -/
theorem run_refines_map (ops : List (Op α)) :
    (Op.run apply {} ops).2 = (Op.run BufferMap.apply ∅ ops).2 ∧
      (Op.run apply {} ops).1.view = (Op.run BufferMap.apply ∅ ops).1 := by
  have hempty : ({} : Store).view = ∅ := Finmap.toFinmap_nil
  obtain ⟨hview, hanswers⟩ := run_view (s := {}) List.nodup_nil ops
  rw [hempty] at hview hanswers
  exact ⟨hanswers, hview⟩

end Store

end CrossRef
