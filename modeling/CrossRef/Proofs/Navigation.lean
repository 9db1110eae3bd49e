import Mathlib
import CrossRef.Navigator
import CrossRef.Proofs.Occurrences
/-!
What a navigator reaches, run after run.

A navigator is driven by three operations: exploring an entity of some snapshot, stepping
forward or back, and resetting. `Navigator.Reachable ok` is the set of navigators a run from
idle reaches when every explored snapshot and entity satisfies `ok`.

**The index stays in range.** Exploring writes the index in two ways: the explored entity's
place among the occurrences, or an old index kept. A new exploration clamps the old index to its
own list; an exploration of the same identity keeps its list and so its bound. Stepping moves
only within the list. So every exploring navigator of every run has its index below the number
of occurrences, or both are zero (`reachable_valid`), whatever is explored, also entities of
no snapshot at all.

**Landing on the explored entity.** Among the entities of one built snapshot, a new
exploration starts from the explored entity's own occurrences and lands on it. An exploration of
the same identity keeps the list it started with, which holds every usage of the identity but
only one definition, the one that leads it. So the navigator lands on the explored entity
unless that entity is a definition other than the leading one, a second definition of the same
key (`explore_lands_iff`). Landing is found by comparing, so the entity is asked to hold no `NaN`,
as every entity read from an analyzer's answer does (`Response.entities_nanFree_of_decode`).
-/

namespace CrossRef

namespace Occurrences

/-- The place an entity is found at holds an item equal to it. -/
theorem getElem?_positionOf {o : Occurrences} {t : Entity} {i : Nat}
    (h : o.positionOf t = some i) : ∃ c, o.items[i]? = some c ∧ (c == t) = true := by
  obtain ⟨hi, hc, -⟩ := List.findIdx?_eq_some_iff_getElem.1 h
  exact ⟨o.items[i], by simp [hi], hc⟩

/-- An entity is found exactly when some item equals it. -/
theorem positionOf_isSome_iff {o : Occurrences} {t : Entity} :
    (o.positionOf t).isSome ↔ o.items.any (· == t) = true := by
  rw [positionOf, List.findIdx?_isSome]

end Occurrences

namespace Exploration

/-- A step of an exploration keeps its occurrences. -/
theorem occurrences_of_step {e e' : Exploration} {d : Direction} (h : e.step d = some e') :
    e'.occurrences = e.occurrences := by
  cases d <;> simp only [step] at h <;> split at h <;> cases h <;> rfl

/-- **The index is in range**: it points at an occurrence, or there are none and it is
zero. -/
def Valid (e : Exploration) : Prop := e.index < e.len ∨ (e.len = 0 ∧ e.index = 0)

/-- A step moves the index only within the occurrences. -/
theorem valid_of_step {e e' : Exploration} {d : Direction} (he : e.Valid)
    (h : e.step d = some e') : e'.Valid := by
  cases d <;> simp only [step] at h <;> split at h <;> cases h <;> simp only [Valid, len] at * <;>
    omega

/-- Landing on an entity's place, or else on any index kept within the list, is in range. -/
theorem valid_of_positionOf (o : Occurrences) (t : Entity) (previous : Nat) :
    Valid { occurrences := o, index := (o.positionOf t).getD (min previous (o.items.length - 1)) } := by
  unfold Valid len
  cases h : o.positionOf t with
  | none => simp only [Option.getD_none]; omega
  | some i =>
    obtain ⟨c, hc, -⟩ := Occurrences.getElem?_positionOf h
    exact .inl (List.getElem?_eq_some_iff.1 hc).1

/-- After moving to an entity's place, or keeping an index when it has none, the current
occurrence equals the entity exactly when some occurrence does. -/
theorem current_any_beq (o : Occurrences) (t : Entity) (i : Nat) :
    (Exploration.mk o ((o.positionOf t).getD i)).current.any (· == t) = o.items.any (· == t) := by
  cases hp : o.positionOf t with
  | none =>
    have hall : ∀ x ∈ o.items, (x == t) = false := List.findIdx?_eq_none_iff.1 hp
    have hany : o.items.any (· == t) = false :=
      List.any_eq_false.2 fun x hx => by simp [hall x hx]
    rw [hany, Option.getD_none]
    -- whatever is current is an occurrence, and none equals the entity
    cases hc : o.items[i]? with
    | none => simp [current, hc]
    | some c => simp [current, hc, hall c (List.mem_of_getElem? hc)]
  | some j =>
    obtain ⟨c, hc, hct⟩ := Occurrences.getElem?_positionOf hp
    have hany : o.items.any (· == t) = true :=
      Occurrences.positionOf_isSome_iff.1 (by simp [hp])
    simp [current, hc, hct, hany]

/-- With the index in range, there is a current occurrence exactly when there are any. -/
theorem current_isSome_iff {e : Exploration} (he : e.Valid) :
    e.current.isSome ↔ e.occurrences.items ≠ [] := by
  simp only [Valid, len] at he
  rw [current, Option.isSome_iff_ne_none, ne_eq, List.getElem?_eq_none_iff, ne_eq,
    ← List.length_eq_zero_iff]
  omega

/-- With the index in range, the next index is at most the number of occurrences, or one. -/
theorem index_succ_le {e : Exploration} (he : e.Valid) : e.index + 1 ≤ max e.len 1 := by
  unfold Valid at he
  omega

end Exploration

namespace Navigator

/-- The navigators reached from idle by exploring only what `ok` allows, stepping and
resetting. -/
inductive Reachable (ok : Snapshot → Entity → Prop) : Navigator → Prop
  | idle : Reachable ok .idle
  | explore {n : Navigator} {s : Snapshot} {t : Entity} :
      Reachable ok n → ok s t → Reachable ok (n.explore s t).1
  | step {n : Navigator} (d : Direction) : Reachable ok n → Reachable ok (n.step d).1
  | reset {n : Navigator} : Reachable ok n → Reachable ok n.reset

/-- The occurrences being explored. -/
def occurrences? (n : Navigator) : Option Occurrences := n.exploration?.map (·.occurrences)

/-- The first of the occurrences being explored. -/
def leading (n : Navigator) : Option Entity := n.occurrences?.bind (·.items.head?)

/-! ## One operation -/

section Explore

variable (s : Snapshot) (t : Entity)

/-- Exploring an entity of the identity under way only moves the index. -/
theorem explore_of_id_eq {e : Exploration} (h : e.id = s.identity t) :
    (exploring e).explore s t =
      (.exploring { e with index := (e.occurrences.positionOf t).getD e.index }, false) := by
  simp [explore, h]

/-- Exploring an entity of another identity, or from idle, starts over from its occurrences.
The index is the entity's place there, or else the previous index kept within the list. -/
theorem explore_of_exploredId_ne {n : Navigator} (h : n.exploredId ≠ some (s.identity t)) :
    n.explore s t =
      (.exploring
        { occurrences := s.occurrences t
          index := ((s.occurrences t).positionOf t).getD
            (min ((n.exploration?.map (·.index)).getD 0) ((s.occurrences t).items.length - 1)) },
        true) := by
  cases n with
  | idle => rfl
  | exploring e =>
    have hne : e.id ≠ s.identity t := fun heq => h (by simp [exploredId, exploration?, heq])
    simp [explore, explore.start, hne, exploration?]

/-- **What exploring does**: with the identity under way, it keeps the list and moves the index
to the entity when it is there; otherwise it starts over from the entity's occurrences. -/
theorem explore_cases (n : Navigator) :
    (∃ e, n = .exploring e ∧ e.id = s.identity t ∧
      n.explore s t =
        (.exploring { e with index := (e.occurrences.positionOf t).getD e.index }, false)) ∨
    (n.exploredId ≠ some (s.identity t) ∧
      n.explore s t =
        (.exploring
          { occurrences := s.occurrences t
            index := ((s.occurrences t).positionOf t).getD
              (min ((n.exploration?.map (·.index)).getD 0) ((s.occurrences t).items.length - 1)) },
          true)) := by
  by_cases hid : n.exploredId = some (s.identity t)
  · cases n with
    | idle => simp [exploredId, exploration?] at hid
    | exploring e =>
      have he : e.id = s.identity t := by simpa [exploredId, exploration?] using hid
      exact .inl ⟨e, rfl, he, explore_of_id_eq s t he⟩
  · exact .inr ⟨hid, explore_of_exploredId_ne s t hid⟩

/-- Exploring always ends on the explored entity's identity. -/
theorem exploredId_explore (n : Navigator) :
    (n.explore s t).1.exploredId = some (s.identity t) := by
  rcases explore_cases s t n with ⟨e, rfl, he, h⟩ | ⟨-, h⟩
  · rw [h]
    exact congrArg some he
  · rw [h]
    rfl

/-- Exploring starts over exactly when idle or on another identity. -/
theorem explore_started_iff (n : Navigator) :
    (n.explore s t).2 = true ↔ n.exploredId ≠ some (s.identity t) := by
  rcases explore_cases s t n with ⟨e, rfl, he, h⟩ | ⟨hne, h⟩
  · simp [h, exploredId, exploration?, he]
  · simp [h, hne]

/-- Starting over explores the entity's occurrences. -/
theorem occurrences?_explore_of_started {n : Navigator} (h : (n.explore s t).2 = true) :
    (n.explore s t).1.occurrences? = some (s.occurrences t) := by
  rcases explore_cases s t n with ⟨e, rfl, -, he⟩ | ⟨-, he⟩
  · rw [he] at h; cases h
  · simp [he, occurrences?, exploration?]

/-- Not starting over keeps the occurrences under way. -/
theorem occurrences?_explore_of_not_started {n : Navigator} (h : (n.explore s t).2 = false) :
    (n.explore s t).1.occurrences? = n.occurrences? := by
  rcases explore_cases s t n with ⟨e, rfl, -, he⟩ | ⟨-, he⟩
  · simp [he, occurrences?, exploration?]
  · rw [he] at h; cases h

/-- Exploring moves to the entity exactly when it is among the occurrences then explored. -/
theorem current_any_beq_explore (n : Navigator) :
    (n.explore s t).1.current.any (· == t) =
      (n.explore s t).1.occurrences?.any (·.items.any (· == t)) := by
  rcases explore_cases s t n with ⟨e, rfl, -, h⟩ | ⟨-, h⟩ <;> rw [h]
  · exact Exploration.current_any_beq e.occurrences t e.index
  · exact Exploration.current_any_beq _ t _

end Explore

/-- The identity explored is that of the occurrences explored. -/
theorem exploredId_eq (n : Navigator) : n.exploredId = n.occurrences?.map (·.id) := by
  cases n <;> rfl

/-- Stepping keeps the occurrences being explored. -/
theorem occurrences?_step (n : Navigator) (d : Direction) :
    (n.step d).1.occurrences? = n.occurrences? := by
  cases n with
  | idle => rfl
  | exploring e =>
    cases h : e.step d with
    | none => simp [step, h]
    | some e' => simp [step, h, occurrences?, exploration?, Exploration.occurrences_of_step h]

/-! ## The index stays in range -/

/-- Idle, or exploring with the index in range. -/
def Valid : Navigator → Prop
  | .idle => True
  | .exploring e => e.Valid

theorem valid_explore {n : Navigator} (hn : n.Valid) (s : Snapshot) (t : Entity) :
    (n.explore s t).1.Valid := by
  rcases explore_cases s t n with ⟨e, rfl, -, h⟩ | ⟨-, h⟩
  · rw [h]
    -- the list is kept: the entity's place, or the old index, is in range
    cases hp : e.occurrences.positionOf t with
    | none => simpa [Valid, hp] using hn
    | some i =>
      obtain ⟨c, hc, -⟩ := Occurrences.getElem?_positionOf hp
      exact .inl (by simpa [hp, Exploration.len] using (List.getElem?_eq_some_iff.1 hc).1)
  · rw [h]
    exact Exploration.valid_of_positionOf _ t _

theorem valid_step {n : Navigator} (hn : n.Valid) (d : Direction) : (n.step d).1.Valid := by
  cases n with
  | idle => trivial
  | exploring e =>
    cases h : e.step d with
    | none => simpa [step, h] using hn
    | some e' => simpa [step, h, Valid] using Exploration.valid_of_step hn h

/-- **Every navigator a run reaches has its index in range**, whatever it explores. -/
theorem reachable_valid {ok : Snapshot → Entity → Prop} {n : Navigator}
    (h : n.Reachable ok) : n.Valid := by
  induction h with
  | idle => trivial
  | explore _ _ ih => exact valid_explore ih _ _
  | step d _ ih => exact valid_step ih d
  | reset _ => trivial

/-- **In every exploration a run reaches, the index is in range**, exploring any entity of any
snapshot: it is below the number of occurrences, or both are zero. So there is a current
occurrence exactly when there are occurrences, and the index plus one never exceeds the number
of occurrences (or one). -/
theorem reachable_index_in_range {e : Exploration}
    (h : (exploring e).Reachable (fun _ _ => True)) :
    (e.index < e.len ∨ (e.len = 0 ∧ e.index = 0)) ∧
    (e.current.isSome ↔ e.occurrences.items ≠ []) ∧ e.index + 1 ≤ max e.len 1 :=
  have he : e.Valid := reachable_valid h
  ⟨he, Exploration.current_isSome_iff he, Exploration.index_succ_le he⟩

/-- The exploration of a usage that the empty snapshot does not have: no occurrences, index
zero. -/
def absentExploration : Exploration :=
  ⟨Snapshot.empty.occurrences (.localUsage (Snapshot.ghostUsage 1)), 0⟩

/-- Exploring a usage in a snapshot without it gives no occurrences and the index zero. -/
theorem reachable_index_in_range_of_absent :
    (exploring absentExploration).Reachable (fun _ _ => True) ∧
    (absentExploration.index < absentExploration.len ∨
      (absentExploration.len = 0 ∧ absentExploration.index = 0)) ∧
    (absentExploration.current.isSome ↔ absentExploration.occurrences.items ≠ []) ∧
    absentExploration.index + 1 ≤ max absentExploration.len 1 := by
  have h : (exploring absentExploration).Reachable (fun _ _ => True) :=
    Reachable.explore (s := Snapshot.empty) (t := .localUsage (Snapshot.ghostUsage 1))
      Reachable.idle trivial
  exact ⟨h, reachable_index_in_range h⟩

/-! ## Landing on the explored entity -/

section Landing

variable (r : Report)

/-- Among the occurrences of an entity of the analysis, an entity of the same identity is found
exactly when it is a usage, or it is the definition leading them. -/
theorem any_beq_items_occurrences {t' t : Entity} (ht' : t' ∈ r.analysis.entities)
    (ht : t ∈ r.analysis.entities) (hnan : t.NaNFree)
    (hid : (Snapshot.build r).identity t' = (Snapshot.build r).identity t) :
    ((Snapshot.build r).occurrences t').items.any (· == t) = true ↔
      t.isDefinition = false ∨
        ((Snapshot.build r).occurrences t').items.head?.any (· == t) = true := by
  rw [Snapshot.items_occurrences r t' ht']
  cases hd : t.isDefinition
  · -- a usage of the identity is among the usages listed
    have hmem : t ∈ (Snapshot.build r).analysis.usages.filter
        ((Snapshot.build r).identity · = (Snapshot.build r).identity t') :=
      List.mem_filter.2 ⟨Analysis.mem_usages_of_mem_entities ht hd, by simp [hid]⟩
    simp only [true_or, iff_true]
    exact List.any_eq_true.2 ⟨t, List.mem_append_right _ hmem, t.beq_self hnan⟩
  · -- a definition equals no usage, so only the leading item can equal it
    have hus : ∀ u ∈ (Snapshot.build r).analysis.usages.filter
        ((Snapshot.build r).identity · = (Snapshot.build r).identity t'), (u == t) = false := by
      intro u hu
      cases hut : (u == t)
      · rfl
      · have hdu := Entity.isDefinition_eq_of_beq hut
        rw [Analysis.not_isDefinition_of_mem_usages (List.mem_of_mem_filter hu), hd] at hdu
        cases hdu
    have hany : ((Snapshot.build r).analysis.usages.filter
        ((Snapshot.build r).identity · = (Snapshot.build r).identity t')).any (· == t) = false :=
      List.any_eq_false.2 fun u hu => by simp [hus u hu]
    cases hdef : (Snapshot.build r).definitionOf t' with
    | none =>
      simp only [Option.toList_none, List.nil_append, hany, Bool.false_eq_true, Bool.true_eq_false,
        false_or, false_iff]
      intro hhead
      obtain ⟨u, hu, hut⟩ := (Option.any_eq_true _ _).1 hhead
      rw [hus u (List.mem_of_mem_head? hu)] at hut
      cases hut
    | some d => simp [hany]

/-- The occurrences under way, if any, are those of an entity of the analysis. -/
def Tracks (n : Navigator) : Prop :=
  ∀ o ∈ n.occurrences?, ∃ t ∈ r.analysis.entities, o = (Snapshot.build r).occurrences t

theorem tracks_explore {n : Navigator} (hn : n.Tracks r) {t : Entity}
    (ht : t ∈ r.analysis.entities) : (n.explore (Snapshot.build r) t).1.Tracks r := by
  intro o ho
  cases hs : (n.explore (Snapshot.build r) t).2
  · rw [occurrences?_explore_of_not_started _ _ hs] at ho
    exact hn o ho
  · rw [occurrences?_explore_of_started _ _ hs, Option.mem_some_iff] at ho
    exact ⟨t, ht, ho.symm⟩

theorem tracks_step {n : Navigator} (hn : n.Tracks r) (d : Direction) : (n.step d).1.Tracks r := by
  intro o ho
  rw [occurrences?_step] at ho
  exact hn o ho

/-- **Every navigator a run over one built snapshot reaches explores the occurrences of an
entity of its analysis.** -/
theorem reachable_tracks {n : Navigator}
    (h : n.Reachable (fun s t => s = Snapshot.build r ∧ t ∈ r.analysis.entities)) :
    n.Tracks r := by
  induction h with
  | idle => intro o ho; cases ho
  | explore _ hok ih =>
    obtain ⟨rfl, ht⟩ := hok
    exact tracks_explore r ih ht
  | step d _ ih => exact tracks_step r ih d
  | reset _ => intro o ho; cases ho

/-- After exploring an entity of the analysis, the navigator stands on it exactly when it is a
usage, or the definition leading the occurrences. -/
theorem current_explore_any_beq_iff {n : Navigator} (hn : n.Tracks r) {t : Entity}
    (ht : t ∈ r.analysis.entities) (hnan : t.NaNFree) :
    (n.explore (Snapshot.build r) t).1.current.any (· == t) = true ↔
      t.isDefinition = false ∨ (n.explore (Snapshot.build r) t).1.leading.any (· == t) = true := by
  -- the occurrences explored afterwards are of the entity's identity, and of some entity
  obtain ⟨o, ho, hid⟩ := Option.map_eq_some_iff.1 <|
    (exploredId_eq _).symm.trans (exploredId_explore (Snapshot.build r) t n)
  obtain ⟨t', ht', rfl⟩ := tracks_explore r hn ht o ho
  rw [current_any_beq_explore, leading, ho, Option.any_some, Option.bind_some]
  exact any_beq_items_occurrences r ht' ht hnan hid

/-- **Exploring in a run over one built snapshot.** Exploring an entity of the analysis ends on
its identity; it starts over exactly when idle or on another identity, and then explores the
entity's own occurrences, else keeps those under way. It lands on the entity exactly when the
entity is a usage, or the definition leading the occurrences: a second definition of the key
being explored is not among them, and the navigator stays where it was. -/
theorem explore_lands_iff {n : Navigator}
    (hn : n.Reachable (fun s t => s = Snapshot.build r ∧ t ∈ r.analysis.entities)) {t : Entity}
    (ht : t ∈ r.analysis.entities) (hnan : t.NaNFree) :
    (n.explore (Snapshot.build r) t).1.exploredId = some ((Snapshot.build r).identity t) ∧
    ((n.explore (Snapshot.build r) t).2 = true ↔
      n.exploredId ≠ some ((Snapshot.build r).identity t)) ∧
    ((n.explore (Snapshot.build r) t).2 = true →
      (n.explore (Snapshot.build r) t).1.occurrences? = some ((Snapshot.build r).occurrences t)) ∧
    ((n.explore (Snapshot.build r) t).2 = false →
      (n.explore (Snapshot.build r) t).1.occurrences? = n.occurrences?) ∧
    ((n.explore (Snapshot.build r) t).1.current.any (· == t) = true ↔
      t.isDefinition = false ∨ (n.explore (Snapshot.build r) t).1.leading.any (· == t) = true) :=
  ⟨exploredId_explore _ t n, explore_started_iff _ t n, occurrences?_explore_of_started _ t,
    occurrences?_explore_of_not_started _ t,
    current_explore_any_beq_iff r (reachable_tracks r hn) ht hnan⟩

/-- A var defined twice, on rows 1 and 2. -/
def twinDefinition (row : Nat) : VarDefinition :=
  { ns := "app.core", name := "f", definedBy := none, extent := { row, col := 1 }, extra := [] }

/-- An analysis with both definitions of the var. -/
def twinReport : Report :=
  { analysis := { varDefinitions := [twinDefinition 1, twinDefinition 2] } }

theorem twinDefinition_mem (row : Nat) (h : row = 1 ∨ row = 2) :
    Entity.varDefinition (twinDefinition row) ∈ twinReport.analysis.entities := by
  rcases h with rfl | rfl <;> simp [twinReport, Analysis.entities, Analysis.definitions]

/-- Exploring the first definition of a var from idle lands on it: it leads its occurrences. -/
theorem explore_first_definition_lands :
    (idle : Navigator).Reachable
        (fun s t => s = Snapshot.build twinReport ∧ t ∈ twinReport.analysis.entities) ∧
    Entity.varDefinition (twinDefinition 1) ∈ twinReport.analysis.entities ∧
    (Entity.varDefinition (twinDefinition 1)).NaNFree ∧
    (idle.explore (Snapshot.build twinReport) (.varDefinition (twinDefinition 1))).1.current.any
      (· == .varDefinition (twinDefinition 1)) = true := by
  have h1 := twinDefinition_mem 1 (.inl rfl)
  have hnan : (Entity.varDefinition (twinDefinition 1)).NaNFree := by
    simp [twinDefinition, Entity.NaNFree, Entity.extra, Json.FieldsNaNFree]
  have hlead : (idle.explore (Snapshot.build twinReport)
      (.varDefinition (twinDefinition 1))).1.leading.any (· == .varDefinition (twinDefinition 1)) =
        true := by
    decide
  exact ⟨.idle, h1, hnan, (explore_lands_iff twinReport .idle h1 hnan).2.2.2.2.2 (.inr hlead)⟩

/-- **Exploring the second definition of a var after the first does not land on it**: the run
is one the claim is about, yet the first definition's occurrences are kept, the second is not
among them, and the navigator stays on the first. -/
theorem explore_second_definition_stays :
    (idle.explore (Snapshot.build twinReport) (.varDefinition (twinDefinition 1))).1.Reachable
        (fun s t => s = Snapshot.build twinReport ∧ t ∈ twinReport.analysis.entities) ∧
    Entity.varDefinition (twinDefinition 2) ∈ twinReport.analysis.entities ∧
    ((idle.explore (Snapshot.build twinReport) (.varDefinition (twinDefinition 1))).1.explore
        (Snapshot.build twinReport) (.varDefinition (twinDefinition 2))).1.current.any
      (· == .varDefinition (twinDefinition 2)) = false := by
  refine ⟨.explore .idle ⟨rfl, twinDefinition_mem 1 (.inl rfl)⟩, twinDefinition_mem 2 (.inr rfl), ?_⟩
  decide

end Landing

end Navigator

end CrossRef
