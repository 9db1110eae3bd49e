import Mathlib
import CrossRef.Snapshot
/-!
Every lookup of a snapshot agrees with a scan of the list it indexes.

A snapshot answers row queries from groups of positions and identity queries from a table of
first positions, each built by one fold over the list's keys numbered from zero. Each result is
proved in two steps: what one step of the fold does to a lookup (`Groups.get_add`,
`firstAt_step`), then, by induction over the numbered keys, what the whole fold does
(`get_groupBy`, `firstAt_firstBy`). Reading the entries at the positions found gives back the
list's `filter` and `find?` (`entriesAt_groupBy`, `bind_firstAt_firstBy`).

Positions are natural numbers, so no list is too long to be indexed: every position a snapshot
stores is the index of an entry (`Snapshot.InRange`).

Main statement: `build_lookups_eq_scans`.
-/

namespace CrossRef

/-! ## Groups of positions -/

namespace Groups

variable {κ : Type} [DecidableEq κ]

@[simp] theorem get_nil (k : κ) : Groups.get ([] : Groups κ) k = [] := rfl

@[simp] theorem get_cons (k' k : κ) (is : List Nat) (rest : Groups κ) :
    Groups.get ((k', is) :: rest) k = if k' = k then is else rest.get k := by
  by_cases h : k' = k <;> simp [get, h]

/-- Adding a position appends it to its key's group and leaves the other groups alone. Both
`add` and `get` stop at the first entry of a key, so this holds of any list of groups, repeated
keys or not. -/
theorem get_add (g : Groups κ) (k' k : κ) (i : Nat) :
    (g.add k' i).get k = if k' = k then g.get k ++ [i] else g.get k := by
  induction g with
  | nil => by_cases h : k' = k <;> simp [add, h]
  | cons e rest ih =>
    obtain ⟨k'', is⟩ := e
    by_cases h1 : k' = k'' <;> by_cases h2 : k'' = k <;> simp_all [add]

/-- Adding keeps every stored position within a bound, given the new one is. -/
theorem add_below (g : Groups κ) (k : κ) (i n : Nat) (hg : ∀ e ∈ g, ∀ j ∈ e.2, j < n)
    (hi : i < n) : ∀ e ∈ g.add k i, ∀ j ∈ e.2, j < n := by
  induction g with
  | nil => simpa [add] using hi
  | cons e rest ih =>
    obtain ⟨k', is⟩ := e
    have hrest : ∀ e ∈ rest, ∀ j ∈ e.2, j < n := fun e he => hg e (by simp [he])
    by_cases h : k = k'
    · simp only [add, h, if_true, List.mem_cons]
      rintro e (rfl | he) j hj
      · rcases List.mem_append.1 hj with hj | hj
        · exact hg (k', is) (by simp) j hj
        · simp only [List.mem_singleton] at hj; omega
      · exact hrest e he j hj
    · simp only [add, h, if_false, List.mem_cons]
      rintro e (rfl | he)
      · exact hg (k', is) (by simp)
      · exact ih hrest e he

end Groups

section GroupBy

variable {κ : Type} [DecidableEq κ]

/-- The fold of `groupBy`, from any groups: each key's group gains the positions paired with
it, in order. -/
theorem get_foldl_add (ps : List (κ × Nat)) (g : Groups κ) (k : κ) :
    (ps.foldl (fun g (k, i) => g.add k i) g).get k =
      g.get k ++ (ps.filter (·.1 = k)).map (·.2) := by
  induction ps generalizing g with
  | nil => simp
  | cons p ps ih =>
    obtain ⟨k', i⟩ := p
    by_cases h : k' = k <;> simp [ih, Groups.get_add, h]

/-- **A key's group** holds the positions of that key, in increasing order. -/
theorem get_groupBy (keys : List κ) (k : κ) :
    (groupBy keys).get k = (keys.zipIdx.filter (·.1 = k)).map (·.2) := by
  simp [groupBy, get_foldl_add]

/-- Positions taken from a list's own numbering read its entries back. -/
theorem filterMap_getElem?_of_subset_zipIdx {α : Type} (xs : List α) (l : List (α × Nat))
    (h : ∀ x ∈ l, x ∈ xs.zipIdx) : l.filterMap (fun x => xs[x.2]?) = l.map (·.1) := by
  induction l with
  | nil => rfl
  | cons x l ih =>
    have hx : xs[x.2]? = some x.1 := List.mem_zipIdx_iff_getElem?.1 (h x (by simp))
    simp [hx, ih (fun y hy => h y (by simp [hy]))]

/-- **The entries of a group** are the entries of the list with that key, in emission order. -/
theorem entriesAt_groupBy {α : Type} (xs : List α) (f : α → κ) (k : κ) :
    entriesAt xs ((groupBy (xs.map f)).get k) = xs.filter (f · = k) := by
  have hpos : ((xs.map f).zipIdx.filter (·.1 = k)).map (·.2) =
      (xs.zipIdx.filter (f ·.1 = k)).map (·.2) := by
    simp [List.zipIdx_map, List.filter_map, Function.comp_def]
  calc entriesAt xs ((groupBy (xs.map f)).get k)
      = (xs.zipIdx.filter (f ·.1 = k)).filterMap (fun x => xs[x.2]?) := by
        simp [get_groupBy, hpos, entriesAt, List.filterMap_map]
    _ = (xs.zipIdx.filter (f ·.1 = k)).map (·.1) :=
        filterMap_getElem?_of_subset_zipIdx xs _ (fun x hx => List.mem_of_mem_filter hx)
    _ = (xs.zipIdx.map Prod.fst).filter (f · = k) := by rw [List.filter_map]; rfl
    _ = xs.filter (f · = k) := by rw [List.zipIdx_map_fst]

/-- The groups are empty exactly when there are no keys. -/
theorem groupBy_eq_nil_iff (keys : List κ) : groupBy keys = [] ↔ keys = [] := by
  constructor
  · intro h
    cases keys with
    | nil => rfl
    | cons k rest =>
      have hk := get_groupBy (k :: rest) k
      simp [h] at hk
  · rintro rfl
    rfl

/-- The fold of `groupBy` keeps every position below a bound, given the positions folded in
are. -/
theorem foldl_add_below (n : Nat) (ps : List (κ × Nat)) (g : Groups κ)
    (hps : ∀ p ∈ ps, p.2 < n) (hg : ∀ e ∈ g, ∀ i ∈ e.2, i < n) :
    ∀ e ∈ ps.foldl (fun g (k, i) => g.add k i) g, ∀ i ∈ e.2, i < n := by
  induction ps generalizing g with
  | nil => exact hg
  | cons p ps ih =>
    obtain ⟨k, i⟩ := p
    exact ih _ (fun q hq => hps q (by simp [hq]))
      (Groups.add_below g k i _ hg (hps (k, i) (by simp)))

/-- Every position of every group indexes a key. -/
theorem groupBy_below (keys : List κ) : ∀ e ∈ groupBy keys, ∀ i ∈ e.2, i < keys.length :=
  foldl_add_below _ keys.zipIdx [] (fun p hp => by simpa using List.snd_lt_of_mem_zipIdx hp)
    (by simp)

end GroupBy

/-! ## First positions -/

section FirstBy

variable {κ : Type} [DecidableEq κ]

/-- A key has a recorded position exactly when some entry carries it. -/
theorem isSome_firstAt (m : List (κ × Nat)) (k : κ) :
    (firstAt m k).isSome ↔ k ∈ m.map (·.1) := by
  simp [firstAt, List.find?_isSome]

/-- One step of the fold of `firstBy`: a key already recorded keeps its position, a new key
gets the step's. -/
theorem firstAt_step (m : List (κ × Nat)) (k' k : κ) (i : Nat) :
    firstAt (if m.any (·.1 = k') then m else m ++ [(k', i)]) k =
      (firstAt m k).or (if k' = k then some i else none) := by
  by_cases hany : m.any (·.1 = k') = true
  · rw [if_pos hany]
    by_cases hk : k' = k
    · subst hk
      obtain ⟨e, he, hek⟩ := List.any_eq_true.1 hany
      have hsome : (firstAt m k').isSome :=
        (isSome_firstAt m k').2 (List.mem_map.2 ⟨e, he, by simpa using hek⟩)
      obtain ⟨j, hj⟩ := Option.isSome_iff_exists.1 hsome
      simp [hj]
    · simp [hk]
  · rw [if_neg hany]
    by_cases hk : k' = k
    · subst hk
      have hnone : m.find? (·.1 = k') = none := by
        rw [List.find?_eq_none]
        intro e he hek
        exact hany (List.any_eq_true.2 ⟨e, he, hek⟩)
      simp [firstAt, List.find?_append, hnone]
    · simp [firstAt, List.find?_append, hk]

/-- The fold of `firstBy`, from any table: a key's position is the one recorded before, or else
the position of its first pair. -/
theorem firstAt_foldl (ps : List (κ × Nat)) (m : List (κ × Nat)) (k : κ) :
    firstAt (ps.foldl (fun m (k, i) => if m.any (·.1 = k) then m else m ++ [(k, i)]) m) k =
      (firstAt m k).or (firstAt ps k) := by
  induction ps generalizing m with
  | nil => simp [firstAt]
  | cons p ps ih =>
    obtain ⟨k', i⟩ := p
    simp only [List.foldl_cons]
    rw [ih, firstAt_step]
    by_cases hk : k' = k <;> simp [hk, firstAt]

/-- **A key's recorded position** is the position of its first occurrence. -/
theorem firstAt_firstBy (keys : List κ) (k : κ) :
    firstAt (firstBy keys) k = firstAt keys.zipIdx k := by
  rw [firstBy, firstAt_foldl]
  rfl

/-- **The first position of a key** reads back the first entry with that key. -/
theorem bind_firstAt_firstBy {α : Type} (xs : List α) (f : α → κ) (k : κ) :
    (firstAt (firstBy (xs.map f)) k).bind (xs[·]?) = xs.find? (f · = k) := by
  have hxs : xs.find? (f · = k) = (xs.zipIdx.find? (f ·.1 = k)).map (·.1) := by
    conv_lhs => rw [← List.zipIdx_map_fst 0 xs]
    rw [List.find?_map]
    rfl
  have hpos : firstAt (xs.map f).zipIdx k = (xs.zipIdx.find? (f ·.1 = k)).map (·.2) := by
    rw [firstAt, List.zipIdx_map, List.find?_map, Option.map_map]
    rfl
  rw [firstAt_firstBy, hpos, hxs]
  cases h : xs.zipIdx.find? (f ·.1 = k) with
  | none => rfl
  | some x =>
    have hx : xs[x.2]? = some x.1 := List.mem_zipIdx_iff_getElem?.1 (List.mem_of_find?_eq_some h)
    simp [hx]

/-- A key is recorded exactly when it occurs. -/
theorem mem_keys_firstBy (keys : List κ) (k : κ) :
    k ∈ (firstBy keys).map (·.1) ↔ k ∈ keys := by
  rw [← isSome_firstAt, firstAt_firstBy, isSome_firstAt, List.zipIdx_map_fst]

/-- The fold of `firstBy` never records a key twice. -/
theorem nodup_keys_foldl (ps : List (κ × Nat)) (m : List (κ × Nat))
    (hm : (m.map (·.1)).Nodup) :
    ((ps.foldl (fun m (k, i) => if m.any (·.1 = k) then m else m ++ [(k, i)]) m).map
      (·.1)).Nodup := by
  induction ps generalizing m with
  | nil => exact hm
  | cons p ps ih =>
    obtain ⟨k', i⟩ := p
    apply ih
    by_cases hany : m.any (·.1 = k') = true
    · simpa [hany] using hm
    · have hk : ∀ a j, (a, j) ∈ m → a ≠ k' := fun a j hm hak =>
        hany (List.any_eq_true.2 ⟨(a, j), hm, by simpa using hak⟩)
      simpa [hany, List.nodup_append] using And.intro hm hk

/-- **One entry per distinct key.** -/
theorem length_firstBy (keys : List κ) : (firstBy keys).length = keys.toFinset.card := by
  have hnd : ((firstBy keys).map (·.1)).Nodup := nodup_keys_foldl keys.zipIdx [] List.nodup_nil
  calc (firstBy keys).length = ((firstBy keys).map (·.1)).length := by simp
    _ = ((firstBy keys).map (·.1)).toFinset.card := (List.toFinset_card_of_nodup hnd).symm
    _ = keys.toFinset.card := by
      congr 1
      ext k
      simp only [List.mem_toFinset, mem_keys_firstBy]

/-- The table is empty exactly when there are no keys. -/
theorem firstBy_eq_nil_iff (keys : List κ) : firstBy keys = [] ↔ keys = [] := by
  constructor
  · intro h
    cases keys with
    | nil => rfl
    | cons k rest =>
      have hk := firstAt_firstBy (k :: rest) k
      simp [h, firstAt] at hk
  · rintro rfl
    rfl

/-- The fold of `firstBy` records only pairs it started with or was given. -/
theorem mem_of_mem_foldl_first (ps : List (κ × Nat)) (m : List (κ × Nat)) :
    ∀ e ∈ ps.foldl (fun m (k, i) => if m.any (·.1 = k) then m else m ++ [(k, i)]) m,
      e ∈ m ∨ e ∈ ps := by
  induction ps generalizing m with
  | nil => intro e he; exact .inl he
  | cons p ps ih =>
    intro e he
    obtain ⟨k', i⟩ := p
    rcases ih _ e he with he | he
    · -- recorded by this step, or already before it
      by_cases hany : m.any (·.1 = k') = true
      · simp only [hany, if_true] at he; exact .inl he
      · simp only [hany, if_false, Bool.false_eq_true, List.mem_append,
          List.mem_singleton] at he
        rcases he with he | rfl
        · exact .inl he
        · exact .inr (by simp)
    · exact .inr (by simp [he])

/-- Every recorded position indexes a key. -/
theorem firstBy_below (keys : List κ) : ∀ e ∈ firstBy keys, e.2 < keys.length := by
  intro e he
  rcases mem_of_mem_foldl_first keys.zipIdx [] e he with he | he
  · simp at he
  · simpa using List.snd_lt_of_mem_zipIdx he

end FirstBy

/-! ## The snapshot -/

namespace Snapshot

/-- Every position a snapshot's indices store is the index of an entry of the list it points
into, so no lookup reads past the end of a list. -/
structure InRange (s : Snapshot) : Prop where
  localsById : ∀ e ∈ s.localsById, e.2 < s.analysis.locals.length
  localsByRow : ∀ e ∈ s.localsByRow, ∀ i ∈ e.2, i < s.analysis.locals.length
  localUsagesByRow : ∀ e ∈ s.localUsagesByRow, ∀ i ∈ e.2, i < s.analysis.localUsages.length
  varsByName : ∀ e ∈ s.varsByName, e.2 < s.analysis.varDefinitions.length
  varsByRow : ∀ e ∈ s.varsByRow, ∀ i ∈ e.2, i < s.analysis.varDefinitions.length
  varUsagesByRow : ∀ e ∈ s.varUsagesByRow, ∀ i ∈ e.2, i < s.analysis.varUsages.length
  namespacesByName : ∀ e ∈ s.namespacesByName, e.2 < s.analysis.namespaceDefinitions.length
  namespacesByRow :
    ∀ e ∈ s.namespacesByRow, ∀ i ∈ e.2, i < s.analysis.namespaceDefinitions.length
  namespaceUsagesByRow :
    ∀ e ∈ s.namespaceUsagesByRow, ∀ i ∈ e.2, i < s.analysis.namespaceUsages.length

variable (r : Report)

theorem build_inRange : (build r).InRange where
  localsById := by simpa [build] using firstBy_below (r.analysis.locals.map (·.id))
  localsByRow := by simpa [build] using groupBy_below (r.analysis.locals.map (·.extent.lookupRow))
  localUsagesByRow := by
    simpa [build] using groupBy_below (r.analysis.localUsages.map (·.extent.lookupRow))
  varsByName := by
    simpa [build] using firstBy_below (r.analysis.varDefinitions.map (·.qualifiedName))
  varsByRow := by
    simpa [build] using groupBy_below (r.analysis.varDefinitions.map (·.extent.lookupRow))
  varUsagesByRow := by
    simpa [build] using groupBy_below (r.analysis.varUsages.map (·.extent.lookupRow))
  namespacesByName := by
    simpa [build] using firstBy_below (r.analysis.namespaceDefinitions.map (·.name))
  namespacesByRow := by
    simpa [build] using groupBy_below (r.analysis.namespaceDefinitions.map (·.extent.lookupRow))
  namespaceUsagesByRow := by
    simpa [build] using groupBy_below (r.analysis.namespaceUsages.map (·.extent.lookupRow))

@[simp] theorem localsOnRow_build (n : Nat) :
    (build r).localsOnRow n = r.analysis.locals.filter (·.extent.span.row = n) :=
  entriesAt_groupBy _ _ n

@[simp] theorem localUsagesOnRow_build (n : Nat) :
    (build r).localUsagesOnRow n = r.analysis.localUsages.filter (·.extent.span.row = n) :=
  entriesAt_groupBy _ _ n

@[simp] theorem varsOnRow_build (n : Nat) :
    (build r).varsOnRow n = r.analysis.varDefinitions.filter (·.extent.span.row = n) :=
  entriesAt_groupBy _ _ n

@[simp] theorem varUsagesOnRow_build (n : Nat) :
    (build r).varUsagesOnRow n = r.analysis.varUsages.filter (·.extent.span.row = n) :=
  entriesAt_groupBy _ _ n

@[simp] theorem namespacesOnRow_build (n : Nat) :
    (build r).namespacesOnRow n =
      r.analysis.namespaceDefinitions.filter (·.extent.span.row = n) :=
  entriesAt_groupBy _ _ n

@[simp] theorem namespaceUsagesOnRow_build (n : Nat) :
    (build r).namespaceUsagesOnRow n =
      r.analysis.namespaceUsages.filter (·.extent.span.row = n) :=
  entriesAt_groupBy _ _ n

@[simp] theorem localById_build (i : Nat) :
    (build r).localById i = r.analysis.locals.find? (·.id = i) :=
  bind_firstAt_firstBy _ _ i

@[simp] theorem varByName_build (q : QualifiedName) :
    (build r).varByName q = r.analysis.varDefinitions.find? (·.qualifiedName = q) :=
  bind_firstAt_firstBy _ _ q

@[simp] theorem namespaceByName_build (n : String) :
    (build r).namespaceByName n = r.analysis.namespaceDefinitions.find? (·.name = n) :=
  bind_firstAt_firstBy _ _ n

theorem uniqueVars_build :
    (build r).stats.uniqueVars = (r.analysis.varDefinitions.map (·.qualifiedName)).toFinset.card :=
  length_firstBy _

theorem indicesEmpty_build :
    (build r).indicesEmpty = true ↔
      r.analysis.locals = [] ∧ r.analysis.localUsages = [] ∧ r.analysis.varDefinitions = [] ∧
      r.analysis.varUsages = [] ∧ r.analysis.namespaceDefinitions = [] ∧
      r.analysis.namespaceUsages = [] := by
  simp [indicesEmpty, build, firstBy_eq_nil_iff, groupBy_eq_nil_iff, and_assoc]

/-- **Every lookup of a built snapshot is a scan of its lists.** The analysis and findings are
kept as given; a row query yields the entries whose lookup span starts on that row, in emission
order; an identity query yields the first entry with that id, qualified name or name; the
unique var count is the number of distinct qualified names defined; the indices are empty
exactly when the lists are; and every stored position indexes an entry. -/
theorem build_lookups_eq_scans :
    (build r).analysis = r.analysis ∧ (build r).findings = r.findings ∧
    (∀ n, (build r).localsOnRow n = r.analysis.locals.filter (·.extent.span.row = n)) ∧
    (∀ n, (build r).localUsagesOnRow n =
      r.analysis.localUsages.filter (·.extent.span.row = n)) ∧
    (∀ n, (build r).varsOnRow n = r.analysis.varDefinitions.filter (·.extent.span.row = n)) ∧
    (∀ n, (build r).varUsagesOnRow n = r.analysis.varUsages.filter (·.extent.span.row = n)) ∧
    (∀ n, (build r).namespacesOnRow n =
      r.analysis.namespaceDefinitions.filter (·.extent.span.row = n)) ∧
    (∀ n, (build r).namespaceUsagesOnRow n =
      r.analysis.namespaceUsages.filter (·.extent.span.row = n)) ∧
    (∀ i, (build r).localById i = r.analysis.locals.find? (·.id = i)) ∧
    (∀ q, (build r).varByName q = r.analysis.varDefinitions.find? (·.qualifiedName = q)) ∧
    (∀ n, (build r).namespaceByName n = r.analysis.namespaceDefinitions.find? (·.name = n)) ∧
    (build r).stats.uniqueVars =
      (r.analysis.varDefinitions.map (·.qualifiedName)).toFinset.card ∧
    ((build r).indicesEmpty = true ↔
      r.analysis.locals = [] ∧ r.analysis.localUsages = [] ∧ r.analysis.varDefinitions = [] ∧
      r.analysis.varUsages = [] ∧ r.analysis.namespaceDefinitions = [] ∧
      r.analysis.namespaceUsages = []) ∧
    (build r).InRange :=
  ⟨rfl, rfl, localsOnRow_build r, localUsagesOnRow_build r, varsOnRow_build r,
    varUsagesOnRow_build r, namespacesOnRow_build r, namespaceUsagesOnRow_build r,
    localById_build r, varByName_build r, namespaceByName_build r, uniqueVars_build r,
    indicesEmpty_build r, build_inRange r⟩

end Snapshot

end CrossRef
