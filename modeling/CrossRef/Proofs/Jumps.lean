import Mathlib
import CrossRef.Cli.Run
import CrossRef.Proofs.Walk
import CrossRef.Proofs.Resolution
import CrossRef.Proofs.Reanalysis
/-!
Jumping through occurrences several times.

The jump command analyses its file into buffer 1 of a fresh session, then calls `Session.jump`
up to `N` times (`Cli.jumps`) and reports the span the last jump that moved landed on. Each jump
resolves the span it is given, explores what it finds, and takes one step; every jump after the
first is given the span the previous one landed on, so it resolves that occurrence again from its
span.

**One jump is one move of the clamped walk** whenever exploring leaves the navigator on an index
inside its list (`Session.jump_of_explored`). The first jump explores the entity under the cursor
from idle, and starts on its place among its occurrences. A later jump comes back to the same
exploration when the occurrence it landed on *resolves back* (`Occurrences.ResolvesBack`): it
is what a cursor on its own span lands on, and the first of the occurrences equal to it. Every occurrence
carries the identity explored (`Snapshot.identity_of_mem_items`), so exploring it again only
moves the index to its own place.

**So `N` jumps land where `N` steps do.** By induction on `N`, when every occurrence a jump
lands on before the last one resolves back, the jumps report the occurrence the clamped walk ends
on: `min (i + N) (n - 1)` forward and `i - N` back, and nothing when that is the cursor's own place
(`jumps_land_on_clamped_occurrence`). The last jump's landing place is never resolved again, so a
single jump asks nothing of the occurrences. The condition is needed: where two occurrences share a
span, resolving that span finds the first of them, so every jump goes back to it and steps to the
second again (`jumps_stall_on_shared_span`).
-/

namespace CrossRef

namespace Occurrences

/-- The occurrence at place `k` **resolves back** in a snapshot when a cursor on its span lands on
it and it is the first of the occurrences equal to it, so exploring it again finds its place. -/
def ResolvesBack (o : Occurrences) (s : Snapshot) (k : Nat) : Prop :=
  ∃ x, o.items[k]? = some x ∧ s.entityAt x.span = some x ∧ o.positionOf x = some k

end Occurrences

namespace Snapshot

variable (r : Report)

/-- What stands first among a usage's occurrences has the usage's identity. -/
theorem identity_of_definitionOf_build {t d : Entity} (h : (build r).definitionOf t = some d) :
    (build r).identity d = (build r).identity t := by
  cases t with
  | localUsage u =>
    simp only [definitionOf, bindingOf, localById_build, Option.map_eq_some_iff] at h
    obtain ⟨b, hb, rfl⟩ := h
    have hid : b.id = u.id := by simpa using List.find?_some hb
    rw [identity_localBinding, identity_localUsage, hid]
  | varUsage u =>
    simp only [definitionOf, definitionOfVarUsage, varByName_build, Option.map_eq_some_iff] at h
    obtain ⟨d', hd', rfl⟩ := h
    have hq : d'.qualifiedName = u.qualifiedTarget := by simpa using List.find?_some hd'
    have hdefined : ((build r).varByName u.qualifiedTarget).isSome := by
      rw [varByName_build, hd']
      rfl
    rw [identity_varDefinition, identity_varUsage, if_pos hdefined, hq]
  | namespaceUsage u =>
    simp only [definitionOf, definitionOfNamespaceUsage, namespaceByName_build,
      Option.map_eq_some_iff] at h
    obtain ⟨d', hd', rfl⟩ := h
    have hn : d'.name = u.target := by simpa using List.find?_some hd'
    rw [identity_namespaceDefinition, identity_namespaceUsage, hn]
  | localBinding b | varDefinition d' | namespaceDefinition d' =>
    simp only [definitionOf, Option.some.injEq] at h
    rw [h]

/-- **Every occurrence of an entity carries its identity.** -/
theorem identity_of_mem_items {t x : Entity} (ht : t ∈ r.analysis.entities)
    (hx : x ∈ ((build r).occurrences t).items) : (build r).identity x = (build r).identity t := by
  rw [items_occurrences r t ht, List.mem_append] at hx
  rcases hx with hdef | husage
  · exact identity_of_definitionOf_build r (Option.mem_toList.1 hdef)
  · simpa using (List.mem_filter.1 husage).2

end Snapshot

namespace Navigator

/-- The navigator a jump steps from: this one once what is under the span is explored, or as it
is when nothing is. -/
def follow (nav : Navigator) (s : Snapshot) (q : Span) : Navigator :=
  match s.entityAt q with
  | some t => (nav.explore s t).1
  | none => nav

/-- Exploring from idle starts on the entity's place among its occurrences, or on the first. -/
theorem idle_explore (s : Snapshot) (t : Entity) :
    (idle.explore s t).1 =
      exploring ⟨s.occurrences t, ((s.occurrences t).positionOf t).getD 0⟩ := by
  rw [explore_of_exploredId_ne s t (n := idle) (by simp [exploredId, exploration?])]
  simp [exploration?]

/-- **Following an occurrence that resolves back** from an exploration standing on it stays
there: what its span finds is itself, of the identity explored, so exploring it again only moves
the index to its own place. -/
theorem follow_of_resolvesBack {s : Snapshot} {o : Occurrences}
    (hid : ∀ x ∈ o.items, s.identity x = o.id) {k : Nat} (hk : k < o.items.length)
    (hback : o.ResolvesBack s k) : (exploring ⟨o, k⟩).follow s o.items[k].span = exploring ⟨o, k⟩ := by
  obtain ⟨x, hx, hxat, hxpos⟩ := hback
  rw [List.getElem?_eq_getElem hk, Option.some.injEq] at hx
  subst hx
  simp only [follow, hxat]
  rw [explore_of_id_eq (e := ⟨o, _⟩) s _ (hid _ (List.getElem_mem hk)).symm, hxpos]
  rfl

end Navigator

namespace Session

/-- A jump follows what is under the span, then steps. -/
theorem jump_eq (s : Session) (b : Nat) (q : Span) (d : Direction) :
    s.jump b q d =
      let (store, r) := s.store.withNavigator b fun snap nav =>
        let (nav, landed) := (nav.follow snap q).step d
        (nav, landed.map Entity.span)
      ({ s with store }, r.join) := rfl

/-- **One jump**, when following what is under the span leaves the buffer's navigator on an index
inside its list: one move of the clamped walk, reporting the span of the occurrence moved to, or
nothing when the walk stays. -/
theorem jump_of_explored {s : Session} {b : Nat} {st : BufferState} (hb : s.store.get? b = some st)
    (q : Span) (d : Direction) {e : Exploration}
    (he : st.navigator.follow st.snapshot q = .exploring e) (hlt : e.index < e.len) :
    s.jump b q d =
      ({ s with store := s.store.modify b fun st =>
          { st with navigator := .exploring { e with index := d.clamp e.len e.index } } },
        if d.clamp e.len e.index = e.index then none
        else e.occurrences.items[d.clamp e.len e.index]?.map Entity.span) := by
  rw [jump_eq]
  simp only [Store.withNavigator, hb, he, Navigator.step_exploring hlt]
  by_cases hstay : d.clamp e.len e.index = e.index
  · simp only [hstay, if_true, Option.map_none, Option.join_some]
  · simp only [hstay, if_false, Option.join_some]

end Session

section Loop

variable (s : Snapshot) (o : Occurrences) (d : Direction)

/-- A walk of `m + 1` steps ends where the walk of `m` steps from its first move ends. -/
theorem clampedWalk_replicate_succ_fst (j m : Nat) :
    (clampedWalk o.items j (List.replicate (m + 1) d)).1 =
      (clampedWalk o.items (d.clamp o.items.length j) (List.replicate m d)).1 := by
  rw [List.replicate_succ, clampedWalk_cons]

/-- **The jumps from an exploration.** The buffer holds the snapshot, and its navigator, once the
span is followed, explores the occurrences `o` at place `j`. When every occurrence carries the
identity explored and every place away from `j` that the walk reaches before its last step
resolves back, `N` jumps report the occurrence the clamped walk of `N` steps from `j` ends on, or
what was reported before when the walk stays. -/
theorem jumps_walk (hid : ∀ x ∈ o.items, s.identity x = o.id) :
    ∀ (N : Nat) (sess : Session) (p : Span) (last : Option Span) (st : BufferState) (j : Nat),
      sess.store.get? Cli.buffer = some st → st.snapshot = s →
      st.navigator.follow s p = .exploring ⟨o, j⟩ → j < o.items.length →
      (∀ m, 0 < m → m < N → (clampedWalk o.items j (List.replicate m d)).1 ≠ j →
        o.ResolvesBack s (clampedWalk o.items j (List.replicate m d)).1) →
      (Cli.jumps sess d N p last).2 =
        if (clampedWalk o.items j (List.replicate N d)).1 = j then last
        else o.items[(clampedWalk o.items j (List.replicate N d)).1]?.map Entity.span := by
  intro N
  induction N with
  | zero =>
    intro sess p last st j _ _ _ _ _
    simp only [Cli.jumps, List.replicate_zero, clampedWalk, if_true]
  | succ N ih =>
    intro sess p last st j hbuf hsnap hfollow hj hback
    rw [Cli.jumps, Session.jump_of_explored hbuf p d (hsnap ▸ hfollow) hj]
    by_cases hstay : d.clamp o.items.length j = j
    · -- the first step stays: the jumps stop, and so does the walk
      simp only [Exploration.len, hstay, if_true, clampedWalk_stuck o.items hstay]
    · -- the first step moves; the walk of `N + 1` steps is that move, then `N` steps from there
      have hlt : d.clamp o.items.length j < o.items.length := d.clamp_lt hj
      have hx : o.items[d.clamp o.items.length j]? = some o.items[d.clamp o.items.length j] :=
        List.getElem?_eq_getElem hlt
      simp only [Exploration.len, hstay, if_false, hx, Option.map_some, List.replicate_succ,
        clampedWalk_cons, clampedWalk_ne_of_moved o.items hj hstay N]
      cases N with
      | zero =>
        -- that move was the last jump: its landing place is not resolved again
        simp only [Cli.jumps, List.replicate_zero, clampedWalk, hx, Option.map_some]
      | succ N =>
        -- the places the rest of the walk reaches are those the whole walk reaches a step later,
        -- the occurrence moved to first among them
        have hrest : ∀ m, m < N + 1 → o.ResolvesBack s
            (clampedWalk o.items (d.clamp o.items.length j) (List.replicate m d)).1 := by
          intro m hmN
          have h := hback (m + 1) (by omega) (by omega)
          rw [clampedWalk_replicate_succ_fst] at h
          exact h (clampedWalk_ne_of_moved o.items hj hstay m)
        -- another jump follows, from the occurrence moved to, which resolves back to itself
        have hfollow' := Navigator.follow_of_resolvesBack hid hlt (hrest 0 (Nat.succ_pos N))
        have hbuf' : (sess.store.modify Cli.buffer fun st =>
            { st with navigator := .exploring ⟨o, d.clamp o.items.length j⟩ }).get? Cli.buffer =
            some { st with navigator := .exploring ⟨o, d.clamp o.items.length j⟩ } := by
          rw [Store.get?_modify, if_pos rfl, hbuf]
          rfl
        rw [ih _ _ _ { st with navigator := .exploring ⟨o, d.clamp o.items.length j⟩ } _ hbuf' hsnap
          hfollow' hlt fun m _ hmN _ => hrest m hmN]
        by_cases hend : (clampedWalk o.items (d.clamp o.items.length j)
            (List.replicate (N + 1) d)).1 = d.clamp o.items.length j
        · rw [if_pos hend, hend, hx, Option.map_some]
        · rw [if_neg hend]

end Loop

/-- The session of a command once its file is analysed: buffer 1 opened, then its snapshot
replaced by the analysis. -/
def analysedSession (r : Report) : Session :=
  { store := (({} : Store).openBuffer Cli.buffer).1.replace Cli.buffer (Snapshot.build r) |>.1 }

/-- An analysed session's buffer holds the analysis and an idle navigator. -/
theorem get?_analysedSession (r : Report) :
    (analysedSession r).store.get? Cli.buffer =
      some { snapshot := Snapshot.build r, navigator := .idle } := by
  have hopen : (({} : Store).openBuffer Cli.buffer).1.isOpen Cli.buffer = true := rfl
  rw [analysedSession, Store.get?_replace_of_isOpen _ hopen, if_pos rfl]
  rfl

/-- **Jumping `N` times lands where `N` steps of the navigator land**, when the occurrences
landed on before the last jump resolve back to themselves. The buffer holds a built snapshot and
an idle navigator, as after the command analyses its file; the cursor resolves to `t`, at place
`i` of its `n` occurrences. When every occurrence after `i` and before `i + N` is what a cursor on
its own span lands on, and the first of the occurrences equal to it, `N` jumps forward report the
span of the occurrence at `min (i + N) (n - 1)`; when every one before `i` and after `i - N`
is, `N` jumps back report that at `i - N`. Both report nothing exactly when that place is `i`. -/
theorem jumps_land_on_clamped_occurrence (sess : Session) (r : Report) (q : Span) (t : Entity)
    (i N : Nat)
    (hbuf : sess.store.get? Cli.buffer = some { snapshot := Snapshot.build r, navigator := .idle })
    (ht : (Snapshot.build r).entityAt q = some t)
    (hi : ((Snapshot.build r).occurrences t).positionOf t = some i) :
    ((∀ k, i < k → k < i + N → k < ((Snapshot.build r).occurrences t).items.length →
        ((Snapshot.build r).occurrences t).ResolvesBack (Snapshot.build r) k) →
      (Cli.jumps sess .forward N q none).2 =
        (if min (i + N) (((Snapshot.build r).occurrences t).items.length - 1) = i then none
        else ((Snapshot.build r).occurrences t).items[min (i + N)
          (((Snapshot.build r).occurrences t).items.length - 1)]?.map Entity.span)) ∧
    ((∀ k, k < i → i < k + N →
        ((Snapshot.build r).occurrences t).ResolvesBack (Snapshot.build r) k) →
      (Cli.jumps sess .back N q none).2 =
        (if i - N = i then none
        else ((Snapshot.build r).occurrences t).items[i - N]?.map Entity.span)) := by
  have hid : ∀ x ∈ ((Snapshot.build r).occurrences t).items,
      (Snapshot.build r).identity x = ((Snapshot.build r).occurrences t).id :=
    fun x hx => Snapshot.identity_of_mem_items r (Snapshot.mem_entities_of_entityAt r ht) hx
  have hilt : i < ((Snapshot.build r).occurrences t).items.length :=
    (List.findIdx?_eq_some_iff_getElem.1 hi).1
  -- the first jump explores the cursor's entity from idle and starts on its place
  have hstart : Navigator.idle.follow (Snapshot.build r) q =
      .exploring ⟨(Snapshot.build r).occurrences t, i⟩ := by
    simp only [Navigator.follow, ht]
    rw [Navigator.idle_explore, hi]
    rfl
  constructor
  · -- forward, the walk's places before its last step lie strictly between `i` and `i + N`
    intro hfwd
    have h := jumps_walk _ _ .forward hid N sess q none _ i hbuf rfl hstart hilt fun m hm hmN hne => by
      rw [(clampedWalk_forward _ hilt m).1] at hne ⊢
      exact hfwd _ (by omega) (by omega) (by omega)
    rwa [(clampedWalk_forward _ hilt N).1] at h
  · -- back, they lie strictly between `i - N` and `i`
    intro hbwd
    have h := jumps_walk _ _ .back hid N sess q none _ i hbuf rfl hstart hilt fun m hm hmN hne => by
      rw [(clampedWalk_back _ hilt m).1] at hne ⊢
      exact hbwd _ (by omega) (by omega)
    rwa [(clampedWalk_back _ hilt N).1] at h

/-- A local bound on row 1 and used on rows 2 and 3. -/
def boundLocal : LocalBinding := ⟨1, "x", .ofBounds 1 7 1 8, none, none, []⟩

/-- A usage of `boundLocal` on a row. -/
def boundUsage (row : Nat) : LocalUsage := ⟨1, "x", .ofBounds row 3 row 4, []⟩

/-- The binding and two usages on their own rows. -/
def boundReport : Report :=
  { analysis := { locals := [boundLocal], localUsages := [boundUsage 2, boundUsage 3] } }

/-- Two jumps forward from the binding land on its last usage, on row 3; the second jump resolves
the row-2 usage again, which is found at its own span. Jumps back from the binding, the first
occurrence, report nothing. -/
theorem jumps_through_bound_local :
    (analysedSession boundReport).store.get? Cli.buffer =
      some { snapshot := Snapshot.build boundReport, navigator := .idle } ∧
    (Snapshot.build boundReport).entityAt (.point ⟨1, 7⟩) = some (.localBinding boundLocal) ∧
    ((Snapshot.build boundReport).occurrences (.localBinding boundLocal)).positionOf
      (.localBinding boundLocal) = some 0 ∧
    (∀ k, 0 < k → k < 0 + 2 →
      k < ((Snapshot.build boundReport).occurrences (.localBinding boundLocal)).items.length →
      ((Snapshot.build boundReport).occurrences (.localBinding boundLocal)).ResolvesBack
        (Snapshot.build boundReport) k) ∧
    (Cli.jumps (analysedSession boundReport) .forward 2 (.point ⟨1, 7⟩) none).2 =
      some (.ofParts 3 3 (some 3) (some 4)) ∧
    (Cli.jumps (analysedSession boundReport) .back 2 (.point ⟨1, 7⟩) none).2 = none := by
  have hbuf := get?_analysedSession boundReport
  have ht : (Snapshot.build boundReport).entityAt (.point ⟨1, 7⟩) =
      some (.localBinding boundLocal) := rfl
  have hi : ((Snapshot.build boundReport).occurrences (.localBinding boundLocal)).positionOf
      (.localBinding boundLocal) = some 0 := by decide
  -- the one place landed on before the last jump is the row-2 usage, found at its own span
  have hfwd : ∀ k, 0 < k → k < 0 + 2 →
      k < ((Snapshot.build boundReport).occurrences (.localBinding boundLocal)).items.length →
      ((Snapshot.build boundReport).occurrences (.localBinding boundLocal)).ResolvesBack
        (Snapshot.build boundReport) k := by
    intro k hk hk2 _
    obtain rfl : k = 1 := by omega
    exact ⟨.localUsage (boundUsage 2), rfl, rfl, by decide⟩
  have hland := jumps_land_on_clamped_occurrence (analysedSession boundReport) boundReport
    (.point ⟨1, 7⟩) (.localBinding boundLocal) 0 2 hbuf ht hi
  refine ⟨hbuf, ht, hi, hfwd, ?_, ?_⟩
  · rw [hland.1 hfwd]
    decide
  · -- nothing lies before the first place, so going back asks nothing
    rw [hland.2 fun k hk => absurd hk (Nat.not_lt_zero k)]
    rfl

/-- The binding with two usages at one span on row 2, and one on row 3. -/
def sharedSpanReport : Report :=
  { analysis := { locals := [boundLocal],
                  localUsages := [boundUsage 2, boundUsage 2, boundUsage 3] } }

/-- **Three jumps stall on a shared span.** The cursor is on the binding, the first of four
occurrences; three steps of the navigator would reach the usage on row 3. The second jump resolves
the row-2 span to the first usage there, explores it at its own place and steps to the second
again, and so does the third: the command reports row 2. -/
theorem jumps_stall_on_shared_span :
    (Snapshot.build sharedSpanReport).entityAt (.point ⟨1, 7⟩) = some (.localBinding boundLocal) ∧
    ((Snapshot.build sharedSpanReport).occurrences (.localBinding boundLocal)).positionOf
      (.localBinding boundLocal) = some 0 ∧
    ((Snapshot.build sharedSpanReport).occurrences (.localBinding boundLocal)).items.length = 4 ∧
    (Cli.jumps (analysedSession sharedSpanReport) .forward 3 (.point ⟨1, 7⟩) none).2 =
      some (.ofParts 2 3 (some 2) (some 4)) ∧
    ((Snapshot.build sharedSpanReport).occurrences (.localBinding boundLocal)).items[min (0 + 3)
      (4 - 1)]?.map Entity.span = some (.ofParts 3 3 (some 3) (some 4)) := by
  refine ⟨rfl, by decide, rfl, by decide, by decide⟩

end CrossRef
