import Mathlib
import CrossRef.Session
import CrossRef.Proofs.Occurrences
/-!
What a cursor lands on, as one scan of the analysis.

`resolveAt` reads four row buckets of a snapshot, one kind after another, and takes the first
entity of a bucket whose lookup span contains the query. In a built snapshot a bucket is its
kind's list filtered by row (`Snapshot.localUsagesOnRow_build` and its siblings), so the lookup is
one scan (`Snapshot.resolveAt_build`): the first entity, in *precedence order*, that lies under
the query. The order is local usages, var usages, local bindings, var definitions, each in
emission order; an entity lies under a query when its lookup span starts on the query's row and
contains the query. Namespaces are the same over their usages, then their definitions
(`Snapshot.resolveNamespaceAt_build`). Containment compares positions lexicographically, row
first (`Span.contains_iff_lex`).

**An entity's own span.** Every entity lies under its own lookup span, so resolving there finds
something. It finds the entity itself exactly when nothing ahead of the entity's first place in
the order lies under that span (`find?_append_cons_eq_some_iff`). Where two entities of one row
cover the same span, only the one ahead is found there (`resolveAt_coinciding_usages`).

**One-row spans.** The row test is what the buckets cost: a span starting on another row is
never tried. When every lookup span starts and ends on one row, nothing is lost by it, since such
a span can only contain a query that starts on its row (`Span.row_eq_of_contains`); resolving is
then the first match of the whole order by containment alone
(`Snapshot.resolveAt_eq_unbucketed_scan`).
-/

namespace CrossRef

namespace Span

/-- **Containment is lexicographic**: a span contains another when it starts no later and ends
no earlier, positions compared by row, then by column. -/
theorem contains_iff_lex (s t : Span) :
    s.contains t = true ↔
      toLex (s.start.row, s.start.col) ≤ toLex (t.start.row, t.start.col) ∧
        toLex (t.stop.row, t.stop.col) ≤ toLex (s.stop.row, s.stop.col) := by
  rw [contains, decide_eq_true_iff, Prod.Lex.toLex_le_toLex, Prod.Lex.toLex_le_toLex]
  exact Iff.rfl

/-- **A span on one row holds only queries of that row**: a query that does not end before it
starts, inside a span that starts and ends on one row, starts on that row too. -/
theorem row_eq_of_contains {s q : Span} (hs : s.stop.row = s.start.row) (hq : q.start ≤ q.stop)
    (h : s.contains q = true) : q.row = s.row := by
  obtain ⟨hstart, hstop⟩ : s.Contains q := of_decide_eq_true h
  -- the query's rows are squeezed: `s.start.row ≤ q.start.row ≤ q.stop.row ≤ s.stop.row`
  unfold LE.le Position.instLE Position.le at hstart hstop hq
  unfold row
  omega

end Span

namespace Entity

/-- An entity lies under a query when its lookup span starts on the query's row and contains the
query. -/
def isUnder (q : Span) (t : Entity) : Bool := t.span.row = q.row && t.span.contains q

/-- Every entity lies under its own lookup span. -/
theorem isUnder_span (t : Entity) : t.isUnder t.span = true := by
  simp [isUnder, Span.contains_refl]

/-- On a lookup span that lies on one row, the row test adds nothing: for a query that does not
end before it starts, lying under it is containing it. -/
theorem isUnder_eq_contains {q : Span} {t : Entity} (ht : t.span.stop.row = t.span.start.row)
    (hq : q.start ≤ q.stop) : t.isUnder q = t.span.contains q := by
  unfold isUnder
  cases hc : t.span.contains q with
  | false => rw [Bool.and_false]
  | true =>
    have hrow : q.row = t.span.row := Span.row_eq_of_contains ht hq hc
    rw [hrow, decide_eq_true rfl, Bool.true_and]

end Entity

/-- **The first to pass a test is a given element** exactly when nothing ahead of the element's
first place passes it, provided the element itself does. -/
theorem find?_append_cons_eq_some_iff {α : Type} {p : α → Bool} {pre post : List α} {x : α}
    (hx : x ∉ pre) (hp : p x = true) :
    (pre ++ x :: post).find? p = some x ↔ ∀ y ∈ pre, p y = false := by
  induction pre with
  | nil => simp [hp]
  | cons y pre ih =>
    have hxy : x ≠ y := fun h => hx (h ▸ List.mem_cons_self)
    have hrest : x ∉ pre := fun h => hx (List.mem_cons_of_mem y h)
    rw [List.cons_append, List.find?_cons, List.forall_mem_cons]
    cases hy : p y
    · -- `y` fails the test, and the search goes on past it
      simp only [ih hrest, true_and]
    · -- `y` passes the test and is found, but it is not `x`
      simp only [Option.some.injEq, Bool.true_eq_false, false_and, iff_false]
      exact fun h => hxy h.symm

namespace Analysis

/-- **The order a cursor tries entities in**: local usages, var usages, local bindings and var
definitions, each kind in emission order. -/
def precedence (a : Analysis) : List Entity :=
  a.localUsages.map .localUsage ++ a.varUsages.map .varUsage ++ a.locals.map .localBinding ++
    a.varDefinitions.map .varDefinition

/-- The order a cursor tries namespace entities in: usages, then definitions. -/
def namespacePrecedence (a : Analysis) : List Entity :=
  a.namespaceUsages.map .namespaceUsage ++ a.namespaceDefinitions.map .namespaceDefinition

theorem mem_entities_of_mem_precedence {a : Analysis} {t : Entity} (h : t ∈ a.precedence) :
    t ∈ a.entities := by
  simp only [precedence, List.mem_append, List.mem_map] at h
  simp only [entities, definitions, usages, List.mem_append, List.mem_map]
  rcases h with ((⟨u, hu, rfl⟩ | ⟨u, hu, rfl⟩) | ⟨b, hb, rfl⟩) | ⟨d, hd, rfl⟩
  · exact .inr (.inl (.inl ⟨u, hu, rfl⟩))
  · exact .inr (.inl (.inr ⟨u, hu, rfl⟩))
  · exact .inl (.inl (.inl ⟨b, hb, rfl⟩))
  · exact .inl (.inl (.inr ⟨d, hd, rfl⟩))

theorem mem_entities_of_mem_namespacePrecedence {a : Analysis} {t : Entity}
    (h : t ∈ a.namespacePrecedence) : t ∈ a.entities := by
  simp only [namespacePrecedence, List.mem_append, List.mem_map] at h
  simp only [entities, definitions, usages, List.mem_append, List.mem_map]
  rcases h with ⟨u, hu, rfl⟩ | ⟨d, hd, rfl⟩
  · exact .inr (.inr ⟨u, hu, rfl⟩)
  · exact .inl (.inr ⟨d, hd, rfl⟩)

end Analysis

/-- A row's records searched for a query are the whole list searched for a record whose entity
lies under the query. -/
theorem find?_onRow {α : Type} (xs : List α) (extent : α → Extent) (mk : α → Entity)
    (hspan : ∀ a, (mk a).span = (extent a).span) (q : Span) :
    (xs.filter (fun a => (extent a).span.row = q.row)).find? (fun a => (extent a).span.contains q) =
      xs.find? ((Entity.isUnder q) ∘ mk) := by
  rw [List.find?_filter]
  congr 1
  funext a
  simp only [Function.comp_apply, Entity.isUnder, hspan, Bool.decide_and, decide_eq_true_eq,
    Bool.decide_eq_true]

namespace Snapshot

variable (r : Report)

/-- In a built snapshot, the entity under a query is the first of the precedence order that lies
under it. -/
theorem resolveAt_build (q : Span) :
    (build r).resolveAt q = r.analysis.precedence.find? (·.isUnder q) := by
  simp only [resolveAt, localUsagesOnRow_build, varUsagesOnRow_build, localsOnRow_build,
    varsOnRow_build]
  rw [find?_onRow _ LocalUsage.extent Entity.localUsage (fun _ => rfl),
    find?_onRow _ VarUsage.extent Entity.varUsage (fun _ => rfl),
    find?_onRow _ LocalBinding.extent Entity.localBinding (fun _ => rfl),
    find?_onRow _ VarDefinition.extent Entity.varDefinition (fun _ => rfl)]
  simp only [Analysis.precedence, List.find?_append, List.find?_map]
  -- each bucket is tried only when the ones before it found nothing
  cases r.analysis.localUsages.find? ((Entity.isUnder q) ∘ Entity.localUsage) <;>
    cases r.analysis.varUsages.find? ((Entity.isUnder q) ∘ Entity.varUsage) <;>
    cases r.analysis.locals.find? ((Entity.isUnder q) ∘ Entity.localBinding) <;> rfl

/-- In a built snapshot, the namespace entity under a query is the first of the namespace order
that lies under it. -/
theorem resolveNamespaceAt_build (q : Span) :
    (build r).resolveNamespaceAt q = r.analysis.namespacePrecedence.find? (·.isUnder q) := by
  simp only [resolveNamespaceAt, namespaceUsagesOnRow_build, namespacesOnRow_build]
  rw [find?_onRow _ NamespaceUsage.extent Entity.namespaceUsage (fun _ => rfl),
    find?_onRow _ NamespaceDefinition.extent Entity.namespaceDefinition (fun _ => rfl)]
  simp only [Analysis.namespacePrecedence, List.find?_append, List.find?_map]
  cases r.analysis.namespaceUsages.find? ((Entity.isUnder q) ∘ Entity.namespaceUsage) <;> rfl

/-- What a cursor lands on in a built snapshot is an entity of its analysis. -/
theorem mem_entities_of_entityAt {q : Span} {t : Entity} (h : (build r).entityAt q = some t) :
    t ∈ r.analysis.entities := by
  rw [entityAt, resolveAt_build, resolveNamespaceAt_build] at h
  cases hfound : r.analysis.precedence.find? (·.isUnder q) with
  | some u =>
    rw [hfound, Option.orElse_some, Option.some_inj] at h
    exact Analysis.mem_entities_of_mem_precedence (h ▸ List.mem_of_find?_eq_some hfound)
  | none =>
    rw [hfound, Option.orElse_none] at h
    exact Analysis.mem_entities_of_mem_namespacePrecedence (List.mem_of_find?_eq_some h)

/-- Searching an order for an entity's own span finds something, and finds the entity exactly
when nothing ahead of its first place lies under that span. -/
theorem find?_isUnder_span {order pre post : List Entity} {t : Entity}
    (horder : order = pre ++ t :: post) (hfirst : t ∉ pre) :
    (order.find? (·.isUnder t.span)).isSome ∧
      (order.find? (·.isUnder t.span) = some t ↔ ∀ x ∈ pre, x.isUnder t.span = false) := by
  subst horder
  refine ⟨List.find?_isSome.2 ⟨t, List.mem_append_right _ List.mem_cons_self, t.isUnder_span⟩, ?_⟩
  exact find?_append_cons_eq_some_iff hfirst t.isUnder_span

/-- **Resolving a cursor is one scan of the analysis.** In a snapshot built from any report, the
entity under a query span is the first entity of the precedence order (local usages, var usages,
local bindings, var definitions, each in emission order) whose lookup span starts on the query's
row and contains the query, and nothing when none does; containment compares positions
lexicographically on row and column. Namespace entities are resolved the same way over namespace
usages, then namespace definitions, and a cursor lands on a local or var entity, else on a
namespace entity, in a snapshot as in a buffer of a session. Resolving at an entity's own span always finds something, and finds the entity
itself exactly when nothing ahead of its first place in its order lies under that span. -/
theorem resolveAt_first_under (q : Span) :
    (build r).resolveAt q = r.analysis.precedence.find? (·.isUnder q) ∧
    (build r).resolveNamespaceAt q = r.analysis.namespacePrecedence.find? (·.isUnder q) ∧
    (build r).entityAt q = ((build r).resolveAt q).orElse (fun _ => (build r).resolveNamespaceAt q) ∧
    (∀ (sess : Session) (b : Nat), sess.entityAt b q = (sess.store.snapshot? b).bind fun snap =>
      (snap.resolveAt q).orElse fun _ => snap.resolveNamespaceAt q) ∧
    (∀ s t : Span, s.contains t = true ↔
      toLex (s.start.row, s.start.col) ≤ toLex (t.start.row, t.start.col) ∧
        toLex (t.stop.row, t.stop.col) ≤ toLex (s.stop.row, s.stop.col)) ∧
    (∀ pre t post, r.analysis.precedence = pre ++ t :: post → t ∉ pre →
      ((build r).resolveAt t.span).isSome ∧
        ((build r).resolveAt t.span = some t ↔ ∀ x ∈ pre, x.isUnder t.span = false)) ∧
    (∀ pre t post, r.analysis.namespacePrecedence = pre ++ t :: post → t ∉ pre →
      ((build r).resolveNamespaceAt t.span).isSome ∧
        ((build r).resolveNamespaceAt t.span = some t ↔ ∀ x ∈ pre, x.isUnder t.span = false)) := by
  refine ⟨resolveAt_build r q, resolveNamespaceAt_build r q, rfl, fun _ _ => rfl,
    Span.contains_iff_lex, ?_, ?_⟩
  · intro pre t post horder hfirst
    rw [resolveAt_build]
    exact find?_isUnder_span horder hfirst
  · intro pre t post horder hfirst
    rw [resolveNamespaceAt_build]
    exact find?_isUnder_span horder hfirst

/-- A usage of a local on row 2, under one name or another. -/
def twinUsage (name : String) : LocalUsage := ⟨1, name, .ofBounds 2 3 2 4, []⟩

/-- Two usages of one local at one span. -/
def twinUsageReport : Report :=
  { analysis := { localUsages := [twinUsage "x", twinUsage "y"] } }

/-- Two local usages at one span: resolving at the second's span finds the first, so resolving
an entity's own span does not always find the entity. -/
theorem resolveAt_coinciding_usages :
    (build twinUsageReport).resolveAt (Entity.localUsage (twinUsage "y")).span ≠
      some (.localUsage (twinUsage "y")) := by
  have hfirst : Entity.localUsage (twinUsage "y") ∉ [Entity.localUsage (twinUsage "x")] := by
    simp [twinUsage]
  have hfound := ((resolveAt_first_under twinUsageReport (Span.point ⟨2, 3⟩)).2.2.2.2.2.1
    [.localUsage (twinUsage "x")] (.localUsage (twinUsage "y")) [] rfl hfirst).2
  intro hself
  have hahead := hfound.1 hself (.localUsage (twinUsage "x")) List.mem_cons_self
  exact Bool.false_ne_true (hahead.symm.trans (by decide))

/-- **On one-row spans the row buckets lose nothing.** In a snapshot built from a report whose
entities each have their lookup span on one row, a query span that does not end before it
starts resolves to the first entity of the precedence order (local usages, var usages, local
bindings, var definitions, each in emission order) whose lookup span contains it, whatever row
that span starts on; namespace entities resolve the same way over namespace usages, then
namespace definitions. -/
theorem resolveAt_eq_unbucketed_scan (q : Span)
    (hrows : ∀ t ∈ r.analysis.entities, t.span.stop.row = t.span.start.row)
    (hq : q.start ≤ q.stop) :
    (build r).resolveAt q = r.analysis.precedence.find? (·.span.contains q) ∧
    (build r).resolveNamespaceAt q =
      r.analysis.namespacePrecedence.find? (·.span.contains q) := by
  have hsame : ∀ t ∈ r.analysis.entities, t.isUnder q = t.span.contains q :=
    fun t ht => Entity.isUnder_eq_contains (hrows t ht) hq
  constructor
  · rw [resolveAt_build]
    exact List.find?_congr fun t ht => hsame t (Analysis.mem_entities_of_mem_precedence ht)
  · rw [resolveNamespaceAt_build]
    exact List.find?_congr fun t ht =>
      hsame t (Analysis.mem_entities_of_mem_namespacePrecedence ht)

/-- A local bound on row 1 and used on row 2, each span on one row. -/
def rowPairReport : Report :=
  { analysis := { locals := [⟨1, "x", .ofBounds 1 7 1 8, none, none, []⟩],
                  localUsages := [⟨1, "x", .ofBounds 2 3 2 4, []⟩] } }

/-- The usage's span of `rowPairReport` resolves by the unbucketed scan. -/
theorem resolveAt_rowPair_unbucketed :
    (∀ t ∈ rowPairReport.analysis.entities, t.span.stop.row = t.span.start.row) ∧
    (⟨2, 3⟩ : Position) ≤ ⟨2, 4⟩ ∧
    (build rowPairReport).resolveAt ⟨⟨2, 3⟩, ⟨2, 4⟩⟩ =
      rowPairReport.analysis.precedence.find? (·.span.contains ⟨⟨2, 3⟩, ⟨2, 4⟩⟩) ∧
    (build rowPairReport).resolveNamespaceAt ⟨⟨2, 3⟩, ⟨2, 4⟩⟩ =
      rowPairReport.analysis.namespacePrecedence.find? (·.span.contains ⟨⟨2, 3⟩, ⟨2, 4⟩⟩) := by
  have hrows : ∀ t ∈ rowPairReport.analysis.entities, t.span.stop.row = t.span.start.row := by
    decide
  have hq : (⟨2, 3⟩ : Position) ≤ ⟨2, 4⟩ := by decide
  exact ⟨hrows, hq, resolveAt_eq_unbucketed_scan rowPairReport ⟨⟨2, 3⟩, ⟨2, 4⟩⟩ hrows hq⟩

end Snapshot

end CrossRef
