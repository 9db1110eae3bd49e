import Mathlib
import CrossRef.Session
import CrossRef.Proofs.StoreMap
/-!
Where a definition is: the buffer first, then the analyzer.

`Session.locateDefinition` reads the buffer's snapshot once and resolves the span there as a cursor
resolves it, local and var entities first, then namespace ones. An entity whose definition the
snapshot knows (a definition itself, a usage whose binding or definition the analysis holds) is
answered from the snapshot, with that definition's own file and lookup span. Only an entity
without one makes the session ask the analyzer, and it asks once, at the row and column where the
entity's lookup span starts. The answer's first var definition, else its first namespace
definition, is the place (`Session.firstDefinition_eq_head?`); a failed request is no place.

Each case is an equation that holds in every monad and for every transport. Where the right side
is `pure`, the transport does not occur in it, so nothing is asked; where the analyzer is asked,
the right side is one request bound to a pure function of its answer. A closed buffer has no
snapshot (`Store.snapshot?_eq_none_of_not_open`), so it answers nothing and asks nothing.
-/

namespace CrossRef

namespace Store

/-- A buffer that is not open has no snapshot. -/
theorem snapshot?_eq_none_of_not_open (s : Store) {b : Nat} (h : s.isOpen b = false) :
    s.snapshot? b = none := by
  have hnot : b ∉ s.buffers.map (·.1) := fun hmem => by
    rw [← isOpen_iff_mem, h] at hmem
    exact Bool.false_ne_true hmem
  have hget : s.get? b = none := by
    rw [← Option.not_isSome_iff_eq_none, get?_isSome_iff]
    exact hnot
  rw [snapshot?, hget, Option.map_none]

end Store

namespace Session

/-- The definition an analyzer's answer points at is the first of its var definitions followed by
its namespace definitions. -/
theorem firstDefinition_eq_head? (a : Analysis) :
    firstDefinition a = (a.varDefinitions.map Entity.varDefinition ++
      a.namespaceDefinitions.map Entity.namespaceDefinition).head? := by
  unfold firstDefinition
  cases a.varDefinitions with
  | nil => rw [List.map_nil, List.nil_append, List.head?_map]
  | cons d ds => rw [List.map_cons, List.cons_append, List.head?_cons]

variable {m : Type → Type} [Monad m] (t : Transport m) (s : Session) (b : Nat) (q : Span)
  (root filename : String)

/-- A buffer without a snapshot answers nothing, and the transport is not asked. -/
theorem locateDefinition_of_snapshot?_none (h : s.store.snapshot? b = none) :
    s.locateDefinition t b q root filename = pure none := by
  simp only [locateDefinition, h]

section Snapshot

variable {snap : Snapshot} (hs : s.store.snapshot? b = some snap)
include hs

/-- Nothing under the span: no answer, and the transport is not asked. -/
theorem locateDefinition_of_entityAt_none (he : snap.entityAt q = none) :
    s.locateDefinition t b q root filename = pure none := by
  simp only [locateDefinition, hs, he]

/-- **A definition the snapshot knows** is the answer, and the transport is not asked. -/
theorem locateDefinition_of_definitionOf {e d : Entity} (he : snap.entityAt q = some e)
    (hd : snap.definitionOf e = some d) :
    s.locateDefinition t b q root filename = pure (some (Location.ofEntity d)) := by
  simp only [locateDefinition, hs, he, hd]

/-- **An entity without a definition in the snapshot**: one request to the analyzer at the row
and column where the entity's lookup span starts, then a pure function of the answer. -/
theorem locateDefinition_of_definitionOf_none {e : Entity} (he : snap.entityAt q = some e)
    (hd : snap.definitionOf e = none) :
    s.locateDefinition t b q root filename =
      t (.findDefinitions root filename e.span.start.row e.span.start.col) >>= fun ans =>
        pure ((ans.toOption.bind (firstDefinition ·.analysis)).map Location.ofEntity) := by
  simp only [locateDefinition, hs, he, hd]
  -- a failed answer gives nothing, an answer its first definition's place
  congr 1
  funext ans
  cases ans <;> rfl

end Snapshot

/-- **Definitions are looked up in the buffer first, then asked of the analyzer once.** In any
monad and with any transport: a buffer that is not open answers nothing and sends nothing. In an
open buffer's snapshot the span is resolved to a local or var entity, else to a namespace entity;
when nothing is there the answer is nothing, and nothing is sent. When the snapshot knows the
entity's definition, the answer is that definition's file and lookup span, and nothing is sent.
Otherwise exactly one `find_definitions` request is sent, with the root, the file name and the row
and column where the entity's lookup span starts; a failed request answers nothing, and an answer
gives the place of its first var definition, else of its first namespace definition, else
nothing. -/
theorem locateDefinition_buffer_then_analyzer :
    (s.store.isOpen b = false → s.locateDefinition t b q root filename = pure none) ∧
    ∀ snap, s.store.snapshot? b = some snap →
      ((snap.resolveAt q).orElse (fun _ => snap.resolveNamespaceAt q) = none →
        s.locateDefinition t b q root filename = pure none) ∧
      (∀ e d, (snap.resolveAt q).orElse (fun _ => snap.resolveNamespaceAt q) = some e →
        snap.definitionOf e = some d →
        s.locateDefinition t b q root filename = pure (some ⟨d.extent.filename, d.span⟩)) ∧
      (∀ e, (snap.resolveAt q).orElse (fun _ => snap.resolveNamespaceAt q) = some e →
        snap.definitionOf e = none →
        s.locateDefinition t b q root filename =
          t (.findDefinitions root filename e.span.start.row e.span.start.col) >>= fun ans =>
            match ans with
            | .error _ => pure none
            | .ok resp => pure ((resp.analysis.varDefinitions.map Entity.varDefinition ++
                resp.analysis.namespaceDefinitions.map Entity.namespaceDefinition).head?.map
                  fun d => ⟨d.extent.filename, d.span⟩)) := by
  refine ⟨fun hclosed => ?_, fun snap hs => ⟨fun he => ?_, fun e d he hd => ?_, fun e he hd => ?_⟩⟩
  · exact locateDefinition_of_snapshot?_none t s b q root filename
      (s.store.snapshot?_eq_none_of_not_open hclosed)
  · exact locateDefinition_of_entityAt_none t s b q root filename hs he
  · exact locateDefinition_of_definitionOf t s b q root filename hs he hd
  · -- the answer's place is read off `firstDefinition` as the head of one list
    rw [locateDefinition_of_definitionOf_none t s b q root filename hs he hd]
    congr 1
    funext ans
    cases ans with
    | error _ => rfl
    | ok resp => simp only [Except.toOption, Option.bind_some, firstDefinition_eq_head?]; rfl

/-- A usage of `app.core/f` in `app.main`, on row 1; its analysis has no definition of it. -/
def foreignUsage : VarUsage := ⟨"app.main", "app.core", "f", none, none, .ofBounds 1 2 1 3, []⟩

/-- The definition of `app.core/f` in another file, as the analyzer reports it. -/
def foreignDefinition : VarDefinition :=
  ⟨"app.core", "f", none, { filename := some "src/app/core.clj", row := 7, col := 7 }, []⟩

/-- Buffer 1 holds the analysis of `foreignUsage` alone. -/
def foreignSnapshot : Snapshot := .build { analysis := { varUsages := [foreignUsage] } }

/-- A usage defined in another file is looked up by the analyzer, and lands on the definition
the analyzer reports. -/
theorem foreignUsage_located_by_analyzer :
    (⟨{ buffers := [(1, { snapshot := foreignSnapshot })] }, {}⟩ : Session).store.snapshot? 1 =
      some foreignSnapshot ∧
    (foreignSnapshot.resolveAt (.point ⟨1, 2⟩)).orElse
      (fun _ => foreignSnapshot.resolveNamespaceAt (.point ⟨1, 2⟩)) = some (.varUsage foreignUsage) ∧
    foreignSnapshot.definitionOf (.varUsage foreignUsage) = none ∧
    (((⟨{ buffers := [(1, { snapshot := foreignSnapshot })] }, {}⟩ : Session).locateDefinition
        Script.transport 1 (.point ⟨1, 2⟩) "/p" "src/app/main.clj").run
      { answers := [.ok { analysis := { varDefinitions := [foreignDefinition] } }] }).1 =
      some ⟨some "src/app/core.clj", .point ⟨7, 7⟩⟩ := by
  have hs : (⟨{ buffers := [(1, { snapshot := foreignSnapshot })] }, {}⟩ : Session).store.snapshot? 1 =
      some foreignSnapshot := rfl
  have he : (foreignSnapshot.resolveAt (.point ⟨1, 2⟩)).orElse
      (fun _ => foreignSnapshot.resolveNamespaceAt (.point ⟨1, 2⟩)) =
      some (.varUsage foreignUsage) := rfl
  have hd : foreignSnapshot.definitionOf (.varUsage foreignUsage) = none := rfl
  refine ⟨hs, he, hd, ?_⟩
  rw [((locateDefinition_buffer_then_analyzer Script.transport _ 1 (.point ⟨1, 2⟩) "/p"
    "src/app/main.clj").2 foreignSnapshot hs).2.2 _ he hd]
  rfl

end Session

end CrossRef
