import Mathlib
import CrossRef.Resolve
import CrossRef.Proofs.Index
import CrossRef.Proofs.SelfEquality
/-!
The occurrences of a symbol: its definition, when it has one, then exactly its usages.

`occurrences` is written kind by kind, with a different key for each: the binding's id, the
var's namespace and name, the usage's source namespace, namespace and name, the namespace's
name. What ties the six cases together is the identity: the items after the leading
definition are the usages of the analysis whose identity is the entity's own
(`items_occurrences`). Each case comes down to one of four ways of filtering the usages by
identity (`usages_filter_localId`, `usages_filter_var`, `usages_filter_unresolvedVar`,
`usages_filter_ns`), and the definitions found by the snapshot's indices are those a scan
finds (`Snapshot.localById_build` and its siblings).

Looking the entity up asks that it equal itself, so that it hold no `NaN`; every entity read from
an analyzer's answer does (`Response.entities_nanFree_of_decode`).

Main statement: `occurrences_definition_then_usages`.
-/

namespace CrossRef

/-- Nothing satisfies the predicate that always fails. -/
theorem find?_false_eq_none {α : Type} (l : List α) : l.find? (fun _ => false) = none :=
  List.find?_eq_none.2 (by simp)

namespace Analysis

/-- The definitions of an analysis as entities: bindings, then var and namespace definitions. -/
def definitions (a : Analysis) : List Entity :=
  a.locals.map .localBinding ++ a.varDefinitions.map .varDefinition ++
    a.namespaceDefinitions.map .namespaceDefinition

/-- The usages of an analysis as entities: local usages, then var and namespace usages. -/
def usages (a : Analysis) : List Entity :=
  a.localUsages.map .localUsage ++ a.varUsages.map .varUsage ++
    a.namespaceUsages.map .namespaceUsage

/-- Every entity of an analysis. -/
def entities (a : Analysis) : List Entity := a.definitions ++ a.usages

variable {a : Analysis} {t : Entity}

theorem isDefinition_of_mem_definitions (h : t ∈ a.definitions) : t.isDefinition = true := by
  simp only [definitions, List.mem_append, List.mem_map] at h
  rcases h with (⟨_, _, rfl⟩ | ⟨_, _, rfl⟩) | ⟨_, _, rfl⟩ <;> rfl

theorem not_isDefinition_of_mem_usages (h : t ∈ a.usages) : t.isDefinition = false := by
  simp only [usages, List.mem_append, List.mem_map] at h
  rcases h with (⟨_, _, rfl⟩ | ⟨_, _, rfl⟩) | ⟨_, _, rfl⟩ <;> rfl

/-- An entity of an analysis that is no definition is one of its usages. -/
theorem mem_usages_of_mem_entities (h : t ∈ a.entities) (hd : t.isDefinition = false) :
    t ∈ a.usages := by
  rcases List.mem_append.1 h with h | h
  · rw [isDefinition_of_mem_definitions h] at hd
    cases hd
  · exact h

end Analysis

namespace Occurrences

/-- Looking up an item that equals itself finds it. -/
theorem positionOf_isSome {o : Occurrences} {t : Entity} (hmem : t ∈ o.items)
    (hself : (t == t) = true) : (o.positionOf t).isSome := by
  rw [positionOf, List.findIdx?_isSome, List.any_eq_true]
  exact ⟨t, hmem, hself⟩

end Occurrences

namespace Snapshot

variable (s : Snapshot)

@[simp] theorem identity_localUsage (u : LocalUsage) :
    s.identity (.localUsage u) = .localId u.id := rfl

@[simp] theorem identity_localBinding (b : LocalBinding) :
    s.identity (.localBinding b) = .localId b.id := rfl

@[simp] theorem identity_varDefinition (d : VarDefinition) :
    s.identity (.varDefinition d) = .var d.qualifiedName := rfl

@[simp] theorem identity_namespaceUsage (u : NamespaceUsage) :
    s.identity (.namespaceUsage u) = .ns u.target := rfl

@[simp] theorem identity_namespaceDefinition (d : NamespaceDefinition) :
    s.identity (.namespaceDefinition d) = .ns d.name := rfl

/-- A var usage is resolved when its target is defined. -/
@[simp] theorem identity_varUsage (u : VarUsage) :
    s.identity (.varUsage u) = if (s.varByName u.qualifiedTarget).isSome
      then .var u.qualifiedTarget else .unresolvedVar u.source u.qualifiedTarget := by
  cases h : s.varByName u.qualifiedTarget <;>
    simp [identity, definitionOfVarUsage, h, Entity.ownIdentity]

/-- A var usage has a defined var's identity exactly when it names that var. -/
theorem identity_varUsage_eq_var_iff (u : VarUsage) (q : QualifiedName) :
    s.identity (.varUsage u) = .var q ↔ u.qualifiedTarget = q ∧ (s.varByName q).isSome := by
  rw [identity_varUsage]
  by_cases h : u.qualifiedTarget = q
  · subst h
    cases s.varByName u.qualifiedTarget <;> simp
  · split <;> simp [h]

/-- A var usage is unresolved from a namespace exactly when it is from there and names an
undefined var. -/
theorem identity_varUsage_eq_unresolvedVar_iff (u : VarUsage) (source : String)
    (q : QualifiedName) :
    s.identity (.varUsage u) = .unresolvedVar source q ↔
      u.source = source ∧ u.qualifiedTarget = q ∧ s.varByName q = none := by
  rw [identity_varUsage]
  by_cases h : u.qualifiedTarget = q
  · subst h
    cases s.varByName u.qualifiedTarget <;> simp
  · split <;> simp [h]

/-! ## The usages of one identity -/

/-- The usages of a local are the local usages with its id. -/
theorem usages_filter_localId (k : Nat) :
    s.analysis.usages.filter (s.identity · = .localId k) =
      (s.analysis.localUsages.filter (·.id = k)).map .localUsage := by
  simp [Analysis.usages, List.filter_append, List.filter_map, Function.comp_def, ite_eq_iff]

/-- The usages of a defined var are the var usages of its qualified name. -/
theorem usages_filter_var (q : QualifiedName) (hq : (s.varByName q).isSome) :
    s.analysis.usages.filter (s.identity · = .var q) =
      (s.analysis.varUsages.filter (·.qualifiedTarget = q)).map .varUsage := by
  simp only [Analysis.usages, List.filter_append, List.filter_map, Function.comp_def,
    identity_localUsage, identity_namespaceUsage, identity_varUsage_eq_var_iff, hq, and_true]
  simp

/-- The usages of an undefined var from one namespace are the var usages of its qualified name
from that namespace. -/
theorem usages_filter_unresolvedVar (source : String) (q : QualifiedName)
    (hq : s.varByName q = none) :
    s.analysis.usages.filter (s.identity · = .unresolvedVar source q) =
      (s.analysis.varUsages.filter (fun v => v.source = source ∧ v.qualifiedTarget = q)).map
        .varUsage := by
  simp only [Analysis.usages, List.filter_append, List.filter_map, Function.comp_def,
    identity_localUsage, identity_namespaceUsage, identity_varUsage_eq_unresolvedVar_iff, hq,
    and_true]
  simp

/-- The usages of a namespace are the namespace usages of its name. -/
theorem usages_filter_ns (n : String) :
    s.analysis.usages.filter (s.identity · = .ns n) =
      (s.analysis.namespaceUsages.filter (·.target = n)).map .namespaceUsage := by
  simp [Analysis.usages, List.filter_append, List.filter_map, Function.comp_def, ite_eq_iff]

theorem usagesOfVar_eq (d : VarDefinition) :
    s.usagesOfVar d = s.analysis.varUsages.filter (·.qualifiedTarget = d.qualifiedName) := by
  simp [usagesOfVar, VarUsage.qualifiedTarget, VarDefinition.qualifiedName]

theorem usagesLike_eq (u : VarUsage) :
    s.usagesLike u = s.analysis.varUsages.filter
      (fun v => v.source = u.source ∧ v.qualifiedTarget = u.qualifiedTarget) := by
  simp [usagesLike, VarUsage.qualifiedTarget]

/-! ## The occurrences of the entities of a built snapshot -/

variable (r : Report)

/-- A var definition of the analysis makes its qualified name defined. -/
theorem varByName_isSome_build {d : VarDefinition} (hd : d ∈ r.analysis.varDefinitions) :
    ((build r).varByName d.qualifiedName).isSome := by
  rw [varByName_build]
  exact List.find?_isSome.2 ⟨d, hd, by simp⟩

/-- **The items of an entity's occurrences** are its definition, when it has one, then the
usages of its identity in emission order. -/
theorem items_occurrences (t : Entity) (ht : t ∈ r.analysis.entities) :
    ((build r).occurrences t).items =
      ((build r).definitionOf t).toList ++
        (build r).analysis.usages.filter ((build r).identity · = (build r).identity t) := by
  cases t with
  | localUsage u =>
    rw [identity_localUsage, usages_filter_localId]
    cases hb : (build r).bindingOf u with
    | none => simp [occurrences, definitionOf, hb, localUsagesWithId]
    | some b =>
      -- the binding found carries the usage's id
      have hid : b.id = u.id := by
        rw [bindingOf, localById_build] at hb
        simpa using List.find?_some hb
      simp [occurrences, definitionOf, hb, bindingItems, usagesOfBinding, localUsagesWithId, hid]
  | localBinding b =>
    rw [identity_localBinding, usages_filter_localId]
    simp [occurrences, definitionOf, bindingItems, usagesOfBinding, localUsagesWithId]
  | varDefinition d =>
    have hd : d ∈ r.analysis.varDefinitions := by
      simpa [Analysis.entities, Analysis.definitions, Analysis.usages] using ht
    rw [identity_varDefinition, usages_filter_var _ _ (varByName_isSome_build r hd)]
    simp [occurrences, definitionOf, varItems, usagesOfVar_eq]
  | varUsage u =>
    cases hd : (build r).definitionOfVarUsage u with
    | none =>
      have hq : (build r).varByName u.qualifiedTarget = none := hd
      rw [identity_varUsage, hq, Option.isSome_none, if_neg Bool.false_ne_true,
        usages_filter_unresolvedVar _ _ _ hq]
      simp [occurrences, definitionOf, hd, usagesLike_eq]
    | some d =>
      -- the definition found is among the definitions and defines the usage's target
      obtain ⟨hmem, hq⟩ : d ∈ r.analysis.varDefinitions ∧ d.qualifiedName = u.qualifiedTarget := by
        rw [definitionOfVarUsage, varByName_build] at hd
        exact ⟨List.mem_of_find?_eq_some hd, by simpa using List.find?_some hd⟩
      have hsome : ((build r).varByName u.qualifiedTarget).isSome :=
        hq ▸ varByName_isSome_build r hmem
      rw [identity_varUsage, if_pos hsome, usages_filter_var _ _ hsome]
      simp [occurrences, definitionOf, hd, varItems, usagesOfVar_eq, hq]
  | namespaceUsage u =>
    rw [identity_namespaceUsage, usages_filter_ns]
    cases hd : (build r).definitionOfNamespaceUsage u with
    | none => simp [occurrences, definitionOf, hd, namespaceUsagesTo]
    | some d =>
      -- the definition found has the usage's target as its name
      have hn : d.name = u.target := by
        rw [definitionOfNamespaceUsage, namespaceByName_build] at hd
        simpa using List.find?_some hd
      simp [occurrences, definitionOf, hd, namespaceItems, usagesOfNamespace, namespaceUsagesTo,
        hn]
  | namespaceDefinition d =>
    rw [identity_namespaceDefinition, usages_filter_ns]
    simp [occurrences, definitionOf, namespaceItems, usagesOfNamespace, namespaceUsagesTo]

/-- A definition is its own definition. -/
theorem definitionOf_of_isDefinition (s : Snapshot) {t : Entity} (h : t.isDefinition = true) :
    s.definitionOf t = some t := by
  cases t <;> first | rfl | cases h

/-- What `definitionOf` finds is a definition. -/
theorem isDefinition_of_definitionOf (s : Snapshot) {t d : Entity}
    (h : s.definitionOf t = some d) : d.isDefinition = true := by
  cases t <;> simp only [definitionOf, Option.map_eq_some_iff] at h <;>
    obtain ⟨_, _, rfl⟩ := h <;> rfl

/-- **The definition of a usage is the first definition with its own identity**, in the order
bindings, var definitions, namespace definitions; a definition is its own. -/
theorem definitionOf_build (t : Entity) :
    (build r).definitionOf t = if t.isDefinition then some t
      else r.analysis.definitions.find? (·.ownIdentity = t.ownIdentity) := by
  cases t <;>
    simp [definitionOf, bindingOf, definitionOfVarUsage, definitionOfNamespaceUsage,
      Entity.isDefinition, Analysis.definitions, List.find?_append, List.find?_map,
      Entity.ownIdentity, find?_false_eq_none]

/-- An entity of the analysis is among its own occurrences. -/
theorem mem_items_occurrences (t : Entity) (ht : t ∈ r.analysis.entities) :
    t ∈ ((build r).occurrences t).items := by
  rw [items_occurrences r t ht, List.mem_append]
  cases hd : t.isDefinition
  · exact .inr (List.mem_filter.2 ⟨Analysis.mem_usages_of_mem_entities ht hd, by simp⟩)
  · exact .inl (by simp [definitionOf_of_isDefinition _ hd])

/-- The definitions among the occurrences: the leading one, or none. -/
theorem filter_isDefinition_items (t : Entity) (ht : t ∈ r.analysis.entities) :
    ((build r).occurrences t).items.filter (·.isDefinition) = ((build r).definitionOf t).toList := by
  rw [items_occurrences r t ht, List.filter_append]
  have husages : ((build r).analysis.usages.filter ((build r).identity · = (build r).identity t)).filter
      (·.isDefinition) = [] :=
    List.filter_eq_nil_iff.2 fun u hu =>
      by simp [Analysis.not_isDefinition_of_mem_usages (List.mem_of_mem_filter hu)]
  cases hd : (build r).definitionOf t with
  | none => simp [husages]
  | some d => simp [husages, isDefinition_of_definitionOf _ hd]

/-- **The occurrences of an entity of a built snapshot.** They carry the entity's identity;
the entity is among them, so looking it up finds it; they are its definition, when it has one,
then the usages of the analysis with the same identity in emission order, and no other
definition; and that definition is the entity itself when it is a definition, otherwise the
first definition with its own identity. -/
theorem occurrences_definition_then_usages (t : Entity) (ht : t ∈ r.analysis.entities)
    (hnan : t.NaNFree) :
    ((build r).occurrences t).id = (build r).identity t ∧
    t ∈ ((build r).occurrences t).items ∧
    (((build r).occurrences t).positionOf t).isSome ∧
    ((build r).occurrences t).items =
      ((build r).definitionOf t).toList ++
        r.analysis.usages.filter ((build r).identity · = (build r).identity t) ∧
    ((build r).occurrences t).items.filter (·.isDefinition) = ((build r).definitionOf t).toList ∧
    (build r).definitionOf t = if t.isDefinition then some t
      else r.analysis.definitions.find? (·.ownIdentity = t.ownIdentity) :=
  ⟨rfl, mem_items_occurrences r t ht,
    Occurrences.positionOf_isSome (mem_items_occurrences r t ht) (t.beq_self hnan),
    items_occurrences r t ht, filter_isDefinition_items r t ht, definitionOf_build r t⟩

/-- A usage of a local whose binding the analysis does not have. -/
def ghostUsage (row : Nat) : LocalUsage := ⟨42, "ghost", { row, col := 2 }, []⟩

/-- Two usages of one unbound local. -/
def ghostReport : Report := { analysis := { localUsages := [ghostUsage 1, ghostUsage 2] } }

theorem ghost_usage_occurrences :
    Entity.localUsage (ghostUsage 1) ∈ ghostReport.analysis.entities ∧
    (Entity.localUsage (ghostUsage 1)).NaNFree ∧
    ((build ghostReport).occurrences (.localUsage (ghostUsage 1))).id =
      (build ghostReport).identity (.localUsage (ghostUsage 1)) ∧
    Entity.localUsage (ghostUsage 1) ∈
      ((build ghostReport).occurrences (.localUsage (ghostUsage 1))).items ∧
    (((build ghostReport).occurrences (.localUsage (ghostUsage 1))).positionOf
      (.localUsage (ghostUsage 1))).isSome ∧
    ((build ghostReport).occurrences (.localUsage (ghostUsage 1))).items =
      ((build ghostReport).definitionOf (.localUsage (ghostUsage 1))).toList ++
        ghostReport.analysis.usages.filter
          ((build ghostReport).identity · = (build ghostReport).identity (.localUsage (ghostUsage 1))) ∧
    ((build ghostReport).occurrences (.localUsage (ghostUsage 1))).items.filter (·.isDefinition) =
      ((build ghostReport).definitionOf (.localUsage (ghostUsage 1))).toList ∧
    (build ghostReport).definitionOf (.localUsage (ghostUsage 1)) =
      if (Entity.localUsage (ghostUsage 1)).isDefinition then some (.localUsage (ghostUsage 1))
      else ghostReport.analysis.definitions.find?
        (·.ownIdentity = (Entity.localUsage (ghostUsage 1)).ownIdentity) := by
  have hmem : Entity.localUsage (ghostUsage 1) ∈ ghostReport.analysis.entities := by
    simp [ghostReport, Analysis.entities, Analysis.usages]
  have hnan : (Entity.localUsage (ghostUsage 1)).NaNFree := by
    simp [ghostUsage, Entity.NaNFree, Entity.extra, Json.FieldsNaNFree]
  exact ⟨hmem, hnan, occurrences_definition_then_usages ghostReport _ hmem hnan⟩

end Snapshot

end CrossRef
