import CrossRef.Snapshot
import CrossRef.Entity
/-!
What is under a cursor, where it is defined, and where else it occurs.

**Under a cursor.** Only entities found on the cursor's start row are considered. Local usages
are tried first, then var usages, local bindings and var definitions; within a kind the first in
emission order whose lookup span contains the cursor wins. Namespaces are resolved separately,
usages before definitions.

**Counterparts.** A local usage's binding is the first binding with its id; a var usage's
definition the first definition of its target; a namespace usage's definition the first
definition of its target namespace. The usages of a binding are the local usages with its id, of
a var definition the var usages of its namespace and name, of a namespace definition the
namespace usages of its name.

**Occurrences.** A symbol's occurrences are its definition, when there is one, followed by its
usages in emission order. A usage without a definition has only usages: an unbound local usage
those with its id, an undefined var usage those from the same namespace to the same target, an
undefined namespace usage those to the same namespace.
-/

namespace CrossRef

namespace Snapshot

/-- **The entity under a span**, of the four local and var kinds. -/
def resolveAt (s : Snapshot) (q : Span) : Option Entity :=
  let row := q.row
  match (s.localUsagesOnRow row).find? (·.extent.span.contains q) with
  | some u => some (.localUsage u)
  | none =>
  match (s.varUsagesOnRow row).find? (·.extent.span.contains q) with
  | some u => some (.varUsage u)
  | none =>
  match (s.localsOnRow row).find? (·.extent.span.contains q) with
  | some b => some (.localBinding b)
  | none => ((s.varsOnRow row).find? (·.extent.span.contains q)).map .varDefinition

/-- The entity at a position. -/
def resolveAtPosition (s : Snapshot) (p : Position) : Option Entity := s.resolveAt (Span.point p)

/-- **The namespace entity under a span.** -/
def resolveNamespaceAt (s : Snapshot) (q : Span) : Option Entity :=
  let row := q.row
  match (s.namespaceUsagesOnRow row).find? (·.extent.span.contains q) with
  | some u => some (.namespaceUsage u)
  | none => ((s.namespacesOnRow row).find? (·.extent.span.contains q)).map .namespaceDefinition

/-- What a cursor lands on: a local or var entity, else a namespace entity. -/
def entityAt (s : Snapshot) (q : Span) : Option Entity :=
  (s.resolveAt q).orElse fun _ => s.resolveNamespaceAt q

/-- The binding of a local usage. -/
def bindingOf (s : Snapshot) (u : LocalUsage) : Option LocalBinding := s.localById u.id

/-- The local usages with an id. -/
def localUsagesWithId (s : Snapshot) (id : Nat) : List LocalUsage :=
  s.analysis.localUsages.filter (·.id = id)

/-- The usages of a binding. -/
def usagesOfBinding (s : Snapshot) (b : LocalBinding) : List LocalUsage :=
  s.localUsagesWithId b.id

/-- The definition of a var usage. -/
def definitionOfVarUsage (s : Snapshot) (u : VarUsage) : Option VarDefinition :=
  s.varByName u.qualifiedTarget

/-- The usages of a var definition. -/
def usagesOfVar (s : Snapshot) (d : VarDefinition) : List VarUsage :=
  s.analysis.varUsages.filter fun u => u.target = d.ns ∧ u.name = d.name

/-- The var usages from the same namespace to the same target. -/
def usagesLike (s : Snapshot) (u : VarUsage) : List VarUsage :=
  s.analysis.varUsages.filter fun v => v.source = u.source ∧ v.target = u.target ∧ v.name = u.name

/-- The definition of a namespace usage. -/
def definitionOfNamespaceUsage (s : Snapshot) (u : NamespaceUsage) :
    Option NamespaceDefinition :=
  s.namespaceByName u.target

/-- The namespace usages to a namespace. -/
def namespaceUsagesTo (s : Snapshot) (name : String) : List NamespaceUsage :=
  s.analysis.namespaceUsages.filter (·.target = name)

/-- The usages of a namespace definition. -/
def usagesOfNamespace (s : Snapshot) (d : NamespaceDefinition) : List NamespaceUsage :=
  s.namespaceUsagesTo d.name

/-- **Where an entity is defined**: a usage's definition if there is one; a definition is its
own. -/
def definitionOf (s : Snapshot) : Entity → Option Entity
  | .localUsage u => (s.bindingOf u).map .localBinding
  | .varUsage u => (s.definitionOfVarUsage u).map .varDefinition
  | .namespaceUsage u => (s.definitionOfNamespaceUsage u).map .namespaceDefinition
  | t => some t

/-- **The identity of an entity**: a var usage without a definition is unresolved, every other
entity has its own identity. -/
def identity (s : Snapshot) (t : Entity) : Identity :=
  match t with
  | .varUsage u =>
    match s.definitionOfVarUsage u with
    | none => .unresolvedVar u.source u.qualifiedTarget
    | some _ => t.ownIdentity
  | _ => t.ownIdentity

end Snapshot

/-- A symbol and the entities where it occurs. -/
structure Occurrences where
  id : Identity
  items : List Entity
  deriving Inhabited

namespace Occurrences

/-- The usages among the occurrences. -/
def usages (o : Occurrences) : List Entity := o.items.filter (!·.isDefinition)

/-- The index of the first item equal to an entity. -/
def positionOf (o : Occurrences) (t : Entity) : Option Nat := o.items.findIdx? (· == t)

/-- The lookup spans of the items. -/
def spans (o : Occurrences) : List Span := o.items.map Entity.span

/-- The identity and the items as JSON. -/
def toJson (o : Occurrences) : Json :=
  .object [("id", o.id.toJson), ("items", .array (o.items.map Entity.toJson))]

end Occurrences

namespace Snapshot

/-- A binding and its usages. -/
def bindingItems (s : Snapshot) (b : LocalBinding) : List Entity :=
  .localBinding b :: (s.usagesOfBinding b).map .localUsage

/-- A var definition and its usages. -/
def varItems (s : Snapshot) (d : VarDefinition) : List Entity :=
  .varDefinition d :: (s.usagesOfVar d).map .varUsage

/-- A namespace definition and its usages. -/
def namespaceItems (s : Snapshot) (d : NamespaceDefinition) : List Entity :=
  .namespaceDefinition d :: (s.usagesOfNamespace d).map .namespaceUsage

/-- **The occurrences of an entity's symbol.** -/
def occurrences (s : Snapshot) (t : Entity) : Occurrences :=
  let items :=
    match t with
    | .localBinding b => s.bindingItems b
    | .localUsage u =>
      match s.bindingOf u with
      | some b => s.bindingItems b
      | none => (s.localUsagesWithId u.id).map .localUsage
    | .varDefinition d => s.varItems d
    | .varUsage u =>
      match s.definitionOfVarUsage u with
      | some d => s.varItems d
      | none => (s.usagesLike u).map .varUsage
    | .namespaceDefinition d => s.namespaceItems d
    | .namespaceUsage u =>
      match s.definitionOfNamespaceUsage u with
      | some d => s.namespaceItems d
      | none => (s.namespaceUsagesTo u.target).map .namespaceUsage
  { id := s.identity t, items }

end Snapshot

end CrossRef
