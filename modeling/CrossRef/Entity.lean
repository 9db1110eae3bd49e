import CrossRef.Record.Encode
/-!
The entities a cursor can land on, and what makes two of them the same symbol.

An entity is a record of one of the six kinds that have a place in the source: a local usage,
a var usage, a local binding, a var definition, a namespace usage or a namespace definition.
Three of them are definitions.

An entity's *identity* names the symbol it stands for: a local by its binding's id, a var by its
qualified name, a namespace by its name. A var usage whose target is not defined in the analysis
is identified by where it occurs as well, since nothing ties it to other usages of that name.
-/

namespace CrossRef

/-- The six kinds of entity. -/
inductive EntityKind where
  | localUsage
  | varUsage
  | localBinding
  | varDefinition
  | namespaceUsage
  | namespaceDefinition
  deriving DecidableEq, Repr, Inhabited

namespace EntityKind

/-- The kind's tag in JSON. -/
def tag : EntityKind → String
  | .localUsage => "local_usage"
  | .varUsage => "var_usage"
  | .localBinding => "local_binding"
  | .varDefinition => "var_definition"
  | .namespaceUsage => "namespace_usage"
  | .namespaceDefinition => "namespace_definition"

/-- The kind in words. -/
def display : EntityKind → String
  | .localUsage => "local usage"
  | .varUsage => "var usage"
  | .localBinding => "local binding"
  | .varDefinition => "var definition"
  | .namespaceUsage => "namespace usage"
  | .namespaceDefinition => "namespace definition"

/-- The kind of a tag. -/
def ofTag? : String → Option EntityKind
  | "local_usage" => some .localUsage
  | "var_usage" => some .varUsage
  | "local_binding" => some .localBinding
  | "var_definition" => some .varDefinition
  | "namespace_usage" => some .namespaceUsage
  | "namespace_definition" => some .namespaceDefinition
  | _ => none

end EntityKind

/-- A record a cursor can land on. -/
inductive Entity where
  | localUsage (u : LocalUsage)
  | varUsage (u : VarUsage)
  | localBinding (b : LocalBinding)
  | varDefinition (d : VarDefinition)
  | namespaceUsage (u : NamespaceUsage)
  | namespaceDefinition (d : NamespaceDefinition)
  deriving BEq, Inhabited

/-- The symbol an entity stands for. -/
inductive Identity where
  | localId (id : Nat)
  | var (name : QualifiedName)
  | unresolvedVar (source : String) (target : QualifiedName)
  | ns (name : String)
  deriving DecidableEq, Repr, Inhabited

namespace Identity

/-- `local #ID`, `ns/name`, `ns/name (from FROM)` or `NAME`. -/
def display : Identity → String
  | .localId id => "local #" ++ toString id
  | .var q => q.display
  | .unresolvedVar source target => target.display ++ " (from " ++ source ++ ")"
  | .ns name => name

/-- A qualified name as JSON. -/
def nameJson (q : QualifiedName) : Json :=
  .object [("ns", .string q.ns), ("name", .string q.name)]

/-- `{"kind", "key"}`. -/
def toJson : Identity → Json
  | .localId id => .object [("kind", .string "local"), ("key", .ofNat id)]
  | .var q => .object [("kind", .string "var"), ("key", nameJson q)]
  | .unresolvedVar source target =>
    .object [("kind", .string "unresolved_var"),
      ("key", .object [("from", .string source), ("target", nameJson target)])]
  | .ns name => .object [("kind", .string "namespace"), ("key", .string name)]

end Identity

namespace Entity

/-- The kind of an entity. -/
def kind : Entity → EntityKind
  | .localUsage _ => .localUsage
  | .varUsage _ => .varUsage
  | .localBinding _ => .localBinding
  | .varDefinition _ => .varDefinition
  | .namespaceUsage _ => .namespaceUsage
  | .namespaceDefinition _ => .namespaceDefinition

/-- The extent of an entity. -/
def extent : Entity → Extent
  | .localUsage u => u.extent
  | .varUsage u => u.extent
  | .localBinding b => b.extent
  | .varDefinition d => d.extent
  | .namespaceUsage u => u.extent
  | .namespaceDefinition d => d.extent

/-- The lookup span of an entity. -/
def span (t : Entity) : Span := t.extent.span

/-- The identity an entity has on its own, without looking anything up. -/
def ownIdentity : Entity → Identity
  | .localUsage u => .localId u.id
  | .localBinding b => .localId b.id
  | .varUsage u => .var u.qualifiedTarget
  | .varDefinition d => .var d.qualifiedName
  | .namespaceUsage u => .ns u.target
  | .namespaceDefinition d => .ns d.name

/-- The name shown for an entity. -/
def label : Entity → String
  | .localUsage u => u.name
  | .localBinding b => b.name
  | .varUsage u => u.qualifiedTarget.display
  | .varDefinition d => d.qualifiedName.display
  | .namespaceUsage u => u.target
  | .namespaceDefinition d => d.name

/-- A binding or a definition. -/
def isDefinition : Entity → Bool
  | .localBinding _ | .varDefinition _ | .namespaceDefinition _ => true
  | _ => false

/-- The record of an entity as JSON. -/
def recordJson : Entity → Json
  | .localUsage u => u.toJson
  | .varUsage u => u.toJson
  | .localBinding b => b.toJson
  | .varDefinition d => d.toJson
  | .namespaceUsage u => u.toJson
  | .namespaceDefinition d => d.toJson

/-- `{"kind", "entity"}`. -/
def toJson (t : Entity) : Json :=
  .object [("kind", .string t.kind.tag), ("entity", t.recordJson)]

end Entity

end CrossRef
