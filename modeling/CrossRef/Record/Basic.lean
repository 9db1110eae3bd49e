import CrossRef.Json.Basic
import CrossRef.Span
/-!
The records an analyzer reports.

Every record has an *extent*: where its form starts (`row`, `col`, required), where it ends, the
file it is in, and for definitions where the defined *name* starts and ends. The span a cursor
is matched against, the *lookup span*, is the name's span when the name's row and column are
both given, and the form's span otherwise; the record's row is its lookup span's start row.

Seven kinds of record carry their own fields besides the extent:

* a local binding: an `id` shared with its usages, a `name`, where its scope ends;
* a local usage: the `id` of its binding and a `name`;
* a var definition: its namespace `ns`, its `name`, the macro it was defined by;
* a var usage: the namespace it occurs `from`, the namespace it refers `to`, the `name`, the
  `alias` used and whether it was `refer`red;
* a namespace definition: its `name`;
* a namespace usage: `from` and `to` as for vars, and the `alias`;
* a finding: a `level`, a `type` and a `message`.

Whatever else an analyzer sends along is kept, key by key, in the record's `extra` map, so that
a record can be written back as it came.

An *analysis* holds the six lists of entity records; a *report* is an analysis with its
findings.
-/

namespace CrossRef

/-- Fields of a record that are not modelled, as a map from key to value. -/
abbrev Extra := List (String × Json)

/-- Where a record's form and name are. -/
structure Extent where
  filename : Option String := none
  row : Nat
  col : Nat
  endRow : Option Nat := none
  endCol : Option Nat := none
  nameRow : Option Nat := none
  nameCol : Option Nat := none
  nameEndRow : Option Nat := none
  nameEndCol : Option Nat := none
  deriving DecidableEq, Repr, Inhabited

namespace Extent

/-- An extent with a start and an end and nothing else. -/
def ofBounds (row col endRow endCol : Nat) : Extent :=
  { row, col, endRow := some endRow, endCol := some endCol }

/-- The span of the whole form. -/
def formSpan (e : Extent) : Span := Span.ofParts e.row e.col e.endRow e.endCol

/-- **The lookup span**: the name's span when its row and column are both given, else the
form's. -/
def span (e : Extent) : Span :=
  match e.nameRow, e.nameCol with
  | some r, some c => Span.ofParts r c e.nameEndRow e.nameEndCol
  | _, _ => e.formSpan

/-- The row a record is found on: its lookup span's start row. -/
def lookupRow (e : Extent) : Nat := e.span.row

theorem span_of_no_name (e : Extent) (h : e.nameRow = none) : e.span = e.formSpan := by
  simp [span, h]

end Extent

/-- A local binding. -/
structure LocalBinding where
  id : Nat
  name : String
  extent : Extent
  scopeEndRow : Option Nat
  scopeEndCol : Option Nat
  extra : Extra
  deriving BEq, Inhabited

/-- A use of a local binding. -/
structure LocalUsage where
  id : Nat
  name : String
  extent : Extent
  extra : Extra
  deriving BEq, Inhabited

/-- A var definition. -/
structure VarDefinition where
  ns : String
  name : String
  definedBy : Option String
  extent : Extent
  extra : Extra
  deriving BEq, Inhabited

/-- A use of a var. -/
structure VarUsage where
  source : String
  target : String
  name : String
  nsAlias : Option String
  refer : Option Bool
  extent : Extent
  extra : Extra
  deriving BEq, Inhabited

/-- A namespace definition. -/
structure NamespaceDefinition where
  name : String
  extent : Extent
  extra : Extra
  deriving BEq, Inhabited

/-- A use of a namespace. -/
structure NamespaceUsage where
  source : String
  target : String
  nsAlias : Option String
  extent : Extent
  extra : Extra
  deriving BEq, Inhabited

/-- How serious a finding is. -/
inductive Level where
  | error
  | warning
  | info
  deriving DecidableEq, Repr, Inhabited

/-- The name of a level. -/
def Level.name : Level → String
  | .error => "error"
  | .warning => "warning"
  | .info => "info"

/-- A finding of the analyzer. -/
structure Finding where
  level : Level
  kind : String
  message : String
  extent : Extent
  extra : Extra
  deriving BEq, Inhabited

/-- A finding is an error. -/
def Finding.isError (f : Finding) : Bool := f.level == .error

/-- A name in a namespace. -/
structure QualifiedName where
  ns : String
  name : String
  deriving DecidableEq, Repr, Inhabited

/-- `ns/name`. -/
def QualifiedName.display (q : QualifiedName) : String := q.ns ++ "/" ++ q.name

/-- The qualified name a definition defines. -/
def VarDefinition.qualifiedName (d : VarDefinition) : QualifiedName := ⟨d.ns, d.name⟩

/-- A definition is a macro when its extra field `macro` is `true`. -/
def VarDefinition.isMacro (d : VarDefinition) : Bool :=
  match Json.lookup "macro" d.extra with
  | some (.bool true) => true
  | _ => false

/-- The qualified name a usage refers to. -/
def VarUsage.qualifiedTarget (u : VarUsage) : QualifiedName := ⟨u.target, u.name⟩

/-- A usage was referred unless it says otherwise. -/
def VarUsage.isReferred (u : VarUsage) : Bool := u.refer.getD false

/-- Where a binding's scope ends, when both its row and column are given. -/
def LocalBinding.scopeEnd (b : LocalBinding) : Option Position :=
  match b.scopeEndRow, b.scopeEndCol with
  | some r, some c => some ⟨r, c⟩
  | _, _ => none

/-- The six lists of entity records, in the order the analyzer emitted them. -/
structure Analysis where
  locals : List LocalBinding := []
  localUsages : List LocalUsage := []
  varDefinitions : List VarDefinition := []
  varUsages : List VarUsage := []
  namespaceDefinitions : List NamespaceDefinition := []
  namespaceUsages : List NamespaceUsage := []
  deriving Inhabited

/-- No list has an entry. -/
def Analysis.isEmpty (a : Analysis) : Bool :=
  a.locals.isEmpty && a.localUsages.isEmpty && a.varDefinitions.isEmpty &&
  a.varUsages.isEmpty && a.namespaceDefinitions.isEmpty && a.namespaceUsages.isEmpty

/-- An analysis with its findings. -/
structure Report where
  analysis : Analysis := {}
  findings : List Finding := []
  deriving Inhabited

end CrossRef
