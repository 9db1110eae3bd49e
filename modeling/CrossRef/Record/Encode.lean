import CrossRef.Record.Basic
/-!
Writing records back as JSON.

A record is written as one object: its own fields in their order, its extent's fields where the
extent stands among them, and its extra map last. Optional fields that are absent are left
out; a local's `name` and a finding's `message` are always written. An analysis is written with
all six lists, a report with its analysis and findings.
-/

namespace CrossRef

open CrossRef.Json

/-- A field when it has a value. -/
def optionalField (key : String) (f : α → Json) : Option α → List (String × Json)
  | some a => [(key, f a)]
  | none => []

/-- `{"row", "col"}` of a position. -/
def Position.toJson (p : Position) : Json :=
  .object [("row", .ofNat p.row), ("col", .ofNat p.col)]

/-- `{"start", "end"}` of a span. -/
def Span.toJson (s : Span) : Json :=
  .object [("start", s.start.toJson), ("end", s.stop.toJson)]

/-- The fields of an extent, in their order. -/
def Extent.fields (e : Extent) : List (String × Json) :=
  optionalField "filename" Json.string e.filename ++
  [("row", .ofNat e.row), ("col", .ofNat e.col)] ++
  optionalField "end-row" Json.ofNat e.endRow ++
  optionalField "end-col" Json.ofNat e.endCol ++
  optionalField "name-row" Json.ofNat e.nameRow ++
  optionalField "name-col" Json.ofNat e.nameCol ++
  optionalField "name-end-row" Json.ofNat e.nameEndRow ++
  optionalField "name-end-col" Json.ofNat e.nameEndCol

/-- An extent on its own. -/
def Extent.toJson (e : Extent) : Json := .object e.fields

/-- A local binding as JSON. -/
def LocalBinding.toJson (b : LocalBinding) : Json :=
  .object ([("id", .ofNat b.id), ("name", .string b.name)] ++ b.extent.fields ++
    optionalField "scope-end-row" Json.ofNat b.scopeEndRow ++
    optionalField "scope-end-col" Json.ofNat b.scopeEndCol ++ b.extra)

/-- A local usage as JSON. -/
def LocalUsage.toJson (u : LocalUsage) : Json :=
  .object ([("id", .ofNat u.id), ("name", .string u.name)] ++ u.extent.fields ++ u.extra)

/-- A var definition as JSON. -/
def VarDefinition.toJson (d : VarDefinition) : Json :=
  .object ([("ns", .string d.ns), ("name", .string d.name)] ++
    optionalField "defined-by" Json.string d.definedBy ++ d.extent.fields ++ d.extra)

/-- A var usage as JSON. -/
def VarUsage.toJson (u : VarUsage) : Json :=
  .object ([("from", .string u.source), ("to", .string u.target), ("name", .string u.name)] ++
    optionalField "alias" Json.string u.nsAlias ++ optionalField "refer" Json.bool u.refer ++
    u.extent.fields ++ u.extra)

/-- A namespace definition as JSON. -/
def NamespaceDefinition.toJson (d : NamespaceDefinition) : Json :=
  .object ([("name", .string d.name)] ++ d.extent.fields ++ d.extra)

/-- A namespace usage as JSON. -/
def NamespaceUsage.toJson (u : NamespaceUsage) : Json :=
  .object ([("from", .string u.source), ("to", .string u.target)] ++
    optionalField "alias" Json.string u.nsAlias ++ u.extent.fields ++ u.extra)

/-- A finding as JSON. -/
def Finding.toJson (f : Finding) : Json :=
  .object ([("level", .string f.level.name), ("type", .string f.kind),
    ("message", .string f.message)] ++ f.extent.fields ++ f.extra)

/-- An analysis as JSON, all six lists written. -/
def Analysis.toJson (a : Analysis) : Json :=
  .object [("locals", .array (a.locals.map LocalBinding.toJson)),
    ("local-usages", .array (a.localUsages.map LocalUsage.toJson)),
    ("var-definitions", .array (a.varDefinitions.map VarDefinition.toJson)),
    ("var-usages", .array (a.varUsages.map VarUsage.toJson)),
    ("namespace-definitions", .array (a.namespaceDefinitions.map NamespaceDefinition.toJson)),
    ("namespace-usages", .array (a.namespaceUsages.map NamespaceUsage.toJson))]

/-- A report as JSON. -/
def Report.toJson (r : Report) : Json :=
  .object [("analysis", r.analysis.toJson), ("findings", .array (r.findings.map Finding.toJson))]

end CrossRef
