import CrossRef.Record.Schema
/-!
The schemas of the seven kinds of record.

Each kind lists its own fields in their order, with what is required: a local's or usage's `id`,
a definition's `ns` and `name`, a usage's `from`, `to` and `name`, a finding's `level` and
`type`. A local's `name` and a finding's `message` may be left out and are then empty; every
other field is optional and may be `null`, which counts as absent.
-/

namespace CrossRef.Record

open CrossRef.Json

/-- A required string field. -/
def requiredText (key : String) (get : P → Option String) (put : P → String → P) : Field P :=
  { key, required := true, Value := String, get, put, reader := Source.string }

/-- A string field that defaults to empty. -/
def defaultText (key : String) (get : P → Option String) (put : P → String → P) : Field P :=
  { key, required := false, Value := String, get, put, reader := Source.string }

/-- An optional string field. -/
def optionalText (key : String) (get : P → Option (Option String))
    (put : P → Option String → P) : Field P :=
  { key, required := false, Value := Option String, get, put,
    reader := Source.optional Source.string }

/-- An optional 32-bit field. -/
def optionalU32 (key : String) (get : P → Option (Option Nat)) (put : P → Option Nat → P) :
    Field P :=
  { key, required := false, Value := Option Nat, get, put,
    reader := Source.optional Source.u32 }

/-- A required 64-bit identifier. -/
def requiredId (get : P → Option Nat) (put : P → Nat → P) : Field P :=
  { key := "id", required := true, Value := Nat, get, put, reader := Source.u64 }

end CrossRef.Record

namespace CrossRef

open CrossRef.Record

/-- A local or a local usage under construction. -/
structure LocalParts where
  id : Option Nat := none
  name : Option String := none
  scopeEndRow : Option (Option Nat) := none
  scopeEndCol : Option (Option Nat) := none

/-- How a local binding is decoded. -/
def LocalBinding.schema : Schema LocalParts LocalBinding where
  name := "LocalBinding"
  empty := {}
  fields :=
    [ requiredId (·.id) fun p v => { p with id := some v },
      defaultText "name" (·.name) fun p v => { p with name := some v },
      optionalU32 "scope-end-row" (·.scopeEndRow) fun p v => { p with scopeEndRow := some v },
      optionalU32 "scope-end-col" (·.scopeEndCol) fun p v => { p with scopeEndCol := some v } ]
  build p e x :=
    { id := p.id.getD 0, name := p.name.getD "", extent := e,
      scopeEndRow := p.scopeEndRow.join, scopeEndCol := p.scopeEndCol.join, extra := x }

/-- How a local usage is decoded. -/
def LocalUsage.schema : Schema LocalParts LocalUsage where
  name := "LocalUsage"
  empty := {}
  fields :=
    [ requiredId (·.id) fun p v => { p with id := some v },
      defaultText "name" (·.name) fun p v => { p with name := some v } ]
  build p e x := { id := p.id.getD 0, name := p.name.getD "", extent := e, extra := x }

/-- A var or namespace record under construction. -/
structure NamedParts where
  ns : Option String := none
  name : Option String := none
  source : Option String := none
  target : Option String := none
  definedBy : Option (Option String) := none
  nsAlias : Option (Option String) := none
  refer : Option (Option Bool) := none

/-- How a var definition is decoded. -/
def VarDefinition.schema : Schema NamedParts VarDefinition where
  name := "VarDefinition"
  empty := {}
  fields :=
    [ requiredText "ns" (·.ns) fun p v => { p with ns := some v },
      requiredText "name" (·.name) fun p v => { p with name := some v },
      optionalText "defined-by" (·.definedBy) fun p v => { p with definedBy := some v } ]
  build p e x :=
    { ns := p.ns.getD "", name := p.name.getD "", definedBy := p.definedBy.join, extent := e,
      extra := x }

/-- How a var usage is decoded. -/
def VarUsage.schema : Schema NamedParts VarUsage where
  name := "VarUsage"
  empty := {}
  fields :=
    [ requiredText "from" (·.source) fun p v => { p with source := some v },
      requiredText "to" (·.target) fun p v => { p with target := some v },
      requiredText "name" (·.name) fun p v => { p with name := some v },
      optionalText "alias" (·.nsAlias) fun p v => { p with nsAlias := some v },
      { key := "refer", required := false, Value := Option Bool, get := (·.refer),
        put := fun p v => { p with refer := some v }, reader := Source.optional Source.bool } ]
  build p e x :=
    { source := p.source.getD "", target := p.target.getD "", name := p.name.getD "",
      nsAlias := p.nsAlias.join, refer := p.refer.join, extent := e, extra := x }

/-- How a namespace definition is decoded. -/
def NamespaceDefinition.schema : Schema NamedParts NamespaceDefinition where
  name := "NamespaceDefinition"
  empty := {}
  fields := [ requiredText "name" (·.name) fun p v => { p with name := some v } ]
  build p e x := { name := p.name.getD "", extent := e, extra := x }

/-- How a namespace usage is decoded. -/
def NamespaceUsage.schema : Schema NamedParts NamespaceUsage where
  name := "NamespaceUsage"
  empty := {}
  fields :=
    [ requiredText "from" (·.source) fun p v => { p with source := some v },
      requiredText "to" (·.target) fun p v => { p with target := some v },
      optionalText "alias" (·.nsAlias) fun p v => { p with nsAlias := some v } ]
  build p e x :=
    { source := p.source.getD "", target := p.target.getD "", nsAlias := p.nsAlias.join,
      extent := e, extra := x }

/-- A finding under construction. -/
structure FindingParts where
  level : Option Level := none
  kind : Option String := none
  message : Option String := none

/-- How a finding is decoded. -/
def Finding.schema : Schema FindingParts Finding where
  name := "Finding"
  empty := {}
  fields :=
    [ { key := "level", required := true, Value := Level, get := (·.level),
        put := fun p v => { p with level := some v }, reader := Source.level },
      requiredText "type" (·.kind) fun p v => { p with kind := some v },
      defaultText "message" (·.message) fun p v => { p with message := some v } ]
  build p e x :=
    { level := p.level.getD .error, kind := p.kind.getD "", message := p.message.getD "",
      extent := e, extra := x }

end CrossRef
