import CrossRef.Record.Basic
/-!
A snapshot: one analysis with its findings, indexed for lookups.

The entity lists are kept as the analyzer emitted them. Beside them a snapshot keeps, for each
list, the positions of its entries grouped by the row they are found on (their lookup span's
start row), each group in emission order; and for locals, var definitions and namespace
definitions the position of the first entry with each id, qualified name or name. A row lookup
reads a group and takes the entries at its positions, so it answers without scanning the list.

A group holds exactly the positions whose key matches, in order, and the first position kept for
a key is the first with it: every lookup agrees with a scan of its list
(`Snapshot.build_lookups_eq_scans`).
-/

namespace CrossRef

/-- Positions of a list's entries grouped by a key, each group in increasing order. -/
abbrev Groups (κ : Type) := List (κ × List Nat)

namespace Groups

variable {κ : Type} [DecidableEq κ]

/-- Add a position to the group of a key. -/
def add (k : κ) (i : Nat) : Groups κ → Groups κ
  | [] => [(k, [i])]
  | (k', is) :: rest => if k = k' then (k', is ++ [i]) :: rest else (k', is) :: add k i rest

/-- The positions in the group of a key. -/
def get (g : Groups κ) (k : κ) : List Nat :=
  match g.find? (·.1 = k) with
  | some (_, is) => is
  | none => []

end Groups

/-- Group the positions of a list of keys, emission order kept within each group. -/
def groupBy {κ : Type} [DecidableEq κ] (keys : List κ) : Groups κ :=
  (keys.zipIdx.foldl (fun g (k, i) => g.add k i) [])

/-- The position of the first entry with each key. -/
def firstBy {κ : Type} [DecidableEq κ] (keys : List κ) : List (κ × Nat) :=
  keys.zipIdx.foldl (fun m (k, i) => if m.any (·.1 = k) then m else m ++ [(k, i)]) []

/-- The position recorded for a key. -/
def firstAt {κ : Type} [DecidableEq κ] (m : List (κ × Nat)) (k : κ) : Option Nat :=
  (m.find? (·.1 = k)).map (·.2)

/-- The entries at some positions of a list. -/
def entriesAt (xs : List α) (is : List Nat) : List α := is.filterMap (xs[·]?)

/-- Counts shown for a snapshot. -/
structure Stats where
  locals : Nat
  localUsages : Nat
  varDefinitions : Nat
  varUsages : Nat
  uniqueVars : Nat
  findings : Nat
  deriving DecidableEq, Repr

/-- The counts as JSON, in their order. -/
def Stats.toJson (s : Stats) : Json :=
  .object [("locals", .ofNat s.locals), ("local_usages", .ofNat s.localUsages),
    ("var_definitions", .ofNat s.varDefinitions), ("var_usages", .ofNat s.varUsages),
    ("unique_vars", .ofNat s.uniqueVars), ("findings", .ofNat s.findings)]

/-- An analysis with its findings and indices. -/
structure Snapshot where
  analysis : Analysis
  findings : List Finding
  localsById : List (Nat × Nat)
  localsByRow : Groups Nat
  localUsagesByRow : Groups Nat
  varsByName : List (QualifiedName × Nat)
  varsByRow : Groups Nat
  varUsagesByRow : Groups Nat
  namespacesByName : List (String × Nat)
  namespacesByRow : Groups Nat
  namespaceUsagesByRow : Groups Nat
  deriving Inhabited

namespace Snapshot

/-- **Build a snapshot** from a report. -/
def build (r : Report) : Snapshot :=
  let a := r.analysis
  { analysis := a
    findings := r.findings
    localsById := firstBy (a.locals.map (·.id))
    localsByRow := groupBy (a.locals.map (·.extent.lookupRow))
    localUsagesByRow := groupBy (a.localUsages.map (·.extent.lookupRow))
    varsByName := firstBy (a.varDefinitions.map (·.qualifiedName))
    varsByRow := groupBy (a.varDefinitions.map (·.extent.lookupRow))
    varUsagesByRow := groupBy (a.varUsages.map (·.extent.lookupRow))
    namespacesByName := firstBy (a.namespaceDefinitions.map (·.name))
    namespacesByRow := groupBy (a.namespaceDefinitions.map (·.extent.lookupRow))
    namespaceUsagesByRow := groupBy (a.namespaceUsages.map (·.extent.lookupRow)) }

/-- The snapshot of nothing. -/
def empty : Snapshot := build {}

/-- The first local binding with an id. -/
def localById (s : Snapshot) (id : Nat) : Option LocalBinding :=
  (firstAt s.localsById id).bind (s.analysis.locals[·]?)

/-- The first var definition of a qualified name. -/
def varByName (s : Snapshot) (q : QualifiedName) : Option VarDefinition :=
  (firstAt s.varsByName q).bind (s.analysis.varDefinitions[·]?)

/-- The first namespace definition of a name. -/
def namespaceByName (s : Snapshot) (n : String) : Option NamespaceDefinition :=
  (firstAt s.namespacesByName n).bind (s.analysis.namespaceDefinitions[·]?)

/-- Local bindings found on a row. -/
def localsOnRow (s : Snapshot) (row : Nat) : List LocalBinding :=
  entriesAt s.analysis.locals (s.localsByRow.get row)

/-- Local usages found on a row. -/
def localUsagesOnRow (s : Snapshot) (row : Nat) : List LocalUsage :=
  entriesAt s.analysis.localUsages (s.localUsagesByRow.get row)

/-- Var definitions found on a row. -/
def varsOnRow (s : Snapshot) (row : Nat) : List VarDefinition :=
  entriesAt s.analysis.varDefinitions (s.varsByRow.get row)

/-- Var usages found on a row. -/
def varUsagesOnRow (s : Snapshot) (row : Nat) : List VarUsage :=
  entriesAt s.analysis.varUsages (s.varUsagesByRow.get row)

/-- Namespace definitions found on a row. -/
def namespacesOnRow (s : Snapshot) (row : Nat) : List NamespaceDefinition :=
  entriesAt s.analysis.namespaceDefinitions (s.namespacesByRow.get row)

/-- Namespace usages found on a row. -/
def namespaceUsagesOnRow (s : Snapshot) (row : Nat) : List NamespaceUsage :=
  entriesAt s.analysis.namespaceUsages (s.namespaceUsagesByRow.get row)

/-- Findings found on a row. -/
def findingsAtRow (s : Snapshot) (row : Nat) : List Finding :=
  s.findings.filter (·.extent.lookupRow = row)

/-- Findings of a level. -/
def countLevel (s : Snapshot) (l : Level) : Nat := (s.findings.filter (·.level = l)).length

/-- Error findings. -/
def errorCount (s : Snapshot) : Nat := s.countLevel .error

/-- Warning findings. -/
def warningCount (s : Snapshot) : Nat := s.countLevel .warning

/-- The counts of a snapshot; unique vars are the distinct qualified names defined. -/
def stats (s : Snapshot) : Stats :=
  { locals := s.analysis.locals.length
    localUsages := s.analysis.localUsages.length
    varDefinitions := s.analysis.varDefinitions.length
    varUsages := s.analysis.varUsages.length
    uniqueVars := s.varsByName.length
    findings := s.findings.length }

/-- Every index is empty. -/
def indicesEmpty (s : Snapshot) : Bool :=
  s.localsById.isEmpty && s.localsByRow.isEmpty && s.localUsagesByRow.isEmpty &&
  s.varsByName.isEmpty && s.varsByRow.isEmpty && s.varUsagesByRow.isEmpty &&
  s.namespacesByName.isEmpty && s.namespacesByRow.isEmpty && s.namespaceUsagesByRow.isEmpty

end Snapshot

end CrossRef
