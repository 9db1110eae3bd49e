import CrossRef.Record.Kinds
/-!
Decoding an analysis and a report.

An analysis is an object with up to six keys, one per list (`locals`, `local-usages`,
`var-definitions`, `var-usages`, `namespace-definitions`, `namespace-usages`), each list
defaulting to empty; other keys are ignored and a list given twice is a duplicate field. It may
also be given as an array of the lists in that order, shorter arrays leaving the rest empty.
A report is the same with two keys, `analysis` and `findings`, or an array of the two.

A list itself must be an array; `null` is not an empty list.

Read from a value, an array with more elements than there are fields is an error naming its
length. Read from text, the closing bracket is expected after the last field, and anything else
there is trailing.
-/

namespace CrossRef

open CrossRef.Json CrossRef.Record

/-! ## From a value -/

/-- A list of records from a value. -/
def listOfJson (decode : Json → Except String α) : Json → Except String (List α)
  | .array xs => xs.mapM decode
  | j => .error (invalidType (Found.ofJson j) "a sequence")

/-- An array with more elements than the record has fields. -/
def tooLong (n : Nat) : String := "invalid length " ++ toString n ++ ", expected fewer elements in array"

/-- The keys of an analysis, in their order. -/
def analysisKeys : List String :=
  ["locals", "local-usages", "var-definitions", "var-usages", "namespace-definitions",
   "namespace-usages"]

/-- Set one list of an analysis from a value. -/
def Analysis.setOfJson (a : Analysis) (k : String) (v : Json) : Except String Analysis :=
  match k with
  | "locals" => do return { a with locals := ← listOfJson LocalBinding.schema.ofJson v }
  | "local-usages" => do return { a with localUsages := ← listOfJson LocalUsage.schema.ofJson v }
  | "var-definitions" => do
    return { a with varDefinitions := ← listOfJson VarDefinition.schema.ofJson v }
  | "var-usages" => do return { a with varUsages := ← listOfJson VarUsage.schema.ofJson v }
  | "namespace-definitions" => do
    return { a with namespaceDefinitions := ← listOfJson NamespaceDefinition.schema.ofJson v }
  | "namespace-usages" => do
    return { a with namespaceUsages := ← listOfJson NamespaceUsage.schema.ofJson v }
  | _ => .ok a

/-- **An analysis from a value.** -/
def Analysis.ofJson (j : Json) : Except String Analysis :=
  match j with
  | .object entries => entries.foldlM (fun a (k, v) => a.setOfJson k v) {}
  | .array xs =>
    if xs.length > analysisKeys.length then .error (tooLong xs.length)
    else (analysisKeys.zip xs).foldlM (fun a (k, v) => a.setOfJson k v) {}
  | j => .error (invalidType (Found.ofJson j) "struct RawAnalysis")

/-- Set one part of a report from a value. -/
def Report.setOfJson (r : Report) (k : String) (v : Json) : Except String Report :=
  match k with
  | "analysis" => do return { r with analysis := ← Analysis.ofJson v }
  | "findings" => do return { r with findings := ← listOfJson Finding.schema.ofJson v }
  | _ => .ok r

/-- **A report from a value.** -/
def Report.ofJson (j : Json) : Except String Report :=
  match j with
  | .object entries => entries.foldlM (fun r (k, v) => r.setOfJson k v) {}
  | .array xs =>
    if xs.length > 2 then .error (tooLong xs.length)
    else (["analysis", "findings"].zip xs).foldlM (fun r (k, v) => r.setOfJson k v) {}
  | j => .error (invalidType (Found.ofJson j) "struct AnalysisResult")

/-! ## From text -/

/-- An analysis being read from text, with the keys already seen. -/
structure AnalysisInProgress where
  analysis : Analysis := {}
  seen : List String := []

/-- Read one list of an analysis from text, the cursor before its value. -/
def Analysis.readList (a : Analysis) (k : String) (depth : Nat) : Reader Analysis :=
  match k with
  | "locals" => do return { a with locals := ← Reader.sequence depth LocalBinding.schema.read }
  | "local-usages" => do
    return { a with localUsages := ← Reader.sequence depth LocalUsage.schema.read }
  | "var-definitions" => do
    return { a with varDefinitions := ← Reader.sequence depth VarDefinition.schema.read }
  | "var-usages" => do
    return { a with varUsages := ← Reader.sequence depth VarUsage.schema.read }
  | "namespace-definitions" => do
    return { a with
      namespaceDefinitions := ← Reader.sequence depth NamespaceDefinition.schema.read }
  | "namespace-usages" => do
    return { a with namespaceUsages := ← Reader.sequence depth NamespaceUsage.schema.read }
  | _ => do Reader.skip; pure a

/-- The lists of an analysis given as an array, in their order. -/
def Analysis.readItems (depth : Nat) : Reader Analysis :=
  analysisKeys.foldlM (fun a k => do
    let first := k == "locals"
    match ← Reader.itemStart first with
    | none => pure a
    | some () => a.readList k depth) {}

/-- One entry of an analysis object. -/
def Analysis.readEntry (depth : Nat) (p : AnalysisInProgress) (k : String) :
    Reader AnalysisInProgress := do
  if analysisKeys.contains k then
    if p.seen.contains k then Reader.failValue (duplicateField k)
    else
      Reader.colon
      pure { analysis := ← p.analysis.readList k depth, seen := k :: p.seen }
  else
    Reader.colon
    Reader.skip
    pure p

/-- **An analysis from text**, with the nesting budget left. -/
def Analysis.read (depth : Nat) : Reader Analysis :=
  Reader.arrayOrObject depth "struct RawAnalysis" Analysis.readItems fun d => do
    let p ← Reader.entries ({} : AnalysisInProgress) (Analysis.readEntry d)
    pure p.analysis

end CrossRef
