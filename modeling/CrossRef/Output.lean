import CrossRef.Session
/-!
How command results are printed.

Every result is printed in one of two forms. The JSON form is the value's JSON, indented two
spaces a level, with `null` for nothing. The human form is a few plain lines:

* findings, one per line as `FILE:ROW:COL: LEVEL: MESSAGE [TYPE]`, the file being the finding's
  own when it names one, and a closing count of errors and warnings; or `FILE: no findings`;
* an entity as its kind, label and lookup span, or `Nothing here`;
* occurrences as the identity and their number, then one line per item with a `*` for a
  definition, its start left-aligned in ten columns, and its kind;
* a location as `FILE:ROW:COL`, or its start alone when the file is unknown, or
  `No definition found`;
* namespaces as a count, then each name with its file below it (`-` when unknown), or
  `No namespaces found`;
* counts as a table whose numbers are right-aligned in eight columns.
-/

namespace CrossRef

/-- How results are printed. -/
inductive OutputFormat where
  | human
  | json
  deriving DecidableEq, Repr, Inhabited

/-- JSON output when asked for, human output otherwise. -/
def OutputFormat.ofJsonFlag (json : Bool) : OutputFormat := if json then .json else .human

namespace Output

/-- A text padded with spaces on the right to a width. -/
def padRight (s : String) (width : Nat) : String :=
  s ++ String.ofList (List.replicate (width - s.length) ' ')

/-- A text padded with spaces on the left to a width. -/
def padLeft (s : String) (width : Nat) : String :=
  String.ofList (List.replicate (width - s.length) ' ') ++ s

/-- A value as indented JSON. -/
def json (j : Json) : String := Json.renderPretty j

/-- One finding's line. -/
def findingLine (filename : String) (f : Finding) : String :=
  (f.extent.filename.getD filename) ++ ":" ++ f.extent.span.start.display ++ ": " ++ f.level.name ++
    ": " ++ f.message ++ " [" ++ f.kind ++ "]\n"

/-- **Findings**, labelled with a file name when they name none themselves. -/
def findings (filename : String) (fs : List Finding) : OutputFormat → String
  | .json => json (.array (fs.map Finding.toJson))
  | .human =>
    if fs.isEmpty then filename ++ ": no findings"
    else
      let errors := (fs.filter (·.level = .error)).length
      let warnings := (fs.filter (·.level = .warning)).length
      String.join (fs.map (findingLine filename)) ++
        "errors: " ++ toString errors ++ ", warnings: " ++ toString warnings

/-- **An entity**, or nothing. -/
def entity (t : Option Entity) : OutputFormat → String
  | .json => json (Json.ofOption Entity.toJson t)
  | .human =>
    match t with
    | none => "Nothing here"
    | some t => t.kind.display ++ " " ++ t.label ++ " at " ++ t.span.display

/-- One occurrence's line. -/
def occurrenceLine (t : Entity) : String :=
  "  " ++ (if t.isDefinition then "*" else " ") ++ " " ++ padRight t.span.start.display 10 ++ " " ++
    t.kind.display ++ "\n"

/-- **Occurrences**, or nothing. -/
def occurrences (o : Option Occurrences) : OutputFormat → String
  | .json => json (Json.ofOption Occurrences.toJson o)
  | .human =>
    match o with
    | none => "Nothing here"
    | some o =>
      o.id.display ++ " (" ++ toString o.items.length ++ " occurrences)\n" ++
        String.join (o.items.map occurrenceLine)

/-- **A location**, or nothing. -/
def location (l : Option Location) : OutputFormat → String
  | .json => json (Json.ofOption Location.toJson l)
  | .human =>
    match l with
    | none => "No definition found"
    | some ⟨some file, span⟩ => file ++ ":" ++ span.start.display
    | some ⟨none, span⟩ => span.start.display

/-- **Namespaces.** -/
def namespaces (ns : List NamespaceDefinition) : OutputFormat → String
  | .json => json (.array (ns.map NamespaceDefinition.toJson))
  | .human =>
    if ns.isEmpty then "No namespaces found"
    else
      "Namespaces (" ++ toString ns.length ++ "):\n" ++
        String.join (ns.map fun d => "  " ++ d.name ++ "\n    " ++ d.extent.filename.getD "-" ++ "\n")

/-- The counts as a table. -/
def statsTable (s : Stats) : String :=
  let row := fun (label : String) (n : Nat) => "  " ++ label ++ " " ++ padLeft (toString n) 8 ++ "\n"
  "Analysis Snapshot:\n" ++ row "Locals:      " s.locals ++ row "Local Usages:" s.localUsages ++
    row "Vars:        " s.varDefinitions ++ row "Var Usages:  " s.varUsages ++
    row "Unique Vars: " s.uniqueVars ++ row "Findings:    " s.findings

/-- **Counts.** -/
def stats (s : Stats) : OutputFormat → String
  | .json => json s.toJson
  | .human => statsTable s

end Output

end CrossRef
