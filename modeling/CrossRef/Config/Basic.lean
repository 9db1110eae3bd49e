import CrossRef.Json.Mismatch
/-!
The configuration: how to reach the analyzer, and when to analyze.

The analyzer is reached over a socket at an address (by default `127.0.0.1:7700`), or run as a
one-shot subprocess from a command line. A buffer is analyzed on the editor events listed in
`analyzeOn`, by default on load, save and activation but not on every modification.
-/

namespace CrossRef

/-- How the analyzer is reached. -/
inductive AnalyzerMode where
  | socket
  | subprocess
  deriving DecidableEq, Repr, Inhabited

/-- The name of a mode. -/
def AnalyzerMode.name : AnalyzerMode → String
  | .socket => "socket"
  | .subprocess => "subprocess"

/-- An editor event that may trigger an analysis. -/
inductive EditorEvent where
  | load
  | save
  | activated
  | modified
  deriving DecidableEq, Repr, Inhabited

/-- The name of an event. -/
def EditorEvent.name : EditorEvent → String
  | .load => "load"
  | .save => "save"
  | .activated => "activated"
  | .modified => "modified"

/-- The names of the events, in order. -/
def EditorEvent.names : List String := ["load", "save", "activated", "modified"]

/-- The event of a name. -/
def EditorEvent.ofName? : String → Option EditorEvent
  | "load" => some .load
  | "save" => some .save
  | "activated" => some .activated
  | "modified" => some .modified
  | _ => none

/-- The event of a name, or the error naming the events there are. -/
def EditorEvent.ofName (s : String) : Except String EditorEvent :=
  match EditorEvent.ofName? s with
  | some e => .ok e
  | none => .error (Json.unknownVariant s EditorEvent.names)

/-- A list of events from a value. -/
def EditorEvent.listOfJson : Json → Except String (List EditorEvent)
  | .array xs => xs.mapM (Json.variantOfJson EditorEvent.ofName)
  | j => .error (Json.invalidType (Json.Found.ofJson j) "a sequence")

/-- The address every analyzer listens on unless told otherwise. -/
def defaultAddress : String := "127.0.0.1:7700"

/-- How to reach the analyzer. -/
structure AnalyzerConfig where
  mode : AnalyzerMode := .socket
  address : String := defaultAddress
  command : List String := []
  deriving DecidableEq, Repr, Inhabited

/-- When to analyze. -/
structure AnalysisConfig where
  analyzeOn : List EditorEvent := [.load, .save, .activated]
  deriving DecidableEq, Repr, Inhabited

/-- Whether an event triggers an analysis. -/
def AnalysisConfig.triggersOn (c : AnalysisConfig) (e : EditorEvent) : Bool := c.analyzeOn.contains e

/-- The whole configuration. -/
structure Config where
  analyzer : AnalyzerConfig := {}
  analysis : AnalysisConfig := {}
  deriving DecidableEq, Repr, Inhabited

/-- The configuration as JSON, with the keys of the configuration file. -/
def Config.toJson (c : Config) : Json :=
  .object [
    ("analyzer", .object [("mode", .string c.analyzer.mode.name), ("address", .string c.analyzer.address),
      ("command", .array (c.analyzer.command.map .string))]),
    ("analysis", .object [("analyze_on", .array (c.analysis.analyzeOn.map (.string ·.name)))])]

/-- An address taken from the environment replaces the configured one unless it is empty. -/
def Config.withAddress (c : Config) : Option String → Config
  | some a => if a.isEmpty then c else { c with analyzer := { c.analyzer with address := a } }
  | none => c

end CrossRef
