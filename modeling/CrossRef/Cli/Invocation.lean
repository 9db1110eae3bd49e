import CrossRef.Cli.Parse
/-!
What the tool is asked to do.

A command line read against `program` becomes an `Invocation`: the options every command
shares (the project root, JSON output, the analyzer address) and one task. Values were checked
while reading, so positions and step counts are whole numbers here; the number of steps is 1
unless given.
-/

namespace CrossRef.Cli

/-- The options every command shares. -/
structure Options where
  root : Option String := none
  json : Bool := false
  analyzer : Option String := none
  deriving DecidableEq, Repr, Inhabited

/-- A file and a 1-based position in it. -/
structure Place where
  file : String
  row : Nat
  col : Nat
  deriving DecidableEq, Repr, Inhabited

/-- One task of the tool. -/
inductive Task where
  /-- The findings of a file, or of the whole project. -/
  | lint (file : Option String)
  /-- What is at a position. -/
  | symbolAt (place : Place)
  /-- The definition and usages of what is at a position. -/
  | usages (place : Place)
  /-- Step through the occurrences of what is at a position. -/
  | jump (place : Place) (steps : Nat) (back : Bool)
  /-- Where what is at a position is defined. -/
  | definition (place : Place)
  /-- The namespaces of the project. -/
  | namespaces
  /-- The counts of the project's analysis. -/
  | stats
  deriving DecidableEq, Repr, Inhabited

/-- A task with its options. -/
structure Invocation where
  options : Options
  task : Task
  deriving DecidableEq, Repr, Inhabited

namespace Parsed

/-- The value of an argument: the command's, else the program's. -/
def value (ps : Parsed) (id : String) : Option String :=
  match ps.args.find? (·.1 = id) with
  | some (_, v) => some v
  | none => (ps.globals.find? (·.1 = id)).map (·.2)

/-- Whether a flag was given. -/
def flag (ps : Parsed) (id : String) : Bool := (ps.value id).isSome

/-- A whole number given as an argument. -/
def number (ps : Parsed) (id : String) (default : Nat) : Nat :=
  match ps.value id with
  | some v => match readInteger v true with
    | .ok n => n.toNat
    | .error _ => match readInteger v false with
      | .ok n => n.toNat
      | .error _ => default
  | none => default

/-- The file and position given. -/
def place (ps : Parsed) : Place :=
  { file := (ps.value "file").getD "", row := ps.number "row" 1, col := ps.number "col" 1 }

/-- **The task** of a command line read. -/
def task (ps : Parsed) : Task :=
  match ps.command.name with
  | "lint" => .lint (ps.value "file")
  | "at" => .symbolAt ps.place
  | "usages" => .usages ps.place
  | "jump" => .jump ps.place (ps.number "steps" 1) (ps.flag "back")
  | "definition" => .definition ps.place
  | "namespaces" => .namespaces
  | _ => .stats

/-- The shared options. -/
def options (ps : Parsed) : Options :=
  { root := ps.value "root", json := ps.flag "json", analyzer := ps.value "analyzer" }

end Parsed

/-- **Read the tool's command line**, without the program's name. -/
def Invocation.ofArgs (args : List String) : Except Failure Invocation := do
  let ps ← parse program args
  pure { options := ps.options, task := ps.task }

end CrossRef.Cli
