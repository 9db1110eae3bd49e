/-!
The shape of a command line: a program with options of its own, and commands under it with
their arguments.

An argument is a flag (`--json`), an option that takes a value (`--root <ROOT>`), or a positional
argument (`<FILE>`). Options and flags may have a one-letter form and a long one; the options of
the program are *global*: every command accepts them too. Every level also has `-h`/`--help` and
`-V`/`--version`, added by the parser.

Arguments are listed in help in their display order, then by their first letter (lower case
first); positional arguments in the order they are given. Values are checked by their kind: a
path may not be empty, a position is a whole number from 1 to `2^32 - 1`, a count one that fits
in 64 bits.

`program` is the command line of this library's tool.
-/

namespace CrossRef.Cli

/-- How the value of an argument is checked. -/
inductive ValueKind where
  /-- Any text. -/
  | text
  /-- A path, which may not be empty. -/
  | path
  /-- A whole number from 1 to `2^32 - 1`. -/
  | position
  /-- A whole number below `2^64`. -/
  | count
  deriving DecidableEq, Repr, Inhabited

/-- What an argument does when it is given. -/
inductive Action where
  /-- Sets a value. -/
  | set
  /-- Sets a flag. -/
  | flag
  /-- Prints help. -/
  | help
  /-- Prints the version. -/
  | version
  deriving DecidableEq, Repr, Inhabited

/-- An argument of a command line. -/
structure Arg where
  id : String
  short : Option Char := none
  long : Option String := none
  /-- The name of the value, for an argument that takes one. -/
  valueName : Option String := none
  kind : ValueKind := .text
  action : Action := .set
  help : String
  /-- The help shown by `--help`, when it differs. -/
  longHelp : Option String := none
  required : Bool := false
  /-- The place of a positional argument, from 0; none for options and flags. -/
  index : Option Nat := none
  /-- The value taken when the argument is not given. -/
  default : Option String := none
  /-- Where the argument is listed in help. -/
  order : Nat := 999
  /-- Whether a positional argument takes all the values left. -/
  many : Bool := false
  deriving Repr, Inhabited

namespace Arg

/-- Whether the argument is positional. -/
def isPositional (a : Arg) : Bool := a.index.isSome

/-- Whether the argument takes a value. -/
def takesValue (a : Arg) : Bool := a.action == .set

/-- The placeholder of its value, `<NAME>` when required and `[NAME]` for an optional positional
argument. -/
def placeholder (a : Arg) (required : Bool) : String :=
  let name := a.valueName.getD a.id.toUpper
  (if a.isPositional && !required then "[" ++ name ++ "]" else "<" ++ name ++ ">") ++
    (if a.many then "..." else "")

/-- **How an argument is named** in messages and usage: its long form (else its short one) and
the placeholder of its value, or the placeholder alone for a positional argument. -/
def form (a : Arg) (required : Bool) : String :=
  let name := match a.long, a.short with
    | some l, _ => "--" ++ l
    | none, some c => "-" ++ c.toString
    | none, none => ""
  let value :=
    if a.isPositional then a.placeholder required
    else if a.takesValue then " " ++ a.placeholder required
    else ""
  name ++ value

/-- The argument as it names itself. -/
def display (a : Arg) : String := a.form a.required

/-- The key that orders options in help: the display order, then the short form in lower case
(lower case letters first), else the long form. -/
def sortKey (a : Arg) : Nat × String :=
  let key := match a.short, a.long with
    | some c, _ => c.toLower.toString ++ (if c.isLower then "0" else "1")
    | none, some l => l
    | none, none => "\x7b" ++ a.id
  (a.order, key)

end Arg

/-- A command under the program. -/
structure Command where
  name : String
  about : String
  aliases : List String := []
  args : List Arg := []
  afterHelp : Option String := none
  deriving Repr, Inhabited

/-- A program with commands. -/
structure Program where
  name : String
  version : String
  about : String
  longAbout : Option String := none
  /-- Options of the program, which every command accepts too. -/
  globals : List Arg := []
  commands : List Command := []
  deriving Repr, Inhabited

/-- The texts of the line the parser adds for help, with or without a longer help to point to. -/
def helpArg (hasLongHelp : Bool) : Arg :=
  if hasLongHelp then
    { id := "help", short := some 'h', long := some "help", action := .help,
      help := "Print help (see more with '--help')", longHelp := some "Print help (see a summary with '-h')" }
  else { id := "help", short := some 'h', long := some "help", action := .help, help := "Print help" }

/-- The line the parser adds for the version. -/
def versionArg : Arg :=
  { id := "version", short := some 'V', long := some "version", action := .version, help := "Print version" }

/-! ## This library's tool -/

/-- The longer description of the tool. -/
def longAbout : String :=
  "
Cross-reference navigation for Clojure code, driven by an external
clj-kondo style analyzer.

The analyzer runs as a long-lived server (default 127.0.0.1:7700) or as a
one-shot subprocess, configured in $KONDEX_HOME/config.toml.

POSITIONS:
    Rows and columns are 1-based, as the analyzer reports them.

EXAMPLES:
    kondex lint src/app/core.clj             Findings for one file
    kondex lint                              Findings for the whole project
    kondex at src/app/core.clj 3 10          What is under row 3, col 10
    kondex usages src/app/core.clj 3 10      Definition and all usages
    kondex jump src/app/core.clj 3 10 -n 2   Two occurrences forward
    kondex definition src/app/core.clj 5 2   Where a symbol is defined
    kondex namespaces --json                 Namespace listing as JSON
"

/-- A file and a position in it. -/
def positionArgs : List Arg := [
  { id := "file", valueName := some "FILE", kind := .path, help := "Source file, relative to the root or absolute",
    required := true, index := some 0 },
  { id := "row", valueName := some "ROW", kind := .position, help := "Row (1-based)", required := true,
    index := some 1 },
  { id := "col", valueName := some "COL", kind := .position, help := "Column (1-based)", required := true,
    index := some 2 }]

/-- The file of `lint`. -/
def lintFile : Arg :=
  { id := "file", valueName := some "FILE", kind := .path, help := "File to lint (default: the whole project)",
    index := some 0 }

/-- The options of `jump`. -/
def jumpOptions : List Arg := [
  { id := "steps", short := some 'n', long := some "steps", valueName := some "STEPS", kind := .count,
    help := "Number of steps", default := some "1", order := 0 },
  { id := "back", short := some 'b', long := some "back", action := .flag, help := "Step backwards",
    order := 1 }]

/-- The examples after the help of `jump`. -/
def jumpExamples : String :=
  "EXAMPLES:
    kondex jump src/app/core.clj 2 9          Next occurrence
    kondex jump src/app/core.clj 2 9 --back   Previous occurrence
    kondex jump src/app/core.clj 2 9 -n 3     Three steps forward

Stepping stops at either end of the occurrence list."

/-- **The tool's command line.** -/
def program : Program where
  name := "kondex"
  version := "0.1.0"
  about := "Cross-reference navigation for Clojure code"
  longAbout := some longAbout
  globals := [
    { id := "root", short := some 'r', long := some "root", valueName := some "ROOT", kind := .path,
      help := "Project root (default: current directory)", order := 0 },
    { id := "json", long := some "json", action := .flag, help := "JSON output", order := 1 },
    { id := "analyzer", long := some "analyzer", valueName := some "ANALYZER",
      help := "Analyzer address, overriding the configuration", order := 2 }]
  commands := [
    { name := "lint", about := "Show analyzer findings for a file, or for the whole project", aliases := ["l"],
      args := [lintFile] },
    { name := "at", about := "Show the symbol at a position", args := positionArgs },
    { name := "usages", about := "List the definition and usages of the symbol at a position",
      aliases := ["u"], args := positionArgs },
    { name := "jump", about := "Step through occurrences of the symbol at a position", aliases := ["j"],
      args := positionArgs ++ jumpOptions, afterHelp := some jumpExamples },
    { name := "definition", about := "Find where the symbol at a position is defined", aliases := ["d"],
      args := positionArgs },
    { name := "namespaces", about := "List the namespaces defined in the project", aliases := ["ns"] },
    { name := "stats", about := "Show index statistics for the whole project" }]

end CrossRef.Cli
