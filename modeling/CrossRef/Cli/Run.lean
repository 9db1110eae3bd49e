import CrossRef.Cli.Invocation
import CrossRef.Config.Load
import CrossRef.Session
import CrossRef.Output
import CrossRef.Wire.Client
import CrossRef.Wire.OneShot
import CrossRef.Host.Files
/-!
Running the tool.

Everything the tool needs of the machine it runs on is a `Machine`: its working directory and
environment, its files, a connection to an analyzer server, programs to start, and standard
output. The tool itself is then a function of the command line into any monad the machine works
in: the real one, or a simulated machine whose every effect is a value.

A run first sets up its context, in this order: the project root (the one given, else the
working directory), the configuration (see `Machine.loadConfig`), the address given on the
command line, which replaces the configured one even when empty, and the analyzer, which is
connected to before any command runs. A command that takes a file then reads it, relative to
the root unless absolute, opens it as buffer 1 and has the analyzer analyze its text; any failure
so far ends the run before anything is printed. The command then prints its text, in the
format asked for, and a newline.
-/

namespace CrossRef.Cli

open CrossRef.Host (join)

/-- What the tool asks of the machine it runs on. -/
structure Machine (m : Type → Type) where
  /-- The working directory. -/
  workingDir : m (Except IoFailure String)
  /-- An environment variable, when it is set. -/
  envVar : String → m (Option String)
  /-- The home directory the user database gives, if any. -/
  userHome : m (Option String)
  /-- Whether a path names a file or a directory. -/
  present : String → m Bool
  /-- The text of a file. -/
  readText : String → m (Except IoFailure String)
  /-- Connect to an analyzer server. -/
  connect : Address → m (Except IoFailure Unit)
  /-- Send a request to the server connected to. -/
  exchange : Transport m
  /-- Run a program to completion on some standard input. -/
  runProgram : String → List String → ByteArray → m (Except IoFailure ProcessOutput)
  /-- Write to standard output. -/
  print : String → m Unit

/-- The one buffer a command works on. -/
def buffer : Nat := 1

/-- What every command works with. -/
structure Context (m : Type → Type) where
  root : String
  format : OutputFormat
  transport : Transport m
  session : Session

/-- A result as a step of a run. -/
def orFail {m : Type → Type} [Monad m] (r : Except Error α) : ExceptT Error m α := ExceptT.mk (pure r)

namespace Machine

variable {m : Type → Type} [Monad m] (sys : Machine m)

/-- The home directory: `HOME` unless it is empty, else the user database's. -/
def home : m (Option String) := do
  match ← sys.envVar "HOME" with
  | some h => if h.isEmpty then sys.userHome else pure (some h)
  | none => sys.userHome

/-- **Where the configuration file is**: `config.toml` in `KONDEX_HOME` when it is set, else in
`kondex` under the user's configuration directory, which is `XDG_CONFIG_HOME` when that is an
absolute path and `.config` in the home directory otherwise. Without a home directory there is
no configuration directory. -/
def configPath : ExceptT Error m String := do
  match ← sys.envVar "KONDEX_HOME" with
  | some h => return join h "config.toml"
  | none =>
    let some home ← sys.home | throw (.config "Could not determine kondex home directory")
    let base := match ← sys.envVar "XDG_CONFIG_HOME" with
      | some x => if x.startsWith "/" then x else join home ".config"
      | none => join home ".config"
    return join (join base "kondex") "config.toml"

/-- **Load the configuration**: the defaults when there is no file; an address in
`KONDEX_ANALYZER_ADDRESS` replaces the configured one unless it is empty. -/
def loadConfig : ExceptT Error m Config := do
  let path ← sys.configPath
  let config ← if !(← sys.present path) then pure ({} : Config) else do
    let text ← orFail ((← sys.readText path).mapError .io)
    orFail (Config.ofToml text)
  return config.withAddress (← sys.envVar "KONDEX_ANALYZER_ADDRESS")

/-- **Reach the analyzer**: connect to its server, or take its command to start for every
request. -/
def analyzer (c : AnalyzerConfig) : ExceptT Error m (Transport m) :=
  match c.mode with
  | .socket => do
    let a := Address.parse c.address
    match ← sys.connect a with
    | .ok () => pure sys.exchange
    | .error e => throw (.transport ("connecting to " ++ a.display) e.message)
  | .subprocess => do
    let o ← orFail (OneShot.ofArgv c.command)
    pure (OneShot.request sys.runProgram o)

/-- **Set up a run**: the root, the output format, the configuration with the address of the
command line, and the analyzer. -/
def context (o : Options) : ExceptT Error m (Context m) := do
  let root ← match o.root with
    | some r => pure r
    | none => do orFail ((← sys.workingDir).mapError .io)
  let config ← sys.loadConfig
  let config := match o.analyzer with
    | some a => { config with analyzer := { config.analyzer with address := a } }
    | none => config
  let transport ← sys.analyzer config.analyzer
  return { root := root, format := .ofJsonFlag o.json, transport := transport,
           session := { config := config.analysis } }

/-- **Load a file into the buffer**: read it, relative to the root unless it is absolute, open
the buffer and analyze the text under the name the file was given by. -/
def load (ctx : Context m) (file : String) : ExceptT Error m Session := do
  let path := if file.startsWith "/" then file else join ctx.root file
  let text ← orFail ((← sys.readText path).mapError .io)
  let (session, _) := ctx.session.openBuffer buffer
  let (session, r) ← (session.analyze ctx.transport buffer ⟨ctx.root, file, text⟩ : m _)
  let _ ← orFail r
  return session

end Machine

/-- The cursor at a place: the point at its row and column. -/
def Place.cursor (p : Place) : Span := .point ⟨p.row, p.col⟩

/-- **Step through occurrences**: up to `n` jumps, each from where the last one landed, stopping
at the first that does not move; the span landed on last, if any jump moved. -/
def jumps (s : Session) (d : Direction) : Nat → Span → Option Span → Session × Option Span
  | 0, _, last => (s, last)
  | n + 1, q, last =>
    match s.jump buffer q d with
    | (s, some next) => jumps s d n next (some next)
    | (s, none) => (s, last)

namespace Machine

variable {m : Type → Type} [Monad m] (sys : Machine m)

/-- **Perform a task**: the text it prints. -/
def perform (ctx : Context m) : Task → ExceptT Error m String
  | .lint (some file) => do
    let s ← sys.load ctx file
    return Output.findings file (((s.store.snapshot? buffer).map (·.findings)).getD []) ctx.format
  | .lint none => do
    let r ← ExceptT.mk (Session.projectDiagnostics ctx.transport ctx.root)
    return Output.findings ctx.root r.findings ctx.format
  | .symbolAt p => do
    let s ← sys.load ctx p.file
    return Output.entity (s.entityAt buffer p.cursor) ctx.format
  | .usages p => do
    let s ← sys.load ctx p.file
    return Output.occurrences (s.findUsages buffer p.cursor) ctx.format
  | .definition p => do
    let s ← sys.load ctx p.file
    let l ← (s.locateDefinition ctx.transport buffer p.cursor ctx.root p.file : m _)
    let l := l.map fun l => { l with filename := l.filename <|> some p.file }
    return Output.location l ctx.format
  | .jump p steps back => do
    let s ← sys.load ctx p.file
    let (_, landed) := jumps s (if back then .back else .forward) steps p.cursor none
    return Output.location (landed.map fun q => ⟨some p.file, q⟩) ctx.format
  | .namespaces => do
    let ns ← ExceptT.mk (Session.projectNamespaces ctx.transport ctx.root)
    return Output.namespaces (ns.mergeSort fun a b => decide (a.name ≤ b.name)) ctx.format
  | .stats => do
    let r ← ExceptT.mk (Session.projectAnalysis ctx.transport ctx.root)
    return Output.stats (Snapshot.build r).stats ctx.format

/-- **Run a task**: set up, perform it and print its text and a newline. -/
def run (inv : Invocation) : m (Except Error Unit) := ExceptT.run do
  let ctx ← sys.context inv.options
  let text ← sys.perform ctx inv.task
  (sys.print (text ++ "\n") : m Unit)

end Machine

/-- How a command line ends: refused by the reader (a help or version request included), or run. -/
inductive Outcome where
  | refused (f : Failure)
  | finished (r : Except Error Unit)
  deriving Inhabited

/-- **Run the tool** on a command line, without the program's name. -/
def Machine.main {m : Type → Type} [Monad m] (sys : Machine m) (args : List String) : m Outcome :=
  match Invocation.ofArgs args with
  | .error f => pure (.refused f)
  | .ok inv => Outcome.finished <$> sys.run inv

end CrossRef.Cli
