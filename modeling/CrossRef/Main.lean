import CrossRef.Cli.Run
/-!
The command line tool on the machine it runs on.

The working directory, the environment, files and standard output are the process's own. This
machine has no socket or process support, so connecting to an analyzer server or starting an
analyzer command fails as an unsupported operation.

A help or version request is printed to standard output and ends the process successfully; any
other refusal of the command line is printed to standard error and ends it with status 2, and a
failed run prints its error and ends it with status 1.
-/

namespace CrossRef.Cli

/-- What this machine answers to what it cannot do. -/
def unsupported : IoFailure := .other "Operation not supported (os error 95)"

/-- The failure of a file operation. -/
def ioFailure : IO.Error → IoFailure
  | .noFileOrDirectory .. => .notFound
  | .permissionDenied .. => .permissionDenied
  | e => .other (toString e)

/-- **The machine the process runs on.** -/
def processMachine : Machine IO where
  workingDir := do
    try return .ok (← IO.currentDir).toString
    catch e => return .error (ioFailure e)
  envVar k := IO.getEnv k
  userHome := pure none
  present p := do
    try
      let _ ← IO.FS.readBinFile p
      return true
    catch e =>
      match e with
      | .noFileOrDirectory .. => return false
      | _ => return true
  readText p := do
    try return .ok (← IO.FS.readFile p)
    catch e => return .error (ioFailure e)
  connect _ := pure (.error unsupported)
  exchange r := pure (.error (.transport ("sending " ++ r.op) unsupported.message))
  runProgram _ _ _ := pure (.error unsupported)
  print s := IO.print s

/-- Whether a refusal is a request whose answer goes to standard output. -/
def FailureKind.isRequest : FailureKind → Bool
  | .displayHelp | .displayVersion => true
  | _ => false

end CrossRef.Cli

open CrossRef CrossRef.Cli in
/-- Run the tool on the process's arguments. -/
def main (args : List String) : IO UInt32 := do
  match ← processMachine.main args with
  | .refused f =>
    if f.kind.isRequest then
      IO.print f.message
      return 0
    else
      IO.eprint f.message
      return 2
  | .finished (.ok ()) => return 0
  | .finished (.error e) =>
    IO.eprintln ("Error: " ++ e.message)
    return 1
