import CrossRef.Shell.Run
import CrossRef.Tools.Text
import CrossRef.Tools.Printf
import CrossRef.Tools.Files
import CrossRef.Tools.Dump
import CrossRef.Tools.Grep
/-!
The programs of a simulated host, and starting one from outside it.

The host has a shell (`sh`, also as `dash`) and a set of tools, each in `/usr/bin` and `/bin`. A
program runs in a process whose number it is given; programs the shell starts are started by the
same dispatch, with one unit of fuel less, so programs starting programs end.

Starting a program from outside finds it as the C library's `execvp` does: a name with a slash
is a path, anything else is looked for in the directories of `PATH`. A missing program fails with
"No such file or directory", one that exists but cannot be run (a directory, a file that is not
executable) with "Permission denied". The program runs with its arguments, environment and
working directory, reads the bytes given as its standard input, and leaves its standard output,
standard error, how it ended and the files as it changed them.

This module belongs to the simulated test host that one-shot analyzer commands run on, not to
the library's program: the program reaches the host only through `Cli.Machine` and
`Host.System`, and no theorem of the library is about this module.
-/

namespace CrossRef.Host

open CrossRef.Shell CrossRef.Tools

/-- The programs of a host. -/
def programs : List String :=
  ["sh", "dash", "cat", "echo", "printf", "true", "false", "test", "[", "head", "tail", "tr", "wc",
   "sort", "uniq", "cut", "seq", "tee", "pwd", "sleep", "basename", "dirname", "env", "printenv",
   "base64", "ls", "touch", "mkdir", "rmdir", "rm", "cp", "mv", "chmod", "od", "yes", "grep"]

/-- The tools that run no other program, by name. -/
def toolOf (name : String) : Option (ToolM Exit) :=
  match name with
  | "cat" => some cat
  | "echo" => some echo
  | "printf" => some printf
  | "true" => some (constant 0)
  | "false" => some (constant 1)
  | "head" => some head
  | "tail" => some tail
  | "tr" => some tr
  | "wc" => some wc
  | "sort" => some sort
  | "uniq" => some uniq
  | "cut" => some cut
  | "seq" => some seq
  | "tee" => some tee
  | "pwd" => some pwd
  | "sleep" => some sleep
  | "basename" => some basename
  | "dirname" => some dirname
  | "printenv" => some printenv
  | "base64" => some base64
  | "ls" => some ls
  | "touch" => some touch
  | "mkdir" => some mkdir
  | "rmdir" => some rmdir
  | "rm" => some rm
  | "cp" => some cp
  | "mv" => some mv
  | "chmod" => some chmod
  | "od" => some od
  | "yes" => some yes
  | "grep" => some grep
  | _ => none

/-- **`test` and `[`** as programs. -/
def testTool (bracket : Bool) : ToolM Exit := do
  let p ← proc
  let fs := (← host get).files
  match Test.run bracket (p.argv.drop 1) (fileFacts fs p.cwd) with
  | .ok b => finish (if b then 0 else 1)
  | .error m =>
    complain m
    return .code 2

/-- Whether a node can be run as a program. -/
def runnable : Option Node → Bool
  | some (.program _) => true
  | some (.file _ x) => x
  | _ => false

/-- **Find a program** as `execvp` does, in the directories of a search path. -/
def locate (files : Files) (cwd : String) (searchPath : String) (program : String) : Except Errno String :=
  if program.isEmpty then .error .noEntry
  else if program.contains '/' then
    let full := resolve cwd program
    match files.node? full with
    | some n => if runnable (some n) then .ok full else .error .access
    | none => if files.isDir full then .error .access else .error .noEntry
  else
    let candidates := (searchPath.splitOn ":").map fun d => resolve cwd ((if d.isEmpty then "." else d) ++ "/" ++ program)
    match candidates.find? fun c => runnable (files.node? c) with
    | some c => .ok c
    | none =>
      if candidates.any fun c => (files.node? c).isSome || files.isDir c then .error .access else .error .noEntry

/-- **`env`**: print the environment, or run a program in a changed one. -/
def envTool (spawn : Spawner) : ToolM Exit := do
  let p ← proc
  let spec : OptSpec := {
    short := [(105, false), (117, true), (48, false)]
    long := [("ignore-environment", false, 105), ("unset", true, 117), ("null", false, 48)] }
  let args := p.argv.drop 1
  let args := if args.head? == some [45] then txt "-i" :: args.drop 1 else args
  let (opts, rest) ← match parseOptions spec (args.takeWhile fun a => a.head? == some 45 && a != [45]) with
    | .ok (o, r) => pure (o, r ++ args.dropWhile fun a => a.head? == some 45 && a != [45])
    | .error e =>
      complain e.message
      tryHelp
      return .code 125
  let env0 := if opts.any (·.1 == 105) then [] else p.env
  let unset := opts.filterMap fun (c, a) => if c == 117 then some (Bytes.text a) else none
  let env1 := env0.filter fun (n, _) => !unset.contains n
  let assigns := rest.takeWhile fun a => a.contains 61
  let cmd := rest.drop assigns.length
  let env := assigns.foldl (fun env a =>
    let n := Bytes.text (a.takeWhile (· != 61))
    (env.filter (·.1 != n)) ++ [(n, a.drop (n.utf8ByteSize + 1))]) env1
  match cmd with
  | [] =>
    let nul := opts.any (·.1 == 48)
    for (n, v) in env do put (txt n ++ [61] ++ v ++ [if nul then 0 else 10])
    finish 0
  | c :: more =>
    let path := Bytes.text (((env.find? (·.1 == "PATH")).map (·.2)).getD (txt "/usr/local/bin:/usr/bin:/bin"))
    match locate (← host get).files p.cwd path (Bytes.text c) with
    | .error e =>
      complain (quoteLocale c ++ txt ": " ++ txt e.text)
      if e == .noEntry && c.any (fun b => b == 32 || (9 ≤ b && b ≤ 13)) then
        complain (txt "use -[v]S to pass options in shebang lines")
      return .code (if e == .noEntry then 127 else 126)
    | .ok full =>
      host (spawn full { p with argv := c :: more, env })

/-- **Run a program** of the host in a process; `fuel` bounds how deeply programs start
programs. -/
def run : Nat → Spawner
  | 0, _, _ => pure (.code 126)
  | k + 1, path, p => do
    match (← get).files.node? path with
    | some (.program name) =>
      System.enter p.pid
      let e ← match name with
        | "sh" | "dash" => Shell.main (run k) p
        | "env" => (envTool (run k)).start p
        | "test" => (testTool false).start p
        | "[" => (testTool true).start p
        | n => match toolOf n with
          | some t => t.start p
          | none => pure (.code 127)
      System.leave p.pid
      return e
    | _ => pure (.code 126)

/-- A host's files with its programs in place: `/dev`, `/usr/bin`, `/bin` and the usual
directories, under the given ones. -/
def hostFiles (files : Files) : Files := files.overlay (Files.base programs)

/-- What a finished process left. -/
structure Finished where
  stdout : ByteArray
  stderr : ByteArray
  exit : Exit
  files : Files
  deriving Inhabited

/-- How deeply programs may start programs. -/
def spawnDepth : Nat := 24

/-- **Start a program from outside the host**: with its arguments, environment and working
directory, on the bytes of its standard input. -/
def spawn (files : Files) (cwd : String) (env : List (String × String)) (program : String)
    (args : List String) (stdin : ByteArray) : Except IoFailure Finished :=
  let searchPath := ((env.find? (·.1 == "PATH")).map (·.2)).getD "/bin:/usr/bin"
  match locate files cwd searchPath program with
  | .error e => .error e.failure
  | .ok full =>
    let sys : System := { files, streams := #[{ data := stdin }, {}, {}], nextPid := 1001 }
    let fds : Fds := [(0, { channel := .stream 0, readable := true, writable := false }),
      (1, { channel := .stream 1, readable := false, writable := true }),
      (2, { channel := .stream 2, readable := false, writable := true })]
    let p : Proc := {
      argv := (program :: args).map Bytes.ofString
      env := env.map fun (n, v) => (n, Bytes.ofString v)
      cwd, fds, pid := 1000, ppid := 999 }
    let (e, sys) := (run spawnDepth full p).run sys
    let data (i : Nat) : ByteArray := (sys.streams[i]?.map (·.data)).getD .empty
    .ok { stdout := data 1, stderr := data 2, exit := e, files := sys.files }

end CrossRef.Host
