import CrossRef.Error
import CrossRef.Text.Bytes
/-!
Files of a simulated host.

A host's files are a list of absolute paths with what each holds: a regular file with its bytes,
a device, or one of the host's programs. A directory exists when it is the root, or holds
something, or is listed among the known directories. Paths are resolved against a working
directory the way the operating system resolves them when no link is involved: a relative path
is joined to the working directory, `.` and empty components are dropped, and `..` removes the
component before it (and does nothing at the root).

The operating system's failures are `Errno` values, worded as the C library words them; the
program's own errors carry them as `IoFailure`s, worded with their numbers.
-/

namespace CrossRef.Host

/-- The components of a path, after resolving `.`, `..` and empty components. -/
def normalize (components : List String) : List String :=
  components.foldl (fun acc c =>
    if c = "" ∨ c = "." then acc
    else if c = ".." then acc.dropLast
    else acc ++ [c]) []

/-- A path from its components. -/
def ofComponents (cs : List String) : String := "/" ++ "/".intercalate cs

/-- **Resolve a path** against a working directory. -/
def resolve (cwd path : String) : String :=
  let joined := if path.startsWith "/" then path else cwd ++ "/" ++ path
  ofComponents (normalize (joined.splitOn "/"))

/-- Join a relative path to a base as paths are joined before any resolution: an absolute path
replaces the base, and an empty base leaves the path as it is. -/
def join (base path : String) : String :=
  if path.startsWith "/" || base.isEmpty then path
  else if base.endsWith "/" then base ++ path
  else base ++ "/" ++ path

/-- The directory a resolved path is in. -/
def parentOf (path : String) : String :=
  ofComponents (normalize (path.splitOn "/")).dropLast

/-- The last component of a resolved path. -/
def baseName (path : String) : String := ((normalize (path.splitOn "/")).getLast?).getD "/"

/-- A failure of a call to the operating system. -/
inductive Errno where
  | noEntry
  | access
  | isDirectory
  | notDirectory
  | badDescriptor
  | noSpace
  | noDevice
  | fileExists
  | notEmpty
  | brokenPipe
  | outOfRange
  | invalid
  | noProcess
  | notPermitted
  | execFormat
  deriving DecidableEq, Repr, Inhabited

namespace Errno

/-- How the C library words a failure. -/
def text : Errno → String
  | .noEntry => "No such file or directory"
  | .access => "Permission denied"
  | .isDirectory => "Is a directory"
  | .notDirectory => "Not a directory"
  | .badDescriptor => "Bad file descriptor"
  | .noSpace => "No space left on device"
  | .noDevice => "No such device or address"
  | .fileExists => "File exists"
  | .notEmpty => "Directory not empty"
  | .brokenPipe => "Broken pipe"
  | .outOfRange => "Numerical result out of range"
  | .invalid => "Invalid argument"
  | .noProcess => "No such process"
  | .notPermitted => "Operation not permitted"
  | .execFormat => "Exec format error"

/-- The number of a failure. -/
def code : Errno → Nat
  | .noEntry => 2
  | .access => 13
  | .isDirectory => 21
  | .notDirectory => 20
  | .badDescriptor => 9
  | .noSpace => 28
  | .noDevice => 6
  | .fileExists => 17
  | .notEmpty => 39
  | .brokenPipe => 32
  | .outOfRange => 34
  | .invalid => 22
  | .noProcess => 3
  | .notPermitted => 1
  | .execFormat => 8

/-- The failure as the program's errors carry it. -/
def failure : Errno → IoFailure
  | .noEntry => .notFound
  | .access => .permissionDenied
  | .isDirectory => .isDirectory
  | .brokenPipe => .brokenPipe
  | e => .other (e.text ++ " (os error " ++ toString e.code ++ ")")

end Errno

/-- A device file. -/
inductive Device where
  /-- Reads as empty and swallows what is written. -/
  | null
  /-- Reads as zero bytes and swallows what is written. -/
  | zero
  /-- Reads as zero bytes and is full to every write. -/
  | full
  /-- A terminal; there is none, so it cannot be opened. -/
  | tty
  deriving DecidableEq, Repr, Inhabited

/-- What a path holds. -/
inductive Node where
  /-- A regular file: its bytes, and whether it may be executed. -/
  | file (content : ByteArray) (executable : Bool)
  | device (d : Device)
  /-- One of the host's programs. -/
  | program (name : String)
  deriving Inhabited

/-- The files of a host, by absolute path, and its known directories. -/
structure Files where
  entries : List (String × Node) := []
  dirs : List String := []
  deriving Inhabited

namespace Files

/-- What an absolute, resolved path holds, when it is not a directory. -/
def node? (fs : Files) (path : String) : Option Node :=
  (fs.entries.find? (·.1 = path)).map (·.2)

/-- Whether an absolute, resolved path is a directory. -/
def isDir (fs : Files) (path : String) : Bool :=
  path = "/" || (!path.isEmpty && (fs.dirs.contains path || fs.entries.any (·.1.startsWith (path ++ "/")) ||
    fs.dirs.any (·.startsWith (path ++ "/"))))

/-- Whether something exists at an absolute, resolved path. -/
def present (fs : Files) (path : String) : Bool := (fs.node? path).isSome || fs.isDir path

/-- The bytes of the regular file at a path. -/
def bytes? (fs : Files) (path : String) : Option ByteArray :=
  match fs.node? path with
  | some (.file b _) => some b
  | _ => none

/-- **Read a file**: its bytes; a device reads as empty. -/
def read (fs : Files) (path : String) : Except Errno ByteArray :=
  match fs.node? path with
  | some (.file b _) => .ok b
  | some (.device .tty) => .error .noDevice
  | some (.device _) => .ok .empty
  | some (.program name) => .ok name.toUTF8
  | none => if fs.isDir path then .error .isDirectory else .error .noEntry

/-- **Read a text file**: the text of its bytes, which must be UTF-8. -/
def readText (fs : Files) (path : String) : Except IoFailure String :=
  match fs.read path with
  | .error e => .error e.failure
  | .ok b => match String.fromUTF8? b with
    | some t => .ok t
    | none => .error (.other "stream did not contain valid UTF-8")

/-- Whether the directory a path would be created in exists. -/
def parentExists (fs : Files) (path : String) : Bool := fs.isDir (parentOf path)

/-- Put a node at a path, replacing what was there. -/
def put (fs : Files) (path : String) (n : Node) : Files :=
  { fs with entries := (fs.entries.filter (·.1 ≠ path)) ++ [(path, n)] }

/-- Write a regular file, replacing its bytes and keeping whether it may be executed. -/
def write (fs : Files) (path : String) (b : ByteArray) : Files :=
  let executable := match fs.node? path with
    | some (.file _ x) => x
    | _ => false
  fs.put path (.file b executable)

/-- Add bytes to the end of a regular file, creating it when it is missing. -/
def append (fs : Files) (path : String) (b : ByteArray) : Files :=
  fs.write path ((fs.bytes? path).getD .empty ++ b)

/-- Remove what a path holds. -/
def remove (fs : Files) (path : String) : Files :=
  { fs with entries := fs.entries.filter (·.1 ≠ path), dirs := fs.dirs.filter (· ≠ path) }

/-- Add a directory. -/
def mkdir (fs : Files) (path : String) : Files := { fs with dirs := fs.dirs ++ [path] }

/-- Files of texts, by path. -/
def ofTexts (texts : List (String × String)) (dirs : List String := []) : Files :=
  { entries := texts.map fun (p, t) => (p, .file t.toUTF8 false), dirs }

/-- The names in a directory, each once, in the order they were made. -/
def list (fs : Files) (dir : String) : List String :=
  let pre := if dir = "/" then "/" else dir ++ "/"
  let under := fs.entries.map (·.1) ++ fs.dirs
  let names := under.filterMap fun p =>
    if p.startsWith pre && p ≠ dir then ((p.drop pre.length).toString.splitOn "/").head? else none
  names.foldl (fun acc n => if acc.contains n || n.isEmpty then acc else acc ++ [n]) []

/-- **The files every host has**: the usual top directories, the devices `null`, `zero`, `full`
and `tty`, and each program under `/bin` and `/usr/bin`. -/
def base (programs : List String) : Files :=
  { entries :=
      [("/dev/null", .device .null), ("/dev/zero", .device .zero), ("/dev/full", .device .full),
       ("/dev/tty", .device .tty)] ++
      programs.map (fun p => ("/usr/bin/" ++ p, Node.program p)) ++
      programs.map (fun p => ("/bin/" ++ p, Node.program p))
    dirs := ["/bin", "/boot", "/dev", "/etc", "/home", "/lib", "/media", "/mnt", "/opt", "/proc",
      "/root", "/run", "/sbin", "/srv", "/sys", "/tmp", "/usr", "/usr/bin", "/usr/lib",
      "/usr/local", "/usr/local/bin", "/usr/sbin", "/usr/share", "/var"] }

/-- **Why the way to a path is blocked**: the first directory on the way to it, from the root,
that is something else (`ENOTDIR`) or is missing (`ENOENT`); none when every one is a
directory. The empty path leads nowhere. -/
def wayProblem (fs : Files) (path : String) : Option Errno :=
  if path.isEmpty then some .noEntry else
  let comps := normalize (path.splitOn "/")
  let ways := (List.range (comps.length - 1)).map fun i => ofComponents (comps.take (i + 1))
  ways.findSome? fun p =>
    if (fs.node? p).isSome then some .notDirectory
    else if fs.isDir p then none
    else some .noEntry

/-- Why a path holds nothing: the way to it is blocked, or it is missing. -/
def missing (fs : Files) (path : String) : Errno := (fs.wayProblem path).getD .noEntry

/-- Whether a path is under a directory (and not the directory itself). -/
def isUnder (dir path : String) : Bool :=
  path.startsWith (if dir = "/" then "/" else dir ++ "/") && path ≠ dir

/-- **Remove a directory and all it holds.** -/
def removeTree (fs : Files) (path : String) : Files :=
  { entries := fs.entries.filter (fun e => e.1 ≠ path && !isUnder path e.1),
    dirs := fs.dirs.filter (fun d => d ≠ path && !isUnder path d) }

/-- A path under one directory moved under another. -/
def rebase (src dst path : String) : String :=
  if path = src then dst else dst ++ "/" ++ (path.drop (if src = "/" then 1 else src.length + 1)).toString

/-- **Copy a directory and all it holds** to another path, over what is there. -/
def copyTree (fs : Files) (src dst : String) : Files :=
  let copied := (fs.entries.filter fun e => isUnder src e.1).map fun (p, n) => (rebase src dst p, n)
  let dirs := (fs.dirs.filter (isUnder src)).map (rebase src dst)
  { entries := fs.entries.filter (fun e => !copied.any (·.1 = e.1)) ++ copied,
    dirs := fs.dirs ++ [dst] ++ dirs }

/-- Files laid over others: a path of the first wins. -/
def overlay (fs base : Files) : Files :=
  { entries := fs.entries ++ base.entries.filter (fun e => (fs.node? e.1).isNone),
    dirs := fs.dirs ++ base.dirs }

end Files

end CrossRef.Host
