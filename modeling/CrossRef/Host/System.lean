import CrossRef.Host.Files
/-!
Processes of a simulated host and what they share.

Processes run one at a time, each to its end, so what they share is a plain value: the files,
the byte streams between them, and the signals sent to them but not yet taken. A stream is what a
pipe, the host's own standard streams or a captured output carries: the bytes written to it and
how far it has been read; a reader at its end has reached the end of input, as the writer is done.

A process reaches streams and files through its file descriptors, each naming a channel (a
stream, a regular file open for writing, a device or a directory) and whether it may be read or
written. Writing to a regular file adds to its end; reading a regular file reads a stream made
of its bytes when it was opened. A directory can be opened but not read, and writing to
`/dev/full` fails for want of space.

A process ends with an exit status, or killed by a signal.
-/

namespace CrossRef.Host

/-- A stream of bytes between processes. -/
structure Stream where
  data : ByteArray := .empty
  /-- How much of it was read. -/
  offset : Nat := 0
  deriving Inhabited

/-- What a file descriptor refers to. -/
inductive Channel where
  | stream (id : Nat)
  /-- A regular file open for writing. -/
  | file (path : String)
  | device (d : Device)
  | directory (path : String)
  deriving DecidableEq, Repr, Inhabited

/-- An open file descriptor. -/
structure Desc where
  channel : Channel
  readable : Bool
  writable : Bool
  deriving DecidableEq, Repr, Inhabited

/-- A process's file descriptors. -/
abbrev Fds := List (Nat × Desc)

/-- The descriptor open at a number. -/
def Fds.get? (fds : Fds) (fd : Nat) : Option Desc := (fds.find? (·.1 == fd)).map (·.2)

/-- Open a descriptor at a number, replacing what was open there. -/
def Fds.set (fds : Fds) (fd : Nat) (d : Desc) : Fds :=
  ((fds.filter (·.1 != fd)) ++ [(fd, d)]).mergeSort fun a b => a.1 ≤ b.1

/-- Close a descriptor. -/
def Fds.close (fds : Fds) (fd : Nat) : Fds := fds.filter (·.1 != fd)

/-- How a process ended. -/
inductive Exit where
  /-- With an exit status, 0 to 255. -/
  | code (n : Nat)
  /-- Killed by a signal. -/
  | signal (n : Nat)
  deriving DecidableEq, Repr, Inhabited

/-- The status a shell reports for a process: its exit status, or 128 and the signal. -/
def Exit.status : Exit → Nat
  | .code n => n
  | .signal n => 128 + n

/-- A process as its program sees it when it starts. -/
structure Proc where
  /-- Its arguments, its name first. -/
  argv : List Bytes
  /-- Its environment, by name. -/
  env : List (String × Bytes)
  cwd : String
  fds : Fds
  pid : Nat
  /-- The number of the process that started it. -/
  ppid : Nat
  deriving Inhabited

/-- What the processes of a host share. -/
structure System where
  files : Files
  streams : Array Stream := #[]
  /-- The number the next process gets. -/
  nextPid : Nat := 1000
  /-- Signals sent and not yet taken, by process. -/
  signals : List (Nat × Nat) := []
  /-- The processes running, the one running now first: each waits for the one before it. -/
  running : List Nat := []
  deriving Inhabited

/-- Running with the shared state of a host. -/
abbrev SysM := StateM System

namespace System

/-- **Make a stream** holding some bytes, unread. -/
def newStream (data : ByteArray := .empty) : SysM Nat := modifyGet fun s =>
  (s.streams.size, { s with streams := s.streams.push { data } })

/-- The bytes written to a stream. -/
def streamData (id : Nat) : SysM ByteArray := do
  return ((← get).streams[id]?.map (·.data)).getD .empty

/-- Number a new process. -/
def newPid : SysM Nat := modifyGet fun s => (s.nextPid, { s with nextPid := s.nextPid + 1 })

/-- **Write to a channel.** -/
def writeChannel (c : Channel) (b : ByteArray) : SysM (Except Errno Unit) := do
  match c with
  | .stream id =>
    modify fun s => { s with streams := s.streams.modify id fun st => { st with data := st.data ++ b } }
    return .ok ()
  | .file path =>
    modify fun s => { s with files := s.files.append path b }
    return .ok ()
  | .device .full => return if b.size == 0 then .ok () else .error .noSpace
  | .device _ => return .ok ()
  | .directory _ => return .error .badDescriptor

/-- **Write to a file descriptor.** -/
def write (fds : Fds) (fd : Nat) (b : ByteArray) : SysM (Except Errno Unit) :=
  match fds.get? fd with
  | some d => if d.writable then writeChannel d.channel b else pure (.error .badDescriptor)
  | none => pure (.error .badDescriptor)

/-- Read from a stream: at most `limit` bytes, or all that is left. -/
def readStream (id : Nat) (limit : Option Nat) : SysM ByteArray := modifyGet fun s =>
  match s.streams[id]? with
  | some st =>
    let stop := match limit with
      | some n => min st.data.size (st.offset + n)
      | none => st.data.size
    (st.data.extract st.offset stop, { s with streams := s.streams.set! id { st with offset := stop } })
  | none => (.empty, s)

/-- **Read from a file descriptor**: at most `limit` bytes, or all that is left. A zero device
gives the bytes asked for, or a block of them. -/
def read (fds : Fds) (fd : Nat) (limit : Option Nat := none) : SysM (Except Errno ByteArray) :=
  match fds.get? fd with
  | some d =>
    if !d.readable then pure (.error .badDescriptor)
    else match d.channel with
      | .stream id => .ok <$> readStream id limit
      | .device .null => pure (.ok .empty)
      | .device .tty => pure (.error .noDevice)
      | .device _ => pure (.ok ⟨Array.replicate (limit.getD 4096) 0⟩)
      | .directory _ => pure (.error .isDirectory)
      | .file _ => pure (.error .badDescriptor)
  | none => pure (.error .badDescriptor)

/-- **Read one line** from a file descriptor, byte by byte as a shell does: the bytes up to the
newline, which is read too, and whether the input ended before one. -/
def readLine (fds : Fds) (fd : Nat) : SysM (Except Errno (ByteArray × Bool)) :=
  match fds.get? fd with
  | some { channel := .stream id, readable := true, .. } => modifyGet fun s =>
    match s.streams[id]? with
    | some st =>
      let rest := st.data.extract st.offset st.data.size
      match rest.toList.findIdx? (· == 10) with
      | some i =>
        (.ok (rest.extract 0 i, false), { s with streams := s.streams.set! id { st with offset := st.offset + i + 1 } })
      | none => (.ok (rest, true), { s with streams := s.streams.set! id { st with offset := st.data.size } })
    | none => (.ok (.empty, true), s)
  | some { channel := .device .null, readable := true, .. } => pure (.ok (.empty, true))
  | _ => do
    match ← read fds fd none with
    | .ok b => return .ok (b, true)
    | .error e => return .error e

/-- How a file is opened. -/
inductive Access where
  | read
  /-- For writing, emptied first. -/
  | truncate
  /-- For writing at the end. -/
  | append
  /-- For reading and writing. -/
  | readWrite
  deriving DecidableEq, Repr, Inhabited

/-- **Open a file** at an absolute, resolved path. Opening for writing creates a missing file when
its directory exists. -/
def openFile (path : String) (a : Access) : SysM (Except Errno Desc) := do
  let s ← get
  let writing := a != .read
  match s.files.node? path with
  | some (.device d) =>
    if d == .tty then return .error .noDevice
    return .ok { channel := .device d, readable := a == .read || a == .readWrite, writable := writing }
  | some (.file b x) =>
    if a == .read then
      let id ← newStream b
      return .ok { channel := .stream id, readable := true, writable := false }
    else
      if a == .truncate then modify fun s => { s with files := s.files.put path (.file .empty x) }
      if a == .readWrite then
        let id ← newStream b
        return .ok { channel := .stream id, readable := true, writable := false }
      return .ok { channel := .file path, readable := false, writable := true }
  | some (.program _) =>
    if writing then return .error .access
    let id ← newStream .empty
    return .ok { channel := .stream id, readable := true, writable := false }
  | none =>
    if s.files.isDir path then
      if writing then return .error .isDirectory
      return .ok { channel := .directory path, readable := true, writable := false }
    else if !writing then return .error .noEntry
    else if !s.files.parentExists path then return .error .noEntry
    else
      modify fun s => { s with files := s.files.put path (.file .empty false) }
      if a == .readWrite then
        let id ← newStream .empty
        return .ok { channel := .stream id, readable := true, writable := false }
      return .ok { channel := .file path, readable := false, writable := true }

/-- Send a signal to a process. -/
def signal (pid sig : Nat) : SysM Unit := modify fun s => { s with signals := s.signals ++ [(pid, sig)] }

/-- A process starts running. -/
def enter (pid : Nat) : SysM Unit := modify fun s => { s with running := pid :: s.running }

/-- A process ends; signals sent to it are dropped. -/
def leave (pid : Nat) : SysM Unit := modify fun s =>
  { s with running := s.running.filter (· != pid), signals := s.signals.filter (·.1 != pid) }

/-- Whether a process is running. -/
def isRunning (pid : Nat) : SysM Bool := do return (← get).running.contains pid

/-- Take the signals sent to a process. -/
def takeSignals (pid : Nat) : SysM (List Nat) := modifyGet fun s =>
  ((s.signals.filter (·.1 == pid)).map (·.2), { s with signals := s.signals.filter (·.1 != pid) })

end System

/-- The names of the signals, by number from 1. -/
def signalNames : List String :=
  ["HUP", "INT", "QUIT", "ILL", "TRAP", "ABRT", "BUS", "FPE", "KILL", "USR1", "SEGV", "USR2",
   "PIPE", "ALRM", "TERM", "STKFLT", "CHLD", "CONT", "STOP", "TSTP", "TTIN", "TTOU", "URG",
   "XCPU", "XFSZ", "VTALRM", "PROF", "WINCH", "IO", "PWR", "SYS"]

/-- The name of a signal, without `SIG`. -/
def signalName (n : Nat) : Option String := if n = 0 then none else signalNames[n - 1]?

/-- What the C library says of a signal. -/
def signalText (n : Nat) : String :=
  match n with
  | 1 => "Hangup" | 2 => "Interrupt" | 3 => "Quit" | 4 => "Illegal instruction"
  | 5 => "Trace/breakpoint trap" | 6 => "Aborted" | 7 => "Bus error"
  | 8 => "Floating point exception" | 9 => "Killed" | 10 => "User defined signal 1"
  | 11 => "Segmentation fault" | 12 => "User defined signal 2" | 13 => "Broken pipe"
  | 14 => "Alarm clock" | 15 => "Terminated" | 16 => "Stack fault" | 17 => "Child exited"
  | 18 => "Continued" | 19 => "Stopped (signal)" | 20 => "Stopped" | 21 => "Stopped (tty input)"
  | 22 => "Stopped (tty output)" | 23 => "Urgent I/O condition" | 24 => "CPU time limit exceeded"
  | 25 => "File size limit exceeded" | 26 => "Virtual timer expired"
  | 27 => "Profiling timer expired" | 28 => "Window changed" | 29 => "I/O possible"
  | 30 => "Power failure" | 31 => "Bad system call"
  | _ => "Real-time signal " ++ toString (n - 34)

/-- Whether a signal's default action leaves a process running: it is ignored, or stops or
continues it. -/
def signalSpares (n : Nat) : Bool := [17, 18, 19, 20, 21, 22, 23, 28].contains n

/-- A program: what a process does with what it is started with. -/
abbrev Program := Proc → SysM Exit

/-- A way to start programs: the program at a path, with what its process starts with. -/
abbrev Spawner := String → Proc → SysM Exit

end CrossRef.Host
