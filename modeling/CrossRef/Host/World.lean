import CrossRef.Cli.Run
import CrossRef.Host.Process
/-!
A simulated machine for the tool.

A world has a working directory, environment variables, files, an analyzer server that may be
listening on a unix socket or a TCP address, and the standard output written so far. Every
effect of the tool is then a change of the world, so a run is a plain function from a world to
a world.

Connecting follows what the operating system answers here: a unix socket path, resolved against
the working directory, reaches the server when it is the server's socket, is refused when it
names some other file, and is missing otherwise. A TCP address is `host:port`; one without a
colon, or whose port is not a number below 65536, is not an address at all. A host named by
anything but a number or a name of the hosts file cannot be looked up, and any other address but
the server's cannot be reached, because this machine has no network. Once connected, each
request goes to the server's scripted peer.

Programs run on the world's files, in its working directory and with its environment, and leave
the files as they changed them.

This module is the test host, not part of the library's program: the tool reaches it only
through the effects of `Cli.Machine`, which `machine` provides here for the command-line
runs the tests make.
-/

namespace CrossRef.Host

/-- Whether text is a TCP port: an optional `+` and decimal digits, below 65536. -/
def isPort (s : String) : Bool :=
  let digits := if s.startsWith "+" then (s.drop 1).toString else s
  !digits.isEmpty && digits.all Char.isDigit && digits.toNat! < 65536

/-- Whether text is one part of a numeric IPv4 address as the C library reads it: decimal,
octal after `0`, or hexadecimal after `0x`. -/
def isAddressPart (p : String) : Bool :=
  match p.toList with
  | '0' :: x :: ds => if x == 'x' || x == 'X' then ds.all Char.isHexDigit
    else (x :: ds).all fun c => '0' ≤ c && c ≤ '7'
  | ds => !ds.isEmpty && ds.all Char.isDigit

/-- Whether a host is written as a number: one to four dotted IPv4 parts, or an IPv6 address
(hexadecimal groups, colons and perhaps a dotted tail). -/
def isNumericHost (h : String) : Bool :=
  let parts := h.splitOn "."
  (parts.length ≤ 4 && parts.all isAddressPart) ||
    ((h.toList.filter (· == ':')).length ≥ 2 && h.all fun c => c.isHexDigit || c == ':' || c == '.')

/-- The names the machine's hosts file gives an address. -/
def hostsFileNames : List String :=
  ["localhost", "ip6-localhost", "ip6-loopback", "ip6-localnet", "ip6-mcastprefix",
   "ip6-allnodes", "ip6-allrouters"]

/-- **Looking a host up**: numbers and the names of the hosts file have addresses; an empty name
is no name, and any other name needs a name server, which cannot be reached here. -/
def lookupHost (h : String) : Except IoFailure Unit :=
  if h.isEmpty then .error (.other "failed to lookup address information: Name or service not known")
  else if isNumericHost h || hostsFileNames.contains (String.map Char.toLower h) then .ok ()
  else .error (.other "failed to lookup address information: Temporary failure in name resolution")

/-- The host and port of a TCP address, split at its last colon. -/
def splitHostPort (a : String) : Option (String × String) :=
  match a.splitOn ":" with
  | [] | [_] => none
  | parts => some (":".intercalate parts.dropLast, parts.getLast!)

/-- An analyzer server listening on the machine. -/
structure Listener where
  /-- The path of its unix socket. -/
  socket : Option String := none
  /-- Its TCP address. -/
  tcp : Option String := none
  deriving Inhabited

/-- A simulated machine. -/
structure World where
  cwd : String
  env : List (String × String) := []
  /-- The home directory of the user database. -/
  userHome : Option String := none
  files : Files := {}
  listener : Listener := {}
  /-- The analyzer's end of the connection. -/
  peer : Peer := Peer.ofReplies []
  stdout : String := ""
  deriving Inhabited

/-- What a finished process shows the program that started it. -/
def Finished.output (f : Finished) : ProcessOutput :=
  match f.exit with
  | .code n => { stdout := f.stdout, stderr := f.stderr, status := n }
  | .signal n => { stdout := f.stdout, stderr := f.stderr, status := 128 + n, signal := some n }

namespace World

/-- **What connecting to an address answers.** -/
def dial (w : World) : Address → Except IoFailure Unit
  | .unix path =>
    let full := resolve w.cwd path
    if w.listener.socket == some full then .ok ()
    else if w.files.present full then .error .connectionRefused
    else .error .notFound
  | .tcp a =>
    match splitHostPort a with
    | none => .error .invalidSocketAddress
    | some (host, port) =>
      if !isPort port then .error (.other "invalid port value")
      else if w.listener.tcp == some a then .ok ()
      else
        let inner := String.ofList (host.toList.drop 1).dropLast
        let bracketed := host.startsWith "[" && host.endsWith "]" && inner.contains ':' && isNumericHost inner
        match if bracketed then .ok () else lookupHost host with
        | .error e => .error e
        | .ok () => .error .networkUnreachable

/-- A path of the world, resolved against its working directory. -/
def path (w : World) (p : String) : String := resolve w.cwd p

/-- **The world as a machine** for the tool. -/
def machine : Cli.Machine (StateM World) where
  workingDir := do return .ok (← get).cwd
  envVar k := do return ((← get).env.find? (·.1 = k)).map (·.2)
  userHome := do return (← get).userHome
  present p := do
    let w ← get
    return w.files.present (w.path p)
  readText p := do
    let w ← get
    return w.files.readText (w.path p)
  connect a := do return (← get).dial a
  exchange r := modifyGet fun w =>
    let (answer, peer) := (Client.request r).run w.peer
    (answer, { w with peer := peer })
  runProgram program args input := modifyGet fun w =>
    match spawn w.files w.cwd w.env program args input with
    | .ok f => (.ok f.output, { w with files := f.files })
    | .error e => (.error e, w)
  print s := modify fun w => { w with stdout := w.stdout ++ s }

end World

end CrossRef.Host
