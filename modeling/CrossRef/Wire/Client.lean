import CrossRef.Wire.Transport
/-!
A connection to a long-lived analyzer.

An analyzer listens at an *address*: a socket file when the configured text looks like a path
(it starts with `/`, `.` or `~`), and a `host:port` otherwise.

The client writes one request line and reads the answer until the bytes read so far end with a
newline; the answer is those bytes, decoded. A read gives at most `readChunk` bytes, may be
interrupted (and is then tried again), may fail, or finds the end of the stream: a transport
failure when nothing was read, and a protocol failure naming the byte count otherwise
(`readAnswer`). Writing to a connection the analyzer has closed is a transport failure, and the
request is lost.

The analyzer's end of the connection is a `Peer` following a script of replies: for each request
line it reads, it hangs up or writes a reply, and it hangs up after a reply that does not end a
line, and after its last reply. Everything the peer writes stays waiting until the client reads
it, so an answer cut short by the reads leaves the rest for the next request. How the connection
cuts the waiting bytes into reads is a parameter (`Client.requestBy`); the client of the
library's own machines reads whole chunks (`wholeChunks`).

Because the peer always hangs up after writing bytes without a final newline, a read never
waits for bytes that will not come: when the waiting bytes hold no line end, the client reads
them all and then the end of the stream.
-/

namespace CrossRef

/-- Where a long-lived analyzer listens. -/
inductive Address where
  /-- A `host:port`. -/
  | tcp (hostPort : String)
  /-- A socket file. -/
  | unix (path : String)
  deriving DecidableEq, Repr, Inhabited

namespace Address

/-- **Parse a configured address**: a path is a socket file, anything else is `host:port`. -/
def parse (raw : String) : Address :=
  if raw.startsWith "/" || raw.startsWith "." || raw.startsWith "~" then .unix raw else .tcp raw

/-- The address with its scheme. -/
def display : Address → String
  | .tcp a => "tcp://" ++ a
  | .unix p => "unix://" ++ p

/-- The name of the address's kind. -/
def kind : Address → String
  | .tcp _ => "tcp"
  | .unix _ => "unix"

end Address

/-- The most a single read returns. -/
def readChunk : Nat := 4096

/-- The newline byte that ends an answer. -/
def newline : UInt8 := 10

/-- Whether some bytes end with a newline. -/
def endsLine (b : ByteArray) : Bool := b.size > 0 && b.get! (b.size - 1) == newline

/-- What one read of the connection gives. -/
inductive Read where
  /-- The read was interrupted before it took anything. -/
  | interrupted
  /-- The read failed. -/
  | failed (cause : IoFailure)
  /-- Some bytes; none at all is the end of the stream. -/
  | data (bytes : ByteArray)
  deriving Inhabited

/-- The bytes of some reads, in order: what they hand over. -/
def Read.bytes : List Read → ByteArray
  | [] => .empty
  | .data b :: rs => b ++ Read.bytes rs
  | _ :: rs => Read.bytes rs

/-- The failure of finding the end of the stream after `n` bytes of an answer. -/
def closedAfter (n : Nat) : Error :=
  if n = 0 then .transport "receiving response" "connection closed by analyzer"
  else .protocol ("connection closed after " ++ toString n ++ " bytes of an incomplete response")

/-- **Read an answer**, `acc` being the bytes read so far: read until they end with a newline.
The reads are what the connection gives, in order, and after the last one a read finds the end
of the stream. Returns the answer, or the failure, and the reads not made. -/
def readAnswer (acc : ByteArray) : List Read → Except Error ByteArray × List Read
  | [] => (.error (closedAfter acc.size), [])
  | .interrupted :: rs => readAnswer acc rs
  | .failed e :: rs => (.error (.transport "receiving response" e.message), rs)
  | .data b :: rs =>
    if b.size = 0 then (.error (closedAfter acc.size), rs)
    else if endsLine (acc ++ b) then (.ok (acc ++ b), rs)
    else readAnswer (acc ++ b) rs

/-- **Whole chunks**: the waiting bytes in reads of `readChunk` bytes, the last one shorter. -/
def wholeChunks (u : ByteArray) : List Read :=
  if u.size = 0 then []
  else .data (u.extract 0 readChunk) :: wholeChunks (u.extract readChunk u.size)
termination_by u.size
decreasing_by simp only [ByteArray.size_extract, readChunk]; omega

/-- What an analyzer does after reading a request line. -/
inductive Reply where
  /-- Close the connection. -/
  | hangUp
  /-- Write some bytes. -/
  | write (bytes : ByteArray)
  deriving Inhabited

/-- The analyzer's end of a connection, following a script of replies. -/
structure Peer where
  /-- The replies still to give. -/
  replies : List Reply
  /-- The request lines read so far. -/
  received : List String := []
  /-- Bytes written and not yet read by the client. -/
  unread : ByteArray := .empty
  /-- Whether the analyzer has closed the connection. -/
  closed : Bool := false
  deriving Inhabited

namespace Peer

/-- A peer about to follow a script: with nothing to say it has already hung up. -/
def ofReplies (rs : List Reply) : Peer := { replies := rs, closed := rs.isEmpty }

/-- **Read a request line and act on the next reply.** -/
def take (p : Peer) (line : String) : Peer :=
  let p := { p with received := p.received ++ [line] }
  match p.replies with
  | [] => { p with closed := true }
  | .hangUp :: rest => { p with replies := rest, closed := true }
  | .write b :: rest =>
    { p with replies := rest, unread := p.unread ++ b, closed := !endsLine b || rest.isEmpty }

end Peer

/-- A client connected to a scripted peer. -/
abbrev Connected := StateM Peer

namespace Peer

/-- **The client reads an answer** from the peer's waiting bytes, cut into reads by `cut`; what
it does not read stays waiting. -/
def receive (cut : ByteArray → List Read) (p : Peer) : Except Error ByteArray × Peer :=
  let read := readAnswer .empty (cut p.unread)
  (read.1, { p with unread := Read.bytes read.2 })

/-- **One request over the connection**: refused when the peer has hung up, else written, taken
by the peer, and answered by what the client reads, decoded. -/
def exchange (cut : ByteArray → List Read) (r : Request) (p : Peer) :
    Except Error Response × Peer :=
  if p.closed then (.error (.transport ("sending " ++ r.op) IoFailure.brokenPipe.message), p)
  else
    let got := (p.take r.encode).receive cut
    (got.1.bind Response.decode, got.2)

end Peer

namespace Client

/-- **Send one request and decode its answer**, the connection cutting the waiting bytes into
reads with `cut`. -/
def requestBy (cut : ByteArray → List Read) : Transport Connected := fun r =>
  modifyGet (Peer.exchange cut r)

/-- Send one request over a connection that hands over whole chunks. -/
def request : Transport Connected := requestBy wholeChunks

end Client

end CrossRef
