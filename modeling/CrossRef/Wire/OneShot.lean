import CrossRef.Wire.Transport
import CrossRef.Text.Utf8
import CrossRef.Host.System
/-!
An analyzer run as a fresh process for every request.

The request line goes to the process's standard input and the answer is read from its standard
output, which must be one response line. Anything the process writes to its standard error fails
the request with that text, lossily decoded and without its trailing white space; otherwise a
process killed by a signal, or exiting with a status other than zero, fails it naming the signal
or the status. A process that exits without reading its whole input is not a failure.
-/

namespace CrossRef

/-- What a finished analyzer process left. -/
structure ProcessOutput where
  stdout : ByteArray
  stderr : ByteArray
  status : Nat
  /-- The signal that killed the process, if one did. -/
  signal : Option Nat := none
  deriving Inhabited

/-- A program and its arguments. -/
structure OneShot where
  program : String
  args : List String
  deriving DecidableEq, Repr, Inhabited

namespace OneShot

/-- The command line of an analyzer: the first element is the program. -/
def ofArgv : List String → Except Error OneShot
  | program :: args => .ok ⟨program, args⟩
  | [] => .error (.config "analyzer command is empty")

/-- Characters trimmed from the end of an analyzer's complaint. -/
def whiteSpace (c : Char) : Bool :=
  let n := c.toNat
  (9 ≤ n && n ≤ 13) || n = 32 || n = 0x85 || n = 0xA0 || n = 0x1680 || (0x2000 ≤ n && n ≤ 0x200A) ||
    n = 0x2028 || n = 0x2029 || n = 0x202F || n = 0x205F || n = 0x3000

/-- Text without its trailing white space. -/
def trimEnd (s : String) : String := String.ofList (s.toList.reverse.dropWhile whiteSpace).reverse

/-- **What a finished process answers.** -/
def answer (o : OneShot) (out : ProcessOutput) : Except Error Response :=
  if out.stderr.size > 0 then .error (.analyzer (trimEnd (Utf8.decodeLossy out.stderr)))
  else if let some n := out.signal then
    .error (.analyzer (o.program ++ " exited with signal: " ++ toString n ++
      ((Host.signalName n).map (" (SIG" ++ · ++ ")")).getD ""))
  else if out.status ≠ 0 then
    .error (.analyzer (o.program ++ " exited with exit status: " ++ toString out.status))
  else Response.decode out.stdout

/-- **Send one request** to a fresh process started by `spawn`. -/
def request {m : Type → Type} [Monad m]
    (spawn : String → List String → ByteArray → m (Except IoFailure ProcessOutput)) (o : OneShot) :
    Transport m := fun r => do
  match ← spawn o.program o.args r.encode.toUTF8 with
  | .error e => return .error (.transport ("spawning " ++ o.program) e.message)
  | .ok out => return o.answer out

end OneShot

end CrossRef
