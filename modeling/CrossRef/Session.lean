import CrossRef.Store
import CrossRef.Wire.Transport
import CrossRef.Config.Basic
/-!
A session: the store of buffers, an analyzer to ask, and when to ask it.

The analyzer is reached through a *transport*, a function from a request to the analyzer's
response in some monad: a scripted one in tests, a socket or a subprocess in use. The session
itself is a value; each operation returns the session after it.

* `analyze` sends the buffer's text and, when the analyzer answers, replaces the buffer's
  snapshot by the snapshot of the answer; on any failure the store is left as it was, and an
  unopened buffer fails before anything is sent.
* `onEvent` analyzes only on the configured events.
* `entityAt`, `findUsages` and `jump` answer from the buffer's snapshot; `jump` first explores
  what is under the cursor, then steps. `findUsages` reads the snapshot once for the entity and
  once more for its occurrences.
* `locateDefinition` answers from the snapshot when it can, and otherwise asks the analyzer to
  resolve the position, taking the first var definition of the answer, else the first namespace
  definition; a failed request is no answer.
-/

namespace CrossRef

/-- A buffer's text and where it comes from. -/
structure Source where
  root : String
  filename : String
  text : String
  deriving Inhabited

/-- A place in a file: the file, when known, and a span. -/
structure Location where
  filename : Option String
  span : Span
  deriving Inhabited

/-- The place of an entity: its own file and its lookup span. -/
def Location.ofEntity (t : Entity) : Location := ⟨t.extent.filename, t.span⟩

/-- A location as JSON. -/
def Location.toJson (l : Location) : Json :=
  .object [("filename", .ofOption Json.string l.filename), ("span", l.span.toJson)]

/-- The store of buffers, and the events that trigger an analysis. -/
structure Session where
  store : Store := {}
  config : AnalysisConfig := {}
  deriving Inhabited

namespace Session

variable {m : Type → Type} [Monad m]

/-- Open a buffer. -/
def openBuffer (s : Session) (b : Nat) : Session × Bool :=
  let (store, r) := s.store.openBuffer b
  ({ s with store }, r)

/-- Close a buffer. -/
def close (s : Session) (b : Nat) : Session × Bool :=
  let (store, r) := s.store.close b
  ({ s with store }, r)

/-- **Analyze a buffer's text**: its new snapshot's counts. -/
def analyze (t : Transport m) (s : Session) (b : Nat) (src : Source) :
    m (Session × Except Error Stats) := do
  if !s.store.isOpen b then return (s, .error (.unknownBuffer b))
  match ← t (.analyzeText src.root src.filename src.text) with
  | .error e => return (s, .error e)
  | .ok resp =>
    let snap := Snapshot.build resp.toReport
    let (store, replaced) := s.store.replace b snap
    if replaced then return ({ s with store }, .ok snap.stats)
    else return (s, .error (.unknownBuffer b))

/-- Analyze on an event, if the event triggers one: whether it did. -/
def onEvent (t : Transport m) (s : Session) (b : Nat) (e : EditorEvent) (src : Source) :
    m (Session × Except Error Bool) := do
  if !s.config.triggersOn e then return (s, .ok false)
  let (s, r) ← s.analyze t b src
  return (s, r.map fun _ => true)

/-- What is under a span of a buffer. -/
def entityAt (s : Session) (b : Nat) (q : Span) : Option Entity :=
  (s.store.snapshot? b).bind (·.entityAt q)

/-- The occurrences of an entity in a buffer's snapshot. -/
def occurrencesIn (s : Session) (b : Nat) (t : Entity) : Option Occurrences :=
  (s.store.snapshot? b).map (·.occurrences t)

/-- The occurrences of what is under a span. The buffer's snapshot is read twice: once to find
the entity, and once more to list its occurrences. -/
def findUsages (s : Session) (b : Nat) (q : Span) : Option Occurrences :=
  (s.entityAt b q).bind (s.occurrencesIn b)

/-- **Jump**: explore what is under the span, then step; the span landed on. -/
def jump (s : Session) (b : Nat) (q : Span) (d : Direction) : Session × Option Span :=
  let (store, r) := s.store.withNavigator b fun snap nav =>
    let nav := match snap.entityAt q with
      | some t => (nav.explore snap t).1
      | none => nav
    let (nav, landed) := nav.step d
    (nav, landed.map Entity.span)
  ({ s with store }, r.join)

/-- The first definition of an analyzer's answer: a var definition, else a namespace one. -/
def firstDefinition (a : Analysis) : Option Entity :=
  match a.varDefinitions with
  | d :: _ => some (.varDefinition d)
  | [] => a.namespaceDefinitions.head?.map .namespaceDefinition

/-- **Where what is under the span is defined.** -/
def locateDefinition (t : Transport m) (s : Session) (b : Nat) (q : Span) (root filename : String) :
    m (Option Location) := do
  let some snap := s.store.snapshot? b | return none
  let some e := snap.entityAt q | return none
  if let some d := snap.definitionOf e then return some (Location.ofEntity d)
  let p := e.span.start
  match ← t (.findDefinitions root filename p.row p.col) with
  | .error _ => return none
  | .ok resp => return (firstDefinition resp.analysis).map Location.ofEntity

/-- The findings of a whole project. -/
def projectDiagnostics (t : Transport m) (root : String) : m (Except Error Report) := do
  return (← t (.diagnostics root)).map Response.toReport

/-- The analysis of a whole project. -/
def projectAnalysis (t : Transport m) (root : String) : m (Except Error Report) := do
  return (← t (.analyzePaths root)).map Response.toReport

/-- The namespaces defined in a project. -/
def projectNamespaces (t : Transport m) (root : String) :
    m (Except Error (List NamespaceDefinition)) := do
  return (← t (.namespaceDefinitions root)).map (·.analysis.namespaceDefinitions)

end Session

/-- Canned answers for a scripted analyzer, and the request lines sent so far. -/
structure Script where
  answers : List (Except Error Response) := []
  sent : List String := []
  deriving Inhabited

/-- **A scripted analyzer**: each request is logged as its encoded line and answered by the next
canned answer; when none is left the answer is a protocol error. -/
def Script.transport : Transport (StateM Script) := fun r => modifyGet fun s =>
  let s := { s with sent := s.sent ++ [r.encode] }
  match s.answers with
  | a :: rest => (a, { s with answers := rest })
  | [] => (.error (.protocol "no scripted response left"), s)

end CrossRef
