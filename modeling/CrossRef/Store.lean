import CrossRef.Navigator
/-!
The store of open buffers.

Each open buffer has a snapshot, empty when it is opened, and a navigator, idle when it is
opened. Opening an open buffer changes nothing; closing a buffer drops its snapshot and its
navigator together. Replacing a buffer's snapshot keeps its navigator as it was. Navigating runs
against the buffer's snapshot and changes only its navigator.

The store is a list of buffers in the order they were opened, at most one entry per buffer.
-/

namespace CrossRef

/-- What the store keeps for one buffer. -/
structure BufferState where
  snapshot : Snapshot := Snapshot.empty
  navigator : Navigator := .idle
  deriving Inhabited

/-- The open buffers, by id. -/
structure Store where
  buffers : List (Nat × BufferState) := []
  deriving Inhabited

namespace Store

/-- The state of a buffer, if it is open. -/
def get? (s : Store) (b : Nat) : Option BufferState := (s.buffers.find? (·.1 = b)).map (·.2)

/-- Whether a buffer is open. -/
def isOpen (s : Store) (b : Nat) : Bool := s.buffers.any (·.1 = b)

/-- The number of open buffers. -/
def len (s : Store) : Nat := s.buffers.length

/-- Open a buffer: `false` if it was open already. -/
def openBuffer (s : Store) (b : Nat) : Store × Bool :=
  if s.isOpen b then (s, false) else ({ buffers := s.buffers ++ [(b, {})] }, true)

/-- Close a buffer: whether it was open. -/
def close (s : Store) (b : Nat) : Store × Bool :=
  (⟨s.buffers.filter (·.1 ≠ b)⟩, s.isOpen b)

/-- Change the state of an open buffer. -/
def modify (s : Store) (b : Nat) (f : BufferState → BufferState) : Store :=
  ⟨s.buffers.map fun e => if e.1 = b then (e.1, f e.2) else e⟩

/-- The snapshot of an open buffer. -/
def snapshot? (s : Store) (b : Nat) : Option Snapshot := (s.get? b).map (·.snapshot)

/-- The navigator of an open buffer. -/
def navigator? (s : Store) (b : Nat) : Option Navigator := (s.get? b).map (·.navigator)

/-- Replace an open buffer's snapshot: `false`, and nothing changed, if it is not open. -/
def replace (s : Store) (b : Nat) (snap : Snapshot) : Store × Bool :=
  if s.isOpen b then (s.modify b fun st => { st with snapshot := snap }, true) else (s, false)

/-- **Navigate in a buffer**: run `f` on its snapshot and navigator, keeping the new navigator;
`none` if it is not open. -/
def withNavigator (s : Store) (b : Nat) (f : Snapshot → Navigator → Navigator × α) :
    Store × Option α :=
  match s.get? b with
  | none => (s, none)
  | some st =>
    let (n, a) := f st.snapshot st.navigator
    (s.modify b fun st => { st with navigator := n }, some a)

end Store

end CrossRef
