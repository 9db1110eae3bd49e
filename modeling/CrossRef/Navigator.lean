import CrossRef.Resolve
/-!
Walking the occurrences of a symbol.

A navigator is idle, or exploring one symbol's occurrences with a current index into them.

*Exploring* an entity whose identity is the one being explored only moves the index to the
entity, when it is among the occurrences, and answers `false`. Any other entity starts a new
exploration of its occurrences and answers `true`: the index is the entity's place among them,
or, when it is not there, the previous index (zero when idle) kept within the new list.

*Stepping* forward moves to the next occurrence and back to the previous one; at either end the
index stays and nothing is returned.
-/

namespace CrossRef

/-- A direction to step in. -/
inductive Direction where
  | forward
  | back
  deriving DecidableEq, Repr, Inhabited

/-- One symbol's occurrences and the current index into them. -/
structure Exploration where
  occurrences : Occurrences
  index : Nat
  deriving Inhabited

namespace Exploration

/-- The explored identity. -/
def id (e : Exploration) : Identity := e.occurrences.id

/-- The number of occurrences. -/
def len (e : Exploration) : Nat := e.occurrences.items.length

/-- The occurrence at the index. -/
def current (e : Exploration) : Option Entity := e.occurrences.items[e.index]?

/-- One step: the new exploration, or `none` at the end in that direction. -/
def step (e : Exploration) : Direction → Option Exploration
  | .forward => if e.index + 1 < e.len then some { e with index := e.index + 1 } else none
  | .back => if e.index > 0 then some { e with index := e.index - 1 } else none

end Exploration

/-- Idle, or exploring a symbol. -/
inductive Navigator where
  | idle
  | exploring (e : Exploration)
  deriving Inhabited

namespace Navigator

/-- The exploration under way. -/
def exploration? : Navigator → Option Exploration
  | .idle => none
  | .exploring e => some e

/-- The identity being explored. -/
def exploredId (n : Navigator) : Option Identity := n.exploration?.map (·.id)

/-- The current occurrence. -/
def current (n : Navigator) : Option Entity := n.exploration?.bind (·.current)

/-- **Explore an entity**: the new navigator, and whether a new exploration started. -/
def explore (n : Navigator) (s : Snapshot) (t : Entity) : Navigator × Bool :=
  let id := s.identity t
  match n with
  | .exploring e =>
    if e.id = id then
      (.exploring { e with index := (e.occurrences.positionOf t).getD e.index }, false)
    else start e.index
  | .idle => start 0
where
  /-- A new exploration of `t`'s occurrences, falling back to `previous` within them. -/
  start (previous : Nat) : Navigator × Bool :=
    let occ := s.occurrences t
    let last := occ.items.length - 1
    (.exploring { occurrences := occ, index := (occ.positionOf t).getD (min previous last) }, true)

/-- **Step**: the new navigator and the occurrence landed on, or `none` when idle or at the end. -/
def step (n : Navigator) (d : Direction) : Navigator × Option Entity :=
  match n with
  | .idle => (.idle, none)
  | .exploring e =>
    match e.step d with
    | some e' => (.exploring e', e'.current)
    | none => (n, none)

/-- Back to idle. -/
def reset (_ : Navigator) : Navigator := .idle

end Navigator

end CrossRef
