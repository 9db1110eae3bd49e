/-!
Positions and spans in a source file.

A position is a row and a column, both counted from one as the analyzer reports them. Positions
are ordered row first, then column. A span runs from a start to an end position; it *contains*
another span when it starts no later and ends no earlier, and it is *empty* when its end is not
after its start.

An analyzer record may give an end row and an end column, either, or neither. `Span.ofParts`
fills in what is missing from the start: a missing end row is the start row, a missing end
column the start column, so a record without an end is the point span at its start.

Main statements: `contains_refl`, `contains_trans`, and `ofParts_none` (no end is the point).
-/

namespace CrossRef

/-- A row and a column. -/
structure Position where
  row : Nat
  col : Nat
  deriving DecidableEq, Repr, Inhabited

namespace Position

/-- The order of positions: by row, then by column. -/
def le (p q : Position) : Prop := p.row < q.row ∨ (p.row = q.row ∧ p.col ≤ q.col)

instance : LE Position := ⟨le⟩

instance (p q : Position) : Decidable (p ≤ q) :=
  inferInstanceAs (Decidable (p.row < q.row ∨ (p.row = q.row ∧ p.col ≤ q.col)))

/-- Strictly before. -/
def lt (p q : Position) : Prop := p.row < q.row ∨ (p.row = q.row ∧ p.col < q.col)

instance : LT Position := ⟨lt⟩

instance (p q : Position) : Decidable (p < q) :=
  inferInstanceAs (Decidable (p.row < q.row ∨ (p.row = q.row ∧ p.col < q.col)))

/-- Three-way comparison, row first. -/
def cmp (p q : Position) : Ordering :=
  match compare p.row q.row with
  | .eq => compare p.col q.col
  | o => o

/-- `row:col`. -/
def display (p : Position) : String := toString p.row ++ ":" ++ toString p.col

theorem le_refl (p : Position) : p ≤ p := Or.inr ⟨rfl, Nat.le_refl _⟩

theorem le_trans {p q r : Position} (h₁ : p ≤ q) (h₂ : q ≤ r) : p ≤ r := by
  unfold LE.le instLE le at *
  omega

end Position

/-- A stretch of source from a start to an end position. -/
structure Span where
  start : Position
  stop : Position
  deriving DecidableEq, Repr, Inhabited

namespace Span

/-- The span of one position. -/
def point (p : Position) : Span := ⟨p, p⟩

/-- A span from a start and the end fields a record gives, missing ones taken from the
start. -/
def ofParts (row col : Nat) (endRow endCol : Option Nat) : Span :=
  let start : Position := ⟨row, col⟩
  let stop : Position :=
    match endRow, endCol with
    | some r, some c => ⟨r, c⟩
    | some r, none => ⟨r, col⟩
    | none, some c => ⟨row, c⟩
    | none, none => start
  ⟨start, stop⟩

/-- The row a span starts on. -/
def row (s : Span) : Nat := s.start.row

/-- `s` starts no later and ends no earlier than `t`. -/
def Contains (s t : Span) : Prop := s.start ≤ t.start ∧ t.stop ≤ s.stop

instance (s t : Span) : Decidable (Contains s t) :=
  inferInstanceAs (Decidable (s.start ≤ t.start ∧ t.stop ≤ s.stop))

/-- Containment as a test. -/
def contains (s t : Span) : Bool := decide (Contains s t)

/-- A position lies in a span. -/
def containsPosition (s : Span) (p : Position) : Bool := s.contains (point p)

/-- The end is not after the start. -/
def isEmpty (s : Span) : Bool := decide (s.stop ≤ s.start)

/-- `r:c-r:c`. -/
def display (s : Span) : String := s.start.display ++ "-" ++ s.stop.display

theorem contains_refl (s : Span) : s.contains s = true := by
  simp [contains, Contains, Position.le_refl]

theorem contains_trans {s t u : Span} (h₁ : s.contains t = true) (h₂ : t.contains u = true) :
    s.contains u = true := by
  unfold contains at *
  rw [decide_eq_true_iff] at *
  exact ⟨Position.le_trans h₁.1 h₂.1, Position.le_trans h₂.2 h₁.2⟩

/-- **A record without an end** is the point span at its start. -/
theorem ofParts_none (row col : Nat) : ofParts row col none none = point ⟨row, col⟩ := rfl

end Span

end CrossRef
