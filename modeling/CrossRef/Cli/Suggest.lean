/-!
Suggestions for mistyped names.

Two names are compared by their Jaro similarity: characters of one match equal characters of
the other no further apart than half the longer length less one, each used once; with `m`
matches and `t` pairs of matched characters out of order, the similarity is the mean of `m/|a|`,
`m/|b|` and `(m - t)/m` (zero without matches, one for two empty names). A name is suggested
when its similarity passes 0.7; suggestions are listed from the least similar to the most.
-/

namespace CrossRef.Cli

/-- Mark the first unmarked character of `b` equal to `c` within a window: the marks, and
whether one was made. -/
def markFirst (c : Char) (lo hi : Nat) : List (Char × Bool) → Nat → List (Char × Bool) × Bool
  | [], _ => ([], false)
  | (d, marked) :: rest, j =>
    if lo ≤ j && j < hi && !marked && d == c then ((d, true) :: rest, true)
    else
      let (rest', found) := markFirst c lo hi rest (j + 1)
      ((d, marked) :: rest', found)

/-- **The Jaro similarity** of two names. -/
def jaro (a b : String) : Float :=
  let as := a.toList
  let bs := b.toList
  if as.isEmpty && bs.isEmpty then 1
  else if as.isEmpty || bs.isEmpty then 0
  else
    let range := max as.length bs.length / 2 - 1
    let init : List Bool × List (Char × Bool) × Nat := ([], bs.map (·, false), 0)
    let (aMarks, bMarks, _) := as.foldl (fun (acc : List Bool × List (Char × Bool) × Nat) c =>
      let (aMarks, bMarks, i) := acc
      let lo := i - range
      let hi := min bs.length (i + range + 1)
      let (bMarks, found) := markFirst c lo hi bMarks 0
      (aMarks ++ [found], bMarks, i + 1)) init
    let aMatched := (as.zip aMarks).filterMap fun (c, m) => if m then some c else none
    let bMatched := bMarks.filterMap fun (c, m) => if m then some c else none
    let m := aMatched.length
    if m = 0 then 0
    else
      let t := ((aMatched.zip bMatched).filter fun (x, y) => x != y).length / 2
      let mf := m.toFloat
      (mf / as.length.toFloat + mf / bs.length.toFloat + (m - t).toFloat / mf) / 3

/-- **The names similar to a name**, least similar first. -/
def similar (name : String) (candidates : List String) : List String :=
  let scored := (candidates.map fun c => (jaro name c, c)).filter (·.1 > 0.7)
  (scored.mergeSort fun x y => x.1 ≤ y.1).map (·.2)

end CrossRef.Cli
