import CrossRef.Text.Bytes
/-!
Shell patterns.

A pattern is written as bytes each marked active or quoted. An active `*` matches any string,
an active `?` any one byte, and an active `[` starts a bracket expression that matches one byte
in (or, after `!`, not in) a set of bytes, ranges `a-z` and classes `[:alpha:]`; a `]` right
after the opening bracket (or the `!`) is a member, and a `[` with no closing `]` is an ordinary
byte. An active backslash makes the byte after it ordinary. Every other byte, and every quoted
one, matches itself.

The classes are those of the C locale.

Matching is by bytes. Removing the shortest or longest prefix or suffix that matches tries the
candidate lengths from the short or the long end.

This module belongs to the simulated test host that one-shot analyzer commands run on, not to
the library's program: the program reaches the host only through `Cli.Machine` and
`Host.System`, and no theorem of the library is about this module.
-/

namespace CrossRef.Shell

/-- An element of a bracket expression. -/
inductive Member where
  | byte (c : UInt8)
  | range (lo hi : UInt8)
  | named (name : String)
  deriving DecidableEq, Repr, Inhabited

/-- An element of a pattern. -/
inductive Pat where
  | lit (c : UInt8)
  | one
  | many
  | bracket (negated : Bool) (members : List Member)
  deriving DecidableEq, Repr, Inhabited

/-- Bytes marked active (special in a pattern) or quoted. -/
abbrev Marked := List (UInt8 × Bool)

/-- Whether a byte is in a character class of the C locale. -/
def inClass (name : String) (c : UInt8) : Bool :=
  match name with
  | "alnum" => Bytes.isAlnum c
  | "alpha" => Bytes.isAlpha c
  | "blank" => Bytes.isBlank c
  | "cntrl" => c < 32 || c == 127
  | "digit" => Bytes.isDigit c
  | "graph" => 33 ≤ c && c ≤ 126
  | "lower" => 97 ≤ c && c ≤ 122
  | "print" => Bytes.isPrint c
  | "punct" => 33 ≤ c && c ≤ 126 && !Bytes.isAlnum c
  | "space" => Bytes.isSpace c
  | "upper" => 65 ≤ c && c ≤ 90
  | "xdigit" => Bytes.isDigit c || (97 ≤ c && c ≤ 102) || (65 ≤ c && c ≤ 70)
  | _ => false

/-- Whether a byte is a member of a bracket expression's set. -/
def Member.contains (c : UInt8) : Member → Bool
  | .byte b => b == c
  | .range lo hi => lo ≤ c && c ≤ hi
  | .named n => inClass n c

/-- The name of a class `[:name:]` at the start of a bracket's text after its `[`, and the text
after it. -/
def className? (b : Marked) : Option (String × Marked) :=
  match b with
  | (58, _) :: rest =>
    let name := rest.takeWhile fun (c, _) => c != 58
    match rest.drop name.length with
    | (58, _) :: (93, _) :: after => some (Bytes.text (name.map (·.1)), after)
    | _ => none
  | _ => none

/-- **Read the members of a bracket expression** up to its closing `]`; `first` says no member is
read yet, so a `]` is a member. Nothing when the bracket is not closed. -/
def members : Nat → Marked → Bool → List Member → Option (List Member × Marked)
  | 0, _, _, _ => none
  | k + 1, b, first, acc =>
    match b with
    | [] => none
    | (93, _) :: rest => if first then more k rest acc (.byte 93) else some (acc.reverse, rest)
    | (91, _) :: rest =>
      match className? rest with
      | some (n, after) => members k after false (.named n :: acc)
      | none => range k rest acc 91
    | (92, true) :: (c, _) :: rest => range k rest acc c
    | (c, _) :: rest => range k rest acc c
where
  /-- A member and then the rest. -/
  more (k : Nat) (rest : Marked) (acc : List Member) (m : Member) :=
    match m with
    | .byte c => range k rest acc c
    | m => members k rest false (m :: acc)
  /-- A byte that may start a range `c-d`, and then the rest. -/
  range (k : Nat) (rest : Marked) (acc : List Member) (c : UInt8) :=
    match rest with
    | (45, _) :: (d, _) :: after =>
      if d == 93 then members k rest false (.byte c :: acc)
      else match d, after with
        | 92, (e, _) :: after' => members k after' false (.range c e :: acc)
        | _, _ => members k after false (.range c d :: acc)
    | _ => members k rest false (.byte c :: acc)

/-- **Compile marked bytes into a pattern.** -/
def compile : Nat → Marked → List Pat
  | 0, _ => []
  | k + 1, b =>
    match b with
    | [] => []
    | (42, true) :: rest => .many :: compile k rest
    | (63, true) :: rest => .one :: compile k rest
    | (91, true) :: rest =>
      let (negated, body) := match rest with
        | (33, _) :: r => (true, r)
        | r => (false, r)
      match members (body.length + 1) body true [] with
      | some (ms, after) => .bracket negated ms :: compile k after
      | none => .lit 91 :: compile k rest
    | (92, true) :: (c, _) :: rest => .lit c :: compile k rest
    | (c, _) :: rest => .lit c :: compile k rest

/-- The pattern of marked bytes. -/
def Pat.ofMarked (b : Marked) : List Pat := compile (b.length + 1) b

/-- Whether marked bytes hold an active `*`, `?` or `[`. -/
def hasWildcard (b : Marked) : Bool := b.any fun (c, active) => active && (c == 42 || c == 63 || c == 91)

/-- Whether a pattern element matches a byte. -/
def Pat.matchesByte (p : Pat) (c : UInt8) : Bool :=
  match p with
  | .lit l => l == c
  | .one | .many => true
  | .bracket negated ms => ms.any (·.contains c) != negated

/-- **Whether a pattern matches all of some bytes.** -/
def Pat.matches : List Pat → Bytes → Bool
  | [], s => s.isEmpty
  | .many :: ps, s =>
    Pat.matches ps s || (match s with
      | _ :: cs => Pat.matches (.many :: ps) cs
      | [] => false)
  | p :: ps, c :: cs => p.matchesByte c && Pat.matches ps cs
  | _ :: _, [] => false
termination_by ps s => (ps.length, s.length)

/-- Bytes without the shortest (or longest) prefix a pattern matches, if any matches. -/
def dropPrefix (p : List Pat) (longest : Bool) (s : Bytes) : Option Bytes :=
  let lengths := List.range (s.length + 1)
  let lengths := if longest then lengths.reverse else lengths
  (lengths.find? fun n => Pat.matches p (s.take n)).map fun n => s.drop n

/-- Bytes without the shortest (or longest) suffix a pattern matches, if any matches. -/
def dropSuffix (p : List Pat) (longest : Bool) (s : Bytes) : Option Bytes :=
  let lengths := List.range (s.length + 1)
  let lengths := if longest then lengths.reverse else lengths
  (lengths.find? fun n => Pat.matches p (s.drop (s.length - n))).map fun n => s.take (s.length - n)

end CrossRef.Shell
