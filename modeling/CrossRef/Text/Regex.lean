import CrossRef.Text.Bytes
/-!
Regular expressions as the C library reads and matches them: the POSIX basic and extended
syntaxes with the GNU additions, over bytes in the C locale.

**Syntax.** A pattern is alternatives of branches, a branch a sequence of pieces, a piece an atom
with repetition operators after it. Atoms are bytes, `.`, bracket expressions, groups,
back-references `\1` to `\9`, the anchors `^` and `$`, and the GNU escapes `\w \W \s \S` (word and
space bytes), `\b \B \< \>` (word edges) and the buffer anchors. In the basic syntax the operators
are written with a backslash (`\( \) \{ \} \| \+ \?`), `*` at the start of an expression is a
plain byte, `^` is an anchor only at the start of an expression and `$` only at its end; in the
extended syntax they are written bare and the anchors are anchors anywhere. A `Syntax` says which
reading applies and how the places the standard leaves open are read, one flag for each choice
the tools make differently.

**Matching.** Among the matches that start leftmost, the longest is chosen; among equally long
ones, the one found first when every repetition takes as many turns as it can and alternatives are
tried left to right. `matchesAt` lists every way an expression matches at a position, in that
order, keeping for each end position only the first way to reach it (the rest cannot do better,
unless back-references make the groups matter, when the groups are kept apart too). A group
inside a repetition keeps what its last turn matched; a turn that matches nothing is taken only
as a first turn or when a count requires it, so it never overwrites what an earlier turn matched.

This module belongs to the simulated test host that one-shot analyzer commands run on, not to
the library's program: the program reaches the host only through `Cli.Machine` and
`Host.System`, and no theorem of the library is about this module.
-/

namespace CrossRef.Regex

open CrossRef

/-- The named classes of a bracket expression, as the C locale has them. -/
inductive ByteClass where
  | alpha | upper | lower | digit | xdigit | alnum | space | blank | punct | print | graph | cntrl
  deriving DecidableEq, Inhabited, Repr

/-- The class a bracket expression names; with case ignored, `upper` and `lower` mean `alpha`. -/
def ByteClass.ofName? (icase : Bool) (name : String) : Option ByteClass :=
  match name with
  | "alpha" => some .alpha
  | "upper" => some (if icase then .alpha else .upper)
  | "lower" => some (if icase then .alpha else .lower)
  | "digit" => some .digit
  | "xdigit" => some .xdigit
  | "alnum" => some .alnum
  | "space" => some .space
  | "blank" => some .blank
  | "punct" => some .punct
  | "print" => some .print
  | "graph" => some .graph
  | "cntrl" => some .cntrl
  | _ => none

/-- Whether a byte is in a class. -/
def ByteClass.has (c : ByteClass) (b : UInt8) : Bool :=
  match c with
  | .alpha => Bytes.isAlpha b
  | .upper => 65 ≤ b && b ≤ 90
  | .lower => 97 ≤ b && b ≤ 122
  | .digit => Bytes.isDigit b
  | .xdigit => Bytes.isDigit b || (65 ≤ b && b ≤ 70) || (97 ≤ b && b ≤ 102)
  | .alnum => Bytes.isAlnum b
  | .space => Bytes.isSpace b
  | .blank => Bytes.isBlank b
  | .punct => 33 ≤ b && b ≤ 126 && !Bytes.isAlnum b
  | .print => 32 ≤ b && b ≤ 126
  | .graph => 33 ≤ b && b ≤ 126
  | .cntrl => b < 32 || b == 127

/-- Whether a byte belongs to words: a letter, a digit or `_`. -/
def isWordByte (b : UInt8) : Bool := Bytes.isAlnum b || b == 95

/-- One item of a bracket expression. -/
inductive Item where
  | byte (b : UInt8)
  | range (lo hi : UInt8)
  | named (c : ByteClass)
  deriving DecidableEq, Inhabited, Repr

/-- Whether a byte is an item. -/
def Item.has (i : Item) (b : UInt8) : Bool :=
  match i with
  | .byte c => c == b
  | .range lo hi => lo ≤ b && b ≤ hi
  | .named c => c.has b

/-- The conditions an expression can place on a position without matching a byte. -/
inductive Anchor where
  /-- `^`: the start of the text, or of a line of it when lines are told apart. -/
  | lineStart
  /-- `$`: the end of the text, or of a line of it. -/
  | lineEnd
  /-- The start of the whole text. -/
  | textStart
  /-- The end of the whole text. -/
  | textEnd
  /-- `\<`: a word byte follows and none precedes. -/
  | wordStart
  /-- `\>`: a word byte precedes and none follows. -/
  | wordEnd
  /-- `\b`: either edge of a word. -/
  | wordEdge
  /-- `\B`: no edge of a word. -/
  | notWordEdge
  deriving DecidableEq, Inhabited, Repr

/-- **A regular expression.** Groups carry their number, counted from one in the order their
opening parentheses appear. -/
inductive Rx where
  /-- The empty string. -/
  | empty
  | byte (b : UInt8)
  /-- `.`: any byte. -/
  | any
  /-- A bracket expression, or a class escape: a byte that is (or with `negated`, is not) one of
  the items. -/
  | set (negated : Bool) (items : List Item)
  | anchor (a : Anchor)
  | group (n : Nat) (r : Rx)
  /-- What group `n` matched, again. -/
  | backref (n : Nat)
  | cat (a b : Rx)
  | alt (a b : Rx)
  /-- At least `least` and at most `most` (no bound when none) turns of an expression. -/
  | rep (r : Rx) (least : Nat) (most : Option Nat)
  deriving Inhabited, Repr

/-- The number of nodes of an expression. -/
def Rx.size : Rx → Nat
  | .group _ r => r.size + 1
  | .cat a b | .alt a b => a.size + b.size + 1
  | .rep r _ _ => r.size + 1
  | _ => 1

/-- Whether an expression refers back to a group. -/
def Rx.hasBackref : Rx → Bool
  | .backref _ => true
  | .group _ r | .rep r _ _ => r.hasBackref
  | .cat a b | .alt a b => a.hasBackref || b.hasBackref
  | _ => false

/-! ## Reading a pattern -/

/-- **How a pattern is read**, one flag for each choice the standard leaves open. -/
structure Syntax where
  /-- The extended syntax: operators are written bare, anchors are anchors anywhere, and a
  repetition operator with nothing before it is passed over. -/
  extended : Bool := false
  /-- A repetition with nothing before it, or right after another, is an error (rather than a
  plain byte, or a second repetition). -/
  invalidDup : Bool := false
  /-- In the extended syntax, a repetition operator with nothing before it is an error. -/
  invalidOps : Bool := false
  /-- A brace that does not start a well-formed count is a plain byte. -/
  braceOrd : Bool := false
  /-- A newline separates alternatives. -/
  newlineAlt : Bool := false
  /-- Case is ignored. -/
  icase : Bool := false
  deriving Inhabited

/-- The tokens of a pattern. -/
inductive Tok where
  | char (c : UInt8)
  | fin
  | trailingBackslash
  | bar
  | openGroup
  | closeGroup
  | star
  | plus
  | question
  | openBrace
  | closeBrace
  | backref (n : Nat)
  | anchor (a : Anchor)
  | dot
  | openBracket
  | word (negated : Bool)
  | space (negated : Bool)
  deriving DecidableEq, Inhabited

/-- The byte a token stands for when it is read as a plain byte. -/
def Tok.byte : Tok → UInt8
  | .char c => c
  | .star => 42
  | .plus => 43
  | .question => 63
  | .openBrace => 123
  | .closeBrace => 125
  | .closeGroup => 41
  | .bar => 124
  | _ => 0

/-- The token after a backslash. -/
def escapeToken (sx : Syntax) (c : UInt8) : Tok :=
  let basic := !sx.extended
  match c with
  | 124 => if basic then .bar else .char c
  | 60 => .anchor .wordStart
  | 62 => .anchor .wordEnd
  | 98 => .anchor .wordEdge
  | 66 => .anchor .notWordEdge
  | 119 => .word false
  | 87 => .word true
  | 115 => .space false
  | 83 => .space true
  | 96 => .anchor .textStart
  | 39 => .anchor .textEnd
  | 40 => if basic then .openGroup else .char c
  | 41 => if basic then .closeGroup else .char c
  | 43 => if basic then .plus else .char c
  | 63 => if basic then .question else .char c
  | 123 => if basic then .openBrace else .char c
  | 125 => if basic then .closeBrace else .char c
  | _ => if 49 ≤ c && c ≤ 57 then .backref (c - 48).toNat else .char c

/-- The token a byte stands for outside a bracket expression, anchors apart. -/
def plainToken (sx : Syntax) (c : UInt8) : Tok :=
  let ext := sx.extended
  match c with
  | 10 => if sx.newlineAlt then .bar else .char c
  | 124 => if ext then .bar else .char c
  | 42 => .star
  | 43 => if ext then .plus else .char c
  | 63 => if ext then .question else .char c
  | 123 => if ext then .openBrace else .char c
  | 125 => if ext then .closeBrace else .char c
  | 40 => if ext then .openGroup else .char c
  | 41 => if ext then .closeGroup else .char c
  | 91 => .openBracket
  | 46 => .dot
  | _ => .char c

/-- Whether the token at a position ends a branch: an alternation bar or a closing parenthesis. -/
def endsBranchAt (sx : Syntax) (p : Array UInt8) (i : Nat) : Bool :=
  match p[i]? with
  | some 92 => match p[i + 1]? with
    | some c => let t := escapeToken sx c; t == .bar || t == .closeGroup
    | none => false
  | some c => let t := plainToken sx c; t == .bar || t == .closeGroup
  | none => false

/-- **The token at a position** and its length. `caretHere` says that an expression starts
here, where `^` is an anchor in the basic syntax too. -/
def peekToken (sx : Syntax) (p : Array UInt8) (i : Nat) (caretHere : Bool) : Tok × Nat :=
  match p[i]? with
  | none => (.fin, 0)
  | some 92 =>
    match p[i + 1]? with
    | none => (.trailingBackslash, 1)
    | some c => (escapeToken sx c, 2)
  | some 94 =>
    let after := match p[i - 1]? with
      | some 10 => sx.newlineAlt && i > 0
      | _ => false
    if sx.extended || caretHere || i == 0 || after then (.anchor .lineStart, 1) else (.char 94, 1)
  | some 36 =>
    if sx.extended || i + 1 == p.size || endsBranchAt sx p (i + 1) then (.anchor .lineEnd, 1)
    else (.char 36, 1)
  | some c => (plainToken sx c, 1)

/-- The messages of the C library for a pattern it cannot read. -/
def badPattern : String := "Invalid regular expression"
def badCollation : String := "Invalid collation character"
def badClass : String := "Invalid character class name"
def trailingBackslash : String := "Trailing backslash"
def badBackref : String := "Invalid back reference"
def unmatchedBracket : String := "Unmatched [, [^, [:, [., or [="
def unmatchedOpen : String := "Unmatched ( or \\("
def unmatchedBrace : String := "Unmatched \\\x7b"
def badInterval : String := "Invalid content of \\\x7b\\\x7d"
def badRange : String := "Invalid range end"
def badRepeat : String := "Invalid preceding regular expression"
def tooBig : String := "Regular expression too big"
def unmatchedClose : String := "Unmatched ) or \\)"

/-- The largest count a repetition may have. -/
def dupMax : Nat := 32767

/-- Where reading a pattern stands. -/
structure ParseState where
  pos : Nat := 0
  /-- The groups opened so far. -/
  groups : Nat := 0
  /-- The groups closed so far, which back-references may name. -/
  closed : List Nat := []
  /-- The repetition operators found where nothing precedes them. -/
  leadingOps : List String := []
  /-- Whether a bracket expression reads like a class written without its outer brackets, such
  as `[:space:]`. -/
  confusing : Bool := false

/-- Reading a pattern. -/
abbrev Parse := StateT ParseState (Except String)

/-- Read the next token. -/
def fetch (sx : Syntax) (p : Array UInt8) (caretHere : Bool) : Parse Tok := do
  let s ← get
  let (t, n) := peekToken sx p s.pos caretHere
  set { s with pos := s.pos + n }
  return t

/-- A byte of the pattern as matching compares it: upper case when case is ignored. -/
def Syntax.fold (sx : Syntax) (b : UInt8) : UInt8 := if sx.icase then Bytes.upper b else b

/-! ### Bracket expressions -/

/-- The tokens inside a bracket expression. -/
inductive BTok where
  | char (c : UInt8)
  | fin
  | hyphen
  | close
  | caret
  /-- `[.`, `[=` or `[:`, with the byte that closes it. -/
  | openName (delim : UInt8)
  deriving DecidableEq, Inhabited

/-- The byte a bracket token stands for. -/
def BTok.byte : BTok → UInt8
  | .char c => c
  | .hyphen => 45
  | .close => 93
  | .caret => 94
  | _ => 91

/-- The token at a position inside a bracket expression, and its length. -/
def peekBracket (p : Array UInt8) (i : Nat) : BTok × Nat :=
  match p[i]? with
  | none => (.fin, 0)
  | some 91 =>
    match p[i + 1]? with
    | some 46 => (.openName 46, 2)
    | some 61 => (.openName 61, 2)
    | some 58 => (.openName 58, 2)
    | _ => (.char 91, 1)
  | some 45 => (.hyphen, 1)
  | some 93 => (.close, 1)
  | some 94 => (.caret, 1)
  | some c => (.char c, 1)

/-- What one element of a bracket expression is. -/
inductive Element where
  | byte (b : UInt8)
  /-- `[.x.]`. -/
  | collating (name : List UInt8)
  /-- `[=x=]`. -/
  | equivalence (name : List UInt8)
  /-- `[:name:]`. -/
  | named (name : List UInt8)
  deriving Inhabited

/-- The longest name a bracket element may have. -/
def nameLimit : Nat := 32

/-- Read the name of a `[.`, `[=` or `[:` element up to its closing byte and `]`. -/
def bracketName (p : Array UInt8) (delim : UInt8) : Nat → List UInt8 → Parse (List UInt8)
  | 0, _ => throw unmatchedBracket
  | k + 1, acc => do
    let s ← get
    if acc.length ≥ nameLimit then throw unmatchedBracket
    match p[s.pos]? with
    | none => throw unmatchedBracket
    | some ch =>
      set { s with pos := s.pos + 1 }
      if s.pos + 1 ≥ p.size then throw unmatchedBracket
      if ch == delim && p[s.pos + 1]? == some 93 then
        set { s with pos := s.pos + 2 }
        return acc.reverse
      else bracketName p delim k (ch :: acc)

/-- Read one element of a bracket expression, from its token. A `-` that is not first and does
not stand before the closing `]` is an error. -/
def bracketElement (sx : Syntax) (p : Array UInt8) (t : BTok) (len : Nat) (acceptHyphen : Bool) :
    Parse Element := do
  modify fun s => { s with pos := s.pos + len }
  match t with
  | .openName d =>
    let name ← bracketName p d (p.size + 1) []
    let name := if d == 58 then name else name.map sx.fold
    return if d == 46 then .collating name else if d == 61 then .equivalence name else .named name
  | .hyphen =>
    if !acceptHyphen && (peekBracket p (← get).pos).1 != .close then throw badRange
    return .byte 45
  | t => return .byte (sx.fold t.byte)

/-- The single byte an element stands for as the end of a range. -/
def Element.rangeEnd : Element → Except String UInt8
  | .byte b => .ok b
  | .collating [b] => .ok b
  | .collating _ => .error badCollation
  | _ => .error badRange

/-- The items an element adds to a bracket expression. -/
def Element.items (sx : Syntax) : Element → Except String (List Item)
  | .byte b => .ok [.byte b]
  | .collating [b] | .equivalence [b] => .ok [.byte b]
  | .collating _ | .equivalence _ => .error badCollation
  | .named n => match ByteClass.ofName? sx.icase (Bytes.text n) with
    | some c => .ok [.named c]
    | none => .error badClass

/-- Lift a checked value into reading. -/
def liftCheck {α : Type} : Except String α → Parse α
  | .ok a => pure a
  | .error m => throw m

/-- Read the elements of a bracket expression up to its closing `]`. -/
def bracketItems (sx : Syntax) (p : Array UInt8) : Nat → BTok → Nat → Bool → List Item → Parse (List Item)
  | 0, _, _, _, _ => throw unmatchedBracket
  | k + 1, t, len, first, acc => do
    let start ← bracketElement sx p t len first
    let (t, len) := peekBracket p (← get).pos
    let classLike := match start with
      | .named _ | .equivalence _ => true
      | _ => false
    let mut t := t
    let mut len := len
    let mut rangeTo : Option (BTok × Nat) := none
    if !classLike then
      if t == .fin then throw unmatchedBracket
      if t == .hyphen then
        modify fun s => { s with pos := s.pos + len }
        let (t2, len2) := peekBracket p (← get).pos
        if t2 == .fin then throw unmatchedBracket
        if t2 == .close then
          modify fun s => { s with pos := s.pos - len }
          t := .char 45
        else rangeTo := some (t2, len2)
    let items ← match rangeTo with
      | some (t2, len2) => do
        let last ← bracketElement sx p t2 len2 true
        let next := peekBracket p (← get).pos
        t := next.1
        len := next.2
        let lo ← liftCheck start.rangeEnd
        let hi ← liftCheck last.rangeEnd
        if lo > hi then throw badRange
        pure [Item.range lo hi]
      | none => liftCheck (start.items sx)
    if t == .fin then throw unmatchedBracket
    if t == .close then
      modify fun s => { s with pos := s.pos + len }
      return acc ++ items
    else bracketItems sx p k t len false (acc ++ items)

/-- Whether the text of a bracket expression (after any `^`) reads like a class written without
its outer brackets: it starts and ends with `:` and has some other byte, with no range in it. -/
def looksLikeClass (content : List UInt8) : Bool :=
  content.length ≥ 3 && content.head? == some 58 && content.getLast? == some 58 &&
    content.any (· != 58) && !content.contains 45 && !content.contains 91

/-- **Read a bracket expression**, after its `[`. -/
def bracket (sx : Syntax) (p : Array UInt8) : Parse Rx := do
  let (t, len) := peekBracket p (← get).pos
  if t == .fin then throw badPattern
  let mut t := t
  let mut len := len
  let mut negated := false
  if t == .caret then
    negated := true
    modify fun s => { s with pos := s.pos + len }
    let next := peekBracket p (← get).pos
    t := next.1
    len := next.2
    if t == .fin then throw badPattern
  let from_ := (← get).pos
  if t == .close then t := .char 93
  let items ← bracketItems sx p (p.size + 1) t len true []
  let content := ((p.toList.drop from_).take ((← get).pos - 1 - from_))
  if looksLikeClass content then modify fun s => { s with confusing := true }
  return .set negated items

/-! ### Expressions -/

/-- Whether a token is a comma. -/
def Tok.isComma (t : Tok) : Bool := t == .char 44

/-- Read the digits of a count, up to `,` or the closing brace: none (`-1` in the C library's
terms) when there are no digits, `invalid` when something else stands there or the pattern ends. -/
inductive Count where
  | none
  | invalid
  | num (n : Nat)
  deriving DecidableEq, Inhabited

/-- Read a count of an interval; the token it stopped at is returned with it. -/
def fetchNumber (sx : Syntax) (p : Array UInt8) : Nat → Count → Parse (Count × Tok)
  | 0, _ => return (.invalid, .fin)
  | k + 1, acc => do
    let t ← fetch sx p false
    if t == .fin then return (.invalid, t)
    if t == .closeBrace || t == .char 44 then return (acc, t)
    let acc := match t, acc with
      | .char c, .none => if Bytes.isDigit c then .num (c - 48).toNat else .invalid
      | .char c, .num n => if Bytes.isDigit c then .num (min (dupMax + 1) (n * 10 + (c - 48).toNat)) else .invalid
      | _, _ => .invalid
    fetchNumber sx p k acc

/-- **Read the counts of an interval**, after its opening brace: the least and the most (none for
no bound), or none when the brace is to be read as a plain byte. -/
def interval (sx : Syntax) (p : Array UInt8) : Parse (Option (Nat × Option Nat)) := do
  let (start, t1) ← fetchNumber sx p (p.size + 1) .none
  let start ← match start with
    | .none => if t1.isComma then pure (Count.num 0) else throw badInterval
    | c => pure c
  let (stop, t2) ← match start with
    | .num n =>
      if t1 == .closeBrace then pure (Count.num n, t1)
      else if t1.isComma then fetchNumber sx p (p.size + 1) .none
      else pure (Count.invalid, t1)
    | _ => pure (Count.invalid, t1)
  if start == .invalid || stop == .invalid then
    if !sx.braceOrd then throw (if t2 == .fin then unmatchedBrace else badInterval)
    return none
  let lo := match start with
    | .num n => n
    | _ => 0
  let hi : Option Nat := match stop with
    | .num n => some n
    | _ => none
  let inverted := match hi with
    | some h => lo > h
    | none => false
  if inverted || t2 != .closeBrace then throw badInterval
  if dupMax < hi.getD lo then throw tooBig
  return some (lo, hi)

/-- The result of reading a repetition operator: the repeated expression (none when it is
dropped, as `x\{0\}` is) and the next token, or a brace read back as a plain byte. -/
def dupOp (sx : Syntax) (p : Array UInt8) (elem : Option Rx) (t : Tok) : Parse (Option Rx × Tok) := do
  let startIdx := (← get).pos
  let counts ← if t == .openBrace then interval sx p
    else pure (some (if t == .plus then 1 else 0, if t == .question then some 1 else none))
  match counts with
  | none =>
    modify fun s => { s with pos := startIdx }
    return (elem, .char 123)
  | some (least, most) =>
    let next ← fetch sx p false
    match elem with
    | none => return (none, next)
    | some e =>
      if least == 0 && most == some 0 then return (none, next)
      return (some (.rep e least most), next)

/-- The class escapes as bracket expressions. -/
def wordSet (negated : Bool) : Rx := .set negated [.named .alnum, .byte 95]
def spaceSet (negated : Bool) : Rx := .set negated [.named .space]

/-- Join two parts of a branch, either of which may be absent. -/
def joinCat : Option Rx → Option Rx → Option Rx
  | some a, some b => some (.cat a b)
  | some a, none => some a
  | none, b => b

mutual

/-- **Read alternatives**: branches separated by bars. -/
def regExp (sx : Syntax) (p : Array UInt8) : Nat → Tok → Nat → Parse (Option Rx × Tok)
  | 0, t, _ => return (none, t)
  | k + 1, t, nest => do
    let initial := (← get).closed
    let (tree, t) ← branch sx p k t nest
    alternatives sx p k initial tree t nest

/-- The alternatives after the first branch. -/
def alternatives (sx : Syntax) (p : Array UInt8) : Nat → List Nat → Option Rx → Tok → Nat → Parse (Option Rx × Tok)
  | 0, _, tree, t, _ => return (tree, t)
  | k + 1, initial, tree, t, nest => do
    if t != .bar then return (tree, t)
    let t ← fetch sx p true
    if t != .bar && t != .fin && (nest == 0 || t != .closeGroup) then
      let accumulated := (← get).closed
      modify fun s => { s with closed := initial }
      let (b, t) ← branch sx p k t nest
      modify fun s => { s with closed := s.closed ++ accumulated }
      alternatives sx p k initial (some (.alt (tree.getD .empty) (b.getD .empty))) t nest
    else
      alternatives sx p k initial (some (.alt (tree.getD .empty) .empty)) t nest

/-- **Read a branch**: pieces up to a bar, the end, or (inside a group) a closing parenthesis. -/
def branch (sx : Syntax) (p : Array UInt8) : Nat → Tok → Nat → Parse (Option Rx × Tok)
  | 0, t, _ => return (none, t)
  | k + 1, t, nest => do
    let (tree, t) ← expression sx p k t nest
    pieces sx p k tree t nest

/-- The pieces of a branch after its first. -/
def pieces (sx : Syntax) (p : Array UInt8) : Nat → Option Rx → Tok → Nat → Parse (Option Rx × Tok)
  | 0, tree, t, _ => return (tree, t)
  | k + 1, tree, t, nest => do
    if t == .bar || t == .fin || (nest != 0 && t == .closeGroup) then return (tree, t)
    let (e, t) ← expression sx p k t nest
    pieces sx p k (joinCat tree e) t nest

/-- **Read a piece**: an atom and the repetition operators after it. -/
def expression (sx : Syntax) (p : Array UInt8) : Nat → Tok → Nat → Parse (Option Rx × Tok)
  | 0, t, _ => return (none, t)
  | k + 1, t, nest => do
    match t with
    | .char c => repetitions sx p k (some (.byte (sx.fold c))) (← fetch sx p false)
    | .openGroup =>
      let g ← group sx p k nest
      repetitions sx p k (some g) (← fetch sx p false)
    | .openBracket =>
      let b ← bracket sx p
      repetitions sx p k (some b) (← fetch sx p false)
    | .backref n =>
      if !(← get).closed.contains n then throw badBackref
      repetitions sx p k (some (.backref n)) (← fetch sx p false)
    | .openBrace | .star | .plus | .question =>
      if t == .openBrace && sx.invalidDup then throw badRepeat
      if sx.invalidOps && !sx.invalidDup then throw badRepeat
      if sx.extended then
        let name := match t with
          | .star => "*"
          | .plus => "+"
          | .question => "?"
          | _ => "{...}"
        modify fun s => { s with leadingOps := s.leadingOps ++ [name] }
        expression sx p k (← fetch sx p false) nest
      else repetitions sx p k (some (.byte t.byte)) (← fetch sx p false)
    | .closeGroup =>
      if !sx.extended then throw unmatchedClose
      repetitions sx p k (some (.byte 41)) (← fetch sx p false)
    | .closeBrace => repetitions sx p k (some (.byte 125)) (← fetch sx p false)
    | .anchor a => return (some (.anchor a), ← fetch sx p false)
    | .dot => repetitions sx p k (some .any) (← fetch sx p false)
    | .word n => repetitions sx p k (some (wordSet n)) (← fetch sx p false)
    | .space n => repetitions sx p k (some (spaceSet n)) (← fetch sx p false)
    | .trailingBackslash => throw trailingBackslash
    | .bar | .fin => return (none, t)

/-- The repetition operators after an atom. -/
def repetitions (sx : Syntax) (p : Array UInt8) : Nat → Option Rx → Tok → Parse (Option Rx × Tok)
  | 0, tree, t => return (tree, t)
  | k + 1, tree, t => do
    if t == .star || t == .plus || t == .question || t == .openBrace then
      let (tree, t) ← dupOp sx p tree t
      if sx.invalidDup && (t == .star || t == .openBrace) then throw badRepeat
      repetitions sx p k tree t
    else return (tree, t)

/-- **Read a group**, after its opening parenthesis. -/
def group (sx : Syntax) (p : Array UInt8) : Nat → Nat → Parse Rx
  | 0, _ => throw unmatchedOpen
  | k + 1, nest => do
    let n := (← get).groups + 1
    modify fun s => { s with groups := n }
    let t ← fetch sx p true
    let inner ← if t == .closeGroup then pure none else do
      let (tree, t) ← regExp sx p k t (nest + 1)
      if t != .closeGroup then throw unmatchedOpen
      pure tree
    if n ≤ 9 then modify fun s => { s with closed := n :: s.closed }
    return .group n (inner.getD .empty)

end

/-- A pattern read: its expression, its number of groups, the repetition operators found with
nothing before them, and whether a bracket expression read like a misplaced class. -/
structure Compiled where
  rx : Rx
  groups : Nat
  leadingOps : List String := []
  confusing : Bool := false
  icase : Bool := false
  deriving Inhabited

/-- **Read a pattern**, or say what is wrong with it in the C library's words. -/
def compile (sx : Syntax) (pattern : List UInt8) : Except String Compiled :=
  let p := pattern.toArray
  let fuel := 4 * (p.size + 2)
  let run : Parse Compiled := do
    let t ← fetch sx p true
    let (tree, _) ← regExp sx p fuel t 0
    let s ← get
    return { rx := tree.getD .empty, groups := s.groups, leadingOps := s.leadingOps,
             confusing := s.confusing, icase := sx.icase }
  (run.run {}).map (·.1)

/-! ## Matching -/

/-- What a match is tried against: the whole text, so anchors and word edges can look at the
bytes around a position. -/
structure Subject where
  text : Array UInt8
  icase : Bool := false
  /-- Whether `^` and `$` also hold after and before a newline inside the text. -/
  multiline : Bool := false
  deriving Inhabited

/-- Where each group matched, by number; none for a group that did not take part. -/
abbrev Groups := Array (Option (Nat × Nat))

/-- A byte of the text as matching compares it. -/
def Subject.at (s : Subject) (i : Nat) : Option UInt8 :=
  (s.text[i]?).map fun b => if s.icase then Bytes.upper b else b

/-- Whether the byte at a position is a word byte. -/
def Subject.wordAt (s : Subject) (i : Nat) : Bool :=
  match s.text[i]? with
  | some b => isWordByte b
  | none => false

/-- Whether an anchor holds at a position. -/
def Subject.holds (s : Subject) (a : Anchor) (pos : Nat) : Bool :=
  let before := pos > 0 && s.wordAt (pos - 1)
  let after := s.wordAt pos
  match a with
  | .lineStart => pos == 0 || (s.multiline && s.text[pos - 1]? == some 10)
  | .lineEnd => pos == s.text.size || (s.multiline && s.text[pos]? == some 10)
  | .textStart => pos == 0
  | .textEnd => pos == s.text.size
  | .wordStart => !before && after
  | .wordEnd => before && !after
  | .wordEdge => before != after
  | .notWordEdge => before == after

/-- Whether a byte of the text is in a bracket expression. -/
def inSet (negated : Bool) (items : List Item) (b : UInt8) : Bool :=
  items.any (·.has b) != negated

/-- Keep the first way of reaching each end (each end with its groups, when `keyed`). -/
def firstWays (keyed : Bool) (ways : List (Nat × Groups)) : List (Nat × Groups) :=
  let step := fun (acc : List (Nat × Groups) × List Nat) (w : Nat × Groups) =>
    if keyed then
      if acc.1.any (fun v => v.1 == w.1 && v.2 == w.2) then acc else (w :: acc.1, acc.2)
    else if acc.2.contains w.1 then acc else (w :: acc.1, w.1 :: acc.2)
  (ways.foldl step ([], [])).1.reverse

/-- Whether the text at `pos` repeats what lies between `a` and `b`. -/
def Subject.repeats (s : Subject) (a b pos : Nat) : Bool :=
  (List.range (b - a)).all fun i => s.at (a + i) == s.at (pos + i) && (s.at (pos + i)).isSome

mutual

/-- **Every way an expression matches** at a position, best first: where each ends and the groups
as they then stand. -/
def matchesAt (s : Subject) (keyed : Bool) : Nat → Rx → Nat → Groups → List (Nat × Groups)
  | 0, _, _, _ => []
  | k + 1, r, pos, gs =>
    match r with
    | .empty => [(pos, gs)]
    | .byte b => if s.at pos == some b then [(pos + 1, gs)] else []
    | .any => if pos < s.text.size then [(pos + 1, gs)] else []
    | .set negated items =>
      match s.at pos with
      | some b => if inSet negated items b then [(pos + 1, gs)] else []
      | none => []
    | .anchor a => if s.holds a pos then [(pos, gs)] else []
    | .group n r => (matchesAt s keyed k r pos gs).map fun (e, g) => (e, g.set! n (some (pos, e)))
    | .backref n =>
      match gs[n]? with
      | some (some (a, b)) => if s.repeats a b pos then [(pos + (b - a), gs)] else []
      | _ => []
    | .cat a b => firstWays keyed ((matchesAt s keyed k a pos gs).flatMap fun (p, g) => matchesAt s keyed k b p g)
    | .alt a b => firstWays keyed (matchesAt s keyed k a pos gs ++ matchesAt s keyed k b pos gs)
    | .rep r least most => repeatAt s keyed k r least most false pos gs

/-- The turns of a repetition from a position: one more turn first, then stopping. A turn that
matches nothing ends the repetition, and is taken only as a first turn or to make up the count. -/
def repeatAt (s : Subject) (keyed : Bool) : Nat → Rx → Nat → Option Nat → Bool → Nat → Groups → List (Nat × Groups)
  | 0, _, _, _, _, _, _ => []
  | k + 1, r, least, most, started, pos, gs =>
    let more := if most == some 0 then [] else
      (matchesAt s keyed k r pos gs).flatMap fun (p, g) =>
        if p == pos then (if started && least == 0 then [] else [(p, g)])
        else repeatAt s keyed k r (least - 1) (most.map (· - 1)) true p g
    let stop := if least == 0 then [(pos, gs)] else []
    firstWays keyed (more ++ stop)

end

/-- The longest of the ways, the first among equally long ones. -/
def longest (ways : List (Nat × Groups)) : Option (Nat × Groups) :=
  ways.foldl (fun best w => match best with
    | some b => if w.1 > b.1 then some w else best
    | none => some w) none

/-- A match: where it starts and ends, and where each group matched. -/
structure Match where
  start : Nat
  stop : Nat
  groups : Groups
  deriving Inhabited

/-- The fuel that bounds matching at a position: enough for every turn of every repetition. -/
def Compiled.fuel (c : Compiled) (s : Subject) (pos : Nat) : Nat :=
  2 * (c.rx.size + 2) * (s.text.size - pos + 2)

/-- All the ways a compiled pattern matches at a position. -/
def Compiled.waysAt (c : Compiled) (s : Subject) (pos : Nat) : List (Nat × Groups) :=
  matchesAt s c.rx.hasBackref (c.fuel s pos) c.rx pos (Array.replicate (c.groups + 1) none)

/-- **The leftmost-longest match** that starts at `from` or later. -/
def Compiled.search (c : Compiled) (s : Subject) (from_ : Nat) : Option Match :=
  (List.range (s.text.size + 1 - from_)).findSome? fun i =>
    let pos := from_ + i
    (longest (c.waysAt s pos)).map fun (e, g) => { start := pos, stop := e, groups := g.set! 0 (some (pos, e)) }

/-- The subject for a text, as a compiled pattern compares it. -/
def Compiled.subject (c : Compiled) (text : List UInt8) : Subject :=
  { text := text.toArray, icase := c.icase }

/-- Whether a pattern matches somewhere in a text. -/
def Compiled.matches (c : Compiled) (text : List UInt8) : Bool :=
  (c.search (c.subject text) 0).isSome

end CrossRef.Regex
