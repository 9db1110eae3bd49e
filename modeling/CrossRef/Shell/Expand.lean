import CrossRef.Shell.State
import CrossRef.Shell.Pattern
import CrossRef.Shell.Arith
/-!
Word expansion.

A word expands to bytes, each remembering where it came from: text written unquoted, text
quoted, or the value of an unquoted expansion. That origin decides the next two steps for the
words of a command:

* **field splitting** cuts a word into fields at the bytes of expansions that are in `IFS`. A run
  of IFS white space (blank, tab, newline) is one separator and is ignored at the ends; every
  other IFS byte ends a field, taking the white space around it along, so two in a row leave an
  empty field between them. A word that had quotes stays a field even when it is empty, and
  nothing else that is empty does;
* **file name expansion** replaces a field that holds an active `*`, `?` or `[` by the sorted
  names of the files its pattern matches, component by component; a name starting with a dot
  is matched only by a pattern component starting with one. A pattern that matches nothing
  stays as it is.

Assignments, redirection targets, `case` subjects and here-documents are expanded without either
step. `"$@"` gives one field per positional parameter (none when there are none); `"$*"` joins
them with the first byte of `IFS`. An expansion inside `${x-word}` is expanded only when its
word is used, and the word of `${x#pattern}` is a pattern whose quoted bytes match themselves.

A leading `~` up to the first slash is the home directory, `~root` root's.

This module belongs to the simulated test host that one-shot analyzer commands run on, not to
the library's program: the program reaches the host only through `Cli.Machine` and
`Host.System`, and no theorem of the library is about this module.
-/

namespace CrossRef.Shell

open CrossRef.Host

/-- Where a byte of an expanded word came from. -/
inductive Origin where
  /-- Written unquoted. -/
  | literal
  | quoted
  /-- The value of an unquoted expansion. -/
  | expanded
  deriving DecidableEq, Repr, Inhabited

/-- An item of an expanded word. -/
inductive Item where
  | byte (c : UInt8) (o : Origin)
  /-- A field ends here: between the parameters of `$@`. -/
  | boundary
  /-- The word was quoted here, so it is a field even when empty. -/
  | mark
  deriving DecidableEq, Repr, Inhabited

/-- How unquoted text of a word expands. -/
inductive TextMode where
  /-- As unquoted text of a word. -/
  | literal
  /-- As quoted text: inside double quotes. -/
  | quoted
  /-- As the value of an expansion: the word of an unquoted `${x-word}`. -/
  | expanded
  deriving DecidableEq, Repr, Inhabited

/-- Bytes of one origin. -/
def itemsOf (b : Bytes) (o : Origin) : List Item := b.map (Item.byte · o)

/-- The bytes of expanded items, with a separator for each boundary. -/
def flatten (sep : Bytes) (items : List Item) : Bytes :=
  items.foldr (fun i acc => match i with
    | .byte c _ => c :: acc
    | .boundary => sep ++ acc
    | .mark => acc) []

/-- Expanded items as a pattern: quoted bytes match themselves. -/
def Item.marked (items : List Item) : Marked :=
  items.filterMap fun
    | .byte c o => some (c, o != .quoted)
    | _ => none

/-- The separator that joins the positional parameters of `"$*"`. -/
def joiner : ShellM Bytes := do
  match ← getVar "IFS" with
  | some v => return v.take 1
  | none => return [32]

/-- **The value of a parameter**: a variable, a positional parameter or a special one. -/
def paramValue (name : String) : ShellM (Option Bytes) := do
  let s ← get
  match name with
  | "#" => return some (Bytes.ofNat s.params.length)
  | "?" => return some (Bytes.ofNat s.status)
  | "$" => return some (Bytes.ofNat s.pid)
  | "!" => return s.lastBg.map Bytes.ofNat
  | "-" => return some (← optionFlags)
  | "0" => return some s.arg0
  | "@" | "*" =>
    let sep ← joiner
    return some (sep.intercalate s.params)
  | _ =>
    if name.all Char.isDigit && !name.isEmpty then
      let n := name.toNat!
      return if n == 0 then some s.arg0 else s.params[n - 1]?
    else getVar name

/-- Whether a parameter is a variable that can be assigned. -/
def assignable (name : String) : Bool := Bytes.isName (Bytes.ofString name)

/-- **The home directory of a tilde prefix**: `HOME` for `~`, root's for `~root`. -/
def tildeHome (user : Bytes) : ShellM (Option Bytes) := do
  if user.isEmpty then
    match ← getVar "HOME" with
    | some h => return if h.isEmpty then none else some h
    | none => return none
  else if user == lit "root" then return some (lit "/root")
  else return none

/-- What expanding needs of the interpreter: the output of a command substitution. -/
structure Hooks where
  substitute : Option Command → ShellM Bytes

section Expand

variable (hooks : Hooks)

/-- Evaluate an arithmetic expression with the shell's variables. -/
def arithmetic (text : Bytes) : ShellM Int64 := do
  let vars : Arith.Vars ShellM := { get := getVar, set := fun n v => setVar n v }
  match ← (Arith.eval vars text).run with
  | .ok v => return v
  | .error p => raise (Bytes.ofString (p.message text))

mutual

/-- **Expand the pieces of a word.** -/
def expandPieces (mode : TextMode) : List Piece → ShellM (List Item)
  | [] => pure []
  | p :: ps => do
    let a ← expandPiece mode p
    let b ← expandPieces mode ps
    return a ++ b

/-- Expand a piece of a word. -/
def expandPiece (mode : TextMode) : Piece → ShellM (List Item)
  | .plain b => pure (itemsOf b (match mode with
    | .literal => .literal
    | .quoted => .quoted
    | .expanded => .expanded))
  | .quoted b => pure (.mark :: itemsOf b .quoted)
  | .param name m arg q => expandParam (q || mode == .quoted) name m arg
  | .command c q => do
    let out ← hooks.substitute c
    let out := (out.reverse.dropWhile (· == 10)).reverse
    let quoted := q || mode == .quoted
    return (if quoted then [.mark] else []) ++ itemsOf out (if quoted then .quoted else .expanded)
  | .arith e q => do
    let items ← expandPieces .quoted e
    let v ← arithmetic (flatten [] items)
    let quoted := q || mode == .quoted
    return itemsOf (Bytes.ofString (toString v.toInt)) (if quoted then .quoted else .expanded)

/-- **Expand a parameter** with its modifier, quoted or not. -/
def expandParam (quoted : Bool) (name : String) (m : Modifier) (arg : List Piece) : ShellM (List Item) := do
  let origin := if quoted then Origin.quoted else Origin.expanded
  let value ← paramValue name
  let isSet := value.isSome
  let isNull := value.getD [] == []
  let mk (b : Bytes) : List Item := (if quoted then [.mark] else []) ++ itemsOf b origin
  let word : ShellM (List Item) := expandPieces (if quoted then .quoted else .expanded) arg
  let unsetError : ShellM Unit := do
    if !isSet && (← get).opts.nounset && name != "@" && name != "*" then
      raise (lit name ++ lit ": parameter not set")
  match m with
  | .bad => raise (lit "Bad substitution")
  | .plain =>
    if name == "@" || name == "*" then
      let ps := (← get).params
      if quoted && name == "@" then
        return ((ps.map fun p => Item.mark :: itemsOf p .quoted).intersperse [.boundary]).flatten
      else if quoted then return mk (value.getD [])
      else return ((ps.map fun p => itemsOf p .expanded).intersperse [.boundary]).flatten
    unsetError
    return mk (value.getD [])
  | .length =>
    unsetError
    return itemsOf (Bytes.ofNat (value.getD []).length) origin
  | .orDefault nullToo => if !isSet || (nullToo && isNull) then word else return mk (value.getD [])
  | .ifSet nullToo => if !isSet || (nullToo && isNull) then return [] else word
  | .orAssign nullToo =>
    if !isSet || (nullToo && isNull) then
      let items ← expandPieces .quoted arg
      let v := flatten [] items
      if !assignable name then raise (lit name ++ lit ": bad variable name")
      setVar name v
      return mk v
    else return mk (value.getD [])
  | .orFail nullToo =>
    if !isSet || (nullToo && isNull) then
      let msg ← if arg.isEmpty then pure (lit (if nullToo then "parameter not set or null" else "parameter not set"))
        else do pure (flatten [] (← expandPieces .quoted arg))
      raise (lit name ++ lit ": " ++ msg)
    else return mk (value.getD [])
  | .dropPrefix longest =>
    unsetError
    let pat := Pat.ofMarked (Item.marked (← expandPieces .literal arg))
    let v := value.getD []
    return mk ((dropPrefix pat longest v).getD v)
  | .dropSuffix longest =>
    unsetError
    let pat := Pat.ofMarked (Item.marked (← expandPieces .literal arg))
    let v := value.getD []
    return mk ((dropSuffix pat longest v).getD v)

end

/-- Expand a word's leading tilde prefix, when its first piece is unquoted text that holds all of
the prefix. -/
def expandTilde : List Piece → ShellM (List Item × List Piece)
  | .plain (126 :: rest) :: ps =>
    let user := rest.takeWhile (· != 47)
    let after := rest.drop user.length
    if after.isEmpty && !ps.isEmpty then pure ([], .plain (126 :: rest) :: ps)
    else do
      match ← tildeHome user with
      | some h => return (itemsOf h .quoted, if after.isEmpty then ps else .plain after :: ps)
      | none => return ([], .plain (126 :: rest) :: ps)
  | ps => pure ([], ps)

/-- **Expand a word** to items, with its tilde prefix. -/
def expandWordItems (w : Word) : ShellM (List Item) := do
  let (home, rest) ← expandTilde w
  return home ++ (← expandPieces hooks .literal rest)

/-- **Expand a word without splitting it** or matching file names. -/
def expandString (w : Word) : ShellM Bytes := do
  let items ← expandWordItems hooks w
  return flatten (← joiner) items

/-- **Expand a word as a pattern**. -/
def expandPattern (w : Word) : ShellM Marked := do
  return Item.marked (← expandWordItems hooks w)

end Expand

/-- **Split expanded items into fields** at the IFS bytes of expansions. -/
def splitFields (ifs : Bytes) (items : List Item) : List Marked :=
  let white (c : UInt8) := c == 32 || c == 9 || c == 10
  -- state: fields so far (last first), the current field (last byte first), whether it started,
  -- and whether the last separator was white space after a field (none, ws, other)
  let step (st : List Marked × Marked × Bool × Nat) (i : Item) :=
    let (fields, cur, started, lastSep) := st
    match i with
    | .byte c o =>
      if o == .expanded && ifs.contains c then
        if white c then
          if started then (cur.reverse :: fields, [], false, 1) else (fields, cur, started, lastSep)
        else if started then (cur.reverse :: fields, [], false, 2)
        else if lastSep == 1 then (fields, cur, started, 2)
        else ([] :: fields, [], false, 2)
      else (fields, (c, o != .quoted) :: cur, true, lastSep)
    | .mark => (fields, cur, true, lastSep)
    | .boundary => if started then (cur.reverse :: fields, [], false, 0) else (fields, cur, false, 0)
  let (fields, cur, started, _) := items.foldl step ([], [], false, 0)
  (if started then cur.reverse :: fields else fields).reverse

/-- The bytes of a field. A backslash in it came from an expansion and stays: it quotes the
byte after it only where the field is a pattern. -/
def Marked.bytes (m : Marked) : Bytes := m.map (·.1)

/-- The names a directory holds for pattern matching, `.` and `..` included. -/
def dirNames (fs : Files) (dir : String) : List String := [".", ".."] ++ fs.list dir

/-- The literal text of a pattern component without wildcards. -/
def literalOf (m : Marked) : Bytes :=
  (Pat.ofMarked m).filterMap fun
    | .lit c => some c
    | _ => none

/-- A pattern split at its slashes: the slashes it starts with, then each component with the
slashes after it, which are kept as they are written. -/
def splitPath (field : Marked) : Bytes × List (Marked × Bytes) :=
  let lead := (field.takeWhile (·.1 == 47)).map (·.1)
  let step (st : List (Marked × Bytes) × Marked × Bytes) (b : UInt8 × Bool) :=
    let (parts, cur, seps) := st
    if b.1 == 47 then (parts, cur, 47 :: seps)
    else if seps.isEmpty then (parts, b :: cur, seps)
    else ((cur.reverse, seps.reverse) :: parts, [b], [])
  let (parts, cur, seps) := (field.dropWhile (·.1 == 47)).foldl step ([], [], [])
  let parts := if cur.isEmpty && seps.isEmpty then parts else (cur.reverse, seps.reverse) :: parts
  (lead, parts.reverse)

/-- **Match a pattern against file names**, one path component at a time: the paths found, in
order. `base` is the text of the path so far and `dir` the directory it names. A component
followed by slashes names a directory. -/
def globFrom (fs : Files) : List (Marked × Bytes) → Bytes → String → List Bytes
  | [], base, _ => [base]
  | (comp, seps) :: rest, base, dir =>
    let found (full : String) : Bool := if seps.isEmpty then fs.present full else fs.isDir full
    if hasWildcard comp then
      let pat := Pat.ofMarked comp
      let dotOk := comp.head? == some (46, false) || comp.head? == some (46, true)
      let names := (dirNames fs dir).filter fun n =>
        let b := Bytes.ofString n
        (dotOk || b.head? != some 46) && Pat.matches pat b
      let names := names.mergeSort fun a b => Bytes.ofString a ≤ Bytes.ofString b
      names.flatMap fun n =>
        let path := base ++ Bytes.ofString n ++ seps
        let full := resolve dir n
        if rest.isEmpty then (if found full then [path] else [])
        else if fs.isDir full then globFrom fs rest path full else []
    else
      let name := literalOf comp
      let path := base ++ name ++ seps
      let full := resolve dir (Bytes.text name)
      if rest.isEmpty then (if found full then [path] else [])
      else globFrom fs rest path full

/-- **Expand a field into file names**, or keep it when nothing matches. -/
def globField (field : Marked) : ShellM (List Bytes) := do
  let s ← get
  if s.opts.noglob || !hasWildcard field then return [field.bytes]
  let (lead, parts) := splitPath field
  let found := globFrom s.sys.files parts lead (if lead.isEmpty then s.cwd else "/")
  let found := found.mergeSort fun a b => a ≤ b
  return if found.isEmpty then [field.bytes] else found

end CrossRef.Shell
