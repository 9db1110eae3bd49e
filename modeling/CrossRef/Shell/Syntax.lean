import CrossRef.Text.Bytes
/-!
The syntax of shell scripts.

A script is read one complete command at a time. A command is a simple command (assignments,
words and redirections), a pipeline, an and-or list, a sequence, a background job, a subshell, a
brace group, an `if`, a `while` or `until` loop, a `for` loop, a `case` or a function definition;
compound commands may carry redirections of their own.

A word is a list of pieces: text outside quotes, quoted text, and expansions (parameters,
command substitutions, arithmetic), each knowing whether it stood inside double quotes, which
decides whether its value is split into fields and matched against file names.

A here-document's body follows the line its redirection is on, so when the redirection is read
the body is not yet known: the redirection holds the document's number, and the bodies are put
in place once the line is complete (`Command.fill`).

This module belongs to the simulated test host that one-shot analyzer commands run on, not to
the library's program: the program reaches the host only through `Cli.Machine` and
`Host.System`, and no theorem of the library is about this module.
-/

namespace CrossRef.Shell

/-- How a parameter expansion uses the parameter's value. -/
inductive Modifier where
  /-- The value: `$x`, `${x}`. -/
  | plain
  /-- The length of the value: `${#x}`. -/
  | length
  /-- The word when the parameter is unset (or empty, with `nullToo`): `${x-w}`, `${x:-w}`. -/
  | orDefault (nullToo : Bool)
  /-- As `orDefault`, also assigning the word: `${x=w}`, `${x:=w}`. -/
  | orAssign (nullToo : Bool)
  /-- Fail with the word as message: `${x?w}`, `${x:?w}`. -/
  | orFail (nullToo : Bool)
  /-- The word when the parameter is set (and not empty, with `nullToo`): `${x+w}`, `${x:+w}`. -/
  | ifSet (nullToo : Bool)
  /-- The value without its shortest or longest suffix matching the word: `${x%w}`, `${x%%w}`. -/
  | dropSuffix (longest : Bool)
  /-- The value without its shortest or longest prefix matching the word: `${x#w}`, `${x##w}`. -/
  | dropPrefix (longest : Bool)
  /-- A substitution the shell cannot perform; expanding it fails. -/
  | bad
  deriving DecidableEq, Repr, Inhabited

/-- How a redirection opens its file. -/
inductive OpenMode where
  /-- `<`: for reading. -/
  | read
  /-- `>`: for writing, emptied first; with `-C`, a regular file that is there is not
  overwritten. -/
  | write
  /-- `>|`: for writing, emptied first, also with `-C`. -/
  | clobber
  /-- `>>`: for writing at the end. -/
  | append
  /-- `<>`: for reading and writing. -/
  | readWrite
  deriving DecidableEq, Repr, Inhabited

mutual

/-- A piece of a word. -/
inductive Piece where
  /-- Text as written outside quotes. -/
  | plain (b : Bytes)
  /-- Text quoted by quotes or a backslash. -/
  | quoted (b : Bytes)
  /-- A parameter expansion, with the word its modifier uses. -/
  | param (name : String) (m : Modifier) (arg : List Piece) (inQuotes : Bool)
  /-- A command substitution. -/
  | command (body : Option Command) (inQuotes : Bool)
  /-- An arithmetic expansion. -/
  | arith (expr : List Piece) (inQuotes : Bool)

/-- A redirection of a file descriptor. -/
inductive Redirect where
  /-- Open a file named by a word. -/
  | file (fd : Nat) (mode : OpenMode) (target : List Piece)
  /-- Duplicate another descriptor (`>&n`, `<&n`) or close (`>&-`). -/
  | dup (fd : Nat) (output : Bool) (source : Option Nat)
  /-- Duplicate a descriptor named by a word, known only once it is expanded. -/
  | dupWord (fd : Nat) (output : Bool) (source : List Piece)
  /-- A here-document, by number until its body is put in place. -/
  | doc (fd : Nat) (number : Nat)
  /-- A here-document's body, expanded or not. -/
  | here (fd : Nat) (body : List Piece) (expand : Bool)

/-- A command. -/
inductive Command where
  /-- Assignments, words and redirections, read on a line. -/
  | simple (line : Nat) (assigns : List (List Piece)) (words : List (List Piece))
      (redirs : List Redirect)
  /-- Commands joined by pipes, the status negated with `!`. -/
  | pipeline (negated : Bool) (stages : List Command)
  /-- `a && b`. -/
  | both (a b : Command)
  /-- `a || b`. -/
  | either (a b : Command)
  /-- `a; b`. -/
  | seq (a b : Command)
  /-- `a &`. -/
  | background (a : Command)
  /-- `( a )`, with its redirections. -/
  | subshell (line : Nat) (body : Option Command) (redirs : List Redirect)
  /-- A compound command with redirections. -/
  | redirected (line : Nat) (body : Command) (redirs : List Redirect)
  /-- `if`, with its `elif` branches as nested `if`s. -/
  | ifThen (cond : Option Command) (thenPart : Option Command) (elsePart : Option Command)
  /-- `while` (or `until`, with `negate`). -/
  | loop (negate : Bool) (cond : Option Command) (body : Option Command)
  /-- `for` a variable over words, or over the positional parameters when there are none. -/
  | forIn (line : Nat) (var : String) (items : Option (List (List Piece))) (body : Option Command)
  /-- `case` of a word, each arm its patterns and body. -/
  | caseOf (line : Nat) (subject : List Piece) (arms : List (List (List Piece) × Option Command))
  /-- A function definition. -/
  | function (line : Nat) (name : String) (body : Command)

end

/-- A word. -/
abbrev Word := List Piece

/-- The special built-in commands: an error in one ends a script, assignments before one stay,
and no function may take one's name. -/
def specialBuiltins : List String :=
  [".", ":", "break", "continue", "eval", "exec", "exit", "export", "local", "readonly", "return",
   "set", "shift", "times", "trap", "unset"]

/-- A here-document read from the lines after its redirection. -/
structure HereDoc where
  number : Nat
  body : Word
  expand : Bool
  deriving Inhabited

mutual

/-- A word with the here-documents' bodies put in place. -/
def Piece.fillAll (docs : List HereDoc) : List Piece → List Piece
  | [] => []
  | .param n m arg q :: ps => .param n m (Piece.fillAll docs arg) q :: Piece.fillAll docs ps
  | .command c q :: ps => .command (Command.fillOpt docs c) q :: Piece.fillAll docs ps
  | .arith e q :: ps => .arith (Piece.fillAll docs e) q :: Piece.fillAll docs ps
  | p :: ps => p :: Piece.fillAll docs ps

/-- Words with the here-documents' bodies put in place. -/
def Piece.fillWords (docs : List HereDoc) : List (List Piece) → List (List Piece)
  | [] => []
  | w :: ws => Piece.fillAll docs w :: Piece.fillWords docs ws

/-- Redirections with the here-documents' bodies put in place. -/
def Redirect.fillAll (docs : List HereDoc) : List Redirect → List Redirect
  | [] => []
  | .doc fd k :: rs =>
    let r := match docs.find? (·.number == k) with
      | some d => Redirect.here fd d.body d.expand
      | none => Redirect.here fd [] false
    r :: Redirect.fillAll docs rs
  | .file fd m t :: rs => .file fd m (Piece.fillAll docs t) :: Redirect.fillAll docs rs
  | .dupWord fd o w :: rs => .dupWord fd o (Piece.fillAll docs w) :: Redirect.fillAll docs rs
  | r :: rs => r :: Redirect.fillAll docs rs

/-- **A command with the here-documents' bodies put in place.** -/
def Command.fill (docs : List HereDoc) : Command → Command
  | .simple l a w r => .simple l (Piece.fillWords docs a) (Piece.fillWords docs w) (Redirect.fillAll docs r)
  | .pipeline n cs => .pipeline n (Command.fillList docs cs)
  | .both a b => .both (Command.fill docs a) (Command.fill docs b)
  | .either a b => .either (Command.fill docs a) (Command.fill docs b)
  | .seq a b => .seq (Command.fill docs a) (Command.fill docs b)
  | .background a => .background (Command.fill docs a)
  | .subshell l b r => .subshell l (Command.fillOpt docs b) (Redirect.fillAll docs r)
  | .redirected l b r => .redirected l (Command.fill docs b) (Redirect.fillAll docs r)
  | .ifThen c t e => .ifThen (Command.fillOpt docs c) (Command.fillOpt docs t) (Command.fillOpt docs e)
  | .loop n c b => .loop n (Command.fillOpt docs c) (Command.fillOpt docs b)
  | .forIn l v is b =>
    .forIn l v (match is with
      | some ws => some (Piece.fillWords docs ws)
      | none => none) (Command.fillOpt docs b)
  | .caseOf l s arms => .caseOf l (Piece.fillAll docs s) (Command.fillArms docs arms)
  | .function l n b => .function l n (Command.fill docs b)

/-- Optional commands with the here-documents' bodies put in place. -/
def Command.fillOpt (docs : List HereDoc) : Option Command → Option Command
  | some c => some (Command.fill docs c)
  | none => none

/-- Commands with the here-documents' bodies put in place. -/
def Command.fillList (docs : List HereDoc) : List Command → List Command
  | [] => []
  | c :: cs => Command.fill docs c :: Command.fillList docs cs

/-- The arms of a `case` with the here-documents' bodies put in place. -/
def Command.fillArms (docs : List HereDoc) :
    List (List (List Piece) × Option Command) → List (List (List Piece) × Option Command)
  | [] => []
  | (ps, b) :: arms => (Piece.fillWords docs ps, Command.fillOpt docs b) :: Command.fillArms docs arms

end

/-- The literal text of a word with its quotes removed, ignoring expansions. -/
def Word.literal (w : Word) : Bytes :=
  w.foldr (fun p acc => match p with
    | .plain b | .quoted b => b ++ acc
    | _ => acc) []

/-- The text of a word that is all unquoted text, if it is. -/
def Word.plainText? : Word → Option Bytes
  | [.plain b] => some b
  | _ => none

end CrossRef.Shell
