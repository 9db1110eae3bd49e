import CrossRef.Text.Bytes
/-!
The shell's `test` and `[`.

An expression is read from the arguments: `-o` joins `-a`-joined terms, each a `!`-negated
primary: a parenthesized expression, a unary test of a file or a string, a binary comparison of
strings (`=`, `!=`, `<`, `>`) or integers (`-eq`, `-ne`, `-lt`, `-le`, `-gt`, `-ge`) or files
(`-nt`, `-ot`, `-ef`), or a lone string, true when it is not empty. Every operand is evaluated, also
those whose value does not matter.

A few shapes are read the way POSIX prescribes before that: no argument is false, three
arguments with a binary operator in the middle are that comparison, and three or four arguments
in parentheses or after `!` are read without them. A unary operator with nothing after it is a
string, and a missing expression (after a last `!`, `-a` or `-o`, or as `( )`) is false.

An integer operand must be a whole decimal number, with blanks around it allowed. Errors end the
command with status 2: `missing ]`, `argument expected`, `closing paren expected`,
`X: unexpected operator` and `Illegal number: X`.

This module belongs to the simulated test host that one-shot analyzer commands run on, not to
the library's program: the program reaches the host only through `Cli.Machine` and
`Host.System`, and no theorem of the library is about this module.
-/

namespace CrossRef.Shell.Test

/-- What `test` knows of a file. -/
structure FileFacts where
  regular : Bool := false
  directory : Bool := false
  charDevice : Bool := false
  size : Nat := 0
  executable : Bool := false
  deriving Inhabited

/-- The kinds of operators. -/
inductive Kind where
  | unary
  | binary
  /-- `!` -/
  | not
  /-- `-a` and `-o` -/
  | logic
  /-- `(` and `)` -/
  | paren
  deriving DecidableEq, Repr, Inhabited

/-- The operators and their kinds. -/
def operators : List (String × Kind) :=
  [("-r", .unary), ("-w", .unary), ("-x", .unary), ("-e", .unary), ("-f", .unary),
   ("-d", .unary), ("-c", .unary), ("-b", .unary), ("-p", .unary), ("-u", .unary),
   ("-g", .unary), ("-k", .unary), ("-s", .unary), ("-t", .unary), ("-z", .unary),
   ("-n", .unary), ("-h", .unary), ("-O", .unary), ("-G", .unary), ("-L", .unary),
   ("-S", .unary), ("=", .binary), ("!=", .binary), ("<", .binary), (">", .binary),
   ("-eq", .binary), ("-ne", .binary), ("-ge", .binary), ("-gt", .binary), ("-le", .binary),
   ("-lt", .binary), ("-nt", .binary), ("-ot", .binary), ("-ef", .binary), ("!", .not),
   ("-a", .logic), ("-o", .logic), ("(", .paren), (")", .paren)]

/-- The operator a word is, if it is one. -/
def opOf (w : Bytes) : Option (String × Kind) := operators.find? (Bytes.ofString ·.1 == w)

/-- A token of an expression. -/
inductive Tok where
  | eoi
  | operand
  | op (name : String) (kind : Kind)
  deriving DecidableEq, Repr, Inhabited

/-- Whether the word after an operator is an operand for it. -/
def isOperand (args : Array Bytes) (i : Nat) : Bool :=
  match args[i + 1]? with
  | none => true
  | some s =>
    if args[i + 2]?.isNone then false
    else match opOf s with
      | some (_, .binary) => true
      | _ => false

/-- **The token at a position**: an operator, unless it is a unary one with no operand or with a
binary operator after its operand, or a `(` that is last. -/
def lex (args : Array Bytes) (i : Nat) : Tok :=
  match args[i]? with
  | none => .eoi
  | some s =>
    match opOf s with
    | some (name, kind) =>
      if kind == .unary && isOperand args i then .operand
      else if name == "(" && args[i + 1]?.isNone then .operand
      else .op name kind
    | none => .operand

/-- Evaluating an expression: the position of the current token. -/
abbrev TestM := StateT Nat (Except Bytes)

/-- Fail with a message, naming an operator when there is one. -/
def syntaxError (op : Option Bytes) (msg : String) : TestM α :=
  match op with
  | some o => if o.isEmpty then throw (Bytes.ofString msg) else throw (o ++ Bytes.ofString (": " ++ msg))
  | none => throw (Bytes.ofString msg)

/-- **A whole decimal number**, with blanks around it. -/
def number (s : Bytes) : Except Bytes Int :=
  let r := IntRead.read true 10 s
  if !r.digits || r.overflow || !r.rest.all Bytes.isSpace then .error (Bytes.ofString "Illegal number: " ++ s)
  else .ok r.value

section Eval

variable (args : Array Bytes) (facts : Bytes → Option FileFacts)

/-- The word at a position. -/
def wordAt (i : Nat) : Bytes := args[i]?.getD []

/-- **A unary file test.** -/
def fileTest (name : String) (path : Bytes) : Bool :=
  match facts path with
  | none => false
  | some f =>
    match name with
    | "-f" => f.regular
    | "-d" => f.directory
    | "-c" => f.charDevice
    | "-s" => f.size > 0
    | "-x" => f.executable || f.directory
    | "-b" | "-p" | "-S" | "-h" | "-L" | "-u" | "-g" | "-k" => false
    | _ => true

/-- **A binary comparison** of two operands. -/
def compare (name : String) (a b : Bytes) : TestM Bool := do
  let num (s : Bytes) : TestM Int := match number s with
    | .ok v => pure v
    | .error m => throw m
  match name with
  | "=" => return a == b
  | "!=" => return a != b
  | "<" => return decide (a < b)
  | ">" => return decide (b < a)
  | "-eq" => let x ← num a; let y ← num b; return x == y
  | "-ne" => let x ← num a; let y ← num b; return x != y
  | "-ge" => let x ← num a; let y ← num b; return x ≥ y
  | "-gt" => let x ← num a; let y ← num b; return x > y
  | "-le" => let x ← num a; let y ← num b; return x ≤ y
  | "-lt" => let x ← num a; let y ← num b; return x < y
  | "-ef" => return (facts a).isSome && (facts b).isSome && a == b
  | _ => return false

mutual

/-- An `-o` chain. -/
def orExpr : Nat → Tok → TestM Bool
  | 0, _ => syntaxError none "expression too deep"
  | k + 1, t => do
    let r ← andExpr k t
    let i ← get
    if lex args (i + 1) == .op "-o" .logic then
      set (i + 2)
      let r2 ← orExpr k (lex args (i + 2))
      return r || r2
    else return r

/-- An `-a` chain. -/
def andExpr : Nat → Tok → TestM Bool
  | 0, _ => syntaxError none "expression too deep"
  | k + 1, t => do
    let r ← notExpr k t
    let i ← get
    if lex args (i + 1) == .op "-a" .logic then
      set (i + 2)
      let r2 ← andExpr k (lex args (i + 2))
      return r && r2
    else return r

/-- A negation; a `!` that is last negates the missing expression. -/
def notExpr : Nat → Tok → TestM Bool
  | 0, _ => syntaxError none "expression too deep"
  | k + 1, t => do
    if t == .op "!" .not then
      let i ← get
      let n := lex args (i + 1)
      if n != .eoi then set (i + 1)
      return !(← notExpr k n)
    else primary k t

/-- **A primary.** A missing expression, at the end of the words or as `( )`, is false. -/
def primary : Nat → Tok → TestM Bool
  | 0, _ => syntaxError none "expression too deep"
  | k + 1, t => do
    let i ← get
    match t with
    | .eoi => return false
    | .op "(" _ =>
      set (i + 1)
      let n := lex args (i + 1)
      if n == .op ")" .paren then return false
      let r ← orExpr k n
      let j ← get
      set (j + 1)
      if lex args (j + 1) != .op ")" .paren then syntaxError none "closing paren expected"
      return r
    | .op name .unary =>
      set (i + 1)
      match args[i + 1]? with
      | none => syntaxError (some (Bytes.ofString name)) "argument expected"
      | some w =>
        match name with
        | "-z" => return w.isEmpty
        | "-n" => return !w.isEmpty
        | "-t" => match number w with
          | .ok _ => return false
          | .error m => throw m
        | _ => return fileTest facts name w
    | _ =>
      match lex args (i + 1) with
      | .op name .binary =>
        let a := wordAt args i
        set (i + 2)
        match args[i + 2]? with
        | none => syntaxError (some (Bytes.ofString name)) "argument expected"
        | some b => compare facts name a b
      | _ => return !(wordAt args i).isEmpty

end

end Eval

/-- **Evaluate an expression** from a position, with its first token: whether it holds, or,
when `positive` is false, whether it does not. Words left after it are an error. -/
def evalAt (args : Array Bytes) (facts : Bytes → Option FileFacts) (start : Nat) (t : Tok)
    (positive : Bool) : Except Bytes Bool := do
  let (r, i) ← (orExpr args facts (4 * args.size + 8) t).run start
  if args[i]?.isSome && args[i + 1]?.isSome then throw (wordAt args i ++ Bytes.ofString ": unexpected operator")
  return r == positive

/-- **Read the arguments from a position**, taking off what POSIX prescribes for three or four
arguments: parentheses around them, or a `!` before them, which leaves the rest to be read again.
No argument left is false (true after a `!`). -/
def recheck (facts : Bytes → Option FileFacts) : Nat → Array Bytes → Nat → Bool → Except Bytes Bool
  | 0, _, _, positive => return !positive
  | k + 1, args, start, positive => do
    let argc := args.size - start
    if argc < 1 then return !positive
    let binaryAt (i : Nat) := (opOf (wordAt args i)).map (·.2) == some .binary
    if argc == 3 && binaryAt (start + 1) then evalAt args facts start .operand positive
    else if (argc == 3 || argc == 4) && wordAt args start == Bytes.ofString "(" &&
        wordAt args (args.size - 1) == Bytes.ofString ")" then
      let inner := args.pop
      evalAt inner facts (start + 1) (lex inner (start + 1)) positive
    else if (argc == 3 || argc == 4) && wordAt args start == Bytes.ofString "!" then
      recheck facts k args (start + 1) false
    else evalAt args facts start (lex args start) positive

/-- **Run `test`** (or `[`, which needs a last `]`): whether the expression is true. -/
def run (bracket : Bool) (args : List Bytes) (facts : Bytes → Option FileFacts) : Except Bytes Bool := do
  let args ← if bracket then
      if args.getLast? != some (Bytes.ofString "]") then throw (Bytes.ofString "missing ]")
      else pure args.dropLast
    else pure args
  recheck facts (args.length + 1) args.toArray 0 true

end CrossRef.Shell.Test
