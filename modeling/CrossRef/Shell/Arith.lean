import CrossRef.Text.Bytes
/-!
Arithmetic expansion.

An arithmetic expression is evaluated in signed 64-bit integers that wrap around, with the
operators and precedence of C: unary `+ - ! ~`, then `* / %`, `+ -`, `<< >>`, `< <= > >=`,
`== !=`, `&`, `^`, `|`, `&&`, `||`, the conditional `?:` and the assignments `= *= /= %= += -=
<<= >>= &= ^= |=`. Division truncates toward zero, and a shift counts modulo 64.

A number is read as the C library reads one with base 0 (`0x1f`, `017`, `15`). A variable
stands for its value read the same way, with blanks around it allowed; an unset or empty
variable is 0, and any other text is an illegal number. An assignment sets the variable to the
decimal text of its value. `&&`, `||` and `?:` evaluate only the operand they need: the other is
read but neither looked up nor assigned.

Errors name the problem and the whole expression: `arithmetic expression: division by zero:
"1/0"`.

This module belongs to the simulated test host that one-shot analyzer commands run on, not to
the library's program: the program reaches the host only through `Cli.Machine` and
`Host.System`, and no theorem of the library is about this module.
-/

namespace CrossRef.Shell.Arith

/-- The tokens of an arithmetic expression. -/
inductive Tok where
  | num (v : Int64)
  | var (name : String)
  /-- A binary operator, or its assignment form. -/
  | bin (o : String) (assign : Bool)
  /-- `=` -/
  | assign
  | not
  | bnot
  | and
  | or
  | qmark
  | colon
  | lparen
  | rparen
  /-- A byte that starts no token. -/
  | bad
  | eof
  deriving DecidableEq, Repr, Inhabited

/-- The binary operators, by precedence: a lower number binds tighter. -/
def precedence (o : String) : Nat :=
  if o == "*" || o == "/" || o == "%" then 0
  else if o == "+" || o == "-" then 1
  else if o == "<<" || o == ">>" then 2
  else if o == "<" || o == "<=" || o == ">" || o == ">=" then 3
  else if o == "==" || o == "!=" then 4
  else if o == "&" then 5
  else if o == "^" then 6
  else 7

/-- The binary operator a token is, if it is one. -/
def Tok.binary? : Tok → Option String
  | .bin o false => some o
  | _ => none

/-- **Split an expression into tokens.** -/
def tokens : Nat → Bytes → List Tok
  | 0, _ => []
  | k + 1, b =>
    match b with
    | [] => []
    | c :: rest =>
      let more (t : Tok) (r : Bytes) := t :: tokens k r
      -- An operator that may be followed by `=` to assign.
      let assignable (o : String) (r : Bytes) :=
        match r with
        | 61 :: r => more (.bin o true) r
        | _ => more (.bin o false) r
      if c == 32 || c == 9 || c == 10 then tokens k rest
      else if Bytes.isDigit c then
        let r := IntRead.read true 0 b
        more (.num (Int64.ofInt r.value)) r.rest
      else if Bytes.isNameStart c then
        let n := b.takeWhile Bytes.isNameChar
        more (.var (Bytes.text n)) (b.drop n.length)
      else match c, rest with
        | 61, 61 :: r => more (.bin "==" false) r
        | 61, r => more .assign r
        | 62, 61 :: r => more (.bin ">=" false) r
        | 62, 62 :: r => assignable ">>" r
        | 62, r => more (.bin ">" false) r
        | 60, 61 :: r => more (.bin "<=" false) r
        | 60, 60 :: r => assignable "<<" r
        | 60, r => more (.bin "<" false) r
        | 124, 124 :: r => more .or r
        | 124, r => assignable "|" r
        | 38, 38 :: r => more .and r
        | 38, r => assignable "&" r
        | 33, 61 :: r => more (.bin "!=" false) r
        | 33, r => more .not r
        | 40, r => more .lparen r
        | 41, r => more .rparen r
        | 42, r => assignable "*" r
        | 47, r => assignable "/" r
        | 37, r => assignable "%" r
        | 43, r => assignable "+" r
        | 45, r => assignable "-" r
        | 126, r => more .bnot r
        | 94, r => assignable "^" r
        | 63, r => more .qmark r
        | 58, r => more .colon r
        | _, _ => [.bad]

/-- Why an expression could not be evaluated. -/
inductive Problem where
  /-- The expression is malformed, or divides by zero. -/
  | expression (message : String)
  /-- A variable's value is not a number. -/
  | illegalNumber (text : Bytes)
  /-- Nested too deep to evaluate. -/
  | tooDeep
  deriving Inhabited

/-- What evaluating an expression needs of the shell: reading and setting variables. -/
structure Vars (m : Type → Type) where
  get : String → m (Option Bytes)
  set : String → Bytes → m Unit

/-- The state of an evaluation: the tokens not yet read and the token read last. -/
structure Cursor where
  rest : List Tok
  last : Tok := .eof

/-- Evaluating an expression. -/
abbrev EvalM (m : Type → Type) := StateT Cursor (ExceptT Problem m)

section Eval

variable {m : Type → Type} [Monad m] (vars : Vars m)

/-- Read the next token. -/
def next : EvalM m Tok := modifyGet fun c =>
  match c.rest with
  | t :: rest => (t, { c with rest })
  | [] => (.eof, c)

/-- Make a token the one read last. -/
def setLast (t : Tok) : EvalM m Unit := modify fun c => { c with last := t }

/-- The token read last. -/
def last : EvalM m Tok := do return (← get).last

/-- **The value of a variable**: its text read as a number, 0 when unset or empty. -/
def valueOf (name : String) : EvalM m Int64 := do
  let text := (← (vars.get name : m _)).getD []
  let r := IntRead.read true 0 text
  if r.overflow || !r.rest.all Bytes.isSpace then throw (.illegalNumber text)
  return Int64.ofInt r.value

/-- Fail with a message about the expression. -/
def fail (message : String) : EvalM m α := throw (.expression message)

/-- Apply a binary operator. -/
def apply (o : String) (a b : Int64) : EvalM m Int64 :=
  let bool (p : Bool) : Int64 := if p then 1 else 0
  if o == "/" || o == "%" then
    if b == 0 then fail "division by zero" else pure (if o == "/" then a / b else a % b)
  else pure <|
    if o == "*" then a * b
    else if o == "+" then a + b
    else if o == "-" then a - b
    else if o == "<<" then a <<< b
    else if o == ">>" then a >>> b
    else if o == "<" then bool (a < b)
    else if o == "<=" then bool (a ≤ b)
    else if o == ">" then bool (a > b)
    else if o == ">=" then bool (a ≥ b)
    else if o == "==" then bool (a == b)
    else if o == "!=" then bool (a != b)
    else if o == "&" then a &&& b
    else if o == "^" then a ^^^ b
    else a ||| b

mutual

/-- A primary expression: a number, a variable, a parenthesized expression or a unary operator
applied to one; `op` is the token after the first. -/
def primary : Nat → Tok → Tok → Bool → EvalM m Int64
  | 0, _, _, _ => throw .tooDeep
  | k + 1, token, op, noeval => do
    match token with
    | .lparen =>
      let r ← assignment k op noeval
      if (← last) != .rparen then fail "expecting ')'"
      setLast (← next)
      return r
    | .num v => setLast op; return v
    | .var n => setLast op; if noeval then return 0 else valueOf vars n
    | .bin "+" false => primary k op (← next) noeval
    | .bin "-" false => return -(← primary k op (← next) noeval)
    | .not => return if (← primary k op (← next) noeval) == 0 then 1 else 0
    | .bnot => return ~~~(← primary k op (← next) noeval)
    | _ => fail "expecting primary"

/-- The rest of a chain of binary operators binding tighter than `prec`, after `a` and `op`. -/
def binopRest : Nat → Int64 → String → Nat → Bool → EvalM m Int64
  | 0, _, _, _, _ => throw .tooDeep
  | k + 1, a, op, prec, noeval => do
    let token ← next
    let b ← primary k token (← next) noeval
    let op2 := (← last).binary?
    let (b, op2) ← match op2 with
      | some o2 =>
        if precedence o2 < precedence op then do
          let b ← binopRest k b o2 (precedence op) noeval
          pure (b, (← last).binary?)
        else pure (b, op2)
      | none => pure (b, op2)
    let a ← if noeval then pure b else apply op a b
    match op2 with
    | some o2 => if precedence o2 ≥ prec then return a else binopRest k a o2 prec noeval
    | none => return a

/-- A chain of binary operators. -/
def binop : Nat → Tok → Tok → Bool → EvalM m Int64
  | 0, _, _, _ => throw .tooDeep
  | k + 1, token, op, noeval => do
    let a ← primary k token op noeval
    match (← last).binary? with
    | some o => binopRest k a o 8 noeval
    | none => return a

/-- A chain of `&&`. -/
def conj : Nat → Tok → Tok → Bool → EvalM m Int64
  | 0, _, _, _ => throw .tooDeep
  | k + 1, token, op, noeval => do
    let a ← binop k token op noeval
    if (← last) != .and then return a
    let token ← next
    let b ← conj k token (← next) (noeval || a == 0)
    return if a != 0 && b != 0 then 1 else 0

/-- A chain of `||`. -/
def disj : Nat → Tok → Tok → Bool → EvalM m Int64
  | 0, _, _, _ => throw .tooDeep
  | k + 1, token, op, noeval => do
    let a ← conj k token op noeval
    if (← last) != .or then return a
    let token ← next
    let b ← disj k token (← next) (noeval || a != 0)
    return if a != 0 || b != 0 then 1 else 0

/-- A conditional expression. -/
def cond : Nat → Tok → Tok → Bool → EvalM m Int64
  | 0, _, _, _ => throw .tooDeep
  | k + 1, token, op, noeval => do
    let a ← disj k token op noeval
    if (← last) != .qmark then return a
    let b ← assignment k (← next) (noeval || a == 0)
    if (← last) != .colon then fail "expecting ':'"
    let token ← next
    let c ← cond k token (← next) (noeval || a != 0)
    return if a != 0 then b else c

/-- An assignment, or a conditional expression. -/
def assignment : Nat → Tok → Bool → EvalM m Int64
  | 0, _, _ => throw .tooDeep
  | k + 1, token, noeval => do
    let op ← next
    match token, op with
    | .var name, .assign => assign k name none noeval
    | .var name, .bin o true => assign k name (some o) noeval
    | _, _ => cond k token op noeval

/-- The rest of an assignment to a variable, with the operator it combines with, if any. -/
def assign : Nat → String → Option String → Bool → EvalM m Int64
  | 0, _, _, _ => throw .tooDeep
  | k + 1, name, op, noeval => do
    let r ← assignment k (← next) noeval
    if noeval then return r
    let r ← match op with
      | some o => do apply o (← valueOf vars name) r
      | none => pure r
    (vars.set name (Bytes.ofString (toString r.toInt)) : m Unit)
    return r

end

/-- **Evaluate an expression.** -/
def eval (text : Bytes) : ExceptT Problem m Int64 := do
  let toks := tokens (text.length + 1) text
  let fuel := 4 * toks.length + 16
  let run : EvalM m Int64 := do
    let r ← assignment vars fuel (← next) false
    if (← last) != .eof then fail "expecting EOF"
    return r
  let (r, _) ← run.run { rest := toks }
  return r

end Eval

/-- The message of a problem with an expression. -/
def Problem.message (text : Bytes) : Problem → String
  | .expression msg => "arithmetic expression: " ++ msg ++ ": \"" ++ Bytes.text text ++ "\""
  | .illegalNumber t => "Illegal number: " ++ Bytes.text t
  | .tooDeep => "arithmetic expression: nested too deep: \"" ++ Bytes.text text ++ "\""

end CrossRef.Shell.Arith
