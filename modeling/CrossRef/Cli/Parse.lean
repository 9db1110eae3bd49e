import CrossRef.Cli.Help
import CrossRef.Cli.Suggest
/-!
Reading a command line against its shape.

The arguments are read from left to right. At the program's level, the first word that names a
command (or one of its aliases) starts that command, and the rest is read at its level; `help`
prints the help of the commands named after it. `--` ends the options: what follows is
positional. `--name` and `--name=value` are long options, `-abc` a cluster of short ones, the
last of which may take the rest of the word (or the next word) as its value. Anything else is the
next positional argument.

A value is checked when the reader moves past it, so a bad value is reported when the next word
is read, unless that word is itself unknown: an unknown argument is reported first. An option
given twice at one level is an error; an option of the program given both before and inside a
command takes the command's value.

When the words are read, the command's required arguments must all be there, and the program
must have been given a command: with nothing at all it prints its help.

Every failure is a `Failure`: its kind, named as in the reader this follows, and its message,
which for help and version requests is the text to print.
-/

-- `^` on numbers is core's `NatPow` power here, also where Mathlib's monoid power is in scope.
attribute [local instance (high)] instPowNat

namespace CrossRef.Cli

/-- The kinds of outcome that stop the reading of a command line. -/
inductive FailureKind where
  | displayHelp
  | displayHelpOnMissing
  | displayVersion
  | missingRequiredArgument
  | valueValidation
  | missingSubcommand
  | invalidValue
  | unknownArgument
  | invalidSubcommand
  | argumentConflict
  | tooManyValues
  deriving DecidableEq, Repr, Inhabited

/-- The name of a kind. -/
def FailureKind.name : FailureKind → String
  | .displayHelp => "DisplayHelp"
  | .displayHelpOnMissing => "DisplayHelpOnMissingArgumentOrSubcommand"
  | .displayVersion => "DisplayVersion"
  | .missingRequiredArgument => "MissingRequiredArgument"
  | .valueValidation => "ValueValidation"
  | .missingSubcommand => "MissingSubcommand"
  | .invalidValue => "InvalidValue"
  | .unknownArgument => "UnknownArgument"
  | .invalidSubcommand => "InvalidSubcommand"
  | .argumentConflict => "ArgumentConflict"
  | .tooManyValues => "TooManyValues"

/-- A command line that cannot be run, or a request for help or the version. -/
structure Failure where
  kind : FailureKind
  message : String
  deriving Repr, Inhabited

/-- **An error report**: the error, the tips, the usage, and where to read more. -/
def report (kind : FailureKind) (body : String) (tips : List String) (usage : Option String) : Failure :=
  let tipText := if tips.isEmpty then "" else "\n" ++ String.join (tips.map ("\n  tip: " ++ ·))
  let usageText := match usage with
    | some u => "\n\nUsage: " ++ u
    | none => ""
  ⟨kind, "error: " ++ body ++ tipText ++ usageText ++ "\n\nFor more information, try '--help'.\n"⟩

/-- Names between quotes, separated by commas. -/
def quoted (names : List String) : String := ", ".intercalate (names.map fun n => "'" ++ n ++ "'")

/-- The tip naming similar names. -/
def similarTip (what : String) : List String → List String
  | [] => []
  | [n] => ["a similar " ++ what ++ " exists: " ++ quoted [n]]
  | ns => ["some similar " ++ what ++ "s exist: " ++ quoted ns]

/-! ## Values -/

/-- Why a text is not a whole number, as the number reader says it, or its value. -/
def readInteger (s : String) (signed : Bool) : Except String Int :=
  let cs := s.toList
  let (negative, digits) := match cs with
    | '+' :: ds => (false, ds)
    | '-' :: ds => if signed then (true, ds) else (false, cs)
    | ds => (false, ds)
  if cs.isEmpty then .error "cannot parse integer from empty string"
  else if digits.isEmpty || !digits.all Char.isDigit then .error "invalid digit found in string"
  else
    let n : Int := digits.foldl (fun acc c => acc * 10 + (c.toNat - 48)) 0
    let v := if negative then -n else n
    if signed && v > 2 ^ (63 : Nat) - 1 then .error "number too large to fit in target type"
    else if signed && v < -(2 ^ (63 : Nat)) then .error "number too small to fit in target type"
    else if !signed && v ≥ 2 ^ (64 : Nat) then .error "number too large to fit in target type"
    else .ok v

/-- The least and greatest position. -/
def positionRange : String := "1..=4294967295"

/-- The failure of a required value that is missing. -/
def emptyValue (a : Arg) : Failure :=
  report .invalidValue ("a value is required for '" ++ a.display ++ "' but none was supplied") [] none

/-- **Check a value** of an argument. -/
def checkValue (a : Arg) (v : String) : Except Failure Unit :=
  let invalid := fun (shown reason : String) =>
    report .valueValidation ("invalid value '" ++ shown ++ "' for '" ++ a.display ++ "': " ++ reason) [] none
  match a.kind with
  | .text => .ok ()
  | .path => if v.isEmpty then .error (emptyValue a) else .ok ()
  | .position =>
    match readInteger v true with
    | .error why => .error (invalid v why)
    | .ok n => if 1 ≤ n ∧ n ≤ 4294967295 then .ok ()
      else .error (invalid (toString n) (toString n ++ " is not in " ++ positionRange))
  | .count =>
    match readInteger v false with
    | .error why => .error (invalid v why)
    | .ok _ => .ok ()

/-! ## Reading one level -/

/-- What has been read at one level. -/
structure Reading where
  /-- The arguments given, with their values, in order. -/
  given : List (String × String) := []
  /-- The argument whose value was read last and is not checked yet, with that value (none
  while it is still to come). -/
  pending : Option (Arg × Option String) := none
  /-- Whether the next word is the pending option's value. -/
  awaiting : Bool := false
  /-- The place of the next positional argument. -/
  nextIndex : Nat := 0
  /-- Whether `--` was read. -/
  trailing : Bool := false
  deriving Inhabited

/-- The ids of the arguments given. -/
def Reading.used (r : Reading) : List String := r.given.map (·.1)

/-- Whether an argument was given. -/
def Reading.has (r : Reading) (id : String) : Bool := r.given.any (·.1 = id)

variable (p : Program) (lv : Level)

/-- The failure of an argument given twice. -/
def conflict (a : Arg) : Failure :=
  report .argumentConflict ("the argument '" ++ a.display ++ "' cannot be used multiple times") []
    (some (lv.usage p))

/-- **Take a value** for an argument: it must be there, not given before, and valid. -/
def takeValue (r : Reading) (a : Arg) : Option String → Except Failure Reading
  | none => .error (emptyValue a)
  | some v => do
    if !a.isPositional && r.has a.id then throw (conflict p lv a)
    checkValue a v
    pure { r with given := r.given ++ [(a.id, v)] }

/-- **Check the pending value.** -/
def settle (r : Reading) : Except Failure Reading :=
  match r.pending with
  | none => .ok r
  | some (a, v) => takeValue p lv { r with pending := none, awaiting := false } a v

/-- Check the pending value, passing over its failure. -/
def settleQuietly (r : Reading) : Reading :=
  match settle p lv r with
  | .ok r => r
  | .error _ => { r with pending := none, awaiting := false }

/-- **An argument that takes no value** is given, by its long name or not: help and version
stop the reading, help being long when asked for by its long name. -/
def react (r : Reading) (a : Arg) (byLong : Bool) : Except Failure Reading := do
  let r ← settle p lv r
  match a.action with
  | .help => throw ⟨.displayHelp, lv.help p byLong⟩
  | .version => throw ⟨.displayVersion, lv.versionText p⟩
  | _ =>
    if r.has a.id then throw (conflict p lv a)
    pure { r with given := r.given ++ [(a.id, "true")] }

/-- The long names of a level's options. -/
def longNames (lv : Level) : List String := (lv.options p).filterMap (·.long)

/-- The failure of an unknown long option, with what may have been meant. -/
def unknownLong (r : Reading) (name : String) (rest : List String) : Failure :=
  let r := settleQuietly p lv r
  let here := (similar name (longNames p lv)).getLast?
  let elsewhere : Option (String × String) :=
    if here.isSome then none
    else
      let found := (lv.commands p).filterMap fun c =>
        match (similar name (longNames p (.command c))).getLast?, rest.findIdx? (· = c.name) with
        | some flag, some at_ => some (at_, flag, c.name)
        | _, _ => none
      (found.foldl (fun best x => match best with
        | none => some x
        | some b => if x.1 < b.1 then some x else some b) none).map fun (_, flag, c) => (flag, c)
  let suggested := here.bind fun n => (lv.options p).find? (·.long = some n)
  let used := r.used ++ (suggested.map (·.id)).toList
  let trailingTip := here.isNone && !r.trailing && !(lv.positionals p).isEmpty
  let tips := (here.map fun n => "a similar argument exists: '--" ++ n ++ "'").toList ++
    (if trailingTip then ["to pass '--" ++ name ++ "' as a value, use '-- --" ++ name ++ "'"] else []) ++
    (elsewhere.map fun (flag, c) => "'" ++ c ++ " --" ++ flag ++ "' exists").toList
  report .unknownArgument ("unexpected argument '--" ++ name ++ "' found") tips (some (lv.usageOf p used))

/-- The failure of an unknown short option. -/
def unknownShort (r : Reading) (c : Char) : Failure :=
  let name := "-" ++ c.toString
  let tips := if !r.trailing && !(lv.positionals p).isEmpty
    then ["to pass '" ++ name ++ "' as a value, use '-- " ++ name ++ "'"] else []
  report .unknownArgument ("unexpected argument '" ++ name ++ "' found") tips (some (lv.usage p))

/-- The commands of a level by name or alias. -/
def findCommand (lv : Level) (word : String) : Option Command :=
  (lv.commands p).find? fun c => c.name = word || c.aliases.contains word

/-- All the names the commands of a level answer to. -/
def commandNames (lv : Level) : List String := (lv.commands p).flatMap fun c => c.name :: c.aliases

/-- The failure of a word that has no place. -/
def misplaced (r : Reading) (word : String) : Failure :=
  if (lv.commands p).isEmpty then
    report .unknownArgument ("unexpected argument '" ++ word ++ "' found") [] (some (lv.usage p))
  else if r.trailing && (findCommand p lv word).isSome then
    report .unknownArgument "unexpected argument '--' found"
      ["subcommand '" ++ word ++ "' exists; to use it, remove the '--' before it"] (some (lv.usage p))
  else
    report .invalidSubcommand ("unrecognized subcommand '" ++ word ++ "'")
      (similarTip "subcommand" (similar word (commandNames p lv))) (some (lv.usage p))

/-- A cluster of short options after its dash. -/
def readShorts (r : Reading) : List Char → Except Failure Reading
  | [] => .ok r
  | c :: more =>
    match (lv.options p).find? (·.short = some c) with
    | none => .error (unknownShort p lv (settleQuietly p lv r) c)
    | some a =>
      if !a.takesValue then do
        let r ← react p lv r a false
        readShorts r more
      else do
        let r ← settle p lv r
        if more.isEmpty then pure { r with pending := some (a, none), awaiting := true }
        else
          let v := match more with
            | '=' :: v => String.ofList v
            | v => String.ofList v
          takeValue p lv r a (some v)

/-- The help of the levels named by words after `help`. -/
def helpFor (lv : Level) : List String → Failure
  | [] => ⟨.displayHelp, lv.help p true⟩
  | w :: rest =>
    match findCommand p lv w with
    | some c => helpFor (.command c) rest
    | none => report .invalidSubcommand ("unrecognized subcommand '" ++ w ++ "'") [] (some (lv.usage p))

/-- A long option, with its value when written after `=`. -/
def splitLong (body : String) : String × Option String :=
  match body.splitOn "=" with
  | [name] => (name, none)
  | name :: rest => (name, some ("=".intercalate rest))
  | [] => (body, none)

/-- The failure of a flag given a value. -/
def flagWithValue (r : Reading) (a : Arg) (v : String) : Failure :=
  let r := settleQuietly p lv r
  let required := (lv.args p).filter (·.required) |>.map (·.id)
  let used := (r.used.filter fun id => !required.contains id) ++ [a.id]
  report .tooManyValues ("unexpected value '" ++ v ++ "' for '" ++ a.display ++ "' found; no more were expected") []
    (some (lv.usageOf p used))

/-- **Read the words of one level**: the reading, and the command started with the words left
for it, if one was. -/
def readWords (r : Reading) : List String → Except Failure (Reading × Option (Command × List String))
  | [] => .ok (r, none)
  | w :: rest => do
    if !r.trailing && !r.awaiting then
      if let some c := findCommand p lv w then
        if c.name = helpCommand.name then throw (helpFor p .root rest)
        return (r, some (c, rest))
    if !r.trailing && w = "--" then
      readWords { r with trailing := true } rest
    else if !r.trailing && w.startsWith "--" then
      let (name, attached) := splitLong (w.drop 2).toString
      match (lv.options p).find? (·.long = some name) with
      | none => throw (unknownLong p lv r name rest)
      | some a =>
        if a.takesValue then
          let r ← settle p lv r
          match attached with
          | some v => readWords (← takeValue p lv r a (some v)) rest
          | none => readWords { r with pending := some (a, none), awaiting := true } rest
        else
          match attached with
          | some v => throw (flagWithValue p lv r a v)
          | none => readWords (← react p lv r a true) rest
    else if !r.trailing && w.startsWith "-" && w ≠ "-" then
      readWords (← readShorts p lv r (w.toList.drop 1)) rest
    else if !r.trailing && r.awaiting then
      match r.pending with
      | some (a, _) => readWords { r with pending := some (a, some w), awaiting := false } rest
      | none => readWords { r with awaiting := false } rest
    else
      match (lv.positionals p).find? (·.index = some r.nextIndex) with
      | none => throw (misplaced p lv (settleQuietly p lv r) w)
      | some a =>
        let r ← settle p lv r
        readWords { r with pending := some (a, some w), nextIndex := r.nextIndex + 1 } rest

/-- **Finish a level**: check the pending value and the required arguments. -/
def finish (r : Reading) : Except Failure Reading := do
  let r ← settle p lv r
  let missing := (lv.positionals p).filter fun a => a.required && !r.has a.id
  if !missing.isEmpty then
    throw (report .missingRequiredArgument
      ("the following required arguments were not provided:" ++
        String.join (missing.map fun a => "\n  " ++ a.form true)) []
      (some (lv.usageOf p (r.used ++ missing.map (·.id)))))
  pure r

/-- A command line read: the program's arguments, the command, and the command's arguments. -/
structure Parsed where
  globals : List (String × String)
  command : Command
  args : List (String × String)
  deriving Inhabited

/-- **Read a command line** (without the program's name). -/
def parse (words : List String) : Except Failure Parsed := do
  let (top, started) ← readWords p .root {} words
  match started with
  | some (c, rest) =>
    let (r, _) ← readWords p (.command c) {} rest
    let r ← finish p (.command c) r
    let top ← finish p .root top
    pure { globals := top.given, command := c, args := r.given }
  | none =>
    let top ← settle p .root top
    if top.given.isEmpty then throw ⟨.displayHelpOnMissing, Level.help p .root false⟩
    throw (report .missingSubcommand
      ("'" ++ p.name ++ "' requires a subcommand but one was not provided\n  [subcommands: " ++
        ", ".intercalate (commandNames p .root) ++ "]") [] (some (Level.usage p .root)))

end CrossRef.Cli
