import CrossRef.Cli.Spec
/-!
Help and usage texts.

A level of the command line is the program itself or one of its commands. Its help is its
description, a usage line, and sections: `Commands` (the program's commands, with their
aliases, and `help`), `Arguments` (positional ones) and `Options`, then any text after them.
Short help puts each description beside its argument, aligned two spaces after the longest;
long help, for a level that has a longer description, puts each on the next line, indented by
ten spaces, with a blank line between arguments.

A usage line names the level (`kondex at`), then `[OPTIONS]` when there are options, then the
positional arguments, required ones as `<NAME>` and others as `[NAME]`, then `<COMMAND>` for
the program. The usage shown with an error is narrowed to what the command line used: the
options given, then every positional argument, those required or given as `<NAME>`.
-/

namespace CrossRef.Cli

/-- A level of the command line. -/
inductive Level where
  | root
  | command (c : Command)
  deriving Inhabited

/-- The command the parser adds to the program for help on the others. -/
def helpCommand : Command where
  name := "help"
  about := "Print this message or the help of the given subcommand(s)"
  args := [
    { id := "subcommand", valueName := some "COMMAND", help := "Print help for the subcommand(s)",
      index := some 0, many := true }]

namespace Level

variable (p : Program)

/-- Whether a level has a longer help than its short one. -/
def hasLongHelp : Level → Bool
  | .root => p.longAbout.isSome
  | .command _ => false

/-- The name a level's usage starts with. -/
def binName : Level → String
  | .root => p.name
  | .command c => p.name ++ " " ++ c.name

/-- The name a level's version is printed with. -/
def displayName : Level → String
  | .root => p.name
  | .command c => p.name ++ "-" ++ c.name

/-- The arguments of a level, with those the parser adds. -/
def args : Level → List Arg
  | .root => p.globals ++ [helpArg p.longAbout.isSome, versionArg]
  | .command c =>
    if c.name = helpCommand.name then c.args
    else c.args ++ p.globals ++ [helpArg false, versionArg]

/-- The commands under a level, with `help` last. -/
def commands : Level → List Command
  | .root => p.commands ++ [helpCommand]
  | .command _ => []

/-- The short description. -/
def about : Level → String
  | .root => p.about
  | .command c => c.about

/-- The description for a help of the given length. -/
def description (lv : Level) (long : Bool) : String :=
  match lv, long with
  | .root, true => p.longAbout.getD p.about
  | lv, _ => lv.about p

/-- The text after the sections. -/
def afterHelp : Level → Option String
  | .root => none
  | .command c => c.afterHelp

/-- The positional arguments, in order. -/
def positionals (lv : Level) : List Arg := (lv.args p).filter Arg.isPositional

/-- The options and flags. -/
def options (lv : Level) : List Arg := (lv.args p).filter (!·.isPositional)

/-- Whether usage shows `[OPTIONS]`: some option other than help and version. -/
def needsOptionsTag (lv : Level) : Bool :=
  (lv.options p).any fun a => a.long != some "help" && a.long != some "version" && !a.required

end Level

/-! ## Usage -/

/-- Text without its trailing white space. -/
def trimEnd (s : String) : String := String.ofList (s.toList.reverse.dropWhile Char.isWhitespace).reverse

/-- The positional arguments of a usage line: required and used ones as `<NAME>`, others as
`[NAME]`. -/
def positionalForms (args : List Arg) (used : List String) : List String :=
  args.map fun a => a.form (a.required || used.contains a.id)

/-- **The full usage** of a level. -/
def Level.usage (p : Program) (lv : Level) : String :=
  let parts := [lv.binName p] ++ (if lv.needsOptionsTag p then ["[OPTIONS]"] else []) ++
    positionalForms (lv.positionals p) [] ++ (match lv with | .root => ["<COMMAND>"] | _ => [])
  trimEnd (" ".intercalate parts)

/-- **The usage narrowed to what was used**: the options used, in the order they were given,
then the positional arguments. -/
def Level.usageOf (p : Program) (lv : Level) (used : List String) : String :=
  if used.isEmpty then lv.usage p
  else
    let opts := (used.eraseDups.filterMap fun id => (lv.options p).find? (·.id = id)).map (·.form true)
    let parts := [lv.binName p] ++ opts ++ positionalForms (lv.positionals p) used ++
      (match lv with | .root => ["<COMMAND>"] | _ => [])
    trimEnd (" ".intercalate parts)

/-! ## Help -/

/-- `n` spaces. -/
def pad (n : Nat) : String := String.ofList (List.replicate n ' ')

/-- The notes after an argument's help: its default value. -/
def Arg.notes (a : Arg) : String :=
  match a.default with
  | some d => "[default: " ++ d ++ "]"
  | none => ""

/-- A description with its notes. -/
def withNotes (text notes sep : String) : String :=
  if notes.isEmpty then text else if text.isEmpty then notes else text ++ sep ++ notes

/-- How an argument starts its help line: its short form, a comma, its long form, and the
placeholder of its value. -/
def Arg.lead (a : Arg) : String :=
  let short := match a.short with
    | some c => "-" ++ c.toString
    | none => if a.long.isSome then "    " else ""
  let long := match a.long with
    | some l => (if a.short.isSome then ", " else "") ++ "--" ++ l
    | none => ""
  let value :=
    if a.isPositional then a.placeholder a.required
    else if a.takesValue then " " ++ a.placeholder true
    else ""
  short ++ long ++ value

/-- Whether an argument counts for the alignment of a section. -/
def Arg.aligns (a : Arg) : Bool := a.takesValue || a.long.isSome || a.short.isNone

/-- **A section of arguments**, short or long. -/
def argLines (args : List Arg) (long : Bool) : String :=
  let longest := args.foldl (fun m a => if a.aligns then max m a.display.length else m) 2
  let line := fun (a : Arg) =>
    if long then
      "  " ++ a.lead ++ "\n" ++ pad 10 ++ withNotes (a.longHelp.getD a.help) a.notes "\n\n"
    else
      let padding := if a.isPositional then longest + 2 - a.display.length
        else if a.long.isSome then longest + 2 - a.display.length
        else longest + 6 - a.display.length
      "  " ++ a.lead ++ pad padding ++ withNotes a.help a.notes " "
  (if long then "\n\n" else "\n").intercalate (args.map line)

/-- The aliases of a command, as its help line notes them. -/
def Command.notes (c : Command) : String :=
  match c.aliases with
  | [] => ""
  | [a] => "[alias: " ++ a ++ "]"
  | as => "[aliases: " ++ ", ".intercalate as ++ "]"

/-- The section of commands. -/
def commandLines (cs : List Command) : String :=
  let longest := cs.foldl (fun m c => max m c.name.length) 2
  "\n".intercalate (cs.map fun c => "  " ++ c.name ++ pad (longest + 2 - c.name.length) ++
    withNotes c.about c.notes " ")

/-- Drop the first line of a text when it is blank. -/
def dropBlankFirstLine (s : String) : String :=
  match s.splitOn "\n" with
  | first :: rest@(_ :: _) => if first.trimAscii.isEmpty then "\n".intercalate rest else s
  | _ => s

/-- **The help of a level**, long when asked for and the level has a longer one. -/
def Level.help (p : Program) (lv : Level) (long : Bool) : String :=
  let long := long && lv.hasLongHelp p
  let sortedOptions := (lv.options p).mergeSort fun a b =>
    a.sortKey.1 < b.sortKey.1 || (a.sortKey.1 == b.sortKey.1 && a.sortKey.2 ≤ b.sortKey.2)
  let sections :=
    (if (lv.commands p).isEmpty then [] else ["Commands:\n" ++ commandLines (lv.commands p)]) ++
    (if (lv.positionals p).isEmpty then [] else ["Arguments:\n" ++ argLines (lv.positionals p) long]) ++
    (if sortedOptions.isEmpty then [] else ["Options:\n" ++ argLines sortedOptions long])
  let text := lv.description p long ++ "\n\nUsage: " ++ lv.usage p ++ "\n\n" ++ "\n\n".intercalate sections ++
    (match lv.afterHelp with | some t => "\n\n" ++ t | none => "")
  trimEnd (dropBlankFirstLine text) ++ "\n"

/-- The version line of a level. -/
def Level.versionText (p : Program) (lv : Level) : String := lv.displayName p ++ " " ++ p.version ++ "\n"

end CrossRef.Cli
