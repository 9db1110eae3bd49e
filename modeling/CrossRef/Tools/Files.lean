import CrossRef.Tools.Basic
/-!
Tools that change the host's files, and `ls`, which lists them.

`touch` makes empty files, `mkdir` and `rmdir` make and remove directories, `rm` removes files
(and trees, with `-r`), `cp` and `mv` copy and move files and trees, and `chmod` changes modes.
Each works operand by operand: a failure is said (`rm: cannot remove 'x': No such file or
directory`), makes the status 1, and the next operand is still done. A failure names the reason
the operating system gives: `ENOTDIR` when something on the way to a path is not a directory,
`ENOENT` when something on the way, or the path itself, is missing.

Of a file's mode the host keeps only whether it may be executed. `chmod` works on the whole
mode, taking a file to be `0755` when it may be executed and `0644` when not, and keeps whether
any execute bit is left: the superuser, who runs everything here, may execute a file exactly
then.

`ls` writes what it lists one name a line (`-m` separates them with commas), names sorted
byte by byte: the operands that are not directories first, then each directory's entries under
its name. Hidden names (starting with a dot) are shown only with `-a` or `-A`.

This module belongs to the simulated test host that one-shot analyzer commands run on, not to
the library's program: the program reaches the host only through `Cli.Machine` and
`Host.System`, and no theorem of the library is about this module.
-/

namespace CrossRef.Tools

open CrossRef.Host

/-- The host's files as they are now. -/
def currentFiles : ToolM Files := do return (← host get).files

/-- Change the host's files. -/
def changeFiles (f : Files → Files) : ToolM Unit := host (modify fun s => { s with files := f s.files })

/-- Say that something failed for a name, and why. -/
def failFor (what : String) (name : Bytes) (e : Errno) : ToolM Unit :=
  complain (txt what ++ quoteName name ++ txt ": " ++ txt e.text)

/-- Say that operands are missing, with the hint that follows, and fail with a status. -/
def missingOperand (what : Bytes) (status : Nat) : ToolM Exit := do
  complain what
  tryHelp
  return .code status

/-- A name joined to a directory's name as given: with a slash between, unless it ends with one. -/
def underName (dir name : Bytes) : Bytes :=
  if dir.getLast? == some 47 then dir ++ name else dir ++ [47] ++ name

/-! ## Making and removing -/

/-- **`touch`**: make each file named that is missing, empty; one there is left as it is. -/
def touch : ToolM Exit := do
  let spec : OptSpec := {
    short := [(97, false), (99, false), (109, false), (104, false), (100, true), (116, true), (114, true)]
    long := [("no-create", false, 99), ("no-dereference", false, 104), ("date", true, 100),
      ("reference", true, 114), ("time", true, 84)] }
  let some (opts, names) ← options spec (← proc).argv.tail | return .code 1
  if names.isEmpty then return ← missingOperand (txt "missing file operand") 1
  let mut st := 0
  for n in names do
    if n == [45] then continue
    let path ← pathOf n
    let fs ← currentFiles
    if fs.present path || given opts 99 then continue
    match fs.wayProblem path with
    | some e =>
      failFor "cannot touch " n e
      st := 1
    | none => changeFiles (·.put path (.file .empty false))
  finish st

/-- The names of the directories on the way to a name, as written: each up to a slash that ends
a component, then the whole name. -/
def waysOf (name : Bytes) : List Bytes :=
  let cuts := (List.range name.length).filter fun i =>
    name.getD i 0 == 47 && i > 0 && name.getD (i - 1) 0 != 47
  (cuts.map name.take).filter (· != name) ++ [name]

/-- **`mkdir`**: make each directory named; with `-p`, the directories on the way too, and one
that is there is no failure. -/
def mkdir : ToolM Exit := do
  let spec : OptSpec := {
    short := [(112, false), (118, false), (109, true)]
    long := [("parents", false, 112), ("verbose", false, 118), ("mode", true, 109)] }
  let some (opts, names) ← options spec (← proc).argv.tail | return .code 1
  if names.isEmpty then return ← missingOperand (txt "missing operand") 1
  let verbose := given opts 118
  let mut st := 0
  for n in names do
    if given opts 112 then
      let ways := waysOf n
      let mut failed := false
      for w in ways do
        if failed then continue
        let path ← pathOf w
        let fs ← currentFiles
        if fs.isDir path then continue
        if (fs.node? path).isSome then
          failFor "cannot create directory " w (if w == n then .fileExists else .notDirectory)
          failed := true
        else
          changeFiles (·.mkdir path)
          if verbose then put (txt "mkdir: created directory " ++ quoteName w ++ [10])
      if failed then st := 1
    else
      let path ← pathOf n
      let fs ← currentFiles
      if fs.present path then
        failFor "cannot create directory " n .fileExists
        st := 1
      else match fs.wayProblem path with
        | some e =>
          failFor "cannot create directory " n e
          st := 1
        | none =>
          changeFiles (·.mkdir path)
          if verbose then put (txt "mkdir: created directory " ++ quoteName n ++ [10])
  finish st

/-- **`rmdir`**: remove each directory named, which must be empty. -/
def rmdir : ToolM Exit := do
  let spec : OptSpec := {
    short := [(112, false), (118, false)]
    long := [("parents", false, 112), ("verbose", false, 118), ("ignore-fail-on-non-empty", false, 73)] }
  let some (opts, names) ← options spec (← proc).argv.tail | return .code 1
  if names.isEmpty then return ← missingOperand (txt "missing operand") 1
  let mut st := 0
  for n in names do
    let targets := if given opts 112 then (waysOf n).reverse else [n]
    let mut stop := false
    for t in targets do
      if stop then continue
      let path ← pathOf t
      let fs ← currentFiles
      if given opts 118 then put (txt "rmdir: removing directory, " ++ quoteName t ++ [10])
      if (fs.node? path).isSome then
        failFor "failed to remove " t .notDirectory
        st := 1
        stop := true
      else if !fs.isDir path then
        failFor "failed to remove " t (fs.missing path)
        st := 1
        stop := true
      else if !(fs.list path).isEmpty then
        if !given opts 73 then
          failFor "failed to remove " t .notEmpty
          st := 1
        stop := true
      else changeFiles (·.remove path)
  finish st

/-- The names under a directory, files and directories, each before the directory holding it is
done with: the order a tree is removed in. -/
def treeOrder (fs : Files) : Nat → String → Bytes → List (Bytes × Bool)
  | 0, _, _ => []
  | k + 1, path, shown =>
    let names := (fs.list path).mergeSort fun a b => !decide (b < a)
    names.flatMap (fun n =>
      let p := if path == "/" then "/" ++ n else path ++ "/" ++ n
      if (fs.node? p).isNone && fs.isDir p then treeOrder fs k p (underName shown (txt n))
      else [(underName shown (txt n), false)]) ++ [(shown, true)]

/-- **`rm`**: remove each file named; with `-r`, directories and all they hold; with `-d`,
empty directories; with `-f`, a missing one is no failure. -/
def rm : ToolM Exit := do
  let spec : OptSpec := {
    short := [(102, false), (105, false), (73, false), (114, false), (82, false), (100, false), (118, false)]
    long := [("force", false, 102), ("recursive", false, 114), ("dir", false, 100),
      ("verbose", false, 118), ("interactive", false, 105), ("preserve-root", false, 80),
      ("no-preserve-root", false, 78)] }
  let some (opts, names) ← options spec (← proc).argv.tail | return .code 1
  let force := given opts 102
  let recursive := given opts 114 || given opts 82
  let verbose := given opts 118
  if names.isEmpty then
    if force then return ← finish 0
    return ← missingOperand (txt "missing operand") 1
  let mut st := 0
  for n in names do
    let last := lastComponent n
    if recursive && (last == [46] || last == [46, 46]) then
      complain (txt "refusing to remove '.' or '..' directory: skipping " ++ quoteName n)
      st := 1
      continue
    let path ← pathOf n
    if recursive && path == "/" then
      complain (txt "it is dangerous to operate recursively on '/'")
      complain (txt "use --no-preserve-root to override this failsafe")
      st := 1
      continue
    let fs ← currentFiles
    if (fs.node? path).isSome then
      changeFiles (·.remove path)
      if verbose then put (txt "removed " ++ quoteName n ++ [10])
    else if fs.isDir path then
      if recursive then
        changeFiles (·.removeTree path)
        if verbose then
          for (shown, dir) in treeOrder fs (fs.entries.length + fs.dirs.length + 1) path n do
            put (txt (if dir then "removed directory " else "removed ") ++ quoteName shown ++ [10])
      else if given opts 100 then
        if (fs.list path).isEmpty then
          changeFiles (·.remove path)
          if verbose then put (txt "removed directory " ++ quoteName n ++ [10])
        else
          failFor "cannot remove " n .notEmpty
          st := 1
      else
        failFor "cannot remove " n .isDirectory
        st := 1
    else if !force then
      failFor "cannot remove " n (fs.missing path)
      st := 1
  finish st

/-! ## Copying and moving -/

/-- The sources and the target of `cp` or `mv`, and whether the sources go into the target as
a directory; or the failure to say. -/
def copyOperands (opts : List (UInt8 × Bytes)) (names : List Bytes) :
    ToolM (Except Exit (List Bytes × Bytes × Bool)) := do
  let fs ← currentFiles
  match opts.find? (·.1 == 116) with
  | some (_, t) =>
    if names.isEmpty then return .error (← missingOperand (txt "missing file operand") 1)
    let tpath ← pathOf t
    if !fs.isDir tpath then
      if fs.present tpath then complain (txt "target " ++ quoteName t ++ txt " is not a directory")
      else failFor "target " t (fs.missing tpath)
      return .error (.code 1)
    return .ok (names, t, true)
  | none =>
    match names.reverse with
    | [] => return .error (← missingOperand (txt "missing file operand") 1)
    | [n] => return .error (← missingOperand (txt "missing destination file operand after " ++ quoteName n) 1)
    | t :: rest =>
      let sources := rest.reverse
      let tpath ← pathOf t
      let isDir := fs.isDir tpath && !given opts 84
      if sources.length > 1 && !isDir then
        if fs.present tpath then complain (txt "target " ++ quoteName t ++ txt " is not a directory")
        else failFor "target " t (fs.missing tpath)
        return .error (.code 1)
      return .ok (sources, t, isDir)

/-- **`cp`**: copy files, or with `-r` trees, to a target, or into it when it is a directory. -/
def cp : ToolM Exit := do
  let spec : OptSpec := {
    short := [(114, false), (82, false), (97, false), (112, false), (102, false), (105, false),
      (110, false), (118, false), (84, false), (116, true), (100, false), (80, false), (76, false),
      (72, false), (117, false), (120, false)]
    long := [("recursive", false, 114), ("archive", false, 97), ("force", false, 102),
      ("interactive", false, 105), ("no-clobber", false, 110), ("verbose", false, 118),
      ("no-target-directory", false, 84), ("target-directory", true, 116),
      ("no-dereference", false, 80), ("dereference", false, 76), ("update", false, 117)] }
  let some (opts, names) ← options spec (← proc).argv.tail | return .code 1
  let (sources, target, intoDir) ← match ← copyOperands opts names with
    | .error e => return e
    | .ok r => pure r
  let recursive := given opts 114 || given opts 82 || given opts 97
  let keepMode := given opts 112 || given opts 97
  let mut st := 0
  for src in sources do
    let spath ← pathOf src
    let fs ← currentFiles
    if !fs.present spath then
      failFor "cannot stat " src (fs.missing spath)
      st := 1
      continue
    let dest := if intoDir then underName target (lastComponent src) else target
    let dpath ← pathOf dest
    if (fs.node? spath).isNone then
      if !recursive then
        complain (txt "-r not specified; omitting directory " ++ quoteName src)
        st := 1
      else if dpath == spath || Files.isUnder spath dpath then
        complain (txt "cannot copy a directory, " ++ quoteName src ++ txt ", into itself, " ++ quoteName dest)
        st := 1
      else if (fs.node? dpath).isSome then
        complain (txt "cannot overwrite non-directory " ++ quoteName dest ++ txt " with directory " ++ quoteName src)
        st := 1
      else match (if fs.isDir dpath then none else fs.wayProblem dpath) with
        | some e =>
          failFor "cannot create directory " dest e
          st := 1
        | none =>
          changeFiles (·.copyTree spath dpath)
          if given opts 118 then put (quoteName src ++ txt " -> " ++ quoteName dest ++ [10])
    else if dpath == spath then
      complain (quoteName src ++ txt " and " ++ quoteName dest ++ txt " are the same file")
      st := 1
    else if fs.isDir dpath then
      complain (txt "cannot overwrite directory " ++ quoteName dest ++ txt " with non-directory")
      st := 1
    else match fs.wayProblem dpath with
      | some e =>
        failFor "cannot create regular file " dest e
        st := 1
      | none =>
        let node : Node := match fs.node? spath, fs.node? dpath with
          | some (.file b x), some (.file _ y) => .file b (if keepMode then x else y)
          | some (.file b x), _ => .file b x
          | some (.program p), _ => .program p
          | _, some (.file _ y) => .file .empty y
          | _, _ => .file .empty false
        changeFiles (·.put dpath node)
        if given opts 118 then put (quoteName src ++ txt " -> " ++ quoteName dest ++ [10])
  finish st

/-- **`mv`**: move files and trees to a target, or into it when it is a directory. -/
def mv : ToolM Exit := do
  let spec : OptSpec := {
    short := [(102, false), (105, false), (110, false), (118, false), (84, false), (116, true), (117, false)]
    long := [("force", false, 102), ("interactive", false, 105), ("no-clobber", false, 110),
      ("verbose", false, 118), ("no-target-directory", false, 84), ("target-directory", true, 116),
      ("update", false, 117)] }
  let some (opts, names) ← options spec (← proc).argv.tail | return .code 1
  let (sources, target, intoDir) ← match ← copyOperands opts names with
    | .error e => return e
    | .ok r => pure r
  let mut st := 0
  for src in sources do
    let spath ← pathOf src
    let fs ← currentFiles
    if !fs.present spath then
      failFor "cannot stat " src (fs.missing spath)
      st := 1
      continue
    let dest := if intoDir then underName target (lastComponent src) else target
    let dpath ← pathOf dest
    let moveFail (e : Errno) : ToolM Unit :=
      complain (txt "cannot move " ++ quoteName src ++ txt " to " ++ quoteName dest ++ txt ": " ++ txt e.text)
    if dpath == spath then
      complain (quoteName src ++ txt " and " ++ quoteName dest ++ txt " are the same file")
      st := 1
    else if (fs.node? spath).isNone then
      if Files.isUnder spath dpath then
        complain (txt "cannot move " ++ quoteName src ++ txt " to a subdirectory of itself, " ++ quoteName dest)
        st := 1
      else if (fs.node? dpath).isSome then
        complain (txt "cannot overwrite non-directory " ++ quoteName dest ++ txt " with directory " ++ quoteName src)
        st := 1
      else if fs.isDir dpath && !(fs.list dpath).isEmpty then
        moveFail .notEmpty
        st := 1
      else match (if fs.isDir dpath then none else fs.wayProblem dpath) with
        | some e =>
          moveFail e
          st := 1
        | none =>
          changeFiles fun fs => (fs.copyTree spath dpath).removeTree spath
          if given opts 118 then put (txt "renamed " ++ quoteName src ++ txt " -> " ++ quoteName dest ++ [10])
    else if fs.isDir dpath then
      complain (txt "cannot overwrite directory " ++ quoteName dest ++ txt " with non-directory")
      st := 1
    else match fs.wayProblem dpath, fs.node? spath with
      | some e, _ =>
        moveFail e
        st := 1
      | none, some node =>
        changeFiles fun fs => (fs.remove spath).put dpath node
        if given opts 118 then put (txt "renamed " ++ quoteName src ++ txt " -> " ++ quoteName dest ++ [10])
      | none, none => pure ()
  finish st

/-! ## Modes -/

/-- One change of a symbolic mode: the bits it is for (none for all, less the mask), how it
changes them (`+`, `-` or `=`), the bits it sets, and whether it copies the bits of a class
(`u`, `g` or `o`) or gives execute bits only where some are set (`X`). -/
structure ModeChange where
  who : Nat
  op : UInt8
  bits : Nat
  copy : Bool := false
  executeIfAny : Bool := false
  deriving Inhabited

/-- The bits of a class letter: its read, write and execute bits with its special bit. -/
def classBits (c : UInt8) : Nat :=
  match c with
  | 117 => 0o4700
  | 103 => 0o2070
  | 111 => 0o1007
  | _ => 0o7777

/-- Read the changes of a clause after its class letters: each an operator with its permission
letters or a class to copy. -/
def modeActions (who : Nat) : Nat → Bytes → List ModeChange → Option (List ModeChange × Bytes)
  | 0, _, _ => none
  | k + 1, op :: rest, acc =>
    if op != 43 && op != 45 && op != 61 then some (acc.reverse, op :: rest)
    else
      match rest with
      | c :: more =>
        if c == 117 || c == 103 || c == 111 then
          modeActions who k more ({ who, op, bits := c.toNat, copy := true } :: acc)
        else
          let perms := rest.takeWhile fun c => (txt "rwxXst").contains c
          let bits := perms.foldl (fun b c =>
            b ||| (match c with
              | 114 => 0o444
              | 119 => 0o222
              | 120 => 0o111
              | 115 => 0o6000
              | 116 => 0o1000
              | _ => 0)) 0
          modeActions who k (rest.drop perms.length)
            ({ who, op, bits, executeIfAny := perms.contains 88 } :: acc)
      | [] => modeActions who k [] ({ who, op, bits := 0 } :: acc)
  | _ + 1, [], acc => some (acc.reverse, [])

/-- **Read a symbolic mode**: clauses separated by commas, each class letters then one or more
changes. -/
def symbolicMode : Nat → Bytes → List ModeChange → Option (List ModeChange)
  | 0, _, _ => none
  | k + 1, text, acc =>
    let letters := text.takeWhile fun c => (txt "ugoa").contains c
    let who := letters.foldl (fun w c => w ||| classBits c) 0
    match modeActions who (text.length + 1) (text.drop letters.length) [] with
    | none => none
    | some ([], _) => none
    | some (cs, rest) =>
      match rest with
      | [] => some (acc ++ cs)
      | 44 :: more => symbolicMode k more (acc ++ cs)
      | _ => none

/-- **Read a mode**: octal digits up to `7777`, set exactly, or a symbolic mode. -/
def readMode (text : Bytes) : Option (List ModeChange) :=
  if !text.isEmpty && text.all (fun c => 48 ≤ c && c ≤ 55) then
    let n := text.foldl (fun n c => n * 8 + (c - 48).toNat) 0
    if n ≤ 0o7777 then some [{ who := 0o7777, op := 61, bits := n }] else none
  else symbolicMode (text.length + 1) text []

/-- The bits of a mode under the class of another: `u`, `g` or `o` read as all three classes. -/
def copiedBits (mode : Nat) (c : Nat) : Nat :=
  let part := match c with
    | 117 => (mode >>> 6) &&& 7
    | 103 => (mode >>> 3) &&& 7
    | _ => mode &&& 7
  part * 0o111

/-- A mode with some bits cleared. -/
def clearBits (mode bits : Nat) : Nat := mode - (mode &&& bits)

/-- **Apply mode changes** to a mode; a change for no class leaves the bits of the mask
(`0022`) alone. -/
def applyMode (dir : Bool) (mode : Nat) : List ModeChange → Nat
  | [] => mode
  | c :: cs =>
    let value := if c.copy then copiedBits mode c.bits
      else if c.executeIfAny && (dir || mode &&& 0o111 != 0) then c.bits ||| 0o111
      else c.bits
    let scope := if c.who == 0 then clearBits 0o7777 0o022 else c.who
    let value := value &&& scope
    let mode := match c.op with
      | 43 => mode ||| value
      | 45 => clearBits mode value
      | _ => (if c.who == 0 then 0 else clearBits mode c.who) ||| value
    applyMode dir mode cs

/-- Change the mode of what a path holds; of a file the host keeps whether it may be executed. -/
def changeMode (changes : List ModeChange) (fs : Files) (path : String) : Files :=
  match fs.node? path with
  | some (.file b x) =>
    let mode := applyMode false (if x then 0o755 else 0o644) changes
    fs.put path (.file b (mode &&& 0o111 != 0))
  | _ => fs

/-- **`chmod`**: change the modes of files, with `-R` of trees. A mode may come as options
(`chmod -x f`). -/
def chmod : ToolM Exit := do
  let args := (← proc).argv.tail
  -- options that are modes (`-x`, `-rw`) are read as the mode
  let isModeOption (a : Bytes) : Bool := match a with
    | 45 :: c :: _ => (txt "rwxXstugoa,+=01234567").contains c
    | _ => false
  let before := args.takeWhile (· != [45, 45])
  let modeWords := before.filter isModeOption
  let rest := before.filter (!isModeOption ·) ++ args.drop (before.length)
  let spec : OptSpec := {
    short := [(82, false), (99, false), (102, false), (118, false)]
    long := [("recursive", false, 82), ("changes", false, 99), ("silent", false, 102),
      ("quiet", false, 102), ("verbose", false, 118), ("reference", true, 114)] }
  let some (opts, operands) ← options spec rest | return .code 1
  let (mode, names) := if modeWords.isEmpty then (operands.head?, operands.drop 1)
    else (some (modeWords.tail.foldl (fun m w => m ++ [44] ++ w) (modeWords.headD [])), operands)
  match mode with
  | none => missingOperand (txt "missing operand") 1
  | some m =>
    if names.isEmpty then return ← missingOperand (txt "missing operand after " ++ quoteLocale m) 1
    match readMode m with
    | none => missingOperand (txt "invalid mode: " ++ quoteLocale m) 1
    | some changes =>
      let mut st := 0
      for n in names do
        let path ← pathOf n
        let fs ← currentFiles
        if !fs.present path then
          failFor "cannot access " n (fs.missing path)
          st := 1
        else
          changeFiles fun fs =>
            let under := if given opts 82 then (fs.entries.filter fun e => Files.isUnder path e.1).map (·.1) else []
            (path :: under).foldl (changeMode changes) fs
      finish st

/-! ## Listing -/

/-- How `ls` lists. -/
structure Listing where
  /-- `-a`: every entry, `.` and `..` too. -/
  all : Bool := false
  /-- `-A`: every entry but `.` and `..`. -/
  almostAll : Bool := false
  /-- `-d`: directories named are listed as themselves. -/
  themselves : Bool := false
  /-- `-F`: a mark after each name for its kind; `-p`: a slash after directories only. -/
  classify : Bool := false
  slash : Bool := false
  reverse : Bool := false
  recursive : Bool := false
  bySize : Bool := false
  commas : Bool := false
  deriving Inhabited

/-- The order of names: byte by byte, or by size, largest first, then by name. -/
def sortNames (l : Listing) (sizeOf : String → Nat) (names : List String) : List String :=
  let sorted := names.mergeSort fun a b =>
    if l.bySize && sizeOf a != sizeOf b then sizeOf a > sizeOf b else !decide (b < a)
  if l.reverse then sorted.reverse else sorted

/-- The size of what a path holds. -/
def sizeAt (fs : Files) (path : String) : Nat :=
  match fs.node? path with
  | some (.file b _) => b.size
  | some (.program p) => p.length
  | _ => 4096

/-- The mark after a name for what it is: `/` for a directory, `*` for a file that may be
executed. -/
def kindMark (l : Listing) (fs : Files) (path : String) : String :=
  if !(l.classify || l.slash) then ""
  else match fs.node? path with
    | some (.file _ true) | some (.program _) => if l.classify then "*" else ""
    | some _ => ""
    | none => if fs.isDir path then "/" else ""

/-- A path inside a directory. -/
def inside (dir name : String) : String :=
  if name == "." then dir else if name == ".." then parentOf dir
  else if dir == "/" then "/" ++ name else dir ++ "/" ++ name

/-- The entries of a directory a listing shows: hidden ones only with `-a` or `-A`, and `.` and
`..` with `-a`. -/
def shownEntries (l : Listing) (fs : Files) (dir : String) : List String :=
  let names := fs.list dir
  let names := if l.all || l.almostAll then names else names.filter (!·.startsWith ".")
  if l.all then "." :: ".." :: names else names

/-- **The sections of a directory's listing**: its name as shown and its entries, then with
`-R` those of the directories in it, depth first. -/
def sections (l : Listing) (fs : Files) : Nat → String → String → List (String × List String)
  | 0, _, _ => []
  | k + 1, shown, dir =>
    let names := sortNames l (fun n => sizeAt fs (inside dir n)) (shownEntries l fs dir)
    let here := (shown, names.map fun n => n ++ kindMark l fs (inside dir n))
    if l.recursive then
      let subs := names.filter fun n =>
        n != "." && n != ".." && (fs.node? (inside dir n)).isNone && fs.isDir (inside dir n)
      here :: subs.flatMap fun n =>
        sections l fs k (if shown.endsWith "/" then shown ++ n else shown ++ "/" ++ n) (inside dir n)
    else [here]

/-- Names separated by commas, a line ending before a name that would pass 80 columns. -/
def commaLines (names : List String) : String :=
  if names.isEmpty then "" else
  let (text, _) := names.foldl (fun (acc : String × Nat) n =>
    let (text, pos) := acc
    if text.isEmpty && pos == 0 then (n, n.length)
    else if pos + n.length + 2 < 80 then (text ++ ", " ++ n, pos + 2 + n.length)
    else (text ++ ",\n" ++ n, n.length)) ("", 0)
  text ++ "\n"

/-- Names one a line, or separated by commas. -/
def nameLines (l : Listing) (names : List String) : String :=
  if l.commas then commaLines names else String.join (names.map (· ++ "\n"))

/-- **`ls`**: list files, and the entries of directories. -/
def ls : ToolM Exit := do
  let spec : OptSpec := {
    short := [(97, false), (65, false), (100, false), (70, false), (112, false), (114, false),
      (82, false), (83, false), (109, false), (49, false), (85, false)]
    long := [("all", false, 97), ("almost-all", false, 65), ("directory", false, 100),
      ("classify", false, 70), ("reverse", false, 114), ("recursive", false, 82)] }
  let some (opts, names) ← options spec (← proc).argv.tail | return .code 2
  let l : Listing := {
    all := given opts 97, almostAll := given opts 65, themselves := given opts 100,
    classify := given opts 70, slash := given opts 112, reverse := given opts 114,
    recursive := given opts 82, bySize := given opts 83, commas := given opts 109 }
  let operands := if names.isEmpty then [txt "."] else names
  let fs ← currentFiles
  let mut st := 0
  let mut files : List String := []
  let mut dirs : List String := []
  for n in operands do
    let path ← pathOf n
    if !fs.present path then
      failFor "cannot access " n (fs.missing path)
      st := 2
    else if (fs.node? path).isNone && !l.themselves then dirs := dirs ++ [Bytes.text n]
    else files := files ++ [Bytes.text n]
  let cwd := (← proc).cwd
  let fileNames := sortNames l (fun n => sizeAt fs (resolve cwd n)) files
  let dirNames := sortNames l (fun n => sizeAt fs (resolve cwd n)) dirs
  let fuel := fs.dirs.length + fs.entries.length + 2
  let secs := dirNames.flatMap fun d => sections l fs fuel d (resolve cwd d)
  let named := l.recursive || !fileNames.isEmpty || names.length > 1
  let fileText := if fileNames.isEmpty then "" else
    nameLines l (fileNames.map fun n => n ++ kindMark l fs (resolve cwd n))
  let secTexts := secs.map fun (shown, entries) =>
    (if named then shown ++ ":\n" else "") ++ (if entries.isEmpty && !l.commas then "" else nameLines l entries)
  let parts := (if fileNames.isEmpty then [] else [fileText]) ++ secTexts
  put (txt ("\n".intercalate parts))
  finish st

end CrossRef.Tools
