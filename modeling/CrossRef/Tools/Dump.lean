import CrossRef.Tools.Text
import CrossRef.Tools.Printf
/-!
`od`: bytes written as numbers or characters, a line for each block of 16 (or `-w`) bytes.

Each line starts with the offset of its block (octal by default, `-A` chooses decimal, hex or
none), then one row per output format: a row shows each unit of the block (one byte, or two,
four or eight read least significant first) in the format's digits. The rows of all formats are
as wide as the widest, each field right-aligned, the extra spaces shared out evenly from the
left. A block equal to the one before it is written as a single `*` line (unless `-v`), and the
offset after the last byte ends the output.

Formats are read from `-t` (`a`, `c`, `d`, `o`, `u`, `x`, the number ones with a size `1`, `2`,
`4`, `8` or `C`, `S`, `I`, `L`) and from the traditional letters `-a -b -c -d -i -l -o -s -x`;
with none the format is `o2`. Bytes are read from the files named (standard input when there
are none), after skipping `-j` bytes, and at most `-N` of them.

This module belongs to the simulated test host that one-shot analyzer commands run on, not to
the library's program: the program reaches the host only through `Cli.Machine` and
`Host.System`, and no theorem of the library is about this module.
-/

-- `^` on numbers is core's `NatPow` power here, also where Mathlib's monoid power is in scope.
attribute [local instance (high)] instPowNat

namespace CrossRef.Tools

open CrossRef.Host

/-- How `od` shows a unit. -/
inductive Shown where
  /-- `a`: the names of the characters, the top bit ignored. -/
  | named
  /-- `c`: characters, C escapes, or three octal digits. -/
  | char
  | signed
  | unsigned
  | octal
  | hex
  deriving DecidableEq, Inhabited

/-- An output format: how units are shown and how many bytes a unit has. -/
structure DumpFormat where
  shown : Shown
  size : Nat := 1
  deriving Inhabited

/-- The place of a unit size among 1, 2, 4 and 8 bytes. -/
def sizeIndex (size : Nat) : Nat :=
  match size with
  | 1 => 0
  | 2 => 1
  | 4 => 2
  | _ => 3

/-- The digits a field of a format takes at most. -/
def DumpFormat.digits (f : DumpFormat) : Nat :=
  match f.shown with
  | .named | .char => 3
  | .octal => [3, 6, 11, 22].getD (sizeIndex f.size) 22
  | .hex => [2, 4, 8, 16].getD (sizeIndex f.size) 16
  | .unsigned => [3, 5, 10, 20].getD (sizeIndex f.size) 20
  | .signed => [4, 6, 11, 20].getD (sizeIndex f.size) 20

/-- The names of the control characters and the space, by code. -/
def charNames : List String :=
  ["nul", "soh", "stx", "etx", "eot", "enq", "ack", "bel", "bs", "ht", "nl", "vt", "ff", "cr",
   "so", "si", "dle", "dc1", "dc2", "dc3", "dc4", "nak", "syn", "etb", "can", "em", "sub", "esc",
   "fs", "gs", "rs", "us", "sp"]

/-- Digits of a number in a base, at least `width` of them. -/
def paddedDigits (base width n : Nat) : String :=
  let ds := Nat.toDigits base n
  String.ofList (List.replicate (width - ds.length) '0' ++ ds)

/-- **The text of a unit** (its bytes, least significant first) in a format. -/
def unitText (f : DumpFormat) (unit : List UInt8) : String :=
  let value := unit.foldr (fun b acc => acc * 256 + b.toNat) 0
  let b := (unit.headD 0).toNat
  match f.shown with
  | .named =>
    let c := b % 128
    if c == 127 then "del" else charNames.getD c (String.singleton (Char.ofNat c))
  | .char =>
    match b with
    | 0 => "\\0"
    | 7 => "\\a"
    | 8 => "\\b"
    | 9 => "\\t"
    | 10 => "\\n"
    | 11 => "\\v"
    | 12 => "\\f"
    | 13 => "\\r"
    | _ => if 32 ≤ b && b < 127 then String.singleton (Char.ofNat b) else paddedDigits 8 3 b
  | .octal => paddedDigits 8 f.digits value
  | .hex => paddedDigits 16 f.digits value
  | .unsigned => toString value
  | .signed =>
    let half := 2 ^ (8 * f.size - 1)
    if value ≥ half then "-" ++ toString (2 * half - value) else toString value

/-- Text right-aligned in a width. -/
def alignRight (width : Nat) (s : String) : String :=
  String.ofList (List.replicate (width - s.length) ' ') ++ s

/-- **One row**: the units of a block in a format, each right-aligned in its share of the row's
width. `pad` spaces beyond the digits are shared out over the `fields` of a whole block, the
later fields taking the remainder; a short block shows only the units it has. -/
def dumpRow (f : DumpFormat) (fields pad : Nat) (block : List UInt8) : String :=
  let units := (List.range fields).filterMap fun i =>
    if i * f.size < block.length then
      some ((block.drop (i * f.size)).take f.size ++ List.replicate (f.size - ((block.drop (i * f.size)).take f.size).length) 0)
    else none
  let (text, _) := units.zipIdx.foldl (fun (acc : String × Nat) (u, i) =>
    let (text, remaining) := acc
    let next := pad * (fields - i - 1) / fields
    (text ++ alignRight (remaining - next + f.digits) (unitText f u), next)) ("", pad)
  text

/-- How `od` writes offsets: its radix, or none. -/
def offsetText (radix : Option Nat) (n : Nat) : String :=
  match radix with
  | some 16 => paddedDigits 16 6 n
  | some r => paddedDigits r 7 n
  | none => ""

/-- **Dump bytes**: the lines for each block, a `*` line for a run of blocks equal to the one
before, and the offset after the last byte. -/
def dumpLines (formats : List DumpFormat) (radix : Option Nat) (width : Nat) (verbose : Bool)
    (start : Nat) (data : List UInt8) : String :=
  let widest := formats.foldl (fun w f => max w ((f.digits + 1) * (width / f.size))) 0
  let addrWidth := (offsetText radix 0).length
  let blocks := (List.range ((data.length + width - 1) / width)).map fun i => (data.drop (i * width)).take width
  let (text, _, _) := blocks.zipIdx.foldl (fun (acc : String × Option (List UInt8) × Bool) (block, i) =>
    let (text, prev, starred) := acc
    if !verbose && block.length == width && prev == some block then
      (if starred then text else text ++ "*\n", prev, true)
    else
      let rows := formats.zipIdx.map fun (f, j) =>
        let fields := width / f.size
        (if j == 0 then offsetText radix (start + i * width) else String.ofList (List.replicate addrWidth ' ')) ++
          dumpRow f fields (widest - f.digits * fields) block ++ "\n"
      (text ++ String.join rows, some block, false)) ("", none, false)
  text ++ (if radix.isSome then offsetText radix (start + data.length) ++ "\n" else "")

/-- The size a letter or number after a type letter names. -/
def sizeOf? (c : UInt8) : Option Nat :=
  match c with
  | 67 => some 1
  | 83 => some 2
  | 73 => some 4
  | 76 => some 8
  | _ => none

/-- **Read a type string** of `-t`: one or more formats, each a letter and, for the number
formats, a size. -/
def readTypes : Nat → Bytes → Except String (List DumpFormat)
  | 0, _ => .ok []
  | _ + 1, [] => .ok []
  | k + 1, c :: rest =>
    let shown : Option Shown := match c with
      | 97 => some .named
      | 99 => some .char
      | 100 => some .signed
      | 111 => some .octal
      | 117 => some .unsigned
      | 120 => some .hex
      | _ => none
    match shown with
    | none => .error ("invalid character '" ++ String.singleton (Char.ofNat c.toNat) ++ "' in type string ")
    | some s =>
      if s == .named || s == .char then
        return { shown := s } :: (← readTypes k rest)
      else
        let digits := rest.takeWhile Bytes.isDigit
        if !digits.isEmpty then
          let n := (Bytes.text digits).toNat!
          if n == 1 || n == 2 || n == 4 || n == 8 then
            return { shown := s, size := n } :: (← readTypes k (rest.drop digits.length))
          else .error ("size " ++ toString n)
        else match rest.head?.bind sizeOf? with
          | some n => return { shown := s, size := n } :: (← readTypes k rest.tail)
          | none => return { shown := s, size := if s == .named then 1 else 4 } :: (← readTypes k rest)

/-- A count of `-j`, `-N` or `-w`: decimal, octal after `0`, or hex after `0x`. -/
def readCountBytes (w : Bytes) : Option Nat :=
  match w with
  | 48 :: 120 :: ds | 48 :: 88 :: ds =>
    if !ds.isEmpty && ds.all isHexDigit then some (ds.foldl (fun n d => n * 16 + hexValue d) 0) else none
  | 48 :: ds => if ds.all isOctalDigit then some (ds.foldl (fun n d => n * 8 + (d - 48).toNat) 0) else none
  | ds => if !ds.isEmpty && ds.all Bytes.isDigit then some (Bytes.text ds).toNat! else none

/-- **`od`**: dump files, or the standard input. -/
def od : ToolM Exit := do
  -- `-w` with no number (its argument is optional) means 32
  let args := (← proc).argv.tail.map fun a => if a == txt "-w" then txt "-w32" else if a == txt "--width" then txt "--width=32" else a
  let spec : OptSpec := {
    short := [(65, true), (106, true), (78, true), (116, true), (119, true), (118, false), (97, false),
      (98, false), (99, false), (100, false), (105, false), (108, false), (111, false), (115, false),
      (120, false)]
    long := [("address-radix", true, 65), ("skip-bytes", true, 106), ("read-bytes", true, 78),
      ("format", true, 116), ("width", true, 119), ("output-duplicates", false, 118)] }
  let some (opts, names) ← options spec args | return .code 1
  let mut formats : List DumpFormat := []
  let mut radix : Option Nat := some 8
  let mut width := 16
  let mut skip := 0
  let mut limit : Option Nat := none
  for (c, a) in opts do
    match c with
    | 116 =>
      match readTypes (a.length + 1) a with
      | .ok fs => formats := formats ++ fs
      | .error m =>
        if m.startsWith "size " then
          complain (txt "invalid type string " ++ quoteLocale a ++ txt (";\nthis system doesn't provide a " ++ (m.drop 5).toString ++ "-byte integral type"))
        else complain (txt m ++ quoteLocale a)
        return .code 1
    | 65 =>
      match a with
      | [100] => radix := some 10
      | [111] => radix := some 8
      | [120] => radix := some 16
      | [110] => radix := none
      | _ =>
        complain (txt "invalid output address radix " ++ quoteLocale a ++ txt "; it must be one character from [doxn]")
        return .code 1
    | 119 | 106 | 78 =>
      match readCountBytes a with
      | some n =>
        if c == 119 then width := n else if c == 106 then skip := n else limit := some n
      | none =>
        complain (txt "invalid " ++ txt (if c == 119 then "-w" else if c == 106 then "-j" else "-N") ++ txt " argument " ++ quoteLocale a)
        return .code 1
    | 97 => formats := formats ++ [{ shown := .named }]
    | 98 => formats := formats ++ [{ shown := .octal }]
    | 99 => formats := formats ++ [{ shown := .char }]
    | 100 => formats := formats ++ [{ shown := .unsigned, size := 2 }]
    | 105 => formats := formats ++ [{ shown := .signed, size := 4 }]
    | 108 => formats := formats ++ [{ shown := .signed, size := 8 }]
    | 111 => formats := formats ++ [{ shown := .octal, size := 2 }]
    | 115 => formats := formats ++ [{ shown := .signed, size := 2 }]
    | 120 => formats := formats ++ [{ shown := .hex, size := 2 }]
    | _ => pure ()
  let chosen : List DumpFormat := if formats.isEmpty then [{ shown := .octal, size := 2 }] else formats
  let mut data : List UInt8 := []
  let mut st := 0
  for n in operandsOrStdin names do
    match ← readReported n with
    | some b => data := data ++ b.toList
    | none => st := 1
  let shown := match limit with
    | some n => (data.drop skip).take n
    | none => data.drop skip
  put (txt (dumpLines chosen radix (max width 1) (given opts 118) skip shown))
  finish st

end CrossRef.Tools
