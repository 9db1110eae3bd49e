import CrossRef.Json.Reader.Number
import CrossRef.Json.Reader.Text
import CrossRef.Json.Mismatch
/-!
Reading values, and the protocol by which typed decoders read containers.

`value` reads any JSON value into a `Json`, objects as maps (a repeated key keeps its last
value). Containers may nest at most 127 deep: entering the 128th is an error.

A typed decoder reads containers through `object` and `array` and their entries through
`entries` and `items`. An entry is a string key, a colon and a value; items and entries are
separated by commas, and a comma before the closing bracket is a *trailing comma*. The contents
are handed to the decoder, and whatever happens to them, the closing bracket is looked for
afterwards: a failure inside is then reported from where the container ends, and only a
container that was read in full can fail at its end.

Where a decoder meets a value of another kind it reads that value far enough to name it
(`mismatch`): a keyword, number or string in full, a container by its opening bracket only.

`skip` passes over a value without building it, with its own, more lenient, syntax checks.
-/

-- `^` on numbers is core's `NatPow` power here, also where Mathlib's monoid power is in scope.
attribute [local instance (high)] instPowNat

namespace CrossRef.Json.Reader

/-- The nesting allowed at the start of a text. -/
def depthLimit : Nat := 128

/-- Enter a container: an error when the nesting budget is used up. -/
def enter (depth : Nat) : Reader Unit :=
  if depth ≤ 1 then failAhead .recursionLimit else bump

/-- The end of an array's items. -/
def closeArray : Reader Unit := do
  match ← skipBlank with
  | some 93 => bump
  | some 44 =>
    bump
    match ← skipBlank with
    | some 93 => failAhead .trailingComma
    | _ => failAhead .trailingCharacters
  | some _ => failAhead .trailingCharacters
  | none => failAhead .eofList

/-- The end of an object's entries. -/
def closeObject : Reader Unit := do
  match ← skipBlank with
  | some 125 => bump
  | some 44 => failAhead .trailingComma
  | some _ => failAhead .trailingCharacters
  | none => failAhead .eofObject

/-- The colon after a key. -/
def colon : Reader Unit := do
  match ← skipBlank with
  | some 58 => bump
  | some _ => failAhead .expectedColon
  | none => failAhead .eofObject

/-- Read the contents of a container, then its end, and report the first failure. -/
def enclosed (contents : Reader α) (close : Reader Unit) : Reader α := do
  let r ← observe contents
  let e ← observe close
  match r, e with
  | .ok a, .ok () => pure a
  | .error err, _ => throw err
  | _, .error err => throw err

/-- Where the next item starts: `none` at the closing bracket. -/
def itemStart (first : Bool) : Reader (Option Unit) := do
  let b ← skipBlank
  let b ← match b with
    | some 93 => pure none
    | some 44 => if first then pure (some (some 44)) else do bump; pure (some (← skipBlank))
    | some c => if first then pure (some (some c)) else failAhead .expectedListCommaOrEnd
    | none => failAhead .eofList
  match b with
  | none => pure none
  | some (some 93) => failAhead .trailingComma
  | some (some _) => pure (some ())
  | some none => failAhead .eofValue

/-- Where the next entry's key starts: `none` at the closing brace, else the key. -/
def entryStart (first : Bool) : Reader (Option String) := do
  let b ← skipBlank
  let b ← match b with
    | some 125 => pure none
    | some 44 => if first then pure (some (some 44)) else do bump; pure (some (← skipBlank))
    | some c => if first then pure (some (some c)) else failAhead .expectedObjectCommaOrEnd
    | none => failAhead .eofObject
  match b with
  | none => pure none
  | some (some 34) => bump; return some (← string)
  | some (some 125) => failAhead .trailingComma
  | some (some _) => failAhead .keyMustBeString
  | some none => failAhead .eofValue

mutual
/-- **Any value**, objects as maps. -/
def value (depth : Nat) : Nat → Reader Json
  | 0 => failAhead .recursionLimit
  | fuel + 1 => placed do
    match ← skipBlank with
    | none => failAhead .eofValue
    | some 110 => bump; ident (word "ull"); pure .null
    | some 116 => bump; ident (word "rue"); pure (.bool true)
    | some 102 => bump; ident (word "alse"); pure (.bool false)
    | some 45 => bump; return .number (← number false)
    | some 34 => bump; return .string (← string)
    | some 91 =>
      enter depth
      enclosed (do return .array (← arrayItems (depth - 1) true [] fuel)) closeArray
    | some 123 =>
      enter depth
      enclosed (do return .object (← objectEntries (depth - 1) true [] fuel)) closeObject
    | some b =>
      if (digitOf b).isSome then return .number (← number true)
      else failAhead .expectedValue

/-- The items of an array, reversed in `acc`. -/
def arrayItems (depth : Nat) (first : Bool) (acc : List Json) : Nat → Reader (List Json)
  | 0 => pure acc.reverse
  | fuel + 1 => do
    match ← itemStart first with
    | none => pure acc.reverse
    | some () =>
      let v ← value depth fuel
      arrayItems depth false (v :: acc) fuel

/-- The entries of an object, as a map. -/
def objectEntries (depth : Nat) (first : Bool) (acc : List (String × Json)) :
    Nat → Reader (List (String × Json))
  | 0 => pure acc
  | fuel + 1 => do
    match ← entryStart first with
    | none => pure acc
    | some k =>
      colon
      let v ← value depth fuel
      objectEntries depth false (Json.insert k v acc) fuel
end

/-- Any value, with a step budget taken from the input. -/
def anyValue (depth : Nat) : Reader Json := do value depth (← budget)

/-- After a value inside the open containers `frames` (innermost first): close what ends here.
`none` when the outermost one closed, else the frames still open, ready for the next value
(a comma taken) or, right after an opening bracket, for its first value. -/
def closeFrames (frames : List UInt8) (acceptComma : Bool) : Nat → Reader (Option (List UInt8))
  | 0 => pure none
  | fuel + 1 => do
    match frames with
    | [] => pure none
    | frame :: outer =>
      let b ← skipBlank
      let closes := (b == some 93 && frame == 91) || (b == some 125 && frame == 123)
      if b == some 44 && acceptComma then do bump; pure (some frames)
      else if closes then do
        bump
        if outer.isEmpty then pure none else closeFrames outer true fuel
      else match b with
        | some _ =>
          if acceptComma then
            failAhead (if frame == 91 then .expectedListCommaOrEnd else .expectedObjectCommaOrEnd)
          else pure (some frames)
        | none => failAhead (if frame == 91 then .eofList else .eofObject)

/-- Skip values inside the open containers `stack` until the outermost closes. -/
def skipLoop (stack : List UInt8) : Nat → Reader Unit
  | 0 => pure ()
  | fuel + 1 => do
    let opened ← do
      match ← skipBlank with
      | none => failAhead .eofValue
      | some 110 => bump; ident (word "ull"); pure none
      | some 116 => bump; ident (word "rue"); pure none
      | some 102 => bump; ident (word "alse"); pure none
      | some 45 => bump; skipNumber; pure none
      | some 34 => bump; skipString; pure none
      | some 91 => bump; pure (some (91 : UInt8))
      | some 123 => bump; pure (some (123 : UInt8))
      | some b => if (digitOf b).isSome then do skipNumber; pure none else failAhead .expectedValue
    let open_ := match opened with
      | some f => f :: stack
      | none => stack
    if open_.isEmpty then pure ()
    else
      match ← closeFrames open_ opened.isNone (← budget) with
      | none => pure ()
      | some frames =>
        if frames.head? == some 123 then
          match ← skipBlank with
          | some 34 => bump; skipString
          | some _ => failAhead .keyMustBeString
          | none => failAhead .eofObject
          match ← skipBlank with
          | some 58 => bump
          | some _ => failAhead .expectedColon
          | none => failAhead .eofObject
        skipLoop frames fuel

/-- **Skip a value.** -/
def skip : Reader Unit := placed do skipLoop [] (← budget)

/-! ## Typed reading -/

/-- Read a value of another kind far enough to name it, and fail with what was expected. -/
def mismatch (expected : String) : Reader α := placed do
  let found ← do
    match (← peek).getD 0 with
    | 110 => bump; ident (word "ull"); pure Found.null
    | 116 => bump; ident (word "rue"); pure (Found.bool true)
    | 102 => bump; ident (word "alse"); pure (Found.bool false)
    | 45 => bump; pure (Found.ofNumber (← number false))
    | 34 => bump; pure (Found.string (← string))
    | 91 => pure Found.sequence
    | 123 => pure Found.map
    | b =>
      if (digitOf b).isSome then pure (Found.ofNumber (← number true))
      else failAhead .expectedValue
  failValue (invalidType found expected)

/-- Look at the next token; at the end of the text that is an error. -/
def token : Reader UInt8 := do
  match ← skipBlank with
  | some b => pure b
  | none => failAhead .eofValue

/-- A number, checked by `accept`; any other value is a mismatch. -/
def numberWith (expected : String) (accept : Number → Except String α) : Reader α := placed do
  let b ← token
  let n ← if b == 45 then do bump; number false
    else if (digitOf b).isSome then number true
    else mismatch expected
  match accept n with
  | .ok a => pure a
  | .error m => failValue m

/-- An unsigned integer below a bound, named `expected` in messages. -/
def acceptBelow (bound : Nat) (expected : String) : Number → Except String Nat
  | .nat n => if n < bound then .ok n else .error (invalidValue (.unsigned n) expected)
  | .neg i => .error (invalidValue (.signed i) expected)
  | .float f => .error (invalidType (.float f) expected)

/-- A 32-bit unsigned integer. -/
def u32 : Reader Nat := numberWith "u32" (acceptBelow (2 ^ (32 : Nat)) "u32")

/-- A 64-bit unsigned integer. -/
def u64 : Reader Nat := numberWith "u64" (acceptBelow (2 ^ (64 : Nat)) "u64")

/-- A string, named `expected` in messages, checked by `accept`. -/
def stringWith (expected : String) (accept : String → Except String α) : Reader α := placed do
  let b ← token
  if b == 34 then
    bump
    let s ← string
    match accept s with
    | .ok a => pure a
    | .error m => failValue m
  else mismatch expected

/-- A string. -/
def text : Reader String := stringWith "a string" .ok

/-- A boolean. -/
def boolean : Reader Bool := placed do
  match ← token with
  | 116 => bump; ident (word "rue"); pure true
  | 102 => bump; ident (word "alse"); pure false
  | _ => mismatch "a boolean"

/-- `null`, for a variant without data. -/
def unit : Reader Unit := placed do
  match ← token with
  | 110 => bump; ident (word "ull")
  | _ => mismatch "unit"

/-- `null` for absent, or a value. -/
def optional (r : Reader α) : Reader (Option α) := do
  match ← skipBlank with
  | some 110 => bump; ident (word "ull"); pure none
  | _ => some <$> r

/-- An enumeration of names without data: a string, or an object with one key and `null`. -/
def enumeration (depth : Nat) (ofName : String → Except String α) : Reader α := do
  match ← skipBlank with
  | some 34 => stringWith "variant identifier" ofName
  | some 123 =>
    enter depth
    let a ← stringWith "variant identifier" ofName
    colon
    unit
    match ← skipBlank with
    | some 125 => bump; pure a
    | some _ => fail .expectedValue
    | none => fail .eofObject
  | some _ => failAhead .expectedValue
  | none => failAhead .eofValue

/-- An object read by `contents`, which gets the nesting budget inside; any other value is a
mismatch with `expected`. -/
def object (depth : Nat) (expected : String) (contents : Nat → Reader α) : Reader α := placed do
  match ← token with
  | 123 => enter depth; enclosed (contents (depth - 1)) closeObject
  | _ => mismatch expected

/-- An array read by `contents`; any other value is a mismatch with `expected`. -/
def array (depth : Nat) (expected : String) (contents : Nat → Reader α) : Reader α := placed do
  match ← token with
  | 91 => enter depth; enclosed (contents (depth - 1)) closeArray
  | _ => mismatch expected

/-- An array or an object, each read by its own contents. -/
def arrayOrObject (depth : Nat) (expected : String) (items : Nat → Reader α)
    (entries : Nat → Reader α) : Reader α := placed do
  match ← token with
  | 91 => enter depth; enclosed (items (depth - 1)) closeArray
  | 123 => enter depth; enclosed (entries (depth - 1)) closeObject
  | _ => mismatch expected

/-- The entries of an object, each handed to `step` with its key, the cursor before the
colon. -/
def entriesLoop (step : σ → String → Reader σ) (first : Bool) (s : σ) : Nat → Reader σ
  | 0 => pure s
  | fuel + 1 => do
    match ← entryStart first with
    | none => pure s
    | some k => entriesLoop step false (← step s k) fuel

/-- Fold over the entries of an object. -/
def entries (s : σ) (step : σ → String → Reader σ) : Reader σ := do
  entriesLoop step true s (← budget)

/-- The items of an array, each read by `item`. -/
def itemsLoop (item : Reader α) (first : Bool) (acc : List α) : Nat → Reader (List α)
  | 0 => pure acc.reverse
  | fuel + 1 => do
    match ← itemStart first with
    | none => pure acc.reverse
    | some () => itemsLoop item false ((← item) :: acc) fuel

/-- All items of an array. -/
def items (item : Reader α) : Reader (List α) := do itemsLoop item true [] (← budget)

/-- The next item, if there is one: for records read from an array, field by field. -/
def nextItem (item : Reader α) (first : Bool) : Reader (Option α) := do
  match ← itemStart first with
  | none => pure none
  | some () => some <$> item

/-- A sequence of values read by `item`. -/
def sequence (depth : Nat) (item : Nat → Reader α) : Reader (List α) :=
  array depth "a sequence" fun d => items (item d)

/-- **A whole text** read by `r`: nothing but whitespace may follow. -/
def whole (r : Reader α) : Reader α := do
  let a ← r
  match ← skipBlank with
  | some _ => failAhead .trailingCharacters
  | none => pure a

end CrossRef.Json.Reader

namespace CrossRef.Json

/-- **Parse a JSON text** into a value, objects as maps; a failure gives its message and place. -/
def parse (bytes : ByteArray) : Except String Json :=
  match (Reader.whole (Reader.anyValue Reader.depthLimit)).run bytes with
  | (.ok j, _) => .ok j
  | (.error e, _) => .error (e.render bytes)

end CrossRef.Json
