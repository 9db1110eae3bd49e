import Mathlib
import CrossRef.Proofs.StringReadBack
/-!
Written objects read back.

The objects this library writes on its own, requests among them, are flat: each field holds a
string or an unsigned integer (`Scalar`). Such an object is written as a brace, its fields as
`quote k ++ ":" ++ render v` separated by commas, and a brace; this module proves that the reader
takes that text back to the map of the fields (`parse_render_object`), and that the text holds no
newline byte (`ten_not_mem_render_object`).

Reading is compositional (`Reads.bind`), so each reader is shown to read back its own part of the
text, with the byte that may follow it: a number stops only at a byte that cannot continue it, so
it is read back when a comma or a closing brace follows (`EndsField`). A number is its decimal
digits, read one at a time into a value that stays below `2^64` because every prefix of the
digits is worth at most the whole (`le_ofDigitChars`); the first digit is not `0` unless the
number is zero, which the reader treats apart (`toDigits_eq_cons_of_ne_zero`). The entries loop
takes a key with its comma, a colon and a value per turn and inserts the field into the map read
so far, so the fields are read back as `toMap`, the map in which a later field wins
(`reads_objectEntries`).
-/

namespace CrossRef.Json

/-! ## Written text -/

/-- A value written as one token that reads back: a string, or an unsigned integer below
`2^64`. -/
def Scalar : Json → Prop
  | .string _ => True
  | .number (.nat n) => n < 2 ^ 64
  | _ => False

/-- The byte of an ASCII character. -/
theorem flatMap_utf8EncodeChar_of_ascii {cs : List Char} (h : ∀ c ∈ cs, c.toNat ≤ 0x7f) :
    cs.flatMap String.utf8EncodeChar = cs.map fun c => UInt8.ofNat c.toNat := by
  rw [List.map_eq_flatMap]
  exact List.flatMap_congr fun c hc => Utf8.utf8EncodeChar_of_one (h c hc)

theorem toNat_of_isDigit {c : Char} (h : c.isDigit) : 48 ≤ c.toNat ∧ c.toNat ≤ 57 := by
  simp only [Char.isDigit, Bool.and_eq_true, decide_eq_true_eq, UInt32.le_iff_toNat_le] at h
  exact h

/-- The decimal digits of a number other than zero do not start with zero. -/
theorem toDigits_eq_cons_of_ne_zero {n : Nat} (hn : n ≠ 0) :
    ∃ c cs, Nat.toDigits 10 n = c :: cs ∧ c ≠ '0' := by
  induction n using Nat.strong_induction_on with
  | _ n ih =>
    rw [Nat.toDigits_eq_if (by norm_num)]
    split
    · exact ⟨_, [], rfl, fun h => hn (Nat.digitChar_eq_zero.mp h)⟩
    · obtain ⟨c, cs, hcs, hc⟩ := ih (n / 10) (by omega) (by omega)
      exact ⟨c, cs ++ [Nat.digitChar (n % 10)], by rw [hcs, List.cons_append], hc⟩

/-- The bytes of a number's decimal text. -/
theorem bytesOf_toString (n : Nat) :
    bytesOf (toString n) = (Nat.toDigits 10 n).map fun c => UInt8.ofNat c.toNat := by
  rw [bytesOf_eq_flatMap, Nat.toString_eq_ofList_toDigits, String.toList_ofList]
  exact flatMap_utf8EncodeChar_of_ascii fun c hc => by
    have := toNat_of_isDigit (Nat.isDigit_of_mem_toDigits (by norm_num) (by norm_num) hc)
    omega

/-- The bytes of fields as the entries reader meets them: each field after the first has its
comma in front. -/
def fieldsBytes (first : Bool) : List (String × Json) → List UInt8
  | [] => []
  | (k, v) :: fs =>
    (if first then [] else [44]) ++ bytesOf (quote k) ++ 58 :: (bytesOf (render v) ++
      fieldsBytes false fs)

theorem bytesOf_renderFields (fs : List (String × Json)) :
    bytesOf (renderFields fs) = fieldsBytes true fs := by
  induction fs with
  | nil => rfl
  | cons kv fs ih =>
    obtain ⟨k, v⟩ := kv
    have hcolon : bytesOf ":" = [58] := rfl
    have hcomma : bytesOf "," = [44] := rfl
    cases fs with
    | nil =>
      simp only [renderFields, fieldsBytes, bytesOf_append, hcolon, if_true, List.nil_append,
        List.append_nil, List.append_assoc, List.singleton_append]
    | cons kv' fs =>
      -- the last equation of `renderFields`, for a field with more after it
      rw [renderFields, bytesOf_append, bytesOf_append, bytesOf_append, bytesOf_append, ih, hcolon,
        hcomma]
      · simp only [fieldsBytes, if_true, if_false, Bool.false_eq_true, List.nil_append,
          List.append_assoc, List.cons_append]
      · exact List.cons_ne_nil kv' fs

theorem length_le_fieldsBytes (first : Bool) (fs : List (String × Json)) :
    fs.length ≤ (fieldsBytes first fs).length := by
  induction fs generalizing first with
  | nil => exact Nat.le_refl 0
  | cons kv fs ih =>
    have := ih false
    simp only [fieldsBytes, List.length_append, List.length_cons]
    omega

theorem bytesOf_render_object (fs : List (String × Json)) :
    bytesOf (render (.object fs)) = 123 :: (fieldsBytes true fs ++ [125]) := by
  rw [render, bytesOf_append, bytesOf_append, bytesOf_renderFields]
  rfl

/-! ## No newline -/

theorem ten_not_mem_toString (n : Nat) : 10 ∉ bytesOf (toString n) := by
  rw [bytesOf_toString, List.mem_map]
  rintro ⟨c, hc, h⟩
  have := toNat_of_isDigit (Nat.isDigit_of_mem_toDigits (by norm_num) (by norm_num) hc)
  have hv := congrArg UInt8.toNat h
  simp only [UInt8.toNat_ofNat', Nat.reducePow, UInt8.reduceToNat] at hv
  omega

theorem ten_not_mem_scalar {v : Json} (hv : Scalar v) : 10 ∉ bytesOf (render v) := by
  match v, hv with
  | .string s, _ => exact ten_not_mem_quote s
  | .number (.nat n), _ => exact ten_not_mem_toString n

/-- **A rendered flat object holds no newline byte.** -/
theorem ten_not_mem_render_object {fs : List (String × Json)} (hfs : ∀ kv ∈ fs, Scalar kv.2) :
    10 ∉ bytesOf (render (.object fs)) := by
  have hfields : ∀ first, 10 ∉ fieldsBytes first fs := by
    induction fs with
    | nil => exact fun _ h => by cases h
    | cons kv fs ih =>
      intro first
      obtain ⟨k, v⟩ := kv
      have hv := ten_not_mem_scalar (hfs (k, v) List.mem_cons_self)
      have hk := ten_not_mem_quote k
      have hrest := ih (fun kv hkv => hfs kv (List.mem_cons_of_mem _ hkv)) false
      simp only [fieldsBytes, List.mem_append, List.mem_cons] at hv hk hrest ⊢
      cases first <;> simp_all
  rw [bytesOf_render_object, List.mem_cons, List.mem_append, List.mem_singleton]
  rintro (h | h | h)
  · cases h
  · exact hfields true h
  · cases h

namespace Reader

section Numbers

/-- What may follow a value among an object's fields: a comma, or the closing brace. -/
def EndsField (rest : List UInt8) : Prop := rest.head? = some 44 ∨ rest.head? = some 125

/-- The byte of a digit character is a digit of the same value. -/
theorem digitOf_of_isDigit {c : Char} (h : c.isDigit) :
    digitOf (UInt8.ofNat c.toNat) = some (c.toNat - 48) := by
  obtain ⟨h1, h2⟩ := toNat_of_isDigit h
  have hv : (UInt8.ofNat c.toNat).toNat = c.toNat := by
    simp only [UInt8.toNat_ofNat', Nat.reducePow]
    omega
  simp only [digitOf, UInt8.le_iff_toNat_le, hv, UInt8.reduceToNat, decide_eq_true h1,
    decide_eq_true h2, Bool.and_self, if_true]

/-- A byte that follows a value in an object is no digit. -/
theorem digitOf_of_endsField {b : UInt8} {rest : List UInt8} (h : EndsField (b :: rest)) :
    digitOf b = none := by
  rcases h with h | h <;> rw [List.head?_cons, Option.some_inj] at h <;> rw [h] <;> rfl

variable {B : ByteArray} {i : Nat} {rest : List UInt8}

/-- An integer part followed by a comma or a closing brace is the whole number. -/
theorem runAt_afterInteger (hat : B.data.toList.drop i = rest) (hend : EndsField rest) (a : Nat) :
    (afterInteger true a).runAt B i = (.ok (.nat a), i) := by
  have hpeek (b : UInt8) (hb : rest.head? = some b) : peekOrNull.runAt B i = (.ok b, i) := by
    rw [peekOrNull, runAt_bind_ok runAt_peek, Utf8.byteAt_eq_head?, hat, hb]
    rfl
  unfold afterInteger
  rcases hend with h | h <;> rw [runAt_bind_ok (hpeek _ h)] <;> rfl

/-- One more digit does not overflow a bound that the value with it stays within. -/
theorem overflows_eq_false {a d limit : Nat} (h : a * 10 + d ≤ limit) (hd : d < 10) :
    overflows a d limit = false := by
  simp only [overflows, Bool.and_eq_false_iff, Bool.or_eq_false_iff, decide_eq_false_iff_not]
  omega

theorem le_ofDigitChars (cs : List Char) (a : Nat) : a ≤ Nat.ofDigitChars 10 cs a := by
  induction cs generalizing a with
  | nil => rw [Nat.ofDigitChars_nil]
  | cons c cs ih =>
    rw [Nat.ofDigitChars_cons]
    exact Nat.le_trans (by omega) (ih _)

/-- **Digits read back**: the digits after the first of an integer, followed by a comma or a
closing brace, give the integer they finish, as long as it fits in 64 bits. -/
theorem reads_integerDigits : ∀ (cs : List Char) (a fuel : Nat), (∀ c ∈ cs, c.isDigit) →
    Nat.ofDigitChars 10 cs a ≤ maxSignificand → cs.length < fuel →
    Reads (integerDigits true a fuel) (.nat (Nat.ofDigitChars 10 cs a))
      (cs.map fun c => UInt8.ofNat c.toNat) EndsField
  | _, _, 0, _, _, hlen => absurd hlen (Nat.not_lt_zero _)
  | [], a, fuel + 1, _, _, _ => by
    intro B i rest hat hend
    obtain ⟨b, tail, rfl⟩ : ∃ b tail, rest = b :: tail := by
      rcases hend with h | h <;> exact List.exists_cons_of_ne_nil (by rintro rfl; cases h)
    rw [List.map_nil, List.nil_append] at hat
    have hpeek : peekOrNull.runAt B i = (.ok b, i) := by
      rw [peekOrNull, runAt_bind_ok runAt_peek, Utf8.byteAt_of_drop_eq_cons hat]
      rfl
    rw [integerDigits, runAt_bind_ok hpeek, digitOf_of_endsField hend]
    exact runAt_afterInteger hat hend a
  | c :: cs, a, fuel + 1, hdigits, hmax, hlen => by
    intro B i rest hat hend
    have hc := hdigits c List.mem_cons_self
    have hpeek : peekOrNull.runAt B i = (.ok (UInt8.ofNat c.toNat), i) := by
      rw [peekOrNull, runAt_bind_ok runAt_peek, Utf8.byteAt_of_drop_eq_cons hat]
      rfl
    -- the value so far, one digit on, is at most the whole, which fits
    have hstep : a * 10 + (c.toNat - 48) ≤ maxSignificand := by
      have := le_ofDigitChars cs (10 * a + (c.toNat - 48))
      rw [Nat.ofDigitChars_cons, show '0'.toNat = 48 from rfl] at hmax
      omega
    have hdigit := toNat_of_isDigit hc
    have hnext := Utf8.drop_add_of_drop_eq (show B.data.toList.drop i =
      [UInt8.ofNat c.toNat] ++ (cs.map (fun c => UInt8.ofNat c.toNat) ++ rest) from hat)
    rw [integerDigits, runAt_bind_ok hpeek, digitOf_of_isDigit hc]
    simp only [overflows_eq_false hstep (by omega), Bool.false_eq_true, if_false]
    rw [runAt_bind_ok runAt_bump,
      reads_integerDigits cs _ fuel (fun d hd => hdigits d (List.mem_cons_of_mem c hd))
        (by rw [Nat.ofDigitChars_cons, show '0'.toNat = 48 from rfl] at hmax; rwa [Nat.mul_comm])
        (by rw [List.length_cons] at hlen; omega) B (i + 1) rest hnext hend,
      Nat.ofDigitChars_cons, show '0'.toNat = 48 from rfl, Nat.mul_comm, List.map_cons,
      List.length_cons, List.length_map]
    rw [Nat.add_assoc, Nat.add_comm 1]

/-- Zero is the one digit `0`, and the reader does not look past it for more. -/
theorem reads_number_zero : Reads (number true) (.nat 0) [48] EndsField := by
  intro B i rest hat hend
  obtain ⟨b, tail, rfl⟩ : ∃ b tail, rest = b :: tail := by
    rcases hend with h | h <;> exact List.exists_cons_of_ne_nil (by rintro rfl; cases h)
  have hnext : B.data.toList.drop (i + 1) = b :: tail := Utf8.drop_add_of_drop_eq hat
  have hpeek : peekOrNull.runAt B (i + 1) = (.ok b, i + 1) := by
    rw [peekOrNull, runAt_bind_ok runAt_peek, Utf8.byteAt_of_drop_eq_cons hnext]
    rfl
  rw [number, runAt_bind_ok (reads_next 48 B i _ hat trivial)]
  simp only [List.length_singleton]
  rw [runAt_bind_ok hpeek, digitOf_of_endsField hend]
  exact runAt_afterInteger hnext hend 0

/-- A number other than zero starts with a digit other than `0`, and its other digits finish
the value that digit starts. -/
theorem reads_number_of_ne_zero (n : Nat) (hn : n < 2 ^ 64) (hzero : n ≠ 0) :
    Reads (number true) (.nat n) ((Nat.toDigits 10 n).map fun c => UInt8.ofNat c.toNat)
      EndsField := by
  obtain ⟨c, cs, hcs, hc0⟩ := toDigits_eq_cons_of_ne_zero hzero
  have hc : c.isDigit := Nat.isDigit_of_mem_toDigits (by norm_num) (by norm_num)
    (show c ∈ Nat.toDigits 10 n by rw [hcs]; exact List.mem_cons_self)
  have hcs_digits : ∀ d ∈ cs, d.isDigit := fun d hd => Nat.isDigit_of_mem_toDigits (by norm_num)
    (by norm_num) (show d ∈ Nat.toDigits 10 n by rw [hcs]; exact List.mem_cons_of_mem c hd)
  -- the digits after the first finish the number the first one starts
  have hvalue : Nat.ofDigitChars 10 cs (c.toNat - 48) = n := by
    have h : Nat.ofDigitChars 10 (Nat.toDigits 10 n) 0 = n := Nat.ofDigitChars_ten_toDigits
    rwa [hcs, Nat.ofDigitChars_cons, show '0'.toNat = 48 from rfl, Nat.mul_zero,
      Nat.zero_add] at h
  have hb : UInt8.ofNat c.toNat ≠ 48 := fun h => hc0 (by
    have hv := toNat_of_isDigit hc
    have h' := congrArg UInt8.toNat h
    simp only [UInt8.toNat_ofNat', Nat.reducePow, UInt8.reduceToNat] at h'
    rw [← Char.ofNat_toNat c, show c.toNat = 48 by omega])
  rw [hcs, List.map_cons]
  intro B i rest hat hend
  rw [number, runAt_bind_ok (reads_next _ B i _ hat trivial)]
  split
  · next heq => cases heq
  · next heq => exact absurd (Option.some.inj heq) hb
  · next b _ heq =>
    cases Option.some.inj heq
    have hfuel : cs.length < B.size - (i + 1) + 2 := by
      have := Utf8.length_le_of_drop_eq hat
      rw [List.length_cons, List.length_map] at this
      omega
    simp only [digitOf_of_isDigit hc, List.length_cons, List.length_nil, Nat.zero_add,
      List.length_map]
    rw [runAt_bind_ok runAt_budget, ← hvalue, reads_integerDigits cs _ _ hcs_digits
      (by rw [hvalue, maxSignificand]; omega) hfuel B (i + 1) rest (Utf8.drop_add_of_drop_eq
        (show B.data.toList.drop i = [UInt8.ofNat c.toNat] ++ _ from hat)) hend, List.length_map,
      Nat.add_assoc, Nat.add_comm 1]

/-- **A number reads back**: the decimal text of an integer below `2^64`, after its sign (none),
followed by a comma or a closing brace. -/
theorem reads_number (n : Nat) (hn : n < 2 ^ 64) :
    Reads (number true) (.nat n) (bytesOf (toString n)) EndsField := by
  rw [bytesOf_toString]
  by_cases hzero : n = 0
  · subst hzero
    exact reads_number_zero
  · exact reads_number_of_ne_zero n hn hzero

end Numbers

section Values

variable (d f : Nat)

/-- **A string value reads back**, whatever follows it. -/
theorem reads_value_string (s : String) {follows : List UInt8 → Prop} :
    Reads (value d (f + 1)) (.string s) (bytesOf (quote s)) follows := by
  rw [value, ← List.nil_append (bytesOf (quote s))]
  refine Reads.placed (Reads.bind (reads_skipBlank 34 rfl) ?_ fun _ _ => by rw [bytesOf_quote]; rfl)
  rw [bytesOf_quote]
  exact Reads.bind (reads_bump 34) (Reads.bind_pure Json.string (Reads.mono (reads_string s)
    fun _ _ => trivial)) fun _ _ => trivial

/-- A digit byte is no blank. -/
theorem isBlank_of_digitOf {b : UInt8} {k : Nat} (hb : digitOf b = some k) : isBlank b = false := by
  unfold digitOf at hb
  split at hb
  · next h =>
    simp only [Bool.and_eq_true, decide_eq_true_eq, UInt8.le_iff_toNat_le, UInt8.reduceToNat] at h
    simp only [isBlank, Bool.or_eq_false_iff, beq_eq_false_iff_ne, ne_eq, ← UInt8.toNat_inj,
      UInt8.reduceToNat]
    omega
  · cases hb

/-- **A value that starts with a digit** is the number read from there. -/
theorem reads_value_of_digit {b : UInt8} {k : Nat} (hb : digitOf b = some k) {v : Number}
    {enc : List UInt8} {follows : List UInt8 → Prop}
    (h : Reads (number true) v (b :: enc) follows) :
    Reads (value d (f + 1)) (.number v) (b :: enc) follows := by
  rw [value, ← List.nil_append (b :: enc)]
  refine Reads.placed (Reads.bind (reads_skipBlank b (isBlank_of_digitOf hb)) ?_ fun _ _ => rfl)
  intro B i rest hat hrest
  split
  -- a digit starts no other kind of value
  · next heq => cases heq
  case h_9 _ heq =>
    cases Option.some.inj heq
    rw [hb, Option.isSome_some, if_pos rfl]
    exact Reads.bind_pure Json.number h B i rest hat hrest
  all_goals
    next heq =>
      cases Option.some.inj heq
      cases hb

/-- **A number value reads back**, followed by a comma or a closing brace. -/
theorem reads_value_nat (n : Nat) (hn : n < 2 ^ 64) :
    Reads (value d (f + 1)) (.number (.nat n)) (bytesOf (toString n)) EndsField := by
  have h := reads_number n hn
  obtain ⟨c, cs, hcs⟩ := List.exists_cons_of_ne_nil (Nat.toDigits_ne_nil (n := n) (b := 10))
  have hc : c.isDigit := Nat.isDigit_of_mem_toDigits (by norm_num) (by norm_num)
    (show c ∈ Nat.toDigits 10 n by rw [hcs]; exact List.mem_cons_self)
  rw [bytesOf_toString, hcs, List.map_cons] at h ⊢
  exact reads_value_of_digit d f (digitOf_of_isDigit hc) h

/-- **A scalar value reads back** from its text, followed by a comma or a closing brace. -/
theorem reads_value_scalar {v : Json} (hv : Scalar v) :
    Reads (value d (f + 1)) v (bytesOf (render v)) EndsField := by
  match v, hv with
  | .string s, _ => exact reads_value_string d f s
  | .number (.nat n), hn => exact reads_value_nat d f n hn

end Values

section Objects

variable {B : ByteArray} {i : Nat} {rest : List UInt8}

/-- A key, its opening quote under the cursor. -/
theorem reads_key (k : String) :
    Reads (do bump; return some (← string)) (some k) (bytesOf (quote k)) fun _ => True := by
  rw [bytesOf_quote]
  exact Reads.bind (reads_bump 34) (Reads.bind_pure some (reads_string k)) fun _ _ => trivial

/-- **The first key reads back.** -/
theorem reads_entryStart_first (k : String) :
    Reads (entryStart true) (some k) (bytesOf (quote k)) fun _ => True := by
  intro B i rest hat _
  have hat' := hat
  rw [bytesOf_quote, List.cons_append] at hat'
  rw [entryStart, runAt_bind_ok (runAt_skipBlank_of_drop_eq rfl hat')]
  simp +decide only [if_true, pure_bind]
  exact reads_key k B i rest hat trivial

/-- **A later key reads back**, with its comma in front. -/
theorem reads_entryStart_next (k : String) :
    Reads (entryStart false) (some k) (44 :: bytesOf (quote k)) fun _ => True := by
  intro B i rest hat _
  rw [bytesOf_quote, List.cons_append, List.cons_append] at hat
  have hnext : B.data.toList.drop (i + 1) = _ :=
    Utf8.drop_add_of_drop_eq (show B.data.toList.drop i = [44] ++ _ from hat)
  rw [entryStart, runAt_bind_ok (runAt_skipBlank_of_drop_eq rfl hat)]
  simp +decide only [if_false, pure_bind]
  rw [runAt_bind_ok runAt_bump, runAt_bind_ok (runAt_skipBlank_of_drop_eq rfl hnext)]
  simp +decide only
  rw [reads_key k B (i + 1) rest (by rw [hnext, bytesOf_quote, List.cons_append]) trivial,
    List.length_cons, Nat.add_assoc, Nat.add_comm 1]

/-- The closing brace ends the entries, whether or not one was read. -/
theorem reads_entryStart_end (first : Bool) :
    Reads (entryStart first) none [] fun rest => rest.head? = some 125 := by
  intro B i rest hat hend
  obtain ⟨tail, rfl⟩ : ∃ tail, rest = 125 :: tail := by
    cases rest with
    | nil => cases hend
    | cons b tail => exact ⟨tail, by rw [List.head?_cons, Option.some_inj] at hend; rw [hend]⟩
  rw [entryStart, runAt_bind_ok (runAt_skipBlank_of_drop_eq rfl hat)]
  simp +decide only [pure_bind]
  rfl

/-- A colon reads back. -/
theorem reads_colon : Reads colon () [58] fun _ => True := by
  intro B i rest hat _
  rw [colon, runAt_bind_ok (runAt_skipBlank_of_drop_eq rfl hat)]
  exact runAt_bump

/-- A closing brace reads back. -/
theorem reads_closeObject : Reads closeObject () [125] fun _ => True := by
  intro B i rest hat _
  rw [closeObject, runAt_bind_ok (runAt_skipBlank_of_drop_eq rfl hat)]
  exact runAt_bump

/-- Below the nesting limit, a container is entered by taking its opening bracket. -/
theorem reads_enter {d : Nat} (hd : 2 ≤ d) (b : UInt8) : Reads (enter d) () [b] fun _ => True := by
  rw [enter, if_neg (by omega)]
  exact reads_bump b

/-- What follows a field's value is a comma, or the closing brace after the last field. -/
theorem endsField_fieldsBytes {fs : List (String × Json)} {rest : List UInt8}
    (hend : rest.head? = some 125) : EndsField (fieldsBytes false fs ++ rest) := by
  cases fs with
  | nil => exact Or.inr hend
  | cons kv fs => exact Or.inl rfl

/-- **Scalar fields read back** as the map they make, each inserted after those before it; the
loop ends at the closing brace. -/
theorem reads_objectEntries (d : Nat) : ∀ (fs : List (String × Json)) (first : Bool)
    (acc : List (String × Json)) (fuel : Nat), (∀ kv ∈ fs, Scalar kv.2) → fs.length < fuel →
    Reads (objectEntries d first acc fuel) (fs.foldl (fun m kv => Json.insert kv.1 kv.2 m) acc)
      (fieldsBytes first fs) fun rest => rest.head? = some 125
  | _, _, _, 0, _, hlen => absurd hlen (Nat.not_lt_zero _)
  | [], first, acc, fuel + 1, _, _ => by
    rw [objectEntries]
    exact Reads.bind (reads_entryStart_end first) (Reads.pure acc) fun _ h => h
  | (k, v) :: fs, first, acc, fuel + 1, hfs, hlen => by
    obtain ⟨f, rfl⟩ : ∃ f, fuel = f + 1 := ⟨fuel - 1, by rw [List.length_cons] at hlen; omega⟩
    have hkey : Reads (entryStart first) (some k) ((if first then [] else [44]) ++ bytesOf (quote k))
        fun _ => True := by
      cases first
      · exact reads_entryStart_next k
      · exact reads_entryStart_first k
    have hvalue := reads_value_scalar d f (hfs (k, v) List.mem_cons_self)
    have hrest := reads_objectEntries d fs false (Json.insert k v acc) (f + 1)
      (fun kv hkv => hfs kv (List.mem_cons_of_mem _ hkv)) (by rw [List.length_cons] at hlen; omega)
    rw [objectEntries]
    exact Reads.bind hkey (Reads.bind reads_colon (Reads.bind hvalue hrest
      fun _ hend => endsField_fieldsBytes hend) fun _ _ => trivial) fun _ _ => trivial

/-- **A flat object reads back** as the map of its fields, below the nesting limit and with steps
enough for its fields. -/
theorem reads_value_object {d f : Nat} (hd : 2 ≤ d) {fs : List (String × Json)}
    (hfs : ∀ kv ∈ fs, Scalar kv.2) (hf : fs.length < f) :
    Reads (value d (f + 1)) (.object (toMap fs)) (bytesOf (render (.object fs))) fun _ => True := by
  rw [value, bytesOf_render_object, ← List.nil_append (123 :: _)]
  refine Reads.placed (Reads.bind (reads_skipBlank 123 rfl) ?_ fun _ _ => rfl)
  exact Reads.bind (reads_enter hd 123) (Reads.enclosed (Reads.bind_pure Json.object
    (reads_objectEntries (d - 1) fs true [] f hfs hf)) reads_closeObject fun _ _ => rfl)
    fun _ _ => trivial

/-- **A rendered flat object parses back** to the map of its fields: each key holds the last
value given for it. -/
theorem parse_render_object {fs : List (String × Json)} (hfs : ∀ kv ∈ fs, Scalar kv.2) :
    Json.parse (render (.object fs)).toUTF8 = .ok (.object (toMap fs)) := by
  have hB : (render (.object fs)).toUTF8.data.toList = bytesOf (render (.object fs)) := rfl
  have hsize : (render (.object fs)).toUTF8.size = (bytesOf (render (.object fs))).length := by
    rw [← hB, Array.length_toList, ByteArray.size_data]
  have hlen : fs.length < (render (.object fs)).toUTF8.size + 1 := by
    have := length_le_fieldsBytes true fs
    rw [hsize, bytesOf_render_object, List.length_cons, List.length_append]
    omega
  have hread := reads_value_object (d := depthLimit) (by decide) hfs hlen
    (render (.object fs)).toUTF8 0 [] (by rw [List.drop_zero, hB, List.append_nil]) trivial
  have hend := Utf8.drop_add_of_drop_eq
    (show (render (.object fs)).toUTF8.data.toList.drop 0 = bytesOf (render (.object fs)) ++ [] by
      rw [List.drop_zero, hB, List.append_nil])
  unfold Json.parse
  rw [Reader.run_eq_runAt, whole, anyValue, runAt_bind_ok (runAt_bind_ok runAt_budget _ |>.trans
    (by rw [Nat.sub_zero]; exact hread)), runAt_bind_ok (runAt_skipBlank_of_end hend)]
  rfl

end Objects

end Reader

end CrossRef.Json
