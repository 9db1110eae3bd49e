import Mathlib
import CrossRef.Json.Writer
import CrossRef.Proofs.ReaderRuns
/-!
Written strings read back.

`quote` writes a string as a quote, the escape of each character, and a quote. A character is
*plain* when it is written as it is: not a quote, not a backslash, not a control character below
`0x20`. The quote, the backslash and five control characters have a short escape, a backslash and
one letter (`shortEscapes`); every other control character is written `\u00xy`
(`bytesOf_unicodeEscape`).

The string reader goes the other way a run at a time. It looks for the first byte that ends a
run, a quote, a backslash or a control byte; a plain character has none among its bytes, since
below `0x80` it is one byte that is none of these and above it every byte is at least `0x80`
(`endsRun_of_mem_plain`). The run is then decoded as UTF-8, which gives its characters back
(`Utf8.decodeLossy_encode`) with no bad sequence to report, and the byte after it is the closing
quote or the backslash of an escape, which the escape reader takes back to its character
(`escape_reads`). So every text splits into a run of plain characters and the rest
(`exists_plain_run`), and the loop reads the written text back by induction on its fuel, one
run and one escape per turn (`reads_stringRest`, `reads_string`).

The same case analysis shows that a written string holds no newline byte (`ten_not_mem_quote`):
plain characters have none, and no escape does. This is what lets a line of JSON end at its
only newline.
-/

namespace CrossRef.Json

/-- The UTF-8 bytes of a text, as a reader meets them. -/
def bytesOf (s : String) : List UInt8 := s.toUTF8.data.toList

@[simp] theorem bytesOf_append (s t : String) : bytesOf (s ++ t) = bytesOf s ++ bytesOf t := by
  simp only [bytesOf, String.toUTF8_eq_toByteArray, String.toByteArray_append,
    ByteArray.toList_data_append]

theorem bytesOf_eq_flatMap (s : String) : bytesOf s = s.toList.flatMap String.utf8EncodeChar := by
  rw [bytesOf, String.toUTF8_eq_toByteArray, ← String.utf8Encode_toList, List.utf8Encode,
    List.data_toByteArray, List.toList_toArray]

theorem bytesOf_join (l : List String) : bytesOf (String.join l) = l.flatMap bytesOf := by
  rw [bytesOf_eq_flatMap, String.toList_join, List.flatMap_assoc]
  exact List.flatMap_congr fun s _ => (bytesOf_eq_flatMap s).symm

/-- The bytes of a written string: a quote, the escapes of its characters, a quote. -/
theorem bytesOf_quote (s : String) :
    bytesOf (quote s) = 34 :: (s.toList.flatMap (fun c => bytesOf (escapeChar c)) ++ [34]) := by
  rw [quote, bytesOf_append, bytesOf_append, bytesOf_join, List.flatMap_map]
  rfl

/-! ## Escapes -/

/-- A character a string carries as it is: not a quote, not a backslash, not a control
character. -/
def Plain (c : Char) : Prop := c ≠ '"' ∧ c ≠ '\\' ∧ 0x20 ≤ c.toNat

instance : DecidablePred Plain := fun _ => inferInstanceAs (Decidable (_ ∧ _ ∧ _))

/-- Past the short escapes, a control character is written in hex and any other as it is. -/
theorem escapeChar_of_ne {c : Char} (h1 : c ≠ '"') (h2 : c ≠ '\\') (h3 : c ≠ '\n') (h4 : c ≠ '\r')
    (h5 : c ≠ '\t') (h6 : c ≠ '\x08') (h7 : c ≠ '\x0c') :
    escapeChar c = if c.toNat < 0x20 then "\\u" ++ hex4 c.toNat else c.toString := by
  unfold escapeChar
  split <;> simp_all

theorem escapeChar_of_plain {c : Char} (h : Plain c) : escapeChar c = c.toString := by
  obtain ⟨h1, h2, h3⟩ := h
  have hne : ∀ d : Char, d.toNat < 0x20 → c ≠ d := fun d hd hcd => by subst hcd; omega
  rw [escapeChar_of_ne h1 h2 (hne _ (by decide)) (hne _ (by decide)) (hne _ (by decide))
    (hne _ (by decide)) (hne _ (by decide)), if_neg (by omega)]

theorem bytesOf_escapeChar_of_plain {c : Char} (h : Plain c) :
    bytesOf (escapeChar c) = String.utf8EncodeChar c := by
  rw [escapeChar_of_plain h, bytesOf_eq_flatMap, Char.toString_eq_singleton, String.toList_singleton,
    List.flatMap_singleton]

/-- The characters with an escape of two characters, and the byte after the backslash. -/
def shortEscapes : List (Char × UInt8) :=
  [('"', 34), ('\\', 92), ('\n', 110), ('\r', 114), ('\t', 116), ('\x08', 98), ('\x0c', 102)]

theorem bytesOf_shortEscape :
    ∀ p ∈ shortEscapes, bytesOf (escapeChar p.1) = [92, p.2] ∧ p.2 ≠ 10 := by
  decide

/-- The four hex digits of a control character: two zeros, then its two digits. -/
theorem hex4_of_lt {n : Nat} (hn : n < 0x20) :
    (hex4 n).toList = ['0', '0', Nat.digitChar (n / 16), Nat.digitChar (n % 16)] := by
  unfold hex4 zeros
  by_cases hsmall : n < 16
  · rw [Nat.toDigits_of_lt_base hsmall, Nat.div_eq_of_lt hsmall, Nat.mod_eq_of_lt hsmall]
    simp only [String.toList_append, String.toList_ofList]
    rfl
  · rw [Nat.toDigits_of_base_le (by norm_num) (by omega),
      Nat.toDigits_of_lt_base (show n / 16 < 16 by omega)]
    simp only [String.toList_append, String.toList_ofList]
    rfl

/-- The byte of a hex digit. -/
def hexByte (d : Nat) : UInt8 := UInt8.ofNat (Nat.digitChar d).toNat

theorem toNat_digitChar_le : ∀ d < 16, (Nat.digitChar d).toNat ≤ 0x7f := by decide

/-- The bytes of the escape of a control character without a short escape. -/
theorem bytesOf_unicodeEscape {n : Nat} (hn : n < 0x20) :
    bytesOf ("\\u" ++ hex4 n) = [92, 117, 48, 48, hexByte (n / 16), hexByte (n % 16)] := by
  rw [bytesOf_append, bytesOf_eq_flatMap (hex4 n), hex4_of_lt hn]
  have h1 := toNat_digitChar_le (n / 16) (by omega)
  have h2 := toNat_digitChar_le (n % 16) (by omega)
  simp only [List.flatMap_cons, List.flatMap_nil, Utf8.utf8EncodeChar_of_one h1,
    Utf8.utf8EncodeChar_of_one h2, List.append_nil, hexByte]
  rfl

namespace Reader

theorem hexDigit_hexByte : ∀ d < 16, hexDigit (hexByte d) = some d ∧ hexByte d ≠ 10 := by decide

theorem reads_escape_short : ∀ p ∈ shortEscapes, Reads escape p.1 [p.2] fun _ => True := by
  intro p hp B i rest hat _
  unfold escape
  rw [runAt_bind_ok (reads_next p.2 B i rest hat trivial)]
  simp only [shortEscapes, List.mem_cons, List.not_mem_nil, or_false] at hp
  rcases hp with rfl | rfl | rfl | rfl | rfl | rfl | rfl <;> rfl

/-- Four hex digits read back as their value. -/
theorem reads_hexEscape {b₀ b₁ b₂ b₃ : UInt8} {v₀ v₁ v₂ v₃ : Nat} (h₀ : hexDigit b₀ = some v₀)
    (h₁ : hexDigit b₁ = some v₁) (h₂ : hexDigit b₂ = some v₂) (h₃ : hexDigit b₃ = some v₃) :
    Reads hexEscape (((v₀ * 16 + v₁) * 16 + v₂) * 16 + v₃) [b₀, b₁, b₂, b₃] fun _ => True := by
  intro B i rest hat _
  have hsize : i + 4 ≤ B.size := by
    have := Utf8.length_le_of_drop_eq hat
    simp only [List.length_cons, List.length_nil] at this
    omega
  have hds : (List.range 4).map (fun k => (Utf8.byteAt B (i + k)).bind hexDigit) =
      [some v₀, some v₁, some v₂, some v₃] := by
    simp only [List.range_succ, List.range_zero, List.nil_append, List.cons_append, List.map_cons,
      List.map_nil, Utf8.byteAt_add_of_drop_eq hat (n := 0) (by simp),
      Utf8.byteAt_add_of_drop_eq hat (n := 1) (by simp),
      Utf8.byteAt_add_of_drop_eq hat (n := 2) (by simp),
      Utf8.byteAt_add_of_drop_eq hat (n := 3) (by simp)]
    simp [h₀, h₁, h₂, h₃]
  simp only [hexEscape, runAt_bind_ok (runAt_read (B := B) (i := i)),
    runAt_bind_ok (runAt_get (B := B) (i := i)), if_pos hsize]
  rw [runAt_bind_ok (runAt_set _), hds]
  rfl

theorem reads_escape_unicode {c : Char} (hc : c.toNat < 0x20) :
    Reads escape c [117, 48, 48, hexByte (c.toNat / 16), hexByte (c.toNat % 16)] fun _ => True := by
  obtain ⟨hd₂, -⟩ := hexDigit_hexByte (c.toNat / 16) (by omega)
  obtain ⟨hd₃, -⟩ := hexDigit_hexByte (c.toNat % 16) (by omega)
  have hhex : Reads hexEscape (((0 * 16 + 0) * 16 + c.toNat / 16) * 16 + c.toNat % 16)
      [48, 48, hexByte (c.toNat / 16), hexByte (c.toNat % 16)] fun _ => True :=
    reads_hexEscape rfl rfl hd₂ hd₃
  rw [show ((0 * 16 + 0) * 16 + c.toNat / 16) * 16 + c.toNat % 16 = c.toNat by omega] at hhex
  refine Reads.bind (reads_next 117) (Reads.bind hhex ?_ fun _ _ => trivial) fun _ _ => trivial
  -- a code point below the surrogates is the character itself
  rw [if_neg (by omega), if_pos (by omega), Char.ofNat_toNat]
  exact Reads.pure c

/-- **An escaped character reads back**: its escape is a backslash, then bytes, none of them a
newline, that the escape reader takes back to the character. -/
theorem escape_reads {c : Char} (hc : ¬Plain c) :
    ∃ tail, bytesOf (escapeChar c) = 92 :: tail ∧ 10 ∉ tail ∧ Reads escape c tail fun _ => True := by
  by_cases hshort : ∃ p ∈ shortEscapes, p.1 = c
  · obtain ⟨p, hp, rfl⟩ := hshort
    obtain ⟨hbytes, hne⟩ := bytesOf_shortEscape p hp
    exact ⟨[p.2], hbytes, fun h => hne (List.mem_singleton.mp h).symm, reads_escape_short p hp⟩
  · -- every other character that is not plain is a control character, written `\u00xy`
    have hne : ∀ p ∈ shortEscapes, c ≠ p.1 := fun p hp heq => hshort ⟨p, hp, heq.symm⟩
    have h1 := hne ('"', 34) (by decide)
    have h2 := hne ('\\', 92) (by decide)
    have hctl : c.toNat < 0x20 := by
      by_contra h
      exact hc ⟨h1, h2, by omega⟩
    rw [escapeChar_of_ne h1 h2 (hne ('\n', 110) (by decide)) (hne ('\r', 114) (by decide))
      (hne ('\t', 116) (by decide)) (hne ('\x08', 98) (by decide)) (hne ('\x0c', 102) (by decide)),
      if_pos hctl, bytesOf_unicodeEscape hctl]
    refine ⟨_, rfl, ?_, reads_escape_unicode hctl⟩
    have hd₂ := (hexDigit_hexByte (c.toNat / 16) (by omega)).2
    have hd₃ := (hexDigit_hexByte (c.toNat % 16) (by omega)).2
    simp only [List.mem_cons, List.not_mem_nil, or_false, not_or]
    exact ⟨by decide, by decide, by decide, hd₂.symm, hd₃.symm⟩

/-! ## Runs of plain characters -/

theorem endsRun_eq_false {b : UInt8} (h : 0x20 ≤ b.toNat) (h34 : b.toNat ≠ 34) (h92 : b.toNat ≠ 92) :
    endsRun b = false := by
  simp only [endsRun, Bool.or_eq_false_iff, beq_eq_false_iff_ne, decide_eq_false_iff_not, ne_eq,
    ← UInt8.toNat_inj, UInt8.lt_iff_toNat_lt, UInt8.reduceToNat]
  omega

/-- No byte of a plain character ends a run. -/
theorem endsRun_of_mem_plain {c : Char} (h : Plain c) {b : UInt8} (hb : b ∈ String.utf8EncodeChar c) :
    endsRun b = false := by
  obtain ⟨h1, h2, h3⟩ := h
  by_cases hsmall : c.toNat ≤ 0x7f
  · rw [Utf8.utf8EncodeChar_of_one hsmall, List.mem_singleton] at hb
    have hval : b.toNat = c.toNat := by
      simp only [hb, UInt8.toNat_ofNat', Nat.reducePow]
      omega
    -- a character is determined by its code point
    have hcode : ∀ d : Char, c.toNat = d.toNat → c = d := fun d heq => by
      rw [← Char.ofNat_toNat c, heq, Char.ofNat_toNat]
    exact endsRun_eq_false (by omega) (fun heq => h1 (hcode '"' (by rw [← hval, heq]; rfl)))
      (fun heq => h2 (hcode '\\' (by rw [← hval, heq]; rfl)))
  · have := Utf8.le_of_mem_utf8EncodeChar (by omega) hb
    exact endsRun_eq_false (by omega) (by omega) (by omega)

/-- The bytes of a run of plain characters do not end it. -/
theorem endsRun_of_mem_run {raw : List Char} (hraw : ∀ c ∈ raw, Plain c) :
    ∀ x ∈ raw.flatMap String.utf8EncodeChar, endsRun x = false := fun x hx => by
  obtain ⟨c, hc, hx⟩ := List.mem_flatMap.mp hx
  exact endsRun_of_mem_plain (hraw c hc) hx

/-- Every text is a run of plain characters, then nothing or a character that is not plain. -/
theorem exists_plain_run (cs : List Char) :
    ∃ raw tail, cs = raw ++ tail ∧ (∀ c ∈ raw, Plain c) ∧ ∀ e cs', tail = e :: cs' → ¬Plain e := by
  induction cs with
  | nil => exact ⟨[], [], rfl, fun _ h => absurd h List.not_mem_nil, fun _ _ h => by cases h⟩
  | cons c cs ih =>
    by_cases hc : Plain c
    · obtain ⟨raw, tail, rfl, hraw, htail⟩ := ih
      refine ⟨c :: raw, tail, rfl, fun d hd => ?_, htail⟩
      rcases List.mem_cons.mp hd with rfl | hd
      · exact hc
      · exact hraw d hd
    · exact ⟨[], c :: cs, rfl, fun _ h => absurd h List.not_mem_nil,
        fun e cs' h => by injection h with he; exact he ▸ hc⟩

section Runs

variable {B : ByteArray} {i : Nat} {rest : List UInt8}

/-- A run ends at the first byte that ends it. -/
theorem runEnd_of_drop_eq {b : UInt8} (hb : endsRun b = true) :
    ∀ {l : List UInt8} {i : Nat}, B.data.toList.drop i = l ++ b :: rest →
      (∀ x ∈ l, endsRun x = false) → ∀ fuel, l.length ≤ fuel → runEnd B i fuel = i + l.length
  | [], i, hat, _, fuel, _ => by
    cases fuel with
    | zero => rfl
    | succ fuel =>
      simp only [runEnd, Utf8.byteAt_of_drop_eq_cons hat, hb, if_true, List.length_nil, Nat.add_zero]
  | x :: l, i, hat, hl, fuel, hfuel => by
    obtain ⟨fuel, rfl⟩ : ∃ f, fuel = f + 1 := ⟨fuel - 1, by rw [List.length_cons] at hfuel; omega⟩
    have hnext : B.data.toList.drop (i + 1) = l ++ b :: rest :=
      Utf8.drop_add_of_drop_eq (l := [x]) hat
    rw [runEnd, Utf8.byteAt_of_drop_eq_cons hat]
    simp only [hl x List.mem_cons_self, Bool.false_eq_true, if_false]
    rw [runEnd_of_drop_eq hb hnext (fun y hy => hl y (List.mem_cons_of_mem x hy)) fuel
      (by rw [List.length_cons] at hfuel; omega), List.length_cons]
    omega

/-- The bytes between a position and the end of the bytes ahead of it. -/
theorem data_extract_of_drop_eq {l : List UInt8} (hat : B.data.toList.drop i = l ++ rest) :
    (B.extract i (i + l.length)).data.toList = l := by
  rw [ByteArray.data_extract, Array.toList_extract, List.extract, hat, Nat.add_sub_cancel_left,
    List.take_left]

variable {raw : List Char} (hraw : ∀ c ∈ raw, Plain c) {more : List UInt8} (acc : List Char)
  (f : Nat)
include hraw

/-- **A run, then the closing quote**: the string is the characters so far and the run. -/
theorem runAt_stringRest_quote
    (hat : B.data.toList.drop i = raw.flatMap String.utf8EncodeChar ++ 34 :: more) :
    (stringRest acc none (f + 1)).runAt B i =
      (.ok (String.ofList (acc.reverse ++ raw)),
        i + (raw.flatMap String.utf8EncodeChar).length + 1) := by
  have hj := runEnd_of_drop_eq rfl hat (endsRun_of_mem_run hraw) (B.size - i)
    (Utf8.length_le_of_drop_eq hat)
  have hext := data_extract_of_drop_eq hat
  simp only [stringRest, runAt_bind_ok (runAt_read (B := B) (i := i)),
    runAt_bind_ok (runAt_get (B := B) (i := i)), hj, badRunPosition, Utf8.problem_encode hext,
    Utf8.decodeLossy_encode hext, Utf8.byteAt_of_drop_eq_cons (Utf8.drop_add_of_drop_eq hat)]
  rw [runAt_bind_ok (runAt_set _), runAt_bind_ok (runAt_set _), String.toList_ofList,
    List.reverse_append, List.reverse_reverse]
  rfl

/-- **A run, then an escape**: the loop goes on after the backslash with the run's characters
taken. -/
theorem runAt_stringRest_escape
    (hat : B.data.toList.drop i = raw.flatMap String.utf8EncodeChar ++ 92 :: more) :
    (stringRest acc none (f + 1)).runAt B i =
      (escape >>= fun c => stringRest (c :: (raw.reverse ++ acc)) none f).runAt B
        (i + (raw.flatMap String.utf8EncodeChar).length + 1) := by
  have hj := runEnd_of_drop_eq rfl hat (endsRun_of_mem_run hraw) (B.size - i)
    (Utf8.length_le_of_drop_eq hat)
  have hext := data_extract_of_drop_eq hat
  simp only [stringRest, runAt_bind_ok (runAt_read (B := B) (i := i)),
    runAt_bind_ok (runAt_get (B := B) (i := i)), hj, badRunPosition, Utf8.problem_encode hext,
    Utf8.decodeLossy_encode hext, Utf8.byteAt_of_drop_eq_cons (Utf8.drop_add_of_drop_eq hat)]
  rw [runAt_bind_ok (runAt_set _), runAt_bind_ok (runAt_set _), String.toList_ofList]
  rfl

end Runs

/-! ## Strings -/

/-- **The rest of a string reads back**: after the opening quote, the characters as `quote` writes
them and the closing quote read back as those characters, after the ones read so far. Each turn
of the loop takes a run of plain characters, then the closing quote or one escape. -/
theorem reads_stringRest : ∀ (fuel : Nat) (cs acc : List Char), cs.length < fuel →
    Reads (stringRest acc none fuel) (String.ofList (acc.reverse ++ cs))
      (cs.flatMap (fun c => bytesOf (escapeChar c)) ++ [34]) fun _ => True
  | 0, _, _, hlen => absurd hlen (Nat.not_lt_zero _)
  | f + 1, cs, acc, hlen => by
    intro B i rest hat _
    obtain ⟨raw, tail, rfl, hraw, htail⟩ := exists_plain_run cs
    have hrun : raw.flatMap (fun c => bytesOf (escapeChar c)) =
        raw.flatMap String.utf8EncodeChar :=
      List.flatMap_congr fun c hc => bytesOf_escapeChar_of_plain (hraw c hc)
    rw [List.flatMap_append, hrun] at hat ⊢
    cases tail with
    | nil =>
      rw [List.flatMap_nil, List.append_nil] at hat ⊢
      rw [runAt_stringRest_quote hraw acc f (by rw [hat, List.append_assoc]; rfl),
        List.append_nil, List.length_append, List.length_singleton, Nat.add_assoc]
    | cons e cs' =>
      obtain ⟨tl, hbytes, -, hesc⟩ := escape_reads (htail e cs' rfl)
      rw [List.flatMap_cons, hbytes] at hat ⊢
      have hat' : B.data.toList.drop i = raw.flatMap String.utf8EncodeChar ++
          92 :: (tl ++ (cs'.flatMap (fun c => bytesOf (escapeChar c)) ++ [34] ++ rest)) := by
        rw [hat]; simp only [List.append_assoc, List.cons_append]
      have hafter : B.data.toList.drop (i + (raw.flatMap String.utf8EncodeChar).length + 1) =
          tl ++ (cs'.flatMap (fun c => bytesOf (escapeChar c)) ++ [34] ++ rest) := by
        have h := Utf8.drop_add_of_drop_eq (show B.data.toList.drop i =
            (raw.flatMap String.utf8EncodeChar ++ [92]) ++
              (tl ++ (cs'.flatMap (fun c => bytesOf (escapeChar c)) ++ [34] ++ rest)) by
          rw [hat']; simp only [List.append_assoc, List.cons_append, List.nil_append])
        rwa [List.length_append, List.length_singleton, ← Nat.add_assoc] at h
      have hlen' : cs'.length < f := by
        rw [List.length_append, List.length_cons] at hlen
        omega
      -- the escape, then the next turn of the loop on what follows it
      rw [runAt_stringRest_escape hraw acc f hat', runAt_bind_ok (hesc B _ _ hafter trivial),
        reads_stringRest f cs' (e :: (raw.reverse ++ acc)) hlen' B _ rest
          (Utf8.drop_add_of_drop_eq hafter) trivial]
      simp only [List.reverse_cons, List.reverse_append, List.reverse_reverse, List.append_assoc,
        List.cons_append, List.length_append, List.length_cons]
      congr 1
      omega

/-- The escapes of a text are at least as many bytes as it has characters. -/
theorem length_le_escaped (cs : List Char) :
    cs.length ≤ (cs.flatMap fun c => bytesOf (escapeChar c)).length := by
  induction cs with
  | nil => exact Nat.le_refl 0
  | cons c cs ih =>
    have hpos : 0 < (bytesOf (escapeChar c)).length := by
      by_cases hc : Plain c
      · rw [bytesOf_escapeChar_of_plain hc]
        exact List.length_pos_iff.mpr String.utf8EncodeChar_ne_nil
      · obtain ⟨tl, hbytes, -⟩ := escape_reads hc
        rw [hbytes, List.length_cons]
        exact Nat.succ_pos _
    rw [List.flatMap_cons, List.length_append, List.length_cons]
    omega

/-- **A string reads back** from after its opening quote: the loop's fuel, taken from the bytes
left, is more than the characters it has to read. -/
theorem reads_string (s : String) :
    Reads string s (s.toList.flatMap (fun c => bytesOf (escapeChar c)) ++ [34]) fun _ => True := by
  intro B i rest hat _
  have hlen : s.toList.length < B.size - i + 2 := by
    have h1 := Utf8.length_le_of_drop_eq hat
    have h2 := length_le_escaped s.toList
    rw [List.length_append] at h1
    omega
  rw [string, runAt_bind_ok runAt_budget]
  have h := reads_stringRest _ s.toList [] hlen B i rest hat trivial
  rwa [List.reverse_nil, List.nil_append, String.ofList_toList] at h

end Reader

/-! ## No newline -/

/-- No character's escape holds a newline byte. -/
theorem ten_not_mem_escapeChar (c : Char) : 10 ∉ bytesOf (escapeChar c) := by
  by_cases hc : Plain c
  · rw [bytesOf_escapeChar_of_plain hc]
    intro h
    exact Bool.false_ne_true ((Reader.endsRun_of_mem_plain hc h).symm.trans rfl)
  · obtain ⟨tl, hbytes, hten, -⟩ := Reader.escape_reads hc
    rw [hbytes, List.mem_cons]
    rintro (h | h)
    · cases h
    · exact hten h

/-- **A written string holds no newline byte**: a newline inside it is escaped. -/
theorem ten_not_mem_quote (s : String) : 10 ∉ bytesOf (quote s) := by
  rw [bytesOf_quote, List.mem_cons, List.mem_append, List.mem_flatMap, List.mem_singleton]
  rintro (h | ⟨c, -, h⟩ | h)
  · cases h
  · exact ten_not_mem_escapeChar c h
  · cases h

end CrossRef.Json
