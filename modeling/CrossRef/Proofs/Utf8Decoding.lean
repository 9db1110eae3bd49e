import Mathlib
import CrossRef.Text.Utf8
/-!
Decoding what was encoded.

Text is written as the UTF-8 encoding of its characters (`String.utf8EncodeChar`): one byte below
`0x80`, then two, three or four bytes for larger code points, the first carrying the length and
the rest being continuation bytes `10xxxxxx`. Decoding one step at the start of an encoded
character reads that character and its length back (`step_of_drop_eq`). The argument is on the
four ranges of code points; what needs care is the second byte after `E0`, `ED`, `F0` and `F4`,
whose narrower range excludes overlong forms, surrogates and code points past `U+10FFFF`, so it
holds because an encoded character is none of these (`Char.valid`).

A run of steps then decodes the encoding of a list of characters back to the list, and finds no
bad sequence in it (`decodeLossy_encode`, `problem_encode`).

Every byte of a character at or above `0x80` is itself at or above `0x80`
(`le_of_mem_utf8EncodeChar`), so such a character never contains an ASCII byte: a quote, a
backslash, a newline.
-/

namespace CrossRef.Utf8

/-! ## The bytes ahead of a position -/

theorem byteAt_eq_head? (B : ByteArray) (i : Nat) : byteAt B i = (B.data.toList.drop i).head? := by
  unfold byteAt
  rw [List.head?_drop, Array.getElem?_toList]
  split
  · next h => rw [ByteArray.getElem_eq_getElem_data, Array.getElem?_eq_getElem]
  · next h => rw [Array.getElem?_eq_none (by rw [ByteArray.size_data]; omega)]

variable {B : ByteArray} {k : Nat} {rest : List UInt8}

theorem byteAt_add_of_drop_eq {n : Nat} {l : List UInt8} (hat : B.data.toList.drop k = l ++ rest)
    (hn : n < l.length) : byteAt B (k + n) = some l[n] := by
  rw [byteAt_eq_head?, ← List.drop_drop, hat, List.head?_drop, List.getElem?_append_left hn,
    List.getElem?_eq_getElem hn]

theorem byteAt_of_drop_eq_cons {b : UInt8} (h : B.data.toList.drop k = b :: rest) :
    byteAt B k = some b := by
  rw [byteAt_eq_head?, h, List.head?_cons]

theorem byteAt_of_drop_eq_nil (h : B.data.toList.drop k = []) : byteAt B k = none := by
  rw [byteAt_eq_head?, h, List.head?_nil]

/-- Past some bytes ahead of a position, what remains is what followed them. -/
theorem drop_add_of_drop_eq {l : List UInt8} (h : B.data.toList.drop k = l ++ rest) :
    B.data.toList.drop (k + l.length) = rest := by
  rw [← List.drop_drop, h, List.drop_left]

/-- A position with bytes ahead of it is inside the bytes. -/
theorem lt_size_of_drop_eq_cons {b : UInt8} (h : B.data.toList.drop k = b :: rest) : k < B.size := by
  have hlen := congrArg List.length h
  rw [List.length_drop, List.length_cons, Array.length_toList, ByteArray.size_data] at hlen
  omega

/-- The bytes ahead of a position are no more than the bytes after it. -/
theorem length_le_of_drop_eq {l : List UInt8} (h : B.data.toList.drop k = l ++ rest) :
    l.length ≤ B.size - k := by
  have hlen := congrArg List.length h
  rw [List.length_drop, List.length_append, Array.length_toList, ByteArray.size_data] at hlen
  omega

/-- A position with nothing ahead of it is at or past the end. -/
theorem size_le_of_drop_eq_nil (h : B.data.toList.drop k = []) : B.size ≤ k := by
  rw [List.drop_eq_nil_iff, Array.length_toList, ByteArray.size_data] at h
  exact h

/-! ## The encodings by length -/

/-- A code point is below `0xD800`, between the surrogates and `0x110000`. -/
theorem toNat_valid (c : Char) : c.toNat < 0xD800 ∨ (0xDFFF < c.toNat ∧ c.toNat < 0x110000) := by
  have h := c.valid
  simp only [UInt32.isValidChar, Nat.isValidChar] at h
  exact h

theorem utf8EncodeChar_of_one {c : Char} (h : c.toNat ≤ 0x7f) :
    String.utf8EncodeChar c = [UInt8.ofNat c.toNat] := by
  unfold String.utf8EncodeChar
  simp only [Char.toNat] at h ⊢
  rw [if_pos h]

theorem utf8EncodeChar_of_two {c : Char} (h1 : 0x7f < c.toNat) (h2 : c.toNat ≤ 0x7ff) :
    String.utf8EncodeChar c =
      [UInt8.ofNat (c.toNat / 64 % 32 + 0xc0), UInt8.ofNat (c.toNat % 64 + 0x80)] := by
  unfold String.utf8EncodeChar
  simp only [Char.toNat] at h1 h2 ⊢
  rw [if_neg (by omega), if_pos h2]

theorem utf8EncodeChar_of_three {c : Char} (h1 : 0x7ff < c.toNat) (h2 : c.toNat ≤ 0xffff) :
    String.utf8EncodeChar c =
      [UInt8.ofNat (c.toNat / 4096 % 16 + 0xe0), UInt8.ofNat (c.toNat / 64 % 64 + 0x80),
        UInt8.ofNat (c.toNat % 64 + 0x80)] := by
  unfold String.utf8EncodeChar
  simp only [Char.toNat] at h1 h2 ⊢
  rw [if_neg (by omega), if_neg (by omega), if_pos h2]

theorem utf8EncodeChar_of_four {c : Char} (h : 0xffff < c.toNat) :
    String.utf8EncodeChar c =
      [UInt8.ofNat (c.toNat / 262144 % 8 + 0xf0), UInt8.ofNat (c.toNat / 4096 % 64 + 0x80),
        UInt8.ofNat (c.toNat / 64 % 64 + 0x80), UInt8.ofNat (c.toNat % 64 + 0x80)] := by
  unfold String.utf8EncodeChar
  simp only [Char.toNat] at h ⊢
  rw [if_neg (by omega), if_neg (by omega), if_neg (by omega)]

/-- Every byte of a character at or above `0x80` is at or above `0x80`. -/
theorem le_of_mem_utf8EncodeChar {c : Char} (hc : 0x7f < c.toNat) {b : UInt8}
    (hb : b ∈ String.utf8EncodeChar c) : 0x80 ≤ b.toNat := by
  have hv := toNat_valid c
  by_cases h2 : c.toNat ≤ 0x7ff
  · rw [utf8EncodeChar_of_two hc h2] at hb
    simp only [List.mem_cons, List.not_mem_nil, or_false] at hb
    rcases hb with rfl | rfl <;> simp only [UInt8.toNat_ofNat', Nat.reducePow] <;> omega
  · by_cases h3 : c.toNat ≤ 0xffff
    · rw [utf8EncodeChar_of_three (by omega) h3] at hb
      simp only [List.mem_cons, List.not_mem_nil, or_false] at hb
      rcases hb with rfl | rfl | rfl <;> simp only [UInt8.toNat_ofNat', Nat.reducePow] <;> omega
    · rw [utf8EncodeChar_of_four (by omega)] at hb
      simp only [List.mem_cons, List.not_mem_nil, or_false] at hb
      rcases hb with rfl | rfl | rfl | rfl <;> simp only [UInt8.toNat_ofNat', Nat.reducePow] <;>
        omega

/-! ## One step on an encoded character -/

section LeadShapes

variable {lead : UInt8}

theorem leadShape_of_lt (h : lead.toNat < 0x80) : leadShape lead = some (1, 0, 0) := by
  unfold leadShape
  simp only [UInt8.lt_iff_toNat_lt, UInt8.reduceToNat, h, if_true]

theorem leadShape_two (h1 : 0xC2 ≤ lead.toNat) (h2 : lead.toNat < 0xE0) :
    leadShape lead = some (2, 0x80, 0xBF) := by
  unfold leadShape
  simp only [UInt8.lt_iff_toNat_lt, UInt8.reduceToNat, if_neg (show ¬lead.toNat < 0x80 by omega),
    if_neg (show ¬lead.toNat < 0xC2 by omega), if_pos h2]

/-- The lead bytes of three: `E0` and `ED` narrow the second byte, the others do not. -/
theorem leadShape_three (h1 : 0xE0 ≤ lead.toNat) (h2 : lead.toNat < 0xF0) :
    leadShape lead = if lead.toNat = 0xE0 then some (3, 0xA0, 0xBF)
      else if lead.toNat = 0xED then some (3, 0x80, 0x9F) else some (3, 0x80, 0xBF) := by
  unfold leadShape
  simp only [UInt8.lt_iff_toNat_lt, UInt8.reduceToNat, beq_iff_eq, ← UInt8.toNat_inj,
    if_neg (show ¬lead.toNat < 0x80 by omega), if_neg (show ¬lead.toNat < 0xC2 by omega),
    if_neg (show ¬lead.toNat < 0xE0 by omega), if_pos h2]

/-- The lead bytes of four: `F0` and `F4` narrow the second byte, `F1` to `F3` do not. -/
theorem leadShape_four (h1 : 0xF0 ≤ lead.toNat) (h2 : lead.toNat ≤ 0xF4) :
    leadShape lead = if lead.toNat = 0xF0 then some (4, 0x90, 0xBF)
      else if lead.toNat = 0xF4 then some (4, 0x80, 0x8F) else some (4, 0x80, 0xBF) := by
  unfold leadShape
  simp only [UInt8.lt_iff_toNat_lt, UInt8.reduceToNat, beq_iff_eq, ← UInt8.toNat_inj,
    if_neg (show ¬lead.toNat < 0x80 by omega), if_neg (show ¬lead.toNat < 0xC2 by omega),
    if_neg (show ¬lead.toNat < 0xE0 by omega), if_neg (show lead.toNat ≠ 0xE0 by omega),
    if_neg (show lead.toNat ≠ 0xED by omega), if_neg (show ¬lead.toNat < 0xF0 by omega)]
  by_cases h0 : lead.toNat = 0xF0
  · rw [if_pos h0, if_pos h0]
  · by_cases h3 : lead.toNat < 0xF4
    · rw [if_neg h0, if_neg h0, if_pos h3, if_neg (by omega)]
    · rw [if_neg h0, if_neg h0, if_neg h3, if_pos (by omega), if_pos (by omega)]

end LeadShapes

/-- A byte `10xxxxxx` continues a sequence. -/
theorem isCont_ofNat {x : Nat} (h : x < 64) : isCont (UInt8.ofNat (x + 0x80)) = true := by
  have hall : ∀ x < 64, isCont (UInt8.ofNat (x + 0x80)) = true := by decide
  exact hall x h

/-- A second byte inside the range a lead byte allows. -/
theorem within_ofNat (lo hi : Nat) {x : Nat} (hlo : lo ≤ x + 0x80) (hhi : x + 0x80 ≤ hi) (hhi' : hi < 256) :
    (UInt8.ofNat lo ≤ UInt8.ofNat (x + 0x80) ∧ UInt8.ofNat (x + 0x80) ≤ UInt8.ofNat hi) := by
  simp only [UInt8.le_iff_toNat_le, UInt8.toNat_ofNat', Nat.reducePow]
  omega

theorem step_of_one {c : Char} (h : c.toNat ≤ 0x7f)
    (hat : B.data.toList.drop k = String.utf8EncodeChar c ++ rest) : step B k = .char c 1 := by
  rw [utf8EncodeChar_of_one h] at hat
  have hb0 := byteAt_add_of_drop_eq hat (n := 0) (by simp)
  have hlead : leadShape (UInt8.ofNat c.toNat) = some (1, 0, 0) := by
    apply leadShape_of_lt
    simp only [UInt8.toNat_ofNat', Nat.reducePow]
    omega
  have hv : (UInt8.ofNat c.toNat).toNat = c.toNat := by
    simp only [UInt8.toNat_ofNat', Nat.reducePow]
    omega
  simp only [Nat.add_zero, List.getElem_cons_zero] at hb0
  simp only [step, hb0, hlead, hv, Char.ofNat_toNat]

theorem step_of_two {c : Char} (h1 : 0x7f < c.toNat) (h2 : c.toNat ≤ 0x7ff)
    (hat : B.data.toList.drop k = String.utf8EncodeChar c ++ rest) : step B k = .char c 2 := by
  rw [utf8EncodeChar_of_two h1 h2] at hat
  have hb0 := byteAt_add_of_drop_eq hat (n := 0) (by simp)
  have hb1 := byteAt_add_of_drop_eq hat (n := 1) (by simp)
  simp only [Nat.add_zero, List.getElem_cons_zero, List.getElem_cons_succ] at hb0 hb1
  have hlead : leadShape (UInt8.ofNat (c.toNat / 64 % 32 + 0xc0)) = some (2, 0x80, 0xBF) := by
    apply leadShape_two <;> simp only [UInt8.toNat_ofNat', Nat.reducePow] <;> omega
  have hcp : codePoint (UInt8.ofNat (c.toNat / 64 % 32 + 0xc0)) [UInt8.ofNat (c.toNat % 64 + 0x80)] =
      c.toNat := by
    simp only [codePoint, List.length_singleton, List.foldl_cons, List.foldl_nil,
      UInt8.toNat_ofNat', Nat.reducePow]
    omega
  have hsecond := within_ofNat 0x80 0xBF (x := c.toNat % 64) (by omega) (by omega)
    (by omega)
  simp only [step, hb0, hlead, hb1, UInt8.reduceOfNat] at hsecond ⊢
  simp only [if_pos hsecond, Nat.sub_self, List.range_zero, List.map_nil, List.takeWhile_nil,
    List.length_nil, List.filterMap_nil, if_true, hcp, Char.ofNat_toNat]

theorem step_of_three {c : Char} (h1 : 0x7ff < c.toNat) (h2 : c.toNat ≤ 0xffff)
    (hat : B.data.toList.drop k = String.utf8EncodeChar c ++ rest) : step B k = .char c 3 := by
  have hv := toNat_valid c
  rw [utf8EncodeChar_of_three h1 h2] at hat
  have hb0 := byteAt_add_of_drop_eq hat (n := 0) (by simp)
  have hb1 := byteAt_add_of_drop_eq hat (n := 1) (by simp)
  have hb2 := byteAt_add_of_drop_eq hat (n := 2) (by simp)
  simp only [Nat.add_zero, List.getElem_cons_zero, List.getElem_cons_succ] at hb0 hb1 hb2
  have hleadNat : (UInt8.ofNat (c.toNat / 4096 % 16 + 0xe0)).toNat = c.toNat / 4096 + 0xe0 := by
    simp only [UInt8.toNat_ofNat', Nat.reducePow]
    omega
  -- the second byte lies in the range its lead byte allows: no overlong form, no surrogate
  have hsecond : ∃ lo hi, leadShape (UInt8.ofNat (c.toNat / 4096 % 16 + 0xe0)) = some (3, lo, hi) ∧
      (lo ≤ UInt8.ofNat (c.toNat / 64 % 64 + 0x80) ∧ UInt8.ofNat (c.toNat / 64 % 64 + 0x80) ≤ hi) := by
    rw [leadShape_three (by omega) (by omega), hleadNat]
    by_cases he0 : c.toNat / 4096 + 0xe0 = 0xE0
    · rw [if_pos he0]
      exact ⟨_, _, rfl, within_ofNat 0xA0 0xBF (by omega) (by omega) (by omega)⟩
    · rw [if_neg he0]
      by_cases hed : c.toNat / 4096 + 0xe0 = 0xED
      · rw [if_pos hed]
        exact ⟨_, _, rfl, within_ofNat 0x80 0x9F (by omega) (by omega) (by omega)⟩
      · rw [if_neg hed]
        exact ⟨_, _, rfl, within_ofNat 0x80 0xBF (by omega) (by omega) (by omega)⟩
  obtain ⟨lo, hi, hlead, hin⟩ := hsecond
  have hcont : isCont (UInt8.ofNat (c.toNat % 64 + 0x80)) = true := isCont_ofNat (by omega)
  have hcp : codePoint (UInt8.ofNat (c.toNat / 4096 % 16 + 0xe0))
      [UInt8.ofNat (c.toNat / 64 % 64 + 0x80), UInt8.ofNat (c.toNat % 64 + 0x80)] = c.toNat := by
    simp only [codePoint, List.length_cons, List.length_nil, List.foldl_cons, List.foldl_nil,
      UInt8.toNat_ofNat', Nat.reducePow]
    omega
  simp only [step, hb0, hlead, hb1, if_pos hin, show 3 - 2 = 1 from rfl, List.range_one,
    List.map_cons, List.map_nil, Nat.add_zero, hb2, List.takeWhile_cons, Option.any_some, hcont,
    List.takeWhile_nil, List.length_singleton, if_true, List.filterMap_cons, id,
    List.filterMap_nil, hcp, Char.ofNat_toNat]

theorem step_of_four {c : Char} (h : 0xffff < c.toNat)
    (hat : B.data.toList.drop k = String.utf8EncodeChar c ++ rest) : step B k = .char c 4 := by
  have hv := toNat_valid c
  rw [utf8EncodeChar_of_four h] at hat
  have hb0 := byteAt_add_of_drop_eq hat (n := 0) (by simp)
  have hb1 := byteAt_add_of_drop_eq hat (n := 1) (by simp)
  have hb2 := byteAt_add_of_drop_eq hat (n := 2) (by simp)
  have hb3 := byteAt_add_of_drop_eq hat (n := 3) (by simp)
  simp only [Nat.add_zero, List.getElem_cons_zero, List.getElem_cons_succ] at hb0 hb1 hb2 hb3
  have hleadNat : (UInt8.ofNat (c.toNat / 262144 % 8 + 0xf0)).toNat = c.toNat / 262144 + 0xf0 := by
    simp only [UInt8.toNat_ofNat', Nat.reducePow]
    omega
  -- the second byte lies in the range its lead byte allows: no overlong form, nothing past
  -- `U+10FFFF`
  have hsecond : ∃ lo hi, leadShape (UInt8.ofNat (c.toNat / 262144 % 8 + 0xf0)) = some (4, lo, hi) ∧
      (lo ≤ UInt8.ofNat (c.toNat / 4096 % 64 + 0x80) ∧
        UInt8.ofNat (c.toNat / 4096 % 64 + 0x80) ≤ hi) := by
    rw [leadShape_four (by omega) (by omega), hleadNat]
    by_cases hf0 : c.toNat / 262144 + 0xf0 = 0xF0
    · rw [if_pos hf0]
      exact ⟨_, _, rfl, within_ofNat 0x90 0xBF (by omega) (by omega) (by omega)⟩
    · rw [if_neg hf0]
      by_cases hf4 : c.toNat / 262144 + 0xf0 = 0xF4
      · rw [if_pos hf4]
        exact ⟨_, _, rfl, within_ofNat 0x80 0x8F (by omega) (by omega) (by omega)⟩
      · rw [if_neg hf4]
        exact ⟨_, _, rfl, within_ofNat 0x80 0xBF (by omega) (by omega) (by omega)⟩
  obtain ⟨lo, hi, hlead, hin⟩ := hsecond
  have hcont2 : isCont (UInt8.ofNat (c.toNat / 64 % 64 + 0x80)) = true := isCont_ofNat (by omega)
  have hcont3 : isCont (UInt8.ofNat (c.toNat % 64 + 0x80)) = true := isCont_ofNat (by omega)
  have hcp : codePoint (UInt8.ofNat (c.toNat / 262144 % 8 + 0xf0))
      [UInt8.ofNat (c.toNat / 4096 % 64 + 0x80), UInt8.ofNat (c.toNat / 64 % 64 + 0x80),
        UInt8.ofNat (c.toNat % 64 + 0x80)] = c.toNat := by
    simp only [codePoint, List.length_cons, List.length_nil, List.foldl_cons, List.foldl_nil,
      UInt8.toNat_ofNat', Nat.reducePow]
    omega
  simp only [step, hb0, hlead, hb1, if_pos hin, show 4 - 2 = 2 from rfl, List.range_succ,
    List.range_zero, List.nil_append, List.singleton_append, List.map_cons, List.map_nil,
    Nat.add_zero, hb2, show k + 2 + 1 = k + 3 from rfl, hb3, List.takeWhile_cons, Option.any_some,
    hcont2, hcont3, List.takeWhile_nil, if_true, List.length_cons, List.length_nil,
    List.filterMap_cons, id, List.filterMap_nil, hcp, Char.ofNat_toNat]

/-- **One step at an encoded character** reads the character and its length. -/
theorem step_of_drop_eq {c : Char} (hat : B.data.toList.drop k = String.utf8EncodeChar c ++ rest) :
    step B k = .char c (String.utf8EncodeChar c).length := by
  by_cases h1 : c.toNat ≤ 0x7f
  · rw [step_of_one h1 hat, utf8EncodeChar_of_one h1, List.length_singleton]
  · by_cases h2 : c.toNat ≤ 0x7ff
    · rw [step_of_two (by omega) h2 hat, utf8EncodeChar_of_two (by omega) h2]
      rfl
    · by_cases h3 : c.toNat ≤ 0xffff
      · rw [step_of_three (by omega) h3 hat, utf8EncodeChar_of_three (by omega) h3]
        rfl
      · rw [step_of_four (by omega) hat, utf8EncodeChar_of_four (by omega)]
        rfl

/-! ## Runs of steps -/

/-- The bytes of a list of characters. -/
theorem length_encode_le (cs : List Char) : cs.length ≤ (cs.flatMap String.utf8EncodeChar).length := by
  induction cs with
  | nil => exact Nat.le_refl 0
  | cons c cs ih =>
    have hpos : 0 < (String.utf8EncodeChar c).length :=
      List.length_pos_iff.mpr String.utf8EncodeChar_ne_nil
    rw [List.flatMap_cons, List.length_append, List.length_cons]
    omega

/-- Lossy decoding of the encoding of some characters, up to the end of the bytes, gives them
back after what was decoded before. -/
theorem decodeLossyFrom_encode (cs : List Char) :
    ∀ (k fuel : Nat) (acc : List Char), B.data.toList.drop k = cs.flatMap String.utf8EncodeChar →
      cs.length ≤ fuel → decodeLossyFrom B k acc fuel = acc.reverse ++ cs := by
  induction cs with
  | nil =>
    intro k fuel acc hat _
    cases fuel with
    | zero => rw [decodeLossyFrom, List.append_nil]
    | succ fuel =>
      have hend : ¬k < B.size := Nat.not_lt.mpr (size_le_of_drop_eq_nil hat)
      rw [decodeLossyFrom, if_neg hend, List.append_nil]
  | cons c cs ih =>
    intro k fuel acc hat hfuel
    obtain ⟨fuel, rfl⟩ : ∃ f, fuel = f + 1 := ⟨fuel - 1, by rw [List.length_cons] at hfuel; omega⟩
    rw [List.flatMap_cons] at hat
    have hin : k < B.size := by
      obtain ⟨b, bs, hbs⟩ := List.exists_cons_of_ne_nil (String.utf8EncodeChar_ne_nil (c := c))
      rw [hbs, List.cons_append] at hat
      exact lt_size_of_drop_eq_cons hat
    rw [decodeLossyFrom, if_pos hin, step_of_drop_eq hat]
    dsimp only
    rw [ih _ fuel (c :: acc) (drop_add_of_drop_eq hat) (by rw [List.length_cons] at hfuel; omega),
      List.reverse_cons, List.append_assoc, List.singleton_append]

/-- The first bad sequence after the encoding of some characters is none. -/
theorem problemFrom_encode (cs : List Char) :
    ∀ (k fuel : Nat), B.data.toList.drop k = cs.flatMap String.utf8EncodeChar →
      problemFrom B k fuel = none := by
  induction cs with
  | nil =>
    intro k fuel hat
    cases fuel with
    | zero => rfl
    | succ fuel =>
      rw [problemFrom, if_neg (Nat.not_lt.mpr (size_le_of_drop_eq_nil hat))]
  | cons c cs ih =>
    intro k fuel hat
    cases fuel with
    | zero => rfl
    | succ fuel =>
      rw [List.flatMap_cons] at hat
      by_cases hin : k < B.size
      · rw [problemFrom, if_pos hin, step_of_drop_eq hat]
        exact ih _ fuel (drop_add_of_drop_eq hat)
      · rw [problemFrom, if_neg hin]

/-- **Lossy decoding of encoded text** is the text. -/
theorem decodeLossy_encode {cs : List Char} (h : B.data.toList = cs.flatMap String.utf8EncodeChar) :
    decodeLossy B = String.ofList cs := by
  have hfuel : cs.length ≤ B.size := by
    have hlen := congrArg List.length h
    rw [Array.length_toList, ByteArray.size_data] at hlen
    rw [hlen]
    exact length_encode_le cs
  rw [decodeLossy, decodeLossyFrom_encode cs 0 B.size [] (by rw [List.drop_zero, h]) hfuel,
    List.reverse_nil, List.nil_append]

/-- **Encoded text has no bad sequence.** -/
theorem problem_encode {cs : List Char} (h : B.data.toList = cs.flatMap String.utf8EncodeChar) :
    problem B = none :=
  problemFrom_encode cs 0 B.size (by rw [List.drop_zero, h])

end CrossRef.Utf8
