import Mathlib
import CrossRef.Wire.Request
import CrossRef.Proofs.JsonMaps
import CrossRef.Proofs.JsonReadBack
/-!
Request lines.

A request is sent as the compact text of one JSON object and a newline. The object's fields are
the operation under `op`, the project root under `root-path`, and the request's own fields; all of
them are strings, but for the row and column of a definition lookup, which are integers. Such an
object is flat and scalar, so the reader takes its text back to the map of its fields
(`Json.Reader.parse_render_object`), and its text holds no newline, strings escaping theirs
(`Json.ten_not_mem_render_object`). The line's only newline is therefore the last byte, and what
comes before it is the request (`Request.encode_is_json_line`). The keys are distinct, so the map
holds under each key the value it was given.

Buffer text travels as Base64 of its UTF-8 bytes. The encoding is ASCII, and decoding it four
characters at a time gives back each group of three bytes, then the last one or two under their
padding (`Base64.decodeList_encodeList`); the arithmetic of each group is the split of 24 bits
into four 6-bit digits and back.
-/

namespace CrossRef.Base64

/-- Every character of the alphabet reads back as its six-bit value, and none is the padding. -/
theorem alphabet_facts : ∀ m < 64, value? (UInt8.ofNat (alphabet.getD m '=').toNat) = some m ∧
    UInt8.ofNat (alphabet.getD m '=').toNat ≠ 61 ∧ (alphabet.getD m '=').toNat ≤ 0x7f := by
  decide +kernel

theorem value?_digit (k : Nat) : value? (UInt8.ofNat (digit k).toNat) = some (k % 64) :=
  (alphabet_facts (k % 64) (Nat.mod_lt k (by norm_num))).1

theorem digit_ne_pad (k : Nat) : UInt8.ofNat (digit k).toNat ≠ 61 :=
  (alphabet_facts (k % 64) (Nat.mod_lt k (by norm_num))).2.1

theorem toNat_digit_le (k : Nat) : (digit k).toNat ≤ 0x7f :=
  (alphabet_facts (k % 64) (Nat.mod_lt k (by norm_num))).2.2

/-- The characters of an encoding are ASCII. -/
theorem toNat_le_of_mem_encodeList (bs : List UInt8) : ∀ c ∈ encodeList bs, c.toNat ≤ 0x7f := by
  have hpad : '='.toNat ≤ 0x7f := by decide
  induction bs using encodeList.induct with
  | case1 => exact fun _ h => absurd h List.not_mem_nil
  | case2 a | case3 a b =>
    simp only [encodeList, List.forall_mem_cons, toNat_digit_le, hpad, List.not_mem_nil,
      IsEmpty.forall_iff, implies_true, and_self]
  | case4 a b c rest ih =>
    simp only [encodeList, List.forall_mem_cons, toNat_digit_le, true_and]
    exact ih

theorem ofNat_eq_of_toNat {m : Nat} {a : UInt8} (h : m = a.toNat) : (m.toUInt8 : UInt8) = a := by
  subst h
  exact UInt8.ofNat_toNat

/-- **Decoding an encoding gives the bytes back**, every group whole. -/
theorem decodeList_encodeList (bs : List UInt8) :
    decodeList ((encodeList bs).map fun c => UInt8.ofNat c.toNat) = (bs, true) := by
  induction bs using encodeList.induct with
  | case1 => rfl
  | case2 a =>
    have ha := a.toNat_lt
    have hpad : UInt8.ofNat '='.toNat = 61 := rfl
    have h1 : (a.toNat * 65536 / 262144 % 64 * 4 + a.toNat * 65536 / 4096 % 64 / 16).toUInt8 = a :=
      ofNat_eq_of_toNat (by omega)
    simp only [encodeList, List.map_cons, List.map_nil]
    rw [decodeList, decodeGroup]
    simp only [value?_digit, hpad, beq_self_eq_true, if_true, h1]
    rfl
  | case3 a b =>
    have ha := a.toNat_lt
    have hb := b.toNat_lt
    have hpad : UInt8.ofNat '='.toNat = 61 := rfl
    have h1 : ((a.toNat * 65536 + b.toNat * 256) / 262144 % 64 * 4 +
        (a.toNat * 65536 + b.toNat * 256) / 4096 % 64 / 16).toUInt8 = a :=
      ofNat_eq_of_toNat (by omega)
    have h2 : ((a.toNat * 65536 + b.toNat * 256) / 4096 % 64 % 16 * 16 +
        (a.toNat * 65536 + b.toNat * 256) / 64 % 64 / 4).toUInt8 = b :=
      ofNat_eq_of_toNat (by omega)
    simp only [encodeList, List.map_cons, List.map_nil]
    rw [decodeList, decodeGroup]
    simp only [value?_digit, hpad, beq_self_eq_true, if_true,
      beq_eq_false_iff_ne.mpr (digit_ne_pad _), Bool.false_eq_true, if_false, h1, h2]
    rfl
  | case4 a b c rest ih =>
    have ha := a.toNat_lt
    have hb := b.toNat_lt
    have hc := c.toNat_lt
    have h1 : ((a.toNat * 65536 + b.toNat * 256 + c.toNat) / 262144 % 64 * 4 +
        (a.toNat * 65536 + b.toNat * 256 + c.toNat) / 4096 % 64 / 16).toUInt8 = a :=
      ofNat_eq_of_toNat (by omega)
    have h2 : ((a.toNat * 65536 + b.toNat * 256 + c.toNat) / 4096 % 64 % 16 * 16 +
        (a.toNat * 65536 + b.toNat * 256 + c.toNat) / 64 % 64 / 4).toUInt8 = b :=
      ofNat_eq_of_toNat (by omega)
    have h3 : ((a.toNat * 65536 + b.toNat * 256 + c.toNat) / 64 % 64 % 4 * 64 +
        (a.toNat * 65536 + b.toNat * 256 + c.toNat) % 64).toUInt8 = c :=
      ofNat_eq_of_toNat (by omega)
    simp only [encodeList, List.map_cons]
    rw [decodeList, decodeGroup]
    simp only [value?_digit, beq_eq_false_iff_ne.mpr (digit_ne_pad _), Bool.false_eq_true,
      if_false, h1, h2, h3, ih]
    rfl

/-- The loop behind `ByteArray.toList` puts the bytes from `i` on after those it has. -/
theorem toList_loop_eq (B : ByteArray) : ∀ n i r, B.size - i = n →
    ByteArray.toList.loop B i r = r.reverse ++ B.data.toList.drop i := by
  intro n
  induction n with
  | zero =>
    intro i r h
    rw [ByteArray.toList.loop, if_neg (by omega), List.drop_eq_nil_of_le
      (by rw [Array.length_toList, ByteArray.size_data]; omega), List.append_nil]
  | succ n ih =>
    intro i r h
    have hi : i < B.data.toList.length := by rw [Array.length_toList, ByteArray.size_data]; omega
    rw [ByteArray.toList.loop, if_pos (by omega), ih (i + 1) _ (by omega),
      List.drop_eq_getElem_cons hi, List.reverse_cons, List.append_assoc, List.singleton_append]
    congr 2
    simp only [ByteArray.get!, Array.getElem_toList]
    exact getElem!_pos B.data i (by simpa using hi)

theorem toList_eq_data_toList (B : ByteArray) : B.toList = B.data.toList := by
  rw [ByteArray.toList, toList_loop_eq B _ 0 [] rfl, List.reverse_nil, List.nil_append, List.drop_zero]

/-- **Base64 text decodes to the bytes it encodes.** -/
theorem decodeList_encodeText (s : String) :
    decodeList (Json.bytesOf (encodeText s)) = (Json.bytesOf s, true) := by
  rw [encodeText, encode, Json.bytesOf_eq_flatMap, String.toList_ofList,
    Json.flatMap_utf8EncodeChar_of_ascii (toNat_le_of_mem_encodeList _), decodeList_encodeList,
    toList_eq_data_toList]
  rfl

end CrossRef.Base64

namespace CrossRef.Request

open Json

/-- A request's positions fit the protocol's 32-bit fields. -/
def PositionsFit : Request → Prop
  | .findDefinitions _ _ row col => row < 2 ^ 32 ∧ col < 2 ^ 32
  | _ => True

theorem scalar_of_mem_fields {r : Request} (hfit : r.PositionsFit) :
    ∀ kv ∈ [("op", Json.string r.op), ("root-path", .string r.root)] ++ r.ownFields, Scalar kv.2 := by
  cases r with
  | findDefinitions root filename row col =>
    obtain ⟨hrow, hcol⟩ := hfit
    simp only [ownFields, List.cons_append, List.nil_append, List.forall_mem_cons, Scalar, Json.ofNat, List.not_mem_nil, IsEmpty.forall_iff, implies_true, and_true, true_and]
    omega
  | _ => simp [ownFields, Scalar]

theorem keys_nodup (r : Request) :
    (([("op", Json.string r.op), ("root-path", .string r.root)] ++ r.ownFields).map (·.1)).Nodup := by
  cases r <;> simp only [ownFields, List.cons_append, List.nil_append, List.map_cons,
    List.map_nil] <;> decide

theorem encode_toUTF8 (r : Request) : r.encode.toUTF8 = (render r.toJson).toUTF8.push 10 := by
  rw [encode, String.toUTF8_eq_toByteArray, String.toByteArray_append, ← ByteArray.append_toByteArray_singleton]
  rfl

/-- **A request is one JSON line.** For every request whose positions fit the protocol: the line
ends with a newline and has no other; what comes before it parses as an object whose keys are
exactly `op`, `root-path` and the request's own fields, holding the request's values; and the text
of an analyze-text request travels as Base64 that decodes to the text's bytes. -/
theorem encode_is_json_line (r : Request) (hfit : r.PositionsFit) :
    ∃ payload : ByteArray, r.encode.toUTF8 = payload.push 10 ∧ 10 ∉ payload.data.toList ∧
      ∃ m, Json.parse payload = .ok (.object m) ∧
        (∀ k, Json.lookup k m =
          Json.lookup k ([("op", .string r.op), ("root-path", .string r.root)] ++ r.ownFields)) ∧
        ∀ root filename text, r = .analyzeText root filename text →
          ∃ t, Json.lookup "text" m = some (.string t) ∧
            Base64.decodeList t.toUTF8.data.toList = (text.toUTF8.data.toList, true) := by
  have hfields := scalar_of_mem_fields hfit
  refine ⟨(render r.toJson).toUTF8, encode_toUTF8 r, ten_not_mem_render_object hfields,
    toMap _, Reader.parse_render_object hfields, fun k => ?_, fun root filename text hr => ?_⟩
  · rw [lookup_toMap, lookup_reverse (keys_nodup r)]
  · subst hr
    refine ⟨Base64.encodeText text, ?_, Base64.decodeList_encodeText text⟩
    rw [lookup_toMap, lookup_reverse (keys_nodup _)]
    rfl

/-- A definition lookup at row 3, column 7 is one JSON line. -/
theorem findDefinitions_is_json_line :
    (Request.findDefinitions "/p" "src/app.clj" 3 7).PositionsFit ∧
    ∃ payload : ByteArray,
      (Request.findDefinitions "/p" "src/app.clj" 3 7).encode.toUTF8 = payload.push 10 ∧
      10 ∉ payload.data.toList ∧
      ∃ m, Json.parse payload = .ok (.object m) ∧
        (∀ k, Json.lookup k m = Json.lookup k
          ([("op", .string "v1/find_definitions"), ("root-path", .string "/p")] ++
            [("filename", .string "src/app.clj"), ("row", .ofNat 3), ("col", .ofNat 7)])) ∧
        ∀ root filename text, Request.findDefinitions "/p" "src/app.clj" 3 7 =
            .analyzeText root filename text →
          ∃ t, Json.lookup "text" m = some (.string t) ∧
            Base64.decodeList t.toUTF8.data.toList = (text.toUTF8.data.toList, true) :=
  have hfit : (Request.findDefinitions "/p" "src/app.clj" 3 7).PositionsFit :=
    ⟨by norm_num, by norm_num⟩
  ⟨hfit, encode_is_json_line _ hfit⟩

end CrossRef.Request
