import Mathlib
import CrossRef.Wire.Response
import CrossRef.Proofs.JsonMaps
import CrossRef.Proofs.JsonReadBack
/-!
Decoding a response line: framing, then the typed reader, then the error field.

`Response.decode` checks three things in turn. The line must end with a newline; a line with no
last byte, or another one, is a protocol error that names its length. What comes before the newline
must then be read in full as a response by the typed reader; if it is not, that is a protocol error
that quotes the reader's message. Only a response read in full is looked at for an error: a string
there is the analyzer's failure, and otherwise the response is the answer.

The order matters. An analyzer that fails and also sends a malformed `analysis` field has its
message replaced by the reader's: the typed reader fails on the field before the error is ever
looked at (`decode_malformed_analysis_hides_error`).

The typed reader sets aside every key it does not know, and only those, as the response's extra
map. That is an invariant of its entries loop: one entry keeps it (`ensures_readEntry`), so a whole
loop does (`ensures_entriesLoop`), and it holds of every response the reader gives
(`ensures_read_extra`). The reasoning is about successful runs only (`Reader.Ensures`): a failed
run gives no response to speak of.

The other way round, what an analyzer writes is read. A response written as an object of entries
(`Entry`), each value read by the reader its key selects and none of `analysis`, `findings` and
`error` written twice, is read in full as the response the entries make (`ofEntries`): those three
fields as their entries give them, and every other key, with its value, in the extra map
(`run_whole_read`). The proof follows the reader: one entry moves the response being read as
`Entry.step` says (`reads_readEntry`), the loop takes the entries in turn with enough fuel from the
bytes left (`reads_entriesLoop`), and the object around them is a brace on each side
(`reads_read`).
-/

namespace CrossRef

namespace Json

/-- The keys of a map made from fields are keys of the fields. -/
theorem mem_keys_of_mem_toMap {fs : List (String × Json)} {k : String}
    (h : k ∈ (toMap fs).map (·.1)) : k ∈ fs.map (·.1) := by
  have hsome : lookup k (toMap fs) ≠ none := fun hnone => (lookup_eq_none_iff.mp hnone) h
  rw [lookup_toMap, ne_eq, lookup_eq_none_iff, not_not, List.map_reverse, List.mem_reverse] at hsome
  exact hsome

namespace Reader

/-! ## Successful runs of the container readers -/

variable {α σ : Type}

/-- An entries loop keeps whatever one entry keeps. -/
theorem ensures_entriesLoop {step : σ → String → Reader σ} {Inv : σ → Prop}
    (hstep : ∀ s k, Inv s → Ensures (step s k) Inv) :
    ∀ (fuel : Nat) (first : Bool) (s : σ), Inv s → Ensures (entriesLoop step first s fuel) Inv
  | 0, _, _, hs => Ensures.pure hs
  | fuel + 1, first, s, hs => by
    rw [entriesLoop]
    refine Ensures.bind (Ensures.trivial _) fun o _ => ?_
    cases o with
    | none => exact Ensures.pure hs
    | some k => exact Ensures.bind (hstep s k hs) fun s' hs' => ensures_entriesLoop hstep fuel false s' hs'

theorem ensures_entries {step : σ → String → Reader σ} {Inv : σ → Prop}
    (hstep : ∀ s k, Inv s → Ensures (step s k) Inv) {s : σ} (hs : Inv s) :
    Ensures (entries s step) Inv :=
  Ensures.bind (Ensures.trivial _) fun fuel _ => ensures_entriesLoop hstep fuel true s hs

/-- A mismatch never gives a value. -/
theorem ensures_mismatch {P : α → Prop} (expected : String) : Ensures (mismatch expected) P := by
  unfold mismatch
  refine Ensures.placed (Ensures.bind (Ensures.trivial _) fun o _ => ?_)
  dsimp only
  -- every branch reads the value of another kind as far as it names it, then fails
  split
  all_goals try split
  all_goals repeat' first
    | exact Ensures.failValue _
    | exact Ensures.failAhead _
    | refine Ensures.bind (Ensures.trivial _) fun _ _ => ?_

/-- An object gives what its contents give. -/
theorem ensures_object {P : α → Prop} {depth : Nat} {expected : String}
    {contents : Nat → Reader α} (h : ∀ d, Ensures (contents d) P) :
    Ensures (object depth expected contents) P := by
  unfold object
  refine Ensures.placed (Ensures.bind (Ensures.trivial _) fun b _ => ?_)
  split
  · exact Ensures.bind (Ensures.trivial _) fun _ _ => Ensures.enclosed (h _)
  · exact ensures_mismatch expected

/-- A whole text gives what its reader gives. -/
theorem ensures_whole {P : α → Prop} {r : Reader α} (h : Ensures r P) : Ensures (whole r) P := by
  unfold whole
  refine Ensures.bind h fun a ha => Ensures.bind (Ensures.trivial _) fun b _ => ?_
  cases b with
  | some _ => exact Ensures.failAhead _
  | none => exact Ensures.pure ha

/-! ## Reading back what the analyzer writes -/

variable {follows : List UInt8 → Prop}

/-- A reader handed the byte budget reads what it reads with any fuel above `n`, when `n` is at
most the bytes it reads: the budget is more than the bytes left. -/
theorem reads_budget_bind {g : Nat → Reader α} {a : α} {enc : List UInt8} {n : Nat}
    (hn : n ≤ enc.length) (hg : ∀ fuel, n < fuel → Reads (g fuel) a enc follows) :
    Reads (budget >>= g) a enc follows := by
  intro B i rest hat hrest
  rw [runAt_bind_ok runAt_budget]
  exact hg _ (by have := Utf8.length_le_of_drop_eq hat; omega) B i rest hat hrest

/-- A token is the next byte that is not blank; it is left under the cursor. -/
theorem reads_token (b : UInt8) (hb : isBlank b = false) :
    Reads token b [] fun rest => rest.head? = some b :=
  Reads.bind (reads_skipBlank b hb) (Reads.pure b) fun _ h => h

/-- **A written string reads back as a text.** -/
theorem reads_text (m : String) : Reads text m (bytesOf (quote m)) follows := by
  rw [text, stringWith, ← List.nil_append (bytesOf (quote m))]
  refine Reads.placed (Reads.bind (reads_token 34 rfl) ?_ fun _ _ => by rw [bytesOf_quote]; rfl)
  rw [bytesOf_quote]
  exact Reads.bind (reads_bump 34) (Reads.bind_pure id (Reads.mono (reads_string m)
    fun _ _ => trivial)) fun _ _ => trivial

/-- An optional text written as a string reads back as that text. -/
theorem reads_optional_text (m : String) :
    Reads (optional text) (some m) (bytesOf (quote m)) follows := by
  rw [optional, ← List.nil_append (bytesOf (quote m))]
  refine Reads.bind (reads_skipBlank 34 rfl) ?_ fun _ _ => by rw [bytesOf_quote]; rfl
  rw [← bind_pure_comp]
  exact Reads.bind_pure some (reads_text m)

/-- **A scalar reads back as any value**, followed by a comma or a closing brace. -/
theorem reads_anyValue_scalar (d : Nat) {v : Json} (hv : Scalar v) :
    Reads (anyValue d) v (bytesOf (render v)) EndsField :=
  reads_budget_bind (Nat.zero_le _) fun fuel hfuel => by
    obtain ⟨f, rfl⟩ : ∃ f, fuel = f + 1 := ⟨fuel - 1, by omega⟩
    exact reads_value_scalar d f hv

/-- **The entries of an empty object** leave the state they start from, at the closing brace. -/
theorem reads_entries_empty (step : σ → String → Reader σ) (s : σ) :
    Reads (entries s step) s [] fun rest => rest.head? = some 125 :=
  reads_budget_bind (Nat.le_refl 0) fun fuel hfuel => by
    obtain ⟨f, rfl⟩ : ∃ f, fuel = f + 1 := ⟨fuel - 1, by omega⟩
    rw [entriesLoop]
    exact Reads.bind (reads_entryStart_end true) (Reads.pure s) fun _ h => h

end Reader

end Json

namespace Response

open Json Json.Reader

/-- The keys a response reads into its own fields. -/
def knownKeys : List String := ["analysis", "findings", "error"]

/-- Every key set aside so far is one the response does not know. -/
def Progress.AsideUnknown (p : Progress) : Prop := ∀ kv ∈ p.setAside, kv.1 ∉ knownKeys

/-- **One entry sets aside only an unknown key**: a known key goes to its field and leaves what
was set aside as it was. -/
theorem ensures_readEntry (d : Nat) (p : Progress) (k : String) (hp : p.AsideUnknown) :
    Ensures (readEntry d p k) Progress.AsideUnknown := by
  unfold readEntry
  dsimp only
  split
  · split
    · exact Ensures.failValue _
    · refine Ensures.bind (Ensures.trivial _) fun _ _ => ?_
      -- each field reader fills its own field and leaves the keys set aside alone
      split <;> exact Ensures.bind (Ensures.trivial _) fun _ _ =>
        Ensures.bind (Ensures.trivial _) fun _ _ => Ensures.pure hp
  · next hk =>
    refine Ensures.bind (Ensures.trivial _) fun _ _ =>
      Ensures.bind (Ensures.trivial _) fun v _ => Ensures.pure fun kv hkv => ?_
    rcases List.mem_cons.mp hkv with rfl | hkv
    · exact fun hmem => hk (List.contains_iff_mem.mpr hmem)
    · exact hp kv hkv

/-- **The extra map holds no known key** in any response the typed reader gives. -/
theorem ensures_read_extra (depth : Nat) :
    Ensures (read depth) fun r => ∀ kv ∈ r.extra, kv.1 ∉ knownKeys := by
  have hempty : Progress.AsideUnknown {} := fun _ h => absurd h List.not_mem_nil
  refine ensures_object fun d => Ensures.bind (ensures_entries (ensures_readEntry d) hempty)
    fun p hp => Ensures.pure fun kv hkv hknown => ?_
  have hkey : kv.1 ∈ p.setAside.reverse.map (·.1) := mem_keys_of_mem_toMap (List.mem_map_of_mem hkv)
  rw [List.map_reverse, List.mem_reverse, List.mem_map] at hkey
  obtain ⟨kv', hkv', heq⟩ := hkey
  exact hp kv' hkv' (heq ▸ hknown)

/-! ## Written responses read back -/

/-- A field of a response as it is written: the bytes of its value and what they read as, under
the key the field is written with. -/
inductive Entry where
  | analysis (a : Analysis) (bytes : List UInt8)
  | findings (fs : List Finding) (bytes : List UInt8)
  | error (m : Option String) (bytes : List UInt8)
  | other (k : String) (v : Json) (bytes : List UInt8)

namespace Entry

/-- The key an entry is written under. -/
def key : Entry → String
  | analysis .. => "analysis"
  | findings .. => "findings"
  | error .. => "error"
  | other k .. => k

/-- The bytes of an entry's value. -/
def bytes : Entry → List UInt8
  | analysis _ t | findings _ t | error _ t | other _ _ t => t

/-- Whether the response reads the entry into a field of its own. -/
def isKnown : Entry → Bool
  | other .. => false
  | _ => true

/-- An entry's value reads as what the entry says, with the reader its key selects at nesting
budget `d`, up to the comma or brace after it; an unknown key is one the response does not read
itself. -/
def ReadsAt (d : Nat) : Entry → Prop
  | analysis a t => Reads (Analysis.read d) a t EndsField
  | findings fs t => Reads (sequence d Finding.schema.read) fs t EndsField
  | error m t => Reads (optional text) m t EndsField
  | other k v t => k ∉ knownKeys ∧ Reads (anyValue d) v t EndsField

/-- The field of a response an entry fills. -/
def fill (r : Response) : Entry → Response
  | analysis a _ => { r with analysis := a }
  | findings fs _ => { r with findings := fs }
  | error m _ => { r with error := m }
  | other .. => r

/-- What an entry sets aside: an unknown key with its value. -/
def aside : Entry → List (String × Json)
  | other k v _ => [(k, v)]
  | _ => []

/-- What reading an entry does to a response being read: a known key fills its field and is
seen, any other is set aside with its value. -/
def step (p : Progress) : Entry → Progress
  | other k v _ => { p with setAside := (k, v) :: p.setAside }
  | e => { p with response := e.fill p.response, seen := e.key :: p.seen }

end Entry

/-- The bytes of entries as the entries loop meets them: each entry after the first has its
comma in front. -/
def entriesBytes (first : Bool) : List Entry → List UInt8
  | [] => []
  | e :: es => (if first then [] else [44]) ++ bytesOf (quote e.key) ++ 58 :: (e.bytes ++
      entriesBytes false es)

/-- The bytes of a response written as an object of entries. -/
def objectBytes (es : List Entry) : List UInt8 := 123 :: (entriesBytes true es ++ [125])

/-- The keys among the entries that the response reads itself. -/
def knownOf (es : List Entry) : List String := (es.filter Entry.isKnown).map Entry.key

/-- **The response entries make**: each field the one entry under its key gives, or its default,
and as the extra map every other key with its value, the last of a repeated key winning. -/
def ofEntries (es : List Entry) : Response :=
  { es.foldl Entry.fill {} with extra := Json.toMap (es.flatMap Entry.aside) }

theorem seen_step (p : Progress) (e : Entry) :
    (e.step p).seen = if e.isKnown then e.key :: p.seen else p.seen := by
  cases e <;> rfl

/-- Reading entries fills the response's fields as the entries do. -/
theorem response_foldl_step (es : List Entry) (p : Progress) :
    (es.foldl Entry.step p).response = es.foldl Entry.fill p.response := by
  induction es generalizing p with
  | nil => rfl
  | cons e es ih =>
    rw [List.foldl_cons, List.foldl_cons, ih]
    cases e <;> rfl

/-- Reading entries sets aside, latest first, what the entries set aside. -/
theorem setAside_foldl_step (es : List Entry) (p : Progress) :
    (es.foldl Entry.step p).setAside = (es.flatMap Entry.aside).reverse ++ p.setAside := by
  induction es generalizing p with
  | nil => rfl
  | cons e es ih =>
    rw [List.foldl_cons, ih, List.flatMap_cons, List.reverse_append, List.append_assoc]
    cases e <;> rfl

/-- An entry reads its value into the response being read, when its key, if one the response
reads itself, was not seen before. -/
theorem reads_readEntry (d : Nat) (p : Progress) {e : Entry} (he : e.ReadsAt d)
    (hfresh : e.isKnown → e.key ∉ p.seen) :
    Reads (readEntry d p e.key) (e.step p) (58 :: e.bytes) EndsField := by
  have hseen : e.isKnown → p.seen.contains e.key = false := fun hk =>
    Bool.eq_false_iff.mpr fun h => hfresh hk (List.contains_iff_mem.mp h)
  cases e with
  | analysis _ _ | findings _ _ | error _ _ =>
    -- a known key not seen before: its own reader runs and the response takes the value
    have hs := hseen rfl
    rw [Entry.key] at hs ⊢
    rw [readEntry]
    simp +decide only [hs, if_true, Bool.false_eq_true, if_false, pure_bind]
    refine Reads.bind reads_colon ?_ fun _ _ => trivial
    exact Reads.bind_pure _ he
  | other k v t =>
    -- an unknown key: its value, whatever it is, is set aside
    rw [Entry.key, readEntry, if_neg (show ¬(["analysis", "findings", "error"].contains k = true) from
      fun h => he.1 (List.contains_iff_mem.mp h))]
    refine Reads.bind reads_colon ?_ fun _ _ => trivial
    exact Reads.bind_pure _ he.2

/-- Each entry takes at least one byte, so the loop's fuel need not exceed the bytes. -/
theorem length_le_entriesBytes (first : Bool) (es : List Entry) :
    es.length ≤ (entriesBytes first es).length := by
  induction es generalizing first with
  | nil => exact Nat.le_refl 0
  | cons e es ih =>
    have := ih false
    simp only [entriesBytes, List.length_cons, List.length_append]
    omega

/-- What follows an entry's value is a comma, or the closing brace after the last entry. -/
theorem endsField_entriesBytes {es : List Entry} {rest : List UInt8}
    (hend : rest.head? = some 125) : EndsField (entriesBytes false es ++ rest) := by
  cases es with
  | nil => exact Or.inr hend
  | cons e es => exact Or.inl rfl

/-- **Written entries read back**, each into the response being read; the loop ends at the
closing brace. The keys the response reads itself are each written once and not seen before. -/
theorem reads_entriesLoop (d : Nat) : ∀ (es : List Entry) (first : Bool) (p : Progress) (fuel : Nat),
    (∀ e ∈ es, e.ReadsAt d) → (knownOf es ++ p.seen).Nodup → es.length < fuel →
    Reads (entriesLoop (readEntry d) first p fuel) (es.foldl Entry.step p) (entriesBytes first es)
      fun rest => rest.head? = some 125
  | _, _, _, 0, _, _, hlen => absurd hlen (Nat.not_lt_zero _)
  | [], first, p, fuel + 1, _, _, _ => by
    rw [entriesLoop]
    exact Reads.bind (reads_entryStart_end first) (Reads.pure p) fun _ h => h
  | e :: es, first, p, fuel + 1, hes, hkeys, hlen => by
    have hkey : Reads (entryStart first) (some e.key)
        ((if first then [] else [44]) ++ bytesOf (quote e.key)) fun _ => True := by
      cases first
      · exact reads_entryStart_next e.key
      · exact reads_entryStart_first e.key
    -- a known key is the first of the keys still to come and not among those seen
    have hfresh : e.isKnown → e.key ∉ p.seen := fun hk => by
      simp only [knownOf, List.filter_cons, hk, if_true, List.map_cons, List.cons_append,
        List.nodup_cons, List.mem_append, not_or] at hkeys
      exact hkeys.1.2
    have hkeys' : (knownOf es ++ (e.step p).seen).Nodup := by
      rw [seen_step]
      cases hk : e.isKnown
      · simpa only [knownOf, List.filter_cons, hk, Bool.false_eq_true, if_false] using hkeys
      · simp only [knownOf, List.filter_cons, hk, if_true, List.map_cons, List.cons_append] at hkeys
        exact List.nodup_middle.mpr hkeys
    have hentry := reads_readEntry d p (hes e List.mem_cons_self) hfresh
    have hrest := reads_entriesLoop d es false (e.step p) fuel
      (fun e' he' => hes e' (List.mem_cons_of_mem _ he')) hkeys' (by rw [List.length_cons] at hlen; omega)
    rw [entriesLoop]
    exact Reads.bind hkey (Reads.bind hentry hrest fun _ hend => endsField_entriesBytes hend)
      fun _ _ => trivial

/-- The response read from entries is the one they make. -/
theorem ofEntries_eq_foldl_step (es : List Entry) :
    ofEntries es = { (es.foldl Entry.step {}).response with
      extra := Json.toMap (es.foldl Entry.step {}).setAside.reverse } := by
  rw [ofEntries, response_foldl_step, setAside_foldl_step, List.append_nil, List.reverse_reverse]

/-- **A written response reads back** as the response its entries make, below the nesting limit:
each value is read by the reader its key selects, and no key the response reads itself is
written twice. -/
theorem reads_read {d : Nat} (hd : 2 ≤ d) {es : List Entry} (hes : ∀ e ∈ es, e.ReadsAt (d - 1))
    (hkeys : (knownOf es).Nodup) : Reads (read d) (ofEntries es) (objectBytes es) fun _ => True := by
  -- the entries, up to the closing brace, make the response
  have hcontents : Reads (do
      let p ← entries ({} : Progress) (readEntry (d - 1))
      pure { p.response with extra := Json.toMap p.setAside.reverse }) (ofEntries es)
      (entriesBytes true es) fun rest => rest.head? = some 125 := by
    rw [ofEntries_eq_foldl_step]
    refine Reads.bind_pure _ (reads_budget_bind (length_le_entriesBytes true es) fun fuel hfuel => ?_)
    exact reads_entriesLoop (d - 1) es true {} fuel hes (by rwa [List.append_nil]) hfuel
  rw [read, Reader.object, objectBytes, ← List.nil_append (123 :: _)]
  exact Reads.placed (Reads.bind (reads_token 123 rfl) (Reads.bind (reads_enter hd 123)
    (Reads.enclosed hcontents reads_closeObject fun _ _ => rfl) fun _ _ => trivial) fun _ _ => rfl)

/-- The whole payload of a written response is read, to its last byte. -/
theorem run_whole_read {es : List Entry} (hes : ∀ e ∈ es, e.ReadsAt (depthLimit - 1))
    (hkeys : (knownOf es).Nodup) {p : ByteArray} (hp : p.data.toList = objectBytes es) :
    (whole (read depthLimit)).run p = (.ok (ofEntries es), p.size) := by
  have hat : p.data.toList.drop 0 = objectBytes es ++ [] := by rw [List.drop_zero, hp, List.append_nil]
  have hsize : p.size = 0 + (objectBytes es).length := by
    rw [Nat.zero_add, ← hp, Array.length_toList, ByteArray.size_data]
  have hend := Utf8.drop_add_of_drop_eq hat
  rw [Reader.run_eq_runAt, whole, runAt_bind_ok (reads_read (by decide) hes hkeys p 0 [] hat trivial),
    runAt_bind_ok (runAt_skipBlank_of_end hend), hsize]
  rfl

/-- **An empty object reads back as the empty analysis**, below the nesting limit. -/
theorem reads_analysis_empty {d : Nat} (hd : 2 ≤ d) {follows : List UInt8 → Prop} :
    Reads (Analysis.read d) {} [123, 125] follows := by
  have hcontents : Reads (do
      let p ← entries ({} : AnalysisInProgress) (Analysis.readEntry (d - 1))
      pure p.analysis) {} [] fun rest => rest.head? = some 125 :=
    Reads.bind_pure _ (reads_entries_empty _ _)
  rw [Analysis.read, arrayOrObject, show ([123, 125] : List UInt8) = [] ++ ([123] ++ ([] ++ [125]))
    from rfl]
  exact Reads.placed (Reads.bind (reads_token 123 rfl) (Reads.bind (reads_enter hd 123)
    (Reads.enclosed hcontents (Reads.mono reads_closeObject fun _ _ => trivial) fun _ _ => rfl)
    fun _ _ => trivial) fun _ _ => rfl)

/-! ## Decoding a line -/

/-- The byte the framing check reads is the line's last. -/
theorem byteAt_size_sub_one (b : ByteArray) :
    Utf8.byteAt b (b.size - 1) = b.data.toList.getLast? := by
  rw [Utf8.byteAt, List.getLast?_eq_getElem?, Array.length_toList, Array.getElem?_toList]
  split
  · next h => exact (Array.getElem?_eq_getElem h).symm
  · next h => exact (Array.getElem?_eq_none (Nat.le_of_not_lt h)).symm

/-- Dropping the last byte of a pushed array gives the array back. -/
theorem extract_push_size_sub_one (p : ByteArray) (x : UInt8) :
    (p.push x).extract 0 ((p.push x).size - 1) = p := by
  apply ByteArray.ext
  simp [ByteArray.data_extract]

/-- A line that does not end in a newline is a framing error naming its length. -/
theorem decode_of_getLast?_ne {b : ByteArray} (h : b.data.toList.getLast? ≠ some 10) :
    decode b =
      .error (.protocol ("response of " ++ toString b.size ++ " bytes is not newline-terminated")) := by
  rw [decode, if_pos (byteAt_size_sub_one b ▸ h)]

/-- A pushed byte is the last the framing check reads. -/
theorem byteAt_push_last (p : ByteArray) (x : UInt8) :
    Utf8.byteAt (p.push x) ((p.push x).size - 1) = some x := by
  rw [byteAt_size_sub_one, ByteArray.data_push, Array.toList_push, List.getLast?_concat]

section Payload

variable {p : ByteArray} {r : Response} {j : Nat}

/-- A newline-terminated line whose payload the reader fails on is a protocol error. -/
theorem decode_push_newline_of_error {e : ReadError}
    (hrun : (whole (read depthLimit)).run p = (.error e, j)) :
    decode (p.push 10) = .error (.protocol ("malformed response: " ++ e.render p)) := by
  simp only [decode, byteAt_push_last, ne_eq, not_true_eq_false, if_false,
    extract_push_size_sub_one, hrun]

/-- A newline-terminated line read in full, with an error in it, is the analyzer's error. -/
theorem decode_push_newline_of_analyzer {m : String}
    (hrun : (whole (read depthLimit)).run p = (.ok r, j)) (hm : r.error = some m) :
    decode (p.push 10) = .error (.analyzer m) := by
  simp only [decode, byteAt_push_last, ne_eq, not_true_eq_false, if_false,
    extract_push_size_sub_one, hrun, hm]

/-- A newline-terminated line read in full, with no error in it, is the answer. -/
theorem decode_push_newline_of_answer
    (hrun : (whole (read depthLimit)).run p = (.ok r, j)) (hm : r.error = none) :
    decode (p.push 10) = .ok r := by
  simp only [decode, byteAt_push_last, ne_eq, not_true_eq_false, if_false,
    extract_push_size_sub_one, hrun, hm]

/-- **A written response decodes** to the analyzer's error when its `error` entry holds a string,
and to the response its entries make otherwise. -/
theorem decode_push_newline_of_entries {es : List Entry}
    (hes : ∀ e ∈ es, e.ReadsAt (depthLimit - 1)) (hkeys : (knownOf es).Nodup)
    (hp : p.data.toList = objectBytes es) :
    (∀ m, (ofEntries es).error = some m → decode (p.push 10) = .error (.analyzer m)) ∧
    ((ofEntries es).error = none → decode (p.push 10) = .ok (ofEntries es)) :=
  ⟨fun _ hm => decode_push_newline_of_analyzer (run_whole_read hes hkeys hp) hm,
    decode_push_newline_of_answer (run_whole_read hes hkeys hp)⟩

end Payload

/-- **Decoding a line** checks its framing, then reads the payload as a response, and only then
looks at the response's error. A line that does not end in a newline is a protocol error naming
its length; a payload the typed reader does not read in full is a protocol error quoting the
reader's message; a response read in full is the analyzer's error when it carries one and the
answer otherwise, its extra map holding none of the keys the response reads itself. A payload
written as an object of entries, each value read by the reader its key selects and no such key
twice, is read in full as the response the entries make: its extra map holds every other key
with its value. -/
theorem decode_framing_then_reader_then_error (b : ByteArray) :
    (b.data.toList.getLast? ≠ some 10 →
      decode b = .error (.protocol ("response of " ++ toString b.size ++ " bytes is not newline-terminated"))) ∧
    ∀ p, b = p.push 10 →
      (∀ e j, (whole (read depthLimit)).run p = (.error e, j) →
        decode b = .error (.protocol ("malformed response: " ++ e.render p))) ∧
      (∀ r j, (whole (read depthLimit)).run p = (.ok r, j) →
        (∀ m, r.error = some m → decode b = .error (.analyzer m)) ∧
        (r.error = none → decode b = .ok r) ∧
        ∀ kv ∈ r.extra, kv.1 ∉ knownKeys) ∧
      ∀ es, p.data.toList = objectBytes es → (∀ e ∈ es, e.ReadsAt (depthLimit - 1)) →
        (knownOf es).Nodup →
        (∀ m, (ofEntries es).error = some m → decode b = .error (.analyzer m)) ∧
        ((ofEntries es).error = none → decode b = .ok (ofEntries es)) := by
  refine ⟨decode_of_getLast?_ne, ?_⟩
  rintro p rfl
  refine ⟨fun e j hrun => decode_push_newline_of_error hrun, fun r j hrun => ⟨?_, ?_, ?_⟩,
    fun es hp hes hkeys => decode_push_newline_of_entries hes hkeys hp⟩
  · exact fun m hm => decode_push_newline_of_analyzer hrun hm
  · exact decode_push_newline_of_answer hrun
  -- the extra keys come from the reader's invariant, not from the decoding
  · exact ensures_whole (ensures_read_extra depthLimit) p 0 r j hrun

/-- A failed request as an analyzer writes it: an empty analysis, the error, and a key of its own. -/
def failedEntries : List Entry :=
  [.analysis {} [123, 125], .error (some "boom") (bytesOf (quote "boom")),
    .other "id" (.ofNat 7) (bytesOf (render (.ofNat 7)))]

/-- An answer with a key of its own and nothing else. -/
def answerEntries : List Entry := [.other "id" (.ofNat 7) (bytesOf (render (.ofNat 7)))]

/-- An empty object without its newline is a framing error; a failed request's line is the
analyzer's error, and an answer's line the answer, its own key kept in the extra map. -/
theorem decode_written_lines :
    decode "\x7b\x7d".toUTF8 = .error (.protocol "response of 2 bytes is not newline-terminated") ∧
    decode ("\x7b\"analysis\":\x7b\x7d,\"error\":\"boom\",\"id\":7\x7d".toUTF8.push 10) =
      .error (.analyzer "boom") ∧
    decode ("\x7b\"id\":7\x7d".toUTF8.push 10) = .ok (ofEntries answerEntries) ∧
    (ofEntries answerEntries).extra = [("id", .ofNat 7)] := by
  have hlast : "\x7b\x7d".toUTF8.data.toList.getLast? ≠ some 10 := by decide +kernel
  have hscalar : Scalar (.ofNat 7) := by norm_num [Scalar, Json.ofNat]
  have hother : (Entry.other "id" (.ofNat 7) (bytesOf (render (.ofNat 7)))).ReadsAt
      (depthLimit - 1) := ⟨by decide, reads_anyValue_scalar _ hscalar⟩
  have hfailed : ∀ e ∈ failedEntries, e.ReadsAt (depthLimit - 1) := by
    simp only [failedEntries, List.mem_cons, List.not_mem_nil, or_false]
    rintro e (rfl | rfl | rfl)
    · exact reads_analysis_empty (by decide)
    · exact reads_optional_text "boom"
    · exact hother
  have hanswer : ∀ e ∈ answerEntries, e.ReadsAt (depthLimit - 1) := by
    simp only [answerEntries, List.mem_cons, List.not_mem_nil, or_false, forall_eq]
    exact hother
  refine ⟨(decode_framing_then_reader_then_error _).1 hlast, ?_, ?_, rfl⟩
  · exact ((((decode_framing_then_reader_then_error _).2 _ rfl).2.2 failedEntries (by decide +kernel)
      hfailed (by decide)).1 "boom" rfl)
  · exact ((((decode_framing_then_reader_then_error _).2 _ rfl).2.2 answerEntries (by decide +kernel)
      hanswer (by decide)).2 rfl)

/-- **An error field does not survive a malformed analysis**: the payload is an object whose
`error` is a string, yet the typed reader fails on the `analysis` field first, so the line
decodes to the reader's protocol error and the analyzer's message is lost. -/
theorem decode_malformed_analysis_hides_error :
    (∃ m, Json.parse "\x7b\"error\":\"boom\",\"analysis\":5\x7d".toUTF8 = .ok (.object m) ∧
      Json.lookup "error" m = some (.string "boom")) ∧
    decode ("\x7b\"error\":\"boom\",\"analysis\":5\x7d".toUTF8.push 10) = .error (.protocol
      "malformed response: invalid type: integer `5`, expected struct RawAnalysis at line 1 column 28") := by
  -- the payload is a rendered object of two scalars, so it parses as that object
  have hobject : "\x7b\"error\":\"boom\",\"analysis\":5\x7d" =
      render (.object [("error", .string "boom"), ("analysis", .ofNat 5)]) := by decide +kernel
  have hscalars : ∀ kv ∈ [("error", Json.string "boom"), ("analysis", .ofNat 5)], Scalar kv.2 := by
    simp only [List.mem_cons, List.not_mem_nil, or_false, forall_eq_or_imp, forall_eq, Scalar,
      Json.ofNat]
    exact ⟨trivial, by norm_num⟩
  -- the typed reader fails on the analysis field, with this message
  have hread : (((whole (read depthLimit)).run
      "\x7b\"error\":\"boom\",\"analysis\":5\x7d".toUTF8).1.map fun _ => ()).mapError
      (ReadError.render "\x7b\"error\":\"boom\",\"analysis\":5\x7d".toUTF8) =
      .error "invalid type: integer `5`, expected struct RawAnalysis at line 1 column 28" := by
    decide +kernel
  refine ⟨⟨_, by rw [hobject]; exact Reader.parse_render_object hscalars, rfl⟩, ?_⟩
  rcases hrun : (whole (read depthLimit)).run
    "\x7b\"error\":\"boom\",\"analysis\":5\x7d".toUTF8 with ⟨_ | r, j⟩
  · simp only [hrun, Except.map, Except.mapError, Except.error.injEq] at hread
    rw [decode_push_newline_of_error hrun, hread]
    rfl
  · simp only [hrun, Except.map, Except.mapError, reduceCtorEq] at hread

end Response

end CrossRef
