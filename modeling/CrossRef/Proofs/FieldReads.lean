import Mathlib
import CrossRef.Record.Schema
import CrossRef.Proofs.JsonMaps
/-!
Reading a record's fields from a map.

`takeFields` takes the entries of an object in order: an entry under a field's key is read into
that field's slot of the record under construction, and every other entry is kept. The fields of
a record each fill a slot of their own (`Record.Field.Slots`), and an object the reader gives
has each key once. Then the order of the entries does not matter:

* each field's slot ends as reading the value under its key makes it, or as it was when the key
  is absent (`takeFields_get`);
* the entries kept are those whose keys are no field's, in their order (`takeFields_kept`);
* reading succeeds when each value under a field's key reads and no slot was filled before
  (`takeFields_ok`).

All three rest on one lemma for one entry (`takeFields_cons_ok`). The extent is read the same
way from the entries a record's own fields keep, and a record decoded from a map is built from
what its fields' keys hold, the extent read from the map, and the map's other entries
(`Schema.ofJson_map_ok`); conversely, a map whose values read has a record
(`Schema.ofJson_map_of`).

Each scalar reader has one specification of what it accepts (`run_string_eq_ok` and the rest).
-/

namespace CrossRef.Record

open CrossRef.Json

theorem except_bind_eq_ok {ε α β : Type} {e : Except ε α} {f : α → Except ε β} {b : β} :
    e >>= f = .ok b ↔ ∃ a, e = .ok a ∧ f a = .ok b := by
  cases e <;> simp [bind, Except.bind]

theorem except_map_eq_ok {ε α β : Type} {e : Except ε α} {f : α → β} {b : β} :
    e.map f = .ok b ↔ ∃ a, e = .ok a ∧ f a = b := by
  cases e <;> simp [Except.map]

/-! ## The scalar readers -/

section Readers

variable {x : Json}

theorem run_string_eq_ok {a : String} :
    (Source.string : FromJson String).run x = .ok a ↔ x = .string a := by
  cases x <;> simp [Source.string, ReaderT.run, eq_comm]

theorem run_bool_eq_ok {a : Bool} :
    (Source.bool : FromJson Bool).run x = .ok a ↔ x = .bool a := by
  cases x <;> simp [Source.bool, ReaderT.run, eq_comm]

theorem unsignedOfJson_eq_ok {bound : Nat} {expected : String} {a : Nat} :
    unsignedOfJson bound expected x = .ok a ↔ x = .number (.nat a) ∧ a < bound := by
  cases x with
  | number n =>
    cases n with
    | nat n => by_cases h : n < bound <;> simp [unsignedOfJson, Reader.acceptBelow, h] <;> omega
    | neg | float => simp [unsignedOfJson, Reader.acceptBelow]
  | _ => simp [unsignedOfJson]

theorem run_u32_eq_ok {a : Nat} :
    (Source.u32 : FromJson Nat).run x = .ok a ↔ x = .number (.nat a) ∧ a < 2 ^ 32 :=
  unsignedOfJson_eq_ok

theorem run_u64_eq_ok {a : Nat} :
    (Source.u64 : FromJson Nat).run x = .ok a ↔ x = .number (.nat a) ∧ a < 2 ^ 64 :=
  unsignedOfJson_eq_ok

theorem levelOfName_eq_ok {n : String} {l : Level} : levelOfName n = .ok l ↔ n = l.name := by
  unfold levelOfName
  split <;> cases l <;> simp_all [Level.name]

/-- A level is read from its name, or from a map of its name to `null`. -/
theorem run_level_eq_ok {l : Level} :
    (Source.level : FromJson Level).run x = .ok l ↔
      x = .string l.name ∨ x = .object [(l.name, .null)] := by
  simp only [Source.level, ReaderT.run, levelOfJson]
  cases x with
  | string s => simp [variantOfJson, levelOfName_eq_ok]
  | object fs =>
    rcases fs with _ | ⟨⟨k, v⟩, _ | ⟨kv, rest⟩⟩
    · simp [variantOfJson]
    · cases v <;> simp [variantOfJson, except_bind_eq_ok, levelOfName_eq_ok, pure,
        Except.pure, throw, throwThe, MonadExceptOf.throw]
    · simp [variantOfJson]
  | _ => simp [variantOfJson]

/-- An optional value is absent when given as `null`, and read by its reader otherwise. -/
theorem run_optional_eq_ok {α : Type} {r : FromJson α} {o : Option α} :
    (Source.optional r : FromJson (Option α)).run x = .ok o ↔
      (x = .null ∧ o = none) ∨ (x ≠ .null ∧ ∃ a, r.run x = .ok a ∧ o = some a) := by
  by_cases hx : x = .null
  · subst hx
    simp [Source.optional, ReaderT.run, eq_comm]
  · have hrun : (Source.optional r : FromJson (Option α)).run x = (r.run x).map some := by
      cases x with
      | null => exact absurd rfl hx
      | _ => rfl
    rw [hrun, except_map_eq_ok]
    simp [hx, eq_comm]

end Readers

/-! ## Fields and their slots -/

variable {P : Type}

/-- What a slot holds once the value under its key, if there is one, has been read into it. -/
def readSlot {α : Type} (r : FromJson α) (before : Option α) : Option Json →
    Except String (Option α)
  | none => .ok before
  | some x => (r.run x).map some

theorem Field.read_run (f : Field P) (p : P) (x : Json) :
    (f.read (m := FromJson) p).run x = ((f.reader (m := FromJson)).run x).map (f.put p) := rfl

/-- Two fields that keep out of each other's slots. -/
def Field.Apart (f g : Field P) : Prop :=
  (∀ p a, f.get (g.put p a) = f.get p) ∧ ∀ p a, g.get (f.put p a) = g.get p

theorem Field.Apart.symm {f g : Field P} (h : Field.Apart f g) : Field.Apart g f := ⟨h.2, h.1⟩

instance : Std.Symm (Field.Apart (P := P)) := ⟨fun _ _ => Field.Apart.symm⟩

/-- Fields that each fill a slot of their own: no two share a key, a value put into a field's
slot is what the slot then holds, and fields keep out of each other's slots. -/
structure Field.Slots (fields : List (Field P)) : Prop where
  keys_nodup : (fields.map (·.key)).Nodup
  get_put : ∀ f ∈ fields, ∀ p a, f.get (f.put p a) = some a
  apart : fields.Pairwise Field.Apart

theorem findField_eq_some {fields : List (Field P)} {k : String} {g : Field P}
    (h : findField fields k = some g) : g ∈ fields ∧ g.key = k :=
  ⟨List.mem_of_find?_eq_some h, by simpa using List.find?_some h⟩

theorem findField_eq_none {fields : List (Field P)} {k : String} :
    findField fields k = none ↔ ∀ g ∈ fields, g.key ≠ k := by
  simp [findField]

namespace Field.Slots

variable {fields : List (Field P)} (hs : Field.Slots fields) {f g : Field P}
include hs

theorem eq_of_key_eq (hf : f ∈ fields) (hg : g ∈ fields) (h : f.key = g.key) : f = g :=
  List.inj_on_of_nodup_map hs.keys_nodup hf hg h

theorem get_put_of_ne (hf : f ∈ fields) (hg : g ∈ fields) (h : f.key ≠ g.key) (p : P)
    (a : g.Value) : f.get (g.put p a) = f.get p :=
  (hs.apart.forall hf hg fun e => h (e ▸ rfl)).1 p a

end Field.Slots

/-! ## Taking the fields of a map -/

section TakeFields

variable {fields : List (Field P)}

/-- **One entry of `takeFields`.** An entry under a field's key is read into that field's slot,
which must be empty; an entry under any other key is kept. -/
theorem takeFields_cons_ok {p : P} {k : String} {x : Json} {rest : List (String × Json)}
    {r : P × List (String × Json)} (h : takeFields fields p ((k, x) :: rest) = .ok r) :
    (∃ g ∈ fields, g.key = k ∧ g.get p = none ∧ ∃ a, (g.reader (m := FromJson)).run x = .ok a ∧
        takeFields fields (g.put p a) rest = .ok r) ∨
      ((∀ g ∈ fields, g.key ≠ k) ∧
        ∃ kept, takeFields fields p rest = .ok (r.1, kept) ∧ r.2 = (k, x) :: kept) := by
  rw [takeFields] at h
  cases hfind : findField fields k with
  | some g =>
    obtain ⟨hg, hkey⟩ := findField_eq_some hfind
    simp only [hfind] at h
    by_cases hset : g.isSet p
    · simp [hset] at h
    · have hempty : g.get p = none := by simpa [Field.isSet] using hset
      rw [if_neg hset, except_bind_eq_ok] at h
      obtain ⟨p', hread, hrest⟩ := h
      obtain ⟨a, ha, rfl⟩ := except_map_eq_ok.1 (Field.read_run g p x ▸ hread)
      exact .inl ⟨g, hg, hkey, hempty, a, ha, hrest⟩
  | none =>
    simp only [hfind] at h
    rw [except_bind_eq_ok] at h
    obtain ⟨⟨p', kept⟩, hrest, hr⟩ := h
    cases hr
    exact .inr ⟨findField_eq_none.1 hfind, kept, hrest, rfl⟩

/-- **What a field's slot holds after reading a map.** Each key comes once and every field keeps
to its own slot, so the slot ends as reading the value under its key makes it, or as it was
when the key is absent. The induction is on the entries; an entry of another field leaves the
slot as it was (`get_put_of_ne`). -/
theorem takeFields_get (hs : Field.Slots fields) {f : Field P} (hf : f ∈ fields) {p p' : P}
    {es kept : List (String × Json)} (hes : (es.map (·.1)).Nodup)
    (h : takeFields fields p es = .ok (p', kept)) :
    readSlot f.reader (f.get p) (lookup f.key es) = .ok (f.get p') := by
  induction es generalizing p kept with
  | nil =>
    rw [takeFields] at h
    cases h
    rfl
  | cons kv rest ih =>
    obtain ⟨k, x⟩ := kv
    rw [List.map_cons, List.nodup_cons] at hes
    rcases takeFields_cons_ok h with ⟨g, hg, rfl, -, a, hread, hrest⟩ | ⟨hnot, kept', hrest, -⟩
    · have hafter := ih hes.2 hrest
      by_cases hfg : f.key = g.key
      · -- the entry is the field's own, and its key does not come again
        obtain rfl := hs.eq_of_key_eq hf hg hfg
        rw [lookup_eq_none_iff.2 hes.1, readSlot, hs.get_put f hf] at hafter
        rw [lookup_cons, if_pos rfl, readSlot, hread, ← hafter]
        rfl
      · rw [hs.get_put_of_ne hf hg hfg] at hafter
        rwa [lookup_cons, if_neg hfg]
    · rw [lookup_cons, if_neg (hnot f hf)]
      exact ih hes.2 hrest

/-- **The entries `takeFields` keeps** are those whose keys are no field's, in order. -/
theorem takeFields_kept {p p' : P} {es kept : List (String × Json)}
    (h : takeFields fields p es = .ok (p', kept)) :
    kept = es.filter fun kv => kv.1 ∉ fields.map (·.key) := by
  induction es generalizing p kept with
  | nil =>
    rw [takeFields] at h
    cases h
    rfl
  | cons kv rest ih =>
    obtain ⟨k, x⟩ := kv
    rcases takeFields_cons_ok h with ⟨g, hg, rfl, -, a, -, hrest⟩ | ⟨hnot, kept', hrest, hkept⟩
    · have hk : g.key ∈ fields.map (·.key) := List.mem_map_of_mem hg
      rw [ih hrest, List.filter_cons_of_neg (by simpa using hk)]
    · have hk : k ∉ fields.map (·.key) := by simpa using hnot
      dsimp only at hrest hkept
      rw [hkept, ih hrest, List.filter_cons_of_pos (by simpa using hk)]

/-- **`takeFields` succeeds** on a map whose values under the fields' keys read, when no slot
of those keys was filled before. -/
theorem takeFields_ok (hs : Field.Slots fields) {p : P} {es : List (String × Json)}
    (hes : (es.map (·.1)).Nodup)
    (hempty : ∀ f ∈ fields, f.key ∈ es.map (·.1) → f.get p = none)
    (hread : ∀ kv ∈ es, ∀ f ∈ fields, f.key = kv.1 →
      ∃ a, (f.reader (m := FromJson)).run kv.2 = .ok a) :
    ∃ p', takeFields fields p es = .ok (p', es.filter fun kv => kv.1 ∉ fields.map (·.key)) := by
  induction es generalizing p with
  | nil => exact ⟨p, by rw [takeFields]; rfl⟩
  | cons kv rest ih =>
    obtain ⟨k, x⟩ := kv
    rw [List.map_cons, List.nodup_cons] at hes
    cases hfind : findField fields k with
    | some g =>
      obtain ⟨hg, rfl⟩ := findField_eq_some hfind
      have hnone : g.get p = none := hempty g hg List.mem_cons_self
      obtain ⟨a, ha⟩ := hread _ List.mem_cons_self g hg rfl
      -- the slots of the other keys are still empty once the entry is read
      have hempty' : ∀ f ∈ fields, f.key ∈ rest.map (·.1) → f.get (g.put p a) = none := by
        intro f hf hfk
        have hne : f.key ≠ g.key := fun e => hes.1 (e ▸ hfk)
        rw [hs.get_put_of_ne hf hg hne]
        exact hempty f hf (List.mem_cons_of_mem _ hfk)
      obtain ⟨p', hrest⟩ :=
        ih hes.2 hempty' fun kv hkv => hread kv (List.mem_cons_of_mem _ hkv)
      refine ⟨p', ?_⟩
      have hk : g.key ∈ fields.map (·.key) := List.mem_map_of_mem hg
      have hset : g.isSet p = false := by simp [Field.isSet, hnone]
      rw [takeFields, hfind, List.filter_cons_of_neg (by simpa using hk)]
      simp only [hset, Bool.false_eq_true, if_false, Field.read_run, ha]
      exact hrest
    | none =>
      obtain ⟨p', hrest⟩ := ih hes.2
        (fun f hf hfk => hempty f hf (List.mem_cons_of_mem _ hfk))
        fun kv hkv => hread kv (List.mem_cons_of_mem _ hkv)
      refine ⟨p', ?_⟩
      have hk : k ∉ fields.map (·.key) := by simpa using findField_eq_none.1 hfind
      rw [takeFields, hfind, List.filter_cons_of_pos (by simpa using hk), hrest]
      rfl

/-- With each key once, a key holds the value of its entry. -/
theorem lookup_of_mem {es : List (String × Json)} (hes : (es.map (·.1)).Nodup) {kv : String × Json}
    (h : kv ∈ es) : lookup kv.1 es = some kv.2 := by
  induction es with
  | nil => simp at h
  | cons kv' rest ih =>
    obtain ⟨k', v'⟩ := kv'
    rw [List.map_cons, List.nodup_cons] at hes
    rcases List.mem_cons.1 h with rfl | hmem
    · simp
    · have hkey : kv.1 ∈ rest.map (·.1) := List.mem_map_of_mem hmem
      have hne : kv.1 ≠ k' := fun e => hes.1 (e ▸ hkey)
      rw [lookup_cons, if_neg hne]
      exact ih hes.2 hmem

/-- A field's value in a map reads, and is there when the field is required. -/
def Field.ReadsIn (f : Field P) (es : List (String × Json)) : Prop :=
  ∃ g, readSlot f.reader none (lookup f.key es) = .ok g ∧ (f.required → g.isSome)

/-- `takeFields_ok` from empty slots, for a map whose fields' values read. -/
theorem takeFields_ok_of_readsIn (hs : Field.Slots fields) {p : P} {es : List (String × Json)}
    (hes : Sorted es) (hempty : ∀ f ∈ fields, f.get p = none)
    (hreads : ∀ f ∈ fields, f.ReadsIn es) :
    ∃ p', takeFields fields p es = .ok (p', es.filter fun kv => kv.1 ∉ fields.map (·.key)) := by
  refine takeFields_ok hs hes.nodup (fun f hf _ => hempty f hf) fun kv hkv f hf hkey => ?_
  obtain ⟨g, hg, -⟩ := hreads f hf
  rw [hkey, lookup_of_mem hes.nodup hkv, readSlot, except_map_eq_ok] at hg
  obtain ⟨a, ha, -⟩ := hg
  exact ⟨a, ha⟩

theorem firstMissing_eq_none {p : P} :
    firstMissing fields p = none ↔ ∀ f ∈ fields, f.required → f.isSet p := by
  simp [firstMissing]

end TakeFields

/-! ## The extent -/

section Extent

theorem extentFields_slots : Field.Slots extentFields where
  keys_nodup := by decide
  get_put := by simp [extentFields, optionalRow]
  apart := by simp [extentFields, optionalRow, Field.Apart]

theorem extentFields_get_empty : ∀ f ∈ extentFields, f.get {} = none := by
  simp [extentFields, optionalRow]

/-- **Reading an extent**: its fields are taken from the entries, and `row` and `col` must be
there. -/
theorem extentOfEntries_eq_ok {es rest : List (String × Json)} {ext : Extent} :
    extentOfEntries es = .ok (ext, rest) ↔
      ∃ q : ExtentParts, ∃ row col, takeFields extentFields {} es = .ok (q, rest) ∧
        q.row = some row ∧ q.col = some col ∧ ext = q.extent row col := by
  simp only [extentOfEntries, except_bind_eq_ok]
  constructor
  · rintro ⟨⟨q, rest'⟩, htake, hmatch⟩
    rcases hrow : q.row with _ | row <;> rcases hcol : q.col with _ | col <;>
      simp [hrow, hcol, throw, throwThe, MonadExceptOf.throw, pure, Except.pure] at hmatch
    obtain ⟨rfl, rfl⟩ := hmatch
    exact ⟨q, row, col, htake, hrow, hcol, rfl⟩
  · rintro ⟨q, row, col, htake, hrow, hcol, rfl⟩
    exact ⟨(q, rest), htake, by simp [hrow, hcol, pure, Except.pure]⟩

end Extent

/-! ## Records from maps -/

namespace Schema

variable {R : Type} {s : Schema P R}

/-- A schema whose fields fill slots of their own, empty to start with, under keys that are not
the extent's. -/
structure Slotted (s : Schema P R) : Prop where
  slots : Field.Slots s.fields
  get_empty : ∀ f ∈ s.fields, f.get s.empty = none
  not_extent : ∀ f ∈ s.fields, f.key ∉ extentKeys

/-- The keys a record takes for itself: its own fields' and its extent's. -/
def keys (s : Schema P R) : List String := s.fields.map (·.key) ++ extentKeys

theorem finish_eq_ok {p : P} {setAside : List (String × Json)} {r : R} :
    s.finish p setAside = .ok r ↔ firstMissing s.fields p = none ∧
      ∃ ext rest, extentOfEntries setAside = .ok (ext, rest) ∧ r = s.build p ext (toMap rest) := by
  cases h : firstMissing s.fields p with
  | some k => simp [finish, h, throw, throwThe, MonadExceptOf.throw, except_bind_eq_ok]
  | none =>
    simp only [finish, h, except_bind_eq_ok, true_and]
    constructor
    · rintro ⟨⟨ext, rest⟩, hext, hr⟩
      exact ⟨ext, rest, hext, by simpa [pure, Except.pure, eq_comm] using hr⟩
    · rintro ⟨ext, rest, hext, rfl⟩
      exact ⟨(ext, rest), hext, rfl⟩

/-- The entries a record's own fields keep hold, under the extent's keys, what the map holds. -/
theorem lookup_setAside (hs : s.Slotted) {es : List (String × Json)} {f : Field ExtentParts}
    (hf : f ∈ extentFields) :
    lookup f.key (es.filter fun kv => kv.1 ∉ s.fields.map (·.key)) = lookup f.key es := by
  have hext : f.key ∈ extentKeys := List.mem_map_of_mem hf
  have hown : f.key ∉ s.fields.map (·.key) := fun hmem => by
    obtain ⟨g, hg, hkey⟩ := List.mem_map.1 hmem
    exact hs.not_extent g hg (hkey ▸ hext)
  rw [lookup_filter_key fun k => decide (k ∉ s.fields.map (·.key))]
  simp [hown]

theorem filter_keys (es : List (String × Json)) :
    (es.filter fun kv => kv.1 ∉ s.fields.map (·.key)).filter (fun kv => kv.1 ∉ extentKeys) =
      es.filter fun kv => kv.1 ∉ s.keys := by
  rw [List.filter_filter]
  refine List.filter_congr fun kv _ => ?_
  simp [keys, not_or, Bool.and_comm]

/-- **A record decoded from a map.** Its own fields' slots and its extent's hold what reading
the map's values under their keys gives, and its extra map is the map's other entries. -/
theorem ofJson_map_ok (hs : s.Slotted) {es : List (String × Json)} (hes : Sorted es) {r : R}
    (h : s.ofJson (.object es) = .ok r) :
    ∃ (p : P) (q : ExtentParts) (row col : Nat),
      (∀ f ∈ s.fields, readSlot f.reader none (lookup f.key es) = .ok (f.get p)) ∧
      firstMissing s.fields p = none ∧
      (∀ f ∈ extentFields, readSlot f.reader none (lookup f.key es) = .ok (f.get q)) ∧
      q.row = some row ∧ q.col = some col ∧
      r = s.build p (q.extent row col) (es.filter fun kv => kv.1 ∉ s.keys) := by
  rw [ofJson, except_bind_eq_ok] at h
  obtain ⟨⟨p, setAside⟩, htake, hfinish⟩ := h
  obtain ⟨hmissing, ext, rest, hext, rfl⟩ := finish_eq_ok.1 hfinish
  obtain ⟨q, row, col, hq, hrow, hcol, rfl⟩ := extentOfEntries_eq_ok.1 hext
  have hset : setAside = es.filter fun kv => kv.1 ∉ s.fields.map (·.key) := takeFields_kept htake
  have hsorted : Sorted setAside := hset ▸ hes.filter _
  refine ⟨p, q, row, col, fun f hf => ?_, hmissing, fun f hf => ?_, hrow, hcol, ?_⟩
  · rw [← hs.get_empty f hf]
    exact takeFields_get hs.slots hf hes.nodup htake
  · rw [← lookup_setAside hs hf, ← hset, ← extentFields_get_empty f hf]
    exact takeFields_get extentFields_slots hf hsorted.nodup hq
  · have hrest : rest = setAside.filter fun kv => kv.1 ∉ extentKeys := takeFields_kept hq
    rw [toMap_of_sorted (hrest ▸ hsorted.filter _), hrest, hset, filter_keys]

/-- **A map whose values read decodes to a record**, whose slots hold what the values read
to. -/
theorem ofJson_map_of (hs : s.Slotted) {es : List (String × Json)} (hes : Sorted es)
    (hown : ∀ f ∈ s.fields, f.ReadsIn es) (hextent : ∀ f ∈ extentFields, f.ReadsIn es) :
    ∃ (p : P) (q : ExtentParts) (row col : Nat),
      (∀ f ∈ s.fields, readSlot f.reader none (lookup f.key es) = .ok (f.get p)) ∧
      (∀ f ∈ extentFields, readSlot f.reader none (lookup f.key es) = .ok (f.get q)) ∧
      q.row = some row ∧ q.col = some col ∧
      s.ofJson (.object es) = .ok (s.build p (q.extent row col)
        (es.filter fun kv => kv.1 ∉ s.keys)) := by
  obtain ⟨p, htake⟩ := takeFields_ok_of_readsIn hs.slots hes hs.get_empty hown
  have hp : ∀ f ∈ s.fields, readSlot f.reader none (lookup f.key es) = .ok (f.get p) :=
    fun f hf => hs.get_empty f hf ▸ takeFields_get hs.slots hf hes.nodup htake
  -- a required field's slot is filled, since its key holds a value that reads
  have hmissing : firstMissing s.fields p = none := by
    refine firstMissing_eq_none.2 fun f hf hreq => ?_
    obtain ⟨g, hg, hsome⟩ := hown f hf
    rw [hp f hf, Except.ok.injEq] at hg
    simpa [Field.isSet, hg] using hsome hreq
  set setAside := es.filter fun kv => kv.1 ∉ s.fields.map (·.key) with hset
  have hsorted : Sorted setAside := hes.filter _
  have hextent' : ∀ f ∈ extentFields, f.ReadsIn setAside := fun f hf => by
    rw [Field.ReadsIn, hset, lookup_setAside hs hf]
    exact hextent f hf
  obtain ⟨q, hq⟩ := takeFields_ok_of_readsIn extentFields_slots hsorted extentFields_get_empty
    hextent'
  have hqs : ∀ f ∈ extentFields, readSlot f.reader none (lookup f.key es) = .ok (f.get q) :=
    fun f hf => by
      rw [← lookup_setAside hs hf, ← extentFields_get_empty f hf]
      exact takeFields_get extentFields_slots hf hsorted.nodup hq
  -- `row` and `col` are required, so they are read
  have hfilled : ∀ f ∈ extentFields, f.required → (f.get q).isSome := fun f hf hreq => by
    obtain ⟨g, hg, hsome⟩ := hextent f hf
    rw [hqs f hf, Except.ok.injEq] at hg
    exact hg ▸ hsome hreq
  have hrowcol : q.row.isSome ∧ q.col.isSome := by
    simp only [extentFields, List.mem_cons, forall_eq_or_imp] at hfilled
    exact ⟨hfilled.2.1 trivial, hfilled.2.2.1 trivial⟩
  obtain ⟨row, hrow⟩ := Option.isSome_iff_exists.1 hrowcol.1
  obtain ⟨col, hcol⟩ := Option.isSome_iff_exists.1 hrowcol.2
  refine ⟨p, q, row, col, hp, hqs, hrow, hcol, ?_⟩
  have hext : extentOfEntries setAside =
      .ok (q.extent row col, setAside.filter fun kv => kv.1 ∉ extentKeys) :=
    extentOfEntries_eq_ok.2 ⟨q, row, col, hq, hrow, hcol, rfl⟩
  rw [ofJson, except_bind_eq_ok]
  refine ⟨(p, setAside), htake, finish_eq_ok.2 ⟨hmissing, _, _, hext, ?_⟩⟩
  rw [toMap_of_sorted (hsorted.filter _), hset, filter_keys]

end Schema

end CrossRef.Record
