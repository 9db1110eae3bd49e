import Mathlib
import CrossRef.Record.Lists
import CrossRef.Record.Encode
import CrossRef.Proofs.FieldReads
/-!
Records written back as they were read.

A record read from a map keeps, key by key, every entry that is neither one of its own fields
nor one of its extent's in its extra map, and writes that map back after its fields. What it
writes back is the map it was read from with each of its fields echoed by one rule (`Echo`):

* a field written as given: the required texts and numbers, the extent's `row` and `col`;
* an optional field, left out when given as `null` (and written as given otherwise);
* a defaulted text, a local's `name` and a finding's `message`, written as the empty text when
  not given;
* a finding's `level`, which may be given in map form `{"error": null}` and is written as its
  name.

`echoed` applies these rules to a map. For every kind of record, and every canonical map `es`
that decodes to a record `e` of that kind:

1. `e`'s extra map is `es` without the keys of the record's own fields and its extent's;
2. `e` written back, its keys sorted, is `echoed` applied to `es`;
3. decoding what `e` writes gives `e` back.

The argument is the same for every kind. Reading a map fills each field's slot with what reading
the value under its key gives (`Schema.ofJson_map_ok`); the field's rule turns that value into
what the record writes under the key (the `echo_*` lemmas); and reading the written value gives
the record the same field again (the `readSlot_*_back` lemmas), since a field given as `null` or
left out, or given as `""` or left out, is the same field of the record. The extent is one more
set of fields, done once for all kinds (`extent_echo`, `extent_reread`).
-/

namespace CrossRef

open CrossRef.Json CrossRef.Record

/-! ## 1. The rules -/

/-- How a record writes back one of its fields, from what the map it was read from held under
the field's key. -/
inductive Echo where
  /-- As given. -/
  | given
  /-- Left out when given as `null`. -/
  | optional
  /-- As the empty text when not given. -/
  | defaulted
  /-- A level in map form by its name. -/
  | level
  deriving DecidableEq

/-- `null` counts as absent. -/
def nullAsAbsent : Option Json → Option Json
  | some .null => none
  | found => found

/-- A level given as a map of its name to `null` is its name. -/
def levelByName : Json → Json
  | .object [(n, .null)] => .string n
  | j => j

/-- What a field writes back, from what the map held under its key. -/
def Echo.back : Echo → Option Json → Option Json
  | .given, found => found
  | .optional, found => nullAsAbsent found
  | .defaulted, found => found.or (some (.string ""))
  | .level, found => found.map levelByName

@[simp] theorem Echo.back_given (found : Option Json) : Echo.given.back found = found := rfl

@[simp] theorem join_map_some {α : Type} (o : Option α) : (o.map some).join = o := by
  cases o <;> rfl

/-- A map with the keys of a table of rules written back as the rules say, and its other keys
as they were. -/
def echoed (table : List (String × Echo)) (es : List (String × Json)) : List (String × Json) :=
  setKeys (table.map fun kr => (kr.1, kr.2.back (lookup kr.1 es))) es

/-- How an extent writes back its fields. -/
def extentEcho : List (String × Echo) :=
  [("filename", .optional), ("row", .given), ("col", .given), ("end-row", .optional),
   ("end-col", .optional), ("name-row", .optional), ("name-col", .optional),
   ("name-end-row", .optional), ("name-end-col", .optional)]

section Echoed

variable {table : List (String × Echo)} {es : List (String × Json)}

theorem sorted_echoed (hes : Sorted es) : Sorted (echoed table es) := sorted_setKeys _ hes

theorem lookup_echoed_of_mem (hnodup : (table.map (·.1)).Nodup) {kr : String × Echo}
    (hkr : kr ∈ table) : lookup kr.1 (echoed table es) = kr.2.back (lookup kr.1 es) := by
  have hkeys : ((table.map fun kr => (kr.1, kr.2.back (lookup kr.1 es))).map (·.1)).Nodup := by
    simpa [Function.comp_def] using hnodup
  exact lookup_setKeys_of_mem hkeys (List.mem_map_of_mem (f := fun kr =>
    (kr.1, kr.2.back (lookup kr.1 es))) hkr) es

theorem lookup_echoed_of_not_mem {k : String} (hk : k ∉ table.map (·.1)) :
    lookup k (echoed table es) = lookup k es :=
  lookup_setKeys_of_not_mem (by simpa [Function.comp_def] using hk) es

/-- Echoing a table's keys leaves the rest of the map as it was. -/
theorem filter_echoed (hes : Sorted es) :
    (echoed table es).filter (fun kv => kv.1 ∉ table.map (·.1)) =
      es.filter fun kv => kv.1 ∉ table.map (·.1) := by
  refine eq_of_lookup_eq ((sorted_echoed hes).filter _) (hes.filter _) fun k => ?_
  rw [lookup_filter_key fun k => decide (k ∉ table.map (·.1)),
    lookup_filter_key fun k => decide (k ∉ table.map (·.1))]
  by_cases hk : k ∈ table.map (·.1)
  · simp [hk]
  · simp [hk, lookup_echoed_of_not_mem hk]

end Echoed

/-! ## 2. Writing a map back with its keys sorted -/

/-- **A record's written fields and the rest of a map, as a value.** A record writes its own
fields, under keys of a table of rules, and then the entries of a canonical map `es` under every
other key. If each of the table's keys holds, as a value, what its rule makes of what `es` held
there, sorting the keys gives `es` echoed. The two maps agree key by key: a table's key is found
among the written fields (`toMap` keeps the last value of a key, hence the reverse), and every
other key among the entries of `es`, whose values are canonical already. -/
theorem sortKeys_write {table : List (String × Echo)} (hnodup : (table.map (·.1)).Nodup)
    {es written : List (String × Json)} (hes : Canonical (.object es))
    (hkeys : written.map (·.1) ⊆ table.map (·.1))
    (hecho : ∀ kr ∈ table, (lookup kr.1 written.reverse).map sortKeys =
      kr.2.back (lookup kr.1 es)) :
    sortKeys (.object (written ++ es.filter fun kv => kv.1 ∉ table.map (·.1))) =
      .object (echoed table es) := by
  rw [sortKeys_object]
  congr 1
  set extra := es.filter fun kv => kv.1 ∉ table.map (·.1)
  have hextra : Sorted extra := hes.sorted.filter _
  refine eq_of_lookup_eq (sorted_toMap _) (sorted_echoed hes.sorted) fun k => ?_
  rw [lookup_toMap, ← List.map_reverse, lookup_map_values, List.reverse_append, lookup_append,
    lookup_reverse hextra.nodup]
  by_cases hk : k ∈ table.map (·.1)
  · -- a table's key: not among the extra entries, so the written fields give it
    obtain ⟨kr, hkr, rfl⟩ := List.mem_map.1 hk
    have habsent : lookup kr.1 extra = none := by
      rw [lookup_filter_key fun k => decide (k ∉ table.map (·.1))]
      simp [hk]
    rw [habsent, Option.none_or, hecho kr hkr, lookup_echoed_of_mem hnodup hkr]
  · -- any other key: not written, so the extra entries give it as `es` holds it
    have hunwritten : lookup k written.reverse = none := by
      rw [lookup_eq_none_iff, List.map_reverse, List.mem_reverse]
      exact fun hw => hk (hkeys hw)
    have hkept : lookup k extra = lookup k es := by
      rw [lookup_filter_key fun k => decide (k ∉ table.map (·.1))]
      simp [hk]
    rw [hunwritten, Option.or_none, hkept, hes.lookup_map_sortKeys,
      lookup_echoed_of_not_mem hk]

/-! ## 3. One field at a time -/

section Fields

variable {found : Option Json}

/-- A reader that accepts only what an encoder writes: a value it reads is the value's encoding,
so a field it read is written back as it was given. -/
def ReadsOnly {α : Type} (r : FromJson α) (enc : α → Json) : Prop :=
  ∀ x a, r.run x = .ok a → x = enc a

theorem readsOnly_string : ReadsOnly Source.string Json.string := fun _ _ => run_string_eq_ok.1

theorem readsOnly_bool : ReadsOnly Source.bool Json.bool := fun _ _ => run_bool_eq_ok.1

theorem readsOnly_u32 : ReadsOnly Source.u32 Json.ofNat := fun _ _ h => (run_u32_eq_ok.1 h).1

theorem readsOnly_u64 : ReadsOnly Source.u64 Json.ofNat := fun _ _ h => (run_u64_eq_ok.1 h).1

theorem readSlot_eq_ok {α : Type} {r : FromJson α} {x : Json} {g : Option α} :
    readSlot r none (some x) = .ok g ↔ ∃ a, r.run x = .ok a ∧ g = some a := by
  rw [readSlot, except_map_eq_ok]
  exact exists_congr fun a => and_congr_right fun _ => eq_comm

/-- A field written as given holds, once read, what was given. -/
theorem echo_given {α : Type} {r : FromJson α} {enc : α → Json} (hr : ReadsOnly r enc) {a : α}
    (h : readSlot r none found = .ok (some a)) : found = some (enc a) := by
  cases found with
  | none => cases h
  | some x =>
    obtain ⟨a', ha', ha⟩ := readSlot_eq_ok.1 h
    cases ha
    rw [hr x a ha']

/-- An optional field given as `null` is left out; given otherwise it is written as given. -/
theorem echo_optional {α : Type} {r : FromJson α} {enc : α → Json} (hr : ReadsOnly r enc)
    {g : Option (Option α)} (h : readSlot (Source.optional r) none found = .ok g) :
    Echo.optional.back found = g.join.map enc := by
  cases found with
  | none =>
    cases h
    rfl
  | some x =>
    obtain ⟨o, ho, rfl⟩ := readSlot_eq_ok.1 h
    rcases run_optional_eq_ok.1 ho with ⟨rfl, rfl⟩ | ⟨hx, a, ha, rfl⟩
    · rfl
    · rw [Echo.back, nullAsAbsent, hr x a ha]
      · rfl
      · intro e
        exact hx (by simpa [hr x a ha] using e)

/-- A text that defaults to empty is written as read, or as the empty text when absent. -/
theorem echo_defaulted {g : Option String}
    (h : readSlot (Source.string : FromJson String) none found = .ok g) :
    Echo.defaulted.back found = some (.string (g.getD "")) := by
  cases found with
  | none =>
    cases h
    rfl
  | some x =>
    obtain ⟨a, ha, rfl⟩ := readSlot_eq_ok.1 h
    rw [Echo.back, readsOnly_string _ _ ha]
    rfl

/-- A level is written by its name, however it was given. -/
theorem echo_level {l : Level} (h : readSlot (Source.level : FromJson Level) none found =
    .ok (some l)) : Echo.level.back found = some (.string l.name) := by
  cases found with
  | none => cases h
  | some x =>
    obtain ⟨a, ha, hal⟩ := readSlot_eq_ok.1 h
    cases hal
    rcases run_level_eq_ok.1 ha with rfl | rfl <;> rfl

/-- Reading back an optional field as written: `null` and absent read alike. -/
theorem readSlot_optional_back {α : Type} (r : FromJson α) :
    readSlot (Source.optional r) none (Echo.optional.back found) =
      (readSlot (Source.optional r) none found).map fun g => g.join.map some := by
  cases found with
  | none => rfl
  | some x =>
    by_cases hx : x = .null
    · subst hx
      rfl
    · have hback : Echo.optional.back (some x) = some x := by
        rw [Echo.back, nullAsAbsent]
        intro e
        exact hx (Option.some.inj e)
      rw [hback]
      cases hrun : (Source.optional r : FromJson (Option α)).run x with
      | error e => simp [readSlot, hrun, Except.map]
      | ok o =>
        rcases run_optional_eq_ok.1 hrun with ⟨rfl, -⟩ | ⟨-, a, -, rfl⟩
        · exact absurd rfl hx
        · simp [readSlot, hrun, Except.map]

/-- Reading back a defaulted text as written: the empty text and absent read alike. -/
theorem readSlot_defaulted_back :
    readSlot (Source.string : FromJson String) none (Echo.defaulted.back found) =
      (readSlot Source.string none found).map fun g => some (g.getD "") := by
  cases found with
  | none => rfl
  | some x =>
    cases hrun : (Source.string : FromJson String).run x <;>
      simp [Echo.back, readSlot, hrun, Except.map]

/-- Reading back a level as written gives the level read. -/
theorem readSlot_level_back :
    readSlot (Source.level : FromJson Level) none (Echo.level.back found) =
      readSlot Source.level none found := by
  cases found with
  | none => rfl
  | some x =>
    -- only the map form is rewritten, and a map of a name reads as the name does
    cases x with
    | object fs =>
      rcases fs with _ | ⟨⟨k, v⟩, _ | ⟨kv, rest⟩⟩
      · rfl
      · cases v with
        | null =>
          simp only [Echo.back, Option.map_some, levelByName, readSlot]
          congr 1
          simp [Source.level, ReaderT.run, levelOfJson, variantOfJson, bind, Except.bind, pure,
            Except.pure]
          cases levelOfName k <;> rfl
        | _ => rfl
      · simp [Echo.back, levelByName]
    | _ => rfl

/-- A field written as given reads back as it was read. -/
theorem readSlot_given_echoed {α : Type} {r : FromJson α} {k : String}
    {es es₂ : List (String × Json)} {g : Option α}
    (hlook : lookup k es₂ = Echo.given.back (lookup k es))
    (h : readSlot r none (lookup k es) = .ok g) : readSlot r none (lookup k es₂) = .ok g := by
  rw [hlook]
  exact h

/-- An optional field written back reads back as absent when it was `null`. -/
theorem readSlot_optional_echoed {α : Type} {r : FromJson α} {k : String}
    {es es₂ : List (String × Json)} {g : Option (Option α)}
    (hlook : lookup k es₂ = Echo.optional.back (lookup k es))
    (h : readSlot (Source.optional r) none (lookup k es) = .ok g) :
    readSlot (Source.optional r) none (lookup k es₂) = .ok (g.join.map some) := by
  rw [hlook, readSlot_optional_back, h]
  rfl

/-- A defaulted text written back reads back as the text it stood for. -/
theorem readSlot_defaulted_echoed {k : String} {es es₂ : List (String × Json)}
    {g : Option String} (hlook : lookup k es₂ = Echo.defaulted.back (lookup k es))
    (h : readSlot (Source.string : FromJson String) none (lookup k es) = .ok g) :
    readSlot (Source.string : FromJson String) none (lookup k es₂) = .ok (some (g.getD "")) := by
  rw [hlook, readSlot_defaulted_back, h]
  rfl

/-- A level written back by its name reads back as the same level. -/
theorem readSlot_level_echoed {k : String} {es es₂ : List (String × Json)} {g : Option Level}
    (hlook : lookup k es₂ = Echo.level.back (lookup k es))
    (h : readSlot (Source.level : FromJson Level) none (lookup k es) = .ok g) :
    readSlot (Source.level : FromJson Level) none (lookup k es₂) = .ok g := by
  rw [hlook, readSlot_level_back, h]

end Fields

/-! ## 4. The extent -/

section Extent

variable {α : Type} {k : String} {f : α → Json} {o : Option α}

@[simp] theorem lookup_optionalField (j : String) :
    lookup j (optionalField k f o) = if j = k then o.map f else none := by
  cases o <;> by_cases h : j = k <;> simp [optionalField, lookup_cons, h]

@[simp] theorem reverse_optionalField : (optionalField k f o).reverse = optionalField k f o := by
  cases o <;> rfl

@[simp] theorem keys_optionalField_subset {l : List String} :
    (optionalField k f o).map (·.1) ⊆ l ↔ (o.isSome → k ∈ l) := by
  cases o <;> simp [optionalField]

@[simp] theorem sortKeys_ofNat (n : Nat) : sortKeys (.ofNat n) = .ofNat n := rfl

/-- An extent writes only its own keys. -/
theorem keys_extent_fields (e : Extent) (l : List String) :
    e.fields.map (·.1) ⊆ l ++ extentEcho.map (·.1) := by
  refine List.Subset.trans ?_ (List.subset_append_right l _)
  simp [Extent.fields, extentEcho]

variable {es es₂ : List (String × Json)} {q : ExtentParts} {row col : Nat}

/-- **An extent writes back each of its fields by its rule.** -/
theorem extent_echo
    (hq : ∀ f ∈ extentFields, readSlot f.reader none (lookup f.key es) = .ok (f.get q))
    (hrow : q.row = some row) (hcol : q.col = some col) :
    ∀ kr ∈ extentEcho, lookup kr.1 (q.extent row col).fields = kr.2.back (lookup kr.1 es) := by
  simp only [extentFields, optionalRow, List.mem_cons, List.not_mem_nil, or_false,
    forall_eq_or_imp, forall_eq] at hq
  obtain ⟨hfile, hr, hc, her, hec, hnr, hnc, hner, hnec⟩ := hq
  rw [hrow] at hr
  rw [hcol] at hc
  simp [extentEcho, Extent.fields, ExtentParts.extent, lookup_cons,
    echo_optional readsOnly_string hfile, echo_given readsOnly_u32 hr,
    echo_given readsOnly_u32 hc, echo_optional readsOnly_u32 her, echo_optional readsOnly_u32 hec,
    echo_optional readsOnly_u32 hnr, echo_optional readsOnly_u32 hnc,
    echo_optional readsOnly_u32 hner, echo_optional readsOnly_u32 hnec]

/-- **An extent written back reads back**: the map echoed has an extent whose fields read, and
it is the same extent. -/
theorem extent_reread
    (hq : ∀ f ∈ extentFields, readSlot f.reader none (lookup f.key es) = .ok (f.get q))
    (hrow : q.row = some row) (hcol : q.col = some col)
    (hlook : ∀ kr ∈ extentEcho, lookup kr.1 es₂ = kr.2.back (lookup kr.1 es)) :
    (∀ f ∈ extentFields, f.ReadsIn es₂) ∧
      ∀ (q₂ : ExtentParts) (row₂ col₂ : Nat),
        (∀ f ∈ extentFields, readSlot f.reader none (lookup f.key es₂) = .ok (f.get q₂)) →
        q₂.row = some row₂ → q₂.col = some col₂ → q₂.extent row₂ col₂ = q.extent row col := by
  simp only [extentFields, optionalRow, List.mem_cons, List.not_mem_nil, or_false,
    forall_eq_or_imp, forall_eq] at hq
  obtain ⟨hfile, hr, hc, her, hec, hnr, hnc, hner, hnec⟩ := hq
  obtain ⟨lfile, lr, lc, ler, lec, lnr, lnc, lner, lnec, -⟩ :
      lookup "filename" es₂ = _ ∧ lookup "row" es₂ = _ ∧ lookup "col" es₂ = _ ∧
      lookup "end-row" es₂ = _ ∧ lookup "end-col" es₂ = _ ∧ lookup "name-row" es₂ = _ ∧
      lookup "name-col" es₂ = _ ∧ lookup "name-end-row" es₂ = _ ∧
      lookup "name-end-col" es₂ = _ ∧ True := by
    simpa [extentEcho] using hlook
  -- what the echoed map holds under each extent key reads as
  have hfile₂ := readSlot_optional_echoed lfile hfile
  have hr₂ := readSlot_given_echoed lr hr
  have hc₂ := readSlot_given_echoed lc hc
  have her₂ := readSlot_optional_echoed ler her
  have hec₂ := readSlot_optional_echoed lec hec
  have hnr₂ := readSlot_optional_echoed lnr hnr
  have hnc₂ := readSlot_optional_echoed lnc hnc
  have hner₂ := readSlot_optional_echoed lner hner
  have hnec₂ := readSlot_optional_echoed lnec hnec
  refine ⟨?_, fun q₂ row₂ col₂ hq₂ hrow₂ hcol₂ => ?_⟩
  · simp only [extentFields, optionalRow, List.mem_cons, List.not_mem_nil, or_false,
      forall_eq_or_imp, forall_eq, Field.ReadsIn]
    exact ⟨⟨_, hfile₂, (absurd · Bool.false_ne_true)⟩, ⟨_, hr₂, fun _ => by simp [hrow]⟩, ⟨_, hc₂, fun _ => by simp [hcol]⟩,
      ⟨_, her₂, (absurd · Bool.false_ne_true)⟩, ⟨_, hec₂, (absurd · Bool.false_ne_true)⟩, ⟨_, hnr₂, (absurd · Bool.false_ne_true)⟩, ⟨_, hnc₂, (absurd · Bool.false_ne_true)⟩, ⟨_, hner₂, (absurd · Bool.false_ne_true)⟩,
      ⟨_, hnec₂, (absurd · Bool.false_ne_true)⟩⟩
  simp only [extentFields, optionalRow, List.mem_cons, List.not_mem_nil, or_false,
    forall_eq_or_imp, forall_eq] at hq₂
  obtain ⟨gfile, gr, gc, ger, gec, gnr, gnc, gner, gnec⟩ := hq₂
  rw [hfile₂, Except.ok.injEq] at gfile
  rw [hr₂, Except.ok.injEq] at gr
  rw [hc₂, Except.ok.injEq] at gc
  rw [her₂, Except.ok.injEq] at ger
  rw [hec₂, Except.ok.injEq] at gec
  rw [hnr₂, Except.ok.injEq] at gnr
  rw [hnc₂, Except.ok.injEq] at gnc
  rw [hner₂, Except.ok.injEq] at gner
  rw [hnec₂, Except.ok.injEq] at gnec
  have hrows : row₂ = row := Option.some.inj (hrow₂ ▸ hrow ▸ gr.symm)
  have hcols : col₂ = col := Option.some.inj (hcol₂ ▸ hcol ▸ gc.symm)
  simp [ExtentParts.extent, ← gfile, ← ger, ← gec, ← gnr, ← gnc, ← gner, ← gnec, hrows, hcols]

end Extent

/-! ## 5. Kinds of record -/

/-- **A kind of record writes back what it read.** For every canonical value that decodes to a
record of the kind, the value is a map, and: the record's extra map is the map without the keys
of `table` (its own fields' and its extent's); the record written back, its keys sorted, is the
map echoed by `table`; and decoding that gives the record back. -/
def WritesBack {P R : Type} (s : Schema P R) (write : R → Json) (extra : R → Extra)
    (table : List (String × Echo)) : Prop :=
  ∀ (v : Json) (r : R), Canonical v → s.ofJson v = .ok r →
    ∃ es, v = .object es ∧ extra r = es.filter (fun kv => kv.1 ∉ table.map (·.1)) ∧
      sortKeys (write r) = .object (echoed table es) ∧ s.ofJson (sortKeys (write r)) = .ok r

theorem Schema.object_of_ofJson {P R : Type} {s : Schema P R} {v : Json} {r : R}
    (h : s.ofJson v = .ok r) : ∃ es, v = .object es := by
  cases v with
  | object es => exact ⟨es, rfl⟩
  | _ => simp [Schema.ofJson] at h

/-- What each kind has to show, from the parts its own fields and its extent were read into:
written back, the record is the map echoed by its own rules and the extent's; and in any map
whose values under its own keys are what its rules make of the first map's, its own fields read,
into parts that build the same record. The extent, the extra map and the decoding of the map
echoed are the same for every kind. -/
theorem writesBack_of {P R : Type} {s : Schema P R} (hs : s.Slotted) {write : R → Json}
    {extra : R → Extra} {own : List (String × Echo)}
    (hkeys : s.keys = (own ++ extentEcho).map (·.1))
    (hnodup : ((own ++ extentEcho).map (·.1)).Nodup)
    (hextra : ∀ p ext x, extra (s.build p ext x) = x)
    (hkind : ∀ (es es₂ : List (String × Json)) (p : P) (q : ExtentParts) (row col : Nat),
      Canonical (.object es) →
      (∀ f ∈ s.fields, readSlot f.reader none (lookup f.key es) = .ok (f.get p)) →
      firstMissing s.fields p = none →
      (∀ f ∈ extentFields, readSlot f.reader none (lookup f.key es) = .ok (f.get q)) →
      q.row = some row → q.col = some col →
      (∀ kr ∈ own, lookup kr.1 es₂ = kr.2.back (lookup kr.1 es)) →
      sortKeys (write (s.build p (q.extent row col)
          (es.filter fun kv => kv.1 ∉ (own ++ extentEcho).map (·.1)))) =
          .object (echoed (own ++ extentEcho) es) ∧
        (∀ f ∈ s.fields, f.ReadsIn es₂) ∧
        ∀ p₂ : P, (∀ f ∈ s.fields, readSlot f.reader none (lookup f.key es₂) = .ok (f.get p₂)) →
          ∀ ext x, s.build p₂ ext x = s.build p ext x) :
    WritesBack s write extra (own ++ extentEcho) := by
  intro v r hv h
  obtain ⟨es, rfl⟩ := Schema.object_of_ofJson h
  obtain ⟨p, q, row, col, hp, hmissing, hq, hrow, hcol, rfl⟩ := Schema.ofJson_map_ok hs hv.sorted h
  have hlook : ∀ kr ∈ own ++ extentEcho,
      lookup kr.1 (echoed (own ++ extentEcho) es) = kr.2.back (lookup kr.1 es) :=
    fun kr hkr => lookup_echoed_of_mem hnodup hkr
  rw [List.forall_mem_append] at hlook
  obtain ⟨hwrite, hown, hsame⟩ := hkind es _ p q row col hv hp hmissing hq hrow hcol hlook.1
  -- the map echoed decodes: its extent is the same, its own fields build the same record
  obtain ⟨hextReads, hextSame⟩ := extent_reread hq hrow hcol hlook.2
  obtain ⟨p₂, q₂, row₂, col₂, hp₂, hq₂, hrow₂, hcol₂, hdec⟩ :=
    Schema.ofJson_map_of hs (sorted_echoed hv.sorted) hown hextReads
  rw [hkeys]
  refine ⟨es, rfl, hextra _ _ _, hwrite, ?_⟩
  rw [hwrite, hdec, hextSame q₂ row₂ col₂ hq₂ hrow₂ hcol₂, hkeys, filter_echoed hv.sorted,
    hsame p₂ hp₂]

end CrossRef
