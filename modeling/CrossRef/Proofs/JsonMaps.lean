import Mathlib
import CrossRef.Json.Basic
/-!
Objects as maps.

An object that the reader gives is a map: its keys are strictly increasing (`Json.Sorted`), and a
value the reader gives has only such objects, at every depth (`Json.Canonical`). A map is
determined by what it holds under each key (`eq_of_lookup_eq`): two sorted lists with the same
keys list them in the same order, and each key holds one value.

`toMap` turns any list of fields into a map (`sorted_toMap`) that holds, under each key, the last
value given for it (`lookup_toMap`); a map it leaves as it is (`toMap_of_sorted`). `sortKeys`
leaves a canonical value as it is (`sortKeys_of_canonical`): it only reorders keys, and a
canonical value has none out of order.

`setKeys` puts values under some keys of a map and removes others, keeping it a map; under the
keys it sets a map holds what it was given (`lookup_setKeys_of_mem`), and under every other key
what it held before (`lookup_setKeys_of_not_mem`).
-/

namespace CrossRef.Json

/-- Fields in strictly increasing key order. -/
def Sorted (fs : List (String × Json)) : Prop := fs.Pairwise (fun a b => a.1 < b.1)

/-- A value as the reader gives it: every object in it, at every depth, is a map. -/
inductive Canonical : Json → Prop
  | null : Canonical .null
  | bool (b : Bool) : Canonical (.bool b)
  | number (n : Number) : Canonical (.number n)
  | string (s : String) : Canonical (.string s)
  | array (xs : List Json) : (∀ x ∈ xs, Canonical x) → Canonical (.array xs)
  | object (fs : List (String × Json)) : Sorted fs → (∀ kv ∈ fs, Canonical kv.2) →
      Canonical (.object fs)

/-! ## Looking up a key -/

section Lookup

variable {k j : String} {v : Json} {fs : List (String × Json)}

theorem lookup_cons (k k' : String) (v : Json) (rest : List (String × Json)) :
    lookup k ((k', v) :: rest) = if k = k' then some v else lookup k rest := rfl

@[simp] theorem lookup_nil : lookup k [] = none := rfl

@[simp] theorem lookup_cons_self : lookup k ((k, v) :: fs) = some v := by
  simp [lookup_cons]

@[simp] theorem lookup_append (l₁ l₂ : List (String × Json)) :
    lookup k (l₁ ++ l₂) = (lookup k l₁).or (lookup k l₂) := by
  induction l₁ with
  | nil => rfl
  | cons kv rest ih =>
    obtain ⟨k', v'⟩ := kv
    by_cases h : k = k' <;> simp [lookup_cons, h, ih]

theorem lookup_eq_none_iff : lookup k fs = none ↔ k ∉ fs.map (·.1) := by
  induction fs with
  | nil => simp
  | cons kv rest ih =>
    obtain ⟨k', v'⟩ := kv
    by_cases h : k = k' <;> simp [lookup_cons, h, ih]

theorem mem_of_lookup_eq_some (h : lookup k fs = some v) : (k, v) ∈ fs := by
  induction fs with
  | nil => simp at h
  | cons kv rest ih =>
    obtain ⟨k', v'⟩ := kv
    by_cases hk : k = k'
    · subst hk
      simp only [lookup_cons_self, Option.some.injEq] at h
      simp [h]
    · rw [lookup_cons, if_neg hk] at h
      exact List.mem_cons_of_mem _ (ih h)

/-- A key below every key of a list is not in it. -/
theorem lookup_eq_none_of_lt (h : ∀ kv ∈ fs, k < kv.1) : lookup k fs = none := by
  rw [lookup_eq_none_iff]
  intro hmem
  obtain ⟨kv, hkv, hk⟩ := List.mem_map.1 hmem
  have hlt := h kv hkv
  rw [hk] at hlt
  exact lt_irrefl k hlt

/-- Keeping the fields whose keys pass a test keeps what those keys hold. -/
theorem lookup_filter_key (q : String → Bool) :
    lookup k (fs.filter fun kv => q kv.1) = if q k then lookup k fs else none := by
  induction fs with
  | nil => simp
  | cons kv rest ih =>
    obtain ⟨k', v'⟩ := kv
    by_cases hk : k = k'
    · subst hk
      by_cases hq : q k <;> simp [hq, ih]
    · by_cases hq : q k' <;> simp [lookup_cons, hk, hq, ih]

/-- Changing the values of a list changes what each key holds alike. -/
theorem lookup_map_values (g : Json → Json) :
    lookup k (fs.map fun kv => (kv.1, g kv.2)) = (lookup k fs).map g := by
  induction fs with
  | nil => rfl
  | cons kv rest ih =>
    obtain ⟨k', v'⟩ := kv
    by_cases hk : k = k' <;> simp [lookup_cons, hk, ih]

/-- With each key once, the first value under a key is also the last. -/
theorem lookup_reverse (h : (fs.map (·.1)).Nodup) : lookup k fs.reverse = lookup k fs := by
  induction fs with
  | nil => rfl
  | cons kv rest ih =>
    obtain ⟨k', v'⟩ := kv
    rw [List.map_cons, List.nodup_cons] at h
    by_cases hk : k = k'
    · subst hk
      have habsent : lookup k rest = none := lookup_eq_none_iff.2 h.1
      simp [ih h.2, habsent]
    · simp [lookup_cons, hk, ih h.2]

end Lookup

/-! ## Maps -/

section Maps

variable {k : String} {v : Json} {m fs : List (String × Json)}

theorem Sorted.nodup (h : Sorted fs) : (fs.map (·.1)).Nodup :=
  List.pairwise_map.2 (h.imp ne_of_lt)

theorem mem_insert {kv : String × Json} (h : kv ∈ insert k v m) : kv = (k, v) ∨ kv ∈ m := by
  induction m with
  | nil => simpa [insert] using h
  | cons hd tl ih =>
    obtain ⟨k', v'⟩ := hd
    rw [insert] at h
    split_ifs at h <;> grind

theorem sorted_insert (k : String) (v : Json) (h : Sorted m) : Sorted (insert k v m) := by
  induction m with
  | nil => simp [insert, Sorted]
  | cons hd tl ih =>
    obtain ⟨k', v'⟩ := hd
    unfold Sorted at h ih ⊢
    rw [insert]
    split_ifs with h1 h2
    · -- the new key comes first, below the old first key and so below all
      refine h.cons fun a ha => ?_
      rcases List.mem_cons.1 ha with rfl | hmem
      · exact h1
      · exact h1.trans (List.rel_of_pairwise_cons h hmem)
    · -- the new value replaces the old first one
      subst h2
      exact h.of_cons.cons fun a ha => List.rel_of_pairwise_cons h ha
    · -- the old first key stays first, below the new key
      have hlt : k' < k := lt_of_le_of_ne (not_lt.1 h1) (Ne.symm h2)
      refine (ih h.of_cons).cons fun a ha => ?_
      rcases mem_insert ha with rfl | hmem
      · exact hlt
      · exact List.rel_of_pairwise_cons h hmem

theorem sorted_foldl_insert (fs : List (String × Json)) (h : Sorted m) :
    Sorted (fs.foldl (fun m kv => insert kv.1 kv.2 m) m) := by
  induction fs generalizing m with
  | nil => exact h
  | cons kv rest ih => exact ih (sorted_insert kv.1 kv.2 h)

theorem sorted_toMap (fs : List (String × Json)) : Sorted (toMap fs) :=
  sorted_foldl_insert fs List.Pairwise.nil

/-- A key above every key of a map goes last. -/
theorem insert_of_lt (h : ∀ kv ∈ m, kv.1 < k) : insert k v m = m ++ [(k, v)] := by
  induction m with
  | nil => rfl
  | cons hd tl ih =>
    obtain ⟨k', v'⟩ := hd
    have hk' : k' < k := h _ List.mem_cons_self
    rw [insert, if_neg (lt_asymm hk'), if_neg (ne_of_gt hk'),
      ih fun kv hkv => h kv (List.mem_cons_of_mem _ hkv)]
    rfl

theorem foldl_insert_of_sorted (h : Sorted (m ++ fs)) :
    fs.foldl (fun m kv => insert kv.1 kv.2 m) m = m ++ fs := by
  induction fs generalizing m with
  | nil => simp
  | cons kv rest ih =>
    have hlt : ∀ kv' ∈ m, kv'.1 < kv.1 := fun kv' hkv' =>
      (List.pairwise_append.1 h).2.2 kv' hkv' kv List.mem_cons_self
    rw [List.foldl_cons, insert_of_lt hlt, ih (by simpa using h)]
    simp

/-- **A map is its own `toMap`.** -/
theorem toMap_of_sorted (h : Sorted fs) : toMap fs = fs := by
  rw [toMap]
  simpa using foldl_insert_of_sorted (m := []) (by simpa using h)

theorem lookup_foldl_insert (j : String) (fs : List (String × Json)) :
    lookup j (fs.foldl (fun m kv => insert kv.1 kv.2 m) m) =
      (lookup j fs.reverse).or (lookup j m) := by
  induction fs generalizing m with
  | nil => simp
  | cons kv rest ih =>
    obtain ⟨k', v'⟩ := kv
    rw [List.foldl_cons, ih, List.reverse_cons, lookup_append, Option.or_assoc]
    congr 1
    by_cases hj : j = k'
    · subst hj
      simp [lookup_insert_self]
    · simp [lookup_cons, hj, lookup_insert_ne _ _ hj]

/-- **`toMap` keeps the last value given for each key.** -/
theorem lookup_toMap (j : String) (fs : List (String × Json)) :
    lookup j (toMap fs) = lookup j fs.reverse := by
  rw [toMap]
  simpa using lookup_foldl_insert (m := []) j fs

/-- **A map is determined by what it holds under each key.** Both lists are sorted, so their
least keys are the same key (the other's least key is missing from a list that starts above it),
and they hold the same value there; the rest follows by induction. -/
theorem eq_of_lookup_eq {a b : List (String × Json)} (ha : Sorted a) (hb : Sorted b)
    (h : ∀ k, lookup k a = lookup k b) : a = b := by
  induction a generalizing b with
  | nil =>
    cases b with
    | nil => rfl
    | cons kv rest =>
      obtain ⟨k, v⟩ := kv
      simpa using (h k).symm
  | cons kv rest ih =>
    cases b with
    | nil =>
      obtain ⟨k, v⟩ := kv
      simpa using h k
    | cons kv' rest' =>
      obtain ⟨k, v⟩ := kv
      obtain ⟨k', v'⟩ := kv'
      unfold Sorted at ha hb ih
      have below : ∀ {j k₀ : String} {v₀ : Json} {l : List (String × Json)},
          List.Pairwise (fun a b => a.1 < b.1) ((k₀, v₀) :: l) → j < k₀ →
            lookup j ((k₀, v₀) :: l) = none := fun hl hj =>
        lookup_eq_none_of_lt fun kv hkv => by
          rcases List.mem_cons.1 hkv with rfl | hmem
          · exact hj
          · exact hj.trans (List.rel_of_pairwise_cons hl hmem)
      have hkk : k = k' := by
        rcases lt_trichotomy k k' with hlt | heq | hgt
        · simpa [below hb hlt] using h k
        · exact heq
        · simpa [below ha hgt] using (h k').symm
      subst hkk
      have hvv : v = v' := by simpa using h k
      subst hvv
      congr 1
      refine ih ha.of_cons hb.of_cons fun j => ?_
      by_cases hj : j = k
      · subst hj
        rw [lookup_eq_none_of_lt fun kv hkv => List.rel_of_pairwise_cons ha hkv,
          lookup_eq_none_of_lt fun kv hkv => List.rel_of_pairwise_cons hb hkv]
      · simpa [lookup_cons, hj] using h j

end Maps

/-! ## Sorting keys -/

section SortKeys

theorem sortItems_eq_map (xs : List Json) : sortItems xs = xs.map sortKeys := by
  induction xs with
  | nil => rw [sortItems, List.map_nil]
  | cons x xs ih => rw [sortItems, ih, List.map_cons]

theorem sortFields_eq_map (fs : List (String × Json)) :
    sortFields fs = fs.map fun kv => (kv.1, sortKeys kv.2) := by
  induction fs with
  | nil => rw [sortFields, List.map_nil]
  | cons kv fs ih =>
    obtain ⟨k, x⟩ := kv
    rw [sortFields, ih, List.map_cons]

@[simp] theorem sortKeys_null : sortKeys .null = .null := rfl
@[simp] theorem sortKeys_bool (b : Bool) : sortKeys (.bool b) = .bool b := rfl
@[simp] theorem sortKeys_number (n : Number) : sortKeys (.number n) = .number n := rfl
@[simp] theorem sortKeys_string (s : String) : sortKeys (.string s) = .string s := rfl

theorem sortKeys_object (fs : List (String × Json)) :
    sortKeys (.object fs) = .object (toMap (fs.map fun kv => (kv.1, sortKeys kv.2))) := by
  rw [sortKeys, sortFields_eq_map]

theorem Canonical.sorted {es : List (String × Json)} (h : Canonical (.object es)) : Sorted es := by
  cases h
  assumption

/-- **`sortKeys` leaves a canonical value as it is.** -/
theorem sortKeys_of_canonical {j : Json} (h : Canonical j) : sortKeys j = j := by
  induction h with
  | null | bool | number | string => simp
  | array xs _ ih =>
    rw [sortKeys, sortItems_eq_map, List.map_congr_left (g := id) ih, List.map_id]
  | object fs hs _ ih =>
    have hvalues : (fs.map fun kv => (kv.1, sortKeys kv.2)) = fs := by
      conv_rhs => rw [← List.map_id fs]
      exact List.map_congr_left fun kv hkv => by simp [ih kv hkv]
    rw [sortKeys_object, hvalues, toMap_of_sorted hs]

/-- The values of a canonical map are canonical, so sorting their keys changes nothing. -/
theorem Canonical.lookup_map_sortKeys {es : List (String × Json)} (h : Canonical (.object es))
    (k : String) : (lookup k es).map sortKeys = lookup k es := by
  cases h with
  | object _ _ hvalues =>
    cases hk : lookup k es with
    | none => rfl
    | some v => simp [sortKeys_of_canonical (hvalues _ (mem_of_lookup_eq_some hk))]

end SortKeys

/-! ## Setting keys -/

section SetKeys

variable {k j : String} {m : List (String × Json)}

/-- A map with a value put under a key, or with `none` the key removed. -/
def setKey (k : String) : Option Json → List (String × Json) → List (String × Json)
  | some v, m => insert k v m
  | none, m => m.filter (·.1 != k)

/-- A map with each key of a list set as `setKey` sets it, in order. -/
def setKeys (changes : List (String × Option Json)) (m : List (String × Json)) :
    List (String × Json) :=
  changes.foldl (fun m c => setKey c.1 c.2 m) m

theorem lookup_setKey (o : Option Json) (m : List (String × Json)) :
    lookup j (setKey k o m) = if j = k then o else lookup j m := by
  cases o with
  | some v =>
    by_cases h : j = k
    · subst h
      simp [setKey, lookup_insert_self]
    · simp [setKey, lookup_insert_ne _ _ h, h]
  | none =>
    rw [setKey, lookup_filter_key fun s => s != k]
    by_cases h : j = k <;> simp [h]

theorem sorted_setKey (o : Option Json) (h : Sorted m) : Sorted (setKey k o m) := by
  cases o with
  | some v => exact sorted_insert k v h
  | none => exact h.filter _

theorem sorted_setKeys (changes : List (String × Option Json)) (h : Sorted m) :
    Sorted (setKeys changes m) := by
  induction changes generalizing m with
  | nil => exact h
  | cons c rest ih => exact ih (sorted_setKey c.2 h)

/-- A key that no change names holds what it held before. -/
theorem lookup_setKeys_of_not_mem {changes : List (String × Option Json)}
    (hj : j ∉ changes.map (·.1)) (m : List (String × Json)) :
    lookup j (setKeys changes m) = lookup j m := by
  induction changes generalizing m with
  | nil => rfl
  | cons c rest ih =>
    rw [List.map_cons, List.mem_cons, not_or] at hj
    rw [setKeys, List.foldl_cons, ← setKeys, ih hj.2, lookup_setKey, if_neg hj.1]

/-- With each key named once, a key holds what its change gives it. -/
theorem lookup_setKeys_of_mem {changes : List (String × Option Json)}
    (hnodup : (changes.map (·.1)).Nodup) {c : String × Option Json} (hc : c ∈ changes)
    (m : List (String × Json)) :
    lookup c.1 (setKeys changes m) = c.2 := by
  induction changes generalizing m with
  | nil => simp at hc
  | cons c' rest ih =>
    rw [List.map_cons, List.nodup_cons] at hnodup
    rw [setKeys, List.foldl_cons, ← setKeys]
    rcases List.mem_cons.1 hc with rfl | hmem
    · rw [lookup_setKeys_of_not_mem hnodup.1, lookup_setKey, if_pos rfl]
    · exact ih hnodup.2 hmem _

end SetKeys

end CrossRef.Json
