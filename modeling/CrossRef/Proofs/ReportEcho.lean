import Mathlib
import CrossRef.Proofs.RecordKinds
/-!
An analysis and a report, written back, read back.

A report read from a canonical value and written back, its keys sorted, decodes to itself
(`Report.ofJson_sortKeys_toJson`). Written back, a report has both its keys, and its analysis all
six, each list under its key; read back, each list is read again record by record. A record
read from a canonical value reads back as itself (the kinds' `writesBack`), so what carries the
proof is an invariant of the lists read so far (`Analysis.AllReadBack`): every record in them
reads back. The empty analysis has it, reading one more key keeps it
(`Analysis.AllReadBack.setOfJson`), and so every analysis read from a canonical value has it,
given as a map or as an array (`Analysis.allReadBack_ofJson`); the same for a report.

A written analysis lists its keys in its own order, which is not the order of a map: as a map
its six entries are sorted (`toMap_analysis`), each key still holding its list.
-/

namespace CrossRef

open CrossRef.Json CrossRef.Record

/-! ## 1. Maps listed in another order -/

section Perm

/-- Listing the entries of a list with distinct keys in another order holds the same values. -/
theorem lookup_perm {fs ms : List (String × Json)} (hnodup : (fs.map (·.1)).Nodup)
    (h : fs.Perm ms) (k : String) : lookup k fs = lookup k ms := by
  induction h with
  | nil => rfl
  | cons kv _ ih =>
    rw [List.map_cons, List.nodup_cons] at hnodup
    rw [lookup_cons, lookup_cons, ih hnodup.2]
  | swap kv kv' l =>
    -- two distinct keys: the one looked up is at most one of them
    obtain ⟨k₁, v₁⟩ := kv
    obtain ⟨k₂, v₂⟩ := kv'
    simp only [List.map_cons, List.nodup_cons, List.mem_cons, not_or] at hnodup
    simp only [lookup_cons]
    split_ifs with h₁ h₂ <;> first | rfl | exact absurd (h₂ ▸ h₁) (Ne.symm hnodup.1.1)
  | trans h₁ _ ih₁ ih₂ => rw [ih₁ hnodup, ih₂ ((h₁.map _).nodup_iff.1 hnodup)]

/-- **A list with distinct keys is, as a map, any sorted listing of its entries.** -/
theorem toMap_of_perm {fs ms : List (String × Json)} (hnodup : (fs.map (·.1)).Nodup)
    (hperm : fs.Perm ms) (hms : Sorted ms) : toMap fs = ms :=
  eq_of_lookup_eq (sorted_toMap fs) hms fun k => by
    rw [lookup_toMap, lookup_reverse hnodup, lookup_perm hnodup hperm]

/-- The six lists of an analysis as a map: local usages before locals, namespaces before
vars. -/
theorem toMap_analysis (A B C D E F : Json) :
    toMap [("locals", A), ("local-usages", B), ("var-definitions", C), ("var-usages", D),
      ("namespace-definitions", E), ("namespace-usages", F)] =
    [("local-usages", B), ("locals", A), ("namespace-definitions", E), ("namespace-usages", F),
      ("var-definitions", C), ("var-usages", D)] := by
  refine toMap_of_perm (by simp only [List.map_cons, List.map_nil]; decide) ?_ ?_
  · exact (List.Perm.swap _ _ _).trans
      (.cons _ (.cons _ (List.perm_append_comm : List.Perm ([_, _] ++ [_, _]) _)))
  · rw [Sorted, ← List.pairwise_map]
    simp only [List.map_cons, List.map_nil]
    decide

/-- A report's two keys are in order already. -/
theorem toMap_report (A F : Json) : toMap [("analysis", A), ("findings", F)] =
    [("analysis", A), ("findings", F)] :=
  toMap_of_sorted <| by
    rw [Sorted, ← List.pairwise_map]
    simp only [List.map_cons, List.map_nil]
    decide

end Perm

/-! ## 2. Lists of records -/

section Lists

variable {α : Type} {decode : Json → Except String α} {write : α → Json}

/-- A record that, written back with its keys sorted, decodes to itself. -/
def ReadsBack (decode : Json → Except String α) (write : α → Json) (a : α) : Prop :=
  decode (sortKeys (write a)) = .ok a

theorem WritesBack.readsBack {P R : Type} {s : Schema P R} {write : R → Json}
    {extra : R → Extra} {table : List (String × Echo)} (h : WritesBack s write extra table)
    {v : Json} {r : R} (hv : Canonical v) (hr : s.ofJson v = .ok r) :
    ReadsBack s.ofJson write r := by
  obtain ⟨_, _, _, _, hback⟩ := h v r hv hr
  exact hback

/-- Records decoded one by one from canonical values each read back. -/
theorem readsBack_of_mapM
    (hback : ∀ v a, Canonical v → decode v = .ok a → ReadsBack decode write a) {ys : List Json}
    (hys : ∀ y ∈ ys, Canonical y) {xs : List α} (h : ys.mapM decode = .ok xs) :
    ∀ x ∈ xs, ReadsBack decode write x := by
  induction ys generalizing xs with
  | nil =>
    cases h
    simp
  | cons y ys ih =>
    rw [List.mapM_cons, except_bind_eq_ok] at h
    obtain ⟨x, hx, h⟩ := h
    rw [except_bind_eq_ok] at h
    obtain ⟨xs', hxs', h⟩ := h
    cases h
    rw [List.forall_mem_cons] at hys ⊢
    exact ⟨hback y x hys.1 hx, ih hys.2 hxs'⟩

/-- **A list decoded from a canonical value has only records that read back.** -/
theorem readsBack_of_listOfJson
    (hback : ∀ v a, Canonical v → decode v = .ok a → ReadsBack decode write a) {j : Json}
    {xs : List α} (hj : Canonical j) (h : listOfJson decode j = .ok xs) :
    ∀ x ∈ xs, ReadsBack decode write x := by
  cases hj with
  | array ys hys => exact readsBack_of_mapM hback hys h
  | _ => simp [listOfJson] at h

/-- **A list of records that read back, written back, reads back.** -/
theorem listOfJson_write {xs : List α} (h : ∀ x ∈ xs, ReadsBack decode write x) :
    listOfJson decode (sortKeys (.array (xs.map write))) = .ok xs := by
  rw [sortKeys, sortItems_eq_map, listOfJson, List.map_map]
  induction xs with
  | nil => rfl
  | cons x xs ih =>
    rw [List.forall_mem_cons] at h
    have hx : decode (sortKeys (write x)) = .ok x := h.1
    simp [List.mapM_cons, hx, ih h.2]
    rfl

end Lists

/-! ## 3. Reading a value one key at a time -/

/-- **An invariant of a fold that may fail**: kept by every step on the items it holds for, it
holds of what the fold ends with. -/
theorem foldlM_invariant {σ β : Type} {f : σ → β → Except String σ} (I : σ → Prop)
    (Q : β → Prop) (hstep : ∀ s b s', I s → Q b → f s b = .ok s' → I s') {l : List β} {s s' : σ}
    (hs : I s) (hl : ∀ b ∈ l, Q b) (h : l.foldlM f s = .ok s') : I s' := by
  induction l generalizing s with
  | nil =>
    cases h
    exact hs
  | cons b l ih =>
    rw [List.foldlM_cons, except_bind_eq_ok] at h
    obtain ⟨t, ht, h⟩ := h
    rw [List.forall_mem_cons] at hl
    exact ih (hstep s b t hs hl.1 ht) hl.2 h

/-! ## 4. Analyses -/

/-- Every record in an analysis's lists reads back as itself. -/
structure Analysis.AllReadBack (a : Analysis) : Prop where
  locals : ∀ x ∈ a.locals, ReadsBack LocalBinding.schema.ofJson LocalBinding.toJson x
  localUsages : ∀ x ∈ a.localUsages, ReadsBack LocalUsage.schema.ofJson LocalUsage.toJson x
  varDefinitions :
    ∀ x ∈ a.varDefinitions, ReadsBack VarDefinition.schema.ofJson VarDefinition.toJson x
  varUsages : ∀ x ∈ a.varUsages, ReadsBack VarUsage.schema.ofJson VarUsage.toJson x
  namespaceDefinitions : ∀ x ∈ a.namespaceDefinitions,
    ReadsBack NamespaceDefinition.schema.ofJson NamespaceDefinition.toJson x
  namespaceUsages :
    ∀ x ∈ a.namespaceUsages, ReadsBack NamespaceUsage.schema.ofJson NamespaceUsage.toJson x

theorem Analysis.allReadBack_empty : ({} : Analysis).AllReadBack where
  locals := by simp
  localUsages := by simp
  varDefinitions := by simp
  varUsages := by simp
  namespaceDefinitions := by simp
  namespaceUsages := by simp

/-- **Reading one key of an analysis keeps its records reading back**: a list it reads comes
from a canonical value, and the other lists are as they were. -/
theorem Analysis.AllReadBack.setOfJson {a a' : Analysis} (ha : a.AllReadBack) {k : String}
    {v : Json} (hv : Canonical v) (h : a.setOfJson k v = .ok a') : a'.AllReadBack := by
  unfold Analysis.setOfJson at h
  split at h
  · obtain ⟨xs, hxs, ⟨⟩⟩ := except_bind_eq_ok.1 h
    exact { ha with
      locals := readsBack_of_listOfJson (fun _ _ => LocalBinding.writesBack.readsBack) hv hxs }
  · obtain ⟨xs, hxs, ⟨⟩⟩ := except_bind_eq_ok.1 h
    exact { ha with
      localUsages := readsBack_of_listOfJson (fun _ _ => LocalUsage.writesBack.readsBack) hv hxs }
  · obtain ⟨xs, hxs, ⟨⟩⟩ := except_bind_eq_ok.1 h
    exact { ha with
      varDefinitions :=
        readsBack_of_listOfJson (fun _ _ => VarDefinition.writesBack.readsBack) hv hxs }
  · obtain ⟨xs, hxs, ⟨⟩⟩ := except_bind_eq_ok.1 h
    exact { ha with
      varUsages := readsBack_of_listOfJson (fun _ _ => VarUsage.writesBack.readsBack) hv hxs }
  · obtain ⟨xs, hxs, ⟨⟩⟩ := except_bind_eq_ok.1 h
    exact { ha with
      namespaceDefinitions :=
        readsBack_of_listOfJson (fun _ _ => NamespaceDefinition.writesBack.readsBack) hv hxs }
  · obtain ⟨xs, hxs, ⟨⟩⟩ := except_bind_eq_ok.1 h
    exact { ha with
      namespaceUsages :=
        readsBack_of_listOfJson (fun _ _ => NamespaceUsage.writesBack.readsBack) hv hxs }
  · cases h
    exact ha

/-- **An analysis read from a canonical value has only records that read back**, whether it was
given as a map or as an array of its lists. -/
theorem Analysis.allReadBack_ofJson {v : Json} {a : Analysis} (hv : Canonical v)
    (h : Analysis.ofJson v = .ok a) : a.AllReadBack := by
  have hstep : ∀ (a : Analysis) (kv : String × Json) a', a.AllReadBack → Canonical kv.2 →
      (fun a (kv : String × Json) => a.setOfJson kv.1 kv.2) a kv = .ok a' → a'.AllReadBack :=
    fun _ _ _ ha hv h => ha.setOfJson hv h
  cases hv with
  | object es _ hes => exact foldlM_invariant _ _ hstep Analysis.allReadBack_empty hes h
  | array xs hxs =>
    rw [Analysis.ofJson] at h
    split_ifs at h
    exact foldlM_invariant _ _ hstep Analysis.allReadBack_empty
      (fun kv hkv => hxs _ (List.of_mem_zip hkv).2) h
  | _ => simp [Analysis.ofJson] at h

/-- **An analysis whose records read back, written back, reads back.** -/
theorem Analysis.AllReadBack.ofJson_write {a : Analysis} (ha : a.AllReadBack) :
    Analysis.ofJson (sortKeys a.toJson) = .ok a := by
  simp only [Analysis.toJson, sortKeys_object, List.map_cons, List.map_nil, toMap_analysis]
  simp [Analysis.ofJson, Analysis.setOfJson, listOfJson_write ha.locals,
    listOfJson_write ha.localUsages, listOfJson_write ha.varDefinitions,
    listOfJson_write ha.varUsages, listOfJson_write ha.namespaceDefinitions,
    listOfJson_write ha.namespaceUsages]
  rfl

/-! ## 5. Reports -/

/-- Every record of a report, in its analysis and among its findings, reads back as itself. -/
structure Report.AllReadBack (r : Report) : Prop where
  analysis : r.analysis.AllReadBack
  findings : ∀ x ∈ r.findings, ReadsBack Finding.schema.ofJson Finding.toJson x

theorem Report.AllReadBack.setOfJson {r r' : Report} (hr : r.AllReadBack) {k : String}
    {v : Json} (hv : Canonical v) (h : r.setOfJson k v = .ok r') : r'.AllReadBack := by
  unfold Report.setOfJson at h
  split at h
  · obtain ⟨a, ha, ⟨⟩⟩ := except_bind_eq_ok.1 h
    exact { hr with analysis := Analysis.allReadBack_ofJson hv ha }
  · obtain ⟨xs, hxs, ⟨⟩⟩ := except_bind_eq_ok.1 h
    exact { hr with
      findings := readsBack_of_listOfJson (fun _ _ => Finding.writesBack.readsBack) hv hxs }
  · cases h
    exact hr

theorem Report.allReadBack_ofJson {v : Json} {r : Report} (hv : Canonical v)
    (h : Report.ofJson v = .ok r) : r.AllReadBack := by
  have hempty : ({} : Report).AllReadBack := ⟨Analysis.allReadBack_empty, by simp⟩
  have hstep : ∀ (r : Report) (kv : String × Json) r', r.AllReadBack → Canonical kv.2 →
      (fun r (kv : String × Json) => r.setOfJson kv.1 kv.2) r kv = .ok r' → r'.AllReadBack :=
    fun _ _ _ hr hv h => hr.setOfJson hv h
  cases hv with
  | object es _ hes => exact foldlM_invariant _ _ hstep hempty hes h
  | array xs hxs =>
    rw [Report.ofJson] at h
    split_ifs at h
    exact foldlM_invariant _ _ hstep hempty (fun kv hkv => hxs _ (List.of_mem_zip hkv).2) h
  | _ => simp [Report.ofJson] at h

/-- **A report read from a canonical value, written back, reads back as itself**: written back
it has both its keys and all six lists of its analysis. -/
theorem Report.ofJson_sortKeys_toJson {v : Json} {r : Report} (hv : Canonical v)
    (h : Report.ofJson v = .ok r) : Report.ofJson (sortKeys r.toJson) = .ok r := by
  have hr := Report.allReadBack_ofJson hv h
  simp only [Report.toJson, sortKeys_object, List.map_cons, List.map_nil, toMap_report]
  simp [Report.ofJson, Report.setOfJson, hr.analysis.ofJson_write, listOfJson_write hr.findings]
  rfl

/-! ## 6. Every kind at once -/

/-- **Records write back what they read.** Each of the seven kinds of record, read from a
canonical value, keeps in its extra map the value's entries under every key that is neither its
own nor its extent's; written back, its keys sorted, it is the value with each of its own and its
extent's keys echoed by its rule; and it reads back as itself. A report read from a canonical
value, written back with all six lists and its findings, reads back as itself too. -/
theorem records_write_back_what_they_read :
    WritesBack LocalBinding.schema LocalBinding.toJson LocalBinding.extra
        (LocalBinding.echo ++ extentEcho) ∧
      WritesBack LocalUsage.schema LocalUsage.toJson LocalUsage.extra
        (LocalUsage.echo ++ extentEcho) ∧
      WritesBack VarDefinition.schema VarDefinition.toJson VarDefinition.extra
        (VarDefinition.echo ++ extentEcho) ∧
      WritesBack VarUsage.schema VarUsage.toJson VarUsage.extra (VarUsage.echo ++ extentEcho) ∧
      WritesBack NamespaceDefinition.schema NamespaceDefinition.toJson NamespaceDefinition.extra
        (NamespaceDefinition.echo ++ extentEcho) ∧
      WritesBack NamespaceUsage.schema NamespaceUsage.toJson NamespaceUsage.extra
        (NamespaceUsage.echo ++ extentEcho) ∧
      WritesBack Finding.schema Finding.toJson Finding.extra (Finding.echo ++ extentEcho) ∧
      ∀ (v : Json) (r : Report), Canonical v → Report.ofJson v = .ok r →
        Report.ofJson (sortKeys r.toJson) = .ok r :=
  ⟨LocalBinding.writesBack, LocalUsage.writesBack, VarDefinition.writesBack,
    VarUsage.writesBack, NamespaceDefinition.writesBack, NamespaceUsage.writesBack,
    Finding.writesBack, fun _ _ => Report.ofJson_sortKeys_toJson⟩

end CrossRef
