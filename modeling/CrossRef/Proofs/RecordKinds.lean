import Mathlib
import CrossRef.Proofs.RecordEcho
/-!
The seven kinds of record write back what they read.

Each kind has its table of rules for its own fields (`VarUsage.echo` and the rest): required
fields as given, optional fields without `null`, a local's `name` and a finding's `message` as
the empty text when not given, a finding's `level` by its name. With the extent's rules, the
table gives the kind's `WritesBack` statement.

Every kind is proved the same way, from the facts `writesBack_of` hands over: one fact for each
of its own fields, read off the map by `Schema.ofJson_map_ok`. Written back, each field is what
its rule makes of the map's value (`echo_given`, `echo_optional`, `echo_defaulted`,
`echo_level`), and `sortKeys_write` assembles the map. Read back from a map that holds what the
rules made, each field reads as it did (`readSlot_given_echoed` and the rest), and the parts read
build the same record, since it keeps of an optional field only its value and of a defaulted text
only the text. The extent, the extra map and decoding the whole map are `writesBack_of`'s.
-/

namespace CrossRef

open CrossRef.Json CrossRef.Record

/-! ## Var usages -/

/-- How a var usage writes back its own fields. -/
def VarUsage.echo : List (String × Echo) :=
  [("from", .given), ("to", .given), ("name", .given), ("alias", .optional),
   ("refer", .optional)]

theorem VarUsage.slotted : VarUsage.schema.Slotted where
  slots := ⟨by decide, by simp [VarUsage.schema, requiredText, optionalText],
    by simp [VarUsage.schema, requiredText, optionalText, Field.Apart]⟩
  get_empty := by simp [VarUsage.schema, requiredText, optionalText]
  not_extent := by decide

theorem VarUsage.keys_eq : VarUsage.schema.keys = (VarUsage.echo ++ extentEcho).map (·.1) := by
  decide

/-- **A var usage writes back what it read.** -/
theorem VarUsage.writesBack :
    WritesBack VarUsage.schema VarUsage.toJson VarUsage.extra (VarUsage.echo ++ extentEcho) := by
  refine writesBack_of VarUsage.slotted VarUsage.keys_eq (by decide) (fun _ _ _ => rfl) ?_
  intro es es₂ p q row col hes hp hmissing hq hrow hcol hlook
  simp only [VarUsage.schema, requiredText, optionalText, List.mem_cons, List.not_mem_nil,
    or_false, forall_eq_or_imp, forall_eq] at hp
  obtain ⟨hfrom, hto, hname, halias, hrefer⟩ := hp
  simp [firstMissing_eq_none, VarUsage.schema, requiredText, optionalText, Field.isSet,
    Option.isSome_iff_exists] at hmissing
  obtain ⟨⟨src, hsrc⟩, ⟨tgt, htgt⟩, ⟨nm, hnm⟩⟩ := hmissing
  rw [hsrc] at hfrom
  rw [htgt] at hto
  rw [hnm] at hname
  simp only [VarUsage.echo, List.mem_cons, List.not_mem_nil, or_false, forall_eq_or_imp,
    forall_eq] at hlook
  obtain ⟨lfrom, lto, lname, lalias, lrefer⟩ := hlook
  have hfrom₂ := readSlot_given_echoed lfrom hfrom
  have hto₂ := readSlot_given_echoed lto hto
  have hname₂ := readSlot_given_echoed lname hname
  have halias₂ := readSlot_optional_echoed lalias halias
  have hrefer₂ := readSlot_optional_echoed lrefer hrefer
  refine ⟨?_, ?_, fun p₂ hp₂ ext x => ?_⟩
  · -- written back: each own field by its rule, the extent by its own
    dsimp only [VarUsage.schema, VarUsage.toJson]
    refine sortKeys_write (by decide) hes ?_ ?_
    · simp only [List.map_append, List.append_subset]
      exact ⟨⟨⟨by simp [VarUsage.echo], by simp [VarUsage.echo]⟩, by simp [VarUsage.echo]⟩,
        keys_extent_fields _ _⟩
    · rw [List.forall_mem_append]
      refine ⟨?_, fun kr hkr => ?_⟩
      · simp [VarUsage.echo, Extent.fields, lookup_cons, Function.comp_def, hsrc, htgt, hnm,
          echo_given readsOnly_string hfrom, echo_given readsOnly_string hto,
          echo_given readsOnly_string hname, echo_optional readsOnly_string halias,
          echo_optional readsOnly_bool hrefer]
      · rw [← extent_echo hq hrow hcol kr hkr]
        revert kr
        simp [extentEcho, Extent.fields, lookup_cons, Function.comp_def]
  · -- read back: each own field reads as it did
    simp only [VarUsage.schema, requiredText, optionalText, List.mem_cons, List.not_mem_nil,
      or_false, forall_eq_or_imp, forall_eq, Field.ReadsIn]
    exact ⟨⟨_, hfrom₂, fun _ => rfl⟩, ⟨_, hto₂, fun _ => rfl⟩, ⟨_, hname₂, fun _ => rfl⟩,
      ⟨_, halias₂, (absurd · Bool.false_ne_true)⟩, ⟨_, hrefer₂, (absurd · Bool.false_ne_true)⟩⟩
  · -- and into parts that build the same record
    simp only [VarUsage.schema, requiredText, optionalText, List.mem_cons, List.not_mem_nil,
      or_false, forall_eq_or_imp, forall_eq] at hp₂
    obtain ⟨gfrom, gto, gname, galias, grefer⟩ := hp₂
    simp [VarUsage.schema, hsrc, htgt, hnm, ← Except.ok.inj (hfrom₂.symm.trans gfrom),
      ← Except.ok.inj (hto₂.symm.trans gto), ← Except.ok.inj (hname₂.symm.trans gname),
      ← Except.ok.inj (halias₂.symm.trans galias), ← Except.ok.inj (hrefer₂.symm.trans grefer)]

/-! ## Locals and local usages -/

/-- How a local binding writes back its own fields. -/
def LocalBinding.echo : List (String × Echo) :=
  [("id", .given), ("name", .defaulted), ("scope-end-row", .optional),
   ("scope-end-col", .optional)]

theorem LocalBinding.slotted : LocalBinding.schema.Slotted where
  slots := ⟨by decide, by simp [LocalBinding.schema, requiredId, defaultText, optionalU32],
    by simp [LocalBinding.schema, requiredId, defaultText, optionalU32, Field.Apart]⟩
  get_empty := by simp [LocalBinding.schema, requiredId, defaultText, optionalU32]
  not_extent := by decide

theorem LocalBinding.keys_eq :
    LocalBinding.schema.keys = (LocalBinding.echo ++ extentEcho).map (·.1) := by
  decide

/-- **A local binding writes back what it read.** -/
theorem LocalBinding.writesBack :
    WritesBack LocalBinding.schema LocalBinding.toJson LocalBinding.extra
      (LocalBinding.echo ++ extentEcho) := by
  refine writesBack_of LocalBinding.slotted LocalBinding.keys_eq (by decide) (fun _ _ _ => rfl) ?_
  intro es es₂ p q row col hes hp hmissing hq hrow hcol hlook
  simp only [LocalBinding.schema, requiredId, defaultText, optionalU32, List.mem_cons,
    List.not_mem_nil, or_false, forall_eq_or_imp, forall_eq] at hp
  obtain ⟨hid, hname, hendRow, hendCol⟩ := hp
  simp [firstMissing_eq_none, LocalBinding.schema, requiredId, defaultText, optionalU32,
    Field.isSet, Option.isSome_iff_exists] at hmissing
  obtain ⟨n, hn⟩ := hmissing
  rw [hn] at hid
  simp only [LocalBinding.echo, List.mem_cons, List.not_mem_nil, or_false, forall_eq_or_imp,
    forall_eq] at hlook
  obtain ⟨lid, lname, lendRow, lendCol⟩ := hlook
  have hid₂ := readSlot_given_echoed lid hid
  have hname₂ := readSlot_defaulted_echoed lname hname
  have hendRow₂ := readSlot_optional_echoed lendRow hendRow
  have hendCol₂ := readSlot_optional_echoed lendCol hendCol
  refine ⟨?_, ?_, fun p₂ hp₂ ext x => ?_⟩
  · -- written back: the scope's end after the extent
    dsimp only [LocalBinding.schema, LocalBinding.toJson]
    refine sortKeys_write (by decide) hes ?_ ?_
    · simp only [List.map_append, List.append_subset]
      exact ⟨⟨⟨by simp [LocalBinding.echo], keys_extent_fields _ _⟩,
        by simp [LocalBinding.echo]⟩, by simp [LocalBinding.echo]⟩
    · rw [List.forall_mem_append]
      refine ⟨?_, fun kr hkr => ?_⟩
      · simp [LocalBinding.echo, Extent.fields, lookup_cons, Function.comp_def, hn,
          echo_given readsOnly_u64 hid, echo_defaulted hname,
          echo_optional readsOnly_u32 hendRow, echo_optional readsOnly_u32 hendCol]
      · rw [← extent_echo hq hrow hcol kr hkr]
        revert kr
        simp [extentEcho, Extent.fields, lookup_cons, Function.comp_def]
  · simp only [LocalBinding.schema, requiredId, defaultText, optionalU32, List.mem_cons,
      List.not_mem_nil, or_false, forall_eq_or_imp, forall_eq, Field.ReadsIn]
    exact ⟨⟨_, hid₂, fun _ => rfl⟩, ⟨_, hname₂, (absurd · Bool.false_ne_true)⟩, ⟨_, hendRow₂, (absurd · Bool.false_ne_true)⟩,
      ⟨_, hendCol₂, (absurd · Bool.false_ne_true)⟩⟩
  · simp only [LocalBinding.schema, requiredId, defaultText, optionalU32, List.mem_cons,
      List.not_mem_nil, or_false, forall_eq_or_imp, forall_eq] at hp₂
    obtain ⟨gid, gname, gendRow, gendCol⟩ := hp₂
    simp [LocalBinding.schema, hn, ← Except.ok.inj (hid₂.symm.trans gid),
      ← Except.ok.inj (hname₂.symm.trans gname), ← Except.ok.inj (hendRow₂.symm.trans gendRow),
      ← Except.ok.inj (hendCol₂.symm.trans gendCol)]

/-- How a local usage writes back its own fields. -/
def LocalUsage.echo : List (String × Echo) :=
  [("id", .given), ("name", .defaulted)]

theorem LocalUsage.slotted : LocalUsage.schema.Slotted where
  slots := ⟨by decide, by simp [LocalUsage.schema, requiredId, defaultText],
    by simp [LocalUsage.schema, requiredId, defaultText, Field.Apart]⟩
  get_empty := by simp [LocalUsage.schema, requiredId, defaultText]
  not_extent := by decide

theorem LocalUsage.keys_eq :
    LocalUsage.schema.keys = (LocalUsage.echo ++ extentEcho).map (·.1) := by
  decide

/-- **A local usage writes back what it read.** -/
theorem LocalUsage.writesBack :
    WritesBack LocalUsage.schema LocalUsage.toJson LocalUsage.extra
      (LocalUsage.echo ++ extentEcho) := by
  refine writesBack_of LocalUsage.slotted LocalUsage.keys_eq (by decide) (fun _ _ _ => rfl) ?_
  intro es es₂ p q row col hes hp hmissing hq hrow hcol hlook
  simp only [LocalUsage.schema, requiredId, defaultText, List.mem_cons, List.not_mem_nil,
    or_false, forall_eq_or_imp, forall_eq] at hp
  obtain ⟨hid, hname⟩ := hp
  simp [firstMissing_eq_none, LocalUsage.schema, requiredId, defaultText, Field.isSet,
    Option.isSome_iff_exists] at hmissing
  obtain ⟨n, hn⟩ := hmissing
  rw [hn] at hid
  simp only [LocalUsage.echo, List.mem_cons, List.not_mem_nil, or_false, forall_eq_or_imp,
    forall_eq] at hlook
  obtain ⟨lid, lname⟩ := hlook
  have hid₂ := readSlot_given_echoed lid hid
  have hname₂ := readSlot_defaulted_echoed lname hname
  refine ⟨?_, ?_, fun p₂ hp₂ ext x => ?_⟩
  · dsimp only [LocalUsage.schema, LocalUsage.toJson]
    refine sortKeys_write (by decide) hes ?_ ?_
    · simp only [List.map_append, List.append_subset]
      exact ⟨by simp [LocalUsage.echo], keys_extent_fields _ _⟩
    · rw [List.forall_mem_append]
      refine ⟨?_, fun kr hkr => ?_⟩
      · simp [LocalUsage.echo, Extent.fields, lookup_cons, hn,
          echo_given readsOnly_u64 hid, echo_defaulted hname]
      · rw [← extent_echo hq hrow hcol kr hkr]
        revert kr
        simp [extentEcho, Extent.fields, lookup_cons, Function.comp_def]
  · simp only [LocalUsage.schema, requiredId, defaultText, List.mem_cons, List.not_mem_nil,
      or_false, forall_eq_or_imp, forall_eq, Field.ReadsIn]
    exact ⟨⟨_, hid₂, fun _ => rfl⟩, ⟨_, hname₂, (absurd · Bool.false_ne_true)⟩⟩
  · simp only [LocalUsage.schema, requiredId, defaultText, List.mem_cons, List.not_mem_nil,
      or_false, forall_eq_or_imp, forall_eq] at hp₂
    obtain ⟨gid, gname⟩ := hp₂
    simp [LocalUsage.schema, hn, ← Except.ok.inj (hid₂.symm.trans gid),
      ← Except.ok.inj (hname₂.symm.trans gname)]

/-! ## Var definitions -/

/-- How a var definition writes back its own fields. -/
def VarDefinition.echo : List (String × Echo) :=
  [("ns", .given), ("name", .given), ("defined-by", .optional)]

theorem VarDefinition.slotted : VarDefinition.schema.Slotted where
  slots := ⟨by decide, by simp [VarDefinition.schema, requiredText, optionalText],
    by simp [VarDefinition.schema, requiredText, optionalText, Field.Apart]⟩
  get_empty := by simp [VarDefinition.schema, requiredText, optionalText]
  not_extent := by decide

theorem VarDefinition.keys_eq :
    VarDefinition.schema.keys = (VarDefinition.echo ++ extentEcho).map (·.1) := by
  decide

/-- **A var definition writes back what it read.** -/
theorem VarDefinition.writesBack :
    WritesBack VarDefinition.schema VarDefinition.toJson VarDefinition.extra
      (VarDefinition.echo ++ extentEcho) := by
  refine writesBack_of VarDefinition.slotted VarDefinition.keys_eq (by decide)
    (fun _ _ _ => rfl) ?_
  intro es es₂ p q row col hes hp hmissing hq hrow hcol hlook
  simp only [VarDefinition.schema, requiredText, optionalText, List.mem_cons, List.not_mem_nil,
    or_false, forall_eq_or_imp, forall_eq] at hp
  obtain ⟨hns, hname, hby⟩ := hp
  simp [firstMissing_eq_none, VarDefinition.schema, requiredText, optionalText, Field.isSet,
    Option.isSome_iff_exists] at hmissing
  obtain ⟨⟨ns, hns'⟩, ⟨nm, hnm⟩⟩ := hmissing
  rw [hns'] at hns
  rw [hnm] at hname
  simp only [VarDefinition.echo, List.mem_cons, List.not_mem_nil, or_false, forall_eq_or_imp,
    forall_eq] at hlook
  obtain ⟨lns, lname, lby⟩ := hlook
  have hns₂ := readSlot_given_echoed lns hns
  have hname₂ := readSlot_given_echoed lname hname
  have hby₂ := readSlot_optional_echoed lby hby
  refine ⟨?_, ?_, fun p₂ hp₂ ext x => ?_⟩
  · dsimp only [VarDefinition.schema, VarDefinition.toJson]
    refine sortKeys_write (by decide) hes ?_ ?_
    · simp only [List.map_append, List.append_subset]
      exact ⟨⟨by simp [VarDefinition.echo], by simp [VarDefinition.echo]⟩,
        keys_extent_fields _ _⟩
    · rw [List.forall_mem_append]
      refine ⟨?_, fun kr hkr => ?_⟩
      · simp [VarDefinition.echo, Extent.fields, lookup_cons, Function.comp_def, hns', hnm,
          echo_given readsOnly_string hns, echo_given readsOnly_string hname,
          echo_optional readsOnly_string hby]
      · rw [← extent_echo hq hrow hcol kr hkr]
        revert kr
        simp [extentEcho, Extent.fields, lookup_cons, Function.comp_def]
  · simp only [VarDefinition.schema, requiredText, optionalText, List.mem_cons, List.not_mem_nil,
      or_false, forall_eq_or_imp, forall_eq, Field.ReadsIn]
    exact ⟨⟨_, hns₂, fun _ => rfl⟩, ⟨_, hname₂, fun _ => rfl⟩, ⟨_, hby₂, (absurd · Bool.false_ne_true)⟩⟩
  · simp only [VarDefinition.schema, requiredText, optionalText, List.mem_cons, List.not_mem_nil,
      or_false, forall_eq_or_imp, forall_eq] at hp₂
    obtain ⟨gns, gname, gby⟩ := hp₂
    simp [VarDefinition.schema, hns', hnm, ← Except.ok.inj (hns₂.symm.trans gns),
      ← Except.ok.inj (hname₂.symm.trans gname), ← Except.ok.inj (hby₂.symm.trans gby)]

/-! ## Namespace definitions and usages -/

/-- How a namespace definition writes back its own field. -/
def NamespaceDefinition.echo : List (String × Echo) :=
  [("name", .given)]

theorem NamespaceDefinition.slotted : NamespaceDefinition.schema.Slotted where
  slots := ⟨by decide, by simp [NamespaceDefinition.schema, requiredText],
    by simp [NamespaceDefinition.schema]⟩
  get_empty := by simp [NamespaceDefinition.schema, requiredText]
  not_extent := by decide

theorem NamespaceDefinition.keys_eq :
    NamespaceDefinition.schema.keys = (NamespaceDefinition.echo ++ extentEcho).map (·.1) := by
  decide

/-- **A namespace definition writes back what it read.** -/
theorem NamespaceDefinition.writesBack :
    WritesBack NamespaceDefinition.schema NamespaceDefinition.toJson NamespaceDefinition.extra
      (NamespaceDefinition.echo ++ extentEcho) := by
  refine writesBack_of NamespaceDefinition.slotted NamespaceDefinition.keys_eq (by decide)
    (fun _ _ _ => rfl) ?_
  intro es es₂ p q row col hes hname hmissing hq hrow hcol lname
  simp only [NamespaceDefinition.schema, requiredText, List.mem_cons, List.not_mem_nil,
    or_false, forall_eq] at hname
  simp [firstMissing_eq_none, NamespaceDefinition.schema, requiredText, Field.isSet,
    Option.isSome_iff_exists] at hmissing
  obtain ⟨nm, hnm⟩ := hmissing
  rw [hnm] at hname
  simp only [NamespaceDefinition.echo, List.mem_cons, List.not_mem_nil, or_false,
    forall_eq] at lname
  have hname₂ := readSlot_given_echoed lname hname
  refine ⟨?_, ?_, fun p₂ hp₂ ext x => ?_⟩
  · dsimp only [NamespaceDefinition.schema, NamespaceDefinition.toJson]
    refine sortKeys_write (by decide) hes ?_ ?_
    · simp only [List.map_append, List.append_subset]
      exact ⟨by simp [NamespaceDefinition.echo], keys_extent_fields _ _⟩
    · rw [List.forall_mem_append]
      refine ⟨?_, fun kr hkr => ?_⟩
      · simp [NamespaceDefinition.echo, Extent.fields, lookup_cons, hnm,
          echo_given readsOnly_string hname]
      · rw [← extent_echo hq hrow hcol kr hkr]
        revert kr
        simp [extentEcho, Extent.fields, lookup_cons, Function.comp_def]
  · simp only [NamespaceDefinition.schema, requiredText, List.mem_cons, List.not_mem_nil,
      or_false, forall_eq, Field.ReadsIn]
    exact ⟨_, hname₂, fun _ => rfl⟩
  · simp only [NamespaceDefinition.schema, requiredText, List.mem_cons, List.not_mem_nil,
      or_false, forall_eq] at hp₂
    simp [NamespaceDefinition.schema, hnm, ← Except.ok.inj (hname₂.symm.trans hp₂)]

/-- How a namespace usage writes back its own fields. -/
def NamespaceUsage.echo : List (String × Echo) :=
  [("from", .given), ("to", .given), ("alias", .optional)]

theorem NamespaceUsage.slotted : NamespaceUsage.schema.Slotted where
  slots := ⟨by decide, by simp [NamespaceUsage.schema, requiredText, optionalText],
    by simp [NamespaceUsage.schema, requiredText, optionalText, Field.Apart]⟩
  get_empty := by simp [NamespaceUsage.schema, requiredText, optionalText]
  not_extent := by decide

theorem NamespaceUsage.keys_eq :
    NamespaceUsage.schema.keys = (NamespaceUsage.echo ++ extentEcho).map (·.1) := by
  decide

/-- **A namespace usage writes back what it read.** -/
theorem NamespaceUsage.writesBack :
    WritesBack NamespaceUsage.schema NamespaceUsage.toJson NamespaceUsage.extra
      (NamespaceUsage.echo ++ extentEcho) := by
  refine writesBack_of NamespaceUsage.slotted NamespaceUsage.keys_eq (by decide)
    (fun _ _ _ => rfl) ?_
  intro es es₂ p q row col hes hp hmissing hq hrow hcol hlook
  simp only [NamespaceUsage.schema, requiredText, optionalText, List.mem_cons, List.not_mem_nil,
    or_false, forall_eq_or_imp, forall_eq] at hp
  obtain ⟨hfrom, hto, halias⟩ := hp
  simp [firstMissing_eq_none, NamespaceUsage.schema, requiredText, optionalText, Field.isSet,
    Option.isSome_iff_exists] at hmissing
  obtain ⟨⟨src, hsrc⟩, ⟨tgt, htgt⟩⟩ := hmissing
  rw [hsrc] at hfrom
  rw [htgt] at hto
  simp only [NamespaceUsage.echo, List.mem_cons, List.not_mem_nil, or_false, forall_eq_or_imp,
    forall_eq] at hlook
  obtain ⟨lfrom, lto, lalias⟩ := hlook
  have hfrom₂ := readSlot_given_echoed lfrom hfrom
  have hto₂ := readSlot_given_echoed lto hto
  have halias₂ := readSlot_optional_echoed lalias halias
  refine ⟨?_, ?_, fun p₂ hp₂ ext x => ?_⟩
  · dsimp only [NamespaceUsage.schema, NamespaceUsage.toJson]
    refine sortKeys_write (by decide) hes ?_ ?_
    · simp only [List.map_append, List.append_subset]
      exact ⟨⟨by simp [NamespaceUsage.echo], by simp [NamespaceUsage.echo]⟩,
        keys_extent_fields _ _⟩
    · rw [List.forall_mem_append]
      refine ⟨?_, fun kr hkr => ?_⟩
      · simp [NamespaceUsage.echo, Extent.fields, lookup_cons, Function.comp_def, hsrc, htgt,
          echo_given readsOnly_string hfrom, echo_given readsOnly_string hto,
          echo_optional readsOnly_string halias]
      · rw [← extent_echo hq hrow hcol kr hkr]
        revert kr
        simp [extentEcho, Extent.fields, lookup_cons, Function.comp_def]
  · simp only [NamespaceUsage.schema, requiredText, optionalText, List.mem_cons,
      List.not_mem_nil, or_false, forall_eq_or_imp, forall_eq, Field.ReadsIn]
    exact ⟨⟨_, hfrom₂, fun _ => rfl⟩, ⟨_, hto₂, fun _ => rfl⟩, ⟨_, halias₂, (absurd · Bool.false_ne_true)⟩⟩
  · simp only [NamespaceUsage.schema, requiredText, optionalText, List.mem_cons,
      List.not_mem_nil, or_false, forall_eq_or_imp, forall_eq] at hp₂
    obtain ⟨gfrom, gto, galias⟩ := hp₂
    simp [NamespaceUsage.schema, hsrc, htgt, ← Except.ok.inj (hfrom₂.symm.trans gfrom),
      ← Except.ok.inj (hto₂.symm.trans gto), ← Except.ok.inj (halias₂.symm.trans galias)]

/-! ## Findings -/

/-- How a finding writes back its own fields. -/
def Finding.echo : List (String × Echo) :=
  [("level", .level), ("type", .given), ("message", .defaulted)]

theorem Finding.slotted : Finding.schema.Slotted where
  slots := ⟨by decide, by simp [Finding.schema, requiredText, defaultText],
    by simp [Finding.schema, requiredText, defaultText, Field.Apart]⟩
  get_empty := by simp [Finding.schema, requiredText, defaultText]
  not_extent := by decide

theorem Finding.keys_eq : Finding.schema.keys = (Finding.echo ++ extentEcho).map (·.1) := by
  decide

/-- **A finding writes back what it read.** -/
theorem Finding.writesBack :
    WritesBack Finding.schema Finding.toJson Finding.extra (Finding.echo ++ extentEcho) := by
  refine writesBack_of Finding.slotted Finding.keys_eq (by decide) (fun _ _ _ => rfl) ?_
  intro es es₂ p q row col hes hp hmissing hq hrow hcol hlook
  simp only [Finding.schema, requiredText, defaultText, List.mem_cons, List.not_mem_nil,
    or_false, forall_eq_or_imp, forall_eq] at hp
  obtain ⟨hlevel, hkind, hmessage⟩ := hp
  simp [firstMissing_eq_none, Finding.schema, requiredText, defaultText, Field.isSet,
    Option.isSome_iff_exists] at hmissing
  obtain ⟨⟨l, hl⟩, ⟨k, hk⟩⟩ := hmissing
  rw [hl] at hlevel
  rw [hk] at hkind
  simp only [Finding.echo, List.mem_cons, List.not_mem_nil, or_false, forall_eq_or_imp,
    forall_eq] at hlook
  obtain ⟨llevel, lkind, lmessage⟩ := hlook
  have hlevel₂ := readSlot_level_echoed llevel hlevel
  have hkind₂ := readSlot_given_echoed lkind hkind
  have hmessage₂ := readSlot_defaulted_echoed lmessage hmessage
  refine ⟨?_, ?_, fun p₂ hp₂ ext x => ?_⟩
  · -- written back: the level by its name
    dsimp only [Finding.schema, Finding.toJson]
    refine sortKeys_write (by decide) hes ?_ ?_
    · simp only [List.map_append, List.append_subset]
      exact ⟨by simp [Finding.echo], keys_extent_fields _ _⟩
    · rw [List.forall_mem_append]
      refine ⟨?_, fun kr hkr => ?_⟩
      · simp [Finding.echo, Extent.fields, lookup_cons, hl, hk,
          echo_level hlevel, echo_given readsOnly_string hkind,
          echo_defaulted hmessage]
      · rw [← extent_echo hq hrow hcol kr hkr]
        revert kr
        simp [extentEcho, Extent.fields, lookup_cons, Function.comp_def]
  · simp only [Finding.schema, requiredText, defaultText, List.mem_cons, List.not_mem_nil,
      or_false, forall_eq_or_imp, forall_eq, Field.ReadsIn]
    exact ⟨⟨_, hlevel₂, fun _ => rfl⟩, ⟨_, hkind₂, fun _ => rfl⟩, ⟨_, hmessage₂, (absurd · Bool.false_ne_true)⟩⟩
  · simp only [Finding.schema, requiredText, defaultText, List.mem_cons, List.not_mem_nil,
      or_false, forall_eq_or_imp, forall_eq] at hp₂
    obtain ⟨glevel, gkind, gmessage⟩ := hp₂
    simp [Finding.schema, hl, hk, ← Except.ok.inj (hlevel₂.symm.trans glevel),
      ← Except.ok.inj (hkind₂.symm.trans gkind), ← Except.ok.inj (hmessage₂.symm.trans gmessage)]

end CrossRef
