import Mathlib
import CrossRef.Proofs.SelfEquality
import CrossRef.Proofs.FieldReads
import CrossRef.Proofs.Occurrences
import CrossRef.Proofs.ResponseDecoding
import CrossRef.Wire.OneShot
import CrossRef.Wire.Client
/-!
Reading never yields `NaN`.

An entity equals itself exactly when no double among its extra fields is `NaN`
(`Entity.beq_self`), and the navigator's landing theorems ask that of the entity explored. This
module shows that every entity the program reads is of that kind: an answer that decodes holds no
`NaN` anywhere in its analysis (`Response.entities_nanFree_of_decode`).

The doubles of a JSON text come from the number reader and from nothing else. It rounds a natural
number to a double (`Decimal.roundNat`), scales it by entries of its table of powers of ten, and
may negate it; a few branches give `0.0` or `-0.0` outright. In the IEEE model a rounded natural
is never `NaN` (`ofNat_ne_notANumber`), and the only `NaN` a product or a quotient of two numbers
makes is zero times infinity, zero over zero or infinity over infinity. A factor or divisor that
is finite and not zero rules all of these out (`isNaN_mul`, `isNaN_div`), so what is left is a
fact about the data: every entry of the table is finite and not zero (`finiteNonzero_pow10`),
which is checked entry by entry. Were one infinite, `0e300` would read as zero times infinity.

From there `Reader.Ensures` carries the property up through every reader that builds a value:
the number reader (`ensures_number`); any value, with the arrays and objects in it
(`ensures_value`, by induction on the fuel); the values a record sets aside and keeps as its
extra fields (`Schema.ensures_read`); the six lists of an analysis (`Analysis.ensures_read`); and
the response around it (`Response.ensures_read_nanFree`). Both transports answer only with
decoded lines, so the same holds of every analysis a session is handed
(`OneShot.answer_entities_nanFree`, `Peer.exchange_entities_nanFree`).
-/

namespace CrossRef

open Float.Model Float.Model.UnpackedFloat

/-! ## Doubles that are not `NaN` -/

section Doubles

/-- A packed number unpacks as the bits its packing gives. -/
theorem unpack_pack (u : UnpackedFloat) :
    (Float.Model.pack u).unpack =
      UnpackedFloat.unpack Format.binary64 (UnpackedFloat.pack Format.binary64 u) := rfl

/-- Bits whose exponent field is not all ones, or whose significand field is empty, are no
`NaN`. -/
theorem isNaN_unpack_packComponents {s : Sign} {e : BitVec 11} {m : BitVec 52}
    (h : e ≠ -1#11 ∨ m = 0#52) :
    (UnpackedFloat.unpack Format.binary64
      (UnpackedFloat.packComponents Format.binary64 s e m)).isNaN = false := by
  unfold UnpackedFloat.unpack
  simp only [UnpackedFloat.unpackExponent_packComponents,
    UnpackedFloat.unpackMantissa_packComponents]
  split_ifs <;> simp_all [UnpackedFloat.isNaN]

/-- **Packing keeps a number a number**: only `NaN` packs to `NaN`, since a finite number either
overflows to infinity or gets an exponent field below all ones. -/
theorem isNaN_ofModel_pack {u : UnpackedFloat} (hu : u ≠ .notANumber) :
    (Float.ofModel (Float.Model.pack u)).isNaN = false := by
  simp only [Float.isNaN, Float.Model.isNaN, unpack_pack]
  cases u with
  | notANumber => exact absurd rfl hu
  | infinity s => exact isNaN_unpack_packComponents (.inr rfl)
  | zero s => exact isNaN_unpack_packComponents (.inl (by decide))
  | finite s m e hm =>
    unfold UnpackedFloat.pack
    dsimp only
    split_ifs with hover
    · exact isNaN_unpack_packComponents (.inr rfl)
    · -- a normal number: its biased exponent is below all ones
      refine isNaN_unpack_packComponents (.inl fun h => hover ?_)
      have h' := congrArg BitVec.toNat h
      simp only [BitVec.toNat_ofNat] at h'
      simp_all
      omega
    · exact isNaN_unpack_packComponents (.inl (by decide))

/-- Rounding gives zero or a finite number. -/
theorem roundWithAccuracy_ne_notANumber (spec : Format) (s : Sign) (m : Nat) (e : Int)
    (a : Accuracy) : roundWithAccuracy spec s m e a ≠ .notANumber := by
  unfold roundWithAccuracy
  dsimp only
  split <;> exact fun h => by cases h

/-- **A rounded natural number is no `NaN`.** -/
theorem ofNat_ne_notANumber (spec : Format) (n : Nat) :
    UnpackedFloat.ofNat spec n ≠ .notANumber := by
  unfold UnpackedFloat.ofNat UnpackedFloat.ofInt UnpackedFloat.normalize UnpackedFloat.round
  split
  · exact roundWithAccuracy_ne_notANumber _ _ _ _ _
  · exact fun h => by cases h
  · exact roundWithAccuracy_ne_notANumber _ _ _ _ _

/-- Times a finite nonzero number, only `NaN` gives `NaN`. -/
theorem mul_ne_notANumber {x : UnpackedFloat} (hx : x ≠ .notANumber) {s : Sign} {m : Nat} {e : Int}
    (hm : 0 < m) : UnpackedFloat.mul Format.binary64 x (.finite s m e hm) ≠ .notANumber := by
  cases x with
  | notANumber => exact absurd rfl hx
  | infinity _ | zero _ => exact fun h => by cases h
  | finite _ _ _ _ => exact roundWithAccuracy_ne_notANumber _ _ _ _ _

/-- Over a finite nonzero number, only `NaN` gives `NaN`. -/
theorem div_ne_notANumber {x : UnpackedFloat} (hx : x ≠ .notANumber) {s : Sign} {m : Nat} {e : Int}
    (hm : 0 < m) : UnpackedFloat.div Format.binary64 x (.finite s m e hm) ≠ .notANumber := by
  cases x with
  | notANumber => exact absurd rfl hx
  | infinity _ | zero _ => exact fun h => by cases h
  | finite _ _ _ _ =>
    simp only [UnpackedFloat.div]
    generalize divCore Format.binary64 _ _ _ _ = q
    obtain ⟨m', e', acc⟩ := q
    exact roundWithAccuracy_ne_notANumber _ _ _ _ _

/-- A double that is no `NaN` unpacks to a number. -/
theorem unpack_ne_of_isNaN {a : Float} (h : a.isNaN = false) : a.toModel.unpack ≠ .notANumber :=
  fun hu => by simp [Float.isNaN, Float.Model.isNaN, hu, UnpackedFloat.isNaN] at h

/-- A number that is neither zero nor infinite, nor `NaN`. -/
def finiteNonzero : UnpackedFloat → Bool
  | .finite .. => true
  | _ => false

/-- An operation of the model that gives `NaN` against a finite nonzero operand only from `NaN`
does the same on doubles. -/
theorem isNaN_ofModel_op {op : UnpackedFloat → UnpackedFloat → UnpackedFloat}
    (hop : ∀ {x s m e} (hm : 0 < m), x ≠ .notANumber → op x (.finite s m e hm) ≠ .notANumber)
    {a b : Float} (ha : a.isNaN = false) (hb : finiteNonzero b.toModel.unpack = true) :
    (Float.ofModel (Float.Model.pack (op a.toModel.unpack b.toModel.unpack))).isNaN = false := by
  cases hu : b.toModel.unpack with
  | finite s m e hm => exact isNaN_ofModel_pack (hop hm (unpack_ne_of_isNaN ha))
  | _ => simp [hu, finiteNonzero] at hb

/-- **A product with a finite nonzero double** is `NaN` only when the other factor is. -/
theorem isNaN_mul {a b : Float} (ha : a.isNaN = false)
    (hb : finiteNonzero b.toModel.unpack = true) : (a * b).isNaN = false :=
  isNaN_ofModel_op (fun hm hx => mul_ne_notANumber hx hm) ha hb

/-- **A quotient by a finite nonzero double** is `NaN` only when the dividend is. -/
theorem isNaN_div {a b : Float} (ha : a.isNaN = false)
    (hb : finiteNonzero b.toModel.unpack = true) : (a / b).isNaN = false :=
  isNaN_ofModel_op (fun hm hx => div_ne_notANumber hx hm) ha hb

/-- Negation keeps a number a number. -/
theorem isNaN_neg {a : Float} (ha : a.isNaN = false) : (-a).isNaN = false := by
  show (Float.ofModel (Float.Model.pack a.toModel.unpack.neg)).isNaN = false
  refine isNaN_ofModel_pack ?_
  cases hu : a.toModel.unpack with
  | notANumber => exact absurd hu (unpack_ne_of_isNaN ha)
  | _ => exact fun h => by cases h

/-- **A natural number rounded to a double is no `NaN`**: below `2^64` the machine's conversion,
above it the model's, both the rounding of the IEEE model. -/
theorem isNaN_roundNat (n : Nat) : (Decimal.roundNat n).isNaN = false := by
  unfold Decimal.roundNat
  split_ifs <;> exact isNaN_ofModel_pack (ofNat_ne_notANumber _ _)

end Doubles

/-! ## The number reader -/

namespace Json.Reader

open Decimal

/-- **Every double of the table of powers of ten is a finite number other than zero**, checked
entry by entry: the largest, `10^308`, is below the largest double. -/
theorem finiteNonzero_pow10 : ∀ k, k < 309 → finiteNonzero (pow10 k).toModel.unpack = true := by
  decide +kernel

/-- **Scaling by the table never makes `NaN`.** -/
theorem isNaN_composeFloat_go : ∀ (fuel : Nat) (f : Float) (e : Int) (g : Float),
    f.isNaN = false → composeFloat.go f e fuel = .ok g → g.isNaN = false
  | 0, f, e, g, hf, h => by
    rw [composeFloat.go, Except.ok.injEq] at h
    exact h ▸ hf
  | fuel + 1, f, e, g, hf, h => by
    unfold composeFloat.go at h
    split_ifs at h with h308 hpos hzero
    · -- a positive exponent in the table: one product, refused when it is infinite
      dsimp only at h
      split_ifs at h
      cases h
      exact isNaN_mul hf (finiteNonzero_pow10 _ (by omega))
    · cases h
      exact isNaN_div hf (finiteNonzero_pow10 _ (by omega))
    · cases h
      exact hf
    · -- a negative exponent past the table: divide by its last power and go on
      exact isNaN_composeFloat_go fuel _ _ g (isNaN_div hf (finiteNonzero_pow10 308 (by decide))) h

/-- The double of a significand and a decimal exponent is no `NaN`. -/
theorem isNaN_composeFloat {significand : Nat} {exponent : Int} {g : Float}
    (h : composeFloat significand exponent = .ok g) : g.isNaN = false :=
  isNaN_composeFloat_go 4 _ _ g (isNaN_roundNat significand) h

/-- A double that is no `NaN`. -/
abbrev NotNaN (f : Float) : Prop := f.isNaN = false

/-- The double of the parts, with its sign, is no `NaN`. -/
theorem ensures_fromParts (positive : Bool) (significand : Nat) (exponent : Int) :
    Ensures (fromParts positive significand exponent) NotNaN := by
  unfold fromParts
  rcases h : composeFloat significand exponent with s | f
  · exact Ensures.fail s
  · refine Ensures.pure ?_
    cases positive
    · exact isNaN_neg (isNaN_composeFloat h)
    · exact isNaN_composeFloat h

/-- The zero a reader out of fuel gives. -/
theorem notNaN_zero : NotNaN 0.0 := by decide +kernel

/-- The zero of either sign an underflowing exponent gives. -/
theorem notNaN_signedZero (positive : Bool) : NotNaN (if positive then 0.0 else -0.0) := by
  cases positive <;> decide +kernel

/-- An exponent too large to read gives a signed zero, or fails. -/
theorem ensures_exponentOverflow (positive zeroSignificand positiveExp : Bool) :
    Ensures (exponentOverflow positive zeroSignificand positiveExp) NotNaN := by
  unfold exponentOverflow
  split
  · exact Ensures.fail _
  · exact Ensures.bind (Ensures.trivial _) fun _ _ => Ensures.bind (Ensures.trivial _) fun _ _ =>
      Ensures.pure (notNaN_signedZero positive)

/-- The digits of an exponent end in the double of the parts. -/
theorem ensures_exponentDigits (positive : Bool) (significand : Nat) (start : Int)
    (positiveExp : Bool) : ∀ (exp fuel : Nat),
    Ensures (exponentDigits positive significand start positiveExp exp fuel) NotNaN
  | _, 0 => Ensures.pure notNaN_zero
  | exp, fuel + 1 => by
    rw [exponentDigits]
    refine Ensures.bind (Ensures.trivial _) fun b _ => ?_
    split
    · refine Ensures.bind (Ensures.trivial _) fun _ _ => ?_
      split
      · exact ensures_exponentOverflow _ _ _
      · exact ensures_exponentDigits positive significand start positiveExp _ fuel
    · exact ensures_fromParts _ _ _

/-- An exponent, with its sign, ends in the double of the parts. -/
theorem ensures_exponentPart (positive : Bool) (significand : Nat) (start : Int) :
    Ensures (exponentPart positive significand start) NotNaN := by
  unfold exponentPart
  refine Ensures.bind (Ensures.trivial _) fun _ _ => Ensures.bind (Ensures.trivial _) fun _ _ => ?_
  dsimp only
  -- whichever sign the exponent has, its digits follow
  split
  all_goals
    repeat refine Ensures.bind (Ensures.trivial _) fun _ _ => ?_
    split
    · exact Ensures.fail _
    · split
      · exact Ensures.bind (Ensures.trivial _) fun fuel _ => ensures_exponentDigits _ _ _ _ _ fuel
      · exact Ensures.fail _

/-- Digits past a full significand end in the double of the parts. -/
theorem ensures_decimalOverflow (positive : Bool) (significand : Nat) (exponent : Int) :
    Ensures (decimalOverflow positive significand exponent) NotNaN := by
  unfold decimalOverflow
  refine Ensures.bind (Ensures.trivial _) fun _ _ => Ensures.bind (Ensures.trivial _)
    fun _ _ => Ensures.bind (Ensures.trivial _) fun _ _ => ?_
  split
  · exact ensures_exponentPart _ _ _
  · exact ensures_exponentPart _ _ _
  · exact ensures_fromParts _ _ _

/-- The digits of a fraction end in the double of the parts. -/
theorem ensures_fractionDigits (positive : Bool) (before : Int) :
    ∀ (significand : Nat) (after : Int) (fuel : Nat),
    Ensures (fractionDigits positive significand before after fuel) NotNaN
  | _, _, 0 => Ensures.pure notNaN_zero
  | significand, after, fuel + 1 => by
    rw [fractionDigits]
    refine Ensures.bind (Ensures.trivial _) fun _ _ => ?_
    split
    · split
      · exact ensures_decimalOverflow _ _ _
      · exact Ensures.bind (Ensures.trivial _) fun _ _ =>
          ensures_fractionDigits positive before _ _ fuel
    · split
      · refine Ensures.bind (Ensures.trivial _) fun _ _ => ?_
        split <;> exact Ensures.failAhead _
      · refine Ensures.bind (Ensures.trivial _) fun _ _ => ?_
        split
        · exact ensures_exponentPart _ _ _
        · exact ensures_exponentPart _ _ _
        · exact ensures_fromParts _ _ _

/-- A fraction, from its point on, ends in the double of the parts. -/
theorem ensures_fractionPart (positive : Bool) (significand : Nat) (before : Int) :
    Ensures (fractionPart positive significand before) NotNaN :=
  Ensures.bind (Ensures.trivial _) fun _ _ => Ensures.bind (Ensures.trivial _) fun fuel _ =>
    ensures_fractionDigits positive before significand 0 fuel

/-- The digits of an integer past a full significand end in the double of the parts. -/
theorem ensures_longInteger (positive : Bool) (significand : Nat) :
    ∀ (exponent : Int) (fuel : Nat), Ensures (longInteger positive significand exponent fuel) NotNaN
  | _, 0 => Ensures.pure notNaN_zero
  | exponent, fuel + 1 => by
    rw [longInteger]
    refine Ensures.bind (Ensures.trivial _) fun _ _ => ?_
    split
    · exact ensures_fractionPart _ _ _
    · exact ensures_exponentPart _ _ _
    · exact ensures_exponentPart _ _ _
    · split
      · exact Ensures.bind (Ensures.trivial _) fun _ _ =>
          ensures_longInteger positive significand _ fuel
      · exact ensures_fromParts _ _ _

/-- A number that holds no `NaN`. -/
abbrev NumberNaNFree (n : Number) : Prop := Json.NaNFree (.number n)

/-- A reader of doubles without `NaN` makes numbers without it. -/
theorem ensures_float {r : Reader Float} (h : Ensures r NotNaN) :
    Ensures (do return Number.float (← r)) NumberNaNFree :=
  Ensures.bind h fun _ hf => Ensures.pure hf

/-- What follows an integer part is a fraction, an exponent, or the end of the number. -/
theorem ensures_afterInteger (positive : Bool) (significand : Nat) :
    Ensures (afterInteger positive significand) NumberNaNFree := by
  unfold afterInteger
  refine Ensures.bind (Ensures.trivial _) fun _ _ => ?_
  split
  · exact ensures_float (ensures_fractionPart _ _ _)
  · exact ensures_float (ensures_exponentPart _ _ _)
  · exact ensures_float (ensures_exponentPart _ _ _)
  · -- an integer that fits, or the double of one that does not
    split_ifs
    · exact Ensures.pure trivial
    · exact Ensures.pure (show NotNaN (-0.0) by decide +kernel)
    · exact Ensures.pure trivial
    · exact Ensures.pure (show NotNaN _ from isNaN_neg (isNaN_roundNat _))

/-- The digits of an integer part give an integer, or a double without `NaN`. -/
theorem ensures_integerDigits (positive : Bool) :
    ∀ (significand fuel : Nat), Ensures (integerDigits positive significand fuel) NumberNaNFree
  | _, 0 => Ensures.pure trivial
  | significand, fuel + 1 => by
    rw [integerDigits]
    refine Ensures.bind (Ensures.trivial _) fun _ _ => ?_
    split
    · split
      · exact Ensures.bind (Ensures.trivial _) fun fuel' _ =>
          ensures_float (ensures_longInteger _ _ _ fuel')
      · exact Ensures.bind (Ensures.trivial _) fun _ _ => ensures_integerDigits positive _ fuel
    · exact ensures_afterInteger _ _

/-- **A number read from text holds no `NaN`.** -/
theorem ensures_number (positive : Bool) : Ensures (number positive) NumberNaNFree := by
  unfold number
  refine Ensures.bind (Ensures.trivial _) fun _ _ => ?_
  split
  · exact Ensures.fail _
  · refine Ensures.bind (Ensures.trivial _) fun _ _ => ?_
    split
    · exact Ensures.failAhead _
    · exact ensures_afterInteger _ _
  · split
    · exact Ensures.bind (Ensures.trivial _) fun fuel _ => ensures_integerDigits _ _ fuel
    · exact Ensures.fail _

end Json.Reader

/-! ## Values -/

namespace Json

/-- A list of values holds no `NaN` when none of its items does. -/
theorem itemsNaNFree_iff : ∀ xs : List Json, ItemsNaNFree xs ↔ ∀ x ∈ xs, x.NaNFree
  | [] => by simp [ItemsNaNFree]
  | x :: xs => by simp [ItemsNaNFree, itemsNaNFree_iff xs]

/-- A list of fields holds no `NaN` when none of its values does. -/
theorem fieldsNaNFree_iff :
    ∀ fs : List (String × Json), FieldsNaNFree fs ↔ ∀ kv ∈ fs, kv.2.NaNFree
  | [] => by simp [FieldsNaNFree]
  | (_, x) :: fs => by simp [FieldsNaNFree, fieldsNaNFree_iff fs]

namespace Reader

/-- **The generic reader yields no `NaN`**: not in a value, not in the items of an array, not in
the fields of an object, whatever the nesting and the fuel. Fuel goes down at every value read
inside a container, so the three are proved together by induction on it. -/
theorem ensures_value : ∀ (fuel depth : Nat),
    Ensures (value depth fuel) NaNFree ∧
    (∀ first acc, (∀ x ∈ acc, NaNFree x) →
      Ensures (arrayItems depth first acc fuel) fun xs => ∀ x ∈ xs, NaNFree x) ∧
    (∀ first acc, (∀ kv ∈ acc, NaNFree kv.2) →
      Ensures (objectEntries depth first acc fuel) fun fs => ∀ kv ∈ fs, NaNFree kv.2)
  | 0, depth => by
    refine ⟨?_, fun first acc hacc => ?_, fun first acc hacc => ?_⟩
    · exact Ensures.failAhead _
    · exact Ensures.pure fun x hx => hacc x (List.mem_reverse.mp hx)
    · exact Ensures.pure hacc
  | fuel + 1, depth => by
    obtain ⟨_, hitems, hentries⟩ := ensures_value fuel (depth - 1)
    obtain ⟨hvalue, hitems', hentries'⟩ := ensures_value fuel depth
    refine ⟨?_, fun first acc hacc => ?_, fun first acc hacc => ?_⟩
    · rw [value]
      refine Ensures.placed (Ensures.bind (Ensures.trivial _) fun _ _ => ?_)
      split
      · exact Ensures.failAhead _
      -- `null`, `true`, `false` and strings hold no number
      · exact Ensures.bind (Ensures.trivial _) fun _ _ =>
          Ensures.bind (Ensures.trivial _) fun _ _ => Ensures.pure trivial
      · exact Ensures.bind (Ensures.trivial _) fun _ _ =>
          Ensures.bind (Ensures.trivial _) fun _ _ => Ensures.pure trivial
      · exact Ensures.bind (Ensures.trivial _) fun _ _ =>
          Ensures.bind (Ensures.trivial _) fun _ _ => Ensures.pure trivial
      · exact Ensures.bind (Ensures.trivial _) fun _ _ =>
          Ensures.bind (ensures_number false) fun _ hn => Ensures.pure hn
      · exact Ensures.bind (Ensures.trivial _) fun _ _ =>
          Ensures.bind (Ensures.trivial _) fun _ _ => Ensures.pure trivial
      · -- an array holds what its items hold
        exact Ensures.bind (Ensures.trivial _) fun _ _ => Ensures.enclosed
          (Ensures.bind (hitems true [] fun _ h => absurd h List.not_mem_nil) fun xs hxs =>
            Ensures.pure ((itemsNaNFree_iff xs).2 hxs))
      · -- an object what its fields hold
        exact Ensures.bind (Ensures.trivial _) fun _ _ => Ensures.enclosed
          (Ensures.bind (hentries true [] fun _ h => absurd h List.not_mem_nil) fun fs hfs =>
            Ensures.pure ((fieldsNaNFree_iff fs).2 hfs))
      · split
        · exact Ensures.bind (ensures_number true) fun _ hn => Ensures.pure hn
        · exact Ensures.failAhead _
    · rw [arrayItems]
      refine Ensures.bind (Ensures.trivial _) fun _ _ => ?_
      split
      · exact Ensures.pure fun x hx => hacc x (List.mem_reverse.mp hx)
      · exact Ensures.bind hvalue fun v hv => hitems' false (v :: acc) fun x hx =>
          (List.mem_cons.mp hx).elim (· ▸ hv) (hacc x)
    · rw [objectEntries]
      refine Ensures.bind (Ensures.trivial _) fun _ _ => ?_
      split
      · exact Ensures.pure hacc
      · refine Ensures.bind (Ensures.trivial _) fun _ _ => Ensures.bind hvalue fun v hv =>
          hentries' false _ fun kv hkv => ?_
        rcases mem_insert hkv with rfl | hkv
        · exact hv
        · exact hacc kv hkv

/-- Any value, with the fuel the input gives, holds no `NaN`. -/
theorem ensures_anyValue (depth : Nat) : Ensures (anyValue depth) NaNFree :=
  Ensures.bind (Ensures.trivial _) fun fuel _ => (ensures_value fuel depth).1

variable {α β : Type}

/-- An array gives what its contents give. -/
theorem ensures_array {P : α → Prop} {depth : Nat} {expected : String}
    {contents : Nat → Reader α} (h : ∀ d, Ensures (contents d) P) :
    Ensures (array depth expected contents) P := by
  unfold array
  refine Ensures.placed (Ensures.bind (Ensures.trivial _) fun b _ => ?_)
  split
  · exact Ensures.bind (Ensures.trivial _) fun _ _ => Ensures.enclosed (h _)
  · exact ensures_mismatch expected

/-- An array or an object gives what its items or its entries give. -/
theorem ensures_arrayOrObject {P : α → Prop} {depth : Nat} {expected : String}
    {items entries : Nat → Reader α} (hitems : ∀ d, Ensures (items d) P)
    (hentries : ∀ d, Ensures (entries d) P) :
    Ensures (arrayOrObject depth expected items entries) P := by
  unfold arrayOrObject
  refine Ensures.placed (Ensures.bind (Ensures.trivial _) fun b _ => ?_)
  split
  · exact Ensures.bind (Ensures.trivial _) fun _ _ => Ensures.enclosed (hitems _)
  · exact Ensures.bind (Ensures.trivial _) fun _ _ => Ensures.enclosed (hentries _)
  · exact ensures_mismatch expected

/-- The items an item reader gives all have what it ensures. -/
theorem ensures_itemsLoop {item : Reader α} {P : α → Prop} (h : Ensures item P) :
    ∀ (fuel : Nat) (first : Bool) (acc : List α), (∀ x ∈ acc, P x) →
      Ensures (itemsLoop item first acc fuel) fun xs => ∀ x ∈ xs, P x
  | 0, _, acc, hacc => Ensures.pure fun x hx => hacc x (List.mem_reverse.mp hx)
  | fuel + 1, first, acc, hacc => by
    rw [itemsLoop]
    refine Ensures.bind (Ensures.trivial _) fun _ _ => ?_
    split
    · exact Ensures.pure fun x hx => hacc x (List.mem_reverse.mp hx)
    · exact Ensures.bind h fun a ha => ensures_itemsLoop h fuel false (a :: acc) fun x hx =>
        (List.mem_cons.mp hx).elim (· ▸ ha) (hacc x)

/-- **A sequence's items** all have what the item reader ensures. -/
theorem ensures_sequence {item : Nat → Reader α} {P : α → Prop} (h : ∀ d, Ensures (item d) P)
    (depth : Nat) : Ensures (sequence depth item) fun xs => ∀ x ∈ xs, P x :=
  ensures_array fun d => Ensures.bind (Ensures.trivial _) fun fuel _ =>
    ensures_itemsLoop (h d) fuel true [] fun _ h => absurd h List.not_mem_nil

/-- A fold keeps whatever each step keeps. -/
theorem ensures_foldlM {f : β → α → Reader β} {Inv : β → Prop}
    (hf : ∀ b a, Inv b → Ensures (f b a) Inv) : ∀ (l : List α) (b : β), Inv b →
      Ensures (l.foldlM f b) Inv
  | [], _, hb => Ensures.pure hb
  | a :: l, b, hb => by
    rw [List.foldlM_cons]
    exact Ensures.bind (hf b a hb) fun b' hb' => ensures_foldlM hf l b' hb'

end Reader

/-- A value kept in a map is one of the fields it was made from. -/
theorem mem_of_mem_toMap {fs : List (String × Json)} {kv : String × Json} (h : kv ∈ toMap fs) :
    kv ∈ fs := by
  have hfold : ∀ (fs : List (String × Json)) (m : List (String × Json)),
      kv ∈ fs.foldl (fun m kv => insert kv.1 kv.2 m) m → kv ∈ m ∨ kv ∈ fs := by
    intro fs
    induction fs with
    | nil => exact fun m h => .inl h
    | cons kv' fs ih =>
      intro m h
      rcases ih _ h with h | h
      · rcases mem_insert h with rfl | h
        · exact .inr List.mem_cons_self
        · exact .inl h
      · exact .inr (List.mem_cons_of_mem _ h)
  exact (hfold fs [] h).resolve_left List.not_mem_nil

end Json

namespace Record.Schema

open Json Json.Reader

variable {P R : Type}

/-- One entry of a record's text sets aside only values without `NaN`. -/
theorem ensures_entry (s : Schema P R) (d : Nat) (acc : P × List (String × Json)) (k : String)
    (hacc : ∀ kv ∈ acc.2, kv.2.NaNFree) :
    Ensures (s.entry d acc k) fun acc => ∀ kv ∈ acc.2, kv.2.NaNFree := by
  obtain ⟨p, aside⟩ := acc
  unfold entry
  dsimp only
  split
  · split
    · exact Ensures.failValue _
    · exact Ensures.bind (Ensures.trivial _) fun _ _ => Ensures.bind (Ensures.trivial _) fun _ _ =>
        Ensures.pure hacc
  · refine Ensures.bind (Ensures.trivial _) fun _ _ => Ensures.bind (ensures_anyValue d) fun v hv =>
      Ensures.pure fun kv hkv => ?_
    rcases List.mem_cons.mp hkv with rfl | hkv
    · exact hv
    · exact hacc kv hkv

/-- **A record read from text holds no `NaN` in its extra fields**: they are values set aside by
the generic reader, what the extent does not take of them. -/
theorem ensures_read (s : Schema P R) (depth : Nat) :
    Ensures (s.read depth) fun r => ∃ p e x, r = s.build p e x ∧ FieldsNaNFree x := by
  refine ensures_object fun d => Ensures.bind (ensures_entries (s.ensures_entry d)
    fun _ h => absurd h List.not_mem_nil) fun acc hacc => ?_
  obtain ⟨p, aside⟩ := acc
  dsimp only
  split
  · next r hfinish =>
    obtain ⟨-, ext, rest, hext, rfl⟩ := finish_eq_ok.mp hfinish
    obtain ⟨q, -, -, htake, -⟩ := extentOfEntries_eq_ok.mp hext
    refine Ensures.pure ⟨p, ext, _, rfl, (fieldsNaNFree_iff _).2 fun kv hkv => ?_⟩
    have hrest := mem_of_mem_toMap hkv
    rw [takeFields_kept htake] at hrest
    exact hacc kv (List.mem_reverse.mp (List.mem_filter.mp hrest).1)
  · exact Ensures.failValue _

/-- The extra fields of a record read from text hold no `NaN`, for a schema that builds its
records with the extra fields it is given. -/
theorem ensures_read_extra (s : Schema P R) (extra : R → Extra)
    (hbuild : ∀ p e x, extra (s.build p e x) = x) (depth : Nat) :
    Ensures (s.read depth) fun r => FieldsNaNFree (extra r) :=
  Ensures.mono (s.ensures_read depth) fun _ ⟨p, e, x, hr, hx⟩ => hr ▸ (hbuild p e x).symm ▸ hx

end Record.Schema

namespace Analysis

open Json Json.Reader Record

/-- No record of an analysis has `NaN` in its extra fields. -/
def NaNFree (a : Analysis) : Prop :=
  (∀ x ∈ a.locals, FieldsNaNFree x.extra) ∧ (∀ x ∈ a.localUsages, FieldsNaNFree x.extra) ∧
    (∀ x ∈ a.varDefinitions, FieldsNaNFree x.extra) ∧ (∀ x ∈ a.varUsages, FieldsNaNFree x.extra) ∧
    (∀ x ∈ a.namespaceDefinitions, FieldsNaNFree x.extra) ∧
    (∀ x ∈ a.namespaceUsages, FieldsNaNFree x.extra)

/-- The empty analysis the readers start from. -/
theorem nanFree_empty : NaNFree {} := by
  simp [NaNFree]

/-- Every entity of an analysis without `NaN` is without `NaN`. -/
theorem NaNFree.entities {a : Analysis} (h : a.NaNFree) : ∀ t ∈ a.entities, t.NaNFree := by
  intro t ht
  simp only [Analysis.entities, definitions, usages, List.mem_append, List.mem_map] at ht
  obtain ⟨h1, h2, h3, h4, h5, h6⟩ := h
  rcases ht with ((⟨x, hx, rfl⟩ | ⟨x, hx, rfl⟩) | ⟨x, hx, rfl⟩) |
    ((⟨x, hx, rfl⟩ | ⟨x, hx, rfl⟩) | ⟨x, hx, rfl⟩)
  · exact h1 x hx
  · exact h3 x hx
  · exact h5 x hx
  · exact h2 x hx
  · exact h4 x hx
  · exact h6 x hx

/-- One list read into an analysis keeps it free of `NaN`; a key of no list is skipped. -/
theorem ensures_readList (a : Analysis) (ha : a.NaNFree) (k : String) (d : Nat) :
    Ensures (a.readList k d) NaNFree := by
  obtain ⟨h1, h2, h3, h4, h5, h6⟩ := ha
  unfold readList
  -- each list is read by its own schema, whose records keep the extra fields they are given
  split
  · exact Ensures.bind (ensures_sequence (Schema.ensures_read_extra LocalBinding.schema
      LocalBinding.extra fun _ _ _ => rfl) d) fun _ hxs => Ensures.pure ⟨hxs, h2, h3, h4, h5, h6⟩
  · exact Ensures.bind (ensures_sequence (Schema.ensures_read_extra LocalUsage.schema
      LocalUsage.extra fun _ _ _ => rfl) d) fun _ hxs => Ensures.pure ⟨h1, hxs, h3, h4, h5, h6⟩
  · exact Ensures.bind (ensures_sequence (Schema.ensures_read_extra VarDefinition.schema
      VarDefinition.extra fun _ _ _ => rfl) d) fun _ hxs => Ensures.pure ⟨h1, h2, hxs, h4, h5, h6⟩
  · exact Ensures.bind (ensures_sequence (Schema.ensures_read_extra VarUsage.schema
      VarUsage.extra fun _ _ _ => rfl) d) fun _ hxs => Ensures.pure ⟨h1, h2, h3, hxs, h5, h6⟩
  · exact Ensures.bind (ensures_sequence (Schema.ensures_read_extra NamespaceDefinition.schema
      NamespaceDefinition.extra fun _ _ _ => rfl) d) fun _ hxs =>
        Ensures.pure ⟨h1, h2, h3, h4, hxs, h6⟩
  · exact Ensures.bind (ensures_sequence (Schema.ensures_read_extra NamespaceUsage.schema
      NamespaceUsage.extra fun _ _ _ => rfl) d) fun _ hxs =>
        Ensures.pure ⟨h1, h2, h3, h4, h5, hxs⟩
  · exact Ensures.bind (Ensures.trivial _) fun _ _ => Ensures.pure ⟨h1, h2, h3, h4, h5, h6⟩

/-- One entry of an analysis object keeps it free of `NaN`. -/
theorem ensures_readEntry (d : Nat) (p : AnalysisInProgress) (k : String)
    (hp : p.analysis.NaNFree) : Ensures (readEntry d p k) fun p => p.analysis.NaNFree := by
  unfold readEntry
  split
  · split
    · exact Ensures.failValue _
    · exact Ensures.bind (Ensures.trivial _) fun _ _ =>
        Ensures.bind (ensures_readList _ hp k d) fun _ ha => Ensures.pure ha
  · exact Ensures.bind (Ensures.trivial _) fun _ _ =>
      Ensures.bind (Ensures.trivial _) fun _ _ => Ensures.pure hp

/-- **An analysis read from text holds no `NaN`**, given as an object or as an array of lists. -/
theorem ensures_read (depth : Nat) : Ensures (Analysis.read depth) NaNFree := by
  refine ensures_arrayOrObject (fun d => ?_) fun d => ?_
  · refine ensures_foldlM (fun a k ha => ?_) analysisKeys ({} : Analysis) nanFree_empty
    refine Ensures.bind (Ensures.trivial _) fun _ _ => ?_
    split
    · exact Ensures.pure ha
    · exact ensures_readList a ha k d
  · exact Ensures.bind (ensures_entries (ensures_readEntry d) (s := ({} : AnalysisInProgress))
      nanFree_empty) fun p hp => Ensures.pure hp

end Analysis

namespace Response

open Json Json.Reader

/-- One entry of a response keeps its analysis free of `NaN`: only the `analysis` key reads one. -/
theorem ensures_readEntry_nanFree (d : Nat) (p : Progress) (k : String)
    (hp : p.response.analysis.NaNFree) :
    Ensures (readEntry d p k) fun p => p.response.analysis.NaNFree := by
  unfold readEntry
  dsimp only
  split
  · split
    · exact Ensures.failValue _
    · refine Ensures.bind (Ensures.trivial _) fun _ _ => ?_
      split
      · exact Ensures.bind (Analysis.ensures_read d) fun _ ha =>
          Ensures.bind (Ensures.pure ha) fun _ ha => Ensures.pure ha
      all_goals exact Ensures.bind (Ensures.trivial _) fun _ _ =>
        Ensures.bind (Ensures.pure hp) fun _ ha => Ensures.pure ha
  · exact Ensures.bind (Ensures.trivial _) fun _ _ =>
      Ensures.bind (Ensures.trivial _) fun _ _ => Ensures.pure hp

/-- **A response read from text carries an analysis without `NaN`.** -/
theorem ensures_read_nanFree (depth : Nat) :
    Ensures (read depth) fun r => r.analysis.NaNFree :=
  ensures_object fun d => Ensures.bind (ensures_entries (ensures_readEntry_nanFree d)
    (s := ({} : Progress)) Analysis.nanFree_empty) fun _ hp => Ensures.pure hp

/-- **No entity the program reads holds `NaN`**: every entity of an answer that decodes is free of
it, so it equals itself. -/
theorem entities_nanFree_of_decode {line : ByteArray} {r : Response} (h : decode line = .ok r) :
    ∀ t ∈ r.analysis.entities, t.NaNFree := by
  unfold decode at h
  split_ifs at h
  dsimp only at h
  -- only a payload read in full, with no error in it, is an answer
  split at h
  · cases h
  · next r' j hrun =>
    split at h
    · cases h
    · cases h
      exact (ensures_whole (ensures_read_nanFree depthLimit) _ 0 r j hrun).entities

end Response

/-! ## The transports' answers -/

/-- Every entity of an answer a finished analyzer process gives is free of `NaN`. -/
theorem OneShot.answer_entities_nanFree {o : OneShot} {out : ProcessOutput} {r : Response}
    (h : o.answer out = .ok r) : ∀ t ∈ r.analysis.entities, t.NaNFree := by
  unfold OneShot.answer at h
  -- a complaint on standard error is a failure, and so is a signal or a failing status
  split_ifs at h <;> split at h
  · cases h
  · cases h
  · cases h
  -- a process that exits cleanly and silently answers with its output, decoded
  · exact Response.entities_nanFree_of_decode h

/-- Every entity of an answer read over a connection is free of `NaN`. -/
theorem Peer.exchange_entities_nanFree {cut : ByteArray → List Read} {req : Request} {p : Peer}
    {r : Response} (h : (p.exchange cut req).1 = .ok r) : ∀ t ∈ r.analysis.entities, t.NaNFree := by
  unfold Peer.exchange at h
  -- a connection the peer has closed is a failure; otherwise the answer is the line read, decoded
  split_ifs at h
  dsimp only at h
  cases hgot : ((p.take req.encode).receive cut).1 with
  | error e => simp only [hgot, Except.bind, reduceCtorEq] at h
  | ok line =>
    simp only [hgot, Except.bind] at h
    exact Response.entities_nanFree_of_decode h

end CrossRef
