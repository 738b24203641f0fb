import Bookfinder.Number.Binary
import Mathlib

/-!
# The value of a real number

The bits of a `Float` are those of a binary number (`Binary.ofFloat?_eq`), which is canonical
(`Binary.isCanonical_of_ofFloat?`): no two of them have the same positive value
(`Binary.eq_of_value_eq`). With the infinities at both ends, `Float`s that are numbers are compared as
their values are (`Binary.lt_iff_extended`, `Binary.beq_iff_extended`).
-/

namespace Bookfinder

/-! ## Powers of two and ten -/

theorem cast_twoTo (k : ℕ) : ((twoTo k : ℕ) : ℚ) = 2 ^ k := by simp [twoTo]

theorem cast_tenTo (k : ℕ) : ((tenTo k : ℕ) : ℚ) = 10 ^ k := by simp [tenTo]

/-- A power of a base with an integer exponent, as a ratio of natural powers. -/
theorem zpow_eq_div (b : ℚ) (k : ℤ) : b ^ k = b ^ k.toNat / b ^ (-k).toNat := by
  obtain ⟨n, rfl | rfl⟩ := k.eq_nat_or_neg <;> simp

/-- A natural number is between the powers of two at its leading bit. -/
theorem cast_log2_bounds {m : ℕ} (hm : m ≠ 0) :
    (2 : ℚ) ^ m.log2 ≤ m ∧ (m : ℚ) < 2 ^ (m.log2 + 1) := by
  exact_mod_cast (⟨Nat.log2_self_le hm, Nat.lt_log2_self⟩ : 2 ^ m.log2 ≤ m ∧ m < 2 ^ (m.log2 + 1))

namespace Binary

open Float.Model (Format UnpackedFloat)
open Float.Model.UnpackedFloat

/-! ## The parts of a `Float` -/

/-- The exact value of a binary number. -/
def value (b : Binary) : ℚ := (if b.negative then -1 else 1) * (b.mantissa * 2 ^ b.exponent)

/-- The mantissa has at most 53 bits, and just as many unless the exponent is the least one. -/
structure IsCanonical (b : Binary) : Prop where
  mantissa_lt : b.mantissa < twoTo 53
  minExponent_le : minExponent ≤ b.exponent
  exponent_le : b.exponent ≤ 971
  leading : leadingBit ≤ b.mantissa ∨ b.exponent = minExponent

/-- The binary number of a `Float` taken apart. -/
def ofUnpacked? : UnpackedFloat → Option Binary
  | .zero s => some ⟨s == .negative, 0, minExponent⟩
  | .finite s m e _ => some ⟨s == .negative, m, e⟩
  | .infinity _ | .notANumber => none

theorem toNat_unpackExponent (b : BitVec 64) :
    (@unpackExponent Format.binary64 b).toNat = b.toNat / twoTo 52 % twoTo 11 := by
  rw [unpackExponent_def, BitVec.extractLsb'_toNat, Nat.shiftRight_eq_div_pow]
  rfl

theorem toNat_unpackMantissa (b : BitVec 64) :
    (@unpackMantissa Format.binary64 b).toNat = b.toNat % twoTo 52 := by
  rw [unpackMantissa_def, BitVec.extractLsb'_toNat]
  rfl

theorem toNat_unpackSign (b : BitVec 64) :
    (@unpackSign Format.binary64 b).toNat = b.toNat / twoTo 63 := by
  rw [unpackSign_def, BitVec.extractLsb'_toNat, Nat.shiftRight_eq_div_pow]
  have := b.isLt
  change b.toNat / 2 ^ 63 % 2 ^ 1 = b.toNat / 2 ^ 63
  omega

theorem ofBitVec_beq_negative (s : BitVec 1) :
    (Sign.ofBitVec s == .negative) = (s.toNat == 1) := by
  revert s
  decide

theorem toNat_cons_one (m : BitVec 52) : (1#1 ++ m).toNat = leadingBit + m.toNat := by
  rw [BitVec.toNat_append, ← Nat.shiftLeft_add_eq_or_of_lt m.isLt]
  rfl

/-- The sign, the exponent and the mantissa of the bits make the number. -/
theorem ofUnpacked?_unpack (b : BitVec 64) :
    ofUnpacked? (unpack Format.binary64 b) =
      (if b.toNat / twoTo 52 % twoTo 11 = twoTo 11 - 1 then none
       else if b.toNat / twoTo 52 % twoTo 11 = 0 then
        some ⟨b.toNat / twoTo 63 == 1, b.toNat % twoTo 52, minExponent⟩
       else some ⟨b.toNat / twoTo 63 == 1, leadingBit + b.toNat % twoTo 52,
        ((b.toNat / twoTo 52 % twoTo 11 : Nat) : Int) + minExponent - 1⟩) := by
  rw [← toNat_unpackExponent, ← toNat_unpackMantissa, ← toNat_unpackSign]
  unfold unpack
  dsimp only
  have hall : @unpackExponent Format.binary64 b = -1#_ ↔
      (@unpackExponent Format.binary64 b).toNat = twoTo 11 - 1 := by
    rw [← BitVec.toNat_inj]
    rfl
  have hnone : @unpackExponent Format.binary64 b = 0#_ ↔
      (@unpackExponent Format.binary64 b).toNat = 0 := by
    rw [← BitVec.toNat_inj]
    rfl
  split
  · next h =>
    rw [if_pos (hall.1 h)]
    split <;> rfl
  · next h =>
    rw [if_neg (mt hall.2 h)]
    split
    · next h0 =>
      rw [if_pos (hnone.1 h0)]
      split
      · next hm => simp [ofUnpacked?, ofBitVec_beq_negative, hm]
      · next hm =>
        simp only [ofUnpacked?, ofBitVec_beq_negative, hnone.1 h0]
        rfl
    · next h0 =>
      rw [if_neg (mt hnone.2 h0)]
      simp only [ofUnpacked?, ofBitVec_beq_negative, Option.some.injEq, Binary.mk.injEq, true_and]
      refine ⟨toNat_cons_one _, ?_⟩
      change _ - (1023 + 52 : Int) = _ + (-1074) - 1
      omega

/-- A `Float` is the binary number that its parts make. -/
theorem ofFloat?_eq (x : Float) : ofFloat? x = ofUnpacked? x.toModel.unpack :=
  (ofUnpacked?_unpack x.toModel.toBits.toBitVec).symm

/-- What a float is unpacked into is canonical. -/
theorem isCanonical_of_ofFloat? {x : Float} {b : Binary} (h : ofFloat? x = some b) :
    b.IsCanonical := by
  unfold ofFloat? at h
  dsimp only at h
  split at h
  · cases h
  · next h1 =>
    have hlt : x.toBits.toNat / twoTo 52 % twoTo 11 < 2047 := by
      have := Nat.mod_lt (x.toBits.toNat / twoTo 52) (twoTo_pos 11)
      change _ < 2048 at this
      change ¬_ = 2047 at h1
      omega
    have hm : x.toBits.toNat % twoTo 52 < twoTo 52 := Nat.mod_lt _ (twoTo_pos 52)
    have h53 : twoTo 53 = 2 * twoTo 52 := by decide
    split at h
    · obtain rfl := Option.some.inj h
      exact ⟨by dsimp only; omega, le_refl _, by dsimp only [minExponent]; omega, Or.inr rfl⟩
    · obtain rfl := Option.some.inj h
      refine ⟨?_, ?_, ?_, Or.inl (Nat.le_add_right ..)⟩
      · dsimp only [leadingBit]
        omega
      · dsimp only [minExponent]
        omega
      · dsimp only [minExponent]
        omega

/-! ## Comparing -/

variable {a b : Binary}

/-- Of two canonical binary numbers the one with the larger exponent is the larger one. -/
theorem magnitude_lt_of_exponent_lt (ha : a.IsCanonical) (hb : b.IsCanonical)
    (h : a.exponent < b.exponent) :
    (a.mantissa * 2 ^ a.exponent : ℚ) < b.mantissa * 2 ^ b.exponent := by
  have hlead : leadingBit ≤ b.mantissa := by
    have := ha.minExponent_le
    rcases hb.leading with h' | h'
    · exact h'
    · omega
  have hstep : (a.mantissa : ℚ) < 2 * b.mantissa := by
    have h53 : twoTo 53 = 2 * leadingBit := by decide
    have := ha.mantissa_lt
    exact_mod_cast (by omega : a.mantissa < 2 * b.mantissa)
  calc (a.mantissa * 2 ^ a.exponent : ℚ) < 2 * b.mantissa * 2 ^ a.exponent := by gcongr
    _ = b.mantissa * 2 ^ (a.exponent + 1) := by rw [zpow_add_one₀ two_ne_zero]; ring
    _ ≤ b.mantissa * 2 ^ b.exponent := by
      gcongr
      · norm_num
      · omega

/-- Magnitudes compare as exponents do, and then as mantissas. -/
theorem compare_magnitude (ha : a.IsCanonical) (hb : b.IsCanonical) :
    compare (a.mantissa * 2 ^ a.exponent : ℚ) (b.mantissa * 2 ^ b.exponent) =
      (compare a.exponent b.exponent).then (compare a.mantissa b.mantissa) := by
  rcases lt_trichotomy a.exponent b.exponent with h | h | h
  · rw [compare_lt_iff_lt.2 h, compare_lt_iff_lt.2 (magnitude_lt_of_exponent_lt ha hb h)]
    rfl
  · rw [h, compare_eq_iff_eq.2 (rfl : b.exponent = b.exponent), Ordering.then]
    have hpos : (0 : ℚ) < 2 ^ b.exponent := by positivity
    rcases lt_trichotomy a.mantissa b.mantissa with hm | hm | hm
    · rw [compare_lt_iff_lt.2 hm, compare_lt_iff_lt]
      have : (a.mantissa : ℚ) < b.mantissa := by exact_mod_cast hm
      gcongr
    · simp [hm]
    · rw [compare_gt_iff_gt.2 hm, compare_gt_iff_gt]
      have : (b.mantissa : ℚ) < a.mantissa := by exact_mod_cast hm
      gcongr
  · rw [compare_gt_iff_gt.2 h, compare_gt_iff_gt.2 (magnitude_lt_of_exponent_lt hb ha h)]
    rfl

/-- The value of a `Float` that is a number, the infinities included. -/
def extended (x : Float) : WithBot (WithTop ℚ) :=
  match ofFloat? x with
  | some b => ((b.value : WithTop ℚ) : WithBot (WithTop ℚ))
  | none => if x < 0 then ⊥ else ⊤

/-- A finite float has the value of its parts. -/
theorem extended_of_ofFloat? {x : Float} (h : ofFloat? x = some a) :
    extended x = ((a.value : WithTop ℚ) : WithBot (WithTop ℚ)) := by
  rw [extended, h]

/-- The value of a `Float` taken apart. -/
def extendedParts : UnpackedFloat → WithBot (WithTop ℚ)
  | .infinity .positive => ⊤
  | .infinity .negative => ⊥
  | .notANumber => ⊤
  | .zero _ => ((0 : ℚ) : WithTop ℚ)
  | .finite .positive m e _ => ((m * 2 ^ e : ℚ) : WithTop ℚ)
  | .finite .negative m e _ => ((-(m * 2 ^ e) : ℚ) : WithTop ℚ)

theorem lt_iff_compare (x y : Float) : x < y ↔ x.toModel.compare y.toModel = some .lt := by
  change decide (x.toModel < y.toModel) = true ↔ _
  rw [decide_eq_true_iff]
  exact beq_iff_eq

theorem beq_iff_compare (x y : Float) : x == y ↔ x.toModel.compare y.toModel = some .eq := by
  change (x.toModel.compare y.toModel == some .eq) = true ↔ _
  exact beq_iff_eq

theorem lt_zero_iff (x : Float) : x < 0 ↔ x.toModel.unpack.compare (.zero .positive) = some .lt :=
  lt_iff_compare x 0

theorem extended_eq (x : Float) : extended x = extendedParts x.toModel.unpack := by
  rw [extended, ofFloat?_eq]
  cases hu : x.toModel.unpack with
  | infinity s =>
    simp only [ofUnpacked?, lt_zero_iff, hu]
    cases s <;> simp [UnpackedFloat.compare, extendedParts]
  | notANumber =>
    simp [ofUnpacked?, lt_zero_iff, hu, UnpackedFloat.compare, extendedParts]
  | zero s => simp [ofUnpacked?, extendedParts, value]
  | finite s m e hm =>
    cases s <;> simp [ofUnpacked?, extendedParts, value]

theorem compare_coe (p q : ℚ) :
    compare ((p : WithTop ℚ) : WithBot (WithTop ℚ)) ((q : WithTop ℚ) : WithBot (WithTop ℚ)) =
      compare p q := by
  rcases lt_trichotomy p q with h | rfl | h
  · rw [compare_lt_iff_lt.2 h, compare_lt_iff_lt]
    exact_mod_cast h
  · simp
  · rw [compare_gt_iff_gt.2 h, compare_gt_iff_gt]
    exact_mod_cast h

theorem compare_neg_neg (p q : ℚ) : compare (-p) (-q) = (compare p q).swap := by
  rcases lt_trichotomy p q with h | rfl | h
  · rw [compare_lt_iff_lt.2 h, compare_gt_iff_gt.2 (neg_lt_neg h)]
    rfl
  · simp
  · rw [compare_gt_iff_gt.2 h, compare_lt_iff_lt.2 (neg_lt_neg h)]
    rfl

/-- The comparison of `Float`s is that of their values. -/
theorem compare_eq {x y : Float} (hx : ¬x.isNaN) (hy : ¬y.isNaN) :
    x.toModel.compare y.toModel = some (compare (extended x) (extended y)) := by
  have hcanonical {x : Float} {s m e hm} (h : x.toModel.unpack = .finite s m e hm) :
      IsCanonical ⟨s == .negative, m, e⟩ := by
    refine isCanonical_of_ofFloat? (x := x) ?_
    rw [ofFloat?_eq, h, ofUnpacked?]
  have hpos {m : ℕ} {e : ℤ} (hm : 0 < m) : (0 : ℚ) < m * 2 ^ e := by positivity
  have hparts {x : Float} (h : ¬x.isNaN) : x.toModel.unpack ≠ .notANumber := fun h' => h (by
    change x.toModel.unpack.isNaN = true
    rw [h']
    rfl)
  rw [extended_eq, extended_eq, Float.Model.compare]
  cases hu : x.toModel.unpack with
  | notANumber => exact absurd hu (hparts hx)
  | infinity s =>
    cases hv : y.toModel.unpack with
    | notANumber => exact absurd hv (hparts hy)
    | infinity t => cases s <;> cases t <;> rfl
    | zero t => cases s <;> rfl
    | finite t m e hm => cases s <;> cases t <;> rfl
  | zero s =>
    cases hv : y.toModel.unpack with
    | notANumber => exact absurd hv (hparts hy)
    | infinity t => cases t <;> rfl
    | zero t => simp [extendedParts, UnpackedFloat.compare]
    | finite t m e hm =>
      cases t with
      | positive =>
        rw [extendedParts, extendedParts, compare_coe, compare_lt_iff_lt.2 (hpos hm)]
        rfl
      | negative =>
        rw [extendedParts, extendedParts, compare_coe,
          compare_gt_iff_gt.2 (neg_lt_zero.2 (hpos hm))]
        rfl
  | finite s m e hm =>
    cases hv : y.toModel.unpack with
    | notANumber => exact absurd hv (hparts hy)
    | infinity t => cases s <;> cases t <;> rfl
    | zero t =>
      cases s with
      | positive =>
        rw [extendedParts, extendedParts, compare_coe, compare_gt_iff_gt.2 (hpos hm)]
        rfl
      | negative =>
        rw [extendedParts, extendedParts, compare_coe,
          compare_lt_iff_lt.2 (neg_lt_zero.2 (hpos hm))]
        rfl
    | finite t n f hn =>
      have hcompare := compare_magnitude (hcanonical hu) (hcanonical hv)
      dsimp only at hcompare
      cases s <;> cases t
      case positive.positive =>
        rw [extendedParts, extendedParts, compare_coe, hcompare, UnpackedFloat.compare]
      case positive.negative =>
        rw [extendedParts, extendedParts, compare_coe,
          compare_gt_iff_gt.2 ((neg_lt_zero.2 (hpos hn)).trans (hpos hm)), UnpackedFloat.compare]
      case negative.positive =>
        rw [extendedParts, extendedParts, compare_coe,
          compare_lt_iff_lt.2 ((neg_lt_zero.2 (hpos hm)).trans (hpos hn)), UnpackedFloat.compare]
      case negative.negative =>
        rw [extendedParts, extendedParts, compare_coe, compare_neg_neg, hcompare,
          UnpackedFloat.compare]

/-- Floats that are numbers are ordered as their values. -/
theorem lt_iff_extended {x y : Float} (hx : ¬x.isNaN) (hy : ¬y.isNaN) :
    x < y ↔ extended x < extended y := by
  rw [lt_iff_compare, compare_eq hx hy, Option.some.injEq, compare_lt_iff_lt]

/-- They are equal exactly if their values are. -/
theorem beq_iff_extended {x y : Float} (hx : ¬x.isNaN) (hy : ¬y.isNaN) :
    x == y ↔ extended x = extended y := by
  rw [beq_iff_compare, compare_eq hx hy, Option.some.injEq, compare_eq_iff_eq]

/-- A float with a finite value is a number. -/
theorem not_isNaN_of_ofFloat? {x : Float} (h : ofFloat? x = some a) : ¬x.isNaN := by
  intro hnan
  rw [ofFloat?_eq] at h
  change x.toModel.unpack.isNaN = true at hnan
  cases hu : x.toModel.unpack with
  | notANumber => simp [hu, ofUnpacked?] at h
  | infinity s => simp [hu, UnpackedFloat.isNaN] at hnan
  | zero s => simp [hu, UnpackedFloat.isNaN] at hnan
  | finite s m e hm => simp [hu, UnpackedFloat.isNaN] at hnan

theorem not_isInf_of_ofFloat? {x : Float} (h : ofFloat? x = some a) : ¬x.isInf := by
  intro hinf
  rw [ofFloat?_eq] at h
  change x.toModel.unpack.isInf = true at hinf
  cases hu : x.toModel.unpack with
  | infinity s => simp [hu, ofUnpacked?] at h
  | notANumber => simp [hu, UnpackedFloat.isInf] at hinf
  | zero s => simp [hu, UnpackedFloat.isInf] at hinf
  | finite s m e hm => simp [hu, UnpackedFloat.isInf] at hinf

/-- Two `Float`s of one positive value are the same. -/
theorem eq_of_value_eq {x y : Float} (hx : ofFloat? x = some a) (hy : ofFloat? y = some b)
    (hvalue : a.value = b.value) (hpos : 0 < a.value) : x = y := by
  have hextended : extended x = extended y := by
    rw [extended_of_ofFloat? hx, extended_of_ofFloat? hy, hvalue]
  have hbeq := (beq_iff_extended (not_isNaN_of_ofFloat? hx) (not_isNaN_of_ofFloat? hy)).2 hextended
  rcases (Float.beq_iff_ne_nan_and_eq.1 hbeq).2.2 with h | ⟨rfl, -⟩ | ⟨rfl, -⟩
  · exact h
  · rw [← Option.some.inj ((show ofFloat? 0 = some ⟨false, 0, minExponent⟩ by rfl).symm.trans hx)]
      at hpos
    simp [value] at hpos
  · rw [← Option.some.inj ((show ofFloat? (-0) = some ⟨true, 0, minExponent⟩ by rfl).symm.trans hx)]
      at hpos
    simp [value] at hpos

end Binary

end Bookfinder
