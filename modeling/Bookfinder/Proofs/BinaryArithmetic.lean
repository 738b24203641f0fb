import Bookfinder.Proofs.BinaryRounding

/-!
# Arithmetic of real numbers

A sum, a quotient, and the `Float` that is nearest to a ratio are the exact number, rounded once
(`rounds_add`, `rounds_div`, `rounds_nearest`), as long as that number is far from the ends of the
range.
-/

namespace Bookfinder

namespace Binary

open Float.Model (Format UnpackedFloat totalExponent)
open Float.Model.UnpackedFloat

/-! ## Sums and quotients -/

/-- The parts of a positive `Float`. -/
theorem exists_unpack {x : Float} {b : Binary} (hx : ofFloat? x = some b) (hpos : 0 < b.value) :
    ∃ hm, x.toModel.unpack = .finite .positive b.mantissa b.exponent hm ∧
      b.value = b.mantissa * 2 ^ b.exponent := by
  rw [ofFloat?_eq] at hx
  cases hu : x.toModel.unpack with
  | infinity s => simp [hu, ofUnpacked?] at hx
  | notANumber => simp [hu, ofUnpacked?] at hx
  | zero s =>
    rw [hu] at hx
    obtain rfl := Option.some.inj hx
    simp [value] at hpos
  | finite s m e hm =>
    rw [hu] at hx
    obtain rfl := Option.some.inj hx
    cases s with
    | positive => exact ⟨hm, rfl, by simp [value]⟩
    | negative =>
      have : (0 : ℚ) ≤ m * 2 ^ e := by positivity
      simp [value] at hpos
      linarith

/-- A sum is the exact sum, rounded. -/
theorem rounds_add {x y : Float} {a b : Binary} (hx : ofFloat? x = some a)
    (hy : ofFloat? y = some b) (ha : 0 < a.value) (hb : 0 < b.value)
    (hmoderate : IsModerate (a.value + b.value)) : Rounds (a.value + b.value) (x + y) := by
  obtain ⟨hm, hux, havalue⟩ := exists_unpack hx ha
  obtain ⟨hn, huy, hbvalue⟩ := exists_unpack hy hb
  rw [havalue, hbvalue] at hmoderate ⊢
  change Rounds _ ⟨.pack (add Format.binary64 x.toModel.unpack y.toModel.unpack)⟩
  rw [hux, huy, add]
  dsimp only [decreaseExponent]
  generalize a.mantissa = m at *
  generalize b.mantissa = n at *
  generalize hs : min a.exponent b.exponent = s
  generalize hj : (a.exponent - s).toNat = j
  generalize hk : (b.exponent - s).toNat = k
  have hsum : (m * 2 ^ a.exponent + n * 2 ^ b.exponent : ℚ) =
      ((m <<< j + n <<< k : ℕ) : ℚ) * 2 ^ s := by
    rw [show a.exponent = s + j by omega, show b.exponent = s + k by omega,
      zpow_add₀ two_ne_zero, zpow_add₀ two_ne_zero, zpow_natCast, zpow_natCast, Nat.shiftLeft_eq,
      Nat.shiftLeft_eq]
    push_cast
    ring
  have hpos : 0 < m <<< j + n <<< k := by
    rw [Nat.shiftLeft_eq, Nat.shiftLeft_eq]
    positivity
  have hnormalize : UnpackedFloat.normalize Format.binary64
      (Sign.positive.apply (m <<< j : ℕ) + Sign.positive.apply (n <<< k : ℕ)) s .positive =
        UnpackedFloat.round Format.binary64 .positive (m <<< j + n <<< k) s := by
    rw [UnpackedFloat.normalize]
    have hgt : compare (Sign.positive.apply (m <<< j : ℕ) + Sign.positive.apply (n <<< k : ℕ)) 0 =
        .gt := compare_gt_iff_gt.2 (by
      change (0 : ℤ) < (m <<< j : ℕ) + (n <<< k : ℕ)
      omega)
    rw [hgt]
    rfl
  rw [hnormalize, hsum]
  rw [hsum] at hmoderate
  exact rounds_round hpos hmoderate

/-- A quotient with its remainder says where the exact quotient is. -/
theorem represents_quotient (m : ℕ) {n : ℕ} (hn : 0 < n) :
    Represents (.ofMantissaAndAccuracy (m / n) (accuracyOfFraction (m % n) n)) (m / n) := by
  have hn' : (0 : ℚ) < n := by exact_mod_cast hn
  have hlt : ((m % n : ℕ) : ℚ) / n < 1 := by
    rw [div_lt_one hn']
    exact_mod_cast Nat.mod_lt m hn
  have hquot : (m / n : ℚ) = (m / n : ℕ) + ((m % n : ℕ) : ℚ) / n := by
    rw [eq_comm, ← mul_left_inj' hn'.ne', add_mul, div_mul_cancel₀ _ hn'.ne',
      div_mul_cancel₀ _ hn'.ne', mul_comm]
    exact_mod_cast Nat.div_add_mod m n
  rw [hquot]
  unfold accuracyOfFraction
  split
  · next h => simp [h, Represents, ExtendedMantissa.ofMantissaAndAccuracy]
  · next h =>
    have hpos : (0 : ℚ) < ((m % n : ℕ) : ℚ) / n := by
      have : (0 : ℚ) < (m % n : ℕ) := by exact_mod_cast Nat.pos_of_ne_zero h
      positivity
    rcases lt_trichotomy (2 * (m % n)) n with hr | hr | hr
    · rw [compare_lt_iff_lt.2 hr]
      have : ((m % n : ℕ) : ℚ) / n < 1 / 2 := by
        rw [div_lt_div_iff₀ hn' two_pos, mul_comm, one_mul]
        exact_mod_cast hr
      simp only [Represents, ExtendedMantissa.ofMantissaAndAccuracy]
      constructor <;> linarith
    · rw [compare_eq_iff_eq.2 hr]
      have : ((m % n : ℕ) : ℚ) / n = 1 / 2 := by
        rw [div_eq_div_iff hn'.ne' two_ne_zero, mul_comm, one_mul]
        exact_mod_cast hr
      simp only [Represents, ExtendedMantissa.ofMantissaAndAccuracy]
      linarith
    · rw [compare_gt_iff_gt.2 hr]
      have : 1 / 2 < ((m % n : ℕ) : ℚ) / n := by
        rw [div_lt_div_iff₀ two_pos hn', mul_comm _ (2 : ℚ), one_mul]
        exact_mod_cast hr
      simp only [Represents, ExtendedMantissa.ofMantissaAndAccuracy]
      constructor <;> linarith

/-- The leading bit of a quotient of moderate size is not far from the end of the range. -/
theorem IsModerate.log2_quotient {m n : ℕ} {e f : ℤ} (hm : 0 < m) (hn : 0 < n)
    (h : IsModerate (m * 2 ^ e / (n * 2 ^ f))) : -1000 < m.log2 + 1 + e - (n.log2 + f) := by
  have hbelow : (2 : ℚ) ^ (-1000 : ℤ) < 2 ^ ((m.log2 + 1 : ℕ) + e - (n.log2 + f) : ℤ) := by
    refine lt_of_le_of_lt h.low ?_
    rw [zpow_sub₀ two_ne_zero, zpow_add₀ two_ne_zero, zpow_add₀ two_ne_zero, zpow_natCast,
      zpow_natCast]
    have hmhigh := (cast_log2_bounds hm.ne').2
    have hnlow := (cast_log2_bounds hn.ne').1
    gcongr
  have := (zpow_lt_zpow_iff_right₀ one_lt_two).1 hbelow
  omega

/-- A quotient is the exact quotient, rounded. -/
theorem rounds_div {x y : Float} {a b : Binary} (hx : ofFloat? x = some a)
    (hy : ofFloat? y = some b) (ha : 0 < a.value) (hb : 0 < b.value)
    (hmoderate : IsModerate (a.value / b.value)) : Rounds (a.value / b.value) (x / y) := by
  obtain ⟨hm, hux, havalue⟩ := exists_unpack hx ha
  obtain ⟨hn, huy, hbvalue⟩ := exists_unpack hy hb
  rw [havalue, hbvalue] at hmoderate ⊢
  change Rounds _ ⟨.pack (div Format.binary64 x.toModel.unpack y.toModel.unpack)⟩
  rw [hux, huy, div, divCore]
  dsimp only
  generalize a.mantissa = m at *
  generalize b.mantissa = n at *
  generalize a.exponent = e at *
  generalize b.exponent = f at *
  generalize hs : min (e - f)
    (Format.binary64.targetExponent (totalExponent m e - totalExponent n f)) = s
  generalize hk : (e - f - s).toNat = k
  have hvalue : (m * 2 ^ e / (n * 2 ^ f) : ℚ) = ((m <<< k : ℕ) / n) * 2 ^ s := by
    rw [show e = s + k + f by omega, zpow_add₀ two_ne_zero, zpow_add₀ two_ne_zero, zpow_natCast,
      Nat.shiftLeft_eq]
    push_cast
    field_simp
  have hlead : 2 ^ 52 ≤ m <<< k / n := by
    have hfar := hmoderate.log2_quotient hm hn
    have hle : s ≤ m.log2 + 1 + e - (n.log2 + 1 + f) - 53 := by
      refine hs.symm.trans_le ((min_le_right _ _).trans ?_)
      rw [Format.targetExponent, totalExponent, totalExponent]
      change max (_ - 53 : ℤ) (-1074) ≤ _
      omega
    rw [Nat.le_div_iff_mul_le hn, Nat.shiftLeft_eq]
    calc 2 ^ 52 * n ≤ 2 ^ 52 * 2 ^ (n.log2 + 1) := Nat.mul_le_mul_left _ Nat.lt_log2_self.le
      _ = 2 ^ (n.log2 + 53) := by rw [← pow_add]; congr 1; omega
      _ ≤ 2 ^ (m.log2 + k) := Nat.pow_le_pow_right two_pos (by omega)
      _ = 2 ^ m.log2 * 2 ^ k := pow_add ..
      _ ≤ m * 2 ^ k := Nat.mul_le_mul_right _ (Nat.log2_self_le hm.ne')
  rw [hvalue] at hmoderate ⊢
  exact rounds_roundWithAccuracy hlead (represents_quotient _ hn) hmoderate

/-! ## Ratios -/

theorem scaled_div (num den : ℕ) (e : ℤ) :
    ((scaled num den e).1 / (scaled num den e).2 : ℚ) = num / den / 2 ^ e := by
  rw [scaled]
  push_cast
  rw [cast_twoTo, cast_twoTo]
  obtain ⟨k, rfl | rfl⟩ := e.eq_nat_or_neg
  · simp [div_div]
  · simp [div_mul_eq_mul_div]

theorem scaled_snd_pos (num : ℕ) {den : ℕ} (hden : 0 < den) (e : ℤ) : 0 < (scaled num den e).2 :=
  Nat.mul_pos hden (twoTo_pos _)

/-- A ratio is between two powers of two. -/
theorem floorLog_bounds {num den : ℕ} (hnum : 0 < num) (hden : 0 < den) :
    (2 : ℚ) ^ floorLog num den ≤ num / den ∧ (num / den : ℚ) < 2 ^ (floorLog num den + 1) := by
  have hden' : (0 : ℚ) < den := by exact_mod_cast hden
  obtain ⟨hnlow, hnhigh⟩ := cast_log2_bounds hnum.ne'
  obtain ⟨hdlow, hdhigh⟩ := cast_log2_bounds hden.ne'
  have hscaled := scaled_div num den (num.log2 - den.log2)
  have hpos := scaled_snd_pos num hden (num.log2 - den.log2)
  have hpos' : (0 : ℚ) < (scaled num den (num.log2 - den.log2)).2 := by exact_mod_cast hpos
  unfold floorLog
  dsimp only
  split
  · next h =>
    constructor
    · have : (1 : ℚ) ≤ num / den / 2 ^ (num.log2 - den.log2 : ℤ) := by
        rw [← hscaled, one_le_div hpos']
        exact_mod_cast h
      rwa [one_le_div (by positivity)] at this
    · rw [show (num.log2 - den.log2 + 1 : ℤ) = (num.log2 + 1 : ℕ) - den.log2 by push_cast; ring,
        zpow_sub₀ two_ne_zero, zpow_natCast, zpow_natCast]
      gcongr
  · next h =>
    constructor
    · rw [show (num.log2 - den.log2 - 1 : ℤ) = num.log2 - (den.log2 + 1 : ℕ) by push_cast; ring,
        zpow_sub₀ two_ne_zero, zpow_natCast, zpow_natCast]
      gcongr
    · have : (num / den / 2 ^ (num.log2 - den.log2 : ℤ) : ℚ) < 1 := by
        rw [← hscaled, div_lt_one hpos']
        exact_mod_cast not_le.1 h
      rw [div_lt_one (by positivity)] at this
      rwa [sub_add_cancel]

theorem roundEven_eq (num : ℕ) {den : ℕ} (hden : 0 < den) :
    roundEven num den = (ExtendedMantissa.ofMantissaAndAccuracy (num / den)
      (accuracyOfFraction (num % den) den)).roundedMantissa := by
  unfold roundEven accuracyOfFraction
  dsimp only
  rcases lt_trichotomy (2 * (num % den)) den with h | h | h
  · rw [if_pos h, compare_lt_iff_lt.2 h]
    split <;> rfl
  · have hrest : num % den ≠ 0 := by omega
    rw [if_neg h.not_lt, if_neg h.not_gt, if_neg hrest, compare_eq_iff_eq.2 h]
    change _ = num / den + num / den % 2
    split <;> omega
  · have hrest : num % den ≠ 0 := by omega
    rw [if_neg h.not_gt, if_pos h, if_neg hrest, compare_gt_iff_gt.2 h]
    rfl

theorem roundsEven_roundEven (num : ℕ) {den : ℕ} (hden : 0 < den) :
    RoundsEven (num / den) (roundEven num den) := by
  rw [roundEven_eq num hden]
  exact (represents_quotient num hden).roundsEven

/-- A bit pattern with an exponent that is not the largest one is that of a `Float`. -/
theorem toBits_ofBits {bits : ℕ} (h : bits < 2047 * leadingBit) :
    (Float.ofBits (UInt64.ofNat bits)).toBits.toNat = bits := by
  have htoNat : (UInt64.ofNat bits).toBitVec.toNat = bits :=
    Nat.mod_eq_of_lt (h.trans (by decide))
  change (pack Format.binary64 (unpack Format.binary64 (UInt64.ofNat bits).toBitVec)).toNat = bits
  have hexponent :
      @unpackExponent Format.binary64 (UInt64.ofNat bits).toBitVec ≠ -1#11 := by
    intro hall
    rw [← BitVec.toNat_inj, toNat_unpackExponent, htoNat] at hall
    have hquot : bits / twoTo 52 < 2047 := Nat.div_lt_of_lt_mul (by rwa [mul_comm])
    rw [Nat.mod_eq_of_lt (hquot.trans (by decide))] at hall
    exact hquot.ne hall
  have hnumber : ¬ @isNaNBits Format.binary64 (UInt64.ofNat bits).toBitVec := by
    rw [isNaNBits, decide_eq_true_eq]
    exact fun hnan => hexponent hnan.1
  rw [pack_unpack, if_neg hnumber, htoNat]

/-- The number with a given exponent and fraction field. -/
theorem ofFloat?_ofBits {biased fraction : ℕ} (hpos : 0 < biased) (hbiased : biased < 2047)
    (hfraction : fraction < leadingBit) :
    ofFloat? (Float.ofBits (UInt64.ofNat (biased * leadingBit + fraction))) =
      some ⟨false, leadingBit + fraction, biased - 1075⟩ := by
  have hbits : biased * leadingBit + fraction < 2047 * leadingBit := by
    have : (biased + 1) * leadingBit ≤ 2047 * leadingBit := Nat.mul_le_mul_right _ hbiased
    rw [Nat.add_mul] at this
    omega
  have hquot : (biased * leadingBit + fraction) / twoTo 52 = biased := by
    change (biased * leadingBit + fraction) / leadingBit = biased
    rw [mul_comm, Nat.mul_add_div (by decide), Nat.div_eq_of_lt hfraction, add_zero]
  have hrest : (biased * leadingBit + fraction) % twoTo 52 = fraction := by
    change (biased * leadingBit + fraction) % leadingBit = fraction
    rw [mul_comm, Nat.mul_add_mod, Nat.mod_eq_of_lt hfraction]
  have hsign : (biased * leadingBit + fraction) / twoTo 63 = 0 :=
    Nat.div_eq_of_lt (hbits.trans (by decide))
  have hexponent : biased % twoTo 11 = biased := Nat.mod_eq_of_lt (hbiased.trans (by decide))
  have hnotall : ¬biased = twoTo 11 - 1 := by
    change ¬biased = 2047
    omega
  unfold ofFloat?
  dsimp only
  rw [toBits_ofBits hbits, hquot, hrest, hsign, hexponent, if_neg hnotall, if_neg hpos.ne']
  congr 2
  change (biased : ℤ) + -1074 - 1 = _
  omega

/-- The nearest `Float` of a ratio is the ratio, rounded. -/
theorem rounds_nearest {num den : ℕ} (hden : 0 < den) (hmoderate : IsModerate (num / den)) :
    Rounds (num / den) (nearest false num den) := by
  have hnum : 0 < num := by
    have := hmoderate.pos
    by_contra h
    simp [Nat.eq_zero_of_not_pos h] at this
  obtain ⟨hlow, hhigh⟩ := floorLog_bounds hnum hden
  have hlog : -1000 < floorLog num den + 1 :=
    (zpow_lt_zpow_iff_right₀ one_lt_two).1 (hmoderate.low.trans_lt hhigh)
  have hlog' : floorLog num den < 1000 :=
    (zpow_lt_zpow_iff_right₀ one_lt_two).1 (hlow.trans_lt hmoderate.high)
  have hmax : max (floorLog num den - 52) minExponent = floorLog num den - 52 :=
    max_eq_left (by rw [minExponent]; omega)
  have hrounds := roundsEven_roundEven (scaled num den (floorLog num den - 52)).1
    (scaled_snd_pos num hden (floorLog num den - 52))
  rw [scaled_div] at hrounds
  rw [nearest, nearestBits, if_neg hnum.ne', hmax]
  dsimp only
  generalize roundEven (scaled num den (floorLog num den - 52)).1
    (scaled num den (floorLog num den - 52)).2 = m at hrounds ⊢
  generalize floorLog num den = l at *
  have hlead : (2 : ℚ) ^ 52 ≤ num / den / 2 ^ (l - 52) := by
    rw [le_div_iff₀ (by positivity), ← zpow_natCast, ← zpow_add₀ two_ne_zero]
    simpa using hlow
  have htrail : (num / den / 2 ^ (l - 52) : ℚ) < 2 ^ 53 := by
    rw [div_lt_iff₀ (by positivity), ← zpow_natCast, ← zpow_add₀ two_ne_zero]
    refine hhigh.trans_eq ?_
    congr 1
    push_cast
    ring
  have hmlow : leadingBit ≤ m :=
    hrounds.le_of_le (by rw [leadingBit, cast_twoTo]; exact_mod_cast hlead)
  have hmhigh : m ≤ 2 * leadingBit :=
    hrounds.le_of_ge (by rw [leadingBit]; push_cast; rw [cast_twoTo]; linarith)
  obtain ⟨biased, hbiased⟩ : ∃ biased : ℕ, (biased : ℤ) = l + 1023 :=
    ⟨(l + 1023).toNat, by omega⟩
  have hfield : (l - 52 - minExponent + 1).toNat = biased := by
    rw [minExponent]
    omega
  have hbits : biased * leadingBit + (m - leadingBit) ≤ 2047 * leadingBit := by
    have : (biased + 1) * leadingBit ≤ 2047 * leadingBit := Nat.mul_le_mul_right _ (by omega)
    rw [Nat.add_mul] at this
    omega
  rw [if_neg (not_lt.2 hmlow), hfield, min_eq_left hbits, if_neg Bool.false_ne_true, add_zero]
  refine ⟨l - 52, m, ?_⟩
  rcases hmhigh.lt_or_eq with hlt | rfl
  · refine ⟨_, hlead, htrail, hrounds,
      ofFloat?_ofBits (by omega) (by omega) (by omega : m - leadingBit < leadingBit), ?_⟩
    rw [Nat.add_sub_cancel' hmlow, show (biased : ℤ) - 1075 = l - 52 by omega]
    simp [value]
  · have hcarry : biased * leadingBit + (2 * leadingBit - leadingBit) =
        (biased + 1) * leadingBit + 0 := by ring_nf; omega
    rw [hcarry]
    refine ⟨_, hlead, htrail, hrounds, ofFloat?_ofBits (by omega) (by omega) (twoTo_pos 52), ?_⟩
    rw [show ((biased + 1 : ℕ) : ℤ) - 1075 = l - 52 + 1 by omega]
    simp [value, zpow_add_one₀]
    ring

end Binary

end Bookfinder
