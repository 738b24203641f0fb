import Bookfinder.Payload.Conversion
import Bookfinder.Proofs.BinaryValue

/-!
# How a real number is shown

A real number is shown as its shortest decimal, rounded half up. The shortest decimal need not be
the exact value: it is a point of the first grid of powers of ten that has one between the midpoints
to the neighbours, so that it is off by half of the last binary place at most
(`Binary.search_close`, `Binary.toDecimal_close`). From there on the rounding is exact
(`Decimal.halfUp_eq`), and the number of hundredths that is shown is that of a decimal within
`2 ^ -51` of the exact value (`Payload.halfUp_real`).
-/

namespace Bookfinder

namespace Decimal

theorem digitCount_le_iff {n k : ℕ} (hk : 0 < k) : digitCount n ≤ k ↔ n < 10 ^ k :=
  Nat.length_toDigits_le_iff (by decide) hk

/-- The place of the first digit of a decimal. -/
theorem digitCount_add_le_iff {c : ℕ} (hc : 0 < c) (k n : ℤ) :
    (digitCount c : ℤ) + k ≤ n ↔ c * (10 : ℚ) ^ k < 10 ^ n := by
  constructor
  · intro h
    have hlt : (c : ℚ) < 10 ^ digitCount c := by
      exact_mod_cast (digitCount_le_iff Nat.length_toDigits_pos).1 le_rfl
    calc c * (10 : ℚ) ^ k < 10 ^ digitCount c * 10 ^ k := by gcongr
      _ = 10 ^ ((digitCount c : ℤ) + k) := by rw [zpow_add₀ (by norm_num), zpow_natCast]
      _ ≤ 10 ^ n := zpow_le_zpow_right₀ (by norm_num) h
  · intro h
    have hlt : (c : ℚ) < 10 ^ (n - k) := by
      rwa [zpow_sub₀ (by norm_num), lt_div_iff₀ (by positivity)]
    have hpos : 0 < n - k := by
      have hone : (10 : ℚ) ^ (0 : ℤ) ≤ c := by exact_mod_cast hc
      exact (zpow_lt_zpow_iff_right₀ (by norm_num)).1 (hone.trans_lt hlt)
    obtain ⟨j, hj⟩ := Int.eq_ofNat_of_zero_le hpos.le
    have := (digitCount_le_iff (by omega : 0 < j)).2 (by
      rw [hj, zpow_natCast] at hlt
      exact_mod_cast hlt)
    omega

/-- Half up is the floor of one half more. -/
theorem roundUp_eq_floor (num : ℕ) {den : ℕ} (hden : 0 < den) :
    roundUp num den = ⌊(num / den + 1 / 2 : ℚ)⌋₊ := by
  have hden' : (den : ℚ) ≠ 0 := by positivity
  rw [roundUp, ← Nat.floor_div_eq_div (K := ℚ)]
  congr 1
  push_cast
  field_simp

/-- A decimal that has few digits on a grid is rounded to it, a half away from zero. -/
theorem halfUp_eq {d : Decimal} {e : ℤ} (he : e.natAbs ≤ maxGridExponent)
    (hlow : 1 / 10 ≤ d.coefficient * (10 : ℚ) ^ (d.exponent - e))
    (hhigh : d.coefficient * (10 : ℚ) ^ (d.exponent - e) < 10 ^ 27) :
    d.halfUp e = some { d with
      coefficient := ⌊d.coefficient * (10 : ℚ) ^ (d.exponent - e) + 1 / 2⌋₊, exponent := e } := by
  obtain ⟨negative, c, k⟩ := d
  dsimp only at hlow hhigh ⊢
  have hc : 0 < c := by
    by_contra h
    norm_num [Nat.eq_zero_of_not_pos h] at hlow
  have hwidth : ¬(precision : ℤ) < (digitCount c : ℤ) + (k - e) := by
    have := (digitCount_add_le_iff hc (k - e) 27).2 (by exact_mod_cast hhigh)
    rw [precision]
    omega
  have hwidth' : ¬(digitCount c : ℤ) + (k - e) < 0 := by
    intro h
    have := (digitCount_add_le_iff hc (k - e) (-1)).1 (by omega)
    norm_num at this
    linarith
  have hrounded : roundUp (c * tenTo (k - e).toNat) (tenTo (e - k).toNat) =
      ⌊c * (10 : ℚ) ^ (k - e) + 1 / 2⌋₊ := by
    rw [roundUp_eq_floor _ (tenTo_pos _), zpow_eq_div, neg_sub]
    push_cast
    rw [cast_tenTo, cast_tenTo, mul_div_assoc]
  have hfits : ¬precision < digitCount ⌊c * (10 : ℚ) ^ (k - e) + 1 / 2⌋₊ := by
    rw [not_lt, digitCount_le_iff (by decide), Nat.floor_lt (by positivity), precision]
    push_cast
    linarith
  rw [halfUp]
  dsimp only
  rw [if_neg (not_lt.2 he), if_neg hc.ne', if_neg hwidth, if_neg hwidth', hrounded, if_neg hfits]

/-- A decimal of everyday size is a ratio, rounded. -/
theorem toFloat_eq {d : Decimal} (hlow : 1 / 10 ≤ d.coefficient * (10 : ℚ) ^ d.exponent)
    (hhigh : d.coefficient * (10 : ℚ) ^ d.exponent < 10 ^ 27) :
    d.toFloat = Binary.nearest d.negative (d.coefficient * tenTo d.exponent.toNat)
      (tenTo (-d.exponent).toNat) := by
  have hc : 0 < d.coefficient := by
    by_contra h
    norm_num [Nat.eq_zero_of_not_pos h] at hlow
  have hsmall := (digitCount_add_le_iff hc d.exponent 27).2 (by exact_mod_cast hhigh)
  have hlarge : ¬(digitCount d.coefficient : ℤ) + d.exponent < 0 := by
    intro h
    have := (digitCount_add_le_iff hc d.exponent (-1)).1 (by omega)
    norm_num at this
    linarith
  rw [toFloat, if_neg (by omega), if_neg (by omega)]

end Decimal

namespace Binary

/-- To drop zeros at the end of a coefficient changes the exponent only. -/
theorem dropZeros_value (fuel c : ℕ) (k : ℤ) :
    ((dropZeros fuel c k).1 * 10 ^ (dropZeros fuel c k).2 : ℚ) = c * 10 ^ k := by
  induction fuel generalizing c k with
  | zero => rfl
  | succ fuel ih =>
    rw [dropZeros]
    split
    · next h =>
      obtain ⟨q, rfl⟩ := Nat.dvd_of_mod_eq_zero h.2
      rw [ih, Nat.mul_div_cancel_left q (by norm_num), zpow_add_one₀ (by norm_num)]
      push_cast
      ring
    · rfl

/-! ## Search -/

/-- A point of a grid that stands for the value of an interval is between its ends. -/
theorem Interval.gridPoint?_bounds {i : Interval} {k : ℤ} {d : ℕ} (h : i.gridPoint? k = some d) :
    i.low * tenTo (-k).toNat ≤ d * (i.den * tenTo k.toNat) ∧
      d * (i.den * tenTo k.toNat) ≤ i.high * tenTo (-k).toNat := by
  have hwithin (hd : (if i.closed then i.low * tenTo (-k).toNat ≤ d * (i.den * tenTo k.toNat) &&
      d * (i.den * tenTo k.toNat) ≤ i.high * tenTo (-k).toNat
      else i.low * tenTo (-k).toNat < d * (i.den * tenTo k.toNat) &&
        d * (i.den * tenTo k.toNat) < i.high * tenTo (-k).toNat : Bool) = true) :
      i.low * tenTo (-k).toNat ≤ d * (i.den * tenTo k.toNat) ∧
        d * (i.den * tenTo k.toNat) ≤ i.high * tenTo (-k).toNat := by
    cases hc : i.closed <;> simp [hc] at hd <;> omega
  refine hwithin ?_
  unfold gridPoint? at h
  dsimp only at h
  split at h
  · next hbelow _ =>
    obtain rfl := Option.some.inj h
    exact hbelow
  · next _ habove =>
    obtain rfl := Option.some.inj h
    exact habove
  · next hbelow habove =>
    split at h
    · obtain rfl := Option.some.inj h
      exact hbelow
    · split at h
      · obtain rfl := Option.some.inj h
        exact habove
      · split at h
        · obtain rfl := Option.some.inj h
          exact hbelow
        · obtain rfl := Option.some.inj h
          exact habove
  · cases h

/-- The ends of an interval are one half of the last place away from the value. -/
theorem interval_bounds (m : ℕ) (e : ℤ) :
    ((m - 1 / 2) * 2 ^ e : ℚ) ≤ (interval m e).low / (interval m e).den ∧
      ((interval m e).high / (interval m e).den : ℚ) = (m + 1 / 2) * 2 ^ e ∧
      ((interval m e).value / (interval m e).den : ℚ) = m * 2 ^ e := by
  have hscale : (2 : ℚ) ^ e = 4 * (2 ^ (e - 2).toNat / 2 ^ (2 - e).toNat) := by
    rw [← neg_sub e 2, ← zpow_eq_div, zpow_sub₀ two_ne_zero]
    norm_num
    ring
  have hstep : (4 * m - 2 : ℚ) ≤
      ((4 * m - if m = leadingBit ∧ minExponent < e then 1 else 2 : ℕ) : ℚ) := by
    have hle : 4 * m ≤ (4 * m - if m = leadingBit ∧ minExponent < e then 1 else 2) + 2 := by
      split <;> omega
    have : (4 * m : ℚ) ≤
        ((4 * m - if m = leadingBit ∧ minExponent < e then 1 else 2 : ℕ) : ℚ) + 2 := by
      exact_mod_cast hle
    linarith
  simp only [interval, Nat.cast_mul, cast_twoTo]
  refine ⟨?_, ?_, ?_⟩
  · rw [hscale, mul_div_assoc]
    calc ((m - 1 / 2) * (4 * (2 ^ (e - 2).toNat / 2 ^ (2 - e).toNat)) : ℚ) =
        (4 * m - 2) * (2 ^ (e - 2).toNat / 2 ^ (2 - e).toNat) := by ring
      _ ≤ _ := by gcongr
  · rw [hscale]
    push_cast
    ring
  · rw [hscale]
    push_cast
    ring

theorem Interval.den_pos (m : ℕ) (e : ℤ) : 0 < (interval m e).den := twoTo_pos _

/-- A point of a grid is one half of the last place away from the value, at most. -/
theorem gridPoint?_close {m : ℕ} {e k : ℤ} {d : ℕ} (h : (interval m e).gridPoint? k = some d) :
    |(d * 10 ^ k - m * 2 ^ e : ℚ)| ≤ 2 ^ e / 2 := by
  obtain ⟨hlow, hhigh⟩ := Interval.gridPoint?_bounds h
  obtain ⟨hends, hends', -⟩ := interval_bounds m e
  have hden : (0 : ℚ) < (interval m e).den := by exact_mod_cast Interval.den_pos m e
  have hlow' : ((interval m e).low / (interval m e).den : ℚ) ≤ d * 10 ^ k := by
    rw [zpow_eq_div, ← mul_div_assoc, div_le_div_iff₀ hden (by positivity)]
    have : ((interval m e).low * tenTo (-k).toNat : ℚ) ≤
        d * ((interval m e).den * tenTo k.toNat) := by
      exact_mod_cast hlow
    rw [cast_tenTo, cast_tenTo] at this
    linarith
  have hhigh' : (d * 10 ^ k : ℚ) ≤ (interval m e).high / (interval m e).den := by
    rw [zpow_eq_div, ← mul_div_assoc, div_le_div_iff₀ (by positivity) hden]
    have : (d * ((interval m e).den * tenTo k.toNat) : ℚ) ≤
        (interval m e).high * tenTo (-k).toNat := by
      exact_mod_cast hhigh
    rw [cast_tenTo, cast_tenTo] at this
    linarith
  rw [hends'] at hhigh'
  rw [abs_le]
  constructor <;> linarith

/-- What a search finds is a point of the grid that it got to, or the one below the value after it
has gone through all grids. -/
theorem search_close {m : ℕ} {e : ℤ} (fuel : ℕ) (k : ℤ) :
    |(((interval m e).search fuel k).1 * 10 ^ ((interval m e).search fuel k).2 - m * 2 ^ e : ℚ)| ≤
      max (2 ^ e / 2) (10 ^ (k - fuel)) := by
  induction fuel generalizing k with
  | zero =>
    rw [Interval.search]
    obtain ⟨-, -, hvalue⟩ := interval_bounds m e
    have hden : 0 < (interval m e).den * tenTo k.toNat :=
      Nat.mul_pos (Interval.den_pos m e) (tenTo_pos _)
    have hquot : (((interval m e).value * tenTo (-k).toNat : ℕ) : ℚ) /
        ((interval m e).den * tenTo k.toNat : ℕ) = m * 2 ^ e / 10 ^ k := by
      rw [← hvalue, zpow_eq_div]
      push_cast
      rw [cast_tenTo, cast_tenTo]
      field_simp
    have hle := Nat.floor_le (show (0 : ℚ) ≤ m * 2 ^ e / 10 ^ k by positivity)
    have hlt := Nat.lt_floor_add_one (m * 2 ^ e / 10 ^ k : ℚ)
    rw [← hquot, Nat.floor_div_eq_div, hquot] at hle hlt
    rw [le_div_iff₀ (by positivity)] at hle
    rw [div_lt_iff₀ (by positivity)] at hlt
    refine le_max_of_le_right ?_
    rw [Nat.cast_zero, sub_zero, abs_le]
    constructor <;> linarith
  | succ fuel ih =>
    rw [Interval.search]
    split
    · next d hd => exact le_max_of_le_left (gridPoint?_close hd)
    · refine (ih (k - 1)).trans_eq ?_
      congr 2
      push_cast
      ring

/-- The shortest decimal of a number between one half and eight is close to it. -/
theorem toDecimal_close {b : Binary} (hb : b.IsCanonical) (hlow : 1 / 2 ≤ b.value)
    (hhigh : b.value < 8) :
    b.toDecimal.negative = false ∧
      |b.toDecimal.coefficient * 10 ^ b.toDecimal.exponent - b.value| ≤ 1 / 2 ^ 51 := by
  obtain ⟨negative, m, e⟩ := b
  have hsign : negative = false := by
    cases negative with
    | false => rfl
    | true =>
      have : (0 : ℚ) ≤ m * 2 ^ e := by positivity
      simp [value] at hlow
      linarith
  subst hsign
  have hvalue : value ⟨false, m, e⟩ = m * 2 ^ e := by simp [value]
  rw [hvalue] at hlow hhigh ⊢
  have hm : m ≠ 0 := by
    rintro rfl
    norm_num at hlow
  have hlog : -2 < m.log2 + e ∧ m.log2 + e < 3 := by
    obtain ⟨hmlow, hmhigh⟩ := cast_log2_bounds hm
    constructor
    · have : (2 : ℚ) ^ (-1 : ℤ) < 2 ^ ((m.log2 + 1 : ℕ) + e : ℤ) := by
        rw [zpow_add₀ two_ne_zero, zpow_natCast]
        calc (2 : ℚ) ^ (-1 : ℤ) ≤ m * 2 ^ e := by norm_num at hlow ⊢; exact hlow
          _ < 2 ^ (m.log2 + 1) * 2 ^ e := by gcongr
      have := (zpow_lt_zpow_iff_right₀ one_lt_two).1 this
      omega
    · have : (2 : ℚ) ^ ((m.log2 : ℕ) + e : ℤ) < 2 ^ (3 : ℤ) := by
        rw [zpow_add₀ two_ne_zero, zpow_natCast]
        calc (2 : ℚ) ^ m.log2 * 2 ^ e ≤ m * 2 ^ e := by gcongr
          _ < 2 ^ (3 : ℤ) := by norm_num; exact hhigh
      exact (zpow_lt_zpow_iff_right₀ one_lt_two).1 this
  have he : e ≤ -50 := by
    rcases hb.leading with h | h
    · have : 52 ≤ m.log2 := (Nat.le_log2 hm).2 h
      omega
    · change e = -1074 at h
      omega
  have hgrid : coarseGrid m e = 2 := by
    rw [coarseGrid]
    omega
  have hclose := search_close (m := m) (e := e) 22 2
  have hmax : max (2 ^ e / 2 : ℚ) (10 ^ (2 - (22 : ℕ) : ℤ)) ≤ 1 / 2 ^ 51 := by
    refine max_le ?_ (by norm_num)
    calc (2 ^ e / 2 : ℚ) ≤ 2 ^ (-50 : ℤ) / 2 := by
          gcongr
          norm_num
      _ = 1 / 2 ^ 51 := by norm_num
  rw [toDecimal, if_neg hm, shortest, hgrid]
  dsimp only
  refine ⟨rfl, ?_⟩
  rw [dropZeros_value]
  exact hclose.trans hmax

end Binary

namespace Payload

/-- How a number between one half and eight is shown. -/
theorem halfUp_real {x : Float} {b : Binary} (hx : Binary.ofFloat? x = some b)
    (hlow : 1 / 2 ≤ b.value) (hhigh : b.value < 8) :
    ∃ d : ℚ, |d - b.value| ≤ 1 / 2 ^ 51 ∧
      (Payload.real x).halfUp shownPlaces =
        .ok (Decimal.toFloat ⟨false, ⌊100 * d + 1 / 2⌋₊, -2⟩) := by
  obtain ⟨hsign, hclose⟩ :=
    Binary.toDecimal_close (Binary.isCanonical_of_ofFloat? hx) hlow hhigh
  obtain ⟨hclose', hclose''⟩ := abs_le.1 hclose
  have hscale : (b.toDecimal.coefficient * (10 : ℚ) ^ (b.toDecimal.exponent - -2)) =
      100 * (b.toDecimal.coefficient * 10 ^ b.toDecimal.exponent) := by
    rw [zpow_sub₀ (by norm_num)]
    norm_num
    ring
  have hrounded := Decimal.halfUp_eq (d := b.toDecimal) (e := -2) (by decide)
    (by rw [hscale]; linarith) (by rw [hscale]; linarith)
  rw [hscale, hsign] at hrounded
  refine ⟨_, hclose, ?_⟩
  rw [halfUp, toDecimal, hx]
  change (((b.toDecimal.halfUp (-2)).map Decimal.toFloat).elim _ _ : Except Fault Float) = _
  rw [hrounded]
  rfl

end Payload

end Bookfinder
