import Bookfinder.Proofs.BinaryValue

/-!
# Rounding to a real number

A mantissa keeps a round bit and a sticky bit for what was cut off of it. `Represents` says which
exact numbers these stand for, and shifting keeps it (`Represents.shiftRight`), so that the mantissa
that comes out is the natural number nearest to the exact one (`RoundsEven`).

`Rounds v x` says that the `Float` `x` is `v` rounded to 53 bits. There is only one such `Float`
(`Rounds.unique`), it is `v` itself where `v` has so few bits (`Rounds.exact`), and otherwise it is
off by one part in `2 ^ 53` at most (`Rounds.close`).
-/

namespace Bookfinder

namespace Binary

open Float.Model (Format UnpackedFloat totalExponent)
open Float.Model.UnpackedFloat

/-! ## Nearest natural numbers -/

/-- `m` is the natural number nearest to `t`, and the even one of two. -/
structure RoundsEven (t : ℚ) (m : ℕ) : Prop where
  close : |t - m| ≤ 1 / 2
  even : |t - m| = 1 / 2 → Even m

/-- Rounding does not go below a natural number that is below. -/
theorem RoundsEven.le_of_le {t : ℚ} {m k : ℕ} (h : RoundsEven t m) (hk : k ≤ t) : k ≤ m := by
  have := (abs_le.1 h.close).2
  have : (k : ℚ) < m + 1 := by linarith
  exact Nat.lt_succ_iff.1 (by exact_mod_cast this)

/-- Nor above one that is above. -/
theorem RoundsEven.le_of_ge {t : ℚ} {m k : ℕ} (h : RoundsEven t m) (hk : t ≤ k) : m ≤ k := by
  have := (abs_le.1 h.close).1
  have : (m : ℚ) < k + 1 := by linarith
  exact Nat.lt_succ_iff.1 (by exact_mod_cast this)

theorem RoundsEven.unique {t : ℚ} {m n : ℕ} (hm : RoundsEven t m) (hn : RoundsEven t n) :
    m = n := by
  have key : ∀ {m n : ℕ}, RoundsEven t m → RoundsEven t n → ¬m < n := by
    intro m n hm hn h
    have hstep : (m : ℚ) + 1 ≤ n := by exact_mod_cast h
    obtain ⟨-, hm'⟩ := abs_le.1 hm.close
    obtain ⟨hn', -⟩ := abs_le.1 hn.close
    have hmt : t - m = 1 / 2 := by linarith
    have hnt : t - n = -(1 / 2) := by linarith
    have hmeven := hm.even (by rw [hmt]; norm_num)
    have hneven := hn.even (by rw [hnt]; norm_num)
    have hnext : n = m + 1 := by
      have : (n : ℚ) = m + 1 := by linarith
      exact_mod_cast this
    rw [hnext, Nat.even_add_one] at hneven
    exact hneven hmeven
  exact le_antisymm (not_lt.1 (key hn hm)) (not_lt.1 (key hm hn))

theorem roundsEven_natCast (m : ℕ) : RoundsEven m m := ⟨by simp, by simp⟩

/-! ## A mantissa with its residual bits -/

/-- What a mantissa with a round bit and a sticky bit says about an exact number. -/
def Represents (em : ExtendedMantissa) (t : ℚ) : Prop :=
  match em.roundBit, em.stickyBit with
  | false, false => t = em.mantissa
  | false, true => em.mantissa < t ∧ t < em.mantissa + 1 / 2
  | true, false => t = em.mantissa + 1 / 2
  | true, true => em.mantissa + 1 / 2 < t ∧ t < em.mantissa + 1

variable {em : ExtendedMantissa} {t : ℚ}

theorem Represents.le (h : Represents em t) : em.mantissa ≤ t := by
  obtain ⟨m, _ | _, _ | _⟩ := em <;> simp only [Represents] at h ⊢ <;> linarith

theorem Represents.lt (h : Represents em t) : t < em.mantissa + 1 := by
  obtain ⟨m, _ | _, _ | _⟩ := em <;> simp only [Represents] at h ⊢ <;> linarith

theorem Represents.roundsEven (h : Represents em t) : RoundsEven t em.roundedMantissa := by
  obtain ⟨m, r, s⟩ := em
  cases r <;> cases s <;> simp only [Represents] at h
  case false.false =>
    subst h
    exact roundsEven_natCast m
  case false.true =>
    change RoundsEven t m
    have habs : |t - m| < 1 / 2 := abs_lt.2 ⟨by linarith, by linarith⟩
    exact ⟨habs.le, fun h' => absurd h' habs.ne⟩
  case true.false =>
    change RoundsEven t (m + m % 2)
    subst h
    rcases Nat.mod_two_eq_zero_or_one m with hm | hm
    · rw [hm]
      exact ⟨by norm_num, fun _ => Nat.even_iff.2 hm⟩
    · rw [hm]
      refine ⟨by push_cast; rw [abs_le]; constructor <;> linarith, fun _ => ?_⟩
      rw [Nat.even_iff]
      omega
  case true.true =>
    change RoundsEven t (m + 1)
    have habs : |t - (m + 1 : ℕ)| < 1 / 2 := by
      push_cast
      exact abs_lt.2 ⟨by linarith, by linarith⟩
    exact ⟨habs.le, fun h' => absurd h' habs.ne⟩

theorem Represents.shiftRightOne (h : Represents em t) : Represents em.shiftRightOne (t / 2) := by
  obtain ⟨m, r, s⟩ := em
  have hcast : (m : ℚ) = 2 * (m / 2 : ℕ) + (m % 2 : ℕ) := by
    exact_mod_cast (Nat.div_add_mod m 2).symm
  rcases Nat.mod_two_eq_zero_or_one m with hm | hm <;> rw [hm] at hcast <;> cases r <;> cases s <;>
    simp only [Represents, ExtendedMantissa.shiftRightOne, hm] at h ⊢ <;>
    simp at h hcast ⊢ <;> (try constructor) <;> linarith

theorem Represents.shiftRight (h : Represents em t) (n : ℕ) :
    Represents (em >>> n) (t / 2 ^ n) := by
  change Represents (n.repeat ExtendedMantissa.shiftRightOne em) _
  induction n with
  | zero => simpa [Nat.repeat] using h
  | succ n ih =>
    rw [Nat.repeat, pow_succ, ← div_div]
    exact ih.shiftRightOne

/-! ## Packing -/

theorem log2_eq_of_bounds {m k : ℕ} (hlow : 2 ^ k ≤ m) (hhigh : m < 2 ^ (k + 1)) : m.log2 = k := by
  have hm : m ≠ 0 := by
    have := Nat.two_pow_pos k
    omega
  exact (Nat.log2_eq_iff hm).2 ⟨hlow, hhigh⟩

/-- A mantissa of 53 bits is found again in the `Float` that it makes. -/
theorem ofFloat?_pack {m : ℕ} {e : ℤ} (hm : 0 < m) (hlow : 2 ^ 52 ≤ m) (hhigh : m < 2 ^ 53)
    (he : -1074 ≤ e) (he' : e ≤ 971) :
    ofFloat? ⟨.pack (.finite .positive m e hm)⟩ = some ⟨false, m, e⟩ := by
  have hlog := log2_eq_of_bounds hlow hhigh
  have hbias : (e + (Format.binary64.exponentBias : ℤ) +
      (Format.binary64.mantissaBitsWithoutImplicit : ℤ)).toNat = (e + 1075).toNat := by
    change (e + 1023 + 52).toNat = _
    omega
  have hpack : pack Format.binary64 (.finite .positive m e hm) =
      packComponents Format.binary64 .positive (BitVec.ofNat 11 (e + 1075).toNat)
        (BitVec.ofNat 52 m) := by
    rw [pack]
    simp only [hlog, hbias]
    rw [if_neg (by simp; omega), if_pos (by rfl)]
  have hexponent : (BitVec.ofNat 11 (e + 1075).toNat).toNat = (e + 1075).toNat := by
    rw [BitVec.toNat_ofNat, Nat.mod_eq_of_lt (by omega)]
  have hmantissa : (1#1 ++ BitVec.ofNat 52 m).toNat = m := by
    rw [toNat_cons_one, BitVec.toNat_ofNat, leadingBit, twoTo]
    change 2 ^ 52 + m % 2 ^ 52 = m
    omega
  have hnotall : BitVec.ofNat 11 (e + 1075).toNat ≠ -1#11 := fun h => by
    rw [← BitVec.toNat_inj, hexponent] at h
    change _ = 2047 at h
    omega
  have hnotzero : BitVec.ofNat 11 (e + 1075).toNat ≠ 0#11 := fun h => by
    rw [← BitVec.toNat_inj, hexponent] at h
    change _ = 0 at h
    omega
  rw [ofFloat?_eq]
  change ofUnpacked? (unpack Format.binary64 (pack Format.binary64 _)) = _
  rw [hpack, unpack]
  simp only [unpackExponent_packComponents, unpackMantissa_packComponents,
    unpackSign_packComponents, hnotall, hnotzero, if_false, Sign.ofBitVec_toBitVec, ofUnpacked?,
    hmantissa, hexponent]
  congr 2
  change ((e + 1075).toNat : ℤ) - (1023 + 52) = e
  omega

/-! ## Rounding -/

/-- A positive number that is far from the ends of the range of `Float`. -/
structure IsModerate (v : ℚ) : Prop where
  low : 2 ^ (-1000 : ℤ) ≤ v
  high : v < 2 ^ (1000 : ℤ)

theorem IsModerate.pos {v : ℚ} (h : IsModerate v) : 0 < v := lt_of_lt_of_le (by positivity) h.low

/-- The place of the leading bit of a moderate number. -/
theorem IsModerate.log2_bounds {m : ℕ} {e : ℤ} {t : ℚ} (hm : 0 < m) (hle : m ≤ t) (hlt : t < m + 1)
    (h : IsModerate (t * 2 ^ e)) : -1000 ≤ m.log2 + e ∧ m.log2 + e < 1000 := by
  have hhigh : m + 1 ≤ 2 ^ (m.log2 + 1) := Nat.lt_log2_self
  constructor
  · have hbelow : (2 : ℚ) ^ (-1000 : ℤ) < 2 ^ ((m.log2 + 1 : ℕ) + e : ℤ) := by
      rw [zpow_add₀ two_ne_zero, zpow_natCast]
      refine lt_of_le_of_lt h.low ?_
      have : t < 2 ^ (m.log2 + 1) := lt_of_lt_of_le hlt (by exact_mod_cast hhigh)
      gcongr
    have := (zpow_lt_zpow_iff_right₀ one_lt_two).1 hbelow
    omega
  · have habove : (2 : ℚ) ^ (m.log2 + e : ℤ) < 2 ^ (1000 : ℤ) := by
      rw [zpow_add₀ two_ne_zero, zpow_natCast]
      refine lt_of_le_of_lt ?_ h.high
      have : 2 ^ m.log2 ≤ t := (cast_log2_bounds hm.ne').1.trans hle
      gcongr
    exact (zpow_lt_zpow_iff_right₀ one_lt_two).1 habove

/-- `x` is the `Float` nearest to a positive number that is not too small, and the one with the even
mantissa of two. -/
def Rounds (v : ℚ) (x : Float) : Prop :=
  ∃ (e : ℤ) (m : ℕ) (b : Binary), 2 ^ 52 ≤ v / 2 ^ e ∧ v / 2 ^ e < 2 ^ 53 ∧
    RoundsEven (v / 2 ^ e) m ∧ ofFloat? x = some b ∧ b.value = m * 2 ^ e

/-- A mantissa with more than 53 bits is shifted until it has just as many. -/
theorem shiftToTargetExponent_eq {m k : ℕ} {e : ℤ} (acc : Accuracy) (hm : m.log2 = 52 + k)
    (hlow : -1074 ≤ e + k) :
    shiftToTargetExponent Format.binary64 m e acc =
      (ExtendedMantissa.ofMantissaAndAccuracy m acc >>> k, e + k) := by
  have htarget : Format.binary64.targetExponent (totalExponent m e) = e + k := by
    rw [Format.targetExponent, totalExponent, hm]
    change max ((52 + k : ℕ) + 1 + e - 53 : ℤ) (-1074) = e + k
    omega
  rw [shiftToTargetExponent, htarget, shiftToExponent]
  simp

theorem mantissa_ofMantissaAndAccuracy (m : ℕ) (acc : Accuracy) :
    (ExtendedMantissa.ofMantissaAndAccuracy m acc).mantissa = m := by
  unfold ExtendedMantissa.ofMantissaAndAccuracy
  split <;> rfl

/-- Rounding up to the next power of two takes one more shift, which loses nothing. -/
theorem exists_shift_rounded {r : ℕ} {e : ℤ} (hlow : 2 ^ 52 ≤ r) (hhigh : r ≤ 2 ^ 53)
    (he : -1074 ≤ e) :
    ∃ em f, shiftToTargetExponent Format.binary64 r e .exact = (em, f) ∧
      2 ^ 52 ≤ em.mantissa ∧ em.mantissa < 2 ^ 53 ∧ e ≤ f ∧ f ≤ e + 1 ∧
        (em.mantissa * 2 ^ f : ℚ) = r * 2 ^ e := by
  rcases hhigh.lt_or_eq with hlt | rfl
  · rw [shiftToTargetExponent_eq (k := 0) _ (log2_eq_of_bounds hlow hlt) (by omega)]
    exact ⟨_, _, rfl, hlow, hlt, by simp, by simp, by rw [Nat.cast_zero, add_zero]; rfl⟩
  · rw [shiftToTargetExponent_eq (k := 1) _ (log2_eq_of_bounds (by norm_num) (by norm_num))
      (by omega)]
    have hmantissa : (ExtendedMantissa.ofMantissaAndAccuracy (2 ^ 53) .exact >>> 1).mantissa =
        2 ^ 52 := rfl
    refine ⟨_, _, rfl, hmantissa.ge, ?_, by simp, by simp, ?_⟩
    · rw [hmantissa]
      norm_num
    · rw [hmantissa, Nat.cast_one, zpow_add_one₀ two_ne_zero]
      push_cast
      ring

/-- A `Float` with a mantissa that was shifted and rounded. -/
theorem rounds_roundWithAccuracy {m : ℕ} {e : ℤ} {acc : Accuracy} {t : ℚ} (hm : 2 ^ 52 ≤ m)
    (ht : Represents (.ofMantissaAndAccuracy m acc) t) (hmoderate : IsModerate (t * 2 ^ e)) :
    Rounds (t * 2 ^ e) ⟨.pack (roundWithAccuracy Format.binary64 .positive m e acc)⟩ := by
  obtain ⟨k, hk⟩ : ∃ k, m.log2 = 52 + k :=
    Nat.exists_eq_add_of_le ((Nat.le_log2 (by omega)).2 hm)
  obtain ⟨hmlow, hmhigh⟩ := (Nat.log2_eq_iff (by omega)).1 hk
  have hscale : t * 2 ^ e / 2 ^ (e + k) = t / 2 ^ k := by
    rw [zpow_add₀ two_ne_zero, zpow_natCast, mul_comm t, mul_div_mul_left]
    positivity
  have hle := ht.le
  have hlt := ht.lt
  rw [mantissa_ofMantissaAndAccuracy] at hle hlt
  obtain ⟨hlow, hhigh⟩ := hmoderate.log2_bounds (by omega) hle hlt
  have hleading : 2 ^ 52 ≤ t / 2 ^ k := by
    rw [le_div_iff₀ (by positivity), ← pow_add]
    exact le_trans (by exact_mod_cast hmlow) hle
  have htrailing : t / 2 ^ k < 2 ^ 53 := by
    rw [div_lt_iff₀ (by positivity), ← pow_add]
    refine lt_of_lt_of_le hlt ?_
    have : m + 1 ≤ 2 ^ (53 + k) := by
      rw [show 53 + k = 52 + k + 1 by omega]
      exact hmhigh
    exact_mod_cast this
  have hrounds := (ht.shiftRight k).roundsEven
  generalize hr : (ExtendedMantissa.ofMantissaAndAccuracy m acc >>> k).roundedMantissa = r
    at hrounds
  have hrlow : 2 ^ 52 ≤ r := hrounds.le_of_le (by exact_mod_cast hleading)
  have hrhigh : r ≤ 2 ^ 53 := hrounds.le_of_ge (by exact_mod_cast htrailing.le)
  obtain ⟨em, f, hshift, hlead, htrail, hf, hf', hvalue⟩ :=
    exists_shift_rounded hrlow hrhigh (by omega : -1074 ≤ e + k)
  have hpos : ¬em.mantissa = 0 := by omega
  refine ⟨e + k, r, ⟨false, em.mantissa, f⟩, ?_⟩
  rw [hscale, roundWithAccuracy, shiftToTargetExponent_eq acc hk (by omega)]
  dsimp only
  rw [hr, hshift]
  dsimp only
  rw [dif_neg hpos]
  exact ⟨hleading, htrailing, hrounds,
    ofFloat?_pack _ hlead htrail (by omega) (by omega), by simp [value, hvalue]⟩

/-- An exact number in binary, rounded. -/
theorem rounds_round {m : ℕ} {e : ℤ} (hm : 0 < m) (hmoderate : IsModerate (m * 2 ^ e)) :
    Rounds (m * 2 ^ e) ⟨.pack (UnpackedFloat.round Format.binary64 .positive m e)⟩ := by
  obtain ⟨hlow, hhigh⟩ := hmoderate.log2_bounds hm le_rfl (lt_add_one _)
  have htarget : Format.binary64.targetExponent (totalExponent m e) = m.log2 + e - 52 := by
    rw [Format.targetExponent, totalExponent]
    change max (m.log2 + 1 + e - 53 : ℤ) (-1074) = _
    omega
  rw [UnpackedFloat.round, htarget, decreaseExponent]
  dsimp only
  generalize hk : (e - (m.log2 + e - 52)).toNat = k
  have hvalue : ((m <<< k : ℕ) * 2 ^ (e - k) : ℚ) = m * 2 ^ e := by
    rw [Nat.shiftLeft_eq, zpow_sub₀ two_ne_zero, zpow_natCast]
    push_cast
    field_simp
  have hlead : 2 ^ 52 ≤ m <<< k := by
    rw [Nat.shiftLeft_eq]
    calc 2 ^ 52 ≤ 2 ^ (m.log2 + k) := Nat.pow_le_pow_right (by norm_num) (by omega)
      _ = 2 ^ m.log2 * 2 ^ k := pow_add ..
      _ ≤ m * 2 ^ k := Nat.mul_le_mul_right _ (Nat.log2_self_le hm.ne')
  rw [← hvalue]
  refine rounds_roundWithAccuracy hlead ?_ (by rwa [hvalue])
  rfl

/-! ## What rounding loses -/

variable {v : ℚ} {x : Float}

theorem Rounds.pos (h : Rounds v x) : 0 < v := by
  obtain ⟨e, m, b, hlead, -⟩ := h
  have : 0 < v / 2 ^ e := lt_of_lt_of_le (by positivity) hlead
  exact (div_pos_iff_of_pos_right (by positivity)).1 this

/-- A rounded number is off by one part in `2 ^ 53` at most. -/
theorem Rounds.close (h : Rounds v x) :
    ∃ b, ofFloat? x = some b ∧ |b.value - v| ≤ v / 2 ^ 53 := by
  obtain ⟨e, m, b, hlead, -, hm, hb, hvalue⟩ := h
  have hpos : (0 : ℚ) < 2 ^ e := by positivity
  have hlead' : 2 ^ 52 * 2 ^ e ≤ v := (le_div_iff₀ hpos).1 hlead
  refine ⟨b, hb, ?_⟩
  have hdiff : b.value - v = -((v / 2 ^ e - m) * 2 ^ e) := by
    rw [hvalue, sub_mul, div_mul_cancel₀ _ hpos.ne']
    ring
  rw [hdiff, abs_neg, abs_mul, abs_of_pos hpos]
  calc |v / 2 ^ e - m| * 2 ^ e ≤ 1 / 2 * 2 ^ e := by gcongr; exact hm.close
    _ = 2 ^ 52 * 2 ^ e / 2 ^ 53 := by ring
    _ ≤ v / 2 ^ 53 := by gcongr

/-- A number with a mantissa of 53 bits is not changed. -/
theorem Rounds.exact {k : ℕ} {f : ℤ} (h : Rounds (k * 2 ^ f) x) (hk : k < 2 ^ 53) :
    ∃ b, ofFloat? x = some b ∧ b.value = k * 2 ^ f := by
  obtain ⟨e, m, b, hlead, -, hm, hb, hvalue⟩ := h
  refine ⟨b, hb, ?_⟩
  have hscale : (k * 2 ^ f / 2 ^ e : ℚ) = k * 2 ^ (f - e) := by
    rw [zpow_sub₀ two_ne_zero, mul_div_assoc]
  have hle : e ≤ f := by
    have hk' : (k : ℚ) < 2 ^ 53 := by exact_mod_cast hk
    have hstep : (2 : ℚ) ^ (52 : ℤ) < 2 ^ (53 + (f - e) : ℤ) := by
      rw [zpow_add₀ two_ne_zero]
      calc (2 : ℚ) ^ (52 : ℤ) ≤ k * 2 ^ (f - e) := by rw [← hscale]; exact_mod_cast hlead
        _ < 2 ^ (53 : ℤ) * 2 ^ (f - e) := by gcongr; exact_mod_cast hk'
    have := (zpow_lt_zpow_iff_right₀ one_lt_two).1 hstep
    omega
  obtain ⟨j, hj⟩ := Int.eq_ofNat_of_zero_le (by omega : 0 ≤ f - e)
  have hwhole : (k * 2 ^ f / 2 ^ e : ℚ) = (k * 2 ^ j : ℕ) := by
    rw [hscale, hj, zpow_natCast]
    push_cast
    rfl
  rw [hwhole] at hm
  rw [hvalue, hm.unique (roundsEven_natCast _), ← hwhole, div_mul_cancel₀]
  positivity

/-- There is one `Float` that a number is rounded to. -/
theorem Rounds.unique {y : Float} (hx : Rounds v x) (hy : Rounds v y) : x = y := by
  have hpos := hx.pos
  have hexponent : ∀ {e f : ℤ}, v / 2 ^ e < 2 ^ 53 → 2 ^ 52 ≤ v / 2 ^ f → ¬e < f := by
    intro e f he hf hlt
    rw [div_lt_iff₀ (by positivity)] at he
    rw [le_div_iff₀ (by positivity)] at hf
    have hstep : (2 : ℚ) ^ e * 2 ≤ 2 ^ f := by
      rw [← zpow_add_one₀ two_ne_zero]
      exact zpow_le_zpow_right₀ one_le_two hlt
    linarith
  obtain ⟨e, m, a, hlead, htrail, hm, ha, havalue⟩ := hx
  obtain ⟨f, n, b, hlead', htrail', hn, hb, hbvalue⟩ := hy
  obtain rfl : e = f :=
    le_antisymm (not_lt.1 (hexponent htrail' hlead)) (not_lt.1 (hexponent htrail hlead'))
  obtain rfl := hm.unique hn
  have hmpos : 0 < m := (Nat.two_pow_pos 52).trans_le (hm.le_of_le (by exact_mod_cast hlead))
  exact eq_of_value_eq ha hb (havalue.trans hbvalue.symm) (by rw [havalue]; positivity)

end Binary

end Bookfinder
