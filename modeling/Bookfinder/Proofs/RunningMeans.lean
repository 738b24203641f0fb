import Bookfinder.Payload.Conversion
import Bookfinder.Proofs.BinaryArithmetic

/-!
# How far a running mean drifts

Real numbers are added one after the other, each sum is rounded, and so is the quotient at the end.
`Near k v x` says that `x` is what `k` roundings may have left of `v`, each of them off by one part
in `2 ^ 53`. Sums and quotients add one rounding (`Near.add`, `Near.div`), so that a mean of `n`
numbers that were rounded once has `n + 1` of them (`Payload.exists_mean`).
-/

namespace Bookfinder

namespace Binary

/-! ## After several roundings -/

/-- `x` is what `k` roundings may have left of a positive number `v`. -/
def Near (k : ℕ) (v : ℚ) (x : Float) : Prop :=
  ∃ b, ofFloat? x = some b ∧ v * (1 - 1 / 2 ^ 53) ^ k ≤ b.value ∧
    b.value ≤ v * (1 + 1 / 2 ^ 53) ^ k

variable {k j : ℕ} {v w : ℚ} {x y : Float}

theorem Near.mono (h : Near k v x) (hv : 0 ≤ v) (hk : k ≤ j) : Near j v x := by
  obtain ⟨b, hb, hlow, hhigh⟩ := h
  refine ⟨b, hb, le_trans ?_ hlow, le_trans hhigh ?_⟩
  · exact mul_le_mul_of_nonneg_left (pow_le_pow_of_le_one (by norm_num) (by norm_num) hk) hv
  · exact mul_le_mul_of_nonneg_left (pow_le_pow_right₀ (by norm_num) hk) hv

theorem Near.exists_pos (h : Near k v x) (hv : 0 < v) :
    ∃ b, ofFloat? x = some b ∧ 0 < b.value := by
  obtain ⟨b, hb, hlow, -⟩ := h
  have hfactor : (0 : ℚ) < 1 - 1 / 2 ^ 53 := by norm_num
  exact ⟨b, hb, lt_of_lt_of_le (by positivity) hlow⟩

/-- What so many roundings may do to a number is in proportion to how many they are. -/
theorem pow_bounds (hk : k ≤ 2 ^ 50) :
    1 - k / 2 ^ 53 ≤ (1 - 1 / 2 ^ 53 : ℚ) ^ k ∧
      (1 + 1 / 2 ^ 53 : ℚ) ^ k ≤ 1 + 8 / 7 * k / 2 ^ 53 := by
  have hk' : (k : ℚ) ≤ 2 ^ 50 := by exact_mod_cast hk
  have hlow : 1 - k / 2 ^ 53 ≤ (1 - 1 / 2 ^ 53 : ℚ) ^ k := by
    have := one_add_mul_le_pow (a := (-(1 / 2 ^ 53) : ℚ)) (by norm_num) k
    calc (1 - k / 2 ^ 53 : ℚ) = 1 + k * -(1 / 2 ^ 53) := by ring
      _ ≤ (1 + -(1 / 2 ^ 53)) ^ k := this
      _ = (1 - 1 / 2 ^ 53) ^ k := by rw [sub_eq_add_neg]
  refine ⟨hlow, ?_⟩
  have hprod : (1 + 1 / 2 ^ 53 : ℚ) ^ k * (1 - 1 / 2 ^ 53) ^ k ≤ 1 := by
    rw [← mul_pow]
    exact pow_le_one₀ (by norm_num) (by norm_num)
  have hpos : (0 : ℚ) < 1 - k / 2 ^ 53 := by linarith
  have hpow : (0 : ℚ) ≤ (1 + 1 / 2 ^ 53) ^ k := by positivity
  have hupper : (1 + 1 / 2 ^ 53 : ℚ) ^ k * (1 - k / 2 ^ 53) ≤ 1 :=
    (mul_le_mul_of_nonneg_left hlow hpow).trans hprod
  calc (1 + 1 / 2 ^ 53 : ℚ) ^ k ≤ 1 / (1 - k / 2 ^ 53) := (le_div_iff₀ hpos).2 hupper
    _ ≤ 1 + 8 / 7 * k / 2 ^ 53 := by
      rw [div_le_iff₀ hpos]
      have hk0 : (0 : ℚ) ≤ k := by positivity
      nlinarith

theorem pow_bounds_two (hk : k ≤ 2 ^ 50) :
    1 / 2 ≤ (1 - 1 / 2 ^ 53 : ℚ) ^ k ∧ (1 + 1 / 2 ^ 53 : ℚ) ^ k ≤ 2 := by
  obtain ⟨hpow, hpow'⟩ := pow_bounds hk
  have hk' : (k : ℚ) ≤ 2 ^ 50 := by exact_mod_cast hk
  constructor <;> linarith

/-- How far `k` roundings take a number. -/
theorem Near.close (h : Near k v x) (hv : 0 ≤ v) (hk : k ≤ 2 ^ 50) :
    ∃ b, ofFloat? x = some b ∧ |b.value - v| ≤ v * (8 / 7 * k / 2 ^ 53) := by
  obtain ⟨b, hb, hlow, hhigh⟩ := h
  obtain ⟨hpow, hpow'⟩ := pow_bounds hk
  have hk0 : (0 : ℚ) ≤ k / 2 ^ 53 := by positivity
  refine ⟨b, hb, abs_le.2 ⟨?_, ?_⟩⟩
  · have := mul_le_mul_of_nonneg_left hpow hv
    have hkv : 0 ≤ v * (k / 2 ^ 53) := by positivity
    calc -(v * (8 / 7 * k / 2 ^ 53)) ≤ -(v * (k / 2 ^ 53)) := by linarith
      _ = v * (1 - k / 2 ^ 53) - v := by ring
      _ ≤ b.value - v := by linarith
  · have := mul_le_mul_of_nonneg_left hpow' hv
    calc b.value - v ≤ v * (1 + 8 / 7 * k / 2 ^ 53) - v := by linarith
      _ = v * (8 / 7 * k / 2 ^ 53) := by ring

/-- The last rounding. -/
theorem Near.of_rounds {k : ℕ} {v w : ℚ} {x : Float} (h : Rounds w x)
    (hlow : v * (1 - 1 / 2 ^ 53) ^ k ≤ w) (hhigh : w ≤ v * (1 + 1 / 2 ^ 53) ^ k) :
    Near (k + 1) v x := by
  obtain ⟨b, hb, hclose⟩ := h.close
  obtain ⟨hclose, hclose'⟩ := abs_le.1 hclose
  refine ⟨b, hb, ?_, ?_⟩
  · calc v * (1 - 1 / 2 ^ 53) ^ (k + 1) = v * (1 - 1 / 2 ^ 53) ^ k * (1 - 1 / 2 ^ 53) := by ring
      _ ≤ w * (1 - 1 / 2 ^ 53) := by gcongr
      _ = w - w / 2 ^ 53 := by ring
      _ ≤ b.value := by linarith
  · calc b.value ≤ w + w / 2 ^ 53 := by linarith
      _ = w * (1 + 1 / 2 ^ 53) := by ring
      _ ≤ v * (1 + 1 / 2 ^ 53) ^ k * (1 + 1 / 2 ^ 53) := by gcongr
      _ = v * (1 + 1 / 2 ^ 53) ^ (k + 1) := by ring

/-- A number of everyday size. -/
theorem isModerate_of_bounds (hlow : 1 / 4 ≤ v) (hhigh : v ≤ 2 ^ 100) : IsModerate v where
  low := by
    calc (2 : ℚ) ^ (-1000 : ℤ) ≤ 2 ^ (-2 : ℤ) := zpow_le_zpow_right₀ one_le_two (by norm_num)
      _ = 1 / 4 := by norm_num
      _ ≤ v := hlow
  high := by
    calc v ≤ 2 ^ (100 : ℤ) := by exact_mod_cast hhigh
      _ < 2 ^ (1000 : ℤ) := zpow_lt_zpow_right₀ one_lt_two (by norm_num)

/-- The rounding of a sum comes on top of those of its parts. -/
theorem Near.add (hx : Near k v x) (hy : Near k w y) (hk : k ≤ 2 ^ 50) (hv : 1 ≤ v) (hw : 1 ≤ w)
    (hsum : v + w ≤ 2 ^ 90) : Near (k + 1) (v + w) (x + y) := by
  obtain ⟨a, ha, halow, hahigh⟩ := hx
  obtain ⟨b, hb, hblow, hbhigh⟩ := hy
  obtain ⟨hhalf, hdouble⟩ := pow_bounds_two hk
  have hapos : 1 / 2 ≤ a.value := by nlinarith
  have hbpos : 1 / 2 ≤ b.value := by nlinarith
  refine .of_rounds (rounds_add ha hb (by linarith) (by linarith) ?_) ?_ ?_
  · refine isModerate_of_bounds (by linarith) ?_
    nlinarith
  · linarith
  · linarith

/-- The rounding of a quotient comes on top of those of the number that is divided. -/
theorem Near.div {b : Binary} (hx : Near k v x) (hy : ofFloat? y = some b) (hvalue : b.value = w)
    (hw : 0 < w) (hk : k ≤ 2 ^ 50) (hquot : 1 ≤ v / w) (hquot' : v / w ≤ 2 ^ 90) :
    Near (k + 1) (v / w) (x / y) := by
  subst hvalue
  obtain ⟨a, ha, halow, hahigh⟩ := hx
  obtain ⟨hhalf, hdouble⟩ := pow_bounds_two hk
  have hlow : v / b.value * (1 - 1 / 2 ^ 53) ^ k ≤ a.value / b.value := by
    rw [div_mul_eq_mul_div]
    gcongr
  have hhigh : a.value / b.value ≤ v / b.value * (1 + 1 / 2 ^ 53) ^ k := by
    rw [div_mul_eq_mul_div]
    gcongr
  have hhalf' : 1 / 2 ≤ a.value / b.value := by nlinarith
  have hapos : 0 < a.value := (div_pos_iff_of_pos_right hw).1 (by linarith)
  refine .of_rounds (rounds_div ha hy hapos hw (isModerate_of_bounds (by linarith) ?_)) hlow hhigh
  nlinarith

/-! ## Whole numbers -/

/-- A whole number that is not too large is a `Float`. -/
theorem exists_ofInt? {n : ℕ} (hpos : 0 < n) (hn : n < 2 ^ 53) :
    ∃ x b, ofInt? n = some x ∧ ofFloat? x = some b ∧ b.value = n := by
  have hn' : (n : ℚ) < 2 ^ 53 := by exact_mod_cast hn
  have hone : (1 : ℚ) ≤ n := by exact_mod_cast hpos
  have hmoderate : IsModerate (n / (1 : ℕ)) := by
    rw [Nat.cast_one, div_one]
    exact isModerate_of_bounds (by linarith) (by linarith [show (2 : ℚ) ^ 53 ≤ 2 ^ 100 by norm_num])
  have hrounds := rounds_nearest one_pos hmoderate
  rw [show (n / (1 : ℕ) : ℚ) = n * 2 ^ (0 : ℤ) by simp] at hrounds
  obtain ⟨b, hb, hvalue⟩ := hrounds.exact hn
  refine ⟨_, b, ?_, hb, by simpa using hvalue⟩
  exact if_neg (not_isInf_of_ofFloat? hb)

theorem zero_add_of_value_pos {b : Binary} (hx : ofFloat? x = some b) (hpos : 0 < b.value) :
    0 + x = x := by
  obtain ⟨hm, hu, -⟩ := exists_unpack hx hpos
  have hzero : (0 : Float).toModel.unpack = .zero .positive := rfl
  have hadd : Float.Model.UnpackedFloat.add .binary64 (0 : Float).toModel.unpack x.toModel.unpack =
      x.toModel.unpack := by
    rw [hzero, hu]
    rfl
  calc 0 + x = ⟨.pack (Float.Model.UnpackedFloat.add .binary64 (0 : Float).toModel.unpack
        x.toModel.unpack)⟩ := rfl
    _ = Float.ofBits x.toBits := by rw [hadd]; rfl
    _ = x := Float.ofBits_toBits x

end Binary

/-! ## Sums and means -/

namespace Payload

open Binary

/-- The sum of real numbers, added from the first to the last. -/
theorem sum_reals (x : Float) (xs : List Float) :
    Payload.sum ((x :: xs).map .real) = .ok (.real (xs.foldl (· + ·) (0 + x))) := by
  have hfrom : ∀ start : Float,
      (xs.map Payload.real).foldlM (fun total p => do
        (Number.add total (← p.toNumber)).elim (.error .overflow) .ok) (.real start) =
      Except.ok (.real (xs.foldl (· + ·) start)) := by
    induction xs with
    | nil => intro start; rfl
    | cons y ys ih =>
      intro start
      rw [List.map_cons, List.foldlM_cons, List.foldl_cons]
      exact ih (start + y)
  have hfirst : Number.add (.int 0) (.real x) = some (.real (0 + x)) := rfl
  rw [Payload.sum, List.map_cons, List.foldlM_cons]
  change ((Number.add (.int 0) (.real x)).elim (Except.error Fault.overflow) .ok >>= _) = _
  rw [hfirst]
  exact hfrom (0 + x)

section Averages

variable {α : Type} {exact : α → ℚ} {average : α → Float} {as : List α}

/-- A running sum has one rounding for each of its terms. -/
theorem near_foldl (h : ∀ a ∈ as, 1 ≤ exact a ∧ exact a ≤ 5 ∧ Near 1 (exact a) (average a))
    {k : ℕ} {v : ℚ} {x : Float} (hx : Near k v x) (hk : 1 ≤ k) (hv : 1 ≤ v) (hv' : v ≤ 5 * k)
    (hlength : k + as.length ≤ 2 ^ 50) :
    Near (k + as.length) (v + (as.map exact).sum) ((as.map average).foldl (· + ·) x) := by
  induction as generalizing k v x with
  | nil => simpa using hx
  | cons a as ih =>
    obtain ⟨⟨ha, ha', hnear⟩, has⟩ := List.forall_mem_cons.1 h
    rw [List.length_cons] at hlength
    rw [List.map_cons, List.map_cons, List.sum_cons, List.foldl_cons, ← add_assoc,
      List.length_cons, show k + (as.length + 1) = k + 1 + as.length by omega]
    have hk' : (k : ℚ) ≤ 2 ^ 50 := by exact_mod_cast (by omega : k ≤ 2 ^ 50)
    have hsum : v + exact a ≤ 5 * (k + 1 : ℕ) := by
      push_cast
      linarith
    have hstep : Near (k + 1) (v + exact a) (x + average a) :=
      hx.add (hnear.mono (by linarith) hk) (by omega) hv ha
        (by linarith [show (5 * 2 ^ 50 + 5 : ℚ) ≤ 2 ^ 90 by norm_num])
    exact ih has hstep (by omega) (by linarith) hsum (by omega)

theorem sum_bounds (h : ∀ a ∈ as, 1 ≤ exact a ∧ exact a ≤ 5) :
    as.length ≤ (as.map exact).sum ∧ (as.map exact).sum ≤ 5 * as.length := by
  induction as with
  | nil => simp
  | cons a as ih =>
    obtain ⟨⟨ha, ha'⟩, has⟩ := List.forall_mem_cons.1 h
    obtain ⟨hlow, hhigh⟩ := ih has
    rw [List.map_cons, List.sum_cons, List.length_cons]
    push_cast
    constructor <;> linarith

theorem mean_bounds (h : ∀ a ∈ as, 1 ≤ exact a ∧ exact a ≤ 5) (hne : as ≠ []) :
    1 ≤ (as.map exact).sum / as.length ∧ (as.map exact).sum / as.length ≤ 5 := by
  have hpos : (0 : ℚ) < as.length := by exact_mod_cast List.length_pos_iff.2 hne
  obtain ⟨hlow, hhigh⟩ := sum_bounds h
  exact ⟨(one_le_div hpos).2 hlow, (div_le_iff₀ hpos).2 hhigh⟩

/-- The mean of numbers is their sum, divided by how many they are. -/
theorem mean_reals {a : α} {n : Float} {b : Binary} (hn : Binary.ofInt? (a :: as).length = some n)
    (hx : ofFloat? (average a) = some b) (hpos : 0 < b.value) :
    Payload.mean ((a :: as).map fun a => .real (average a)) =
      .ok ((as.map average).foldl (· + ·) (average a) / n) := by
  have hlist : ((a :: as).map fun a => Payload.real (average a)) =
      (average a :: as.map average).map .real := by simp
  rw [Payload.mean, hlist, sum_reals, zero_add_of_value_pos hx hpos, List.length_map,
    List.length_cons, List.length_map, ← List.length_cons]
  change ((Binary.ofInt? (a :: as).length).map _).elim (Except.error Fault.overflow) .ok = _
  rw [hn]
  rfl

/-- The mean of numbers from one to five has one rounding for each of them and one more. -/
theorem exists_mean (h : ∀ a ∈ as, 1 ≤ exact a ∧ exact a ≤ 5 ∧ Near 1 (exact a) (average a))
    (hne : as ≠ []) (hlength : as.length ≤ 2 ^ 49) :
    ∃ q, Payload.mean (as.map fun a => .real (average a)) = .ok q ∧
      Near (as.length + 1) ((as.map exact).sum / as.length) q := by
  obtain ⟨hlow, hhigh⟩ := mean_bounds (fun a ha => ⟨(h a ha).1, (h a ha).2.1⟩) hne
  have hpos : 0 < as.length := List.length_pos_iff.2 hne
  have hpos' : (0 : ℚ) < as.length := by exact_mod_cast hpos
  obtain ⟨n, b, hn, hb, hvalue⟩ := exists_ofInt? hpos (by omega)
  cases as with
  | nil => exact absurd rfl hne
  | cons a as =>
    obtain ⟨⟨ha, ha', hnear⟩, has⟩ := List.forall_mem_cons.1 h
    obtain ⟨c, hc, hfirst⟩ := hnear.exists_pos (by linarith)
    have hsum := near_foldl has hnear le_rfl ha (by push_cast; linarith)
      (by rw [List.length_cons] at hlength; omega)
    rw [Nat.add_comm, ← List.sum_cons, ← List.map_cons, ← List.length_cons] at hsum
    refine ⟨_, mean_reals hn hc hfirst, ?_⟩
    exact hsum.div hb hvalue hpos' (by omega) hlow (hhigh.trans (by norm_num))

/-! ### Means of whole numbers -/

variable {whole : α → ℕ}

/-- A running sum of whole numbers is exact. -/
theorem foldl_of_whole
    (h : ∀ a ∈ as, 1 ≤ whole a ∧ whole a ≤ 5 ∧
      ∃ b, ofFloat? (average a) = some b ∧ b.value = whole a)
    {k n : ℕ} {x : Float} (hx : ∃ b, ofFloat? x = some b ∧ b.value = n) (hn : 1 ≤ n)
    (hn' : n ≤ 5 * k) (hlength : k + as.length ≤ 2 ^ 50) :
    ∃ b, ofFloat? ((as.map average).foldl (· + ·) x) = some b ∧
      b.value = n + (as.map fun a => (whole a : ℚ)).sum := by
  induction as generalizing k n x with
  | nil => simpa using hx
  | cons a as ih =>
    obtain ⟨⟨ha, ha', c, hc, hcvalue⟩, has⟩ := List.forall_mem_cons.1 h
    obtain ⟨b, hb, hbvalue⟩ := hx
    rw [List.length_cons] at hlength
    rw [List.map_cons, List.map_cons, List.sum_cons, List.foldl_cons]
    have hsum : b.value + c.value = (n + whole a : ℕ) * 2 ^ (0 : ℤ) := by
      rw [hbvalue, hcvalue]
      push_cast
      simp
    have hmoderate : IsModerate (b.value + c.value) := by
      have hlow : (1 : ℚ) ≤ (n + whole a : ℕ) := by exact_mod_cast (by omega : 1 ≤ n + whole a)
      have hhigh : ((n + whole a : ℕ) : ℚ) ≤ 2 ^ 53 := by
        exact_mod_cast (by omega : n + whole a ≤ 2 ^ 53)
      rw [hsum, zpow_zero, mul_one]
      exact isModerate_of_bounds (by linarith)
        (hhigh.trans (pow_le_pow_right₀ one_le_two (by norm_num)))
    have hrounds := rounds_add hb hc (by rw [hbvalue]; exact_mod_cast hn)
      (by rw [hcvalue]; exact_mod_cast ha) hmoderate
    rw [hsum] at hrounds
    obtain ⟨d, hd, hdvalue⟩ := hrounds.exact (by omega)
    obtain ⟨e, he, hevalue⟩ := ih has (n := n + whole a) (k := k + 1)
      ⟨d, hd, by simpa using hdvalue⟩ (by omega) (by omega) (by omega)
    refine ⟨e, he, ?_⟩
    rw [hevalue]
    push_cast
    ring

/-- The mean of whole numbers is the exact mean, rounded. -/
theorem exists_mean_of_whole
    (h : ∀ a ∈ as, 1 ≤ whole a ∧ whole a ≤ 5 ∧
      ∃ b, ofFloat? (average a) = some b ∧ b.value = whole a)
    (hne : as ≠ []) (hlength : as.length ≤ 2 ^ 49) :
    ∃ q, Payload.mean (as.map fun a => .real (average a)) = .ok q ∧
      Rounds ((as.map fun a => (whole a : ℚ)).sum / as.length) q := by
  have hbounds : ∀ a ∈ as, (1 : ℚ) ≤ whole a ∧ (whole a : ℚ) ≤ 5 := fun a ha =>
    ⟨by exact_mod_cast (h a ha).1, by exact_mod_cast (h a ha).2.1⟩
  obtain ⟨hlow, hhigh⟩ := mean_bounds hbounds hne
  have hpos : 0 < as.length := List.length_pos_iff.2 hne
  have hpos' : (0 : ℚ) < as.length := by exact_mod_cast hpos
  obtain ⟨n, b, hn, hb, hvalue⟩ := exists_ofInt? hpos (by omega)
  cases as with
  | nil => exact absurd rfl hne
  | cons a as =>
    obtain ⟨⟨ha, ha', c, hc, hcvalue⟩, has⟩ := List.forall_mem_cons.1 h
    have hfirst : 0 < c.value := by
      rw [hcvalue]
      exact_mod_cast ha
    obtain ⟨d, hd, hdvalue⟩ := foldl_of_whole has (k := 1) ⟨c, hc, hcvalue⟩ ha (by omega)
      (by rw [List.length_cons] at hlength; omega)
    have hquot : d.value / b.value =
        ((a :: as).map fun a => (whole a : ℚ)).sum / (a :: as).length := by
      rw [hdvalue, hvalue, List.map_cons, List.sum_cons]
    refine ⟨_, mean_reals hn hc hfirst, ?_⟩
    rw [← hquot]
    refine rounds_div hd hb ?_ (by rwa [hvalue]) ?_
    · rw [hdvalue]
      have : 0 ≤ (as.map fun a => (whole a : ℚ)).sum := List.sum_nonneg (by simp)
      have : (1 : ℚ) ≤ whole a := by exact_mod_cast ha
      linarith
    · rw [hquot]
      exact isModerate_of_bounds (by linarith) (hhigh.trans (by norm_num))

end Averages

end Payload

end Bookfinder
