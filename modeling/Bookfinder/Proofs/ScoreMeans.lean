import Bookfinder.Proofs.LiveRatings
import Bookfinder.Proofs.RunningMeans
import Bookfinder.Proofs.ShownDecimals

/-!
# The exact mean of ratings

A submitted rating is kept with the mean of its five scores, which is a fifth of their total
(`Rating.IsScored`). `exactMean` is the mean of these fifths, in whatever order they come. What is
computed in its place is a real number that drifts away from it with the number of ratings
(`exists_mean_close`), and that is its rounding if all averages are whole numbers
(`exists_mean_of_isWhole`).
-/

namespace Bookfinder

open Binary

namespace Rating

/-- The score that a payload stands for. -/
def scoreOf : Payload → ℕ
  | .int i => i.toNat
  | _ => 0

/-- The total of the scores. -/
def scoreTotal (r : Rating) : ℕ := (r.scores.toList.map scoreOf).sum

/-- The mean of the five scores. -/
def exactAverage (r : Rating) : ℚ := r.scoreTotal / 5

/-- The average that is kept for a total of five scores: twice the total, in tenths. -/
def averageOfTotal (total : ℕ) : Float := Decimal.toFloat ⟨false, 2 * total, -1⟩

/-- A rating with five scores from one to five and the average of these. -/
structure IsScored (r : Rating) : Prop where
  score : ∀ c, ∃ n : ℕ, r.scores.get c = .int n ∧ 1 ≤ n ∧ n ≤ 5
  average : r.average = .real (averageOfTotal r.scoreTotal)

variable {r : Rating}

theorem scoreTotal_eq {n : Criterion → ℕ} (h : ∀ c, r.scores.get c = .int (n c)) :
    r.scoreTotal = (Criterion.all.map n).sum := by
  simp [scoreTotal, Scores.toList, h, Function.comp_def, scoreOf]

theorem IsScored.total_bounds (h : r.IsScored) : 5 ≤ r.scoreTotal ∧ r.scoreTotal ≤ 25 := by
  choose n hn hlow hhigh using h.score
  rw [scoreTotal_eq hn]
  constructor
  · have := List.card_nsmul_le_sum (Criterion.all.map n) 1 (by simp [hlow])
    simpa [Criterion.all] using this
  · have := List.sum_le_card_nsmul (Criterion.all.map n) 5 (by simp [hhigh])
    simpa [Criterion.all] using this

/-- A submission without a flaw is kept with the average of its scores. -/
theorem isScored_stamped (h : r.flaw? = none) {average : Float}
    (haverage : Draft.averageOf r.scores = .ok average) (time : Timestamp) :
    (r.stamped average time).IsScored := by
  have hscore : ∀ c, ∃ n : ℕ, r.scores.get c = .int n ∧ 1 ≤ n ∧ n ≤ 5 := by
    intro c
    obtain ⟨i, hi, hlow, hhigh⟩ := score_of_flawless h c
    obtain ⟨n, rfl⟩ := Int.eq_ofNat_of_zero_le (by omega : 0 ≤ i)
    exact ⟨n, hi, by omega, by omega⟩
  have hscores : (r.stamped average time).scores = r.scores := by simp [stamped, tidy]
  refine ⟨by rwa [hscores], ?_⟩
  choose n hn hbounds using hscore
  obtain ⟨is, his, hmean⟩ := averageOf_of_flawless h
  have hlist : r.scores.toList = (Criterion.all.map fun c => (n c : ℤ)).map .int := by
    simp [Scores.toList, hn]
  have hsum : is.sum.toNat = r.scoreTotal := by
    rw [hlist] at his
    rw [← List.map_injective_iff.2 (fun _ _ h => Payload.int.inj h) his, scoreTotal_eq hn]
    simp [Criterion.all]
    omega
  have htotal : (r.stamped average time).scoreTotal = r.scoreTotal := by
    rw [scoreTotal, hscores, scoreTotal]
  rw [hmean, hsum] at haverage
  rw [htotal, averageOfTotal, Except.ok.inj haverage, stamped]

/-- The average that is kept is a tenth of twice the total, rounded. -/
theorem rounds_averageOfTotal {total : ℕ} (hlow : 5 ≤ total) (hhigh : total ≤ 25) :
    Rounds (total / 5) (averageOfTotal total) := by
  have hlow' : (5 : ℚ) ≤ total := by exact_mod_cast hlow
  have hhigh' : (total : ℚ) ≤ 25 := by exact_mod_cast hhigh
  have hscale : ((2 * total : ℕ) : ℚ) * 10 ^ (-1 : ℤ) = total / 5 := by
    push_cast
    norm_num
    ring
  have hvalue : ((2 * total * tenTo (-1 : ℤ).toNat : ℕ) : ℚ) / (tenTo (1 : ℤ).toNat : ℕ) =
      total / 5 := by
    simp [tenTo]
    ring
  have hfloat : averageOfTotal total =
      nearest false (2 * total * tenTo (-1 : ℤ).toNat) (tenTo (- -1 : ℤ).toNat) := by
    refine Decimal.toFloat_eq ?_ ?_
    · rw [hscale]
      linarith
    · rw [hscale]
      linarith
  rw [hfloat, neg_neg, ← hvalue]
  refine rounds_nearest (tenTo_pos _) (isModerate_of_bounds ?_ ?_)
  · rw [hvalue]
    linarith
  · rw [hvalue]
    linarith

theorem IsScored.bounds (h : r.IsScored) : 1 ≤ r.exactAverage ∧ r.exactAverage ≤ 5 := by
  have hlow : (5 : ℚ) ≤ r.scoreTotal := by exact_mod_cast h.total_bounds.1
  have hhigh : (r.scoreTotal : ℚ) ≤ 25 := by exact_mod_cast h.total_bounds.2
  rw [exactAverage]
  constructor <;> linarith

theorem IsScored.rounds (h : r.IsScored) : Rounds r.exactAverage (averageOfTotal r.scoreTotal) :=
  rounds_averageOfTotal h.total_bounds.1 h.total_bounds.2

theorem IsScored.near (h : r.IsScored) : Near 1 r.exactAverage (averageOfTotal r.scoreTotal) :=
  .of_rounds (k := 0) h.rounds (by simp) (by simp)

/-- Whether the average is a whole number. -/
def IsWhole (r : Rating) : Prop := 5 ∣ r.scoreTotal

theorem IsWhole.exactAverage_eq (h : r.IsWhole) : r.exactAverage = (r.scoreTotal / 5 : ℕ) := by
  obtain ⟨n, hn⟩ := h
  rw [exactAverage, hn, Nat.mul_div_cancel_left n (by norm_num)]
  push_cast
  ring

/-- A whole average is kept as it is. -/
theorem IsScored.exact (h : r.IsScored) (hwhole : r.IsWhole) :
    ∃ b, ofFloat? (averageOfTotal r.scoreTotal) = some b ∧ b.value = (r.scoreTotal / 5 : ℕ) := by
  have hrounds := h.rounds
  rw [hwhole.exactAverage_eq, ← mul_one ((r.scoreTotal / 5 : ℕ) : ℚ),
    ← zpow_zero (2 : ℚ)] at hrounds
  have := h.total_bounds
  obtain ⟨b, hb, hvalue⟩ := hrounds.exact (by omega)
  exact ⟨b, hb, by simpa using hvalue⟩

end Rating

/-- The mean of the exact averages of a list of ratings. -/
def exactMean (ratings : List Rating) : ℚ :=
  (ratings.map Rating.exactAverage).sum / ratings.length

variable {ratings : List Rating}

theorem exactMean_eq (ratings : List Rating) :
    exactMean ratings =
      ((ratings.map Rating.scoreTotal).sum : ℕ) / (5 * (ratings.length : ℕ) : ℚ) := by
  have hsum : (ratings.map Rating.exactAverage).sum =
      ((ratings.map Rating.scoreTotal).sum : ℕ) / (5 : ℚ) := by
    induction ratings with
    | nil => simp
    | cons r ratings ih =>
      rw [List.map_cons, List.sum_cons, ih, Rating.exactAverage, List.map_cons, List.sum_cons]
      push_cast
      ring
  rw [exactMean, hsum, div_div]

theorem exactMean_of_perm {others : List Rating} (h : ratings.Perm others) :
    exactMean ratings = exactMean others := by
  rw [exactMean, exactMean, (h.map Rating.exactAverage).sum_eq, h.length_eq]

/-- The averages of submitted ratings are those of their totals. -/
theorem map_average (h : ∀ r ∈ ratings, r.IsScored) :
    ratings.map Rating.average =
      ratings.map fun r => Payload.real (Rating.averageOfTotal r.scoreTotal) :=
  List.map_congr_left fun r hr => (h r hr).average

theorem filter_isRated (h : ∀ r ∈ ratings, r.IsScored) : ratings.filter Rating.isRated = ratings :=
  List.filter_eq_self.2 fun r hr => by rw [Rating.isRated, (h r hr).average]; rfl

theorem exactMean_bounds (h : ∀ r ∈ ratings, r.IsScored) (hne : ratings ≠ []) :
    1 ≤ exactMean ratings ∧ exactMean ratings ≤ 5 :=
  Payload.mean_bounds (fun r hr => (h r hr).bounds) hne

/-- The computed mean of ratings has one rounding for each average, one for each sum but the first,
and one for the quotient. -/
theorem exists_mean_of_isScored (h : ∀ r ∈ ratings, r.IsScored) (hne : ratings ≠ [])
    (hlength : ratings.length ≤ 2 ^ 49) :
    ∃ q, Payload.mean (ratings.map Rating.average) = .ok q ∧
      Near (ratings.length + 1) (exactMean ratings) q := by
  rw [map_average h]
  exact Payload.exists_mean
    (fun r hr => ⟨(h r hr).bounds.1, (h r hr).bounds.2, (h r hr).near⟩) hne hlength

/-- The computed mean of whole averages is rounded once. -/
theorem exists_mean_of_isWhole (h : ∀ r ∈ ratings, r.IsScored) (hwhole : ∀ r ∈ ratings, r.IsWhole)
    (hne : ratings ≠ []) (hlength : ratings.length ≤ 2 ^ 49) :
    ∃ q, Payload.mean (ratings.map Rating.average) = .ok q ∧ Rounds (exactMean ratings) q := by
  have hall : ∀ r ∈ ratings, 1 ≤ r.scoreTotal / 5 ∧ r.scoreTotal / 5 ≤ 5 ∧
      ∃ b, ofFloat? (Rating.averageOfTotal r.scoreTotal) = some b ∧
        b.value = (r.scoreTotal / 5 : ℕ) := by
    intro r hr
    have := (h r hr).total_bounds
    exact ⟨by omega, by omega, (h r hr).exact (hwhole r hr)⟩
  obtain ⟨q, hq, hrounds⟩ := Payload.exists_mean_of_whole hall hne hlength
  refine ⟨q, by rw [map_average h, hq], ?_⟩
  rw [exactMean, List.map_congr_left fun r hr => (hwhole r hr).exactAverage_eq]
  exact hrounds

/-- How far the figures of so many ratings may be from the exact ones. -/
def drift (count : ℕ) : ℚ := count / 2 ^ 49

/-- A fraction that is not zero is as large as one over its denominator. -/
theorem one_div_le_abs_div {z : ℤ} (hz : z ≠ 0) {d : ℚ} (hd : 0 < d) : 1 / d ≤ |z / d| := by
  have hone : (1 : ℚ) ≤ |(z : ℚ)| := by
    rw [← Int.cast_abs]
    exact_mod_cast Int.one_le_abs hz
  rw [abs_div, abs_of_pos hd]
  gcongr

/-- The computed mean of ratings drifts with their number. -/
theorem exists_mean_close (h : ∀ r ∈ ratings, r.IsScored) (hne : ratings ≠ [])
    (hlength : ratings.length ≤ 2 ^ 49) :
    ∃ q b, Payload.mean (ratings.map Rating.average) = .ok q ∧ ofFloat? q = some b ∧
      |b.value - exactMean ratings| ≤ drift ratings.length - 1 / 2 ^ 51 := by
  obtain ⟨hlow, hhigh⟩ := exactMean_bounds h hne
  obtain ⟨q, hq, hnear⟩ := exists_mean_of_isScored h hne hlength
  obtain ⟨b, hb, hclose⟩ := hnear.close (by linarith) (by omega)
  refine ⟨q, b, hq, hb, hclose.trans ?_⟩
  have hone : (1 : ℚ) ≤ ratings.length := by exact_mod_cast List.length_pos_iff.2 hne
  rw [drift]
  push_cast
  calc (exactMean ratings * (8 / 7 * (ratings.length + 1) / 2 ^ 53) : ℚ)
      ≤ 5 * (8 / 7 * (ratings.length + 1) / 2 ^ 53) := by gcongr
    _ ≤ ratings.length / 2 ^ 49 - 1 / 2 ^ 51 := by linarith

/-! ## The ratings of a ledger -/

namespace Ledger

/-- The ratings of a book. -/
def ratingsOf (l : Ledger) (isbn : String) : List Rating := l.ratings.filter (·.isbn == isbn)

theorem Change.Keeps.isScored {c : Change} {r : Rating} (h : c.Keeps r) : r.IsScored := by
  cases c with
  | submit s time =>
    obtain ⟨hs, average, haverage, rfl⟩ := h
    exact Rating.isScored_stamped hs haverage time
  | delete username isbn => exact h.elim

/-- What a ledger holds was submitted. -/
theorem isScored_of_mem_ratingsOf {changes : List Change} {isbn : String} :
    ∀ r ∈ (after changes).ratingsOf isbn, r.IsScored := by
  intro r hr
  obtain ⟨c, -, hc⟩ := ((answers_after changes).mem_all r).1 (List.mem_filter.1 hr).1
  exact hc.isScored

/-- Ratings of one book by as many readers, one after the other. -/
def submissions (isbn : String) (scores : List (Scores Payload)) : List Change :=
  scores.zipIdx.map fun s =>
    .submit ⟨Number.writtenInt s.2, isbn, s.1, none, .null, none⟩ ⟨s.2, none⟩

end Ledger

end Bookfinder
