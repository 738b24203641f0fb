import Bookfinder.Proofs.BookFigures
import Bookfinder.Proofs.ScoreMeans

/-!
# The mean that is shown of a book

The mean of a book is shown in hundredths. It should be the exact mean, rounded half up
(`hundredths`), and what is rounded in its place is a decimal that may be away from it by the drift
of so many ratings. The two have the same hundredths unless a tie, half-way between two hundredths,
is as near as that (`hundredths_eq_of_close`). A mean of up to a million ratings is either a tie or
farther away from each of them (`drift_lt_of_not_isTie`), so that only at a tie the order in which
the ratings came can be seen (`Ledger.shows_mean`), and there it can (`Ledger.shows_mean_at_tie`).
-/

namespace Bookfinder

open Binary

/-- Half-way between two hundredths. -/
def IsTie (m : ℚ) : Prop := ∃ k : ℕ, m = (2 * k + 1) / 200

/-- A number in hundredths, a half rounded up. -/
def hundredths (m : ℚ) : ℕ := ⌊100 * m + 1 / 2⌋₊

/-- So many hundredths as a real number. -/
def ofHundredths (n : ℕ) : Float := Decimal.toFloat ⟨false, n, -2⟩

/-! ## Decimals near a number -/

section Near

variable {m d δ : ℚ}

/-- A decimal has the hundredths of a number if no tie is as near to the number. -/
theorem hundredths_eq_of_close (hm : 0 ≤ m) (hd : 0 ≤ d) (hclose : |d - m| ≤ δ)
    (hties : ∀ t, IsTie t → δ < |m - t|) : hundredths d = hundredths m := by
  obtain ⟨hclose, hclose'⟩ := abs_le.1 hclose
  set k := hundredths m with hk
  have hle : (k : ℚ) ≤ 100 * m + 1 / 2 := Nat.floor_le (by positivity)
  have hlt : 100 * m + 1 / 2 < k + 1 := Nat.lt_floor_add_one _
  rw [hundredths, Nat.floor_eq_iff (by positivity)]
  constructor
  · rcases Nat.eq_zero_or_pos k with hzero | hpos
    · rw [hzero, Nat.cast_zero]
      positivity
    · have htie := hties ((2 * k - 1) / 200) ⟨k - 1, by push_cast [hpos]; ring⟩
      rw [abs_of_nonneg (by linarith)] at htie
      linarith
  · have htie := hties ((2 * k + 1) / 200) ⟨k, rfl⟩
    rw [abs_of_nonpos (by linarith)] at htie
    linarith

/-- At a tie, a decimal nearby is rounded up with it, or it is one hundredth lower. -/
theorem hundredths_of_isTie (hm : IsTie m) (hd : 0 ≤ d) (hclose : |d - m| < 1 / 100) :
    hundredths d = hundredths m ∨ hundredths d = hundredths m - 1 := by
  obtain ⟨k, rfl⟩ := hm
  obtain ⟨hclose, hclose'⟩ := abs_lt.1 hclose
  have hup : hundredths ((2 * k + 1) / 200) = k + 1 := by
    rw [hundredths, show (100 * ((2 * k + 1) / 200) + 1 / 2 : ℚ) = (k + 1 : ℕ) by push_cast; ring,
      Nat.floor_natCast]
  have hlow : k ≤ hundredths d := Nat.le_floor (by linarith)
  have hhigh : hundredths d < k + 2 := by
    rw [hundredths, Nat.floor_lt (by positivity)]
    push_cast
    linarith
  omega

end Near

/-! ## Means near a tie -/

variable {ratings : List Rating}

/-- The mean of a million ratings is a tie, or it is so far from each tie that it does not drift
across. -/
theorem drift_lt_of_not_isTie (hne : ratings ≠ []) (hlength : ratings.length ≤ 10 ^ 6)
    (hm : ¬IsTie (exactMean ratings)) {t : ℚ} (ht : IsTie t) :
    drift ratings.length < |exactMean ratings - t| := by
  obtain ⟨k, rfl⟩ := ht
  have hpos : (1 : ℚ) ≤ ratings.length := by exact_mod_cast List.length_pos_iff.2 hne
  have hlength' : (ratings.length : ℚ) ≤ 10 ^ 6 := by exact_mod_cast hlength
  have hmean := exactMean_eq ratings
  generalize ratings.length = n at *
  generalize (ratings.map Rating.scoreTotal).sum = s at hmean
  have hdiff : exactMean ratings - (2 * k + 1) / 200 =
      (40 * s - (2 * k + 1) * n : ℤ) / (200 * n : ℚ) := by
    rw [hmean]
    push_cast
    field_simp
    ring
  have hne' : (40 * s - (2 * k + 1) * n : ℤ) ≠ 0 := by
    intro hzero
    refine hm ⟨k, ?_⟩
    rw [hzero, Int.cast_zero, zero_div] at hdiff
    linarith
  rw [hdiff]
  refine lt_of_lt_of_le ?_ (one_div_le_abs_div hne' (by positivity))
  rw [drift, div_lt_div_iff₀ (by positivity) (by positivity), one_mul]
  calc (n * (200 * n) : ℚ) ≤ 10 ^ 6 * (200 * 10 ^ 6) := by gcongr
    _ < 2 ^ 49 := by norm_num

/-! ## Figures of submitted ratings -/

/-- The shown mean is the rounded one, if there are scores. -/
theorem shownMean?_of_ne_nil {ps : List Payload} (hne : ps ≠ []) {q : Float} {n : ℕ}
    (hmean : Payload.mean ps = .ok q)
    (hround : (Payload.real q).halfUp Payload.shownPlaces = .ok (ofHundredths n)) :
    Payload.shownMean? ps = .ok (some (ofHundredths n)) := by
  rw [Payload.shownMean?, if_neg (by simpa using hne), hmean]
  change ((Payload.real q).halfUp Payload.shownPlaces >>= fun x => .ok (some x)) = _
  rw [hround]
  rfl

/-- What is shown is the rounding of a decimal that is as close to the exact mean as the drift. -/
theorem exists_shownMean? (h : ∀ r ∈ ratings, r.IsScored) (hne : ratings ≠ [])
    (hlength : ratings.length ≤ 2 ^ 47) :
    ∃ d, 0 ≤ d ∧ |d - exactMean ratings| ≤ drift ratings.length ∧
      Payload.shownMean? (ratings.map Rating.average) =
        .ok (some (ofHundredths (hundredths d))) := by
  obtain ⟨hlow, hhigh⟩ := exactMean_bounds h hne
  obtain ⟨q, b, hq, hb, hclose⟩ := exists_mean_close h hne (by omega)
  have hdrift : drift ratings.length ≤ 1 / 4 := by
    have : (ratings.length : ℚ) ≤ 2 ^ 47 := by exact_mod_cast hlength
    rw [drift]
    linarith
  obtain ⟨hclose, hclose'⟩ := abs_le.1 hclose
  obtain ⟨d, hd, hround⟩ := Payload.halfUp_real hb (by linarith) (by linarith)
  obtain ⟨hd, hd'⟩ := abs_le.1 hd
  exact ⟨d, by linarith, abs_le.2 ⟨by linarith, by linarith⟩,
    shownMean?_of_ne_nil (by simpa using hne) hq hround⟩

/-- The mean of whole numbers from one to five can be shown. -/
theorem exists_shownMean?_of_ints {ns : List ℕ} (h : ∀ n ∈ ns, 1 ≤ n ∧ n ≤ 5)
    (hlength : ns.length ≤ 2 ^ 47) :
    ∃ x, Payload.shownMean? (ns.map fun n : ℕ => .int n) = .ok x := by
  rcases eq_or_ne ns [] with rfl | hne
  · exact ⟨none, rfl⟩
  have hbounds : ∀ n ∈ ns, (1 : ℚ) ≤ n ∧ (n : ℚ) ≤ 5 := fun n hn =>
    ⟨by exact_mod_cast (h n hn).1, by exact_mod_cast (h n hn).2⟩
  obtain ⟨hlow, hhigh⟩ := Payload.mean_bounds hbounds hne
  have hcast : (ns.map fun n : ℕ => (n : ℚ)).sum = (ns.sum : ℕ) :=
    (Nat.cast_list_sum ns).symm
  rw [hcast] at hlow hhigh
  have hrounds := rounds_nearest (List.length_pos_iff.2 hne)
    (isModerate_of_bounds (by linarith) (hhigh.trans (by norm_num)))
  obtain ⟨b, hb, hclose⟩ := hrounds.close
  obtain ⟨hclose, hclose'⟩ := abs_le.1 hclose
  obtain ⟨d, -, hround⟩ := Payload.halfUp_real hb (by linarith) (by linarith)
  have hmean : Payload.mean (ns.map fun n : ℕ => .int n) =
      .ok (nearest false ns.sum ns.length) := by
    have hlist : (ns.map fun n : ℕ => Payload.int n) = (ns.map fun n : ℕ => (n : ℤ)).map .int := by
      simp
    have hsum : (ns.map fun n : ℕ => (n : ℤ)).sum = (ns.sum : ℕ) := (Nat.cast_list_sum ns).symm
    have hquotient : ofQuotient? (ns.sum : ℕ) ns.length =
        some (nearest false ns.sum ns.length) := by
      have hsign : decide (((ns.sum : ℕ) : ℤ) < 0) = false := by
        rw [decide_eq_false_iff_not]
        omega
      rw [ofQuotient?, hsign, Int.natAbs_natCast]
      exact if_neg (not_isInf_of_ofFloat? hb)
    rw [Payload.mean, hlist, Rating.sum_ints, hsum, List.length_map, List.length_map]
    change (ofQuotient? (ns.sum : ℕ) ns.length).elim (Except.error Fault.overflow) .ok = _
    rw [hquotient]
    rfl
  exact ⟨_, shownMean?_of_ne_nil (mt List.map_eq_nil_iff.1 hne) hmean hround⟩

theorem exists_stars_of_total : ∀ total : ℕ, total < 26 → 5 ≤ total →
    ∃ n < 6, Rating.stars ⟨"", "", Scores.ofFn fun _ => .null, none,
      .real (Rating.averageOfTotal total), none⟩ = .ok n := by
  decide

/-- A submitted rating has stars, which depend on its average only. -/
theorem Rating.IsScored.exists_stars {r : Rating} (h : r.IsScored) : ∃ n, r.stars = .ok n := by
  obtain ⟨hlow, hhigh⟩ := h.total_bounds
  obtain ⟨n, -, hn⟩ := exists_stars_of_total r.scoreTotal (by omega) hlow
  refine ⟨n, ?_⟩
  rw [← hn, stars, stars, positiveAverage?, positiveAverage?, isRated, isRated, h.average]

/-- Ratings with scores can be counted by their stars. -/
theorem exists_starCounts {ratings : List Rating} (h : ∀ r ∈ ratings, r.IsScored) :
    ∃ counts, StarCounts.ofRatings ratings = .ok counts := by
  have hfrom : ∀ start : StarCounts, ∃ counts, ratings.foldlM
      (fun h r => do return ((Star.ofNat? (← r.stars)).map h.add).getD h) start =
        Except.ok (ε := Fault) counts := by
    induction ratings with
    | nil => exact fun start => ⟨start, rfl⟩
    | cons r ratings ih =>
      intro start
      obtain ⟨hr, hratings⟩ := List.forall_mem_cons.1 h
      obtain ⟨n, hn⟩ := hr.exists_stars
      rw [List.foldlM_cons, hn]
      exact ih hratings _
  exact hfrom .zero

/-- The mean of a criterion can be shown. -/
theorem exists_criterionMean (h : ∀ r ∈ ratings, r.IsScored) (hlength : ratings.length ≤ 2 ^ 47)
    (c : Criterion) : ∃ x, Payload.shownMean? (Statistics.scoresOf c ratings) = .ok x := by
  obtain ⟨ns, hns, hbounds, hcount⟩ : ∃ ns : List ℕ, Statistics.scoresOf c ratings =
      (ns.map fun n : ℕ => .int n) ∧ (∀ n ∈ ns, 1 ≤ n ∧ n ≤ 5) ∧ ns.length = ratings.length := by
    clear hlength
    induction ratings with
    | nil => exact ⟨[], rfl, by simp, rfl⟩
    | cons r ratings ih =>
      obtain ⟨hr, hratings⟩ := List.forall_mem_cons.1 h
      obtain ⟨n, hn, hbound⟩ := hr.score c
      obtain ⟨ns, hns, hbounds, hcount⟩ := ih hratings
      refine ⟨n :: ns, ?_, List.forall_mem_cons.2 ⟨hbound, hbounds⟩, by simp [hcount]⟩
      rw [List.map_cons, ← hns]
      simp [Statistics.scoresOf, hn]
  rw [hns]
  exact exists_shownMean?_of_ints hbounds (by omega)

/-- The figures of submitted ratings can be worked out. -/
theorem exists_statistics (h : ∀ r ∈ ratings, r.IsScored) (hlength : ratings.length ≤ 2 ^ 47)
    {x : Option Float} (hmean : Payload.shownMean? (ratings.map Rating.average) = .ok x)
    (isbn : String) : ∃ s, Statistics.ofRatings isbn ratings = .ok s ∧ s.average = x := by
  have hfigures : ∃ s, Statistics.ofRatings isbn ratings = .ok s := by
    obtain ⟨counts, hcounts⟩ := exists_starCounts h
    choose mean hmeans using exists_criterionMean h hlength
    rw [Statistics.ofRatings, filter_isRated h]
    split
    · exact ⟨_, rfl⟩
    · rw [hcounts, hmean, Scores.ofFnM_eq_ok hmeans]
      exact ⟨_, rfl⟩
  obtain ⟨s, hs⟩ := hfigures
  have haverage := Ledger.shownMean?_of_ofRatings hs
  rw [filter_isRated h, hmean] at haverage
  exact ⟨s, hs, (Except.ok.inj haverage).symm⟩

/-! ## What a ledger shows -/

namespace Ledger

/-- The mean of a book is shown as so many hundredths, alone and among its figures. -/
def Shows (l : Ledger) (isbn : String) (n : ℕ) : Prop :=
  (store.average (.text isbn)).run l = (.ok (some (ofHundredths n)), l) ∧
    ∃ s, (store.statistics (.text isbn)).run l = (.ok s, l) ∧ s.average = some (ofHundredths n)

/-- The changes come while clocks do not tell their offset. -/
def Change.IsLocal : Change → Prop
  | .submit _ time => time.offset = none
  | .delete .. => True

/-- Local submissions make local ratings. -/
theorem isLocal_of_mem_after {changes : List Change} (h : ∀ c ∈ changes, c.IsLocal) {r : Rating}
    (hr : r ∈ (after changes).ratings) : r.isLocal := by
  obtain ⟨c, ⟨earlier, later, hsplit, -⟩, hkeeps⟩ := ((answers_after changes).mem_all r).1 hr
  have hc : c.IsLocal := h c (by simp [hsplit])
  cases c with
  | submit s time =>
    obtain ⟨-, average, -, rfl⟩ := hkeeps
    change time.offset = none at hc
    simp [Rating.isLocal, Rating.stamped, hc]
  | delete username isbn => exact hkeeps.elim

variable {changes : List Change} {isbn : String}

/-- What is shown is the rounding of a decimal that is as close to the exact mean as the drift. -/
theorem exists_shows (hlocal : ∀ c ∈ changes, c.IsLocal)
    (hne : (after changes).ratingsOf (Text.trim isbn) ≠ [])
    (hlength : ((after changes).ratingsOf (Text.trim isbn)).length ≤ 2 ^ 47) :
    ∃ d, 0 ≤ d ∧ |d - exactMean ((after changes).ratingsOf (Text.trim isbn))| ≤
        drift ((after changes).ratingsOf (Text.trim isbn)).length ∧
      (after changes).Shows isbn (hundredths d) := by
  have hl : ∀ r ∈ (after changes).ratings, r.isLocal := fun r => isLocal_of_mem_after hlocal
  have hperm : ((after changes).newest (Text.trim isbn)).Perm
      ((after changes).ratingsOf (Text.trim isbn)) := List.mergeSort_perm _ _
  have hscored : ∀ r ∈ (after changes).newest (Text.trim isbn), r.IsScored := fun r hr =>
    isScored_of_mem_ratingsOf r (hperm.mem_iff.1 hr)
  have hlength' : ((after changes).newest (Text.trim isbn)).length ≤ 2 ^ 47 := by
    rwa [hperm.length_eq]
  obtain ⟨d, hd, hclose, hmean⟩ := exists_shownMean? hscored
    (fun h => hne (List.perm_nil.1 (h ▸ hperm.symm))) hlength'
  obtain ⟨s, hs, haverage⟩ := exists_statistics hscored hlength' hmean isbn
  rw [exactMean_of_perm hperm, hperm.length_eq] at hclose
  refine ⟨d, hd, hclose, ?_, s, ?_, haverage⟩
  · rw [run_average hl, filter_isRated hscored, hmean]
    rfl
  · rw [run_statistics hl, hs]
    rfl

/-- A drift that reaches no tie is that of so many scores at most. -/
theorem length_lt_of_drift {n : ℕ} {m : ℚ} (hm : 0 ≤ m)
    (hties : ∀ t, IsTie t → drift n < |m - t|) : n ≤ 2 ^ 47 := by
  have hle := Nat.floor_le (show 0 ≤ 100 * m by positivity)
  have hlt := Nat.lt_floor_add_one (100 * m)
  have hnear := hties ((2 * ⌊100 * m⌋₊ + 1) / 200) ⟨_, rfl⟩
  have hclose : |m - (2 * ⌊100 * m⌋₊ + 1) / 200| ≤ 1 / 200 :=
    abs_le.2 ⟨by linarith, by linarith⟩
  have hdrift := hnear.trans_le hclose
  rw [drift, div_lt_iff₀ (by positivity)] at hdrift
  have : (n : ℚ) ≤ 2 ^ 47 := by linarith
  exact_mod_cast this

/-- The mean of submitted ratings is shown as the exact mean, rounded half up, in whatever order
they came, as long as no tie is within the drift of their number; a million ratings are never so near
to a tie without being at it. At a tie, the mean may also be shown one hundredth lower. -/
theorem shows_mean (changes : List Change) (hlocal : ∀ c ∈ changes, c.IsLocal) (isbn : String)
    (hne : (after changes).ratingsOf (Text.trim isbn) ≠ []) :
    let ratings := (after changes).ratingsOf (Text.trim isbn)
    let mean := exactMean ratings
    ((∀ t, IsTie t → drift ratings.length < |mean - t|) →
        (after changes).Shows isbn (hundredths mean)) ∧
      (ratings.length ≤ 10 ^ 6 → ¬IsTie mean → (after changes).Shows isbn (hundredths mean)) ∧
      (ratings.length ≤ 10 ^ 6 → IsTie mean →
        (after changes).Shows isbn (hundredths mean) ∨
          (after changes).Shows isbn (hundredths mean - 1)) := by
  intro ratings mean
  have hscored : ∀ r ∈ ratings, r.IsScored := isScored_of_mem_ratingsOf
  have hmean : 0 ≤ mean := by
    have := (exactMean_bounds hscored hne).1
    exact zero_le_one.trans this
  have hapart : (∀ t, IsTie t → drift ratings.length < |mean - t|) →
      (after changes).Shows isbn (hundredths mean) := by
    intro hties
    obtain ⟨d, hd, hclose, hshows⟩ := exists_shows hlocal hne (length_lt_of_drift hmean hties)
    rwa [hundredths_eq_of_close hmean hd hclose hties] at hshows
  refine ⟨hapart, fun hlength hm => hapart fun t => drift_lt_of_not_isTie hne hlength hm, ?_⟩
  intro hlength hm
  obtain ⟨d, hd, hclose, hshows⟩ := exists_shows hlocal hne (hlength.trans (by norm_num))
  have hdrift : drift ratings.length < 1 / 100 := by
    have : (ratings.length : ℚ) ≤ 10 ^ 6 := by exact_mod_cast hlength
    rw [drift]
    linarith
  rcases hundredths_of_isTie hm hd (hclose.trans_lt hdrift) with h | h
  · exact Or.inl (h ▸ hshows)
  · exact Or.inr (h ▸ hshows)

theorem isLocal_submissions (isbn : String) (scores : List (Scores Payload)) :
    ∀ c ∈ submissions isbn scores, c.IsLocal := by
  intro c hc
  obtain ⟨s, -, rfl⟩ := List.mem_map.1 hc
  rfl

theorem trim_one : Text.trim "1" = "1" := rfl

/-- The mean of three ratings is no tie. -/
theorem shows_mean_of_three :
    let changes := submissions "1" [⟨.int 5, .int 5, .int 5, .int 5, .int 4⟩,
      ⟨.int 4, .int 4, .int 4, .int 4, .int 3⟩, ⟨.int 4, .int 4, .int 4, .int 4, .int 4⟩]
    (∀ c ∈ changes, c.IsLocal) ∧ (after changes).ratingsOf "1" ≠ [] ∧
      (after changes).Shows "1" 420 := by
  intro changes
  have htotals : ((after changes).ratingsOf "1").map Rating.scoreTotal = [24, 19, 20] := by
    decide +kernel
  have hne : (after changes).ratingsOf "1" ≠ [] := by
    intro h
    rw [h] at htotals
    cases htotals
  have hlength : ((after changes).ratingsOf "1").length = 3 := by
    simpa using congrArg List.length htotals
  have hmean : exactMean ((after changes).ratingsOf "1") = 21 / 5 := by
    rw [exactMean_eq, htotals, hlength]
    norm_num
  have htie : ¬IsTie (21 / 5) := by
    rintro ⟨k, hk⟩
    have : (840 : ℚ) = (2 * k + 1 : ℕ) := by
      push_cast
      linarith
    have : 840 = 2 * k + 1 := by exact_mod_cast this
    omega
  have hshows := (shows_mean changes (isLocal_submissions _ _) "1" (by rwa [trim_one])).2.1
    (by rw [trim_one, hlength]; norm_num) (by rwa [trim_one, hmean])
  have hrounded : hundredths (21 / 5) = 420 := by
    rw [hundredths, Nat.floor_eq_iff (by norm_num)]
    norm_num
  rw [trim_one, hmean, hrounded] at hshows
  exact ⟨isLocal_submissions _ _, hne, hshows⟩

/-! ### Eight ratings whose mean is a tie -/

/-- Ratings that came one after the other are sorted by turning them round. -/
theorem mergeSort_eq_reverse {ratings : List Rating}
    (h : ratings.Pairwise fun a b => a.recency.instant < b.recency.instant) :
    ratings.mergeSort Rating.isNoOlder = ratings.reverse := by
  induction ratings with
  | nil => simp
  | cons r ratings ih =>
    obtain ⟨hr, hratings⟩ := List.pairwise_cons.1 h
    have hnewer : ∀ s ∈ ratings.reverse, r.isNoOlder s = false := fun s hs => by
      simpa [Rating.isNoOlder] using hr s (List.mem_reverse.1 hs)
    have hfirst : ratings.reverse.filter (fun s => !r.isNoOlder s) = ratings.reverse :=
      List.filter_eq_self.2 fun s hs => by rw [hnewer s hs]; rfl
    have hsecond : ratings.reverse.filter (r.isNoOlder ·) = [] :=
      List.filter_eq_nil_iff.2 fun s hs => by rw [hnewer s hs]; exact Bool.false_ne_true
    rw [mergeSort_cons_eq Rating.isNoOlder_trans Rating.isNoOlder_total, ih hratings,
      List.reverse_cons, hfirst, hsecond]

/-- The mean that is shown of ratings that came one after the other, by the totals of their scores,
the newest first. -/
theorem run_average_of_increasing (hlocal : ∀ c ∈ changes, c.IsLocal)
    (hincreasing : ((after changes).ratingsOf (Text.trim isbn)).Pairwise
      fun a b => a.recency.instant < b.recency.instant) :
    (store.average (.text isbn)).run (after changes) =
      (.ofExcept (Payload.shownMean? ((((after changes).ratingsOf (Text.trim isbn)).map
        Rating.scoreTotal).reverse.map fun t => .real (Rating.averageOfTotal t))),
        after changes) := by
  have hnewest : (after changes).newest (Text.trim isbn) =
      ((after changes).ratingsOf (Text.trim isbn)).reverse := mergeSort_eq_reverse hincreasing
  have hscored : ∀ r ∈ ((after changes).ratingsOf (Text.trim isbn)).reverse, r.IsScored :=
    fun r hr => isScored_of_mem_ratingsOf r (List.mem_reverse.1 hr)
  rw [run_average fun r => isLocal_of_mem_after hlocal, hnewest, filter_isRated hscored,
    map_average hscored, ← List.map_reverse, List.map_map]
  rfl

/-- Eight ratings with a mean of 1.225, the better ones first or last. -/
def atTie (bestFirst : Bool) : List Change :=
  let best := List.replicate 3 ⟨.int 2, .int 2, .int 2, .int 1, .int 1⟩
  let rest := List.replicate 5 ⟨.int 1, .int 1, .int 1, .int 1, .int 1⟩
  submissions "1" (if bestFirst then best ++ rest else rest ++ best)

theorem isLocal_atTie (bestFirst : Bool) : ∀ c ∈ atTie bestFirst, c.IsLocal :=
  isLocal_submissions _ _

/-- The hundredths that are shown of them. -/
def shownAtTie (bestFirst : Bool) : ℕ := if bestFirst then 122 else 123

/-- The totals of their scores, and when they came. -/
theorem ratingsOf_atTie (bestFirst : Bool) :
    ((after (atTie bestFirst)).ratingsOf "1").map (fun r => (r.scoreTotal, r.recency.instant)) =
      (if bestFirst then [8, 8, 8, 5, 5, 5, 5, 5] else [5, 5, 5, 5, 5, 8, 8, 8]).zip
        [0, 1, 2, 3, 4, 5, 6, 7] := by
  cases bestFirst <;> decide +kernel

theorem scoreTotals_atTie (bestFirst : Bool) :
    ((after (atTie bestFirst)).ratingsOf "1").map Rating.scoreTotal =
      if bestFirst then [8, 8, 8, 5, 5, 5, 5, 5] else [5, 5, 5, 5, 5, 8, 8, 8] := by
  have htotals := congrArg (List.map Prod.fst) (ratingsOf_atTie bestFirst)
  rw [List.map_map] at htotals
  cases bestFirst <;> exact htotals

theorem length_atTie (bestFirst : Bool) : ((after (atTie bestFirst)).ratingsOf "1").length = 8 := by
  have hlength := congrArg List.length (scoreTotals_atTie bestFirst)
  rw [List.length_map] at hlength
  rw [hlength]
  cases bestFirst <;> rfl

theorem exactMean_atTie (bestFirst : Bool) :
    exactMean ((after (atTie bestFirst)).ratingsOf "1") = 49 / 40 := by
  rw [exactMean_eq, scoreTotals_atTie, length_atTie]
  cases bestFirst <;> norm_num

theorem hundredths_atTie : hundredths (49 / 40) = 123 := by
  rw [hundredths, Nat.floor_eq_iff (by norm_num)]
  norm_num

/-- The order of the scores decides what is shown. -/
theorem run_average_atTie (bestFirst : Bool) :
    (store.average (.text "1")).run (after (atTie bestFirst)) =
      (.ok (some (ofHundredths (shownAtTie bestFirst))), after (atTie bestFirst)) := by
  have hincreasing : ((after (atTie bestFirst)).ratingsOf "1").Pairwise
      fun a b => a.recency.instant < b.recency.instant := by
    have htimes := congrArg (List.map Prod.snd) (ratingsOf_atTie bestFirst)
    rw [List.map_map] at htimes
    refine List.pairwise_map.1 (htimes.symm ▸ ?_)
    cases bestFirst <;> decide
  have hcomputed : Payload.shownMean?
      ((if bestFirst then [8, 8, 8, 5, 5, 5, 5, 5] else [5, 5, 5, 5, 5, 8, 8, 8]).reverse.map
        fun t => .real (Rating.averageOfTotal t)) =
          .ok (some (ofHundredths (shownAtTie bestFirst))) := by
    cases bestFirst <;> decide +kernel
  rw [run_average_of_increasing (isLocal_atTie _) (by rwa [trim_one]), trim_one, scoreTotals_atTie,
    hcomputed]
  rfl

theorem shows_atTie (bestFirst : Bool) :
    (after (atTie bestFirst)).Shows "1" (shownAtTie bestFirst) := by
  have hne : (after (atTie bestFirst)).ratingsOf "1" ≠ [] :=
    List.ne_nil_of_length_pos (by rw [length_atTie]; norm_num)
  obtain ⟨d, hd, hclose, hshows⟩ := exists_shows (isLocal_atTie bestFirst) (by rwa [trim_one])
    (by rw [trim_one, length_atTie]; norm_num)
  rw [trim_one, exactMean_atTie, length_atTie] at hclose
  have hcandidates := hundredths_of_isTie ⟨122, by norm_num⟩ hd
    (hclose.trans_lt (show drift 8 < 1 / 100 by norm_num [drift]))
  rw [hundredths_atTie] at hcandidates
  have hsame : ofHundredths (hundredths d) = ofHundredths (shownAtTie bestFirst) := by
    have := hshows.1.symm.trans (run_average_atTie bestFirst)
    simpa [Outcome.ok] using this
  have hdiffer : ofHundredths 122 ≠ ofHundredths 123 := by decide
  have hshown : hundredths d = shownAtTie bestFirst := by
    cases bestFirst <;> rcases hcandidates with h | h <;> rw [h] at hsame ⊢
    case false.inl => rfl
    case false.inr => exact absurd hsame hdiffer
    case true.inl => exact absurd hsame.symm hdiffer
    case true.inr => rfl
  rwa [hshown] at hshows

/-- At a tie the order of the ratings decides: with the best ones first the mean is shown one
hundredth lower than its rounding. -/
theorem shows_mean_at_tie :
    (∀ bestFirst, exactMean ((after (atTie bestFirst)).ratingsOf "1") = 49 / 40) ∧
      hundredths (49 / 40) = 123 ∧
      (after (atTie false)).Shows "1" 123 ∧ (after (atTie true)).Shows "1" 122 ∧
      ¬(after (atTie true)).Shows "1" 123 := by
  refine ⟨exactMean_atTie, hundredths_atTie, shows_atTie false, shows_atTie true, fun h => ?_⟩
  have hlower : (after (atTie true)).Shows "1" 122 := shows_atTie true
  have hsame := h.1.symm.trans hlower.1
  have hdiffer : ofHundredths 123 ≠ ofHundredths 122 := by decide +kernel
  simp [Outcome.ok, hdiffer] at hsame

end Ledger

end Bookfinder
