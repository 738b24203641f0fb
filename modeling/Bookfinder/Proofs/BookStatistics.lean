import Bookfinder.CommandLine.Report
import Bookfinder.Proofs.Rankings
import Bookfinder.Proofs.ShownMeans

/-!
# The figures of one book

The figures of a book count its ratings twice over: all that carry an average make the total, and
those with an average above zero are counted by their stars. A rating of the second kind has from
one to five stars (`Rating.stars_cases`), so that it comes into one of the counts and no other
(`Rating.sum_hasStars`): together they are as many as these ratings (`StarCounts.sum_get`). There is
a mean as soon as there is something to take it of (`isSome_of_shownMean?`).

`Statistics.Describes` puts this together for the figures that any store gives
(`RatingStore.describes_of_statistics`). Those of a ledger describe the ratings that it holds of the
book, and if these were submitted the counts come to the total (`Ledger.statistics_describe`).
-/

namespace Bookfinder

/-! ## Stars -/

namespace Star

@[simp] theorem ofNat?_count (s : Star) : ofNat? s.count = some s := by cases s <;> rfl

theorem ofNat?_eq_some {n : ℕ} {s : Star} : ofNat? n = some s ↔ n = s.count := by
  constructor
  · intro h
    have hcount := List.find?_some h
    exact (by simpa using hcount : s.count = n).symm
  · rintro rfl
    exact ofNat?_count s

/-- There are from one to five stars. -/
theorem exists_count_eq {n : ℕ} : (∃ s : Star, s.count = n) ↔ 1 ≤ n ∧ n ≤ 5 := by
  constructor
  · rintro ⟨s, rfl⟩
    cases s <;> decide
  · rintro ⟨hlow, hhigh⟩
    interval_cases n
    exacts [⟨.one, rfl⟩, ⟨.two, rfl⟩, ⟨.three, rfl⟩, ⟨.four, rfl⟩, ⟨.five, rfl⟩]

end Star

namespace Rating

/-- Whether the average is a number that is not zero or less. -/
def isPositive (r : Rating) : Bool :=
  match r.average.toNumber with
  | .ok n => !n.atMost (.int 0)
  | .error _ => false

/-- Whether a rating has so many stars. -/
def hasStars (s : Star) (r : Rating) : Bool :=
  match r.stars with
  | .ok n => n = s.count
  | .error _ => false

variable {r : Rating} {n : ℕ}

theorem hasStars_of_stars (h : r.stars = .ok n) (s : Star) :
    r.hasStars s = decide (n = s.count) := by
  rw [hasStars, h]

/-- There is a positive average exactly if the rating is positive. -/
theorem isSome_of_positiveAverage? {x : Option Number} (h : r.positiveAverage? = .ok x) :
    x.isSome = r.isPositive := by
  unfold positiveAverage? at h
  split at h
  · obtain ⟨n, hn, h⟩ := bind_eq_ok.1 h
    obtain rfl := Except.ok.inj h
    rw [isPositive, hn]
    dsimp only
    cases n.atMost (.int 0) <;> rfl
  · next hrated =>
    obtain rfl := Except.ok.inj h
    have hnull : r.average = .null := by simpa [isRated] using hrated
    rw [isPositive, hnull]
    rfl

/-- A rating has from one to five stars if its average is above zero, and none otherwise. -/
theorem stars_cases (h : r.stars = .ok n) :
    r.isPositive = false ∧ n = 0 ∨ r.isPositive = true ∧ 1 ≤ n ∧ n ≤ 5 := by
  unfold stars at h
  obtain ⟨x, hx, h⟩ := bind_eq_ok.1 h
  rw [← isSome_of_positiveAverage? hx]
  cases x with
  | none => exact Or.inl ⟨rfl, (Except.ok.inj h).symm⟩
  | some average =>
    obtain ⟨rounded, -, h⟩ := bind_eq_ok.1 h
    obtain ⟨whole, -, h⟩ := bind_eq_ok.1 h
    obtain rfl := Except.ok.inj h
    exact Or.inr ⟨rfl, by simp only [minScore, maxScore]; omega⟩

/-- A rating comes into one of the counts if its average is above zero, and into none otherwise. -/
theorem sum_hasStars (h : r.stars = .ok n) :
    (Star.all.map fun s => if r.hasStars s then 1 else 0).sum = if r.isPositive then 1 else 0 := by
  simp only [hasStars_of_stars h]
  rcases stars_cases h with ⟨hpositive, rfl⟩ | ⟨hpositive, hlow, hhigh⟩
  · rw [hpositive]
    rfl
  · rw [hpositive]
    interval_cases n <;> rfl

end Rating

namespace StarCounts

variable {ratings : List Rating} {counts : StarCounts}

/-- Each count grows by the ratings with as many stars. -/
theorem get_foldlM {start : StarCounts}
    (h : ratings.foldlM (fun h r => do return ((Star.ofNat? (← r.stars)).map h.add).getD h) start =
      Except.ok (ε := Fault) counts) :
    (∀ r ∈ ratings, ∃ n, r.stars = .ok n) ∧
      ∀ s, counts.get s = start.get s + ratings.countP (Rating.hasStars s) := by
  induction ratings generalizing start with
  | nil =>
    obtain rfl := Except.ok.inj h
    simp
  | cons r ratings ih =>
    rw [List.foldlM_cons] at h
    obtain ⟨next, hnext, h⟩ := bind_eq_ok.1 h
    obtain ⟨n, hn, hnext⟩ := bind_eq_ok.1 hnext
    obtain ⟨hstars, hcounts⟩ := ih h
    refine ⟨List.forall_mem_cons.2 ⟨⟨n, hn⟩, hstars⟩, fun s => ?_⟩
    have hstep : next.get s = start.get s + if n = s.count then 1 else 0 := by
      obtain rfl := Except.ok.inj hnext
      cases hstar : Star.ofNat? n with
      | none =>
        have hne : n ≠ s.count := by
          rintro rfl
          simp at hstar
        simp [hne]
      | some t =>
        rw [Star.ofNat?_eq_some] at hstar
        rw [Option.map_some, Option.getD_some, get_add, hstar]
        cases s <;> cases t <;> simp [Star.count]
    rw [hcounts, hstep, List.countP_cons, Rating.hasStars_of_stars hn, Nat.cast_add]
    simp only [decide_eq_true_eq, Nat.cast_ite, Nat.cast_one, Nat.cast_zero]
    omega

/-- Each count is the number of ratings with so many stars. -/
theorem get_of_ofRatings (h : ofRatings ratings = .ok counts) (s : Star) :
    counts.get s = ratings.countP (Rating.hasStars s) := by
  rw [(get_foldlM h).2 s]
  cases s <;> exact Int.zero_add _

/-- Ratings are counted only if the stars of each can be told. -/
theorem exists_stars_of_ofRatings (h : ofRatings ratings = .ok counts) :
    ∀ r ∈ ratings, ∃ n, r.stars = .ok n :=
  (get_foldlM h).1

/-- All counts together. -/
def sum (counts : StarCounts) : ℤ := (Star.all.map counts.get).sum

/-- The ratings with each number of stars add up to the positive ones. -/
theorem sum_countP (h : ∀ r ∈ ratings, ∃ n, r.stars = .ok n) :
    (Star.all.map fun s => ratings.countP (Rating.hasStars s)).sum =
      ratings.countP Rating.isPositive := by
  induction ratings with
  | nil => rfl
  | cons r ratings ih =>
    obtain ⟨⟨n, hn⟩, hrest⟩ := List.forall_mem_cons.1 h
    simp only [List.countP_cons]
    rw [List.sum_map_add, ih hrest, Rating.sum_hasStars hn]

/-- The counts come to the number of ratings with an average above zero. -/
theorem sum_get (h : ofRatings ratings = .ok counts) :
    counts.sum = ratings.countP Rating.isPositive := by
  rw [← sum_countP (exists_stars_of_ofRatings h), Nat.cast_list_sum, List.map_map, sum]
  exact congrArg List.sum (List.map_congr_left fun s _ => get_of_ofRatings h s)

end StarCounts

/-! ## Means -/

/-- There is a mean as soon as there is something to take it of. -/
theorem isSome_of_shownMean? {ps : List Payload} {x : Option Float}
    (h : Payload.shownMean? ps = .ok x) : x.isSome ↔ ps ≠ [] := by
  unfold Payload.shownMean? at h
  split at h
  · next hnone =>
    obtain rfl := Except.ok.inj h
    simp [List.isEmpty_iff.1 hnone]
  · next hsome =>
    obtain ⟨mean, -, h⟩ := bind_eq_ok.1 h
    obtain ⟨shown, -, h⟩ := bind_eq_ok.1 h
    obtain rfl := Except.ok.inj h
    simpa using hsome

theorem Scores.get_of_ofFnM {α : Type} {f : Criterion → Except Fault α} {s : Scores α}
    (h : ofFnM f = .ok s) (c : Criterion) : f c = .ok (s.get c) := by
  obtain ⟨style, hstyle, h⟩ := bind_eq_ok.1 h
  obtain ⟨content, hcontent, h⟩ := bind_eq_ok.1 h
  obtain ⟨pleasantness, hpleasantness, h⟩ := bind_eq_ok.1 h
  obtain ⟨originality, horiginality, h⟩ := bind_eq_ok.1 h
  obtain ⟨edition, hedition, h⟩ := bind_eq_ok.1 h
  obtain rfl := Except.ok.inj h
  cases c
  exacts [hstyle, hcontent, hpleasantness, horiginality, hedition]

namespace Statistics

theorem scoresOf_ne_nil {c : Criterion} {ratings : List Rating} :
    scoresOf c ratings ≠ [] ↔ ∃ r ∈ ratings, r.scores.get c ≠ .null := by
  simp [scoresOf, List.filter_eq_nil_iff]

/-! ## What figures say -/

/-- What the figures of a book say about its ratings that carry an average. -/
structure Describes (s : Statistics) (rated : List Rating) : Prop where
  total : s.total = rated.length
  average : s.average.isSome ↔ 0 < s.total
  /-- The report on a book with ratings shows its average. -/
  printed : s.hasRatings → ∃ average, s.average = some average ∧ ∀ title,
    Report.statistics title s =
      Report.heading ("RATINGS FOR " ++ title) ++ Report.figures average s ++ Report.footer
  /-- The counts are there for one to five stars. -/
  buckets : ∀ n, (∃ star : Star, star.count = n) ↔ 1 ≤ n ∧ n ≤ 5
  /-- A rating with an average above zero has one of these numbers of stars, any other one none. -/
  stars : ∀ r ∈ rated, ∃ n, r.stars = .ok n ∧
    (r.isPositive = false ∧ n = 0 ∨ r.isPositive = true ∧ ∃ star : Star, star.count = n)
  count : ∀ star, s.stars.get star = rated.countP (Rating.hasStars star)
  nonneg : ∀ star, 0 ≤ s.stars.get star
  sum : s.stars.sum = rated.countP Rating.isPositive
  mean : ∀ c, (s.means.get c).isSome ↔ ∃ r ∈ rated, r.scores.get c ≠ .null

variable {s : Statistics} {isbn : String} {ratings rated others : List Rating}

/-- The figures do not depend on the order of the ratings. -/
theorem Describes.of_perm (h : s.Describes rated) (hperm : rated.Perm others) :
    s.Describes others where
  total := by rw [h.total, hperm.length_eq]
  average := h.average
  printed := h.printed
  buckets := h.buckets
  stars r hr := h.stars r (hperm.mem_iff.2 hr)
  count star := by rw [h.count, hperm.countP_eq]
  nonneg := h.nonneg
  sum := by rw [h.sum, hperm.countP_eq]
  mean c := by simp only [h.mean, hperm.mem_iff]

/-- Figures that are each worked out from the same ratings describe them. -/
theorem describes_of_parts (htotal : s.total = rated.length)
    (haverage : Payload.shownMean? (rated.map Rating.average) = .ok s.average)
    (hcounts : StarCounts.ofRatings rated = .ok s.stars)
    (hmeans : ∀ c, Payload.shownMean? (scoresOf c rated) = .ok (s.means.get c)) :
    s.Describes rated where
  total := htotal
  average := by
    rw [isSome_of_shownMean? haverage, htotal, Int.natCast_pos, List.length_pos_iff, ne_eq,
      List.map_eq_nil_iff]
  printed h := by
    rw [hasRatings, decide_eq_true_eq, htotal, Int.natCast_pos, List.length_pos_iff] at h
    obtain ⟨average, hsome⟩ := Option.isSome_iff_exists.1
      ((isSome_of_shownMean? haverage).2 (mt List.map_eq_nil_iff.1 h))
    exact ⟨average, hsome, fun title => by rw [Report.statistics, hsome]⟩
  buckets _ := Star.exists_count_eq
  stars r hr := by
    obtain ⟨n, hn⟩ := StarCounts.exists_stars_of_ofRatings hcounts r hr
    exact ⟨n, hn, (Rating.stars_cases hn).imp_right (And.imp_right Star.exists_count_eq.2)⟩
  count := StarCounts.get_of_ofRatings hcounts
  nonneg star := by
    rw [StarCounts.get_of_ofRatings hcounts]
    exact Int.natCast_nonneg _
  sum := StarCounts.sum_get hcounts
  mean c := by rw [isSome_of_shownMean? (hmeans c), scoresOf_ne_nil]

/-- Statistics that are made of ratings describe those that count. -/
theorem describes_of_ofRatings (h : ofRatings isbn ratings = .ok s) :
    s.Describes (ratings.filter Rating.isRated) := by
  unfold ofRatings at h
  dsimp only at h
  split at h
  · next hnone =>
    obtain rfl := Except.ok.inj h
    rw [List.isEmpty_iff.1 hnone]
    exact describes_of_parts rfl rfl rfl fun c => by rw [unrated, Scores.get_ofFn]; rfl
  · obtain ⟨stars, hstars, h⟩ := bind_eq_ok.1 h
    obtain ⟨average, haverage, h⟩ := bind_eq_ok.1 h
    obtain ⟨means, hmeans, h⟩ := bind_eq_ok.1 h
    obtain rfl := Except.ok.inj h
    exact describes_of_parts rfl haverage hstars (Scores.get_of_ofFnM hmeans)

end Statistics

/-- The figures that a store gives describe the ratings that it gives of the book. -/
theorem RatingStore.describes_of_statistics {σ : Type} {store : RatingStore σ} {t : σ}
    {isbn : String} {s : Statistics}
    (h : ((store.statistics (.text isbn)).run t).1.result = .ok s) :
    ∃ ratings, ((store.ratingsFor (.text isbn)).run t).1.result = .ok ratings ∧
      s.Describes (ratings.filter Rating.isRated) := by
  obtain ⟨ratings, hratings, h⟩ := Action.result_bind_eq_ok.1 h
  exact ⟨ratings, hratings, Statistics.describes_of_ofRatings h⟩

/-! ## Submitted ratings -/

theorem isPositive_of_total : ∀ total : ℕ, total < 26 → 5 ≤ total →
    Rating.isPositive ⟨"", "", Scores.ofFn fun _ => .null, none,
      .real (Rating.averageOfTotal total), none⟩ = true := by
  decide

/-- A rating with scores has a positive average. -/
theorem Rating.IsScored.isPositive {r : Rating} (h : r.IsScored) : r.isPositive = true := by
  obtain ⟨hlow, hhigh⟩ := h.total_bounds
  rw [← isPositive_of_total r.scoreTotal (by omega) hlow, Rating.isPositive, Rating.isPositive,
    h.average]

namespace Ledger

variable {l : Ledger} {isbn : String}

/-- Ratings are the same when the newest comes first. -/
theorem perm_of_newestFirst {ratings sorted : List Rating}
    (h : Rating.newestFirst ratings = .ok sorted) : sorted.Perm ratings := by
  unfold Rating.newestFirst at h
  dsimp only at h
  split at h
  · cases h
  · obtain rfl := Except.ok.inj h
    exact List.mergeSort_perm _ _

/-- The ratings of a book are those that the ledger holds for it. -/
theorem perm_of_ratingsFor {ratings : List Rating}
    (h : ((store.ratingsFor (.text isbn)).run l).1.result = .ok ratings) :
    ratings.Perm (l.ratingsOf (Text.trim isbn)) :=
  perm_of_newestFirst h

/-- The ratings of a book that carry an average. -/
def ratedOf (l : Ledger) (isbn : String) : List Rating := (l.ratingsOf isbn).filter Rating.isRated

/-- The statistics of a ledger describe the ratings that it holds. -/
theorem describes_of_statistics {s : Statistics}
    (h : ((store.statistics (.text isbn)).run l).1.result = .ok s) :
    s.Describes (l.ratedOf (Text.trim isbn)) := by
  obtain ⟨ratings, hratings, hdescribes⟩ := RatingStore.describes_of_statistics h
  exact hdescribes.of_perm ((perm_of_ratingsFor hratings).filter Rating.isRated)

/-- The figures of a book in a ledger describe what the ledger holds of it. If the ledger was made
by submissions and deletions, the counts by stars come to the total. -/
theorem statistics_describe (l : Ledger) (isbn : String) (s : Statistics)
    (h : ((store.statistics (.text isbn)).run l).1.result = .ok s) :
    s.Describes (l.ratedOf (Text.trim isbn)) ∧
      ∀ changes, l = after changes → s.stars.sum = s.total := by
  have hdescribes := describes_of_statistics h
  refine ⟨hdescribes, ?_⟩
  rintro changes rfl
  have hscored : ∀ r ∈ (after changes).ratingsOf (Text.trim isbn), r.IsScored :=
    isScored_of_mem_ratingsOf
  rw [hdescribes.sum, hdescribes.total, ratedOf, filter_isRated hscored]
  exact congrArg _ (List.countP_eq_length.2 fun r hr => (hscored r hr).isPositive)

/-- Ratings without a time are found in their order. -/
theorem newest_interleaved (isbn : String) :
    interleaved.newest isbn = interleaved.ratingsOf isbn := by
  have hsorted : interleaved.ratings.Pairwise fun a b => a.isNoOlder b := by decide
  exact List.mergeSort_of_pairwise (hsorted.sublist List.filter_sublist)

/-- Of two ratings of a book, one has a negative average, and so no stars. -/
theorem statistics_describe_interleaved :
    ∃ s, ((store.statistics (.text "2")).run interleaved).1.result = .ok s ∧
      s.Describes (interleaved.ratedOf "2") ∧ s.total = 2 ∧ s.stars.sum = 1 := by
  obtain ⟨s, hs⟩ : ∃ s, Statistics.ofRatings "2" (interleaved.ratingsOf "2") = .ok s := ⟨_, rfl⟩
  have hrun : ((store.statistics (.text "2")).run interleaved).1.result = .ok s := by
    rw [run_statistics (by decide), newest_interleaved]
    exact hs
  obtain ⟨hdescribes, -⟩ := statistics_describe interleaved "2" s hrun
  refine ⟨s, hrun, hdescribes, ?_, ?_⟩
  · rw [hdescribes.total]
    decide +kernel
  · rw [hdescribes.sum]
    decide +kernel

end Ledger

end Bookfinder
