import Bookfinder.Proofs.Rankings
import Bookfinder.Proofs.ScoreMeans

/-!
# The best rated books by their exact means

The ranking of the best rated books compares computed means, each of which may be away from the
exact mean by the drift of so many ratings. Exact means that differ are farther apart than this for
any two books with up to `2 ^ 15` ratings each (`exactMean_le_of_drift`), so that such books come in
the order of their exact means (`Ledger.Leads`, `Ledger.topRated_leads`). Of two books with the same
exact mean, the one with more ratings comes first if the computed means are the same as well. They
are if all averages are whole numbers, and not always if they are not (`Ledger.topRated_twoBooks`).
-/

namespace Bookfinder

open Binary

/-- Exact means of books with so few ratings are the same or farther apart than they drift. -/
theorem exactMean_le_of_drift {ratings others : List Rating} (hratings : ratings ≠ [])
    (hothers : others ≠ []) (hfew : ratings.length ≤ 2 ^ 15) (hfew' : others.length ≤ 2 ^ 15)
    (hdrift : exactMean ratings ≤
      exactMean others + (drift ratings.length + drift others.length)) :
    exactMean ratings ≤ exactMean others := by
  have hpos : (0 : ℚ) < ratings.length := by exact_mod_cast List.length_pos_iff.2 hratings
  have hpos' : (0 : ℚ) < others.length := by exact_mod_cast List.length_pos_iff.2 hothers
  replace hfew : (ratings.length : ℚ) ≤ 2 ^ 15 := by exact_mod_cast hfew
  replace hfew' : (others.length : ℚ) ≤ 2 ^ 15 := by exact_mod_cast hfew'
  have hmean := exactMean_eq ratings
  have hmean' := exactMean_eq others
  generalize (ratings.map Rating.scoreTotal).sum = s at hmean
  generalize (others.map Rating.scoreTotal).sum = t at hmean'
  generalize ratings.length = n at *
  generalize others.length = k at *
  by_contra hlt
  rw [not_le] at hlt
  have hdiff : exactMean ratings - exactMean others = (s * k - t * n : ℤ) / (5 * n * k : ℚ) := by
    rw [hmean, hmean']
    push_cast
    field_simp
  have hne : (s * k - t * n : ℤ) ≠ 0 := by
    intro hzero
    rw [hzero, Int.cast_zero, zero_div] at hdiff
    linarith
  have hapart := one_div_le_abs_div hne (by positivity : (0 : ℚ) < 5 * n * k)
  rw [← hdiff, abs_of_pos (sub_pos.2 hlt)] at hapart
  have hnear : 1 / (5 * n * k : ℚ) ≤ (n + k) / 2 ^ 49 := by
    rw [drift, drift] at hdrift
    linarith
  rw [div_le_div_iff₀ (by positivity) (by positivity), one_mul] at hnear
  have hsmall : ((n + k) * (5 * n * k) : ℚ) ≤ (2 ^ 15 + 2 ^ 15) * (5 * 2 ^ 15 * 2 ^ 15) := by gcongr
  norm_num at hsmall hnear
  linarith

namespace Ledger

/-- More ratings than another book, or as many and the lower ISBN. -/
def WinsTie (l : Ledger) (a b : String) : Prop :=
  (l.ratingsOf b).length < (l.ratingsOf a).length ∨
    (l.ratingsOf a).length = (l.ratingsOf b).length ∧ a < b

/-- What is known of a book that comes before another one among the best rated ones. -/
structure Leads (l : Ledger) (a b : String) : Prop where
  close : exactMean (l.ratingsOf b) ≤ exactMean (l.ratingsOf a) +
    (drift (l.ratingsOf b).length + drift (l.ratingsOf a).length)
  /-- Books with so few ratings are in the order of their exact means. -/
  mean : (l.ratingsOf b).length ≤ 2 ^ 15 → (l.ratingsOf a).length ≤ 2 ^ 15 →
    exactMean (l.ratingsOf b) ≤ exactMean (l.ratingsOf a)
  /-- The tie is broken between the computed means. -/
  computed : meanOf l.ratings a = meanOf l.ratings b → l.WinsTie a b
  /-- With whole averages it is broken between the exact means. -/
  whole : (∀ r ∈ l.ratingsOf a, r.IsWhole) → (∀ r ∈ l.ratingsOf b, r.IsWhole) →
    exactMean (l.ratingsOf a) = exactMean (l.ratingsOf b) → l.WinsTie a b

variable {changes : List Change} {isbn a b : String} {least : ℤ}

/-- All ratings that are held carry an average. -/
theorem averagesOf_after (changes : List Change) (isbn : String) :
    averagesOf (after changes).ratings isbn =
      ((after changes).ratingsOf isbn).map Rating.average :=
  congrArg (List.map Rating.average) (filter_isRated isScored_of_mem_ratingsOf)

theorem mem_eligible_after :
    isbn ∈ eligible least (after changes).ratings ↔
      max 1 least ≤ ((after changes).ratingsOf isbn).length := by
  rw [eligible, Set.mem_ofPred_eq, averagesOf_after, List.length_map]

theorem ratingsOf_ne_nil (h : isbn ∈ eligible least (after changes).ratings) :
    (after changes).ratingsOf isbn ≠ [] := by
  have hone := (le_max_left 1 least).trans (mem_eligible_after.1 h)
  exact List.ne_nil_of_length_pos (by omega)

theorem meanOf_eq {mean : Float}
    (h : Payload.mean (((after changes).ratingsOf isbn).map Rating.average) = .ok mean) :
    meanOf (after changes).ratings isbn = mean := by
  rw [meanOf, averagesOf_after, h]

/-- The computed mean of a book is a number that is as close to the exact mean as the drift. -/
theorem meanOf_close (hne : (after changes).ratingsOf isbn ≠ [])
    (hlength : ((after changes).ratingsOf isbn).length ≤ 2 ^ 49) :
    HasMean (after changes).ratings isbn ∧
      ∃ mean, ofFloat? (meanOf (after changes).ratings isbn) = some mean ∧
        |mean.value - exactMean ((after changes).ratingsOf isbn)| ≤
          drift ((after changes).ratingsOf isbn).length := by
  obtain ⟨q, mean, hq, hmean, hclose⟩ := exists_mean_close isScored_of_mem_ratingsOf hne hlength
  refine ⟨⟨q, by rw [averagesOf_after, hq], not_isNaN_of_ofFloat? hmean⟩, mean, ?_, ?_⟩
  · rw [meanOf_eq hq, hmean]
  · linarith

/-- The computed mean of whole averages is the exact one, rounded. -/
theorem rounds_meanOf (hne : (after changes).ratingsOf isbn ≠ [])
    (hlength : ((after changes).ratingsOf isbn).length ≤ 2 ^ 49)
    (hwhole : ∀ r ∈ (after changes).ratingsOf isbn, r.IsWhole) :
    Rounds (exactMean ((after changes).ratingsOf isbn)) (meanOf (after changes).ratings isbn) := by
  obtain ⟨q, hq, hrounds⟩ := exists_mean_of_isWhole isScored_of_mem_ratingsOf hwhole hne hlength
  rwa [meanOf_eq hq]

/-- The order of the keys is that of the exact means, as far as these do not drift. -/
theorem leads_of_bestKey_lt (ha : (after changes).ratingsOf a ≠ [])
    (hb : (after changes).ratingsOf b ≠ [])
    (hlength : ∀ isbn, ((after changes).ratingsOf isbn).length ≤ 2 ^ 49)
    (h : (rankOf (after changes).ratings a).bestKey < (rankOf (after changes).ratings b).bestKey) :
    (after changes).Leads a b := by
  obtain ⟨-, mean, hmean, hclose⟩ := meanOf_close ha (hlength a)
  obtain ⟨-, mean', hmean', hclose'⟩ := meanOf_close hb (hlength b)
  rw [Rank.bestKey_lt_iff] at h
  simp only [rankOf, extended_of_ofFloat? hmean, extended_of_ofFloat? hmean', averagesOf_after,
    List.length_map, WithBot.coe_lt_coe, WithTop.coe_lt_coe, WithBot.coe_inj, WithTop.coe_inj] at h
  have hle : mean'.value ≤ mean.value := by
    rcases h with h | ⟨h, -⟩
    · exact h.le
    · exact h.ge
  have hdrift : exactMean ((after changes).ratingsOf b) ≤
      exactMean ((after changes).ratingsOf a) +
        (drift ((after changes).ratingsOf b).length +
          drift ((after changes).ratingsOf a).length) := by
    have := (abs_le.1 hclose).2
    have := (abs_le.1 hclose').1
    linarith
  have hcomputed : meanOf (after changes).ratings a = meanOf (after changes).ratings b →
      (after changes).WinsTie a b := by
    intro heq
    rw [heq, hmean', Option.some.injEq] at hmean
    subst hmean
    exact (h.resolve_left (lt_irrefl _)).2
  refine ⟨hdrift, fun hfew hfew' => exactMean_le_of_drift hb ha hfew hfew' hdrift, hcomputed,
    fun hwhole hwhole' heq => hcomputed ?_⟩
  have hrounds := rounds_meanOf ha (hlength a) hwhole
  rw [heq] at hrounds
  exact hrounds.unique (rounds_meanOf hb (hlength b) hwhole')

/-- Without a limit the best rated books are all that have enough ratings. They come in the order of
their exact means, as far as these do not drift, and then in the order of their computed means. -/
theorem topRated_leads (changes : List Change) (least : ℤ)
    (hlength : ∀ isbn, ((after changes).ratingsOf isbn).length ≤ 2 ^ 49) :
    ∃ isbns, (store.topRated least none).run (after changes) = (.ok isbns, after changes) ∧
      isbns.Nodup ∧
      (∀ isbn, isbn ∈ isbns ↔ max 1 least ≤ ((after changes).ratingsOf isbn).length) ∧
      isbns.Pairwise (after changes).Leads := by
  have hmeans : ∀ isbn ∈ eligible least (after changes).ratings,
      HasMean (after changes).ratings isbn := fun isbn hisbn =>
    (meanOf_close (ratingsOf_ne_nil hisbn) (hlength isbn)).1
  have hperm := List.mergeSort_perm (eligibleList least (after changes).ratings) fun a b =>
    (rankOf (after changes).ratings a).bestKey ≤ (rankOf (after changes).ratings b).bestKey
  refine ⟨_, by rw [run_topRated, topRated_eq hmeans]; rfl, hperm.nodup_iff.2 nodup_eligibleList,
    fun isbn => ?_, ?_⟩
  · exact hperm.mem_iff.trans (mem_eligibleList.trans mem_eligible_after)
  · refine List.Pairwise.imp_of_mem (fun {a b} ha hb hlt => ?_)
      (pairwise_inOrder (fun _ _ => Rank.isbn_eq_of_bestKey_eq) nodup_eligibleList)
    have hne : ∀ isbn ∈ inOrder _ (eligibleList least (after changes).ratings),
        (after changes).ratingsOf isbn ≠ [] := fun isbn hisbn =>
      ratingsOf_ne_nil (mem_eligibleList.1 (hperm.mem_iff.1 hisbn))
    exact leads_of_bestKey_lt (hne a ha) (hne b hb) hlength hlt

/-! ### Two books with the same exact mean -/

/-- Ratings of two books with averages of 2.8, two of the one and three of the other. -/
def twoBooks : List Change :=
  let scores := ⟨.int 3, .int 3, .int 3, .int 3, .int 2⟩
  submissions "1" (List.replicate 2 scores) ++ submissions "2" (List.replicate 3 scores)

theorem ratings_twoBooks : (after twoBooks).ratings.map (fun r => (r.isbn, r.scoreTotal)) =
    [("1", 14), ("1", 14), ("2", 14), ("2", 14), ("2", 14)] := by
  decide +kernel

theorem scoreTotals_twoBooks :
    ((after twoBooks).ratingsOf "1").map Rating.scoreTotal = [14, 14] ∧
      ((after twoBooks).ratingsOf "2").map Rating.scoreTotal = [14, 14, 14] := by
  have htotals (isbn : String) : ((after twoBooks).ratingsOf isbn).map Rating.scoreTotal =
      (((after twoBooks).ratings.map fun r => (r.isbn, r.scoreTotal)).filter
        (·.1 == isbn)).map Prod.snd := by
    rw [List.filter_map, List.map_map]
    rfl
  rw [htotals, htotals, ratings_twoBooks]
  exact ⟨rfl, rfl⟩

theorem counts_twoBooks : ((after twoBooks).ratingsOf "1").length = 2 ∧
    ((after twoBooks).ratingsOf "2").length = 3 :=
  ⟨by simpa using congrArg List.length scoreTotals_twoBooks.1,
    by simpa using congrArg List.length scoreTotals_twoBooks.2⟩

theorem length_twoBooks (isbn : String) : ((after twoBooks).ratingsOf isbn).length ≤ 2 ^ 49 := by
  have hlength : (after twoBooks).ratings.length = 5 := by
    simpa using congrArg List.length ratings_twoBooks
  exact (List.length_filter_le _ _).trans (by rw [hlength]; norm_num)

theorem topRated_leads_twoBooks :
    (∀ isbn, ((after twoBooks).ratingsOf isbn).length ≤ 2 ^ 49) ∧
      ∃ isbns, (store.topRated 2 none).run (after twoBooks) = (.ok isbns, after twoBooks) ∧
        "1" ∈ isbns ∧ "2" ∈ isbns ∧ isbns.Pairwise (after twoBooks).Leads := by
  obtain ⟨isbns, hrun, -, hmem, hleads⟩ := topRated_leads twoBooks 2 length_twoBooks
  exact ⟨length_twoBooks, isbns, hrun, (hmem "1").2 (by rw [counts_twoBooks.1]; decide),
    (hmem "2").2 (by rw [counts_twoBooks.2]; decide), hleads⟩

/-- The book with fewer ratings comes first, although both have the same exact mean: only its
computed mean is the exact one, rounded. -/
theorem topRated_twoBooks :
    exactMean ((after twoBooks).ratingsOf "1") = exactMean ((after twoBooks).ratingsOf "2") ∧
      ((after twoBooks).ratingsOf "1").length < ((after twoBooks).ratingsOf "2").length ∧
      (store.topRated 2 none).run (after twoBooks) = (.ok ["1", "2"], after twoBooks) := by
  refine ⟨?_, by rw [counts_twoBooks.1, counts_twoBooks.2]; decide, ?_⟩
  · rw [exactMean_eq, exactMean_eq, scoreTotals_twoBooks.1, scoreTotals_twoBooks.2,
      counts_twoBooks.1, counts_twoBooks.2]
    norm_num
  · have hmeans : ∀ isbn ∈ eligible 2 (after twoBooks).ratings,
        HasMean (after twoBooks).ratings isbn := fun isbn hisbn =>
      (meanOf_close (ratingsOf_ne_nil hisbn) (length_twoBooks isbn)).1
    obtain ⟨hbooks, hone, htwo, hbetter⟩ :
        eligibleList 2 (after twoBooks).ratings = ["1", "2"] ∧
          ¬(rankOf (after twoBooks).ratings "1").mean.isNaN ∧
          ¬(rankOf (after twoBooks).ratings "2").mean.isNaN ∧
          (rankOf (after twoBooks).ratings "1").better (rankOf (after twoBooks).ratings "2") := by
      decide +kernel
    have horder : inOrder (fun isbn => (rankOf (after twoBooks).ratings isbn).bestKey) ["1", "2"] =
        ["1", "2"] :=
      List.mergeSort_of_pairwise (by simpa using ((Rank.better_iff hone htwo).1 hbetter).le)
    rw [run_topRated, topRated_eq hmeans, hbooks, horder]
    rfl

end Ledger

end Bookfinder
