import Bookfinder.Proofs.BinaryValue
import Bookfinder.Rating.Ledger

/-!
# Rankings of books

Both rankings put the averages of each book together (`standings`), rank the books by their mean and
their number, and show a start of the list. Where every mean is a number the comparison of two ranks
is that of their keys (`Rank.better_iff`, `Rank.busier_iff`), which tell any two books apart. So the
list is the one that its books have in the order of the keys (`topRated_eq`, `mostReviewed_eq`),
whatever order they came in (`inOrder_of_perm`), and a start of it has the books with the least keys
(`Selects`, `Ledger.rankings`).
-/

namespace Bookfinder

/-! ## Standings -/

/-- The averages of the ratings of a book, in their order. -/
def averagesOf (ratings : List Rating) (isbn : String) : List Payload :=
  ((ratings.filter (·.isbn == isbn)).filter Rating.isRated).map Rating.average

/-- The averages under an ISBN among standings. -/
def averagesIn (isbn : String) : List Standing → List Payload
  | [] => []
  | s :: rest => if s.isbn = isbn then s.averages else averagesIn isbn rest

/-- An average that is added stands last under its ISBN. -/
theorem averagesIn_addAverage (isbn name : String) (average : Payload) (all : List Standing) :
    averagesIn name (addAverage isbn average all) =
      averagesIn name all ++ if isbn = name then [average] else [] := by
  induction all with
  | nil =>
    by_cases h : isbn = name <;> simp [addAverage, averagesIn, h]
  | cons s rest ih =>
    rw [addAverage]
    by_cases hs : s.isbn = isbn
    · by_cases h : isbn = name <;> simp [averagesIn, hs, h]
    · rw [if_neg hs, averagesIn, averagesIn, ih]
      by_cases h : s.isbn = name
      · have : isbn ≠ name := fun h' => hs (h.trans h'.symm)
        simp [h, this]
      · simp [h]

/-- A book gets a standing with its first average, behind the others. -/
theorem isbns_addAverage (isbn : String) (average : Payload) (all : List Standing) :
    (addAverage isbn average all).map Standing.isbn =
      if isbn ∈ all.map Standing.isbn then all.map Standing.isbn
      else all.map Standing.isbn ++ [isbn] := by
  induction all with
  | nil => rfl
  | cons s rest ih =>
    rw [addAverage]
    by_cases hs : s.isbn = isbn
    · simp [hs]
    · rw [if_neg hs, List.map_cons, ih]
      have hne : isbn ≠ s.isbn := fun h => hs h.symm
      simp only [List.map_cons, List.mem_cons, hne, false_or]
      split <;> rfl

/-- The last rating adds its average to those of its book, if it has one. -/
theorem averagesOf_concat (ratings : List Rating) (r : Rating) (isbn : String) :
    averagesOf (ratings ++ [r]) isbn =
      averagesOf ratings isbn ++ if r.isbn = isbn ∧ r.isRated then [r.average] else [] := by
  by_cases hr : r.isbn = isbn <;> by_cases hrated : r.isRated <;>
    simp [averagesOf, List.filter_append, hr, hrated]

/-- One more rating adds its average to the standings, if it carries one. -/
theorem standings_concat (ratings : List Rating) (r : Rating) :
    standings (ratings ++ [r]) =
      if r.isRated then addAverage r.isbn r.average (standings ratings) else standings ratings := by
  by_cases hr : r.isRated <;> simp [standings, List.filter_append, List.foldl_append, hr]

/-- A book has a standing only if it has averages. -/
theorem averages_ne_nil_of_mem_addAverage {isbn : String} {average : Payload} {all : List Standing}
    (h : ∀ s ∈ all, s.averages ≠ []) : ∀ s ∈ addAverage isbn average all, s.averages ≠ [] := by
  induction all with
  | nil => simp [addAverage]
  | cons s rest ih =>
    obtain ⟨hs, hrest⟩ := List.forall_mem_cons.1 h
    rw [addAverage]
    split
    · exact List.forall_mem_cons.2 ⟨by simp, hrest⟩
    · exact List.forall_mem_cons.2 ⟨hs, ih hrest⟩

/-- Where no ISBN stands twice, a standing has all averages under its ISBN. -/
theorem averagesIn_of_mem {all : List Standing} (h : (all.map Standing.isbn).Nodup) {s : Standing}
    (hs : s ∈ all) : averagesIn s.isbn all = s.averages := by
  induction all with
  | nil => cases hs
  | cons t rest ih =>
    obtain ⟨ht, hrest⟩ := List.nodup_cons.1 h
    rw [averagesIn]
    rcases List.mem_cons.1 hs with rfl | hs
    · rw [if_pos rfl]
    · have hne : t.isbn ≠ s.isbn := fun heq => ht (heq ▸ List.mem_map_of_mem hs)
      rw [if_neg hne, ih hrest hs]

theorem mem_of_averagesIn_ne_nil {all : List Standing} {isbn : String}
    (h : averagesIn isbn all ≠ []) : ∃ s ∈ all, s.isbn = isbn := by
  induction all with
  | nil => exact absurd rfl h
  | cons s rest ih =>
    rw [averagesIn] at h
    split at h
    · next heq => exact ⟨s, by simp, heq⟩
    · obtain ⟨t, ht, heq⟩ := ih h
      exact ⟨t, by simp [ht], heq⟩

/-- Each rated book has one standing, with the averages of its ratings. -/
structure HasStandings (ratings : List Rating) (all : List Standing) : Prop where
  nodup : (all.map Standing.isbn).Nodup
  averages : ∀ isbn, averagesIn isbn all = averagesOf ratings isbn
  rated : ∀ s ∈ all, s.averages ≠ []

/-- Standings have what they should have. The induction takes the ratings from the last one on, as
they were added. -/
theorem hasStandings (ratings : List Rating) : HasStandings ratings (standings ratings) := by
  induction ratings using List.reverseRecOn with
  | nil => exact ⟨List.nodup_nil, fun _ => rfl, by simp [standings]⟩
  | append_singleton ratings r ih =>
    rw [standings_concat]
    by_cases hr : r.isRated
    · rw [if_pos hr]
      refine ⟨?_, fun isbn => ?_, averages_ne_nil_of_mem_addAverage ih.rated⟩
      · rw [isbns_addAverage]
        split
        · exact ih.nodup
        · next hnew => exact ih.nodup.append (List.nodup_singleton _) (by simpa using hnew)
      · rw [averagesIn_addAverage, ih.averages, averagesOf_concat]
        simp [hr]
    · rw [if_neg hr]
      refine ⟨ih.nodup, fun isbn => ?_, ih.rated⟩
      rw [ih.averages, averagesOf_concat]
      simp [hr]

/-- A standing has the averages of its book, in the order of the ratings. -/
theorem averages_of_mem_standings {ratings : List Rating} {s : Standing}
    (hs : s ∈ standings ratings) : s.averages = averagesOf ratings s.isbn := by
  rw [← averagesIn_of_mem (hasStandings ratings).nodup hs, (hasStandings ratings).averages]

/-! ## The books of a ranking -/

/-- The books with at least so many ratings that carry an average, and with at least one. -/
def eligible (least : ℤ) (ratings : List Rating) : Set String :=
  {isbn | max 1 least ≤ (averagesOf ratings isbn).length}

/-- These books, in the order in which they first came. -/
def eligibleList (least : ℤ) (ratings : List Rating) : List String :=
  ((standings ratings).filter fun s => least ≤ s.averages.length).map Standing.isbn

variable {least : ℤ} {ratings : List Rating}

/-- No book is eligible twice. -/
theorem nodup_eligibleList : (eligibleList least ratings).Nodup :=
  (hasStandings ratings).nodup.sublist (List.filter_sublist.map _)

/-- The standings with enough averages are those of the eligible books. -/
theorem mem_eligibleList {isbn : String} :
    isbn ∈ eligibleList least ratings ↔ isbn ∈ eligible least ratings := by
  have hpos {ps : List Payload} : ps ≠ [] ↔ (1 : ℤ) ≤ ps.length := by
    rw [← List.length_pos_iff]
    omega
  rw [eligibleList, List.mem_map, eligible, Set.mem_ofPred_eq, max_le_iff]
  constructor
  · rintro ⟨s, hs, rfl⟩
    obtain ⟨hs, hleast⟩ := List.mem_filter.1 hs
    rw [← averages_of_mem_standings hs]
    exact ⟨hpos.1 ((hasStandings ratings).rated s hs), by simpa using hleast⟩
  · rintro ⟨hone, hleast⟩
    rw [← (hasStandings ratings).averages] at hone
    obtain ⟨s, hs, rfl⟩ := mem_of_averagesIn_ne_nil (hpos.2 hone)
    refine ⟨s, List.mem_filter.2 ⟨hs, ?_⟩, rfl⟩
    rw [averages_of_mem_standings hs]
    simpa using hleast

/-! ## Keys -/

namespace Rank

open Binary

/-- What books are ordered by in the ranking of the best rated ones: the highest mean first, of
equal means the one of most ratings, and then by ISBN. -/
def bestKey (r : Rank) : (WithBot (WithTop ℚ))ᵒᵈ ×ₗ ℕᵒᵈ ×ₗ String :=
  toLex (.toDual (extended r.mean), toLex (.toDual r.count, r.isbn))

/-- What books are ordered by in the ranking of the most reviewed ones. -/
def busiestKey (r : Rank) : ℕᵒᵈ ×ₗ (WithBot (WithTop ℚ))ᵒᵈ ×ₗ String :=
  toLex (.toDual r.count, toLex (.toDual (extended r.mean), r.isbn))

variable {a b : Rank}

/-- The last part of each key is the ISBN. -/
theorem isbn_eq_of_bestKey_eq (h : a.bestKey = b.bestKey) : a.isbn = b.isbn :=
  congrArg (fun key => (ofLex (ofLex key).2).2) h

theorem isbn_eq_of_busiestKey_eq (h : a.busiestKey = b.busiestKey) : a.isbn = b.isbn :=
  congrArg (fun key => (ofLex (ofLex key).2).2) h

/-- Means are compared as extended numbers. -/
theorem higherMean_iff (ha : ¬a.mean.isNaN) (hb : ¬b.mean.isNaN) {tie : Bool} :
    higherMean a b tie ↔ extended b.mean < extended a.mean ∨
      extended a.mean = extended b.mean ∧ tie = true := by
  rw [higherMean]
  split
  · next h =>
    rw [(beq_iff_extended ha hb).1 h]
    simp
  · next h =>
    have hne := mt (beq_iff_extended ha hb).2 h
    rw [decide_eq_true_iff, lt_iff_extended hb ha]
    simp [hne]

theorem moreRatings_iff {tie : Bool} :
    moreRatings a b tie ↔ b.count < a.count ∨ a.count = b.count ∧ tie = true := by
  rw [moreRatings]
  split
  · next h => simp [h]
  · next h => simp [h]

/-- Ahead is the higher mean, then the larger number of ratings, then the smaller ISBN. -/
theorem bestKey_lt_iff : a.bestKey < b.bestKey ↔ extended b.mean < extended a.mean ∨
    extended a.mean = extended b.mean ∧
      (b.count < a.count ∨ a.count = b.count ∧ a.isbn < b.isbn) := by
  rw [bestKey, bestKey, Prod.Lex.toLex_lt_toLex, Prod.Lex.toLex_lt_toLex]
  simp

/-- Ahead is the larger number of ratings, then the higher mean, then the smaller ISBN. -/
theorem busiestKey_lt_iff : a.busiestKey < b.busiestKey ↔ b.count < a.count ∨
    a.count = b.count ∧ (extended b.mean < extended a.mean ∨
      extended a.mean = extended b.mean ∧ a.isbn < b.isbn) := by
  rw [busiestKey, busiestKey, Prod.Lex.toLex_lt_toLex, Prod.Lex.toLex_lt_toLex]
  simp

/-- Of two means that are numbers, the comparison is the one of the keys. -/
theorem better_iff (ha : ¬a.mean.isNaN) (hb : ¬b.mean.isNaN) :
    better a b ↔ a.bestKey < b.bestKey := by
  rw [better, higherMean_iff ha hb, moreRatings_iff, bestKey_lt_iff, decide_eq_true_iff]

/-- The comparison of the most reviewed books is that of their keys. -/
theorem busier_iff (ha : ¬a.mean.isNaN) (hb : ¬b.mean.isNaN) :
    busier a b ↔ a.busiestKey < b.busiestKey := by
  rw [busier, moreRatings_iff, higherMean_iff ha hb, busiestKey_lt_iff, decide_eq_true_iff]

/-- Ranks without a mean that is no number are sorted by their keys. -/
theorem sorted_eq {κ : Type} [LinearOrder κ] {before : Rank → Rank → Bool} {key : Rank → κ}
    (hkey : ∀ {a b : Rank}, ¬a.mean.isNaN → ¬b.mean.isNaN → (before a b ↔ key a < key b))
    {rank : String → Rank} {isbns : List String} (h : ∀ isbn ∈ isbns, ¬(rank isbn).mean.isNaN) :
    sorted before (isbns.map rank) =
      (isbns.mergeSort fun a b => key (rank a) ≤ key (rank b)).map rank := by
  have hnone : (isbns.map rank).any (·.mean.isNaN) = false := by
    rw [List.any_eq_false]
    intro r hr
    obtain ⟨isbn, hisbn, rfl⟩ := List.mem_map.1 hr
    exact h isbn hisbn
  rw [sorted, hnone, List.map_mergeSort]
  · rfl
  · intro a ha b hb
    have := hkey (h b hb) (h a ha)
    rw [Bool.eq_iff_iff, decide_eq_true_iff, Bool.not_eq_true', ← Bool.not_eq_true, this, not_lt]

end Rank

/-! ## Starts of a sorted list -/

section Selections

variable {κ : Type} [LinearOrder κ] {key : String → κ} {isbns others : List String}

/-- The books with the least keys, as many as asked for, in the order of their keys. -/
structure Selects (books : Set String) (key : String → κ) (limit : Option ℤ)
    (isbns : List String) : Prop where
  nodup : isbns.Nodup
  subset : ∀ isbn ∈ isbns, isbn ∈ books
  increasing : isbns.Pairwise fun a b => key a < key b
  finite : books.Finite
  length : (isbns.length : ℤ) = limit.elim (books.ncard : ℤ) (min · books.ncard)
  leftOut : ∀ isbn ∈ books, isbn ∉ isbns → ∀ other ∈ isbns, key other < key isbn

/-- Books in the order of their keys. -/
def inOrder (key : String → κ) (isbns : List String) : List String :=
  isbns.mergeSort fun a b => key a ≤ key b

/-- Keys that tell books apart increase along the order. -/
theorem pairwise_inOrder (hkey : Function.Injective key) (hnodup : isbns.Nodup) :
    (inOrder key isbns).Pairwise fun a b => key a < key b := by
  have hsorted : (inOrder key isbns).Pairwise fun a b => decide (key a ≤ key b) = true :=
    List.pairwise_mergeSort
      (fun a b c hab hbc => by simpa using le_trans (of_decide_eq_true hab) (of_decide_eq_true hbc))
      (fun a b => by simpa using le_total (key a) (key b)) isbns
  have hle : (inOrder key isbns).Pairwise fun a b => key a ≤ key b := by simpa using hsorted
  have hne : (inOrder key isbns).Pairwise fun a b => a ≠ b :=
    (List.mergeSort_perm isbns _).nodup_iff.2 hnodup
  exact hle.imp₂ (fun a b h h' => lt_of_le_of_ne h fun heq => h' (hkey heq)) hne

/-- The order of the books before they are sorted does not matter. -/
theorem inOrder_of_perm (hkey : Function.Injective key) (hnodup : isbns.Nodup)
    (hperm : isbns.Perm others) : inOrder key isbns = inOrder key others := by
  refine List.Perm.eq_of_pairwise (fun a b _ _ hab hba => absurd hba hab.not_gt)
    (pairwise_inOrder hkey hnodup) (pairwise_inOrder hkey (hperm.nodup_iff.1 hnodup)) ?_
  exact (List.mergeSort_perm _ _).trans (hperm.trans (List.mergeSort_perm _ _).symm)

/-- A limit that is not negative keeps a start of a list. -/
theorem upTo_of_nonneg {limit : Option ℤ} (h : ∀ n ∈ limit, 0 ≤ n) {α : Type} (as : List α) :
    upTo limit as = as.take (limit.elim as.length Int.toNat) := by
  cases limit with
  | none => simp [upTo]
  | some n => simp [upTo, h n rfl]

/-- A start of the books in order has those with the least keys. -/
theorem selects_upTo {books : Set String} (hkey : Function.Injective key)
    (hnodup : isbns.Nodup) (hmem : ∀ isbn, isbn ∈ isbns ↔ isbn ∈ books) {limit : Option ℤ}
    (hlimit : ∀ n ∈ limit, 0 ≤ n) : Selects books key limit (upTo limit (inOrder key isbns)) := by
  have hperm : (inOrder key isbns).Perm isbns := List.mergeSort_perm isbns _
  have hincreasing := pairwise_inOrder hkey hnodup
  have hset : books = (isbns.toFinset : Set String) := by
    ext isbn
    simp [hmem]
  have hcount : books.ncard = isbns.length := by
    rw [hset, Set.ncard_coe_finset, List.toFinset_card_of_nodup hnodup]
  rw [upTo_of_nonneg hlimit]
  generalize hn : limit.elim (inOrder key isbns).length Int.toNat = n
  refine ⟨?_, ?_, hincreasing.sublist (List.take_sublist _ _), ?_, ?_, ?_⟩
  case refine_1 => exact (hperm.nodup_iff.2 hnodup).sublist (List.take_sublist _ _)
  case refine_2 =>
    intro isbn hisbn
    exact (hmem isbn).1 (hperm.mem_iff.1 (List.mem_of_mem_take hisbn))
  case refine_3 =>
    rw [hset]
    exact Finset.finite_toSet _
  case refine_4 =>
    rw [hcount, List.length_take, hperm.length_eq]
    cases limit with
    | none =>
      rw [Option.elim_none, hperm.length_eq] at hn
      simp [← hn]
    | some m =>
      have := hlimit m rfl
      rw [Option.elim_some] at hn ⊢
      omega
  case refine_5 =>
    intro isbn hisbn hout other hother
    have hin : isbn ∈ inOrder key isbns := hperm.mem_iff.2 ((hmem isbn).2 hisbn)
    rw [← List.take_append_drop n (inOrder key isbns)] at hin hincreasing
    have hrest : isbn ∈ (inOrder key isbns).drop n := (List.mem_append.1 hin).resolve_left hout
    exact (List.pairwise_append.1 hincreasing).2.2 other hother isbn hrest

end Selections

/-! ## Rankings -/

section Rankings

/-- The mean of the ratings of a book; zero if it cannot be worked out. -/
def meanOf (ratings : List Rating) (isbn : String) : Float :=
  match Payload.mean (averagesOf ratings isbn) with
  | .ok mean => mean
  | .error _ => 0

/-- The figures that a book is ranked by. -/
def rankOf (ratings : List Rating) (isbn : String) : Rank :=
  ⟨isbn, meanOf ratings isbn, (averagesOf ratings isbn).length⟩

/-- The mean of the ratings of a book can be worked out, and it is a number. -/
def HasMean (ratings : List Rating) (isbn : String) : Prop :=
  ∃ mean, Payload.mean (averagesOf ratings isbn) = .ok mean ∧ ¬mean.isNaN

theorem mapM_eq_ok {ε α β : Type} {f : α → Except ε β} {g : α → β} {as : List α}
    (h : ∀ a ∈ as, f a = .ok (g a)) : as.mapM f = .ok (as.map g) := by
  induction as with
  | nil => rfl
  | cons a as ih =>
    obtain ⟨ha, has⟩ := List.forall_mem_cons.1 h
    rw [List.mapM_cons, ha, ih has]
    rfl

/-- A limit counts elements, whatever they are. -/
theorem upTo_map {α β : Type} (limit : Option ℤ) (f : α → β) (as : List α) :
    upTo limit (as.map f) = (upTo limit as).map f := by
  unfold upTo
  cases limit with
  | none => rfl
  | some n =>
    dsimp only
    split <;> simp

variable {κ : Type} [LinearOrder κ]

/-- Ranked standings are their books in the order of the keys. -/
theorem ranked_eq {before : Rank → Rank → Bool} {key : Rank → κ}
    (hkey : ∀ {a b : Rank}, ¬a.mean.isNaN → ¬b.mean.isNaN → (before a b ↔ key a < key b))
    {all : List Standing} (hall : ∀ s ∈ all, s ∈ standings ratings ∧ HasMean ratings s.isbn)
    (limit : Option ℤ) :
    (all.mapM Rank.ofStanding >>= fun ranks =>
      pure ((upTo limit (Rank.sorted before ranks)).map Rank.isbn)) =
        Except.ok (ε := Fault) (upTo limit
          (inOrder (fun isbn => key (rankOf ratings isbn)) (all.map Standing.isbn))) := by
  have hrank : ∀ s ∈ all, Rank.ofStanding s = .ok (rankOf ratings s.isbn) := by
    intro s hs
    obtain ⟨hmem, mean, hmean, -⟩ := hall s hs
    rw [Rank.ofStanding, averages_of_mem_standings hmem, hmean, rankOf, meanOf, hmean]
    rfl
  have hnumbers : ∀ isbn ∈ all.map Standing.isbn, ¬(rankOf ratings isbn).mean.isNaN := by
    intro isbn hisbn
    obtain ⟨s, hs, rfl⟩ := List.mem_map.1 hisbn
    obtain ⟨-, mean, hmean, hnumber⟩ := hall s hs
    rwa [rankOf, meanOf, hmean]
  rw [mapM_eq_ok hrank]
  change Except.ok ((upTo limit (Rank.sorted before (all.map fun s => rankOf ratings s.isbn))).map
    Rank.isbn) = _
  have hmap : (all.map fun s => rankOf ratings s.isbn) =
      (all.map Standing.isbn).map (rankOf ratings) := by simp
  have hisbn : (Rank.isbn ∘ rankOf ratings) = id := rfl
  rw [hmap, Rank.sorted_eq hkey hnumbers, upTo_map, List.map_map, hisbn, List.map_id]
  rfl

/-- The best rated books are a start of the eligible ones in the order of their keys. -/
theorem topRated_eq (h : ∀ isbn ∈ eligible least ratings, HasMean ratings isbn) (limit : Option ℤ) :
    topRated least limit ratings = .ok (upTo limit
      (inOrder (fun isbn => (rankOf ratings isbn).bestKey) (eligibleList least ratings))) := by
  refine ranked_eq Rank.better_iff (fun s hs => ⟨(List.mem_filter.1 hs).1, h s.isbn ?_⟩) limit
  exact mem_eligibleList.1 (List.mem_map_of_mem hs)

/-- All rated books are ranked by the number of their ratings. -/
theorem eligibleList_one (ratings : List Rating) :
    eligibleList 1 ratings = (standings ratings).map Standing.isbn := by
  rw [eligibleList, List.filter_eq_self.2]
  intro s hs
  have := List.length_pos_iff.2 ((hasStandings ratings).rated s hs)
  simp only [decide_eq_true_eq]
  omega

/-- The most reviewed books are a start of all rated ones in the order of their keys. -/
theorem mostReviewed_eq (h : ∀ isbn ∈ eligible 1 ratings, HasMean ratings isbn) (limit : Option ℤ) :
    mostReviewed limit ratings = .ok (upTo limit
      (inOrder (fun isbn => (rankOf ratings isbn).busiestKey) (eligibleList 1 ratings))) := by
  rw [eligibleList_one]
  refine ranked_eq Rank.busier_iff (fun s hs => ⟨hs, h s.isbn ?_⟩) limit
  rw [← mem_eligibleList, eligibleList_one]
  exact List.mem_map_of_mem hs

/-- The ratings of each book are the same, in the same order. -/
def SameByBook (ratings others : List Rating) : Prop :=
  ∀ isbn, ratings.filter (·.isbn == isbn) = others.filter (·.isbn == isbn)

variable {others : List Rating}

/-- The figures of a book do not see how the ratings of other books lie between its own. -/
theorem SameByBook.averagesOf (h : SameByBook ratings others) :
    averagesOf ratings = averagesOf others := by
  funext isbn
  rw [Bookfinder.averagesOf, h isbn, Bookfinder.averagesOf]

/-- Ratings that are the same book by book rank books alike. -/
theorem SameByBook.rankOf (h : SameByBook ratings others) : rankOf ratings = rankOf others := by
  funext isbn
  rw [Bookfinder.rankOf, Bookfinder.rankOf, meanOf, meanOf, h.averagesOf]

theorem SameByBook.hasMean (h : SameByBook ratings others) : HasMean ratings = HasMean others := by
  funext isbn
  rw [HasMean, HasMean, h.averagesOf]

/-- They make the same books eligible. -/
theorem SameByBook.eligible (h : SameByBook ratings others) :
    eligible least ratings = eligible least others := by
  rw [Bookfinder.eligible, Bookfinder.eligible, h.averagesOf]

/-- The same books are eligible, though they may come in another order. -/
theorem SameByBook.perm (h : SameByBook ratings others) :
    (eligibleList least ratings).Perm (eligibleList least others) := by
  rw [List.perm_ext_iff_of_nodup nodup_eligibleList nodup_eligibleList]
  intro isbn
  rw [mem_eligibleList, mem_eligibleList, h.eligible]

end Rankings

namespace Ledger

variable {κ : Type} [LinearOrder κ]

/-- A ranking of some books of a ledger by a key. -/
structure IsRanking (rank : Option ℤ → Action Ledger (List String)) (books : Set String)
    (key : String → κ) (l : Ledger) : Prop where
  selects : ∀ limit, (∀ n ∈ limit, 0 ≤ n) →
    ∃ isbns, (rank limit).run l = (.ok isbns, l) ∧ Selects books key limit isbns
  /-- A higher limit adds books at the end. -/
  grows : ∀ k : ℕ, ∃ fewer more, (rank (some k)).run l = (.ok fewer, l) ∧
    (rank (some (k + 1))).run l = (.ok more, l) ∧ List.IsPrefix fewer more
  /-- Only the order among the ratings of one book matters. -/
  regrouped : ∀ limit (other : Ledger), SameByBook l.ratings other.ratings →
    (((rank limit).run other).1 = ((rank limit).run l).1)

theorem run_topRated (l : Ledger) (least : ℤ) (limit : Option ℤ) :
    (store.topRated least limit).run l =
      (.ofExcept (Bookfinder.topRated least limit l.ratings), l) := rfl

theorem run_mostReviewed (l : Ledger) (limit : Option ℤ) :
    (store.mostReviewed limit).run l =
      (.ofExcept (Bookfinder.mostReviewed limit l.ratings), l) := rfl

/-- What shows a start of the books in the order of a key with the ISBN is a ranking. -/
theorem isRanking_of_inOrder {rank : Option ℤ → Action Ledger (List String)} {key : Rank → κ}
    (hkey : ∀ {a b : Rank}, key a = key b → a.isbn = b.isbn) {least : ℤ}
    (hrun : ∀ {l : Ledger}, (∀ isbn ∈ eligible least l.ratings, HasMean l.ratings isbn) → ∀ limit,
      (rank limit).run l = (.ok (upTo limit
        (inOrder (fun isbn => key (rankOf l.ratings isbn)) (eligibleList least l.ratings))), l))
    {l : Ledger} (h : ∀ isbn ∈ eligible least l.ratings, HasMean l.ratings isbn) :
    IsRanking rank (eligible least l.ratings) (fun isbn => key (rankOf l.ratings isbn)) l := by
  have hinjective : Function.Injective fun isbn => key (rankOf l.ratings isbn) := fun _ _ => hkey
  refine ⟨fun limit hlimit => ⟨_, hrun h limit, ?_⟩, fun k => ⟨_, _, hrun h _, hrun h _, ?_⟩,
    fun limit other hother => ?_⟩
  case refine_1 =>
    exact selects_upTo hinjective nodup_eligibleList (fun _ => mem_eligibleList) hlimit
  case refine_2 =>
    rw [upTo_of_nonneg (by simp), upTo_of_nonneg (by simp; omega)]
    exact List.take_prefix_take_left (by simp)
  case refine_3 =>
    have h' : ∀ isbn ∈ eligible least other.ratings, HasMean other.ratings isbn := by
      rw [← hother.eligible, ← hother.hasMean]
      exact h
    rw [hrun h, hrun h', ← hother.rankOf, inOrder_of_perm hinjective nodup_eligibleList hother.perm]

/-- The top rated books are ranked by their means first. -/
theorem isRanking_topRated {l : Ledger} {least : ℤ}
    (h : ∀ isbn ∈ eligible least l.ratings, HasMean l.ratings isbn) :
    IsRanking (store.topRated least) (eligible least l.ratings)
      (fun isbn => (rankOf l.ratings isbn).bestKey) l := by
  refine isRanking_of_inOrder Rank.isbn_eq_of_bestKey_eq (fun {l} h limit => ?_) h
  rw [run_topRated, topRated_eq h]
  rfl

/-- The most reviewed books are ranked by the numbers of their ratings first. -/
theorem isRanking_mostReviewed {l : Ledger}
    (h : ∀ isbn ∈ eligible 1 l.ratings, HasMean l.ratings isbn) :
    IsRanking store.mostReviewed (eligible 1 l.ratings)
      (fun isbn => (rankOf l.ratings isbn).busiestKey) l := by
  refine isRanking_of_inOrder Rank.isbn_eq_of_busiestKey_eq (fun {l} h limit => ?_) h
  rw [run_mostReviewed, mostReviewed_eq h]
  rfl

/-- As long as the means can be worked out and are numbers, the best rated books are those with
enough ratings, by mean, by count and by ISBN, and the most reviewed ones are all that are rated, by
count, by mean and by ISBN. -/
theorem rankings (least : ℤ) (l : Ledger) :
    ((∀ isbn ∈ eligible least l.ratings, HasMean l.ratings isbn) →
      IsRanking (store.topRated least) (eligible least l.ratings)
        (fun isbn => (rankOf l.ratings isbn).bestKey) l) ∧
    ((∀ isbn ∈ eligible 1 l.ratings, HasMean l.ratings isbn) →
      IsRanking store.mostReviewed (eligible 1 l.ratings)
        (fun isbn => (rankOf l.ratings isbn).busiestKey) l) :=
  ⟨isRanking_topRated, isRanking_mostReviewed⟩

/-- Four ratings of two books, one after the other, with averages that no score made. -/
def interleaved : Ledger :=
  let rating (username isbn : String) (average : Float) : Rating :=
    ⟨username, isbn, Scores.ofFn fun _ => .null, none, .real average, none⟩
  ⟨[rating "ann" "1" (Binary.nearest false 7 2), rating "ann" "2" (Binary.nearest false 4 1),
    rating "bob" "1" (Binary.nearest false 9 2), rating "bob" "2" (Binary.nearest true 1 3)]⟩

/-- One book of the best rated ones, and all that are rated. -/
theorem rankings_interleaved :
    (∀ isbn ∈ eligible 1 interleaved.ratings, HasMean interleaved.ratings isbn) ∧
    (∀ isbn ∈ eligible 2 interleaved.ratings, HasMean interleaved.ratings isbn) ∧
    (∃ isbns, (store.topRated 2 (some 1)).run interleaved = (.ok isbns, interleaved) ∧
      Selects (eligible 2 interleaved.ratings)
        (fun isbn => (rankOf interleaved.ratings isbn).bestKey) (some 1) isbns) ∧
    ∃ isbns, (store.mostReviewed none).run interleaved = (.ok isbns, interleaved) ∧
      Selects (eligible 1 interleaved.ratings)
        (fun isbn => (rankOf interleaved.ratings isbn).busiestKey) none isbns := by
  have hmeans {least : ℤ} : ∀ isbn ∈ eligible least interleaved.ratings,
      HasMean interleaved.ratings isbn := by
    intro isbn hisbn
    have hmem : isbn ∈ (standings interleaved.ratings).map Standing.isbn :=
      (List.filter_sublist.map _).subset (mem_eligibleList.2 hisbn)
    have hbooks : (standings interleaved.ratings).map Standing.isbn = ["1", "2"] := by
      decide +kernel
    rw [hbooks] at hmem
    simp only [List.mem_cons, List.not_mem_nil, or_false] at hmem
    rcases hmem with rfl | rfl
    · exact ⟨_, rfl, by decide +kernel⟩
    · exact ⟨_, rfl, by decide +kernel⟩
  exact ⟨hmeans, hmeans, ((rankings 2 interleaved).1 hmeans).selects (some 1) (by simp),
    ((rankings 2 interleaved).2 hmeans).selects none (by simp)⟩

end Ledger

end Bookfinder
