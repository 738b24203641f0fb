import Bookfinder.Proofs.BookStatistics
import Mathlib.Algebra.BigOperators.Group.Finset.Piecewise

/-!
# The figures of all ratings

The figures of all ratings and those of each book are worked out apart from each other, from
different lists. A summary says of the list of all ratings what the figures of a book say of its own
(`Summary.Describes`), and what is counted in a list is counted once in its parts
(`sum_countP_filter`). The parts are the ratings of each book of a ledger (`Ledger.books`), which
are looked up under its own ISBN, since a ledger keeps none with blanks around it
(`Ledger.Reachable.trim_isbn`). So the summary is the sum of the figures of the books
(`Ledger.summary_adds_up`).
-/

namespace Bookfinder

/-! ## Lists in parts -/

/-- What is counted in a list is counted once in its parts. -/
theorem sum_countP_filter {α β : Type} [DecidableEq β] {f : α → β} {keys : Finset β} (p : α → Bool)
    {as : List α} (h : ∀ a ∈ as, f a ∈ keys) :
    ∑ k ∈ keys, (as.filter (f · == k)).countP p = as.countP p := by
  induction as with
  | nil => simp
  | cons a as ih =>
    obtain ⟨ha, has⟩ := List.forall_mem_cons.1 h
    have hstep : ∀ k, ((a :: as).filter (f · == k)).countP p =
        (as.filter (f · == k)).countP p + if f a = k then (if p a then 1 else 0) else 0 := by
      intro k
      by_cases hk : f a = k
      · rw [List.filter_cons_of_pos (by simpa using hk), List.countP_cons, if_pos hk]
      · rw [List.filter_cons_of_neg (by simpa using hk), if_neg hk, Nat.add_zero]
    simp only [hstep]
    rw [Finset.sum_add_distrib, ih has, Finset.sum_ite_eq, if_pos ha, List.countP_cons]

theorem length_eraseDups : ∀ names : List String, names.eraseDups.length = names.toFinset.card
  | [] => rfl
  | name :: names => by
    have hinsert := Finset.card_erase_add_one (Finset.mem_insert_self name names.toFinset)
    have hrest : (names.filter fun b => !b == name).toFinset = names.toFinset.erase name := by
      ext b
      simp [and_comm]
    rw [List.eraseDups_cons, List.length_cons, length_eraseDups (names.filter _), hrest,
      List.toFinset_cons, ← hinsert, Finset.erase_insert_eq_erase]
termination_by names => names.length
decreasing_by
  exact Nat.lt_succ_of_le (List.length_filter_le _ _)

/-! ## What a summary says -/

namespace Summary

/-- What a summary says about all ratings that carry an average. -/
structure Describes (s : Summary) (rated : List Rating) : Prop where
  total : s.total = rated.length
  count : ∀ star, s.stars.get star = rated.countP (Rating.hasStars star)
  withReview : s.withReview ≤ s.total
  readers : s.readers = (rated.map Rating.username).toFinset.card

variable {s : Summary} {ratings : List Rating}

theorem describes_of_ofRatings (h : ofRatings ratings = .ok s) :
    s.Describes (ratings.filter Rating.isRated) := by
  unfold ofRatings at h
  dsimp only at h
  split at h
  · next hnone =>
    obtain rfl := Except.ok.inj h
    rw [List.isEmpty_iff.1 hnone]
    exact ⟨rfl, fun star => by cases star <;> rfl, Nat.le_refl 0, rfl⟩
  · obtain ⟨stars, hstars, h⟩ := bind_eq_ok.1 h
    obtain ⟨average, -, h⟩ := bind_eq_ok.1 h
    obtain rfl := Except.ok.inj h
    exact ⟨rfl, StarCounts.get_of_ofRatings hstars, List.length_filter_le _ _, length_eraseDups _⟩

/-- The most reviewed books do not matter. -/
theorem Describes.congr (h : s.Describes ratings) (books : List String) :
    Describes { s with mostReviewed := books } ratings :=
  ⟨h.total, h.count, h.withReview, h.readers⟩

end Summary

/-- What each step keeps of an element is kept of the list. -/
theorem map_eq_of_mapM {α β γ : Type} {f : α → Except Fault β} {g : β → γ} {g' : α → γ}
    (hf : ∀ a b, f a = .ok b → g b = g' a) {as : List α} {bs : List β} (h : as.mapM f = .ok bs) :
    bs.map g = as.map g' := by
  induction as generalizing bs with
  | nil =>
    obtain rfl := Except.ok.inj h
    rfl
  | cons a as ih =>
    rw [List.mapM_cons] at h
    obtain ⟨b, hb, h⟩ := bind_eq_ok.1 h
    obtain ⟨rest, hrest, h⟩ := bind_eq_ok.1 h
    obtain rfl := Except.ok.inj h
    rw [List.map_cons, List.map_cons, hf a b hb, ih hrest]

/-- Without a limit, the most reviewed books are all that are rated. -/
theorem mem_mostReviewed {ratings : List Rating} {books : List String}
    (h : mostReviewed none ratings = .ok books) (isbn : String) :
    isbn ∈ books ↔ averagesOf ratings isbn ≠ [] := by
  obtain ⟨ranks, hranks, h⟩ := bind_eq_ok.1 h
  obtain rfl := Except.ok.inj h
  have hisbns : ranks.map Rank.isbn = (standings ratings).map Standing.isbn := by
    refine map_eq_of_mapM (fun standing rank hrank => ?_) hranks
    obtain ⟨mean, -, hrank⟩ := bind_eq_ok.1 hrank
    obtain rfl := Except.ok.inj hrank
    rfl
  have hperm : ((Rank.sorted Rank.busier ranks).map Rank.isbn).Perm (eligibleList 1 ratings) := by
    rw [eligibleList_one, ← hisbns]
    exact (Rank.sorted_perm _ _).map _
  rw [upTo, hperm.mem_iff, mem_eligibleList, eligible, Set.mem_ofPred_eq, ← List.length_pos_iff]
  omega

namespace Ledger

/-! ## What a ledger may hold -/

/-- What calls to save and to remove ratings leave of an empty ledger. -/
inductive Reachable : Ledger → Prop
  | empty : Reachable empty
  | save {l : Ledger} (h : Reachable l) (r : Rating) : Reachable ((store.save r).run l).2
  | remove {l : Ledger} (h : Reachable l) (username isbn : Payload) :
    Reachable ((store.remove username isbn).run l).2

variable {l : Ledger}

theorem mem_of_mem_put {r s : Rating} (h : s ∈ (l.put r).ratings) : s = r ∨ s ∈ l.ratings := by
  obtain ⟨ratings⟩ := l
  change s ∈ putIn r ratings at h
  induction ratings with
  | nil => exact Or.inl (List.mem_singleton.1 h)
  | cons t rest ih =>
    rw [putIn] at h
    split at h
    · exact (List.mem_cons.1 h).imp_right (List.mem_cons_of_mem t)
    · rcases List.mem_cons.1 h with rfl | h
      · exact Or.inr List.mem_cons_self
      · exact (ih h).imp_right (List.mem_cons_of_mem t)

/-- A rating is kept as it is made anew of its fields. -/
theorem mem_of_mem_save {r s : Rating} (h : s ∈ ((store.save r).run l).2.ratings) :
    r.draft.rating = .ok s ∨ s ∈ l.ratings := by
  have hrun : ((store.save r).run l).2 =
      match r.draft.rating with
      | .ok kept => l.put kept
      | .error _ => l := by
    change (((r.draft.rating : Action Ledger Rating) >>= fun kept =>
      Action.update fun l => (kept, l.put kept)).run l).2 = _
    cases r.draft.rating <;> rfl
  rw [hrun] at h
  cases hmade : r.draft.rating with
  | error e =>
    rw [hmade] at h
    exact Or.inr h
  | ok kept =>
    rw [hmade] at h
    exact (mem_of_mem_put h).imp_left fun heq => by rw [heq]

/-- A removal leaves only what was there. -/
theorem mem_of_mem_remove {username isbn : Payload} {s : Rating}
    (h : s ∈ ((store.remove username isbn).run l).2.ratings) : s ∈ l.ratings := by
  have hrun : ((store.remove username isbn).run l).2 =
      match key username isbn with
      | .ok k => l.erase k.1 k.2
      | .error _ => l := by
    change (((key username isbn : Action Ledger (String × String)) >>= fun k =>
      Action.update fun l => ((l.find? k.1 k.2).isSome, l.erase k.1 k.2)).run l).2 = _
    cases key username isbn <;> rfl
  rw [hrun] at h
  split at h
  · exact (List.mem_filter.1 h).1
  · exact h

/-- A ledger keeps no ISBN with blanks around it. -/
theorem Reachable.trim_isbn (h : l.Reachable) : ∀ r ∈ l.ratings, Text.trim r.isbn = r.isbn := by
  induction h with
  | empty => simp [Ledger.empty]
  | save _ r ih =>
    intro s hs
    rcases mem_of_mem_save hs with hmade | hs
    · obtain ⟨_, isbn, -, -, hkey, -⟩ := Rating.fields_of_rating hmade
      rw [show s.isbn = Text.trim isbn from congrArg Prod.snd hkey, Text.trim_trim]
    · exact ih s hs
  | remove _ username isbn ih => exact fun s hs => ih s (mem_of_mem_remove hs)

/-! ## The books of a ledger -/

/-- The ISBNs of the ratings. -/
def books (l : Ledger) : Finset String := (l.ratings.map Rating.isbn).toFinset

/-- The ratings that carry an average. -/
def rated (l : Ledger) : List Rating := l.ratings.filter Rating.isRated

/-- The rated ratings are those of the books together. -/
theorem sum_countP_ratedOf (l : Ledger) (p : Rating → Bool) :
    ∑ isbn ∈ l.books, (l.ratedOf isbn).countP p = l.rated.countP p := by
  have hmem : ∀ r ∈ l.ratings, r.isbn ∈ l.books := fun r hr =>
    List.mem_toFinset.2 (List.mem_map_of_mem hr)
  rw [rated, List.countP_filter, ← sum_countP_filter _ hmem]
  exact Finset.sum_congr rfl fun isbn _ => List.countP_filter

theorem describes_of_summary {top : Option ℤ} {s : Summary}
    (h : ((store.summary top).run l).1.result = .ok s) : s.Describes l.rated := by
  obtain ⟨ratings, hratings, h⟩ := Action.result_bind_eq_ok.1 h
  obtain rfl : l.ratings = ratings := Except.ok.inj hratings
  obtain ⟨figures, hfigures, h⟩ := Action.result_bind_eq_ok.1 h
  have hdescribes := Summary.describes_of_ofRatings hfigures
  split at h
  · obtain rfl := Except.ok.inj h
    exact hdescribes
  · obtain ⟨books, -, h⟩ := Action.result_bind_eq_ok.1 h
    obtain rfl := Except.ok.inj h
    exact hdescribes.congr books

/-- A summary adds up the figures of the books. The most reviewed books are those that have ratings,
whatever blanks are around their ISBNs. -/
theorem summary_adds_up (l : Ledger) (hl : l.Reachable) (top : Option ℤ) (s : Summary)
    (figures : String → Statistics) (hsummary : ((store.summary top).run l).1.result = .ok s)
    (hfigures : ∀ isbn ∈ l.books,
      ((store.statistics (.text isbn)).run l).1.result = .ok (figures isbn)) :
    (s.total : ℤ) = ∑ isbn ∈ l.books, (figures isbn).total ∧
    (∀ star, s.stars.get star = ∑ isbn ∈ l.books, (figures isbn).stars.get star) ∧
    s.withReview ≤ s.total ∧
    s.readers = {username | ∃ r ∈ l.ratings, r.isRated ∧ r.username = username}.ncard ∧
    ∀ ranking, ((store.mostReviewed none).run l).1.result = .ok ranking →
      (∀ isbn ∈ l.books, isbn ∈ ranking ↔ (figures isbn).hasRatings) ∧
      ∀ isbn t, ((store.statistics (.text isbn)).run l).1.result = .ok t →
        (Text.trim isbn ∈ ranking ↔ t.hasRatings) := by
  have htrim : ∀ isbn ∈ l.books, Text.trim isbn = isbn := by
    intro isbn hisbn
    obtain ⟨r, hr, rfl⟩ := List.mem_map.1 (List.mem_toFinset.1 hisbn)
    exact hl.trim_isbn r hr
  have hdescribes := describes_of_summary hsummary
  have hbooks : ∀ isbn ∈ l.books, (figures isbn).Describes (l.ratedOf isbn) := by
    intro isbn hisbn
    have := describes_of_statistics (hfigures isbn hisbn)
    rwa [htrim isbn hisbn] at this
  refine ⟨?_, fun star => ?_, hdescribes.withReview, ?_, fun ranking hranking => ?_⟩
  case refine_1 =>
    rw [hdescribes.total, Finset.sum_congr rfl fun isbn hisbn => (hbooks isbn hisbn).total]
    simp only [← List.countP_true, ← Nat.cast_sum, sum_countP_ratedOf]
  case refine_2 =>
    rw [hdescribes.count, Finset.sum_congr rfl fun isbn hisbn => (hbooks isbn hisbn).count star,
      ← Nat.cast_sum, sum_countP_ratedOf]
  case refine_3 =>
    have hreaders : {username | ∃ r ∈ l.ratings, r.isRated ∧ r.username = username} =
        ((l.rated.map Rating.username).toFinset : Set String) := by
      ext username
      simp [rated, and_assoc]
    rw [hdescribes.readers, hreaders, Set.ncard_coe_finset]
  case refine_4 =>
    have hrated : ∀ isbn t, ((store.statistics (.text isbn)).run l).1.result = .ok t →
        (Text.trim isbn ∈ ranking ↔ t.hasRatings) := by
      intro isbn t ht
      rw [mem_mostReviewed hranking, Statistics.hasRatings, (describes_of_statistics ht).total]
      simp [averagesOf, ratedOf, ratingsOf, List.length_pos_iff]
    refine ⟨fun isbn hisbn => ?_, hrated⟩
    have := hrated isbn (figures isbn) (hfigures isbn hisbn)
    rwa [htrim isbn hisbn] at this

theorem reachable_interleaved : interleaved.Reachable := by
  have hsaves : interleaved =
      interleaved.ratings.foldl (fun l r => ((store.save r).run l).2) Ledger.empty := by
    decide +kernel
  have hall : ∀ (ratings : List Rating) (l : Ledger), l.Reachable →
      (ratings.foldl (fun l r => ((store.save r).run l).2) l).Reachable := by
    intro ratings
    induction ratings with
    | nil => exact fun l hl => hl
    | cons r ratings ih => exact fun l hl => ih _ (hl.save r)
  rw [hsaves]
  exact hall _ _ .empty

theorem summary_adds_up_interleaved :
    ∃ s, ∃ figures : String → Statistics, interleaved.Reachable ∧
      ((store.summary none).run interleaved).1.result = .ok s ∧
      (∀ isbn ∈ interleaved.books,
        ((store.statistics (.text isbn)).run interleaved).1.result = .ok (figures isbn)) ∧
      s.total = 4 ∧ (s.total : ℤ) = (figures "1").total + (figures "2").total := by
  have hbooks : interleaved.books = {"1", "2"} := by decide +kernel
  have hfigures : ∀ isbn ∈ interleaved.books, ∃ figures,
      ((store.statistics (.text isbn)).run interleaved).1.result = .ok figures := by
    intro isbn hisbn
    rw [hbooks, Finset.mem_insert, Finset.mem_singleton] at hisbn
    rcases hisbn with rfl | rfl
    · rw [run_statistics (by decide), newest_interleaved]
      exact ⟨_, rfl⟩
    · rw [run_statistics (by decide), newest_interleaved]
      exact ⟨_, rfl⟩
  have : Nonempty Statistics := ⟨.unrated ""⟩
  choose! figures hfigures using hfigures
  obtain ⟨s, hs⟩ : ∃ s, ((store.summary none).run interleaved).1.result = .ok s := ⟨_, rfl⟩
  obtain ⟨htotal, -⟩ :=
    summary_adds_up interleaved reachable_interleaved none s figures hs hfigures
  refine ⟨s, figures, reachable_interleaved, hs, hfigures, ?_, ?_⟩
  · rw [(describes_of_summary hs).total]
    decide +kernel
  · rw [htotal, hbooks, Finset.sum_pair (by decide)]

end Ledger

end Bookfinder
