import Bookfinder.Proofs.SentRatings
import Bookfinder.Proofs.Words

/-!
# The normal form of a rating

Making a rating brings its fields in order, and what comes out needs no more of it. `IsNormal` says
how the fields are left: names and review as trimming and lower-casing leave them, and an average
wherever there are all scores to work it out from. Every rating that is made of some fields is so
(`Rating.isNormal_of_rating`), and a rating that is so is made again, the same, of its own fields
(`Rating.IsNormal.rating_draft`). A ledger makes each rating again that it keeps, and thus keeps it
as it came.
-/

namespace Bookfinder.Rating

/-- The fields are as making a rating leaves them. -/
structure IsNormal (r : Rating) : Prop where
  username : normalUsername r.username = r.username
  isbn : Text.trim r.isbn = r.isbn
  review : ∀ s ∈ r.review, ¬Text.isBlankText s ∧ Text.trim s = s
  /-- The average is missing only where a score is. -/
  average : r.average = .null → ∃ c, r.scores.get c = .null

variable {d : Draft} {r : Rating}

theorem isComplete_eq_false_iff {scores : Scores Payload} :
    Draft.isComplete scores = false ↔ ∃ c, scores.get c = .null := by
  simp only [Draft.isComplete, Scores.toList, List.all_map, List.all_eq_false, Function.comp_apply,
    bne_iff_ne, ne_eq, not_not]
  constructor
  · rintro ⟨c, -, hc⟩
    exact ⟨c, hc⟩
  · rintro ⟨c, hc⟩
    exact ⟨c, Criterion.mem_all c, hc⟩

theorem isBlankText_iff_trim {s : String} : Text.isBlankText s ↔ Text.trim s = "" := by
  rw [Text.isBlankText, ← Text.trimChars_eq_nil_iff, Text.trim, String.ofList_eq_empty_iff]

/-- A review is in order if it is missing, or more than blanks and trimmed. -/
theorem tidyReview_eq_self_iff {review : Option String} :
    tidyReview review = review ↔ ∀ s ∈ review, ¬Text.isBlankText s ∧ Text.trim s = s := by
  cases review with
  | none => simp [tidyReview]
  | some s => by_cases hs : Text.trim s = "" <;> simp [tidyReview, isBlankText_iff_trim, hs]

/-- The average is worked out if it can be. -/
theorem average_of_rating (h : d.rating = .ok r) (hnull : r.average = .null) :
    ∃ c, r.scores.get c = .null := by
  obtain ⟨username, -, h⟩ := bind_eq_ok.1 h
  obtain ⟨isbn, -, h⟩ := bind_eq_ok.1 h
  obtain ⟨review, -, h⟩ := bind_eq_ok.1 h
  dsimp only at h
  split at h
  · obtain ⟨average, haverage, h⟩ := bind_eq_ok.1 h
    obtain ⟨x, -, hx⟩ := bind_eq_ok.1 haverage
    obtain rfl := Except.ok.inj h
    obtain rfl := Except.ok.inj hx
    cases hnull
  · next hmissing =>
    obtain ⟨average, haverage, h⟩ := bind_eq_ok.1 h
    obtain rfl := Except.ok.inj h
    obtain rfl := Except.ok.inj haverage
    refine isComplete_eq_false_iff.1 (Bool.eq_false_iff.2 fun hcomplete => hmissing ?_)
    simp [show d.average = .null from hnull, hcomplete]

theorem tidy_eq_self_iff : r.tidy = r ↔ normalUsername r.username = r.username ∧
    Text.trim r.isbn = r.isbn ∧ ∀ s ∈ r.review, ¬Text.isBlankText s ∧ Text.trim s = s := by
  rw [← tidyReview_eq_self_iff]
  obtain ⟨username, isbn, scores, review, average, createdAt⟩ := r
  simp [tidy]

theorem isNormal_of_rating (h : d.rating = .ok r) : r.IsNormal := by
  obtain ⟨husername, hisbn, hreview⟩ := tidy_eq_self_iff.1 (tidy_of_rating h)
  exact ⟨husername, hisbn, hreview, average_of_rating h⟩

/-- A rating in normal form is made again of its own fields. -/
theorem IsNormal.rating_draft (h : r.IsNormal) : r.draft.rating = .ok r := by
  rw [rating_draft_of_settled fun hnull => isComplete_eq_false_iff.2 (h.average hnull),
    tidy_eq_self_iff.2 ⟨h.username, h.isbn, h.review⟩]

/-- A rating that is made of some fields is in normal form. It is made again of its own fields, and
a ledger keeps it as it is. -/
theorem normal_of_rating (h : d.rating = .ok r) :
    r.IsNormal ∧ r.draft.rating = .ok r ∧
      ∀ l : Ledger, (Ledger.store.save r).run l = (.ok r, l.put r) := by
  have hnormal := isNormal_of_rating h
  have hagain := hnormal.rating_draft
  refine ⟨hnormal, hagain, fun l => ?_⟩
  simp only [Ledger.store, hagain]
  rfl

/-- A name with a capital that is longer in lower case and one that depends on its place, a review
between wide blanks, and scores of which one is a truth value. -/
theorem normal_of_rating_untidy :
    let d : Draft :=
      { username := .text "\u00A0İΣΑΑΣ\n", isbn := .text "\t 978",
        review := .text "\u3000Σ Σ\u2003", scores := ⟨.int 5, .bool true, .int 4, .int 4, .int 3⟩,
        average := .null, createdAt := none }
    let r : Rating :=
      { username := "i\u0307σαας", isbn := "978", review := some "Σ Σ", scores := d.scores,
        average := .real (Decimal.toFloat ⟨false, 34, -1⟩), createdAt := none }
    d.rating = .ok r ∧ r.draft.rating = .ok r ∧
      (Ledger.store.save r).run .empty = (.ok r, Ledger.empty.put r) := by
  intro d r
  have hd : d.rating = .ok r := by decide +kernel
  obtain ⟨-, hagain, hsave⟩ := normal_of_rating hd
  exact ⟨hd, hagain, hsave .empty⟩

end Bookfinder.Rating
