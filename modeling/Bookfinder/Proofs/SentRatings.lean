import Bookfinder.Proofs.Acceptance
import Bookfinder.Rating.Decoding

/-!
# Ratings that are sent and read again

A rating that is sent to a service comes back as it was, but for its average, which is worked out
anew from the scores, and its time, which is not sent. The reader of a record brings names and
review in order once more, and that changes nothing in a rating that was made in order
(`Rating.tidy_of_rating`).

`Rating.Spells` says what a record has to say of a rating. The order of the fields does not matter,
and a review that is not there is not sent. From such a record the rating is read
(`Rating.ofPayload_of_spells`), and two ratings that one record spells agree in all that is sent
(`Rating.Spells.unique`).
-/

namespace Bookfinder

namespace Rating

/-! ## Ratings that are made in order -/

theorem tidyReview_of_trimmedReview {p : Payload} {review : Option String}
    (h : Draft.trimmedReview p = .ok review) : tidyReview review = review := by
  unfold Draft.trimmedReview at h
  split at h
  · obtain rfl := Except.ok.inj h
    rfl
  · obtain ⟨s, -, hs⟩ := bind_eq_ok.1 h
    obtain rfl := Except.ok.inj hs
    by_cases hblank : Text.trim s = ""
    · simp [tidyReview, hblank]
    · simp [tidyReview, hblank]

theorem key_tidy (r : Rating) : r.tidy.key = keyOf r.username r.isbn := rfl

/-- A rating that is made of a draft is in order. -/
theorem tidy_of_rating {d : Draft} {r : Rating} (h : d.rating = .ok r) : r.tidy = r := by
  obtain ⟨username, -, h⟩ := bind_eq_ok.1 h
  obtain ⟨isbn, -, h⟩ := bind_eq_ok.1 h
  obtain ⟨review, hreview, h⟩ := bind_eq_ok.1 h
  have htidy := tidyReview_of_trimmedReview hreview
  dsimp only at h
  split at h
  all_goals
    obtain ⟨average, -, h⟩ := bind_eq_ok.1 h
    obtain rfl := Except.ok.inj h
    simp [tidy, htidy]

/-! ## Records that spell a rating -/

/-- The fields of a record say of a rating what is sent of it. -/
structure Spells (fields : Association Payload) (r : Rating) : Prop where
  username : Payload.get fields "username" = .text r.username
  isbn : Payload.get fields "isbn" = .text r.isbn
  score : ∀ c : Criterion, Payload.get fields c.name = r.scores.get c
  review : Payload.get fields "review" = .ofText? r.review
  average : Payload.get fields "average" = .null
  createdAt : Payload.get fields "data" = .null

theorem spells_submission (r : Rating) :
    ∃ fields, r.submission = .record fields ∧ Spells fields r := by
  obtain ⟨username, isbn, scores, review, average, createdAt⟩ := r
  refine ⟨_, rfl, ?_⟩
  cases review with
  | none => exact ⟨rfl, rfl, fun c => by cases c <;> rfl, rfl, rfl, rfl⟩
  | some s => exact ⟨rfl, rfl, fun c => by cases c <;> rfl, rfl, rfl, rfl⟩

/-- What is sent of a rating can be told from the fields. -/
theorem Spells.unique {fields others : Association Payload} {r other : Rating}
    (h : Spells fields r) (hother : Spells others other)
    (hsame : ∀ name, Payload.get fields name = Payload.get others name) :
    r.username = other.username ∧ r.isbn = other.isbn ∧
      (∀ c, r.scores.get c = other.scores.get c) ∧ r.review = other.review := by
  have hofText {s t : Option String} (hst : Payload.ofText? s = .ofText? t) : s = t := by
    cases s with
    | none => cases t <;> simp_all [Payload.ofText?]
    | some s => cases t <;> simp_all [Payload.ofText?]
  refine ⟨Payload.text.inj ?_, Payload.text.inj ?_, fun c => ?_, hofText ?_⟩
  · rw [← h.username, hsame, hother.username]
  · rw [← h.isbn, hsame, hother.isbn]
  · rw [← h.score, hsame, hother.score]
  · rw [← h.review, hsame, hother.review]

/-! ## Reading -/

variable {r : Rating}

/-- The scores of a rating without a flaw are read as they are. -/
theorem optionalScore_of_flawless (hr : r.flaw? = none) (c : Criterion) :
    optionalScore (r.scores.get c) = .ok (r.scores.get c) := by
  obtain ⟨i, hi, -⟩ := score_of_flawless hr c
  rw [hi]
  rfl

/-- Scores that are read without a fault. -/
theorem ofFnM_liftM {f : Criterion → Except Fault Payload} {scores : Scores Payload}
    (h : ∀ c, f c = .ok (scores.get c)) :
    (Scores.ofFnM fun c => (f c : Outcome Payload)) = pure scores := by
  simp only [Scores.ofFnM, h]
  rfl

/-- A draft with the names, the scores and the review of a rating makes this rating in order. -/
theorem rating_of_flawless (hr : r.flaw? = none) {average : Float}
    (haverage : Draft.averageOf r.scores = .ok average) (createdAt : Option Timestamp) :
    Draft.rating { r.draft with average := .null, createdAt } =
      .ok { r.tidy with average := .real average, createdAt } := by
  have hcomplete : Draft.isComplete r.scores = true := by
    simp only [Draft.isComplete, Scores.toList, List.all_map, List.all_eq_true]
    intro c _
    obtain ⟨i, hi, -⟩ := score_of_flawless hr c
    simp [hi]
  let d : Draft := { r.draft with average := .null, createdAt }
  have hmissing : (decide (d.average = .null) && Draft.isComplete d.scores) = true := by
    simp [d, draft, hcomplete]
  change d.rating = _
  simp only [Draft.rating, hmissing, if_true]
  simp only [d, draft, tidy, name_text, trimmedReview_ofText?, haverage]
  rfl

/-- A rating without a flaw is read from a record that spells it. Names and review are brought in
order, and the average is worked out. -/
theorem ofPayload_of_spells {fields : Association Payload} (h : Spells fields r)
    (hr : r.flaw? = none) {average : Float} (haverage : Draft.averageOf r.scores = .ok average) :
    ofPayload (.record fields) =
      ⟨.ok (some { r.tidy with average := .real average, createdAt := none }), []⟩ := by
  obtain ⟨husername, hisbn, -⟩ := flaw?_eq_none_iff.1 hr
  have hpresent : (!(Payload.text r.username).isPresent || !(Payload.text r.isbn).isPresent) =
      false := by
    simp [Payload.isPresent, husername, hisbn]
  have hscores := ofFnM_liftM (optionalScore_of_flawless hr)
  have hdecode : decode (.record fields) =
      some <$> (Draft.rating { r.draft with average := .null, createdAt := none } :
        Outcome Rating) := by
    change (if (!(Payload.get fields "username").isPresent ||
      !(Payload.get fields "isbn").isPresent) = true then _ else _) = _
    rw [h.username, h.isbn, if_neg (Bool.eq_false_iff.1 hpresent)]
    simp only [h.score, hscores, h.average, h.createdAt, h.review]
    rfl
  rw [rating_of_flawless hr haverage] at hdecode
  unfold ofPayload
  rw [hdecode]
  rfl

/-- A rating without a flaw that is sent and read again is the one that was sent, kept under the
same key, but for its average, which is the mean of its scores, and its time, which is missing. And
another rating of which the same is sent, in whatever order, agrees with it in names, scores and
review. -/
theorem ofPayload_submission {d : Draft} {r : Rating} (hd : d.rating = .ok r)
    (hvalid : r.validate = .ok ()) :
    (∃ (scores : List Int) (average : Float), r.scores.toList = scores.map .int ∧
      Draft.averageOf r.scores = .ok average ∧
      average = Decimal.toFloat ⟨false, 2 * scores.sum.toNat, -1⟩ ∧
      let back : Rating := { r with average := .real average, createdAt := none }
      ofPayload r.submission = ⟨.ok (some back), []⟩ ∧ back.key = r.key ∧
        keyOf back.username back.isbn = r.key) ∧
    ∀ (other : Rating) (fields others : Association Payload), r.submission = .record fields →
      other.submission = .record others →
        (∀ name, Payload.get fields name = Payload.get others name) →
          r.username = other.username ∧ r.isbn = other.isbn ∧
            (∀ c, r.scores.get c = other.scores.get c) ∧ r.review = other.review := by
  have hr : r.flaw? = none := by
    unfold validate at hvalid
    split at hvalid
    · cases hvalid
    · assumption
  have htidy := tidy_of_rating hd
  have hkey : keyOf r.username r.isbn = r.key := by rw [← key_tidy, htidy]
  constructor
  · obtain ⟨scores, hscores, haverage⟩ := averageOf_of_flawless hr
    obtain ⟨fields, hfields, hspells⟩ := spells_submission r
    have hback := ofPayload_of_spells hspells hr haverage
    rw [htidy] at hback
    exact ⟨scores, _, hscores, haverage, rfl, hfields ▸ hback, rfl, hkey⟩
  · intro other fields others hfields hothers hsame
    obtain ⟨_, hsent, hspells⟩ := spells_submission r
    obtain ⟨_, hsent', hspells'⟩ := spells_submission other
    obtain rfl := Payload.record.inj (hfields.symm.trans hsent)
    obtain rfl := Payload.record.inj (hothers.symm.trans hsent')
    exact hspells.unique hspells' hsame

/-- Names and a review with blanks around them, capitals in the name, and an average that is not the
mean of the scores. -/
theorem ofPayload_submission_untidy :
    let d : Draft :=
      { username := .text " ΟΔΥΣΣΕΥΣ ", isbn := .text "\t978 ",
        scores := ⟨.int 5, .int 4, .int 4, .int 3, .int 5⟩, review := .text " A long way.\n",
        average := .int 1, createdAt := none }
    let r : Rating :=
      { username := "οδυσσευς", isbn := "978", scores := d.scores, review := some "A long way.",
        average := .int 1, createdAt := none }
    d.rating = .ok r ∧ r.validate = .ok () ∧
      ∃ average, Draft.averageOf r.scores = .ok average ∧
        ofPayload r.submission = ⟨.ok (some { r with average := .real average }), []⟩ := by
  intro d r
  have hd : d.rating = .ok r := by decide +kernel
  have hvalid : r.validate = .ok () := by decide
  obtain ⟨⟨_, average, -, haverage, -, hback, -⟩, -⟩ := ofPayload_submission hd hvalid
  exact ⟨hd, hvalid, average, haverage, hback⟩

end Rating

end Bookfinder
