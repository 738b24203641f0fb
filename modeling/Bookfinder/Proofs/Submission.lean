import Bookfinder.Proofs.Lowercase
import Bookfinder.Rating.Ledger
import Mathlib.Algebra.Ring.Int.Defs
import Mathlib.Data.List.Basic

/-!
# Submitted ratings

A submission is refused for its first flaw, or it is kept: in order (`Rating.tidy`), with the mean
of its scores for an average and the time of the clock (`Rating.stamped`). The mean is always there.
Five scores from one to five come to a total from five to twenty-five, and twice that total is the
mean in tenths (`averageOf_of_flawless`).

`Ledger.run_submit`, `Ledger.run_get` and `Ledger.run_remove` say what a ledger answers and what it
holds afterwards. Names may be spelled in any way: `Rating.keyOf` is what a rating is kept under.
-/

namespace Bookfinder

namespace Rating

/-! ## Ratings in order -/

/-- What a rating is kept under. -/
def key (r : Rating) : String × String := (r.username, r.isbn)

/-- What the rating of a reader for a book is kept under, however the names are spelled. -/
def keyOf (username isbn : String) : String × String := (normalUsername username, Text.trim isbn)

/-- A review without blanks around it; none if it is blank. -/
def tidyReview (review : Option String) : Option String :=
  review.bind fun s => if (Text.trim s).isEmpty then none else some (Text.trim s)

/-- A rating with its names and its review in order. -/
def tidy (r : Rating) : Rating :=
  { r with
    username := normalUsername r.username
    isbn := Text.trim r.isbn
    review := tidyReview r.review }

@[simp] theorem tidyReview_tidyReview (review : Option String) :
    tidyReview (tidyReview review) = tidyReview review := by
  cases review with
  | none => rfl
  | some s => by_cases hs : Text.trim s = "" <;> simp [tidyReview, hs]

@[simp] theorem name_text (s : String) : Draft.name (.text s) = .ok s := by
  by_cases hs : s.isEmpty
  · simp [Draft.name, Payload.isPresent, String.isEmpty_iff.1 hs]
  · simp [Draft.name, Payload.isPresent, Payload.asText, hs]

theorem trimmedReview_ofText? (review : Option String) :
    Draft.trimmedReview (.ofText? review) = .ok (tidyReview review) := by
  cases review with
  | none => rfl
  | some s => rfl

/-- A rating whose average is missing only with a score is made anew by bringing it in order. -/
theorem rating_draft_of_settled {r : Rating}
    (h : r.average = .null → Draft.isComplete r.scores = false) :
    r.draft.rating = .ok r.tidy := by
  have haverage : (decide (r.draft.average = .null) && Draft.isComplete r.draft.scores) = false :=
    Bool.and_eq_false_imp.2 fun hnull => h (of_decide_eq_true hnull)
  simp only [Draft.rating, haverage]
  simp only [draft, name_text, trimmedReview_ofText?]
  rfl

/-- A rating that has an average is made anew by bringing it in order. -/
theorem rating_draft {r : Rating} (h : r.average ≠ .null) : r.draft.rating = .ok r.tidy :=
  rating_draft_of_settled fun hnull => absurd hnull h

/-- A rating that is made of a draft has its names in order, and its scores. -/
theorem fields_of_rating {d : Draft} {r : Rating} (h : d.rating = .ok r) :
    ∃ username isbn, Draft.name d.username = .ok username ∧ Draft.name d.isbn = .ok isbn ∧
      r.key = keyOf username isbn ∧ r.scores = d.scores := by
  unfold Draft.rating at h
  obtain ⟨username, hu, h⟩ := bind_eq_ok.1 h
  obtain ⟨isbn, hi, h⟩ := bind_eq_ok.1 h
  obtain ⟨review, -, h⟩ := bind_eq_ok.1 h
  refine ⟨username, isbn, hu, hi, ?_⟩
  dsimp only at h
  split at h
  · obtain ⟨average, -, h⟩ := bind_eq_ok.1 h
    obtain rfl := Except.ok.inj h
    exact ⟨rfl, rfl⟩
  · obtain ⟨average, -, h⟩ := bind_eq_ok.1 h
    obtain rfl := Except.ok.inj h
    exact ⟨rfl, rfl⟩

/-- A rating that is made of a draft has the key of the names in the draft. -/
theorem keyOf_of_rating {d : Draft} {r : Rating} {username isbn : String} (h : d.rating = .ok r)
    (hu : d.username = .text username) (hi : d.isbn = .text isbn) :
    keyOf r.username r.isbn = keyOf username isbn := by
  obtain ⟨u, i, hu', hi', hkey, -⟩ := fields_of_rating h
  rw [hu, name_text] at hu'
  rw [hi, name_text] at hi'
  obtain rfl := Except.ok.inj hu'
  obtain rfl := Except.ok.inj hi'
  obtain ⟨hname, hbook⟩ := Prod.mk.inj hkey
  rw [hname, hbook]
  simp [keyOf]

/-! ## The mean of five scores -/

theorem scoreFlaw?_eq_none {c : Criterion} {p : Payload} (h : scoreFlaw? c p = none) :
    ∃ i, p = .int i ∧ 1 ≤ i ∧ i ≤ 5 := by
  cases p with
  | int i =>
    by_cases hi : minScore ≤ i ∧ i ≤ maxScore
    · exact ⟨i, rfl, hi⟩
    · simp [scoreFlaw?, hi] at h
  | null => cases h
  | bool => cases h
  | real => cases h
  | text => cases h
  | list => cases h
  | record => cases h

theorem score_of_flawless {r : Rating} (h : r.flaw? = none) (c : Criterion) :
    ∃ i, r.scores.get c = .int i ∧ 1 ≤ i ∧ i ≤ 5 := by
  unfold flaw? at h
  split at h
  · cases h
  · split at h
    · cases h
    · exact scoreFlaw?_eq_none (List.findSome?_eq_none_iff.1 h c (Criterion.mem_all c))

theorem sum_ints (is : List Int) : Payload.sum (is.map .int) = .ok (.int is.sum) := by
  have hfrom : ∀ start : Int,
      (is.map Payload.int).foldlM (fun total p => do
        (Number.add total (← p.toNumber)).elim (.error .overflow) .ok) (.int start) =
      Except.ok (.int (start + is.sum)) := by
    induction is with
    | nil => intro start; simp [pure, Except.pure]
    | cons i is ih =>
      intro start
      rw [List.map_cons, List.foldlM_cons, List.sum_cons, ← Int.add_assoc]
      exact ih (start + i)
  rw [Payload.sum, hfrom, Int.zero_add]

/-- The mean of five scores of a given total, to two places, is twice the total in tenths. -/
theorem halfUp_fifth : ∀ total : Nat, total < 26 → 5 ≤ total →
    ((Binary.ofQuotient? (total : Int) 5).bind fun x =>
      ((Payload.real x).halfUp Payload.shownPlaces).toOption) =
        some (Decimal.toFloat ⟨false, 2 * total, -1⟩) := by
  decide

/-- The average of a submission without a flaw: the scores are whole numbers, and twice their total
is their mean in tenths. -/
theorem averageOf_of_flawless {r : Rating} (h : r.flaw? = none) :
    ∃ is : List Int, r.scores.toList = is.map .int ∧
      Draft.averageOf r.scores = .ok (Decimal.toFloat ⟨false, 2 * is.sum.toNat, -1⟩) := by
  choose score hscore hlow hhigh using score_of_flawless h
  have hlist : r.scores.toList = (Criterion.all.map score).map .int := by
    simp [Scores.toList, hscore]
  have htotal : 5 ≤ (Criterion.all.map score).sum ∧ (Criterion.all.map score).sum ≤ 25 := by
    simp only [Criterion.all, List.map_cons, List.map_nil, List.sum_cons, List.sum_nil]
    have := hlow .style
    have := hlow .content
    have := hlow .pleasantness
    have := hlow .originality
    have := hlow .edition
    have := hhigh .style
    have := hhigh .content
    have := hhigh .pleasantness
    have := hhigh .originality
    have := hhigh .edition
    omega
  refine ⟨Criterion.all.map score, hlist, ?_⟩
  obtain ⟨total, ht⟩ := Int.eq_ofNat_of_zero_le (by omega : 0 ≤ (Criterion.all.map score).sum)
  rw [ht] at htotal
  have hmean := halfUp_fifth total (by omega) (by omega)
  obtain ⟨x, hx, hround⟩ := Option.bind_eq_some_iff.1 hmean
  have hrounded : (Payload.real x).halfUp Payload.shownPlaces =
      .ok (Decimal.toFloat ⟨false, 2 * total, -1⟩) := by
    cases hr : (Payload.real x).halfUp Payload.shownPlaces with
    | error e =>
      rw [hr] at hround
      cases hround
    | ok y =>
      rw [hr] at hround
      rw [Option.some.inj hround]
  have hquotient : (Number.int (total : Int)).divCount 5 = some x := hx
  rw [Draft.averageOf, hlist, Payload.mean, sum_ints, ht]
  change (((Number.int total).divCount 5).elim (.error .overflow) .ok >>= fun x =>
    (Payload.real x).halfUp Payload.shownPlaces) = _
  rw [hquotient]
  exact hrounded

/-- What a submission is kept as. -/
def stamped (r : Rating) (average : Float) (time : Timestamp) : Rating :=
  { r.tidy with average := .real average, createdAt := some time }

theorem rating_restamped (r : Rating) (average : Float) (time : Timestamp) :
    Draft.rating { r.draft with average := .real average, createdAt := some time } =
      .ok (r.stamped average time) := by
  let restamped : Rating := { r with average := .real average, createdAt := some time }
  have hne : restamped.average ≠ .null := nofun
  exact rating_draft hne

/-- What is kept is in order, so that keeping it again changes nothing. -/
theorem rating_draft_stamped (r : Rating) (average : Float) (time : Timestamp) :
    (r.stamped average time).draft.rating = .ok (r.stamped average time) := by
  have hne : (r.stamped average time).average ≠ .null := nofun
  rw [rating_draft hne]
  simp [stamped, tidy]

end Rating

/-! ## What a ledger answers -/

namespace Ledger

open Rating

variable (l : Ledger)

/-- The rating of a reader for a book, whatever the spelling of their names. -/
theorem run_get (username isbn : String) :
    (store.get (.text username) (.text isbn)).run l =
      (.ok (l.find? (normalUsername username) (Text.trim isbn)), l) := rfl

theorem run_remove (username isbn : String) :
    (store.remove (.text username) (.text isbn)).run l =
      (.ok (l.find? (normalUsername username) (Text.trim isbn)).isSome,
        l.erase (normalUsername username) (Text.trim isbn)) := rfl

theorem save_stamped (r : Rating) (average : Float) (time : Timestamp) :
    store.save (r.stamped average time) =
      Action.update fun l => (r.stamped average time, l.put (r.stamped average time)) := by
  simp only [store, rating_draft_stamped]
  rfl

/-- A submission without a flaw is kept, in order and with the mean of its scores. -/
theorem run_submit {r : Rating} {average : Float} (hr : r.flaw? = none)
    (ha : Draft.averageOf r.scores = .ok average) (time : Timestamp) :
    (store.submit (pure time) r).run l =
      (.ok (r.stamped average time), l.put (r.stamped average time)) := by
  have hvalid : r.validate = .ok () := by rw [validate, hr]
  unfold RatingStore.submit
  rw [hvalid, ha]
  simp only [Action.liftM_ok, pure_bind, rating_restamped, save_stamped, Action.run_bind, run_get]
  rfl

/-- A submission with a flaw is refused for it, and changes nothing. -/
theorem run_submit_of_flaw {r : Rating} {flaw : Flaw} (hr : r.flaw? = some flaw)
    (now : Action Ledger Timestamp) :
    (store.submit now r).run l = (.fail (.invalidRating flaw), l) := by
  have hvalid : r.validate = .error (.invalidRating flaw) := by rw [validate, hr]
  unfold RatingStore.submit
  rw [hvalid]
  rfl

end Ledger

end Bookfinder
