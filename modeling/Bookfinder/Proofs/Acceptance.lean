import Bookfinder.Proofs.Simulation
import Bookfinder.Proofs.Submission

/-!
# What a submission needs

A submission may have several flaws at once. They stand in an order (`Flaw.all`): first the names,
then the scores, each of which may be missing or out of range. `Rating.Has` says when a rating has a
flaw, and a submission is refused for the first one that it has (`Rating.flaw?_eq_find?`).

A clock has a state of its own beside that of the store (`RatingStore.submitAt`). On any store, a
submission with a flaw is refused before anything is touched, and any other one reads the clock once
and is then left to the store (`RatingStore.run_submitAt`).
-/

namespace Bookfinder

/-! ## Flaws in order -/

/-- All flaws, in the order in which they are looked for. -/
def Flaw.all : List Flaw :=
  .missingUsername :: .missingIsbn ::
    Criterion.all.flatMap fun c => [.missingScore c, .scoreOutOfRange c]

namespace Rating

/-- A score is a whole number from one to five; a truth value is none. -/
def IsScore : Payload → Prop
  | .int i => minScore ≤ i ∧ i ≤ maxScore
  | _ => False

instance : DecidablePred IsScore
  | .int i => inferInstanceAs (Decidable (minScore ≤ i ∧ i ≤ maxScore))
  | .null | .bool _ | .real _ | .text _ | .list _ | .record _ => isFalse id

/-- The rating has a flaw. -/
def Has (r : Rating) : Flaw → Prop
  | .missingUsername => r.username = ""
  | .missingIsbn => r.isbn = ""
  | .missingScore c => r.scores.get c = .null
  | .scoreOutOfRange c => ¬IsScore (r.scores.get c)

instance (r : Rating) : DecidablePred r.Has
  | .missingUsername => inferInstanceAs (Decidable (r.username = ""))
  | .missingIsbn => inferInstanceAs (Decidable (r.isbn = ""))
  | .missingScore c => inferInstanceAs (Decidable (r.scores.get c = .null))
  | .scoreOutOfRange c => inferInstanceAs (Decidable ¬IsScore (r.scores.get c))

/-- The rating has a flaw and none that is looked for earlier. -/
def HasFirst (r : Rating) (flaw : Flaw) : Prop :=
  ∃ before after, Flaw.all = before ++ flaw :: after ∧ r.Has flaw ∧
    ∀ earlier ∈ before, ¬r.Has earlier

variable {r : Rating}

theorem scoreFlaw?_eq_find? (r : Rating) (c : Criterion) :
    scoreFlaw? c (r.scores.get c) =
      [Flaw.missingScore c, .scoreOutOfRange c].find? fun flaw => r.Has flaw := by
  cases hp : r.scores.get c with
  | null => simp [scoreFlaw?, Has, hp]
  | int i =>
    by_cases hi : minScore ≤ i ∧ i ≤ maxScore
    · simp [scoreFlaw?, Has, hp, IsScore, hi]
    · simp [scoreFlaw?, Has, hp, IsScore, hi]
  | bool | real | text | list | record => simp [scoreFlaw?, Has, hp, IsScore]

/-- A submission is refused for its first flaw. -/
theorem flaw?_eq_find? (r : Rating) : r.flaw? = Flaw.all.find? fun flaw => r.Has flaw := by
  have hscores : (Criterion.all.findSome? fun c => scoreFlaw? c (r.scores.get c)) =
      (Criterion.all.flatMap fun c => [Flaw.missingScore c, .scoreOutOfRange c]).find?
        fun flaw => r.Has flaw := by
    simp only [List.find?_flatMap, scoreFlaw?_eq_find?]
  rw [flaw?, hscores, Flaw.all]
  by_cases hu : r.username = ""
  · simp [Has, hu]
  · by_cases hi : r.isbn = ""
    · simp [Has, hu, hi]
    · simp [List.find?_cons, Has, hu, hi]

theorem flaw?_eq_some_iff {flaw : Flaw} : r.flaw? = some flaw ↔ r.HasFirst flaw := by
  rw [flaw?_eq_find?, List.find?_eq_some_iff_append]
  simp only [decide_eq_true_eq, Bool.not_eq_true', decide_eq_false_iff_not]
  constructor
  · rintro ⟨hflaw, before, after, hsplit, hbefore⟩
    exact ⟨before, after, hsplit, hflaw, hbefore⟩
  · rintro ⟨before, after, hsplit, hflaw, hbefore⟩
    exact ⟨hflaw, before, after, hsplit, hbefore⟩

/-- A score that is a truth value comes before one that is missing. -/
example : HasFirst ⟨"ann", "1", ⟨.int 3, .bool true, .null, .int 9, .int 1⟩, none, .null, none⟩
    (.scoreOutOfRange .content) :=
  flaw?_eq_some_iff.1 (by decide)

/-- A submission has no flaw if both names are there and each score is one. -/
theorem flaw?_eq_none_iff :
    r.flaw? = none ↔ r.username ≠ "" ∧ r.isbn ≠ "" ∧ ∀ c, IsScore (r.scores.get c) := by
  rw [flaw?_eq_find?, List.find?_eq_none]
  simp only [decide_eq_true_eq, Flaw.all, List.forall_mem_cons, List.mem_flatMap]
  refine and_congr_right' (and_congr_right' ⟨fun h c => ?_, ?_⟩)
  · have hscore := h (.scoreOutOfRange c) ⟨c, Criterion.mem_all c, by simp⟩
    exact not_not.1 hscore
  · rintro h flaw ⟨c, -, hflaw⟩ hhas
    have hscore := h c
    rcases List.mem_pair.1 hflaw with rfl | rfl
    · rw [show r.scores.get c = .null from hhas] at hscore
      exact hscore
    · exact hhas hscore

/-! ## Ratings as they are made -/

variable {d : Draft}

/-- A rating that is made of some fields has no flaw if both names are more than blanks and each
score is one. -/
theorem flaw?_of_rating (hd : d.rating = .ok r) :
    ∃ username isbn, Draft.name d.username = .ok username ∧ Draft.name d.isbn = .ok isbn ∧
      (r.flaw? = none ↔ normalUsername username ≠ "" ∧ Text.trim isbn ≠ "" ∧
        ∀ c, IsScore (d.scores.get c)) := by
  obtain ⟨username, isbn, hu, hi, hkey, hscores⟩ := fields_of_rating hd
  obtain ⟨hname, hbook⟩ := Prod.mk.inj hkey
  exact ⟨username, isbn, hu, hi, by rw [flaw?_eq_none_iff, hname, hbook, hscores]⟩

/-- What a submission is kept as has its key. -/
theorem key_stamped (hd : d.rating = .ok r) (average : Float) (time : Timestamp) :
    (r.stamped average time).key = r.key := by
  obtain ⟨username, isbn, -, -, hkey, -⟩ := fields_of_rating hd
  obtain ⟨hname, hbook⟩ := Prod.mk.inj hkey
  change keyOf r.username r.isbn = _
  rw [hkey, hname, hbook]
  simp [keyOf]

end Rating

/-! ## Submissions to any store -/

namespace RatingStore

variable {σ τ : Type} (store : RatingStore σ) (tick : τ → Timestamp × τ)

/-- A submission while a clock ticks, whose state stands beside that of the store. -/
def submitAt (r : Rating) : Action (σ × τ) Rating :=
  (store.onPart Prod.fst fun s t => (s, t.2)).submit
    ((Action.update tick).onPart Prod.snd fun c t => (t.1, c)) r

/-- Keeps a rating where it is looked for first. -/
def replace (r : Rating) : Action σ Rating := do
  let _ ← store.get (.text r.username) (.text r.isbn)
  store.save r

variable {r : Rating} (s : σ) (clock : τ)

theorem run_submitAt_of_flaw {flaw : Flaw} (hr : r.flaw? = some flaw) :
    (store.submitAt tick r).run (s, clock) = (.fail (.invalidRating flaw), (s, clock)) := by
  have hvalid : r.validate = .error (.invalidRating flaw) := by rw [Rating.validate, hr]
  unfold submitAt submit
  rw [hvalid]
  rfl

theorem run_submitAt {average : Float} (hr : r.flaw? = none)
    (haverage : Draft.averageOf r.scores = .ok average) :
    (store.submitAt tick r).run (s, clock) =
      let kept := (store.replace (r.stamped average (tick clock).1)).run s
      (kept.1, (kept.2, (tick clock).2)) := by
  have hvalid : r.validate = .ok () := by rw [Rating.validate, hr]
  have hreplace (kept : Rating) := isPart_fst (τ := τ).onPart_bind
    (store.get (.text kept.username) (.text kept.isbn)) fun _ => store.save kept
  unfold submitAt submit
  rw [hvalid, haverage]
  simp only [Action.liftM_ok, pure_bind, Rating.rating_restamped]
  rw [Action.run_bind]
  exact congrArg (fun x => x.run (s, (tick clock).2)) (hreplace _).symm

end RatingStore

end Bookfinder
