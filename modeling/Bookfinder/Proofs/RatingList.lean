import Bookfinder.Proofs.BookList
import Bookfinder.Rating.Decoding

/-!
# The ratings of a service's answer

An item that is no rating is left out, as in the lists of a catalogue, and here too a number out of
range leaves the whole answer unread: an infinite score, an average that no real number can be, and
scores so large that their mean cannot be shown (`Rating.IsOutOfRange`).

The answer itself is less forgiving than the one of a catalogue. It has to be a record, and what it
holds under `ratings` a list, or something else that can be gone through and has no ratings in it
(`Rating.HasItems`). Any other answer is a fault (`Rating.exists_listOfPayload_iff`).
-/

namespace Bookfinder

/-- A computation for a criterion is where the scores fail. -/
theorem Scores.exists_of_ofFnM_eq_error {α : Type} {f : Criterion → Except Fault α} {e : Fault}
    (h : ofFnM f = .error e) : ∃ c, f c = .error e := by
  rcases bind_eq_error.1 h with h | ⟨_, -, h⟩
  · exact ⟨_, h⟩
  rcases bind_eq_error.1 h with h | ⟨_, -, h⟩
  · exact ⟨_, h⟩
  rcases bind_eq_error.1 h with h | ⟨_, -, h⟩
  · exact ⟨_, h⟩
  rcases bind_eq_error.1 h with h | ⟨_, -, h⟩
  · exact ⟨_, h⟩
  rcases bind_eq_error.1 h with h | ⟨_, -, h⟩
  · exact ⟨_, h⟩
  · cases h

theorem error_of_map {α β : Type} {f : α → β} {r : Except Fault α} {e : Fault}
    (h : r.map f = .error e) : r = .error e := by
  cases r with
  | error e' => exact congrArg _ (Except.error.inj h)
  | ok a => cases h

namespace Rating

/-! ## Single items -/

/-- The scores of a record have no mean that could be shown. -/
def HasNoMean (fields : Association Payload) : Prop :=
  ∃ scores : Scores Payload,
    (Scores.ofFnM fun c => optionalScore (Payload.get fields c.name)) = .ok scores ∧
      Draft.isComplete scores ∧ ∀ x, Draft.averageOf scores ≠ .ok x

/-- A record with a number out of range: an infinite score, an average that is beyond the reals, or
scores without a mean where no average is given. -/
def IsOutOfRange (fields : Association Payload) : Prop :=
  (∃ c : Criterion, (Payload.get fields c.name).isInfinite) ∨
    (Payload.get fields "average").isBeyondReals ∨
      (Payload.get fields "average").isMissing ∧ HasNoMean fields

/-- A rating is not made because a name or the review is no text, or its scores have no mean. -/
theorem fault_of_rating {d : Draft} {f : Fault} (h : d.rating = .error f) :
    f.isUnreadable ∨ d.average = .null ∧ Draft.isComplete d.scores ∧
      Draft.averageOf d.scores = .error f := by
  have hname {p : Payload} (h : Draft.name p = .error f) : f.isUnreadable := by
    unfold Draft.name at h
    split at h
    · exact (Payload.faultsWithin_asText p f h).elim id fun h => h.2.elim
    · cases h
  rcases bind_eq_error.1 h with h | ⟨_, -, h⟩
  · exact Or.inl (hname h)
  rcases bind_eq_error.1 h with h | ⟨_, -, h⟩
  · exact Or.inl (hname h)
  rcases bind_eq_error.1 h with h | ⟨_, -, h⟩
  · unfold Draft.trimmedReview at h
    split at h
    · cases h
    · rcases bind_eq_error.1 h with h | ⟨_, -, h⟩
      · exact Or.inl ((Payload.faultsWithin_asText _ f h).elim id fun h => h.2.elim)
      · cases h
  dsimp only at h
  split at h
  · next hmissing =>
    rw [Bool.and_eq_true, decide_eq_true_eq] at hmissing
    rcases bind_eq_error.1 h with h | ⟨_, -, h⟩
    · refine Or.inr ⟨hmissing.1, hmissing.2, ?_⟩
      rw [map_eq_pure_bind] at h
      rcases bind_eq_error.1 h with h | ⟨_, -, h⟩
      · exact h
      · cases h
    · cases h
  · cases h

theorem faultsWithin_optionalScore (p : Payload) : FaultsWithin p.isInfinite (optionalScore p) :=
  (Payload.faultsWithin_toInt? p).map Payload.ofInt?

theorem isMissing_of_toReal? {p : Payload} {average : Option Float} (h : p.toReal? = .ok average)
    (hnull : Payload.ofReal? average = .null) : p.isMissing := by
  unfold Payload.toReal? at h
  split at h
  · assumption
  · cases hp : p.toReal with
    | error e =>
      rw [hp] at h
      cases h
    | ok x =>
      rw [hp] at h
      obtain rfl := Except.ok.inj h
      cases hnull

/-- A timestamp that cannot be read is no fault. -/
theorem exists_decodeTimestamp (p : Payload) : ∃ t, (decodeTimestamp p).result = .ok t := by
  unfold decodeTimestamp
  split
  · split
    · exact ⟨_, rfl⟩
    · exact ⟨none, rfl⟩
  · exact ⟨none, rfl⟩

theorem result_ofFnM (f : Criterion → Except Fault Payload) :
    (Scores.ofFnM fun c => (f c : Outcome Payload)).result = Scores.ofFnM f := by
  simp only [Scores.ofFnM, Outcome.result_bind]
  rfl

/-- An item that is not read is a bad record, or no record at all, or has a number out of range. -/
theorem fault_of_decode {item : Payload} {f : Fault} (h : (decode item).result = .error f) :
    f.isUnreadable ∨ ∃ fields, item = .record fields ∧ IsOutOfRange fields := by
  cases item with
  | record fields =>
    unfold decode at h
    rw [Outcome.result_bind] at h
    rcases bind_eq_error.1 h with h | ⟨fields', hfields, h⟩
    · cases h
    obtain rfl : fields = fields' := Except.ok.inj hfields
    dsimp only at h
    split at h
    · cases h
    rw [Outcome.result_bind, result_ofFnM] at h
    rcases bind_eq_error.1 h with h | ⟨scores, hscores, h⟩
    · obtain ⟨c, hc⟩ := Scores.exists_of_ofFnM_eq_error h
      exact (faultsWithin_optionalScore _ f hc).imp id fun hinfinite =>
        ⟨fields, rfl, Or.inl ⟨c, hinfinite.2⟩⟩
    rw [Outcome.result_bind] at h
    rcases bind_eq_error.1 h with h | ⟨average, haverage, h⟩
    · exact (Payload.faultsWithin_toReal? _ f h).imp id fun hbeyond =>
        ⟨fields, rfl, Or.inr (Or.inl hbeyond.2)⟩
    obtain ⟨t, ht⟩ := exists_decodeTimestamp (Payload.get fields "data")
    rw [Outcome.result_bind_of_ok ht, Outcome.result_map] at h
    rcases fault_of_rating (error_of_map h) with hf | ⟨hnull, hcomplete, hmean⟩
    · exact Or.inl hf
    · refine Or.inr ⟨fields, rfl, Or.inr (Or.inr ⟨isMissing_of_toReal? haverage hnull, scores,
        hscores, hcomplete, fun x hx => ?_⟩)⟩
      rw [hmean] at hx
      cases hx
  | _ =>
    obtain rfl := Except.error.inj h
    exact Or.inl rfl

/-- An item that leaves the whole answer unread. -/
def Sinks (item : Payload) : Prop := ∃ f, (decode item).result = .error f ∧ f.isUnreadable = false

/-- The rating of an item, if it is read as one. -/
def read? (item : Payload) : Option Rating := (decode item).result.toOption.join

theorem result_ofPayload {item : Payload} (h : ¬Sinks item) :
    (ofPayload item).result = .ok (read? item) := by
  unfold ofPayload Outcome.orSkip read?
  cases hd : (decode item).result with
  | ok r => exact hd
  | error f =>
    by_cases hf : f.isUnreadable
    · simp only [if_pos hf]
      rfl
    · exact absurd ⟨f, hd, Bool.eq_false_iff.2 hf⟩ h

theorem result_ofPayload_of_sinks {item : Payload} (h : Sinks item) :
    ∃ f, (ofPayload item).result = .error f := by
  obtain ⟨f, hd, hf⟩ := h
  refine ⟨f, ?_⟩
  unfold ofPayload Outcome.orSkip
  rw [hd]
  simp only [hf]
  exact hd

/-- What sinks an answer has a number out of range. -/
theorem Sinks.isOutOfRange {item : Payload} (h : Sinks item) :
    ∃ fields, item = .record fields ∧ IsOutOfRange fields := by
  obtain ⟨f, hd, hf⟩ := h
  rcases fault_of_decode hd with hunreadable | hfields
  · rw [hf] at hunreadable
    cases hunreadable
  · exact hfields

/-! ## Answers -/

/-- The items that a record holds under `ratings`. What is not present stands for an empty list, and
so does a text or a record, in which there are no ratings. -/
inductive HasItems (fields : Association Payload) : List Payload → Prop
  | absent (h : (Payload.get fields "ratings").isPresent = false) : HasItems fields []
  | list {items : List Payload} (h : Payload.get fields "ratings" = .list items) :
      HasItems fields items
  | text {s : String} (h : Payload.get fields "ratings" = .text s) : HasItems fields []
  | record {others : Association Payload} (h : Payload.get fields "ratings" = .record others) :
      HasItems fields []

/-- The characters of a text and the names of a record are no ratings. -/
theorem result_collect_texts (texts : List String) :
    (Outcome.collect ofPayload (texts.map .text)).result = .ok [] := by
  induction texts with
  | nil => rfl
  | cons s texts ih => exact Outcome.result_bind_of_ok ih _

theorem result_listOfPayload_record (fields : Association Payload) :
    (listOfPayload (.record fields)).result =
      (if (Payload.get fields "ratings").isPresent then (Payload.get fields "ratings").elements
        else .ok []) >>= fun items => (Outcome.collect ofPayload items).result := by
  unfold listOfPayload
  rw [Outcome.result_bind]
  change (if _ then _ else _ : Outcome (List Rating)).result = _
  split
  · exact Outcome.result_bind _ _
  · rfl

/-- Only the items of an answer matter. -/
theorem result_listOfPayload_eq {fields : Association Payload} {items : List Payload}
    (h : HasItems fields items) :
    (listOfPayload (.record fields)).result = (Outcome.collect ofPayload items).result := by
  rw [result_listOfPayload_record]
  have hnone (texts : List String) (ratings : Payload)
      (hratings : ratings.elements = .ok (texts.map .text)) :
      ((if ratings.isPresent then ratings.elements else .ok []) >>= fun items =>
        (Outcome.collect ofPayload items).result) = .ok [] := by
    split
    · rw [hratings]
      exact result_collect_texts texts
    · rfl
  cases h with
  | absent h =>
    rw [h]
    rfl
  | list h =>
    rw [h]
    cases items <;> rfl
  | @text s h =>
    rw [h]
    refine hnone (s.toList.map Char.toString) _ ?_
    rw [List.map_map]
    rfl
  | @record others h =>
    rw [h]
    refine hnone (others.map Prod.fst) _ ?_
    rw [List.map_map]
    rfl

/-- A number or a truth value under `ratings` is a fault. -/
theorem exists_hasItems (fields : Association Payload) :
    (∃ items, HasItems fields items) ∨
      (listOfPayload (.record fields)).result = .error .wrongKind := by
  cases hpresent : (Payload.get fields "ratings").isPresent with
  | false => exact Or.inl ⟨[], .absent hpresent⟩
  | true =>
    cases hratings : Payload.get fields "ratings" with
    | list items => exact Or.inl ⟨items, .list hratings⟩
    | text s => exact Or.inl ⟨[], .text hratings⟩
    | record others => exact Or.inl ⟨[], .record hratings⟩
    | _ =>
      rw [result_listOfPayload_record, hpresent, hratings]
      exact Or.inr rfl

/-- The ratings of an answer whose items do not sink it. -/
theorem result_of_items {fields : Association Payload} {items : List Payload}
    (h : HasItems fields items) :
    ((∀ item ∈ items, ¬Sinks item) →
      (listOfPayload (.record fields)).result = .ok (items.filterMap read?)) ∧
    ((∃ item ∈ items, Sinks item) → ∃ f, (listOfPayload (.record fields)).result = .error f) := by
  rw [result_listOfPayload_eq h]
  constructor
  · intro hitems
    exact Outcome.result_collect fun item hitem => result_ofPayload (hitems item hitem)
  · rintro ⟨item, hitem, hsinks⟩
    obtain ⟨f, hf⟩ := result_ofPayload_of_sinks hsinks
    obtain ⟨_, -, e, -, he⟩ := Outcome.result_collect_of_fails ⟨item, hitem, f, hf⟩
    exact ⟨e, he⟩

/-- An item that is left out changes nothing for the others. -/
theorem result_without_item {fields others : Association Payload} {item : Payload}
    {before after : List Payload} (h : HasItems fields (before ++ item :: after))
    (hother : HasItems others (before ++ after)) (hread : read? item = none)
    (hitem : ¬Sinks item) :
    (listOfPayload (.record fields)).result = (listOfPayload (.record others)).result := by
  have hnone : (ofPayload item).result = .ok none := by rw [result_ofPayload hitem, hread]
  rw [result_listOfPayload_eq h, result_listOfPayload_eq hother,
    Outcome.result_collect_without hnone]

/-- An answer is read if it is a record that has items and none of them sinks it. -/
theorem exists_listOfPayload_iff {body : Payload} :
    (∃ ratings, (listOfPayload body).result = .ok ratings) ↔
      ∃ fields items, body = .record fields ∧ HasItems fields items ∧
        ∀ item ∈ items, ¬Sinks item := by
  constructor
  · rintro ⟨ratings, hratings⟩
    cases body with
    | record fields =>
      rcases exists_hasItems fields with ⟨items, hitems⟩ | hfault
      · refine ⟨fields, items, rfl, hitems, fun item hitem hsinks => ?_⟩
        obtain ⟨f, hf⟩ := (result_of_items hitems).2 ⟨item, hitem, hsinks⟩
        rw [hratings] at hf
        cases hf
      · rw [hratings] at hfault
        cases hfault
    | _ => cases hratings
  · rintro ⟨fields, items, rfl, hitems, hfine⟩
    exact ⟨_, (result_of_items hitems).1 hfine⟩

end Rating

end Bookfinder
