import Bookfinder.Book.Decoding

/-!
# The books of a catalogue's answer

An item that is no book is left out, and the others are read as if it were not there, whatever its
fields hold, but for one kind of fault. An infinite number of pages is no integer and a huge price
no real number; such a number is out of range (`Fault.overflow`), which is not among the faults of a
bad record. So one item with such a number leaves the whole answer unread.

`FaultsWithin` bounds the faults of a conversion. It goes through the steps of `Book.decode`
(`Book.faultsWithin_decode`), and with it `Book.result_listOfPayload` says what every answer is read
as.
-/

namespace Bookfinder

/-! ## Members that are collected -/

namespace Outcome

variable {α β : Type} {f : α → Outcome (Option β)} {as : List α}

/-- The result of actions one after the other does not depend on their notices. -/
theorem result_bind (o : Outcome α) (f : α → Outcome β) :
    (o >>= f).result = o.result >>= fun a => (f a).result := by
  obtain ⟨r, ns⟩ := o
  cases r <;> rfl

/-- Lists in a row are gone through one after the other. -/
theorem collect_append (f : α → Outcome (Option β)) (as bs : List α) :
    collect f (as ++ bs) = do
      let first ← collect f as
      let second ← collect f bs
      return first ++ second := by
  induction as with
  | nil => simp only [collect, List.nil_append, pure_bind, bind_pure]
  | cons a as ih =>
    simp only [collect, List.cons_append, ih, bind_assoc, pure_bind, List.append_assoc]

/-- A member that is left out changes nothing for the others. -/
theorem result_collect_without {a : α} {bs : List α} (h : (f a).result = .ok none) :
    (collect f (as ++ a :: bs)).result = (collect f (as ++ bs)).result := by
  have hrest : (collect f (a :: bs)).result = (collect f bs).result := by
    rw [collect, result_bind_of_ok h, result_bind]
    cases (collect f bs).result <;> rfl
  simp only [collect_append, result_bind, hrest]

/-- Where each member is read, what they were read as is collected. -/
theorem result_collect {g : α → Option β} (h : ∀ a ∈ as, (f a).result = .ok (g a)) :
    (collect f as).result = .ok (as.filterMap g) := by
  induction as with
  | nil => rfl
  | cons a as ih =>
    obtain ⟨ha, has⟩ := List.forall_mem_cons.1 h
    rw [collect, result_bind_of_ok ha, result_bind_of_ok (ih has)]
    cases hread : g a with
    | none => rw [List.filterMap_cons_none hread]; rfl
    | some b => rw [List.filterMap_cons_some hread]; rfl

/-- A member that fails leaves all of them uncollected, for the fault of the first one that does. -/
theorem result_collect_of_fails (h : ∃ a ∈ as, ∃ e, (f a).result = .error e) :
    ∃ a ∈ as, ∃ e, (f a).result = .error e ∧ (collect f as).result = .error e := by
  induction as with
  | nil =>
    obtain ⟨a, ha, -⟩ := h
    cases ha
  | cons a as ih =>
    rw [collect]
    cases ha : (f a).result with
    | error e => exact ⟨a, List.mem_cons_self, e, ha, result_bind_of_error ha _⟩
    | ok r =>
      have hrest : ∃ b ∈ as, ∃ e, (f b).result = .error e := by
        obtain ⟨b, hb, e, he⟩ := h
        rcases List.mem_cons.1 hb with rfl | hb
        · rw [ha] at he
          cases he
        · exact ⟨b, hb, e, he⟩
      obtain ⟨b, hb, e, he, hcollect⟩ := ih hrest
      refine ⟨b, List.mem_cons_of_mem a hb, e, he, ?_⟩
      rw [result_bind_of_ok ha]
      exact result_bind_of_error hcollect _

end Outcome

/-! ## Faults of a record -/

/-- The faults are those of a bad record, and an overflow only if `beyond`. -/
def FaultsWithin {α : Type} (beyond : Prop) (r : Except Fault α) : Prop :=
  ∀ f, r = .error f → f.isUnreadable ∨ f = .overflow ∧ beyond

namespace FaultsWithin

variable {α β : Type} {beyond : Prop} {r : Except Fault α}

theorem ok (a : α) : FaultsWithin beyond (.ok a : Except Fault α) := nofun

theorem error {f : Fault} (h : f.isUnreadable) : FaultsWithin beyond (.error f : Except Fault α) :=
  fun _ hf => Or.inl (Except.error.inj hf ▸ h)

theorem overflow (h : beyond) : FaultsWithin beyond (.error .overflow : Except Fault α) :=
  fun _ hf => Or.inr ⟨(Except.error.inj hf).symm, h⟩

/-- A wider bound on the faults holds as well. -/
theorem mono {wider : Prop} (hr : FaultsWithin beyond r) (h : beyond → wider) :
    FaultsWithin wider r :=
  fun f hf => (hr f hf).imp_right (And.imp_right h)

/-- Two steps that fail within a bound fail within it together. -/
theorem bind {f : α → Except Fault β} (hr : FaultsWithin beyond r)
    (hf : ∀ a, r = .ok a → FaultsWithin beyond (f a)) : FaultsWithin beyond (r >>= f) := by
  intro e he
  rcases bind_eq_error.1 he with he | ⟨a, ha, he⟩
  · exact hr e he
  · exact hf a ha e he

theorem map (f : α → β) (hr : FaultsWithin beyond r) : FaultsWithin beyond (r.map f) := by
  cases r with
  | error e => exact fun e' he => hr e' (congrArg _ (Except.error.inj he))
  | ok a => exact ok (f a)

/-- A value that may be missing, with a fault for that case. -/
theorem elim {o : Option α} {f : Fault}
    (h : o = none → FaultsWithin beyond (.error f : Except Fault α)) :
    FaultsWithin beyond (o.elim (.error f) .ok) := by
  cases o with
  | none => exact h rfl
  | some a => exact ok a

end FaultsWithin

namespace Payload

/-- An infinite real number: neither finite nor undefined. -/
def isInfinite : Payload → Bool
  | .real x => (Binary.ofFloat? x).isNone && !x.isNaN
  | _ => false

/-- An integer beyond the range of the real numbers. -/
def isBeyondReals : Payload → Bool
  | .int i => (Binary.ofInt? i).isNone
  | _ => false

/-- A value is a text or is refused as none. -/
theorem faultsWithin_asText (p : Payload) : FaultsWithin False p.asText := by
  cases p with
  | text s => exact .ok s
  | _ => exact .error rfl

/-- Only the whole part of an infinite number is out of range. -/
theorem faultsWithin_wholePart (x : Float) :
    FaultsWithin (Payload.real x).isInfinite (wholePart x) := by
  unfold wholePart
  split
  · exact .ok _
  · next hnone =>
    split
    · exact .error rfl
    · next hnan =>
      refine .overflow ?_
      rw [isInfinite, hnone, Bool.not_eq_true _ |>.mp hnan]
      rfl

/-- Only an infinite number is out of range as an integer. -/
theorem faultsWithin_toInt (p : Payload) : FaultsWithin p.isInfinite p.toInt := by
  cases p with
  | bool | int => exact .ok _
  | real x => exact faultsWithin_wholePart x
  | text s => exact .elim fun _ => .error rfl
  | null | list | record => exact .error rfl

theorem faultsWithin_toInt? (p : Payload) : FaultsWithin p.isInfinite p.toInt? := by
  unfold toInt?
  split
  · exact .ok none
  · exact (faultsWithin_toInt p).map some

/-- Only an integer beyond the reals is out of range as a real number. -/
theorem faultsWithin_toReal (p : Payload) : FaultsWithin p.isBeyondReals p.toReal := by
  cases p with
  | bool b => cases b <;> exact .ok _
  | int i => exact .elim fun h => .overflow (Option.isNone_iff_eq_none.2 h)
  | real x => exact .ok x
  | text s => exact .elim fun _ => .error rfl
  | null | list | record => exact .error rfl

theorem faultsWithin_toReal? (p : Payload) : FaultsWithin p.isBeyondReals p.toReal? := by
  unfold toReal?
  split
  · exact .ok none
  · exact (faultsWithin_toReal p).map some

end Payload

namespace Book

/-- A record with a number out of range: an infinite identity or number of pages, or a price that
is beyond the reals. -/
def IsOutOfRange (fields : Association Payload) : Prop :=
  (Payload.get fields "id").isInfinite ∨ (Payload.get fields "price").isBeyondReals ∨
    (Payload.get fields "pages").isInfinite

/-- A record is decoded, is unreadable, or has a number that is out of range. -/
theorem faultsWithin_decode (fields : Association Payload) :
    FaultsWithin (IsOutOfRange fields) (decode (.record fields)) := by
  refine .bind (.ok fields) fun other hother => ?_
  obtain rfl := Except.ok.inj hother
  have hisbn := (Payload.get fields "isbn").faultsWithin_asText.map Text.trim
  have hid : FaultsWithin (IsOutOfRange fields) (Payload.get fields "id").toInt? :=
    (Payload.faultsWithin_toInt? _).mono Or.inl
  have hprice : FaultsWithin (IsOutOfRange fields) (Payload.get fields "price").toReal? :=
    (Payload.faultsWithin_toReal? _).mono fun h => Or.inr (Or.inl h)
  have hpages : FaultsWithin (IsOutOfRange fields) (Payload.get fields "pages").toInt? :=
    (Payload.faultsWithin_toInt? _).mono fun h => Or.inr (Or.inr h)
  dsimp only
  -- an item without an identity is not read to its end
  split
  · refine .bind (hisbn.mono False.elim) fun isbn _ => .bind hid fun id _ => ?_
    split
    · exact .ok none
    · exact .bind hprice fun price _ => .bind hpages fun pages _ => .ok _
  · refine .bind (.ok "") fun isbn _ => .bind hid fun id _ => ?_
    split
    · exact .ok none
    · exact .bind hprice fun price _ => .bind hpages fun pages _ => .ok _

/-- An item that is not read is a bad record, or no record at all, or has a number out of range. -/
theorem fault_of_decode {item : Payload} {f : Fault} (h : decode item = .error f) :
    f.isUnreadable ∨ f = .overflow ∧ ∃ fields, item = .record fields ∧ IsOutOfRange fields := by
  cases item with
  | record fields =>
    exact (faultsWithin_decode fields f h).imp_right
      (And.imp_right fun hout => ⟨fields, rfl, hout⟩)
  | _ =>
    obtain rfl := Except.error.inj h
    exact Or.inl rfl

/-! ## Items -/

/-- An item that leaves the whole answer unread. -/
def Sinks (item : Payload) : Prop := decode item = .error .overflow

/-- The book of an item, if it is read as one. -/
def read? (item : Payload) : Option Book := (decode item).toOption.join

/-- An item that sinks no list is read, or is left out. -/
theorem result_ofPayload {item : Payload} (h : ¬Sinks item) :
    (ofPayload item).result = .ok (read? item) := by
  unfold ofPayload Outcome.orSkip read?
  cases hd : decode item with
  | ok b => rfl
  | error f =>
    rcases fault_of_decode hd with hf | ⟨rfl, -⟩
    · simp only [Outcome.ofExcept, if_pos hf]
      rfl
    · exact absurd hd h

theorem result_ofItem {item : Payload} (h : ¬Sinks item) :
    (ofItem item).result = .ok (read? item) := by
  cases item with
  | record fields => exact result_ofPayload h
  | _ => rfl

/-- An item that sinks the list fails with an overflow. -/
theorem result_ofItem_of_sinks {item : Payload} (h : Sinks item) :
    (ofItem item).result = .error .overflow := by
  obtain ⟨fields, rfl, -⟩ := (fault_of_decode h).elim nofun And.right
  rw [ofItem, ofPayload, h]
  rfl

theorem result_collect {items : List Payload} (h : ∀ item ∈ items, ¬Sinks item) :
    (Outcome.collect ofItem items).result = .ok (items.filterMap read?) :=
  Outcome.result_collect fun item hitem => result_ofItem (h item hitem)

/-- The items before the first one that sinks the answer do not matter. -/
theorem result_collect_of_sinks {items : List Payload} (h : ∃ item ∈ items, Sinks item) :
    (Outcome.collect ofItem items).result = .error .overflow := by
  obtain ⟨item, hitem, hsinks⟩ := h
  obtain ⟨other, -, e, he, hcollect⟩ :=
    Outcome.result_collect_of_fails ⟨item, hitem, _, result_ofItem_of_sinks hsinks⟩
  by_cases hother : Sinks other
  · rw [result_ofItem_of_sinks hother] at he
    obtain rfl := Except.error.inj he
    exact hcollect
  · rw [result_ofItem hother] at he
    cases he

/-! ## Answers -/

/-- The items of a list; what is not present stands for an empty one. -/
def listed? : Payload → Option (List Payload)
  | .list items => some items
  | other => if other.isPresent then none else some []

/-- The items of an answer; none if the answer has another shape. -/
def items? : Payload → Option (List Payload)
  | .null => some []
  | .list items => some items
  | .record fields => listed? (Payload.get fields "books")
  | _ => none

/-- A value with a list in it gives the books of its items. -/
theorem result_ofItems (p : Payload) :
    (ofItems p).result = (listed? p).elim (.ok none) fun items =>
      (Outcome.collect ofItem items).result.map some := by
  cases p with
  | list items => exact Outcome.result_map some _
  | _ =>
    simp only [ofItems, listed?]
    split
    · rfl
    · rfl

/-- Only the items of an answer matter. -/
theorem result_listOfPayload_eq (body : Payload) :
    (listOfPayload body).result = (items? body).elim (.ok none) fun items =>
      (Outcome.collect ofItem items).result.map some := by
  cases body with
  | record fields => exact result_ofItems _
  | list items => exact result_ofItems _
  | _ => rfl

/-- A list is read without the items that cannot be, unless one of them sinks it. -/
theorem result_of_items {body : Payload} {items : List Payload} (hbody : items? body = some items) :
    ((∀ item ∈ items, ¬Sinks item) →
      (listOfPayload body).result = .ok (some (items.filterMap read?))) ∧
    ((∃ item ∈ items, Sinks item) → (listOfPayload body).result = .error .overflow) := by
  rw [result_listOfPayload_eq, hbody, Option.elim_some]
  constructor
  · intro h
    rw [result_collect h]
    rfl
  · intro h
    rw [result_collect_of_sinks h]
    rfl

/-- A bad record is left out, so that an answer is never unread because of one. -/
theorem result_listOfPayload_ne {f : Fault} (hf : f.isUnreadable) (body : Payload) :
    (listOfPayload body).result ≠ .error f := by
  cases hbody : items? body with
  | none =>
    rw [result_listOfPayload_eq, hbody]
    nofun
  | some items =>
    by_cases hsinks : ∃ item ∈ items, Sinks item
    · rw [(result_of_items hbody).2 hsinks]
      rintro ⟨⟩
      cases hf
    · rw [(result_of_items hbody).1 fun item hitem h => hsinks ⟨item, hitem, h⟩]
      nofun

/-- An item that is left out changes nothing for the others. -/
theorem result_without_item {body other item : Payload} {before after : List Payload}
    (hbody : items? body = some (before ++ item :: after))
    (hother : items? other = some (before ++ after)) (hread : read? item = none)
    (hitem : ¬Sinks item) : (listOfPayload body).result = (listOfPayload other).result := by
  have hnone : (ofItem item).result = .ok none := by rw [result_ofItem hitem, hread]
  rw [result_listOfPayload_eq, result_listOfPayload_eq, hbody, hother, Option.elim_some,
    Option.elim_some, Outcome.result_collect_without hnone]

/-- An answer of another shape counts as a failed call. Of a list of items, those that are no books
are left out, and the rest of the list is read as if they were not there, unless an item sinks all of
them; then it has a number out of range. -/
theorem result_listOfPayload (body : Payload) :
    (items? body = none → (listOfPayload body).result = .ok none) ∧
    (∀ items, items? body = some items →
      ((∀ item ∈ items, ¬Sinks item) →
        (listOfPayload body).result = .ok (some (items.filterMap read?))) ∧
      ((∃ item ∈ items, Sinks item) → (listOfPayload body).result = .error .overflow)) ∧
    (∀ other before item after, items? body = some (before ++ item :: after) →
      items? other = some (before ++ after) → read? item = none → ¬Sinks item →
        (listOfPayload body).result = (listOfPayload other).result) ∧
    ∀ item, Sinks item → ∃ fields, item = .record fields ∧ IsOutOfRange fields := by
  refine ⟨fun h => ?_, fun _ => result_of_items, fun _ _ _ _ => result_without_item,
    fun item h => (fault_of_decode h).elim nofun And.right⟩
  rw [result_listOfPayload_eq, h]
  rfl

/-- An infinite number of pages, and the good item before it is not read either. -/
theorem result_listOfPayload_endless :
    let good : Payload := .record [("isbn", .text "1"), ("title", .text "Book 1")]
    let endless : Payload := .record [("isbn", .text "2"), ("pages", .real (1 / 0))]
    (listOfPayload (.list [good])).result =
        .ok (some [{ blank with isbn := some "1", title := .text "Book 1" }]) ∧
      (listOfPayload (.list [good, endless])).result = .error .overflow :=
  ⟨rfl, rfl⟩

end Book

end Bookfinder
