import Bookfinder.Proofs.BookList
import Bookfinder.Proofs.Selections
import Mathlib.Data.List.Basic

/-!
# What a decoded book has

The decoder lets no item through that cannot be told from others: a decoded book carries an ISBN that
is trimmed and not empty, or a number, its year is text or missing, and it has no ratings yet
(`Book.IsUsable`).

An answer is read item by item, so the books of two lists in a row are those of the first and then
those of the second (`Book.result_list_append`). `Book.usable_of_listOfPayload` says which answers have
items, and that the books are those of the records among them.
-/

namespace Bookfinder

/-- Whether a payload is a record. -/
def Payload.isRecord : Payload → Bool
  | .record _ => true
  | _ => false

namespace Outcome

variable {α β : Type}

theorem result_bind_eq_ok {o : Outcome α} {f : α → Outcome β} {b : β} :
    (o >>= f).result = .ok b ↔ ∃ a, o.result = .ok a ∧ (f a).result = .ok b := by
  obtain ⟨r, ns⟩ := o
  cases r with
  | error e => exact iff_of_false nofun (fun ⟨_, h, _⟩ => absurd h nofun)
  | ok a => exact ⟨fun h => ⟨a, rfl, h⟩, fun ⟨_, h, hf⟩ => Except.ok.inj h ▸ hf⟩

end Outcome

namespace Book

/-! ## Single items -/

/-- A book that can be told from others, as the decoder makes it. -/
structure IsUsable (b : Book) : Prop where
  isbn : ∀ s, b.isbn = some s → s ≠ "" ∧ Text.trim s = s
  identified : b.isbn.isSome ∨ b.id.isSome
  publishYear : b.publishYear.IsPlain
  averageRating : b.averageRating = none
  reviewCount : b.reviewCount = 0

/-- The identity comes from an ISBN that is trimmed, and empty if there is none, and a number. -/
theorem IsUsable.of_identity {b : Book} {isbn : String} (htrim : Text.trim isbn = isbn)
    (hsome : ¬(isbn.isEmpty && b.id.isNone))
    (hisbn : b.isbn = if isbn.isEmpty then none else some isbn) (hyear : b.publishYear.IsPlain)
    (haverage : b.averageRating = none) (hcount : b.reviewCount = 0) : b.IsUsable where
  isbn s hs := by
    rw [hisbn] at hs
    split at hs
    · cases hs
    · next hne =>
      obtain rfl := Option.some.inj hs
      exact ⟨by simpa using hne, htrim⟩
  identified := by
    rw [hisbn]
    cases hempty : isbn.isEmpty with
    | true =>
      rw [hempty, Bool.true_and, Bool.not_eq_true, Option.isNone_eq_false_iff] at hsome
      exact Or.inr hsome
    | false => exact Or.inl rfl
  publishYear := hyear
  averageRating := haverage
  reviewCount := hcount

theorem isUsable_of_decode {item : Payload} {b : Book} (h : decode item = .ok (some b)) :
    b.IsUsable := by
  have hyear (p : Payload) : (if p = .null then .null else Payload.text p.display).IsPlain := by
    split
    · exact Or.inl rfl
    · exact Or.inr ⟨_, rfl⟩
  have htrim (p : Payload) (isbn : String) (hisbn : p.asText.map Text.trim = .ok isbn) :
      Text.trim isbn = isbn := by
    cases p with
    | text s => exact Except.ok.inj hisbn ▸ Text.trim_trim s
    | _ => cases hisbn
  obtain ⟨fields, -, h⟩ := bind_eq_ok.1 h
  dsimp only at h
  -- only the ISBN is read in two ways
  split at h
  all_goals
    obtain ⟨isbn, hisbn, h⟩ := bind_eq_ok.1 h
    obtain ⟨id, -, h⟩ := bind_eq_ok.1 h
    split at h
    · exact absurd h nofun
    rename_i hsome
    obtain ⟨price, -, h⟩ := bind_eq_ok.1 h
    obtain ⟨pages, -, h⟩ := bind_eq_ok.1 h
    obtain rfl := Option.some.inj (Except.ok.inj h)
    refine .of_identity ?_ hsome rfl (hyear _) rfl rfl
  · exact htrim _ _ hisbn
  · exact Except.ok.inj hisbn ▸ rfl

/-- An answer that has items is not lost unless one of them sinks it. -/
theorem eq_some_of_items? {body : Payload} {items : List Payload} {r : Option (List Book)}
    (hbody : items? body = some items) (h : (listOfPayload body).result = .ok r) :
    r = some (items.filterMap read?) := by
  obtain ⟨hread, hsunk⟩ := result_of_items hbody
  by_cases hsinks : ∃ item ∈ items, Sinks item
  · rw [hsunk hsinks] at h
    cases h
  · rw [hread fun item hitem hs => hsinks ⟨item, hitem, hs⟩] at h
    exact (Except.ok.inj h).symm

theorem exists_decode_of_mem {body : Payload} {books : List Book} {b : Book}
    (h : (listOfPayload body).result = .ok (some books)) (hb : b ∈ books) :
    ∃ item, decode item = .ok (some b) := by
  cases hbody : items? body with
  | none =>
    rw [result_listOfPayload_eq, hbody] at h
    exact absurd h nofun
  | some items =>
    obtain rfl := Option.some.inj (eq_some_of_items? hbody h)
    obtain ⟨item, -, hitem⟩ := List.mem_filterMap.1 hb
    refine ⟨item, ?_⟩
    unfold read? at hitem
    cases hd : decode item with
    | error e => rw [hd] at hitem; exact absurd hitem nofun
    | ok found =>
      rw [hd] at hitem
      exact congrArg Except.ok hitem

/-! ## Answers -/

/-- The items of an answer: those of the list that it is, or that a record holds under `books`. Null
stands for an empty list, and so does whatever counts as absent under `books`. -/
inductive HasItems : Payload → List Payload → Prop
  | null : HasItems .null []
  | list (items : List Payload) : HasItems (.list items) items
  | listed {fields : Association Payload} {items : List Payload}
      (h : Payload.get fields "books" = .list items) : HasItems (.record fields) items
  | absent {fields : Association Payload}
      (h : (Payload.get fields "books").isPresent = false) : HasItems (.record fields) []

/-- An answer that is none: neither null nor a list nor a record, or a record with something else than
a list under `books`. -/
def IsMisshapen (body : Payload) : Prop :=
  (body ≠ .null ∧ (∀ items, body ≠ .list items) ∧ ∀ fields, body ≠ .record fields) ∨
    ∃ fields, body = .record fields ∧ (Payload.get fields "books").isPresent ∧
      ∀ items, Payload.get fields "books" ≠ .list items

theorem listed?_eq_none_iff {p : Payload} :
    listed? p = none ↔ p.isPresent ∧ ∀ items, p ≠ .list items := by
  cases p with
  | list items => simp [listed?]
  | _ => simp [listed?]

theorem items?_eq_none_iff {body : Payload} : items? body = none ↔ IsMisshapen body := by
  cases body with
  | record fields => simp [items?, IsMisshapen, listed?_eq_none_iff]
  | _ => simp [items?, IsMisshapen]

theorem hasItems_of_items? {body : Payload} {items : List Payload}
    (h : items? body = some items) : HasItems body items := by
  have hlisted {p : Payload} (h : listed? p = some items) :
      p = .list items ∨ p.isPresent = false ∧ items = [] := by
    cases p with
    | list others => exact Or.inl (congrArg _ (Option.some.inj h))
    | _ =>
      simp only [listed?] at h
      split at h
      · cases h
      · next habsent => exact Or.inr ⟨Bool.eq_false_iff.2 habsent, (Option.some.inj h).symm⟩
  cases body with
  | null => exact Option.some.inj h ▸ .null
  | list others => exact Option.some.inj h ▸ .list others
  | record fields =>
    rcases hlisted h with hbooks | ⟨habsent, rfl⟩
    · exact .listed hbooks
    · exact .absent habsent
  | _ => cases h

/-- The book that an item is read as, unless it is left out or sinks the answer. -/
def accepted? (item : Payload) : Option Book := (ofPayload item).result.toOption.join

theorem accepted?_eq_read? (item : Payload) : accepted? item = read? item := by
  by_cases h : Sinks item
  · rw [accepted?, read?, ofPayload, h]
    rfl
  · rw [accepted?, result_ofPayload h]
    rfl

/-- What is no record is no book. -/
theorem filterMap_accepted? (items : List Payload) :
    (items.filter Payload.isRecord).filterMap accepted? = items.filterMap read? := by
  rw [List.filterMap_filter]
  refine List.filterMap_congr fun item _ => ?_
  cases item with
  | record fields => exact accepted?_eq_read? _
  | _ => rfl

theorem result_list_eq_ok {items : List Payload} {books : List Book} :
    (listOfPayload (.list items)).result = .ok (some books) ↔
      (Outcome.collect ofItem items).result = .ok books := by
  rw [result_listOfPayload_eq, items?, Option.elim_some]
  cases (Outcome.collect ofItem items).result <;> simp [Except.map]

/-- Two lists in a row are read as the books of the first and then those of the second. -/
theorem result_list_append {xs ys : List Payload} {books : List Book} :
    (listOfPayload (.list (xs ++ ys))).result = .ok (some books) ↔
      ∃ first second, (listOfPayload (.list xs)).result = .ok (some first) ∧
        (listOfPayload (.list ys)).result = .ok (some second) ∧ first ++ second = books := by
  simp only [result_list_eq_ok, Outcome.collect_append, Outcome.result_bind_eq_ok,
    Outcome.pure_eq, Except.ok.injEq, exists_and_left]

/-- An answer that is read without a fault is none exactly if it is misshapen. Otherwise its books are
those of the records among its items, in their order, and each of them can be told from others. -/
theorem usable_of_listOfPayload {body : Payload} {r : Option (List Book)}
    (h : (listOfPayload body).result = .ok r) :
    (r = none ↔ IsMisshapen body) ∧
    (∀ books, r = some books →
      (∃ items, HasItems body items ∧
        books = (items.filter Payload.isRecord).filterMap accepted?) ∧
      ∀ b ∈ books, b.IsUsable) ∧
    ∀ xs ys books, (listOfPayload (.list (xs ++ ys))).result = .ok (some books) ↔
      ∃ first second, (listOfPayload (.list xs)).result = .ok (some first) ∧
        (listOfPayload (.list ys)).result = .ok (some second) ∧ first ++ second = books := by
  refine ⟨?_, fun books hr => ⟨?_, fun b hb => ?_⟩, fun _ _ _ => result_list_append⟩
  · rw [← items?_eq_none_iff]
    cases hbody : items? body with
    | none =>
      rw [result_listOfPayload_eq, hbody] at h
      exact iff_of_true (Except.ok.inj h).symm rfl
    | some items => exact iff_of_false (by simp [eq_some_of_items? hbody h]) nofun
  · cases hbody : items? body with
    | none =>
      rw [result_listOfPayload_eq, hbody, hr] at h
      cases h
    | some items =>
      refine ⟨items, hasItems_of_items? hbody, ?_⟩
      rw [filterMap_accepted?]
      exact Option.some.inj (hr.symm.trans (eq_some_of_items? hbody h))
  · obtain ⟨item, hitem⟩ := exists_decode_of_mem (hr ▸ h) hb
    exact isUsable_of_decode hitem

/-- A number for an ISBN, an ISBN of blanks, a number of a book that is sent as text or as a truth
value, an item that is no record, and one that says nothing about its identity. -/
theorem usable_of_listOfPayload_mixed :
    let body : Payload := .record [("books", .list [
      .record [("isbn", .text " 978 "), ("title", .text "Dune"), ("publishYear", .int 1965)],
      .record [("isbn", .int 979), ("title", .text "Emma")],
      .text "Ulysses",
      .record [("isbn", .text "\t "), ("id", .text " 7 ")],
      .record [("title", .text "Persuasion")],
      .record [("isbn", .null), ("id", .bool true)]])]
    let books : List Book := [
      { blank with isbn := some "978", title := .text "Dune", publishYear := .text "1965" },
      { blank with id := some 7 },
      { blank with id := some 1 }]
    (listOfPayload body).result = .ok (some books) ∧ ¬IsMisshapen body ∧
      ∀ b ∈ books, b.IsUsable := by
  intro body books
  have hbooks : (listOfPayload body).result = .ok (some books) := rfl
  obtain ⟨hnone, hsome, -⟩ := usable_of_listOfPayload hbooks
  exact ⟨hbooks, fun h => absurd (hnone.2 h) nofun, (hsome books rfl).2⟩

end Book

end Bookfinder
