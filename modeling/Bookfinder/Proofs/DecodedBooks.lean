import Bookfinder.Proofs.UsableBooks

/-!
# Selections of decoded books

The decoder makes a text of the year of a book (`Book.publishYear_of_decode`), but it passes on the
title and the author as they come, and a catalogue may send a number or a list there. A selection
should leave such a book out like one without a title. It does not: comparing the value with the
term is a fault, and with it all books of the answer are lost.

`Query.TripsOver` says which books a query fails over. A blank term compares nothing, and a free
text looks at the author of a book only if its title does not hold the term. If an answer has no
such book, narrowing it to a query gives the books that the query asks for, unless its years are too
long to be written (`Selection.matching_decoded`).
-/

namespace Bookfinder

/-- Comparing a value with a term is a fault: the term is not blank, and the value is neither text
nor missing. -/
def Payload.Defies (p : Payload) (t : String) : Prop :=
  ∃ needle, Selection.needle? t = some needle ∧ ¬p.IsPlain

/-- Narrowing to the query compares a value of the book that defies the term. -/
def Query.TripsOver : Query → Book → Prop
  | .freeText t, b => b.title.Defies t ∨
      ∃ needle, Selection.needle? t = some needle ∧ b.title.hasText needle = false ∧
        b.author.Defies t
  | .titleOnly t, b => b.title.Defies t
  | .authorOnly t, b | .authorYears t _, b => b.author.Defies t

theorem Payload.isPlain_of_not_defies {p : Payload} {t : String} {needle : List Char}
    (ht : Selection.needle? t = some needle) (h : ¬p.Defies t) : p.IsPlain :=
  Classical.byContradiction fun hp => h ⟨needle, ht, hp⟩

/-! ## Books in an answer -/

namespace Book

theorem publishYear_of_decode {item : Payload} {b : Book} (h : decode item = .ok (some b)) :
    b.publishYear.IsPlain :=
  (isUsable_of_decode h).publishYear

end Book

namespace Selection

/-! ## Selections that fail -/

theorem exists_holds_of_defies {p : Payload} {t : String} (h : p.Defies t) :
    ∃ needle, needle? t = some needle ∧ holds needle p = .error .notText := by
  obtain ⟨needle, ht, hp⟩ := h
  refine ⟨needle, ht, ?_⟩
  cases p with
  | null => exact absurd (Or.inl rfl) hp
  | text s => exact absurd (Or.inr ⟨s, rfl⟩) hp
  | _ => rfl

theorem exists_holdsAnywhere_of_tripsOver {t : String} {b : Book}
    (h : (Query.freeText t).TripsOver b) :
    ∃ needle, needle? t = some needle ∧ holdsAnywhere needle b = .error .notText := by
  by_cases htitle : b.title.Defies t
  · obtain ⟨needle, ht, hholds⟩ := exists_holds_of_defies htitle
    refine ⟨needle, ht, ?_⟩
    rw [holdsAnywhere, hholds]
    rfl
  · obtain ⟨needle, ht, hnot, hauthor⟩ := h.resolve_left htitle
    obtain ⟨needle', ht', hholds⟩ := exists_holds_of_defies hauthor
    obtain rfl := Option.some.inj (ht.symm.trans ht')
    refine ⟨needle, ht, ?_⟩
    rw [holdsAnywhere, holds_of_isPlain (Payload.isPlain_of_not_defies ht htitle), hnot]
    exact hholds

theorem exists_of_keep {α : Type} {test : α → Except Fault Bool} {as kept : List α}
    (h : keep test as = .ok kept) : ∀ a ∈ as, ∃ r, test a = .ok r := by
  induction as generalizing kept with
  | nil => exact nofun
  | cons a as ih =>
    obtain ⟨r, hr, h⟩ := bind_eq_ok.1 h
    obtain ⟨rest, hrest, -⟩ := bind_eq_ok.1 h
    exact List.forall_mem_cons.2 ⟨⟨r, hr⟩, ih hrest⟩

/-- One book on which the test fails is enough. -/
theorem byTerm_eq_notText {test : List Char → Book → Except Fault Bool} {term : String}
    {books : List Book} {b : Book} (hb : b ∈ books)
    (htest : ∀ needle b e, test needle b = .error e → e = .notText)
    (h : ∃ needle, needle? term = some needle ∧ test needle b = .error .notText) :
    byTerm test term books = .error .notText := by
  obtain ⟨needle, ht, hfails⟩ := h
  cases hbooks : byTerm test term books with
  | error e => rw [byTerm_eq_error (fun needle b => htest needle b e) hbooks]
  | ok kept =>
    rw [byTerm, ht] at hbooks
    obtain ⟨r, hr⟩ := exists_of_keep hbooks b hb
    rw [hfails] at hr
    cases hr

theorem matching_of_tripsOver {books : List Book} {q : Query} {b : Book} (hb : b ∈ books)
    (h : q.TripsOver b) : matching books q = .error .notText := by
  cases q with
  | freeText t =>
    exact byTerm_eq_notText hb (fun _ _ _ => holdsAnywhere_eq_error)
      (exists_holdsAnywhere_of_tripsOver h)
  | titleOnly t =>
    exact byTerm_eq_notText hb (fun _ _ _ => holds_eq_error) (exists_holds_of_defies h)
  | authorOnly t =>
    exact byTerm_eq_notText hb (fun _ _ _ => holds_eq_error) (exists_holds_of_defies h)
  | authorYears t years =>
    have hauthor : byAuthor t books = .error .notText :=
      byTerm_eq_notText hb (fun _ _ _ => holds_eq_error) (exists_holds_of_defies h)
    rw [matching, hauthor]
    rfl

/-! ## Selections that succeed -/

theorem holds_of_not_defies {p : Payload} {t : String} {needle : List Char}
    (ht : needle? t = some needle) (h : ¬p.Defies t) : holds needle p = .ok (p.hasText needle) :=
  holds_of_isPlain (Payload.isPlain_of_not_defies ht h) needle

theorem holdsAnywhere_of_not_tripsOver {t : String} {b : Book} {needle : List Char}
    (ht : needle? t = some needle) (h : ¬(Query.freeText t).TripsOver b) :
    holdsAnywhere needle b = .ok (b.title.hasText needle || b.author.hasText needle) := by
  rw [holdsAnywhere, holds_of_not_defies ht fun htitle => h (Or.inl htitle)]
  cases hnot : b.title.hasText needle with
  | true => rfl
  | false => exact holds_of_not_defies ht fun hauthor => h (Or.inr ⟨needle, ht, hnot, hauthor⟩)

theorem matching_of_not_tripsOver {books : List Book} {q : Query}
    (hyear : ∀ b ∈ books, b.publishYear.IsPlain) (h : ∀ b ∈ books, ¬q.TripsOver b) :
    matching books q = q.years.write.map fun _ => books.filter q.wants := by
  cases q with
  | freeText t =>
    exact byTerm_eq_filter fun _ ht b hb => holdsAnywhere_of_not_tripsOver ht (h b hb)
  | titleOnly t => exact byTerm_eq_filter fun _ ht b hb => holds_of_not_defies ht (h b hb)
  | authorOnly t => exact byTerm_eq_filter fun _ ht b hb => holds_of_not_defies ht (h b hb)
  | authorYears t years =>
    have hauthor : byAuthor t books = .ok (books.filter (Call.searchAuthor t).wants) :=
      byTerm_eq_filter fun _ ht b hb => holds_of_not_defies ht (h b hb)
    have hkept : ∀ b ∈ books.filter (Call.searchAuthor t).wants, b.publishYear.IsPlain :=
      fun b hb => hyear b (List.mem_filter.1 hb).1
    calc matching books (.authorYears t years)
        = byYears years (books.filter (Call.searchAuthor t).wants) := by rw [matching, hauthor]; rfl
      _ = years.write.map fun _ => books.filter (Query.authorYears t years).wants := by
        rw [byYears_eq hkept, filter_searchAuthor_admits]
        rfl

/-! ## Narrowing an answer -/

/-- Narrowing the books of an answer to a query fails if the query trips over one of them, and then
it is the value that is no text which is at fault. Otherwise it gives the books that the query asks
for, and fails only if the years of the query are too long to be written. -/
theorem matching_decoded {body : Payload} {books : List Book}
    (h : (Book.listOfPayload body).result = .ok (some books)) (q : Query) :
    ((∃ b ∈ books, q.TripsOver b) → matching books q = .error .notText) ∧
      ((∀ b ∈ books, ¬q.TripsOver b) →
        (q.years.IsShort → matching books q = .ok (books.filter q.wants)) ∧
          (¬q.years.IsShort → matching books q = .error .malformed)) := by
  have hyear : ∀ b ∈ books, b.publishYear.IsPlain := by
    intro b hb
    obtain ⟨item, hitem⟩ := Book.exists_decode_of_mem h hb
    exact Book.publishYear_of_decode hitem
  refine ⟨fun ⟨b, hb, htrips⟩ => matching_of_tripsOver hb htrips, fun hno => ?_⟩
  rw [matching_of_not_tripsOver hyear hno]
  refine ⟨fun hq => ?_, fun hq => ?_⟩
  · rw [YearRange.write_of_isShort hq]
    rfl
  · rw [YearRange.write_of_not_isShort hq]
    rfl

/-- An answer with a book whose title is a number, narrowed by title and by author. -/
theorem matching_decoded_numberTitle :
    let body : Payload := .list [
      .record [("isbn", .text "1"), ("title", .text "Animal Farm"), ("author", .text "Orwell")],
      .record [("isbn", .text "2"), ("title", .int 1984), ("author", .text "George Orwell")]]
    let books : List Book := [
      { Book.blank with isbn := some "1", title := .text "Animal Farm", author := .text "Orwell" },
      { Book.blank with isbn := some "2", title := .int 1984, author := .text "George Orwell" }]
    (Book.listOfPayload body).result = .ok (some books) ∧
      matching books (.titleOnly "farm") = .error .notText ∧
      matching books (.authorOnly "orwell") = .ok books := by
  intro body books
  have hbooks : (Book.listOfPayload body).result = .ok (some books) := rfl
  have htitle : ∃ b ∈ books, (Query.titleOnly "farm").TripsOver b :=
    ⟨books[1], List.mem_cons_of_mem _ List.mem_cons_self, _, rfl, fun h => h.elim nofun nofun⟩
  have hauthor : ∀ b ∈ books, ¬(Query.authorOnly "orwell").TripsOver b := by
    rintro b hb ⟨needle, -, hnot⟩
    simp only [books, List.mem_cons, List.not_mem_nil, or_false] at hb
    rcases hb with rfl | rfl
    · exact hnot (Or.inr ⟨_, rfl⟩)
    · exact hnot (Or.inr ⟨_, rfl⟩)
  exact ⟨hbooks, (matching_decoded hbooks _).1 htitle,
    ((matching_decoded hbooks _).2 hauthor).1 (by decide)⟩

/-- A title that is a number, and the other book is lost with it. Without a title it would not be.
-/
theorem matching_lost_to_number :
    let good : Book := { Book.blank with isbn := some "1", title := .text "Dune" }
    let untitled : Book := { Book.blank with isbn := some "2" }
    let numbered : Book := { untitled with title := .int 1984 }
    (Book.listOfPayload (.list [.record [("isbn", .text "1"), ("title", .text "Dune")],
        .record [("isbn", .text "2"), ("title", .int 1984)]])).result =
          .ok (some [good, numbered]) ∧
      matching [good, numbered] (.titleOnly "dune") = .error .notText ∧
      matching [good, untitled] (.titleOnly "dune") = .ok [good] :=
  ⟨rfl, rfl, rfl⟩

end Selection

end Bookfinder
