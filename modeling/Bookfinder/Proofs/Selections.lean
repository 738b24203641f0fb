import Bookfinder.Catalogue.Shelf
import Bookfinder.Search.Session

/-!
# Selections as tests

Titles, authors and years that are text or missing are plain (`Book.IsPlain`). On plain books no
selection fails over a book, and each is a filter by a test: `Query.wants` for the books that a
query asks for (`Selection.matching_eq`) and `Call.wants` for those that a question asks for
(`Shelf.answer_eq`). What they leave is lost if there are years that are too long to be written.
Both the narrowest question to the catalogue and the general one cover what a query asks for
(`Query.wants_call`, `Query.wants_search`), so narrowing either answer gives the same books.

On other books a selection may also fail over a value that is no text, but over nothing else
(`Selection.matching_eq_error`).
-/

namespace Bookfinder

/-! ## Plain books -/

/-- A payload that is text or missing. -/
def Payload.IsPlain (p : Payload) : Prop := p = .null ∨ ∃ s, p = .text s

/-- Whether a payload is a text that holds a prepared term. -/
def Payload.hasText (needle : List Char) : Payload → Bool
  | .text s => Text.occursIn needle (Text.lowerChars s.toList)
  | _ => false

namespace Book

/-- A book whose title, author and year are text or missing. -/
structure IsPlain (b : Book) : Prop where
  title : b.title.IsPlain
  author : b.author.IsPlain
  publishYear : b.publishYear.IsPlain

/-- The year of publication, if there is one that can be read. -/
def knownYear? (b : Book) : Option Int :=
  match b.year with
  | .ok year => year
  | .error _ => none

/-- The year of a plain book is read without a fault. -/
theorem year_of_isPlain {b : Book} (h : b.publishYear.IsPlain) : b.year = .ok b.knownYear? := by
  unfold knownYear? year
  rcases h with h | ⟨s, h⟩
  · simp [h, Payload.isPresent]
  · rw [h]
    dsimp only
    split <;> rfl

end Book

/-- Whether the year of a book is in a range; a range that is open at both ends admits all. -/
def YearRange.admits (years : YearRange) (b : Book) : Bool :=
  !years.isBounded || b.knownYear?.any years.contains

/-- Whether a question asks for a book. -/
def Call.wants : Call → Book → Bool
  | .search t, b => (Selection.needle? t).all fun n => b.title.hasText n || b.author.hasText n
  | .searchTitle t, b => (Selection.needle? t).all fun n => b.title.hasText n
  | .searchAuthor t, b => (Selection.needle? t).all fun n => b.author.hasText n
  | .searchAuthorYear t year, b =>
    (Selection.needle? t).all (fun n => b.author.hasText n) && YearRange.admits ⟨year, year⟩ b
  | .category name, b => b.category == .text name
  | .free, b => b.isFree
  | .newReleases, b => b.isNew
  | .allBooks, _ | .featured, _ | .topRated, _ | .mostReviewed, _ => true

/-- Whether a query asks for a book. -/
def Query.wants : Query → Book → Bool
  | .freeText t, b => (Call.search t).wants b
  | .titleOnly t, b => (Call.searchTitle t).wants b
  | .authorOnly t, b => (Call.searchAuthor t).wants b
  | .authorYears t years, b => (Call.searchAuthor t).wants b && years.admits b

namespace Selection

/-! ## Selections of plain books -/

/-- A plain part is searched without a fault. -/
theorem holds_of_isPlain {p : Payload} (h : p.IsPlain) (needle : List Char) :
    holds needle p = .ok (p.hasText needle) := by
  rcases h with rfl | ⟨s, rfl⟩ <;> rfl

theorem holdsAnywhere_of_isPlain {b : Book} (h : b.IsPlain) (needle : List Char) :
    holdsAnywhere needle b = .ok (b.title.hasText needle || b.author.hasText needle) := by
  rw [holdsAnywhere, holds_of_isPlain h.title, holds_of_isPlain h.author]
  cases b.title.hasText needle <;> rfl

/-- A plain year is compared without a fault. -/
theorem publishedIn_of_isPlain {b : Book} (h : b.publishYear.IsPlain) (years : YearRange) :
    publishedIn years b = .ok (b.knownYear?.any years.contains) := by
  rw [publishedIn, Book.year_of_isPlain h]
  rfl

/-- A selection by term is a filter if its test does not fail. -/
theorem byTerm_eq_filter {test : List Char → Book → Except Fault Bool}
    {p : List Char → Book → Bool} {books : List Book} {term : String}
    (h : ∀ needle, needle? term = some needle → ∀ b ∈ books, test needle b = .ok (p needle b)) :
    byTerm test term books = .ok (books.filter fun b => (needle? term).all fun n => p n b) := by
  unfold byTerm
  cases hterm : needle? term with
  | none => exact congrArg Except.ok (List.filter_eq_self.2 fun _ _ => rfl).symm
  | some needle =>
    dsimp only
    rw [keep_eq_filter (h needle hterm)]
    rfl

/-- A selection by years is a filter if the years can be written. -/
theorem byYears_eq {books : List Book} (h : ∀ b ∈ books, b.publishYear.IsPlain)
    (years : YearRange) :
    byYears years books = years.write.map fun _ => books.filter years.admits := by
  unfold byYears YearRange.admits
  split
  · next hb =>
    rw [keep_eq_filter fun b hb => publishedIn_of_isPlain (h b hb) years]
    simp only [hb, Bool.not_true, Bool.false_or]
    cases years.write <;> rfl
  · next hb =>
    rw [List.filter_eq_self.2 fun b _ => by simp [hb],
      YearRange.isBounded_eq_false_iff.1 (Bool.eq_false_iff.2 hb)]
    rfl

theorem filter_searchAuthor_admits (t : String) (years : YearRange) (books : List Book) :
    (books.filter (Call.searchAuthor t).wants).filter years.admits =
      books.filter fun b => (Call.searchAuthor t).wants b && years.admits b := by
  rw [List.filter_filter]
  exact List.filter_congr fun b _ => Bool.and_comm _ _

section Plain

variable {books : List Book} (h : ∀ b ∈ books, b.IsPlain)
include h

/-- Plain books are selected as the call for a text wants them. -/
theorem byText_eq_filter (t : String) :
    byText t books = .ok (books.filter (Call.search t).wants) :=
  byTerm_eq_filter fun needle _ b hb => holdsAnywhere_of_isPlain (h b hb) needle

/-- Plain books are selected as the call for a title wants them. -/
theorem byTitle_eq_filter (t : String) :
    byTitle t books = .ok (books.filter (Call.searchTitle t).wants) :=
  byTerm_eq_filter fun needle _ b hb => holds_of_isPlain (h b hb).title needle

/-- Plain books are selected as the call for an author wants them. -/
theorem byAuthor_eq_filter (t : String) :
    byAuthor t books = .ok (books.filter (Call.searchAuthor t).wants) :=
  byTerm_eq_filter fun needle _ b hb => holds_of_isPlain (h b hb).author needle

theorem byAuthor_bind_byYears (t : String) (years : YearRange) :
    (byAuthor t books >>= byYears years) = years.write.map fun _ =>
      books.filter fun b => (Call.searchAuthor t).wants b && years.admits b := by
  have hkept : ∀ b ∈ books.filter (Call.searchAuthor t).wants, b.publishYear.IsPlain :=
    fun b hb => (h b (List.mem_filter.1 hb).1).publishYear
  rw [byAuthor_eq_filter h, ← filter_searchAuthor_admits]
  exact byYears_eq hkept years

/-- The books that a query asks for, as long as its years can be written. -/
theorem matching_eq (q : Query) :
    matching books q = q.years.write.map fun _ => books.filter q.wants := by
  cases q with
  | freeText t => exact byText_eq_filter h t
  | titleOnly t => exact byTitle_eq_filter h t
  | authorOnly t => exact byAuthor_eq_filter h t
  | authorYears t years => exact byAuthor_bind_byYears h t years

end Plain

/-! ## Selections that fail -/

/-- A filter fails only where its test does. -/
theorem keep_eq_error {α : Type} {test : α → Except Fault Bool} {as : List α} {e : Fault}
    (h : keep test as = .error e) : ∃ a ∈ as, test a = .error e := by
  induction as with
  | nil => cases h
  | cons a as ih =>
    rw [keep] at h
    rcases bind_eq_error.1 h with ha | ⟨kept, -, h⟩
    · exact ⟨a, List.mem_cons_self, ha⟩
    rcases bind_eq_error.1 h with has | ⟨rest, -, h⟩
    · obtain ⟨b, hb, he⟩ := ih has
      exact ⟨b, List.mem_cons_of_mem _ hb, he⟩
    · cases h

/-- The search in a part fails only on one that is no text. -/
theorem holds_eq_error {needle : List Char} {p : Payload} {e : Fault}
    (h : holds needle p = .error e) : e = .notText := by
  cases p with
  | null => exact absurd h nofun
  | text s => exact absurd h nofun
  | _ => exact (Except.error.inj h).symm

theorem holdsAnywhere_eq_error {needle : List Char} {b : Book} {e : Fault}
    (h : holdsAnywhere needle b = .error e) : e = .notText := by
  rcases bind_eq_error.1 h with h | ⟨kept, -, h⟩
  · exact holds_eq_error h
  · cases kept with
    | true => exact absurd h nofun
    | false => exact holds_eq_error h

/-- A selection by term fails only on a part that is no text. -/
theorem byTerm_eq_error {test : List Char → Book → Except Fault Bool} {term : String}
    {books : List Book} {e : Fault} (htest : ∀ needle b, test needle b = .error e → e = .notText)
    (h : byTerm test term books = .error e) : e = .notText := by
  unfold byTerm at h
  split at h
  · obtain ⟨b, -, hb⟩ := keep_eq_error h
    exact htest _ b hb
  · exact absurd h nofun

theorem publishedIn_eq_error {years : YearRange} {b : Book} {e : Fault}
    (h : publishedIn years b = .error e) : e = .notText := by
  rcases bind_eq_error.1 h with h | ⟨year, -, h⟩
  · unfold Book.year at h
    split at h
    · split at h
      · exact absurd h nofun
      · exact (Except.error.inj h).symm
    · exact absurd h nofun
  · exact absurd h nofun

/-- A selection by years fails on a year that is no text, or on years that are too long. -/
theorem byYears_eq_error {years : YearRange} {books : List Book} {e : Fault}
    (h : byYears years books = .error e) :
    e = .notText ∨ e = .malformed ∧ ¬years.IsShort := by
  unfold byYears at h
  split at h
  · rcases bind_eq_error.1 h with hkept | ⟨kept, -, h⟩
    · obtain ⟨b, -, hb⟩ := keep_eq_error hkept
      exact Or.inl (publishedIn_eq_error hb)
    rcases bind_eq_error.1 h with hyears | ⟨text, -, h⟩
    · exact Or.inr (YearRange.write_eq_error_iff.1 hyears)
    · exact absurd h nofun
  · exact absurd h nofun

/-- A selection fails over a value that is no text or over years that are too long only. -/
theorem matching_eq_error {books : List Book} {q : Query} {e : Fault}
    (h : matching books q = .error e) :
    e = .notText ∨ e = .malformed ∧ ¬q.years.IsShort := by
  cases q with
  | freeText t => exact Or.inl (byTerm_eq_error (fun _ _ => holdsAnywhere_eq_error) h)
  | titleOnly t => exact Or.inl (byTerm_eq_error (fun _ _ => holds_eq_error) h)
  | authorOnly t => exact Or.inl (byTerm_eq_error (fun _ _ => holds_eq_error) h)
  | authorYears t years =>
    rcases bind_eq_error.1 h with h | ⟨kept, -, h⟩
    · exact Or.inl (byTerm_eq_error (fun _ _ => holds_eq_error) h)
    · exact byYears_eq_error h

end Selection

/-! ## Answers that cover a query -/

/-- The books that a question asks for, as long as its year can be written. -/
theorem Shelf.answer_eq {s : Shelf} (h : ∀ b ∈ s.books, b.IsPlain) (c : Call) :
    s.answer c = c.years.write.map fun _ => s.books.filter c.wants := by
  have hall : s.books.filter (fun _ => true) = s.books := List.filter_eq_self.2 fun _ _ => rfl
  cases c with
  | search t => exact Selection.byText_eq_filter h t
  | searchTitle t => exact Selection.byTitle_eq_filter h t
  | searchAuthor t => exact Selection.byAuthor_eq_filter h t
  | searchAuthorYear t year => exact Selection.byAuthor_bind_byYears h t ⟨year, year⟩
  | category name => rfl
  | free => rfl
  | newReleases => rfl
  | _ => exact congrArg Except.ok hall.symm

namespace Query

/-- A range has a single year exactly if both its ends are that year. -/
theorem single?_eq_some_iff {years : YearRange} {year : Int} :
    years.single? = some year ↔ years = ⟨some year, some year⟩ := by
  obtain ⟨first, last⟩ := years
  cases first with
  | none => simp [YearRange.single?]
  | some y =>
    simp only [YearRange.single?, Option.bind_some, YearRange.mk.injEq, Option.some.injEq]
    split
    · next h => simp [h, eq_comm]
    · next h => exact iff_of_false nofun fun ⟨h₁, h₂⟩ => h (h₁ ▸ h₂)

/-- What a query wants, its call wants. -/
theorem wants_call {q : Query} {b : Book} (h : q.wants b) : q.call.wants b := by
  cases q with
  | authorYears t years =>
    simp only [wants, Bool.and_eq_true] at h
    rw [call]
    split
    · rfl
    split
    · next year hyear =>
      rw [← Bool.and_eq_true] at h
      rwa [single?_eq_some_iff.1 hyear] at h
    · exact h.1
  | _ => exact h

/-- The answer to the narrowest question holds no other books, unless the query has years. -/
theorem wants_call_of_not_isWider {q : Query} (h : q.isWider = false) :
    q.call.wants = q.wants := by
  cases q with
  | authorYears t years => exact absurd h nofun
  | _ => rfl

/-- A query whose call is as narrow as itself has no years. -/
theorem years_of_not_isWider {q : Query} (h : q.isWider = false) : q.years = .unbounded := by
  cases q with
  | authorYears t years => exact absurd h nofun
  | _ => rfl

/-- What a query wants, the search for its term wants. -/
theorem wants_search {q : Query} {b : Book} (h : q.wants b) : (Call.search q.term).wants b := by
  have hauthor : ∀ t, (Call.searchAuthor t).wants b → (Call.search t).wants b := fun t ht => by
    simp only [Call.wants, Option.all_eq_true] at ht ⊢
    exact fun n hn => by simp [ht n hn]
  cases q with
  | freeText t => exact h
  | titleOnly t =>
    simp only [wants, term, Call.wants, Option.all_eq_true] at h ⊢
    exact fun n hn => by simp [h n hn]
  | authorOnly t => exact hauthor t h
  | authorYears t years =>
    simp only [wants, Bool.and_eq_true] at h
    exact hauthor t h.1

/-- Narrowing an answer that covers the query gives what the query asks for. -/
theorem filter_wants_of_covers {q : Query} {c : Call} (h : ∀ b, q.wants b → c.wants b)
    (books : List Book) : (books.filter c.wants).filter q.wants = books.filter q.wants := by
  rw [List.filter_filter]
  refine List.filter_congr fun b _ => ?_
  cases hb : q.wants b with
  | false => rfl
  | true => rw [h b hb]; rfl

end Query

end Bookfinder
