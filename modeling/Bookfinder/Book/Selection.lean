import Bookfinder.Book.Basic
import Bookfinder.Query.Writing
import Bookfinder.Text.Lowercase

/-!
# Selections of books

The filters that narrow a list of books to what a query asks for. They keep the order of the
list. A text matches a term if its lower-case form holds the lower-case form of the trimmed term;
a blank term matches everything and a missing text matches no other. A title that is neither
text nor missing is a fault, and so is a range of years with an end that is too long to be written.
`distinct` keeps the first entry of each book, so that no two entries are the same book
(`distinct_pairwise`).
-/

namespace Bookfinder

namespace Selection

/-- The members of a list on which a test with faults holds. -/
def keep {α : Type} (test : α → Except Fault Bool) : List α → Except Fault (List α)
  | [] => .ok []
  | a :: as => do
    let kept ← test a
    let rest ← keep test as
    return if kept then a :: rest else rest

/-- A test that answers for each member is an ordinary filter. -/
theorem keep_eq_filter {α : Type} {test : α → Except Fault Bool} {p : α → Bool} {as : List α}
    (h : ∀ a ∈ as, test a = .ok (p a)) : keep test as = .ok (as.filter p) := by
  induction as with
  | nil => rfl
  | cons a as ih =>
    obtain ⟨ha, has⟩ := List.forall_mem_cons.1 h
    rw [keep, ha, ih has, List.filter_cons]
    rfl

/-- A term ready for comparison; `none` if it is blank. -/
def needle? (term : String) : Option (List Char) :=
  let cs := Text.trimChars term.toList
  if cs.isEmpty then none else some (Text.lowerChars cs)

/-- Whether a field of a book holds a prepared term. -/
def holds (needle : List Char) : Payload → Except Fault Bool
  | .null => .ok false
  | .text s => .ok (Text.occursIn needle (Text.lowerChars s.toList))
  | _ => .error .notText

/-- The books that pass a test of the prepared term; all of them if the term is blank. -/
def byTerm (test : List Char → Book → Except Fault Bool) (term : String) (books : List Book) :
    Except Fault (List Book) :=
  match needle? term with
  | some needle => keep (test needle) books
  | none => .ok books

/-- The books whose title holds a term. -/
def byTitle (term : String) (books : List Book) : Except Fault (List Book) :=
  byTerm (fun needle b => holds needle b.title) term books

/-- The books whose author holds a term. -/
def byAuthor (term : String) (books : List Book) : Except Fault (List Book) :=
  byTerm (fun needle b => holds needle b.author) term books

/-- Whether the title of a book holds a prepared term, or else its author. -/
def holdsAnywhere (needle : List Char) (b : Book) : Except Fault Bool := do
  if ← holds needle b.title then return true else holds needle b.author

/-- The books whose title or author holds a term. -/
def byText (term : String) (books : List Book) : Except Fault (List Book) :=
  byTerm holdsAnywhere term books

/-- Whether the year of a book is known and in a range. -/
def publishedIn (years : YearRange) (b : Book) : Except Fault Bool := do
  return (← b.year).any years.contains

/-- The books of a range of years; all of them if both its ends are open. The range is written
when the books are counted, which is a fault if an end is too long. -/
def byYears (years : YearRange) (books : List Book) : Except Fault (List Book) := do
  if years.isBounded then
    let kept ← keep (publishedIn years) books
    let _ ← years.write
    return kept
  else return books

/-- The books that a query asks for. -/
def matching (books : List Book) : Query → Except Fault (List Book)
  | .freeText t => byText t books
  | .titleOnly t => byTitle t books
  | .authorOnly t => byAuthor t books
  | .authorYears t years => do byYears years (← byAuthor t books)

/-- The books that a request asks for. -/
def answering (books : List Book) (r : Request) : Except Fault (List Book) := do
  matching books (← r.known)

/-- The first entry of each book that is not among `seen`. -/
def distinctFrom (seen : List Identity) : List Book → List Book
  | [] => []
  | b :: bs =>
    if seen.contains b.identity then distinctFrom seen bs
    else b :: distinctFrom (b.identity :: seen) bs

theorem distinctFrom_sublist (seen : List Identity) (books : List Book) :
    (distinctFrom seen books).Sublist books := by
  induction books generalizing seen with
  | nil => exact List.Sublist.refl _
  | cons b bs ih =>
    unfold distinctFrom
    split
    · exact (ih seen).cons b
    · exact (ih (b.identity :: seen)).cons_cons b

theorem identity_notMem_of_mem_distinctFrom {seen : List Identity} {books : List Book} {b : Book}
    (h : b ∈ distinctFrom seen books) : b.identity ∉ seen := by
  induction books generalizing seen with
  | nil => simp [distinctFrom] at h
  | cons c cs ih =>
    unfold distinctFrom at h
    split at h
    · exact ih h
    · rename_i hc
      rcases List.mem_cons.1 h with rfl | h
      · simpa using hc
      · exact fun hb => ih h (List.mem_cons_of_mem _ hb)

theorem distinctFrom_pairwise (seen : List Identity) (books : List Book) :
    (distinctFrom seen books).Pairwise fun a b => a.identity ≠ b.identity := by
  induction books generalizing seen with
  | nil => exact List.Pairwise.nil
  | cons b bs ih =>
    unfold distinctFrom
    split
    · exact ih seen
    · refine List.Pairwise.cons (fun c hc heq => ?_) (ih _)
      exact identity_notMem_of_mem_distinctFrom hc (heq ▸ List.mem_cons_self)

/-- The first entry of each book. -/
def distinct (books : List Book) : List Book := distinctFrom [] books

/-- No two entries that are kept are the same book. -/
theorem distinct_pairwise (books : List Book) :
    (distinct books).Pairwise fun a b => a.identity ≠ b.identity :=
  distinctFrom_pairwise [] books

/-- What is kept keeps its order. -/
theorem distinct_sublist (books : List Book) : (distinct books).Sublist books :=
  distinctFrom_sublist [] books

end Selection

end Bookfinder
