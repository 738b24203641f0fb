import Bookfinder.Rating.Store

/-!
# The ledger of ratings

A `Ledger` keeps ratings in memory, one for each reader and book, in the order in which they
first came; a new rating takes the place of the old one. `Ledger.store` is the rating store that
it makes. `newestFirst` sorts ratings by time; ratings without a time come last, and times that
cannot be compared are a fault. `Ledger.find?_put` and `Ledger.find?_erase` say what is found after
a change.
-/

namespace Bookfinder

namespace Rating

/-- The time that a rating is sorted by. -/
def recency (r : Rating) : Timestamp := r.createdAt.getD .earliest

/-- Ratings with the newest first; those of one time keep their order. -/
def newestFirst (ratings : List Rating) : Except Fault (List Rating) :=
  let aware := ratings.map (·.recency.offset.isSome)
  if aware.contains true && aware.contains false then .error .wrongKind
  else .ok (ratings.mergeSort fun a b => b.recency.instant ≤ a.recency.instant)

/-- Whether a rating is the one of a reader for a book. -/
def isFor (username isbn : String) (r : Rating) : Bool := r.username == username && r.isbn == isbn

theorem isFor_iff {username isbn : String} {r : Rating} :
    r.isFor username isbn ↔ r.username = username ∧ r.isbn = isbn := by
  simp [isFor]

end Rating

/-- Ratings in memory. -/
structure Ledger where
  ratings : List Rating
deriving DecidableEq

namespace Ledger

/-- No ratings. -/
def empty : Ledger := ⟨[]⟩

/-- The number of ratings. -/
def size (l : Ledger) : Nat := l.ratings.length

/-- The rating of a reader for a book. -/
def find? (l : Ledger) (username isbn : String) : Option Rating :=
  l.ratings.find? (·.isFor username isbn)

/-- Ratings with `r` in place of the one of the same reader for the same book, or at the end. -/
def putIn (r : Rating) : List Rating → List Rating
  | [] => [r]
  | s :: rest => if s.isFor r.username r.isbn then r :: rest else s :: putIn r rest

/-- A ledger with one more rating. -/
def put (l : Ledger) (r : Rating) : Ledger := ⟨putIn r l.ratings⟩

/-- After `put` the rating is found for its reader and book, and the others as before. -/
theorem find?_put (l : Ledger) (r : Rating) (username isbn : String) :
    (l.put r).find? username isbn =
      if r.isFor username isbn then some r else l.find? username isbn := by
  obtain ⟨ratings⟩ := l
  simp only [find?, put]
  induction ratings with
  | nil => by_cases h : r.isFor username isbn <;> simp [putIn, h]
  | cons s rest ih =>
    simp only [putIn]
    by_cases hs : s.isFor r.username r.isbn
    · have same : s.isFor username isbn = r.isFor username isbn := by
        rw [Rating.isFor_iff] at hs
        simp [Rating.isFor, hs.1, hs.2]
      by_cases h : r.isFor username isbn <;> simp [hs, same, h]
    · by_cases h : s.isFor username isbn
      · have other : r.isFor username isbn = false := by
          rw [Rating.isFor_iff] at hs h
          simp only [Rating.isFor, Bool.and_eq_false_iff, beq_eq_false_iff_ne, ne_eq]
          by_cases hu : r.username = username
          · exact Or.inr fun hi => hs ⟨h.1.trans hu.symm, h.2.trans hi.symm⟩
          · exact Or.inl hu
        simp [hs, h, other]
      · simp [hs, h, ih]

/-- A ledger without the rating of a reader for a book. -/
def erase (l : Ledger) (username isbn : String) : Ledger :=
  ⟨l.ratings.filter fun r => !r.isFor username isbn⟩

/-- After `erase` no rating of the reader for the book is found, and the others as before. -/
theorem find?_erase (l : Ledger) (username isbn reader book : String) :
    (l.erase username isbn).find? reader book =
      if username = reader ∧ isbn = book then none else l.find? reader book := by
  simp only [find?, erase, List.find?_filter]
  split
  · rename_i h
    obtain ⟨rfl, rfl⟩ := h
    simp
  · rename_i h
    congr 1
    funext r
    by_cases hr : r.isFor reader book
    · have other : r.isFor username isbn = false := by
        rw [Rating.isFor_iff] at hr
        simp only [Rating.isFor, hr.1, hr.2, Bool.and_eq_false_iff, beq_eq_false_iff_ne, ne_eq]
        by_cases hu : reader = username
        · exact Or.inr fun hi => h ⟨hu.symm, hi.symm⟩
        · exact Or.inl hu
      simp [hr, other]
    · simp [hr]

/-- The ratings of the books with one of the ISBNs. -/
def grouped (l : Ledger) (isbns : List String) : Except Fault RatingsByBook := do
  let wanted := isbns.map Text.trim
  return RatingsByBook.ofList ((← Rating.newestFirst l.ratings).filter (wanted.contains ·.isbn))

/-- The name of a reader and of a book that stand for a rating. -/
def key (username isbn : Payload) : Except Fault (String × String) := do
  return (normalUsername (← username.asText), Text.trim (← isbn.asText))

/-- The rating store that a ledger makes. -/
def store : RatingStore Ledger where
  get username isbn := do
    let (username, isbn) ← key username isbn
    return (← Action.state).find? username isbn
  save r := do
    let stored ← r.draft.rating
    Action.update fun l => (stored, l.put stored)
  remove username isbn := do
    let (username, isbn) ← key username isbn
    Action.update fun l => ((l.find? username isbn).isSome, l.erase username isbn)
  ratingsFor isbn := do
    let isbn := Text.trim (← isbn.asText)
    Rating.newestFirst ((← Action.state).ratings.filter (·.isbn == isbn))
  ratingsForBooks isbns := do
    let isbns ← isbns.mapM fun p => (p.asText : Action Ledger String)
    (← Action.state).grouped isbns
  userRatings username := do
    let username := normalUsername (← username.asText)
    Rating.newestFirst ((← Action.state).ratings.filter (·.username == username))
  allRatings := return (← Action.state).ratings

end Ledger

end Bookfinder
