import Bookfinder.Association
import Bookfinder.Book.Basic

/-!
# Navigation

`Navigation` remembers the list of books that each section of the catalogue last showed, so that
the neighbours of a book can be found again. A list that is loaded takes time, and another load
of the same section may begin meanwhile: each load takes a token from `begin`, and `put` refuses
a list whose token is not the last one of its section. `clear` forgets the lists and makes every
token out of date; tokens are never given twice. `isCurrent_begin` and `get_put` say what a load
changes when it begins and when it ends.
-/

namespace Bookfinder

/-- What tells the loads of a section apart. -/
abbrev Token : Type := Int

namespace Section

/-- The section of recommended books. -/
def featured : String := "featured"

/-- The section of free books. -/
def free : String := "free"

/-- The section of new books. -/
def new : String := "new"

/-- The section of search results. -/
def search : String := "search"

/-- The section of searches by year. -/
def advancedSearch : String := "advancedSearch"

/-- The sections that are looked through first, in that order. -/
def priority : List String := [featured, free, new, search, advancedSearch]

end Section

/-- The lists that the sections showed, and the tokens of their loads. -/
structure Navigation where
  snapshots : Association (List Book)
  latest : Association Token
  /-- The last token given. -/
  issued : Token

namespace Navigation

/-- No section has been shown. -/
def empty : Navigation := ⟨[], [], 0⟩

/-- A token for a load of a section. -/
def begin (n : Navigation) (name : String) : Token × Navigation :=
  (n.issued + 1, { n with latest := n.latest.put name (n.issued + 1), issued := n.issued + 1 })

/-- Whether a token is the last one of a section. -/
def isCurrent (n : Navigation) (name : String) (token : Token) : Bool :=
  n.latest.find? name == some token

/-- A section has one last token. -/
theorem eq_of_isCurrent {n : Navigation} {name : String} {s t : Token} (hs : n.isCurrent name s)
    (ht : n.isCurrent name t) : s = t := by
  simp only [isCurrent, beq_iff_eq] at hs ht
  exact Option.some.inj (hs.symm.trans ht)

/-- A load that begins takes the place of the one before it in its section, and of no other. -/
theorem isCurrent_begin (n : Navigation) (name other : String) (token : Token) :
    (n.begin name).2.isCurrent other token =
      if name = other then decide (n.issued + 1 = token) else n.isCurrent other token := by
  unfold isCurrent begin
  rw [Association.find?_put]
  split
  · rfl
  · rfl

/-- Whether a list may be put: it comes without a token or with the last one of its section. -/
def accepts (n : Navigation) (name : String) (token : Option Token) : Bool :=
  token.all (n.isCurrent name)

/-- Sets the list of a section, and tells whether it was accepted. -/
def put (n : Navigation) (name : String) (books : List Book) (token : Option Token) :
    Bool × Navigation :=
  if n.accepts name token then (true, { n with snapshots := n.snapshots.put name books })
  else (false, n)

@[simp] theorem accepts_some (n : Navigation) (name : String) (token : Token) :
    n.accepts name (some token) = n.isCurrent name token := rfl

/-- The answer of `put` is whether the list was accepted. -/
theorem stored_put (n : Navigation) (name : String) (books : List Book) (token : Option Token) :
    (n.put name books token).1 = n.accepts name token := by
  unfold put
  cases n.accepts name token <;> rfl

/-- A list that is put keeps the tokens. -/
theorem latest_put (n : Navigation) (name : String) (books : List Book) (token : Option Token) :
    (n.put name books token).2.latest = n.latest := by
  unfold put
  cases n.accepts name token <;> rfl

theorem issued_put (n : Navigation) (name : String) (books : List Book) (token : Option Token) :
    (n.put name books token).2.issued = n.issued := by
  unfold put
  cases n.accepts name token <;> rfl

/-- Only the list of the named section changes, and only if the new one is accepted. -/
theorem find?_put (n : Navigation) (name other : String) (books : List Book)
    (token : Option Token) :
    (n.put name books token).2.snapshots.find? other =
      if n.accepts name token ∧ name = other then some books else n.snapshots.find? other := by
  unfold put
  cases n.accepts name token with
  | true => simp [Association.find?_put]
  | false => simp

/-- The list of a section; empty if it was not shown. -/
def get (n : Navigation) (name : String) : List Book := (n.snapshots.find? name).getD []

/-- An accepted list is the one of its section from then on, and of no other. -/
theorem get_put {n : Navigation} {name : String} {token : Option Token}
    (h : n.accepts name token) (books : List Book) (other : String) :
    (n.put name books token).2.get other = if name = other then books else n.get other := by
  unfold put
  rw [if_pos h]
  simp only [get, Association.find?_put]
  split <;> rfl

/-- The sections that were shown, in the order in which they are looked through. -/
def sections (n : Navigation) : List String :=
  let shown := n.snapshots.names
  Section.priority.filter shown.contains ++ shown.filter (!Section.priority.contains ·)

theorem mem_sections {n : Navigation} {name : String} :
    name ∈ n.sections ↔ name ∈ n.snapshots.names := by
  simp only [sections, List.mem_append, List.mem_filter, List.contains_iff_mem]
  by_cases h : name ∈ Section.priority <;> simp [h]

/-- The first section that showed a book. -/
def sectionOf? (n : Navigation) (b : Book) : Option String :=
  n.sections.find? fun name => (n.get name).any (·.same b)

/-- The first section that showed a book with its list, or the book alone. -/
def resolve (n : Navigation) (b : Book) : Option String × List Book :=
  match n.sectionOf? b with
  | some name => (some name, n.get name)
  | none => (none, [b])

/-- The books before and after the first entry of a book in a list. -/
def around (books : List Book) (b : Book) : Option Book × Option Book :=
  let i := books.findIdx (·.same b)
  (if i = 0 then none else books[i - 1]?, books[i + 1]?)

/-- The books before and after a book in the list that showed it. -/
def neighbours (n : Navigation) (b : Book) : Option Book × Option Book :=
  around (n.resolve b).2 b

/-- Forgets all lists and puts all tokens out of date. -/
def clear (n : Navigation) : Navigation := { n with snapshots := [], latest := [] }

end Navigation

end Bookfinder
