import Bookfinder.Proofs.Browsing
import Bookfinder.Proofs.SameBooks

/-!
# Stepping through a section

A book is looked for in the sections in their order, and the first one that shows it is where one
steps on from it and back (`Navigation.resolve_eq_some_iff`). The list that is found has an entry of
the book in any case, if need be the book alone (`Navigation.exists_entry`), so that there is always
a place to step from.

Where no list has repeats this place is the only one (`Navigation.neighbours_of_getElem?`), and a
step forth and a step back undo each other as long as both books are found in the same section. A
section may lose a book to a section before it, and then the way leads on through that one. If it
loses none, the way from its first book passes the whole list and ends (`Navigation.passes_iff`).
-/

namespace Bookfinder

namespace Navigation

variable {n : Navigation} {b c : Book} {name : String} {books : List Book}

/-! ## Where a book is found -/

/-- The list of a section has an entry of a book. -/
def Shows (n : Navigation) (name : String) (b : Book) : Prop := ∃ c ∈ n.get name, c.same b

/-- A section is the first one in order that shows a book. -/
def FirstShows (n : Navigation) (name : String) (b : Book) : Prop :=
  n.Shows name b ∧
    ∃ before after, n.sections = before ++ name :: after ∧ ∀ other ∈ before, ¬n.Shows other b

theorem any_same_iff : (n.get name).any (·.same b) ↔ n.Shows name b := List.any_eq_true

/-- A section that shows a book is one of those that are looked through. -/
theorem Shows.mem_sections (h : n.Shows name b) : name ∈ n.sections := by
  obtain ⟨c, hc, -⟩ := h
  rw [Navigation.mem_sections, ← Association.find?_isSome_iff]
  unfold get at hc
  cases hfind : n.snapshots.find? name with
  | none =>
    rw [hfind] at hc
    cases hc
  | some books => rfl

theorem sectionOf?_eq_some_iff : n.sectionOf? b = some name ↔ n.FirstShows name b := by
  simp only [sectionOf?, List.find?_eq_some_iff_append, any_same_iff, FirstShows,
    Bool.not_eq_true', ← Bool.not_eq_true]

theorem sectionOf?_eq_none_iff : n.sectionOf? b = none ↔ ∀ name, ¬n.Shows name b := by
  simp only [sectionOf?, List.find?_eq_none, any_same_iff]
  exact ⟨fun h name hshows => h name hshows.mem_sections hshows, fun h name _ => h name⟩

theorem resolve_eq_some_iff :
    n.resolve b = (some name, books) ↔ n.FirstShows name b ∧ books = n.get name := by
  rw [← sectionOf?_eq_some_iff]
  unfold resolve
  cases n.sectionOf? b with
  | none => simp
  | some found =>
    simp only [Prod.mk.injEq, Option.some.injEq]
    exact and_congr_right fun h => by rw [h, eq_comm]

theorem resolve_eq_none_iff :
    n.resolve b = (none, books) ↔ (∀ name, ¬n.Shows name b) ∧ books = [b] := by
  rw [← sectionOf?_eq_none_iff]
  unfold resolve
  cases n.sectionOf? b with
  | none => simp [eq_comm]
  | some found => simp

/-- The list that is found has an entry of the book. -/
theorem exists_entry (n : Navigation) (b : Book) : ∃ c ∈ (n.resolve b).2, c.same b := by
  rcases hr : n.resolve b with ⟨_ | name, books⟩
  · obtain ⟨-, rfl⟩ := resolve_eq_none_iff.1 hr
    exact ⟨b, List.mem_singleton_self b, Book.equivalence_same.refl b⟩
  · obtain ⟨⟨hshows, -⟩, rfl⟩ := resolve_eq_some_iff.1 hr
    exact hshows

/-- The members of a list that are found where it was found lead to this list again. -/
theorem snd_resolve_of_mem (hc : c ∈ (n.resolve b).2) (h : (n.resolve c).1 = (n.resolve b).1) :
    (n.resolve c).2 = (n.resolve b).2 := by
  rcases hb : n.resolve b with ⟨_ | name, books⟩
  · obtain ⟨-, rfl⟩ := resolve_eq_none_iff.1 hb
    rw [hb] at hc
    rw [List.mem_singleton.1 hc, hb]
  · rcases hother : n.resolve c with ⟨found, others⟩
    rw [hb, hother] at h
    obtain rfl : found = some name := h
    rw [(resolve_eq_some_iff.1 hother).2, (resolve_eq_some_iff.1 hb).2]

/-! ## One step -/

/-- The entries before and after a place of a list. -/
def beside (books : List Book) (i : ℕ) : Option Book × Option Book :=
  (if i = 0 then none else books[i - 1]?, books[i + 1]?)

/-- In every list that is found there is a place to step from. -/
theorem exists_place (n : Navigation) (b : Book) :
    ∃ i c, (n.resolve b).2[i]? = some c ∧ c.same b ∧
      n.neighbours b = beside (n.resolve b).2 i := by
  have hlt : (n.resolve b).2.findIdx (·.same b) < (n.resolve b).2.length :=
    List.findIdx_lt_length_of_exists (n.exists_entry b)
  exact ⟨_, _, List.getElem?_eq_getElem hlt, List.findIdx_getElem (w := hlt), rfl⟩

/-- A list without repeats has a book at one place only. -/
theorem eq_of_getElem?_same {i j : ℕ} {a : Book} (hbooks : NoRepeats books)
    (ha : books[i]? = some a) (hb : books[j]? = some b) (h : a.same b) : i = j := by
  obtain ⟨hi, rfl⟩ := List.getElem?_eq_some_iff.1 ha
  obtain ⟨hj, rfl⟩ := List.getElem?_eq_some_iff.1 hb
  have hne := List.pairwise_iff_getElem.1 hbooks
  have hidentity := Book.same_iff_identity.1 h
  rcases Nat.lt_trichotomy i j with hij | hij | hij
  · exact absurd hidentity (hne i j hi hj hij)
  · exact hij
  · exact absurd hidentity.symm (hne j i hj hi hij)

section Tidy

variable (hn : ∀ name, NoRepeats (n.get name))
include hn

theorem noRepeats_resolve (b : Book) : NoRepeats (n.resolve b).2 := by
  rcases hb : n.resolve b with ⟨_ | name, books⟩
  · obtain ⟨-, rfl⟩ := resolve_eq_none_iff.1 hb
    exact List.pairwise_singleton _ b
  · obtain ⟨-, rfl⟩ := resolve_eq_some_iff.1 hb
    exact hn name

/-- The neighbours of a book are the entries beside its place. -/
theorem neighbours_of_getElem? {i : ℕ} (hc : (n.resolve b).2[i]? = some c) (h : c.same b) :
    n.neighbours b = beside (n.resolve b).2 i := by
  obtain ⟨j, d, hd, hsame, hbeside⟩ := n.exists_place b
  have hdc : d.same c := Book.equivalence_same.trans hsame (Book.equivalence_same.symm h)
  rw [hbeside, eq_of_getElem?_same (noRepeats_resolve hn b) hd hc hdc]

theorem same_of_neighbours (h : (n.neighbours b).1 = some c ∨ (n.neighbours b).2 = some c) :
    c.same b = false :=
  h.elim same_of_fst_around (same_of_snd_around (noRepeats_resolve hn b))

/-- A step forth is undone by a step back. -/
theorem exists_previous_of_next (h : (n.neighbours b).2 = some c)
    (hc : (n.resolve c).1 = (n.resolve b).1) : ∃ a, (n.neighbours c).1 = some a ∧ a.same b := by
  obtain ⟨i, a, ha, hsame, hbeside⟩ := n.exists_place b
  have hplace : (n.resolve b).2[i + 1]? = some c := by rwa [hbeside] at h
  have hlist := snd_resolve_of_mem (List.mem_of_getElem? hplace) hc
  rw [← hlist] at hplace ha
  rw [neighbours_of_getElem? hn hplace (Book.equivalence_same.refl c)]
  exact ⟨a, ha, hsame⟩

/-- A step back is undone by a step forth. -/
theorem exists_next_of_previous (h : (n.neighbours b).1 = some c)
    (hc : (n.resolve c).1 = (n.resolve b).1) : ∃ a, (n.neighbours c).2 = some a ∧ a.same b := by
  obtain ⟨i, a, ha, hsame, hbeside⟩ := n.exists_place b
  rw [hbeside] at h
  cases i with
  | zero => cases h
  | succ i =>
    have hplace : (n.resolve b).2[i]? = some c := h
    have hlist := snd_resolve_of_mem (List.mem_of_getElem? hplace) hc
    rw [← hlist] at hplace ha
    rw [neighbours_of_getElem? hn hplace (Book.equivalence_same.refl c)]
    exact ⟨a, ha, hsame⟩

end Tidy

/-! ## The whole way -/

/-- From a book on, from each one to the next until there is none, the way passes these books. -/
inductive Passes (n : Navigation) : Book → List Book → Prop
  | last {b : Book} (h : (n.neighbours b).2 = none) : Passes n b [b]
  | step {b c : Book} {rest : List Book} (h : (n.neighbours b).2 = some c)
      (hrest : Passes n c rest) : Passes n b (b :: rest)

/-- There is one way only. -/
theorem Passes.unique {passed others : List Book} (h : n.Passes b passed)
    (hother : n.Passes b others) : passed = others := by
  induction h generalizing others with
  | last hnone =>
    cases hother with
    | last => rfl
    | step hnext => rw [hnone] at hnext; cases hnext
  | step hnext _ ih =>
    cases hother with
    | last hnone => rw [hnext] at hnone; cases hnone
    | step hnext' hrest =>
      obtain rfl := Option.some.inj (hnext.symm.trans hnext')
      rw [ih hrest]

/-- In a list that keeps its books, the way from any of them passes what is left of it. -/
theorem passes_of_append (hn : ∀ name, NoRepeats (n.get name))
    (hfound : ∀ c ∈ (n.resolve b).2, (n.resolve c).1 = (n.resolve b).1) {rest : List Book} :
    ∀ {before : List Book} {c : Book}, (n.resolve b).2 = before ++ c :: rest →
      n.Passes c (c :: rest) := by
  have hneighbours {before rest : List Book} {c : Book}
      (hlist : (n.resolve b).2 = before ++ c :: rest) : (n.neighbours c).2 = rest.head? := by
    have hc : c ∈ (n.resolve b).2 := by simp [hlist]
    have hagain := (snd_resolve_of_mem hc (hfound c hc)).trans hlist
    have hplace : (n.resolve c).2[before.length]? = some c := by simp [hagain]
    rw [neighbours_of_getElem? hn hplace (Book.equivalence_same.refl c)]
    simp [beside, hagain, List.getElem?_append_right, List.head?_eq_getElem?]
  -- what is left gets shorter by the book that is passed
  induction rest with
  | nil =>
    intro before c hlist
    exact .last (hneighbours hlist)
  | cons d rest ih =>
    intro before c hlist
    have hlater : (n.resolve b).2 = (before ++ [c]) ++ d :: rest := by simp [hlist]
    exact .step (hneighbours hlist) (ih hlater)

theorem passes_iff (hn : ∀ name, NoRepeats (n.get name))
    (hfound : ∀ c ∈ (n.resolve b).2, (n.resolve c).1 = (n.resolve b).1) :
    ∃ first, (n.resolve b).2.head? = some first ∧
      ∀ passed, n.Passes first passed ↔ passed = (n.resolve b).2 := by
  obtain ⟨c, hc, -⟩ := n.exists_entry b
  obtain ⟨first, rest, hlist⟩ := List.exists_cons_of_ne_nil (List.ne_nil_of_mem hc)
  have hall : (n.resolve b).2 = [] ++ first :: rest := hlist
  have hpasses := passes_of_append hn hfound hall
  refine ⟨first, by rw [hlist, List.head?_cons], fun passed => ⟨fun h => ?_, fun h => ?_⟩⟩
  · rw [hlist, h.unique hpasses]
  · rw [h, hlist]
    exact hpasses

/-! ## Stepping -/

/-- A book is found in the first section in order that shows it, with the whole list of this
section, or alone if none shows it, and its list has a place of it in any case. Where no list has
repeats its neighbours are the entries beside that place, which are other books. A step forth and a
step back undo each other as long as the section stays the same, and where a list keeps all its
books the way from its first one passes just them, in order, and ends. -/
theorem steps_through_resolved (n : Navigation) (b : Book) :
    (∀ name books, n.resolve b = (some name, books) ↔
      n.FirstShows name b ∧ books = n.get name) ∧
    (∀ books, n.resolve b = (none, books) ↔ (∀ name, ¬n.Shows name b) ∧ books = [b]) ∧
    (∃ i c, (n.resolve b).2[i]? = some c ∧ c.same b ∧
      n.neighbours b = beside (n.resolve b).2 i) ∧
    ((∀ name, NoRepeats (n.get name)) →
      (∀ i c, (n.resolve b).2[i]? = some c → c.same b →
        n.neighbours b = beside (n.resolve b).2 i) ∧
      (∀ c, (n.neighbours b).1 = some c ∨ (n.neighbours b).2 = some c → c.same b = false) ∧
      (∀ c, (n.resolve c).1 = (n.resolve b).1 →
        ((n.neighbours b).2 = some c → ∃ a, (n.neighbours c).1 = some a ∧ a.same b) ∧
        ((n.neighbours b).1 = some c → ∃ a, (n.neighbours c).2 = some a ∧ a.same b)) ∧
      ((∀ c ∈ (n.resolve b).2, (n.resolve c).1 = (n.resolve b).1) →
        ∃ first, (n.resolve b).2.head? = some first ∧
          ∀ passed, n.Passes first passed ↔ passed = (n.resolve b).2)) := by
  refine ⟨fun _ _ => resolve_eq_some_iff, fun _ => resolve_eq_none_iff, n.exists_place b,
    fun hn => ⟨fun _ _ => neighbours_of_getElem? hn, fun _ => same_of_neighbours hn, fun c hc => ?_,
      passes_iff hn⟩⟩
  exact ⟨fun h => exists_previous_of_next hn h hc, fun h => exists_next_of_previous hn h hc⟩

/-- The search shows a book that is recommended too: the step back from the last book it found leads
to the recommended ones, and the way through those ends before that book. -/
theorem steps_through_resolved_shared :
    let book (isbn : String) : Book := { Book.blank with isbn := some isbn }
    let n : Navigation :=
      ⟨[(Section.search, [book "2", book "3"]), (Section.featured, [book "1", book "2"])], [], 0⟩
    (∀ name, NoRepeats (n.get name)) ∧
      n.resolve (book "3") = (some Section.search, [book "2", book "3"]) ∧
      n.neighbours (book "3") = (some (book "2"), none) ∧
      n.neighbours (book "2") = (some (book "1"), none) ∧
      ∀ passed, n.Passes (book "1") passed ↔ passed = [book "1", book "2"] := by
  intro book n
  have hn : ∀ name, NoRepeats (n.get name) := by
    intro name
    unfold NoRepeats
    by_cases hsearch : Section.search = name
    · subst hsearch
      decide
    by_cases hfeatured : Section.featured = name
    · subst hfeatured
      decide
    simp [n, get, Association.find?, hsearch, hfeatured]
  have hfound : ∀ c ∈ [book "1", book "2"], (n.resolve c).1 = (n.resolve (book "1")).1 := by
    decide
  obtain ⟨-, -, -, htidy⟩ := steps_through_resolved n (book "1")
  obtain ⟨first, hfirst, hpasses⟩ := (htidy hn).2.2.2 hfound
  obtain rfl : first = book "1" := Option.some.inj hfirst.symm
  exact ⟨hn, rfl, rfl, rfl, hpasses⟩

end Navigation

end Bookfinder
