import Bookfinder.Book.Selection
import Mathlib.Data.List.Nodup

/-!
# The same book, and lists that show each book once

Two entries are the same book if they carry the same ISBN, or if neither carries one and their
numbers agree (`Book.same_iff`); an empty ISBN counts as none. This is an equivalence
(`Book.equivalence_same`), and the identity is a key for it, the only thing that `distinct` looks at.

`distinct` goes through a list and remembers the identities that it has seen. What is remembered
decides which entries stay (`Selection.mem_distinctFrom_iff`), and to remember an identity is to take
its entries out of the list (`Selection.distinctFrom_append_seen`). So the result is what `IsOnce`
asks for: each book is listed once, with its first entry (`Selection.isOnce_distinct`). Of two lists
in a row the second one loses the books of the first (`Selection.distinct_append`).
-/

namespace Bookfinder

namespace Book

/-! ## The same book -/

/-- The book carries the ISBN `s`. -/
def HasIsbn (b : Book) (s : String) : Prop := b.isbn = some s ∧ s ≠ ""

variable {a b : Book}

theorem knownIsbn?_eq_some_iff {s : String} : b.knownIsbn? = some s ↔ b.HasIsbn s := by
  simp [knownIsbn?, HasIsbn, Option.filter_eq_some_iff]

theorem knownIsbn?_eq_none_iff : b.knownIsbn? = none ↔ ∀ s, ¬b.HasIsbn s := by
  simp only [Option.eq_none_iff_forall_ne_some, ne_eq, knownIsbn?_eq_some_iff]

/-- The identity is a key: entries of the same book have the same one. -/
theorem same_iff_identity : a.same b ↔ a.identity = b.identity := beq_iff_eq

/-- The ISBN decides, and where there is none the number does. -/
theorem same_iff : a.same b ↔
    (∃ s, a.HasIsbn s ∧ b.HasIsbn s) ∨
      (∀ s, ¬a.HasIsbn s) ∧ (∀ s, ¬b.HasIsbn s) ∧ a.id = b.id := by
  rw [same_iff_identity, ← knownIsbn?_eq_none_iff, ← knownIsbn?_eq_none_iff]
  simp only [← knownIsbn?_eq_some_iff, identity]
  cases a.knownIsbn? with
  | none => cases b.knownIsbn? <;> simp
  | some s => cases b.knownIsbn? <;> simp [eq_comm]

theorem equivalence_same : Equivalence fun a b : Book => (a.same b : Prop) where
  refl _ := same_iff_identity.2 rfl
  symm h := same_iff_identity.2 (same_iff_identity.1 h).symm
  trans h h' := same_iff_identity.2 ((same_iff_identity.1 h).trans (same_iff_identity.1 h'))

end Book

namespace Selection

variable {seen : List Identity} {books : List Book} {b c : Book}

/-! ## First entries -/

/-- An entry of a list that no earlier entry is the same book as. -/
def IsFirst (books : List Book) (c : Book) : Prop :=
  ∃ before after, books = before ++ c :: after ∧ ∀ b ∈ before, ¬b.same c

theorem not_isFirst_nil (c : Book) : ¬IsFirst [] c := by
  rintro ⟨before, after, h, -⟩
  simp at h

theorem isFirst_cons_iff : IsFirst (b :: books) c ↔ b = c ∨ ¬b.same c ∧ IsFirst books c := by
  constructor
  · rintro ⟨before, after, h, hbefore⟩
    rcases List.cons_eq_append_iff.1 h with ⟨-, hc⟩ | ⟨before, rfl, rfl⟩
    · exact Or.inl (List.cons.inj hc).1.symm
    · obtain ⟨hb, hbefore⟩ := List.forall_mem_cons.1 hbefore
      exact Or.inr ⟨hb, before, after, rfl, hbefore⟩
  · rintro (rfl | ⟨hb, before, after, rfl, hbefore⟩)
    · exact ⟨[], books, rfl, by simp⟩
    · exact ⟨b :: before, after, rfl, List.forall_mem_cons.2 ⟨hb, hbefore⟩⟩

/-- Each book of a list has a first entry. -/
theorem exists_isFirst (hb : b ∈ books) : ∃ c, b.same c ∧ IsFirst books c := by
  have hsome : (books.find? b.same).isSome :=
    List.find?_isSome.2 ⟨b, hb, Book.equivalence_same.refl b⟩
  obtain ⟨c, hc⟩ := Option.isSome_iff_exists.1 hsome
  obtain ⟨hbc, before, after, hbooks, hbefore⟩ := List.find?_eq_some_iff_append.1 hc
  refine ⟨c, hbc, before, after, hbooks, fun a ha hac => ?_⟩
  have hba : b.same a := Book.equivalence_same.trans hbc (Book.equivalence_same.symm hac)
  simpa [hba] using hbefore a ha

/-! ## What is remembered -/

/-- The first entries stay, but for those whose identity is remembered. -/
theorem mem_distinctFrom_iff :
    c ∈ distinctFrom seen books ↔ c.identity ∉ seen ∧ IsFirst books c := by
  induction books generalizing seen with
  | nil => simp [distinctFrom, not_isFirst_nil]
  | cons b bs ih =>
    rw [isFirst_cons_iff, Book.same_iff_identity, distinctFrom]
    split
    · next hseen =>
      rw [List.contains_iff_mem] at hseen
      rw [ih]
      constructor
      · rintro ⟨hc, hfirst⟩
        exact ⟨hc, Or.inr ⟨fun heq => hc (heq ▸ hseen), hfirst⟩⟩
      · rintro ⟨hc, rfl | ⟨-, hfirst⟩⟩
        · exact absurd hseen hc
        · exact ⟨hc, hfirst⟩
    · next hseen =>
      rw [List.contains_iff_mem] at hseen
      rw [List.mem_cons, ih, List.mem_cons, not_or]
      constructor
      · rintro (rfl | ⟨⟨hne, hc⟩, hfirst⟩)
        · exact ⟨hseen, Or.inl rfl⟩
        · exact ⟨hc, Or.inr ⟨Ne.symm hne, hfirst⟩⟩
      · rintro ⟨hc, rfl | ⟨hne, hfirst⟩⟩
        · exact Or.inl rfl
        · exact Or.inr ⟨⟨Ne.symm hne, hc⟩, hfirst⟩

/-- To remember identities is to take their entries out of the list. -/
theorem distinctFrom_append_seen (seen gone : List Identity) (books : List Book) :
    distinctFrom (seen ++ gone) books =
      distinctFrom seen (books.filter fun b => !gone.contains b.identity) := by
  induction books generalizing seen with
  | nil => rfl
  | cons b bs ih =>
    by_cases hgone : b.identity ∈ gone
    · rw [distinctFrom, if_pos (by simp [hgone]), List.filter_cons_of_neg (by simp [hgone]), ih]
    · rw [List.filter_cons_of_pos (by simp [hgone]), distinctFrom, distinctFrom]
      by_cases hseen : b.identity ∈ seen
      · rw [if_pos (by simp [hseen]), if_pos (by simpa using hseen), ih]
      · rw [if_neg (by simp [hseen, hgone]), if_neg (by simpa using hseen), ← List.cons_append, ih]

theorem distinctFrom_congr {other : List Identity} (h : ∀ i, i ∈ seen ↔ i ∈ other)
    (books : List Book) : distinctFrom seen books = distinctFrom other books := by
  have heq : (fun b : Book => !seen.contains b.identity) = fun b => !other.contains b.identity := by
    funext b
    simp [h]
  rw [← List.nil_append seen, ← List.nil_append other, distinctFrom_append_seen,
    distinctFrom_append_seen, heq]

/-- The second part of a list is read with the first one remembered. -/
theorem distinctFrom_append (seen : List Identity) (books more : List Book) :
    distinctFrom seen (books ++ more) =
      distinctFrom seen books ++ distinctFrom (seen ++ books.map Book.identity) more := by
  induction books generalizing seen with
  | nil => simp [distinctFrom]
  | cons b bs ih =>
    rw [List.cons_append, distinctFrom, distinctFrom]
    split
    · next hseen =>
      have hsame : ∀ i, i ∈ seen ++ bs.map Book.identity ↔
          i ∈ seen ++ (b :: bs).map Book.identity := by
        rw [List.contains_iff_mem] at hseen
        simp only [List.map_cons, List.mem_append, List.mem_cons]
        grind
      rw [ih, distinctFrom_congr hsame]
    · have hsame : ∀ i, i ∈ (b.identity :: seen) ++ bs.map Book.identity ↔
          i ∈ seen ++ (b :: bs).map Book.identity := by
        simp only [List.map_cons, List.mem_append, List.mem_cons]
        tauto
      rw [ih, distinctFrom_congr hsame, List.cons_append]

theorem distinctFrom_eq_self (hseen : ∀ b ∈ books, b.identity ∉ seen)
    (h : books.Pairwise fun a b => a.identity ≠ b.identity) : distinctFrom seen books = books := by
  induction books generalizing seen with
  | nil => rfl
  | cons b bs ih =>
    obtain ⟨hb, hbs⟩ := List.forall_mem_cons.1 hseen
    obtain ⟨hne, hrest⟩ := List.pairwise_cons.1 h
    have hseen' : ∀ c ∈ bs, c.identity ∉ b.identity :: seen := fun c hc hmem =>
      (List.mem_cons.1 hmem).elim (Ne.symm (hne c hc)) (hbs c hc)
    rw [distinctFrom, if_neg (by simpa using hb), ih hseen' hrest]

/-! ## Each book once -/

/-- What is left of a list if each book is listed once, with its first entry. -/
structure IsOnce (books kept : List Book) : Prop where
  sublist : kept.Sublist books
  noRepeats : kept.Pairwise fun a b => ¬a.same b
  /-- Each book of the list is left, and with one entry only. -/
  existsUnique : ∀ b ∈ books, ∃! c, c ∈ kept ∧ b.same c
  mem_iff : ∀ c, c ∈ kept ↔ IsFirst books c

theorem mem_distinct_iff : c ∈ distinct books ↔ IsFirst books c := by
  simp [distinct, mem_distinctFrom_iff]

theorem eq_of_mem_distinct (hb : b ∈ distinct books) (hc : c ∈ distinct books)
    (h : b.same c) : b = c := by
  have hnodup : ((distinct books).map Book.identity).Nodup :=
    List.pairwise_map.2 (distinct_pairwise books)
  exact List.inj_on_of_nodup_map hnodup hb hc (Book.same_iff_identity.1 h)

theorem isOnce_distinct (books : List Book) : IsOnce books (distinct books) where
  sublist := distinct_sublist books
  noRepeats := (distinct_pairwise books).imp fun h hsame => h (Book.same_iff_identity.1 hsame)
  existsUnique b hb := by
    obtain ⟨c, hbc, hfirst⟩ := exists_isFirst hb
    have hc := mem_distinct_iff.2 hfirst
    refine ⟨c, ⟨hc, hbc⟩, fun d ⟨hd, hbd⟩ => eq_of_mem_distinct hd hc ?_⟩
    exact Book.equivalence_same.trans (Book.equivalence_same.symm hbd) hbc
  mem_iff _ := mem_distinct_iff

theorem distinct_distinct (books : List Book) : distinct (distinct books) = distinct books :=
  distinctFrom_eq_self (by simp) (distinct_pairwise books)

/-- Of two lists in a row, the second one loses the books of the first. -/
theorem distinct_append (books more : List Book) :
    distinct (books ++ more) =
      distinct books ++ distinct (more.filter fun b => books.all fun a => !a.same b) := by
  have hseen (b : Book) :
      (!(books.map Book.identity).contains b.identity) = books.all fun a => !a.same b := by
    rw [Bool.eq_iff_iff]
    simp [← Book.same_iff_identity]
  rw [distinct, distinctFrom_append, distinctFrom_append_seen]
  simp only [hseen]
  rfl

/-- Being the same book is an equivalence that the ISBN decides, and the number where there is none;
the identity is a key for it. Of every list `distinct` leaves each book once, with its first entry,
so that a second time it changes nothing, and of two lists in a row the second one loses the books of
the first. -/
theorem distinct_by_same :
    (Equivalence fun a b : Book => (a.same b : Prop)) ∧
    (∀ a b : Book, (a.same b ↔ a.identity = b.identity) ∧
      (a.same b ↔ (∃ s, a.HasIsbn s ∧ b.HasIsbn s) ∨
        (∀ s, ¬a.HasIsbn s) ∧ (∀ s, ¬b.HasIsbn s) ∧ a.id = b.id) ∧
      ∀ s, a.HasIsbn s → (∀ t, ¬b.HasIsbn t) → ¬a.same b) ∧
    ∀ books, IsOnce books (distinct books) ∧ distinct (distinct books) = distinct books ∧
      ∀ more, distinct (books ++ more) =
        distinct books ++ distinct (more.filter fun b => books.all fun a => !a.same b) := by
  refine ⟨Book.equivalence_same, fun a b => ⟨Book.same_iff_identity, Book.same_iff, ?_⟩,
    fun books => ⟨isOnce_distinct books, distinct_distinct books, distinct_append books⟩⟩
  intro s ha hb hsame
  rcases Book.same_iff.1 hsame with ⟨t, -, ht⟩ | ⟨hnone, -⟩
  · exact hb t ht
  · exact hnone s ha

end Selection

end Bookfinder
