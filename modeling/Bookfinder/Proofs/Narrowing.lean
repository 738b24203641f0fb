import Bookfinder.Proofs.Selections
import Bookfinder.Proofs.Words
import Mathlib.Data.List.Basic

/-!
# What narrowing leaves

A book fits a query (`Book.Fits`) if its title or author mentions the term (`Payload.Mentions`), both
in lower case and the term without the blanks around it, and if its year lies within the range
(`Book.PublishedWithin`). A missing title mentions nothing, a missing year lies within no range; but
a blank term and a range that is open at both ends ask for nothing.

On plain books `Query.wants` decides this (`Query.wants_iff_fits`), so narrowing leaves exactly the
books that fit, in their order. With the tests of the single selections beside it (`Narrowing`), each
way to narrow is a filter (`Narrowing.run_eq_filter`), and the laws of filters carry over: to narrow
twice is to narrow once, the order of two ways does not matter, and lists may be narrowed part by
part. A range within another admits fewer books (`YearRange.admits_mono`).
-/

namespace Bookfinder

/-! ## Books that fit a query -/

/-- A text in which a term occurs, both in lower case. -/
def Payload.Mentions (p : Payload) (t : String) : Prop :=
  ∃ s, p = .text s ∧
    (Text.lowercase (Text.trim t)).toList <:+: (Text.lowercase s).toList

/-- The year of a book is a numeral, and it is neither before the first nor after the last year of a
range. -/
def Book.PublishedWithin (b : Book) (years : YearRange) : Prop :=
  ∃ s year, b.publishYear = .text s ∧ Number.readInteger? (Text.trim s) = some year ∧
    (∀ first ∈ years.first, first ≤ year) ∧ ∀ last ∈ years.last, year ≤ last

/-- Whether a book is one that a query looks for. -/
def Book.Fits (b : Book) : Query → Prop
  | .freeText t => Text.isBlankText t ∨ b.title.Mentions t ∨ b.author.Mentions t
  | .titleOnly t => Text.isBlankText t ∨ b.title.Mentions t
  | .authorOnly t => Text.isBlankText t ∨ b.author.Mentions t
  | .authorYears t years =>
    (Text.isBlankText t ∨ b.author.Mentions t) ∧ (years = .unbounded ∨ b.PublishedWithin years)

namespace Selection

theorem needle?_eq_none_iff {t : String} : needle? t = none ↔ Text.isBlankText t := by
  rw [Text.isBlankText, ← Text.trimChars_eq_nil_iff, needle?]
  simp

theorem needle?_of_not_isBlankText {t : String} (h : ¬Text.isBlankText t) :
    needle? t = some (Text.lowercase (Text.trim t)).toList := by
  rw [Text.isBlankText, ← Text.trimChars_eq_nil_iff] at h
  simp [needle?, h, Text.lowercase, Text.trim]

end Selection

theorem Payload.hasText_iff {p : Payload} {t : String} :
    p.hasText (Text.lowercase (Text.trim t)).toList ↔ p.Mentions t := by
  cases p with
  | text s => simp [hasText, Mentions, Text.occursIn_iff, Text.lowercase]
  | _ => simp [hasText, Mentions]

/-- A test of the prepared term, which a blank term passes. -/
theorem Selection.all_needle?_iff {t : String} {test : List Char → Bool} :
    (needle? t).all test ↔
      Text.isBlankText t ∨ test (Text.lowercase (Text.trim t)).toList := by
  by_cases h : Text.isBlankText t
  · simp [needle?_eq_none_iff.2 h, h]
  · simp [needle?_of_not_isBlankText h, h]

theorem Book.knownYear?_eq_some_iff {b : Book} {year : Int} : b.knownYear? = some year ↔
    ∃ s, b.publishYear = .text s ∧ Number.readInteger? (Text.trim s) = some year := by
  have hempty : Number.readInteger? (Text.trim "") = none := rfl
  unfold knownYear? Book.year
  cases hyear : b.publishYear with
  | text s =>
    by_cases hs : s = ""
    · simp [Payload.isPresent, hs, hempty]
    · simp [Payload.isPresent, hs]
  | _ =>
    generalize Payload.isPresent _ = present
    cases present <;> simp

theorem YearRange.contains_iff {years : YearRange} {year : Int} : years.contains year ↔
    (∀ first ∈ years.first, first ≤ year) ∧ ∀ last ∈ years.last, year ≤ last := by
  simp [contains, Option.all_eq_true]

theorem YearRange.admits_iff {years : YearRange} {b : Book} :
    years.admits b ↔ years = .unbounded ∨ b.PublishedWithin years := by
  simp only [admits, Bool.or_eq_true, Bool.not_eq_true', isBounded_eq_false_iff,
    Option.any_eq_true, contains_iff, Book.knownYear?_eq_some_iff, Book.PublishedWithin]
  grind

theorem Query.wants_iff_fits {q : Query} {b : Book} : q.wants b ↔ b.Fits q := by
  cases q with
  | freeText t =>
    simp only [wants, Call.wants, Selection.all_needle?_iff, Bool.or_eq_true, Payload.hasText_iff,
      Book.Fits]
  | titleOnly t | authorOnly t =>
    simp only [wants, Call.wants, Selection.all_needle?_iff, Payload.hasText_iff, Book.Fits]
  | authorYears t years =>
    simp only [wants, Call.wants, Bool.and_eq_true, Selection.all_needle?_iff, Payload.hasText_iff,
      YearRange.admits_iff, Book.Fits]

instance (q : Query) : DecidablePred fun b : Book => b.Fits q := fun _ =>
  decidable_of_iff _ Query.wants_iff_fits

/-! ## Ways to narrow a list -/

/-- The selections, one by one and as a query combines them. -/
inductive Narrowing where
  | title (term : String)
  | author (term : String)
  | text (term : String)
  | years (years : YearRange)
  | query (q : Query)

namespace Narrowing

/-- The books that a selection leaves. -/
def run (books : List Book) : Narrowing → Except Fault (List Book)
  | title t => Selection.byTitle t books
  | author t => Selection.byAuthor t books
  | text t => Selection.byText t books
  | years r => Selection.byYears r books
  | query q => Selection.matching books q

/-- Whether a selection leaves a book. -/
def wants : Narrowing → Book → Bool
  | title t => (Call.searchTitle t).wants
  | author t => (Call.searchAuthor t).wants
  | text t => (Call.search t).wants
  | years r => r.admits
  | query q => q.wants

/-- The years of a selection; all of them if it has none. -/
def range : Narrowing → YearRange
  | years r => r
  | query q => q.years
  | _ => .unbounded

variable {books more : List Book}

/-- A selection is a filter, as long as its years can be written. -/
theorem run_eq (h : ∀ b ∈ books, b.IsPlain) (f : Narrowing) :
    f.run books = f.range.write.map fun _ => books.filter f.wants := by
  cases f with
  | title t => exact Selection.byTitle_eq_filter h t
  | author t => exact Selection.byAuthor_eq_filter h t
  | text t => exact Selection.byText_eq_filter h t
  | years r => exact Selection.byYears_eq (fun b hb => (h b hb).publishYear) r
  | query q => exact Selection.matching_eq h q

theorem run_of_isShort (h : ∀ b ∈ books, b.IsPlain) {f : Narrowing} (hf : f.range.IsShort) :
    f.run books = .ok (books.filter f.wants) := by
  rw [run_eq h, YearRange.write_of_isShort hf]
  rfl

theorem run_of_not_isShort (h : ∀ b ∈ books, b.IsPlain) {f : Narrowing} (hf : ¬f.range.IsShort) :
    f.run books = .error .malformed := by
  rw [run_eq h, YearRange.write_of_not_isShort hf]
  rfl

/-- A second narrowing sees plain books again. -/
theorem run_bind_run (h : ∀ b ∈ books, b.IsPlain) {f g : Narrowing} (hf : f.range.IsShort)
    (hg : g.range.IsShort) :
    f.run books >>= g.run = .ok (books.filter fun b => g.wants b && f.wants b) := by
  have hkept : ∀ b ∈ books.filter f.wants, b.IsPlain := fun b hb => h b (List.mem_filter.1 hb).1
  rw [run_of_isShort h hf]
  change g.run _ = _
  rw [run_of_isShort hkept hg, List.filter_filter]

/-- Two narrowings fail if one of them does. -/
theorem run_bind_run_of_not_isShort (h : ∀ b ∈ books, b.IsPlain) {f g : Narrowing}
    (hfg : ¬(f.range.IsShort ∧ g.range.IsShort)) : f.run books >>= g.run = .error .malformed := by
  by_cases hf : f.range.IsShort
  · have hkept : ∀ b ∈ books.filter f.wants, b.IsPlain := fun b hb => h b (List.mem_filter.1 hb).1
    rw [run_of_isShort h hf]
    exact run_of_not_isShort hkept fun hg => hfg ⟨hf, hg⟩
  · rw [run_of_not_isShort h hf]
    rfl

theorem run_run (h : ∀ b ∈ books, b.IsPlain) (f : Narrowing) :
    f.run books >>= f.run = f.run books := by
  by_cases hf : f.range.IsShort
  · rw [run_bind_run h hf hf, run_of_isShort h hf]
    simp only [Bool.and_self]
  · rw [run_bind_run_of_not_isShort h fun hff => hf hff.1, run_of_not_isShort h hf]

theorem run_comm (h : ∀ b ∈ books, b.IsPlain) (f g : Narrowing) :
    f.run books >>= g.run = g.run books >>= f.run := by
  by_cases hfg : f.range.IsShort ∧ g.range.IsShort
  · rw [run_bind_run h hfg.1 hfg.2, run_bind_run h hfg.2 hfg.1]
    simp only [Bool.and_comm (g.wants _)]
  · rw [run_bind_run_of_not_isShort h hfg, run_bind_run_of_not_isShort h fun hgf => hfg hgf.symm]

theorem run_append (h : ∀ b ∈ books, b.IsPlain) (hmore : ∀ b ∈ more, b.IsPlain) (f : Narrowing) :
    f.run (books ++ more) = do return (← f.run books) ++ (← f.run more) := by
  have hall : ∀ b ∈ books ++ more, b.IsPlain := List.forall_mem_append.2 ⟨h, hmore⟩
  by_cases hf : f.range.IsShort
  · rw [run_of_isShort h hf, run_of_isShort hmore hf, run_of_isShort hall hf, List.filter_append]
    rfl
  · rw [run_of_not_isShort h hf, run_of_not_isShort hall hf]
    rfl

/-- A selection that leaves fewer books of all lists. -/
theorem run_sublist (h : ∀ b ∈ books, b.IsPlain) {f g : Narrowing} (hf : f.range.IsShort)
    (hg : g.range.IsShort) (hfg : ∀ b, f.wants b → g.wants b) :
    ∃ few many, f.run books = .ok few ∧ g.run books = .ok many ∧ few.Sublist many :=
  ⟨_, _, run_of_isShort h hf, run_of_isShort h hg, List.monotone_filter_right _ hfg⟩

end Narrowing

/-! ## Narrower ranges -/

namespace YearRange

variable {narrow wide : YearRange}

theorem eq_unbounded (h : ∀ year, wide.contains year) : wide = .unbounded := by
  obtain ⟨first, last⟩ := wide
  cases first with
  | some first =>
    have hlt : first ≤ first - 1 := (contains_iff.1 (h (first - 1))).1 first rfl
    omega
  | none =>
    cases last with
    | some last =>
      have hlt : last + 1 ≤ last := (contains_iff.1 (h (last + 1))).2 last rfl
      omega
    | none => rfl

/-- A range within another admits fewer books, also if one of them is open at both ends. -/
theorem admits_mono (h : ∀ year, narrow.contains year → wide.contains year) {b : Book}
    (hb : narrow.admits b) : wide.admits b := by
  rw [admits_iff] at hb ⊢
  rcases hb with rfl | ⟨s, year, hs, hyear, hin⟩
  · exact Or.inl (eq_unbounded fun year => h year rfl)
  · exact Or.inr ⟨s, year, hs, hyear, contains_iff.1 (h year (contains_iff.2 hin))⟩

end YearRange

/-! ## What narrowing leaves -/

/-- Narrowing plain books to a query leaves the books that fit it, in their order and as often as they
were there. Each way to narrow may be repeated, exchanged with another one and carried out part by
part, and a range within another leaves fewer books. All of this is as long as the years can be
written: with an end that is too long there is no result. -/
theorem Selection.matching_fits {books : List Book} (h : ∀ b ∈ books, b.IsPlain) :
    (∀ q, q.years.IsShort → matching books q = .ok (books.filter fun b => b.Fits q)) ∧
    (∀ q, ¬q.years.IsShort → matching books q = .error .malformed) ∧
    (∀ f : Narrowing, f.range.IsShort → ∃ kept, f.run books = .ok kept) ∧
    (∀ f : Narrowing, f.run books >>= f.run = f.run books) ∧
    (∀ f g : Narrowing, f.run books >>= g.run = g.run books >>= f.run) ∧
    (∀ (f : Narrowing) (more : List Book), (∀ b ∈ more, b.IsPlain) →
      f.run (books ++ more) = do return (← f.run books) ++ (← f.run more)) ∧
    ∀ narrow wide : YearRange, narrow.IsShort → wide.IsShort →
      (∀ year, narrow.contains year → wide.contains year) →
      (∃ few many, byYears narrow books = .ok few ∧ byYears wide books = .ok many ∧
        few.Sublist many) ∧
      ∀ t, ∃ few many, matching books (.authorYears t narrow) = .ok few ∧
        matching books (.authorYears t wide) = .ok many ∧ few.Sublist many := by
  refine ⟨fun q hq => ?_, fun q hq => Narrowing.run_of_not_isShort (f := .query q) h hq,
    fun f hf => ⟨_, Narrowing.run_of_isShort h hf⟩, Narrowing.run_run h, Narrowing.run_comm h,
    fun f _ hmore => Narrowing.run_append h hmore f,
    fun narrow wide hnarrow hwide hin => ⟨?_, fun t => ?_⟩⟩
  · refine (Narrowing.run_of_isShort (f := .query q) h hq).trans ?_
    refine congrArg Except.ok (List.filter_congr fun b _ => ?_)
    rw [Bool.eq_iff_iff, decide_eq_true_iff]
    exact Query.wants_iff_fits
  · exact Narrowing.run_sublist (f := .years narrow) (g := .years wide) h hnarrow hwide
      fun _ => YearRange.admits_mono hin
  · refine Narrowing.run_sublist (f := .query (.authorYears t narrow))
      (g := .query (.authorYears t wide)) h hnarrow hwide fun b hb => ?_
    simp only [Narrowing.wants, Query.wants, Bool.and_eq_true] at hb ⊢
    exact ⟨hb.1, YearRange.admits_mono hin hb.2⟩

/-- Books without a title, without an author and without a year that can be read, and one that is
listed twice. The term has blanks around it, and the range is open at one end. -/
theorem Selection.matching_fits_hobbit :
    let hobbit : Book := { Book.blank with
      isbn := some "1", title := .text "The Hobbit", author := .text "J.R.R. Tolkien"
      publishYear := .text " 1937 " }
    let books : List Book := [
      hobbit,
      { hobbit with isbn := some "2", title := .null, publishYear := .text "circa 1930" },
      { hobbit with isbn := some "3", author := .null },
      { hobbit with isbn := some "4", publishYear := .text "1954" },
      { hobbit with isbn := some "5", publishYear := .null },
      hobbit]
    (∀ b ∈ books, b.IsPlain) ∧
      matching books (.authorYears " TOLKIEN\t" ⟨none, some 1937⟩) = .ok [hobbit, hobbit] := by
  intro hobbit books
  have htext (s : String) : (Payload.text s).IsPlain := Or.inr ⟨s, rfl⟩
  have hnull : Payload.null.IsPlain := Or.inl rfl
  have hhobbit : hobbit.IsPlain := ⟨htext _, htext _, htext _⟩
  have hplain : ∀ b ∈ books, b.IsPlain := by
    simp only [books, List.forall_mem_cons]
    exact ⟨hhobbit, ⟨hnull, htext _, htext _⟩, ⟨htext _, hnull, htext _⟩,
      ⟨htext _, htext _, htext _⟩, ⟨htext _, htext _, hnull⟩, hhobbit, List.forall_mem_nil _⟩
  exact ⟨hplain, ((matching_fits hplain).1 _ (by decide)).trans rfl⟩

/-- A book that fits a query is lost because the last year of the query is too long. -/
theorem Selection.matching_overlong :
    let hobbit : Book := { Book.blank with
      isbn := some "1", title := .text "The Hobbit", author := .text "J.R.R. Tolkien"
      publishYear := .text "1937" }
    let q := Query.authorYears "tolkien" .overlong
    hobbit.Fits q ∧ matching [hobbit] q = .error .malformed ∧
      matching [hobbit] (.authorYears "tolkien" ⟨none, some 2000⟩) = .ok [hobbit] := by
  intro hobbit q
  have hplain : ∀ b ∈ [hobbit], b.IsPlain :=
    List.forall_mem_singleton.2 ⟨Or.inr ⟨_, rfl⟩, Or.inr ⟨_, rfl⟩, Or.inr ⟨_, rfl⟩⟩
  have hshort : Number.IsShort 1937 := by decide
  refine ⟨⟨Or.inr ⟨_, rfl, by decide +kernel⟩, Or.inr ⟨_, 1937, rfl, rfl, nofun, ?_⟩⟩,
    (matching_eq hplain q).trans ?_, by rfl⟩
  · rintro last ⟨⟩
    exact Int.le_of_lt (Number.lt_tenTo_of_isShort hshort)
  · rw [YearRange.write_of_not_isShort (r := q.years) YearRange.not_isShort_overlong]
    rfl

end Bookfinder
