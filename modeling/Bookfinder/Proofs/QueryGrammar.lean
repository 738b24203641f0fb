import Bookfinder.Proofs.CanonicalQuery

/-!
# The grammar of queries

`Query.Grammar` says what a trimmed text asks for, in terms of the text alone: how it starts,
which run of characters follows its first year mark (`Query.IsFirstRun`), which range that run
spells (`YearRange.Spells`) and what is left of the text once its marks and their runs are deleted
(`Query.Erased`). Reading follows the grammar, notices included (`Query.parse_eq_ok_iff_grammar`).

The reader does not delete a mark, it puts a space in its place. That gives the same words, for a
run ends before a blank or at the end of the text (`Query.respace_withoutRuns`).
-/

namespace Bookfinder

/-! ## Spellings of ranges -/

namespace YearRange

/-- The year that digits write; without digits the end of a range is open. -/
def endOf (ds : List Char) : Option Int :=
  if ds = [] then none else some (Nat.ofDigitChars 10 ds 0)

/-- The spellings of a range: nothing for all years, a single year, or two ends around a dash. -/
inductive Spells : List Char → YearRange → Prop
  | nothing : Spells [] .unbounded
  | year {ds : List Char} (hne : ds ≠ []) (hds : ds.all Text.isAsciiDigit) :
    Spells ds (.only (Nat.ofDigitChars 10 ds 0))
  | ends {first last : List Char} (hfirst : first.all Text.isAsciiDigit)
    (hlast : last.all Text.isAsciiDigit) : Spells (first ++ '-' :: last) ⟨endOf first, endOf last⟩

/-- No run of digits in a text is longer than may be read. -/
def HasShortDigits (cs : List Char) : Prop :=
  ∀ ds, ds <:+: cs → ds.all Text.isAsciiDigit → ds.length ≤ Number.maxIntegerDigits

/-- The text spells a range, but with more digits in a row than may be read. -/
def IsOverlong (cs : List Char) : Prop := (∃ r, Spells cs r) ∧ ¬HasShortDigits cs

/-- Short digits are read as the year that they spell. -/
theorem parseEnd_eq {ds : List Char} (hds : ds.all Text.isAsciiDigit)
    (hlen : ds.length ≤ Number.maxIntegerDigits) : parseEnd ds = .ok (endOf ds) := by
  by_cases hne : ds = []
  · subst hne
    rfl
  · have hempty : ds.isEmpty = false := List.isEmpty_eq_false_iff.2 hne
    have hread : Number.natOfDigits? ds = some (Text.natOfAsciiDigits ds) := by
      rw [Number.natOfDigits?, hempty, hds, decide_eq_false (Nat.not_lt.2 hlen)]
      rfl
    rw [parseEnd, hempty, hread, endOf, if_neg hne, ← Text.natOfAsciiDigits_eq]
    rfl

/-- Digits and a dash are read apart. -/
theorem takeWhile_digits {first : List Char} (h : first.all Text.isAsciiDigit)
    (last : List Char) :
    (first ++ '-' :: last).takeWhile Text.isAsciiDigit = first ∧
      (first ++ '-' :: last).dropWhile Text.isAsciiDigit = '-' :: last := by
  have hall : ∀ c ∈ first, Text.isAsciiDigit c := List.all_eq_true.1 h
  have hdash : Text.isAsciiDigit '-' = false := by decide
  rw [List.takeWhile_append_of_pos hall, List.dropWhile_append_of_pos hall]
  simp [hdash]

/-- A run that spells a range is parsed into it. -/
theorem parseTrimmed_of_spells {run : List Char} {r : YearRange} (h : Spells run r)
    (hshort : HasShortDigits run) : parseTrimmed run = .ok (some r) := by
  cases h with
  | nothing => rfl
  | year hne hds =>
    have hall : ∀ c ∈ run, Text.isAsciiDigit c := List.all_eq_true.1 hds
    have hend := parseEnd_eq hds (hshort run (List.infix_refl run) hds)
    rw [endOf, if_neg hne] at hend
    rw [parseTrimmed, List.takeWhile_eq_self_iff.2 hall, List.dropWhile_eq_nil_iff.2 hall, hend]
    rfl
  | @ends first last hfirst hlast =>
    have hends := takeWhile_digits hfirst last
    have hf := parseEnd_eq hfirst (hshort first (List.prefix_append _ _).isInfix hfirst)
    have hl := parseEnd_eq hlast
      (hshort last ((List.suffix_cons _ _).isInfix.trans (List.suffix_append _ _).isInfix) hlast)
    rw [parseTrimmed, hends.1, hends.2]
    simp only [hlast, if_true, hf, hl]
    rfl

/-- Digits alone spell a range, if only that of all years. -/
theorem spells_digits {ds : List Char} (hds : ds.all Text.isAsciiDigit) : ∃ r, Spells ds r := by
  by_cases hne : ds = []
  · subst hne
    exact ⟨_, .nothing⟩
  · exact ⟨_, .year hne hds⟩

/-- A run that spells none is parsed into none. -/
theorem parseTrimmed_of_malformed {run : List Char} (h : ∀ r, ¬Spells run r) :
    parseTrimmed run = .ok none := by
  have hrun := List.takeWhile_append_dropWhile (p := Text.isAsciiDigit) (l := run)
  have hfirst : (run.takeWhile Text.isAsciiDigit).all Text.isAsciiDigit := List.all_takeWhile
  unfold parseTrimmed
  split
  · next hnil =>
    rw [hnil, List.append_nil] at hrun
    rw [hrun] at hfirst
    obtain ⟨r, hr⟩ := spells_digits hfirst
    exact absurd hr (h r)
  · next last hdash =>
    rw [hdash] at hrun
    split
    · next hlast =>
      have hends := Spells.ends hfirst hlast
      rw [hrun] at hends
      exact absurd hends (h _)
    · rfl
  · rfl

end YearRange

namespace Query

open Text

/-! ## First runs -/

/-- The first year mark of a text has the run `run` after it, up to a blank or the end. -/
def IsFirstRun (cs run : List Char) : Prop :=
  ∃ before after, cs = before ++ (yearMark ++ (run ++ after)) ∧
    (∀ early, early ++ yearMark <+: cs → before.length ≤ early.length) ∧
    (∀ c ∈ run, isBlank c = false) ∧ ∀ c ∈ after.head?, isBlank c

theorem exists_run (rest : List Char) : ∃ run after, rest = run ++ after ∧
    (∀ c ∈ run, isBlank c = false) ∧ ∀ c ∈ after.head?, isBlank c := by
  refine ⟨rest.takeWhile fun c => !isBlank c, rest.dropWhile fun c => !isBlank c,
    List.takeWhile_append_dropWhile.symm, fun c hc => ?_, fun c hc => ?_⟩
  · simpa using List.mem_takeWhile_imp hc
  · rw [← List.find?_eq_head?_dropWhile_not] at hc
    exact List.find?_some hc

theorem takeWhile_run {run after : List Char} (hrun : ∀ c ∈ run, isBlank c = false)
    (hafter : ∀ c ∈ after.head?, isBlank c) :
    (run ++ after).takeWhile (fun c => !isBlank c) = run := by
  have hpos : ∀ c ∈ run, (!isBlank c) = true := fun c hc => by simp [hrun c hc]
  rw [List.takeWhile_append_of_pos hpos]
  cases after with
  | nil => simp
  | cons c after => simp [hafter c rfl]

/-- The first run of the grammar is the one that is found. -/
theorem firstRun?_of_isFirstRun {cs run : List Char} (h : IsFirstRun cs run) :
    firstRun? cs = some run := by
  obtain ⟨before, after, rfl, hfirst, hrun, hafter⟩ := h
  induction before with
  | nil =>
    rw [List.nil_append, firstRun?_of_after? (after?_eq_some_iff.2 rfl),
      takeWhile_run hrun hafter]
  | cons c before ih =>
    have hmark : ¬yearMark <+: c :: before ++ (yearMark ++ (run ++ after)) := fun hp =>
      absurd (hfirst [] hp) (by simp)
    rw [List.cons_append] at hmark ⊢
    rw [firstRun?, after?_eq_none_iff.2 hmark]
    refine ih fun early hearly => ?_
    have hle := hfirst (c :: early) (List.cons_prefix_cons.2 ⟨rfl, hearly⟩)
    exact Nat.le_of_succ_le_succ hle

/-- There is a first run if there is a mark. -/
theorem exists_isFirstRun {cs : List Char} (h : yearMark <:+: cs) : ∃ run, IsFirstRun cs run := by
  induction cs with
  | nil => exact absurd h (by decide)
  | cons c cs ih =>
    by_cases hp : yearMark <+: c :: cs
    · obtain ⟨rest, hrest⟩ := hp
      obtain ⟨run, after, rfl, hrun, hafter⟩ := exists_run rest
      exact ⟨run, [], after, hrest.symm, fun _ _ => Nat.zero_le _, hrun, hafter⟩
    · obtain ⟨run, before, after, rfl, hfirst, hrest⟩ :=
        ih ((List.infix_cons_iff.1 h).resolve_left hp)
      refine ⟨run, c :: before, after, rfl, fun early hearly => ?_, hrest⟩
      cases early with
      | nil => exact absurd hearly hp
      | cons d early =>
        exact Nat.succ_le_succ (hfirst early (List.cons_prefix_cons.1 hearly).2)

/-! ## Texts without their marks -/

/-- `left` is what is left of a text once every year mark is deleted with the run after it. -/
inductive Erased : List Char → List Char → Prop
  | nil : Erased [] []
  | mark {run after left : List Char} (hrun : ∀ c ∈ run, isBlank c = false)
    (hafter : ∀ c ∈ after.head?, isBlank c) (h : Erased after left) :
    Erased (yearMark ++ (run ++ after)) left
  | keep {c : Char} {cs left : List Char} (hc : ¬yearMark <+: c :: cs) (h : Erased cs left) :
    Erased (c :: cs) (c :: left)

/-- Every text has a rest without its runs. -/
theorem exists_erased (cs : List Char) : ∃ left, Erased cs left := by
  by_cases hp : yearMark <+: cs
  · obtain ⟨rest, rfl⟩ := hp
    obtain ⟨run, after, rfl, hrun, hafter⟩ := exists_run rest
    have hlt : after.length < (yearMark ++ (run ++ after)).length := by
      simp [yearMark_eq]
      omega
    obtain ⟨left, hleft⟩ := exists_erased after
    exact ⟨left, .mark hrun hafter hleft⟩
  · cases cs with
    | nil => exact ⟨[], .nil⟩
    | cons c cs =>
      obtain ⟨left, hleft⟩ := exists_erased cs
      exact ⟨c :: left, .keep hp hleft⟩
termination_by cs.length

/-- A text that starts with a blank keeps it, and its run has ended. -/
theorem withoutRuns_of_blank {cs : List Char} (h : ∀ c ∈ cs.head?, isBlank c) :
    withoutRuns true cs = withoutRuns false cs ∧
      ∀ c ∈ (withoutRuns false cs).head?, isBlank c := by
  cases cs with
  | nil => exact ⟨rfl, h⟩
  | cons c cs =>
    have hc : isBlank c := h c rfl
    have hmark : ¬yearMark.isPrefixOf (c :: cs) := by
      rw [List.isPrefixOf_iff_prefix, yearMark_eq]
      intro hp
      obtain rfl := (List.cons_prefix_cons.1 hp).1
      exact absurd hc (by decide)
    simp [withoutRuns, hc, hmark]

/-- Deleting the marks with their runs leaves the words that are read. -/
theorem wordsFrom_withoutRuns {cs left : List Char} (h : Erased cs left) (word : List Char) :
    wordsFrom word (withoutRuns false cs) = wordsFrom word left := by
  induction h generalizing word with
  | nil => rfl
  | @mark run after left hrun hafter h ih =>
    obtain ⟨hend, hhead⟩ := withoutRuns_of_blank hafter
    rw [withoutRuns_yearMark_append hrun, hend,
      wordsFrom_cons_blank (by decide : isBlank ' ') hhead, ih]
  | @keep c cs left hc h ih =>
    rw [withoutRuns, if_neg (by simp), if_neg (by rwa [List.isPrefixOf_iff_prefix])]
    simp only [wordsFrom, ih]

/-- The rest without the runs is found, up to its spaces. -/
theorem respace_withoutRuns {cs left : List Char} (h : Erased cs left) :
    respace (withoutRuns false cs) = respace left := by
  rw [respace, wordsOf, wordsFrom_withoutRuns h, ← wordsOf, ← respace]

/-! ## The grammar -/

/-- The years that the run after a mark of the text `cs` gives, and the notice about it. -/
inductive RunGives (run cs : List Char) : YearRange → List Notice → Prop
  | spelled {years : YearRange} (h : years.Spells run) : RunGives run cs years []
  | malformed (h : ∀ years : YearRange, ¬years.Spells run) :
    RunGives run cs .unbounded [.malformedYears (String.ofList run) (String.ofList cs)]

/-- What a trimmed text asks for, and the notices of reading it. -/
inductive Grammar : List Char → Option Query → List Notice → Prop
  | nothing : Grammar [] none []
  /-- A text for titles may hold a year mark. -/
  | titles (rest : List Char) :
    Grammar (titleMark ++ rest) (some (.titleOnly (String.ofList (trimChars rest)))) []
  | author {rest : List Char} (hyear : ¬yearMark <:+: authorMark ++ rest) :
    Grammar (authorMark ++ rest) (some (.authorOnly (String.ofList (trimChars rest)))) []
  | authorYears {rest run left : List Char} {years : YearRange} {notices : List Notice}
    (hrun : IsFirstRun (authorMark ++ rest) run) (hleft : Erased rest left)
    (hyears : RunGives run (authorMark ++ rest) years notices) :
    Grammar (authorMark ++ rest) (some (.authorYears (String.ofList (respace left)) years)) notices
  | anyAuthor {cs run : List Char} {years : YearRange} {notices : List Notice}
    (htitle : ¬titleMark <+: cs) (hauthor : ¬authorMark <+: cs) (hrun : IsFirstRun cs run)
    (hyears : RunGives run cs years notices) : Grammar cs (some (.authorYears "" years)) notices
  | free {cs : List Char} (hne : cs ≠ []) (htitle : ¬titleMark <+: cs)
    (hauthor : ¬authorMark <+: cs) (hyear : ¬yearMark <:+: cs) :
    Grammar cs (some (.freeText (String.ofList cs))) []

/-- Every run gives some years. -/
theorem exists_runGives (run cs : List Char) : ∃ years notices, RunGives run cs years notices := by
  by_cases h : ∃ years : YearRange, years.Spells run
  · obtain ⟨years, hyears⟩ := h
    exact ⟨years, [], .spelled hyears⟩
  · exact ⟨_, _, .malformed fun years hyears => h ⟨years, hyears⟩⟩

/-- Each text has a reading. -/
theorem exists_grammar (cs : List Char) : ∃ q notices, Grammar cs q notices := by
  by_cases hne : cs = []
  · subst hne
    exact ⟨_, _, .nothing⟩
  by_cases htitle : titleMark <+: cs
  · obtain ⟨rest, rfl⟩ := htitle
    exact ⟨_, _, .titles rest⟩
  by_cases hyear : yearMark <:+: cs
  · obtain ⟨run, hrun⟩ := exists_isFirstRun hyear
    obtain ⟨years, notices, hyears⟩ := exists_runGives run cs
    by_cases hauthor : authorMark <+: cs
    · obtain ⟨rest, rfl⟩ := hauthor
      obtain ⟨left, hleft⟩ := exists_erased rest
      exact ⟨_, _, .authorYears hrun hleft hyears⟩
    · exact ⟨_, _, .anyAuthor htitle hauthor hrun hyears⟩
  · by_cases hauthor : authorMark <+: cs
    · obtain ⟨rest, rfl⟩ := hauthor
      exact ⟨_, _, .author hyear⟩
    · exact ⟨_, _, .free hne htitle hauthor hyear⟩

/-! ## Reading follows the grammar -/

/-- The run after the first year mark spells a range with more digits in a row than may be read. A
text for titles has no run. -/
def IsOverlong (cs : List Char) : Prop :=
  ¬titleMark <+: cs ∧ ∃ run, IsFirstRun cs run ∧ YearRange.IsOverlong run

/-- The digits that follow a year mark before the next blank are never too many to be read. -/
def HasShortYears (cs : List Char) : Prop :=
  ∀ run, yearMark ++ run <:+: cs → (∀ c ∈ run, isBlank c = false) → YearRange.HasShortDigits run

/-- A text has to be longer than its digits. -/
theorem hasShortYears_of_length_le {cs : List Char} (h : cs.length ≤ Number.maxIntegerDigits) :
    HasShortYears cs := by
  intro run hrun _ ds hds _
  have hinfix : ds <:+: cs := hds.trans ((List.suffix_append yearMark run).isInfix.trans hrun)
  exact Nat.le_trans hinfix.length_le h

/-- Text with short years has no year that is too long. -/
theorem HasShortYears.not_isOverlong {cs : List Char} (h : HasShortYears cs) : ¬IsOverlong cs := by
  rintro ⟨-, run, ⟨before, after, rfl, -, hblank, -⟩, -, hlong⟩
  exact hlong (h run ⟨before, after, by simp⟩ hblank)

theorem IsFirstRun.not_isBlank {cs run : List Char} (h : IsFirstRun cs run) :
    ∀ c ∈ run, isBlank c = false := by
  obtain ⟨before, after, -, -, hblank, -⟩ := h
  exact hblank

/-- A run that is not too long makes the query that the grammar gives. -/
theorem ofRun_of_gives {run cs : List Char} {years : YearRange} {notices : List Notice}
    (h : RunGives run cs years notices) (hrun : IsFirstRun cs run)
    (hlong : ¬YearRange.IsOverlong run) (author : List Char) :
    some <$> ofRun author run cs =
      ⟨.ok (some (.authorYears (String.ofList author) years)), notices⟩ := by
  rw [ofRun, YearRange.parse, trimChars_of_not_isBlank hrun.not_isBlank]
  cases h with
  | spelled h =>
    have hshort : YearRange.HasShortDigits run := by
      by_contra hdigits
      exact hlong ⟨⟨years, h⟩, hdigits⟩
    rw [YearRange.parseTrimmed_of_spells h hshort]
    rfl
  | malformed h =>
    rw [YearRange.parseTrimmed_of_malformed h]
    rfl

/-- Reading follows the grammar unless there are too many digits. -/
theorem parseTrimmed_of_not_isOverlong {cs : List Char} {q : Option Query} {notices : List Notice}
    (h : Grammar cs q notices) (hlong : ¬IsOverlong cs) : parseTrimmed cs = ⟨.ok q, notices⟩ := by
  cases h with
  | nothing => rfl
  | titles rest => exact parseTrimmed_titleMark_append rest
  | author hyear =>
    rw [infix_authorMark_append] at hyear
    exact parseTrimmed_authorMark_append hyear
  | @authorYears rest run left years notices hrun hleft hyears =>
    have htitle : ¬titleMark <+: authorMark ++ rest :=
      after?_eq_none_iff.1 (after?_titleMark_authorMark_append rest)
    rw [parseTrimmed_authorMark_append_run (firstRun?_of_isFirstRun hrun),
      respace_withoutRuns hleft,
      ofRun_of_gives hyears hrun fun hover => hlong ⟨htitle, run, hrun, hover⟩]
  | @anyAuthor cs run years notices htitle hauthor hrun hyears =>
    rw [parseTrimmed_run htitle hauthor (firstRun?_of_isFirstRun hrun),
      ofRun_of_gives hyears hrun fun hover => hlong ⟨htitle, run, hrun, hover⟩, String.ofList_nil]
  | free hne htitle hauthor hyear => exact parseTrimmed_free hne htitle hauthor hyear

/-- With short years, what the grammar gives is what is parsed. -/
theorem parseTrimmed_of_grammar {cs : List Char} {q : Option Query} {notices : List Notice}
    (h : Grammar cs q notices) (hshort : HasShortYears cs) :
    parseTrimmed cs = ⟨.ok q, notices⟩ :=
  parseTrimmed_of_not_isOverlong h hshort.not_isOverlong

/-- A text whose years are not too long to be read is read without a fault, as what the grammar
says and with the notices that it says. -/
theorem parse_eq_ok_iff_grammar {raw : String} (h : HasShortYears raw.toList) :
    (∃ q notices, parse (some raw) = ⟨.ok q, notices⟩) ∧
      ∀ q notices, parse (some raw) = ⟨.ok q, notices⟩ ↔
        Grammar (trimChars raw.toList) q notices := by
  have hshort : HasShortYears (trimChars raw.toList) := fun run hrun =>
    h run (hrun.trans (isInfix_trimChars raw.toList))
  obtain ⟨q, notices, hg⟩ := exists_grammar (trimChars raw.toList)
  have hread : parse (some raw) = ⟨.ok q, notices⟩ := parseTrimmed_of_grammar hg hshort
  refine ⟨⟨q, notices, hread⟩, fun q' notices' => ⟨fun h' => ?_, fun hg' => ?_⟩⟩
  · rw [hread] at h'
    cases h'
    exact hg
  · exact parseTrimmed_of_grammar hg' hshort

/-- A mark inside a word starts a run, a mark inside a run does not, and of two runs the first one
gives the years; here it is malformed. -/
theorem parse_eq_ok_iff_grammar_glued :
    HasShortYears "\t author:J.R.R. lightyear:5-year:7\u00A0Tolkien year:1950 ".toList ∧
      Grammar (trimChars "\t author:J.R.R. lightyear:5-year:7\u00A0Tolkien year:1950 ".toList)
        (some (.authorYears "J.R.R. light Tolkien" .unbounded))
        [.malformedYears "5-year:7" "author:J.R.R. lightyear:5-year:7\u00A0Tolkien year:1950"] := by
  have h : HasShortYears "\t author:J.R.R. lightyear:5-year:7\u00A0Tolkien year:1950 ".toList :=
    hasShortYears_of_length_le (by decide)
  exact ⟨h, ((parse_eq_ok_iff_grammar h).2 _ _).1 (by rfl)⟩

end Query

end Bookfinder
