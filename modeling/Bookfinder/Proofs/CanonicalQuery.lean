import Bookfinder.Proofs.Years
import Bookfinder.Query.Writing
import Mathlib.Data.List.TakeWhile

/-!
# Canonical queries

Whatever was typed, reading it once gives a query in a form that writing and reading keep
(`Query.written_of_parse`). The form is `Query.IsCanonical`: a term in order, without a year mark
where one would be read, and years that are not negative. Each query that was read has it
(`Query.isCanonical_of_parse`), and a canonical query reads back from the way it is written
(`Query.parse_written`). No other query does (`Query.parse_written_eq_ok_iff`).

The term of an author with years is what `withoutRuns` leaves. It leaves a space in place of every
mark, so the pieces around one never join to another mark (`not_infix_withoutRuns`), and putting
the words in order makes none (`infix_of_infix_respace`).
-/

namespace Bookfinder.Query

open Text

/-! ## Year marks -/

theorem yearMark_eq : yearMark = 'y' :: ['e', 'a', 'r', ':'] := by decide

/-- The mark of a year run has no blanks. -/
theorem not_isBlank_of_mem_yearMark {c : Char} (hc : c ∈ yearMark) : isBlank c = false := by
  have hall : (yearMark.all fun c => !isBlank c) = true := by rfl
  simpa using List.all_eq_true.1 hall c hc

/-- The first run is what follows the first mark, up to a blank. -/
theorem firstRun?_of_after? {cs rest : List Char} (h : after? yearMark cs = some rest) :
    firstRun? cs = some (rest.takeWhile fun c => !isBlank c) := by
  cases cs with
  | nil => exact absurd (after?_eq_some_iff.1 h) nofun
  | cons c cs => rw [firstRun?, h]

/-- There is no run exactly if there is no mark. -/
theorem firstRun?_eq_none_iff {cs : List Char} : firstRun? cs = none ↔ ¬yearMark <:+: cs := by
  induction cs with
  | nil => exact iff_of_true rfl (by decide)
  | cons c cs ih =>
    rw [List.infix_cons_iff, not_or, ← ih, ← after?_eq_none_iff]
    cases h : after? yearMark (c :: cs) with
    | some rest => simp [firstRun?_of_after? h]
    | none => simp [firstRun?, h]

/-- No year mark starts before a space and ends after it. -/
theorem not_prefix_append_cons {pre : List Char} (h : ¬yearMark <+: pre) (rest : List Char) :
    ¬yearMark <+: pre ++ ' ' :: rest :=
  fun hp => h (prefix_of_prefix_append_cons (by decide) hp)

/-- Text before a blank that has no mark has no part in the first run. -/
theorem firstRun?_append {pre : List Char} (h : ¬yearMark <:+: pre) (rest : List Char) :
    firstRun? (pre ++ ' ' :: rest) = firstRun? rest := by
  induction pre with
  | nil =>
    have hnil : ¬yearMark <+: [] ++ ' ' :: rest := not_prefix_append_cons (by decide) rest
    rw [List.nil_append] at hnil ⊢
    rw [firstRun?, after?_eq_none_iff.2 hnil]
  | cons c pre ih =>
    rw [List.infix_cons_iff, not_or] at h
    have hcons := not_prefix_append_cons h.1 rest
    rw [List.cons_append] at hcons ⊢
    rw [firstRun?, after?_eq_none_iff.2 hcons]
    exact ih h.2

/-! ## Texts without their year marks -/

/-- A part without a space that starts what is left starts the text as well. -/
theorem prefix_of_prefix_withoutRuns {needle cs : List Char} (hs : ' ' ∉ needle)
    (h : needle <+: withoutRuns false cs) : needle <+: cs := by
  induction cs generalizing needle with
  | nil => exact h
  | cons c cs ih =>
    cases needle with
    | nil => exact List.nil_prefix
    | cons d needle =>
      simp only [withoutRuns, Bool.false_and, Bool.false_eq_true, if_false] at h
      split at h
      · obtain rfl := (List.cons_prefix_cons.1 h).1
        exact absurd List.mem_cons_self hs
      · obtain ⟨rfl, hp⟩ := List.cons_prefix_cons.1 h
        exact List.cons_prefix_cons.2 ⟨rfl, ih (fun hm => hs (List.mem_cons_of_mem _ hm)) hp⟩

/-- No year mark is left, nor does a new one come about where pieces meet. -/
theorem not_infix_withoutRuns (inRun : Bool) (cs : List Char) :
    ¬yearMark <:+: withoutRuns inRun cs := by
  induction cs generalizing inRun with
  | nil => exact (by decide : ¬yearMark <:+: [])
  | cons c cs ih =>
    rw [withoutRuns]
    split
    · exact ih true
    split
    · have hspace : ¬yearMark <+: [' '] ++ withoutRuns true cs :=
        not_prefix_append (by decide) (by decide) _
      rw [List.infix_cons_iff, not_or]
      exact ⟨hspace, ih true⟩
    · next hmark =>
      rw [List.infix_cons_iff, not_or]
      refine ⟨fun hp => ?_, ih false⟩
      rw [List.isPrefixOf_iff_prefix] at hmark
      rw [yearMark_eq] at hp hmark
      obtain ⟨rfl, hear⟩ := List.cons_prefix_cons.1 hp
      exact hmark (List.cons_prefix_cons.2 ⟨rfl, prefix_of_prefix_withoutRuns (by decide) hear⟩)

/-- Such text is kept when the runs are taken out. -/
theorem withoutRuns_append {t : List Char} (h : ¬yearMark <:+: t) (rest : List Char) :
    withoutRuns false (t ++ ' ' :: rest) = t ++ ' ' :: withoutRuns false rest := by
  have hkeep : ∀ {c cs}, ¬yearMark <+: c :: cs →
      withoutRuns false (c :: cs) = c :: withoutRuns false cs := fun hp => by
    rw [withoutRuns, if_neg (by simp), if_neg (by rwa [List.isPrefixOf_iff_prefix])]
  induction t with
  | nil =>
    have hnil : ¬yearMark <+: [] ++ ' ' :: rest := not_prefix_append_cons (by decide) rest
    exact hkeep hnil
  | cons c t ih =>
    rw [List.infix_cons_iff, not_or] at h
    have hcons := not_prefix_append_cons h.1 rest
    rw [List.cons_append] at hcons ⊢
    rw [hkeep hcons, ih h.2, List.cons_append]

/-- The rest of a run is dropped up to a blank. -/
theorem withoutRuns_true_append {run : List Char} (h : ∀ c ∈ run, isBlank c = false)
    (after : List Char) : withoutRuns true (run ++ after) = withoutRuns true after := by
  induction run with
  | nil => rfl
  | cons c run ih =>
    have hc : isBlank c = false := h c List.mem_cons_self
    rw [List.cons_append, withoutRuns, if_pos (by simp [hc]),
      ih fun d hd => h d (List.mem_cons_of_mem _ hd)]

/-- A mark and its run leave a space. -/
theorem withoutRuns_yearMark_append {run : List Char} (h : ∀ c ∈ run, isBlank c = false)
    (after : List Char) :
    withoutRuns false (yearMark ++ (run ++ after)) = ' ' :: withoutRuns true after := by
  have hmark : yearMark.isPrefixOf (yearMark ++ (run ++ after)) :=
    List.isPrefixOf_iff_prefix.2 (List.prefix_append _ _)
  have hear : ∀ c ∈ ['e', 'a', 'r', ':'], isBlank c = false := fun c hc =>
    not_isBlank_of_mem_yearMark (yearMark_eq ▸ List.mem_cons_of_mem _ hc)
  rw [yearMark_eq] at hmark ⊢
  rw [List.cons_append] at hmark ⊢
  rw [withoutRuns, if_neg (by simp), if_pos (by rwa [yearMark_eq]), withoutRuns_true_append hear,
    withoutRuns_true_append h]

/-! ## What a trimmed text asks for -/

/-- A query for an author is none for a title. -/
theorem after?_titleMark_authorMark_append (cs : List Char) :
    after? titleMark (authorMark ++ cs) = none := by
  rw [after?_eq_none_iff]
  exact not_prefix_append (by decide) (by decide) cs

/-- The year mark has a letter that the author mark has not, so none lies across its end. -/
theorem infix_authorMark_append {cs : List Char} :
    yearMark <:+: authorMark ++ cs ↔ yearMark <:+: cs := by
  have hmark : authorMark = ['a', 'u', 't', 'h', 'o', 'r', ':'] := by decide
  simp [hmark, yearMark_eq, List.infix_cons_iff]

theorem not_isEmpty_mark_append {mark : List Char} (h : mark ≠ []) (cs : List Char) :
    ¬(mark ++ cs).isEmpty := by
  simp [h]

/-- What follows the mark of a title is the title. -/
theorem parseTrimmed_titleMark_append (cs : List Char) :
    parseTrimmed (titleMark ++ cs) =
      pure (some (.titleOnly (String.ofList (trimChars cs)))) := by
  rw [parseTrimmed, if_neg (not_isEmpty_mark_append (by decide) cs), after?_eq_some_iff.2 rfl]

/-- What follows the mark of an author is the author, if there is no mark of a year. -/
theorem parseTrimmed_authorMark_append {cs : List Char} (h : ¬yearMark <:+: cs) :
    parseTrimmed (authorMark ++ cs) =
      pure (some (.authorOnly (String.ofList (trimChars cs)))) := by
  rw [← infix_authorMark_append, ← firstRun?_eq_none_iff] at h
  rw [parseTrimmed, if_neg (not_isEmpty_mark_append (by decide) cs),
    after?_titleMark_authorMark_append, after?_eq_some_iff.2 rfl, h]

/-- With a run of years, the rest is the author. -/
theorem parseTrimmed_authorMark_append_run {cs run : List Char}
    (h : firstRun? (authorMark ++ cs) = some run) :
    parseTrimmed (authorMark ++ cs) =
      some <$> ofRun (respace (withoutRuns false cs)) run (authorMark ++ cs) := by
  rw [parseTrimmed, if_neg (not_isEmpty_mark_append (by decide) cs),
    after?_titleMark_authorMark_append, after?_eq_some_iff.2 rfl, h]

/-- Without a mark at its start, a text with a run of years asks for the years alone. -/
theorem parseTrimmed_run {cs run : List Char} (ht : ¬titleMark <+: cs) (ha : ¬authorMark <+: cs)
    (h : firstRun? cs = some run) : parseTrimmed cs = some <$> ofRun [] run cs := by
  have hne : ¬cs.isEmpty := fun he => by
    rw [List.isEmpty_iff.1 he] at h
    exact absurd h nofun
  rw [parseTrimmed, if_neg hne, after?_eq_none_iff.2 ht, after?_eq_none_iff.2 ha, h]

/-- A text without a mark is free text. -/
theorem parseTrimmed_free {cs : List Char} (hne : cs ≠ []) (ht : ¬titleMark <+: cs)
    (ha : ¬authorMark <+: cs) (hy : ¬yearMark <:+: cs) :
    parseTrimmed cs = pure (some (.freeText (String.ofList cs))) := by
  rw [parseTrimmed, if_neg (by simpa using hne), after?_eq_none_iff.2 ht,
    after?_eq_none_iff.2 ha, firstRun?_eq_none_iff.2 hy]

/-! ## Canonical queries -/

/-- A query that writing and reading keep, as long as its years are short enough to be read. -/
def IsCanonical : Query → Prop
  | .freeText t => t ≠ "" ∧ trim t = t ∧ ¬titleMark <+: t.toList ∧ ¬authorMark <+: t.toList ∧
      ¬yearMark <:+: t.toList
  | .titleOnly t => trim t = t
  | .authorOnly t => trim t = t ∧ ¬yearMark <:+: t.toList
  | .authorYears t r => respace t.toList = t.toList ∧ ¬yearMark <:+: t.toList ∧
      ∀ y ∈ r.bounds, 0 ≤ y

theorem trimChars_toList {t : String} (h : trim t = t) : trimChars t.toList = t.toList := by
  rw [← String.toList_ofList (l := trimChars t.toList), ← trim, h]

/-! ### Reading back -/

/-- A text without blanks around it is parsed as it is. -/
theorem parse_of_trimmed {s : String} {cs : List Char} (hs : s.toList = cs)
    (h : trimChars cs = cs) : parse (some s) = parseTrimmed cs := by
  rw [parse, hs, h]

/-- A written range is a run that reads back. -/
theorem ofRun_written {r : YearRange} (h : r.IsReadable) (author query : List Char) :
    some <$> ofRun author r.written.toList query =
      ⟨.ok (some (.authorYears (String.ofList author) r)), []⟩ := by
  rw [ofRun, YearRange.parse_written h]
  rfl

theorem parse_written_freeText {t : String} (h : (freeText t).IsCanonical) :
    parse (some t) = ⟨.ok (some (freeText t)), []⟩ := by
  obtain ⟨hne, htrim, ht, ha, hy⟩ := h
  rw [parse_of_trimmed rfl (trimChars_toList htrim), parseTrimmed_free (by simpa using hne) ht ha hy,
    String.ofList_toList, Outcome.pure_eq]

theorem parse_written_titleOnly {t : String} (h : (titleOnly t).IsCanonical) :
    parse (some ("title-only:" ++ t)) = ⟨.ok (some (titleOnly t)), []⟩ := by
  have hcs : ("title-only:" ++ t).toList = titleMark ++ t.toList := String.toList_append
  have ht : trimChars t.toList = t.toList := trimChars_toList h
  have htrim := trimChars_append (by decide : trimChars titleMark = titleMark) ht
  rw [parse_of_trimmed hcs htrim, parseTrimmed_titleMark_append, ht, String.ofList_toList,
    Outcome.pure_eq]

theorem parse_written_authorOnly {t : String} (h : (authorOnly t).IsCanonical) :
    parse (some ("author:" ++ t)) = ⟨.ok (some (authorOnly t)), []⟩ := by
  have hcs : ("author:" ++ t).toList = authorMark ++ t.toList := String.toList_append
  have ht : trimChars t.toList = t.toList := trimChars_toList h.1
  have htrim := trimChars_append (by decide : trimChars authorMark = authorMark) ht
  rw [parse_of_trimmed hcs htrim, parseTrimmed_authorMark_append h.2, ht, String.ofList_toList,
    Outcome.pure_eq]

section Years

variable {r : YearRange} (h : r.IsReadable)
include h

theorem not_isBlank_of_mem_yearMark_append {c : Char} (hc : c ∈ yearMark ++ r.written.toList) :
    isBlank c = false :=
  (List.mem_append.1 hc).elim not_isBlank_of_mem_yearMark h.not_isBlank

theorem firstRun?_yearMark_append :
    firstRun? (yearMark ++ r.written.toList) = some r.written.toList := by
  rw [firstRun?_of_after? (after?_eq_some_iff.2 rfl), List.takeWhile_eq_self_iff.2]
  exact fun c hc => by simp [h.not_isBlank hc]

theorem parse_written_anyAuthor :
    parse (some ("year:" ++ r.written)) = ⟨.ok (some (authorYears "" r)), []⟩ := by
  have hcs : ("year:" ++ r.written).toList = yearMark ++ r.written.toList := String.toList_append
  have htrim := trimChars_of_not_isBlank fun _ => not_isBlank_of_mem_yearMark_append h
  have ht := not_prefix_append (by decide : ¬titleMark <+: yearMark) (by decide) r.written.toList
  have ha := not_prefix_append (by decide : ¬authorMark <+: yearMark) (by decide) r.written.toList
  rw [parse_of_trimmed hcs htrim, parseTrimmed_run ht ha (firstRun?_yearMark_append h),
    ofRun_written h]

/-- An author and years are read back together. -/
theorem parse_written_author {t : String} (ht : respace t.toList = t.toList)
    (hy : ¬yearMark <:+: t.toList) :
    parse (some ("author:" ++ t ++ " " ++ ("year:" ++ r.written))) =
      ⟨.ok (some (authorYears t r)), []⟩ := by
  have hcs : ("author:" ++ t ++ " " ++ ("year:" ++ r.written)).toList =
      authorMark ++ (t.toList ++ ' ' :: (yearMark ++ r.written.toList)) := by
    have hspace : " ".toList = [' '] := by decide
    simp only [String.toList_append, List.append_assoc, hspace, List.singleton_append]
    rfl
  have hpost := trimChars_of_not_isBlank fun _ => not_isBlank_of_mem_yearMark_append h
  have htrim := trimChars_append_append (by decide : trimChars authorMark = authorMark) hpost
    (by decide) (by simp [yearMark_eq]) (t.toList ++ [' '])
  have hrun : firstRun? (authorMark ++ (t.toList ++ ' ' :: (yearMark ++ r.written.toList))) =
      some r.written.toList := by
    rw [← infix_authorMark_append] at hy
    rw [← List.append_assoc, firstRun?_append hy, firstRun?_yearMark_append h]
  have hauthor : respace (withoutRuns false (t.toList ++ ' ' :: (yearMark ++ r.written.toList))) =
      t.toList := by
    have hspace : isBlank ' ' := by decide
    have hmark := withoutRuns_yearMark_append (fun _ => h.not_isBlank) []
    rw [List.append_nil, withoutRuns] at hmark
    rw [withoutRuns_append hy, hmark, List.append_cons, respace_concat_blank hspace,
      respace_concat_blank hspace, ht]
  rw [List.append_assoc, List.singleton_append] at htrim
  rw [parse_of_trimmed hcs htrim, parseTrimmed_authorMark_append_run hrun, ofRun_written h,
    hauthor, String.ofList_toList]

end Years

/-- A canonical query reads back from the way it is written. -/
theorem parse_written {q : Query} (h : q.IsCanonical) (hs : q.years.IsShort) :
    parse (some q.written) = ⟨.ok (some q), []⟩ := by
  cases q with
  | freeText t => exact parse_written_freeText h
  | titleOnly t => exact parse_written_titleOnly h
  | authorOnly t => exact parse_written_authorOnly h
  | authorYears t r =>
    obtain ⟨ht, hy, hpos⟩ := h
    have hr : r.IsReadable := fun y hm => ⟨hpos y hm, hs y hm⟩
    rw [written]
    split
    · next hempty =>
      rw [String.isEmpty_iff.1 hempty]
      exact parse_written_anyAuthor hr
    · exact parse_written_author hr ht hy

/-! ### What was read -/

/-- What a run makes is a query for an author and years that can be read. -/
theorem ofRun_eq_ok {author run query : List Char} {q : Query}
    (h : (some <$> ofRun author run query).result = .ok (some q)) :
    ∃ r : YearRange, r.IsReadable ∧ q = .authorYears (String.ofList author) r := by
  unfold ofRun at h
  cases hr : YearRange.parse run with
  | error e =>
    rw [hr] at h
    exact absurd h nofun
  | ok years =>
    rw [hr] at h
    cases years with
    | none =>
      have hq := Option.some.inj (Except.ok.inj h)
      exact ⟨_, YearRange.isReadable_unbounded, hq.symm⟩
    | some r =>
      have hq := Option.some.inj (Except.ok.inj h)
      exact ⟨r, YearRange.isReadable_of_parse hr, hq.symm⟩

/-- Such a query is canonical if the author is respaced and has no mark of a year. -/
theorem isCanonical_authorYears {cs : List Char} {r : YearRange} (hcs : respace cs = cs)
    (hy : ¬yearMark <:+: cs) (hr : r.IsReadable) :
    (authorYears (String.ofList cs) r).IsCanonical ∧
      (authorYears (String.ofList cs) r).years.IsShort := by
  refine ⟨⟨?_, ?_, fun y hm => (hr y hm).1⟩, fun y hm => (hr y hm).2⟩
  · rwa [String.toList_ofList]
  · rwa [String.toList_ofList]

theorem isShort_unbounded : YearRange.unbounded.IsShort :=
  fun y hm => (YearRange.isReadable_unbounded y hm).2

theorem trim_ofList {cs : List Char} (h : trimChars cs = cs) :
    trim (String.ofList cs) = String.ofList cs := by
  rw [trim, String.toList_ofList, h]

/-- What a trimmed text is parsed into is canonical and has short years. -/
theorem isCanonical_of_parseTrimmed {cs : List Char} {q : Query} (hcs : trimChars cs = cs)
    (h : (parseTrimmed cs).result = .ok (some q)) : q.IsCanonical ∧ q.years.IsShort := by
  by_cases hne : cs = []
  · rw [hne] at h
    exact absurd h nofun
  by_cases ht : titleMark <+: cs
  · obtain ⟨rest, rfl⟩ := ht
    rw [parseTrimmed_titleMark_append] at h
    obtain rfl := Option.some.inj (Except.ok.inj h)
    exact ⟨trim_ofList (trimChars_trimChars rest), isShort_unbounded⟩
  by_cases ha : authorMark <+: cs
  · obtain ⟨rest, rfl⟩ := ha
    cases hrun : firstRun? (authorMark ++ rest) with
    | none =>
      rw [firstRun?_eq_none_iff, infix_authorMark_append] at hrun
      rw [parseTrimmed_authorMark_append hrun] at h
      obtain rfl := Option.some.inj (Except.ok.inj h)
      refine ⟨⟨trim_ofList (trimChars_trimChars rest), ?_⟩, isShort_unbounded⟩
      rw [String.toList_ofList]
      exact fun hy => hrun (hy.trans (isInfix_trimChars rest))
    | some run =>
      rw [parseTrimmed_authorMark_append_run hrun] at h
      obtain ⟨r, hr, rfl⟩ := ofRun_eq_ok h
      refine isCanonical_authorYears (respace_respace _) (fun hy => ?_) hr
      exact not_infix_withoutRuns false rest (infix_of_infix_respace (by decide) (by decide) hy)
  · cases hrun : firstRun? cs with
    | none =>
      have hy := firstRun?_eq_none_iff.1 hrun
      rw [parseTrimmed_free hne ht ha hy] at h
      obtain rfl := Option.some.inj (Except.ok.inj h)
      refine ⟨⟨by simpa using hne, trim_ofList hcs, ?_⟩, isShort_unbounded⟩
      rw [String.toList_ofList]
      exact ⟨ht, ha, hy⟩
    | some run =>
      rw [parseTrimmed_run ht ha hrun] at h
      obtain ⟨r, hr, rfl⟩ := ofRun_eq_ok h
      exact isCanonical_authorYears rfl (by decide) hr

/-- A query that was read is canonical, and its years are short enough to be read again. -/
theorem isCanonical_of_parse {raw : Option String} {q : Query}
    (h : (parse raw).result = .ok (some q)) : q.IsCanonical ∧ q.years.IsShort := by
  cases raw with
  | none => exact absurd h nofun
  | some s => exact isCanonical_of_parseTrimmed (trimChars_trimChars s.toList) h

/-- Reading once gives a query that writing and reading keep: it has a written form, with years of
no more digits than may be read, and the written form reads back as the query without a notice. -/
theorem written_of_parse {raw : Option String} {q : Query}
    (h : (parse raw).result = .ok (some q)) :
    (Request.query q).written = .ok q.written ∧ q.years.IsShort ∧
      parse (some q.written) = ⟨.ok (some q), []⟩ :=
  have ⟨hq, hs⟩ := isCanonical_of_parse h
  ⟨write_of_isShort hs, hs, parse_written hq hs⟩

/-- Odd blanks, leading zeros and a second year mark: the words around both marks come together,
and the first mark gives the years. -/
theorem written_of_parse_untidy :
    (parse (some "\t author: J.R.R. year:007 \u00A0Tolkien\x0B year:x-9 ")).result =
        .ok (some (authorYears "J.R.R. Tolkien" (.only 7))) ∧
      (Request.query (authorYears "J.R.R. Tolkien" (.only 7))).written =
        .ok "author:J.R.R. Tolkien year:7-7" ∧
      (YearRange.only 7).IsShort ∧
      parse (some "author:J.R.R. Tolkien year:7-7") =
        ⟨.ok (some (authorYears "J.R.R. Tolkien" (.only 7))), []⟩ := by
  have h : (parse (some "\t author: J.R.R. year:007 \u00A0Tolkien\x0B year:x-9 ")).result =
      .ok (some (authorYears "J.R.R. Tolkien" (.only 7))) := by rfl
  exact ⟨h, written_of_parse h⟩

/-- A query reads back from the way it is written exactly if it is canonical and its years are short
enough to be read. -/
theorem parse_written_eq_ok_iff (q : Query) :
    (parse (some q.written)).result = .ok (some q) ↔ q.IsCanonical ∧ q.years.IsShort := by
  constructor
  · exact isCanonical_of_parse
  · rintro ⟨hq, hs⟩
    rw [parse_written hq hs]

end Bookfinder.Query
