import Bookfinder.Proofs.QueryGrammar

/-!
# Years with too many digits

A number with more than `Number.maxIntegerDigits` digits is not read, and such a range is told apart
from a malformed one only once its digits are read. So a range that is spelled as it should be, but
with more digits in a row than that (`YearRange.IsOverlong`), is a fault, while any other text is
read or found malformed (`YearRange.parse_cases`). A query has this one fault too, and no other
(`Query.parse_or_overlong`).
-/

namespace Bookfinder

namespace YearRange

theorem parseEnd_of_long {ds : List Char} (hlong : Number.maxIntegerDigits < ds.length) :
    parseEnd ds = .error .malformed := by
  have hempty : ds.isEmpty = false := by
    rw [List.isEmpty_eq_false_iff, ← List.length_pos_iff]
    omega
  have hread : Number.natOfDigits? ds = none := by
    rw [Number.natOfDigits?, decide_eq_true hlong, Bool.or_true]
    rfl
  rw [parseEnd, hempty, hread]
  rfl

/-- Digits that are longer than may be read are longer than may be read as a whole. -/
theorem length_of_not_hasShortDigits {ds : List Char} (h : ¬HasShortDigits ds) :
    Number.maxIntegerDigits < ds.length := by
  by_contra hlen
  exact h fun part hpart _ => Nat.le_trans hpart.length_le (Nat.le_of_not_lt hlen)

/-- Of two ends around a dash, one is too long if the range is. -/
theorem not_hasShortDigits_ends {first last : List Char}
    (h : ¬HasShortDigits (first ++ '-' :: last)) :
    Number.maxIntegerDigits < first.length ∨ Number.maxIntegerDigits < last.length := by
  by_contra hends
  obtain ⟨hfirst, hlast⟩ := not_or.1 hends
  refine h fun part hpart hdigits => ?_
  have hdash : '-' ∉ part := fun hmem => absurd (List.all_eq_true.1 hdigits '-' hmem) (by decide)
  rcases Text.infix_append_cons hdash hpart with hinfix | hinfix
  · exact Nat.le_trans hinfix.length_le (Nat.le_of_not_lt hfirst)
  · exact Nat.le_trans hinfix.length_le (Nat.le_of_not_lt hlast)

theorem parseTrimmed_of_isOverlong {cs : List Char} (h : IsOverlong cs) :
    parseTrimmed cs = .error .malformed := by
  obtain ⟨⟨r, hr⟩, hlong⟩ := h
  cases hr with
  | nothing => exact absurd (length_of_not_hasShortDigits hlong) (Nat.not_lt_zero _)
  | year hne hds =>
    have hall : ∀ c ∈ cs, Text.isAsciiDigit c := List.all_eq_true.1 hds
    rw [parseTrimmed, List.takeWhile_eq_self_iff.2 hall, List.dropWhile_eq_nil_iff.2 hall,
      parseEnd_of_long (length_of_not_hasShortDigits hlong)]
    rfl
  | @ends first last hfirst hlast =>
    have hends := takeWhile_digits hfirst last
    rw [parseTrimmed, hends.1, hends.2]
    simp only [hlast, if_true]
    by_cases hf : Number.maxIntegerDigits < first.length
    · rw [parseEnd_of_long hf]
      rfl
    · have hl := (not_hasShortDigits_ends hlong).resolve_left hf
      rw [parseEnd_eq hfirst (Nat.le_of_not_lt hf), parseEnd_of_long hl]
      rfl

/-- A text is a range, or it is malformed, or it is a range that is too long to be read. -/
theorem parse_cases (cs : List Char) :
    (IsOverlong (Text.trimChars cs) ∧ parse cs = .error .malformed) ∨
      ¬IsOverlong (Text.trimChars cs) ∧
        ((∃ r, Spells (Text.trimChars cs) r ∧ parse cs = .ok (some r)) ∨
          (∀ r, ¬Spells (Text.trimChars cs) r) ∧ parse cs = .ok none) := by
  by_cases hlong : IsOverlong (Text.trimChars cs)
  · exact Or.inl ⟨hlong, parseTrimmed_of_isOverlong hlong⟩
  refine Or.inr ⟨hlong, ?_⟩
  by_cases hspelled : ∃ r, Spells (Text.trimChars cs) r
  · have hshort : HasShortDigits (Text.trimChars cs) := by
      by_contra hdigits
      exact hlong ⟨hspelled, hdigits⟩
    obtain ⟨r, hr⟩ := hspelled
    exact Or.inl ⟨r, hr, parseTrimmed_of_spells hr hshort⟩
  · have hmalformed : ∀ r, ¬Spells (Text.trimChars cs) r := fun r hr => hspelled ⟨r, hr⟩
    exact Or.inr ⟨hmalformed, parseTrimmed_of_malformed hmalformed⟩

end YearRange

namespace Query

open Text

theorem ofRun_of_isOverlong {run cs : List Char} (hrun : IsFirstRun cs run)
    (hlong : YearRange.IsOverlong run) (author : List Char) :
    some <$> ofRun author run cs = .fail .malformed := by
  rw [ofRun, YearRange.parse, trimChars_of_not_isBlank hrun.not_isBlank,
    YearRange.parseTrimmed_of_isOverlong hlong]
  rfl

theorem parseTrimmed_of_isOverlong {cs : List Char} (h : IsOverlong cs) :
    parseTrimmed cs = .fail .malformed := by
  obtain ⟨htitle, run, hrun, hlong⟩ := h
  have hfirst := firstRun?_of_isFirstRun hrun
  by_cases hauthor : authorMark <+: cs
  · obtain ⟨rest, rfl⟩ := hauthor
    rw [parseTrimmed_authorMark_append_run hfirst, ofRun_of_isOverlong hrun hlong]
  · rw [parseTrimmed_run htitle hauthor hfirst, ofRun_of_isOverlong hrun hlong]

/-- Each text is read as the grammar says, with a notice if its years are malformed, unless its
years are spelled with too many digits: then, and only then, reading it fails. The same holds of a
range alone. -/
theorem parse_or_overlong (raw : String) (cs : List Char) :
    ((IsOverlong (trimChars raw.toList) ∧ parse (some raw) = .fail .malformed) ∨
      ¬IsOverlong (trimChars raw.toList) ∧ ∃ q notices,
        Grammar (trimChars raw.toList) q notices ∧ parse (some raw) = ⟨.ok q, notices⟩) ∧
    ((YearRange.IsOverlong (trimChars cs) ∧ YearRange.parse cs = .error .malformed) ∨
      ¬YearRange.IsOverlong (trimChars cs) ∧
        ((∃ r, YearRange.Spells (trimChars cs) r ∧ YearRange.parse cs = .ok (some r)) ∨
          (∀ r, ¬YearRange.Spells (trimChars cs) r) ∧ YearRange.parse cs = .ok none)) := by
  refine ⟨?_, YearRange.parse_cases cs⟩
  by_cases hlong : IsOverlong (trimChars raw.toList)
  · exact Or.inl ⟨hlong, parseTrimmed_of_isOverlong hlong⟩
  · obtain ⟨q, notices, hg⟩ := exists_grammar (trimChars raw.toList)
    exact Or.inr ⟨hlong, q, notices, hg, parseTrimmed_of_not_isOverlong hg hlong⟩

/-- A year with one digit more than may be read. -/
def longYear : List Char := List.replicate (Number.maxIntegerDigits + 1) '1'

theorem isOverlong_longYear : YearRange.IsOverlong longYear := by
  have hdigits : longYear.all isAsciiDigit := by
    rw [longYear, List.all_replicate]
    decide
  refine ⟨YearRange.spells_digits hdigits, fun hshort => ?_⟩
  have hlength := hshort longYear (List.infix_refl _) hdigits
  rw [longYear, List.length_replicate] at hlength
  exact absurd hlength (by decide)

/-- Years that are spelled as they should be are lost with the whole query, not only left out. -/
theorem parse_longYear :
    parse (some (String.ofList (yearMark ++ longYear))) = .fail .malformed ∧
      YearRange.parse longYear = .error .malformed ∧
      ¬∀ raw : String, ∃ q notices, parse (some raw) = ⟨.ok q, notices⟩ := by
  have hblank : ∀ c ∈ yearMark ++ longYear, isBlank c = false := by
    intro c hc
    rcases List.mem_append.1 hc with hc | hc
    · exact not_isBlank_of_mem_yearMark hc
    · rw [List.eq_of_mem_replicate hc]
      decide
  have hrun : IsFirstRun (yearMark ++ longYear) longYear :=
    ⟨[], [], by simp, fun _ _ => Nat.zero_le _, fun c hc => hblank c (List.mem_append_right _ hc),
      by simp⟩
  have htitle : ¬titleMark <+: yearMark ++ longYear := by
    rw [yearMark_eq]
    intro hprefix
    exact absurd (List.cons_prefix_cons.1 hprefix).1 (by decide)
  have hfails : parse (some (String.ofList (yearMark ++ longYear))) = .fail .malformed := by
    rw [parse_of_trimmed String.toList_ofList (trimChars_of_not_isBlank hblank)]
    exact parseTrimmed_of_isOverlong ⟨htitle, longYear, hrun, isOverlong_longYear⟩
  refine ⟨hfails, ?_, fun h => ?_⟩
  · rw [YearRange.parse, trimChars_of_not_isBlank fun c hc => hblank c (List.mem_append_right _ hc)]
    exact YearRange.parseTrimmed_of_isOverlong isOverlong_longYear
  · obtain ⟨q, notices, hread⟩ := h (String.ofList (yearMark ++ longYear))
    rw [hfails] at hread
    cases hread

end Query

end Bookfinder
