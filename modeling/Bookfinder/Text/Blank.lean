/-!
# Blank characters, trimming and words

`isBlank` is the class of characters that separate words: the Unicode spaces and line breaks
together with the four information separators U+001C to U+001F. `trim` drops them at both ends
of a text and `words` splits a text at them. Both act on lists of characters (`trimChars`,
`wordsOf`), where their laws are stated: a trimmed list starts and ends with no blank
(`trimChars_eq_self_iff`), so trimming twice is trimming once (`trimChars_trimChars`), and no
word holds a blank (`not_isBlank_of_mem_wordsOf`).
-/

namespace Bookfinder.Text

/-! ## The class -/

/-- Characters that separate words. -/
def isBlank (c : Char) : Bool :=
  let n := c.toNat
  (0x09 ≤ n && n ≤ 0x0D) || (0x1C ≤ n && n ≤ 0x20) || n == 0x85 || n == 0xA0 || n == 0x1680 ||
    (0x2000 ≤ n && n ≤ 0x200A) || n == 0x2028 || n == 0x2029 || n == 0x202F || n == 0x205F ||
    n == 0x3000

/-- Every character that core counts as white space is blank. -/
theorem isBlank_of_isWhitespace {c : Char} (h : c.isWhitespace) : isBlank c := by
  simp only [Char.isWhitespace, Bool.or_eq_true, decide_eq_true_eq] at h
  rcases h with ((h | h) | h) | h <;> subst h <;> decide

/-! ## Trimming -/

/-- A list of characters without the blanks at its end. -/
def trimEndChars (cs : List Char) : List Char :=
  (cs.reverse.dropWhile isBlank).reverse

/-- A list of characters without the blanks at either end. -/
def trimChars (cs : List Char) : List Char :=
  trimEndChars (cs.dropWhile isBlank)

/-- A text without the blanks at either end. -/
def trim (s : String) : String :=
  String.ofList (trimChars s.toList)

/-- A text of blanks only, which a search treats as no text. -/
def isBlankText (s : String) : Bool :=
  s.toList.all isBlank

/-! ## Words -/

/-- The maximal runs of characters that are not blank; `word` holds, in reverse, the run that
has been read so far. -/
def wordsFrom (word : List Char) : List Char → List (List Char)
  | [] => if word.isEmpty then [] else [word.reverse]
  | c :: cs =>
    if isBlank c then
      if word.isEmpty then wordsFrom [] cs else word.reverse :: wordsFrom [] cs
    else wordsFrom (c :: word) cs

/-- The words of a list of characters, in order. -/
def wordsOf (cs : List Char) : List (List Char) :=
  wordsFrom [] cs

/-- The words of a list of characters, joined by single spaces. -/
def respace (cs : List Char) : List Char :=
  [' '].intercalate (wordsOf cs)

/-! ## Occurrence -/

/-- Whether `needle` is a contiguous part of a list of characters. -/
def occursIn (needle : List Char) : List Char → Bool
  | [] => needle.isEmpty
  | c :: cs => needle.isPrefixOf (c :: cs) || occursIn needle cs

/-- Occurrence is being an infix. -/
theorem occursIn_iff {needle cs : List Char} : occursIn needle cs ↔ needle <:+: cs := by
  induction cs with
  | nil => simp [occursIn]
  | cons c cs ih => simp [occursIn, List.infix_cons_iff, ih]

/-- What follows `mark` in a list of characters that starts with it. -/
def after? (mark cs : List Char) : Option (List Char) :=
  if mark.isPrefixOf cs then some (cs.drop mark.length) else none

theorem after?_eq_some_iff {mark cs rest : List Char} :
    after? mark cs = some rest ↔ cs = mark ++ rest := by
  unfold after?
  split
  · next h =>
    obtain ⟨t, rfl⟩ := List.isPrefixOf_iff_prefix.1 h
    simp
  · next h =>
    constructor
    · intro he
      cases he
    · rintro rfl
      exact absurd (List.isPrefixOf_iff_prefix.2 (List.prefix_append _ _)) h

theorem after?_eq_none_iff {mark cs : List Char} : after? mark cs = none ↔ ¬mark <+: cs := by
  rw [← List.isPrefixOf_iff_prefix]
  simp [after?]

/-! ## Laws -/

theorem dropWhile_eq_self_iff {p : Char → Bool} {cs : List Char} :
    cs.dropWhile p = cs ↔ ∀ c ∈ cs.head?, p c = false := by
  cases cs with
  | nil => simp
  | cons c cs =>
    by_cases h : p c
    · have hlen : (cs.dropWhile p).length ≤ cs.length := (List.dropWhile_sublist p).length_le
      simp only [List.dropWhile_cons, h, if_true, List.head?_cons, Option.mem_def,
        Option.some.injEq, forall_eq', Bool.true_eq_false, iff_false]
      intro he
      have := congrArg List.length he
      simp only [List.length_cons] at this
      omega
    · simp [h]

theorem dropWhile_dropWhile {p : Char → Bool} (cs : List Char) :
    (cs.dropWhile p).dropWhile p = cs.dropWhile p := by
  induction cs with
  | nil => rfl
  | cons c cs ih => by_cases h : p c <;> simp [h, ih]

/-- The last character of what is left after trimming the end is no blank. -/
theorem not_isBlank_getLast?_trimEndChars {cs : List Char} {c : Char}
    (h : (trimEndChars cs).getLast? = some c) : isBlank c = false := by
  have := (dropWhile_eq_self_iff (p := isBlank)).1 (dropWhile_dropWhile (p := isBlank) cs.reverse)
  exact this c (by simpa [trimEndChars] using h)

theorem trimEndChars_isPrefix (cs : List Char) : trimEndChars cs <+: cs := by
  have : cs.reverse.dropWhile isBlank <:+ cs.reverse := List.dropWhile_suffix isBlank
  simpa [trimEndChars] using List.reverse_prefix.2 this

/-- A list is its own trimmed form exactly when it neither starts nor ends with a blank. -/
theorem trimChars_eq_self_iff {cs : List Char} :
    trimChars cs = cs ↔ (∀ c ∈ cs.head?, isBlank c = false) ∧ ∀ c ∈ cs.getLast?, isBlank c = false := by
  constructor
  · intro h
    have hp : trimChars cs <+: cs.dropWhile isBlank := trimEndChars_isPrefix _
    have hd : cs.dropWhile isBlank = cs := by
      have h1 := hp.length_le
      have hs : cs.dropWhile isBlank <:+ cs := List.dropWhile_suffix isBlank
      have h2 := hs.length_le
      rw [h] at h1
      exact hs.eq_of_length (by omega)
    refine ⟨dropWhile_eq_self_iff.1 hd, fun c hc => ?_⟩
    have hl : (trimEndChars (cs.dropWhile isBlank)).getLast? = some c := by
      change (trimChars cs).getLast? = some c
      rw [h]
      exact hc
    exact not_isBlank_getLast?_trimEndChars hl
  · rintro ⟨hh, hl⟩
    have h1 : cs.dropWhile isBlank = cs := dropWhile_eq_self_iff.2 hh
    have h2 : cs.reverse.dropWhile isBlank = cs.reverse :=
      dropWhile_eq_self_iff.2 (by simpa using hl)
    simp [trimChars, trimEndChars, h1, h2]

/-- What trimming leaves starts and ends with no blank. -/
theorem trimChars_trimChars (cs : List Char) : trimChars (trimChars cs) = trimChars cs := by
  refine trimChars_eq_self_iff.2 ⟨fun c hc => ?_, fun c hc => not_isBlank_getLast?_trimEndChars hc⟩
  have hp : trimChars cs <+: cs.dropWhile isBlank := trimEndChars_isPrefix _
  have hd := (dropWhile_eq_self_iff (p := isBlank)).1 (dropWhile_dropWhile (p := isBlank) cs)
  obtain ⟨t, ht⟩ := hp
  apply hd c
  rw [← ht, Option.mem_def, List.head?_append, Option.mem_def.1 hc]
  rfl

@[simp] theorem trim_trim (s : String) : trim (trim s) = trim s := by
  simp [trim, trimChars_trimChars]

theorem not_isBlank_of_mem_wordsFrom {cs word w : List Char} {c : Char}
    (hword : ∀ c ∈ word, isBlank c = false) (hw : w ∈ wordsFrom word cs) (hc : c ∈ w) :
    isBlank c = false := by
  induction cs generalizing word with
  | nil =>
    simp only [wordsFrom] at hw
    split at hw
    · simp at hw
    · rw [List.mem_singleton.1 hw] at hc
      exact hword c (by simpa using hc)
  | cons a cs ih =>
    simp only [wordsFrom] at hw
    split at hw
    · split at hw
      · exact ih (by simp) hw
      · rcases List.mem_cons.1 hw with rfl | hw
        · exact hword c (by simpa using hc)
        · exact ih (by simp) hw
    · next ha => exact ih (by simpa using ⟨Bool.eq_false_iff.2 ha, hword⟩) hw

/-- No word holds a blank. -/
theorem not_isBlank_of_mem_wordsOf {cs w : List Char} {c : Char} (hw : w ∈ wordsOf cs)
    (hc : c ∈ w) : isBlank c = false :=
  not_isBlank_of_mem_wordsFrom (by simp) hw hc

end Bookfinder.Text
