import Bookfinder.Text.Blank
import Mathlib.Data.List.TakeWhile

/-!
# Words and parts of a text

A text is put in order by `respace`, which joins its words by single spaces. The words of the
result are the words of the text (`wordsOf_respace`), so putting in order twice is putting in order
once, and a part without a space that the result has was there before (`infix_of_infix_respace`):
a separator that is not in a part cannot be inside an occurrence of it (`infix_append_cons`).
-/

namespace Bookfinder.Text

/-! ## Parts -/

/-- A part without `b` that a text starts with is over before the first `b`. -/
theorem prefix_of_prefix_append_cons {needle pre post : List Char} {b : Char} (hb : b ∉ needle)
    (h : needle <+: pre ++ b :: post) : needle <+: pre := by
  rcases List.prefix_or_prefix_of_prefix h (List.prefix_append pre (b :: post)) with hn | ⟨t, rfl⟩
  · exact hn
  · rw [List.prefix_append_right_inj] at h
    cases t with
    | nil => simp
    | cons c t =>
      obtain rfl : c = b := (List.cons_prefix_cons.1 h).1
      exact absurd (List.mem_append_right _ List.mem_cons_self) hb

/-- Of two marks that differ, a text that starts with one does not start with the other. -/
theorem not_prefix_append {mark other : List Char} (h : ¬mark <+: other) (h' : ¬other <+: mark)
    (cs : List Char) : ¬mark <+: other ++ cs :=
  fun hp => (List.prefix_or_prefix_of_prefix hp (List.prefix_append other cs)).elim h h'

/-- A part without `b` lies on one side of each `b`. -/
theorem infix_append_cons {needle pre post : List Char} {b : Char} (hb : b ∉ needle)
    (h : needle <:+: pre ++ b :: post) : needle <:+: pre ∨ needle <:+: post := by
  induction pre with
  | nil =>
    rcases List.infix_cons_iff.1 h with hp | hi
    · have hnil : needle <+: [] := prefix_of_prefix_append_cons hb hp
      exact Or.inl hnil.isInfix
    · exact Or.inr hi
  | cons c pre ih =>
    rcases List.infix_cons_iff.1 h with hp | hi
    · have hpre : needle <+: c :: pre := prefix_of_prefix_append_cons hb hp
      exact Or.inl hpre.isInfix
    · exact (ih hi).imp_left List.infix_cons

/-! ## Trimmed texts -/

theorem trimChars_of_not_isBlank {cs : List Char} (h : ∀ c ∈ cs, isBlank c = false) :
    trimChars cs = cs :=
  trimChars_eq_self_iff.2
    ⟨fun c hc => h c (List.mem_of_mem_head? hc), fun c hc => h c (List.mem_of_mem_getLast? hc)⟩

/-- Trimming leaves nothing exactly of a text of blanks. -/
theorem trimChars_eq_nil_iff {cs : List Char} : trimChars cs = [] ↔ cs.all isBlank := by
  rw [List.all_eq_true, ← List.dropWhile_eq_nil_iff]
  constructor
  · intro h
    rw [trimChars, trimEndChars, List.reverse_eq_nil_iff, List.dropWhile_eq_nil_iff] at h
    have hleft : (cs.dropWhile isBlank).dropWhile isBlank = [] :=
      List.dropWhile_eq_nil_iff.2 fun c hc => h c (List.mem_reverse.2 hc)
    rwa [dropWhile_dropWhile] at hleft
  · intro h
    rw [trimChars, h]
    rfl

/-- Trimmed texts make a trimmed text. -/
theorem trimChars_append {pre post : List Char} (hpre : trimChars pre = pre)
    (hpost : trimChars post = post) : trimChars (pre ++ post) = pre ++ post := by
  rw [trimChars_eq_self_iff] at hpre hpost ⊢
  constructor
  · intro c hc
    rw [List.head?_append, Option.mem_def, Option.or_eq_some_iff] at hc
    rcases hc with hc | ⟨-, hc⟩
    · exact hpre.1 c hc
    · exact hpost.1 c hc
  · intro c hc
    rw [List.getLast?_append, Option.mem_def, Option.or_eq_some_iff] at hc
    rcases hc with hc | ⟨-, hc⟩
    · exact hpost.2 c hc
    · exact hpre.2 c hc

/-- What stands between trimmed texts does not matter, unless one of them is empty. -/
theorem trimChars_append_append {pre post : List Char} (hpre : trimChars pre = pre)
    (hpost : trimChars post = post) (hne : pre ≠ []) (hne' : post ≠ []) (mid : List Char) :
    trimChars (pre ++ (mid ++ post)) = pre ++ (mid ++ post) := by
  rw [trimChars_eq_self_iff] at hpre hpost ⊢
  constructor
  · obtain ⟨c, pre, rfl⟩ := List.exists_cons_of_ne_nil hne
    exact hpre.1
  · obtain ⟨c, hc⟩ := Option.isSome_iff_exists.1 (List.getLast?_isSome.2 hne')
    rw [List.getLast?_append, List.getLast?_append, hc, Option.some_or, Option.some_or, ← hc]
    exact hpost.2

theorem isInfix_trimChars (cs : List Char) : trimChars cs <:+: cs :=
  (trimEndChars_isPrefix _).isInfix.trans (List.dropWhile_suffix _).isInfix

/-! ## Words -/

theorem ne_nil_of_mem_wordsFrom {cs word w : List Char} (h : w ∈ wordsFrom word cs) : w ≠ [] := by
  induction cs generalizing word with
  | nil =>
    simp only [wordsFrom] at h
    split at h
    · exact absurd h List.not_mem_nil
    · next hw =>
      rw [List.mem_singleton.1 h]
      simpa using hw
  | cons c cs ih =>
    simp only [wordsFrom] at h
    split at h
    · split at h
      · exact ih h
      · next hw =>
        rcases List.mem_cons.1 h with rfl | h
        · simpa using hw
        · exact ih h
    · exact ih h

/-- Each word is a part of the text. -/
theorem infix_of_mem_wordsFrom {cs word w : List Char} (h : w ∈ wordsFrom word cs) :
    w <:+: word.reverse ++ cs := by
  induction cs generalizing word with
  | nil =>
    simp only [wordsFrom] at h
    split at h
    · exact absurd h List.not_mem_nil
    · rw [List.mem_singleton.1 h]
      exact (List.prefix_append _ _).isInfix
  | cons c cs ih =>
    have hskip : w ∈ wordsFrom [] cs → w <:+: word.reverse ++ c :: cs := fun hw =>
      List.IsInfix.trans (ih hw) ⟨word.reverse ++ [c], [], by simp⟩
    simp only [wordsFrom] at h
    split at h
    · split at h
      · exact hskip h
      · rcases List.mem_cons.1 h with rfl | h
        · exact (List.prefix_append _ _).isInfix
        · exact hskip h
    · simpa using ih h

/-- The characters of a word are read one after the other. -/
theorem wordsFrom_append {w : List Char} (hw : ∀ c ∈ w, isBlank c = false) (word cs : List Char) :
    wordsFrom word (w ++ cs) = wordsFrom (w.reverse ++ word) cs := by
  induction w generalizing word with
  | nil => rfl
  | cons c w ih =>
    have hc : isBlank c = false := hw c List.mem_cons_self
    rw [List.cons_append, wordsFrom, if_neg (by simp [hc]),
      ih fun d hd => hw d (List.mem_cons_of_mem _ hd)]
    simp

/-- A blank at the end adds no word. -/
theorem wordsFrom_concat_blank {b : Char} (hb : isBlank b) (word cs : List Char) :
    wordsFrom word (cs ++ [b]) = wordsFrom word cs := by
  induction cs generalizing word with
  | nil => simp [wordsFrom, hb]
  | cons c cs ih => simp only [List.cons_append, wordsFrom, ih]

/-- A blank before another one, or at the end, makes no difference. -/
theorem wordsFrom_cons_blank {b : Char} (hb : isBlank b) {cs : List Char}
    (h : ∀ c ∈ cs.head?, isBlank c) (word : List Char) :
    wordsFrom word (b :: cs) = wordsFrom word cs := by
  cases cs with
  | nil => simp [wordsFrom, hb]
  | cons c cs =>
    have hc : isBlank c := h c rfl
    simp [wordsFrom, hb, hc]

/-- Words joined by single spaces are read as those words. -/
theorem wordsOf_intercalate {ws : List (List Char)}
    (hws : ∀ w ∈ ws, w ≠ [] ∧ ∀ c ∈ w, isBlank c = false) :
    wordsOf ([' '].intercalate ws) = ws := by
  induction ws with
  | nil => rfl
  | cons w ws ih =>
    obtain ⟨⟨hne, hblank⟩, hrest⟩ := List.forall_mem_cons.1 hws
    cases ws with
    | nil =>
      have hword := wordsFrom_append hblank [] []
      simp only [List.append_nil] at hword
      rw [wordsOf, List.intercalate_singleton, hword]
      simp [wordsFrom, hne]
    | cons v ws =>
      have hspace : isBlank ' ' := by decide
      have hih := ih hrest
      rw [wordsOf] at hih
      rw [wordsOf, List.intercalate_cons_cons, List.append_assoc, wordsFrom_append hblank,
        List.singleton_append, wordsFrom, if_pos hspace, if_neg (by simpa using hne), hih]
      simp

/-! ## Putting in order -/

theorem wordsOf_respace (cs : List Char) : wordsOf (respace cs) = wordsOf cs :=
  wordsOf_intercalate fun _ hw =>
    ⟨ne_nil_of_mem_wordsFrom hw, fun _ => not_isBlank_of_mem_wordsOf hw⟩

theorem respace_respace (cs : List Char) : respace (respace cs) = respace cs := by
  rw [respace, wordsOf_respace, respace]

theorem respace_concat_blank {b : Char} (hb : isBlank b) (cs : List Char) :
    respace (cs ++ [b]) = respace cs := by
  rw [respace, wordsOf, wordsFrom_concat_blank hb, ← wordsOf, ← respace]

/-- A part without a space that joined words have is a part of one of them. -/
theorem infix_of_infix_intercalate {needle : List Char} (hne : needle ≠ []) (hs : ' ' ∉ needle)
    {ws : List (List Char)} (h : needle <:+: [' '].intercalate ws) :
    ∃ w ∈ ws, needle <:+: w := by
  induction ws with
  | nil => exact absurd (List.infix_nil.1 h) hne
  | cons w ws ih =>
    cases ws with
    | nil =>
      rw [List.intercalate_singleton] at h
      exact ⟨w, List.mem_singleton_self _, h⟩
    | cons v ws =>
      rw [List.intercalate_cons_cons, List.append_assoc, List.singleton_append] at h
      rcases infix_append_cons hs h with hw | hrest
      · exact ⟨w, List.mem_cons_self, hw⟩
      · obtain ⟨u, hu, hn⟩ := ih hrest
        exact ⟨u, List.mem_cons_of_mem _ hu, hn⟩

/-- Putting in order makes no new occurrence of a part without a space. -/
theorem infix_of_infix_respace {needle cs : List Char} (hne : needle ≠ []) (hs : ' ' ∉ needle)
    (h : needle <:+: respace cs) : needle <:+: cs := by
  obtain ⟨w, hw, hn⟩ := infix_of_infix_intercalate hne hs h
  exact hn.trans (infix_of_mem_wordsFrom hw)

end Bookfinder.Text
