import Bookfinder.Proofs.Lowercase
import Bookfinder.Proofs.Narrowing

/-!
# Parts copied from a title

A part of a title should find the book, and it does if it is in lower case what it is within the
title (`lowerWithin`). All characters but the capital sigma are lower-cased by themselves; a sigma
looks at the letters around it, and the part may have lost one of them: `ΟΔΥΣ` ends in `ς` in lower
case, and `ΟΔΥΣΣΕΙΑ` has no `ς`.

So a copied part finds the book unless the cut gives a capital sigma another form
(`Selection.finds_copied`). That takes a cut within a word, next to the sigma but for what extends it
(`Text.CutsSigma.exists_letter`), and the form is all that differs (`Text.exists_infix_plainSigma`).
-/

namespace Bookfinder

namespace Text

/-! ## Lower case within a text -/

/-- The lower-case form of a part of a text; `before` lists the characters before it, the nearest
first, and `after` those after it. -/
def lowerWithin (before : List Char) : List Char → List Char → List Char
  | [], _ => []
  | c :: cs, after => lowerHead before c (cs ++ after) ++ lowerWithin (c :: before) cs after

/-- Text is lowered part by part, each within what is around it. -/
theorem lowerFrom_append (before cs after : List Char) :
    lowerFrom before (cs ++ after) =
      lowerWithin before cs after ++ lowerFrom (cs.reverse ++ before) after := by
  induction cs generalizing before with
  | nil => rfl
  | cons c cs ih =>
    rw [List.cons_append, lowerFrom_cons, ih, lowerWithin, List.append_assoc, List.reverse_cons,
      List.append_assoc, List.singleton_append]

/-- A text that is no part of another one. -/
theorem lowerWithin_nil (cs : List Char) : lowerWithin [] cs [] = lowerChars cs := by
  have h := lowerFrom_append [] cs []
  rwa [List.append_nil, lowerFrom, List.append_nil, eq_comm] at h

/-- A part that is lowered within a text is a part of the lowered text. -/
theorem lowerWithin_isInfix (before cs after : List Char) :
    lowerWithin before.reverse cs after <:+: lowerChars (before ++ cs ++ after) := by
  refine ⟨lowerWithin [] before (cs ++ after), lowerFrom (cs.reverse ++ before.reverse) after, ?_⟩
  rw [List.append_assoc before, lowerChars, lowerFrom_append, lowerFrom_append, List.append_nil,
    List.append_assoc]

/-! ## Capital sigmas -/

/-- A capital sigma of a part has another form in other surroundings. -/
def ShapesDiffer (before before' cs after after' : List Char) : Prop :=
  ∃ left right, cs = left ++ 'Σ' :: right ∧
    isFinalSigma (left.reverse ++ before) (right ++ after) ≠
      isFinalSigma (left.reverse ++ before') (right ++ after')

/-- A part has different shapes exactly if its first letter has, or the rest. -/
theorem shapesDiffer_cons_iff {before before' cs after after' : List Char} {c : Char} :
    ShapesDiffer before before' (c :: cs) after after' ↔
      (c = 'Σ' ∧ isFinalSigma before (cs ++ after) ≠ isFinalSigma before' (cs ++ after')) ∨
        ShapesDiffer (c :: before) (c :: before') cs after after' := by
  constructor
  · rintro ⟨left, right, h, hdiffer⟩
    rcases List.cons_eq_append_iff.1 h with ⟨rfl, hright⟩ | ⟨left, rfl, rfl⟩
    · obtain ⟨rfl, rfl⟩ := List.cons.inj hright
      exact Or.inl ⟨rfl, hdiffer⟩
    · exact Or.inr ⟨left, right, rfl, by simpa using hdiffer⟩
  · rintro (⟨rfl, hdiffer⟩ | ⟨left, right, rfl, hdiffer⟩)
    · exact ⟨[], cs, rfl, hdiffer⟩
    · exact ⟨c :: left, right, rfl, by simpa using hdiffer⟩

theorem length_lowerHead (before before' : List Char) (c : Char) (cs cs' : List Char) :
    (lowerHead before c cs).length = (lowerHead before' c cs').length := by
  unfold lowerHead
  split <;> rfl

/-- A letter is lowered alike unless it is a sigma that is final in one text only. -/
theorem lowerHead_eq_iff {before before' cs cs' : List Char} {c : Char} :
    lowerHead before c cs = lowerHead before' c cs' ↔
      ¬(c = 'Σ' ∧ isFinalSigma before cs ≠ isFinalSigma before' cs') := by
  unfold lowerHead
  split
  · next h =>
    cases isFinalSigma before cs <;> cases isFinalSigma before' cs' <;> simp [h]
  · next h => simp [h]

/-- Surroundings matter through the capital sigmas only. -/
theorem lowerWithin_eq_iff {before before' cs after after' : List Char} :
    lowerWithin before cs after = lowerWithin before' cs after' ↔
      ¬ShapesDiffer before before' cs after after' := by
  induction cs generalizing before before' with
  | nil => simp [lowerWithin, ShapesDiffer]
  | cons c cs ih =>
    rw [shapesDiffer_cons_iff, not_or, ← lowerHead_eq_iff, ← ih, lowerWithin, lowerWithin]
    constructor
    · intro h
      exact List.append_inj h (length_lowerHead _ _ _ _ _)
    · rintro ⟨hhead, hrest⟩
      rw [hhead, hrest]

instance (before before' cs after after' : List Char) :
    Decidable (ShapesDiffer before before' cs after after') :=
  decidable_of_iff (lowerWithin before cs after ≠ lowerWithin before' cs after')
    (by rw [Ne, lowerWithin_eq_iff, not_not])

/-- A character, the two forms of a small sigma counting as one. -/
def plainSigma (c : Char) : Char := if c = 'ς' then 'σ' else c

/-- Up to the form of the sigmas, surroundings do not matter. -/
theorem map_plainSigma_lowerWithin (before before' cs after after' : List Char) :
    (lowerWithin before cs after).map plainSigma =
      (lowerWithin before' cs after').map plainSigma := by
  induction cs generalizing before before' with
  | nil => rfl
  | cons c cs ih =>
    have hhead : (lowerHead before c (cs ++ after)).map plainSigma =
        (lowerHead before' c (cs ++ after')).map plainSigma := by
      unfold lowerHead
      split
      · cases isFinalSigma before (cs ++ after) <;> cases isFinalSigma before' (cs ++ after') <;>
          rfl
      · rfl
    rw [lowerWithin, lowerWithin, List.map_append, List.map_append, hhead, ih]

/-! ## Cutting a part out -/

/-- Whether a letter is met is decided after the extenders. -/
theorem meetsLetter_append (cs ds : List Char) :
    meetsLetter (cs ++ ds) = if cs.all isExtender then meetsLetter ds else meetsLetter cs := by
  induction cs with
  | nil => rfl
  | cons c cs ih =>
    by_cases h : isExtender c
    · simpa [meetsLetter, h] using ih
    · simp [meetsLetter, h]

theorem meetsLetter_of_all {cs : List Char} (h : cs.all isExtender) : meetsLetter cs = false := by
  have hnil := meetsLetter_append cs []
  rwa [List.append_nil, if_pos h] at hnil

/-- A capital sigma of a part gets another form if the part is cut out of its text. -/
def CutsSigma (before cs after : List Char) : Prop := ShapesDiffer before.reverse [] cs after []

instance (before cs after : List Char) : Decidable (CutsSigma before cs after) :=
  inferInstanceAs (Decidable (ShapesDiffer before.reverse [] cs after []))

/-- Only a sigma at an end of the part does, but for what extends it, and only if the cut is within a
word: on its other side stands a letter. -/
theorem CutsSigma.exists_letter {before cs after : List Char} (h : CutsSigma before cs after) :
    ∃ left right, cs = left ++ 'Σ' :: right ∧
      (left.all isExtender ∧ meetsLetter before.reverse ∨
        right.all isExtender ∧ meetsLetter after) := by
  obtain ⟨left, right, hcs, hdiffer⟩ := h
  refine ⟨left, right, hcs, ?_⟩
  simp only [isFinalSigma, List.append_nil, meetsLetter_append, List.all_reverse] at hdiffer
  by_cases hleft : left.all isExtender
  · cases hbefore : meetsLetter before.reverse with
    | true => exact Or.inl ⟨hleft, rfl⟩
    | false =>
      have hnone : meetsLetter left.reverse = false := meetsLetter_of_all (by simpa using hleft)
      simp [hleft, hbefore, hnone] at hdiffer
  · by_cases hright : right.all isExtender
    · cases hafter : meetsLetter after with
      | true => exact Or.inr ⟨hright, rfl⟩
      | false => simp [hleft, hright, hafter, meetsLetter_of_all hright] at hdiffer
    · simp [hleft, hright] at hdiffer

/-- A part that cuts no sigma from its letters is found in the lowered text. -/
theorem lowerChars_isInfix {before cs after : List Char} (h : ¬CutsSigma before cs after) :
    lowerChars cs <:+: lowerChars (before ++ cs ++ after) := by
  have heq := lowerWithin_eq_iff.2 h
  rw [lowerWithin_nil] at heq
  exact heq ▸ lowerWithin_isInfix before cs after

/-- A part is found but for the shapes of its sigmas. -/
theorem exists_infix_plainSigma {cs ds : List Char} (h : cs <:+: ds) :
    ∃ part, part <:+: lowerChars ds ∧ part.map plainSigma = (lowerChars cs).map plainSigma := by
  obtain ⟨before, after, rfl⟩ := h
  refine ⟨_, lowerWithin_isInfix before cs after, ?_⟩
  rw [← lowerWithin_nil]
  exact map_plainSigma_lowerWithin _ _ _ _ _

end Text

/-! ## Books that are found -/

namespace Selection

/-- A selection leaves a book of whatever list of plain books. -/
def Keeps (select : List Book → Except Fault (List Book)) (b : Book) : Prop :=
  ∀ books : List Book, (∀ c ∈ books, c.IsPlain) → b ∈ books →
    ∃ kept, select books = .ok kept ∧ b ∈ kept

/-- A term finds the books with a text as their title, and those with it as their author. -/
def Finds (s t : String) : Prop :=
  ∀ b : Book, (b.title = .text t → Keeps (byTitle s) b ∧ Keeps (byText s) b) ∧
    (b.author = .text t → Keeps (byAuthor s) b ∧ Keeps (byText s) b)

/-- A narrowing without years keeps the books that it wants. -/
theorem keeps_of_wants {f : Narrowing} {b : Book} (hf : f.range = .unbounded) (h : f.wants b) :
    Keeps (fun books => f.run books) b :=
  have hshort : f.range.IsShort := hf ▸ YearRange.isShort_unbounded
  fun _ hplain hb => ⟨_, Narrowing.run_of_isShort hplain hshort, List.mem_filter.2 ⟨hb, h⟩⟩

section Mentions

variable {b : Book} {s t : String}

theorem keeps_byTitle (h : b.title.Mentions s) : Keeps (byTitle s) b :=
  keeps_of_wants (f := .title s) rfl (Query.wants_iff_fits (q := .titleOnly s).2 (Or.inr h))

theorem keeps_byAuthor (h : b.author.Mentions s) : Keeps (byAuthor s) b :=
  keeps_of_wants (f := .author s) rfl (Query.wants_iff_fits (q := .authorOnly s).2 (Or.inr h))

theorem keeps_byText (h : b.title.Mentions s ∨ b.author.Mentions s) : Keeps (byText s) b :=
  keeps_of_wants (f := .text s) rfl (Query.wants_iff_fits (q := .freeText s).2 (Or.inr h))

/-- A text whose lower case is a part of that of another finds it. -/
theorem finds_of_isInfix
    (h : Text.lowerChars (Text.trimChars s.toList) <:+: Text.lowerChars t.toList) : Finds s t := by
  have hmentions : (Payload.text t).Mentions s :=
    ⟨t, rfl, by simpa [Text.lowercase, Text.trim] using h⟩
  refine fun b => ⟨fun htitle => ?_, fun hauthor => ?_⟩
  · rw [← htitle] at hmentions
    exact ⟨keeps_byTitle hmentions, keeps_byText (Or.inl hmentions)⟩
  · rw [← hauthor] at hmentions
    exact ⟨keeps_byAuthor hmentions, keeps_byText (Or.inr hmentions)⟩

end Mentions

/-- A part of a text, the blanks around it not counted, finds the books with that text if at one of
its places no capital sigma gets another form by the cut. Where one does, the cut is within a word,
next to the sigma. In any case the part occurs in the text up to the form of the sigmas. -/
theorem finds_copied {t s : String} (hpart : s.toList <:+: t.toList) :
    let term := Text.trimChars s.toList
    (∃ before after, t.toList = before ++ term ++ after) ∧
    (∀ before after, t.toList = before ++ term ++ after →
      (¬Text.CutsSigma before term after → Finds s t) ∧
      (Text.CutsSigma before term after → ∃ left right, term = left ++ 'Σ' :: right ∧
        (left.all Text.isExtender ∧ Text.meetsLetter before.reverse ∨
          right.all Text.isExtender ∧ Text.meetsLetter after))) ∧
    ∃ part, part <:+: Text.lowerChars t.toList ∧
      part.map Text.plainSigma = (Text.lowerChars term).map Text.plainSigma := by
  intro term
  have hterm : term <:+: t.toList := (Text.isInfix_trimChars _).trans hpart
  refine ⟨?_, fun before after ht => ⟨fun hcut => ?_, Text.CutsSigma.exists_letter⟩,
    Text.exists_infix_plainSigma hterm⟩
  · obtain ⟨before, after, ht⟩ := hterm
    exact ⟨before, after, ht.symm⟩
  · exact finds_of_isInfix (ht ▸ Text.lowerChars_isInfix hcut)

/-- A part that starts within a word and ends with one: its sigma is a final one in both. -/
theorem finds_copied_wordEnd :
    "ΘΟΣ ".toList <:+: "ΜΥΘΟΣ ΚΑΙ ΛΟΓΟΣ".toList ∧ Finds "ΘΟΣ " "ΜΥΘΟΣ ΚΑΙ ΛΟΓΟΣ" := by
  have hpart : "ΘΟΣ ".toList <:+: "ΜΥΘΟΣ ΚΑΙ ΛΟΓΟΣ".toList :=
    ⟨"ΜΥ".toList, "ΚΑΙ ΛΟΓΟΣ".toList, by decide⟩
  have hplace := (finds_copied hpart).2.1 "ΜΥ".toList " ΚΑΙ ΛΟΓΟΣ".toList (by decide)
  exact ⟨hpart, hplace.1 (by decide +kernel)⟩

/-- The first letters of a title do not find it: the sigma at their end looks like the end of a word.
-/
theorem not_finds_copied_odyssey :
    let odyssey : Book := { Book.blank with isbn := some "1", title := .text "ΟΔΥΣΣΕΙΑ" }
    "ΟΔΥΣ".toList <:+: "ΟΔΥΣΣΕΙΑ".toList ∧ Text.isBlankText "ΟΔΥΣ" = false ∧
      byTitle "ΟΔΥΣ" [odyssey] = .ok [] ∧ byText "ΟΔΥΣ" [odyssey] = .ok [] ∧
      byTitle "ΟΔΥ" [odyssey] = .ok [odyssey] :=
  ⟨⟨[], "ΣΕΙΑ".toList, by decide⟩, by decide, by decide +kernel, by decide +kernel,
    by decide +kernel⟩

end Selection

end Bookfinder
