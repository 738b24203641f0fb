import Bookfinder.Rating.Basic
import Mathlib.Data.List.Basic

/-!
# Lower case is a normal form

Lower-casing gives only characters that it leaves alone (`isSettled`): the letters that one run of
the case table leads to are upper-case letters of no run (`not_covers_targetOf`), and neither a
capital sigma nor `İ` is among them. So lower-casing twice is lower-casing once, whatever shape a
sigma took (`lowerChars_lowerChars`). No letter goes to a blank either, so a trimmed text stays
trimmed, and a reader's name is normal once it was made so (`normalUsername_normalUsername`).
-/

namespace Bookfinder

namespace Text

/-! ## The case table -/

namespace CaseRun

/-- The lower-case partner of the upper-case letter `n` of the run. -/
def targetOf (r : CaseRun) (n : Nat) : Nat := r.target + (n - r.first)

/-- No lower-case letter of the run is in a range. -/
def avoids (r : CaseRun) (range : Nat × Nat) : Bool :=
  (r.targetOf r.last).blt range.1 || range.2.blt r.target

/-- No lower-case letter of `r` is an upper-case letter of `s`: their ranges lie apart, or the
letters of both cases alternate. -/
def isApartFrom (r s : CaseRun) : Bool :=
  r.avoids (s.first, s.last) ||
    ((r.step.beq 2 || r.first.beq r.last) && s.step.beq 2 && ((r.target + s.first) % 2).beq 1)

theorem avoids_iff {r : CaseRun} {range : Nat × Nat} :
    r.avoids range ↔ r.targetOf r.last < range.1 ∨ range.2 < r.target := by
  simp [avoids, Nat.blt_eq]

theorem covers_iff {r : CaseRun} {n : Nat} :
    r.covers n ↔ r.first ≤ n ∧ n ≤ r.last ∧ (n - r.first) % r.step = 0 := by
  simp [covers, and_assoc]

/-- The partner of a letter lies between the first and the last one of the run. -/
theorem targetOf_bounds {r : CaseRun} {n : Nat} (h : r.covers n) :
    r.target ≤ r.targetOf n ∧ r.targetOf n ≤ r.targetOf r.last := by
  have := covers_iff.1 h
  unfold targetOf
  omega

/-- No lower-case letter of a run is in a range that the run avoids. -/
theorem not_mem_of_avoids {r : CaseRun} {range : Nat × Nat} {n : Nat} (h : r.avoids range)
    (hn : r.covers n) : ¬(range.1 ≤ r.targetOf n ∧ r.targetOf n ≤ range.2) := by
  have := avoids_iff.1 h
  have := targetOf_bounds hn
  omega

/-- The lower-case letters of a run are no upper-case letters of a run that it is apart from. -/
theorem not_covers_of_isApartFrom {r s : CaseRun} {n : Nat} (h : r.isApartFrom s)
    (hn : r.covers n) : ¬s.covers (r.targetOf n) := by
  intro hs
  have hs' := covers_iff.1 hs
  rw [isApartFrom, Bool.or_eq_true] at h
  rcases h with h | h
  · exact not_mem_of_avoids h hn ⟨hs'.1, hs'.2.1⟩
  · -- both runs advance by two and start at numbers of different parity
    simp only [Bool.and_eq_true, Bool.or_eq_true, Nat.beq_eq] at h
    obtain ⟨⟨hr, hstep⟩, hodd⟩ := h
    have hn' := covers_iff.1 hn
    have heven : (n - r.first) % 2 = 0 := by
      rcases hr with hr | hr
      · rw [← hr]
        exact hn'.2.2
      · omega
    rw [hstep] at hs'
    unfold targetOf at hs'
    omega

end CaseRun

/-- The blanks as inclusive ranges. -/
def blankRanges : List (Nat × Nat) :=
  [(0x09, 0x0D), (0x1C, 0x20), (0x85, 0x85), (0xA0, 0xA0), (0x1680, 0x1680), (0x2000, 0x200A),
   (0x2028, 0x2028), (0x2029, 0x2029), (0x202F, 0x202F), (0x205F, 0x205F), (0x3000, 0x3000)]

/-- The blanks are the characters of a few ranges. -/
theorem isBlank_iff {c : Char} :
    isBlank c ↔ ∃ range ∈ blankRanges, range.1 ≤ c.toNat ∧ c.toNat ≤ range.2 := by
  simp only [isBlank, blankRanges, Bool.or_eq_true, Bool.and_eq_true, decide_eq_true_eq, beq_iff_eq,
    List.mem_cons, List.not_mem_nil, or_false, exists_eq_or_imp, exists_eq_left]
  omega

/-- What the lower-case letters of the table are not: halves of characters, `İ` and blanks. -/
def foreignRanges : List (Nat × Nat) := (0xD800, 0xDFFF) :: (0x130, 0x130) :: blankRanges

/-- No lower-case letter of the table is an upper-case letter of it. -/
theorem lowerRuns_isApartFrom : ∀ r ∈ lowerRuns, ∀ s ∈ lowerRuns, r.isApartFrom s := by
  have h : (lowerRuns.all fun r => lowerRuns.all fun s => r.isApartFrom s) = true := by
    decide +kernel
  simpa only [List.all_eq_true] using h

/-- No lower-case letter of the table is a half of a character, `İ` or a blank. -/
theorem lowerRuns_avoids : ∀ r ∈ lowerRuns, r.targetOf r.last < 0x110000 ∧
    ∀ range ∈ foreignRanges, r.avoids range := by
  have h : (lowerRuns.all fun r => (r.targetOf r.last).blt 0x110000 &&
      foreignRanges.all fun range => r.avoids range) = true := by
    decide +kernel
  simpa only [List.all_eq_true, Bool.and_eq_true, Nat.blt_eq] using h

/-- The partner of a letter is a character. -/
theorem toNat_ofNat_targetOf {r : CaseRun} {n : Nat} (hr : r ∈ lowerRuns) (hn : r.covers n) :
    (Char.ofNat (r.targetOf n)).toNat = r.targetOf n := by
  obtain ⟨hlast, havoids⟩ := lowerRuns_avoids r hr
  have hhalf := CaseRun.not_mem_of_avoids (havoids (0xD800, 0xDFFF) List.mem_cons_self) hn
  have hbounds := CaseRun.targetOf_bounds hn
  have hvalid : (r.targetOf n).isValidChar := by
    unfold Nat.isValidChar
    simp only at hhalf
    omega
  rw [Char.ofNat, dif_pos hvalid]
  rfl

/-! ## Settled characters -/

/-- A character that lower-casing leaves alone. -/
def isSettled (c : Char) : Bool := c != 'İ' && lowerRuns.all fun r => !r.covers c.toNat

theorem isSettled_iff {c : Char} :
    isSettled c ↔ c ≠ 'İ' ∧ ∀ r ∈ lowerRuns, ¬r.covers c.toNat := by
  simp [isSettled]

theorem lowerPartner?_eq_none {c : Char} (h : isSettled c) : lowerPartner? c = none := by
  rw [lowerPartner?, Option.map_eq_none_iff, List.find?_eq_none]
  exact (isSettled_iff.1 h).2

/-- A settled character is its own lower case. -/
theorem lowerChar_eq_self {c : Char} (h : isSettled c) : lowerChar c = [c] := by
  rw [lowerChar, if_neg (isSettled_iff.1 h).1, lowerPartner?_eq_none h]
  rfl

/-- A capital sigma is not left alone. -/
theorem ne_sigma_of_isSettled {c : Char} (h : isSettled c) : c ≠ 'Σ' := by
  rintro rfl
  exact absurd h (by decide)

/-- The lower-case letters of a run are settled. -/
theorem isSettled_ofNat_targetOf {r : CaseRun} {n : Nat} (hr : r ∈ lowerRuns)
    (hn : r.covers n) : isSettled (Char.ofNat (r.targetOf n)) := by
  have hnat := toNat_ofNat_targetOf hr hn
  refine isSettled_iff.2 ⟨?_, ?_⟩
  · intro hdot
    have havoids := (lowerRuns_avoids r hr).2 (0x130, 0x130) (by decide)
    refine CaseRun.not_mem_of_avoids havoids hn ?_
    rw [← hnat, hdot]
    decide
  · intro s hs
    rw [hnat]
    exact CaseRun.not_covers_of_isApartFrom (lowerRuns_isApartFrom r hr s hs) hn

/-- The lower-case letters of a run are no blanks. -/
theorem not_isBlank_ofNat_targetOf {r : CaseRun} {n : Nat} (hr : r ∈ lowerRuns)
    (hn : r.covers n) : isBlank (Char.ofNat (r.targetOf n)) = false := by
  rw [Bool.eq_false_iff, Ne, isBlank_iff]
  rintro ⟨range, hrange, hmem⟩
  rw [toNat_ofNat_targetOf hr hn] at hmem
  have havoids := (lowerRuns_avoids r hr).2 range
    (List.mem_cons_of_mem _ (List.mem_cons_of_mem _ hrange))
  exact CaseRun.not_mem_of_avoids havoids hn hmem

/-- What `İ` becomes. -/
def dotted : List Char := ['i', '\u0307']

/-- What a character becomes: `i` with a dot, the partner that a run gives it, or itself. -/
theorem mem_lowerChar_cases {c d : Char} (h : d ∈ lowerChar c) :
    d ∈ dotted ∨ (∃ r ∈ lowerRuns, r.covers c.toNat ∧ d = Char.ofNat (r.targetOf c.toNat)) ∨
      d = c ∧ isSettled c := by
  unfold lowerChar at h
  split at h
  · exact Or.inl h
  · next hdot =>
    rw [List.mem_singleton] at h
    cases hrun : lowerRuns.find? (·.covers c.toNat) with
    | some r =>
      have hcovers : r.covers c.toNat := by simpa using List.find?_some hrun
      have hd : d = Char.ofNat (r.targetOf c.toNat) := by
        rw [h, lowerPartner?, hrun]
        rfl
      exact Or.inr (Or.inl ⟨r, List.mem_of_find?_eq_some hrun, hcovers, hd⟩)
    | none =>
      have hd : d = c := by
        rw [h, lowerPartner?, hrun]
        rfl
      exact Or.inr (Or.inr ⟨hd, isSettled_iff.2 ⟨hdot, List.find?_eq_none.1 hrun⟩⟩)

/-- Lower case is settled. -/
theorem isSettled_of_mem_lowerChar {c d : Char} (h : d ∈ lowerChar c) : isSettled d := by
  have hdotted : dotted.all isSettled := by decide
  rcases mem_lowerChar_cases h with h | ⟨r, hr, hn, rfl⟩ | ⟨rfl, h⟩
  · exact List.all_eq_true.1 hdotted d h
  · exact isSettled_ofNat_targetOf hr hn
  · exact h

/-- The lower case of a character that is no blank has no blanks. -/
theorem not_isBlank_of_mem_lowerChar {c d : Char} (hc : isBlank c = false)
    (h : d ∈ lowerChar c) : isBlank d = false := by
  have hdotted : ∀ e ∈ dotted, isBlank e = false := by simp [dotted, isBlank]
  rcases mem_lowerChar_cases h with h | ⟨r, hr, hn, rfl⟩ | ⟨rfl, -⟩
  · exact hdotted d h
  · exact not_isBlank_ofNat_targetOf hr hn
  · exact hc

/-! ## Texts -/

/-- What the first character of the rest of a text becomes. -/
def lowerHead (before : List Char) (c : Char) (cs : List Char) : List Char :=
  if c = 'Σ' then [if isFinalSigma before cs then 'ς' else 'σ'] else lowerChar c

theorem lowerFrom_cons (before : List Char) (c : Char) (cs : List Char) :
    lowerFrom before (c :: cs) = lowerHead before c cs ++ lowerFrom (c :: before) cs := rfl

/-- What a capital sigma becomes. -/
def sigmas : List Char := ['ς', 'σ']

theorem mem_lowerHead_cases {before cs : List Char} {c d : Char}
    (h : d ∈ lowerHead before c cs) : d ∈ sigmas ∨ d ∈ lowerChar c := by
  unfold lowerHead at h
  split at h
  · rw [List.mem_singleton] at h
    cases hfinal : isFinalSigma before cs <;> simp [h, hfinal, sigmas]
  · exact Or.inr h

theorem isSettled_of_mem_lowerHead {before cs : List Char} {c d : Char}
    (h : d ∈ lowerHead before c cs) : isSettled d := by
  have hsigmas : sigmas.all isSettled := by decide
  exact (mem_lowerHead_cases h).elim (List.all_eq_true.1 hsigmas d) isSettled_of_mem_lowerChar

theorem not_isBlank_of_mem_lowerHead {before cs : List Char} {c d : Char}
    (hc : isBlank c = false) (h : d ∈ lowerHead before c cs) : isBlank d = false := by
  have hsigmas : ∀ e ∈ sigmas, isBlank e = false := by simp [sigmas, isBlank]
  exact (mem_lowerHead_cases h).elim (hsigmas d) (not_isBlank_of_mem_lowerChar hc)

theorem lowerHead_ne_nil (before : List Char) (c : Char) (cs : List Char) :
    lowerHead before c cs ≠ [] := by
  unfold lowerHead lowerChar
  split
  · simp
  · split <;> simp

/-- A lower-cased text has settled characters only. -/
theorem isSettled_of_mem_lowerFrom {before cs : List Char} {d : Char}
    (h : d ∈ lowerFrom before cs) : isSettled d := by
  induction cs generalizing before with
  | nil => simp [lowerFrom] at h
  | cons c cs ih =>
    rw [lowerFrom_cons, List.mem_append] at h
    exact h.elim isSettled_of_mem_lowerHead ih

/-- A text of settled characters is in lower case already: there is no capital sigma whose
neighbours could matter. -/
theorem lowerFrom_eq_self {before cs : List Char} (h : ∀ c ∈ cs, isSettled c) :
    lowerFrom before cs = cs := by
  induction cs generalizing before with
  | nil => rfl
  | cons c cs ih =>
    obtain ⟨hc, hcs⟩ := List.forall_mem_cons.1 h
    rw [lowerFrom_cons, ih hcs, lowerHead, if_neg (ne_sigma_of_isSettled hc), lowerChar_eq_self hc]
    rfl

/-- Lower-casing twice is lower-casing once. -/
theorem lowerChars_lowerChars (cs : List Char) : lowerChars (lowerChars cs) = lowerChars cs :=
  lowerFrom_eq_self fun _ h => isSettled_of_mem_lowerFrom h

/-- A text that does not start with a blank is lower-cased to one that does not. -/
theorem not_isBlank_head?_lowerFrom {before cs : List Char}
    (h : ∀ c ∈ cs.head?, isBlank c = false) :
    ∀ d ∈ (lowerFrom before cs).head?, isBlank d = false := by
  cases cs with
  | nil => simp [lowerFrom]
  | cons c cs =>
    intro d hd
    obtain ⟨e, rest, he⟩ := List.exists_cons_of_ne_nil (lowerHead_ne_nil before c cs)
    rw [lowerFrom_cons, he] at hd
    obtain rfl : e = d := by simpa using hd
    have hmem : e ∈ lowerHead before c cs := by simp [he]
    exact not_isBlank_of_mem_lowerHead (h c rfl) hmem

/-- A text that does not end with a blank is lower-cased to one that does not. -/
theorem not_isBlank_getLast?_lowerFrom {before cs : List Char}
    (h : ∀ c ∈ cs.getLast?, isBlank c = false) :
    ∀ d ∈ (lowerFrom before cs).getLast?, isBlank d = false := by
  induction cs generalizing before with
  | nil => simp [lowerFrom]
  | cons c cs ih =>
    intro d hd
    rw [lowerFrom_cons] at hd
    cases cs with
    | nil =>
      rw [lowerFrom, List.append_nil] at hd
      exact not_isBlank_of_mem_lowerHead (h c rfl) (List.mem_of_getLast? hd)
    | cons e cs =>
      have hne : lowerFrom (c :: before) (e :: cs) ≠ [] := by
        simp [lowerFrom_cons, lowerHead_ne_nil]
      rw [List.getLast?_append_of_ne_nil _ hne] at hd
      exact ih (by simpa using h) d hd

/-- A trimmed text stays trimmed in lower case. -/
theorem trimChars_lowerChars_trimChars (cs : List Char) :
    trimChars (lowerChars (trimChars cs)) = lowerChars (trimChars cs) := by
  obtain ⟨hhead, hlast⟩ := trimChars_eq_self_iff.1 (trimChars_trimChars cs)
  exact trimChars_eq_self_iff.2
    ⟨not_isBlank_head?_lowerFrom hhead, not_isBlank_getLast?_lowerFrom hlast⟩

end Text

/-- The normal form of a reader's name is its own normal form. -/
@[simp] theorem normalUsername_normalUsername (s : String) :
    normalUsername (normalUsername s) = normalUsername s := by
  simp only [normalUsername, Text.lowercase, Text.trim, String.toList_ofList,
    Text.trimChars_lowerChars_trimChars, Text.lowerChars_lowerChars]

/-- The final sigma and the dotted capital keep the shape that they got. -/
example : normalUsername " ΟΔΟΣ İ " = "οδος i\u0307" := by decide +kernel

end Bookfinder
