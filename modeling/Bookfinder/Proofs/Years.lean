import Bookfinder.Proofs.Words
import Bookfinder.Query.Reading

/-!
# Written years read back

The digits of a number are read as that number, as long as there are no more of them than may be
read (`natOfDigits?_decimalDigits`), and a number that was read has no more (`length_of_read`). So
a range of years reads back from the way it is written if its ends are neither negative nor too
long (`YearRange.parse_written`), and each range that was read is such a range
(`YearRange.isReadable_of_parse`).
-/

namespace Bookfinder

/-! ## Numbers -/

namespace Text

theorem isAsciiDigit_of_mem_decimalDigits {n : Nat} {c : Char} (h : c ∈ decimalDigits n) :
    isAsciiDigit c := by
  have hd := Nat.isDigit_of_mem_toDigits (by decide) (by decide) h
  simp only [Char.isDigit, Bool.and_eq_true, decide_eq_true_eq] at hd
  simp only [isAsciiDigit, Bool.and_eq_true, decide_eq_true_eq, Char.le_def]
  exact hd

theorem not_isBlank_of_isAsciiDigit {c : Char} (h : isAsciiDigit c) : isBlank c = false := by
  simp only [isAsciiDigit, Bool.and_eq_true, decide_eq_true_eq, Char.le_def,
    UInt32.le_iff_toNat_le] at h
  have hl : 48 ≤ c.toNat := h.1
  have hu : c.toNat ≤ 57 := h.2
  simp only [isBlank]
  grind

theorem natOfAsciiDigits_eq (cs : List Char) :
    natOfAsciiDigits cs = Nat.ofDigitChars 10 cs 0 := by
  simp only [natOfAsciiDigits, ofDigitValues, List.foldl_map, Nat.ofDigitChars, asciiDigitValue]

/-- Digits write a number below the power of ten with as many zeros. -/
theorem natOfAsciiDigits_lt {cs : List Char} (h : cs.all isAsciiDigit) :
    natOfAsciiDigits cs < tenTo cs.length := by
  rw [natOfAsciiDigits_eq]
  induction cs with
  | nil => exact tenTo_pos 0
  | cons c cs ih =>
    simp only [List.all_cons, Bool.and_eq_true] at h
    have hc : c.toNat - '0'.toNat ≤ 9 := by
      have hu := h.1
      simp only [isAsciiDigit, Bool.and_eq_true, decide_eq_true_eq, Char.le_def,
        UInt32.le_iff_toNat_le] at hu
      have : c.toNat ≤ 57 := hu.2
      have : '0'.toNat = 48 := rfl
      omega
    have hcs := ih h.2
    have hten : tenTo (cs.length + 1) = tenTo cs.length * 10 := tenTo_add cs.length 1
    have hmul : tenTo cs.length * (c.toNat - '0'.toNat) ≤ tenTo cs.length * 9 :=
      Nat.mul_le_mul_left _ hc
    have hread : Nat.ofDigitChars 10 (c :: cs) 0 =
        tenTo cs.length * (c.toNat - '0'.toNat) + Nat.ofDigitChars 10 cs 0 := by
      rw [Nat.ofDigitChars_cons, Nat.ofDigitChars_eq_ofDigitChars_zero, Nat.mul_zero, Nat.zero_add]
      rfl
    rw [hread, List.length_cons, hten]
    omega

end Text

namespace Number

theorem natOfDigits?_decimalDigits {n : Nat}
    (h : (Text.decimalDigits n).length ≤ maxIntegerDigits) :
    natOfDigits? (Text.decimalDigits n) = some n := by
  have hne : (Text.decimalDigits n).isEmpty = false :=
    List.isEmpty_eq_false_iff.2 Nat.toDigits_ne_nil
  have hall : (Text.decimalDigits n).all Text.isAsciiDigit :=
    List.all_eq_true.2 fun _ => Text.isAsciiDigit_of_mem_decimalDigits
  rw [natOfDigits?, hne, hall, decide_eq_false (Nat.not_lt.2 h), Text.natOfAsciiDigits_eq,
    Text.decimalDigits, Nat.ofDigitChars_ten_toDigits]
  rfl

/-- A number that is read is written with no more digits than may be read. -/
theorem length_of_read {cs : List Char} {n : Nat} (h : natOfDigits? cs = some n) :
    (Text.decimalDigits n).length ≤ maxIntegerDigits := by
  unfold natOfDigits? at h
  split at h
  · exact absurd h nofun
  · next hc =>
    simp only [Bool.or_eq_true, Bool.not_eq_true', decide_eq_true_eq, not_or, Nat.not_lt,
      List.isEmpty_iff, Bool.not_eq_false] at hc
    obtain ⟨⟨hne, hall⟩, hlen⟩ := hc
    obtain rfl := Option.some.inj h
    have hpos : 0 < cs.length := List.length_pos_iff.2 hne
    refine Nat.le_trans ?_ hlen
    rw [Text.decimalDigits, Nat.length_toDigits_le_iff (by decide) hpos]
    exact Text.natOfAsciiDigits_lt hall

theorem toList_writtenInt (n : Nat) :
    (writtenInt n).toList = Text.decimalDigits n := by
  have hpos : ¬((n : Int) < 0) := by omega
  simp [writtenInt, hpos, padded]

end Number

/-! ## Ranges -/

namespace YearRange

/-- The ends are not negative and have no more digits than may be read. -/
def IsReadable (r : YearRange) : Prop :=
  ∀ y ∈ r.bounds, 0 ≤ y ∧ Number.IsShort y

theorem isReadable_unbounded : unbounded.IsReadable := by
  simp [IsReadable, bounds, unbounded]

/-- An end as it is written; nothing if it is open. -/
def writtenEnd (year : Option Int) : List Char :=
  ((year.map Number.writtenInt).getD "").toList

theorem toList_written_of_isBounded {r : YearRange} (h : r.isBounded) :
    r.written.toList = writtenEnd r.first ++ '-' :: writtenEnd r.last := by
  simp [written, h, writtenEnd]

theorem toList_written_of_not_isBounded {r : YearRange} (h : ¬r.isBounded) :
    r.written.toList = [] := by
  simp [written, h]

theorem isAsciiDigit_of_mem_writtenEnd {year : Option Int} (h : ∀ y ∈ year, 0 ≤ y) {c : Char}
    (hc : c ∈ writtenEnd year) : Text.isAsciiDigit c := by
  cases year with
  | none => simp [writtenEnd] at hc
  | some y =>
    obtain ⟨n, rfl⟩ := Int.eq_ofNat_of_zero_le (h y rfl)
    rw [writtenEnd, Option.map_some, Option.getD_some, Number.toList_writtenInt] at hc
    exact Text.isAsciiDigit_of_mem_decimalDigits hc

/-- An end reads back. -/
theorem parseEnd_writtenEnd {year : Option Int}
    (h : ∀ y ∈ year, 0 ≤ y ∧ Number.IsShort y) :
    parseEnd (writtenEnd year) = .ok year := by
  cases year with
  | none => simp [writtenEnd, parseEnd]
  | some y =>
    obtain ⟨hpos, hlen⟩ := h y rfl
    obtain ⟨n, rfl⟩ := Int.eq_ofNat_of_zero_le hpos
    have hne : (Text.decimalDigits n).isEmpty = false :=
      List.isEmpty_eq_false_iff.2 Nat.toDigits_ne_nil
    have hread := Number.natOfDigits?_decimalDigits hlen
    rw [Int.natAbs_natCast] at hread
    rw [writtenEnd, Option.map_some, Option.getD_some, Number.toList_writtenInt, parseEnd, hne,
      hread]
    rfl

section Readable

variable {r : YearRange} (h : r.IsReadable)
include h

theorem IsReadable.first : ∀ y ∈ r.first,
    0 ≤ y ∧ Number.IsShort y :=
  fun y hy => h y (by simp [bounds, Option.mem_def.1 hy])

theorem IsReadable.last : ∀ y ∈ r.last,
    0 ≤ y ∧ Number.IsShort y :=
  fun y hy => h y (by simp [bounds, Option.mem_def.1 hy])

/-- A range is written without blanks. -/
theorem IsReadable.not_isBlank {c : Char} (hc : c ∈ r.written.toList) :
    Text.isBlank c = false := by
  by_cases hb : r.isBounded
  · rw [toList_written_of_isBounded hb, List.mem_append, List.mem_cons] at hc
    rcases hc with hc | rfl | hc
    · exact Text.not_isBlank_of_isAsciiDigit
        (isAsciiDigit_of_mem_writtenEnd (fun y hy => (h.first y hy).1) hc)
    · decide
    · exact Text.not_isBlank_of_isAsciiDigit
        (isAsciiDigit_of_mem_writtenEnd (fun y hy => (h.last y hy).1) hc)
  · rw [toList_written_of_not_isBounded hb] at hc
    exact absurd hc List.not_mem_nil

theorem parse_written : parse r.written.toList = .ok (some r) := by
  rw [parse, Text.trimChars_of_not_isBlank fun _ => h.not_isBlank]
  by_cases hb : r.isBounded
  · have hfirst : ∀ c ∈ writtenEnd r.first, Text.isAsciiDigit c := fun c hc =>
      isAsciiDigit_of_mem_writtenEnd (fun y hy => (h.first y hy).1) hc
    have hlast : (writtenEnd r.last).all Text.isAsciiDigit := List.all_eq_true.2 fun c hc =>
      isAsciiDigit_of_mem_writtenEnd (fun y hy => (h.last y hy).1) hc
    have hdash : Text.isAsciiDigit '-' = false := by decide
    rw [toList_written_of_isBounded hb, parseTrimmed, List.takeWhile_append_of_pos hfirst,
      List.dropWhile_append_of_pos hfirst, List.takeWhile_cons, List.dropWhile_cons, hdash]
    simp only [Bool.false_eq_true, if_false, List.append_nil, hlast, if_true,
      parseEnd_writtenEnd h.first, parseEnd_writtenEnd h.last]
    rfl
  · rw [toList_written_of_not_isBounded hb]
    obtain ⟨first, last⟩ := r
    cases first <;> cases last <;> simp_all [isBounded]
    rfl

end Readable

/-- What was read as an end is an end that may be read. -/
theorem isReadable_of_parseEnd {ds : List Char} {year : Option Int}
    (h : parseEnd ds = .ok year) : ∀ y ∈ year,
      0 ≤ y ∧ Number.IsShort y := by
  unfold parseEnd at h
  split at h
  · obtain rfl := Except.ok.inj h
    exact fun y hy => absurd hy nofun
  · cases hn : Number.natOfDigits? ds with
    | none => simp [hn] at h
    | some n =>
      rw [hn] at h
      obtain rfl := Except.ok.inj h
      rintro y ⟨⟩
      exact ⟨Int.natCast_nonneg n, Number.length_of_read hn⟩

theorem isReadable_of_ends {first last : Option Int}
    (hf : ∀ y ∈ first, 0 ≤ y ∧ Number.IsShort y)
    (hl : ∀ y ∈ last, 0 ≤ y ∧ Number.IsShort y) :
    IsReadable ⟨first, last⟩ := by
  intro y hy
  rcases List.mem_append.1 hy with hy | hy
  · exact hf y (Option.mem_toList.1 hy)
  · exact hl y (Option.mem_toList.1 hy)

/-- A range that was read may be read again. -/
theorem isReadable_of_parse {cs : List Char} {r : YearRange} (h : parse cs = .ok (some r)) :
    r.IsReadable := by
  unfold parse parseTrimmed at h
  split at h
  · obtain ⟨year, hyear, h⟩ := bind_eq_ok.1 h
    obtain rfl := Option.some.inj (Except.ok.inj h)
    exact isReadable_of_ends (isReadable_of_parseEnd hyear) (isReadable_of_parseEnd hyear)
  · split at h
    · obtain ⟨first, hfirst, h⟩ := bind_eq_ok.1 h
      obtain ⟨last, hlast, h⟩ := bind_eq_ok.1 h
      obtain rfl := Option.some.inj (Except.ok.inj h)
      exact isReadable_of_ends (isReadable_of_parseEnd hfirst) (isReadable_of_parseEnd hlast)
    · exact absurd (Except.ok.inj h) nofun
  · exact absurd (Except.ok.inj h) nofun

end YearRange

end Bookfinder
