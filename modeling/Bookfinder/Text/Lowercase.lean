import Bookfinder.Text.CaseTable

/-!
# Lower case

`lowercase` is full Unicode lower-casing. All characters but two map by themselves: `İ` becomes
an `i` with a combining dot (`lowerChar`), and a capital sigma becomes the final form `ς` where
it ends a word, `σ` elsewhere. It ends a word if a letter comes before it and none after,
looking through the characters that extend a letter (`isFinalSigma`).
-/

namespace Bookfinder.Text

/-- Membership in a list of inclusive ranges. -/
def within (ranges : List (Nat × Nat)) (c : Char) : Bool :=
  ranges.any fun r => r.1 ≤ c.toNat && c.toNat ≤ r.2

/-- A letter with a case. -/
def isCased (c : Char) : Bool := within casedRanges c

/-- A character that extends the letter before it: a mark, an apostrophe, a modifier. -/
def isExtender (c : Char) : Bool := within extenderRanges c

/-- Whether the upper-case letter `n` is in the run. -/
def CaseRun.covers (r : CaseRun) (n : Nat) : Bool :=
  r.first ≤ n && n ≤ r.last && (n - r.first) % r.step == 0

/-- The lower-case partner of a character that has a single one. -/
def lowerPartner? (c : Char) : Option Char :=
  (lowerRuns.find? (·.covers c.toNat)).map fun r => Char.ofNat (r.target + (c.toNat - r.first))

/-- The lower-case form of a character out of context. -/
def lowerChar (c : Char) : List Char :=
  if c = '\u0130' then ['i', '\u0307'] else [(lowerPartner? c).getD c]

/-- Whether the nearest character that is no extender is a letter. -/
def meetsLetter (cs : List Char) : Bool :=
  match cs.dropWhile isExtender with
  | [] => false
  | c :: _ => isCased c

/-- Whether a capital sigma ends a word; `before` lists the characters before it, the nearest
first. -/
def isFinalSigma (before after : List Char) : Bool :=
  meetsLetter before && !meetsLetter after

/-- The lower-case form of the rest of a text whose first part, last character first, is
`before`. -/
def lowerFrom (before : List Char) : List Char → List Char
  | [] => []
  | c :: cs =>
    (if c = 'Σ' then [if isFinalSigma before cs then 'ς' else 'σ'] else lowerChar c) ++
      lowerFrom (c :: before) cs

/-- The lower-case form of a list of characters. -/
def lowerChars (cs : List Char) : List Char := lowerFrom [] cs

/-- The lower-case form of a text. -/
def lowercase (s : String) : String := String.ofList (lowerChars s.toList)

end Bookfinder.Text
