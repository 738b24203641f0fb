import Bookfinder.Number.Numeral
import Bookfinder.Outcome
import Bookfinder.Query.Basic
import Bookfinder.Text.Blank

/-!
# Reading queries

`Query.parse` reads what is typed into the search box. A text that starts with `title-only:` asks
for titles. Otherwise the first `year:` anywhere in the text, with the run of characters after it
up to a blank, gives a range of years, and a text that starts with `author:` asks for an author;
what is neither is looked for everywhere. `YearRange.parse` reads the run: `1950-1970`, `1950-`,
`-1970` or `1950`. A run of another form is reported and leaves the years open.
-/

namespace Bookfinder

/-! ## Ranges -/

namespace YearRange

/-- An end of a range; no digits leave it open. Too many digits are a fault. -/
def parseEnd (ds : List Char) : Except Fault (Option Int) :=
  if ds.isEmpty then .ok none
  else
    match Number.natOfDigits? ds with
    | some n => .ok (some n)
    | none => .error .malformed

/-- The range that a trimmed text writes; `none` if it has another form. -/
def parseTrimmed (cs : List Char) : Except Fault (Option YearRange) :=
  let first := cs.takeWhile Text.isAsciiDigit
  match cs.dropWhile Text.isAsciiDigit with
  | [] => do
    let year ← parseEnd first
    return some ⟨year, year⟩
  | '-' :: last =>
    if last.all Text.isAsciiDigit then do
      let first ← parseEnd first
      let last ← parseEnd last
      return some ⟨first, last⟩
    else .ok none
  | _ :: _ => .ok none

/-- The range that a text writes; `none` if it has another form. -/
def parse (cs : List Char) : Except Fault (Option YearRange) :=
  parseTrimmed (Text.trimChars cs)

end YearRange

/-! ## Queries -/

namespace Query

/-- What a query for titles starts with. -/
def titleMark : List Char := "title-only:".toList

/-- What a query for an author starts with. -/
def authorMark : List Char := "author:".toList

/-- What stands before a range of years. -/
def yearMark : List Char := "year:".toList

/-- The run after the first year mark, up to a blank. -/
def firstRun? : List Char → Option (List Char)
  | [] => none
  | c :: cs =>
    match Text.after? yearMark (c :: cs) with
    | some rest => some (rest.takeWhile fun d => !Text.isBlank d)
    | none => firstRun? cs

/-- A text with a space in place of every year mark and its run. Inside a run the characters up
to the next blank are left out. -/
def withoutRuns (inRun : Bool) : List Char → List Char
  | [] => []
  | c :: cs =>
    if inRun && !Text.isBlank c then withoutRuns true cs
    else if yearMark.isPrefixOf (c :: cs) then ' ' :: withoutRuns true cs
    else c :: withoutRuns false cs

/-- The query for an author and the years of a run, `query` being the whole text. -/
def ofRun (author run query : List Char) : Outcome Query := do
  match ← YearRange.parse run with
  | some years => return .authorYears (String.ofList author) years
  | none =>
    Outcome.note (.malformedYears (String.ofList run) (String.ofList query))
    return .authorYears (String.ofList author) .unbounded

/-- The query that a trimmed text writes; `none` if the text is empty. -/
def parseTrimmed (cs : List Char) : Outcome (Option Query) :=
  if cs.isEmpty then pure none
  else
    match Text.after? titleMark cs with
    | some rest => pure (some (.titleOnly (String.ofList (Text.trimChars rest))))
    | none =>
      match Text.after? authorMark cs, firstRun? cs with
      | some rest, none => pure (some (.authorOnly (String.ofList (Text.trimChars rest))))
      | some rest, some run => some <$> ofRun (Text.respace (withoutRuns false rest)) run cs
      | none, some run => some <$> ofRun [] run cs
      | none, none => pure (some (.freeText (String.ofList cs)))

/-- The query that a text writes; `none` for no text or a blank one. -/
def parse (raw : Option String) : Outcome (Option Query) :=
  match raw with
  | none => pure none
  | some s => parseTrimmed (Text.trimChars s.toList)

end Query

end Bookfinder
