import Bookfinder.Number.Notation
import Bookfinder.Payload.Basic
import Bookfinder.Text.Quoted

/-!
# Writing payloads as JSON

`Payload.json` writes a payload on one line and `Payload.indentedJson` over several, two spaces
a level. Both write characters beyond ASCII as escapes of UTF-16 units, and the real numbers
that JSON has no numerals for as `NaN`, `Infinity` and `-Infinity`.
-/

namespace Bookfinder.Payload

/-- The spelling of real numbers that are not finite. -/
def jsonTexts : Number.SpecialTexts := ⟨"Infinity", "NaN"⟩

/-- One UTF-16 unit as an escape. -/
def jsonUnit (n : Nat) : List Char := '\\' :: 'u' :: Text.hexDigits 4 n

/-- One character of a JSON string. -/
def jsonChar (c : Char) : List Char :=
  if c = '"' then ['\\', '"']
  else if c = '\\' then ['\\', '\\']
  else if c = '\n' then ['\\', 'n']
  else if c = '\r' then ['\\', 'r']
  else if c = '\t' then ['\\', 't']
  else if c = '\x08' then ['\\', 'b']
  else if c = '\x0c' then ['\\', 'f']
  else if 0x20 ≤ c.toNat && c.toNat < 0x7F then [c]
  else if c.toNat < 0x10000 then jsonUnit c.toNat
  else
    let n := c.toNat - 0x10000
    jsonUnit (0xD800 + n / 0x400) ++ jsonUnit (0xDC00 + n % 0x400)

/-- A JSON string. -/
def jsonText (s : String) : String :=
  String.ofList ('"' :: s.toList.flatMap jsonChar ++ ['"'])

mutual

/-- A payload on one line. -/
def json : Payload → String
  | .null => "null"
  | .bool b => if b then "true" else "false"
  | .int i => Number.writtenInt i
  | .real x => Number.writtenReal jsonTexts x
  | .text s => jsonText s
  | .list items => "[" ++ ", ".intercalate (jsonItems items) ++ "]"
  | .record fields => "\x7b" ++ ", ".intercalate (jsonFields fields) ++ "\x7d"

/-- The members of a list. -/
def jsonItems : List Payload → List String
  | [] => []
  | p :: ps => json p :: jsonItems ps

/-- The fields of a record. -/
def jsonFields : List (String × Payload) → List String
  | [] => []
  | (k, p) :: fs => (jsonText k ++ ": " ++ json p) :: jsonFields fs

end

/-- Members between brackets, one a line; `depth` is the level of the brackets. -/
def bracketed (opening closing : String) (depth : Nat) (members : List String) : String :=
  if members.isEmpty then opening ++ closing
  else
    let newline (d : Nat) : String := "\n" ++ String.ofList (List.replicate (2 * d) ' ')
    opening ++ newline (depth + 1) ++ ("," ++ newline (depth + 1)).intercalate members ++
      newline depth ++ closing

mutual

/-- A payload over several lines, at the given level. -/
def indentedAt (depth : Nat) : Payload → String
  | .list items => bracketed "[" "]" depth (indentedItems (depth + 1) items)
  | .record fields => bracketed "\x7b" "\x7d" depth (indentedFields (depth + 1) fields)
  | p => json p

/-- The members of a list. -/
def indentedItems (depth : Nat) : List Payload → List String
  | [] => []
  | p :: ps => indentedAt depth p :: indentedItems depth ps

/-- The fields of a record. -/
def indentedFields (depth : Nat) : List (String × Payload) → List String
  | [] => []
  | (k, p) :: fs => (jsonText k ++ ": " ++ indentedAt depth p) :: indentedFields depth fs

end

/-- A payload over several lines. -/
def indentedJson (p : Payload) : String := indentedAt 0 p

end Bookfinder.Payload
