import Bookfinder.Association

/-!
# Payloads

What the services send is JSON, and much of it is passed on as it came: a title that should be
text may be a number or a list. `Payload` is a JSON value with the distinction between integers
and real numbers kept, and the fields of a record in the order in which they were written.
Equality of payloads is decidable; real numbers are compared by their bits.
-/

namespace Bookfinder

/-- A JSON value. -/
inductive Payload where
  | null
  | bool (b : Bool)
  | int (i : Int)
  | real (x : Float)
  | text (s : String)
  | list (items : List Payload)
  | record (fields : List (String × Payload))

namespace Payload

instance : Inhabited Payload := ⟨.null⟩

/-! ## Equality -/

mutual

/-- Equality of payloads, as a decision. -/
def same : Payload → Payload → Bool
  | .null, .null => true
  | .bool a, .bool b => a == b
  | .int a, .int b => a == b
  | .real a, .real b => decide (a = b)
  | .text a, .text b => a == b
  | .list a, .list b => sameItems a b
  | .record a, .record b => sameFields a b
  | _, _ => false

/-- Equality of lists of payloads. -/
def sameItems : List Payload → List Payload → Bool
  | [], [] => true
  | a :: as, b :: bs => same a b && sameItems as bs
  | _, _ => false

/-- Equality of lists of fields. -/
def sameFields : List (String × Payload) → List (String × Payload) → Bool
  | [], [] => true
  | (k, a) :: as, (l, b) :: bs => k == l && same a b && sameFields as bs
  | _, _ => false

end

mutual

theorem same_iff : ∀ a b : Payload, same a b = true ↔ a = b
  | .null, b => by cases b <;> simp [same]
  | .bool _, b => by cases b <;> simp [same]
  | .int _, b => by cases b <;> simp [same]
  | .real _, b => by cases b <;> simp [same]
  | .text _, b => by cases b <;> simp [same]
  | .list xs, b => by cases b <;> simp [same, sameItems_iff xs]
  | .record fs, b => by cases b <;> simp [same, sameFields_iff fs]

theorem sameItems_iff : ∀ as bs : List Payload, sameItems as bs = true ↔ as = bs
  | [], bs => by cases bs <;> simp [sameItems]
  | a :: as, bs => by cases bs <;> simp [sameItems, same_iff a, sameItems_iff as]

theorem sameFields_iff : ∀ as bs : List (String × Payload), sameFields as bs = true ↔ as = bs
  | [], bs => by cases bs <;> simp [sameFields]
  | (k, a) :: as, bs => by
    cases bs with
    | nil => simp [sameFields]
    | cons b bs =>
      obtain ⟨l, b⟩ := b
      simp [sameFields, same_iff a, sameFields_iff as]

end

instance : DecidableEq Payload := fun a b => decidable_of_iff _ (same_iff a b)

/-! ## Shape -/

/-- Whether a payload counts as present: neither null, false, zero nor empty. -/
def isPresent : Payload → Bool
  | .null => false
  | .bool b => b
  | .int i => i != 0
  | .real x => x != 0
  | .text s => !s.isEmpty
  | .list items => !items.isEmpty
  | .record fields => !fields.isEmpty

/-- The name that messages give to the kind of a payload. -/
def kindName : Payload → String
  | .null => "NoneType"
  | .bool _ => "bool"
  | .int _ => "int"
  | .real _ => "float"
  | .text _ => "str"
  | .list _ => "list"
  | .record _ => "dict"

/-- Text or null for an optional text. -/
def ofText? : Option String → Payload
  | some s => .text s
  | none => .null

/-- Integer or null for an optional integer. -/
def ofInt? : Option Int → Payload
  | some i => .int i
  | none => .null

/-- Real number or null for an optional real number. -/
def ofReal? : Option Float → Payload
  | some x => .real x
  | none => .null

end Payload

end Bookfinder
