/-!
# Association lists

An `Association α` keeps values under names, in the order in which the names first came. `put`
replaces the value of a name in its place or adds the name at the end. `find?_put` says what is
found afterwards, and `names_put` which names there are.
-/

namespace Bookfinder

/-- Values under names. -/
abbrev Association (α : Type) : Type := List (String × α)

namespace Association

variable {α : Type}

/-- The value of a name. -/
def find? : Association α → String → Option α
  | [], _ => none
  | (k, a) :: rest, name => if k = name then some a else find? rest name

/-- The names, in order. -/
def names (as : Association α) : List String := as.map Prod.fst

/-- The association with the value of one name set. -/
def put : Association α → String → α → Association α
  | [], name, a => [(name, a)]
  | (k, b) :: rest, name, a => if k = name then (k, a) :: rest else (k, b) :: put rest name a

theorem find?_put (as : Association α) (name key : String) (a : α) :
    (as.put name a).find? key = if name = key then some a else as.find? key := by
  induction as with
  | nil => by_cases h : name = key <;> simp [put, find?, h]
  | cons p rest ih =>
    obtain ⟨k, b⟩ := p
    by_cases hk : k = name
    · subst hk
      by_cases h : k = key <;> simp [put, find?, h]
    · by_cases h : k = key
      · subst h
        simp [put, find?, hk, Ne.symm hk]
      · simp [put, find?, hk, h, ih]

theorem find?_isSome_iff {as : Association α} {name : String} :
    (as.find? name).isSome ↔ name ∈ as.names := by
  induction as with
  | nil => simp [find?, names]
  | cons p rest ih =>
    obtain ⟨k, b⟩ := p
    by_cases h : k = name
    · simp [find?, names, h]
    · simp only [find?, h, if_false, ih, names, List.map_cons, List.mem_cons]
      simp [Ne.symm h]

/-- Setting the value of a name adds the name at the end if it is new. -/
theorem names_put (as : Association α) (name : String) (a : α) :
    (as.put name a).names = if name ∈ as.names then as.names else as.names ++ [name] := by
  induction as with
  | nil => simp [put, names]
  | cons p rest ih =>
    obtain ⟨k, b⟩ := p
    by_cases h : k = name
    · simp [put, names, h]
    · simp only [names] at ih
      by_cases hm : name ∈ rest.map Prod.fst <;> simp_all [put, names, Ne.symm h]

end Association

end Bookfinder
