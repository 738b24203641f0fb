/-!
# Sorting by halving

`byHalving before` sorts a list by taking the members one after the other and putting each in the
place that halving finds for it among those before. Under an order this is the sorted list, as
any stable sort gives it. It is fixed also for a relation that is no order, such as the comparison
of numbers with a value that is no number, and whatever the relation is, no member is lost
(`byHalving_perm`).
-/

namespace Bookfinder.Sorting

variable {α : Type}

/-- Splits a list after the members that follow one another, starting from `last`. -/
def chain (follows : α → α → Bool) (last : α) : List α → List α × List α
  | [] => ([], [])
  | a :: as =>
    if follows last a then
      let (run, rest) := chain follows a as
      (a :: run, rest)
    else ([], a :: as)

theorem chain_append (follows : α → α → Bool) (last : α) (as : List α) :
    (chain follows last as).1 ++ (chain follows last as).2 = as := by
  induction as generalizing last with
  | nil => rfl
  | cons a as ih =>
    unfold chain
    split
    · simpa using ih a
    · rfl

/-- The place for `a` between `low` and `high` in a list: before the members that it comes
before. -/
def place (before : α → α → Bool) (a : α) (as : List α) (low high : Nat) : Nat :=
  if h : low < high then
    let middle := low + (high - low) / 2
    if (as[middle]?).any (before a) then place before a as low middle
    else place before a as (middle + 1) high
  else low
termination_by high - low

/-- A list with `a` in its place. -/
def insert (before : α → α → Bool) (a : α) (as : List α) : List α :=
  let i := place before a as 0 as.length
  as.take i ++ a :: as.drop i

theorem insert_perm (before : α → α → Bool) (a : α) (as : List α) :
    (insert before a as).Perm (a :: as) := by
  unfold insert
  refine List.perm_middle.trans (List.Perm.cons a ?_)
  rw [List.take_append_drop]

/-- The start of a list that is in order, or the wrong way round throughout and then turned; and
the rest. -/
def leadingRun (before : α → α → Bool) : List α → List α × List α
  | [] => ([], [])
  | [a] => ([a], [])
  | a :: b :: as =>
    if before b a then
      let split := chain (fun x y => before y x) b as
      ((a :: b :: split.1).reverse, split.2)
    else
      let split := chain (fun x y => !before y x) b as
      (a :: b :: split.1, split.2)

theorem leadingRun_perm (before : α → α → Bool) (as : List α) :
    ((leadingRun before as).1 ++ (leadingRun before as).2).Perm as := by
  match as with
  | [] | [a] => exact List.Perm.refl _
  | a :: b :: as =>
    have turned := chain_append (fun x y => before y x) b as
    have kept := chain_append (fun x y => !before y x) b as
    rw [leadingRun]
    split
    · refine (List.Perm.append_right _ (List.reverse_perm _)).trans ?_
      rw [List.cons_append, List.cons_append, turned]
    · rw [List.cons_append, List.cons_append, kept]

/-- A list sorted by halving. -/
def byHalving (before : α → α → Bool) (as : List α) : List α :=
  let (run, rest) := leadingRun before as
  rest.foldl (fun sorted a => insert before a sorted) run

theorem foldl_insert_perm (before : α → α → Bool) (as sorted : List α) :
    (as.foldl (fun sorted a => insert before a sorted) sorted).Perm (sorted ++ as) := by
  induction as generalizing sorted with
  | nil => simp
  | cons a as ih =>
    refine (ih (insert before a sorted)).trans ?_
    exact (List.Perm.append_right as (insert_perm before a sorted)).trans
      List.perm_middle.symm

/-- Sorting by halving neither loses nor adds a member. -/
theorem byHalving_perm (before : α → α → Bool) (as : List α) : (byHalving before as).Perm as :=
  (foldl_insert_perm before _ _).trans (leadingRun_perm before as)

end Bookfinder.Sorting
