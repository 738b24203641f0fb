import Bookfinder.Proofs.Slot
import Bookfinder.Proofs.Submission
import Mathlib.Data.Set.Card

/-!
# The ratings that a ledger holds

Submissions come, some of them with a flaw, and ratings are deleted, under names of any spelling.
What was asked, the oldest first, tells what is held under each key: `Change.live` is the slot that
an accepted submission fills and that a deletion empties.

`Ledger.Tracks` says that a ledger holds just this, one rating for each key, in the order in which
the keys arrived. Every change keeps it (`Tracks.change`), so the answers of a ledger are those of
a finite map (`Ledger.tracks_after` and `Ledger.answers_after`).
-/

namespace Bookfinder

namespace Ledger

open Rating

/-- What may be asked of a ledger to change it. -/
inductive Change where
  /-- A rating is submitted while the clock shows `time`. -/
  | submit (r : Rating) (time : Timestamp)
  | delete (username isbn : String)

namespace Change

/-- The key that a change is about. -/
def key : Change → String × String
  | .submit r _ => keyOf r.username r.isbn
  | .delete username isbn => keyOf username isbn

/-- The submission is accepted and is kept as `kept`: in order, with the mean of its scores, and
with the time of the clock. -/
def Keeps : Change → Rating → Prop
  | .submit r time, kept => r.flaw? = none ∧
      ∃ average, Draft.averageOf r.scores = .ok average ∧ kept = r.stamped average time
  | .delete .., _ => False

/-- Whether a change is a deletion. -/
def IsDeletion : Change → Prop
  | .submit .. => False
  | .delete .. => True

/-- The rating under a key. -/
def live (k : String × String) : Slot Change where
  Fills c := c.key = k ∧ ∃ kept, c.Keeps kept
  Empties c := c.key = k ∧ c.IsDeletion

variable {c : Change} {r : Rating} {k : String × String}

/-- A change keeps a rating under its own key. -/
theorem Keeps.key_eq (hc : c.Keeps r) : r.key = c.key := by
  cases c with
  | submit s time =>
    obtain ⟨-, average, -, rfl⟩ := hc
    rfl
  | delete username isbn => exact hc.elim

/-- A change keeps one rating at most. -/
theorem Keeps.unique {s : Rating} (hr : c.Keeps r) (hs : c.Keeps s) : r = s := by
  cases c with
  | submit t time =>
    obtain ⟨-, average, ha, rfl⟩ := hr
    obtain ⟨-, mean, hm, rfl⟩ := hs
    rw [Except.ok.inj (ha.symm.trans hm)]
  | delete username isbn => exact hr.elim

theorem Keeps.not_isDeletion (hc : c.Keeps r) : ¬c.IsDeletion := by
  cases c with
  | submit s time => exact id
  | delete username isbn => exact hc.elim

end Change

/-- The ledger that a change leaves, whatever the answer is. -/
def change (l : Ledger) : Change → Ledger
  | .submit r time => ((store.submit (pure time) r).run l).2
  | .delete username isbn => ((store.remove (.text username) (.text isbn)).run l).2

/-- The ledger that changes leave of an empty one. -/
def after (changes : List Change) : Ledger := changes.foldl change empty

/-- The last change comes after all others. -/
theorem after_concat (changes : List Change) (c : Change) :
    after (changes ++ [c]) = (after changes).change c := by
  rw [after, List.foldl_append]
  rfl

/-- A submission without a flaw is accepted, whatever the ledger holds. -/
theorem exists_run_submit (l : Ledger) {r : Rating} (hr : r.flaw? = none) (time : Timestamp) :
    ∃ kept, (Change.submit r time).Keeps kept ∧
      (store.submit (pure time) r).run l = (.ok kept, l.put kept) := by
  obtain ⟨_, -, haverage⟩ := averageOf_of_flawless hr
  exact ⟨_, ⟨hr, _, haverage, rfl⟩, run_submit l hr haverage time⟩

/-- A change puts a rating that is kept, or erases the one under its key, or does nothing. -/
theorem change_cases (l : Ledger) (c : Change) :
    (∃ kept, c.Keeps kept ∧ l.change c = l.put kept) ∨
      (c.IsDeletion ∧ l.change c = l.erase c.key.1 c.key.2) ∨
        ((∀ kept, ¬c.Keeps kept) ∧ ¬c.IsDeletion ∧ l.change c = l) := by
  cases c with
  | submit r time =>
    rw [change]
    cases hr : r.flaw? with
    | none =>
      obtain ⟨kept, hkept, hrun⟩ := exists_run_submit l hr time
      exact Or.inl ⟨kept, hkept, by rw [hrun]⟩
    | some flaw =>
      have hrefused : ∀ kept, ¬(Change.submit r time).Keeps kept := fun kept hkept =>
        nomatch hr.symm.trans hkept.1
      exact Or.inr (Or.inr ⟨hrefused, id, by rw [run_submit_of_flaw l hr]⟩)
  | delete username isbn => exact Or.inr (Or.inl ⟨trivial, rfl⟩)

/-! ## The keys of a ledger -/

/-- The keys of the ratings, in order. -/
def keys (l : Ledger) : List (String × String) := l.ratings.map Rating.key

/-- What is held under a key. -/
def held (l : Ledger) (k : String × String) : Option Rating := l.find? k.1 k.2

theorem isFor_iff_key {username isbn : String} {r : Rating} :
    r.isFor username isbn ↔ r.key = (username, isbn) := by
  rw [Rating.isFor_iff, Rating.key, Prod.mk.injEq]

theorem key_of_held {l : Ledger} {k : String × String} {r : Rating} (hr : l.held k = some r) :
    r.key = k :=
  isFor_iff_key.1 (List.find?_some hr)

/-- A key is in use exactly if a rating is held under it. -/
theorem mem_keys_iff {l : Ledger} {k : String × String} :
    k ∈ l.keys ↔ ∃ r, l.held k = some r := by
  rw [← Option.isSome_iff_exists, held, find?, List.find?_isSome, keys, List.mem_map]
  simp only [isFor_iff_key]

/-- A rating is listed exactly if it is held under its key. -/
theorem mem_ratings_iff {l : Ledger} (hl : l.keys.Nodup) {r : Rating} :
    r ∈ l.ratings ↔ l.held r.key = some r := by
  constructor
  · intro hr
    obtain ⟨s, hs⟩ := mem_keys_iff.1 (List.mem_map_of_mem hr : r.key ∈ l.keys)
    rw [hs, List.inj_on_of_nodup_map hl (List.mem_of_find?_eq_some hs) hr (key_of_held hs)]
  · exact List.mem_of_find?_eq_some

/-- A rating that is put is held under its key, and the others stay. -/
theorem held_put (l : Ledger) (r : Rating) (k : String × String) :
    (l.put r).held k = if r.key = k then some r else l.held k := by
  simp only [held, find?_put, isFor_iff_key]

/-- To put a rating adds its key at the end if it is new. -/
theorem keys_put (l : Ledger) (r : Rating) :
    (l.put r).keys = if r.key ∈ l.keys then l.keys else l.keys ++ [r.key] := by
  obtain ⟨ratings⟩ := l
  change (putIn r ratings).map Rating.key =
    if r.key ∈ ratings.map Rating.key then ratings.map Rating.key
    else ratings.map Rating.key ++ [r.key]
  induction ratings with
  | nil => simp [putIn]
  | cons s rest ih =>
    rw [putIn]
    by_cases hs : s.isFor r.username r.isbn
    · have hkey : s.key = r.key := isFor_iff_key.1 hs
      simp [hs, hkey]
    · have hkey : r.key ≠ s.key := fun h => hs (isFor_iff_key.2 h.symm)
      rw [if_neg hs, List.map_cons, ih]
      simp only [List.map_cons, List.mem_cons, hkey, false_or]
      split
      · rfl
      · rfl

/-- Nothing is held under a key that was erased, and the others stay. -/
theorem held_erase (l : Ledger) (j k : String × String) :
    (l.erase j.1 j.2).held k = if j = k then none else l.held k := by
  simp only [held, find?_erase, Prod.ext_iff]

theorem keys_erase_sublist (l : Ledger) (username isbn : String) :
    (l.erase username isbn).keys.Sublist l.keys :=
  List.filter_sublist.map _

/-! ## What a ledger holds -/

/-- The ledger holds, under each key, the rating that was kept last and was not deleted since, in
the order in which the keys arrived. -/
structure Tracks (l : Ledger) (h : List Change) : Prop where
  held_iff : ∀ k r, l.held k = some r ↔ ∃ c, (Change.live k).Holds h c ∧ c.Keeps r
  ordered : Slot.InOrder Change.live h l.keys

variable {l : Ledger} {h : List Change} {k : String × String}

/-- An empty ledger tracks the empty history. -/
theorem tracks_empty : empty.Tracks [] where
  held_iff := by simp [empty, held, find?]
  ordered := Slot.inOrder_nil ..

/-- The keys in use are those that are live. -/
theorem Tracks.mem_keys_iff (hl : l.Tracks h) : k ∈ l.keys ↔ ∃ c, (Change.live k).Holds h c := by
  rw [Ledger.mem_keys_iff]
  constructor
  · rintro ⟨r, hr⟩
    obtain ⟨c, hc, -⟩ := (hl.held_iff k r).1 hr
    exact ⟨c, hc⟩
  · rintro ⟨c, hc⟩
    obtain ⟨-, r, hr⟩ := Slot.fills_of_holds hc
    exact ⟨r, (hl.held_iff k r).2 ⟨c, hc, hr⟩⟩

/-- A rating that is kept makes its key live. -/
theorem Tracks.put (hl : l.Tracks h) {c : Change} {r : Rating} (hc : c.Keeps r) :
    (l.put r).Tracks (h ++ [c]) where
  held_iff k s := by
    have hfills : (Change.live k).Fills c ↔ r.key = k := by
      rw [hc.key_eq]
      exact and_iff_left ⟨r, hc⟩
    have hempties : ¬(Change.live k).Empties c := fun he => hc.not_isDeletion he.2
    simp only [held_put, Slot.holds_concat, hfills, hempties]
    split
    · next hk =>
      rw [Option.some.injEq]
      constructor
      · rintro rfl
        exact ⟨c, Or.inl ⟨rfl, hk⟩, hc⟩
      · rintro ⟨d, ⟨rfl, -⟩ | ⟨-, hother, -⟩, hd⟩
        · exact hc.unique hd
        · exact absurd hk hother
    · next hk => simp [hk, hl.held_iff]
  ordered := by
    rw [keys_put]
    refine hl.ordered.of_fills (fun k => ?_) ⟨hc.key_eq.symm, r, hc⟩
      (fun he => hc.not_isDeletion he.2) fun k hk => ?_
    · rw [← Slot.exists_holds_iff]
      exact hl.mem_keys_iff
    · exact ⟨fun hf => hk (hf.1.symm.trans hc.key_eq.symm),
        fun he => hk (he.1.symm.trans hc.key_eq.symm)⟩

/-- A deletion leaves its key without a rating. -/
theorem Tracks.erase (hl : l.Tracks h) {c : Change} (hc : c.IsDeletion) :
    (l.erase c.key.1 c.key.2).Tracks (h ++ [c]) where
  held_iff k r := by
    have hfills : ¬(Change.live k).Fills c := fun ⟨_, _, hs⟩ => hs.not_isDeletion hc
    have hempties : (Change.live k).Empties c ↔ c.key = k := and_iff_left hc
    simp only [held_erase, Slot.holds_concat, hfills, hempties]
    by_cases hk : c.key = k
    · simp [hk]
    · simp [hk, hl.held_iff]
  ordered := by
    refine hl.ordered.of_ignores (keys_erase_sublist ..) fun k hk => ⟨?_, ?_⟩
    · exact fun ⟨_, _, hs⟩ => hs.not_isDeletion hc
    · rintro ⟨rfl, -⟩
      obtain ⟨r, hr⟩ := Ledger.mem_keys_iff.1 hk
      rw [held_erase, if_pos rfl] at hr
      cases hr

/-- A change that is refused leaves everything as it is. -/
theorem Tracks.refuse (hl : l.Tracks h) {c : Change} (hkeeps : ∀ r, ¬c.Keeps r)
    (hdeletion : ¬c.IsDeletion) : l.Tracks (h ++ [c]) := by
  have hignores : ∀ k, ¬(Change.live k).Fills c ∧ ¬(Change.live k).Empties c := fun _ =>
    ⟨fun ⟨_, s, hs⟩ => hkeeps s hs, fun he => hdeletion he.2⟩
  constructor
  case held_iff =>
    intro k r
    simp only [Slot.holds_concat, hignores, hl.held_iff]
    simp
  case ordered => exact hl.ordered.of_ignores (List.Sublist.refl _) fun k _ => hignores k

/-- One change keeps what a ledger holds and what was asked of it together. -/
theorem Tracks.change (hl : l.Tracks h) (c : Change) : (l.change c).Tracks (h ++ [c]) := by
  rcases change_cases l c with ⟨kept, hkept, heq⟩ | ⟨hdeletion, heq⟩ | ⟨hkeeps, hdeletion, heq⟩
  · rw [heq]
    exact hl.put hkept
  · rw [heq]
    exact hl.erase hdeletion
  · rw [heq]
    exact hl.refuse hkeeps hdeletion

/-- A ledger tracks the changes that were made to it. -/
theorem tracks_after (changes : List Change) : (after changes).Tracks changes := by
  induction changes using List.reverseRecOn with
  | nil => exact tracks_empty
  | append_singleton changes c ih =>
    rw [after_concat]
    exact ih.change c

/-! ## The answers of a ledger -/

/-- A ledger answers as the finite map that its history makes. -/
structure Answers (l : Ledger) (h : List Change) : Prop where
  /-- A rating that is made of a draft has the key of the names in the draft, in any spelling. -/
  spelling : ∀ (d : Draft) r username isbn, d.rating = .ok r → d.username = .text username →
    d.isbn = .text isbn → keyOf r.username r.isbn = keyOf username isbn
  /-- There is one rating for each key. -/
  single : l.keys.Nodup
  /-- Under a key is found what was kept last and was not deleted since. -/
  get : ∀ username isbn, ∃ found,
    (store.get (.text username) (.text isbn)).run l = (.ok found, l) ∧
      ∀ r, found = some r ↔ ∃ c, (Change.live (keyOf username isbn)).Holds h c ∧ c.Keeps r
  /-- A submission without a flaw is kept, and what is kept is the answer. -/
  submit : ∀ r time, r.flaw? = none → ∃ kept, (Change.submit r time).Keeps kept ∧
    (store.submit (pure time) r).run l = (.ok kept, l.change (.submit r time))
  /-- One with a flaw is refused and changes nothing. -/
  refuse : ∀ r time flaw, r.flaw? = some flaw →
    (store.submit (pure time) r).run l = (.fail (.invalidRating flaw), l)
  /-- A deletion tells whether there was a rating; afterwards there is none. -/
  delete : ∀ username isbn, ∃ present,
    (store.remove (.text username) (.text isbn)).run l =
        (.ok present, l.change (.delete username isbn)) ∧
      (present = true ↔ ∃ c, (Change.live (keyOf username isbn)).Holds h c) ∧
      (l.change (.delete username isbn)).held (keyOf username isbn) = none
  /-- A change is about one key only. -/
  others : ∀ (c : Change) k, c.key ≠ k → (l.change c).held k = l.held k
  all : store.allRatings.run l = (.ok l.ratings, l)
  mem_all : ∀ r, r ∈ l.ratings ↔ ∃ c, (Change.live r.key).Holds h c ∧ c.Keeps r
  /-- The ratings come in the order in which their keys arrived; a rating that takes the place of
  another one does not arrive again. -/
  ordered : Slot.InOrder Change.live h (l.ratings.map Rating.key)
  /-- There are as many ratings as keys under which something is held. -/
  size : l.size = {k | ∃ c, (Change.live k).Holds h c}.ncard

theorem held_change_of_ne {c : Change} (hk : c.key ≠ k) : (l.change c).held k = l.held k := by
  rcases change_cases l c with ⟨kept, hkept, heq⟩ | ⟨-, heq⟩ | ⟨-, -, heq⟩
  · rw [heq, held_put, hkept.key_eq, if_neg hk]
  · rw [heq, held_erase, if_neg hk]
  · rw [heq]

/-- There are as many ratings as keys that are live. -/
theorem Tracks.size_eq (hl : l.Tracks h) :
    l.size = {k | ∃ c, (Change.live k).Holds h c}.ncard := by
  have hkeys : {k | ∃ c, (Change.live k).Holds h c} = (l.keys.toFinset : Set _) := by
    ext k
    simp [hl.mem_keys_iff]
  rw [hkeys, Set.ncard_coe_finset, List.toFinset_card_of_nodup hl.ordered.nodup, keys,
    List.length_map, Ledger.size]

/-- A ledger that tracks a history answers from it. -/
theorem Tracks.answers (hl : l.Tracks h) : l.Answers h where
  spelling _ _ _ _ := keyOf_of_rating
  single := hl.ordered.nodup
  get username isbn := ⟨_, run_get l username isbn, hl.held_iff (keyOf username isbn)⟩
  submit r time hr := by
    obtain ⟨kept, hkept, hrun⟩ := exists_run_submit l hr time
    exact ⟨kept, hkept, by rw [Ledger.change, hrun]⟩
  refuse r time _ hr := run_submit_of_flaw l hr (pure time)
  delete username isbn := by
    have hgone := held_erase l (keyOf username isbn) (keyOf username isbn)
    refine ⟨_, run_remove l username isbn, ?_, hgone.trans (if_pos rfl)⟩
    rw [← hl.mem_keys_iff, Ledger.mem_keys_iff]
    exact Option.isSome_iff_exists
  others _ _ := held_change_of_ne
  all := rfl
  mem_all r := (mem_ratings_iff hl.ordered.nodup).trans (hl.held_iff r.key r)
  ordered := hl.ordered
  size := hl.size_eq

/-- After any submissions and deletions, in any spelling, a ledger is the finite map of its
history. -/
theorem answers_after (changes : List Change) : (after changes).Answers changes :=
  (tracks_after changes).answers

/-- A rating that comes again keeps its place; one that was deleted has lost it. -/
example :
    let rating (username isbn : String) : Rating :=
      ⟨username, isbn, Scores.ofFn fun _ => .int 4, none, .null, none⟩
    (after [.submit (rating "Ann" "1") .earliest, .submit (rating "Bob" "1") .earliest,
      .submit (rating " ANN " "1 ") .earliest]).keys = [("ann", "1"), ("bob", "1")] ∧
    (after [.submit (rating "Ann" "1") .earliest, .submit (rating "Bob" "1") .earliest,
      .delete "ANN" "1", .submit (rating "ann" "1") .earliest]).keys =
        [("bob", "1"), ("ann", "1")] := by
  decide +kernel

end Ledger

end Bookfinder
