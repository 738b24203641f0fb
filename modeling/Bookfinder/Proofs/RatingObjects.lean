import Bookfinder.Proofs.Acceptance
import Bookfinder.Proofs.LiveRatings

/-!
# Ratings as objects

Callers hold the ratings that they submit, and a store that wrote to one of these objects would
change what they hold. A ledger cannot tell, since it knows values only. `Objects` has every rating
that was made at a place of its own, and what is kept is a list of places: to keep a rating is to
make another object and to note its place (`Objects.keep`). Seen as a ledger (`Objects.ledger`) this
is the store that a ledger makes (`Objects.simulates_submitAt`).

A submission that is refused leaves no trace. One that is kept gives one key a new object, and all
objects that were there are as they were (`Objects.submit_all_or_nothing`), also if the one that was
submitted is itself kept in the store. A deletion takes one key away and changes no object
(`Objects.remove_one_key`).
-/

namespace Bookfinder

/-! ## Lists with keys -/

section Keyed

variable {ι κ : Type} [DecidableEq κ] (key : ι → κ)

/-- A list with a new entry in place of the first one with its key, or at the end. -/
def putAt (new : ι) : List ι → List ι
  | [] => [new]
  | i :: rest => if key i = key new then new :: rest else i :: putAt new rest

/-- What is put is found under its key, and the others stay. -/
theorem find?_putAt (new : ι) (is : List ι) (k : κ) :
    (putAt key new is).find? (key · = k) =
      if key new = k then some new else is.find? (key · = k) := by
  induction is with
  | nil => by_cases hnew : key new = k <;> simp [putAt, hnew]
  | cons i is ih =>
    rw [putAt]
    split
    · next hi => by_cases hnew : key new = k <;> simp [hi, hnew]
    · next hi =>
      rw [List.find?_cons, List.find?_cons, ih]
      by_cases hk : key i = k
      · have hnew : key new ≠ k := fun hnew => hi (hk.trans hnew.symm)
        simp [hk, hnew]
      · simp [hk]

end Keyed

/-- Objects are put where their ratings are. -/
theorem Ledger.map_putAt {ι : Type} (rating : ι → Rating) (new : ι) (is : List ι) :
    (putAt (fun i => (rating i).key) new is).map rating =
      putIn (rating new) (is.map rating) := by
  induction is with
  | nil => rfl
  | cons i is ih =>
    rw [putAt, List.map_cons, putIn]
    by_cases hi : (rating i).key = (rating new).key
    · rw [if_pos hi, if_pos (isFor_iff_key.2 hi), List.map_cons]
    · rw [if_neg hi, if_neg (mt isFor_iff_key.1 hi), List.map_cons, ih]

/-! ## Objects -/

/-- Ratings as objects, each at its place in the order in which they were made, and the places of
those that are kept. -/
structure Objects where
  made : List Rating
  kept : List (Fin made.length)

namespace Objects

open Bookfinder.Action

/-- What is kept, as values. -/
def ledger (o : Objects) : Ledger := ⟨o.kept.map fun p => o.made[p]⟩

/-- The place of the object under a key. -/
def place (o : Objects) (k : String × String) : Option ℕ :=
  (o.kept.find? fun p => o.made[p].key = k).map Fin.val

/-- One more object, which is kept in place of the one with its key, or at the end. -/
def keep (o : Objects) (r : Rating) : Objects where
  made := o.made ++ [r]
  kept := putAt (fun p => (o.made ++ [r])[p].key) ⟨o.made.length, by simp⟩
    (o.kept.map (Fin.castLE (by simp)))

/-- The object under a key is not kept any longer. -/
def drop (o : Objects) (k : String × String) : Objects :=
  { o with kept := o.kept.filter fun p => o.made[p].key ≠ k }

/-- A store of objects, which reads as the ledger that it keeps. -/
def store : RatingStore Objects :=
  { Ledger.store.onPart ledger fun _ o => o with
    save := fun r => do
      let stored ← r.draft.rating
      Action.update fun o => (stored, o.keep stored)
    remove := fun username isbn => do
      let k ← Ledger.key username isbn
      Action.update fun o => ((o.place k).isSome, o.drop k) }

variable (o : Objects) (r : Rating)

/-! ### What changes -/

theorem getElem_keep_old (p : Fin o.made.length) :
    (o.made ++ [r])[(p.castLE (by simp) : Fin (o.made ++ [r]).length)] = o.made[p] :=
  List.getElem_append_left p.isLt

/-- An object that is kept puts its rating into the ledger. -/
theorem ledger_keep : (o.keep r).ledger = o.ledger.put r := by
  have hold : (o.kept.map (Fin.castLE (by simp))).map
      (fun p : Fin (o.made ++ [r]).length => (o.made ++ [r])[p]) =
        o.kept.map fun p => o.made[p] := by
    rw [List.map_map]
    exact List.map_congr_left fun p _ => o.getElem_keep_old r p
  have hput := Ledger.map_putAt (fun p : Fin (o.made ++ [r]).length => (o.made ++ [r])[p])
    ⟨o.made.length, by simp⟩ (o.kept.map (Fin.castLE (by simp)))
  rw [hold] at hput
  rw [ledger, keep, Ledger.put, ledger, hput]
  simp

/-- It is found under its key, and the other objects stay where they are. -/
theorem place_keep (k : String × String) :
    (o.keep r).place k = if r.key = k then some o.made.length else o.place k := by
  have hold : (o.kept.map (Fin.castLE (by simp))).find?
      (fun p : Fin (o.made ++ [r]).length => (o.made ++ [r])[p].key = k) =
        (o.kept.find? fun p => o.made[p].key = k).map (Fin.castLE (by simp)) := by
    rw [List.find?_map]
    simp only [Function.comp_def, getElem_keep_old]
  rw [place, keep, find?_putAt, hold]
  by_cases hk : r.key = k
  · simp [hk]
  · simp [hk, place, Function.comp_def]

/-- Objects that were made stay as they are. -/
theorem getElem?_keep (p : Fin o.made.length) : (o.keep r).made[p.val]? = some o.made[p] := by
  simp [keep]

theorem place_lt {k : String × String} {n : ℕ} (h : o.place k = some n) : n < o.made.length := by
  obtain ⟨p, -, rfl⟩ := Option.map_eq_some_iff.1 h
  exact p.isLt

theorem ledger_drop (k : String × String) : (o.drop k).ledger = o.ledger.erase k.1 k.2 := by
  have hsame (p : Fin o.made.length) :
      decide (o.made[p].key ≠ k) = !(o.made[p].isFor k.1 k.2) := by
    rw [Bool.eq_iff_iff, decide_eq_true_eq, Bool.not_eq_true', ← Bool.not_eq_true,
      Ledger.isFor_iff_key]
  simp only [ledger, drop, Ledger.erase, List.filter_map, Function.comp_def, hsame]

/-- Nothing is found under a key that was dropped, and the other objects stay where they are. -/
theorem place_drop (k k' : String × String) :
    (o.drop k).place k' = if k' = k then none else o.place k' := by
  have hfind : (o.kept.filter fun p => decide (o.made[p].key ≠ k)).find?
      (fun p => o.made[p].key = k') =
        if k' = k then none else o.kept.find? fun p => o.made[p].key = k' := by
    rw [List.find?_filter]
    by_cases hk : k' = k
    · subst hk
      simp
    · rw [if_neg hk]
      congr 1
      funext p
      rw [Bool.eq_iff_iff]
      simp only [decide_eq_true_eq]
      exact and_iff_right_of_imp fun hk' hsame => hk (hk'.symm.trans hsame)
  rw [place, drop, hfind]
  by_cases hk : k' = k
  · simp [hk]
  · simp [hk, place]

/-- An object is found exactly if the ledger has a rating under the key. -/
theorem isSome_place (k : String × String) :
    (o.place k).isSome = (o.ledger.find? k.1 k.2).isSome := by
  rw [Bool.eq_iff_iff, place, Ledger.find?, ledger]
  simp only [Option.isSome_map, List.find?_isSome, List.mem_map, decide_eq_true_eq,
    Ledger.isFor_iff_key]
  constructor
  · rintro ⟨p, hp, hk⟩
    exact ⟨_, ⟨p, hp, rfl⟩, hk⟩
  · rintro ⟨_, ⟨p, hp, rfl⟩, hk⟩
    exact ⟨p, hp, hk⟩

/-! ### Objects as a ledger -/

theorem simulates_get (username isbn : String) :
    Simulates ledger (store.get (.text username) (.text isbn))
      (Ledger.store.get (.text username) (.text isbn)) := fun _ => rfl

/-- Objects are saved as ratings are. -/
theorem simulates_save (r : Rating) :
    Simulates ledger (store.save r) (Ledger.store.save r) := by
  refine (Simulates.lift (.ofExcept r.draft.rating)).bind fun stored o => ?_
  rw [run_update, run_update, ledger_keep]

/-- Objects are removed as ratings are. -/
theorem simulates_remove (username isbn : Payload) :
    Simulates ledger (store.remove username isbn) (Ledger.store.remove username isbn) := by
  refine (Simulates.lift (.ofExcept (Ledger.key username isbn))).bind fun k o => ?_
  rw [run_update, run_update, ledger_drop, isSome_place]

/-- A deletion takes the object under one key out of what is kept, and tells whether there was one.
All objects stay as they are, and so does what is kept under the other keys. A ledger does the same
with the values. -/
theorem remove_one_key (username isbn : Payload) :
    let run := (store.remove username isbn).run o
    run.2.made = o.made ∧
    (∀ k, Ledger.key username isbn = .ok k → run.1.result = .ok (o.place k).isSome ∧
      ∀ k', run.2.place k' = if k' = k then none else o.place k') ∧
    (∀ e, Ledger.key username isbn = .error e → run = (.fail e, o)) ∧
    (Ledger.store.remove username isbn).run o.ledger = (run.1, run.2.ledger) := by
  intro run
  have hrun : run = match Ledger.key username isbn with
      | .ok k => (.ok (o.place k).isSome, o.drop k)
      | .error e => (.fail e, o) := by
    simp only [run, store, Action.run_bind]
    cases Ledger.key username isbn <;> rfl
  refine ⟨?_, fun k hk => ?_, fun e he => ?_, simulates_remove username isbn o⟩
  · rw [hrun]
    split <;> rfl
  · rw [hrun, hk]
    exact ⟨rfl, o.place_drop k⟩
  · rw [hrun, he]

variable {τ : Type} (tick : τ → Timestamp × τ)

/-- Seen as a ledger, objects take a submission as the ledger does. -/
theorem simulates_submitAt :
    Simulates (Prod.map ledger id) (store.submitAt tick r) (Ledger.store.submitAt tick r) := by
  rintro ⟨o, clock⟩
  rw [Prod.map_apply, id]
  cases hr : r.flaw? with
  | some flaw =>
    rw [RatingStore.run_submitAt_of_flaw _ _ _ _ hr, RatingStore.run_submitAt_of_flaw _ _ _ _ hr]
    rfl
  | none =>
    obtain ⟨_, -, haverage⟩ := Rating.averageOf_of_flawless hr
    have hreplace (kept : Rating) :
        Simulates ledger (store.replace kept) (Ledger.store.replace kept) :=
      (simulates_get _ _).bind fun _ => simulates_save kept
    rw [RatingStore.run_submitAt _ _ _ _ hr haverage, RatingStore.run_submitAt _ _ _ _ hr haverage,
      hreplace]
    rfl

/-! ## Submissions of objects -/

/-- A rating was kept: as a new object under its key, in place of another one or not, while the
objects that were there and all that is kept under other keys are as before. -/
structure Stores (o : Objects) (r kept : Rating) (after : Objects) : Prop where
  key : {k | after.place k ≠ o.place k} = {r.key}
  held : after.ledger.held r.key = some kept
  others : ∀ k, k ≠ r.key → after.ledger.held k = o.ledger.held k
  objects : ∀ p : Fin o.made.length, after.made[p.val]? = some o.made[p]

variable {r} in
/-- An object that is kept is stored under its key, and nothing else changes. -/
theorem stores_keep {kept : Rating} (hkey : kept.key = r.key) : o.Stores r kept (o.keep kept) where
  key := by
    ext k
    rw [Set.mem_ofPred_eq, place_keep, hkey, Set.mem_singleton_iff]
    by_cases hk : r.key = k
    · have hnew : some o.made.length ≠ o.place k := fun h => (o.place_lt h.symm).false
      simp [hk, hnew]
    · simp [hk, Ne.symm hk]
  held := by rw [ledger_keep, Ledger.held_put, if_pos hkey]
  others k hk := by rw [ledger_keep, Ledger.held_put, hkey, if_neg (Ne.symm hk)]
  objects := o.getElem?_keep kept

theorem run_replace_stamped (average : Float) (time : Timestamp) :
    (store.replace (r.stamped average time)).run o =
      (.ok (r.stamped average time), o.keep (r.stamped average time)) := by
  have hsave : store.save (r.stamped average time) =
      Action.update fun o => (r.stamped average time, o.keep (r.stamped average time)) := by
    simp only [store, Rating.rating_draft_stamped]
    rfl
  rw [RatingStore.replace, hsave]
  rfl

/-- A submission is refused for its first flaw, or it is kept. -/
theorem run_submitAt_cases (clock : τ) :
    (∃ flaw, r.flaw? = some flaw ∧
      (store.submitAt tick r).run (o, clock) = (.fail (.invalidRating flaw), (o, clock))) ∨
    (r.flaw? = none ∧ ∃ average, (store.submitAt tick r).run (o, clock) =
      (.ok (r.stamped average (tick clock).1),
        (o.keep (r.stamped average (tick clock).1), (tick clock).2))) := by
  cases hr : r.flaw? with
  | some flaw => exact Or.inl ⟨flaw, rfl, RatingStore.run_submitAt_of_flaw _ _ _ _ hr⟩
  | none =>
    obtain ⟨_, -, haverage⟩ := Rating.averageOf_of_flawless hr
    have hrun := RatingStore.run_submitAt store tick o clock hr haverage
    rw [run_replace_stamped] at hrun
    exact Or.inr ⟨rfl, _, hrun⟩

/-- An object that was made of some fields is accepted just if both names are more than blanks and
each score is one. Otherwise it is refused for its first flaw, and neither the store nor the clock
has changed. If it is accepted, the clock is read once, the store has a new object under one key,
and the submitted one is as it was. A ledger does the same with the values. -/
theorem submit_all_or_nothing (clock : τ) (p : Fin o.made.length) {d : Draft}
    (hd : d.rating = .ok o.made[p]) :
    let r := o.made[p]
    let run := (store.submitAt tick r).run (o, clock)
    (∃ username isbn, Draft.name d.username = .ok username ∧ Draft.name d.isbn = .ok isbn ∧
      ((∃ kept, run.1.result = .ok kept) ↔ normalUsername username ≠ "" ∧ Text.trim isbn ≠ "" ∧
        ∀ c, Rating.IsScore (d.scores.get c))) ∧
    (∀ e, run.1.result = .error e →
      (∃ flaw, e = .invalidRating flaw ∧ r.HasFirst flaw) ∧ run.2 = (o, clock)) ∧
    (∀ kept, run.1.result = .ok kept →
      o.Stores r kept run.2.1 ∧ run.2.1.made[p.val]? = some r ∧ run.2.2 = (tick clock).2) ∧
    (Ledger.store.submitAt tick r).run (o.ledger, clock) = (run.1, (run.2.1.ledger, run.2.2)) := by
  intro r run
  obtain ⟨username, isbn, hu, hi, hnone⟩ := Rating.flaw?_of_rating hd
  have hledger : (Ledger.store.submitAt tick r).run (o.ledger, clock) =
      (run.1, (run.2.1.ledger, run.2.2)) := simulates_submitAt r tick (o, clock)
  rcases run_submitAt_cases o r tick clock with ⟨flaw, hr, hrun⟩ | ⟨hr, average, hrun⟩
  · change run = _ at hrun
    rw [hrun] at hledger ⊢
    refine ⟨⟨username, isbn, hu, hi, ?_⟩, fun e he => ?_, nofun, hledger⟩
    · rw [← hnone, hr]
      exact iff_of_false nofun nofun
    · exact ⟨⟨flaw, (Except.error.inj he).symm, Rating.flaw?_eq_some_iff.1 hr⟩, rfl⟩
  · change run = _ at hrun
    rw [hrun] at hledger ⊢
    refine ⟨⟨username, isbn, hu, hi, ?_⟩, nofun, fun kept hkept => ?_, hledger⟩
    · rw [← hnone]
      exact iff_of_true ⟨_, rfl⟩ hr
    · obtain rfl := Except.ok.inj hkept
      have hstores := o.stores_keep (Rating.key_stamped hd average (tick clock).1)
      exact ⟨hstores, hstores.objects p, rfl⟩

/-- One rating, which is kept, with an average and a time that it did not get from the store. -/
def shared : Objects :=
  ⟨[⟨"ann", "1", Scores.ofFn fun _ => .int 4, none, .int 1, some .earliest⟩], [⟨0, by decide⟩]⟩

/-- Where it is. -/
def sharedPlace : Fin shared.made.length := ⟨0, by decide⟩

/-- A clock that counts how often it was read. -/
def counting (n : ℕ) : Timestamp × ℕ := (⟨n, none⟩, n + 1)

/-- The object that is kept is submitted again. -/
theorem submit_all_or_nothing_shared :
    shared.made[sharedPlace].draft.rating = .ok shared.made[sharedPlace] ∧
    ∃ kept, ((store.submitAt counting shared.made[sharedPlace]).run (shared, 5)).1.result =
        .ok kept ∧
      shared.Stores shared.made[sharedPlace] kept
        ((store.submitAt counting shared.made[sharedPlace]).run (shared, 5)).2.1 ∧
      ((store.submitAt counting shared.made[sharedPlace]).run (shared, 5)).2.1.made[0]? =
        some shared.made[sharedPlace] ∧
      ((store.submitAt counting shared.made[sharedPlace]).run (shared, 5)).2.2 = 6 := by
  have hd : shared.made[sharedPlace].draft.rating = .ok shared.made[sharedPlace] := by decide
  obtain ⟨⟨username, isbn, hu, hi, haccepts⟩, -, hstores, -⟩ :=
    submit_all_or_nothing shared counting 5 sharedPlace hd
  obtain rfl : "ann" = username := Except.ok.inj hu
  obtain rfl : "1" = isbn := Except.ok.inj hi
  have hscores : ∀ c, Rating.IsScore (shared.made[sharedPlace].draft.scores.get c) :=
    fun c => by cases c <;> decide
  obtain ⟨kept, hkept⟩ := haccepts.2 ⟨by decide, by decide, hscores⟩
  exact ⟨hd, kept, hkept, hstores kept hkept⟩

end Objects

end Bookfinder
