import Bookfinder.Navigation
import Bookfinder.Proofs.Slot

/-!
# What the sections show

Loads begin, lists are put with a token or without one, and now and then all of it is forgotten.
`Diary` keeps a navigation together with what happened, the oldest first: which token a load was
given, and which lists were taken. From this history alone two slots of each section are told. It is
loading by the last token that it was given, and it shows the last list that it took, in both cases
only if nothing was forgotten since (`Event.loading`, `Event.showing`).

`Diary.Faithful` says that the navigation knows of its history just this, and every command keeps it
(`Faithful.step`). So tokens only grow, a list with a token is taken exactly if the section is
loading by it, and the sections that show something are looked through in a fixed order
(`Diary.sections_run`).
-/

namespace Bookfinder

namespace Navigation

/-- What may be asked of a navigation. -/
inductive Command where
  | begin (name : String)
  | put (name : String) (books : List Book) (token : Option Token)
  | clear

/-- What happened to a navigation. -/
inductive Event where
  | began (name : String) (token : Token)
  /-- A list came for a section; `stored` tells whether it was taken. -/
  | wrote (name : String) (books : List Book) (stored : Bool)
  | cleared
deriving DecidableEq

namespace Event

/-- The token that a load was given. -/
def token? : Event → Option Token
  | .began _ token => some token
  | _ => none

/-- The load of a section that may write: the last one that began. -/
def loading (name : String) : Slot Event where
  Fills e := ∃ token, e = .began name token
  Empties e := e = .cleared

/-- The list of a section: the last one that was taken. -/
def showing (name : String) : Slot Event where
  Fills e := ∃ books, e = .wrote name books true
  Empties e := e = .cleared

variable {name : String} {e : Event}

@[simp] theorem fills_loading : (loading name).Fills e ↔ ∃ token, e = .began name token := Iff.rfl

@[simp] theorem empties_loading : (loading name).Empties e ↔ e = .cleared := Iff.rfl

@[simp] theorem fills_showing : (showing name).Fills e ↔ ∃ books, e = .wrote name books true :=
  Iff.rfl

@[simp] theorem empties_showing : (showing name).Empties e ↔ e = .cleared := Iff.rfl

end Event

/-- The tokens that were given, in order. -/
def tokens (h : List Event) : List Token := h.filterMap Event.token?

/-- A section is looked through before another: those of priority in their order, and after them
the others as they arrived. -/
def Precedes (h : List Event) (a b : String) : Prop :=
  if a ∈ Section.priority then
    b ∈ Section.priority → Section.priority.idxOf a < Section.priority.idxOf b
  else b ∉ Section.priority ∧ (Event.showing a).arrival h < (Event.showing b).arrival h

/-- A navigation with its history. -/
structure Diary where
  navigation : Navigation
  /-- What happened, the oldest first. -/
  history : List Event

namespace Diary

/-- Nothing has happened yet. -/
def start : Diary := ⟨.empty, []⟩

/-- One command. -/
def step (d : Diary) : Command → Diary
  | .begin name =>
    ⟨(d.navigation.begin name).2, d.history ++ [.began name (d.navigation.begin name).1]⟩
  | .put name books token =>
    ⟨(d.navigation.put name books token).2,
      d.history ++ [.wrote name books (d.navigation.put name books token).1]⟩
  | .clear => ⟨d.navigation.clear, d.history ++ [.cleared]⟩

/-- Commands one after the other. -/
def run (commands : List Command) : Diary := commands.foldl step start

/-! ## What a navigation knows of its history -/

/-- The navigation knows of each section what the history tells. -/
structure Faithful (d : Diary) : Prop where
  token_le : ∀ token ∈ tokens d.history, token ≤ d.navigation.issued
  tokens_sorted : (tokens d.history).Pairwise (· < ·)
  latest_iff : ∀ name token, d.navigation.latest.find? name = some token ↔
    (Event.loading name).Holds d.history (.began name token)
  shown_iff : ∀ name books, d.navigation.snapshots.find? name = some books ↔
    (Event.showing name).Holds d.history (.wrote name books true)
  ordered : Slot.InOrder Event.showing d.history d.navigation.snapshots.names

/-- What is shown in a section was written there. -/
theorem holds_showing {h : List Event} {name : String} {e : Event}
    (he : (Event.showing name).Holds h e) : ∃ books, e = .wrote name books true :=
  Slot.fills_of_holds he

variable {d : Diary}

/-- The sections that show something are those that took a list. -/
theorem Faithful.mem_names_iff (hd : d.Faithful) (name : String) :
    name ∈ d.navigation.snapshots.names ↔ ∃ e, (Event.showing name).Holds d.history e := by
  rw [← Association.find?_isSome_iff, Option.isSome_iff_exists]
  constructor
  · rintro ⟨books, hbooks⟩
    exact ⟨_, (hd.shown_iff name books).1 hbooks⟩
  · rintro ⟨e, he⟩
    obtain ⟨books, rfl⟩ := holds_showing he
    exact ⟨books, (hd.shown_iff name books).2 he⟩

/-- The start is faithful. -/
theorem faithful_start : start.Faithful where
  token_le := by simp [start, tokens]
  tokens_sorted := by simp [start, tokens]
  latest_iff := by simp [start, Navigation.empty, Association.find?]
  shown_iff := by simp [start, Navigation.empty, Association.find?]
  ordered := by simp [start, Navigation.empty, Association.names]

/-! ### One more event -/

theorem tokens_concat (h : List Event) (e : Event) :
    tokens (h ++ [e]) = tokens h ++ e.token?.toList := by
  cases e <;> simp [tokens, Event.token?]

/-- A load that begins takes the place of the one before it. -/
theorem holds_loading_began {h : List Event} {name other : String} {given token : Token} :
    (Event.loading other).Holds (h ++ [.began name given]) (.began other token) ↔
      if name = other then given = token else (Event.loading other).Holds h (.began other token) := by
  rw [Slot.holds_concat]
  split
  · next hname =>
    subst hname
    simp [eq_comm]
  · next hname => simp [Ne.symm hname, hname]

/-- A list does not change by which token a section is loading. -/
theorem holds_loading_wrote {h : List Event} {name other : String} {books : List Book}
    {stored : Bool} {e : Event} :
    (Event.loading other).Holds (h ++ [.wrote name books stored]) e ↔
      (Event.loading other).Holds h e := by
  simp [Slot.holds_concat]

/-- A list that is taken is the one that the section shows. -/
theorem holds_showing_wrote {h : List Event} {name other : String} {books shown : List Book}
    {stored : Bool} :
    (Event.showing other).Holds (h ++ [.wrote name books stored]) (.wrote other shown true) ↔
      if stored ∧ name = other then books = shown
      else (Event.showing other).Holds h (.wrote other shown true) := by
  rw [Slot.holds_concat]
  split
  · next hname =>
    obtain ⟨rfl, rfl⟩ := hname
    simp [eq_comm]
  · next hname =>
    have hfills : ¬(Event.showing other).Fills (.wrote name books stored) := by
      rintro ⟨_, he⟩
      obtain ⟨rfl, -, rfl⟩ := Event.wrote.inj he
      exact hname ⟨rfl, rfl⟩
    have hother : Event.wrote other shown true ≠ .wrote name books stored := fun he =>
      hfills (he ▸ ⟨shown, rfl⟩)
    simp only [hother, hfills, false_and, false_or, not_false_eq_true, Event.empties_showing,
      reduceCtorEq, and_true]

/-- Nothing is left in a slot that was emptied. -/
theorem not_holds_cleared (h : List Event) (s : Slot Event) (hs : s.Empties .cleared)
    (hf : ¬s.Fills .cleared) (e : Event) : ¬s.Holds (h ++ [.cleared]) e := by
  simp [Slot.holds_concat, hs, hf]

/-! ### One command -/

/-- A new request keeps the navigation faithful. -/
theorem Faithful.begin (hd : d.Faithful) (name : String) : (d.step (.begin name)).Faithful := by
  have hnew : tokens (d.step (.begin name)).history =
      tokens d.history ++ [d.navigation.issued + 1] := tokens_concat _ _
  constructor
  case token_le =>
    intro token ht
    rw [hnew, List.mem_append, List.mem_singleton] at ht
    change token ≤ d.navigation.issued + 1
    rcases ht with ht | rfl
    · exact (hd.token_le token ht).trans (Int.lt_succ _).le
    · exact le_refl _
  case tokens_sorted =>
    rw [hnew]
    refine List.pairwise_append.2 ⟨hd.tokens_sorted, List.pairwise_singleton _ _, ?_⟩
    intro token ht new hn
    rw [List.mem_singleton.1 hn]
    exact (hd.token_le token ht).trans_lt (Int.lt_succ _)
  case latest_iff =>
    intro other token
    change (d.navigation.latest.put name (d.navigation.issued + 1)).find? other = _ ↔
      (Event.loading other).Holds (d.history ++ [.began name (d.navigation.issued + 1)]) _
    rw [Association.find?_put, holds_loading_began]
    split
    · rw [Option.some.injEq]
    · exact hd.latest_iff other token
  case shown_iff =>
    intro other books
    change d.navigation.snapshots.find? other = some books ↔ _
    simpa [step, Slot.holds_concat] using hd.shown_iff other books
  case ordered =>
    exact hd.ordered.of_ignores (List.Sublist.refl _) fun _ _ => by simp

/-- A write keeps it faithful, whether its token is current or not. -/
theorem Faithful.put (hd : d.Faithful) (name : String) (books : List Book)
    (token : Option Token) : (d.step (.put name books token)).Faithful := by
  have hold : tokens (d.step (.put name books token)).history = tokens d.history :=
    (tokens_concat _ _).trans (List.append_nil _)
  constructor
  case token_le =>
    rw [hold]
    change ∀ t ∈ tokens d.history, t ≤ (d.navigation.put name books token).2.issued
    rw [Navigation.issued_put]
    exact hd.token_le
  case tokens_sorted => exact hold ▸ hd.tokens_sorted
  case latest_iff =>
    intro other t
    simp only [step, Navigation.latest_put, holds_loading_wrote]
    exact hd.latest_iff other t
  case shown_iff =>
    intro other shown
    simp only [step, Navigation.find?_put, Navigation.stored_put, holds_showing_wrote]
    split
    · rw [Option.some.injEq]
    · exact hd.shown_iff other shown
  case ordered =>
    simp only [step, Navigation.stored_put]
    cases haccepts : d.navigation.accepts name token with
    | true =>
      have hnames : (d.navigation.put name books token).2.snapshots.names =
          if name ∈ d.navigation.snapshots.names then d.navigation.snapshots.names
          else d.navigation.snapshots.names ++ [name] := by
        rw [Navigation.put, if_pos haccepts]
        exact Association.names_put ..
      rw [hnames]
      refine hd.ordered.of_fills (fun other => ?_) ⟨books, rfl⟩ (by simp)
        fun other hother => ?_
      · rw [← Slot.exists_holds_iff]
        exact hd.mem_names_iff other
      · simp [Ne.symm hother]
    | false =>
      have hsame : (d.navigation.put name books token).2 = d.navigation := by
        simp [Navigation.put, haccepts]
      rw [hsame]
      exact hd.ordered.of_ignores (List.Sublist.refl _) fun _ _ => by simp

/-- A reset keeps it faithful. -/
theorem Faithful.clear (hd : d.Faithful) : (d.step .clear).Faithful := by
  have hold : tokens (d.step .clear).history = tokens d.history :=
    (tokens_concat _ _).trans (List.append_nil _)
  constructor
  case token_le => exact hold ▸ hd.token_le
  case tokens_sorted => exact hold ▸ hd.tokens_sorted
  case latest_iff =>
    intro name token
    exact iff_of_false nofun (not_holds_cleared _ _ rfl (by simp) _)
  case shown_iff =>
    intro name books
    exact iff_of_false nofun (not_holds_cleared _ _ rfl (by simp) _)
  case ordered => exact Slot.inOrder_nil ..

/-- Every command keeps the navigation faithful to the history. -/
theorem Faithful.step (hd : d.Faithful) (c : Command) : (d.step c).Faithful := by
  cases c with
  | begin name => exact hd.begin name
  | put name books token => exact hd.put name books token
  | clear => exact hd.clear

/-- The navigation after any commands is faithful to their history. -/
theorem faithful_run (commands : List Command) : (run commands).Faithful := by
  induction commands using List.reverseRecOn with
  | nil => exact faithful_start
  | append_singleton commands c ih =>
    rw [run, List.foldl_append]
    exact ih.step c

/-! ## The answers of a navigation -/

/-- A section shows what was last stored in it. -/
theorem Faithful.get_of_holds (hd : d.Faithful) {name : String} {books : List Book}
    (hs : (Event.showing name).Holds d.history (.wrote name books true)) :
    d.navigation.get name = books := by
  rw [Navigation.get, (hd.shown_iff name books).2 hs]
  rfl

/-- A section in which nothing was stored shows nothing. -/
theorem Faithful.get_of_empty (hd : d.Faithful) {name : String}
    (hs : ∀ e, ¬(Event.showing name).Holds d.history e) : d.navigation.get name = [] := by
  have hnone : d.navigation.snapshots.find? name = none := by
    refine Option.eq_none_iff_forall_ne_some.2 fun books hbooks => ?_
    exact hs _ ((hd.shown_iff name books).1 hbooks)
  rw [Navigation.get, hnone]
  rfl

/-- The sections are those in which something is shown. -/
theorem Faithful.mem_sections_iff (hd : d.Faithful) (name : String) :
    name ∈ d.navigation.sections ↔ ∃ e, (Event.showing name).Holds d.history e :=
  Navigation.mem_sections.trans (hd.mem_names_iff name)

/-- The sections come in order, and so each of them once. -/
theorem Faithful.sections_sorted (hd : d.Faithful) :
    d.navigation.sections.Pairwise (Precedes d.history) := by
  have hpriority : Section.priority.Pairwise fun a b =>
      Section.priority.idxOf a < Section.priority.idxOf b := by decide
  refine List.pairwise_append.2 ⟨?_, ?_, ?_⟩
  · refine (hpriority.sublist List.filter_sublist).imp_of_mem fun {a b} ha _ hlt => ?_
    rw [Precedes, if_pos (List.mem_filter.1 ha).1]
    exact fun _ => hlt
  · refine (hd.ordered.sublist List.filter_sublist).imp_of_mem fun {a b} ha hb hlt => ?_
    rw [Precedes, if_neg (by simpa using (List.mem_filter.1 ha).2)]
    exact ⟨by simpa using (List.mem_filter.1 hb).2, hlt⟩
  · intro a ha b hb
    rw [Precedes, if_pos (List.mem_filter.1 ha).1]
    exact fun hb' => absurd hb' (by simpa using (List.mem_filter.1 hb).2)

theorem not_precedes_self (h : List Event) (a : String) : ¬Precedes h a a := by
  unfold Precedes
  split
  · next ha => exact fun hlt => (hlt ha).false
  · exact fun hlt => hlt.2.false

/-- No section is listed twice. -/
theorem Faithful.nodup_sections (hd : d.Faithful) : d.navigation.sections.Nodup :=
  hd.sections_sorted.imp fun {a b} hab (heq : a = b) => not_precedes_self _ b (heq ▸ hab)

/-- After any commands: the tokens that were given grow from each one to the next. A list with a
token is taken exactly if no load of its section began after the one with this token and nothing was
forgotten since; one without a token is always taken, and one that is refused changes nothing. A
section shows the last list that it took, and nothing if all was forgotten since. The sections that
show a list come each once, those of priority in their order before the others as they arrived. -/
theorem sections_run (commands : List Command) :
    let d := run commands
    let n := d.navigation
    (tokens d.history).Pairwise (· < ·) ∧
      (∀ name books token, (n.put name books (some token)).1 = true ↔
        (Event.loading name).Holds d.history (.began name token)) ∧
      (∀ name books, (n.put name books none).1 = true) ∧
      (∀ name books token, (n.put name books token).1 = false →
        (n.put name books token).2 = n) ∧
      (∀ name books, (Event.showing name).Holds d.history (.wrote name books true) →
        n.get name = books) ∧
      (∀ name, (∀ e, ¬(Event.showing name).Holds d.history e) → n.get name = []) ∧
      n.sections.Nodup ∧
      (∀ name, name ∈ n.sections ↔ ∃ e, (Event.showing name).Holds d.history e) ∧
      n.sections.Pairwise (Precedes d.history) := by
  have hd := faithful_run commands
  refine ⟨hd.tokens_sorted, fun name books token => ?_, fun name books => ?_, ?_,
    fun _ _ => hd.get_of_holds, fun _ => hd.get_of_empty, hd.nodup_sections, hd.mem_sections_iff,
    hd.sections_sorted⟩
  · rw [Navigation.stored_put, Navigation.accepts_some, Navigation.isCurrent, beq_iff_eq]
    exact hd.latest_iff name token
  · rw [Navigation.stored_put]
    rfl
  · intro name books token hrefused
    rw [Navigation.stored_put] at hrefused
    simp [Navigation.put, hrefused]

/-- A list that comes after a second load began is refused, and the one of the second load is
shown. -/
example :
    let d := run [.begin Section.free, .begin Section.free, .put Section.free [Book.blank] (some 2),
      .put Section.free [] (some 1)]
    d.history = [.began "free" 1, .began "free" 2, .wrote "free" [Book.blank] true,
      .wrote "free" [] false] ∧ d.navigation.get Section.free = [Book.blank] := by
  decide

end Diary

end Navigation

end Bookfinder
