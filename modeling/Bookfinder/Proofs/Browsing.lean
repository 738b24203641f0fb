import Bookfinder.Proofs.Dispatch
import Bookfinder.Proofs.Traffic

/-!
# Browsing

From a book one goes on to the next one of the list that showed it, or back to the one before it. In
a list without repeats (`NoRepeats`) that always leads to another book. A search shows each book
once, but a load of a section shows its answer as it came, and if the catalogue repeats a book there,
going on from the book leads to the book itself.

So a section may show a list without repeats, or an answer with repeats where it was loaded
(`MayShow`). The books that a request carries are such already on their way (`Stage.Fits`): each step
of a request keeps this (`Stage.keeps_proceed`), and from the steps follow whole operations and
requests side by side (`Session.tidy_perform`). `Session.neighbours_performAll` states what this means
for browsing.
-/

namespace Bookfinder

/-! ## Lists without repeats -/

/-- No two entries of a list are the same book. -/
def NoRepeats (books : List Book) : Prop := books.Pairwise fun a b => a.identity ≠ b.identity

/-- Ratings do not matter for who is who. -/
theorem noRepeats_congr {books others : List Book}
    (h : books.map Book.unrated = others.map Book.unrated) : NoRepeats books ↔ NoRepeats others := by
  have hmap (bs : List Book) : NoRepeats (bs.map Book.unrated) ↔ NoRepeats bs := List.pairwise_map
  rw [← hmap books, h, hmap]

/-- Two books are not the same exactly if they are known by different identities. -/
theorem Book.same_eq_false_iff {a b : Book} : a.same b = false ↔ a.identity ≠ b.identity := by
  rw [Book.same, beq_eq_false_iff_ne]

namespace Navigation

variable {books : List Book} {b c : Book}

/-- The entries before the first one of a book are other books. -/
theorem same_of_fst_around (h : (around books b).1 = some c) : c.same b = false := by
  simp only [around] at h
  split at h
  · exact absurd h nofun
  · next hpos =>
    obtain ⟨hlt, rfl⟩ := List.getElem?_eq_some_iff.1 h
    have hbefore : books.findIdx (·.same b) - 1 < books.findIdx (·.same b) := by omega
    exact List.not_of_lt_findIdx hbefore

/-- The entry after a book is another one if there are no repeats. -/
theorem same_of_snd_around (hbooks : NoRepeats books) (h : (around books b).2 = some c) :
    c.same b = false := by
  obtain ⟨hlt, rfl⟩ := List.getElem?_eq_some_iff.1 h
  have hi : books.findIdx (·.same b) < books.length := Nat.lt_of_succ_lt hlt
  have hfirst : books[books.findIdx (·.same b)].same b := List.findIdx_getElem (w := hi)
  have hne := List.pairwise_iff_getElem.1 hbooks _ _ hi hlt (Nat.lt_succ_self _)
  rw [Book.same_eq_false_iff, ← beq_iff_eq.1 hfirst]
  exact hne.symm

end Navigation

/-! ## Actions that keep a property of the state -/

namespace Action

variable {σ α β : Type} {P : σ → Prop} {Q : α → Prop} {R : β → Prop}

/-- From a state with `P` an action leads to such a state again, also when it fails, and a value
that it gives there has `Q`. -/
def Keeps (P : σ → Prop) (x : Action σ α) (Q : α → Prop) : Prop :=
  ∀ s, P s → P (x.run s).2 ∧ ∀ a, (x.run s).1.result = .ok a → Q a

namespace Keeps

theorem lift {o : Outcome α} (h : ∀ a, o.result = .ok a → Q a) : Keeps P (Action.lift o) Q :=
  fun _ hs => ⟨hs, h⟩

theorem pure {a : α} (h : Q a) : Keeps P (pure a) Q :=
  lift fun _ ha => Except.ok.inj ha ▸ h

theorem throw (e : Fault) : Keeps P (throw e : Action σ α) Q := lift nofun

theorem lift_any (o : Outcome α) : Keeps P (Action.lift o) fun _ => True :=
  lift fun _ _ => trivial

theorem note (n : Notice) : Keeps P (Action.note n) fun _ => True := lift_any _

/-- What the first action promises of its result is what the second one may rely on. -/
theorem bind {x : Action σ α} {f : α → Action σ β} (hx : Keeps P x Q)
    (hf : ∀ a, Q a → Keeps P (f a) R) : Keeps P (x >>= f) R := by
  intro s hs
  obtain ⟨hs', ha⟩ := hx s hs
  rw [run_bind]
  cases hr : (x.run s).1.result with
  | error e => exact ⟨hs', nofun⟩
  | ok a => exact hf a (ha a hr) _ hs'

theorem map {x : Action σ α} {f : α → β} (hx : Keeps P x Q) (hf : ∀ a, Q a → R (f a)) :
    Keeps P (f <$> x) R :=
  hx.bind fun a ha => pure (hf a ha)

/-- A promise may be weakened. -/
theorem mono {x : Action σ α} {Q' : α → Prop} (hx : Keeps P x Q) (h : ∀ a, Q a → Q' a) :
    Keeps P x Q' :=
  fun s hs => (hx s hs).imp_right fun ha a hr => h a (ha a hr)

/-- What is made of the value afterwards does not matter for the state. -/
theorem of_map {x : Action σ α} {f : α → β} (h : Keeps P (f <$> x) R) :
    Keeps P x fun _ => True := by
  intro s hs
  have hrun : ((f <$> x).run s).2 = (x.run s).2 := by
    rw [map_eq_pure_bind, run_bind]
    cases (x.run s).1.result <;> rfl
  exact ⟨hrun ▸ (h s hs).1, fun _ _ => trivial⟩

/-- A fault that is kept as a value ends nothing. -/
theorem attempt {x : Action σ α} (hx : Keeps P x Q) :
    Keeps P x.attempt fun r => ∀ a, r = .ok a → Q a := by
  intro s hs
  obtain ⟨hs', ha⟩ := hx s hs
  exact ⟨hs', fun r hr => Except.ok.inj hr ▸ ha⟩

/-- A promise about each element is a promise about all results. -/
theorem mapM {f : α → Action σ β} {as : List α} (hf : ∀ a ∈ as, Keeps P (f a) R) :
    Keeps P (as.mapM f) fun bs => ∀ b ∈ bs, R b := by
  induction as with
  | nil => exact pure nofun
  | cons a as ih =>
    obtain ⟨ha, has⟩ := List.forall_mem_cons.1 hf
    rw [List.mapM_cons]
    refine ha.bind fun b hb => (ih has).bind fun bs hbs => ?_
    exact pure (List.forall_mem_cons.2 ⟨hb, hbs⟩)

end Keeps

end Action

/-! ## What a section may show -/

variable {σ : Type}

/-- The catalogue may answer a load of a section with these books. -/
def Services.Offers (services : Services σ) (name : String) (books : List Book) : Prop :=
  ∃ call o, collectionCall? name = some call ∧
    ((services.catalogue call).run o).1.result = .ok (some books)

/-- A list that is, but for the ratings, an answer of the catalogue to a load of the section, and
that answer repeats a book. -/
def Services.Repeats (services : Services σ) (name : String) (books : List Book) : Prop :=
  ∃ answer, services.Offers name answer ∧ ¬NoRepeats answer ∧
    books.map Book.unrated = answer.map Book.unrated

section Shown

variable (services : Services σ) (loaded : String → Prop)

/-- What a section may show: a list without repeats, or where it was loaded an answer with some. -/
def MayShow (name : String) (books : List Book) : Prop :=
  NoRepeats books ∨ loaded name ∧ services.Repeats name books

/-- Every section shows what it may. -/
def Session.Tidy (s : Session σ) : Prop :=
  ∀ name books, s.navigation.snapshots.find? name = some books → MayShow services loaded name books

/-- A request that has its token. -/
def Task.Fits : Task → Prop
  | .search _ => True
  | .collection l => loaded l.sectionName ∧ collectionCall? l.sectionName = some l.call

/-- The books on the way to a section are such that it may show them. -/
def Stage.Fits : Stage → Prop
  | .asking t => t.Fits loaded
  | .rating t found | .recording t found => MayShow services loaded t.sectionName found.books
  | .askingAgain _ | .finished _ => True

variable {services loaded}

/-- Books without repeats may be shown anywhere. -/
theorem MayShow.distinct (name : String) (books : List Book) :
    MayShow services loaded name (Selection.distinct books) :=
  Or.inl (Selection.distinct_pairwise books)

/-- A loaded collection may show what the catalogue offers for it. -/
theorem MayShow.offered {name : String} {books : List Book} (h : loaded name)
    (hoffer : services.Offers name books) : MayShow services loaded name books := by
  by_cases hrepeats : NoRepeats books
  · exact Or.inl hrepeats
  · exact Or.inr ⟨h, books, hoffer, hrepeats, rfl⟩

/-- Figures change nothing about whether books may be shown. -/
theorem MayShow.rated {name : String} {books rated : List Book}
    (h : MayShow services loaded name books)
    (hrated : rated.map Book.unrated = books.map Book.unrated) :
    MayShow services loaded name rated := by
  rcases h with h | ⟨hname, answer, hoffer, hrepeats, hbooks⟩
  · exact Or.inl ((noRepeats_congr hrated).2 h)
  · exact Or.inr ⟨hname, answer, hoffer, hrepeats, hrated.trans hbooks⟩

/-! ### What keeps the sections tidy -/

open Bookfinder.Action

/-- An action outside of the session keeps it tidy. -/
theorem Session.keeps_reach {α : Type} {Q : α → Prop} {x : Action σ α}
    (h : ∀ o a, (x.run o).1.result = .ok a → Q a) :
    Keeps (Tidy services loaded) (reach x) Q :=
  fun s hs => ⟨hs, h s.outside⟩

theorem Session.keeps_reach_any {α : Type} (x : Action σ α) :
    Keeps (Tidy services loaded) (reach x) fun _ => True :=
  keeps_reach fun _ _ _ => trivial

/-- A call for a collection keeps the session tidy, and its answer is an offer. -/
theorem Session.keeps_catalogue {name : String} {call : Call}
    (h : collectionCall? name = some call) :
    Keeps (Tidy services loaded) (reach (services.catalogue call)) fun answer =>
      ∀ books, answer = some books → services.Offers name books := by
  refine keeps_reach fun o answer hanswer books hbooks => ?_
  exact ⟨call, o, h, hbooks ▸ hanswer⟩

/-- A new request changes no section that is shown. -/
theorem Session.keeps_begin (name : String) :
    Keeps (Tidy services loaded) (navigate (·.begin name)) fun _ => True :=
  fun _ hs => ⟨hs, fun _ _ => trivial⟩

/-- Books that may be shown are put into a tidy session. -/
theorem Session.keeps_put {name : String} {books : List Book}
    (h : MayShow services loaded name books) (token : Option Token) :
    Keeps (Tidy services loaded) (navigate (·.put name books token)) fun _ => True := by
  refine fun s hs => ⟨fun other shown hshown => ?_, fun _ _ => trivial⟩
  simp only [run_navigate, Navigation.find?_put] at hshown
  split at hshown
  · next hname =>
    obtain rfl := Option.some.inj hshown
    exact hname.2 ▸ h
  · exact hs other shown hshown

/-- A session that shows nothing is tidy. -/
theorem Session.tidy_of_snapshots {s : Session σ} (h : s.navigation.snapshots = []) :
    s.Tidy services loaded := by
  intro name books hfind
  rw [h] at hfind
  exact absurd hfind nofun

theorem Session.keeps_reset : Keeps (Tidy services loaded) Session.reset fun _ => True :=
  fun _ _ => ⟨tidy_of_snapshots rfl, fun _ _ => trivial⟩

/-- Each step of a request keeps the sections tidy. -/
theorem Stage.keeps_proceed {st : Stage} (h : st.Fits services loaded) :
    Keeps (Session.Tidy services loaded) (st.proceed services) (Fits services loaded) := by
  cases st with
  | asking t =>
    cases t with
    | search f =>
      refine (Session.keeps_reach_any _).bind fun answer _ => ?_
      cases answer with
      | some books => exact .pure (.distinct _ _)
      | none =>
        exact (Keeps.lift_any _).bind fun _ _ => (Keeps.note _).bind fun _ _ => .pure trivial
    | collection l =>
      -- unlike a search, a load passes the answer on as it came
      obtain ⟨hloaded, hcall⟩ := h
      refine (Session.keeps_catalogue hcall).bind fun answer hanswer => ?_
      cases answer with
      | some books => exact .pure (.offered hloaded (hanswer books rfl))
      | none => exact .throw _
  | askingAgain f =>
    refine (Session.keeps_reach_any _).bind fun answer _ => ?_
    cases answer with
    | some books => exact .pure (.distinct _ _)
    | none => exact (Keeps.lift_any _).bind fun _ _ => (Keeps.note _).bind fun _ _ => .throw _
  | rating t found =>
    refine (Session.keeps_reach fun o rated => Services.unrated_of_enriched).bind fun rated hr => ?_
    exact .pure (MayShow.rated h hr)
  | recording t found => exact (Session.keeps_put h _).bind fun _ _ => .pure trivial
  | finished result => exact .pure trivial

/-- The steps of a request keep the session tidy, one after the other. -/
theorem Stage.keeps_after (n : Nat) {st : Stage} (h : st.Fits services loaded) :
    Keeps (Session.Tidy services loaded) (after services n st) (Fits services loaded) := by
  induction n generalizing st with
  | zero => exact .pure h
  | succ n ih => exact (keeps_proceed h).bind fun st' => ih

theorem Flight.keeps_start (r : Request) (name : Option String) :
    Keeps (Session.Tidy services loaded) (start r name) fun _ => True :=
  (Session.keeps_begin _).bind fun _ _ =>
    (Keeps.lift_any _).bind fun _ _ => .pure trivial

theorem Flight.keeps_finish (f : Flight) :
    Keeps (Session.Tidy services loaded) (f.finish services) fun _ => True := by
  have hfits : (Stage.asking (.search f)).Fits services loaded := trivial
  have hafter := Stage.keeps_after 4 hfits
  rw [Stage.after_asking_search] at hafter
  exact hafter.of_map

/-- A load that has begun is one of a loaded collection. -/
theorem Load.keeps_start {name : String} (h : loaded name) :
    Keeps (Session.Tidy services loaded) (start name) fun l => Task.Fits loaded (.collection l) := by
  unfold start
  split
  · exact .throw _
  · next call hcall => exact (Session.keeps_begin name).bind fun _ _ => .pure ⟨h, hcall⟩

theorem Load.keeps_finish {l : Load} (h : Task.Fits loaded (.collection l)) :
    Keeps (Session.Tidy services loaded) (l.finish services) fun _ => True := by
  have hfits : (Stage.asking (.collection l)).Fits services loaded := h
  have hafter := Stage.keeps_after 4 hfits
  rw [Stage.after_asking_collection] at hafter
  exact hafter.of_map

/-- A request that has begun fits if its collection counts as loaded. -/
theorem Job.keeps_start {job : Job} (h : ∀ name, job = .collection name → loaded name) :
    Keeps (Session.Tidy services loaded) job.start (Stage.Fits services loaded) := by
  cases job with
  | search r name => exact (Flight.keeps_start r name).map fun _ _ => trivial
  | collection name => exact (Load.keeps_start (h name rfl)).map fun _ hl => hl

/-! ### Many requests -/

/-- Loads that fit keep the session tidy, in whichever order they end. -/
theorem Session.keeps_finishLoads {loads : List (Except Fault Load)}
    (h : ∀ r ∈ loads, ∀ l, r = .ok l → Task.Fits loaded (.collection l)) (order : List Nat) :
    Keeps (Tidy services loaded) (finishLoads services loads order) fun _ => True := by
  unfold finishLoads
  refine (Keeps.mapM (R := fun _ => True) ?_).mono fun _ _ => trivial
  rintro ⟨i, load⟩ hp
  obtain ⟨j, -, hj⟩ := List.mem_filterMap.1 hp
  obtain ⟨load', hload, he⟩ := Option.map_eq_some_iff.1 hj
  obtain ⟨rfl, rfl⟩ := Prod.mk.inj he
  cases load' with
  | ok l =>
    exact (Load.keeps_finish (h _ (List.mem_of_getElem? hload) l rfl)).attempt.bind fun _ _ =>
      .pure trivial
  | error e => exact .pure trivial

theorem Session.keeps_loadCollectionsInOrder {names : List String}
    (h : ∀ name ∈ names, loaded name) (order : List Nat) :
    Keeps (Tidy services loaded) (loadCollectionsInOrder services names order) fun _ => True := by
  have hstart : ∀ name ∈ names, Keeps (Tidy services loaded) (Load.start name).attempt fun r =>
      ∀ l, r = .ok l → Task.Fits loaded (.collection l) :=
    fun name hname => (Load.keeps_start (h name hname)).attempt
  refine (Keeps.mapM hstart).bind fun loads hloads => ?_
  exact (keeps_finishLoads hloads order).bind fun _ _ => .lift_any _

/-- A session in which every section shows what it may, and every request is on its way to that. -/
structure Traffic.Tidy (services : Services σ) (loaded : String → Prop) (w : Traffic σ) : Prop where
  session : w.session.Tidy services loaded
  fits : ∀ k ∈ w.tickets, k.stage.Fits services loaded

theorem Stage.fits_ofResult {r : Except Fault Stage}
    (h : ∀ st, r = .ok st → st.Fits services loaded) : (ofResult r).Fits services loaded := by
  cases r with
  | error e => trivial
  | ok st => exact h st rfl

/-- Each move keeps the sections tidy. -/
theorem Traffic.tidy_step {w : Traffic σ} (hw : w.Tidy services loaded) {m : Move}
    (hm : ∀ name, m = .begin (.collection name) → loaded name) :
    (w.step services m).Tidy services loaded := by
  cases m with
  | begin job =>
    obtain ⟨hs, hst⟩ := Job.keeps_start (fun name he => hm name (he ▸ rfl)) w.session hw.session
    refine ⟨hs, fun k hk => ?_⟩
    rcases List.mem_append.1 hk with hk | hk
    · exact hw.fits k hk
    · obtain rfl := List.mem_singleton.1 hk
      exact Stage.fits_ofResult hst
  | proceed i =>
    rw [step, proceed]
    split
    · exact hw
    · next k hk =>
      have hfits := hw.fits k (List.mem_of_getElem? hk)
      obtain ⟨hs, hst⟩ := Stage.keeps_proceed hfits w.session hw.session
      refine ⟨hs, fun k' hk' => ?_⟩
      rcases List.mem_or_eq_of_mem_set hk' with hk' | rfl
      · exact hw.fits k' hk'
      · exact Stage.fits_ofResult hst
  | reset => exact ⟨(Session.keeps_reset w.session hw.session).1, hw.fits⟩

/-- However requests come side by side, the sections stay tidy. -/
theorem Traffic.tidy_run {s : Session σ} (hs : s.Tidy services loaded) {moves : List Move}
    (h : ∀ name, .begin (.collection name) ∈ moves → loaded name) :
    ((start s).run services moves).Tidy services loaded := by
  have hstart : (start s).Tidy services loaded := ⟨hs, fun _ hk => absurd hk List.not_mem_nil⟩
  refine run_induction services hstart fun w hw m hm => ?_
  exact tidy_step hw fun name he => h name (he ▸ hm)

end Shown

/-! ## Operations -/

/-- What is done with a session. -/
inductive Operation where
  | search (raw name : Option String)
  | execute (r : Request) (name : Option String)
  | loadCollection (name : String)
  /-- The answers come in `order`. -/
  | loadCollections (names : List String) (order : List Nat)
  /-- Requests side by side. -/
  | interleave (moves : List Move)
  | reset

/-- Whether an operation loads a section. -/
def Operation.Loads : Operation → String → Prop
  | .loadCollection name, other => name = other
  | .loadCollections names _, name => name ∈ names
  | .interleave moves, name => .begin (.collection name) ∈ moves
  | .search .., _ | .execute .., _ | .reset, _ => False

namespace Session

variable (services : Services σ)

/-- The session after an operation, whatever that gave. -/
def perform (s : Session σ) : Operation → Session σ
  | .search raw name => ((search services raw name).run s).2
  | .execute r name => ((execute services r name).run s).2
  | .loadCollection name => ((loadCollection services name).run s).2
  | .loadCollections names order => ((loadCollectionsInOrder services names order).run s).2
  | .interleave moves => ((Traffic.start s).run services moves).session
  | .reset => (reset.run s).2

/-- The session after operations. -/
def performAll (s : Session σ) (ops : List Operation) : Session σ := ops.foldl (perform services) s

variable {services} {loaded : String → Prop}

open Bookfinder.Action

/-- A search keeps the session tidy, whatever its query is. -/
theorem keeps_execute (r : Request) (name : Option String) :
    Keeps (Tidy services loaded) (execute services r name) fun _ => True :=
  (Flight.keeps_start r name).bind fun f _ => f.keeps_finish

theorem keeps_search (raw name : Option String) :
    Keeps (Tidy services loaded) (search services raw name) fun _ => True := by
  have hstart : Keeps (Tidy services loaded) (Flight.startRaw raw name) fun _ => True := by
    refine (Keeps.lift_any _).bind fun q _ => ?_
    cases q with
    | none => exact .pure trivial
    | some q => exact (Flight.keeps_start _ name).map fun _ _ => trivial
  refine hstart.bind fun f _ => ?_
  cases f with
  | none => exact .pure trivial
  | some f => exact f.keeps_finish.map fun _ _ => trivial

/-- The load of a collection that counts as loaded keeps the session tidy. -/
theorem keeps_loadCollection {name : String} (h : loaded name) :
    Keeps (Tidy services loaded) (loadCollection services name) fun _ => True :=
  (Load.keeps_start h).bind fun _ hl => Load.keeps_finish hl

/-- One operation keeps the session tidy. -/
theorem tidy_perform {s : Session σ} (hs : s.Tidy services loaded) {op : Operation}
    (h : ∀ name, op.Loads name → loaded name) : (s.perform services op).Tidy services loaded := by
  cases op with
  | search raw name => exact (keeps_search raw name s hs).1
  | execute r name => exact (keeps_execute r name s hs).1
  | loadCollection name => exact (keeps_loadCollection (h name rfl) s hs).1
  | loadCollections names order => exact (keeps_loadCollectionsInOrder h order s hs).1
  | interleave moves => exact (Traffic.tidy_run hs h).session
  | reset => exact (keeps_reset s hs).1

/-- Operations one after the other keep the session tidy. -/
theorem tidy_performAll {s : Session σ} (hs : s.Tidy services loaded) {ops : List Operation}
    (h : ∀ op ∈ ops, ∀ name, op.Loads name → loaded name) :
    (s.performAll services ops).Tidy services loaded := by
  induction ops generalizing s with
  | nil => exact hs
  | cons op ops ih =>
    obtain ⟨hop, hops⟩ := List.forall_mem_cons.1 h
    exact ih (tidy_perform hs hop) hops

/-- After any operations and whatever the catalogue answered, a section shows each book once, unless
a load of it was answered with repeats. The neighbours of a book are other books: the one before it
always, and the one after it unless its section shows such an answer. -/
theorem neighbours_performAll (services : Services σ) (o : σ) (ops : List Operation) :
    let n := (performAll services ⟨.empty, o⟩ ops).navigation
    let stuck name := (∃ op ∈ ops, op.Loads name) ∧ services.Repeats name (n.get name)
    (∀ name, NoRepeats (n.get name) ∨ stuck name) ∧
      ∀ b c, ((n.neighbours b).1 = some c → c.same b = false) ∧
        ((n.neighbours b).2 = some c →
          c.same b = false ∨ ∃ name, n.sectionOf? b = some name ∧ stuck name) := by
  intro n stuck
  have htidy : (performAll services ⟨.empty, o⟩ ops).Tidy services fun name =>
      ∃ op ∈ ops, op.Loads name :=
    tidy_performAll (tidy_of_snapshots rfl) fun op hop name hname => ⟨op, hop, hname⟩
  have hshown (name : String) : NoRepeats (n.get name) ∨ stuck name := by
    unfold stuck Navigation.get
    cases hfind : n.snapshots.find? name with
    | none => exact Or.inl List.Pairwise.nil
    | some books => exact htidy name books hfind
  refine ⟨hshown, fun b c => ⟨Navigation.same_of_fst_around, fun h => ?_⟩⟩
  rw [Navigation.neighbours, Navigation.resolve] at h
  split at h
  · next name hname =>
    rcases hshown name with hbooks | hstuck
    · exact Or.inl (Navigation.same_of_snd_around hbooks h)
    · exact Or.inr ⟨name, hname, hstuck⟩
  · exact Or.inl (Navigation.same_of_snd_around (List.pairwise_singleton _ b) h)

/-- Recommended books that are twice the same one. A search with the same answer shows it once. -/
theorem neighbours_performAll_twice :
    let b : Book := { Book.blank with isbn := some "1" }
    let services : Services Unit := ⟨fun _ => pure (some [b, b]), none⟩
    let after (op : Operation) := (performAll services ⟨.empty, ()⟩ [op]).navigation
    ((after (.loadCollection Section.featured)).get Section.featured = [b, b] ∧
        (after (.loadCollection Section.featured)).neighbours b = (none, some b)) ∧
      b.same b ∧
      (after (.search (some "dune") none)).get Section.search = [b] ∧
        (after (.search (some "dune") none)).neighbours b = (none, none) :=
  ⟨⟨rfl, rfl⟩, rfl, rfl, rfl⟩

end Session

end Bookfinder
