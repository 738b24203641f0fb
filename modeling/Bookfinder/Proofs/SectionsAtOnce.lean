import Bookfinder.Search.Collection
import Mathlib.Data.List.Forall2

/-!
# Sections that are loaded at once

Several sections are on their way at the same time, and their answers come in any order. What a
section answers depends on the catalogue alone (`Services.Answers`), and the answers that come in an
order are those that asking one section after the other would give (`Services.Arrive`). Nothing of
this is known to the navigation. It is told of a section when the load begins, which gives the load
a token, and when it ends with books, which are taken since no other load of that section has begun:
the sections are distinct.

So a load that began (`Load.Begun`) ends with the answer of its section and changes the list of no
other one (`Load.run_conclude`), all of them together leave the lists of those that were loaded
(`Session.run_finishLoads`), and what is made of their answers is independent of the order
(`Session.loads_at_once`).
-/

namespace Bookfinder

/-- The faults of a search that the catalogue did not answer. -/
def Fault.isSearchFailure : Fault → Bool
  | .searchFailed .. => true
  | _ => false

variable {σ : Type}

/-! ## Answers -/

namespace Services

/-- What a section answers if the catalogue is asked in the state `o`, and the state that this
leaves. A section that does not exist is not asked for. -/
inductive Answers (services : Services σ) (name : String) (o : σ) :
    Except Fault (List Book) → σ → Prop
  | unknown (h : collectionCall? name = none) :
      Answers services name o (.error (.unknownSection name)) o
  | raised {call : Call} {f : Fault} {ns : List Notice} {o' : σ}
      (h : collectionCall? name = some call)
      (hcall : (services.catalogue call).run o = (⟨.error f, ns⟩, o')) :
      Answers services name o (.error f) o'
  | missing {call : Call} {ns : List Notice} {o' : σ} (h : collectionCall? name = some call)
      (hcall : (services.catalogue call).run o = (⟨.ok none, ns⟩, o')) :
      Answers services name o
        (.error (.searchFailed (.collection name) ("could not load '" ++ name ++ "'"))) o'
  /-- Books get the figures of their ratings. -/
  | books {call : Call} {books : List Book} {ns ms : List Notice}
      {result : Except Fault (List Book)} {o' o'' : σ} (h : collectionCall? name = some call)
      (hcall : (services.catalogue call).run o = (⟨.ok (some books), ns⟩, o'))
      (hrated : (services.enriched books).run o' = (⟨result, ms⟩, o'')) :
      Answers services name o result o''

theorem exists_answers (services : Services σ) (name : String) (o : σ) :
    ∃ result o', services.Answers name o result o' := by
  cases h : collectionCall? name with
  | none => exact ⟨_, _, .unknown h⟩
  | some call =>
    obtain ⟨⟨⟨r, ns⟩, o'⟩, hcall⟩ : ∃ ran, (services.catalogue call).run o = ran := ⟨_, rfl⟩
    match r with
    | .error f => exact ⟨_, _, .raised h hcall⟩
    | .ok none => exact ⟨_, _, .missing h hcall⟩
    | .ok (some books) => exact ⟨_, _, .books h hcall rfl⟩

/-- The state tells what a section answers. -/
theorem Answers.unique {services : Services σ} {name : String} {o o₁ o₂ : σ}
    {result₁ result₂ : Except Fault (List Book)} (h₁ : services.Answers name o result₁ o₁)
    (h₂ : services.Answers name o result₂ o₂) : result₁ = result₂ ∧ o₁ = o₂ := by
  cases h₁ <;> cases h₂ <;> simp_all

/-- The answers of sections, in the order in which they come. -/
inductive Arrive (services : Services σ) (answer : String → Except Fault (List Book)) :
    List String → σ → σ → Prop
  | done (o : σ) : Arrive services answer [] o o
  | next {name : String} {names : List String} {o o' o'' : σ}
      (h : services.Answers name o (answer name) o')
      (hrest : Arrive services answer names o' o'') : Arrive services answer (name :: names) o o''

variable {services : Services σ} {answer answer' : String → Except Fault (List Book)}
  {names : List String} {o o' : σ}

theorem Arrive.congr (h : services.Arrive answer names o o')
    (hanswer : ∀ name ∈ names, answer name = answer' name) :
    services.Arrive answer' names o o' := by
  induction h with
  | done o => exact .done o
  | next h _ ih =>
    obtain ⟨hname, hnames⟩ := List.forall_mem_cons.1 hanswer
    exact .next (hname ▸ h) (ih hnames)

theorem exists_arrive (services : Services σ) (hnames : names.Nodup) (o : σ) :
    ∃ answer o', services.Arrive answer names o o' := by
  induction names generalizing o with
  | nil => exact ⟨fun _ => .ok [], o, .done o⟩
  | cons name names ih =>
    obtain ⟨hname, hnames⟩ := List.nodup_cons.1 hnames
    obtain ⟨result, o', h⟩ := services.exists_answers name o
    obtain ⟨answer, o'', hrest⟩ := ih hnames o'
    refine ⟨Function.update answer name result, o'', .next ?_ (hrest.congr fun other hother => ?_)⟩
    · rwa [Function.update_self]
    · exact (Function.update_of_ne (ne_of_mem_of_not_mem hother hname) ..).symm

end Services

/-! ## Lists -/

/-- Lists with the one that a section answered, if it answered one. -/
def recorded (lists : Association (List Book)) (name : String) :
    Except Fault (List Book) → Association (List Book)
  | .ok books => lists.put name books
  | .error _ => lists

/-- Lists with those that sections answered. -/
def recordedAll (answer : String → Except Fault (List Book)) (lists : Association (List Book))
    (names : List String) : Association (List Book) :=
  names.foldl (fun lists name => recorded lists name (answer name)) lists

section Lists

variable {answer : String → Except Fault (List Book)} {names : List String} {name : String}

theorem find?_recordedAll_of_error (h : name ∈ names → ∃ f, answer name = .error f)
    (lists : Association (List Book)) :
    (recordedAll answer lists names).find? name = lists.find? name := by
  induction names generalizing lists with
  | nil => rfl
  | cons first names ih =>
    have hfirst : (recorded lists first (answer first)).find? name = lists.find? name := by
      cases hanswer : answer first with
      | error f => rfl
      | ok books =>
        refine (Association.find?_put ..).trans (if_neg ?_)
        rintro rfl
        obtain ⟨f, hf⟩ := h List.mem_cons_self
        rw [hanswer] at hf
        cases hf
    exact (ih (fun hname => h (List.mem_cons_of_mem _ hname)) _).trans hfirst

theorem find?_recordedAll_of_ok {books : List Book} (hname : name ∈ names)
    (h : answer name = .ok books) (lists : Association (List Book)) :
    (recordedAll answer lists names).find? name = some books := by
  induction names generalizing lists with
  | nil => cases hname
  | cons first names ih =>
    by_cases hlater : name ∈ names
    · exact ih hlater _
    · obtain rfl : name = first := (List.mem_cons.1 hname).resolve_right hlater
      refine (find?_recordedAll_of_error (fun hmem => absurd hmem hlater) _).trans ?_
      dsimp only
      rw [h]
      exact (Association.find?_put ..).trans (if_pos rfl)

/-- From no lists on, there are those of the sections that answered with one. -/
theorem find?_recordedAll_nil {books : List Book} :
    (recordedAll answer [] names).find? name = some books ↔
      name ∈ names ∧ answer name = .ok books := by
  by_cases hname : name ∈ names
  · cases h : answer name with
    | error f =>
      rw [find?_recordedAll_of_error (fun _ => ⟨f, h⟩)]
      exact iff_of_false nofun (fun hok => nomatch hok.2)
    | ok others =>
      rw [find?_recordedAll_of_ok hname h, Option.some.injEq, Except.ok.injEq]
      exact (and_iff_right hname).symm
  · rw [find?_recordedAll_of_error (absurd · hname)]
    exact iff_of_false nofun (fun h => hname h.1)

end Lists

/-! ## Loads -/

namespace Load

/-- A load that began, and whose token is the last one of its section; one of a section that does
not exist did not begin. -/
inductive Begun (n : Navigation) (name : String) : Except Fault Load → Prop
  | unknown (h : collectionCall? name = none) : Begun n name (.error (.unknownSection name))
  | begun {call : Call} {token : Token} (h : collectionCall? name = some call)
      (hcurrent : n.isCurrent name token) : Begun n name (.ok ⟨name, call, token⟩)

theorem Begun.congr {n n' : Navigation} {name : String} {load : Except Fault Load}
    (h : Begun n' name load) (hsame : ∀ token, n.isCurrent name token = n'.isCurrent name token) :
    Begun n name load := by
  cases h with
  | unknown hnone => exact .unknown hnone
  | begun hcall hcurrent => exact .begun hcall ((hsame _).trans hcurrent)

/-- A load begins, and no other section is concerned. -/
theorem exists_run_start (name : String) (s : Session σ) :
    ∃ load n, (start name).attempt.run s =
        (⟨.ok load, []⟩, ⟨{ n with snapshots := s.navigation.snapshots }, s.outside⟩) ∧
      Begun n name load ∧ ∀ other, name ≠ other → ∀ token,
        n.isCurrent other token = s.navigation.isCurrent other token := by
  rw [start]
  cases h : collectionCall? name with
  | none => exact ⟨_, s.navigation, rfl, .unknown h, fun _ _ _ => rfl⟩
  | some call =>
    refine ⟨_, (s.navigation.begin name).2, rfl, .begun h ?_, fun other hne token => ?_⟩
    · rw [Navigation.isCurrent_begin, if_pos rfl]
      exact decide_eq_true rfl
    · rw [Navigation.isCurrent_begin, if_neg hne]

/-- Loads of distinct sections begin. -/
theorem exists_run_starts {names : List String} (hnames : names.Nodup) (s : Session σ) :
    ∃ loads n, (names.mapM fun name => (start name).attempt).run s =
        (⟨.ok loads, []⟩, ⟨{ n with snapshots := s.navigation.snapshots }, s.outside⟩) ∧
      List.Forall₂ (Begun n) names loads ∧
      ∀ other ∉ names, ∀ token, n.isCurrent other token = s.navigation.isCurrent other token := by
  induction names generalizing s with
  | nil => exact ⟨[], s.navigation, rfl, .nil, fun _ _ _ => rfl⟩
  | cons name names ih =>
    obtain ⟨hname, hnames⟩ := List.nodup_cons.1 hnames
    obtain ⟨load, n', hstart, hload, hfirst⟩ := exists_run_start name s
    obtain ⟨loads, n, hrun, hbegun, hlater⟩ := ih hnames _
    refine ⟨load :: loads, n,
      Action.run_mapM_cons (f := fun name => (start name).attempt) hstart hrun,
      .cons (hload.congr (hlater name hname)) hbegun, fun other hother token => ?_⟩
    obtain ⟨hne, hother⟩ := not_or.1 (mt List.mem_cons.2 hother)
    exact (hlater other hother token).trans (hfirst other (Ne.symm hne) token)

/-- The section and the load at a position. -/
theorem exists_begun {n : Navigation} {names : List String} {loads : List (Except Fault Load)}
    (h : List.Forall₂ (Begun n) names loads) {i : ℕ} (hi : i < names.length) :
    ∃ name load, names[i]? = some name ∧ loads[i]? = some load ∧ Begun n name load := by
  have hloads : i < loads.length := h.length_eq ▸ hi
  exact ⟨names[i], loads[i], List.getElem?_eq_getElem hi, List.getElem?_eq_getElem hloads,
    h.get hi hloads⟩

section Ends

variable {services : Services σ} {n : Navigation} {name : String} {o o' : σ}
  {result : Except Fault (List Book)}

/-- A load with the last token of its section ends as the section answers, and its list is taken. -/
theorem run_finish {call : Call} {token : Token} (hcall : collectionCall? name = some call)
    (hcurrent : n.isCurrent name token) (h : services.Answers name o result o')
    (lists : Association (List Book)) :
    ∃ notices, (finish services ⟨name, call, token⟩).run ⟨{ n with snapshots := lists }, o⟩ =
      (⟨result, notices⟩, ⟨{ n with snapshots := recorded lists name result }, o'⟩) := by
  have hreach {α : Type} {x : Action σ α} {o o' : σ} {p : Outcome α}
      (hx : x.run o = (p, o')) : (Session.reach x).run ⟨{ n with snapshots := lists }, o⟩ =
        (p, ⟨{ n with snapshots := lists }, o'⟩) := by
    rw [Session.run_reach, hx]
  have hsame {other : Call} (hother : collectionCall? name = some other) : other = call :=
    Option.some.inj (hother.symm.trans hcall)
  rw [finish]
  cases h with
  | unknown hnone =>
    rw [hnone] at hcall
    cases hcall
  | raised hother hanswer =>
    obtain rfl := hsame hother
    exact ⟨_, Action.run_bind_of_error (hreach hanswer)⟩
  | missing hother hanswer =>
    obtain rfl := hsame hother
    exact ⟨_, Action.run_bind_of_ok (hreach hanswer) rfl⟩
  | books hother hanswer hrated =>
    obtain rfl := hsame hother
    cases result with
    | error f =>
      exact ⟨_, Action.run_bind_of_ok (hreach hanswer) (Action.run_bind_of_error (hreach hrated))⟩
    | ok rated =>
      have hput : ({ n with snapshots := lists } : Navigation).put name rated (some token) =
          (true, { n with snapshots := lists.put name rated }) := if_pos hcurrent
      have hrecord : (Session.navigate (·.put name rated (some token)) >>= fun _ =>
          pure rated : Action (Session σ) (List Book)).run ⟨{ n with snapshots := lists }, o'⟩ =
            (⟨.ok rated, []⟩, ⟨{ n with snapshots := lists.put name rated }, o'⟩) := by
        rw [Action.run_bind, Session.run_navigate, hput]
        rfl
      exact ⟨_, Action.run_bind_of_ok (hreach hanswer) (Action.run_bind_of_ok (hreach hrated)
        hrecord)⟩

/-- Ends a load with a value or a fault; one that did not begin keeps its fault. -/
def conclude (services : Services σ) :
    Except Fault Load → Action (Session σ) (Except Fault (List Book))
  | .ok l => (l.finish services).attempt
  | .error f => pure (.error f)

theorem run_conclude {load : Except Fault Load} (hload : Begun n name load)
    (h : services.Answers name o result o') (lists : Association (List Book)) :
    ∃ notices, (conclude services load).run ⟨{ n with snapshots := lists }, o⟩ =
      (⟨.ok result, notices⟩, ⟨{ n with snapshots := recorded lists name result }, o'⟩) := by
  cases hload with
  | unknown hnone =>
    cases h with
    | unknown => exact ⟨[], rfl⟩
    | raised hcall | missing hcall | books hcall =>
      rw [hnone] at hcall
      cases hcall
  | begun hcall hcurrent =>
    obtain ⟨notices, hrun⟩ := run_finish hcall hcurrent h lists
    exact ⟨notices, by rw [conclude, Action.run_attempt, hrun]⟩

end Ends

end Load

namespace Session

/-! ## All of them -/

section All

variable {services : Services σ} {answer : String → Except Fault (List Book)}
  {names : List String} {loads : List (Except Fault Load)} {order : List ℕ}

/-- The sections in the order in which their answers come, which lists their positions. -/
def arriving (names : List String) (order : List ℕ) : List String := order.filterMap (names[·]?)

theorem arriving_cons {i : ℕ} {name : String} (h : names[i]? = some name) (order : List ℕ) :
    arriving names (i :: order) = name :: arriving names order := List.filterMap_cons_some h

/-- The answers that come at the positions of an order. -/
def answersAt (answer : String → Except Fault (List Book)) (names : List String)
    (order : List ℕ) : List (ℕ × Except Fault (List Book)) :=
  order.filterMap fun i => (names[i]?).map fun name => (i, answer name)

theorem finishLoads_eq (services : Services σ) (loads : List (Except Fault Load))
    (order : List ℕ) :
    finishLoads services loads order =
      (order.filterMap fun i => (loads[i]?).map (i, ·)).mapM fun p =>
        (p.1, ·) <$> Load.conclude services p.2 := by
  unfold finishLoads
  congr 1
  funext ⟨i, load⟩
  cases load with
  | error f => exact (map_pure _ _).symm
  | ok l => exact (map_eq_pure_bind _ _).symm

/-- Loads that began end with the answers of their sections, and the lists are those that were
there with the ones that came. -/
theorem run_finishLoads {n : Navigation} {o o' : σ}
    (hbegun : ∀ i ∈ order, ∃ name load, names[i]? = some name ∧ loads[i]? = some load ∧
      Load.Begun n name load)
    (h : services.Arrive answer (arriving names order) o o')
    (lists : Association (List Book)) :
    ∃ notices, (finishLoads services loads order).run ⟨{ n with snapshots := lists }, o⟩ =
      (⟨.ok (answersAt answer names order), notices⟩,
        ⟨{ n with snapshots := recordedAll answer lists (arriving names order) }, o'⟩) := by
  rw [finishLoads_eq]
  induction order generalizing lists o with
  | nil =>
    cases h
    exact ⟨[], rfl⟩
  | cons i order ih =>
    obtain ⟨⟨name, load, hname, hload, hi⟩, hbegun⟩ := List.forall_mem_cons.1 hbegun
    rw [arriving_cons hname] at h ⊢
    cases h with
    | next hanswer hrest =>
      obtain ⟨ns, hfirst⟩ := Load.run_conclude hi hanswer lists
      obtain ⟨ms, hlater⟩ := ih hbegun hrest (recorded lists name (answer name))
      have hnumbered := Action.run_map (i, ·) (Load.conclude services load)
        ⟨{ n with snapshots := lists }, o⟩
      rw [hfirst] at hnumbered
      refine ⟨ns ++ ms, ?_⟩
      simp only [answersAt, List.filterMap_cons, hload, hname, Option.map_some]
      exact Action.run_mapM_cons hnumbered hlater

/-- The answer of a section is found at its position. -/
theorem lookup_answersAt {i : ℕ} (hi : i ∈ order) {name : String} (hname : names[i]? = some name) :
    (answersAt answer names order).lookup i = some (answer name) := by
  induction order with
  | nil => cases hi
  | cons j order ih =>
    simp only [answersAt] at ih ⊢
    rw [List.filterMap_cons]
    by_cases hij : i = j
    · subst hij
      simp [hname]
    · have hrest := ih ((List.mem_cons.1 hi).resolve_left hij)
      cases names[j]? with
      | none => exact hrest
      | some other =>
        simpa only [Option.map_some, List.lookup_cons, beq_false_of_ne hij] using hrest

/-- The answers are put in the order of the sections, whatever order they came in. -/
theorem answers_in_order (horder : order.Perm (List.range names.length)) :
    (names.zipIdx.filterMap fun (name, i) =>
        ((answersAt answer names order).lookup i).map fun result => (name, result)) =
      names.map fun name => (name, answer name) := by
  calc
    _ = names.zipIdx.filterMap (some ∘ fun p => (p.1, answer p.1)) := by
      refine List.filterMap_congr fun (name, i) hmem => ?_
      have hname : names[i]? = some name := List.mem_zipIdx_iff_getElem?.1 hmem
      have hi : i ∈ order :=
        horder.mem_iff.2 (List.mem_range.2 (List.getElem?_eq_some_iff.1 hname).1)
      dsimp only
      rw [lookup_answersAt hi hname]
      rfl
    _ = names.zipIdx.map fun p => (p.1, answer p.1) := congrFun List.filterMap_eq_map _
    _ = (names.zipIdx.map Prod.fst).map fun name => (name, answer name) := by
      rw [List.map_map]
      rfl
    _ = names.map fun name => (name, answer name) := by rw [List.zipIdx_map_fst]

/-- All sections arrive, each of them once. -/
theorem arriving_perm (horder : order.Perm (List.range names.length)) :
    (arriving names order).Perm names := by
  have hrange (names : List String) : (List.range names.length).filterMap (names[·]?) = names := by
    induction names with
    | nil => rfl
    | cons name names ih =>
      rw [List.length_cons, List.range_succ_eq_map, List.filterMap_cons, List.filterMap_map]
      exact congrArg (name :: ·) ih
  have hperm := horder.filterMap (names[·]?)
  rwa [hrange] at hperm

/-! ### What is made of the answers -/

/-- What is made of one more answer. -/
def gathered (lists : Association (List Book)) :
    String × Except Fault (List Book) → Outcome (Association (List Book))
  | (name, .ok books) => pure (lists.put name books)
  | (name, .error (.searchFailed _ reason)) => do
    Outcome.note (.sectionUnavailable name reason)
    return lists
  | (_, .error f) => throw f

theorem loadedBooks_eq (results : List (String × Except Fault (List Book))) :
    loadedBooks results = results.foldlM gathered [] := by
  unfold loadedBooks
  congr 1
  funext lists ⟨name, result⟩
  cases result with
  | ok books => rfl
  | error f => cases f <;> rfl

theorem result_gathered {name : String} {result : Except Fault (List Book)}
    (h : ∀ f, result = .error f → f.isSearchFailure) (lists : Association (List Book)) :
    (gathered lists (name, result)).result = .ok (recorded lists name result) := by
  cases result with
  | ok books => rfl
  | error f =>
    cases f with
    | searchFailed subject reason => rfl
    | _ => exact nomatch h _ rfl

theorem result_gathered_of_fault {f : Fault} (h : f.isSearchFailure = false) (name : String)
    (lists : Association (List Book)) :
    (gathered lists (name, .error f)).result = .error f := by
  cases f with
  | searchFailed subject reason => cases h
  | _ => rfl

/-- A section that could not be loaded is left out. -/
theorem result_foldlM_gathered
    (h : ∀ name ∈ names, ∀ f, answer name = .error f → f.isSearchFailure)
    (lists : Association (List Book)) :
    ((names.map fun name => (name, answer name)).foldlM gathered lists).result =
      .ok (recordedAll answer lists names) := by
  induction names generalizing lists with
  | nil => rfl
  | cons name names ih =>
    obtain ⟨hname, hnames⟩ := List.forall_mem_cons.1 h
    rw [List.map_cons, List.foldlM_cons, Outcome.result_bind_of_ok (result_gathered hname lists)]
    exact ih hnames _

/-- Any other fault is the result, the first one if there are several. -/
theorem result_loadedBooks_of_fault {earlier later : List String} {name : String} {f : Fault}
    (hearlier : ∀ other ∈ earlier, ∀ g, answer other = .error g → g.isSearchFailure)
    (hname : answer name = .error f) (hf : f.isSearchFailure = false) :
    (loadedBooks ((earlier ++ name :: later).map fun name => (name, answer name))).result =
      .error f := by
  rw [loadedBooks_eq, List.map_append, List.map_cons, List.foldlM_append,
    Outcome.result_bind_of_ok (result_foldlM_gathered hearlier []), List.foldlM_cons, hname]
  exact Outcome.result_bind_of_error (result_gathered_of_fault hf name _) _

/-! ### From the start to the end -/

/-- Sections that are loaded at once: the sections are asked as they arrive, the lists that come are
shown, and the answers are put together in the order of the sections. -/
theorem exists_run_loadCollectionsInOrder (services : Services σ) (hnames : names.Nodup)
    (horder : order.Perm (List.range names.length)) (s : Session σ) :
    ∃ answer o', ∃ n : Navigation, ∃ notices,
      services.Arrive answer (arriving names order) s.outside o' ∧
      (loadCollectionsInOrder services names order).run s =
        (⟨(loadedBooks (names.map fun name => (name, answer name))).result, notices⟩,
          ⟨{ n with snapshots := recordedAll answer s.navigation.snapshots (arriving names order) },
            o'⟩) := by
  obtain ⟨loads, n, hstarts, hbegun, -⟩ := Load.exists_run_starts hnames s
  have harriving := (arriving_perm horder).nodup_iff.2 hnames
  obtain ⟨answer, o', harrive⟩ := services.exists_arrive harriving s.outside
  obtain ⟨notices, hfinish⟩ := run_finishLoads (fun i hi =>
    Load.exists_begun hbegun (List.mem_range.1 (horder.mem_iff.1 hi))) harrive
      s.navigation.snapshots
  let o := loadedBooks (names.map fun name => (name, answer name))
  refine ⟨answer, o', n, [] ++ (notices ++ o.notices), harrive,
    Action.run_bind_of_ok hstarts (Action.run_bind_of_ok hfinish ?_)⟩
  rw [answers_in_order horder]
  rfl

/-- Sections that are loaded at once, whatever order their answers come in. If the catalogue had no
answer for some of them and nothing else went wrong, the others are shown with their books; any
other fault is the result, the first one in the order of the sections. It ends when all loads have
ended: in either case the catalogue was asked for each section, a section that answered with books
shows them, and the lists of all others are as before. -/
theorem loads_at_once (services : Services σ) {names : List String} (hnames : names.Nodup)
    {order : List ℕ} (horder : order.Perm (List.range names.length)) (s : Session σ) :
    let run := (loadCollectionsInOrder services names order).run s
    ∃ answer,
      services.Arrive answer (arriving names order) s.outside run.2.outside ∧
      ((∀ name ∈ names, ∀ f, answer name = .error f → f.isSearchFailure) →
        ∃ loaded, run.1.result = .ok loaded ∧
          ∀ name books, loaded.find? name = some books ↔ name ∈ names ∧ answer name = .ok books) ∧
      (∀ earlier name later f, names = earlier ++ name :: later →
        (∀ other ∈ earlier, ∀ g, answer other = .error g → g.isSearchFailure) →
        answer name = .error f → f.isSearchFailure = false → run.1.result = .error f) ∧
      (∀ name ∈ names, ∀ books, answer name = .ok books →
        run.2.navigation.snapshots.find? name = some books) ∧
      ∀ name, (name ∈ names → ∃ f, answer name = .error f) →
        run.2.navigation.snapshots.find? name = s.navigation.snapshots.find? name := by
  intro run
  obtain ⟨answer, o', n, notices, harrive, hrun⟩ :=
    exists_run_loadCollectionsInOrder services hnames horder s
  have harriving := arriving_perm horder
  change run = _ at hrun
  rw [hrun]
  refine ⟨answer, harrive, fun hfailures => ⟨recordedAll answer [] names, ?_, fun name books =>
    find?_recordedAll_nil⟩, ?_, fun name hname books hbooks =>
    find?_recordedAll_of_ok (harriving.mem_iff.2 hname) hbooks _, fun name herror =>
    find?_recordedAll_of_error (fun hname => herror (harriving.mem_iff.1 hname)) _⟩
  · dsimp only
    rw [loadedBooks_eq]
    exact result_foldlM_gathered hfailures []
  · rintro earlier name later f rfl hearlier hname hf
    exact result_loadedBooks_of_fault hearlier hname hf

/-- The recommended books do not come, the new ones fail, one section does not exist, and the free
books are shown. -/
theorem loads_at_once_mixed :
    let book : Book := { Book.blank with isbn := some "1" }
    let catalogue : Catalogue Unit
      | .featured => pure none
      | .free => pure (some [book])
      | _ => throw (.external .service "down")
    let names := [Section.featured, "bestsellers", Section.free, Section.new]
    let order := [3, 2, 0, 1]
    let shown : Association (List Book) := [(Section.featured, [book, book])]
    let run := (loadCollectionsInOrder ⟨catalogue, none⟩ names order).run ⟨⟨shown, [], 7⟩, ()⟩
    names.Nodup ∧ order.Perm (List.range names.length) ∧
      run.1.result = .error (.unknownSection "bestsellers") ∧
      run.2.navigation.snapshots.find? Section.featured = some [book, book] ∧
      run.2.navigation.snapshots.find? Section.free = some [book] := by
  intro book catalogue names order shown run
  have hnames : names.Nodup := by decide
  have horder : order.Perm (List.range names.length) := by decide
  obtain ⟨answer, harrive, -, hfault, hshown, hkept⟩ :=
    loads_at_once ⟨catalogue, none⟩ hnames horder ⟨⟨shown, [], 7⟩, ()⟩
  have harriving : arriving names order =
      [Section.new, Section.free, Section.featured, "bestsellers"] := by decide
  rw [harriving] at harrive
  obtain ⟨hfeatured, hbestsellers, hfree⟩ :
      answer Section.featured = .error (.searchFailed (.collection Section.featured)
        "could not load 'featured'") ∧
      answer "bestsellers" = .error (.unknownSection "bestsellers") ∧
      answer Section.free = .ok [book] := by
    obtain - | ⟨-, hrest⟩ := harrive
    obtain - | ⟨hfree, hrest⟩ := hrest
    obtain - | ⟨hfeatured, hrest⟩ := hrest
    obtain - | ⟨hbestsellers, -⟩ := hrest
    exact ⟨(hfeatured.unique (.missing rfl rfl)).1, (hbestsellers.unique (.unknown rfl)).1,
      (hfree.unique (.books rfl rfl rfl)).1⟩
  refine ⟨hnames, horder, ?_, hkept _ fun _ => ⟨_, hfeatured⟩, hshown _ (by decide) _ hfree⟩
  refine hfault [Section.featured] "bestsellers" [Section.free, Section.new] _ rfl ?_ hbestsellers
    rfl
  intro other hother g hg
  rw [List.mem_singleton.1 hother, hfeatured] at hg
  exact Except.error.inj hg ▸ rfl

end All

end Session

end Bookfinder
