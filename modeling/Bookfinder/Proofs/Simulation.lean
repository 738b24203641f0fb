import Bookfinder.Search.Session

/-!
# Actions seen from a smaller state

`Action.Simulates view x y` says that the action `x`, seen through `view`, is the action `y`: it
has the same outcome and leaves the same of what is seen. It goes through the steps of an action
(`Simulates.bind`), so a search with services whose state was made larger is, as far as the old
state goes, the search that it was before (`Session.simulates_execute`).
-/

namespace Bookfinder

namespace Action

variable {σ τ α β : Type}

/-- Seen through `view`, the action `x` is the action `y`. -/
def Simulates (view : τ → σ) (x : Action τ α) (y : Action σ α) : Prop :=
  ∀ t, y.run (view t) = ((x.run t).1, view (x.run t).2)

namespace Simulates

variable {view : τ → σ}

theorem pure (a : α) : Simulates view (pure a) (pure a) := fun _ => rfl

theorem throw (e : Fault) : Simulates view (throw e : Action τ α) (throw e) := fun _ => rfl

/-- What touches no state is the same for every view. -/
theorem lift (o : Outcome α) : Simulates view (Action.lift o) (Action.lift o) := fun _ => rfl

/-- An action made in two steps is simulated step by step. -/
theorem bind {x : Action τ α} {y : Action σ α} {f : α → Action τ β} {g : α → Action σ β}
    (hx : Simulates view x y) (hf : ∀ a, Simulates view (f a) (g a)) :
    Simulates view (x >>= f) (y >>= g) := by
  intro t
  rw [run_bind, run_bind, hx t]
  obtain ⟨⟨r, ns⟩, u⟩ := x.run t
  cases r with
  | error e => rfl
  | ok a => simp only [hf a u]

theorem map {x : Action τ α} {y : Action σ α} (f : α → β) (h : Simulates view x y) :
    Simulates view (f <$> x) (f <$> y) :=
  h.bind fun a => pure (f a)

/-- An action on a part does to the part what it did before. -/
theorem onPart {write : σ → τ → τ} (hwrite : ∀ s t, view (write s t) = s) (y : Action σ α) :
    Simulates view (y.onPart view write) y := by
  intro t
  rw [run_onPart, hwrite]

end Simulates

end Action

open Bookfinder.Action

variable {σ τ α β : Type} {view : τ → σ} {write : σ → τ → τ}

/-! ## Parts of a state -/

/-- What `view` shows and `write` replaces is a part of the state. -/
structure IsPart (view : τ → σ) (write : σ → τ → τ) : Prop where
  view_write : ∀ s t, view (write s t) = s
  write_view : ∀ t, write (view t) t = t
  write_write : ∀ s s' t, write s (write s' t) = write s t

theorem isPart_fst : IsPart (Prod.fst : σ × τ → σ) fun s t => (s, t.2) :=
  ⟨fun _ _ => rfl, fun _ => rfl, fun _ _ _ => rfl⟩

theorem isPart_snd : IsPart (Prod.snd : τ × σ → σ) fun s t => (t.1, s) :=
  ⟨fun _ _ => rfl, fun _ => rfl, fun _ _ _ => rfl⟩

section Part

variable (h : IsPart view write)
include h

namespace IsPart

theorem onPart_pure (a : α) : (pure a : Action σ α).onPart view write = pure a :=
  Action.ext fun t => by rw [run_onPart, run_pure, run_pure, h.write_view]

theorem onPart_lift (o : Outcome α) : (Action.lift o).onPart view write = Action.lift o :=
  Action.ext fun t => by rw [run_onPart, run_lift, run_lift, h.write_view]

/-- What is done on a part is done there step by step. -/
theorem onPart_bind (x : Action σ α) (f : α → Action σ β) :
    (x >>= f).onPart view write =
      x.onPart view write >>= fun a => (f a).onPart view write := by
  refine Action.ext fun t => ?_
  simp only [run_onPart, run_bind]
  obtain ⟨⟨r, ns⟩, s⟩ := x.run (view t)
  cases r with
  | error e => rfl
  | ok a => simp only [h.view_write, h.write_write]

theorem onPart_mapM (f : α → Action σ β) (as : List α) :
    (as.mapM f).onPart view write = as.mapM fun a => (f a).onPart view write := by
  induction as with
  | nil => exact h.onPart_pure []
  | cons a as ih =>
    rw [List.mapM_cons, List.mapM_cons, h.onPart_bind]
    refine bind_congr fun b => ?_
    rw [h.onPart_bind, ih]
    exact bind_congr fun bs => h.onPart_pure (b :: bs)

end IsPart

/-- Looking ratings up in a part of the state is looking them up there. -/
theorem RatingStore.enrich_onPart (store : RatingStore σ) (books : List Book) :
    (store.onPart view write).enrich books = (store.enrich books).onPart view write := by
  unfold enrich
  dsimp only
  split
  · rw [h.onPart_pure]
  · rw [h.onPart_bind]
    refine bind_congr fun groups => ?_
    rw [h.onPart_mapM]
    exact congrArg (List.mapM · books) (funext fun b => (h.onPart_lift _).symm)

/-- Ratings that are kept in a part of the state are looked up in that part only. -/
theorem Services.enriched_onPart {large : Services τ} {services : Services σ}
    (hr : large.ratings = services.ratings.map (.onPart view write)) (books : List Book) :
    large.enriched books = (services.enriched books).onPart view write := by
  unfold enriched
  rw [hr]
  cases services.ratings with
  | none => exact (h.onPart_pure books).symm
  | some store =>
    simp only [Option.map_some]
    split
    · exact (h.onPart_pure books).symm
    · exact store.enrich_onPart h books

end Part

/-! ## Searches -/

/-- A choice of services does, seen through `view`, what another one does. -/
structure Services.Simulate (view : τ → σ) (large : Services τ) (services : Services σ) :
    Prop where
  catalogue : ∀ call, Simulates view (large.catalogue call) (services.catalogue call)
  enriched : ∀ books, Simulates view (large.enriched books) (services.enriched books)

section Searches

variable {large : Services τ} {services : Services σ} (h : large.Simulate view services)
include h

/-- The first question of a search does, seen through the view, what it did before. -/
theorem Services.Simulate.primary (q : Query) :
    Simulates view (large.primary q) (services.primary q) := by
  refine (h.catalogue q.call).bind fun answer => ?_
  cases answer with
  | none => exact .pure none
  | some books =>
    dsimp only
    split
    · exact (Simulates.lift _).map some
    · exact .pure _

/-- So does the general question. -/
theorem Services.Simulate.fallback (q : Query) :
    Simulates view (large.fallback q) (services.fallback q) := by
  refine (h.catalogue (.search q.term)).bind fun answer => ?_
  cases answer with
  | none => exact .pure none
  | some books => exact (Simulates.lift _).map some

/-- A search asks the same questions and finds the same books. -/
theorem Services.Simulate.find (q : Query) :
    Simulates view (large.find q) (services.find q) := by
  refine (h.primary q).bind fun answer => ?_
  cases answer with
  | some books => exact .pure _
  | none =>
    refine (Simulates.lift _).bind fun _ => (Simulates.lift _).bind fun _ =>
      (h.fallback q).bind fun answer => ?_
    cases answer with
    | some books => exact .pure _
    | none => exact (Simulates.lift _).bind fun _ => (Simulates.lift _).bind fun _ => .throw _

end Searches

namespace Session

/-- A session with another view of what is outside. -/
def map (view : τ → σ) (s : Session τ) : Session σ := ⟨s.navigation, view s.outside⟩

/-- A view of what is outside is kept by what is done there. -/
theorem simulates_reach {α : Type} {x : Action τ α} {y : Action σ α} (h : Simulates view x y) :
    Simulates (map view) (reach x) (reach y) := by
  intro s
  rw [run_reach, run_reach]
  simp only [map, h s.outside]

theorem simulates_navigate {α : Type} (f : Navigation → α × Navigation) :
    Simulates (map view) (navigate f) (navigate f) := fun _ => rfl

/-- Outside the navigation a session does what was to be done there. -/
theorem simulates_outside {α : Type} (x : Action σ α) : Simulates outside (reach x) x :=
  .onPart (fun _ _ => rfl) x

/-- What is done to the navigation is not seen outside. -/
theorem simulates_outside_navigate {α β : Type} (g : Navigation → α × Navigation)
    {f : α → Action (Session σ) β} {y : Action σ β} (hf : ∀ a, Simulates outside (f a) y) :
    Simulates outside (navigate g >>= f) y := by
  intro s
  rw [run_bind, run_navigate]
  exact hf _ ⟨(g s.navigation).2, s.outside⟩

/-- A whole search, seen through the view, is the search with the smaller services. -/
theorem simulates_execute {large : Services τ} {services : Services σ}
    (h : large.Simulate view services) (r : Request) (name : Option String) :
    Simulates (map view) (execute large r name) (execute services r name) := by
  have hstart : Simulates (map view) (Flight.start r name) (Flight.start r name) :=
    (simulates_navigate _).bind fun _ => (Simulates.lift _).bind fun _ => .pure _
  refine hstart.bind fun f => (simulates_reach (h.find f.query)).bind fun found => ?_
  refine (simulates_reach (h.enriched _)).bind fun books => ?_
  exact (simulates_navigate _).bind fun stored => .pure _

end Session

end Bookfinder
