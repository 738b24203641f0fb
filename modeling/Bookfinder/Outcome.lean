import Bookfinder.Notice

/-!
# Outcomes and actions

An `Outcome α` is the result of an operation, a value or a `Fault`, together with the notices
that it gave on the way. An `Action σ α` is an operation on a state: it leaves a new state even
if it fails. Both are monads; a fault ends the operation, and what was reported or changed before
it stays.
-/

namespace Bookfinder

/-- A result made in two steps comes from both. -/
theorem bind_eq_ok {α β : Type} {r : Except Fault α} {f : α → Except Fault β} {b : β} :
    r >>= f = .ok b ↔ ∃ a, r = .ok a ∧ f a = .ok b := by
  cases r with
  | error e => exact iff_of_false nofun (fun ⟨_, h, _⟩ => absurd h nofun)
  | ok a => exact ⟨fun h => ⟨a, rfl, h⟩, fun ⟨_, h, hf⟩ => Except.ok.inj h ▸ hf⟩

/-- It fails as the step that fails first. -/
theorem bind_eq_error {α β : Type} {r : Except Fault α} {f : α → Except Fault β} {e : Fault} :
    r >>= f = .error e ↔ r = .error e ∨ ∃ a, r = .ok a ∧ f a = .error e := by
  cases r with
  | error e' =>
    exact ⟨fun h => Or.inl (congrArg _ (Except.error.inj h)),
      fun h => h.elim (fun h => congrArg _ (Except.error.inj h)) fun ⟨_, h, _⟩ => absurd h nofun⟩
  | ok a =>
    exact ⟨fun h => Or.inr ⟨a, rfl, h⟩,
      fun h => h.elim (fun h => absurd h nofun) fun ⟨_, h, hf⟩ => Except.ok.inj h ▸ hf⟩

/-! ## Outcomes -/

/-- A value or a fault, and the notices given on the way. -/
structure Outcome (α : Type) where
  result : Except Fault α
  notices : List Notice
deriving Inhabited

namespace Outcome

variable {α β : Type}

/-- A value without notices. -/
def ok (a : α) : Outcome α := ⟨.ok a, []⟩

/-- A fault without notices. -/
def fail (f : Fault) : Outcome α := ⟨.error f, []⟩

/-- A result without notices. -/
def ofExcept (r : Except Fault α) : Outcome α := ⟨r, []⟩

/-- The one notice `n`. -/
def note (n : Notice) : Outcome Unit := ⟨.ok (), [n]⟩

/-- One outcome after another; the second is left out if the first is a fault. -/
def andThen (o : Outcome α) (f : α → Outcome β) : Outcome β :=
  match o.result with
  | .ok a => ⟨(f a).result, o.notices ++ (f a).notices⟩
  | .error e => ⟨.error e, o.notices⟩

instance : Monad Outcome where
  pure := ok
  bind := andThen

instance : MonadExceptOf Fault Outcome where
  throw := fail
  tryCatch o handle :=
    match o.result with
    | .ok _ => o
    | .error e => ⟨(handle e).result, o.notices ++ (handle e).notices⟩

instance : MonadLift (Except Fault) Outcome := ⟨ofExcept⟩

@[simp] theorem pure_eq (a : α) : (pure a : Outcome α) = ⟨.ok a, []⟩ := rfl

@[simp] theorem bind_mk_ok (a : α) (ns : List Notice) (f : α → Outcome β) :
    (⟨.ok a, ns⟩ : Outcome α) >>= f = ⟨(f a).result, ns ++ (f a).notices⟩ := rfl

@[simp] theorem bind_mk_error (e : Fault) (ns : List Notice) (f : α → Outcome β) :
    (⟨.error e, ns⟩ : Outcome α) >>= f = ⟨.error e, ns⟩ := rfl

/-- What follows a value decides the result. -/
theorem result_bind_of_ok {o : Outcome α} {a : α} (h : o.result = .ok a) (f : α → Outcome β) :
    (o >>= f).result = (f a).result := by
  obtain ⟨r, ns⟩ := o
  obtain rfl : r = .ok a := h
  rfl

/-- A fault is the result of the whole. -/
theorem result_bind_of_error {o : Outcome α} {e : Fault} (h : o.result = .error e)
    (f : α → Outcome β) : (o >>= f).result = .error e := by
  obtain ⟨r, ns⟩ := o
  obtain rfl : r = .error e := h
  rfl

theorem result_map (f : α → β) (o : Outcome α) : (f <$> o).result = o.result.map f := by
  obtain ⟨r, ns⟩ := o
  cases r <;> rfl

protected theorem id_map (o : Outcome α) : id <$> o = o := by
  obtain ⟨r, ns⟩ := o
  cases r <;> simp [Functor.map, andThen, ok]

protected theorem bind_assoc {γ : Type} (o : Outcome α) (f : α → Outcome β) (g : β → Outcome γ) :
    o >>= f >>= g = o >>= fun a => f a >>= g := by
  obtain ⟨r, ns⟩ := o
  cases r with
  | error e => simp
  | ok a =>
    simp only [bind_mk_ok]
    generalize f a = p
    obtain ⟨r, ms⟩ := p
    cases r <;> simp [List.append_assoc]

instance : LawfulMonad Outcome :=
  LawfulMonad.mk' Outcome Outcome.id_map (fun _ _ => by simp) Outcome.bind_assoc

end Outcome

/-! ## Actions -/

/-- An operation on a state of type `σ`. -/
def Action (σ α : Type) : Type := σ → Outcome α × σ

namespace Action

variable {σ α β : Type}

/-- The outcome and the state that an action leaves. -/
def run (x : Action σ α) (s : σ) : Outcome α × σ := x s

instance : Monad (Action σ) where
  pure a := fun s => (.ok a, s)
  bind x f := fun s =>
    let (o, s) := x s
    match o.result with
    | .ok a =>
      let (p, s) := f a s
      (⟨p.result, o.notices ++ p.notices⟩, s)
    | .error e => (⟨.error e, o.notices⟩, s)

/-- An outcome that leaves the state as it is. -/
def lift (o : Outcome α) : Action σ α := fun s => (o, s)

instance : MonadLift Outcome (Action σ) := ⟨lift⟩

instance : MonadLift (Except Fault) (Action σ) := ⟨fun r => lift (.ofExcept r)⟩

instance : MonadExceptOf Fault (Action σ) where
  throw e := lift (.fail e)
  tryCatch x handle := fun s =>
    let (o, s) := x s
    match o.result with
    | .ok _ => (o, s)
    | .error e =>
      let (p, s) := handle e s
      (⟨p.result, o.notices ++ p.notices⟩, s)

/-- The state. -/
def state : Action σ σ := fun s => (.ok s, s)

/-- Replaces the state by what `f` makes of it, with a result. -/
def update (f : σ → α × σ) : Action σ α := fun s => (.ok (f s).1, (f s).2)

/-- The one notice `n`. -/
def note (n : Notice) : Action σ Unit := lift (.note n)

/-- `x`, and then `closing` whether `x` failed or not. A fault of `closing` takes the place of
the result of `x`. -/
def always (x : Action σ α) (closing : Action σ Unit) : Action σ α := fun s =>
  let (o, s) := x s
  let (p, s) := closing s
  match p.result with
  | .ok _ => (⟨o.result, o.notices ++ p.notices⟩, s)
  | .error e => (⟨.error e, o.notices ++ p.notices⟩, s)

/-- The result of an action as a value; a fault does not end what comes after. -/
def attempt (x : Action σ α) : Action σ (Except Fault α) := fun s =>
  let (o, s) := x s
  (⟨.ok o.result, o.notices⟩, s)

/-- An action on one part of a larger state. -/
def onPart {τ : Type} (read : τ → σ) (write : σ → τ → τ) (x : Action σ α) : Action τ α := fun t =>
  let (o, s) := x (read t)
  (o, write s t)

/-! ### What actions do -/

theorem ext {x y : Action σ α} (h : ∀ s, x.run s = y.run s) : x = y := funext h

@[simp] theorem run_pure (a : α) (s : σ) : (pure a : Action σ α).run s = (.ok a, s) := rfl

/-- The second action starts where the first one ended, unless that failed. -/
theorem run_bind (x : Action σ α) (f : α → Action σ β) (s : σ) :
    (x >>= f).run s =
      match (x.run s).1.result with
      | .ok a =>
        (⟨((f a).run (x.run s).2).1.result,
          (x.run s).1.notices ++ ((f a).run (x.run s).2).1.notices⟩, ((f a).run (x.run s).2).2)
      | .error e => (⟨.error e, (x.run s).1.notices⟩, (x.run s).2) := by
  rfl

theorem run_bind_of_ok {x : Action σ α} {f : α → Action σ β} {s s' s'' : σ} {ns ms : List Notice}
    {a : α} {r : Except Fault β} (h : x.run s = (⟨.ok a, ns⟩, s'))
    (hf : (f a).run s' = (⟨r, ms⟩, s'')) : (x >>= f).run s = (⟨r, ns ++ ms⟩, s'') := by
  rw [run_bind, h]
  simp only [hf]

theorem run_bind_of_error {x : Action σ α} {f : α → Action σ β} {s s' : σ} {ns : List Notice}
    {e : Fault} (h : x.run s = (⟨.error e, ns⟩, s')) :
    (x >>= f).run s = (⟨.error e, ns⟩, s') := by
  rw [run_bind, h]

/-- The result of an action made in two steps comes from both. -/
theorem result_bind (x : Action σ α) (f : α → Action σ β) (s : σ) :
    ((x >>= f).run s).1.result =
      (x.run s).1.result >>= fun a => ((f a).run (x.run s).2).1.result := by
  rw [run_bind]
  cases (x.run s).1.result <;> rfl

/-- An action made in two steps gives a value if both do. -/
theorem result_bind_eq_ok {x : Action σ α} {f : α → Action σ β} {s : σ} {b : β} :
    ((x >>= f).run s).1.result = .ok b ↔
      ∃ a, (x.run s).1.result = .ok a ∧ ((f a).run (x.run s).2).1.result = .ok b := by
  rw [run_bind]
  cases (x.run s).1.result with
  | error e => exact iff_of_false nofun (fun ⟨_, h, _⟩ => absurd h nofun)
  | ok a => exact ⟨fun h => ⟨a, rfl, h⟩, fun ⟨_, h, hf⟩ => Except.ok.inj h ▸ hf⟩

/-- A function of the value changes neither a fault nor the state. -/
theorem run_map (f : α → β) (x : Action σ α) (s : σ) :
    (f <$> x).run s =
      (⟨(x.run s).1.result.map f, (x.run s).1.notices⟩, (x.run s).2) := by
  change (x >>= fun a => pure (f a)).run s = _
  rw [run_bind]
  cases (x.run s).1.result with
  | error e => rfl
  | ok a => simp [Outcome.ok, Except.map]

/-- A handler starts where the action failed. -/
theorem run_tryCatch (x : Action σ α) (handle : Fault → Action σ α) (s : σ) :
    (tryCatch x handle).run s =
      match (x.run s).1.result with
      | .ok _ => x.run s
      | .error e =>
        (⟨((handle e).run (x.run s).2).1.result,
          (x.run s).1.notices ++ ((handle e).run (x.run s).2).1.notices⟩,
          ((handle e).run (x.run s).2).2) := by
  rfl

@[simp] theorem run_lift (o : Outcome α) (s : σ) : (lift o).run s = (o, s) := rfl

theorem liftM_ok (a : α) : (liftM (Except.ok a : Except Fault α) : Action σ α) = pure a := rfl

theorem liftM_error (e : Fault) :
    (liftM (Except.error e : Except Fault α) : Action σ α) = throw e := rfl

/-- Nothing comes after a fault. -/
theorem throw_bind (e : Fault) (f : α → Action σ β) : (throw e : Action σ α) >>= f = throw e := rfl

@[simp] theorem run_throw (e : Fault) (s : σ) :
    (throw e : Action σ α).run s = (⟨.error e, []⟩, s) := rfl

@[simp] theorem run_state (s : σ) : (state : Action σ σ).run s = (.ok s, s) := rfl

@[simp] theorem run_update (f : σ → α × σ) (s : σ) :
    (update f).run s = (.ok (f s).1, (f s).2) := rfl

@[simp] theorem run_note (n : Notice) (s : σ) : (note n).run s = (⟨.ok (), [n]⟩, s) := rfl

@[simp] theorem run_attempt (x : Action σ α) (s : σ) :
    x.attempt.run s = (⟨.ok (x.run s).1.result, (x.run s).1.notices⟩, (x.run s).2) := rfl

@[simp] theorem run_onPart {τ : Type} (read : τ → σ) (write : σ → τ → τ) (x : Action σ α)
    (t : τ) : (x.onPart read write).run t = ((x.run (read t)).1, write (x.run (read t)).2 t) :=
  rfl

/-- The closing action runs on what the first one leaves, and a fault of it takes the place of the
result. -/
theorem run_always (x : Action σ α) (closing : Action σ Unit) (s : σ) :
    (x.always closing).run s =
      (⟨(closing.run (x.run s).2).1.result >>= fun _ => (x.run s).1.result,
        (x.run s).1.notices ++ (closing.run (x.run s).2).1.notices⟩,
        (closing.run (x.run s).2).2) := by
  simp only [run, always]
  split
  · next h => rw [h]; rfl
  · next h => rw [h]; rfl

protected theorem id_map (x : Action σ α) : id <$> x = x := by
  refine ext fun s => ?_
  change (x >>= fun a => pure a).run s = x.run s
  rw [run_bind]
  obtain ⟨⟨r, ns⟩, t⟩ := x.run s
  cases r <;> simp [Outcome.ok]

protected theorem bind_assoc {γ : Type} (x : Action σ α) (f : α → Action σ β)
    (g : β → Action σ γ) : x >>= f >>= g = x >>= fun a => f a >>= g := by
  refine ext fun s => ?_
  simp only [run_bind]
  obtain ⟨⟨r, ns⟩, t⟩ := x.run s
  cases r with
  | error e => rfl
  | ok a =>
    simp only
    generalize (f a).run t = after
    obtain ⟨⟨r, ms⟩, u⟩ := after
    cases r <;> simp [List.append_assoc]

instance : LawfulMonad (Action σ) :=
  LawfulMonad.mk' (Action σ) Action.id_map (fun _ _ => ext fun _ => by simp [run_bind, Outcome.ok])
    Action.bind_assoc

/-- One more step of a series in which nothing fails. -/
theorem run_mapM_cons {f : α → Action σ β} {s s' s'' : σ} {ns ms : List Notice} {a : α}
    {as : List α} {b : β} {bs : List β} (h : (f a).run s = (⟨.ok b, ns⟩, s'))
    (hrest : (as.mapM f).run s' = (⟨.ok bs, ms⟩, s'')) :
    ((a :: as).mapM f).run s = (⟨.ok (b :: bs), ns ++ ms⟩, s'') := by
  have hbs : (as.mapM f >>= fun bs => pure (b :: bs)).run s' = (⟨.ok (b :: bs), ms ++ []⟩, s'') :=
    run_bind_of_ok hrest rfl
  rw [List.append_nil] at hbs
  rw [List.mapM_cons]
  exact run_bind_of_ok h hbs

end Action

end Bookfinder
