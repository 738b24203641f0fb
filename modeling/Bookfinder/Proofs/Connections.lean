import Bookfinder.Database.Store
import Bookfinder.Proofs.RatingList
import Mathlib.Data.List.Basic

/-!
# Connections are given back

`Pool.traced` writes down what is done on a pool of connections, step by step, and whether a step
failed. `Leaves` says what an action writes down when it is traced, and that tracing makes no other
difference; it goes through the ways to put actions together.

What needs a connection takes some steps, one after another, until one of them fails (`Works`), and
does so between taking the connection and giving it back (`Performs`). So a connection that was
taken is given back once, after its last use (`Performs.borrows`), there is a result only if all
steps went well (`Performs.done_of_ok`), and where a failure of the database is undone, that happens
once, before the connection goes back (`Performs.rollsBack`).
-/

namespace Bookfinder

variable {σ α β : Type}

/-! ## Faults that are no failures of the database -/

/-- A failure of the database. -/
def Fault.isDatabase : Fault → Bool
  | .external .database _ => true
  | _ => false

/-- A value that cannot be read is no fault of the database. -/
theorem Fault.not_isDatabase_of_isUnreadable {f : Fault} (h : f.isUnreadable) : ¬f.isDatabase := by
  cases f with
  | external origin text => cases h
  | _ => exact Bool.false_ne_true

/-- Where there is no result, the database is not the cause. -/
def IsOwn (r : Except Fault α) : Prop := ∀ f, r = .error f → ¬f.isDatabase

namespace IsOwn

theorem ok (a : α) : IsOwn (.ok a : Except Fault α) := nofun

theorem error {f : Fault} (h : ¬f.isDatabase) : IsOwn (.error f : Except Fault α) :=
  fun _ hf => Except.error.inj hf ▸ h

/-- Two results that are no faults of the database make one. -/
theorem bind {r : Except Fault α} {k : α → Except Fault β} (hr : IsOwn r) (hk : ∀ a, IsOwn (k a)) :
    IsOwn (r >>= k) := by
  intro f hf
  rcases bind_eq_error.1 hf with hf | ⟨a, -, hf⟩
  · exact hr f hf
  · exact hk a f hf

theorem map {r : Except Fault α} (k : α → β) (hr : IsOwn r) : IsOwn (r.map k) :=
  fun f hf => hr f (error_of_map hf)

/-- The faults of decoding are none of the database. -/
theorem of_faultsWithin {beyond : Prop} {r : Except Fault α} (h : FaultsWithin beyond r) :
    IsOwn r := by
  intro f hf
  rcases h f hf with hunreadable | ⟨rfl, -⟩
  · exact Fault.not_isDatabase_of_isUnreadable hunreadable
  · exact Bool.false_ne_true

end IsOwn

/-- A sum that fails does so without the database. -/
theorem Payload.isOwn_sum (ps : List Payload) : IsOwn (Payload.sum ps) := by
  unfold Payload.sum
  generalize Number.int 0 = total
  induction ps generalizing total with
  | nil => exact .ok total
  | cons p ps ih =>
    have hnumber : IsOwn p.toNumber := by
      cases p with
      | bool | int | real => exact .ok _
      | _ => exact .error Bool.false_ne_true
    refine IsOwn.bind (hnumber.bind fun n => ?_) fun total => ih total
    cases total.add n with
    | none => exact .error Bool.false_ne_true
    | some sum => exact .ok sum

theorem Draft.isOwn_averageOf (scores : Scores Payload) : IsOwn (averageOf scores) := by
  have hmean : IsOwn (Payload.mean scores.toList) := by
    refine (Payload.isOwn_sum _).bind fun sum => ?_
    cases sum.divCount scores.toList.length with
    | none => exact .error Bool.false_ne_true
    | some mean => exact .ok mean
  have hdecimal (mean : Float) : IsOwn (Payload.real mean).toDecimal := by
    rw [Payload.toDecimal]
    cases Binary.ofFloat? mean with
    | none => exact .ok _
    | some b => exact .ok _
  refine hmean.bind fun mean => (hdecimal mean).bind fun reading => ?_
  split
  · next d =>
    cases (d.halfUp (-Payload.shownPlaces)).map Decimal.toFloat with
    | none => exact .error Bool.false_ne_true
    | some x => exact .ok x
  · exact .ok _
  all_goals exact .error Bool.false_ne_true

/-- A rating that is not accepted is refused without the database. -/
theorem Draft.isOwn_rating (d : Draft) : IsOwn d.rating := by
  intro f hf
  rcases Rating.fault_of_rating hf with hunreadable | ⟨-, -, haverage⟩
  · exact Fault.not_isDatabase_of_isUnreadable hunreadable
  · exact isOwn_averageOf d.scores f haverage

theorem isOwn_mapM {k : α → Except Fault β} (hk : ∀ a, IsOwn (k a)) (as : List α) :
    IsOwn (as.mapM k) := by
  induction as with
  | nil => exact .ok []
  | cons a as ih =>
    rw [List.mapM_cons]
    exact (hk a).bind fun b => ih.bind fun bs => .ok (b :: bs)

/-- A row that is no rating is not a failure of the database. -/
theorem Rating.isOwn_ofRow (row : Row) : IsOwn (ofRow row) := by
  unfold ofRow
  split
  · dsimp only
    split
    · exact (IsOwn.ok _).bind fun _ => Draft.isOwn_rating _
    · refine IsOwn.bind ?_ fun _ => Draft.isOwn_rating _
      exact (IsOwn.of_faultsWithin (Payload.faultsWithin_toReal _)).map _
  · exact .error Bool.false_ne_true

/-- Results that need no action may be lifted at once. -/
theorem mapM_lift (k : α → Except Fault β) (as : List α) :
    (as.mapM fun a => (Action.lift (.ofExcept (k a)) : Action σ β)) =
      Action.lift (.ofExcept (as.mapM k)) := by
  induction as with
  | nil => rfl
  | cons a as ih =>
    rw [List.mapM_cons, List.mapM_cons, ih]
    cases k a with
    | error e => rfl
    | ok b => cases as.mapM k <;> rfl

namespace Pool

/-! ## Traces -/

/-- What is done with a pool, and with the connection that was taken. -/
inductive Step where
  | take
  | openCursor
  | execute (statement : String) (params : Option (List Payload))
  | fetchAll
  | fetchOne
  | rowCount
  | commit
  | rollback
  | giveBack
deriving DecidableEq

/-- Something is done on the connection that was taken. -/
def Step.IsUse : Step → Prop
  | .take | .giveBack => False
  | _ => True

/-- A step that was taken, and the fault that it ended in if it failed. -/
structure Move where
  step : Step
  fault? : Option Fault
deriving DecidableEq

namespace Move

/-- The step went well. -/
def done (step : Step) : Move := ⟨step, none⟩

/-- The step failed. -/
def failed (step : Step) (f : Fault) : Move := ⟨step, some f⟩

/-- What is written down of a step with a result. -/
def of (step : Step) : Except Fault α → Move
  | .ok _ => done step
  | .error f => failed step f

end Move

open Pool.Move

/-- A step, which is written down after it was taken. -/
def noting (step : Step) (x : Action σ α) : Action (σ × List Move) α := fun t =>
  let (o, s) := x t.1
  (o, (s, t.2 ++ [Move.of step o.result]))

/-- A step is noted together with what came of it. -/
theorem run_noting (step : Step) (x : Action σ α) (s : σ) (log : List Move) :
    (noting step x).run (s, log) =
      ((x.run s).1, ((x.run s).2, log ++ [Move.of step (x.run s).1.result])) := rfl

/-- A pool that writes down what is done with it. -/
def traced (pool : Pool σ) : Pool (σ × List Move) where
  openPool least most address :=
    (pool.openPool least most address).onPart Prod.fst fun s t => (s, t.2)
  take := noting .take pool.take
  openCursor := noting .openCursor pool.openCursor
  execute statement params := noting (.execute statement params) (pool.execute statement params)
  fetchAll := noting .fetchAll pool.fetchAll
  fetchOne := noting .fetchOne pool.fetchOne
  rowCount := noting .rowCount pool.rowCount
  commit := noting .commit pool.commit
  rollback := noting .rollback pool.rollback
  giveBack := noting .giveBack pool.giveBack
  closeAll := pool.closeAll.onPart Prod.fst fun s t => (s, t.2)

/-- The action `x` does what `y` does, and `P` holds of what it writes down and of its result. -/
def Leaves (x : Action (σ × List Move) α) (y : Action σ α)
    (P : List Move → Except Fault α → Prop) : Prop :=
  ∀ s log, ∃ moves, x.run (s, log) = ((y.run s).1, ((y.run s).2, log ++ moves)) ∧
    P moves (y.run s).1.result

namespace Leaves

variable {x : Action (σ × List Move) α} {y : Action σ α} {f : α → Action (σ × List Move) β}
  {g : α → Action σ β} {P : List Move → Except Fault α → Prop}
  {Q : List Move → Except Fault β → Prop}

/-- What holds of the moves may be weakened. -/
theorem mono {P' : List Move → Except Fault α → Prop} (h : Leaves x y P)
    (hP : ∀ moves r, P moves r → P' moves r) : Leaves x y P' := by
  intro s log
  obtain ⟨moves, hrun, hmoves⟩ := h s log
  exact ⟨moves, hrun, hP _ _ hmoves⟩

theorem lift {o : Outcome α} (h : P [] o.result) :
    Leaves (Action.lift o : Action (σ × List Move) α) (Action.lift o) P :=
  fun s log => ⟨[], by rw [List.append_nil]; rfl, h⟩

/-- A noted step leaves one move. -/
theorem noting {step : Step} {x : Action σ α} (h : ∀ r, P [Move.of step r] r) :
    Leaves (noting step x) x P :=
  fun s log => ⟨_, run_noting step x s log, h _⟩

/-- Two actions in a row: the second one is left out if the first one fails. -/
theorem bind (hx : Leaves x y P) (herror : ∀ moves e, P moves (.error e) → Q moves (.error e))
    (hok : ∀ moves a, P moves (.ok a) → Leaves (f a) (g a) fun more r => Q (moves ++ more) r) :
    Leaves (x >>= f) (y >>= g) Q := by
  intro s log
  obtain ⟨moves, hrun, hmoves⟩ := hx s log
  rw [Action.run_bind, Action.run_bind, hrun]
  cases hr : (y.run s).1.result with
  | error e =>
    rw [hr] at hmoves
    exact ⟨moves, rfl, herror moves e hmoves⟩
  | ok a =>
    rw [hr] at hmoves
    obtain ⟨more, hrun', hmore⟩ := hok moves a hmoves (y.run s).2 (log ++ moves)
    dsimp only
    rw [hrun', List.append_assoc]
    exact ⟨moves ++ more, rfl, hmore⟩

theorem map (k : α → β) (hx : Leaves x y P) (h : ∀ moves r, P moves r → Q moves (r.map k)) :
    Leaves (k <$> x) (k <$> y) Q := by
  rw [map_eq_pure_bind, map_eq_pure_bind]
  refine hx.bind (fun moves e => h moves (.error e)) fun moves a ha => .lift ?_
  rw [List.append_nil]
  exact h moves (.ok a) ha

/-- An action and what closes it: a fault of the latter takes the place of the result. -/
theorem always {closing : Action (σ × List Move) Unit} {closing' : Action σ Unit}
    {C : List Move → Except Fault Unit → Prop} {R : List Move → Except Fault α → Prop}
    (hx : Leaves x y P) (hclosing : Leaves closing closing' C)
    (h : ∀ moves r more c, P moves r → C more c → R (moves ++ more) (c >>= fun _ => r)) :
    Leaves (x.always closing) (y.always closing') R := by
  intro s log
  obtain ⟨moves, hrun, hmoves⟩ := hx s log
  obtain ⟨more, hrun', hmore⟩ := hclosing (y.run s).2 (log ++ moves)
  rw [Action.run_always, Action.run_always, hrun]
  dsimp only
  rw [hrun', List.append_assoc]
  exact ⟨moves ++ more, rfl, h _ _ _ _ hmoves hmore⟩

/-- An action and what is done about a fault of it. -/
theorem tryCatch {handle : Fault → Action (σ × List Move) α} {handle' : Fault → Action σ α}
    {R : List Move → Except Fault α → Prop} (hx : Leaves x y P)
    (hok : ∀ moves a, P moves (.ok a) → R moves (.ok a))
    (herror : ∀ moves e, P moves (.error e) →
      Leaves (handle e) (handle' e) fun more r => R (moves ++ more) r) :
    Leaves (tryCatch x handle) (tryCatch y handle') R := by
  intro s log
  obtain ⟨moves, hrun, hmoves⟩ := hx s log
  rw [Action.run_tryCatch, Action.run_tryCatch, hrun]
  cases hr : (y.run s).1.result with
  | ok a =>
    rw [hr] at hmoves
    refine ⟨moves, rfl, ?_⟩
    rw [hr]
    exact hok moves a hmoves
  | error e =>
    rw [hr] at hmoves
    obtain ⟨more, hrun', hmore⟩ := herror moves e hmoves (y.run s).2 (log ++ moves)
    dsimp only
    rw [hrun', List.append_assoc]
    exact ⟨moves ++ more, rfl, hmore⟩

/-- A value is needed first. -/
theorem given {r : Except Fault α} (herror : ∀ e, r = .error e → Q [] (.error e))
    (hok : ∀ a, r = .ok a → Leaves (f a) (g a) Q) :
    Leaves ((liftM r : Action (σ × List Move) α) >>= f) (liftM r >>= g) Q := by
  cases r with
  | error e => exact .lift (o := .fail e) (herror e rfl)
  | ok a =>
    rw [Action.liftM_ok, Action.liftM_ok, pure_bind, pure_bind]
    exact hok a rfl

/-- A fault that is caught leaves the same moves. -/
theorem attempt {R : List Move → Except Fault (Except Fault α) → Prop} (hx : Leaves x y P)
    (h : ∀ moves r, P moves r → R moves (.ok r)) : Leaves x.attempt y.attempt R := by
  intro s log
  obtain ⟨moves, hrun, hmoves⟩ := hx s log
  rw [Action.run_attempt, Action.run_attempt, hrun]
  exact ⟨moves, rfl, h _ _ hmoves⟩

end Leaves

/-! ## Steps on a connection -/

/-- What is done of some steps until one fails. If failures of the database are undone, a rollback
comes after the step that failed, and a fault of the rollback takes the place of the first one. -/
inductive Works (undoes : Bool) (steps : List Step) : List Move → Except Fault α → Prop
  | through {r : Except Fault α} (h : IsOwn r) : Works undoes steps (steps.map done) r
  | broken (before : List Step) {after : List Step} {step : Step} {f : Fault}
      (hsteps : steps = before ++ step :: after) (hf : ¬(undoes ∧ f.isDatabase)) :
      Works undoes steps (before.map done ++ [failed step f]) (.error f)
  | undone (before : List Step) {after : List Step} {step : Step} {f : Fault}
      (rolled : Option Fault) (hsteps : steps = before ++ step :: after) (hundoes : undoes)
      (hf : f.isDatabase) :
      Works undoes steps (before.map done ++ [failed step f, ⟨.rollback, rolled⟩])
        (.error (rolled.getD f))

/-- What is done for an operation with some steps on a connection; without steps it needs none. -/
inductive Performs (undoes : Bool) (steps : List Step) : List Move → Except Fault α → Prop
  | idle {r : Except Fault α} (h : steps = []) : Performs undoes steps [] r
  | refused {f : Fault} (h : steps ≠ []) : Performs undoes steps [failed .take f] (.error f)
  | lent {used : List Move} {r : Except Fault α} (h : steps ≠ [])
      (hused : Works undoes steps used r) :
      Performs undoes steps (done .take :: used ++ [done .giveBack]) r
  | lost {used : List Move} {r : Except Fault α} {f : Fault} (h : steps ≠ [])
      (hused : Works undoes steps used r) :
      Performs undoes steps (done .take :: used ++ [failed .giveBack f]) (.error f)

section Steps

variable {undoes : Bool} {steps : List Step} {step : Step} {moves : List Move}
  {r : Except Fault α}

theorem Works.cons (h : Works undoes steps moves r) :
    Works undoes (step :: steps) (done step :: moves) r := by
  cases h with
  | through h => exact .through h
  | broken before hsteps hf => exact .broken (step :: before) (by rw [hsteps]; rfl) hf
  | undone before rolled hsteps hundoes hf =>
    exact .undone (step :: before) rolled (by rw [hsteps]; rfl) hundoes hf

theorem Works.map (k : α → β) (h : Works undoes steps moves r) :
    Works undoes steps moves (r.map k) := by
  cases h with
  | through h => exact .through (h.map k)
  | broken before hsteps hf => exact .broken before hsteps hf
  | undone before rolled hsteps hundoes hf => exact .undone before rolled hsteps hundoes hf

theorem Performs.map (k : α → β) (h : Performs undoes steps moves r) :
    Performs undoes steps moves (r.map k) := by
  cases h with
  | idle h => exact .idle h
  | refused h => exact .refused h
  | lent h hused => exact .lent h (hused.map k)
  | lost h hused => exact .lost h (hused.map k)

end Steps

namespace Leaves

variable {undoes : Bool} {steps : List Step}

/-- A turn whose steps are all done ends with a result of its own. -/
theorem finish {o : Outcome α} (h : IsOwn o.result) :
    Leaves (σ := σ) (Action.lift o) (Action.lift o) (Works undoes []) :=
  .lift (.through h)

theorem last {step : Step} {x : Action σ Unit} :
    Leaves (Pool.noting step x) x (Works false [step]) := by
  refine .noting fun r => ?_
  cases r with
  | ok u => exact .through (.ok u)
  | error e => exact .broken [] rfl (by simp)

/-- A step that is done comes before those that are left. -/
theorem step {step : Step} {x : Action σ α} {f : α → Action (σ × List Move) β}
    {g : α → Action σ β} (h : ∀ a, Leaves (f a) (g a) (Works false steps)) :
    Leaves (Pool.noting step x >>= f) (x >>= g) (Works false (step :: steps)) := by
  refine bind (P := fun moves r => moves = [Move.of step r]) (.noting fun _ => rfl) ?_ ?_
  · rintro _ e rfl
    exact .broken [] rfl (by simp)
  · rintro _ a rfl
    exact (h a).mono fun _ _ hmore => hmore.cons

end Leaves

/-! ## Undoing and giving back -/

/-- What is done about a fault of an operation that is undone. -/
def undo (pool : Pool σ) : Fault → Action σ α
  | .external .database text => do
    pool.rollback
    Action.note (.ratingNotSaved (.external .database text))
    throw (.external .database text)
  | f => throw f

/-- What is undone is a handler around the action. -/
theorem undoing_eq (pool : Pool σ) (x : Action σ α) : pool.undoing x = tryCatch x pool.undo := by
  refine congrArg (tryCatch x) (funext fun f => ?_)
  cases f with
  | external origin text => cases origin <;> rfl
  | _ => rfl

/-- Only a fault of the database is undone. -/
theorem undo_of_not_isDatabase {f : Fault} (hf : ¬f.isDatabase) (pool : Pool σ) :
    (pool.undo f : Action σ α) = throw f := by
  cases f with
  | external origin text =>
    cases origin with
    | database => exact absurd rfl hf
    | _ => rfl
  | _ => rfl

namespace Leaves

variable (pool : Pool σ) {undoes : Bool} {steps : List Step}

/-- What was begun is undone, if the database failed; the fault goes on, unless the rollback fails
too. -/
theorem undo {f : Fault} (hf : f.isDatabase) :
    Leaves (pool.traced.undo f) (pool.undo f : Action σ α) fun moves r =>
      ∃ rolled : Option Fault, moves = [⟨.rollback, rolled⟩] ∧ r = .error (rolled.getD f) := by
  obtain ⟨text, rfl⟩ : ∃ text, f = .external .database text := by
    cases f with
    | external origin text =>
      cases origin with
      | database => exact ⟨text, rfl⟩
      | _ => cases hf
    | _ => cases hf
  refine bind (P := fun moves r => moves = [Move.of .rollback r]) (.noting fun _ => rfl) ?_ ?_
  · rintro _ e rfl
    exact ⟨some e, rfl, rfl⟩
  · rintro _ u rfl
    exact .lift ⟨none, rfl, rfl⟩

/-- The steps of a turn are the same under the handler, which may undo them. -/
theorem undoing {x : Action (σ × List Move) α} {y : Action σ α}
    (h : Leaves x y (Works false steps)) :
    Leaves (pool.traced.undoing x) (pool.undoing y) (Works true steps) := by
  rw [undoing_eq, undoing_eq]
  refine h.tryCatch (fun moves a hmoves => ?_) fun moves e hmoves => ?_
  · cases hmoves with
    | through hown => exact .through hown
  · cases hmoves with
    | through hown =>
      -- a fault after the last step is no failure of the database, so nothing is undone
      have hf := hown e rfl
      rw [undo_of_not_isDatabase hf, undo_of_not_isDatabase hf]
      refine .lift ?_
      rw [List.append_nil]
      exact .through hown
    | broken before hsteps hf =>
      by_cases hdatabase : e.isDatabase
      · refine (Leaves.undo pool hdatabase).mono ?_
        rintro more r ⟨rolled, rfl, rfl⟩
        rw [List.append_assoc]
        exact .undone before rolled hsteps rfl hdatabase
      · rw [undo_of_not_isDatabase hdatabase, undo_of_not_isDatabase hdatabase]
        refine .lift ?_
        rw [List.append_nil]
        exact .broken before hsteps fun h => hdatabase h.2
    | undone _ _ _ hundoes => cases hundoes

/-- An operation on a connection that is lent to it. -/
theorem lend {x : Action (σ × List Move) α} {y : Action σ α} (hsteps : steps ≠ [])
    (h : Leaves x y (Works undoes steps)) :
    Leaves (pool.traced.lend x) (pool.lend y) (Performs undoes steps) := by
  refine bind (P := fun moves r => moves = [Move.of .take r]) (.noting fun _ => rfl) ?_ ?_
  · rintro _ e rfl
    exact .refused hsteps
  · rintro _ u rfl
    have hclosing : Leaves pool.traced.giveBack pool.giveBack fun moves r =>
        moves = [Move.of .giveBack r] := .noting fun _ => rfl
    refine h.always hclosing ?_
    rintro moves r _ c hmoves rfl
    cases c with
    | ok u => exact .lent hsteps hmoves
    | error f => exact .lost hsteps hmoves

end Leaves

/-! ## What is left of a connection -/

/-- A connection is taken at most once, and then given back once, after its last use. -/
inductive Borrows : List Move → Prop
  | idle : Borrows []
  | refused (f : Fault) : Borrows [failed .take f]
  | lent {used : List Move} (back : Option Fault) (hused : ∀ m ∈ used, m.step.IsUse) :
      Borrows (done .take :: used ++ [⟨.giveBack, back⟩])

section Performs

variable {undoes : Bool} {steps : List Step} {used moves : List Move} {r : Except Fault α}

/-- The moves of a turn are uses of the connection, as its steps are. -/
theorem Works.isUse (h : Works undoes steps used r) (hsteps : ∀ step ∈ steps, step.IsUse) :
    ∀ m ∈ used, m.step.IsUse := by
  have hdone {before : List Step} (hbefore : ∀ step ∈ before, step ∈ steps) :
      ∀ m ∈ before.map done, m.step.IsUse :=
    List.forall_mem_map.2 fun step hstep => hsteps step (hbefore step hstep)
  cases h with
  | through => exact hdone fun _ => id
  | broken _ h | undone _ _ h =>
    subst h
    refine List.forall_mem_append.2 ⟨hdone fun step hstep => List.mem_append_left _ hstep, ?_⟩
    have hfailed := hsteps _ (List.mem_append_right _ List.mem_cons_self)
    simpa [failed, done, Step.IsUse] using hfailed

/-- A turn takes a connection, uses it and gives it back. -/
theorem Performs.borrows (h : Performs undoes steps moves r)
    (hsteps : ∀ step ∈ steps, step.IsUse) : Borrows moves := by
  cases h with
  | idle => exact .idle
  | refused => exact .refused _
  | lent _ hused => exact .lent none (hused.isUse hsteps)
  | lost _ hused => exact .lent (some _) (hused.isUse hsteps)

/-- There is a result only if all steps went well. -/
theorem Performs.done_of_ok {a : α} (h : Performs undoes steps moves (.ok a)) :
    ∀ step ∈ steps, done step ∈ moves := by
  cases h with
  | idle h => simp [h]
  | lent _ hused =>
    cases hused with
    | through =>
      intro step hstep
      exact List.mem_append_left _ (List.mem_cons_of_mem _ (List.mem_map_of_mem hstep))

/-- A failed move tells its step and its fault. -/
theorem Move.failed_inj {step step' : Step} {f f' : Fault} :
    failed step f = failed step' f' ↔ step = step' ∧ f = f' := by
  simp [failed]

/-- After a step in which the database failed there is a rollback, the only one. -/
theorem Works.rollsBack {step : Step} {f : Fault} (h : Works true steps used r)
    (hstep : step ≠ .rollback) (hf : f.isDatabase) (hmem : failed step f ∈ used) :
    ∃ (before : List Step) (rolled : Option Fault),
      used = before.map done ++ [failed step f, ⟨.rollback, rolled⟩] ∧
        (∀ earlier ∈ before, earlier ∈ steps) ∧ r = .error (rolled.getD f) := by
  have hdone (before : List Step) : failed step f ∉ before.map done := by simp [failed, done]
  cases h with
  | through => exact absurd hmem (hdone _)
  | broken before _ hbroken =>
    have hlast := List.mem_singleton.1 ((List.mem_append.1 hmem).resolve_left (hdone before))
    obtain ⟨-, rfl⟩ := Move.failed_inj.1 hlast
    exact absurd ⟨rfl, hf⟩ hbroken
  | undone before rolled hsteps =>
    have hlast := (List.mem_append.1 hmem).resolve_left (hdone before)
    rcases List.mem_pair.1 hlast with hlast | hlast
    · obtain ⟨rfl, rfl⟩ := Move.failed_inj.1 hlast
      exact ⟨before, rolled, rfl, fun _ => hsteps ▸ List.mem_append_left _, rfl⟩
    · exact absurd (congrArg Move.step hlast) hstep

/-- A use that failed stands between the taking and the giving back. -/
theorem mem_used {step : Step} {f : Fault} (back : Option Fault) (hstep : step.IsUse)
    (h : failed step f ∈ done .take :: used ++ [⟨.giveBack, back⟩]) : failed step f ∈ used := by
  rcases List.mem_append.1 h with h | h
  · refine (List.mem_cons.1 h).resolve_left fun heq => ?_
    cases heq
  · obtain ⟨rfl, -⟩ := Move.mk.inj (List.mem_singleton.1 h)
    exact hstep.elim

/-- The rollback comes before the connection is given back, and the fault is the result, unless the
rollback failed or the connection could not be given back. -/
theorem Performs.rollsBack {step : Step} {f : Fault} (h : Performs true steps moves r)
    (hsteps : .rollback ∉ steps) (huse : step.IsUse) (hstep : step ≠ .rollback)
    (hf : f.isDatabase) (hmem : failed step f ∈ moves) :
    ∃ (before : List Move) (rolled back : Option Fault),
      moves = before ++ [failed step f, ⟨.rollback, rolled⟩, ⟨.giveBack, back⟩] ∧
        (∀ m ∈ before, m.step ≠ .rollback) ∧ r = .error ((back.or rolled).getD f) := by
  have hbefore {before : List Step} (h : ∀ earlier ∈ before, earlier ∈ steps) :
      ∀ m ∈ done .take :: before.map done, m.step ≠ .rollback :=
    List.forall_mem_cons.2 ⟨nofun, List.forall_mem_map.2 fun earlier hearlier heq =>
      hsteps (heq ▸ h earlier hearlier)⟩
  cases h with
  | idle => cases hmem
  | refused =>
    obtain ⟨rfl, -⟩ := Move.failed_inj.1 (List.mem_singleton.1 hmem)
    exact huse.elim
  | lent _ hused =>
    obtain ⟨before, rolled, rfl, hearlier, rfl⟩ :=
      hused.rollsBack hstep hf (mem_used none huse hmem)
    exact ⟨_, rolled, none, by simp [done], hbefore hearlier, rfl⟩
  | @lost _ _ lostFault _ hused =>
    obtain ⟨before, rolled, rfl, hearlier, -⟩ :=
      hused.rollsBack hstep hf (mem_used (some lostFault) huse hmem)
    exact ⟨_, rolled, some lostFault, by simp [failed], hbefore hearlier, rfl⟩

end Performs

end Pool

end Bookfinder
