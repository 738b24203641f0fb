import Bookfinder.Database.Store
import Bookfinder.Proofs.Connections
import Bookfinder.Rating.Ledger

/-!
# The turns of a database

A database is asked to do one thing after another. Each `Pool.Operation` has its steps on a
connection (`Operation.steps`), and what it leaves in a trace is what is done for an operation with
these steps (`Operation.leaves_perform`): all of them are taken, or those up to one that fails,
between taking a connection and giving it back. A look-up under a name that is no text, or of no
books, gives up or is done before it needs a connection.

A series of operations is a series of turns (`Pool.performAll_turns`). In each of them a connection
that was taken is given back once, after its last use (`Turn.IsSound`). There is a result only if
all steps went well, the commit among them, and if the database fails while a rating is kept, what
was begun is undone once.
-/

namespace Bookfinder.Pool

variable {σ : Type}

/-- What a database is asked to do. -/
inductive Operation where
  | prepare
  | get (username isbn : Payload)
  | save (r : Rating)
  | remove (username isbn : Payload)
  | ratingsFor (isbn : Payload)
  | userRatings (username : Payload)
  | ratingsForBooks (isbns : List Payload)
  | allRatings

namespace Operation

/-- The kind of answer to an operation. -/
def Answer : Operation → Type
  | .prepare => Unit
  | .get .. => Option Rating
  | .save _ => Rating
  | .remove .. => Bool
  | .ratingsFor _ | .userRatings _ | .allRatings => List Rating
  | .ratingsForBooks _ => RatingsByBook

/-- Carries an operation out on a pool. -/
def perform (pool : Pool σ) : (op : Operation) → Action σ op.Answer
  | .prepare => pool.prepare
  | .get username isbn => pool.store.get username isbn
  | .save r => pool.store.save r
  | .remove username isbn => pool.store.remove username isbn
  | .ratingsFor isbn => pool.store.ratingsFor isbn
  | .userRatings username => pool.store.userRatings username
  | .ratingsForBooks isbns => pool.store.ratingsForBooks isbns
  | .allRatings => pool.store.allRatings

/-- The steps that look ratings up. -/
def lookup (condition : String) (params : List Payload) : List Step :=
  [.openCursor, .execute (Statement.select condition) (some params), .fetchAll]

/-- The ISBNs of several books, each once and in order. -/
def wanted (isbns : List String) : List String :=
  ((isbns.map Text.trim).eraseDups).mergeSort fun a b => decide (a ≤ b)

theorem isEmpty_wanted (isbns : List String) : (wanted isbns).isEmpty = isbns.isEmpty := by
  cases isbns with
  | nil => simp [wanted]
  | cons isbn isbns =>
    have hmem : Text.trim isbn ∈ wanted (isbn :: isbns) := by simp [wanted]
    exact List.isEmpty_eq_false_iff_exists_mem.2 ⟨_, hmem⟩

/-- The steps of an operation on its connection. A look-up under a name that is no text, or of no
books, needs none. -/
def steps : Operation → List Step
  | .prepare =>
    [.openCursor, .execute Statement.createTable none, .execute Statement.createIndex none, .commit]
  | .get username isbn =>
    match Ledger.key username isbn with
    | .ok (username, isbn) => lookup Statement.ofReaderAndBook [.text username, .text isbn]
    | .error _ => []
  | .save r =>
    [.openCursor, .execute Statement.save (some (saveParams r)), .fetchOne, .commit]
  | .remove username isbn =>
    .openCursor :: match Ledger.key username isbn with
    | .ok (username, isbn) =>
      [.execute Statement.delete (some [.text username, .text isbn]), .rowCount, .commit]
    | .error _ => []
  | .ratingsFor isbn =>
    match isbn.asText with
    | .ok isbn => lookup "isbn = %s" [.text (Text.trim isbn)]
    | .error _ => []
  | .userRatings username =>
    match username.asText with
    | .ok username => lookup "username = %s" [.text (normalUsername username)]
    | .error _ => []
  | .ratingsForBooks isbns =>
    match isbns.mapM Payload.asText with
    | .ok isbns =>
      if isbns.isEmpty then []
      else lookup "isbn = ANY(%s)" [.list ((wanted isbns).map .text)]
    | .error _ => []
  | .allRatings => lookup "" []

/-- Whether failures of the database are undone. -/
def undoes : Operation → Bool
  | .save _ => true
  | _ => false

theorem isOwn_key (username isbn : Payload) : IsOwn (Ledger.key username isbn) := by
  have hname (p : Payload) : IsOwn p.asText := .of_faultsWithin (Payload.faultsWithin_asText p)
  exact (hname username).bind fun _ => (hname isbn).bind fun _ => .ok _

/-- The names of a reader and a book are needed first. -/
theorem leaves_named {α : Type} {username isbn : Payload}
    {f : String → String → Action (σ × List Move) α} {g : String → String → Action σ α}
    {Q : List Move → Except Fault α → Prop}
    (herror : ∀ e, Ledger.key username isbn = .error e → Q [] (.error e))
    (hok : ∀ u i, Ledger.key username isbn = .ok (normalUsername u, Text.trim i) →
      Leaves (f u i) (g u i) Q) :
    Leaves (do f (← username.asText) (← isbn.asText)) (do g (← username.asText) (← isbn.asText))
      Q := by
  refine .given (fun e he => herror e ?_) fun u hu =>
    .given (fun e he => herror e ?_) fun i hi => hok u i ?_
  · rw [Ledger.key, he]
    rfl
  · rw [Ledger.key, hu, he]
    rfl
  · rw [Ledger.key, hu, hi]
    rfl

variable (pool : Pool σ)

theorem leaves_fetch (condition : String) (params : List Payload) :
    Leaves (pool.traced.fetch condition params) (pool.fetch condition params)
      (Performs false (lookup condition params)) := by
  refine Leaves.lend pool (by simp [lookup]) <|
    .step fun _ => .step fun _ => .step fun rows => ?_
  rw [mapM_lift, mapM_lift]
  exact .finish (isOwn_mapM Rating.isOwn_ofRow rows)

theorem leaves_perform (op : Operation) :
    Leaves (op.perform pool.traced) (op.perform pool) (Performs op.undoes op.steps) := by
  cases op with
  | prepare =>
    exact Leaves.lend pool (by simp [steps]) <|
      .step fun _ => .step fun _ => .step fun _ => .last
  | save r =>
    refine Leaves.lend pool (by simp [steps]) <| Leaves.undoing pool <|
      .step fun _ => .step fun _ => .step fun row => .step fun _ => .finish ?_
    cases row with
    | none => exact .error Bool.false_ne_true
    | some row => exact Rating.isOwn_ofRow row
  | get username isbn =>
    refine leaves_named (fun e he => .idle ?_) fun u i hkey => ?_
    · simp only [steps, he]
    · simp only [steps, hkey]
      exact (leaves_fetch pool _ _).map List.head? fun _ _ h => h.map _
  | remove username isbn =>
    -- the names are read on the open cursor, so a name that is no text gives up there
    refine Leaves.lend pool (by simp [steps]) <| .step fun _ => ?_
    refine leaves_named (fun e he => ?_) fun u i hkey => ?_
    · rw [he]
      exact .through (.error (isOwn_key username isbn e he))
    · rw [hkey]
      exact .step fun _ => .step fun removed => .step fun _ => .finish (.ok _)
  | ratingsFor isbn =>
    refine .given (fun e he => .idle ?_) fun i hi => ?_
    · simp only [steps, he]
    · simp only [steps, hi]
      exact leaves_fetch pool _ _
  | userRatings username =>
    refine .given (fun e he => .idle ?_) fun u hu => ?_
    · simp only [steps, he]
    · simp only [steps, hu]
      exact leaves_fetch pool _ _
  | ratingsForBooks isbns =>
    -- all names are read before a connection is taken
    have hnames (τ : Type) : (isbns.mapM fun p => (p.asText : Action τ String)) =
        liftM (isbns.mapM Payload.asText) := mapM_lift Payload.asText isbns
    simp only [perform, store, hnames]
    refine .given (fun e he => .idle ?_) fun texts htexts => ?_
    · simp only [steps, he]
    · change Leaves (if (wanted texts).isEmpty then _ else _)
        (if (wanted texts).isEmpty then _ else _) _
      simp only [steps, htexts, isEmpty_wanted]
      cases texts.isEmpty with
      | true => exact .lift (Performs.idle rfl)
      | false => exact (leaves_fetch pool _ _).map RatingsByBook.ofList fun _ _ h => h.map _
  | allRatings => exact leaves_fetch pool "" []

theorem isUse_of_mem_lookup (condition : String) (params : List Payload) :
    ∀ step ∈ lookup condition params, step.IsUse ∧ step ≠ .rollback := by
  simp [lookup, Step.IsUse]

theorem isUse_of_mem_steps (op : Operation) :
    ∀ step ∈ op.steps, step.IsUse ∧ step ≠ .rollback := by
  cases op with
  | prepare | save => simp [steps, Step.IsUse]
  | allRatings => exact isUse_of_mem_lookup "" []
  | remove =>
    rw [steps]
    split <;> simp [Step.IsUse]
  | get | ratingsFor | userRatings =>
    rw [steps]
    split
    · exact isUse_of_mem_lookup _ _
    · exact List.forall_mem_nil _
  | ratingsForBooks =>
    rw [steps]
    split
    · split
      · exact List.forall_mem_nil _
      · exact isUse_of_mem_lookup _ _
    · exact List.forall_mem_nil _

end Operation

/-! ## Turns -/

/-- What came of an operation. -/
structure Report where
  operation : Operation
  result : Except Fault operation.Answer

/-- A report with what was done on the pool. -/
structure Turn extends Report where
  moves : List Move

/-- A turn of a database. -/
structure Turn.IsSound (t : Turn) : Prop where
  performs : Performs t.operation.undoes t.operation.steps t.moves t.result
  borrows : Borrows t.moves
  /-- An answer that needs a connection comes after all steps have gone well. -/
  complete : ∀ answer, t.result = .ok answer →
    ∀ step ∈ t.operation.steps, Move.done step ∈ t.moves
  /-- If the database fails in a step of an operation that is undone, there is one rollback before
  the connection is given back. The fault is the result, unless one of these fails too. -/
  rollsBack : t.operation.undoes → ∀ step ∈ t.operation.steps, ∀ f : Fault, f.isDatabase →
    Move.failed step f ∈ t.moves → ∃ (before : List Move) (rolled back : Option Fault),
      t.moves = before ++ [.failed step f, ⟨.rollback, rolled⟩, ⟨.giveBack, back⟩] ∧
        (∀ m ∈ before, m.step ≠ .rollback) ∧ t.result = .error ((back.or rolled).getD f)

theorem Turn.IsSound.of_performs {t : Turn}
    (h : Performs t.operation.undoes t.operation.steps t.moves t.result) : t.IsSound where
  performs := h
  borrows := h.borrows fun step hstep => (t.operation.isUse_of_mem_steps step hstep).1
  complete answer hanswer := (hanswer ▸ h).done_of_ok
  rollsBack hundoes step hstep f hf hmem := by
    obtain ⟨huse, hne⟩ := t.operation.isUse_of_mem_steps step hstep
    rw [hundoes] at h
    exact h.rollsBack (fun hmem => (t.operation.isUse_of_mem_steps _ hmem).2 rfl) huse hne hf hmem

/-- Carries an operation out and reports what came of it. -/
def Operation.report (pool : Pool σ) (op : Operation) : Action σ Report :=
  Report.mk op <$> (op.perform pool).attempt

theorem Operation.leaves_report (pool : Pool σ) (op : Operation) :
    Leaves (op.report pool.traced) (op.report pool) fun moves r =>
      ∃ t : Turn, t.operation = op ∧ t.moves = moves ∧ r = .ok t.toReport ∧ t.IsSound := by
  have hattempt := (op.leaves_perform pool).attempt (R := fun moves r =>
    ∃ result, r = .ok result ∧ Performs op.undoes op.steps moves result) fun _ r h => ⟨r, rfl, h⟩
  refine hattempt.map (Report.mk op) ?_
  rintro moves _ ⟨result, rfl, h⟩
  exact ⟨⟨⟨op, result⟩, moves⟩, rfl, rfl, rfl, .of_performs h⟩

/-- Operations one after another; one that fails does not keep the next one from its turn. -/
def performAll (pool : Pool σ) (ops : List Operation) : Action σ (List Report) :=
  ops.mapM (Operation.report pool)

/-- What a series of operations leaves are its turns. -/
theorem leaves_performAll (pool : Pool σ) (ops : List Operation) :
    Leaves (performAll pool.traced ops) (performAll pool ops) fun moves r =>
      ∃ turns : List Turn, turns.map (·.operation) = ops ∧ moves = turns.flatMap (·.moves) ∧
        r = .ok (turns.map Turn.toReport) ∧ ∀ t ∈ turns, t.IsSound := by
  induction ops with
  | nil => exact .lift (o := .ok []) ⟨[], rfl, rfl, rfl, List.forall_mem_nil _⟩
  | cons op ops ih =>
    unfold performAll
    rw [List.mapM_cons, List.mapM_cons]
    refine (op.leaves_report pool).bind (fun _ _ ⟨_, _, _, h, _⟩ => nomatch h) ?_
    rintro _ report ⟨t, rfl, rfl, hreport, ht⟩
    obtain rfl := Except.ok.inj hreport
    refine ih.bind (fun _ _ ⟨_, _, _, h, _⟩ => nomatch h) ?_
    rintro _ reports ⟨turns, rfl, rfl, hreports, hturns⟩
    obtain rfl := Except.ok.inj hreports
    refine .lift (o := .ok _) ⟨t :: turns, rfl, ?_, rfl, List.forall_mem_cons.2 ⟨ht, hturns⟩⟩
    rw [List.append_nil, List.flatMap_cons]

/-- A series of operations on any pool, whatever its connections do: each operation has its turn,
and nothing else is done on the pool. Tracing makes no other difference. -/
theorem performAll_turns (pool : Pool σ) (ops : List Operation) (s : σ) :
    ∃ turns : List Turn, turns.map (·.operation) = ops ∧
      (performAll pool.traced ops).run (s, []) =
        (((performAll pool ops).run s).1,
          (((performAll pool ops).run s).2, turns.flatMap (·.moves))) ∧
      ((performAll pool ops).run s).1.result = .ok (turns.map Turn.toReport) ∧
      ∀ t ∈ turns, t.IsSound := by
  obtain ⟨moves, hrun, turns, hops, rfl, hresult, hsound⟩ := leaves_performAll pool ops s []
  exact ⟨turns, hops, hrun, hresult, hsound⟩

end Bookfinder.Pool
