import Bookfinder.Search.Collection

/-!
# Requests side by side

Searches and loads of sections run at the same time, and between two steps of one of them any
number of steps of the others may come. A `Job` is what is asked of a session. It takes its token
in its first step (`Job.start`); `Stage` is how far it has come since, and `Stage.proceed` is the
next step: a question to the catalogue, the second question of a search, the ratings, and last
the write. Left alone, these steps are `Session.execute` and `Session.loadCollection`
(`Job.start_bind_after`).

`Traffic` is any number of requests on one session. `Traffic.step` makes one `Move`: a request
begins, a request proceeds, or the session is reset. Requests are numbered as they begin. The
`history` tells what happened, the oldest first: which request began in which section, which
request wrote and whether its list was taken, and when the session was reset.
-/

namespace Bookfinder

/-! ## Requests -/

/-- What is asked of a session. -/
inductive Job where
  | search (r : Request) (name : Option String)
  | collection (name : String)

/-- What a request answers. -/
inductive Answer where
  | result (r : SearchResult)
  | shown (books : List Book)

/-- The books of an answer. -/
def Answer.books : Answer → List Book
  | .result r => r.books
  | .shown books => books

/-- A request that has its token. -/
inductive Task where
  | search (f : Flight)
  | collection (l : Load)

namespace Task

/-- The section that a request writes. -/
def sectionName : Task → String
  | .search f => f.sectionName
  | .collection l => l.sectionName

/-- The token of a request. -/
def token : Task → Token
  | .search f => f.token
  | .collection l => l.token

/-- The answer once the books were put; only a search tells whether they were taken. -/
def answer (t : Task) (found : Found) (stored : Bool) : Answer :=
  match t with
  | .search f =>
    .result { query := f.query, books := found.books, sectionName := f.sectionName,
              usedFallback := found.usedFallback, isStale := !stored }
  | .collection _ => .shown found.books

@[simp] theorem books_answer (t : Task) (found : Found) (stored : Bool) :
    (t.answer found stored).books = found.books := by
  cases t <;> rfl

/-- A result is stale exactly if its books were not stored. -/
theorem isStale_of_answer {t : Task} {found : Found} {stored : Bool} {r : SearchResult}
    (h : t.answer found stored = .result r) : r.isStale = !stored := by
  cases t with
  | search f =>
    obtain rfl := Answer.result.inj h
    rfl
  | collection l => exact absurd h nofun

end Task

/-- How far a request has come. -/
inductive Stage where
  /-- The narrowest question is next. -/
  | asking (t : Task)
  /-- The general question is next. -/
  | askingAgain (f : Flight)
  | rating (t : Task) (found : Found)
  /-- The write is next. -/
  | recording (t : Task) (found : Found)
  | finished (result : Except Fault Answer)

namespace Stage

variable {σ : Type}

/-- The request, as long as it has not ended. -/
def task? : Stage → Option Task
  | .asking t | .rating t _ | .recording t _ => some t
  | .askingAgain f => some (.search f)
  | .finished _ => none

/-- The result, once it has ended. -/
def result? : Stage → Option (Except Fault Answer)
  | .finished result => some result
  | _ => none

/-- A request that is under way has no result. -/
theorem result?_eq_none {st : Stage} {t : Task} (h : st.task? = some t) : st.result? = none := by
  cases st with
  | finished => exact absurd h nofun
  | _ => rfl

/-- The stage that a step leads to; a fault ends the request. -/
def ofResult : Except Fault Stage → Stage
  | .ok st => st
  | .error e => .finished (.error e)

/-- One step of a request. -/
def proceed (services : Services σ) : Stage → Action (Session σ) Stage
  | .asking (.search f) => do
    match ← Session.reach (services.primary f.query) with
    | some books => return .rating (.search f) ⟨Selection.distinct books, false⟩
    | none =>
      Action.note (.primaryFailed (← f.query.write))
      return .askingAgain f
  | .asking (.collection l) => do
    match ← Session.reach (services.catalogue l.call) with
    | some books => return .rating (.collection l) ⟨books, false⟩
    | none =>
      throw (.searchFailed (.collection l.sectionName)
        ("could not load '" ++ l.sectionName ++ "'"))
  | .askingAgain f => do
    match ← Session.reach (services.fallback f.query) with
    | some books => return .rating (.search f) ⟨Selection.distinct books, true⟩
    | none =>
      Action.note (.fallbackFailed (← f.query.write))
      throw (.searchFailed (.query f.query) "catalog service unavailable")
  | .rating t found => do
    let books ← Session.reach (services.enriched found.books)
    return .recording t { found with books }
  | .recording t found => do
    let stored ← Session.navigate (·.put t.sectionName found.books (some t.token))
    return .finished (.ok (t.answer found stored))
  | .finished result => return .finished result

/-- `n` steps of a request. -/
def after (services : Services σ) : Nat → Stage → Action (Session σ) Stage
  | 0, st => pure st
  | n + 1, st => do after services n (← st.proceed services)

end Stage

namespace Job

variable {σ : Type}

/-- The section in which a request begins; none for a collection that does not exist. -/
def sectionName? : Job → Option String
  | .search r name => some ((name.filter (!·.isEmpty)).getD r.sectionName)
  | .collection name => (collectionCall? name).map fun _ => name

/-- The first step of a request. -/
def start : Job → Action (Session σ) Stage
  | .search r name => (fun f => .asking (.search f)) <$> Flight.start r name
  | .collection name => (fun l => .asking (.collection l)) <$> Load.start name

/-- A request from its start to its end. -/
def whole (services : Services σ) : Job → Action (Session σ) Answer
  | .search r name => .result <$> Session.execute services r name
  | .collection name => .shown <$> Session.loadCollection services name

end Job

/-! ## A request left alone -/

section Alone

variable {σ : Type} (services : Services σ)

namespace Stage

theorem after_succ (n : Nat) (st : Stage) :
    after services (n + 1) st = st.proceed services >>= after services n := rfl

/-- A request that has ended stays as it is. -/
theorem after_finished (n : Nat) (result : Except Fault Answer) :
    after services n (.finished result) = pure (.finished result) := by
  induction n with
  | zero => rfl
  | succ n ih => simp only [after, proceed, pure_bind, ih]

/-- The last two steps look up the ratings and write the books. -/
theorem after_rating (n : Nat) (t : Task) (found : Found) :
    after services (n + 2) (.rating t found) = do
      let books ← Session.reach (services.enriched found.books)
      let stored ← Session.navigate (·.put t.sectionName books (some t.token))
      return .finished (.ok (t.answer { found with books } stored)) := by
  simp only [after, proceed, bind_assoc, pure_bind, after_finished]

/-- The steps of a search are those of `Flight.finish`. -/
theorem after_asking_search (f : Flight) :
    after services 4 (.asking (.search f)) =
      (fun r => .finished (.ok (.result r))) <$> f.finish services := by
  rw [after_succ]
  simp only [proceed, Flight.finish, Services.find, Session.reach_bind, bind_assoc, map_bind]
  refine bind_congr fun answer => ?_
  cases answer with
  | some books =>
    simp only [pure_bind, Session.reach_pure, map_pure]
    exact after_rating services 1 (.search f) _
  | none =>
    simp only [Session.reach_bind, Session.reach_liftM, Session.reach_note, bind_assoc, pure_bind]
    refine bind_congr fun _ => bind_congr fun _ => ?_
    rw [after_succ]
    simp only [proceed, bind_assoc]
    refine bind_congr fun answer => ?_
    cases answer with
    | some books =>
      simp only [pure_bind, Session.reach_pure, map_pure]
      exact after_rating services 0 (.search f) _
    | none =>
      simp only [Session.reach_bind, Session.reach_liftM, Session.reach_note, Session.reach_throw,
        bind_assoc, Action.throw_bind]

/-- The steps of a load are those of `Load.finish`. -/
theorem after_asking_collection (l : Load) :
    after services 4 (.asking (.collection l)) =
      (fun books => .finished (.ok (.shown books))) <$> l.finish services := by
  rw [after_succ]
  simp only [proceed, Load.finish, bind_assoc, map_bind]
  refine bind_congr fun answer => ?_
  cases answer with
  | some books =>
    simp only [pure_bind, map_bind, map_pure]
    exact after_rating services 1 (.collection l) _
  | none => rfl

end Stage

/-- A request with nothing in between does what `Session.execute` and `Session.loadCollection`
do: it answers the same or fails with the same fault, gives the same notices and leaves the same
session. -/
theorem Job.start_bind_after (job : Job) :
    (job.start >>= Stage.after services 4 : Action (Session σ) Stage) =
      (fun a => .finished (.ok a)) <$> job.whole services := by
  cases job with
  | search r name =>
    simp only [Job.start, Job.whole, Session.execute, map_eq_pure_bind, bind_assoc, pure_bind]
    refine bind_congr fun f => ?_
    rw [Stage.after_asking_search, map_eq_pure_bind]
  | collection name =>
    simp only [Job.start, Job.whole, Session.loadCollection, map_eq_pure_bind, bind_assoc,
      pure_bind]
    refine bind_congr fun l => ?_
    rw [Stage.after_asking_collection, map_eq_pure_bind]

end Alone

/-! ## What one step does -/

section Steps

variable {σ : Type} (services : Services σ)

/-- The first step of a request takes a token if there is such a section. It ends the request if
there is none, or if what was handed in is no query. -/
theorem Job.start_cases (job : Job) (s : Session σ) :
    (job.sectionName? = none ∧ (job.start.run s).2 = s ∧
      ∃ e, (job.start.run s).1.result = .error e) ∨
    ∃ name, job.sectionName? = some name ∧
      (job.start.run s).2.navigation = (s.navigation.begin name).2 ∧
      ((∃ e, (job.start.run s).1.result = .error e) ∨
        ∃ t, (job.start.run s).1.result = .ok (.asking t) ∧ t.sectionName = name ∧
          t.token = (s.navigation.begin name).1) := by
  cases job with
  | search r name =>
    refine Or.inr ⟨_, rfl, ?_⟩
    cases r with
    | query q => exact ⟨rfl, Or.inr ⟨_, rfl, rfl, rfl⟩⟩
    | other kind => exact ⟨rfl, Or.inl ⟨_, rfl⟩⟩
  | collection name =>
    simp only [Job.start, Job.sectionName?, Load.start]
    cases collectionCall? name with
    | none => exact Or.inl ⟨rfl, rfl, _, rfl⟩
    | some call => exact Or.inr ⟨name, rfl, rfl, Or.inr ⟨_, rfl, rfl, rfl⟩⟩

namespace Stage

/-- A step that depends on an answer from outside leaves the lists alone. It goes on with the
request or ends it with a fault. -/
theorem run_reach_bind_cases {α : Type} (x : Action σ α) (f : α → Action (Session σ) Stage)
    (t : Task) (s : Session σ)
    (hf : ∀ a s, ((f a).run s).2 = s ∧ ((∃ e, ((f a).run s).1.result = .error e) ∨
      ∃ st, ((f a).run s).1.result = .ok st ∧ st.task? = some t)) :
    ((Session.reach x >>= f).run s).2.navigation = s.navigation ∧
      ((∃ e, ((Session.reach x >>= f).run s).1.result = .error e) ∨
        ∃ st, ((Session.reach x >>= f).run s).1.result = .ok st ∧ st.task? = some t) := by
  rw [Action.run_bind, Session.run_reach]
  obtain ⟨⟨r, ns⟩, o⟩ := x.run s.outside
  cases r with
  | error e => exact ⟨rfl, Or.inl ⟨e, rfl⟩⟩
  | ok a =>
    obtain ⟨hs, hr⟩ := hf a { s with outside := o }
    exact ⟨by simp [hs], hr⟩

/-- The write. -/
theorem run_recording (t : Task) (found : Found) (s : Session σ) :
    (proceed services (.recording t found)).run s =
      (.ok (.finished (.ok (t.answer found
        (s.navigation.put t.sectionName found.books (some t.token)).1))),
      { s with navigation :=
        (s.navigation.put t.sectionName found.books (some t.token)).2 }) := rfl

/-- A step other than the write. -/
theorem proceed_of_task {st : Stage} {t : Task} (ht : st.task? = some t)
    (hw : ∀ found, st ≠ .recording t found) (s : Session σ) :
    ((st.proceed services).run s).2.navigation = s.navigation ∧
      ((∃ e, ((st.proceed services).run s).1.result = .error e) ∨
        ∃ st', ((st.proceed services).run s).1.result = .ok st' ∧ st'.task? = some t) := by
  cases st with
  | asking u =>
    obtain rfl : u = t := Option.some.inj ht
    cases u with
    | search f =>
      refine run_reach_bind_cases _ _ _ s fun answer s => ?_
      cases answer with
      | none =>
        dsimp only
        cases f.query.write with
        | error e => exact ⟨rfl, Or.inl ⟨e, rfl⟩⟩
        | ok text => exact ⟨rfl, Or.inr ⟨_, rfl, rfl⟩⟩
      | some books => exact ⟨rfl, Or.inr ⟨_, rfl, rfl⟩⟩
    | collection l =>
      refine run_reach_bind_cases _ _ _ s fun answer s => ?_
      cases answer with
      | none => exact ⟨rfl, Or.inl ⟨_, rfl⟩⟩
      | some books => exact ⟨rfl, Or.inr ⟨_, rfl, rfl⟩⟩
  | askingAgain f =>
    obtain rfl : Task.search f = t := Option.some.inj ht
    refine run_reach_bind_cases _ _ _ s fun answer s => ?_
    cases answer with
    | none =>
      dsimp only
      cases f.query.write with
      | error e => exact ⟨rfl, Or.inl ⟨e, rfl⟩⟩
      | ok text => exact ⟨rfl, Or.inl ⟨_, rfl⟩⟩
    | some books => exact ⟨rfl, Or.inr ⟨_, rfl, rfl⟩⟩
  | rating u found =>
    obtain rfl : u = t := Option.some.inj ht
    exact run_reach_bind_cases _ _ _ s fun books s => ⟨rfl, Or.inr ⟨_, rfl, rfl⟩⟩
  | recording u found =>
    obtain rfl : u = t := Option.some.inj ht
    exact absurd rfl (hw found)
  | finished result => exact absurd ht nofun

end Stage

end Steps

/-! ## Many requests -/

/-- What can come next on a session with many requests. -/
inductive Move where
  | begin (job : Job)
  /-- The request with this number makes its next step. -/
  | proceed (i : Nat)
  | reset

/-- What happened on a session; requests are named by their numbers. -/
inductive Event where
  | began (i : Nat) (name : String)
  /-- A request wrote to its section; `stored` tells whether its list was taken. -/
  | wrote (i : Nat) (name : String) (stored : Bool)
  | cleared
deriving DecidableEq, Repr

/-- A request and how far it has come. -/
structure Ticket where
  job : Job
  stage : Stage

/-- A session with its requests. -/
structure Traffic (σ : Type) where
  session : Session σ
  /-- The requests, numbered as they began. -/
  tickets : List Ticket
  /-- What happened, the oldest first. -/
  history : List Event

namespace Traffic

variable {σ : Type} (services : Services σ)

/-- A session before any request. -/
def start (s : Session σ) : Traffic σ := ⟨s, [], []⟩

/-- The lists that were shown. -/
def navigation (w : Traffic σ) : Navigation := w.session.navigation

/-- A request begins. -/
def begin (w : Traffic σ) (job : Job) : Traffic σ where
  session := (job.start.run w.session).2
  tickets := w.tickets ++ [⟨job, .ofResult (job.start.run w.session).1.result⟩]
  history := w.history ++ (job.sectionName?.map (.began w.tickets.length)).toList

/-- What the write of a request comes to; nothing at another stage. -/
def writing (w : Traffic σ) (i : Nat) : Stage → Option Event
  | .recording t found =>
    some (.wrote i t.sectionName (w.navigation.put t.sectionName found.books (some t.token)).1)
  | _ => none

/-- At a stage other than the write, nothing is written. -/
theorem writing_eq_none (w : Traffic σ) (i : Nat) {st : Stage} {t : Task}
    (ht : st.task? = some t) (hw : ∀ found, st ≠ .recording t found) :
    w.writing i st = none := by
  cases st with
  | recording u found =>
    obtain rfl : u = t := Option.some.inj ht
    exact absurd rfl (hw found)
  | _ => rfl

/-- A request proceeds. -/
def proceed (w : Traffic σ) (i : Nat) : Traffic σ :=
  match w.tickets[i]? with
  | none => w
  | some k =>
    { session := ((k.stage.proceed services).run w.session).2
      tickets :=
        w.tickets.set i ⟨k.job, .ofResult ((k.stage.proceed services).run w.session).1.result⟩
      history := w.history ++ (w.writing i k.stage).toList }

/-- The session is reset. -/
def reset (w : Traffic σ) : Traffic σ :=
  { w with session := (Session.reset.run w.session).2, history := w.history ++ [.cleared] }

/-- One move. -/
def step (w : Traffic σ) : Move → Traffic σ
  | .begin job => w.begin job
  | .proceed i => w.proceed services i
  | .reset => w.reset

/-- Moves one after the other. -/
def run (w : Traffic σ) (moves : List Move) : Traffic σ := moves.foldl (step services) w

/-- What holds of a session and is kept by each move holds after any moves. -/
theorem run_induction {P : Traffic σ → Prop} {w : Traffic σ} {moves : List Move} (hw : P w)
    (hstep : ∀ w, P w → ∀ m ∈ moves, P (w.step services m)) : P (w.run services moves) := by
  induction moves generalizing w with
  | nil => exact hw
  | cons m moves ih =>
    exact ih (hstep w hw m List.mem_cons_self) fun w hw m hm =>
      hstep w hw m (List.mem_cons_of_mem _ hm)

/-- The result of a request that has ended. -/
def result? (w : Traffic σ) (i : Nat) : Option (Except Fault Answer) :=
  (w.tickets[i]?).bind fun k => k.stage.result?

/-- The section of a request. -/
def section? (w : Traffic σ) (i : Nat) : Option String :=
  (w.tickets[i]?).bind fun k => k.job.sectionName?

/-- A request is under way with its token. -/
def Underway (w : Traffic σ) (i : Nat) (t : Task) : Prop :=
  ∃ k, w.tickets[i]? = some k ∧ k.stage.task? = some t

/-- The books of a request that succeeded. -/
def books? (w : Traffic σ) (i : Nat) : Option (List Book) :=
  match w.result? i with
  | some (.ok a) => some a.books
  | _ => none

/-- The books of a request are those of its answer. -/
theorem books?_eq_some_iff {w : Traffic σ} {i : Nat} {books : List Book} :
    w.books? i = some books ↔ ∃ a, w.result? i = some (.ok a) ∧ a.books = books := by
  unfold books?
  split
  · next a ha => simp [ha]
  · next hne => simpa using fun a ha => absurd ha (hne a)

/-- The list that a section shows, if it has one. -/
def shown (w : Traffic σ) (name : String) : Option (List Book) :=
  w.navigation.snapshots.find? name

/-! ### A request begins -/

/-- The new request has the last ticket, after its first step. -/
theorem getElem?_begin (w : Traffic σ) (job : Job) (i : Nat) :
    (w.begin job).tickets[i]? =
      if i = w.tickets.length then some ⟨job, .ofResult (job.start.run w.session).1.result⟩
      else w.tickets[i]? := by
  rw [begin]
  by_cases hi : i < w.tickets.length
  · rw [if_neg (by omega), List.getElem?_append_left hi]
  · rw [List.getElem?_append_right (by omega), List.getElem?_singleton]
    have hw : w.tickets[i]? = none := List.getElem?_eq_none (by omega)
    rw [hw]
    simp only [show i - w.tickets.length = 0 ↔ i = w.tickets.length by omega]

theorem lt_of_underway {w : Traffic σ} {i : Nat} {t : Task} (h : w.Underway i t) :
    i < w.tickets.length := by
  obtain ⟨k, hk, -⟩ := h
  exact (List.getElem?_eq_some_iff.1 hk).1

theorem lt_of_result? {w : Traffic σ} {i : Nat} {r : Except Fault Answer}
    (h : w.result? i = some r) : i < w.tickets.length := by
  obtain ⟨k, hk, -⟩ := Option.bind_eq_some_iff.1 h
  exact (List.getElem?_eq_some_iff.1 hk).1

/-- The new request leaves the sections of the others alone. -/
theorem section?_begin {w : Traffic σ} (job : Job) {i : Nat} (hi : i < w.tickets.length) :
    (w.begin job).section? i = w.section? i := by
  rw [section?, section?, getElem?_begin, if_neg (by omega)]

/-- It leaves the results of the others alone. -/
theorem result?_begin {w : Traffic σ} (job : Job) {i : Nat} (hi : i < w.tickets.length) :
    (w.begin job).result? i = w.result? i := by
  rw [result?, result?, getElem?_begin, if_neg (by omega)]

/-- A request is under way if it was, or if it is the new one and took its token. -/
theorem underway_begin {w : Traffic σ} {job : Job} {i : Nat} {t : Task}
    (h : (w.begin job).Underway i t) :
    w.Underway i t ∨ i = w.tickets.length ∧
      (Stage.ofResult (job.start.run w.session).1.result).task? = some t := by
  obtain ⟨k, hk, ht⟩ := h
  rw [getElem?_begin] at hk
  split at hk
  · next hi =>
    obtain rfl := Option.some.inj hk
    exact Or.inr ⟨hi, ht⟩
  · exact Or.inl ⟨k, hk, ht⟩

/-- The new request issues a token for its section, if it has one. -/
theorem navigation_begin (w : Traffic σ) (job : Job) :
    (w.begin job).navigation =
      match job.sectionName? with
      | none => w.navigation
      | some name => (w.navigation.begin name).2 := by
  rcases Job.start_cases job w.session with ⟨hnone, hs, -⟩ | ⟨name, hname, hnav, -⟩
  · rw [hnone]
    exact congrArg Session.navigation hs
  · rw [hname]
    exact hnav

/-- The new request has the next token, if it is under way. -/
theorem task?_begin {w : Traffic σ} {job : Job} {t : Task}
    (h : (Stage.ofResult (job.start.run w.session).1.result).task? = some t) :
    job.sectionName? = some t.sectionName ∧ t.token = w.navigation.issued + 1 := by
  rcases Job.start_cases job w.session with
    ⟨-, -, e, he⟩ | ⟨name, hname, -, ⟨e, he⟩ | ⟨u, hu, hsec, htok⟩⟩
  · rw [he] at h
    exact absurd h nofun
  · rw [he] at h
    exact absurd h nofun
  · rw [hu] at h
    obtain rfl : u = t := Option.some.inj h
    exact ⟨hname.trans (congrArg some hsec.symm), htok⟩

/-- A request that ends at its start failed. -/
theorem result?_begin_self {w : Traffic σ} {job : Job} {a : Answer} :
    (w.begin job).result? w.tickets.length ≠ some (.ok a) := by
  rw [result?, getElem?_begin, if_pos rfl]
  rcases Job.start_cases job w.session with ⟨-, -, e, he⟩ | ⟨name, -, -, ⟨e, he⟩ | ⟨u, hu, -⟩⟩
  · rw [he]
    exact nofun
  · rw [he]
    exact nofun
  · rw [hu]
    exact nofun

/-- Tokens only grow. -/
theorem issued_le_begin (w : Traffic σ) (job : Job) :
    w.navigation.issued ≤ (w.begin job).navigation.issued := by
  rw [navigation_begin]
  cases job.sectionName? with
  | none => exact Int.le_refl _
  | some name => exact Int.le_of_lt (Int.lt_succ _)

/-- A request that begins puts the tokens of its section out of date, and no others. -/
theorem isCurrent_begin_job (w : Traffic σ) (job : Job) {name : String} {token : Token}
    (h : token ≤ w.navigation.issued) :
    (w.begin job).navigation.isCurrent name token =
      (w.navigation.isCurrent name token && !job.sectionName?.any (· == name)) := by
  rw [navigation_begin]
  cases job.sectionName? with
  | none => simp
  | some other =>
    simp only [Navigation.isCurrent_begin, Option.any_some]
    by_cases hn : other = name
    · have : w.navigation.issued + 1 ≠ token := fun he =>
        Int.not_le.2 (Int.lt_succ w.navigation.issued) (he ▸ h)
      simp [hn, this]
    · simp [hn]

/-! ### A request proceeds -/

section Proceed

variable (services : Services σ) {w : Traffic σ} {i : Nat} {k : Ticket}

/-- A step of a request replaces its ticket and adds to the history what it wrote. -/
theorem proceed_eq (hk : w.tickets[i]? = some k) :
    w.proceed services i =
      { session := ((k.stage.proceed services).run w.session).2
        tickets :=
          w.tickets.set i ⟨k.job, .ofResult ((k.stage.proceed services).run w.session).1.result⟩
        history := w.history ++ (w.writing i k.stage).toList } := by
  simp only [proceed, hk]

/-- A step of a request changes its own ticket only. -/
theorem getElem?_proceed (hk : w.tickets[i]? = some k) (j : Nat) :
    (w.proceed services i).tickets[j]? =
      if i = j then
        some ⟨k.job, .ofResult ((k.stage.proceed services).run w.session).1.result⟩
      else w.tickets[j]? := by
  rw [proceed_eq services hk, List.getElem?_set, if_pos (List.getElem?_eq_some_iff.1 hk).1]

theorem length_proceed (i : Nat) :
    (w.proceed services i).tickets.length = w.tickets.length := by
  unfold proceed
  split
  · rfl
  · exact List.length_set

theorem section?_proceed (hk : w.tickets[i]? = some k) (j : Nat) :
    (w.proceed services i).section? j = w.section? j := by
  rw [section?, section?, getElem?_proceed services hk]
  split
  · next hij => rw [← hij, hk]; rfl
  · rfl

/-- The results of the others stay. -/
theorem result?_proceed_ne (hk : w.tickets[i]? = some k) {j : Nat} (hij : i ≠ j) :
    (w.proceed services i).result? j = w.result? j := by
  rw [result?, result?, getElem?_proceed services hk, if_neg hij]

theorem result?_proceed_self (hk : w.tickets[i]? = some k) :
    (w.proceed services i).result? i =
      (Stage.ofResult ((k.stage.proceed services).run w.session).1.result).result? := by
  rw [result?, getElem?_proceed services hk, if_pos rfl]
  rfl

/-- The others stay under way as they were. -/
theorem underway_proceed_ne (hk : w.tickets[i]? = some k) {j : Nat} (hij : i ≠ j) (t : Task) :
    (w.proceed services i).Underway j t ↔ w.Underway j t := by
  rw [Underway, Underway, getElem?_proceed services hk, if_neg hij]

theorem underway_proceed_self (hk : w.tickets[i]? = some k) (t : Task) :
    (w.proceed services i).Underway i t ↔
      (Stage.ofResult ((k.stage.proceed services).run w.session).1.result).task? = some t := by
  rw [Underway, getElem?_proceed services hk, if_pos rfl]
  simp

/-- A request that has ended makes no more steps. -/
theorem proceed_of_finished (hk : w.tickets[i]? = some k) (hend : k.stage.task? = none) :
    w.proceed services i = w := by
  obtain ⟨job, stage⟩ := k
  cases stage with
  | finished result =>
    obtain ⟨hi, he⟩ := List.getElem?_eq_some_iff.1 hk
    have hset : w.tickets.set i ⟨job, .finished result⟩ = w.tickets := by
      rw [← he, List.set_getElem_self]
    rw [proceed_eq services hk]
    simp [Stage.proceed, Stage.ofResult, Outcome.ok, writing, hset]
  | asking => exact absurd hend nofun
  | askingAgain => exact absurd hend nofun
  | rating => exact absurd hend nofun
  | recording => exact absurd hend nofun

variable {t : Task} {found : Found} {job : Job}

/-! A step that does not write changes neither the lists nor the history, and no request that was
not under way is so afterwards. -/

/-- A step other than the write adds nothing to the history. -/
theorem history_of_task (hk : w.tickets[i]? = some k) (ht : k.stage.task? = some t)
    (hw : ∀ found, k.stage ≠ .recording t found) :
    (w.proceed services i).history = w.history := by
  rw [proceed_eq services hk, w.writing_eq_none i ht hw]
  exact List.append_nil _

/-- It leaves the sections as they are. -/
theorem navigation_of_task (hk : w.tickets[i]? = some k) (ht : k.stage.task? = some t)
    (hw : ∀ found, k.stage ≠ .recording t found) :
    (w.proceed services i).navigation = w.navigation := by
  rw [proceed_eq services hk]
  exact (Stage.proceed_of_task services ht hw w.session).1

/-- After it no request is under way that was not. -/
theorem underway_of_task (hk : w.tickets[i]? = some k) (ht : k.stage.task? = some t)
    (hw : ∀ found, k.stage ≠ .recording t found) {j : Nat} {u : Task}
    (hu : (w.proceed services i).Underway j u) : w.Underway j u := by
  by_cases hij : i = j
  · subst hij
    rw [underway_proceed_self services hk] at hu
    rcases (Stage.proceed_of_task services ht hw w.session).2 with ⟨e, he⟩ | ⟨st, hst, hst'⟩
    · rw [he] at hu
      exact absurd hu nofun
    · rw [hst] at hu
      exact ⟨k, hk, ht.trans (hst'.symm.trans hu)⟩
  · exact (underway_proceed_ne services hk hij u).1 hu

/-- It answers no request. -/
theorem result?_of_task (hk : w.tickets[i]? = some k) (ht : k.stage.task? = some t)
    (hw : ∀ found, k.stage ≠ .recording t found) {j : Nat} {a : Answer} :
    (w.proceed services i).result? j = some (.ok a) ↔ w.result? j = some (.ok a) := by
  by_cases hij : i = j
  · subst hij
    have hold : w.result? i = none := by
      rw [result?, hk, Option.bind_some, Stage.result?_eq_none ht]
    rw [hold, result?_proceed_self services hk]
    rcases (Stage.proceed_of_task services ht hw w.session).2 with ⟨e, he⟩ | ⟨st, hst, hst'⟩
    · rw [he]
      exact iff_of_false nofun nofun
    · rw [hst, Stage.ofResult, Stage.result?_eq_none hst']
  · rw [result?_proceed_ne services hk hij]

/-- The write of a request is in the history, with what became of it. -/
theorem history_recording (hk : w.tickets[i]? = some ⟨job, .recording t found⟩) :
    (w.proceed services i).history =
      w.history ++ [.wrote i t.sectionName (w.navigation.isCurrent t.sectionName t.token)] := by
  rw [proceed_eq services hk, writing, Navigation.stored_put, Navigation.accepts_some]
  rfl

/-- The write puts the books under the token of the request. -/
theorem navigation_recording (hk : w.tickets[i]? = some ⟨job, .recording t found⟩) :
    (w.proceed services i).navigation =
      (w.navigation.put t.sectionName found.books (some t.token)).2 := by
  rw [proceed_eq services hk, Stage.run_recording]
  rfl

/-- It puts no token out of date. -/
theorem isCurrent_recording (hk : w.tickets[i]? = some ⟨job, .recording t found⟩)
    (name : String) (token : Token) :
    (w.proceed services i).navigation.isCurrent name token =
      w.navigation.isCurrent name token := by
  rw [navigation_recording services hk, Navigation.isCurrent, Navigation.latest_put,
    Navigation.isCurrent]

/-- The answer tells whether the token was current. -/
theorem result?_recording (hk : w.tickets[i]? = some ⟨job, .recording t found⟩) :
    (w.proceed services i).result? i =
      some (.ok (t.answer found (w.navigation.isCurrent t.sectionName t.token))) := by
  rw [result?_proceed_self services hk, Stage.run_recording]
  change some (Except.ok (t.answer found (w.navigation.put _ _ _).1)) = _
  rw [Navigation.stored_put, Navigation.accepts_some]

/-- The request that wrote is not under way any more. -/
theorem underway_recording (hk : w.tickets[i]? = some ⟨job, .recording t found⟩) {j : Nat}
    {u : Task} (hu : (w.proceed services i).Underway j u) : i ≠ j ∧ w.Underway j u := by
  by_cases hij : i = j
  · subst hij
    rw [underway_proceed_self services hk, Stage.run_recording] at hu
    exact absurd hu nofun
  · exact ⟨hij, (underway_proceed_ne services hk hij u).1 hu⟩

/-- A step of a request does nothing, or asks outside, or writes. -/
theorem proceed_induction {P : Traffic σ → Prop} (w : Traffic σ) (i : Nat) (hsame : P w)
    (hask : ∀ {k t}, w.tickets[i]? = some k → k.stage.task? = some t →
      (∀ found, k.stage ≠ .recording t found) → P (w.proceed services i))
    (hwrite : ∀ {job t found}, w.tickets[i]? = some ⟨job, .recording t found⟩ →
      P (w.proceed services i)) : P (w.proceed services i) := by
  cases hk : w.tickets[i]? with
  | none =>
    simp only [proceed, hk]
    exact hsame
  | some k =>
    obtain ⟨job, stage⟩ := k
    cases ht : stage.task? with
    | none => exact (proceed_of_finished services hk ht).symm ▸ hsame
    | some t =>
      by_cases hw : ∃ found, stage = .recording t found
      · obtain ⟨found, rfl⟩ := hw
        exact hwrite hk
      · exact hask hk ht fun found he => hw ⟨found, he⟩

end Proceed

end Traffic

end Bookfinder
