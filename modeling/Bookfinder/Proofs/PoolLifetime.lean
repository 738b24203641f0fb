import Bookfinder.CommandLine.Online
import Bookfinder.Proofs.Inquiries

/-!
# The pool of a command

A command opens one pool of connections and makes its tables where they are missing. Only then it is
in the care of the steps that close it. `Pool.watched` writes down when a pool has been opened and
when it is closed, and does what the pool does in all else.

Under watch a command goes as it goes without (`Adds`, one law for each way to put actions
together), since all that it does between opening and closing happens in the part of the state that
is not watched. So a pool that was opened and made ready has been closed in the end, once, whatever
failed in between. A pool that was opened and could not be made ready stays open
(`Program.run_watched`).
-/

namespace Bookfinder

open Bookfinder.Action

variable {σ τ α β : Type}

/-! ## Pools under watch -/

/-- What is done with a pool as a whole. -/
inductive PoolEvent where
  | opened
  | closed
deriving DecidableEq, Repr

/-- Writes an event down, the latest last. -/
def PoolEvent.log (e : PoolEvent) : Action (σ × List PoolEvent) Unit :=
  Action.update fun t => ((), (t.1, t.2 ++ [e]))

/-- An action, with something kept beside it. -/
abbrev Action.beside {κ : Type} (x : Action σ α) : Action (σ × κ) α :=
  x.onPart Prod.fst fun o t => (o, t.2)

/-- A pool that writes down when it has been opened and when it is closed. -/
def Pool.watched (pool : Pool σ) : Pool (σ × List PoolEvent) :=
  { pool.onPart Prod.fst fun o t => (o, t.2) with
    openPool := fun least most address => do
      (pool.openPool least most address).beside
      PoolEvent.log .opened
    closeAll := do
      PoolEvent.log .closed
      pool.closeAll.beside }

/-- A pool whose connections refuse some statements. Its database is empty. -/
def Pool.refusing (refuses : String → Bool) : Pool Unit where
  openPool _ _ _ := pure ()
  take := pure ()
  openCursor := pure ()
  execute statement _ :=
    if refuses statement then throw (.external .database "connection lost") else pure ()
  fetchAll := pure []
  fetchOne := pure none
  rowCount := pure 0
  commit := pure ()
  rollback := pure ()
  giveBack := pure ()
  closeAll := pure ()

namespace CommandLine

/-! ## A console with more outside -/

namespace Console

/-- A console of which less is seen outside. -/
def seen (view : τ → σ) (c : Console τ) : Console σ := ⟨c.printed, view c.outside⟩

/-- What is seen of a console, replaced by another one. -/
def replaced (write : σ → τ → τ) (c : Console σ) (t : Console τ) : Console τ :=
  ⟨c.printed, write c.outside t.outside⟩

/-- An action with a console, and something kept beside what is outside. -/
abbrev beside {κ : Type} (x : Action (Console σ) α) : Action (Console (σ × κ)) α :=
  x.onPart (seen Prod.fst) (replaced fun o t => (o, t.2))

end Console

section Part

variable {view : τ → σ} {write : σ → τ → τ} (h : IsPart view write)
include h

/-- A part of what is outside makes a part of the console. -/
theorem isPart_seen : IsPart (Console.seen view) (Console.replaced write) where
  view_write c t := congrArg (Console.mk c.printed) (h.view_write c.outside t.outside)
  write_view t := congrArg (Console.mk t.printed) (h.write_view t.outside)
  write_write c c' t :=
    congrArg (Console.mk c.printed) (h.write_write c.outside c'.outside t.outside)

theorem Console.print_onPart (l : Listing) :
    (print l).onPart (seen view) (replaced write) = print l := by
  refine Action.ext fun t => ?_
  simp only [run_onPart, print, run_update, seen, replaced, h.write_view]

/-- An action outside and what follows it. -/
theorem Console.reach_bind_onPart {x : Action σ α} {x' : Action τ α}
    {k : α → Action (Console σ) β} {k' : α → Action (Console τ) β} (hx : x' = x.onPart view write)
    (hk : ∀ a, k' a = (k a).onPart (seen view) (replaced write)) :
    (reach x' >>= k') = (reach x >>= k).onPart (seen view) (replaced write) := by
  rw [hx, (isPart_seen h).onPart_bind]
  exact bind_congr hk

/-- A page is printed alike, whether more is outside or not. -/
theorem Page.print_onPart (services : Services (Console σ)) (layout : Listing.Layout)
    (p : Option Page) :
    Page.print (services.onPart (Console.seen view) (Console.replaced write)) layout p =
      (Page.print services layout p).onPart (Console.seen view) (Console.replaced write) := by
  have hseen := isPart_seen h
  cases p with
  | none => exact (Console.print_onPart h _).symm
  | some p =>
    simp only [Page.print, hseen.onPart_bind, hseen.onPart_liftM, Console.print_onPart h]
    rw [Services.enriched_onPart hseen rfl]

namespace Backend

/-- A backend whose state is a part of a larger one. -/
def onPart (view : τ → σ) (write : σ → τ → τ) (b : Backend σ) : Backend τ where
  openDatabase address := (b.openDatabase address).onPart view write
  prepareDatabase := b.prepareDatabase.onPart view write
  closeDatabase := b.closeDatabase.onPart view write
  ratings := b.ratings.onPart view write
  catalogue usesAsync call := (b.catalogue usesAsync call).onPart view write
  closeCatalogue usesAsync := (b.closeCatalogue usesAsync).onPart view write
  now := b.now.onPart view write

variable (b : Backend σ)

omit h in
/-- A part of a backend offers the part of its services. -/
theorem services_onPart (usesAsync hasRatings : Bool) :
    (b.onPart view write).services usesAsync hasRatings =
      (b.services usesAsync hasRatings).onPart (Console.seen view) (Console.replaced write) := by
  cases hasRatings <;> rfl

/-- A whole session keeps to its part of the state. -/
theorem inSession_onPart (layout : Listing.Layout) (usesAsync hasRatings : Bool) (i : Inquiry) :
    inSession (i.carryOut layout ((b.onPart view write).services usesAsync hasRatings)) =
      (inSession (i.carryOut layout (b.services usesAsync hasRatings))).onPart
        (Console.seen view) (Console.replaced write) := by
  have hseen := isPart_seen h
  rw [inSession_carryOut, inSession_carryOut, services_onPart, hseen.onPart_bind,
    ← i.page_onPart hseen]
  exact bind_congr fun p => Page.print_onPart h _ layout p

theorem showRanking_onPart (isbns : List String) :
    (b.onPart view write).showRanking isbns =
      (b.showRanking isbns).onPart (Console.seen view) (Console.replaced write) := by
  refine Console.reach_bind_onPart h ?_ fun _ => (Console.print_onPart h _).symm
  rw [h.onPart_mapM]
  exact congrArg (List.mapM · isbns) (funext fun _ => b.ratings.statistics_onPart h _)

end Backend

end Part

/-- A backend that writes down when the database has been opened and when it is closed. -/
def Backend.watched (b : Backend σ) : Backend (σ × List PoolEvent) :=
  { b.onPart Prod.fst fun o t => (o, t.2) with
    openDatabase := fun address => do
      (b.openDatabase address).beside
      PoolEvent.log .opened
    closeDatabase := do
      PoolEvent.log .closed
      b.closeDatabase.beside }

/-- The program on a pool under watch is the program on the pool, under watch. -/
theorem Backend.online_watched (pool : Pool σ) (catalogue : Bool → Catalogue σ)
    (closeCatalogue : Bool → Action σ Unit) (now : Action σ Timestamp) :
    online pool.watched (fun usesAsync call => (catalogue usesAsync call).beside)
        (fun usesAsync => (closeCatalogue usesAsync).beside) now.beside =
      (online pool catalogue closeCatalogue now).watched := by
  have hprepare : pool.watched.prepare = pool.prepare.beside :=
    pool.prepare_onPart isPart_fst
  have hstore : pool.watched.store = pool.store.onPart Prod.fst fun o t => (o, t.2) :=
    pool.store_onPart isPart_fst
  rw [online, hprepare, hstore]
  rfl

/-- From the console `c` the watched action `x` does what `y` does, and `es` is written down. -/
def Adds (x : Action (Console (σ × List PoolEvent)) α) (y : Action (Console σ) α) (c : Console σ)
    (es : List PoolEvent) : Prop :=
  ∀ log, x.run ⟨c.printed, (c.outside, log)⟩ =
    ((y.run c).1, ⟨(y.run c).2.printed, ((y.run c).2.outside, log ++ es)⟩)

namespace Adds

variable {x : Action (Console (σ × List PoolEvent)) α} {y : Action (Console σ) α}
  {f : α → Action (Console (σ × List PoolEvent)) β} {g : α → Action (Console σ) β}
  {c : Console σ} {es es' : List PoolEvent}

/-- What happens in the part that is not watched adds nothing. -/
theorem of_eq (h : x = Console.beside y) (c : Console σ) : Adds x y c [] := by
  intro log
  rw [h, List.append_nil]
  rfl

/-- An event that is written down. -/
theorem log (e : PoolEvent) (c : Console σ) :
    Adds (Console.reach (PoolEvent.log e)) (pure ()) c [e] :=
  fun _ => rfl

/-- One action after another adds the events of both. -/
theorem bind_of_ok {a : α} (hx : Adds x y c es) (hy : (y.run c).1.result = .ok a)
    (hf : Adds (f a) (g a) (y.run c).2 es') : Adds (x >>= f) (y >>= g) c (es ++ es') := by
  intro log
  rw [run_bind, run_bind, hx log, hy]
  dsimp only
  rw [hf (log ++ es), List.append_assoc]

/-- A fault ends the action, and nothing is added after it. -/
theorem bind_of_error {e : Fault} (hx : Adds x y c es) (hy : (y.run c).1.result = .error e) :
    Adds (x >>= f) (y >>= g) c es := by
  intro log
  rw [run_bind, run_bind, hx log, hy]

theorem attempt (hx : Adds x y c es) : Adds x.attempt y.attempt c es := by
  intro log
  rw [run_attempt, run_attempt, hx log]

/-- The closing action adds its events whether the first one failed or not. -/
theorem always {closing : Action (Console (σ × List PoolEvent)) Unit}
    {closing' : Action (Console σ) Unit} (hx : Adds x y c es)
    (hclosing : Adds closing closing' (y.run c).2 es') :
    Adds (x.always closing) (y.always closing') c (es ++ es') := by
  intro log
  rw [run_always, run_always, hx log, hclosing (log ++ es), List.append_assoc]

theorem tryCatch_of_ok {a : α} {handle : Fault → Action (Console (σ × List PoolEvent)) α}
    {handle' : Fault → Action (Console σ) α} (hx : Adds x y c es)
    (hy : (y.run c).1.result = .ok a) :
    Adds (tryCatch x handle) (tryCatch y handle') c es := by
  intro log
  rw [run_tryCatch, run_tryCatch, hx log, hy]

theorem tryCatch_of_error {e : Fault}
    {handle : Fault → Action (Console (σ × List PoolEvent)) α}
    {handle' : Fault → Action (Console σ) α} (hx : Adds x y c es)
    (hy : (y.run c).1.result = .error e) (hhandle : Adds (handle e) (handle' e) (y.run c).2 es') :
    Adds (tryCatch x handle) (tryCatch y handle') c (es ++ es') := by
  intro log
  rw [run_tryCatch, run_tryCatch, hx log, hy]
  dsimp only
  rw [hhandle (log ++ es), List.append_assoc]

end Adds

/-! ## Commands -/

namespace Backend

variable (b : Backend σ) (s : Settings)

/-- What happens to the pool of a command that is carried out from the state `o`. -/
def poolEvents (o : σ) : List PoolEvent :=
  let opening := (b.openDatabase s.databaseAddress).run o
  if opening.1.result.isOk then
    if (b.prepareDatabase.run opening.2).1.result.isOk then [.opened, .closed] else [.opened]
  else []

/-- The database is closed, and that is written down. -/
theorem adds_closeDatabase (c : Console σ) :
    Adds (Console.reach b.watched.closeDatabase) (Console.reach b.closeDatabase) c [.closed] := by
  have hwatched : Console.reach b.watched.closeDatabase =
      Console.reach (PoolEvent.log .closed) >>= fun _ =>
        Console.beside (Console.reach b.closeDatabase) :=
    Console.reach_bind _ _
  rw [hwatched, ← pure_bind () fun _ => Console.reach b.closeDatabase]
  exact (Adds.log .closed c).bind_of_ok rfl (.of_eq (by rfl) c)

/-- What is watched of a database that is being made ready. -/
theorem adds_openReady (c : Console σ) :
    (∃ e, ((b.openReady s).run c.outside).1.result = .error e ∧
      Adds (Console.reach (b.watched.openReady s)) (Console.reach (b.openReady s)) c
        (b.poolEvents s c.outside)) ∨
    (((b.openReady s).run c.outside).1.result = .ok () ∧
      Adds (Console.reach (b.watched.openReady s)) (Console.reach (b.openReady s)) c [.opened] ∧
      b.poolEvents s c.outside = [.opened, .closed]) := by
  let opening := Console.reach (b.openDatabase s.databaseAddress)
  let preparing := Console.reach b.prepareDatabase
  have hwatched : Console.reach (b.watched.openReady s) =
      Console.beside opening >>= fun _ =>
        Console.reach (PoolEvent.log .opened) >>= fun _ => Console.beside preparing := by
    simp only [openReady, watched, Console.reach_bind, bind_assoc]
    rfl
  have hplain : Console.reach (b.openReady s) =
      opening >>= fun _ => pure () >>= fun _ => preparing := by
    simp only [openReady, Console.reach_bind, pure_bind]
    rfl
  have hopening : Adds (Console.beside opening) opening c [] := .of_eq rfl c
  rw [hwatched, hplain]
  cases h : ((b.openDatabase s.databaseAddress).run c.outside).1.result with
  | error e =>
    simp only [openReady, run_bind, poolEvents, h]
    exact Or.inl ⟨e, rfl, hopening.bind_of_error h⟩
  | ok u =>
    have hadds : Adds (Console.beside opening >>= fun _ => Console.reach (PoolEvent.log .opened) >>=
        fun _ => Console.beside preparing) (opening >>= fun _ => pure () >>= fun _ => preparing) c
        [.opened] :=
      hopening.bind_of_ok h ((Adds.log .opened _).bind_of_ok rfl (.of_eq rfl _))
    simp only [openReady, run_bind, poolEvents, h]
    cases h' : (b.prepareDatabase.run
      ((b.openDatabase s.databaseAddress).run c.outside).2).1.result with
    | error e => exact Or.inl ⟨e, rfl, hadds⟩
    | ok u' => exact Or.inr ⟨rfl, hadds, rfl⟩

/-- A command that needs the database closes what was made ready, whatever its body does. -/
theorem adds_withDatabase {body : Action (Console σ) Unit}
    {body' : Action (Console (σ × List PoolEvent)) Unit}
    (hbody : body' = Console.beside body) (c : Console σ) :
    Adds (b.watched.withDatabase s body') (b.withDatabase s body) c (b.poolEvents s c.outside) := by
  rcases b.adds_openReady s c with ⟨e, he, hready⟩ | ⟨hok, hready, hevents⟩
  · exact hready.bind_of_error he
  · rw [hevents]
    exact hready.bind_of_ok hok ((Adds.of_eq hbody _).always (b.adds_closeDatabase _))

/-- A command that can do without the database opens it in the same way. -/
theorem adds_tryDatabase (c : Console σ) :
    (((b.tryDatabase s).run c).1.result ≠ .ok true ∧
      Adds (b.watched.tryDatabase s) (b.tryDatabase s) c (b.poolEvents s c.outside)) ∨
    (((b.tryDatabase s).run c).1.result = .ok true ∧
      Adds (b.watched.tryDatabase s) (b.tryDatabase s) c [.opened] ∧
      b.poolEvents s c.outside = [.opened, .closed]) := by
  rcases b.adds_openReady s c with ⟨e, he, hready⟩ | ⟨hok, hready, hevents⟩
  · have hbody := hready.bind_of_error (f := fun _ => pure true) (g := fun _ => pure true) he
    have hfault : ((Console.reach (b.openReady s) >>= fun _ => pure true).run c).1.result =
        .error e := by
      rw [result_bind, Console.reach, run_onPart, he]
      rfl
    refine Or.inl ⟨?_, ?_⟩
    · rw [tryDatabase, run_tryCatch, hfault]
      dsimp only
      split <;> nofun
    · rw [← List.append_nil (b.poolEvents s c.outside)]
      refine hbody.tryCatch_of_error hfault ?_
      intro log
      split
      · rw [List.append_nil]; rfl
      · rw [List.append_nil]; rfl
  · have hbody := hready.bind_of_ok (f := fun _ => pure true) (g := fun _ => pure true) hok
      (.of_eq (by rfl) _)
    have hvalue : ((Console.reach (b.openReady s) >>= fun _ => pure true).run c).1.result =
        .ok true := by
      rw [result_bind, Console.reach, run_onPart, hok]
      rfl
    refine Or.inr ⟨?_, hbody.tryCatch_of_ok hvalue, hevents⟩
    rw [tryDatabase, run_tryCatch, hvalue]
    exact hvalue

/-- Searching for books closes the database in the end, if it was made ready. -/
theorem adds_withBooks (layout : Listing.Layout) (usesAsync : Bool) (i : Inquiry) (c : Console σ) :
    Adds (b.watched.withBooks s usesAsync (i.carryOut layout))
      (b.withBooks s usesAsync (i.carryOut layout)) c (b.poolEvents s c.outside) := by
  have hmain (hasRatings : Bool) (c : Console σ) :
      Adds ((inSession (i.carryOut layout (b.watched.services usesAsync hasRatings))).always
          (Console.reach (b.watched.closeCatalogue usesAsync)))
        ((inSession (i.carryOut layout (b.services usesAsync hasRatings))).always
          (Console.reach (b.closeCatalogue usesAsync))) c [] := by
    have hshown := Adds.of_eq (b.inSession_onPart isPart_fst layout usesAsync hasRatings i) c
    exact hshown.always (.of_eq (by rfl) _)
  rcases b.adds_tryDatabase s c with ⟨hne, htry⟩ | ⟨hok, htry, hevents⟩
  · cases h : ((b.tryDatabase s).run c).1.result with
    | error e => exact htry.bind_of_error h
    | ok hasRatings =>
      -- there is no third way: what is not ready is gone on without
      obtain rfl : hasRatings = false := Bool.eq_false_iff.2 fun htrue => hne (htrue ▸ h)
      rw [← List.append_nil (b.poolEvents s c.outside)]
      exact htry.bind_of_ok h (hmain false _)
  · rw [hevents]
    exact htry.bind_of_ok hok ((hmain true _).always (b.adds_closeDatabase _))

end Backend

/-- Each command opens the database in one of the two ways. -/
theorem Command.adds_execute (b : Backend σ) (s : Settings) (command : Command) (c : Console σ) :
    Adds (command.execute b.watched s) (command.execute b s) c (b.poolEvents s c.outside) := by
  have hpart : IsPart (Prod.fst : σ × List PoolEvent → σ) fun o t => (o, t.2) := isPart_fst
  have hseen := isPart_seen hpart
  have hprint (l : Listing) := (Console.print_onPart hpart l).symm
  cases command with
  | search query layout usesAsync => exact b.adds_withBooks s layout usesAsync (.search query) c
  | collection name layout usesAsync =>
    exact b.adds_withBooks s layout usesAsync (.collection name) c
  | stats isbn =>
    refine b.adds_withDatabase s ?_ c
    exact Console.reach_bind_onPart hpart (b.ratings.statistics_onPart hpart _) fun _ => hprint _
  | top limit =>
    refine b.adds_withDatabase s ?_ c
    exact Console.reach_bind_onPart hpart (b.ratings.topRated_onPart hpart _ _)
      (b.showRanking_onPart hpart)
  | mostReviewed limit =>
    refine b.adds_withDatabase s ?_ c
    exact Console.reach_bind_onPart hpart (b.ratings.mostReviewed_onPart hpart _)
      (b.showRanking_onPart hpart)
  | summary =>
    refine b.adds_withDatabase s ?_ c
    exact Console.reach_bind_onPart hpart (b.ratings.summary_onPart hpart _) fun _ => hprint _
  | rate draft =>
    refine b.adds_withDatabase s ?_ c
    unfold Console.beside
    rw [hseen.onPart_bind, hseen.onPart_liftM]
    refine bind_congr fun rating => ?_
    refine Console.reach_bind_onPart hpart (b.ratings.submit_onPart hpart _ _) fun saved => ?_
    rw [hseen.onPart_bind, hseen.onPart_liftM]
    exact bind_congr fun l => hprint l
  | unrate username isbn =>
    refine b.adds_withDatabase s ?_ c
    exact Console.reach_bind_onPart hpart rfl fun _ => hprint _

/-! ## Runs -/

theorem Program.adds_ending (r : Except Fault Unit) (c : Console σ) :
    Adds (ending r) (ending r) c [] := by
  intro log
  rw [List.append_nil]
  cases r with
  | ok u => rfl
  | error f =>
    simp only [ending, endingOf]
    split <;> rfl

/-- A command line that is refused opens nothing. -/
theorem Program.adds_run (b : Backend σ) (s : Settings) (args : List String) (c : Console σ) :
    Adds (run b.watched s args) (run b s args) c
      (if (Command.parse args).isOk then b.poolEvents s c.outside else []) := by
  cases h : Command.parse args with
  | error r =>
    rw [run_of_refused h, run_of_refused h]
    exact .of_eq (by rfl) c
  | ok command =>
    rw [run_of_command h, run_of_command h]
    have hexecute := (command.adds_execute b s c).attempt.bind_of_ok rfl (adds_ending _ _)
    rw [List.append_nil] at hexecute
    exact hexecute

/-- However a command goes, if it opened its pool and made it ready, it closes it, and once. A pool
that could be opened but not made ready stays open. Watching makes no other difference. -/
theorem Program.run_watched (pool : Pool σ) (catalogue : Bool → Catalogue σ)
    (closeCatalogue : Bool → Action σ Unit) (now : Action σ Timestamp) (s : Settings)
    (args : List String) (c : Console σ) :
    let opening := (pool.openPool Pool.minConnections Pool.maxConnections s.databaseAddress).run
      c.outside
    let preparing := pool.prepare.run opening.2
    let events : List PoolEvent :=
      if (Command.parse args).isOk && opening.1.result.isOk then
        if preparing.1.result.isOk then [.opened, .closed] else [.opened]
      else []
    let plain := (run (.online pool catalogue closeCatalogue now) s args).run c
    let watched := Backend.online pool.watched
      (fun usesAsync call => (catalogue usesAsync call).beside)
      (fun usesAsync => (closeCatalogue usesAsync).beside) now.beside
    (run watched s args).run ⟨c.printed, (c.outside, [])⟩ =
      (plain.1, ⟨plain.2.printed, (plain.2.outside, events)⟩) := by
  intro opening preparing events plain watched
  have hevents : events = if (Command.parse args).isOk then
      (Backend.online pool catalogue closeCatalogue now).poolEvents s c.outside else [] := by
    unfold events
    cases (Command.parse args).isOk <;> rfl
  have hrun := Program.adds_run (.online pool catalogue closeCatalogue now) s args c []
  rw [List.nil_append, ← hevents] at hrun
  unfold watched
  rw [Backend.online_watched]
  exact hrun

/-- Tables that cannot be made, and the pool stays open, also after a command that ends well. -/
theorem Program.run_watched_leaves_open :
    let watched := Backend.online (Pool.refusing fun _ => true).watched
      (fun _ _ => pure (some [])) (fun _ => pure ()) (pure .earliest)
    let summary := (run watched .default ["summary"]).run ⟨[], ((), [])⟩
    let featured := (run watched .default ["collection", "featured"]).run ⟨[], ((), [])⟩
    summary.1.result = .ok .failed ∧ summary.2.outside.2 = [.opened] ∧
      featured.1.result = .ok .done ∧ featured.2.outside.2 = [.opened] :=
  ⟨rfl, rfl, rfl, rfl⟩

end CommandLine

end Bookfinder
