import Bookfinder.Proofs.PoolLifetime
import Mathlib.Control.Monad.Basic

/-!
# Books without ratings

The commands that show books look up ratings in the database, and are meant to do without them if it
is down. They do so if the database cannot be opened or made ready: the page of the catalogue is
printed as it came, and the command ends well. If the database is lost later, when the ratings of
the books are looked up, the fault goes through to the end of the command, and the books, which are
there by then, are not shown. `Program.run_without_ratings` states both for all searches and
sections.
-/

namespace Bookfinder.CommandLine

open Bookfinder.Action

variable {σ α β : Type}

/-! ## Results of actions -/

/-- From the state `s` an action comes to the result `r` and leaves the state `s'`. -/
def Gives (x : Action σ α) (s : σ) (r : Except Fault α) (s' : σ) : Prop :=
  (x.run s).1.result = r ∧ (x.run s).2 = s'

namespace Gives

variable {x : Action σ α} {f : α → Action σ β} {s s' s'' : σ} {a : α} {e : Fault}
  {r : Except Fault β}

theorem bind (hx : Gives x s (.ok a) s') (hf : Gives (f a) s' r s'') :
    Gives (x >>= f) s r s'' := by
  obtain ⟨hr, rfl⟩ := hx
  rw [Gives, run_bind, hr]
  exact hf

theorem bind_error (hx : Gives x s (.error e) s') : Gives (x >>= f) s (.error e) s' := by
  obtain ⟨hr, rfl⟩ := hx
  rw [Gives, run_bind, hr]
  exact ⟨rfl, rfl⟩

/-- What is closed in the end without a fault does not change the result. -/
theorem always {r : Except Fault α} {closing : Action σ Unit} (hx : Gives x s r s')
    (hclosing : Gives closing s' (.ok ()) s'') : Gives (x.always closing) s r s'' := by
  obtain ⟨rfl, rfl⟩ := hx
  rw [Gives, run_always, hclosing.1]
  exact ⟨rfl, hclosing.2⟩

theorem attempt {r : Except Fault α} (hx : Gives x s r s') : Gives x.attempt s (.ok r) s' := by
  obtain ⟨rfl, rfl⟩ := hx
  exact ⟨rfl, rfl⟩

theorem reach {c : Console σ} {r : Except Fault α} (hx : Gives x c.outside r s') :
    Gives (Console.reach x) c r { c with outside := s' } := by
  obtain ⟨rfl, rfl⟩ := hx
  exact ⟨rfl, rfl⟩

theorem print (l : Listing) (c : Console σ) :
    Gives (Console.print l) c (.ok ()) { c with printed := c.printed ++ l } :=
  ⟨rfl, rfl⟩

end Gives

/-! ## Commands -/

/-- The command that carries out an inquiry. -/
def Inquiry.command (layout : Listing.Layout) (usesAsync : Bool) : Inquiry → Command
  | .search query => .search query layout usesAsync
  | .collection name => .collection name layout usesAsync

theorem Inquiry.execute_command (i : Inquiry) (layout : Listing.Layout) (usesAsync : Bool)
    (b : Backend σ) (s : Settings) :
    (i.command layout usesAsync).execute b s = b.withBooks s usesAsync (i.carryOut layout) := by
  cases i <;> rfl

/-- A page as it is listed without ratings. -/
def Page.listing (layout : Listing.Layout) : Option Page → Except Fault Listing
  | none => .ok Report.emptyQuery
  | some p => do return p.heading p.books ++ (← Listing.books (some layout) p.books)

namespace Backend

variable {b : Backend σ} {s : Settings} {c : Console σ}

theorem tryDatabase_of_down {o : σ} {text : String}
    (h : Gives (b.openReady s) c.outside (.error (.external .database text)) o) :
    Gives (b.tryDatabase s) c (.ok false) { c with outside := o } := by
  have hbody := h.reach.bind_error (f := fun _ => pure true)
  rw [Gives, tryDatabase, run_tryCatch, hbody.1]
  exact ⟨rfl, hbody.2⟩

theorem tryDatabase_of_ready {o : σ} (h : Gives (b.openReady s) c.outside (.ok ()) o) :
    Gives (b.tryDatabase s) c (.ok true) { c with outside := o } := by
  have hbody := h.reach.bind (f := fun _ => pure true) ⟨rfl, rfl⟩
  rw [Gives, tryDatabase, run_tryCatch, hbody.1]
  exact hbody

theorem inSession_of_page (layout : Listing.Layout) (usesAsync hasRatings : Bool) (i : Inquiry) :
    inSession (i.carryOut layout (b.services usesAsync hasRatings)) =
      Console.reach (i.page (b.catalogue usesAsync)) >>=
        Page.print (b.services usesAsync hasRatings) layout := by
  rw [inSession_carryOut]
  exact congrArg (· >>= Page.print _ layout) (i.page_onPart Console.isPart_outside _)

/-- A fault of the ratings is the fault of the step that adds them to the books. -/
theorem enriched_of_fault {usesAsync : Bool} {books : List Book} {e : Fault} {o : σ}
    (h : Gives (b.ratings.enrich books) c.outside (.error e) o) :
    Gives ((b.services usesAsync true).enriched books) c (.error e) { c with outside := o } := by
  let services : Services σ := ⟨b.catalogue usesAsync, some b.ratings⟩
  have hpart : (b.services usesAsync true).enriched books =
      Console.reach (services.enriched books) :=
    Services.enriched_onPart Console.isPart_outside rfl books
  rw [hpart]
  cases books with
  | nil =>
    -- nothing is looked up for no books, so nothing fails
    exact absurd h.1 nofun
  | cons book books => exact Gives.reach h

end Backend

theorem Page.print_of_listing {services : Services (Console σ)}
    (hservices : services.ratings = none) {layout : Listing.Layout} {p : Option Page} {l : Listing}
    (h : listing layout p = .ok l) (c : Console σ) :
    Gives (print services layout p) c (.ok ()) { c with printed := c.printed ++ l } := by
  cases p with
  | none =>
    obtain rfl := Except.ok.inj h
    exact .print _ c
  | some p =>
    obtain ⟨books, hbooks, h⟩ := bind_eq_ok.1 h
    obtain rfl := Except.ok.inj h
    have henriched : services.enriched p.books = pure p.books := by
      rw [Services.enriched, hservices]
    rw [print, henriched, pure_bind]
    refine (Gives.print _ c).bind ?_
    rw [hbooks, liftM_ok, pure_bind, ← List.append_assoc]
    exact .print _ _

/-! ## With and without the database -/

namespace Backend

variable {b : Backend σ} {s : Settings} {layout : Listing.Layout} {usesAsync : Bool}
  {i : Inquiry} {c : Console σ} {o o' o'' : σ}
  (hcatalogue : ∀ o, ((b.closeCatalogue usesAsync).run o).1.result = .ok ())
include hcatalogue

/-- While the database is down a command shows the page of the catalogue. -/
theorem withBooks_of_down {text : String} {page : Option Page} {l : Listing}
    (hdown : Gives (b.openReady s) c.outside (.error (.external .database text)) o)
    (hpage : Gives (i.page (b.catalogue usesAsync)) o (.ok page) o')
    (hlisting : Page.listing layout page = .ok l) :
    ∃ o'', Gives (b.withBooks s usesAsync (i.carryOut layout)) c (.ok ()) ⟨c.printed ++ l, o''⟩ := by
  have hshown : Gives (inSession (i.carryOut layout (b.services usesAsync false)))
      { c with outside := o } (.ok ()) ⟨c.printed ++ l, o'⟩ := by
    rw [inSession_of_page]
    exact hpage.reach.bind (Page.print_of_listing rfl hlisting _)
  exact ⟨_, (tryDatabase_of_down hdown).bind (hshown.always (.reach ⟨hcatalogue o', rfl⟩))⟩

/-- A fault in the lookup of the ratings is the fault of the command, and nothing was printed yet.
-/
theorem withBooks_of_lost {page : Page} {e : Fault}
    (hready : Gives (b.openReady s) c.outside (.ok ()) o)
    (hpage : Gives (i.page (b.catalogue usesAsync)) o (.ok (some page)) o')
    (hlookup : Gives (b.ratings.enrich page.books) o' (.error e) o'')
    (hdatabase : ∀ o, (b.closeDatabase.run o).1.result = .ok ()) :
    ∃ o, Gives (b.withBooks s usesAsync (i.carryOut layout)) c (.error e) ⟨c.printed, o⟩ := by
  have hshown : Gives (inSession (i.carryOut layout (b.services usesAsync true)))
      { c with outside := o } (.error e) ⟨c.printed, o''⟩ := by
    rw [inSession_of_page]
    exact hpage.reach.bind (Gives.bind_error (enriched_of_fault hlookup))
  exact ⟨_, (tryDatabase_of_ready hready).bind
    ((hshown.always (.reach ⟨hcatalogue o'', rfl⟩)).always (.reach ⟨hdatabase _, rfl⟩))⟩

end Backend

/-! ## Runs -/

namespace Program

variable {b : Backend σ} {s : Settings} {args : List String} {c c' : Console σ}

theorem gives_run {command : Command} {r : Except Fault Unit}
    (hargs : Command.parse args = .ok command) (h : Gives (command.execute b s) c r c') :
    Gives (run b s args) c ((ending r).run c').1.result c' := by
  rw [run_of_command hargs]
  refine h.attempt.bind ⟨rfl, ?_⟩
  cases r with
  | ok u => rfl
  | error f =>
    simp only [ending, endingOf]
    split <;> rfl

/-- A database that cannot be opened or made ready costs the ratings only: the command prints the
page of the catalogue and ends well. A database that is lost when the ratings are looked up costs
the books too: the command prints nothing and fails. -/
theorem run_without_ratings {i : Inquiry} {layout : Listing.Layout} {usesAsync : Bool}
    (hargs : Command.parse args = .ok (i.command layout usesAsync))
    (hcatalogue : ∀ o, ((b.closeCatalogue usesAsync).run o).1.result = .ok ())
    (hdatabase : ∀ o, (b.closeDatabase.run o).1.result = .ok ()) (c : Console σ) :
    let opening := (b.openReady s).run c.outside
    let asked := (i.page (b.catalogue usesAsync)).run opening.2
    let run := (run b s args).run c
    (∀ text page l, opening.1.result = .error (.external .database text) →
      asked.1.result = .ok page → Page.listing layout page = .ok l →
        run.1.result = .ok .done ∧ run.2.printed = c.printed ++ l) ∧
    (∀ text page, opening.1.result = .ok () → asked.1.result = .ok (some page) →
      ((b.ratings.enrich page.books).run asked.2).1.result = .error (.external .database text) →
        run.1.result = .ok .failed ∧ run.2.printed = c.printed) := by
  intro opening asked run
  constructor
  · intro text page l hdown hpage hlisting
    obtain ⟨o, hall⟩ :=
      Backend.withBooks_of_down hcatalogue ⟨hdown, rfl⟩ ⟨hpage, rfl⟩ hlisting
    rw [← i.execute_command] at hall
    obtain ⟨hdone, hleft⟩ := gives_run hargs hall
    exact ⟨hdone, hleft ▸ rfl⟩
  · intro text page hready hpage hlookup
    obtain ⟨o, hall⟩ := Backend.withBooks_of_lost hcatalogue ⟨hready, rfl⟩ ⟨hpage, rfl⟩
      ⟨hlookup, rfl⟩ hdatabase
    rw [← i.execute_command layout] at hall
    obtain ⟨hfailed, hleft⟩ := gives_run hargs hall
    exact ⟨hfailed, hleft ▸ rfl⟩

/-- The recommended books, with no way to the database, and with a database that is lost before the
ratings are looked up. -/
theorem run_without_ratings_featured :
    let book : Book := { Book.blank with isbn := some "1", title := .text "Dune" }
    let down : Pool Unit :=
      { Pool.refusing fun _ => false with
        openPool := fun _ _ _ => throw (.external .database "no route") }
    let lost : Pool Unit := Pool.refusing (· = Statement.select "isbn = ANY(%s)")
    let start (pool : Pool Unit) : Outcome Ending × Console Unit :=
      (run (.online pool (fun _ _ => pure (some [book])) (fun _ => pure ()) (pure .earliest))
        .default ["collection", "featured", "--format", "compact"]).run ⟨[], ()⟩
    (start down).1.result = .ok .done ∧
      (start down).2.printed = [Listing.line "1. Dune - Unknown"] ∧
      (start lost).1.result = .ok .failed ∧ (start lost).2.printed = [] := by
  intro book down lost start
  have hargs : Command.parse ["collection", "featured", "--format", "compact"] =
      .ok (Inquiry.command .compact false (.collection "featured")) := rfl
  have hruns (pool : Pool Unit) (hclosing : (pool.closeAll.run ()).1.result = .ok ()) :=
    run_without_ratings (b := .online pool (fun _ _ => pure (some [book])) (fun _ => pure ())
      (pure .earliest)) (s := .default) hargs (fun _ => rfl) (fun _ => hclosing) ⟨[], ()⟩
  obtain ⟨hdone, hshown⟩ := (hruns down rfl).1 "no route" _ _ rfl rfl rfl
  obtain ⟨hfailed, hnothing⟩ :=
    (hruns lost rfl).2 "connection lost" _ rfl rfl (by decide +kernel)
  exact ⟨hdone, hshown, hfailed, hnothing⟩

/-- A database that is lost before the ratings are looked up, and no book is shown. -/
theorem run_loses_books :
    let book : Book := { Book.blank with isbn := some "1", title := .text "Dune" }
    let lost : Pool Unit := Pool.refusing (· = Statement.select "isbn = ANY(%s)")
    let featured :=
      (run (.online lost (fun _ _ => pure (some [book])) (fun _ => pure ()) (pure .earliest))
        .default ["collection", "featured"]).run ⟨[], ()⟩
    featured.1.result = .ok .failed ∧ featured.2.printed = [] := by
  intro book lost featured
  decide +kernel

end Program

end Bookfinder.CommandLine
