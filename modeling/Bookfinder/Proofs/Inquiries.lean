import Bookfinder.CommandLine.Program
import Bookfinder.Proofs.Parts

/-!
# What the commands show

A search and a curated section are two kinds of `Inquiry`. The catalogue has a `Page` of books for
it (`Inquiry.page`), which is then printed with what is known of ratings (`Page.print`). A command
does this in a session of its own. Nobody looks at the navigation of that session, so the command is
the page and the printing, one after the other (`inSession_carryOut`).
-/

namespace Bookfinder.CommandLine

open Bookfinder.Action

variable {σ τ α β : Type}

namespace Console

theorem isPart_outside : IsPart (outside : Console σ → σ) fun o c => { c with outside := o } :=
  ⟨fun _ _ => rfl, fun _ => rfl, fun _ _ _ => rfl⟩

theorem reach_bind (x : Action σ α) (f : α → Action σ β) :
    reach (x >>= f) = reach x >>= fun a => reach (f a) :=
  isPart_outside.onPart_bind x f

theorem print_nil : (print [] : Action (Console σ) Unit) = pure () :=
  Action.ext fun c => by simp [print]

end Console

/-! ## Pages -/

/-- Books of the catalogue, and the lines that stand above them when they are listed. -/
structure Page where
  books : List Book
  heading : List Book → Listing

/-- Prints a page with the figures of the ratings, and a word in place of a page if there is none.
-/
def Page.print (services : Services (Console σ)) (layout : Listing.Layout) :
    Option Page → Action (Console σ) Unit
  | none => Console.print Report.emptyQuery
  | some p => do
    let books ← services.enriched p.books
    Console.print (p.heading books)
    Console.print (← Listing.books (some layout) books)

/-- What one can ask to be shown. -/
inductive Inquiry where
  | search (query : String)
  | collection (name : String)

namespace Inquiry

/-- The page that the catalogue has for an inquiry; none for a blank search. -/
def page (catalogue : Catalogue σ) : Inquiry → Action σ (Option Page)
  | .search query => do
    match ← Query.parse (some query) with
    | none => return none
    | some q =>
      let found ← (Services.mk catalogue none).find q
      return some ⟨Selection.distinct found.books,
        fun books => Report.results q found.usedFallback books.length⟩
  | .collection name => do
    match collectionCall? name with
    | none => throw (.unknownSection name)
    | some call =>
      match ← catalogue call with
      | none => throw (.searchFailed (.collection name) ("could not load '" ++ name ++ "'"))
      | some books => return some ⟨books, fun _ => []⟩

/-- Carries out an inquiry in a session. -/
def carryOut (layout : Listing.Layout) (services : Services (Console σ)) :
    Inquiry → Action (Session (Console σ)) Unit
  | .search query => Backend.showSearch query layout services
  | .collection name => Backend.showCollection name layout services

/-- A catalogue in a part of the state has its pages in that part. -/
theorem page_onPart {view : τ → σ} {write : σ → τ → τ} (h : IsPart view write)
    (catalogue : Catalogue σ) (i : Inquiry) :
    i.page (fun call => (catalogue call).onPart view write) =
      (i.page catalogue).onPart view write := by
  cases i with
  | search query =>
    rw [page, page, h.onPart_bind, h.onPart_liftM_outcome]
    refine bind_congr fun parsed => ?_
    cases parsed with
    | none => exact (h.onPart_pure none).symm
    | some q =>
      dsimp only
      rw [h.onPart_bind, ← (Services.mk catalogue none).find_onPart h]
      exact bind_congr fun found => (h.onPart_pure _).symm
  | collection name =>
    rw [page, page]
    cases collectionCall? name with
    | none => exact (h.onPart_throw _).symm
    | some call =>
      dsimp only
      rw [h.onPart_bind]
      refine bind_congr fun answer => ?_
      cases answer with
      | none => exact (h.onPart_throw _).symm
      | some books => exact (h.onPart_pure _).symm

end Inquiry

/-! ## Sessions of one command -/

theorem Inquiry.simulates_carryOut (layout : Listing.Layout) (services : Services (Console σ))
    (i : Inquiry) :
    Simulates Session.outside (i.carryOut layout services)
      (i.page services.catalogue >>= Page.print services layout) := by
  cases i with
  | search query =>
    simp only [carryOut, Backend.showSearch, Session.search, Flight.startRaw, page, bind_assoc]
    refine (Simulates.lift _).bind fun parsed => ?_
    cases parsed with
    | none =>
      rw [pure_bind, pure_bind]
      exact Session.simulates_outside _
    | some q =>
      have hknown : (liftM (Request.query q).known : Action (Session (Console σ)) Query) = pure q :=
        rfl
      simp only [Flight.start, Flight.finish, hknown, map_eq_pure_bind, bind_assoc, pure_bind]
      -- steps of the navigation are passed over, all others are the same on both sides
      refine Session.simulates_outside_navigate _ fun token => ?_
      refine (Session.simulates_outside _).bind fun found => ?_
      refine (Session.simulates_outside _).bind fun books => ?_
      refine Session.simulates_outside_navigate _ fun stored => ?_
      refine (Session.simulates_outside _).bind fun _ => ?_
      exact (Simulates.lift _).bind fun listing => Session.simulates_outside _
  | collection name =>
    simp only [carryOut, Backend.showCollection, Session.loadCollection, Load.start, page,
      bind_assoc]
    cases collectionCall? name with
    | none => exact fun s => rfl
    | some call =>
      simp only [Load.finish, bind_assoc, pure_bind]
      refine Session.simulates_outside_navigate _ fun token => ?_
      refine (Session.simulates_outside _).bind fun answer => ?_
      cases answer with
      | none => exact fun s => rfl
      | some books =>
        simp only [bind_assoc, pure_bind, Page.print, Console.print_nil]
        refine (Session.simulates_outside _).bind fun shown => ?_
        refine Session.simulates_outside_navigate _ fun stored => ?_
        exact (Simulates.lift _).bind fun listing => Session.simulates_outside _

theorem Backend.inSession_eq {x : Action (Session (Console σ)) α} {y : Action (Console σ) α}
    (h : Simulates Session.outside x y) : inSession x = y :=
  Action.ext fun c => (h ⟨.empty, c⟩).symm

/-- A command shows its page, whatever becomes of the session. -/
theorem Backend.inSession_carryOut (layout : Listing.Layout) (services : Services (Console σ))
    (i : Inquiry) :
    inSession (i.carryOut layout services) =
      i.page services.catalogue >>= Page.print services layout :=
  inSession_eq (i.simulates_carryOut layout services)

/-! ## Runs -/

namespace Program

variable {b : Backend σ} {s : Settings} {args : List String}

/-- How a run ends after its command, which came to a result. -/
def ending : Except Fault Unit → Action (Console σ) Ending
  | .ok () => pure .done
  | .error f => endingOf f

theorem run_of_refused {r : Refusal} (h : Command.parse args = .error r) :
    run b s args = pure (.refused r) := by
  rw [run, h]

theorem run_of_command {command : Command} (h : Command.parse args = .ok command) :
    run b s args = (command.execute b s).attempt >>= ending := by
  rw [run, h]
  refine bind_congr fun r => ?_
  cases r <;> rfl

end Program

end Bookfinder.CommandLine
