import Bookfinder.Book.Selection
import Bookfinder.Catalogue.Call
import Bookfinder.Navigation
import Bookfinder.Query.Reading
import Bookfinder.Rating.Store

/-!
# Searches

A search asks the catalogue the narrowest question that a query allows (`Query.call`). If that
call fails it asks the general question instead and narrows the answer itself; only if this fails
too does the search fail. The books are shown once each, with the figures of their ratings, and
recorded in the navigation under a section.

A search has two parts, for others may run in between: `Flight.start` takes a token for the
section, and `Flight.finish` asks the catalogue and records the list, unless a later search of
the section has begun meanwhile. `execute` is one after the other.
-/

namespace Bookfinder

/-! ## Questions -/

namespace Query

/-- The narrowest question to the catalogue that covers a query. -/
def call : Query → Call
  | .freeText t => .search t
  | .titleOnly t => .searchTitle t
  | .authorOnly t => .searchAuthor t
  | .authorYears t years =>
    if t.isEmpty then .allBooks
    else
      match years.single? with
      | some year => .searchAuthorYear t (some year)
      | none => .searchAuthor t

/-- Whether the answer to the question may hold books that the query does not ask for. The
catalogue knows single years only, so ranges are narrowed here. -/
def isWider : Query → Bool
  | .authorYears .. => true
  | _ => false

/-- The section that shows the results of a query if no other is named. -/
def sectionName : Query → String
  | .authorYears .. => Section.advancedSearch
  | _ => Section.search

end Query

/-- The section that shows the results of a request if no other is named. -/
def Request.sectionName : Request → String
  | .query q => q.sectionName
  | .other _ => Section.search

/-! ## Services -/

/-- What a search makes use of. -/
structure Services (σ : Type) where
  catalogue : Catalogue σ
  /-- Where the ratings of books are looked up, if anywhere. -/
  ratings : Option (RatingStore σ)

/-- The books of a search, and whether the first call for them failed. -/
structure Found where
  books : List Book
  usedFallback : Bool

namespace Services

variable {σ : Type}

/-- The answer to the narrowest question. -/
def primary (services : Services σ) (q : Query) : Action σ (Option (List Book)) := do
  match ← services.catalogue q.call with
  | none => return none
  | some books => if q.isWider then some <$> Selection.matching books q else return some books

/-- The answer to the general question, narrowed to the query. -/
def fallback (services : Services σ) (q : Query) : Action σ (Option (List Book)) := do
  match ← services.catalogue (.search q.term) with
  | none => return none
  | some books => some <$> Selection.matching books q

/-- The books that the catalogue has for a query. -/
def find (services : Services σ) (q : Query) : Action σ Found := do
  match ← services.primary q with
  | some books => return ⟨books, false⟩
  | none =>
    Action.note (.primaryFailed (← q.write))
    match ← services.fallback q with
    | some books => return ⟨books, true⟩
    | none =>
      Action.note (.fallbackFailed (← q.write))
      throw (.searchFailed (.query q) "catalog service unavailable")

/-- Books with the figures of their ratings, if there is a place to look them up. -/
def enriched (services : Services σ) (books : List Book) : Action σ (List Book) :=
  match services.ratings with
  | some store => if books.isEmpty then pure books else store.enrich books
  | none => pure books

end Services

/-! ## Sessions -/

/-- The lists that were shown, and the state of what is outside. -/
structure Session (σ : Type) where
  navigation : Navigation
  outside : σ

namespace Session

variable {σ α : Type}

/-- An action outside the navigation. -/
def reach (x : Action σ α) : Action (Session σ) α :=
  x.onPart Session.outside fun o s => { s with outside := o }

/-- A step of the navigation. -/
def navigate (f : Navigation → α × Navigation) : Action (Session σ) α :=
  Action.update fun s => ((f s.navigation).1, { s with navigation := (f s.navigation).2 })

/-- Forgets all lists, as after logging out. -/
def reset : Action (Session σ) Unit := navigate fun n => ((), n.clear)

@[simp] theorem run_reach (x : Action σ α) (s : Session σ) :
    (reach x).run s = ((x.run s.outside).1, { s with outside := (x.run s.outside).2 }) := rfl

@[simp] theorem run_navigate (f : Navigation → α × Navigation) (s : Session σ) :
    (navigate f).run s =
      (.ok (f s.navigation).1, { s with navigation := (f s.navigation).2 }) := rfl

@[simp] theorem reach_pure (a : α) : (reach (pure a) : Action (Session σ) α) = pure a := rfl

@[simp] theorem reach_throw (e : Fault) :
    (reach (throw e) : Action (Session σ) α) = throw e := rfl

@[simp] theorem reach_liftM (r : Except Fault α) :
    (reach (liftM r) : Action (Session σ) α) = liftM r := rfl

@[simp] theorem reach_note (n : Notice) :
    (reach (Action.note n) : Action (Session σ) Unit) = Action.note n := rfl

/-- What is done outside is done step by step. -/
theorem reach_bind {β : Type} (x : Action σ α) (f : α → Action σ β) :
    reach (x >>= f) = reach x >>= fun a => reach (f a) := by
  refine Action.ext fun s => ?_
  simp only [run_reach, Action.run_bind]
  obtain ⟨⟨r, ns⟩, o⟩ := x.run s.outside
  cases r <;> rfl

end Session

/-- A search that is under way. -/
structure Flight where
  query : Query
  sectionName : String
  token : Token

/-- The result of a search. -/
structure SearchResult where
  query : Query
  books : List Book
  sectionName : String
  usedFallback : Bool
  /-- Whether a later search of the section began before this one ended. -/
  isStale : Bool

namespace Flight

variable {σ : Type}

/-- Begins a search under the section `name`, or under the usual one if that is missing or
empty. What is no query takes a token all the same. -/
def start (r : Request) (name : Option String) : Action (Session σ) Flight := do
  let sectionName := (name.filter (!·.isEmpty)).getD r.sectionName
  let token ← Session.navigate (·.begin sectionName)
  let query ← r.known
  return { query, sectionName, token }

/-- Ends a search: asks the catalogue and records the books. -/
def finish (services : Services σ) (f : Flight) : Action (Session σ) SearchResult := do
  let found ← Session.reach (services.find f.query)
  let books ← Session.reach (services.enriched (Selection.distinct found.books))
  let stored ← Session.navigate (·.put f.sectionName books (some f.token))
  return { query := f.query, books, sectionName := f.sectionName,
           usedFallback := found.usedFallback, isStale := !stored }

/-- Begins the search for what is typed into the search box; nothing for a blank text. -/
def startRaw (raw : Option String) (name : Option String) :
    Action (Session σ) (Option Flight) := do
  match ← Query.parse raw with
  | some q => some <$> start (.query q) name
  | none => return none

end Flight

namespace Session

variable {σ : Type}

/-- Runs a search. -/
def execute (services : Services σ) (r : Request) (name : Option String) :
    Action (Session σ) SearchResult := do
  (← Flight.start r name).finish services

/-- Runs the search for what is typed into the search box; nothing for a blank text. -/
def search (services : Services σ) (raw : Option String) (name : Option String) :
    Action (Session σ) (Option SearchResult) := do
  match ← Flight.startRaw raw name with
  | some f => some <$> f.finish services
  | none => return none

end Session

end Bookfinder
