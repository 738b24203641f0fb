import Bookfinder.Search.Session

/-!
# Curated sections

The catalogue offers some lists of its own: recommended, free and new books. A `Load` is such a
list on its way; like a search it takes a token when it begins and is recorded when it ends, but
its books are shown as they come. `Session.loadCollections` loads several sections at once: what
fails is reported and left out.
-/

namespace Bookfinder

/-- The question behind a curated section. -/
def collectionCall? (name : String) : Option Call :=
  if name = Section.featured then some .featured
  else if name = Section.free then some .free
  else if name = Section.new then some .newReleases
  else none

/-- A curated section that is being loaded. -/
structure Load where
  sectionName : String
  call : Call
  token : Token

namespace Load

variable {σ : Type}

/-- Begins to load a section. -/
def start (name : String) : Action (Session σ) Load := do
  match collectionCall? name with
  | none => throw (.unknownSection name)
  | some call => return { sectionName := name, call, token := ← Session.navigate (·.begin name) }

/-- Ends loading a section: asks the catalogue and records the books. -/
def finish (services : Services σ) (l : Load) : Action (Session σ) (List Book) := do
  match ← Session.reach (services.catalogue l.call) with
  | none =>
    throw (.searchFailed (.collection l.sectionName) ("could not load '" ++ l.sectionName ++ "'"))
  | some books =>
    let books ← Session.reach (services.enriched books)
    let _ ← Session.navigate (·.put l.sectionName books (some l.token))
    return books

end Load

namespace Session

variable {σ : Type}

/-- Loads a curated section. -/
def loadCollection (services : Services σ) (name : String) : Action (Session σ) (List Book) := do
  (← Load.start name).finish services

/-- Ends the loads with the given positions, one after the other; a load that did not begin
keeps its fault. -/
def finishLoads (services : Services σ) (loads : List (Except Fault Load)) (order : List Nat) :
    Action (Session σ) (List (Nat × Except Fault (List Book))) :=
  (order.filterMap fun i => (loads[i]?).map (i, ·)).mapM fun (i, load) =>
    match load with
    | .ok l => do return (i, ← (l.finish services).attempt)
    | .error f => return (i, .error f)

/-- The books of the sections that were loaded. A section that failed is reported; any other
fault is the result of the whole. -/
def loadedBooks (results : List (String × Except Fault (List Book))) :
    Outcome (Association (List Book)) :=
  results.foldlM (fun loaded (name, result) =>
    match result with
    | .ok books => pure (loaded.put name books)
    | .error (.searchFailed _ reason) => do
      Outcome.note (.sectionUnavailable name reason)
      return loaded
    | .error f => throw f) []

/-- Loads sections at once; `order` lists their positions as the answers come in. -/
def loadCollectionsInOrder (services : Services σ) (names : List String) (order : List Nat) :
    Action (Session σ) (Association (List Book)) := do
  let loads ← names.mapM fun name => (Load.start name).attempt
  let results ← finishLoads services loads order
  loadedBooks (names.zipIdx.filterMap fun (name, i) =>
    (results.lookup i).map fun result => (name, result))

/-- Loads sections at once, the answers coming in the order of the questions. -/
def loadCollections (services : Services σ) (names : List String) :
    Action (Session σ) (Association (List Book)) :=
  loadCollectionsInOrder services names (List.range names.length)

/-- The sections that are loaded unless others are named. -/
def usualCollections : List String := [Section.featured, Section.free, Section.new]

end Session

end Bookfinder
