import Bookfinder.Database.Store
import Bookfinder.Proofs.Simulation

/-!
# Services in a part of a state

What is made of actions on one part of a state is an action on that part. So it is with the figures
of a store (`RatingStore.statistics_onPart` and the others), with what a search finds
(`Services.find_onPart`) and with the store over a pool of connections (`Pool.store_onPart`). A
larger state may therefore keep a record of its own beside the services, and they do not touch it.
-/

namespace Bookfinder

open Bookfinder.Action

variable {σ τ α β : Type} {view : τ → σ} {write : σ → τ → τ}

namespace IsPart

variable (h : IsPart view write)
include h

theorem onPart_throw (e : Fault) : (throw e : Action σ α).onPart view write = throw e :=
  h.onPart_lift _

theorem onPart_note (n : Notice) : (note n).onPart view write = note n := h.onPart_lift _

theorem onPart_liftM (r : Except Fault α) : (liftM r : Action σ α).onPart view write = liftM r :=
  h.onPart_lift _

theorem onPart_liftM_outcome (o : Outcome α) :
    (liftM o : Action σ α).onPart view write = liftM o :=
  h.onPart_lift o

/-- A function of the value is no business of the state. -/
theorem onPart_map (f : α → β) (x : Action σ α) :
    (f <$> x).onPart view write = f <$> x.onPart view write := by
  rw [map_eq_pure_bind, map_eq_pure_bind, h.onPart_bind]
  exact bind_congr fun a => h.onPart_pure (f a)

/-- What closes an action on a part closes it in the larger state. -/
theorem onPart_always (x : Action σ α) (closing : Action σ Unit) :
    (x.always closing).onPart view write =
      (x.onPart view write).always (closing.onPart view write) := by
  refine Action.ext fun t => ?_
  simp only [run_onPart, run_always, h.view_write, h.write_write]

/-- A fault that is handled on a part is handled in the larger state. -/
theorem onPart_tryCatch (x : Action σ α) (handle : Fault → Action σ α) :
    (tryCatch x handle).onPart view write =
      tryCatch (x.onPart view write) fun e => (handle e).onPart view write := by
  refine Action.ext fun t => ?_
  simp only [run_onPart, run_tryCatch]
  cases hr : (x.run (view t)).1.result with
  | ok a => rfl
  | error e => simp only [h.view_write, h.write_write]

end IsPart

section Part

variable (h : IsPart view write)
include h

/-! ## Figures of ratings -/

namespace RatingStore

variable (store : RatingStore σ)

/-- The figures of a book are made from the part of the state that keeps the ratings. -/
theorem statistics_onPart (isbn : Payload) :
    (store.onPart view write).statistics isbn = (store.statistics isbn).onPart view write := by
  simp only [statistics, h.onPart_bind, h.onPart_liftM]
  rfl

/-- So is the list of the best rated books. -/
theorem topRated_onPart (least : Int) (limit : Option Int) :
    (store.onPart view write).topRated least limit =
      (store.topRated least limit).onPart view write := by
  simp only [topRated, h.onPart_bind, h.onPart_liftM]
  rfl

theorem mostReviewed_onPart (limit : Option Int) :
    (store.onPart view write).mostReviewed limit =
      (store.mostReviewed limit).onPart view write := by
  simp only [mostReviewed, h.onPart_bind, h.onPart_liftM]
  rfl

/-- So is the summary of all ratings. -/
theorem summary_onPart (top : Option Int) :
    (store.onPart view write).summary top = (store.summary top).onPart view write := by
  simp only [summary, h.onPart_bind, h.onPart_liftM, store.mostReviewed_onPart h]
  refine bind_congr fun ratings => bind_congr fun s => ?_
  split
  · exact (h.onPart_pure s).symm
  · rw [h.onPart_bind]
    exact bind_congr fun isbns => (h.onPart_pure _).symm

/-- A rating is submitted to the part of the state, with the clock that is kept there. -/
theorem submit_onPart (now : Action σ Timestamp) (r : Rating) :
    (store.onPart view write).submit (now.onPart view write) r =
      (store.submit now r).onPart view write := by
  simp only [submit, h.onPart_bind, h.onPart_liftM]
  rfl

end RatingStore

/-! ## Searches -/

namespace Services

/-- Services in a part of a larger state. -/
def onPart (view : τ → σ) (write : σ → τ → τ) (services : Services σ) : Services τ where
  catalogue call := (services.catalogue call).onPart view write
  ratings := services.ratings.map (.onPart view write)

variable (services : Services σ)

/-- The narrowest question is asked of the part. -/
theorem primary_onPart (q : Query) :
    (services.onPart view write).primary q = (services.primary q).onPart view write := by
  rw [primary, primary, h.onPart_bind]
  refine bind_congr fun answer => ?_
  cases answer with
  | none => exact (h.onPart_pure none).symm
  | some books =>
    dsimp only
    split
    · rw [h.onPart_map, h.onPart_liftM]
    · exact (h.onPart_pure _).symm

/-- So is the general one. -/
theorem fallback_onPart (q : Query) :
    (services.onPart view write).fallback q = (services.fallback q).onPart view write := by
  rw [fallback, fallback, h.onPart_bind]
  refine bind_congr fun answer => ?_
  cases answer with
  | none => exact (h.onPart_pure none).symm
  | some books => exact ((h.onPart_map _ _).trans (by rw [h.onPart_liftM])).symm

/-- What a search finds it finds in the part, with the same notices. -/
theorem find_onPart (q : Query) :
    (services.onPart view write).find q = (services.find q).onPart view write := by
  rw [find, find, h.onPart_bind, services.primary_onPart h]
  refine bind_congr fun answer => ?_
  cases answer with
  | some books => exact (h.onPart_pure _).symm
  | none =>
    rw [h.onPart_bind, h.onPart_liftM]
    refine bind_congr fun _ => ?_
    rw [h.onPart_bind, h.onPart_note]
    refine bind_congr fun _ => ?_
    rw [h.onPart_bind, services.fallback_onPart h]
    refine bind_congr fun answer => ?_
    cases answer with
    | some books => exact (h.onPart_pure _).symm
    | none => simp only [h.onPart_bind, h.onPart_liftM, h.onPart_note, h.onPart_throw]

end Services

end Part

/-! ## Connections -/

namespace Pool

/-- A pool of connections whose state is a part of a larger one. -/
def onPart (view : τ → σ) (write : σ → τ → τ) (pool : Pool σ) : Pool τ where
  openPool least most address := (pool.openPool least most address).onPart view write
  take := pool.take.onPart view write
  openCursor := pool.openCursor.onPart view write
  execute statement params := (pool.execute statement params).onPart view write
  fetchAll := pool.fetchAll.onPart view write
  fetchOne := pool.fetchOne.onPart view write
  rowCount := pool.rowCount.onPart view write
  commit := pool.commit.onPart view write
  rollback := pool.rollback.onPart view write
  giveBack := pool.giveBack.onPart view write
  closeAll := pool.closeAll.onPart view write

variable (h : IsPart view write) (pool : Pool σ)
include h

/-- A connection is taken from the part and given back to it around whatever is done there. -/
theorem lend_onPart (operation : Action σ α) :
    (pool.onPart view write).lend (operation.onPart view write) =
      (pool.lend operation).onPart view write := by
  rw [lend, lend, h.onPart_bind]
  exact bind_congr fun _ => (h.onPart_always _ _).symm

theorem prepare_onPart :
    (pool.onPart view write).prepare = pool.prepare.onPart view write := by
  rw [prepare, prepare, ← pool.lend_onPart h]
  simp only [h.onPart_bind]
  rfl

/-- Ratings are fetched over a connection of the part. -/
theorem fetch_onPart (condition : String) (params : List Payload) :
    (pool.onPart view write).fetch condition params =
      (pool.fetch condition params).onPart view write := by
  rw [fetch, fetch, ← pool.lend_onPart h]
  simp only [h.onPart_bind, h.onPart_mapM, h.onPart_lift]
  rfl

/-- What failed in the part is undone in the part. -/
theorem undoing_onPart (operation : Action σ α) :
    (pool.onPart view write).undoing (operation.onPart view write) =
      (pool.undoing operation).onPart view write := by
  rw [undoing, undoing, h.onPart_tryCatch]
  refine congrArg (tryCatch (operation.onPart view write)) (funext fun e => ?_)
  split
  · simp only [h.onPart_bind, h.onPart_note, h.onPart_throw]
    rfl
  · exact (h.onPart_throw e).symm

/-- A rating is saved over a connection of the part. -/
theorem save_onPart (r : Rating) :
    (pool.onPart view write).save r = (pool.save r).onPart view write := by
  rw [save, save, ← pool.lend_onPart h, ← pool.undoing_onPart h]
  simp only [h.onPart_bind, h.onPart_liftM]
  rfl

theorem remove_onPart (username isbn : Payload) :
    (pool.onPart view write).remove username isbn =
      (pool.remove username isbn).onPart view write := by
  rw [remove, remove, ← pool.lend_onPart h]
  simp only [h.onPart_bind, h.onPart_liftM, h.onPart_pure]
  rfl

/-- The store over a pool in a part of the state is the store over the pool, in that part. -/
theorem store_onPart : (pool.onPart view write).store = pool.store.onPart view write := by
  have hget (username isbn : Payload) :
      (pool.onPart view write).store.get username isbn =
        (pool.store.get username isbn).onPart view write := by
    simp only [store, h.onPart_bind, h.onPart_liftM, h.onPart_pure, pool.fetch_onPart h]
  have hratingsFor (isbn : Payload) :
      (pool.onPart view write).store.ratingsFor isbn =
        (pool.store.ratingsFor isbn).onPart view write := by
    simp only [store, h.onPart_bind, h.onPart_liftM, pool.fetch_onPart h]
  have hratingsForBooks (isbns : List Payload) :
      (pool.onPart view write).store.ratingsForBooks isbns =
        (pool.store.ratingsForBooks isbns).onPart view write := by
    simp only [store, h.onPart_bind, h.onPart_mapM, h.onPart_liftM]
    refine bind_congr fun texts => ?_
    split
    · exact (h.onPart_pure []).symm
    · rw [h.onPart_bind, pool.fetch_onPart h]
      exact bind_congr fun ratings => (h.onPart_pure _).symm
  have huserRatings (username : Payload) :
      (pool.onPart view write).store.userRatings username =
        (pool.store.userRatings username).onPart view write := by
    simp only [store, h.onPart_bind, h.onPart_liftM, pool.fetch_onPart h]
  exact RatingStore.mk.injEq .. |>.mpr
    ⟨funext fun username => funext (hget username), funext (pool.save_onPart h),
      funext fun username => funext (pool.remove_onPart h username),
      funext hratingsFor, funext hratingsForBooks, funext huserRatings, pool.fetch_onPart h "" []⟩

end Pool

end Bookfinder
