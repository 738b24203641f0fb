import Bookfinder.Proofs.Traffic
import Bookfinder.Rating.Ledger

/-!
# Requests that fail

A search or a load of a section may fail before it takes its token, at a question to the catalogue,
or over the ratings of books that it already has. Wherever it fails, each section shows what it
showed before, and the requests that are under way in other sections keep their tokens.

The lists change in the last step of a request only, and this step does not fail. So a request that
fails does not come to it (`Stage.navigation_of_error`), and of the navigation it has changed no
more than its first step did (`Job.navigation_of_error`).
-/

namespace Bookfinder

variable {σ : Type} (services : Services σ)

/-- The steps after the first one change the navigation only if they come to the end of the request.
-/
theorem Stage.navigation_of_error (n : Nat) {st : Stage} {t : Task} (ht : st.task? = some t)
    {s : Session σ} {e : Fault} (h : ((after services n st).run s).1.result = .error e) :
    ((after services n st).run s).2.navigation = s.navigation := by
  induction n generalizing st s with
  | zero => exact absurd h nofun
  | succ n ih =>
    rw [after_succ] at h ⊢
    by_cases hwrite : ∃ found, st = .recording t found
    · -- after the write there is nothing left that could fail
      obtain ⟨found, rfl⟩ := hwrite
      rw [Action.run_bind, run_recording] at h
      dsimp only [Outcome.ok] at h
      rw [after_finished] at h
      exact absurd h nofun
    · obtain ⟨hnavigation, hstep⟩ :=
        proceed_of_task services ht (fun found he => hwrite ⟨found, he⟩) s
      rw [Action.run_bind] at h ⊢
      rcases hstep with ⟨e', he⟩ | ⟨st', hst, ht'⟩
      · rw [he]
        exact hnavigation
      · rw [hst] at h ⊢
        exact (ih ht' h).trans hnavigation

namespace Job

/-- A request that fails has done nothing at all, or it has taken a token and no more. -/
theorem navigation_of_error {job : Job} {s : Session σ} {e : Fault}
    (h : ((job.whole services).run s).1.result = .error e) :
    (job.sectionName? = none ∧ ((job.whole services).run s).2 = s) ∨
      ∃ name, job.sectionName? = some name ∧
        ((job.whole services).run s).2.navigation = (s.navigation.begin name).2 := by
  have hrun := congrArg (Action.run · s) (job.start_bind_after services)
  simp only [Action.run_map] at hrun
  have hleft := congrArg Prod.snd hrun
  have hfailed : ((job.start >>= Stage.after services 4).run s).1.result = .error e := by
    rw [hrun, h]
    rfl
  rw [← hleft]
  rw [Action.run_bind] at hfailed ⊢
  rcases job.start_cases s with ⟨hname, hs, e', he⟩ | ⟨name, hname, hbegun, hstart⟩
  · rw [he]
    exact Or.inl ⟨hname, hs⟩
  refine Or.inr ⟨name, hname, ?_⟩
  rcases hstart with ⟨e', he⟩ | ⟨t, ht, -, -⟩
  · rw [he]
    exact hbegun
  · rw [ht] at hfailed ⊢
    exact (Stage.navigation_of_error services 4 rfl hfailed).trans hbegun

end Job

namespace Session

/-- Whatever a search or a load of a section fails over, all sections show what they showed before,
and a token of another section is as good as it was. -/
theorem unchanged_of_failure {job : Job} {s : Session σ} {e : Fault}
    (h : ((job.whole services).run s).1.result = .error e) :
    let n := ((job.whole services).run s).2.navigation
    n.snapshots = s.navigation.snapshots ∧
      ∀ other, job.sectionName? ≠ some other →
        ∀ token, n.isCurrent other token = s.navigation.isCurrent other token := by
  intro n
  rcases job.navigation_of_error services h with ⟨-, hs⟩ | ⟨name, hname, hn⟩
  · unfold n
    rw [hs]
    exact ⟨rfl, fun _ _ _ => rfl⟩
  · unfold n
    rw [hn]
    refine ⟨rfl, fun other hother token => ?_⟩
    have hne : name ≠ other := fun heq => hother (heq ▸ hname)
    rw [Navigation.isCurrent_begin, if_neg hne]

/-- A search that has its books when the ratings cannot be looked up, while a load of the
recommended books is under way. -/
theorem unchanged_of_failure_ratings :
    let book : Book := { Book.blank with isbn := some "1" }
    let ratings : RatingStore Ledger :=
      { Ledger.store with ratingsForBooks := fun _ => throw (.external .database "down") }
    let services : Services Ledger := ⟨fun _ => pure (some [book]), some ratings⟩
    let shown : Navigation := ⟨[(Section.search, [])], [(Section.featured, 1)], 1⟩
    let run := ((Job.search (.query (.freeText "dune")) none).whole services).run ⟨shown, .empty⟩
    run.1.result = .error (.external .database "down") ∧
      run.2.navigation.get Section.search = [] ∧
      run.2.navigation.isCurrent Section.featured 1 := by
  intro book ratings services shown run
  have hfailed : run.1.result = .error (.external .database "down") := rfl
  obtain ⟨hlists, htokens⟩ := unchanged_of_failure services hfailed
  have hother : (Job.search (.query (.freeText "dune")) none).sectionName? ≠
      some Section.featured := by decide
  refine ⟨hfailed, ?_, ?_⟩
  · rw [Navigation.get, hlists]
    rfl
  · rw [htokens Section.featured hother]
    rfl

end Session

end Bookfinder
