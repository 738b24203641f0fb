import Bookfinder.Proofs.Selections
import Bookfinder.Proofs.Simulation
import Mathlib.Data.List.TakeWhile

/-!
# The calls of a search

A search asks the catalogue one question that its query determines (`Query.Asks`), and the general
question if there was no answer to the first (`Services.recorded` writes down what was asked and
what came of it). What it makes of the answers is `Dispatched`: without any answer the search
fails, and what it finds is the last answer, narrowed where it may hold other books, each book
once. `Session.execute_dispatched` states this for any catalogue, honest or not.

All of it rests on `Flight.finish_eq`, by which the end of a search is its questions followed by
`Flight.conclude`.
-/

namespace Bookfinder

/-! ## The first question -/

namespace Query

/-- The question that a search begins with. -/
inductive Asks : Query → Call → Prop
  | freeText (t : String) : Asks (.freeText t) (.search t)
  | titleOnly (t : String) : Asks (.titleOnly t) (.searchTitle t)
  | authorOnly (t : String) : Asks (.authorOnly t) (.searchAuthor t)
  /-- The catalogue cannot be asked for years alone. -/
  | anyAuthor (years : YearRange) : Asks (.authorYears "" years) .allBooks
  | oneYear {t : String} (ht : t ≠ "") (year : Int) :
    Asks (.authorYears t ⟨some year, some year⟩) (.searchAuthorYear t (some year))
  | otherYears {t : String} (ht : t ≠ "") {years : YearRange}
    (hyears : ∀ year, years ≠ ⟨some year, some year⟩) :
    Asks (.authorYears t years) (.searchAuthor t)

/-- A call asks for a query exactly if it is the call of the query. -/
theorem asks_iff {q : Query} {c : Call} : q.Asks c ↔ c = q.call := by
  constructor
  · intro h
    cases h with
    | oneYear ht year =>
      have hyear : YearRange.single? ⟨some year, some year⟩ = some year :=
        single?_eq_some_iff.2 rfl
      simp [call, ht, hyear]
    | @otherYears t ht years hyears =>
      have hyear : years.single? = none :=
        Option.eq_none_iff_forall_ne_some.2 fun y hy => hyears y (single?_eq_some_iff.1 hy)
      simp [call, ht, hyear]
    | _ => rfl
  · rintro rfl
    cases q with
    | freeText t => exact .freeText t
    | titleOnly t => exact .titleOnly t
    | authorOnly t => exact .authorOnly t
    | authorYears t years =>
      rw [call]
      split
      · next ht =>
        rw [String.isEmpty_iff.1 ht]
        exact .anyAuthor years
      · next ht =>
        have hne : t ≠ "" := fun h => ht (String.isEmpty_iff.2 h)
        split
        · next year hyear =>
          rw [single?_eq_some_iff.1 hyear]
          exact .oneYear hne year
        · next hyear =>
          refine .otherYears hne fun year h => ?_
          rw [single?_eq_some_iff.2 h] at hyear
          cases hyear

end Query

/-! ## Ratings -/

/-- A book without the figures of its ratings. -/
def Book.unrated (b : Book) : Book := { b with averageRating := none, reviewCount := 0 }

namespace RatingStore

variable {σ : Type}

/-- Figures leave the rest of a book as it is. -/
theorem unrated_of_withFigures {groups : RatingsByBook} {b c : Book}
    (h : withFigures groups b = .ok c) : c.unrated = b.unrated := by
  unfold withFigures at h
  split at h
  · rw [Except.ok.inj h]
  · obtain ⟨s, -, h⟩ := bind_eq_ok.1 h
    rw [← Except.ok.inj h]
    rfl

theorem unrated_of_mapM {groups : RatingsByBook} {books rated : List Book} {o : σ}
    (h : ((books.mapM fun b => (withFigures groups b : Action σ Book)).run o).1.result =
      .ok rated) : rated.map Book.unrated = books.map Book.unrated := by
  induction books generalizing o rated with
  | nil =>
    obtain rfl := Except.ok.inj h
    rfl
  | cons b books ih =>
    rw [List.mapM_cons] at h
    obtain ⟨c, hc, h⟩ := Action.result_bind_eq_ok.1 h
    obtain ⟨cs, hcs, h⟩ := Action.result_bind_eq_ok.1 h
    obtain rfl := Except.ok.inj h
    rw [List.map_cons, List.map_cons, unrated_of_withFigures hc, ih hcs]

/-- Books that get figures stay the same otherwise, and in their order. -/
theorem unrated_of_enrich {store : RatingStore σ} {books rated : List Book} {o : σ}
    (h : ((store.enrich books).run o).1.result = .ok rated) :
    rated.map Book.unrated = books.map Book.unrated := by
  unfold enrich at h
  dsimp only at h
  split at h
  · rw [Except.ok.inj h]
  · obtain ⟨groups, -, h⟩ := Action.result_bind_eq_ok.1 h
    exact unrated_of_mapM h

end RatingStore

namespace Services

variable {σ : Type} {services : Services σ}

/-- Ratings change the figures of books and nothing else. -/
theorem unrated_of_enriched {books rated : List Book} {o : σ}
    (h : ((services.enriched books).run o).1.result = .ok rated) :
    rated.map Book.unrated = books.map Book.unrated := by
  unfold enriched at h
  split at h
  · split at h
    · rw [Except.ok.inj h]
    · exact RatingStore.unrated_of_enrich h
  · rw [Except.ok.inj h]

/-- Without a store of ratings nothing is added. -/
theorem enriched_of_ratings_eq_none (h : services.ratings = none) (books : List Book) :
    services.enriched books = pure books := by
  rw [enriched, h]

end Services

/-! ## Questions on record -/

/-- A question to the catalogue and what came of it: an answer, none or a fault. -/
structure Exchange where
  call : Call
  answer : Except Fault (Option (List Book))

variable {σ : Type}

/-- Services that write down what the catalogue is asked, the latest question last. -/
def Services.recorded (services : Services σ) : Services (σ × List Exchange) where
  catalogue call := fun s =>
    let (answer, o) := (services.catalogue call).run s.1
    (answer, (o, s.2 ++ [⟨call, answer.result⟩]))
  ratings := services.ratings.map (.onPart Prod.fst fun o s => (o, s.2))

/-- A record of the calls leaves the figures as they are. -/
theorem Services.enriched_recorded (services : Services σ) (books : List Book) :
    services.recorded.enriched books =
      (services.enriched books).onPart Prod.fst fun o s => (o, s.2) :=
  enriched_onPart isPart_fst rfl books

/-- Services that record their calls behave as those that do not. -/
theorem Services.simulate_recorded (services : Services σ) :
    services.recorded.Simulate Prod.fst services where
  catalogue _ _ := rfl
  enriched books := by
    rw [enriched_recorded]
    exact Action.Simulates.onPart (fun _ _ => rfl) _

/-! ## What follows an answer -/

/-- What a query makes of an answer; `again` tells that it is the answer to the general question.
-/
def Query.narrowed (q : Query) (again : Bool) (books : List Book) : Except Fault (List Book) :=
  if q.isWider || again then Selection.matching books q else .ok books

/-- Narrowing fails on a part that is no text, or on years that are too long. -/
theorem Query.narrowed_eq_error {q : Query} {again : Bool} {books : List Book} {e : Fault}
    (h : q.narrowed again books = .error e) :
    e = .notText ∨ e = .malformed ∧ ¬q.years.IsShort := by
  unfold narrowed at h
  split at h
  · exact Selection.matching_eq_error h
  · exact absurd h nofun

/-- The first call is the one that fits the query. -/
theorem Services.primary_eq (services : Services σ) (q : Query) :
    services.primary q = (do
      match ← services.catalogue q.call with
      | none => return none
      | some books => return some (← q.narrowed false books)) := by
  refine bind_congr fun answer => ?_
  cases answer with
  | none => rfl
  | some books =>
    dsimp only [Query.narrowed]
    rw [Bool.or_false]
    split
    · exact map_eq_pure_bind ..
    · rfl

/-- The second call is a search for the term. -/
theorem Services.fallback_eq (services : Services σ) (q : Query) :
    services.fallback q = (do
      match ← services.catalogue (.search q.term) with
      | none => return none
      | some books => return some (← q.narrowed true books)) := by
  refine bind_congr fun answer => ?_
  cases answer with
  | none => rfl
  | some books =>
    dsimp only [Query.narrowed]
    rw [Bool.or_true, if_pos rfl]
    exact map_eq_pure_bind ..

namespace Flight

/-- What a search makes of an answer. -/
def conclude (services : Services σ) (f : Flight) (again : Bool) (books : List Book) :
    Action (Session σ) SearchResult := do
  let kept ← f.query.narrowed again books
  let books ← Session.reach (services.enriched (Selection.distinct kept))
  let stored ← Session.navigate (·.put f.sectionName books (some f.token))
  return { query := f.query, books, sectionName := f.sectionName, usedFallback := again,
           isStale := !stored }

/-- The end of a search: its questions, and what follows the first that has an answer. That there
was none is reported with the query. -/
theorem finish_eq (services : Services σ) (f : Flight) :
    f.finish services = (do
      match ← Session.reach (services.catalogue f.query.call) with
      | some books => f.conclude services false books
      | none =>
        Action.note (.primaryFailed (← f.query.write))
        match ← Session.reach (services.catalogue (.search f.query.term)) with
        | some books => f.conclude services true books
        | none =>
          Action.note (.fallbackFailed (← f.query.write))
          throw (.searchFailed (.query f.query) "catalog service unavailable")) := by
  simp only [finish, Services.find, Services.primary_eq, Services.fallback_eq, Session.reach_bind,
    bind_assoc]
  refine bind_congr fun answer => ?_
  cases answer with
  | some books =>
    simp only [Session.reach_bind, bind_assoc, Session.reach_pure, pure_bind]
    rfl
  | none =>
    simp only [Session.reach_bind, bind_assoc, Session.reach_pure, Session.reach_note,
      Session.reach_liftM, pure_bind]
    refine bind_congr fun _ => bind_congr fun _ => bind_congr fun answer => ?_
    cases answer with
    | some books =>
      simp only [Session.reach_bind, bind_assoc, Session.reach_pure, pure_bind]
      rfl
    | none =>
      simp only [Session.reach_bind, bind_assoc, Session.reach_pure, Session.reach_note,
        Session.reach_liftM, Session.reach_throw, pure_bind, Action.throw_bind]

/-- With years that can be written the general question follows the first one. -/
theorem finish_eq_of_isShort (services : Services σ) {f : Flight} (h : f.query.years.IsShort) :
    f.finish services = (do
      match ← Session.reach (services.catalogue f.query.call) with
      | some books => f.conclude services false books
      | none =>
        Action.note (.primaryFailed f.query.written)
        match ← Session.reach (services.catalogue (.search f.query.term)) with
        | some books => f.conclude services true books
        | none =>
          Action.note (.fallbackFailed f.query.written)
          throw (.searchFailed (.query f.query) "catalog service unavailable")) := by
  simp only [finish_eq, Query.write_of_isShort h, Action.liftM_ok, pure_bind]

/-- With other years nothing follows it. -/
theorem finish_eq_of_not_isShort (services : Services σ) {f : Flight}
    (h : ¬f.query.years.IsShort) :
    f.finish services = (do
      match ← Session.reach (services.catalogue f.query.call) with
      | some books => f.conclude services false books
      | none => throw .malformed) := by
  simp only [finish_eq, Query.write_of_not_isShort h, Action.liftM_error, Action.throw_bind]

/-- Where narrowing fails, so does the request. -/
theorem conclude_of_error (services : Services σ) {f : Flight} {again : Bool} {books : List Book}
    {e : Fault} (h : f.query.narrowed again books = .error e) :
    f.conclude services again books = throw e := by
  rw [conclude, h]
  rfl

/-- What is left after narrowing is shown once each, with figures. -/
theorem conclude_of_ok (services : Services σ) {f : Flight} {again : Bool}
    {books kept : List Book} (h : f.query.narrowed again books = .ok kept) :
    f.conclude services again books = (do
      let books ← Session.reach (services.enriched (Selection.distinct kept))
      let stored ← Session.navigate (·.put f.sectionName books (some f.token))
      return { query := f.query, books, sectionName := f.sectionName, usedFallback := again,
               isStale := !stored }) := by
  rw [conclude, h]
  rfl

/-- The result does not depend on what is shown. -/
theorem result_conclude (services : Services σ) (f : Flight) (again : Bool) (books : List Book)
    (s : Session σ) :
    ((f.conclude services again books).run s).1.result = (do
      let kept ← f.query.narrowed again books
      let rated ← ((services.enriched (Selection.distinct kept)).run s.outside).1.result
      return { query := f.query, books := rated, sectionName := f.sectionName,
               usedFallback := again,
               isStale := !(s.navigation.put f.sectionName rated (some f.token)).1 }) := by
  cases hkept : f.query.narrowed again books with
  | error e =>
    rw [conclude_of_error services hkept]
    rfl
  | ok kept =>
    rw [conclude_of_ok services hkept, Action.run_bind, Session.run_reach]
    dsimp only [bind, Except.bind]
    cases ((services.enriched (Selection.distinct kept)).run s.outside).1.result with
    | error e => rfl
    | ok rated => rfl

/-- A result has the books that are left after narrowing, once each and in their order. -/
theorem conclude_eq_ok {services : Services σ} {f : Flight} {again : Bool}
    {books kept : List Book} {s : Session σ} {r : SearchResult}
    (hkept : f.query.narrowed again books = .ok kept)
    (h : ((f.conclude services again books).run s).1.result = .ok r) :
    r.query = f.query ∧ r.usedFallback = again ∧
      r.books.map Book.unrated = (Selection.distinct kept).map Book.unrated ∧
      (services.ratings = none → r.books = Selection.distinct kept) := by
  rw [result_conclude, hkept] at h
  obtain ⟨kept, hk, hshown⟩ := bind_eq_ok.1 h
  obtain rfl := Except.ok.inj hk
  obtain ⟨rated, hrated, hr⟩ := bind_eq_ok.1 hshown
  obtain rfl := Except.ok.inj hr
  refine ⟨rfl, rfl, Services.unrated_of_enriched hrated, fun hnone => ?_⟩
  rw [Services.enriched_of_ratings_eq_none hnone] at hrated
  exact (Except.ok.inj hrated).symm

/-- Where the ratings can be looked up, an answer that can be narrowed is shown. -/
theorem exists_conclude {services : Services σ} {f : Flight} {again : Bool}
    {books kept : List Book} (hkept : f.query.narrowed again books = .ok kept)
    (hrated : ∀ o, ∃ rated,
      ((services.enriched (Selection.distinct kept)).run o).1.result = .ok rated)
    (s : Session σ) : ∃ r, ((f.conclude services again books).run s).1.result = .ok r := by
  obtain ⟨rated, hrated⟩ := hrated s.outside
  rw [result_conclude]
  exact ⟨_, bind_eq_ok.2 ⟨kept, hkept, bind_eq_ok.2 ⟨rated, hrated, rfl⟩⟩⟩

/-- A record of the calls leaves the result as it is. -/
theorem result_conclude_recorded (services : Services σ) (f : Flight) (again : Bool)
    (books : List Book) (s : Session (σ × List Exchange)) :
    ((f.conclude services.recorded again books).run s).1.result =
      ((f.conclude services again books).run (s.map Prod.fst)).1.result := by
  simp only [result_conclude, Services.enriched_recorded]
  rfl

/-- After its questions a search asks nothing. -/
theorem log_conclude (services : Services σ) (f : Flight) (again : Bool) (books : List Book)
    (s : Session (σ × List Exchange)) :
    ((f.conclude services.recorded again books).run s).2.outside.2 = s.outside.2 := by
  cases hkept : f.query.narrowed again books with
  | error e =>
    rw [conclude_of_error services.recorded hkept]
    rfl
  | ok kept =>
    rw [conclude_of_ok services.recorded hkept, Action.run_bind, Session.run_reach,
      Services.enriched_recorded, Action.run_onPart]
    dsimp only
    cases ((services.enriched (Selection.distinct kept)).run s.outside.1).1.result with
    | error e => rfl
    | ok rated => rfl

end Flight

/-! ## What becomes of a search -/

/-- The questions of a search: the one of its query, and the general one exactly if the first had
no answer. Only years that are too long to be written keep it from that. -/
def Query.Asked (q : Query) (log : List Exchange) : Prop :=
  ∃ call first, q.Asks call ∧
    (log = [⟨call, first⟩] ∧ (first = .ok none → ¬q.years.IsShort) ∨
      first = .ok none ∧ q.years.IsShort ∧
        ∃ second, log = [⟨call, first⟩, ⟨.search q.term, second⟩])

/-- One call is enough if it is answered, if it fails, or if the second one cannot be announced. -/
theorem Query.asked_once {q : Query} {first : Except Fault (Option (List Book))}
    (h : first = .ok none → ¬q.years.IsShort) : q.Asked [⟨q.call, first⟩] :=
  ⟨_, _, asks_iff.2 rfl, Or.inl ⟨rfl, h⟩⟩

/-- Two calls are made after a first one without an answer, if the years are short. -/
theorem Query.asked_twice {q : Query} (h : q.years.IsShort)
    (second : Except Fault (Option (List Book))) :
    q.Asked [⟨q.call, .ok none⟩, ⟨.search q.term, second⟩] :=
  ⟨_, _, asks_iff.2 rfl, Or.inr ⟨rfl, h, second, rfl⟩⟩

/-- What becomes of a search for `q`: how its result depends on what the catalogue was asked and
what it answered. -/
structure Dispatched (services : Services σ) (q : Query) (log : List Exchange)
    (result : Except Fault SearchResult) : Prop where
  asked : q.Asked log
  unavailable : q.years.IsShort → (∀ x ∈ log, x.answer = .ok none) →
    result = .error (.searchFailed (.query q) "catalog service unavailable")
  /-- That there is no answer cannot be reported if the years are too long to be written. -/
  unreported : ¬q.years.IsShort → (∀ x ∈ log, x.answer = .ok none) → result = .error .malformed
  /-- A fault of the catalogue is that of the search. -/
  raised : ∀ call e, log.getLast? = some ⟨call, .error e⟩ → result = .error e
  /-- Otherwise a search fails over a value that is no text, over years that are too long, or over
  the ratings. -/
  failed : ∀ e, result = .error e →
    (log.length = 2 ∧ ∀ x ∈ log, x.answer = .ok none) ∧
        e = .searchFailed (.query q) "catalog service unavailable" ∨
      (∃ call, log.getLast? = some ⟨call, .error e⟩) ∨
      e = .notText ∧ (∃ call books, log.getLast? = some ⟨call, .ok (some books)⟩ ∧
        q.narrowed (log.length == 2) books = .error e) ∨
      e = .malformed ∧ ¬q.years.IsShort ∨
      ∃ books o, ((services.enriched books).run o).1.result = .error e
  /-- The books are those of the last answer that the query asks for, each once. -/
  found : ∀ r, result = .ok r → ∃ call books kept,
    log.getLast? = some ⟨call, .ok (some books)⟩ ∧
      q.narrowed (log.length == 2) books = .ok kept ∧
      r.books.map Book.unrated = (Selection.distinct kept).map Book.unrated ∧
      (services.ratings = none → r.books = Selection.distinct kept) ∧
      r.query = q ∧ (r.usedFallback = true ↔ log.length = 2)
  /-- Where the ratings can be looked up, an answer that can be narrowed is shown. -/
  shown : ∀ call books kept, log.getLast? = some ⟨call, .ok (some books)⟩ →
    q.narrowed (log.length == 2) books = .ok kept →
    (∀ o, ∃ rated, ((services.enriched (Selection.distinct kept)).run o).1.result = .ok rated) →
    ∃ r, result = .ok r

namespace Dispatched

variable {services : Services σ} {f : Flight}

/-- A call that raises a fault ends the request with that fault. -/
theorem of_raised {call : Call} {log : List Exchange} {e : Fault}
    (hasked : f.query.Asked log) (hlast : log.getLast? = some ⟨call, .error e⟩) :
    Dispatched services f.query log (.error e) := by
  have hmem : ⟨call, .error e⟩ ∈ log := List.mem_of_getLast? hlast
  constructor
  case asked => exact hasked
  case unavailable => exact fun _ h => absurd (h _ hmem) nofun
  case unreported => exact fun _ h => absurd (h _ hmem) nofun
  case raised =>
    intro call' e' h
    rw [hlast] at h
    cases h
    rfl
  case failed =>
    intro e' h
    cases h
    exact Or.inr (Or.inl ⟨call, hlast⟩)
  case found => exact fun r h => absurd h nofun
  case shown =>
    intro call' books kept h
    rw [hlast] at h
    exact absurd h nofun

/-- An answer is concluded. -/
theorem of_conclude {call : Call} {log : List Exchange} {books : List Book} {again : Bool}
    (hasked : f.query.Asked log) (hlast : log.getLast? = some ⟨call, .ok (some books)⟩)
    (hagain : (log.length == 2) = again) (s : Session σ) :
    Dispatched services f.query log ((f.conclude services again books).run s).1.result := by
  have hmem : ⟨call, .ok (some books)⟩ ∈ log := List.mem_of_getLast? hlast
  subst hagain
  constructor
  case asked => exact hasked
  case unavailable => exact fun _ h => absurd (h _ hmem) nofun
  case unreported => exact fun _ h => absurd (h _ hmem) nofun
  case raised =>
    intro call' e h
    rw [hlast] at h
    exact absurd h nofun
  case failed =>
    intro e h
    rw [Flight.result_conclude] at h
    rcases bind_eq_error.1 h with hkept | ⟨kept, -, h⟩
    · rcases Query.narrowed_eq_error hkept with he | he
      · exact Or.inr (Or.inr (Or.inl ⟨he, call, books, hlast, hkept⟩))
      · exact Or.inr (Or.inr (Or.inr (Or.inl he)))
    rcases bind_eq_error.1 h with hrated | ⟨rated, -, h⟩
    · exact Or.inr (Or.inr (Or.inr (Or.inr ⟨_, _, hrated⟩)))
    · exact absurd h nofun
  case found =>
    intro r h
    obtain ⟨kept, hkept⟩ : ∃ kept, f.query.narrowed (log.length == 2) books = .ok kept := by
      rw [Flight.result_conclude] at h
      obtain ⟨kept, hkept, -⟩ := bind_eq_ok.1 h
      exact ⟨kept, hkept⟩
    obtain ⟨hquery, hagain, hbooks, hunrated⟩ := Flight.conclude_eq_ok hkept h
    exact ⟨call, books, kept, hlast, hkept, hbooks, hunrated, hquery, by simp [hagain]⟩
  case shown =>
    intro call' books' kept h hkept hrated
    rw [hlast] at h
    cases h
    exact Flight.exists_conclude hkept hrated s

/-- Without any answer the search has failed. -/
theorem of_unavailable {q : Query} {log : List Exchange} (hasked : q.Asked log)
    (hshort : q.years.IsShort) (hboth : log.length = 2) (hall : ∀ x ∈ log, x.answer = .ok none) :
    Dispatched services q log
      (.error (.searchFailed (.query q) "catalog service unavailable")) := by
  have hlast : ∀ x, log.getLast? = some x → x.answer = .ok none := fun x hx =>
    hall x (List.mem_of_getLast? hx)
  constructor
  case asked => exact hasked
  case unavailable => exact fun _ _ => rfl
  case unreported => exact fun h => absurd hshort h
  case raised => exact fun call e h => absurd (hlast _ h) nofun
  case failed => exact fun e h => Or.inl ⟨⟨hboth, hall⟩, (Except.error.inj h).symm⟩
  case found => exact fun r h => absurd h nofun
  case shown => exact fun call books kept h => absurd (hlast _ h) nofun

/-- Without any answer, and with years that are too long, there is no report of that. -/
theorem of_unreported {q : Query} {log : List Exchange} (hasked : q.Asked log)
    (hlong : ¬q.years.IsShort) (hall : ∀ x ∈ log, x.answer = .ok none) :
    Dispatched services q log (.error .malformed) := by
  have hlast : ∀ x, log.getLast? = some x → x.answer = .ok none := fun x hx =>
    hall x (List.mem_of_getLast? hx)
  constructor
  case asked => exact hasked
  case unavailable => exact fun h => absurd h hlong
  case unreported => exact fun _ _ => rfl
  case raised => exact fun call e h => absurd (hlast _ h) nofun
  case failed =>
    exact fun e h => Or.inr (Or.inr (Or.inr (Or.inl ⟨(Except.error.inj h).symm, hlong⟩)))
  case found => exact fun r h => absurd h nofun
  case shown => exact fun call books kept h => absurd (hlast _ h) nofun

/-- If nobody else raises such a fault, a search fails for want of an answer exactly if neither of
its two questions got one. -/
theorem unavailable_iff {q : Query} {log : List Exchange} {result : Except Fault SearchResult}
    (h : Dispatched services q log result) {reason : String}
    (hcatalogue : ∀ call, ⟨call, .error (.searchFailed (.query q) reason)⟩ ∉ log)
    (hratings : ∀ books o,
      ((services.enriched books).run o).1.result ≠ .error (.searchFailed (.query q) reason)) :
    result = .error (.searchFailed (.query q) reason) ↔
      (log.length = 2 ∧ ∀ x ∈ log, x.answer = .ok none) ∧
        reason = "catalog service unavailable" := by
  constructor
  · intro he
    rcases h.failed _ he with
      ⟨hall, hreason⟩ | ⟨call, hlast⟩ | ⟨hfault, -⟩ | ⟨hfault, -⟩ | ⟨books, o, hrated⟩
    · cases hreason
      exact ⟨hall, rfl⟩
    · exact absurd (List.mem_of_getLast? hlast) (hcatalogue call)
    · exact absurd hfault nofun
    · exact absurd hfault nofun
    · exact absurd hrated (hratings books o)
  · rintro ⟨⟨hboth, hall⟩, rfl⟩
    obtain ⟨call, first, -, ⟨rfl, -⟩ | ⟨-, hshort, -⟩⟩ := h.asked
    · exact absurd hboth (by decide : ¬1 = 2)
    · exact h.unavailable hshort hall

end Dispatched

/-- A search that has its token, whatever the catalogue does. -/
theorem Flight.finish_dispatched (services : Services σ) (f : Flight) (n : Navigation) (o : σ) :
    let run := (f.finish services.recorded).run ⟨n, (o, [])⟩
    Dispatched services f.query run.2.outside.2 run.1.result := by
  have hrun : ∀ call log o, (services.recorded.catalogue call).run (o, log) =
      (((services.catalogue call).run o).1, (((services.catalogue call).run o).2,
        log ++ [⟨call, ((services.catalogue call).run o).1.result⟩])) := fun _ _ _ => rfl
  by_cases hshort : f.query.years.IsShort
  · rw [finish_eq_of_isShort _ hshort]
    dsimp only
    rw [Action.run_bind, Session.run_reach, hrun]
    obtain ⟨⟨first, ns⟩, o₁⟩ := (services.catalogue f.query.call).run o
    cases first with
    | error e => exact .of_raised (Query.asked_once nofun) rfl
    | ok answer =>
      cases answer with
      | some books =>
        dsimp only
        have hasked : f.query.Asked [⟨f.query.call, .ok (some books)⟩] := Query.asked_once nofun
        rw [log_conclude, result_conclude_recorded]
        exact .of_conclude hasked rfl rfl _
      | none =>
        dsimp only
        rw [Action.run_bind, Action.run_note]
        dsimp only
        rw [Action.run_bind, Session.run_reach, hrun]
        obtain ⟨⟨second, ns⟩, o₂⟩ := (services.catalogue (.search f.query.term)).run o₁
        have hasked := Query.asked_twice hshort second
        cases second with
        | error e => exact .of_raised hasked rfl
        | ok answer =>
          cases answer with
          | some books =>
            dsimp only
            rw [log_conclude, result_conclude_recorded]
            exact .of_conclude hasked rfl rfl _
          | none =>
            have hall : ∀ x ∈ [Exchange.mk f.query.call (.ok none),
                ⟨.search f.query.term, .ok none⟩], x.answer = .ok none := by simp
            exact .of_unavailable hasked hshort rfl hall
  · rw [finish_eq_of_not_isShort _ hshort]
    dsimp only
    rw [Action.run_bind, Session.run_reach, hrun]
    obtain ⟨⟨first, ns⟩, o₁⟩ := (services.catalogue f.query.call).run o
    have hasked : f.query.Asked [⟨f.query.call, first⟩] := Query.asked_once fun _ => hshort
    cases first with
    | error e => exact .of_raised hasked rfl
    | ok answer =>
      cases answer with
      | some books =>
        dsimp only
        rw [log_conclude, result_conclude_recorded]
        exact .of_conclude hasked rfl rfl _
      | none => exact .of_unreported hasked hshort (List.forall_mem_singleton.2 rfl)

namespace Session

/-- A search is the end of its flight, from a navigation that has begun. -/
theorem run_execute (services : Services σ) (q : Query) (name : Option String) (n : Navigation) :
    ∃ f : Flight, f.query = q ∧ ∃ n' : Navigation, ∀ o : σ,
      (execute services (.query q) name).run ⟨n, o⟩ = (f.finish services).run ⟨n', o⟩ :=
  let sectionName := (name.filter (!·.isEmpty)).getD q.sectionName
  ⟨⟨q, sectionName, (n.begin sectionName).1⟩, rfl, (n.begin sectionName).2, fun _ => rfl⟩

/-- A blank text asks for nothing: the catalogue is not called and the session stays as it is. -/
theorem run_search_of_blank (services : Services σ) {raw : Option String}
    (h : ∀ t ∈ raw, Text.isBlankText t) (name : Option String) (s : Session σ) :
    (search services raw name).run s = (⟨.ok none, []⟩, s) := by
  have hparse : Query.parse raw = ⟨.ok none, []⟩ := by
    cases raw with
    | none => rfl
    | some t =>
      have hdrop : t.toList.dropWhile Text.isBlank = [] :=
        List.dropWhile_eq_nil_iff.2 (List.all_eq_true.1 (h t rfl))
      rw [Query.parse, Text.trimChars, hdrop]
      rfl
  rw [search, Flight.startRaw, hparse]
  rfl

/-- A search asks the question of its query, and the general one if the first had no answer,
whatever the catalogue does; `Dispatched` tells how its result depends on the answers. It fails for
want of an answer exactly if it got none, unless somebody else raises that fault. Writing the
questions down changes nothing, and a blank text makes no search at all. -/
theorem execute_dispatched (services : Services σ) (q : Query) (name : Option String)
    (s : Session σ) :
    let run := (execute services.recorded (.query q) name).run ⟨s.navigation, (s.outside, [])⟩
    let log := run.2.outside.2
    (execute services (.query q) name).run s = (run.1, run.2.map Prod.fst) ∧
      Dispatched services q log run.1.result ∧
      (∀ reason, (∀ call, ⟨call, .error (.searchFailed (.query q) reason)⟩ ∉ log) →
        (∀ books o, ((services.enriched books).run o).1.result ≠
          .error (.searchFailed (.query q) reason)) →
        (run.1.result = .error (.searchFailed (.query q) reason) ↔
          (log.length = 2 ∧ ∀ x ∈ log, x.answer = .ok none) ∧
            reason = "catalog service unavailable")) ∧
      ∀ raw, (∀ t ∈ raw, Text.isBlankText t) →
        (search services raw name).run s = (⟨.ok none, []⟩, s) := by
  intro run log
  have hdispatched : Dispatched services q log run.1.result := by
    obtain ⟨f, rfl, n, hrun⟩ := run_execute services.recorded q name s.navigation
    have hfinish := f.finish_dispatched services n s.outside
    rw [← hrun] at hfinish
    exact hfinish
  have hrecorded :=
    simulates_execute services.simulate_recorded (.query q) name ⟨s.navigation, (s.outside, [])⟩
  exact ⟨hrecorded, hdispatched, fun _ => hdispatched.unavailable_iff,
    fun _ hblank => run_search_of_blank services hblank name s⟩

/-- The catalogue gives no answer to the first question, but it has one to the general question. A
search for a title fails over a book whose title is a number, and a search for years that are too
long to be written does not come to ask again. -/
theorem execute_breaks_off :
    let numbered : Book := { Book.blank with isbn := some "1", title := .int 1984 }
    let services : Services Unit :=
      { catalogue := fun call => pure (if call = .search "farm" then some [numbered] else none)
        ratings := none }
    let run (q : Query) := (execute services.recorded (.query q) none).run ⟨.empty, ((), [])⟩
    let q := Query.titleOnly "farm"
    let q' := Query.authorYears "farm" .overlong
    (run q).1.result = .error .notText ∧
      (run q).2.outside.2 = [⟨.searchTitle "farm", .ok none⟩, ⟨.search "farm", .ok [numbered]⟩] ∧
      (run q').1.result = .error .malformed ∧
      (run q').2.outside.2 = [⟨.searchAuthor "farm", .ok none⟩] := by
  intro numbered services run q q'
  have hlong : ¬q'.years.IsShort := YearRange.not_isShort_overlong
  obtain ⟨f, hf, n, hrun⟩ := run_execute services.recorded q' none .empty
  have hafter : run q' =
      (⟨.error .malformed, []⟩, ⟨n, ((), [⟨.searchAuthor "farm", .ok none⟩])⟩) := by
    refine (hrun _).trans ?_
    rw [Flight.finish_eq_of_not_isShort _ (hf ▸ hlong), hf]
    rfl
  rw [hafter]
  exact ⟨rfl, rfl, rfl, rfl⟩

/-- Years that are one year make a narrower question than a range does. -/
example : (Query.authorYears "Orwell" (.only 1949)).call = .searchAuthorYear "Orwell" (some 1949) ∧
    (Query.authorYears "Orwell" ⟨some 1949, none⟩).call = .searchAuthor "Orwell" := by decide

end Session

end Bookfinder
