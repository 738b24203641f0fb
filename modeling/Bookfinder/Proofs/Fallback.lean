import Bookfinder.Proofs.Dispatch

/-!
# An honest catalogue makes the fallback invisible

A search that gets no answer to its first question asks the general one and narrows the answer
itself. If the catalogue answers as a shelf of plain books would (`Shelf.Answers`), that makes no
difference: both ways lead to the books of the shelf that the query asks for
(`Query.narrowed_call`, `Query.narrowed_search`), and what a search makes of them does not depend
on the way (`Flight.conclude_beside`). Nor does it with years that are too long to be written, which
are a fault either way (`Flight.run_finish_of_not_isShort`). `Session.execute_fallback` puts this
together.

The ratings are kept beside the catalogue (`Services.beside`), so that they are the same for both
searches.
-/

namespace Bookfinder

variable {κ ρ : Type}

/-- A catalogue, and ratings with a state of their own. -/
def Services.beside (catalogue : Catalogue κ) (ratings : Option (RatingStore ρ)) :
    Services (κ × ρ) where
  catalogue call := (catalogue call).onPart Prod.fst fun k s => (k, s.2)
  ratings := ratings.map (.onPart Prod.snd fun r s => (s.1, r))

theorem Services.run_beside {catalogue : Catalogue κ} (ratings : Option (RatingStore ρ))
    {c : Call} {k k' : κ} {answer : Outcome (Option (List Book))}
    (h : (catalogue c).run k = (answer, k')) (r : ρ) :
    ((Services.beside catalogue ratings).catalogue c).run (k, r) = (answer, (k', r)) := by
  simp only [beside, Action.run_onPart, h]

theorem Services.enriched_beside (catalogue : Catalogue κ) (ratings : Option (RatingStore ρ))
    (books : List Book) :
    (Services.beside catalogue ratings).enriched books =
      ((Services.mk (fun _ => pure none) ratings).enriched books).onPart Prod.snd
        fun r s => (s.1, r) :=
  enriched_onPart isPart_snd rfl books

/-- In the state `k` a catalogue answers a question as the shelf does, which leaves `k'`. -/
def Shelf.Answers (s : Shelf) (catalogue : Catalogue κ) (c : Call) (k k' : κ) : Prop :=
  ∃ ns, (catalogue c).run k = (⟨(s.answer c).map some, ns⟩, k')

/-- In the state `k` a question gets no answer, which leaves `k'`. -/
def Call.Unanswered (c : Call) (catalogue : Catalogue κ) (k k' : κ) : Prop :=
  ∃ ns, (catalogue c).run k = (⟨.ok none, ns⟩, k')

/-! ## The books that are left -/

/-- A question names no other years than its query. -/
theorem Query.years_call (q : Query) : q.call.years = .unbounded ∨ q.call.years = q.years := by
  cases q with
  | authorYears t years =>
    rw [call]
    split
    · exact Or.inl rfl
    split
    · next year hyear => exact Or.inr (single?_eq_some_iff.1 hyear).symm
    · exact Or.inl rfl
  | _ => exact Or.inl rfl

theorem Query.isShort_call {q : Query} (h : q.years.IsShort) : q.call.years.IsShort := by
  rcases q.years_call with heq | heq
  · exact heq ▸ YearRange.isShort_unbounded
  · exact heq ▸ h

namespace Query

variable {s : Shelf} (h : ∀ b ∈ s.books, b.IsPlain)
include h

/-- Narrowing an honest answer that covers a query. -/
theorem matching_answer {q : Query} {c : Call} (hc : ∀ b, q.wants b → c.wants b) :
    Selection.matching (s.books.filter c.wants) q =
      q.years.write.map fun _ => s.books.filter q.wants := by
  rw [Selection.matching_eq fun b hb => h b (List.mem_filter.1 hb).1, filter_wants_of_covers hc]

theorem narrowed_call (q : Query) : q.narrowed false (s.books.filter q.call.wants) =
    q.years.write.map fun _ => s.books.filter q.wants := by
  unfold narrowed
  split
  · exact matching_answer h fun _ => wants_call
  · next hwider =>
    rw [Bool.or_false, Bool.not_eq_true] at hwider
    rw [wants_call_of_not_isWider hwider, years_of_not_isWider hwider]
    rfl

theorem narrowed_search (q : Query) : q.narrowed true (s.books.filter (Call.search q.term).wants) =
    q.years.write.map fun _ => s.books.filter q.wants := by
  rw [narrowed, Bool.or_true, if_pos rfl]
  exact matching_answer h fun _ => wants_search

end Query

theorem Shelf.answer_of_isShort {s : Shelf} (h : ∀ b ∈ s.books, b.IsPlain) {c : Call}
    (hc : c.years.IsShort) : s.answer c = .ok (s.books.filter c.wants) := by
  rw [answer_eq h, YearRange.write_of_isShort hc]
  rfl

/-- The shelf answers a question about a year that is too long with a fault, and the other
questions with books that are lost once they are narrowed. -/
theorem Shelf.answer_of_not_isShort {s : Shelf} (h : ∀ b ∈ s.books, b.IsPlain) {q : Query}
    (hq : ¬q.years.IsShort) : s.answer q.call = .error .malformed ∨
      ∃ books, s.answer q.call = .ok books ∧ q.narrowed false books = .error .malformed := by
  rw [answer_eq h]
  rcases q.years_call with heq | heq
  · refine Or.inr ⟨s.books.filter q.call.wants, by rw [heq]; rfl, ?_⟩
    rw [Query.narrowed_call h, YearRange.write_of_not_isShort hq]
    rfl
  · rw [heq, YearRange.write_of_not_isShort hq]
    exact Or.inl rfl

/-! ## Both ways -/

/-- What a search makes of the books that are left does not depend on the state of the catalogue.
-/
theorem Flight.conclude_beside (catalogue : Catalogue κ) (ratings : Option (RatingStore ρ))
    {f : Flight} {again again' : Bool} {books books' kept : List Book}
    (h : f.query.narrowed again books = .ok kept)
    (h' : f.query.narrowed again' books' = .ok kept) (n : Navigation) (k k' : κ) (r : ρ) :
    let run := (f.conclude (.beside catalogue ratings) again books).run ⟨n, (k, r)⟩
    let run' := (f.conclude (.beside catalogue ratings) again' books').run ⟨n, (k', r)⟩
    run'.1.result = run.1.result.map (fun found => { found with usedFallback := again' }) ∧
      run'.2.navigation = run.2.navigation ∧ run'.2.outside.2 = run.2.outside.2 := by
  rw [conclude_of_ok _ h, conclude_of_ok _ h', Services.enriched_beside]
  simp only [Action.run_bind, Session.run_reach, Action.run_onPart]
  obtain ⟨⟨rated, ns⟩, r'⟩ :=
    ((Services.mk (fun _ => pure none) ratings).enriched (Selection.distinct kept)).run r
  cases rated with
  | error e => exact ⟨rfl, rfl, rfl⟩
  | ok rated => exact ⟨rfl, rfl, rfl⟩

/-- A search that has an answer to its first question. -/
theorem Flight.run_finish_of_answer {σ : Type} {services : Services σ} {f : Flight} {o o' : σ}
    {books : List Book} {ns : List Notice}
    (h : (services.catalogue f.query.call).run o = (⟨.ok (some books), ns⟩, o'))
    (n : Navigation) :
    ((f.finish services).run ⟨n, o⟩).1.result =
        ((f.conclude services false books).run ⟨n, o'⟩).1.result ∧
      ((f.finish services).run ⟨n, o⟩).2 = ((f.conclude services false books).run ⟨n, o'⟩).2 := by
  rw [finish_eq, Action.run_bind, Session.run_reach, h]
  exact ⟨rfl, rfl⟩

/-- A search that has an answer to its second question only. -/
theorem Flight.run_finish_of_later_answer {σ : Type} {services : Services σ} {f : Flight}
    (hshort : f.query.years.IsShort) {o o' o'' : σ} {books : List Book} {ns ns' : List Notice}
    (h : (services.catalogue f.query.call).run o = (⟨.ok none, ns⟩, o'))
    (h' : (services.catalogue (.search f.query.term)).run o' = (⟨.ok (some books), ns'⟩, o''))
    (n : Navigation) :
    ((f.finish services).run ⟨n, o⟩).1.result =
        ((f.conclude services true books).run ⟨n, o''⟩).1.result ∧
      ((f.finish services).run ⟨n, o⟩).2 = ((f.conclude services true books).run ⟨n, o''⟩).2 := by
  rw [finish_eq_of_isShort _ hshort, Action.run_bind, Session.run_reach, h]
  dsimp only
  rw [Action.run_bind, Action.run_note]
  dsimp only
  rw [Action.run_bind, Session.run_reach, h']
  exact ⟨rfl, rfl⟩

/-- A search for years that are too long to be written: without an answer to the first question it
cannot report that, and with one it cannot narrow it. -/
theorem Flight.run_finish_of_not_isShort {σ : Type} {services : Services σ} {f : Flight}
    (hlong : ¬f.query.years.IsShort) {o o' : σ} {answer : Except Fault (Option (List Book))}
    {ns : List Notice} (h : (services.catalogue f.query.call).run o = (⟨answer, ns⟩, o'))
    (hanswer : answer = .ok none ∨ answer = .error .malformed ∨
      ∃ books, answer = .ok (some books) ∧ f.query.narrowed false books = .error .malformed)
    (n : Navigation) :
    ((f.finish services).run ⟨n, o⟩).1.result = .error .malformed ∧
      ((f.finish services).run ⟨n, o⟩).2 = ⟨n, o'⟩ := by
  rw [finish_eq_of_not_isShort _ hlong, Action.run_bind, Session.run_reach, h]
  rcases hanswer with rfl | rfl | ⟨books, rfl, hnarrowed⟩
  · exact ⟨rfl, rfl⟩
  · exact ⟨rfl, rfl⟩
  · dsimp only
    rw [conclude_of_error _ hnarrowed]
    exact ⟨rfl, rfl⟩

/-! ## The fallback is invisible -/

/-- Two searches for the same, one that has an honest answer to its first question and one that has
none, but an honest answer to the general question: they end in the same way, up to the mark that
the fallback was used. If they find books these are the books of the shelf that the query asks
for, each once and in their order, and without ratings they do find them. Only if the years are too
long to be written neither finds any, for one reason. -/
theorem Session.execute_fallback {s : Shelf} (hplain : ∀ b ∈ s.books, b.IsPlain)
    {catalogue : Catalogue κ} (ratings : Option (RatingStore ρ)) (q : Query)
    (name : Option String) (n : Navigation) (r : ρ) {k₁ k₁' k₂ k₂' k₂'' : κ}
    (hanswer : s.Answers catalogue q.call k₁ k₁') (hnone : q.call.Unanswered catalogue k₂ k₂')
    (hsearch : s.Answers catalogue (.search q.term) k₂' k₂'') :
    let services := Services.beside catalogue ratings
    let direct := (execute services (.query q) name).run ⟨n, (k₁, r)⟩
    let fallback := (execute services (.query q) name).run ⟨n, (k₂, r)⟩
    fallback.1.result = direct.1.result.map (fun found => { found with usedFallback := true }) ∧
      fallback.2.navigation = direct.2.navigation ∧
      fallback.2.outside.2 = direct.2.outside.2 ∧
      (∀ found, direct.1.result = .ok found → found.usedFallback = false ∧
        found.books.map Book.unrated =
          (Selection.distinct (s.books.filter q.wants)).map Book.unrated) ∧
      (q.years.IsShort → ratings = none → ∃ found, direct.1.result = .ok found ∧
        found.books = Selection.distinct (s.books.filter q.wants)) ∧
      (¬q.years.IsShort → direct.1.result = .error .malformed) := by
  obtain ⟨ns, hrun⟩ := hanswer
  obtain ⟨ns₂, hnone⟩ := hnone
  obtain ⟨ns₂', hrun'⟩ := hsearch
  intro services direct fallback
  obtain ⟨f, rfl, n', hexecute⟩ := run_execute services q name n
  by_cases hshort : f.query.years.IsShort
  · rw [Shelf.answer_of_isShort hplain (Query.isShort_call hshort)] at hrun
    rw [Shelf.answer_of_isShort (c := .search f.query.term) hplain
      YearRange.isShort_unbounded] at hrun'
    have hkept := Query.narrowed_call hplain f.query
    have hkept' := Query.narrowed_search hplain f.query
    rw [YearRange.write_of_isShort hshort] at hkept hkept'
    obtain ⟨hresult, hleft⟩ :=
      Flight.run_finish_of_answer (Services.run_beside ratings hrun r) n'
    obtain ⟨hresult', hleft'⟩ := Flight.run_finish_of_later_answer hshort
      (Services.run_beside ratings hnone r) (Services.run_beside ratings hrun' r) n'
    obtain ⟨hsame, hnavigation, hratings⟩ :=
      Flight.conclude_beside catalogue ratings hkept hkept' n' k₁' k₂'' r
    rw [← hexecute] at hresult hleft hresult' hleft'
    rw [← hresult, ← hresult'] at hsame
    rw [← hleft, ← hleft'] at hnavigation hratings
    refine ⟨hsame, hnavigation, hratings, fun found hfound => ?_, fun _ hno => ?_,
      absurd hshort⟩
    · rw [hresult] at hfound
      obtain ⟨-, hused, hunrated, -⟩ := Flight.conclude_eq_ok hkept hfound
      exact ⟨hused, hunrated⟩
    · have hnone : (Services.beside catalogue ratings).ratings = none := by rw [hno]; rfl
      obtain ⟨found, hfound⟩ := Flight.exists_conclude hkept
        (fun o => ⟨_, by rw [Services.enriched_of_ratings_eq_none hnone]; rfl⟩) ⟨n', (k₁', r)⟩
      obtain ⟨-, -, -, hbooks⟩ := Flight.conclude_eq_ok hkept hfound
      exact ⟨found, hresult.trans hfound, hbooks hnone⟩
  · have hanswer : (s.answer f.query.call).map some = .error .malformed ∨
        ∃ books, (s.answer f.query.call).map some = .ok (some books) ∧
          f.query.narrowed false books = .error .malformed := by
      rcases Shelf.answer_of_not_isShort hplain hshort with h | ⟨books, h, hnarrowed⟩
      · exact Or.inl (by rw [h]; rfl)
      · exact Or.inr ⟨books, by rw [h]; rfl, hnarrowed⟩
    obtain ⟨hresult, hleft⟩ := Flight.run_finish_of_not_isShort hshort
      (Services.run_beside ratings hrun r) (Or.inr hanswer) n'
    obtain ⟨hresult', hleft'⟩ := Flight.run_finish_of_not_isShort hshort
      (Services.run_beside ratings hnone r) (Or.inl rfl) n'
    rw [← hexecute] at hresult hleft hresult' hleft'
    have hdirect : direct.1.result = .error .malformed := hresult
    refine ⟨?_, ?_, ?_, ?_, fun h => absurd h hshort, fun _ => hdirect⟩
    · rw [hdirect]
      exact hresult'
    · rw [show direct.2.navigation = n' from congrArg Session.navigation hleft]
      exact congrArg Session.navigation hleft'
    · rw [show direct.2.outside.2 = r from congrArg (fun s => s.outside.2) hleft]
      exact congrArg (fun s => s.outside.2) hleft'
    · rw [hdirect]
      exact fun found h => absurd h nofun

/-- A shelf that is out of reach for a while: each question takes an entry of the list, and has no
answer where it says so. -/
def Shelf.unreliable (s : Shelf) : Catalogue (List Bool) := fun c outages =>
  (if outages.headD false then .ok none else .ofExcept ((s.answer c).map some), outages.tail)

theorem Shelf.answers_unreliable (s : Shelf) (c : Call) : s.Answers s.unreliable c [] [] :=
  ⟨[], rfl⟩

/-- Some books: one without an author, one whose year is no numeral, and one that is listed twice.
-/
def Shelf.mixed : Shelf where
  books := [
    { Book.blank with id := some 1, title := .text "Mystery Book", publishYear := .text "1937" },
    { Book.blank with id := some 2, title := .text "Farmer Giles", author := .text "Tolkien",
                      publishYear := .text "c. 1949" },
    { Book.blank with id := some 3, title := .text "The Hobbit", author := .text "J.R.R. Tolkien",
                      publishYear := .text " 1937 " },
    { Book.blank with id := some 3, title := .text "The Hobbit", author := .text "J.R.R. Tolkien",
                      publishYear := .text "1937" }]

theorem Shelf.isPlain_mixed : ∀ b ∈ mixed.books, b.IsPlain := by
  intro b hb
  simp only [mixed, List.mem_cons, List.not_mem_nil, or_false] at hb
  rcases hb with rfl | rfl | rfl | rfl
  · exact ⟨Or.inr ⟨_, rfl⟩, Or.inl rfl, Or.inr ⟨_, rfl⟩⟩
  all_goals exact ⟨Or.inr ⟨_, rfl⟩, Or.inr ⟨_, rfl⟩, Or.inr ⟨_, rfl⟩⟩

/-- A search of a shelf that is out of reach for a while, without ratings. -/
def Shelf.search (s : Shelf) (outages : List Bool) (q : Query) : Except Fault SearchResult :=
  ((Session.execute (.beside s.unreliable (none : Option (RatingStore Unit))) (.query q) none).run
    ⟨.empty, (outages, ())⟩).1.result

theorem Session.execute_fallback_mixed :
    let q := Query.authorYears "tolkien" (.only 1937)
    Shelf.mixed.search [true] q =
        (Shelf.mixed.search [] q).map (fun found => { found with usedFallback := true }) ∧
      ∃ found, Shelf.mixed.search [] q = .ok found ∧
        found.books.map Book.title = [.text "The Hobbit"] := by
  intro q
  have hanswer := Shelf.mixed.answers_unreliable
  have hnone : q.call.Unanswered Shelf.mixed.unreliable [true] [] := ⟨_, rfl⟩
  obtain ⟨hsame, -, -, -, hfound, -⟩ := execute_fallback Shelf.isPlain_mixed none q none .empty ()
    (hanswer q.call) hnone (hanswer (.search q.term))
  obtain ⟨found, hresult, hbooks⟩ := hfound (by decide) rfl
  have htitles : (Selection.distinct (Shelf.mixed.books.filter q.wants)).map Book.title =
      [.text "The Hobbit"] := by rfl
  exact ⟨hsame, found, hresult, hbooks ▸ htitles⟩

end Bookfinder
