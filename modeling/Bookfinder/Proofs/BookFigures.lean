import Bookfinder.Proofs.Submission
import Mathlib.Data.List.Forall2
import Mathlib.Data.List.Induction

/-!
# The figures of many books at once

The ratings of several books are looked up at once: all ratings are sorted by time and then put
together by book. For a single book they are taken out first and then sorted. A stable sort does the
same to a part of a list as to the whole (`filter_mergeSort`), so both ways lead to the same ratings
in the same order, and the figures of a book are the same (`Ledger.figures_at_once`).

The times must compare. Those of a ledger do if no clock told its offset (`Rating.isLocal`).
-/

namespace Bookfinder

/-! ## Sorting a part of a list -/

section Sorting

variable {α : Type} {le : α → α → Bool} (trans : ∀ a b c, le a b → le b c → le a c)
  (total : ∀ a b, le a b || le b a)
include trans total

/-- A sorted list with one more element at its start: those that come strictly before it, itself,
and the others. -/
theorem mergeSort_cons_eq (a : α) (as : List α) :
    (a :: as).mergeSort le =
      (as.mergeSort le).filter (fun b => !le a b) ++ a :: (as.mergeSort le).filter (le a ·) := by
  obtain ⟨before, after, hcons, hrest, hbefore⟩ := List.mergeSort_cons trans total a as
  have hsorted := List.pairwise_mergeSort trans total (a :: as)
  rw [hcons] at hsorted
  have hafter : ∀ b ∈ after, le a b := by
    have htail := (List.pairwise_append.1 hsorted).2.1
    exact (List.pairwise_cons.1 htail).1
  have hfirst : (before ++ after).filter (fun b => !le a b) = before := by
    rw [List.filter_append, List.filter_eq_self.2 hbefore, List.filter_eq_nil_iff.2, List.append_nil]
    intro b hb
    simp [hafter b hb]
  have hsecond : (before ++ after).filter (le a ·) = after := by
    rw [List.filter_append, List.filter_eq_self.2 hafter, List.filter_eq_nil_iff.2, List.nil_append]
    intro b hb
    simpa using hbefore b hb
  rw [hcons, hrest, hfirst, hsecond]

/-- A part of a sorted list is the part, sorted. -/
theorem filter_mergeSort (p : α → Bool) (as : List α) :
    (as.mergeSort le).filter p = (as.filter p).mergeSort le := by
  induction as with
  | nil => simp
  | cons a as ih =>
    by_cases ha : p a
    · have hcomm : ∀ q, ((as.mergeSort le).filter q).filter p =
          ((as.filter p).mergeSort le).filter q := by
        intro q
        rw [← ih, List.filter_filter, List.filter_filter]
        exact List.filter_congr fun b _ => Bool.and_comm _ _
      rw [List.filter_cons_of_pos ha, mergeSort_cons_eq trans total,
        mergeSort_cons_eq trans total, List.filter_append, List.filter_cons_of_pos ha, hcomm, hcomm]
    · obtain ⟨before, after, hcons, hrest, -⟩ := List.mergeSort_cons trans total a as
      rw [List.filter_cons_of_neg ha, ← ih, hcons, hrest, List.filter_append, List.filter_append,
        List.filter_cons_of_neg ha]

end Sorting

/-! ## Ratings by time and by book -/

namespace Rating

/-- A rating without a time, or with one of a clock that did not tell its offset. -/
def isLocal (r : Rating) : Bool := r.createdAt.all (·.offset.isNone)

/-- Whether a rating is at least as new as another one. -/
def isNoOlder (a b : Rating) : Bool := b.recency.instant ≤ a.recency.instant

theorem isNoOlder_trans (a b c : Rating) (hab : a.isNoOlder b) (hbc : b.isNoOlder c) : a.isNoOlder c := by
  simp only [isNoOlder, decide_eq_true_eq] at hab hbc ⊢
  exact Int.le_trans hbc hab

theorem isNoOlder_total (a b : Rating) : a.isNoOlder b || b.isNoOlder a := by
  simp only [isNoOlder, Bool.or_eq_true, decide_eq_true_eq]
  exact Int.le_total _ _

theorem offset_recency {r : Rating} (h : r.isLocal) : r.recency.offset = none := by
  rw [isLocal] at h
  rw [recency]
  cases ht : r.createdAt with
  | none => rfl
  | some t => simpa [ht] using h

/-- Local times compare, so that ratings can be sorted by them. -/
theorem newestFirst_of_isLocal {ratings : List Rating} (h : ∀ r ∈ ratings, r.isLocal) :
    newestFirst ratings = .ok (ratings.mergeSort isNoOlder) := by
  have haware : (ratings.map (·.recency.offset.isSome)).contains true = false := by
    rw [Bool.eq_false_iff]
    intro hmem
    obtain ⟨r, hr, hsome⟩ := List.mem_map.1 (List.contains_iff_mem.1 hmem)
    simp [offset_recency (h r hr)] at hsome
  rw [newestFirst, haware]
  rfl

end Rating

namespace RatingsByBook

theorem find?_add (groups : RatingsByBook) (r : Rating) (isbn : String) :
    Association.find? (groups.add r) isbn =
      if r.isbn = isbn then some (groups.get isbn ++ [r]) else Association.find? groups isbn := by
  rw [add, Association.find?_put]
  split
  · next h => rw [h]
  · rfl

/-- Under an ISBN are found the ratings with this ISBN, if there are any. -/
theorem find?_ofList (ratings : List Rating) (isbn : String) :
    Association.find? (ofList ratings) isbn =
      (some (ratings.filter (·.isbn == isbn))).filter (!·.isEmpty) := by
  induction ratings using List.reverseRecOn with
  | nil => rfl
  | append_singleton ratings r ih =>
    have hstep : ofList (ratings ++ [r]) = (ofList ratings).add r := List.foldl_append ..
    rw [hstep, find?_add, get, ih, List.filter_append]
    by_cases hr : r.isbn = isbn
    · cases hold : ratings.filter (·.isbn == isbn) with
      | nil => simp [hr, Option.filter]
      | cons s rest => simp [hr, Option.filter]
    · simp [hr]

end RatingsByBook

namespace Ledger

/-- The ratings of a book, the newest first. -/
def newest (l : Ledger) (isbn : String) : List Rating :=
  (l.ratings.filter (·.isbn == isbn)).mergeSort Rating.isNoOlder

variable {l : Ledger}

theorem run_ratingsFor (hl : ∀ r ∈ l.ratings, r.isLocal) (isbn : String) :
    (store.ratingsFor (.text isbn)).run l = (.ok (l.newest (Text.trim isbn)), l) := by
  have hpart : ∀ r ∈ l.ratings.filter (·.isbn == Text.trim isbn), r.isLocal :=
    fun r hr => hl r (List.mem_filter.1 hr).1
  change (Outcome.ofExcept (Rating.newestFirst (l.ratings.filter (·.isbn == Text.trim isbn))), l) = _
  rw [Rating.newestFirst_of_isLocal hpart]
  rfl

theorem mapM_asText (isbns : List String) :
    ((isbns.map Payload.text).mapM fun p => (p.asText : Action Ledger String)) = pure isbns := by
  induction isbns with
  | nil => rfl
  | cons isbn isbns ih =>
    rw [List.map_cons, List.mapM_cons, ih, Payload.asText, Action.liftM_ok, pure_bind, pure_bind]

/-- What is found when the ratings of several books are looked up at once. -/
theorem run_ratingsForBooks (hl : ∀ r ∈ l.ratings, r.isLocal) (isbns : List String) :
    ∃ groups, (store.ratingsForBooks (isbns.map .text)).run l = (.ok groups, l) ∧
      ∀ isbn, Association.find? groups isbn =
        if isbn ∈ isbns.map Text.trim then (some (l.newest isbn)).filter (!·.isEmpty) else none := by
  refine ⟨RatingsByBook.ofList ((l.ratings.mergeSort Rating.isNoOlder).filter
    ((isbns.map Text.trim).contains ·.isbn)), ?_, fun isbn => ?_⟩
  · change ((isbns.map Payload.text).mapM (fun p => (p.asText : Action Ledger String)) >>=
      fun isbns => Action.state >>= fun l => liftM (l.grouped isbns)).run l = _
    rw [mapM_asText, pure_bind]
    change (Outcome.ofExcept (l.grouped isbns), l) = _
    rw [grouped, Rating.newestFirst_of_isLocal hl]
    rfl
  · rw [RatingsByBook.find?_ofList, List.filter_filter]
    split
    · next hmem =>
      have hwanted : (fun r : Rating => r.isbn == isbn && (isbns.map Text.trim).contains r.isbn) =
          (·.isbn == isbn) := by
        funext r
        by_cases hr : r.isbn = isbn
        · simp [hr, hmem]
        · simp [hr]
      rw [hwanted, filter_mergeSort Rating.isNoOlder_trans Rating.isNoOlder_total, newest]
    · next hmem =>
      have hnone : (fun r : Rating => r.isbn == isbn && (isbns.map Text.trim).contains r.isbn) =
          fun _ => false := by
        funext r
        by_cases hr : r.isbn = isbn
        · simp [hr, hmem]
        · simp [hr]
      rw [hnone]
      simp

/-! ## The figures of a book -/

theorem run_statistics (hl : ∀ r ∈ l.ratings, r.isLocal) (isbn : String) :
    (store.statistics (.text isbn)).run l =
      (.ofExcept (Statistics.ofRatings isbn (l.newest (Text.trim isbn))), l) := by
  rw [RatingStore.statistics, Action.run_bind, run_ratingsFor hl]
  rfl

theorem run_average (hl : ∀ r ∈ l.ratings, r.isLocal) (isbn : String) :
    (store.average (.text isbn)).run l =
      (.ofExcept (Payload.shownMean?
        (((l.newest (Text.trim isbn)).filter Rating.isRated).map Rating.average)), l) := by
  rw [RatingStore.average, Action.run_bind, run_ratingsFor hl]
  rfl

/-- The average among the figures of a book is the mean of the averages of its ratings. -/
theorem shownMean?_of_ofRatings {isbn : String} {ratings : List Rating} {s : Statistics}
    (h : Statistics.ofRatings isbn ratings = .ok s) :
    Payload.shownMean? ((ratings.filter Rating.isRated).map Rating.average) = .ok s.average := by
  unfold Statistics.ofRatings at h
  dsimp only at h
  split at h
  · next hnone =>
    obtain rfl := Except.ok.inj h
    rw [List.isEmpty_iff.1 hnone]
    rfl
  · obtain ⟨stars, -, h⟩ := bind_eq_ok.1 h
    obtain ⟨average, haverage, h⟩ := bind_eq_ok.1 h
    obtain ⟨means, -, h⟩ := bind_eq_ok.1 h
    obtain rfl := Except.ok.inj h
    exact haverage

/-- If each step of a list succeeds, so do all of them together. -/
theorem exists_run_mapM {α β : Type} {R : α → β → Prop} {f : α → Except Fault β} {as : List α}
    (h : ∀ a ∈ as, ∃ b, f a = .ok b ∧ R a b) :
    ∃ bs, (as.mapM fun a => (f a : Action Ledger β)).run l = (.ok bs, l) ∧
      List.Forall₂ R as bs := by
  induction as with
  | nil => exact ⟨[], rfl, .nil⟩
  | cons a as ih =>
    obtain ⟨⟨b, hb, hR⟩, hrest⟩ := List.forall_mem_cons.1 h
    obtain ⟨bs, hbs, hall⟩ := ih hrest
    refine ⟨b :: bs, ?_, .cons hR hall⟩
    rw [List.mapM_cons, hb, Action.liftM_ok, pure_bind, Action.run_bind, hbs]
    rfl

/-- The book carries the figures that its ratings give; without an ISBN it is as it was. -/
def Enriches (l : Ledger) (b enriched : Book) : Prop :=
  match b.knownIsbn? with
  | none => enriched = b
  | some isbn => ∃ s, (store.statistics (.text isbn)).run l = (.ok s, l) ∧
      (store.average (.text isbn)).run l = (.ok s.average, l) ∧
      enriched = { b with averageRating := s.average, reviewCount := s.total }

/-- Once its ratings were looked up, a book gets its figures if they can be worked out. -/
theorem exists_withFigures (hl : ∀ r ∈ l.ratings, r.isLocal) {groups : RatingsByBook} {b : Book}
    (hgroups : ∀ isbn, b.knownIsbn? = some isbn →
      groups.get (Text.trim isbn) = l.newest (Text.trim isbn))
    (hfigures : ∀ isbn, b.knownIsbn? = some isbn →
      ∃ s, ((store.statistics (.text isbn)).run l).1.result = .ok s) :
    ∃ enriched, RatingStore.withFigures groups b = .ok enriched ∧ l.Enriches b enriched := by
  unfold RatingStore.withFigures Enriches
  cases hisbn : b.knownIsbn? with
  | none => exact ⟨b, rfl, rfl⟩
  | some isbn =>
    obtain ⟨s, hs⟩ := hfigures isbn hisbn
    rw [run_statistics hl] at hs
    change Statistics.ofRatings isbn (l.newest (Text.trim isbn)) = .ok s at hs
    refine ⟨{ b with averageRating := s.average, reviewCount := s.total }, ?_, s, ?_, ?_, rfl⟩
    · dsimp only
      rw [hgroups isbn hisbn, hs]
      rfl
    · rw [run_statistics hl, hs]
      rfl
    · rw [run_average hl, shownMean?_of_ofRatings hs]
      rfl

theorem exists_enriched (hl : ∀ r ∈ l.ratings, r.isLocal) {books : List Book}
    (hfigures : ∀ b ∈ books, ∀ isbn, b.knownIsbn? = some isbn →
      ∃ s, ((store.statistics (.text isbn)).run l).1.result = .ok s) :
    ∃ enriched, (store.enrich books).run l = (.ok enriched, l) ∧
      List.Forall₂ l.Enriches books enriched := by
  have hknown : ∀ b ∈ books, ∀ isbn, b.knownIsbn? = some isbn →
      isbn ∈ (books.filterMap Book.knownIsbn?).eraseDups := fun b hb isbn hisbn =>
    List.mem_eraseDups.2 (List.mem_filterMap.2 ⟨b, hb, hisbn⟩)
  unfold RatingStore.enrich
  dsimp only
  split
  · next hnone =>
    rw [List.isEmpty_iff.1 hnone] at hknown
    have hunknown : ∀ b ∈ books, b.knownIsbn? = none := fun b hb =>
      Option.eq_none_iff_forall_ne_some.2 fun isbn hisbn => List.not_mem_nil (hknown b hb isbn hisbn)
    refine ⟨books, rfl, List.forall₂_same.2 fun b hb => ?_⟩
    rw [Enriches, hunknown b hb]
  · obtain ⟨groups, hrun, hfind⟩ :=
      run_ratingsForBooks hl (books.filterMap Book.knownIsbn?).eraseDups
    rw [Action.run_bind, hrun]
    have hgroups : ∀ b ∈ books, ∀ isbn, b.knownIsbn? = some isbn →
        groups.get (Text.trim isbn) = l.newest (Text.trim isbn) := by
      intro b hb isbn hisbn
      rw [RatingsByBook.get, hfind, if_pos (List.mem_map_of_mem (hknown b hb isbn hisbn))]
      cases hnewest : l.newest (Text.trim isbn) with
      | nil => rfl
      | cons r rest => rfl
    obtain ⟨enriched, hmapM, hall⟩ := exists_run_mapM fun b hb =>
      exists_withFigures hl (hgroups b hb) (hfigures b hb)
    refine ⟨enriched, ?_, hall⟩
    dsimp only [Outcome.ok]
    rw [hmapM]
    rfl

/-- The ratings of several books, looked up at once, are for each ISBN those that are found for it
alone, in the same order, and none are under any other ISBN. So books get the figures that each of
them has alone. -/
theorem figures_at_once (l : Ledger) (hl : ∀ r ∈ l.ratings, r.isLocal) :
    (∀ isbns : List String, ∃ groups,
      (store.ratingsForBooks (isbns.map .text)).run l = (.ok groups, l) ∧
        ∀ name ratings, Association.find? groups name = some ratings ↔
          ∃ isbn ∈ isbns, Text.trim isbn = name ∧ ratings ≠ [] ∧
            (store.ratingsFor (.text isbn)).run l = (.ok ratings, l)) ∧
    ∀ books : List Book,
      (∀ b ∈ books, ∀ isbn, b.knownIsbn? = some isbn →
        ∃ s, ((store.statistics (.text isbn)).run l).1.result = .ok s) →
      ∃ enriched, (store.enrich books).run l = (.ok enriched, l) ∧
        List.Forall₂ l.Enriches books enriched := by
  refine ⟨fun isbns => ?_, fun books => exists_enriched hl⟩
  obtain ⟨groups, hlookup, hfind⟩ := run_ratingsForBooks hl isbns
  refine ⟨groups, hlookup, fun name ratings => ?_⟩
  rw [hfind]
  constructor
  · intro h
    split at h
    · next hmem =>
      obtain ⟨isbn, hisbn, rfl⟩ := List.mem_map.1 hmem
      obtain ⟨hnewest, hne⟩ := Option.filter_eq_some_iff.1 h
      obtain rfl := Option.some.inj hnewest
      exact ⟨isbn, hisbn, rfl, by simpa using hne, run_ratingsFor hl isbn⟩
    · cases h
  · rintro ⟨isbn, hisbn, rfl, hne, hrun⟩
    rw [run_ratingsFor hl] at hrun
    have hnewest : l.newest (Text.trim isbn) = ratings := by
      simpa [Outcome.ok] using hrun
    rw [if_pos (List.mem_map_of_mem hisbn), hnewest]
    simp [Option.filter, hne]

/-! ### A ledger of three ratings -/

/-- A rating without a time, of the book `1`. -/
def undated : Rating := ⟨"ann", "1", Scores.ofFn fun _ => .int 4, none, .int 4, none⟩

/-- A later rating of the same book. -/
def dated : Rating := ⟨"bob", "1", Scores.ofFn fun _ => .int 5, none, .int 5, some ⟨2, none⟩⟩

/-- A ledger that holds them with a rating of another book between them. -/
def sample : Ledger :=
  ⟨[undated, ⟨"ann", "2", Scores.ofFn fun _ => .int 2, none, .int 2, some ⟨1, none⟩⟩, dated]⟩

theorem newest_sample : sample.newest "1" = [dated, undated] := by
  have htimes : dated.isNoOlder undated = true ∧ undated.isNoOlder dated = false := by decide
  have hpart : sample.ratings.filter (·.isbn == "1") = [undated, dated] := by decide
  rw [newest, hpart, mergeSort_cons_eq Rating.isNoOlder_trans Rating.isNoOlder_total]
  simp [htimes]

theorem newest_sample_of_unrated : sample.newest "3" = [] := by
  have hpart : sample.ratings.filter (·.isbn == "3") = [] := by decide
  rw [newest, hpart, List.mergeSort_nil]

/-- A book that is rated twice, one that is unrated and one without an ISBN. -/
def sampleBooks : List Book :=
  [{ Book.blank with isbn := some " 1 " }, { Book.blank with isbn := some "3" }, Book.blank]

theorem figures_at_once_sample :
    (∀ r ∈ sample.ratings, r.isLocal) ∧
    (∀ b ∈ sampleBooks, ∀ isbn, b.knownIsbn? = some isbn →
      ∃ s, ((store.statistics (.text isbn)).run sample).1.result = .ok s) ∧
    ∃ enriched, (store.enrich sampleBooks).run sample = (.ok enriched, sample) ∧
      List.Forall₂ sample.Enriches sampleBooks enriched := by
  have hlocal : ∀ r ∈ sample.ratings, r.isLocal := by decide
  have hfigures : ∀ b ∈ sampleBooks, ∀ isbn, b.knownIsbn? = some isbn →
      ∃ s, ((store.statistics (.text isbn)).run sample).1.result = .ok s := by
    simp only [sampleBooks, List.forall_mem_cons, List.not_mem_nil, false_imp_iff, implies_true,
      and_true]
    refine ⟨?_, ?_, ?_⟩
    · intro isbn hisbn
      obtain rfl : " 1 " = isbn := Option.some.inj hisbn
      rw [run_statistics hlocal, show Text.trim " 1 " = "1" from by decide, newest_sample]
      exact ⟨_, rfl⟩
    · intro isbn hisbn
      obtain rfl : "3" = isbn := Option.some.inj hisbn
      rw [run_statistics hlocal, show Text.trim "3" = "3" from by decide, newest_sample_of_unrated]
      exact ⟨_, rfl⟩
    · intro isbn hisbn
      cases hisbn
  exact ⟨hlocal, hfigures, (figures_at_once sample hlocal).2 sampleBooks hfigures⟩

end Ledger

end Bookfinder
