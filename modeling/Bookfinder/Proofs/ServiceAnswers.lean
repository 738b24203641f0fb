import Bookfinder.Proofs.BookStatistics
import Bookfinder.Proofs.RatingList
import Bookfinder.Proofs.Retries
import Bookfinder.Rating.Service

/-!
# What the rating service answers

Six things can be asked of the rating service (`Errand`). For each of them a request is sent, which
ends in one of the ways of `Http.Client.Ends`, and where no value comes back the errand has failed,
which is an answer too (`Errand.failed`). A value that comes back is read, and a value of another
shape than the errand needs is a fault: `Errand.Fits` says which values can be read
(`Errand.exists_read_iff`). Within a list of ratings the reader is more patient, and leaves an item
out that is no rating.

`RatingService.carryOut_gives` puts this together.
-/

namespace Bookfinder

/-- A result made in two steps is there if both are. -/
theorem exists_bind_eq_ok {α β : Type} {r : Except Fault α} {f : α → Except Fault β} :
    (∃ b, r >>= f = .ok b) ↔ ∃ a, r = .ok a ∧ ∃ b, f a = .ok b := by
  simp only [bind_eq_ok]
  exact ⟨fun ⟨b, a, ha, hb⟩ => ⟨a, ha, b, hb⟩, fun ⟨a, ha, b, hb⟩ => ⟨b, a, ha, hb⟩⟩

namespace Payload

/-- An integer, or nothing in its place. -/
def IsWhole (p : Payload) : Prop := ∃ i, p.toInt? = .ok i

/-- A real number, or nothing in its place. -/
def IsReal (p : Payload) : Prop := ∃ x, p.toReal? = .ok x

end Payload

/-! ## Figures -/

theorem Scores.exists_ofFnM_iff {α : Type} {f : Criterion → Except Fault α} :
    (∃ s, ofFnM f = .ok s) ↔ ∀ c, ∃ a, f c = .ok a := by
  constructor
  · rintro ⟨s, hs⟩ c
    exact ⟨_, get_of_ofFnM hs c⟩
  · intro h
    choose g hg using h
    exact ⟨_, ofFnM_eq_ok hg⟩

theorem StarCounts.exists_ofFnDownM_iff {f : Star → Except Fault Int} :
    (∃ counts, ofFnDownM f = .ok counts) ↔ ∀ s, ∃ i, f s = .ok i := by
  constructor
  · rintro ⟨counts, h⟩ s
    obtain ⟨five, hfive, h⟩ := bind_eq_ok.1 h
    obtain ⟨four, hfour, h⟩ := bind_eq_ok.1 h
    obtain ⟨three, hthree, h⟩ := bind_eq_ok.1 h
    obtain ⟨two, htwo, h⟩ := bind_eq_ok.1 h
    obtain ⟨one, hone, -⟩ := bind_eq_ok.1 h
    cases s
    exacts [⟨one, hone⟩, ⟨two, htwo⟩, ⟨three, hthree⟩, ⟨four, hfour⟩, ⟨five, hfive⟩]
  · intro h
    choose g hg using h
    simp only [ofFnDownM, hg]
    exact ⟨_, rfl⟩

namespace Statistics

/-- The breakdown in a record of figures; what is not present stands for an empty one. -/
inductive HasBreakdown (fields : Association Payload) : Association Payload → Prop
  | absent (h : (Payload.get fields "ratingBreakdown").isPresent = false) : HasBreakdown fields []
  | record {figures : Association Payload}
      (h : Payload.get fields "ratingBreakdown" = .record figures) : HasBreakdown fields figures

/-- The figures in a record can be read: there are no ratings, or all of the figures are numbers or
missing. -/
inductive IsLegible (fields : Association Payload) : Prop
  | unrated {total : Option Int} (h : (Payload.get fields "totalRatings").toInt? = .ok total)
      (hzero : total.getD 0 = 0)
  | rated {figures : Association Payload} (htotal : (Payload.get fields "totalRatings").IsWhole)
      (hbreakdown : HasBreakdown fields figures)
      (hstars : ∀ s, (Payload.get figures (starsName s)).IsWhole)
      (haverage : (Payload.get fields "averageRating").IsReal)
      (hmeans : ∀ c, (Payload.get figures (meanName c)).IsReal)

variable {fields figures : Association Payload}

/-- The breakdown as the reader takes it. -/
def breakdown (fields : Association Payload) : Except Fault (Association Payload) :=
  if (Payload.get fields "ratingBreakdown").isPresent then
    (Payload.get fields "ratingBreakdown").asRecord
  else .ok []

theorem breakdown_eq_ok_iff : breakdown fields = .ok figures ↔ HasBreakdown fields figures := by
  unfold breakdown
  constructor
  · intro h
    split at h
    · cases hbreakdown : Payload.get fields "ratingBreakdown" with
      | record others =>
        rw [hbreakdown] at h
        exact Except.ok.inj h ▸ .record hbreakdown
      | _ =>
        rw [hbreakdown] at h
        cases h
    · next habsent =>
      exact Except.ok.inj h ▸ .absent (Bool.eq_false_iff.2 habsent)
  · intro h
    cases h with
    | absent habsent =>
      rw [habsent]
      rfl
    | record hbreakdown =>
      rw [hbreakdown]
      cases figures <;> rfl

/-- The figures of a record once their number and their breakdown are known. -/
def ofFigures (isbn : String) (total : Int) (fields figures : Association Payload) :
    Except Fault Statistics := do
  let stars ← StarCounts.ofFnDownM fun s => do
    return (← (Payload.get figures (starsName s)).toInt?).getD 0
  let average ← (Payload.get fields "averageRating").toReal?
  let means ← Scores.ofFnM fun c => (Payload.get figures (meanName c)).toReal?
  return { isbn, average, total, stars, means }

theorem exists_ofFigures_iff {isbn : String} {total : Int} :
    (∃ s, ofFigures isbn total fields figures = .ok s) ↔
      (∀ s, (Payload.get figures (starsName s)).IsWhole) ∧
        (Payload.get fields "averageRating").IsReal ∧
          ∀ c, (Payload.get figures (meanName c)).IsReal := by
  have hpure {s : Statistics} : ∃ t, (pure s : Except Fault Statistics) = .ok t := ⟨s, rfl⟩
  have hcount (p : Payload) : (∃ i, (do return (← p.toInt?).getD 0) = Except.ok (ε := Fault) i) ↔
      p.IsWhole := by
    simp only [exists_bind_eq_ok, Payload.IsWhole]
    exact exists_congr fun i => and_iff_left ⟨_, rfl⟩
  unfold ofFigures
  simp only [exists_bind_eq_ok, hpure, and_true, exists_and_right]
  rw [StarCounts.exists_ofFnDownM_iff, Scores.exists_ofFnM_iff]
  exact and_congr (forall_congr' fun s => hcount _) Iff.rfl

theorem ofPayload_record (isbn : String) (fields : Association Payload) :
    ofPayload isbn (.record fields) = (Payload.get fields "totalRatings").toInt? >>= fun total =>
      if total.getD 0 = 0 then .ok (unrated isbn)
      else breakdown fields >>= ofFigures isbn (total.getD 0) fields := by
  change (Payload.get fields "totalRatings").toInt? >>= _ = _
  refine bind_congr fun total => ?_
  unfold breakdown
  dsimp only
  split
  · rfl
  · split <;> rfl

theorem exists_ofPayload_iff {isbn : String} {body : Payload} :
    (∃ s, ofPayload isbn body = .ok s) ↔ ∃ fields, body = .record fields ∧ IsLegible fields := by
  cases body with
  | record fields =>
    simp only [ofPayload_record, exists_bind_eq_ok, Payload.record.injEq, exists_eq_left']
    constructor
    · rintro ⟨total, htotal, h⟩
      split at h
      · next hzero => exact .unrated htotal hzero
      · obtain ⟨figures, hbreakdown, h⟩ := exists_bind_eq_ok.1 h
        obtain ⟨hstars, haverage, hmeans⟩ := exists_ofFigures_iff.1 h
        exact .rated ⟨total, htotal⟩ (breakdown_eq_ok_iff.1 hbreakdown) hstars haverage hmeans
    · intro h
      cases h with
      | @unrated total htotal hzero =>
        refine ⟨total, htotal, ?_⟩
        rw [if_pos hzero]
        exact ⟨_, rfl⟩
      | @rated figures htotal hbreakdown hstars haverage hmeans =>
        obtain ⟨total, htotal⟩ := htotal
        refine ⟨total, htotal, ?_⟩
        split
        · exact ⟨_, rfl⟩
        · exact exists_bind_eq_ok.2 ⟨figures, breakdown_eq_ok_iff.2 hbreakdown,
            exists_ofFigures_iff.2 ⟨hstars, haverage, hmeans⟩⟩
  | _ =>
    refine iff_of_false ?_ nofun
    rintro ⟨s, hs⟩
    exact nomatch (hs : Except.error Fault.notRecord = .ok s)

end Statistics

namespace RatingService

/-! ## Errands -/

/-- What the rating service is asked for. -/
inductive Errand where
  | submit (r : Rating)
  | delete (username isbn : String)
  | ratingsFor (isbn : String)
  | userRatings (username : String)
  | statistics (isbn : String)
  | average (isbn : String)

namespace Errand

/-- The kind of answer that is asked for. -/
def Answer : Errand → Type
  | .submit _ | .delete .. => Bool
  | .ratingsFor _ | .userRatings _ => Option (List Rating)
  | .statistics _ => Option Statistics
  | .average _ => Option Float

def verb : Errand → Http.Verb
  | .submit _ => .post
  | .delete .. => .delete
  | .ratingsFor _ | .userRatings _ | .statistics _ | .average _ => .get

/-- The parts of the path that is asked. -/
def parts : Errand → List String
  | .submit _ => ["ratings", "add"]
  | .delete username isbn => ["ratings", "user", username, "book", isbn]
  | .ratingsFor isbn => ["ratings", "book", isbn]
  | .userRatings username => ["ratings", "user", username]
  | .statistics isbn => ["ratings", "book", isbn, "statistics"]
  | .average isbn => ["ratings", "book", isbn, "average"]

/-- The value that is sent. -/
def enclosed : Errand → Option Payload
  | .submit r => some r.submission
  | _ => none

/-- The request that is sent. -/
def message (c : Http.Client) (e : Errand) : Http.Request :=
  c.message e.verb (path e.parts) none e.enclosed

/-- The answer if no value came back. -/
def failed : (e : Errand) → e.Answer
  | .submit _ | .delete .. => false
  | .ratingsFor _ | .userRatings _ => (none : Option (List Rating))
  | .statistics _ => (none : Option Statistics)
  | .average _ => (none : Option Float)

/-- The answer that a value is read as. -/
def read : (e : Errand) → Payload → Except Fault e.Answer
  | .submit _, body | .delete .., body => wasCarriedOut (some body)
  | .ratingsFor _, body | .userRatings _, body => (Rating.listOfPayload body).result.map some
  | .statistics isbn, body => (Statistics.ofPayload isbn body).map some
  | .average _, body => averageOf body

/-- The value that is taken for an average, which stands alone or in a record. -/
def averageIn : Payload → Payload
  | .record fields => Payload.get fields "averageRating"
  | body => body

/-- A value has the shape that an errand needs. For an average that is anything but an integer that
is beyond the reals. -/
def Fits : Errand → Payload → Prop
  | .submit _, body | .delete .., body => ∃ fields, body = .record fields
  | .ratingsFor _, body | .userRatings _, body => ∃ fields items, body = .record fields ∧
      Rating.HasItems fields items ∧ ∀ item ∈ items, ¬Rating.Sinks item
  | .statistics _, body => ∃ fields, body = .record fields ∧ Statistics.IsLegible fields
  | .average _, body => ¬(averageIn body).isBeyondReals

theorem exists_map_some_iff {α : Type} {r : Except Fault α} :
    (∃ v, r.map some = .ok v) ↔ ∃ a, r = .ok a := by
  cases r with
  | error e => exact iff_of_false nofun nofun
  | ok a => exact iff_of_true ⟨some a, rfl⟩ ⟨a, rfl⟩

theorem exists_wasCarriedOut_iff {body : Payload} :
    (∃ b, wasCarriedOut (some body) = .ok b) ↔ ∃ fields, body = .record fields := by
  cases body with
  | record fields => exact iff_of_true ⟨_, rfl⟩ ⟨fields, rfl⟩
  | _ => exact iff_of_false nofun nofun

/-- The number that a value is; none if it is anything else. -/
def figure? : Payload → Except Fault (Option Float)
  | .int i => some <$> (Payload.int i).toReal
  | .real x => .ok (some x)
  | _ => .ok none

theorem averageOf_eq (body : Payload) : averageOf body = figure? (averageIn body) := by
  cases body with
  | record fields =>
    unfold averageOf averageIn
    dsimp only
    cases Payload.get fields "averageRating" <;> rfl
  | _ => rfl

theorem exists_averageOf_iff {body : Payload} :
    (∃ x, averageOf body = .ok x) ↔ ¬(averageIn body).isBeyondReals := by
  rw [averageOf_eq]
  generalize averageIn body = value
  cases value with
  | int i =>
    refine exists_map_some_iff.trans ?_
    change (∃ x, (Binary.ofInt? i).elim (.error Fault.overflow) .ok = Except.ok x) ↔
      ¬(Binary.ofInt? i).isNone
    cases Binary.ofInt? i with
    | none => exact iff_of_false nofun fun h => h rfl
    | some x => exact iff_of_true ⟨x, rfl⟩ Bool.false_ne_true
  | real x => exact iff_of_true ⟨some x, rfl⟩ Bool.false_ne_true
  | _ => exact iff_of_true ⟨none, rfl⟩ Bool.false_ne_true

/-- A value is read if it fits. -/
theorem exists_read_iff {e : Errand} {body : Payload} :
    (∃ v, e.read body = .ok v) ↔ e.Fits body := by
  cases e with
  | submit r => exact exists_wasCarriedOut_iff
  | delete username isbn => exact exists_wasCarriedOut_iff
  | ratingsFor isbn => exact exists_map_some_iff.trans Rating.exists_listOfPayload_iff
  | userRatings username => exact exists_map_some_iff.trans Rating.exists_listOfPayload_iff
  | statistics isbn => exact exists_map_some_iff.trans Statistics.exists_ofPayload_iff
  | average isbn => exact exists_averageOf_iff

/-- What an errand whose request came out so gives: a fault stays, and no value is an answer, while
a value has to fit. -/
inductive Gives (e : Errand) : Except Fault (Option Payload) → Except Fault e.Answer → Prop
  | fault (f : Fault) : Gives e (.error f) (.error f)
  | failed : Gives e (.ok none) (.ok e.failed)
  | read {body : Payload} {answer : e.Answer} (hfits : e.Fits body)
      (hread : e.read body = .ok answer) : Gives e (.ok (some body)) (.ok answer)
  | misfit {body : Payload} {f : Fault} (hfits : ¬e.Fits body) :
      Gives e (.ok (some body)) (.error f)

theorem gives_read (e : Errand) (body : Payload) : e.Gives (.ok (some body)) (e.read body) := by
  cases hread : e.read body with
  | ok answer => exact .read (exists_read_iff.1 ⟨answer, hread⟩) hread
  | error f =>
    refine .misfit fun hfits => ?_
    obtain ⟨answer, hanswer⟩ := exists_read_iff.2 hfits
    rw [hread] at hanswer
    cases hanswer

end Errand

variable {σ : Type}

/-- Carries an errand out. -/
def carryOut (s : RatingService σ) : (e : Errand) → Action σ e.Answer
  | .submit r => s.submit r
  | .delete username isbn => s.delete username isbn
  | .ratingsFor isbn => s.ratingsFor isbn
  | .userRatings username => s.userRatings username
  | .statistics isbn => s.statistics isbn
  | .average isbn => s.average isbn

/-- A value that was asked for is decoded if it came. -/
theorem result_decoded {α : Type} (x : Action σ (Option Payload)) (decode : Payload → Outcome α)
    (st : σ) :
    ((do match ← x with
          | some body => some <$> Action.lift (decode body)
          | none => return none : Action σ (Option α)).run st).1.result =
      (x.run st).1.result >>= fun value =>
        value.elim (.ok none) fun body => (decode body).result.map some := by
  refine (Action.result_bind _ _ _).trans (bind_congr fun value => ?_)
  cases value with
  | none => rfl
  | some body =>
    dsimp only
    rw [Action.run_map]
    rfl

/-- An errand is one request, and then the reading of its value. -/
theorem result_carryOut (s : RatingService σ) (e : Errand) (st : σ) :
    ((s.carryOut e).run st).1.result =
      ((s.client.request s.transport e.verb (path e.parts) none e.enclosed).run st).1.result >>=
        fun value => value.elim (.ok e.failed) e.read := by
  cases e with
  | submit | delete | average =>
    refine (Action.result_bind _ _ _).trans (bind_congr fun value => ?_)
    cases value <;> rfl
  | ratingsFor | userRatings => exact result_decoded _ Rating.listOfPayload st
  | statistics isbn =>
    exact result_decoded _ (fun body => .ofExcept (Statistics.ofPayload isbn body)) st

/-! ## What comes of an errand -/

/-- A request fails with a try that breaks off, over a body that cannot be read, or for a number of
tries that cannot be written. -/
theorem fault_of_ends {c : Http.Client} {script : Http.Script} {n tries : ℕ} {url : String}
    {o : Outcome (Option Payload)} {f : Fault} (h : c.Ends script n url tries o)
    (hf : o.result = .error f) :
    (∃ k, c.Breaks script n k f ∧ (f = .malformed → (script.reply k).IsMissing)) ∨
      (∃ k, (script.reply k).value c.decoder = .error f) ∨
      f = .malformed ∧ ¬Number.IsShort c.maxRetries ∧ n = 0 := by
  cases h with
  | @final k =>
    refine .inr (.inl ⟨k, ?_⟩)
    dsimp only at hf
    cases hvalue : (script.reply k).value c.decoder with
    | ok value =>
      rw [hvalue] at hf
      cases hf
    | error e =>
      rw [hvalue] at hf
      exact congrArg Except.error (Except.error.inj hf)
  | exhausted | caught | unsent => cases hf
  | failed _ _ _ hbreaks hloose =>
    obtain rfl := Except.error.inj hf
    exact .inl ⟨_, hbreaks, hloose⟩
  | untold hlong hn => exact .inr (.inr ⟨(Except.error.inj hf).symm, hlong, hn⟩)

/-- What comes of an errand is told by how its request ends, and by the value, which has to fit. In
a list an item that is no rating is left out and the others are read as if it were not there, unless
one has a number out of range. -/
theorem carryOut_gives (c : Http.Client) (script : Http.Script) (e : Errand) :
    (∃ tries o, c.Ends script c.maxRetries.toNat (e.message c).url tries o ∧
      e.Gives o.result (((⟨c, script.transport⟩ : RatingService _).carryOut e).run []).1.result ∧
      ∀ f, o.result = .error f →
        (∃ k, c.Breaks script c.maxRetries.toNat k f ∧
          (f = .malformed → (script.reply k).IsMissing)) ∨
        (∃ k, (script.reply k).value c.decoder = .error f) ∨
        f = .malformed ∧ ¬Number.IsShort c.maxRetries ∧ c.maxRetries.toNat = 0) ∧
    (∀ fields items, Rating.HasItems fields items → (∀ item ∈ items, ¬Rating.Sinks item) →
      (Rating.listOfPayload (.record fields)).result = .ok (items.filterMap Rating.read?)) ∧
    (∀ fields others before item after, Rating.HasItems fields (before ++ item :: after) →
      Rating.HasItems others (before ++ after) → Rating.read? item = none → ¬Rating.Sinks item →
        (Rating.listOfPayload (.record fields)).result =
          (Rating.listOfPayload (.record others)).result) ∧
    ∀ item, Rating.Sinks item → ∃ fields, item = .record fields ∧ Rating.IsOutOfRange fields := by
  refine ⟨?_, fun _ _ hitems => (Rating.result_of_items hitems).1,
    fun _ _ _ _ _ => Rating.result_without_item, fun _ hsinks => hsinks.isOutOfRange⟩
  obtain ⟨tries, hends, -⟩ :=
    c.run_request script e.verb (path e.parts) none e.enclosed
  refine ⟨tries, _, hends, ?_, fun f => fault_of_ends hends⟩
  rw [result_carryOut]
  generalize ((c.request script.transport e.verb (path e.parts) none e.enclosed).run []).1.result =
    answered
  cases answered with
  | error f => exact .fault f
  | ok value =>
    cases value with
    | none => exact .failed
    | some body => exact e.gives_read body

/-- A rating, the same before an item with an infinite score, and a list in place of a record. -/
theorem ratingsFor_misshapen :
    let c : Http.Client := ⟨"http://localhost:8080/api", .int 10, 3, .int 1, .json⟩
    let ask (body : String) :=
      let script : Http.Script :=
        ⟨fun _ => .answered 200 body, fun _ _ => .ok (.int 0), fun _ _ => .ok ()⟩
      (((⟨c, script.transport⟩ : RatingService _).ratingsFor "1").run []).1.result
    ask "\x7b\"ratings\": [\x7b\"username\": \"ann\", \"isbn\": \"1\"\x7d]\x7d" =
        .ok (some [⟨"ann", "1", Scores.ofFn fun _ => .null, none, .null, none⟩]) ∧
      ask ("\x7b\"ratings\": [\x7b\"username\": \"ann\", \"isbn\": \"1\"\x7d, " ++
        "\x7b\"username\": \"bob\", \"isbn\": \"1\", \"style\": Infinity\x7d]\x7d") =
          .error .overflow ∧
      ask "[]" = .error .notRecord := by
  decide +kernel

end RatingService

end Bookfinder
