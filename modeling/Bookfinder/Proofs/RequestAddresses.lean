import Bookfinder.Proofs.ServiceAnswers

/-!
# Where errands go

The names of readers and books go into the path of a request as they are. A slash in a name counts
as one between the parts of the path, so a name may bring parts along that belong to another errand.
`Errand.Clash` lists the errands that go to the same place for this reason. There are no others
(`Errand.target_eq_iff`), so errands under names without a slash go to places of their own.

`RatingService.asked_alike_iff` says this of the requests that are sent.
-/

namespace Bookfinder

/-! ## Targets -/

namespace Http

/-- What a request does, and where. -/
def Request.target (r : Request) : Verb × String := (r.verb, r.url)

/-- The target of a move, if it is a request. -/
def Move.target? : Move → Option (Verb × String)
  | .request r => some r.target
  | .pause _ => none

/-- The targets of the requests in a log. -/
def targets (log : List Move) : List (Verb × String) := log.filterMap Move.target?

theorem targets_append (log more : List Move) :
    targets (log ++ more) = targets log ++ targets more :=
  List.filterMap_append

namespace Client

variable {c : Client} {s : Script} {r : Request} {n : ℕ}

/-- A try asks for its address once. -/
theorem targets_moves (i : ℕ) : targets (c.moves s r n i) = [r.target] := by
  unfold moves pauses
  split
  · cases c.wait s i <;> rfl
  · rfl

/-- Tries ask for the address as many times as there are. -/
theorem targets_trail (tries : ℕ) :
    targets (c.trail s r n tries) = List.replicate tries r.target := by
  induction tries with
  | zero => rfl
  | succ i ih => rw [trail_succ, targets_append, ih, targets_moves, List.replicate_succ']

/-- Something is asked exactly if there is a try, and the number of tries can be written. -/
theorem Ends.pos_iff {url : String} {tries : ℕ} {o : Outcome (Option Payload)}
    (h : c.Ends s n url tries o) : 0 < tries ↔ 0 < n ∧ Number.IsShort c.maxRetries := by
  cases h with
  | exhausted hshort => exact (and_iff_left hshort).symm
  | final hshort hk | caught hshort hk | failed hshort hk =>
    exact iff_of_true (Nat.succ_pos _) ⟨Nat.zero_lt_of_lt hk, hshort⟩
  | unsent hlong | untold hlong => exact iff_of_false (Nat.lt_irrefl 0) fun h => hlong h.2

end Client

end Http

namespace RatingService

open Http

/-- An errand sends what its request sends, and nothing after it. -/
theorem state_carryOut {σ : Type} (s : RatingService σ) (e : Errand) (st : σ) :
    ((s.carryOut e).run st).2 =
      ((s.client.request s.transport e.verb (path e.parts) none e.enclosed).run st).2 := by
  have hread {α : Type} (x : Action σ (Option Payload)) (k : Option Payload → Action σ α)
      (hk : ∀ value t, ((k value).run t).2 = t) : ((x >>= k).run st).2 = (x.run st).2 := by
    rw [Action.run_bind]
    cases (x.run st).1.result with
    | error f => rfl
    | ok value => exact hk value _
  cases e with
  | submit | delete => exact hread _ _ fun _ _ => rfl
  | ratingsFor | userRatings | statistics =>
    refine hread _ _ fun value t => ?_
    cases value with
    | none => rfl
    | some body => exact congrArg Prod.snd (Action.run_map some _ t)
  | average =>
    refine hread _ _ fun value t => ?_
    cases value <;> rfl

namespace Errand

/-! ## Clashes -/

/-- The names that are put into the path. -/
def names : Errand → List String
  | .submit _ => []
  | .delete username isbn => [username, isbn]
  | .userRatings username => [username]
  | .ratingsFor isbn | .statistics isbn | .average isbn => [isbn]

/-- Two errands that go to one place: what follows a slash in a name of the first one stands where
the second one has parts of its own. -/
inductive Clash : Errand → Errand → Prop
  | statistics (isbn : String) : Clash (.ratingsFor (isbn ++ "/statistics")) (.statistics isbn)
  | average (isbn : String) : Clash (.ratingsFor (isbn ++ "/average")) (.average isbn)
  | delete (username between isbn : String) :
      Clash (.delete (username ++ "/book/" ++ between) isbn)
        (.delete username (between ++ "/book/" ++ isbn))
  /-- One slash closes the part of the one errand and opens that of the other. -/
  | overlap (username isbn : String) :
      Clash (.delete (username ++ "/book") isbn) (.delete username ("book/" ++ isbn))

variable {a b : Errand}

/-- Calls clash only if a name has a slash in it. -/
theorem Clash.exists_slash (h : Clash a b) : ∃ name ∈ a.names, '/' ∈ name.toList := by
  cases h <;> simp [names]

/-- Calls go to the same address exactly if their verbs and paths are the same. -/
theorem target_message_eq_iff (c : Client) : (a.message c).target = (b.message c).target ↔
    a.verb = b.verb ∧ path a.parts = path b.parts := by
  simp [message, Client.message, Request.target, Request.url]

/-! ### Deletions -/

theorem toList_path_delete (username isbn : String) :
    (path (delete username isbn).parts).toList =
      "/ratings/user/".toList ++ (username.toList ++ ("/book/".toList ++ isbn.toList)) := by
  simp [parts, path]

/-- A text that has `/book/` at its start, and again after some more: the two are the same, or they
share a slash, or they are apart. -/
theorem split_of_book {cs rest rest' : List Char}
    (h : "/book/".toList ++ rest = cs ++ ("/book/".toList ++ rest')) :
    cs = [] ∧ rest = rest' ∨ cs = "/book".toList ∧ rest = "book/".toList ++ rest' ∨
      ∃ between, cs = "/book/".toList ++ between ∧
        rest = between ++ ("/book/".toList ++ rest') := by
  -- `/book/` overlaps with itself in its last slash only
  match cs with
  | [] => exact .inl ⟨rfl, List.append_cancel_left h⟩
  | [_] | [_, _] | [_, _, _] | [_, _, _, _] => simp at h
  | [_, _, _, _, _] =>
    cases h
    exact .inr (.inl ⟨rfl, rfl⟩)
  | _ :: _ :: _ :: _ :: _ :: _ :: between =>
    cases h
    exact .inr (.inr ⟨between, rfl, rfl⟩)

/-- Two deletions with one path, the first of which has the longer name of a reader. -/
theorem eq_or_clash_of_longer {username username' isbn isbn' : String} {cs : List Char}
    (husername : username.toList = username'.toList ++ cs)
    (h : "/book/".toList ++ isbn'.toList = cs ++ ("/book/".toList ++ isbn.toList)) :
    delete username isbn = delete username' isbn' ∨
      Clash (.delete username isbn) (.delete username' isbn') := by
  rcases split_of_book h with ⟨rfl, hisbn⟩ | ⟨rfl, hisbn⟩ | ⟨between, rfl, hisbn⟩
  · rw [List.append_nil] at husername
    exact .inl (by rw [String.toList_inj.1 husername, String.toList_inj.1 hisbn])
  · obtain rfl : username = username' ++ "/book" :=
      String.toList_inj.1 (by rw [husername, String.toList_append])
    obtain rfl : isbn' = "book/" ++ isbn :=
      String.toList_inj.1 (by rw [hisbn, String.toList_append])
    exact .inr (.overlap username' isbn)
  · obtain rfl : username = username' ++ "/book/" ++ .ofList between := String.toList_inj.1 <| by
      simp only [husername, String.toList_append, String.toList_ofList, List.append_assoc]
    obtain rfl : isbn' = .ofList between ++ "/book/" ++ isbn := String.toList_inj.1 <| by
      simp only [hisbn, String.toList_append, String.toList_ofList, List.append_assoc]
    exact .inr (.delete username' (.ofList between) isbn)

/-- Deletions with the same path are the same or clash. -/
theorem eq_or_clash_of_delete {username username' isbn isbn' : String}
    (h : path (delete username isbn).parts = path (delete username' isbn').parts) :
    delete username isbn = delete username' isbn' ∨
      Clash (.delete username isbn) (.delete username' isbn') ∨
      Clash (.delete username' isbn') (.delete username isbn) := by
  have htexts := congrArg String.toList h
  rw [toList_path_delete, toList_path_delete] at htexts
  rcases List.append_eq_append_iff.1 (List.append_cancel_left htexts) with
    ⟨cs, husername, hrest⟩ | ⟨cs, husername, hrest⟩
  · -- here the second reader has the longer name
    rcases eq_or_clash_of_longer husername hrest with heq | hclash
    · exact .inl heq.symm
    · exact .inr (.inr hclash)
  · exact (eq_or_clash_of_longer husername hrest).imp_right .inl

/-! ### Questions -/

/-- What a question about a book appends to the path of all books. -/
def place? : Errand → Option String
  | .ratingsFor isbn => some isbn
  | .statistics isbn => some (isbn ++ "/statistics")
  | .average isbn => some (isbn ++ "/average")
  | _ => none

theorem path_of_place? {place : String} (h : a.place? = some place) :
    path a.parts = "/ratings/book/" ++ place := by
  cases a <;> cases h <;> simp [parts, path, ← String.toList_inj]

theorem path_userRatings (username : String) :
    path (userRatings username).parts = "/ratings/user/" ++ username := by
  simp [parts, path, ← String.toList_inj]

/-- What is asked of a user is asked of no book. -/
theorem path_userRatings_ne {username place : String} (h : a.place? = some place) :
    path (userRatings username).parts ≠ path a.parts := by
  rw [path_userRatings, path_of_place? h]
  simp [← String.toList_inj]

theorem place?_of_get (h : a.verb = .get) :
    (∃ username, a = .userRatings username) ∨ ∃ place, a.place? = some place := by
  cases a with
  | submit | delete => cases h
  | userRatings username => exact .inl ⟨username, rfl⟩
  | ratingsFor | statistics | average => exact .inr ⟨_, rfl⟩

/-- Statistics and averages have different paths. -/
theorem statistics_ne_average (isbn isbn' : String) :
    isbn ++ "/statistics" ≠ isbn' ++ "/average" := by
  intro h
  have hlast := congrArg (fun text => text.toList.getLast?) h
  simp at hlast

/-- Two calls about books with the same path are the same or clash. -/
theorem eq_or_clash_of_place? {place : String} (ha : a.place? = some place)
    (hb : b.place? = some place) : a = b ∨ Clash a b ∨ Clash b a := by
  cases a with
  | submit | delete | userRatings => cases ha
  | ratingsFor isbn =>
    cases ha
    cases b with
    | submit | delete | userRatings => cases hb
    | ratingsFor => exact .inl (by cases hb; rfl)
    | statistics isbn' => exact .inr (.inl (by cases hb; exact .statistics isbn'))
    | average isbn' => exact .inr (.inl (by cases hb; exact .average isbn'))
  | statistics isbn =>
    cases ha
    cases b with
    | submit | delete | userRatings => cases hb
    | ratingsFor => exact .inr (.inr (by cases hb; exact .statistics isbn))
    | statistics isbn' => exact .inl (by rw [(String.append_left_inj _).1 (Option.some.inj hb)])
    | average isbn' => exact absurd (Option.some.inj hb).symm (statistics_ne_average isbn isbn')
  | average isbn =>
    cases ha
    cases b with
    | submit | delete | userRatings => cases hb
    | ratingsFor => exact .inr (.inr (by cases hb; exact .average isbn))
    | statistics isbn' => exact absurd (Option.some.inj hb) (statistics_ne_average isbn' isbn)
    | average isbn' => exact .inl (by rw [(String.append_left_inj _).1 (Option.some.inj hb)])

/-! ### All errands -/

theorem Clash.verb_eq (h : Clash a b) : a.verb = b.verb := by
  cases h <;> rfl

/-- Calls that clash have the same path. -/
theorem Clash.path_eq (h : Clash a b) : path a.parts = path b.parts := by
  cases h <;> simp [parts, path, ← String.toList_inj]

/-- Calls with the same verb and path are the same or clash. -/
theorem eq_or_clash_of_path (ha : a.names ≠ []) (hverb : a.verb = b.verb)
    (hpath : path a.parts = path b.parts) : a = b ∨ Clash a b ∨ Clash b a := by
  cases hget : a.verb with
  | post =>
    cases a with
    | submit => exact absurd rfl ha
    | _ => cases hget
  | delete =>
    rw [hget] at hverb
    cases a with
    | delete =>
      cases b with
      | delete => exact eq_or_clash_of_delete hpath
      | _ => cases hverb
    | _ => cases hget
  | get =>
    rcases place?_of_get hget, place?_of_get (hverb ▸ hget) with
      ⟨⟨username, rfl⟩ | ⟨place, hplace⟩, ⟨username', rfl⟩ | ⟨place', hplace'⟩⟩
    · rw [path_userRatings, path_userRatings] at hpath
      exact .inl (by rw [(String.append_right_inj _).1 hpath])
    · exact absurd hpath (path_userRatings_ne hplace')
    · exact absurd hpath.symm (path_userRatings_ne hplace)
    · rw [path_of_place? hplace, path_of_place? hplace'] at hpath
      obtain rfl := (String.append_right_inj _).1 hpath
      exact eq_or_clash_of_place? hplace hplace'

/-- Errands with one target are one errand, or they clash. -/
theorem target_eq_iff (c : Client) (ha : a.names ≠ []) :
    (a.message c).target = (b.message c).target ↔ a = b ∨ Clash a b ∨ Clash b a := by
  rw [target_message_eq_iff]
  constructor
  · exact fun ⟨hverb, hpath⟩ => eq_or_clash_of_path ha hverb hpath
  · rintro (rfl | h | h)
    · exact ⟨rfl, rfl⟩
    · exact ⟨h.verb_eq, h.path_eq⟩
    · exact ⟨h.verb_eq.symm, h.path_eq.symm⟩

end Errand

/-! ## Requests that are sent -/

/-- The targets of the requests that are sent for an errand. -/
def asked (c : Client) (script : Script) (e : Errand) : List (Verb × String) :=
  targets (((⟨c, script.transport⟩ : RatingService _).carryOut e).run []).2

/-- All requests of an errand have one target, and there is one if the client tries at all. -/
theorem asked_eq (c : Client) (script : Script) (e : Errand) :
    ∃ tries, asked c script e = List.replicate tries (e.message c).target ∧
      (0 < tries ↔ 0 < c.maxRetries ∧ Number.IsShort c.maxRetries) := by
  obtain ⟨tries, hends, hlog⟩ := c.run_request script e.verb (path e.parts) none e.enclosed
  refine ⟨tries, ?_, hends.pos_iff.trans (and_congr_left fun _ => Int.lt_toNat)⟩
  rw [asked, state_carryOut, hlog]
  exact Client.targets_trail tries

theorem eq_of_mem_asked {c : Client} {script : Script} {e : Errand} {t : Verb × String}
    (h : t ∈ asked c script e) : t = (e.message c).target := by
  obtain ⟨tries, heq, -⟩ := asked_eq c script e
  rw [heq] at h
  exact List.eq_of_mem_replicate h

/-- Two errands under some names, whatever is replied to them. A client that tries at all sends
requests, if it can write how many times it tries; and one of the first errand and one of the second
have the same verb and address exactly if the errands are the same or clash. Under names without a
slash different errands do not meet. -/
theorem asked_alike_iff (c : Client) (script script' : Script) (a b : Errand)
    (ha : a.names ≠ []) :
    (asked c script a ≠ [] ↔ 0 < c.maxRetries ∧ Number.IsShort c.maxRetries) ∧
      (∀ t ∈ asked c script a, ∀ t' ∈ asked c script' b,
        t = t' ↔ a = b ∨ a.Clash b ∨ b.Clash a) ∧
      ((∀ name ∈ a.names ++ b.names, '/' ∉ name.toList) → a ≠ b →
        (asked c script a).Disjoint (asked c script' b)) := by
  have halike : ∀ t ∈ asked c script a, ∀ t' ∈ asked c script' b,
      t = t' ↔ a = b ∨ a.Clash b ∨ b.Clash a := by
    intro t ht t' ht'
    rw [eq_of_mem_asked ht, eq_of_mem_asked ht']
    exact Errand.target_eq_iff c ha
  refine ⟨?_, halike, ?_⟩
  · obtain ⟨tries, heq, htries⟩ := asked_eq c script a
    rw [heq, Ne, List.replicate_eq_nil_iff]
    exact Nat.pos_iff_ne_zero.symm.trans htries
  · intro hslash hne t ht ht'
    rcases (halike t ht t ht').1 rfl with heq | hclash | hclash
    · exact hne heq
    · obtain ⟨name, hname, hmem⟩ := hclash.exists_slash
      exact hslash name (List.mem_append_left _ hname) hmem
    · obtain ⟨name, hname, hmem⟩ := hclash.exists_slash
      exact hslash name (List.mem_append_right _ hname) hmem

/-- Two readers who have rated one book, and a service that answers every time. -/
theorem asked_alike_iff_readers :
    let c : Client := ⟨"http://localhost:8080/api", .int 10, 3, .int 1, .json⟩
    let script : Script :=
      ⟨fun _ => .answered 200 "", fun _ _ => .ok (.int 0), fun _ _ => .ok ()⟩
    asked c script (.delete "ann" "978") ≠ [] ∧
      (asked c script (.delete "ann" "978")).Disjoint (asked c script (.delete "bob" "978")) := by
  intro c script
  obtain ⟨hsent, -, hapart⟩ := asked_alike_iff c script script (.delete "ann" "978")
    (.delete "bob" "978") (by decide)
  exact ⟨hsent.2 (by decide), hapart (by decide) (by simp)⟩

/-- The ratings of a book and the figures of another one, and the ratings of two readers for two
books. -/
theorem asked_under_other_names :
    let c : Client := ⟨"http://localhost:8080/api", .int 10, 3, .int 1, .json⟩
    let script : Script :=
      ⟨fun _ => .answered 200 "", fun _ _ => .ok (.int 0), fun _ _ => .ok ()⟩
    (Errand.ratingsFor "978/statistics" ≠ .statistics "978" ∧
      asked c script (.ratingsFor "978/statistics") =
        [(.get, "http://localhost:8080/api/ratings/book/978/statistics")] ∧
      asked c script (.statistics "978") =
        [(.get, "http://localhost:8080/api/ratings/book/978/statistics")]) ∧
    Errand.delete "ann" "1/book/2" ≠ .delete "ann/book/1" "2" ∧
      asked c script (.delete "ann" "1/book/2") =
        [(.delete, "http://localhost:8080/api/ratings/user/ann/book/1/book/2")] ∧
      asked c script (.delete "ann/book/1" "2") =
        [(.delete, "http://localhost:8080/api/ratings/user/ann/book/1/book/2")] := by
  refine ⟨⟨nofun, ?_⟩, by simp, ?_⟩
  · decide +kernel
  · decide +kernel

end RatingService

end Bookfinder
