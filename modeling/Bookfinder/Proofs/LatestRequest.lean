import Bookfinder.Proofs.Traffic
import Mathlib.Data.List.TakeWhile

/-!
# The latest request of a section wins

Requests that share a section may end in any order. A list is taken exactly if nothing came in
between: no other request began in the section, and the session was not reset, from the start of
the request to its write (`meanwhile`). So the requests whose lists are taken follow each other in
the order in which they began, and a section shows what its last request answered.

The invariant is `Traffic.Sound`. A token is the last one of its section as long as nothing came
in between (`Traffic.Pending`), and what a write came to is known from the history
(`Traffic.Written`).
-/

namespace Bookfinder

/-! ## Histories -/

namespace Event

/-- The start of request `i`. -/
def isStartOf (i : Nat) : Event → Bool
  | .began j _ => j == i
  | _ => false

/-- The write of request `i`. -/
def isEndOf (i : Nat) : Event → Bool
  | .wrote j .. => j == i
  | _ => false

/-- An event that takes the section from the requests that are under way. -/
def disturbs (name : String) : Event → Bool
  | .began _ other => other == name
  | .wrote .. => false
  | .cleared => true

/-- The request that began. -/
def begun? : Event → Option Nat
  | .began i _ => some i
  | _ => none

/-- The request whose list a section took. -/
def storedIn? (name : String) : Event → Option Nat
  | .wrote i other true => if other = name then some i else none
  | _ => none

/-- The write of a request disturbs no section. -/
theorem disturbs_of_isEndOf {i : Nat} {e : Event} (h : e.isEndOf i) (name : String) :
    e.disturbs name = false := by
  cases e <;> simp_all [isEndOf, disturbs]

end Event

/-- A move that takes the section from the requests that are under way. -/
def Move.disturbs (name : String) : Move → Bool
  | .begin job => job.sectionName? == some name
  | .proceed _ => false
  | .reset => true

/-- The requests that began, in order. -/
def begun (h : List Event) : List Nat := h.filterMap Event.begun?

/-- The requests whose lists a section took, in order. -/
def storedIn (name : String) (h : List Event) : List Nat := h.filterMap (Event.storedIn? name)

/-- What happened after the start of request `i`. -/
def since (i : Nat) (h : List Event) : List Event := (h.dropWhile (!·.isStartOf i)).tail

/-- What happened between the start of request `i` and its write. -/
def meanwhile (i : Nat) (h : List Event) : List Event := (since i h).takeWhile (!·.isEndOf i)

/-- Whether request `i` lost its section `name` before its write. -/
def disturbed (i : Nat) (name : String) (h : List Event) : Bool :=
  (meanwhile i h).any (·.disturbs name)

section History

variable {i : Nat} {h : List Event} {name : String}

/-- What comes later is added to what happened since the start of a request. -/
theorem since_append {s : Event} (hs : s ∈ h) (hi : s.isStartOf i) (l : List Event) :
    since i (h ++ l) = since i h ++ l := by
  have hne : h.dropWhile (!·.isStartOf i) ≠ [] := by
    rw [Ne, List.dropWhile_eq_nil_iff]
    intro hall
    simpa [hi] using hall s hs
  rw [since, since, List.dropWhile_append, if_neg (by simpa using hne),
    List.tail_append_of_ne_nil hne]

/-- Nothing has happened yet after the start of a request that is new. -/
theorem disturbed_begin (hn : i ∉ begun h) (name other : String) :
    disturbed i other (h ++ [.began i name]) = false := by
  have hall : ∀ e ∈ h, (!e.isStartOf i) = true := by
    intro e he
    cases e with
    | began j n =>
      have : j ≠ i := fun hj => hn (List.mem_filterMap.2 ⟨_, he, by simp [Event.begun?, hj]⟩)
      simpa [Event.isStartOf] using this
    | wrote => rfl
    | cleared => rfl
  have hd : h.dropWhile (!·.isStartOf i) = [] := List.dropWhile_eq_nil_iff.2 hall
  rw [disturbed, meanwhile, since, List.dropWhile_append, if_pos (by simp [hd])]
  simp [Event.isStartOf]

/-- A request that has not written is disturbed by what comes next as by what came before. -/
theorem disturbed_append {s : Event} (hs : s ∈ h) (hi : s.isStartOf i)
    (hopen : ∀ e ∈ h, e.isEndOf i = false) (e : Event) :
    disturbed i name (h ++ [e]) = (disturbed i name h || e.disturbs name) := by
  have hsub : ∀ e ∈ since i h, (!e.isEndOf i) = true := by
    intro e he
    have : e ∈ h := (List.dropWhile_sublist _).subset ((List.tail_sublist _).subset he)
    simp [hopen e this]
  rw [disturbed, disturbed, meanwhile, meanwhile, since_append hs hi,
    List.takeWhile_append_of_pos hsub, List.takeWhile_eq_self_iff.2 hsub, List.any_append]
  congr 1
  cases hend : e.isEndOf i with
  | true => simp [hend, Event.disturbs_of_isEndOf hend name]
  | false => simp [hend]

/-- What comes after the write of a request does not count. -/
theorem disturbed_append_of_ended {s t : Event} (hs : s ∈ h) (hi : s.isStartOf i)
    (ht : t ∈ since i h) (hend : t.isEndOf i) (l : List Event) :
    disturbed i name (h ++ l) = disturbed i name h := by
  have hlen : ((since i h).takeWhile (!·.isEndOf i)).length ≠ (since i h).length := by
    intro heq
    have hself := (List.takeWhile_prefix fun e => !Event.isEndOf i e).eq_of_length heq
    simpa [hend] using List.takeWhile_eq_self_iff.1 hself t ht
  rw [disturbed, disturbed, meanwhile, meanwhile, since_append hs hi, List.takeWhile_append,
    if_neg hlen]

end History

/-! ## The invariant -/

namespace Traffic

variable {σ : Type}

/-- What is known of a request that is under way. -/
structure Pending (w : Traffic σ) (i : Nat) (t : Task) : Prop where
  section_eq : w.section? i = some t.sectionName
  token_le : t.token ≤ w.navigation.issued
  began : .began i t.sectionName ∈ w.history
  unwritten : ∀ e ∈ w.history, e.isEndOf i = false
  /-- Its token is the last one of its section as long as nothing came in between. -/
  current : w.navigation.isCurrent t.sectionName t.token = !disturbed i t.sectionName w.history
  /-- If so, all lists that its section took are older. -/
  newest : w.navigation.isCurrent t.sectionName t.token →
    ∀ j ∈ storedIn t.sectionName w.history, j < i

/-- What is known of a request that has written. -/
structure Written (w : Traffic σ) (i : Nat) (name : String) (stored : Bool) : Prop where
  result : ∃ a, w.result? i = some (.ok a) ∧ ∀ r, a = .result r → r.isStale = !stored
  section_eq : w.section? i = some name
  began : .began i name ∈ w.history
  ended : ∃ e ∈ since i w.history, e.isEndOf i
  stored_eq : stored = !disturbed i name w.history

/-- What holds after any moves. -/
structure Sound (w : Traffic σ) : Prop where
  begun_lt : ∀ i ∈ begun w.history, i < w.tickets.length
  begun_sorted : (begun w.history).Pairwise (· < ·)
  pending : ∀ {i t}, w.Underway i t → w.Pending i t
  token_inj : ∀ {i j t u}, w.Underway i t → w.Underway j u → t.token = u.token → i = j
  written : ∀ {i name stored}, .wrote i name stored ∈ w.history → w.Written i name stored
  completed : ∀ {i a}, w.result? i = some (.ok a) → ∃ name stored, .wrote i name stored ∈ w.history
  stored_sorted : ∀ name, (storedIn name w.history).Pairwise (· < ·)

theorem sound_start (s : Session σ) : (start s).Sound where
  begun_lt := by simp [start, begun]
  begun_sorted := by simp [start, begun]
  pending := by simp [Underway, start]
  token_inj := by simp [Underway, start]
  written := by simp [start]
  completed := by simp [result?, start]
  stored_sorted := by simp [start, storedIn]

/-! ### One more event -/

/-- A request under way stays so through an event that is not its own. -/
theorem Pending.append {w w' : Traffic σ} {i : Nat} {t : Task} {o : Option Event}
    (h : w.Pending i t) (hh : w'.history = w.history ++ o.toList)
    (hs : w'.section? i = w.section? i) (hi : w.navigation.issued ≤ w'.navigation.issued)
    (he : ∀ e ∈ o, e.isEndOf i = false)
    (hc : w'.navigation.isCurrent t.sectionName t.token =
      (w.navigation.isCurrent t.sectionName t.token && !o.any (·.disturbs t.sectionName)))
    (hn : w'.navigation.isCurrent t.sectionName t.token →
      ∀ e ∈ o, e.storedIn? t.sectionName = none) :
    w'.Pending i t where
  section_eq := hs.trans h.section_eq
  token_le := Int.le_trans h.token_le hi
  began := by simp [hh, h.began]
  unwritten := by
    intro e hmem
    rw [hh, List.mem_append, Option.mem_toList] at hmem
    exact hmem.elim (h.unwritten e) (he e)
  current := by
    rw [hc, h.current, hh]
    cases o with
    | none => simp
    | some e =>
      rw [Option.toList_some, disturbed_append h.began (by simp [Event.isStartOf]) h.unwritten]
      cases disturbed i t.sectionName w.history <;> simp
  newest := by
    intro hcur j hj
    have hold : w.navigation.isCurrent t.sectionName t.token := by
      rw [hc, Bool.and_eq_true] at hcur
      exact hcur.1
    rw [hh, storedIn, List.filterMap_append, List.mem_append] at hj
    rcases hj with hj | hj
    · exact h.newest hold j hj
    · obtain ⟨e, hmem, he⟩ := List.mem_filterMap.1 hj
      rw [hn hcur e (Option.mem_toList.1 hmem)] at he
      exact absurd he nofun

/-- What a request wrote stays as it is. -/
theorem Written.append {w w' : Traffic σ} {i : Nat} {name : String} {stored : Bool}
    {l : List Event} (h : w.Written i name stored) (hh : w'.history = w.history ++ l)
    (hs : w'.section? i = w.section? i) (hr : w'.result? i = w.result? i) :
    w'.Written i name stored where
  result := hr ▸ h.result
  section_eq := hs.trans h.section_eq
  began := by simp [hh, h.began]
  ended := by
    obtain ⟨e, he, hend⟩ := h.ended
    refine ⟨e, ?_, hend⟩
    rw [hh, since_append h.began (by simp [Event.isStartOf])]
    exact List.mem_append_left _ he
  stored_eq := by
    obtain ⟨e, he, hend⟩ := h.ended
    rw [hh, disturbed_append_of_ended h.began (by simp [Event.isStartOf]) he hend]
    exact h.stored_eq

/-! ### A request begins -/

/-- A request that is under way stays so when another one begins. -/
theorem Pending.begin {w : Traffic σ} {i : Nat} {t : Task} (h : w.Pending i t) (job : Job)
    (hi : i < w.tickets.length) : (w.begin job).Pending i t := by
  refine h.append rfl (section?_begin job hi) (issued_le_begin w job) ?_ ?_ ?_
  · intro e he
    obtain ⟨name, -, rfl⟩ := Option.map_eq_some_iff.1 he
    rfl
  · rw [isCurrent_begin_job w job h.token_le, Option.any_map]
    rfl
  · intro _ e he
    obtain ⟨name, -, rfl⟩ := Option.map_eq_some_iff.1 he
    rfl

/-- A new request for a section is the last one that began. -/
theorem begun_begin (w : Traffic σ) (job : Job) :
    begun (w.begin job).history =
      begun w.history ++ (job.sectionName?.map fun _ => w.tickets.length).toList := by
  simp only [begin, begun, List.filterMap_append]
  cases job.sectionName? <;> rfl

/-- The start of a request stores nothing. -/
theorem storedIn_begin (w : Traffic σ) (job : Job) (name : String) :
    storedIn name (w.begin job).history = storedIn name w.history := by
  simp only [begin, storedIn, List.filterMap_append]
  cases job.sectionName? <;> simp [Event.storedIn?]

theorem wrote_mem_begin {w : Traffic σ} {job : Job} {i : Nat} {name : String} {stored : Bool} :
    .wrote i name stored ∈ (w.begin job).history ↔ .wrote i name stored ∈ w.history := by
  simp only [begin, List.mem_append, Option.mem_toList]
  cases job.sectionName? <;> simp

/-- Only requests that have begun write. -/
theorem Sound.wrote_lt {w : Traffic σ} (h : w.Sound) {i : Nat} {name : String} {stored : Bool}
    (hm : .wrote i name stored ∈ w.history) : i < w.tickets.length := by
  obtain ⟨a, ha, -⟩ := (h.written hm).result
  exact lt_of_result? ha

/-- A request whose list a section took has written it. -/
theorem wrote_of_mem_storedIn {name : String} {l : List Event} {j : Nat}
    (h : j ∈ storedIn name l) : .wrote j name true ∈ l := by
  obtain ⟨e, he, hej⟩ := List.mem_filterMap.1 h
  cases e with
  | wrote k other stored =>
    cases stored with
    | true =>
      simp only [Event.storedIn?, Option.ite_none_right_eq_some, Option.some.injEq] at hej
      obtain ⟨rfl, rfl⟩ := hej
      exact he
    | false => exact absurd hej nofun
  | began => exact absurd hej nofun
  | cleared => exact absurd hej nofun

/-- The new request is under way with nothing in between. -/
theorem Sound.pending_new {w : Traffic σ} (h : w.Sound) {job : Job} {t : Task}
    (ht : (Stage.ofResult (job.start.run w.session).1.result).task? = some t) :
    (w.begin job).Pending w.tickets.length t := by
  obtain ⟨hsec, htok⟩ := task?_begin ht
  have hfresh : w.tickets.length ∉ begun w.history := fun hm =>
    Nat.lt_irrefl _ (h.begun_lt _ hm)
  have hhist : (w.begin job).history = w.history ++ [.began w.tickets.length t.sectionName] := by
    simp [begin, hsec]
  have hnav : (w.begin job).navigation = (w.navigation.begin t.sectionName).2 := by
    rw [navigation_begin, hsec]
  constructor
  case section_eq =>
    rw [section?, getElem?_begin, if_pos rfl]
    exact hsec
  case token_le =>
    rw [hnav, htok]
    exact Int.le_refl _
  case began => simp [hhist]
  case unwritten =>
    intro e he
    cases e with
    | wrote j name stored =>
      have hj := h.wrote_lt (wrote_mem_begin.1 he)
      simpa [Event.isEndOf] using Nat.ne_of_lt hj
    | began => rfl
    | cleared => rfl
  case current =>
    rw [hnav, Navigation.isCurrent_begin, if_pos rfl, hhist, disturbed_begin hfresh]
    simp [htok]
  case newest =>
    intro _ j hj
    rw [storedIn_begin] at hj
    exact h.wrote_lt (wrote_of_mem_storedIn hj)

/-- What holds after any moves still does when a request begins. -/
theorem Sound.begin {w : Traffic σ} (h : w.Sound) (job : Job) : (w.begin job).Sound := by
  have hlen : (w.begin job).tickets.length = w.tickets.length + 1 := by simp [Traffic.begin]
  constructor
  case begun_lt =>
    intro i hi
    rw [begun_begin, List.mem_append, Option.mem_toList] at hi
    rcases hi with hi | hi
    · exact hlen ▸ Nat.lt_succ_of_lt (h.begun_lt i hi)
    · obtain ⟨_, -, rfl⟩ := Option.map_eq_some_iff.1 hi
      exact hlen ▸ Nat.lt_succ_self _
  case begun_sorted =>
    rw [begun_begin, List.pairwise_append]
    refine ⟨h.begun_sorted, ?_, ?_⟩
    · cases job.sectionName? <;> simp
    · intro i hi j hj
      obtain ⟨_, -, rfl⟩ := Option.map_eq_some_iff.1 (Option.mem_toList.1 hj)
      exact h.begun_lt i hi
  case pending =>
    intro i t hu
    rcases underway_begin hu with hold | ⟨rfl, ht⟩
    · exact (h.pending hold).begin job (lt_of_underway hold)
    · exact h.pending_new ht
  case token_inj =>
    intro i j t u hi hj htok
    rcases underway_begin hi with hi | ⟨rfl, ht⟩ <;> rcases underway_begin hj with hj | ⟨rfl, hu⟩
    · exact h.token_inj hi hj htok
    · have hle := (h.pending hi).token_le
      rw [htok, (task?_begin hu).2] at hle
      exact absurd hle (Int.not_le.2 (Int.lt_succ _))
    · have hle := (h.pending hj).token_le
      rw [← htok, (task?_begin ht).2] at hle
      exact absurd hle (Int.not_le.2 (Int.lt_succ _))
    · rfl
  case written =>
    intro i name stored hm
    have hold := wrote_mem_begin.1 hm
    have hi := h.wrote_lt hold
    exact (h.written hold).append rfl (section?_begin job hi) (result?_begin job hi)
  case completed =>
    intro i a ha
    have hi : i < w.tickets.length := by
      have hlt := hlen ▸ lt_of_result? ha
      have hne : i ≠ w.tickets.length := fun he => result?_begin_self (he ▸ ha)
      omega
    obtain ⟨name, stored, hm⟩ := h.completed (result?_begin job hi ▸ ha)
    exact ⟨name, stored, wrote_mem_begin.2 hm⟩
  case stored_sorted =>
    intro name
    rw [storedIn_begin]
    exact h.stored_sorted name

/-! ### A session is reset -/

/-- It does after a reset. -/
theorem Sound.reset {w : Traffic σ} (h : w.Sound) : w.reset.Sound := by
  have hstored : ∀ name, storedIn name w.reset.history = storedIn name w.history := by
    simp [Traffic.reset, storedIn, Event.storedIn?]
  have hbegun : begun w.reset.history = begun w.history := by
    simp [Traffic.reset, begun, Event.begun?]
  constructor
  case begun_lt => exact hbegun ▸ h.begun_lt
  case begun_sorted => exact hbegun ▸ h.begun_sorted
  case pending =>
    intro i t hu
    refine (h.pending hu).append (o := some .cleared) rfl rfl (Int.le_refl _) ?_ ?_ ?_
    · rintro _ ⟨⟩
      rfl
    · simp [Event.disturbs, Navigation.isCurrent, navigation, Traffic.reset, Session.reset,
        Navigation.clear, Association.find?]
    · rintro _ _ ⟨⟩
      rfl
  case token_inj => exact fun hi hj => h.token_inj hi hj
  case written =>
    intro i name stored hm
    have hold : .wrote i name stored ∈ w.history := by
      simpa [Traffic.reset] using hm
    exact (h.written hold).append (l := [.cleared]) rfl rfl rfl
  case completed =>
    intro i a ha
    obtain ⟨name, stored, hm⟩ := h.completed ha
    exact ⟨name, stored, List.mem_append_left _ hm⟩
  case stored_sorted => exact fun name => (hstored name) ▸ h.stored_sorted name

/-! ### A request proceeds -/

section Proceed

variable (services : Services σ) {w : Traffic σ} {i : Nat} {k : Ticket} {t : Task} {found : Found}
  {job : Job}

/-- The step of a request that does not write. -/
theorem Sound.proceed_of_task (h : w.Sound) (hk : w.tickets[i]? = some k)
    (ht : k.stage.task? = some t) (hw : ∀ found, k.stage ≠ .recording t found) :
    (w.proceed services i).Sound := by
  have hhist := history_of_task services hk ht hw
  have hnav := navigation_of_task services hk ht hw
  constructor
  case begun_lt =>
    rw [hhist, length_proceed]
    exact h.begun_lt
  case begun_sorted => exact hhist ▸ h.begun_sorted
  case pending =>
    intro j u hu
    refine (h.pending (underway_of_task services hk ht hw hu)).append (o := none)
      (by simp [hhist]) (section?_proceed services hk j) (hnav ▸ Int.le_refl _) nofun
      (by simp [hnav]) fun _ => nofun
  case token_inj =>
    exact fun hi hj =>
      h.token_inj (underway_of_task services hk ht hw hi) (underway_of_task services hk ht hw hj)
  case written =>
    intro j name stored hm
    rw [hhist] at hm
    have hold := h.written hm
    have hij : i ≠ j := by
      rintro rfl
      obtain ⟨a, ha, -⟩ := hold.result
      rw [result?, hk, Option.bind_some, Stage.result?_eq_none ht] at ha
      cases ha
    exact hold.append (l := []) (by simp [hhist]) (section?_proceed services hk j)
      (result?_proceed_ne services hk hij)
  case completed =>
    intro j a ha
    rw [hhist]
    exact h.completed ((result?_of_task services hk ht hw).1 ha)
  case stored_sorted => exact hhist ▸ h.stored_sorted

/-- A list that was refused is in no section, and one that was taken in no other. -/
theorem storedIn?_eq_none {i : Nat} {name other : String} {stored : Bool}
    (h : stored → name ≠ other) : (Event.wrote i name stored).storedIn? other = none := by
  cases stored with
  | true => simpa [Event.storedIn?] using h rfl
  | false => rfl

/-- A request that records has then written, and the section took its list if its token is current.
-/
theorem Pending.written (h : w.Pending i t) (hk : w.tickets[i]? = some ⟨job, .recording t found⟩) :
    (w.proceed services i).Written i t.sectionName
      (w.navigation.isCurrent t.sectionName t.token) := by
  have hb : (Event.began i t.sectionName).isStartOf i := by simp [Event.isStartOf]
  constructor
  case result => exact ⟨_, result?_recording services hk, fun r hr => Task.isStale_of_answer hr⟩
  case section_eq => exact (section?_proceed services hk i).trans h.section_eq
  case began =>
    rw [history_recording services hk]
    exact List.mem_append_left _ h.began
  case ended =>
    rw [history_recording services hk, since_append h.began hb]
    exact ⟨_, List.mem_append_right _ (List.mem_singleton_self _), by simp [Event.isEndOf]⟩
  case stored_eq =>
    rw [history_recording services hk, disturbed_append h.began hb h.unwritten, h.current]
    simp [Event.disturbs]

/-- What holds after any moves still does when a request writes. -/
theorem Sound.proceed_of_recording (h : w.Sound)
    (hk : w.tickets[i]? = some ⟨job, .recording t found⟩) : (w.proceed services i).Sound := by
  have hunder : w.Underway i t := ⟨_, hk, rfl⟩
  have hhist := history_recording services hk
  have hbegun : begun (w.proceed services i).history = begun w.history := by
    simp [hhist, begun, Event.begun?]
  constructor
  case begun_lt =>
    rw [hbegun, length_proceed]
    exact h.begun_lt
  case begun_sorted => exact hbegun ▸ h.begun_sorted
  case pending =>
    intro j u hu
    obtain ⟨hij, hu⟩ := underway_recording services hk hu
    refine (h.pending hu).append (o := some _) hhist (section?_proceed services hk j) ?_ ?_ ?_ ?_
    · have hissued : (w.proceed services i).navigation.issued = w.navigation.issued := by
        rw [navigation_recording services hk, Navigation.issued_put]
      exact Int.le_of_eq hissued.symm
    · rintro _ ⟨⟩
      simpa [Event.isEndOf] using hij
    · rw [isCurrent_recording services hk]
      simp [Event.disturbs]
    · rintro hcur _ ⟨⟩
      rw [isCurrent_recording services hk] at hcur
      refine storedIn?_eq_none fun hs heq => ?_
      rw [← heq] at hcur
      exact hij (h.token_inj hunder hu (Navigation.eq_of_isCurrent hs hcur))
  case token_inj =>
    exact fun hi hj =>
      h.token_inj (underway_recording services hk hi).2 (underway_recording services hk hj).2
  case written =>
    intro j name stored hm
    rw [hhist, List.mem_append, List.mem_singleton] at hm
    rcases hm with hm | hm
    · have hold := h.written hm
      have hij : i ≠ j := by
        rintro rfl
        obtain ⟨a, ha, -⟩ := hold.result
        rw [result?, hk] at ha
        cases ha
      exact hold.append hhist (section?_proceed services hk j)
        (result?_proceed_ne services hk hij)
    · obtain ⟨rfl, rfl, rfl⟩ := Event.wrote.inj hm
      exact (h.pending hunder).written services hk
  case completed =>
    intro j a ha
    rw [hhist]
    by_cases hij : i = j
    · subst hij
      exact ⟨_, _, List.mem_append_right _ (List.mem_singleton_self _)⟩
    · rw [result?_proceed_ne services hk hij] at ha
      obtain ⟨name, stored, hm⟩ := h.completed ha
      exact ⟨name, stored, List.mem_append_left _ hm⟩
  case stored_sorted =>
    intro name
    rw [hhist, storedIn, List.filterMap_append, List.pairwise_append]
    refine ⟨h.stored_sorted name, ?_, fun m hm j hj => ?_⟩
    · rw [List.filterMap_cons]
      split
      · exact List.Pairwise.nil
      · exact List.pairwise_singleton _ _
    · have hj := List.mem_singleton.1 (wrote_of_mem_storedIn hj)
      obtain ⟨rfl, rfl, hs⟩ := Event.wrote.inj hj
      exact (h.pending hunder).newest hs.symm m hm

/-- It does after any step of a request. -/
theorem Sound.proceed (h : w.Sound) (i : Nat) : (w.proceed services i).Sound :=
  proceed_induction services w i h (h.proceed_of_task services) (h.proceed_of_recording services)

end Proceed

/-! ### Any moves -/

/-- It does after any move. -/
theorem Sound.step (services : Services σ) {w : Traffic σ} (h : w.Sound) (m : Move) :
    (w.step services m).Sound := by
  cases m with
  | begin job => exact h.begin job
  | proceed i => exact h.proceed services i
  | reset => exact h.reset

/-- It holds after any moves from the start. -/
theorem sound_run (services : Services σ) (s : Session σ) (moves : List Move) :
    ((start s).run services moves).Sound :=
  run_induction services (sound_start s) fun _ h m _ => h.step services m

/-! ## What a section shows -/

/-- Request `i` is the last one that began in the section `name`, which showed `before` then. -/
structure Latest (w : Traffic σ) (i : Nat) (name : String) (token : Token)
    (before : Option (List Book)) : Prop where
  lt : i < w.tickets.length
  current : w.navigation.isCurrent name token
  /-- Of the requests under way, it alone can write to the section. -/
  only : ∀ {j t}, w.Underway j t → ((t.sectionName = name ∧ t.token = token) ↔ j = i)
  shown_eq : w.shown name = (w.books? i).or before

theorem books?_congr {w w' : Traffic σ} {i : Nat}
    (h : ∀ a, w'.result? i = some (.ok a) ↔ w.result? i = some (.ok a)) :
    w'.books? i = w.books? i := by
  refine Option.ext fun books => ?_
  simp only [books?_eq_some_iff, h]

/-- A request that has just begun is the latest of its section. -/
theorem Sound.latest {w : Traffic σ} (h : w.Sound) {job : Job} {name : String}
    (hname : job.sectionName? = some name) :
    (w.begin job).Latest w.tickets.length name (w.navigation.issued + 1) (w.shown name) := by
  have hnav : (w.begin job).navigation = (w.navigation.begin name).2 := by
    rw [navigation_begin, hname]
  constructor
  case lt => simp [Traffic.begin]
  case current =>
    rw [hnav, Navigation.isCurrent_begin, if_pos rfl]
    simp
  case only =>
    intro j t hu
    rcases underway_begin hu with hold | ⟨rfl, ht⟩
    · have hle := (h.pending hold).token_le
      have hlt := lt_of_underway hold
      refine iff_of_false ?_ (Nat.ne_of_lt hlt)
      rintro ⟨-, htok⟩
      exact Int.not_le.2 (Int.lt_succ _) (htok ▸ hle)
    · obtain ⟨hsec, htok⟩ := task?_begin ht
      exact iff_of_true ⟨Option.some.inj (hsec.symm.trans hname), htok⟩ rfl
  case shown_eq =>
    have hbooks : (w.begin job).books? w.tickets.length = none := by
      unfold books?
      split
      · next a ha => exact absurd ha result?_begin_self
      · rfl
    rw [hbooks, shown, hnav]
    rfl

/-- It stays the latest when a request for another section begins. -/
theorem Latest.begin {w : Traffic σ} {i : Nat} {name : String} {token : Token}
    {before : Option (List Book)} (h : w.Latest i name token before) {job : Job}
    (hjob : job.sectionName? ≠ some name) : (w.begin job).Latest i name token before := by
  have hcurrent : (w.begin job).navigation.isCurrent name token =
      w.navigation.isCurrent name token := by
    rw [navigation_begin]
    cases hj : job.sectionName? with
    | none => rfl
    | some other =>
      have hne : other ≠ name := by
        rintro rfl
        exact hjob hj
      rw [Navigation.isCurrent_begin, if_neg hne]
  have hshown : (w.begin job).shown name = w.shown name := by
    rw [shown, navigation_begin]
    cases job.sectionName? <;> rfl
  constructor
  case lt => exact Nat.lt_of_lt_of_le h.lt (by simp [Traffic.begin])
  case current => exact hcurrent ▸ h.current
  case only =>
    intro j t hu
    rcases underway_begin hu with hold | ⟨rfl, ht⟩
    · exact h.only hold
    · refine iff_of_false ?_ (Nat.ne_of_gt h.lt)
      rintro ⟨rfl, -⟩
      exact hjob (task?_begin ht).1
  case shown_eq =>
    rw [hshown, h.shown_eq, books?_congr fun a => by rw [result?_begin job h.lt]]

section Proceed

variable (services : Services σ) {w : Traffic σ} {i j : Nat} {name : String} {token : Token}
  {before : Option (List Book)}

/-- It stays the latest in a step that records nothing. -/
theorem Latest.proceed_of_task (h : w.Latest i name token before) {k : Ticket} {t : Task}
    (hk : w.tickets[j]? = some k) (ht : k.stage.task? = some t)
    (hw : ∀ found, k.stage ≠ .recording t found) :
    (w.proceed services j).Latest i name token before := by
  have hnav := navigation_of_task services hk ht hw
  constructor
  case lt => exact (length_proceed services j).symm ▸ h.lt
  case current => exact hnav ▸ h.current
  case only => exact fun hu => h.only (underway_of_task services hk ht hw hu)
  case shown_eq =>
    rw [shown, hnav, ← shown, h.shown_eq,
      books?_congr fun a => result?_of_task services hk ht hw]

/-- Of the writes to the section, only that of the last request is taken. -/
theorem Latest.proceed_of_recording (h : w.Latest i name token before) {job : Job} {t : Task}
    {found : Found} (hk : w.tickets[j]? = some ⟨job, .recording t found⟩) :
    (w.proceed services j).Latest i name token before := by
  have honly := h.only ⟨_, hk, rfl⟩
  have hnav := navigation_recording services hk
  constructor
  case lt => exact (length_proceed services j).symm ▸ h.lt
  case current => exact (isCurrent_recording services hk name token).trans h.current
  case only => exact fun hu => h.only (underway_recording services hk hu).2
  case shown_eq =>
    rw [shown, hnav, Navigation.find?_put, Navigation.accepts_some, ← shown]
    by_cases hji : j = i
    · subst hji
      obtain ⟨rfl, rfl⟩ := honly.2 rfl
      have hbooks : (w.proceed services j).books? j = some found.books :=
        books?_eq_some_iff.2 ⟨_, result?_recording services hk, Task.books_answer ..⟩
      rw [if_pos ⟨h.current, rfl⟩, hbooks]
      rfl
    · have hne : ¬(w.navigation.isCurrent t.sectionName t.token ∧ t.sectionName = name) := by
        rintro ⟨hcur, rfl⟩
        exact hji (honly.1 ⟨rfl, Navigation.eq_of_isCurrent hcur h.current⟩)
      rw [if_neg hne, h.shown_eq,
        books?_congr fun a => by rw [result?_proceed_ne services hk hji]]

/-- As long as no request begins in the section and the session is not reset, the section shows
what its last request answered. -/
theorem Latest.step (h : w.Latest i name token before) {m : Move}
    (hm : m.disturbs name = false) : (w.step services m).Latest i name token before := by
  cases m with
  | begin job => exact h.begin (by simpa [Move.disturbs] using hm)
  | proceed j =>
    exact proceed_induction services (P := fun w => w.Latest i name token before) w j h
      (h.proceed_of_task services) (h.proceed_of_recording services)
  | reset => exact absurd hm nofun

end Proceed

/-- While nothing disturbs the section, it shows the books of its latest request once that ends, and
what it showed before until then. -/
theorem Sound.shown_run (services : Services σ) {w : Traffic σ} (h : w.Sound) {job : Job}
    {name : String} (hname : job.sectionName? = some name) {moves : List Move}
    (hmoves : ∀ m ∈ moves, m.disturbs name = false) :
    ((w.begin job).run services moves).shown name =
      (((w.begin job).run services moves).books? w.tickets.length).or (w.shown name) :=
  (run_induction services
    (P := fun v => v.Latest w.tickets.length name (w.navigation.issued + 1) (w.shown name))
    (h.latest hname) fun _ hv m hm => hv.step services (hmoves m hm)).shown_eq

/-! ## The latest request wins -/

/-- A section took the list of request `i`. -/
def Stored (w : Traffic σ) (i : Nat) : Prop := ∃ name, .wrote i name true ∈ w.history

/-- Request `i` ended without a fault. -/
def Completed (w : Traffic σ) (i : Nat) : Prop := ∃ a, w.result? i = some (.ok a)

/-- Between the start of request `i` and its write another request began in its section, or the
session was reset. -/
def Overtaken (w : Traffic σ) (i : Nat) : Prop :=
  ∃ name, w.section? i = some name ∧ ∃ e ∈ meanwhile i w.history, e.disturbs name

/-- A list that was written is taken unless its request was overtaken. -/
theorem Written.stored_iff {w : Traffic σ} {i : Nat} {name : String} {stored : Bool}
    (h : w.Written i name stored) : stored = false ↔ w.Overtaken i := by
  have hover : w.Overtaken i ↔ disturbed i name w.history := by
    simp [Overtaken, h.section_eq, disturbed, List.any_eq_true]
  rw [hover, h.stored_eq, Bool.not_eq_false']

/-- A section took the list of a request exactly if the request was completed and not overtaken. -/
theorem Sound.stored_iff {w : Traffic σ} (h : w.Sound) (i : Nat) :
    w.Stored i ↔ w.Completed i ∧ ¬w.Overtaken i := by
  constructor
  · rintro ⟨name, hm⟩
    have hwritten := h.written hm
    obtain ⟨a, ha, -⟩ := hwritten.result
    exact ⟨⟨a, ha⟩, fun ho => absurd (hwritten.stored_iff.2 ho) nofun⟩
  · rintro ⟨⟨a, ha⟩, hno⟩
    obtain ⟨name, stored, hm⟩ := h.completed ha
    cases stored with
    | true => exact ⟨name, hm⟩
    | false => exact absurd ((h.written hm).stored_iff.1 rfl) hno

/-- A result is stale exactly if its request was overtaken. -/
theorem Sound.isStale_iff {w : Traffic σ} (h : w.Sound) {i : Nat} {r : SearchResult}
    (hr : w.result? i = some (.ok (.result r))) : r.isStale = true ↔ w.Overtaken i := by
  obtain ⟨name, stored, hm⟩ := h.completed hr
  have hwritten := h.written hm
  obtain ⟨a, ha, hstale⟩ := hwritten.result
  have hra : a = .result r := Except.ok.inj (Option.some.inj (ha.symm.trans hr))
  rw [hstale r hra, ← hwritten.stored_iff, Bool.not_eq_true']

/-- Any requests on one session, each in any section, and any interleaving of their steps and of
resets: the list of a request is taken exactly if the request ends without a fault and is not
overtaken, and a search is stale exactly if it is overtaken. Requests are numbered as they begin,
and a section takes lists in that order only. From its last request on, as long as the session is
not reset, a section shows the books of that request once it has ended, and if it has not or
failed, what it showed when it began. -/
theorem latest_request_wins (services : Services σ) (s : Session σ) (moves : List Move) :
    let w := (start s).run services moves
    (∀ i, w.Stored i ↔ w.Completed i ∧ ¬w.Overtaken i) ∧
      (∀ i r, w.result? i = some (.ok (.result r)) → (r.isStale = true ↔ w.Overtaken i)) ∧
      ((begun w.history).Pairwise (· < ·) ∧
        ∀ name, (storedIn name w.history).Pairwise (· < ·)) ∧
      ∀ earlier job later name, moves = earlier ++ .begin job :: later →
        job.sectionName? = some name → (∀ m ∈ later, m.disturbs name = false) →
        let before := (start s).run services earlier
        w.shown name = (w.books? before.tickets.length).or (before.shown name) := by
  have h := sound_run services s moves
  refine ⟨h.stored_iff, fun i r => h.isStale_iff, ⟨h.begun_sorted, h.stored_sorted⟩, ?_⟩
  rintro earlier job later name rfl hname hlater
  have hrun : (start s).run services (earlier ++ .begin job :: later) =
      (((start s).run services earlier).begin job).run services later := by
    rw [run, List.foldl_append]
    rfl
  rw [hrun]
  exact (sound_run services s earlier).shown_run services hname hlater

/-- The second of two searches ends first, so the first is out of date. -/
example :
    let services : Services Unit := ⟨fun _ => pure (some []), none⟩
    let search : Move := .begin (.search (.query (.titleOnly "Dune")) none)
    let moves := [search, search, .proceed 1, .proceed 1, .proceed 1,
      .proceed 0, .proceed 0, .proceed 0]
    ((start ⟨.empty, ()⟩).run services moves).history =
      [.began 0 "search", .began 1 "search", .wrote 1 "search" true, .wrote 0 "search" false] := by
  decide

end Traffic

end Bookfinder
