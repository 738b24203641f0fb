import Bookfinder.Http.Client
import Mathlib.Data.List.Range

/-!
# Requests that are tried again

What a patient client does is told by the replies that it gets. `Script` is a connection with a
given sequence of replies, which writes down each request and each pause; whether a pause is made,
and how long it is, is up to the script as well. `Client.moves` is what belongs to one try: the
request, and the pause after it if the reply asks to wait and another try is left. `Client.Ends`
says how a request may end: with the first final reply, after the last try, or with a try that
breaks off.

One try is a step: `Client.Meets` lists what may come of it (`Client.run_meet`). Its verdict
decides the request, or the tries that are left follow. So all tries together are the moves of the
first few of them (`Client.run_tries`), and the request ends as `Client.Ends` says
(`Client.request_ends`). The pauses double each time, and nothing bounds them: one that is out of
range is a fault (`Client.request_overflows`).
-/

namespace Bookfinder.Http

/-! ## Replies -/

namespace Reply

/-- The reply decides the request: it is one of success, or a refusal other than the request to
slow down. -/
def IsFinal : Reply → Prop
  | .answered status _ =>
    (200 ≤ status ∧ status < 300) ∨ (400 ≤ status ∧ status < 500 ∧ status ≠ 429)
  | _ => False

/-- No answer came, and a client that tries again takes that for an answer. -/
def IsMissing : Reply → Prop
  | .timedOut _ | .unreachable _ => True
  | _ => False

/-- A client that tries again waits first. -/
def AsksToWait : Reply → Prop
  | .answered status _ => status = 429 ∨ 500 ≤ status
  | .timedOut _ | .unreachable _ => True
  | .garbled _ | .broken _ => False

instance : DecidablePred AsksToWait
  | .answered status _ => inferInstanceAs (Decidable (status = 429 ∨ 500 ≤ status))
  | .timedOut _ | .unreachable _ => isTrue trivial
  | .garbled _ | .broken _ => isFalse id

/-- The exchange went wrong in a way that a client does not answer for. -/
def fault? : Reply → Option Fault
  | .answered .. | .timedOut _ | .unreachable _ => none
  | .garbled text => some (.external .exchange text)
  | .broken cause => some cause

/-- The value of a reply of success; none if its body is malformed. -/
def value (d : Decoder) : Reply → Except Fault (Option Payload)
  | .answered status body =>
    if 200 ≤ status ∧ status < 300 then settled none ((valueOfBody d body).map some)
    else .ok none
  | _ => .ok none

/-- The notices of the try with a number that gets the reply. -/
def notices (d : Decoder) (url : String) (attempt : ℕ) : Reply → List Notice
  | .answered status body =>
    if 200 ≤ status ∧ status < 300 then
      if valueOfBody d body = .error .malformed then [.malformedBody url] else []
    else if status = 429 then [.rateLimited attempt]
    else if 500 ≤ status then [.serverError status attempt]
    else if 400 ≤ status then [.clientError status (d.text body)]
    else []
  | .timedOut _ => [.timedOut attempt]
  | .unreachable text => [.connectionFailed attempt text]
  | .garbled _ | .broken _ => []

variable {reply : Reply}

/-- After a final reply there is no pause. -/
theorem IsFinal.not_asksToWait (h : reply.IsFinal) : ¬reply.AsksToWait := by
  cases reply with
  | answered status body =>
    simp only [IsFinal, AsksToWait] at h ⊢
    omega
  | timedOut | unreachable | garbled | broken => exact h.elim

theorem not_asksToWait_of_fault? {e : Fault} (h : reply.fault? = some e) : ¬reply.AsksToWait := by
  cases reply with
  | answered | timedOut | unreachable => cases h
  | garbled | broken => exact id

end Reply

/-! ## A connection with a script -/

/-- What a client does on a connection. -/
inductive Move where
  | request (r : Request)
  | pause (seconds : Number)
deriving DecidableEq

/-- Whether a move is a request. -/
def Move.isRequest : Move → Bool
  | .request _ => true
  | .pause _ => false

/-- How many requests were sent. -/
def sent (log : List Move) : ℕ := log.countP Move.isRequest

/-- The replies to the requests that are sent, in their order, the random delay that is drawn after
so many requests, and what comes of a pause that is asked for then. -/
structure Script where
  reply : ℕ → Reply
  jitter : ℕ → Number → Except Fault Number
  pause : ℕ → Number → Except Fault Unit

/-- The connection that follows a script and writes down what is done on it. -/
def Script.transport (s : Script) : Transport (List Move) where
  send r := Action.update fun log => (s.reply (sent log), log ++ [.request r])
  pause seconds := do
    let log ← Action.state
    s.pause (sent log) seconds
    Action.update fun log => ((), log ++ [.pause seconds])
  jitter delay := do
    let log ← Action.state
    s.jitter (sent log) delay
  close := pure ()

/-- The notices of the first tries. -/
def Script.notices (s : Script) (d : Decoder) (url : String) (tries : ℕ) : List Notice :=
  (List.range tries).flatMap fun i => (s.reply i).notices d url (i + 1)

theorem Script.notices_succ (s : Script) (d : Decoder) (url : String) (i : ℕ) :
    s.notices d url (i + 1) = s.notices d url i ++ (s.reply i).notices d url (i + 1) := by
  rw [notices, List.range_succ, List.flatMap_append, List.flatMap_singleton, notices]

theorem sent_append (log more : List Move) : sent (log ++ more) = sent log + sent more :=
  List.countP_append

/-! ## Tries -/

namespace Client

variable (c : Client) (s : Script) (r : Request) (n : ℕ)

/-- The pause after the try with an index, counted from zero: twice as long each time, and the
random delay on top. There is none if a number is out of range or the script refuses it. -/
def wait (i : ℕ) : Except Fault Number := do
  match c.baseBackoff.mul (.int (twoTo i)) with
  | none => .error .overflow
  | some delay =>
    match delay.add (← s.jitter (i + 1) delay) with
    | none => .error .overflow
    | some seconds => do
      s.pause (i + 1) seconds
      return seconds

/-- The pause that belongs to the try with an index, of `n` tries at most. -/
def pauses (i : ℕ) : List Move :=
  if (s.reply i).AsksToWait ∧ i + 1 < n then ((c.wait s i).toOption.map Move.pause).toList else []

/-- What belongs to the try with an index. -/
def moves (i : ℕ) : List Move := .request r :: c.pauses s n i

/-- What belongs to the first tries. -/
def trail (tries : ℕ) : List Move := (List.range tries).flatMap (c.moves s r n)

/-- The try with an index does not decide the request, and the pause before the next one, if there
is one, is made. -/
structure GoesOn (i : ℕ) : Prop where
  undecided : ¬(s.reply i).IsFinal
  exchanged : (s.reply i).fault? = none
  wait : (s.reply i).AsksToWait → i + 1 < n → ∃ seconds, c.wait s i = .ok seconds

/-- The try with an index breaks off with a fault, of its exchange or of the pause after it. -/
inductive Breaks (i : ℕ) (e : Fault) : Prop
  | exchange (hfault : (s.reply i).fault? = some e)
  | pause (hasks : (s.reply i).AsksToWait) (hmore : i + 1 < n) (hwait : c.wait s i = .error e)

/-- What may come of the try with an index. A malformed text counts as a malformed answer, unless it
belongs to the pause after an answer that is missing. -/
inductive Meets (url : String) (i : ℕ) : Outcome Verdict → Prop
  | accepted {p : Payload} (hfinal : (s.reply i).IsFinal)
      (hvalue : (s.reply i).value c.decoder = .ok (some p)) :
      Meets url i ⟨.ok (.accepted p), (s.reply i).notices c.decoder url (i + 1)⟩
  | refused (hfinal : (s.reply i).IsFinal) (hvalue : (s.reply i).value c.decoder = .ok none) :
      Meets url i ⟨.ok .refused, (s.reply i).notices c.decoder url (i + 1)⟩
  | unread {e : Fault} (hfinal : (s.reply i).IsFinal)
      (hvalue : (s.reply i).value c.decoder = .error e) :
      Meets url i ⟨.error e, (s.reply i).notices c.decoder url (i + 1)⟩
  | again (pause : Bool) (hgoes : c.GoesOn s n i) :
      Meets url i ⟨.ok (.again pause), (s.reply i).notices c.decoder url (i + 1)⟩
  | caught (hbreaks : c.Breaks s n i .malformed) (hcame : ¬(s.reply i).IsMissing) :
      Meets url i
        ⟨.ok .refused, (s.reply i).notices c.decoder url (i + 1) ++ [.malformedBody url]⟩
  | failed {e : Fault} (hbreaks : c.Breaks s n i e)
      (hloose : e = .malformed → (s.reply i).IsMissing) :
      Meets url i ⟨.error e, (s.reply i).notices c.decoder url (i + 1)⟩

/-- How a request of `n` tries at most may end, after so many of them. -/
inductive Ends (url : String) : ℕ → Outcome (Option Payload) → Prop
  /-- The first final reply decides, if the number of tries can be written. A value of null counts
  as no answer. -/
  | final {k : ℕ} (hshort : Number.IsShort c.maxRetries) (hk : k < n)
      (hbefore : ∀ i < k, c.GoesOn s n i) (hfinal : (s.reply k).IsFinal) :
      Ends url (k + 1)
        ⟨((s.reply k).value c.decoder).map (·.filter (· ≠ .null)),
          s.notices c.decoder url (k + 1)⟩
  | exhausted (hshort : Number.IsShort c.maxRetries) (hall : ∀ i < n, c.GoesOn s n i) :
      Ends url n ⟨.ok none, s.notices c.decoder url n ++ [.attemptsExhausted c.maxRetries]⟩
  /-- A malformed text that is taken for a malformed answer. -/
  | caught {k : ℕ} (hshort : Number.IsShort c.maxRetries) (hk : k < n)
      (hbefore : ∀ i < k, c.GoesOn s n i) (hbreaks : c.Breaks s n k .malformed)
      (hcame : ¬(s.reply k).IsMissing) :
      Ends url (k + 1) ⟨.ok none, s.notices c.decoder url (k + 1) ++ [.malformedBody url]⟩
  | failed {k : ℕ} {e : Fault} (hshort : Number.IsShort c.maxRetries) (hk : k < n)
      (hbefore : ∀ i < k, c.GoesOn s n i) (hbreaks : c.Breaks s n k e)
      (hloose : e = .malformed → (s.reply k).IsMissing) :
      Ends url (k + 1) ⟨.error e, s.notices c.decoder url (k + 1)⟩
  /-- The number of tries cannot be written before the first one. -/
  | unsent (hlong : ¬Number.IsShort c.maxRetries) (hn : n ≠ 0) :
      Ends url 0 ⟨.ok none, [.malformedBody url]⟩
  /-- It cannot be written at the end. -/
  | untold (hlong : ¬Number.IsShort c.maxRetries) (hn : n = 0) : Ends url 0 ⟨.error .malformed, []⟩

/-! ### Moves -/

variable {c s r n}

theorem trail_succ (i : ℕ) : c.trail s r n (i + 1) = c.trail s r n i ++ c.moves s r n i := by
  rw [trail, List.range_succ, List.flatMap_append, List.flatMap_singleton, trail]

theorem pauses_of_not_asksToWait {i : ℕ} (h : ¬(s.reply i).AsksToWait) : c.pauses s n i = [] :=
  if_neg fun hwait => h hwait.1

/-- There is no pause after the last try. -/
theorem pauses_of_last {i : ℕ} (h : ¬i + 1 < n) : c.pauses s n i = [] :=
  if_neg fun hwait => h hwait.2

theorem pauses_of_error {i : ℕ} {e : Fault} (h : c.wait s i = .error e) : c.pauses s n i = [] := by
  rw [pauses, h]
  exact ite_self _

theorem pauses_of_ok {i : ℕ} {seconds : Number} (hasks : (s.reply i).AsksToWait)
    (hmore : i + 1 < n) (h : c.wait s i = .ok seconds) :
    c.pauses s n i = [.pause seconds] := by
  rw [pauses, if_pos ⟨hasks, hmore⟩, h]
  rfl

/-- No pause is made after a try that breaks off. -/
theorem Breaks.pauses_eq {i : ℕ} {e : Fault} (h : c.Breaks s n i e) : c.pauses s n i = [] := by
  cases h with
  | exchange hfault => exact pauses_of_not_asksToWait (Reply.not_asksToWait_of_fault? hfault)
  | pause _ _ hwait => exact pauses_of_error hwait

theorem sent_moves (i : ℕ) : sent (c.moves s r n i) = 1 := by
  unfold moves pauses
  split
  · cases c.wait s i <;> rfl
  · rfl

/-- Each try is one request. -/
theorem sent_trail (tries : ℕ) : sent (c.trail s r n tries) = tries := by
  induction tries with
  | zero => rfl
  | succ i ih => rw [trail_succ, sent_append, ih, sent_moves]

/-! ### One try -/

/-- A pause is made, and written down, unless the script refuses it. -/
theorem run_pause {log : List Move} {i : ℕ} (hlog : sent log = i) (seconds : Number) :
    (s.transport.pause seconds).run log =
      match s.pause i seconds with
      | .ok () => (.ok (), log ++ [.pause seconds])
      | .error e => (.fail e, log) := by
  subst hlog
  simp only [Script.transport, Action.run_bind, Action.run_state, Outcome.ok]
  cases s.pause (sent log) seconds with
  | error e => rfl
  | ok _ => rfl

/-- The pause after a try is the one that belongs to it. -/
theorem run_backOff {log : List Move} {i : ℕ} (hlog : sent log = i + 1) :
    (c.backOff s.transport i).run log =
      match c.wait s i with
      | .ok seconds => (.ok (), log ++ [.pause seconds])
      | .error e => (.fail e, log) := by
  unfold backOff wait
  cases c.baseBackoff.mul (.int (twoTo i)) with
  | none => rfl
  | some delay =>
    have hjitter : (s.transport.jitter delay).run log =
        (.ofExcept (s.jitter (i + 1) delay), log) := by
      rw [← hlog]
      rfl
    simp only [Action.run_bind, hjitter]
    cases s.jitter (i + 1) delay with
    | error e => rfl
    | ok extra =>
      dsimp only [Outcome.ofExcept, bind, Except.bind]
      cases delay.add extra with
      | none => rfl
      | some seconds =>
        dsimp only
        rw [run_pause hlog]
        cases s.pause (i + 1) seconds <;> rfl

/-- A request is sent, and a fault of the script is the reply. -/
theorem run_exchange (hshort : Number.IsShort c.maxRetries) (log : List Move) :
    (c.exchange s.transport r).run log = (.ok (s.reply (sent log)), log ++ [.request r]) := by
  rw [exchange, Number.write_of_isShort hshort, Action.liftM_ok, pure_bind, Action.run_tryCatch]
  rfl

/-- A request that cannot be announced is not sent. -/
theorem exchange_of_not_isShort {σ : Type} (t : Transport σ)
    (hlong : ¬Number.IsShort c.maxRetries) :
    c.exchange t r = pure (.broken .malformed) := by
  rw [exchange, Number.write_of_not_isShort hlong, Action.liftM_error, Action.throw_bind]
  rfl

/-- A try that asks to wait goes on once the pause is made. -/
theorem goesOn_of_asksToWait {i : ℕ} (hasks : (s.reply i).AsksToWait)
    (hwait : i + 1 < n → ∃ seconds, c.wait s i = .ok seconds) : c.GoesOn s n i := by
  refine ⟨fun hfinal => hfinal.not_asksToWait hasks, ?_, fun _ => hwait⟩
  cases hfault : (s.reply i).fault? with
  | none => rfl
  | some e => exact absurd hasks (Reply.not_asksToWait_of_fault? hfault)

/-- A reply that asks to wait is noted, and then there is the pause, if another try is left. -/
theorem run_rest {log : List Move} {i : ℕ} {more : Bool} (hlog : sent log = i + 1)
    (hmore : more = true ↔ i + 1 < n) (hasks : (s.reply i).AsksToWait) (notice : Notice) :
    let x := Action.note notice >>= fun _ => c.rest s.transport more i (.again true)
    (c.GoesOn s n i ∧ x.run log = (⟨.ok (.again true), [notice]⟩, log ++ c.pauses s n i)) ∨
      ∃ e, c.Breaks s n i e ∧ x.run log = (⟨.error e, [notice]⟩, log ++ c.pauses s n i) := by
  intro x
  cases more with
  | false =>
    have hlast : ¬i + 1 < n := by simpa using hmore
    refine .inl ⟨goesOn_of_asksToWait hasks fun h => absurd h hlast, ?_⟩
    rw [pauses_of_last hlast, List.append_nil]
    rfl
  | true =>
    have hnext : i + 1 < n := hmore.1 rfl
    have hx : x = Action.note notice >>= fun _ =>
        c.backOff s.transport i >>= fun _ => pure (.again true) := rfl
    rw [hx, Action.run_bind, Action.run_note]
    dsimp only
    rw [Action.run_bind, run_backOff hlog]
    cases hwait : c.wait s i with
    | ok seconds =>
      refine .inl ⟨goesOn_of_asksToWait hasks fun _ => ⟨seconds, hwait⟩, ?_⟩
      rw [pauses_of_ok hasks hnext hwait]
      rfl
    | error e =>
      have hbreaks : c.Breaks s n i e := .pause hasks hnext hwait
      refine .inr ⟨e, hbreaks, ?_⟩
      rw [hbreaks.pauses_eq, List.append_nil]
      rfl

/-- A try that breaks off refuses the request if the cause is a malformed text. -/
theorem meets_of_breaks {i : ℕ} {e : Fault} {url : String} {x : Action (List Move) Verdict}
    {log after : List Move} (hbreaks : c.Breaks s n i e) (hcame : ¬(s.reply i).IsMissing)
    (hx : x.run log = (⟨.error e, (s.reply i).notices c.decoder url (i + 1)⟩, after)) :
    ∃ o, c.Meets s n url i o ∧ (unlessMalformed url .refused x).run log = (o, after) := by
  by_cases he : e = .malformed
  · subst he
    refine ⟨_, .caught hbreaks hcame, ?_⟩
    rw [run_unlessMalformed_of_malformed (by rw [hx]), hx]
  · refine ⟨_, .failed hbreaks fun h => absurd h he, ?_⟩
    rw [run_unlessMalformed_of_ne (by simpa [hx] using he), hx]

/-- Nothing is around the pause after a missing answer. -/
theorem meets_of_missing {i : ℕ} {url : String} {more : Bool} {log : List Move} {notice : Notice}
    (hlog : sent log = i + 1) (hmore : more = true ↔ i + 1 < n) (hmissing : (s.reply i).IsMissing)
    (hasks : (s.reply i).AsksToWait)
    (hnotices : (s.reply i).notices c.decoder url (i + 1) = [notice]) :
    ∃ o, c.Meets s n url i o ∧
      (Action.note notice >>= fun _ => c.rest s.transport more i (.again true)).run log =
        (o, log ++ c.pauses s n i) := by
  rcases run_rest hlog hmore hasks notice with ⟨hgoes, hrest⟩ | ⟨e, hbreaks, hrest⟩
  · exact ⟨_, .again true hgoes, hnotices ▸ hrest⟩
  · exact ⟨_, .failed hbreaks fun _ => hmissing, hnotices ▸ hrest⟩

/-- The pause after an answer is in reach of the handler. -/
theorem meets_of_waiting {i : ℕ} {url : String} {more : Bool} {log : List Move} {notice : Notice}
    (hlog : sent log = i + 1) (hmore : more = true ↔ i + 1 < n) (hcame : ¬(s.reply i).IsMissing)
    (hasks : (s.reply i).AsksToWait)
    (hnotices : (s.reply i).notices c.decoder url (i + 1) = [notice]) :
    ∃ o, c.Meets s n url i o ∧ (unlessMalformed url .refused
      (Action.note notice >>= fun _ => c.rest s.transport more i (.again true))).run log =
        (o, log ++ c.pauses s n i) := by
  rcases run_rest hlog hmore hasks notice with ⟨hgoes, hrest⟩ | ⟨e, hbreaks, hrest⟩
  · refine ⟨_, .again true hgoes, ?_⟩
    rw [run_unlessMalformed_of_ne (by simp [hrest]), hrest, hnotices]
  · exact meets_of_breaks hbreaks hcame (hnotices ▸ hrest)

theorem meet_answered {σ : Type} (c : Client) (t : Transport σ) (url : String) (more : Bool)
    (i : ℕ) (status : ℤ) (body : String) :
    c.meet t url more i (.answered status body) = unlessMalformed url .refused
      ((judgeAnswer c.decoder (i + 1) status body : Action σ Verdict) >>= c.rest t more i) := rfl

/-- A body with a status of success is read, and one that is malformed is noted. -/
theorem meets_of_success {i : ℕ} {url : String} {more : Bool} {log : List Move} {status : ℤ}
    {body : String} (hreply : s.reply i = .answered status body)
    (hsuccess : 200 ≤ status ∧ status < 300) :
    ∃ o, c.Meets s n url i o ∧
      (c.meet s.transport url more i (.answered status body)).run log =
        (o, log ++ c.pauses s n i) := by
  have hfinal : (s.reply i).IsFinal := by
    rw [hreply]
    exact .inl hsuccess
  have hvalue : (s.reply i).value c.decoder =
      settled none ((valueOfBody c.decoder body).map some) := by
    rw [hreply]
    exact if_pos hsuccess
  have hnotices : (s.reply i).notices c.decoder url (i + 1) =
      if valueOfBody c.decoder body = .error .malformed then [.malformedBody url] else [] := by
    rw [hreply]
    exact if_pos hsuccess
  rw [meet_answered, judgeAnswer, if_pos (by simpa [isSuccess] using hsuccess),
    pauses_of_not_asksToWait hfinal.not_asksToWait, List.append_nil]
  cases hbody : valueOfBody c.decoder body with
  | ok p =>
    rw [hbody] at hvalue hnotices
    refine ⟨_, .accepted hfinal hvalue, ?_⟩
    rw [hnotices]
    rfl
  | error e =>
    rw [hbody] at hvalue hnotices
    by_cases he : e = .malformed
    · subst he
      refine ⟨_, .refused hfinal hvalue, ?_⟩
      rw [hnotices]
      rfl
    · replace hvalue := hvalue.trans (settled_of_ne (fun h => he (Except.error.inj h)) none)
      refine ⟨_, .unread hfinal hvalue, ?_⟩
      rw [hnotices, if_neg (by simpa using he)]
      exact run_unlessMalformed_of_ne fun h => he (Except.error.inj h)

/-- Without success the client waits, refuses or tries again at once, by the status. -/
theorem meets_of_failure {i : ℕ} {url : String} {more : Bool} {log : List Move} {status : ℤ}
    {body : String} (hlog : sent log = i + 1) (hmore : more = true ↔ i + 1 < n)
    (hreply : s.reply i = .answered status body) (hfailure : ¬(200 ≤ status ∧ status < 300)) :
    ∃ o, c.Meets s n url i o ∧
      (c.meet s.transport url more i (.answered status body)).run log =
        (o, log ++ c.pauses s n i) := by
  have hcame : ¬(s.reply i).IsMissing := by rw [hreply]; exact id
  have hasks : (s.reply i).AsksToWait ↔ status = 429 ∨ 500 ≤ status := by rw [hreply]; rfl
  have hfinal : (s.reply i).IsFinal ↔
      (200 ≤ status ∧ status < 300) ∨ (400 ≤ status ∧ status < 500 ∧ status ≠ 429) := by
    rw [hreply]
    rfl
  have hvalue : (s.reply i).value c.decoder = .ok none := by
    rw [hreply]
    exact if_neg hfailure
  have hnotices : (s.reply i).notices c.decoder url (i + 1) =
      if status = 429 then [.rateLimited (i + 1)]
      else if 500 ≤ status then [.serverError status (i + 1)]
      else if 400 ≤ status then [.clientError status (c.decoder.text body)]
      else [] := by
    rw [hreply]
    exact if_neg hfailure
  rw [meet_answered, judgeAnswer, if_neg (by simpa [isSuccess] using hfailure)]
  split
  · next hslow =>
    rw [if_pos hslow] at hnotices
    exact meets_of_waiting hlog hmore hcame (hasks.2 (.inl hslow)) hnotices
  · next hslow =>
    rw [if_neg hslow] at hnotices
    split
    · next hserver =>
      rw [if_pos hserver] at hnotices
      exact meets_of_waiting hlog hmore hcame (hasks.2 (.inr hserver)) hnotices
    · next hserver =>
      have hquiet : ¬(s.reply i).AsksToWait := mt hasks.1 (not_or.2 ⟨hslow, hserver⟩)
      rw [if_neg hserver] at hnotices
      rw [pauses_of_not_asksToWait hquiet, List.append_nil]
      split
      · next hclient =>
        refine ⟨_, .refused (hfinal.2 (by omega)) hvalue, ?_⟩
        rw [hnotices, if_pos hclient]
        rfl
      · next hother =>
        refine ⟨_, .again false ⟨mt hfinal.1 (by omega), by rw [hreply]; rfl,
          fun h => absurd h hquiet⟩, ?_⟩
        rw [hnotices, if_neg hother]
        rfl

/-- One try comes to one of the ends that it may have, and the pause after the reply belongs to
it. -/
theorem run_meet (c : Client) (s : Script) (url : String) {i : ℕ} {more : Bool} {log : List Move}
    (hlog : sent log = i + 1) (hmore : more = true ↔ i + 1 < n) :
    ∃ o, c.Meets s n url i o ∧
      (c.meet s.transport url more i (s.reply i)).run log = (o, log ++ c.pauses s n i) := by
  cases hreply : s.reply i with
  | answered status body =>
    by_cases hsuccess : 200 ≤ status ∧ status < 300
    · exact meets_of_success hreply hsuccess
    · exact meets_of_failure hlog hmore hreply hsuccess
  | timedOut text =>
    exact meets_of_missing hlog hmore (hreply ▸ trivial) (hreply ▸ trivial) (by rw [hreply]; rfl)
  | unreachable text =>
    exact meets_of_missing hlog hmore (hreply ▸ trivial) (hreply ▸ trivial) (by rw [hreply]; rfl)
  | garbled text =>
    have hbreaks : c.Breaks s n i (.external .exchange text) := .exchange (by rw [hreply]; rfl)
    refine ⟨_, .failed hbreaks nofun, ?_⟩
    rw [hbreaks.pauses_eq, hreply, List.append_nil]
    rfl
  | broken cause =>
    have hbreaks : c.Breaks s n i cause := .exchange (by rw [hreply]; rfl)
    rw [hbreaks.pauses_eq, List.append_nil]
    refine meets_of_breaks hbreaks (by rw [hreply]; exact id) ?_
    rw [hreply]
    rfl

/-! ### All tries -/

/-- What the verdict on the try with an index leads to, while so many tries are left. -/
def follow {σ : Type} (c : Client) (t : Transport σ) (r : Request) (left index : ℕ) :
    Verdict → Action σ (Option Payload)
  | .accepted body => pure (if body = .null then none else some body)
  | .refused => pure none
  | .again _ => c.tries t r left (index + 1)

/-- A request is tried, and the verdict is followed. -/
theorem tries_succ {σ : Type} (c : Client) (t : Transport σ) (r : Request) (left index : ℕ) :
    c.tries t r (left + 1) index = c.exchange t r >>= fun reply =>
      c.meet t r.url (left ≠ 0) index reply >>= c.follow t r left index := by
  rw [tries]
  refine bind_congr fun reply => bind_congr fun v => ?_
  cases v <;> rfl

/-- A try is sent and met, and its verdict is followed. -/
theorem run_tries_succ (hshort : Number.IsShort c.maxRetries) {log : List Move} {left index : ℕ}
    (hlog : sent log = index) {o : Outcome Verdict} {after : List Move}
    (hmeet : (c.meet s.transport r.url (left ≠ 0) index (s.reply index)).run
      (log ++ [.request r]) = (o, after)) :
    (c.tries s.transport r (left + 1) index).run log =
      match o.result with
      | .ok v =>
        let rest := (c.follow s.transport r left index v).run after
        (⟨rest.1.result, o.notices ++ rest.1.notices⟩, rest.2)
      | .error e => (⟨.error e, o.notices⟩, after) := by
  rw [tries_succ, Action.run_bind, run_exchange hshort, hlog]
  simp only [Outcome.ok, Action.run_bind, hmeet, List.nil_append]
  cases o.result <;> rfl

/-- A verdict that decides the request leaves no more to do. -/
theorem run_tries_of_decided (hshort : Number.IsShort c.maxRetries) {log : List Move}
    {left index : ℕ} (hlog : sent log = index) {v : Verdict} {value : Option Payload}
    {ns : List Notice} {after : List Move}
    (hmeet : (c.meet s.transport r.url (left ≠ 0) index (s.reply index)).run
      (log ++ [.request r]) = (⟨.ok v, ns⟩, after))
    (hv : c.follow s.transport r left index v = pure value) :
    (c.tries s.transport r (left + 1) index).run log = (⟨.ok value, ns⟩, after) := by
  rw [run_tries_succ hshort hlog hmeet]
  simp [hv, Outcome.ok]

/-- What is left of a request after tries that have not decided it ends the request. -/
def Finishes (c : Client) (s : Script) (r : Request) (n index : ℕ)
    (rest : Outcome (Option Payload) × List Move) : Prop :=
  ∃ tries, c.Ends s n r.url tries
      ⟨rest.1.result, s.notices c.decoder r.url index ++ rest.1.notices⟩ ∧
    rest.2 = c.trail s r n tries

/-- The try with an index is the last one. -/
theorem finishes_of_last {index : ℕ} {result : Except Fault (Option Payload)} {ns : List Notice}
    (hends : c.Ends s n r.url (index + 1) ⟨result, s.notices c.decoder r.url index ++ ns⟩) :
    c.Finishes s r n index (⟨result, ns⟩, c.trail s r n (index + 1)) :=
  ⟨index + 1, hends, rfl⟩

theorem filter_ne_null (p : Payload) :
    (some p).filter (· ≠ .null) = if p = .null then none else some p := by
  by_cases hp : p = .null <;> simp [Option.filter, hp]

/-- Tries from an index on, after tries that have not decided the request. -/
theorem run_tries (hshort : Number.IsShort c.maxRetries) (left : ℕ) : ∀ index,
    index + left = n → (∀ i < index, c.GoesOn s n i) →
      c.Finishes s r n index ((c.tries s.transport r left index).run (c.trail s r n index)) := by
  induction left with
  | zero =>
    intro index hn hbefore
    obtain rfl : index = n := hn
    refine ⟨index, ?_, ?_⟩
    · rw [tries, Number.write_of_isShort hshort]
      exact .exhausted hshort hbefore
    · rw [tries, Number.write_of_isShort hshort]
      rfl
  | succ left ih =>
    intro index hn hbefore
    have hindex : index < n := by omega
    have hsent : sent (c.trail s r n index ++ [.request r]) = index + 1 := by
      rw [sent_append, sent_trail]
      rfl
    have hmore : decide (left ≠ 0) = true ↔ index + 1 < n := by
      rw [decide_eq_true_eq]
      omega
    have htrail : c.trail s r n index ++ [.request r] ++ c.pauses s n index =
        c.trail s r n (index + 1) := by
      rw [trail_succ, moves, List.append_assoc, List.singleton_append]
    obtain ⟨o, ho, hmeet⟩ := run_meet c s r.url hsent hmore
    rw [htrail] at hmeet
    have hdecides (hfinal : (s.reply index).IsFinal) : c.Ends s n r.url (index + 1)
        ⟨((s.reply index).value c.decoder).map (·.filter (· ≠ .null)),
          s.notices c.decoder r.url index ++
            (s.reply index).notices c.decoder r.url (index + 1)⟩ := by
      rw [← Script.notices_succ]
      exact .final hshort hindex hbefore hfinal
    cases ho with
    | accepted hfinal hvalue =>
      have hends := hdecides hfinal
      rw [hvalue] at hends
      rw [run_tries_of_decided hshort (sent_trail index) hmeet rfl, ← filter_ne_null]
      exact finishes_of_last hends
    | refused hfinal hvalue =>
      have hends := hdecides hfinal
      rw [hvalue] at hends
      rw [run_tries_of_decided hshort (sent_trail index) hmeet rfl]
      exact finishes_of_last hends
    | unread hfinal hvalue =>
      have hends := hdecides hfinal
      rw [hvalue] at hends
      rw [run_tries_succ hshort (sent_trail index) hmeet]
      exact finishes_of_last hends
    | again pause hgoes =>
      have hbefore' : ∀ i < index + 1, c.GoesOn s n i := by
        intro i hi
        rcases Nat.lt_succ_iff_lt_or_eq.1 hi with hi | rfl
        · exact hbefore i hi
        · exact hgoes
      obtain ⟨tries, hends, hlog⟩ := ih (index + 1) (by omega) hbefore'
      rw [Script.notices_succ, List.append_assoc] at hends
      rw [run_tries_succ hshort (sent_trail index) hmeet]
      exact ⟨tries, hends, hlog⟩
    | caught hbreaks hcame =>
      have hends : c.Ends s n r.url (index + 1) _ := .caught hshort hindex hbefore hbreaks hcame
      rw [Script.notices_succ, List.append_assoc] at hends
      rw [run_tries_of_decided hshort (sent_trail index) hmeet rfl]
      exact finishes_of_last hends
    | failed hbreaks hloose =>
      have hends : c.Ends s n r.url (index + 1) _ := .failed hshort hindex hbefore hbreaks hloose
      rw [Script.notices_succ] at hends
      rw [run_tries_succ hshort (sent_trail index) hmeet]
      exact finishes_of_last hends

/-- After the last request there is no pause. -/
theorem Ends.getLast?_trail {url : String} {tries : ℕ} {o : Outcome (Option Payload)}
    (h : c.Ends s n url tries o) (seconds : Number) :
    (c.trail s r n tries).getLast? ≠ some (.pause seconds) := by
  have hlast {k : ℕ} (hpauses : c.pauses s n k = []) :
      (c.trail s r n (k + 1)).getLast? ≠ some (.pause seconds) := by
    rw [trail_succ, moves, hpauses, List.getLast?_append]
    simp
  cases h with
  | final _ _ _ hfinal => exact hlast (pauses_of_not_asksToWait hfinal.not_asksToWait)
  | exhausted _ _ =>
    cases n with
    | zero => simp [trail]
    | succ k => exact hlast (pauses_of_last (Nat.lt_irrefl _))
  | caught _ _ _ hbreaks _ | failed _ _ _ hbreaks _ => exact hlast hbreaks.pauses_eq
  | unsent | untold => simp [trail]

/-! ## Requests -/

/-- What a client sends. -/
def message (c : Client) (verb : Verb) (path : String) (params : Option (Association Payload))
    (body : Option Payload) : Request :=
  { verb, address := c.address, path, params, body, timeout := c.timeout }

/-- Without a number of tries that can be written nothing is sent. -/
theorem run_tries_of_not_isShort (hlong : ¬Number.IsShort c.maxRetries) :
    c.Finishes s r n 0 ((c.tries s.transport r n 0).run []) := by
  refine ⟨0, ?_, ?_⟩
  · cases n with
    | zero =>
      rw [tries, Number.write_of_not_isShort hlong]
      exact .untold hlong rfl
    | succ left =>
      rw [tries, exchange_of_not_isShort s.transport hlong]
      exact .unsent hlong (Nat.succ_ne_zero left)
  · cases n with
    | zero =>
      rw [tries, Number.write_of_not_isShort hlong]
      rfl
    | succ left =>
      rw [tries, exchange_of_not_isShort s.transport hlong]
      rfl

/-- A request ends as it may, with the moves of the tries up to there. -/
theorem run_request (c : Client) (s : Script) (verb : Verb) (path : String)
    (params : Option (Association Payload)) (body : Option Payload) :
    ∃ tries,
      c.Ends s c.maxRetries.toNat (c.message verb path params body).url tries
        ((c.request s.transport verb path params body).run []).1 ∧
      ((c.request s.transport verb path params body).run []).2 =
        c.trail s (c.message verb path params body) c.maxRetries.toNat tries := by
  by_cases hshort : Number.IsShort c.maxRetries
  · exact run_tries hshort c.maxRetries.toNat 0 (Nat.zero_add _) nofun
  · exact run_tries_of_not_isShort hshort

/-- A request ends with the first final reply, after the last try, or with a try that breaks off,
and until then it was sent once in each try and followed by the pauses that belong to the tries. -/
theorem request_ends (c : Client) (s : Script) (verb : Verb) (path : String)
    (params : Option (Association Payload)) (body : Option Payload) :
    ∃ tries,
      c.Ends s c.maxRetries.toNat (c.message verb path params body).url tries
        ((c.request s.transport verb path params body).run []).1 ∧
      ((c.request s.transport verb path params body).run []).2 =
        c.trail s (c.message verb path params body) c.maxRetries.toNat tries ∧
      sent ((c.request s.transport verb path params body).run []).2 = tries ∧
      ∀ seconds, ((c.request s.transport verb path params body).run []).2.getLast? ≠
        some (.pause seconds) := by
  obtain ⟨tries, hends, hlog⟩ := run_request c s verb path params body
  rw [hlog]
  exact ⟨tries, hends, rfl, sent_trail tries, hends.getLast?_trail⟩

/-- A service that is overloaded, cannot be reached and then answers. -/
example :
    let replies : List Reply := [.answered 503 "", .unreachable "refused"]
    let s : Script :=
      { reply := fun i => replies.getD i (.answered 200 "[]")
        jitter := fun _ _ => .ok (.int 0)
        pause := fun _ _ => .ok () }
    let c : Client := ⟨"http://localhost:8080/api", .int 10, 3, .int 1, .json⟩
    let r := c.message .get "/books/featured" none none
    ((c.request s.transport .get "/books/featured" none none).run []).2 =
      [.request r, .pause (.int 1), .request r, .pause (.int 2), .request r] := by
  decide +kernel

/-- A service that is overloaded for good, the longest delays, and pauses that are all made. -/
def overloaded : Script where
  reply _ := .answered 503 ""
  jitter _ delay := .ok delay
  pause _ _ := .ok ()

/-- A pause that is made is in range. -/
theorem mul_ne_none_of_wait {c : Client} {s : Script} {i : ℕ} {seconds : Number}
    (h : c.wait s i = .ok seconds) : c.baseBackoff.mul (.int (twoTo i)) ≠ none := by
  intro hnone
  rw [wait, hnone] at h
  cases h

/-- Where every pause is made, only one that is out of range breaks a try off. -/
theorem eq_overflow_of_breaks {c : Client} {n i : ℕ} {e : Fault}
    (h : c.Breaks overloaded n i e) : e = .overflow := by
  cases h with
  | exchange hfault => cases hfault
  | pause _ _ hwait =>
    dsimp only [wait, overloaded, bind, Except.bind] at hwait
    split at hwait
    · exact (Except.error.inj hwait).symm
    · split at hwait
      · exact (Except.error.inj hwait).symm
      · cases hwait

/-- With many tries a pause is out of range, even if pauses take no time: the request fails, though
no reply was final. -/
theorem request_overflows :
    (∀ i, ¬(overloaded.reply i).IsFinal) ∧
    (((⟨"http://localhost:8080/api", .int 10, 1026, .real 0, .json⟩ : Client).request
      overloaded.transport .get "/books/featured" none none).run []).1.result =
        .error .overflow := by
  have hopen : ∀ i, ¬(overloaded.reply i).IsFinal := by simp [overloaded, Reply.IsFinal]
  refine ⟨hopen, ?_⟩
  obtain ⟨tries, hends, -⟩ :=
    run_request ⟨"http://localhost:8080/api", .int 10, 1026, .real 0, .json⟩ overloaded .get
      "/books/featured" none none
  generalize Action.run _ [] = run at hends ⊢
  obtain ⟨o, log⟩ := run
  cases hends with
  | final _ _ _ hfinal => exact absurd hfinal (hopen _)
  | exhausted _ hall =>
    have hrange : Number.mul (.real 0) (.int (twoTo 1024)) = none := by decide +kernel
    obtain ⟨seconds, hwait⟩ := (hall 1024 (by decide)).wait (by simp [overloaded, Reply.AsksToWait])
      (by decide)
    exact (mul_ne_none_of_wait hwait hrange).elim
  | caught _ _ _ hbreaks _ => exact nomatch eq_overflow_of_breaks hbreaks
  | failed _ _ _ hbreaks _ => rw [eq_overflow_of_breaks hbreaks]
  | unsent hlong | untold hlong => exact absurd (by decide) hlong

end Client

end Bookfinder.Http
