import Bookfinder.Book.Decoding
import Bookfinder.Catalogue.Call
import Bookfinder.Http.Message
import Bookfinder.Query.Writing

/-!
# HTTP clients

Two ways to ask a service. `Client.request` is patient: it tries again after a time-out, a lost
connection, a server error or the request to slow down, and waits longer before each new try. A
`SingleTry` asks once and takes nothing but the status 200. `Client.catalogue` and
`SingleTry.catalogue` are the catalogues that they make.

Both take a malformed text for a malformed answer, wherever it comes up while they are about the
answer (`unlessMalformed`): in the body, in the request, which may hold a number that is too long to
be written, or in a number of seconds that nobody can wait for. The pauses of a patient client after
a time-out and a lost connection are out of its reach.
-/

namespace Bookfinder.Http

/-- An action about an address, and a value for it if a text in it is malformed. -/
def unlessMalformed {σ α : Type} (address : String) (refused : α) (x : Action σ α) : Action σ α :=
  tryCatch x fun
    | .malformed => do
      Action.note (.malformedBody address)
      return refused
    | cause => throw cause

/-- A result, and a value for it if a text was malformed. -/
def settled {α : Type} (refused : α) : Except Fault α → Except Fault α
  | .error .malformed => .ok refused
  | r => r

theorem settled_of_ne {α : Type} {r : Except Fault α} (h : r ≠ .error .malformed) (refused : α) :
    settled refused r = r := by
  cases r with
  | ok a => rfl
  | error cause =>
    cases cause with
    | malformed => exact absurd rfl h
    | _ => rfl

section

variable {σ α : Type} {address : String} {refused : α} {x : Action σ α} {s : σ}

theorem run_unlessMalformed_of_malformed (h : (x.run s).1.result = .error .malformed) :
    (unlessMalformed address refused x).run s =
      (⟨.ok refused, (x.run s).1.notices ++ [.malformedBody address]⟩, (x.run s).2) := by
  rw [unlessMalformed, Action.run_tryCatch, h]
  rfl

theorem run_unlessMalformed_of_ne (h : (x.run s).1.result ≠ .error .malformed) :
    (unlessMalformed address refused x).run s = x.run s := by
  rw [unlessMalformed, Action.run_tryCatch]
  generalize x.run s = ran at h ⊢
  obtain ⟨⟨r, ns⟩, after⟩ := ran
  cases r with
  | ok a => rfl
  | error cause =>
    cases cause with
    | malformed => exact absurd rfl h
    | _ => simp

theorem result_unlessMalformed (address : String) (refused : α) (x : Action σ α) (s : σ) :
    ((unlessMalformed address refused x).run s).1.result = settled refused (x.run s).1.result := by
  by_cases h : (x.run s).1.result = .error .malformed
  · rw [run_unlessMalformed_of_malformed h, h]
    rfl
  · rw [run_unlessMalformed_of_ne h, settled_of_ne h]

end

/-! ## Patient requests -/

/-- The connection of a patient client. -/
structure Transport (σ : Type) where
  send : Request → Action σ Reply
  /-- Waits for a number of seconds. -/
  pause : Number → Action σ Unit
  /-- A random number of seconds up to the given one. -/
  jitter : Number → Action σ Number
  close : Action σ Unit

/-- How a patient client asks. -/
structure Client where
  /-- The address of the service, without a slash at its end. -/
  address : String
  /-- Seconds to wait for an answer. -/
  timeout : Number
  /-- How many times a request is sent at most. -/
  maxRetries : Int
  /-- Seconds to wait before the second try, before a random delay is added. -/
  baseBackoff : Number
  decoder : Decoder := .json

/-- What a reply means for the request. -/
inductive Verdict where
  | accepted (body : Payload)
  | refused
  /-- The request is worth another try, perhaps after a pause. -/
  | again (pause : Bool)
deriving DecidableEq

/-- Whether a status is one of success. -/
def isSuccess (status : Int) : Bool := 200 ≤ status && status < 300

/-- The value of a body that came with a status of success. An empty body is an empty record. -/
def valueOfBody (d : Decoder) (body : String) : Except Fault Payload :=
  if body.isEmpty then .ok (.record []) else d.value body

/-- The verdict on an answer to the try with a number, counted from one. -/
def judgeAnswer (d : Decoder) (attempt : Nat) (status : Int) (body : String) : Outcome Verdict :=
  if isSuccess status then return .accepted (← valueOfBody d body)
  else if status = 429 then do
    Outcome.note (.rateLimited attempt)
    return .again true
  else if 500 ≤ status then do
    Outcome.note (.serverError status attempt)
    return .again true
  else if 400 ≤ status then do
    Outcome.note (.clientError status (d.text body))
    return .refused
  else return .again false

namespace Client

variable {σ : Type}

/-- Waits after the try with an index, counted from zero: twice as long each time, and up to as
long again at random. -/
def backOff (c : Client) (t : Transport σ) (index : Nat) : Action σ Unit := do
  match c.baseBackoff.mul (.int (twoTo index)) with
  | none => throw .overflow
  | some delay =>
    match delay.add (← t.jitter delay) with
    | none => throw .overflow
    | some total => t.pause total

/-- Sends a request, which is announced with the number of tries. A fault is a reply, too. -/
def exchange (c : Client) (t : Transport σ) (r : Request) : Action σ Reply :=
  tryCatch
    (do
      let _ ← Number.write c.maxRetries
      t.send r)
    fun cause => return .broken cause

/-- Waits after the try with an index if its verdict asks for it and `more` tries are left. -/
def rest (c : Client) (t : Transport σ) (more : Bool) (index : Nat) (v : Verdict) :
    Action σ Verdict := do
  if v = .again true && more then c.backOff t index
  return v

/-- The verdict on the reply to the try with an index, after the pause that it asks for if `more`
tries are left. -/
def meet (c : Client) (t : Transport σ) (url : String) (more : Bool) (index : Nat) :
    Reply → Action σ Verdict
  | .answered status body =>
    unlessMalformed url .refused do
      c.rest t more index (← judgeAnswer c.decoder (index + 1) status body)
  | .timedOut _ => do
    Action.note (.timedOut (index + 1))
    c.rest t more index (.again true)
  | .unreachable text => do
    Action.note (.connectionFailed (index + 1) text)
    c.rest t more index (.again true)
  | .garbled text => throw (.external .exchange text)
  | .broken cause => unlessMalformed url .refused (throw cause)

/-- Sends a request until there is a verdict on it, `left` times at most; `index` tries came
before. A value of null counts as no answer. -/
def tries (c : Client) (t : Transport σ) (r : Request) : Nat → Nat → Action σ (Option Payload)
  | 0, _ => do
    let _ ← Number.write c.maxRetries
    Action.note (.attemptsExhausted c.maxRetries)
    return none
  | left + 1, index => do
    match ← c.meet t r.url (left ≠ 0) index (← c.exchange t r) with
    | .accepted body => return if body = .null then none else some body
    | .refused => return none
    | .again _ => tries c t r left (index + 1)

/-- The value that a service answers; `none` if there is none after all tries. -/
def request (c : Client) (t : Transport σ) (verb : Verb) (path : String)
    (params : Option (Association Payload)) (body : Option Payload) : Action σ (Option Payload) :=
  c.tries t { verb, address := c.address, path, params, body, timeout := c.timeout }
    c.maxRetries.toNat 0

/-- The catalogue of a service. -/
def catalogue (c : Client) (t : Transport σ) : Catalogue σ := fun call => do
  match ← c.request t .get call.path call.params none with
  | some body => Book.listOfPayload body
  | none => return none

end Client

/-! ## Single tries -/

/-- How a client asks that does not try again. -/
structure SingleTry where
  /-- The address of the service, without a slash at its end. -/
  address : String
  timeout : Number
  /-- How many requests are under way at a time at most. -/
  maxConcurrent : Int
  decoder : Decoder := .json

/-- The books in the reply to a request for a path. -/
def booksOfReply (d : Decoder) (path : String) : Reply → Outcome (Option (List Book))
  | .answered status body =>
    if status = 200 then do Book.listOfPayload (← d.value body)
    else do
      Outcome.note (.refusedStatus status path)
      return none
  | .timedOut text | .unreachable text | .garbled text => do
    Outcome.note (.exchangeFailed text)
    return none
  | .broken cause => throw cause

namespace SingleTry

variable {σ : Type}

/-- The catalogue of a service. The parameters of a call are announced before it is made. -/
def catalogue (c : SingleTry) (send : Request → Action σ Reply) : Catalogue σ := fun call =>
  unlessMalformed call.path none do
    let _ ← call.years.write
    let r : Request :=
      { verb := .get, address := c.address, path := call.path, params := call.params, body := none,
        timeout := c.timeout }
    booksOfReply c.decoder call.path (← send r)

/-- The answers to calls that are made together, in the order of the calls; the requests go out
in that order as others end. The first fault is the result of the whole. -/
def gather (c : SingleTry) (send : Request → Action σ Reply) (calls : List Call) :
    Action σ (List (Option (List Book))) := do
  let results ← calls.mapM fun call => (c.catalogue send call).attempt
  results.mapM fun r => Action.lift (.ofExcept r)

/-- How many of a number of requests that are made together are under way at a time. -/
def inFlight (c : SingleTry) (requests : Nat) : Nat := min c.maxConcurrent.toNat requests

end SingleTry

end Bookfinder.Http
