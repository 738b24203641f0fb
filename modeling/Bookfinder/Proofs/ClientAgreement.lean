import Bookfinder.Proofs.BookList
import Bookfinder.Proofs.Retries

/-!
# Where two clients agree

A patient client with one try and a client of single tries ask the same of a service. What they
make of its reply is told by one function each: `booksOfOnlyReply`, which comes from the verdicts
and the loop of tries (`Client.result_catalogue`), and `booksOfSingleReply`. Each judges replies by
rules of its own, and reads bodies with a decoder of its own. `Reply.Splits` lists the replies over
which they part, and `same_answer_iff` says that there are no others.
-/

namespace Bookfinder.Http

/-! ## The only try of a patient client -/

/-- The value of a request that is not tried again; null counts as no answer. -/
def Verdict.body? : Verdict → Option Payload
  | .accepted body => if body = .null then none else some body
  | .refused | .again _ => none

/-- What a patient client with one try makes of a body with a status of success: an empty body is an
empty record. -/
def booksOfBody (d : Decoder) (body : String) : Except Fault (Option (List Book)) :=
  if body = "" then .ok (some [])
  else
    match d.value body with
    | .ok p => if p = .null then .ok none else (Book.listOfPayload p).result
    | .error cause => settled none (.error cause)

/-- What a patient client with one try makes of a reply. -/
def booksOfOnlyReply (d : Decoder) : Reply → Except Fault (Option (List Book))
  | .answered status body => if isSuccess status then booksOfBody d body else .ok none
  | .timedOut _ | .unreachable _ => .ok none
  | .garbled text => .error (.external .exchange text)
  | .broken cause => settled none (.error cause)

/-- The books of the value of a request, if it has one. -/
def booksOfValue (value : Option Payload) : Except Fault (Option (List Book)) :=
  value.elim (.ok none) fun body => (Book.listOfPayload body).result

/-- What comes of a request that is sent; a fault is a reply, too. -/
def replyTo {σ : Type} (send : Request → Action σ Reply) (r : Request) (s : σ) : Reply :=
  match ((send r).run s).1.result with
  | .ok reply => reply
  | .error cause => .broken cause

variable {σ : Type} {t : Transport σ} {s : σ}

theorem result_judgeBody (d : Decoder) (body : String) :
    ((settled .refused ((valueOfBody d body).map Verdict.accepted)).map Verdict.body? >>=
      booksOfValue) = booksOfBody d body := by
  unfold valueOfBody booksOfBody
  simp only [String.isEmpty_iff]
  split
  · rfl
  · cases d.value body with
    | ok p =>
      simp only [settled, Except.map, Verdict.body?]
      split
      · rfl
      · rfl
    | error cause => cases cause <;> rfl

/-- There is no pause after the last try. -/
theorem rest_last (c : Client) (t : Transport σ) (index : Nat) (v : Verdict) :
    c.rest t false index v = pure v := by
  simp [Client.rest]

/-- What the last try makes of a reply. -/
theorem result_meet (c : Client) (t : Transport σ) (url : String) (index : Nat) (reply : Reply)
    (s : σ) :
    ((c.meet t url false index reply).run s).1.result.map Verdict.body? >>= booksOfValue =
      booksOfOnlyReply c.decoder reply := by
  cases reply with
  | answered status body =>
    have hjudge (o : Outcome Verdict) :
        (((liftM o : Action σ Verdict) >>= c.rest t false index).run s).1.result = o.result := by
      have hrest : c.rest t false index = pure := funext (rest_last c t index)
      rw [hrest, bind_pure]
      rfl
    rw [Client.meet, result_unlessMalformed, hjudge]
    simp only [judgeAnswer, booksOfOnlyReply]
    split
    · rw [← result_judgeBody]
      cases valueOfBody c.decoder body <;> rfl
    split
    · rfl
    split
    · rfl
    split
    · rfl
    · rfl
  | timedOut text => rfl
  | unreachable text => rfl
  | garbled text => rfl
  | broken cause => cases cause <;> rfl

/-! ## Catalogues -/

/-- What a client sends for a call. -/
def requestFor (address : String) (timeout : Number) (call : Call) : Request :=
  { verb := .get, address, path := call.path, params := call.params, body := none, timeout }

/-- A request that can be announced is sent, and a fault is the reply to it. -/
theorem result_exchange {c : Client} (hshort : Number.IsShort c.maxRetries) (t : Transport σ)
    (r : Request) (s : σ) : ((c.exchange t r).run s).1.result = .ok (replyTo t.send r s) := by
  rw [Client.exchange, Number.write_of_isShort hshort, Action.liftM_ok, pure_bind,
    Action.run_tryCatch, replyTo]
  cases h : ((t.send r).run s).1.result with
  | ok reply => exact h
  | error cause => rfl

/-- After the last try there is not another request. -/
theorem result_tries_one {c : Client} (hshort : Number.IsShort c.maxRetries) (t : Transport σ)
    (r : Request) (s : σ) (index : Nat) :
    ((c.tries t r 1 index).run s).1.result >>= booksOfValue =
      booksOfOnlyReply c.decoder (replyTo t.send r s) := by
  have hfollow (v : Verdict) (s : σ) :
      ((c.follow t r 0 index v).run s).1.result = .ok v.body? := by
    cases v with
    | again pause =>
      rw [Client.follow, Client.tries, Number.write_of_isShort hshort]
      rfl
    | _ => rfl
  rw [Client.tries_succ, Action.result_bind, result_exchange hshort]
  generalize ((c.exchange t r).run s).2 = after
  rw [← result_meet c t r.url index (replyTo t.send r s) after]
  change ((c.meet t r.url false index (replyTo t.send r s) >>=
    c.follow t r 0 index).run after).1.result >>= booksOfValue = _
  rw [Action.result_bind]
  simp only [hfollow]
  cases ((c.meet t r.url false index (replyTo t.send r s)).run after).1.result <;> rfl

/-- With one try, the answer is that of the one reply. -/
theorem Client.result_catalogue {c : Client} (hc : c.maxRetries = 1) (t : Transport σ)
    (call : Call) (s : σ) :
    ((c.catalogue t call).run s).1.result =
      booksOfOnlyReply c.decoder (replyTo t.send (requestFor c.address c.timeout call) s) := by
  have hshort : Number.IsShort c.maxRetries := by
    rw [hc]
    decide
  have hrequest : c.request t .get call.path call.params none =
      c.tries t (requestFor c.address c.timeout call) 1 0 := by
    rw [Client.request, hc]
    rfl
  rw [← result_tries_one hshort t _ s 0, ← hrequest, Client.catalogue, Action.result_bind]
  refine bind_congr fun value => ?_
  cases value with
  | none => rfl
  | some body => rfl

/-- What a client of single tries makes of a body with the status 200. -/
def booksOfSingleBody (d : Decoder) (body : String) : Except Fault (Option (List Book)) :=
  settled none (d.value body >>= fun p => (Book.listOfPayload p).result)

/-- What a client of single tries makes of a reply. -/
def booksOfSingleReply (d : Decoder) : Reply → Except Fault (Option (List Book))
  | .answered status body => if status = 200 then booksOfSingleBody d body else .ok none
  | .timedOut _ | .unreachable _ | .garbled _ => .ok none
  | .broken cause => settled none (.error cause)

/-- A single try reads the reply in its own way. -/
theorem result_booksOfReply (d : Decoder) (path : String) (reply : Reply) :
    settled none (booksOfReply d path reply).result = booksOfSingleReply d reply := by
  cases reply with
  | answered status body =>
    simp only [booksOfReply, booksOfSingleReply, booksOfSingleBody]
    split
    · cases d.value body <;> rfl
    · rfl
  | timedOut | unreachable | garbled | broken => rfl

/-- Its answer is that of the reply, if the years of the call can be written. -/
theorem SingleTry.result_catalogue {call : Call} (hyears : call.years.IsShort) (c : SingleTry)
    (send : Request → Action σ Reply) (s : σ) :
    ((c.catalogue send call).run s).1.result =
      booksOfSingleReply c.decoder (replyTo send (requestFor c.address c.timeout call) s) := by
  rw [SingleTry.catalogue, result_unlessMalformed, YearRange.write_of_isShort hyears,
    Action.liftM_ok, pure_bind, Action.result_bind, ← result_booksOfReply _ call.path]
  change settled none (((send (requestFor c.address c.timeout call)).run s).1.result >>= _) = _
  rw [replyTo]
  cases ((send (requestFor c.address c.timeout call)).run s).1.result with
  | ok reply => rfl
  | error cause => rfl

/-- A call that cannot be announced is not made. -/
theorem SingleTry.result_catalogue_of_not_isShort {call : Call} (hyears : ¬call.years.IsShort)
    (c : SingleTry) (send : Request → Action σ Reply) (s : σ) :
    ((c.catalogue send call).run s).1.result = .ok none := by
  rw [SingleTry.catalogue, result_unlessMalformed, YearRange.write_of_not_isShort hyears,
    Action.liftM_error, Action.throw_bind]
  rfl

/-! ## Replies that split the clients -/

/-- The bodies with a status of success of which a patient client makes more than a failed call. -/
inductive HasAnswer (d : Decoder) : String → Prop
  | empty : HasAnswer d ""
  | value {body : String} {p : Payload} (hbody : body ≠ "") (h : d.value body = .ok p)
      (hnull : p ≠ .null) (hbooks : (Book.listOfPayload p).result ≠ .ok none) : HasAnswer d body
  /-- A failure of the reading is a failure of the call. -/
  | fault {body : String} {cause : Fault} (hbody : body ≠ "") (h : d.value body = .error cause)
      (hcause : cause ≠ .malformed) : HasAnswer d body

/-- The replies of which the clients make different answers, the patient one with the decoder `d`
and the other one with `d'`. -/
inductive Reply.Splits (d d' : Decoder) : Reply → Prop
  /-- The patient client takes no body for an empty record, the other one for malformed JSON. -/
  | empty : Splits d d' (.answered 200 "")
  /-- The patient client takes null for no answer, the other one for an empty list. -/
  | null {body : String} (hbody : body ≠ "") (h : d.value body = .ok .null)
      (h' : d'.value body = .ok .null) : Splits d d' (.answered 200 body)
  /-- The decoders read a body differently, and other books come of it. -/
  | decoded {body : String} (hbody : body ≠ "") (hvalue : d.value body ≠ d'.value body)
      (hbooks : booksOfBody d body ≠ booksOfSingleBody d' body) : Splits d d' (.answered 200 body)
  /-- Only the patient client reads a body with another status of success. -/
  | unread {status : Int} {body : String} (hstatus : status ≠ 200) (hsuccess : isSuccess status)
      (hbody : HasAnswer d body) : Splits d d' (.answered status body)
  /-- Only the patient client fails over an answer against the rules of the protocol. -/
  | garbled (text : String) : Splits d d' (.garbled text)

variable {d d' : Decoder} {body : String}

/-- A value of null counts as no answer to a patient client. -/
theorem booksOfBody_of_ok {p : Payload} (hbody : body ≠ "") (h : d.value body = .ok p) :
    booksOfBody d body = if p = .null then .ok none else (Book.listOfPayload p).result := by
  rw [booksOfBody, if_neg hbody, h]

theorem booksOfBody_of_error {cause : Fault} (hbody : body ≠ "")
    (h : d.value body = .error cause) : booksOfBody d body = settled none (.error cause) := by
  rw [booksOfBody, if_neg hbody, h]

/-- A single try takes any value for a list of books. -/
theorem booksOfSingleBody_of_ok {p : Payload} (h : d.value body = .ok p) :
    booksOfSingleBody d body = (Book.listOfPayload p).result := by
  rw [booksOfSingleBody, h]
  exact settled_of_ne (Book.result_listOfPayload_ne rfl p) none

theorem booksOfSingleBody_of_error {cause : Fault} (h : d.value body = .error cause) :
    booksOfSingleBody d body = settled none (.error cause) := by
  rw [booksOfSingleBody, h]
  rfl

theorem hasAnswer_of_ok {p : Payload} (hbody : body ≠ "") (h : d.value body = .ok p) :
    HasAnswer d body ↔ p ≠ .null ∧ (Book.listOfPayload p).result ≠ .ok none := by
  constructor
  · rintro (_ | ⟨-, hp, hnull, hbooks⟩ | ⟨-, he, -⟩)
    · exact absurd rfl hbody
    · obtain rfl := Except.ok.inj (hp.symm.trans h)
      exact ⟨hnull, hbooks⟩
    · exact nomatch he.symm.trans h
  · exact fun hp => .value hbody h hp.1 hp.2

theorem hasAnswer_of_error {cause : Fault} (hbody : body ≠ "") (h : d.value body = .error cause) :
    HasAnswer d body ↔ cause ≠ .malformed := by
  constructor
  · rintro (_ | ⟨-, hp, -, -⟩ | ⟨-, he, hcause⟩)
    · exact absurd rfl hbody
    · exact nomatch hp.symm.trans h
    · obtain rfl := Except.error.inj (he.symm.trans h)
      exact hcause
  · exact .fault hbody h

/-- A patient client has no books exactly if the body gives no answer. -/
theorem booksOfBody_eq_none_iff : booksOfBody d body = .ok none ↔ ¬HasAnswer d body := by
  by_cases hbody : body = ""
  · subst hbody
    exact iff_of_false nofun (not_not_intro .empty)
  · cases h : d.value body with
    | ok p =>
      rw [booksOfBody_of_ok hbody h, hasAnswer_of_ok hbody h]
      by_cases hnull : p = .null
      · rw [if_pos hnull]
        exact iff_of_true rfl fun hp => hp.1 hnull
      · rw [if_neg hnull, and_iff_right hnull, not_not]
    | error cause =>
      rw [booksOfBody_of_error hbody h, hasAnswer_of_error hbody h, not_not]
      by_cases hcause : cause = .malformed
      · rw [hcause]
        exact iff_of_true rfl rfl
      · rw [settled_of_ne (by simpa using hcause)]
        exact iff_of_false nofun hcause

/-- With the status 200 the clients differ on an empty body, and on one that they read differently;
null is both an answer and none. -/
theorem splits_ok_iff : (Reply.answered 200 body).Splits d d' ↔
    body = "" ∨ body ≠ "" ∧ ((d.value body = .ok .null ∧ d'.value body = .ok .null) ∨
      (d.value body ≠ d'.value body ∧ booksOfBody d body ≠ booksOfSingleBody d' body)) := by
  constructor
  · intro h
    generalize hreply : Reply.answered 200 body = reply at h
    cases h with
    | empty =>
      cases hreply
      exact .inl rfl
    | null hbody h h' =>
      cases hreply
      exact .inr ⟨hbody, .inl ⟨h, h'⟩⟩
    | decoded hbody hvalue hbooks =>
      cases hreply
      exact .inr ⟨hbody, .inr ⟨hvalue, hbooks⟩⟩
    | unread hstatus =>
      cases hreply
      exact absurd rfl hstatus
    | garbled => cases hreply
  · rintro (rfl | ⟨hbody, ⟨h, h'⟩ | ⟨hvalue, hbooks⟩⟩)
    · exact .empty
    · exact .null hbody h h'
    · exact .decoded hbody hvalue hbooks

/-- Two decoders that read a body alike make the same of it, if it is not null. -/
theorem booksOfBody_eq_of_value (hbody : body ≠ "") (hvalue : d.value body = d'.value body) :
    booksOfBody d body = booksOfSingleBody d' body ↔ d.value body ≠ .ok .null := by
  cases h : d.value body with
  | ok p =>
    rw [booksOfBody_of_ok hbody h, booksOfSingleBody_of_ok (hvalue.symm.trans h)]
    by_cases hnull : p = .null
    · subst hnull
      exact iff_of_false nofun (not_not_intro rfl)
    · rw [if_neg hnull]
      exact iff_of_true rfl (by simpa using hnull)
  | error cause =>
    rw [booksOfBody_of_error hbody h, booksOfSingleBody_of_error (hvalue.symm.trans h)]
    exact iff_of_true rfl nofun

/-- With the status 200 the clients differ over nothing, over null and where their decoders do. -/
theorem booksOfBody_eq_iff (hempty : d'.value "" = .error .malformed) :
    booksOfBody d body = booksOfSingleBody d' body ↔
      ¬(Reply.answered 200 body).Splits d d' := by
  rw [splits_ok_iff]
  by_cases hbody : body = ""
  · subst hbody
    rw [booksOfSingleBody_of_error hempty]
    exact iff_of_false nofun fun h => h (.inl rfl)
  · rw [or_iff_right hbody, and_iff_right hbody]
    by_cases hvalue : d.value body = d'.value body
    · rw [booksOfBody_eq_of_value hbody hvalue, ← hvalue, and_self, or_iff_left (by simp)]
    · rw [or_iff_right (fun h => hvalue (h.1.trans h.2.symm)), and_iff_right hvalue, not_not]

/-- The clients make the same of a reply unless it is one of those that split them. -/
theorem booksOfOnlyReply_eq_iff (hempty : d'.value "" = .error .malformed) {reply : Reply} :
    booksOfOnlyReply d reply = booksOfSingleReply d' reply ↔ ¬reply.Splits d d' := by
  cases reply with
  | answered status body =>
    by_cases h : status = 200
    · subst h
      exact booksOfBody_eq_iff hempty
    · -- for the client of single tries there is no answer
      rw [booksOfSingleReply, if_neg h, booksOfOnlyReply]
      split
      · next hsuccess =>
        refine booksOfBody_eq_none_iff.trans (not_congr ⟨.unread h hsuccess, ?_⟩)
        rintro (_ | _ | _ | ⟨-, -, hbody⟩)
        · exact absurd rfl h
        · exact absurd rfl h
        · exact absurd rfl h
        · exact hbody
      · next hsuccess =>
        refine iff_of_true rfl ?_
        rintro (_ | _ | _ | ⟨-, hs, -⟩)
        · exact h rfl
        · exact h rfl
        · exact h rfl
        · exact hsuccess hs
  | garbled text =>
    refine iff_of_false ?_ (not_not_intro (.garbled text))
    rintro ⟨⟩
  | timedOut | unreachable | broken =>
    refine iff_of_true rfl ?_
    rintro ⟨⟩

/-! ## The same answer -/

/-- A patient client with one try and a client of single tries, for which an empty body is
malformed, make the same call. If they get the same reply, they give the same answer exactly if the
reply is none of those that split them. A call with a year that is too long to be written fails for
both, if the year cannot be sent either. -/
theorem same_answer_iff {τ : Type} {c : Client} (hc : c.maxRetries = 1) {c' : SingleTry}
    (hempty : c'.decoder.value "" = .error .malformed) (t : Transport σ)
    (send : Request → Action τ Reply) (call : Call) (s : σ) (s' : τ) :
    let reply := replyTo t.send (requestFor c.address c.timeout call) s
    let patient := ((c.catalogue t call).run s).1.result
    let single := ((c'.catalogue send call).run s').1.result
    (call.years.IsShort → replyTo send (requestFor c'.address c'.timeout call) s' = reply →
      (patient = single ↔ ¬reply.Splits c.decoder c'.decoder)) ∧
    (¬call.years.IsShort → reply = .broken .malformed →
      patient = .ok none ∧ single = .ok none) := by
  intro reply patient single
  have hpatient : patient = booksOfOnlyReply c.decoder reply :=
    Client.result_catalogue hc t call s
  constructor
  · intro hyears hreply
    have hsingle : single = booksOfSingleReply c'.decoder reply := by
      rw [← hreply]
      exact SingleTry.result_catalogue hyears c' send s'
    rw [hpatient, hsingle]
    exact booksOfOnlyReply_eq_iff hempty
  · intro hyears hreply
    rw [hpatient, hreply]
    exact ⟨rfl, SingleTry.result_catalogue_of_not_isShort hyears c' send s'⟩

theorem booksOfOnlyReply_of_success {status : Int} (h : isSuccess status) (d : Decoder)
    (body : String) : booksOfOnlyReply d (.answered status body) = booksOfBody d body := if_pos h

/-- A connection that gives one reply to everything. -/
def Transport.steady (reply : Reply) : Transport Unit where
  send _ := pure reply
  pause _ := pure ()
  jitter delay := pure delay
  close := pure ()

theorem Transport.replyTo_steady (reply : Reply) (r : Request) :
    replyTo (steady reply).send r () = reply := rfl

/-- A body with one book. -/
def oneBook : String := "[\x7b\"isbn\": \"1\"\x7d]"

theorem oneBook_ne_empty : oneBook ≠ "" := by decide +kernel

theorem value_oneBook :
    Decoder.json.value oneBook = .ok (.list [.record [("isbn", .text "1")]]) := by
  decide +kernel

theorem value_empty : Decoder.json.value "" = .error .malformed := rfl

theorem booksOfBody_oneBook :
    booksOfBody .json oneBook = .ok (some [{ Book.blank with isbn := some "1" }]) := by
  rw [booksOfBody_of_ok oneBook_ne_empty value_oneBook, if_neg nofun]
  rfl

theorem same_answer_iff_oneBook :
    let reply : Reply := .answered 200 oneBook
    let c : Client := ⟨"", .int 10, 1, .int 1, .json⟩
    let c' : SingleTry := ⟨"", .int 10, 5, .json⟩
    let t := Transport.steady reply
    let call : Call := .searchAuthorYear "Frank Herbert" (some 1965)
    (c.maxRetries = 1 ∧ c'.decoder.value "" = .error .malformed ∧ call.years.IsShort) ∧
      ((c.catalogue t call).run ()).1.result = ((c'.catalogue t.send call).run ()).1.result ∧
      ((c.catalogue t call).run ()).1.result =
        .ok (some [{ Book.blank with isbn := some "1" }]) := by
  intro reply c c' t call
  have hc : c.maxRetries = 1 := rfl
  have hyears : call.years.IsShort := by decide
  have hsplits : ¬(Reply.answered 200 oneBook).Splits .json .json := by
    rw [← booksOfBody_eq_iff value_empty, booksOfBody_eq_of_value oneBook_ne_empty rfl,
      value_oneBook]
    nofun
  refine ⟨⟨hc, value_empty, hyears⟩,
    ((same_answer_iff hc value_empty t t.send call () ()).1 hyears rfl).2 hsplits, ?_⟩
  rw [Client.result_catalogue hc t call (), Transport.replyTo_steady,
    booksOfOnlyReply_of_success rfl, booksOfBody_oneBook]

/-- The same book with the status 203, no body and null. -/
theorem different_answers :
    let c : Client := ⟨"", .int 10, 1, .int 1, .json⟩
    let c' : SingleTry := ⟨"", .int 10, 5, .json⟩
    let patient (status : Int) (body : String) :=
      ((c.catalogue (.steady (.answered status body)) .allBooks).run ()).1.result
    let single (status : Int) (body : String) :=
      ((c'.catalogue (Transport.steady (.answered status body)).send .allBooks).run ()).1.result
    (patient 203 oneBook = .ok (some [{ Book.blank with isbn := some "1" }]) ∧
        single 203 oneBook = .ok none) ∧
      (patient 200 "" = .ok (some []) ∧ single 200 "" = .ok none) ∧
      patient 200 "null" = .ok none ∧ single 200 "null" = .ok (some []) := by
  intro c c' patient single
  have hpatient {status : Int} (body : String) (h : isSuccess status) :
      patient status body = booksOfBody .json body :=
    (Client.result_catalogue rfl (.steady (.answered status body)) .allBooks ()).trans
      (booksOfOnlyReply_of_success h _ body)
  have hyears : Call.allBooks.years.IsShort := YearRange.isShort_unbounded
  have hsingle (status : Int) (body : String) :
      single status body = booksOfSingleReply .json (.answered status body) :=
    SingleTry.result_catalogue hyears c'
      (Transport.steady (.answered status body)).send ()
  have hnull : Decoder.json.value "null" = .ok .null := by decide +kernel
  refine ⟨⟨?_, ?_⟩, ⟨?_, ?_⟩, ?_, ?_⟩
  · rw [hpatient oneBook rfl, booksOfBody_oneBook]
  · rw [hsingle, booksOfSingleReply, if_neg (by decide)]
  · rw [hpatient "" rfl, booksOfBody, if_pos rfl]
  · rw [hsingle, booksOfSingleReply, if_pos rfl, booksOfSingleBody_of_error value_empty]
    rfl
  · rw [hpatient "null" rfl, booksOfBody_of_ok (by decide) hnull, if_pos rfl]
  · rw [hsingle, booksOfSingleReply, if_pos rfl, booksOfSingleBody_of_ok hnull]
    rfl

end Bookfinder.Http
