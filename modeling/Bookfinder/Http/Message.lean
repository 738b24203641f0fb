import Bookfinder.Number.Arithmetic
import Bookfinder.Outcome
import Bookfinder.Payload.Reader

/-!
# HTTP messages

A `Http.Request` is what is sent to a service and a `Http.Reply` what comes of it: an answer with
a status and a body, or one of the ways in which an exchange fails. How a body is read differs from
one library to another: each client has a `Decoder` of its own.
-/

namespace Bookfinder.Http

/-- What a request does. -/
inductive Verb where
  | get
  | post
  | delete
deriving DecidableEq, Repr

/-- The name of a verb in a request. -/
def Verb.name : Verb → String
  | .get => "GET"
  | .post => "POST"
  | .delete => "DELETE"

/-- A request to a service. -/
structure Request where
  verb : Verb
  /-- The address of the service, without a slash at its end. -/
  address : String
  /-- The path below the address. -/
  path : String
  params : Option (Association Payload)
  body : Option Payload
  /-- Seconds to wait for an answer. -/
  timeout : Number
deriving DecidableEq

/-- Where a request goes to. -/
def Request.url (r : Request) : String := r.address ++ r.path

/-- An address without the slashes at its end. -/
def trimAddress (address : String) : String :=
  String.ofList (address.toList.reverse.dropWhile (· = '/')).reverse

/-- The characters after the scheme and the host of an address. -/
def pathChars : List Char → List Char
  | ':' :: '/' :: '/' :: cs => cs.dropWhile (· ≠ '/')
  | _ :: cs => pathChars cs
  | [] => []

/-- The path of a request on its host. -/
def Request.hostPath (r : Request) : String :=
  String.ofList (pathChars r.address.toList) ++ r.path

/-- What comes of a request. -/
inductive Reply where
  /-- An answer, with a status of three digits. The body stands for its content, and for what its
  headers say of how to read that; it is empty if the content is. -/
  | answered (status : Int) (body : String)
  /-- No answer came in time. -/
  | timedOut (text : String)
  /-- There was no connection. -/
  | unreachable (text : String)
  /-- The answer broke the rules of the protocol. -/
  | garbled (text : String)
  /-- The exchange failed in a way that is no answer about the service. -/
  | broken (cause : Fault)
deriving DecidableEq

/-! ## Bodies -/

/-- How bodies are read. -/
structure Decoder where
  /-- A body as it is shown in a notice. -/
  text : String → String
  /-- The value that a body writes. A body that writes none is malformed (`Fault.malformed`); any
  other fault is a failure of the reading. -/
  value : String → Except Fault Payload

namespace Decoder

/-- The value that a text writes in JSON; a mark of the byte order before it is left out. -/
def jsonValue (body : String) : Except Fault Payload :=
  let value? : Option Payload :=
    match body.toList with
    | '\uFEFF' :: cs => Payload.ofJson? (String.ofList cs)
    | _ => Payload.ofJson? body
  value?.elim (.error .malformed) .ok

/-- Reads bodies that are JSON texts. -/
def json : Decoder where
  text := id
  value := jsonValue

end Decoder

end Bookfinder.Http
