import MusicLibrary.Failure

/-!
# Requests and responses

What goes over the wire, as far as it matters: a request asks for a target in the name of a client, and a
response has a status and the bytes of a body. A response is read as text before its status is looked at,
so a body that is too long or not UTF-8 is lost whatever the status says.
-/

namespace MusicLibrary.Http

/-- A request. -/
structure Request where
  /-- The method. -/
  method : String
  /-- The path and query. -/
  target : String
  /-- The header that names the client and proves who asks. -/
  authorization : String
  /-- The header that says which type of answer is wanted. -/
  accept : String
  deriving DecidableEq, Repr

/-- A response. -/
structure Response where
  /-- The status. -/
  status : Nat
  /-- The bytes of the body. -/
  body : ByteArray

namespace Response

/-- A status has three digits. -/
def hasStatus (r : Response) : Bool := 100 ≤ r.status && r.status < 1000

/-- Responses of this status have no body, whatever is sent after their head. -/
def isBodiless (r : Response) : Bool := r.status == 101 || r.status == 204 || r.status == 304

/-- The response only announces another one. -/
def isInterim (r : Response) : Bool := 100 ≤ r.status && r.status < 200 && r.status != 101

/-- The response sends the client elsewhere. -/
def isRedirection (r : Response) : Bool := 300 ≤ r.status && r.status < 400 && r.status != 304

/-- The response reports success. -/
def isSuccess (r : Response) : Bool := 200 ≤ r.status && r.status < 300

/-- The greatest number of bytes of a body. -/
def bodyLimit : Nat := 0x40000000

/-- The failure to read a body with more bytes. -/
def oversized : Failure := .transport "the response body is larger than request limit: 1073741824"

/-- The body as text, if it is not too long and is UTF-8. -/
def text (r : Response) : Except Failure String :=
  if r.isBodiless then .ok ""
  else if bodyLimit < r.body.size then .error oversized
  else
    match String.fromUTF8? r.body with
    | none => .error (.transport "stream did not contain valid UTF-8")
    | some text => .ok text

/-- What a response says to a client that expects a value of a certain type. -/
def read {α : Type} (decode : String → Except Json.ReadError α) (r : Response) : Except Failure α :=
  if !r.hasStatus then .error (.transport "invalid status")
  else if r.isInterim then .error (.transport "no final response")
  else if r.isRedirection then .error (.transport "redirection without a target")
  else
    match r.text with
    | .error cause => .error cause
    | .ok text => if r.isSuccess then (decode text).mapError .unreadable else .error (.ofStatus r.status text)

end Response

end MusicLibrary.Http
