import MusicLibrary.Browsing.Dialogue
import MusicLibrary.Http.Message
import MusicLibrary.Http.Url
import MusicLibrary.Settings

/-!
# The client

A client puts the questions of a dialogue to a server over HTTP. Every question is one request below the
user's address; the authorization header names the client, the device and the session's token. A
question that cannot be put into a request fails without one, and so does every question of a client that
waits for no time at all, or beyond the end of its clock.
-/

namespace MusicLibrary.Http

/-- A client of a session. -/
structure Client where
  /-- The session. -/
  session : Session
  /-- The header that names the client and proves who asks. -/
  authorization : String
  /-- How long to wait for the server, in seconds. -/
  timeout : UInt64
  deriving DecidableEq

namespace Client

/-- The version of the client. -/
def version : String := "0.1.0"

/-- The name of the device. -/
def deviceName : String := defaultClientName

/-- The header that names the client, its device and its version, and proves who asks. -/
def authorizationFor (session : Session) (name : String) : String :=
  "MediaBrowser Client=\"" ++ name ++ "\", Device=\"" ++ deviceName ++ "\", DeviceId=\"" ++ session.deviceId ++
    "\", Version=\"" ++ version ++ "\", Token=\"" ++ session.accessToken ++ "\""

/-- The client of a session that announces itself under the given name and waits for the given time. -/
def create (session : Session) (name : String) (timeout : UInt64) : Client :=
  ⟨session, authorizationFor session name, timeout⟩

/-- The client of a session with the usual name and patience. -/
def ofSession (session : Session) : Client := create session defaultClientName defaultTimeout

/-- The client of the session that settings describe, with `fresh` for the identifier of a device that has
none. -/
def ofSettings (settings : Settings) (fresh : String) : Except Failure Client :=
  match settings.session fresh with
  | .error message => .error (.configuration message)
  | .ok session => .ok (create session settings.announcedName settings.timeout)

/-- The address of a handler for the user of the session. -/
def userUrl (c : Client) (handler : String) : String :=
  c.session.baseUrl ++ "Users/" ++ c.session.userId ++ "/" ++ handler

/-- An item's identifier as one segment of a path. -/
def segment (id : String) : String :=
  String.ofList (PercentEncoding.encode PercentEncoding.keptInSegment id.toList)

/-- The address and the parameters of a question. -/
def question (c : Client) : Browsing.Request → String × List (String × String)
  | .item id => (c.userUrl ("Items/" ++ segment id), [])
  | .folders => (c.userUrl "Items", [])
  | .items query => (c.userUrl "Items", query.params)

/-- A character that may stand in a header. -/
def allowedInHeader (ch : Char) : Bool := ch == '\t' || (' ' ≤ ch && ch.toNat != 127)

/-- The number of seconds that the clock cannot wait for: it counts up to `2 ^ 63`, and has been running for
some time. -/
def clockLimit : Nat := 0x7FFFFFFFFFFF0000

/-- What keeps a client from waiting for a response. -/
def impatience? (timeout : UInt64) : Option Failure :=
  if timeout = 0 then some (.transport "timeout")
  else if clockLimit ≤ timeout.toNat then some (.interrupted "the time to wait is beyond the clock")
  else none

/-- The request for a question. -/
def request (c : Client) (r : Browsing.Request) : Except Failure Request :=
  match Url.parse? (c.question r).1 with
  | none => .error (.transport "invalid address")
  | some url =>
    if c.authorization.toList.all allowedInHeader then
      match url.withPairs? (c.question r).2 with
      | none => .error (.interrupted "the query is not all ASCII")
      | some url =>
        match impatience? c.timeout with
        | some cause => .error cause
        | none => .ok ⟨"GET", url.target, c.authorization, "application/json"⟩
    else .error (.transport "invalid header")

/-- The host and the port that a question goes to, if its address names them. -/
def endpoint? (c : Client) (r : Browsing.Request) : Option Endpoint :=
  (Url.parse? (c.question r).1).map Url.endpoint

/-- The request for a question, if it can be put into one and the server at the given host and port is
the one that it goes to. -/
def requestTo (c : Client) (endpoint : Endpoint) (r : Browsing.Request) : Except Failure Request :=
  match c.request r with
  | .error cause => .error cause
  | .ok request =>
    if c.endpoint? r = some endpoint then .ok request else .error (.transport "no connection")

/-- What a response says to a question. -/
def read : (r : Browsing.Request) → Response → Except Failure r.Answer
  | .item _, response => response.read Catalogue.Item.decode
  | .folders, response => response.read Catalogue.Listing.decode
  | .items _, response => response.read Catalogue.Listing.decode

/-- The printed form of a client, without its token. -/
def describe (c : Client) : String :=
  "HttpJellyfinApi \x7b session: " ++ c.session.describe ++ " \x7d"

end Client

end MusicLibrary.Http
