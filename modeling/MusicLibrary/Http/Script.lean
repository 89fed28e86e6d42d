import MusicLibrary.Http.Client

/-!
# Scripted servers

A server whose responses are written down beforehand: request number `n` gets response number `n`, and a
request past the end an error. It keeps the requests that it has seen. It is the server at one host and
port, and a question that goes elsewhere does not reach it.
-/

namespace MusicLibrary.Http

/-- The responses that are left and the requests seen so far. -/
structure Script where
  /-- The responses that are left. -/
  responses : List Response
  /-- The requests seen so far, in their order. -/
  seen : List Request

namespace Script

/-- The response past the end of a script. -/
def exhausted : Response := ⟨500, "no scripted response".toUTF8⟩

/-- The response to a request, and the script after it. -/
def respond (script : Script) (request : Request) : Response × Script :=
  match script.responses with
  | [] => (exhausted, { script with seen := script.seen ++ [request] })
  | response :: responses => (response, ⟨responses, script.seen ++ [request]⟩)

/-- The script as the server at a host and port that a client talks to. -/
def server (endpoint : Endpoint) (client : Client) : Browsing.Server Script where
  answer r script :=
    match client.requestTo endpoint r with
    | .error cause => (.error cause, script)
    | .ok request =>
      let (response, script) := script.respond request
      (Client.read r response, script)

end Script

end MusicLibrary.Http
