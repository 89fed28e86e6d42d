import MusicLibrary.Text.Blank
import MusicLibrary.Text.Quoted

/-!
# Sessions

A session holds what every request to a media server needs: the address of the server, the token that
proves who asks, and the identifiers of the user and of the device. The address is kept in one form,
with exactly one slash at its end, so that paths can be put behind it. The printed form of a session
leaves the token out.
-/

namespace MusicLibrary

/-- An authenticated session with a media server. -/
structure Session where
  /-- The address of the server, ending in a slash. -/
  baseUrl : String
  /-- The token that authenticates the user. -/
  accessToken : String
  /-- The identifier of the user. -/
  userId : String
  /-- The identifier of the device. -/
  deviceId : String
  deriving DecidableEq

namespace Session

/-- The address of a server without white space around it and with exactly one slash at its end. -/
def normalizeUrl (url : String) : String :=
  String.ofList (Text.dropTrailing (· == '/') (Text.trim url.toList) ++ ['/'])

/-- The session with the server at the given address. -/
def create (url accessToken userId deviceId : String) : Session :=
  ⟨normalizeUrl url, accessToken, userId, deviceId⟩

/-- The printed form of a session, without its token. -/
def describe (s : Session) : String :=
  "JellyfinSession \x7b base_url: " ++ Text.quoted s.baseUrl ++ ", user_id: " ++ Text.quoted s.userId ++
    ", device_id: " ++ Text.quoted s.deviceId ++ ", .. \x7d"

end Session

end MusicLibrary
