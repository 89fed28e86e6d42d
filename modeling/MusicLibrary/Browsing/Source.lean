import MusicLibrary.Browsing.Resolve
import MusicLibrary.Media.Address

/-!
# The library as a media source

A host knows its media sources by their domains and asks them for addresses. To the host a failure is a
text, with the word whether an address could not be browsed or not be resolved.
-/

namespace MusicLibrary.Browsing

open Media

/-- What a host is told when a source cannot serve an address. -/
inductive SourceError where
  /-- The address cannot be browsed, for the given reason. -/
  | browse (reason : String)
  /-- The address leads to nothing that can be played, for the given reason. -/
  | unresolvable (reason : String)
  /-- The text is not an address. -/
  | invalidAddress (uri : String)
  deriving DecidableEq, Repr

/-- The text of an error. -/
def SourceError.message : SourceError → String
  | browse reason => "Browse error: " ++ reason
  | unresolvable reason => "Unresolvable media: " ++ reason
  | invalidAddress uri => "Invalid media source URI: " ++ uri

/-- The address that a text stands for. -/
def readAddress (uri : String) : Except SourceError Address :=
  match Address.parse? uri with
  | none => .error (.invalidAddress uri)
  | some address => .ok address

/-- The source serves addresses of its own domain. -/
def handles (address : Address) : Bool := address.domain == some domain

/-- The node at an address. -/
def browseAddress (session : Session) (address : Address) (preferred : List String) :
    Dialogue (Except SourceError Node) :=
  (browse session address.identifier preferred).map (Except.mapError fun e => .browse e.message)

/-- What a player needs to play the item at an address. -/
def resolveAddress (session : Session) (address : Address) : Dialogue (Except SourceError Playback) :=
  match address.identifier with
  | none => .done (.error (.unresolvable address.render))
  | some id => (resolve session id).map (Except.mapError fun e => .unresolvable e.message)

/-- The printed form of a source. -/
def describeSource (session : Session) : String :=
  "JellyfinSource \x7b session: " ++ session.describe ++ " \x7d"

end MusicLibrary.Browsing
