import MusicLibrary.Browsing.Browse
import MusicLibrary.Media.Playback

/-!
# Resolving

A track's identifier leads to a stream and its type. The item must be one that plays sound, and the type
of its file must be known.
-/

namespace MusicLibrary.Browsing

open Catalogue Media

/-- Where an item's stream is found, if it plays sound. -/
def itemStream (session : Session) (item : Item) : Except Failure String :=
  match item.medium with
  | some .audio => .ok (session.streamUrl item.id)
  | some medium => .error (.unsupportedMedium medium.name)
  | none => .error (.unsupportedMedium noKind)

/-- What a player needs to play an item. -/
def playback (session : Session) (item : Item) : Except Failure Playback :=
  match itemStream session item with
  | .error e => .error e
  | .ok url =>
    match contentType item with
    | .error e => .error e
    | .ok type => .ok ⟨url, type⟩

/-- What a player needs to play the item with the given identifier. -/
def resolve (session : Session) (identifier : String) : Dialogue (Except Failure Playback) :=
  if identifier.isEmpty then .fail (.invalidIdentifier identifier)
  else .demand (.item identifier) fun item => .done (playback session item)

end MusicLibrary.Browsing
