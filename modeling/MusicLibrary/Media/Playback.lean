import MusicLibrary.Json.Record
import MusicLibrary.Json.Writer

/-!
# Playback

What a player needs to play an item: where the stream is found and of what type it is.
-/

namespace MusicLibrary.Media

/-- A stream that can be played. -/
structure Playback where
  /-- Where the stream is found. -/
  url : String
  /-- The type of the stream. -/
  contentType : String
  deriving DecidableEq, Repr

namespace Playback

/-- The members of a playback. -/
def format : Json.RecordFormat Playback where
  blank := ⟨"", ""⟩
  members :=
    [.of "url" .required Json.string fun url p => { p with url },
      .of "mime_type" .required Json.string fun contentType p => { p with contentType }]

/-- A playback, inside which `opens` arrays and objects may be opened. -/
def reader (opens : Nat) : Json.Reader Playback := Json.record "PlayMedia" opens fun _ _ => format

/-- The playback that makes up the whole of a text. -/
def decode (s : String) : Except Json.ReadError Playback := (reader Json.openLimit).readAll s.toList

/-- A playback in JSON. -/
def write (p : Playback) : List Char :=
  Json.writeObject [("url", Json.writeString p.url), ("mime_type", Json.writeString p.contentType)]

/-- The text of a playback. -/
def encode (p : Playback) : String := String.ofList p.write

end Playback

end MusicLibrary.Media
