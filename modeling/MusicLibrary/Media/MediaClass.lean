import MusicLibrary.Json.Variant
import MusicLibrary.Json.Writer

/-!
# Classes of media

What a node of the tree is, by its place in the hierarchy of directories, artists, albums and tracks.
-/

namespace MusicLibrary.Media

/-- The class of a node. -/
inductive MediaClass where
  /-- The root or a library. -/
  | directory
  /-- An artist. -/
  | artist
  /-- An album. -/
  | album
  /-- A track. -/
  | track
  deriving DecidableEq, Repr

namespace MediaClass

/-- The name of a class. -/
def name : MediaClass → String
  | directory => "directory"
  | artist => "artist"
  | album => "album"
  | track => "track"

/-- The classes, from the top of the hierarchy down. -/
def all : List MediaClass := [directory, artist, album, track]

/-- A class is read by its name. -/
def reader (opens : Nat) : Json.Reader MediaClass :=
  Json.variant opens (all.map fun c => (c.name, c))

/-- The class that makes up the whole of a text. -/
def decode (s : String) : Except Json.ReadError MediaClass := (reader Json.openLimit).readAll s.toList

/-- A class is written as its name. -/
def write (c : MediaClass) : List Char := Json.writeString c.name

/-- The text of a class. -/
def encode (c : MediaClass) : String := String.ofList c.write

end MediaClass

end MusicLibrary.Media
