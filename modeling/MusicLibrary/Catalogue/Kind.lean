import MusicLibrary.Json.Reader
import MusicLibrary.Json.Writer

/-!
# Kinds of items

A media server classifies an item, a library and a medium by a name each. The names that matter here have
a constructor of their own; any other is kept as it is, so that no classification is lost.
-/

namespace MusicLibrary.Catalogue

/-- What an item is. -/
inductive ItemKind where
  /-- A library. -/
  | library
  /-- An artist. -/
  | artist
  /-- An album. -/
  | album
  /-- A track. -/
  | audio
  /-- Anything else, by its name. -/
  | other (name : String)
  deriving DecidableEq, Repr

/-- What a library holds. -/
inductive CollectionKind where
  /-- Music. -/
  | music
  /-- Films. -/
  | movies
  /-- Television series. -/
  | tvShows
  /-- Anything else, by its name. -/
  | other (name : String)
  deriving DecidableEq, Repr

/-- What an item plays. -/
inductive MediumKind where
  /-- Sound. -/
  | audio
  /-- Moving pictures. -/
  | video
  /-- Anything else, by its name. -/
  | other (name : String)
  deriving DecidableEq, Repr

namespace ItemKind

/-- The name that the server gives the kind. -/
def name : ItemKind → String
  | library => "CollectionFolder"
  | artist => "MusicArtist"
  | album => "MusicAlbum"
  | audio => "Audio"
  | other name => name

/-- The kind of a given name. -/
def ofName (name : String) : ItemKind :=
  if name = "CollectionFolder" then library
  else if name = "MusicArtist" then artist
  else if name = "MusicAlbum" then album
  else if name = "Audio" then audio
  else other name

/-- A kind is read by its name. -/
def reader : Json.Reader ItemKind := Json.string.map ofName

/-- A kind is written as its name. -/
def write (k : ItemKind) : List Char := Json.writeString k.name

end ItemKind

namespace CollectionKind

/-- The name that the server gives the kind. -/
def name : CollectionKind → String
  | music => "music"
  | movies => "movies"
  | tvShows => "tvshows"
  | other name => name

/-- The kind of a given name. -/
def ofName (name : String) : CollectionKind :=
  if name = "music" then music
  else if name = "movies" then movies
  else if name = "tvshows" then tvShows
  else other name

/-- A kind is read by its name. -/
def reader : Json.Reader CollectionKind := Json.string.map ofName

/-- A kind is written as its name. -/
def write (k : CollectionKind) : List Char := Json.writeString k.name

end CollectionKind

namespace MediumKind

/-- The name that the server gives the kind. -/
def name : MediumKind → String
  | audio => "Audio"
  | video => "Video"
  | other name => name

/-- The kind of a given name. -/
def ofName (name : String) : MediumKind :=
  if name = "Audio" then audio
  else if name = "Video" then video
  else other name

/-- A kind is read by its name. -/
def reader : Json.Reader MediumKind := Json.string.map ofName

/-- A kind is written as its name. -/
def write (k : MediumKind) : List Char := Json.writeString k.name

end MediumKind

end MusicLibrary.Catalogue
