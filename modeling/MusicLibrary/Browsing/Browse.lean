import MusicLibrary.Browsing.Dialogue
import MusicLibrary.Browsing.Location
import MusicLibrary.FileType.Lookup
import MusicLibrary.Media.Node

/-!
# Browsing

A music library is shown as a tree. Below the root stand the libraries that hold music, below a library
its artists, below an artist the albums, below an album the tracks, and only tracks can be played. A node
is shown with its children, one level deep, and nothing is remembered between two looks: an item is asked
for by its identifier, and then its children in one listing. Artists and albums are shown in the order of
their names and tracks in the order of their numbers, those without a number last; items that the order
does not tell apart stay as the server lists them.
-/

namespace MusicLibrary.Browsing

open Catalogue Media

/-- The domain of the addresses of this source. -/
def domain : String := "jellyfin"

/-- The name of the source, which is the title of its root. -/
def sourceName : String := "Jellyfin"

/-- What is shown for a classification that is absent. -/
def noKind : String := "(none)"

/-! ### Nodes for items -/

/-- The media type of an item, by the path of its first file. -/
def contentType (item : Item) : Except Failure String :=
  match item.primaryPath? with
  | none => .error (.undeterminedType ("(no media source path on item " ++ item.id ++ ")"))
  | some path =>
    match FileType.typeOfPath? path with
    | none => .error (.undeterminedType path)
    | some t => .ok t

/-- The root of the tree, not yet opened. -/
def rootNode : Node := (Node.bare domain none .directory sourceName).expandable

/-- The node of a library, not yet opened. -/
def libraryNode (library : Item) : Node :=
  (Node.bare domain (some library.id) .directory library.name).expandable

/-- The node of an artist, not yet opened. -/
def artistNode (session : Session) (artist : Item) : Node :=
  (Node.bare domain (some artist.id) .artist artist.name).expandable.withThumbnail (session.thumbnailUrl? artist)

/-- The node of an album, not yet opened. -/
def albumNode (session : Session) (album : Item) : Node :=
  (Node.bare domain (some album.id) .album album.name).expandable.withThumbnail (session.thumbnailUrl? album)

/-- The node of a track of the given type. -/
def trackNode (session : Session) (track : Item) (type : String) : Node :=
  ((Node.bare domain (some track.id) .track track.name).playable type).withThumbnail (session.thumbnailUrl? track)

/-- The nodes of tracks; none if the type of one is unknown. -/
def trackNodes (session : Session) : List Item → Except Failure (List Node)
  | [] => .ok []
  | track :: tracks =>
    match contentType track with
    | .error e => .error e
    | .ok type =>
      match trackNodes session tracks with
      | .error e => .error e
      | .ok nodes => .ok (trackNode session track type :: nodes)

/-! ### Libraries at the root -/

/-- What the libraries may hold that a server has at the top. -/
def topCollections : List CollectionKind := [.music, .movies, .tvShows]

/-- Of these only music can be shown. -/
def hasView (collection : CollectionKind) : Bool := collection == .music

/-- The library is one of those to show below the root. -/
def isShowable (library : Item) : Bool :=
  match library.collection with
  | some collection => topCollections.contains collection && hasView collection
  | none => false

/-- Refuses a library that does not hold music. -/
def requireMusic (library : Item) : Except Failure Unit :=
  match library.collection with
  | some .music => .ok ()
  | some collection => .error (.unsupportedCollection collection.name)
  | none => .error (.unsupportedCollection noKind)

/-- The nodes of libraries; none if one of them is refused. -/
def libraryNodes : List Item → Except Failure (List Node)
  | [] => .ok []
  | library :: libraries =>
    match requireMusic library with
    | .error e => .error e
    | .ok () =>
      match libraryNodes libraries with
      | .error e => .error e
      | .ok nodes => .ok (libraryNode library :: nodes)

/-! ### The order of the children -/

/-- An item may stand before another in the order of names. -/
def byName (a b : Item) : Bool := decide (a.name ≤ b.name)

/-- A track may stand before another in the order of numbers. -/
def byIndex (a b : Item) : Bool :=
  match a.indexNumber, b.indexNumber with
  | some m, some n => decide (m ≤ n)
  | some _, none => true
  | none, some _ => false
  | none, none => true

/-! ### Questions -/

/-- The member with an item's files, which a listing holds on request only. -/
def filesField : String := "MediaSources"

/-- The query for the children of a kind; tracks are listed with their files. -/
def childQuery (parent : String) (kind : ItemKind) : ItemQuery :=
  let query := ItemQuery.childrenOf parent kind
  if kind = .audio then query.withField filesField else query

/-- The root with the libraries that can be shown, in the server's order. -/
def openLibraries : Dialogue (Except Failure Node) :=
  .demand .folders fun listing =>
    .done ((libraryNodes (listing.items.filter isShowable)).map (rootNode.withChildren .directory))

/-- A library of music with its artists. -/
def openLibrary (session : Session) (library : Item) : Dialogue (Except Failure Node) :=
  .demand (.items (childQuery library.id .artist)) fun listing =>
    .done (.ok ((libraryNode library).withChildren .artist
      ((listing.items.mergeSort byName).map (artistNode session))))

/-- An artist with the albums. -/
def openArtist (session : Session) (artist : Item) : Dialogue (Except Failure Node) :=
  .demand (.items (childQuery artist.id .album)) fun listing =>
    .done (.ok ((artistNode session artist).withChildren .album
      ((listing.items.mergeSort byName).map (albumNode session))))

/-- An album with its tracks. -/
def openAlbum (session : Session) (album : Item) : Dialogue (Except Failure Node) :=
  .demand (.items (childQuery album.id .audio)) fun listing =>
    .done ((trackNodes session (listing.items.mergeSort byIndex)).map
      ((albumNode session album).withChildren .track))

/-- The item with its children, if it is one that can be opened. -/
def openItem (session : Session) (item : Item) : Dialogue (Except Failure Node) :=
  match item.kind with
  | .library =>
    match requireMusic item with
    | .error e => .fail e
    | .ok () => openLibrary session item
  | .artist => openArtist session item
  | .album => openAlbum session item
  | kind => .fail (.unsupportedItemKind kind.name)

/-- The node of the item with the given identifier, or the root if there is none or it is empty. Whatever
types of media the listener prefers, music is all there is. -/
def browse (session : Session) (identifier : Option String) (_preferred : List String) :
    Dialogue (Except Failure Node) :=
  match identifier with
  | none => openLibraries
  | some id => if id.isEmpty then openLibraries else .demand (.item id) (openItem session)

end MusicLibrary.Browsing
