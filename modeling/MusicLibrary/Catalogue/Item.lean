import MusicLibrary.Catalogue.Kind
import MusicLibrary.Catalogue.ImageTags
import MusicLibrary.Json.Record

/-!
# Items of the catalogue

An item is a library, an artist, an album or a track as the media server describes it, reduced to the
members that are used here. Only the identifier is required. The server's answer to a listing is a list
of items, with their number if it states one.
-/

namespace MusicLibrary.Catalogue

/-- A file behind an item that can be played. -/
structure MediaFile where
  /-- The identifier of the file. -/
  id : Option String
  /-- Where the file lies on the server. -/
  path : Option String
  /-- The container format. -/
  container : Option String
  deriving DecidableEq, Repr

/-- An item. -/
structure Item where
  /-- The identifier. -/
  id : String
  /-- The name that is shown. -/
  name : String
  /-- What the item is. -/
  kind : ItemKind
  /-- What it holds, if it is a library. -/
  collection : Option CollectionKind
  /-- Its number within its album. -/
  indexNumber : Option UInt32
  /-- The tags of its images. -/
  imageTags : ImageTags
  /-- What it plays. -/
  medium : Option MediumKind
  /-- The files behind it. -/
  files : List MediaFile
  deriving DecidableEq

/-- The answer to a listing. -/
structure Listing where
  /-- The items, in the server's order. -/
  items : List Item
  /-- The number of items that the server states. -/
  total : Option UInt32
  deriving DecidableEq

namespace MediaFile

/-- A file of which nothing is known. -/
def blank : MediaFile := ⟨none, none, none⟩

/-- The members of a file. -/
def format : Json.RecordFormat MediaFile where
  blank := blank
  members :=
    [.of "Id" .optional (Json.nullable Json.string) fun id f => { f with id },
      .of "Path" .optional (Json.nullable Json.string) fun path f => { f with path },
      .of "Container" .optional (Json.nullable Json.string) fun container f => { f with container }]

/-- A file, inside which `opens` arrays and objects may be opened. -/
def reader (opens : Nat) : Json.Reader MediaFile := Json.record "MediaSource" opens fun _ _ => format

/-- A file in JSON. -/
def write (f : MediaFile) : List Char :=
  Json.writeObject
    [("Id", Json.writeNullable Json.writeString f.id),
      ("Path", Json.writeNullable Json.writeString f.path),
      ("Container", Json.writeNullable Json.writeString f.container)]

end MediaFile

namespace Item

/-- An item of which nothing is known. -/
def blank : Item := ⟨"", "", .other "", none, none, .empty, none, []⟩

/-- The tag of an image of the item. -/
def imageTag? (item : Item) (kind : String) : Option String := item.imageTags.get? kind

/-- Where the first file of the item lies. -/
def primaryPath? (item : Item) : Option String :=
  match item.files with
  | [] => none
  | file :: _ => file.path

/-- The members of an item, each of which may open `opens` arrays and objects. -/
def format (opens : Nat) : Json.RecordFormat Item where
  blank := blank
  members :=
    [.of "Id" .required Json.string fun id i => { i with id },
      .of "Name" .optional Json.string fun name i => { i with name },
      .of "Type" .optional ItemKind.reader fun kind i => { i with kind },
      .of "CollectionType" .optional (Json.nullable CollectionKind.reader) fun collection i => { i with collection },
      .of "IndexNumber" .optional (Json.nullable Json.word32) fun indexNumber i => { i with indexNumber },
      .of "ImageTags" .optional (ImageTags.reader opens) fun imageTags i => { i with imageTags },
      .of "MediaType" .optional (Json.nullable MediumKind.reader) fun medium i => { i with medium },
      .of "MediaSources" .optional (Json.array opens fun n _ => MediaFile.reader n) fun files i => { i with files }]

/-- An item, inside which `opens` arrays and objects may be opened. -/
def reader (opens : Nat) : Json.Reader Item := Json.record "RemoteItem" opens fun n _ => format n

/-- The item that makes up the whole of a text. -/
def decode (s : String) : Except Json.ReadError Item := (reader Json.openLimit).readAll s.toList

/-- An item in JSON. -/
def write (i : Item) : List Char :=
  Json.writeObject
    [("Id", Json.writeString i.id),
      ("Name", Json.writeString i.name),
      ("Type", i.kind.write),
      ("CollectionType", Json.writeNullable CollectionKind.write i.collection),
      ("IndexNumber", Json.writeNullable (fun n => Json.writeNat n.toNat) i.indexNumber),
      ("ImageTags", i.imageTags.write),
      ("MediaType", Json.writeNullable MediumKind.write i.medium),
      ("MediaSources", Json.writeArray (i.files.map MediaFile.write))]

/-- The text of an item. -/
def encode (i : Item) : String := String.ofList i.write

end Item

namespace Listing

/-- The members of a listing, each of which may open `opens` arrays and objects. -/
def format (opens : Nat) : Json.RecordFormat Listing where
  blank := ⟨[], none⟩
  members :=
    [.of "Items" .optional (Json.array opens fun n _ => Item.reader n) fun items l => { l with items },
      .of "TotalRecordCount" .optional (Json.nullable Json.word32) fun total l => { l with total }]

/-- A listing, inside which `opens` arrays and objects may be opened. -/
def reader (opens : Nat) : Json.Reader Listing := Json.record "ItemsResponse" opens fun n _ => format n

/-- The listing that makes up the whole of a text. -/
def decode (s : String) : Except Json.ReadError Listing := (reader Json.openLimit).readAll s.toList

/-- A listing in JSON. -/
def write (l : Listing) : List Char :=
  Json.writeObject
    [("Items", Json.writeArray (l.items.map Item.write)),
      ("TotalRecordCount", Json.writeNullable (fun n => Json.writeNat n.toNat) l.total)]

/-- The text of a listing. -/
def encode (l : Listing) : String := String.ofList l.write

end Listing

end MusicLibrary.Catalogue
