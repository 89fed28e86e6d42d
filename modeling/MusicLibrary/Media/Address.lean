/-!
# Media addresses

An address names a place in the tree of a media source: the domain of the source and the identifier
of an item in it. Its text is `media-source://domain/identifier`, and only the first slash after the
scheme separates the two, so that identifiers may hold any characters.
-/

namespace MusicLibrary.Media

/-- The text of every address starts with this. -/
def scheme : String := "media-source://"

/-- The domain of a source and the identifier of an item in it. No domain is no source, and no identifier
is the root of the source's tree. -/
structure Address where
  /-- The domain of the source. -/
  domain : Option String
  /-- The identifier of the item. -/
  identifier : Option String
  deriving DecidableEq, Repr

/-- A text, unless it is empty. -/
def nonEmpty (s : List Char) : Option String :=
  if s.isEmpty then none else some (String.ofList s)

namespace Address

/-- The address without domain and identifier. -/
def empty : Address := ⟨none, none⟩

/-- The address of an item in a domain; an empty identifier is the root. -/
def item (domain identifier : String) : Address := ⟨some domain, nonEmpty identifier.toList⟩

/-- The address of the root of a domain. -/
def root (domain : String) : Address := ⟨some domain, none⟩

/-- The text `s` up to its first slash and from after it on; all of `s` and nothing if there is none. -/
def splitSlash : List Char → List Char × List Char
  | [] => ([], [])
  | c :: s => if c = '/' then ([], s) else (c :: (splitSlash s).1, (splitSlash s).2)

/-- The text after `start`, with which `s` must start. -/
def dropStart? : List Char → List Char → Option (List Char)
  | [], s => some s
  | _ :: _, [] => none
  | a :: start, c :: s => if c = a then dropStart? start s else none

/-- The address that a text stands for, if the text starts with the scheme. -/
def parse? (uri : String) : Option Address :=
  (dropStart? scheme.toList uri.toList).map fun rest =>
    let (domain, identifier) := splitSlash rest
    ⟨nonEmpty domain, nonEmpty identifier⟩

/-- The text of an address. -/
def render (a : Address) : String :=
  scheme ++ a.domain.getD "" ++ "/" ++ a.identifier.getD ""

end Address

end MusicLibrary.Media
