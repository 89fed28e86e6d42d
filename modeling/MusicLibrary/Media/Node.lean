import MusicLibrary.Media.MediaClass
import MusicLibrary.Json.Record

/-!
# Nodes of the media tree

A node is what a listener sees of an item: its place and class, its title, whether it can be played or
opened, and below it, once it has been opened, its children. Nodes are built from a bare one by steps
that each set one aspect, and they are written to and read from JSON; members that are absent are left
out, but the identifier is always written.
-/

namespace MusicLibrary.Media

/-- A node of the tree of a media source. -/
structure Node where
  /-- The domain of the source. -/
  domain : String
  /-- The identifier of the item; the root has none. -/
  identifier : Option String
  /-- The class of the node. -/
  mediaClass : MediaClass
  /-- The type of the media to play; empty if there is none. -/
  contentType : String
  /-- The title that is shown. -/
  title : String
  /-- The node can be played. -/
  canPlay : Bool
  /-- The node can be opened. -/
  canExpand : Bool
  /-- Where an image of the item is found. -/
  thumbnail : Option String
  /-- The children, if the node has been opened. -/
  children : Option (List Node)
  /-- The class of the children, if the node has been opened. -/
  childrenClass : Option MediaClass
  deriving Repr

namespace Node

/-! ### Building -/

/-- A node that can be neither played nor opened. -/
def bare (domain : String) (identifier : Option String) (mediaClass : MediaClass) (title : String) : Node :=
  ⟨domain, identifier, mediaClass, "", title, false, false, none, none, none⟩

/-- The node as one that can be played. -/
def playable (n : Node) (contentType : String) : Node :=
  { n with contentType, canPlay := true, canExpand := false }

/-- The node as one that can be opened. -/
def expandable (n : Node) : Node :=
  { n with canPlay := false, canExpand := true }

/-- The node with another thumbnail. -/
def withThumbnail (n : Node) (thumbnail : Option String) : Node :=
  { n with thumbnail }

/-- The node opened, with the given children of one class. -/
def withChildren (n : Node) (childrenClass : MediaClass) (children : List Node) : Node :=
  { n with children := some children, childrenClass := some childrenClass }

/-- The children of a node; none if it has not been opened. -/
def childList (n : Node) : List Node := n.children.getD []

/-- The node is the root of its source. -/
def isRoot (n : Node) : Bool := n.identifier.isNone

/-! ### Equality -/

mutual

/-- Whether two nodes are equal, compared member by member. -/
def decEq : (a b : Node) → Decidable (a = b)
  | ⟨d, i, c, ct, t, p, e, th, ch, cc⟩, ⟨d', i', c', ct', t', p', e', th', ch', cc'⟩ =>
    match decEqChildren ch ch' with
    | isTrue h =>
      if h' : d = d' ∧ i = i' ∧ c = c' ∧ ct = ct' ∧ t = t' ∧ p = p' ∧ e = e' ∧ th = th' ∧ cc = cc' then
        isTrue (by obtain ⟨rfl, rfl, rfl, rfl, rfl, rfl, rfl, rfl, rfl⟩ := h'; rw [h])
      else
        isFalse fun eq => h' (by cases eq; exact ⟨rfl, rfl, rfl, rfl, rfl, rfl, rfl, rfl, rfl⟩)
    | isFalse h => isFalse fun eq => h (by cases eq; rfl)

/-- Whether two nodes have equal children. -/
def decEqChildren : (a b : Option (List Node)) → Decidable (a = b)
  | none, none => isTrue rfl
  | some _, none => isFalse nofun
  | none, some _ => isFalse nofun
  | some as, some bs =>
    match decEqList as bs with
    | isTrue h => isTrue (by rw [h])
    | isFalse h => isFalse fun eq => h (by cases eq; rfl)

/-- Whether two lists of nodes are equal. -/
def decEqList : (as bs : List Node) → Decidable (as = bs)
  | [], [] => isTrue rfl
  | _ :: _, [] => isFalse nofun
  | [], _ :: _ => isFalse nofun
  | a :: as, b :: bs =>
    match decEq a b, decEqList as bs with
    | isTrue h, isTrue h' => isTrue (by rw [h, h'])
    | isFalse h, _ => isFalse fun eq => h (by cases eq; rfl)
    | _, isFalse h => isFalse fun eq => h (by cases eq; rfl)

end

instance : DecidableEq Node := decEq

/-! ### Writing -/

mutual

/-- A node in JSON. -/
def write : Node → List Char
  | ⟨domain, identifier, mediaClass, contentType, title, canPlay, canExpand, thumbnail, children, childrenClass⟩ =>
    Json.writeObject (
      [("domain", Json.writeString domain),
        ("identifier", Json.writeNullable Json.writeString identifier),
        ("media_class", mediaClass.write),
        ("media_content_type", Json.writeString contentType),
        ("title", Json.writeString title),
        ("can_play", Json.writeBoolean canPlay),
        ("can_expand", Json.writeBoolean canExpand)] ++
      (thumbnail.map fun t => ("thumbnail", Json.writeString t)).toList ++
      writeChildren children ++
      (childrenClass.map fun c => ("children_media_class", c.write)).toList)

/-- The member that holds the children, if there are any to write. -/
def writeChildren : Option (List Node) → List (String × List Char)
  | none => []
  | some ns => [("children", Json.writeArray (writeList ns))]

/-- The nodes of a list in JSON. -/
def writeList : List Node → List (List Char)
  | [] => []
  | n :: ns => write n :: writeList ns

end

/-! ### Reading -/

/-- The name of the record in messages. -/
def recordTitle : String := "BrowseMediaSource"

/-- The members of a node, `opens` being the number of arrays and objects that each may open and
`children` the reader of its children. -/
def format (opens : Nat) (children : Json.Reader (List Node)) : Json.RecordFormat Node where
  blank := bare "" none .directory ""
  members :=
    [.of "domain" .required Json.string fun domain n => { n with domain },
      .of "identifier" .nullable (Json.nullable Json.string) fun identifier n => { n with identifier },
      .of "media_class" .required (MediaClass.reader opens) fun mediaClass n => { n with mediaClass },
      .of "media_content_type" .required Json.string fun contentType n => { n with contentType },
      .of "title" .required Json.string fun title n => { n with title },
      .of "can_play" .required Json.boolean fun canPlay n => { n with canPlay },
      .of "can_expand" .required Json.boolean fun canExpand n => { n with canExpand },
      .of "thumbnail" .optional (Json.nullable Json.string) fun thumbnail n => { n with thumbnail },
      .of "children" .optional (Json.nullable children) fun children n => { n with children },
      .of "children_media_class" .optional (Json.nullable (MediaClass.reader opens))
        fun childrenClass n => { n with childrenClass }]

/-- A node, inside which `opens` arrays and objects may be opened. -/
def reader (opens : Nat) : Json.Reader Node :=
  Json.record recordTitle opens fun n _ => format n (Json.array n fun m _ => reader m)
termination_by opens

/-- The node that makes up the whole of a text. -/
def decode (s : String) : Except Json.ReadError Node := (reader Json.openLimit).readAll s.toList

/-- The text of a node. -/
def encode (n : Node) : String := String.ofList n.write

end Node

end MusicLibrary.Media
