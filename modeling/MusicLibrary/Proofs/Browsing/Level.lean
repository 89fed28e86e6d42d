import MusicLibrary.Browsing.Browse
import MusicLibrary.Proofs.Arrangement
import MusicLibrary.Proofs.Text.ByteOrder

/-!
# The levels of the tree

Below the root the tree has four levels, and what is asked and shown of an item depends on its
level alone: the query for the children (`Level.query`), the node that is shown of an item that
has not been opened (`Level.summary`), the order of the children (`Level.Arranged`) and the node
with its children (`Level.expansion`). The definitions that build nodes are these, level by
level: `openItem_of_opens` for an item that can be opened, `openItem_of_not_opens` for any other.
-/

namespace MusicLibrary.Browsing

open Catalogue Media

/-- A level of the tree below its root. -/
inductive Level where
  /-- The libraries. -/
  | library
  /-- The artists of a library. -/
  | artist
  /-- The albums of an artist. -/
  | album
  /-- The tracks of an album. -/
  | track
  deriving DecidableEq, Repr

/-! ### The files of tracks -/

/-- The type of the first file behind an item, by the extension of its path. -/
def fileType? (item : Item) : Option String := item.primaryPath?.bind FileType.typeOfPath?

/-- What is reported of an item whose file is of unknown type: the path, or that there is none. -/
def reportedPath (item : Item) : String :=
  item.primaryPath?.getD ("(no media source path on item " ++ item.id ++ ")")

theorem contentType_eq (item : Item) : contentType item =
    match fileType? item with
    | some type => .ok type
    | none => .error (.undeterminedType (reportedPath item)) := by
  unfold contentType fileType? reportedPath
  cases item.primaryPath? with
  | none => rfl
  | some path =>
    simp only [Option.bind_some, Option.getD_some]
    cases FileType.typeOfPath? path <;> rfl

/-! ### Keys -/

/-- What artists and albums are ordered by: the bytes of their names. -/
def nameKey (item : Item) : List ℕ := Text.bytes item.name

/-- What tracks are ordered by: their numbers, and no number is beyond all numbers. -/
def indexKey (item : Item) : WithTop ℕ :=
  match item.indexNumber with
  | some n => n.toNat
  | none => ⊤

theorem byName_eq : byName = fun a b => decide (nameKey a ≤ nameKey b) := by
  funext a b
  simp only [byName, nameKey, Text.bytes_le_bytes_iff]

theorem byIndex_eq : byIndex = fun a b => decide (indexKey a ≤ indexKey b) := by
  funext a b
  unfold byIndex indexKey
  cases a.indexNumber with
  | none => cases b.indexNumber <;> simp
  | some m =>
    cases b.indexNumber with
    | none => simp
    | some n => simp [UInt32.le_iff_toNat_le]

namespace Level

/-! ### Levels and what is shown at them -/

/-- The kind of the items at a level. -/
def kind : Level → ItemKind
  | library => .library
  | artist => .artist
  | album => .album
  | track => .audio

/-- The class of the nodes at a level. -/
def mediaClass : Level → MediaClass
  | library => .directory
  | artist => .artist
  | album => .album
  | track => .track

/-- The query for the items at a level below a parent; tracks are wanted with their files. -/
def query (level : Level) (parent : String) : ItemQuery :=
  ⟨true, some parent, some level.kind, if level = track then ["MediaSources"] else []⟩

/-- An item at a level, as a node that has not been opened. -/
def summary (session : Session) (level : Level) (item : Item) : Node where
  domain := "jellyfin"
  identifier := some item.id
  mediaClass := level.mediaClass
  contentType := if level = track then (fileType? item).getD "" else ""
  title := item.name
  canPlay := level = track
  canExpand := level ≠ track
  thumbnail := if level = library then none else session.thumbnailUrl? item
  children := none
  childrenClass := none

/-- The items of a listing in the order in which they are shown at a level. -/
def Arranged : Level → List Item → List Item → Prop
  | track => MusicLibrary.Arranged indexKey
  | _ => MusicLibrary.Arranged nameKey

/-- The items of a listing, sorted as the level wants it. -/
def arrange (level : Level) (items : List Item) : List Item :=
  items.mergeSort (if level = track then byIndex else byName)

/-- The first item at a level whose file must have a type and has none that is known. -/
def untyped? (level : Level) (items : List Item) : Option Item :=
  if level = track then items.find? fun item => (fileType? item).isNone else none

/-- An item opened, its children being the given items at the level `child`; a failure if the
file of one of them is of unknown type. -/
def expansion (session : Session) (level child : Level) (item : Item) (children : List Item) :
    Except Failure Node :=
  match child.untyped? children with
  | some untyped => .error (.undeterminedType (reportedPath untyped))
  | none =>
    .ok ((level.summary session item).withChildren child.mediaClass
      (children.map (child.summary session)))

end Level

/-- The item stands at a level at which it can be opened, and its children are at the level
`child`. -/
inductive Opens (item : Item) : (level child : Level) → Prop where
  /-- A library that holds music has artists. -/
  | library : item.kind = .library → item.collection = some .music → Opens item .library .artist
  /-- An artist has albums. -/
  | artist : item.kind = .artist → Opens item .artist .album
  /-- An album has tracks. -/
  | album : item.kind = .album → Opens item .album .track

/-- Libraries that hold music, artists and albums can be opened, and nothing else. -/
theorem exists_opens_iff {item : Item} : (∃ level child, Opens item level child) ↔
    item.kind = .library ∧ item.collection = some .music ∨
      item.kind = .artist ∨ item.kind = .album := by
  constructor
  · rintro ⟨level, child, h⟩
    cases h with
    | library hkind hmusic => exact .inl ⟨hkind, hmusic⟩
    | artist hkind => exact .inr (.inl hkind)
    | album hkind => exact .inr (.inr hkind)
  · rintro (⟨hkind, hmusic⟩ | hkind | hkind)
    · exact ⟨_, _, .library hkind hmusic⟩
    · exact ⟨_, _, .artist hkind⟩
    · exact ⟨_, _, .album hkind⟩

/-- An item stands at one of these levels, or at none. -/
theorem opens_or_not_opens (item : Item) :
    (∃ level child, Opens item level child) ∨ ∀ level child, ¬ Opens item level child := by
  by_cases hopens : ∃ level child, Opens item level child
  · exact .inl hopens
  · exact .inr fun level child h => hopens ⟨level, child, h⟩

/-- Why an item cannot be opened: what a library holds, or what an item is that is no library. -/
def refusal (item : Item) : Failure :=
  if item.kind = .library then
    .unsupportedCollection ((item.collection.map CollectionKind.name).getD noKind)
  else .unsupportedItemKind item.kind.name

/-! ### Libraries at the root -/

/-- The library holds music. -/
def holdsMusic (library : Item) : Bool := library.collection == some .music

/-- The libraries to show are those that hold music. -/
theorem isShowable_eq : isShowable = holdsMusic := by
  funext library
  unfold isShowable holdsMusic
  cases library.collection with
  | none => rfl
  | some collection => cases collection <;> rfl

/-- The libraries that are not refused are those that hold music. -/
theorem requireMusic_eq_ok_iff {library : Item} :
    requireMusic library = .ok () ↔ holdsMusic library = true := by
  unfold requireMusic holdsMusic
  cases library.collection with
  | none => simp
  | some collection => cases collection <;> simp

/-- Libraries have nodes if and only if all of them hold music. -/
theorem libraryNodes_eq_ok_iff {libraries : List Item} {nodes : List Node} :
    libraryNodes libraries = .ok nodes ↔
      (∀ library ∈ libraries, holdsMusic library = true) ∧ nodes = libraries.map libraryNode := by
  induction libraries generalizing nodes with
  | nil => exact ⟨fun h => ⟨nofun, (Except.ok.inj h).symm⟩, fun h => h.2 ▸ rfl⟩
  | cons library libraries ih =>
    rw [List.forall_mem_cons, List.map_cons, ← requireMusic_eq_ok_iff, libraryNodes]
    cases requireMusic library with
    | error e => simp
    | ok _ =>
      cases hnodes : libraryNodes libraries with
      | error e =>
        refine ⟨nofun, fun ⟨⟨_, hall⟩, _⟩ => ?_⟩
        cases hnodes.symm.trans (ih.mpr ⟨hall, rfl⟩)
      | ok rest =>
        obtain ⟨hall, rfl⟩ := ih.mp hnodes
        exact ⟨fun h => ⟨⟨rfl, hall⟩, (Except.ok.inj h).symm⟩, fun h => h.2 ▸ rfl⟩

/-- None of the libraries to show is refused. -/
theorem libraryNodes_filter (libraries : List Item) :
    libraryNodes (libraries.filter isShowable) =
      .ok ((libraries.filter holdsMusic).map libraryNode) := by
  rw [isShowable_eq, libraryNodes_eq_ok_iff]
  exact ⟨fun library hlibrary => (List.mem_filter.mp hlibrary).2, rfl⟩

/-- The root with the libraries that hold music, in the server's order. -/
def openRoot : Dialogue (Except Failure Node) :=
  .demand .folders fun listing =>
    .done (.ok (rootNode.withChildren .directory
      ((listing.items.filter holdsMusic).map libraryNode)))

theorem openLibraries_eq : openLibraries = openRoot := by
  refine congrArg (Dialogue.demand .folders) (funext fun listing => ?_)
  rw [libraryNodes_filter]
  rfl

/-! ### The builders are these definitions -/

theorem trackNode_eq {item : Item} {type : String} (session : Session)
    (h : fileType? item = some type) :
    trackNode session item type = Level.track.summary session item := by
  simp only [trackNode, Node.bare, Node.playable, Node.withThumbnail, Level.summary, h,
    Option.getD_some]
  rfl

/-- The tracks are shown one by one until a file of unknown type is met. -/
theorem trackNodes_eq (session : Session) (items : List Item) : trackNodes session items =
    match Level.track.untyped? items with
    | some untyped => .error (.undeterminedType (reportedPath untyped))
    | none => .ok (items.map (Level.track.summary session)) := by
  simp only [Level.untyped?, if_true]
  induction items with
  | nil => rfl
  | cons item items ih =>
    rw [trackNodes, contentType_eq, ih, List.find?_cons]
    cases h : fileType? item with
    | none => rfl
    | some type =>
      simp only [Option.isNone_some]
      cases items.find? fun item => (fileType? item).isNone with
      | some untyped => rfl
      | none => simp only [trackNode_eq session h, List.map_cons]

theorem Level.arranged_arrange (level : Level) (items : List Item) :
    level.Arranged items (level.arrange items) := by
  cases level
  case track =>
    simp only [Arranged, arrange, if_true, byIndex_eq]
    exact arranged_mergeSort indexKey items
  all_goals
    simp only [Arranged, arrange, reduceCtorEq, if_false, byName_eq]
    exact arranged_mergeSort nameKey items

theorem Level.Arranged.unique {level : Level} {items l l' : List Item} (h : level.Arranged items l)
    (h' : level.Arranged items l') : l = l' := by
  cases level <;> exact MusicLibrary.Arranged.unique h h'

theorem Level.Arranged.perm {level : Level} {items l : List Item} (h : level.Arranged items l) :
    l.Perm items := by
  cases level <;> exact MusicLibrary.Arranged.perm h

theorem Level.untyped?_eq_none_iff {level : Level} {items : List Item} :
    level.untyped? items = none ↔ (level = .track → ∀ item ∈ items, (fileType? item).isSome) := by
  unfold Level.untyped?
  split_ifs with h <;> simp [h, Option.isSome_iff_ne_none]

/-- An expansion that succeeds has one node for each child, and the types of all files are known. -/
theorem Level.expansion_eq_ok_iff {session : Session} {level child : Level} {item : Item}
    {items : List Item} {node : Node} : level.expansion session child item items = .ok node ↔
      (child = .track → ∀ item ∈ items, (fileType? item).isSome) ∧
        node = (level.summary session item).withChildren child.mediaClass
          (items.map (child.summary session)) := by
  rw [← Level.untyped?_eq_none_iff, Level.expansion]
  cases child.untyped? items with
  | none => simp [eq_comm]
  | some untyped => simp

/-- The failure of an expansion is that of the first track whose file is of unknown type. -/
theorem Level.expansion_append_cons {session : Session} {level : Level} {item track : Item}
    {before after : List Item} (hbefore : ∀ item ∈ before, (fileType? item).isSome)
    (htrack : fileType? track = none) :
    level.expansion session .track item (before ++ track :: after) =
      .error (.undeterminedType (reportedPath track)) := by
  have h : Level.track.untyped? (before ++ track :: after) = some track := by
    rw [Level.untyped?, if_pos rfl, List.find?_eq_some_iff_append]
    refine ⟨by simp [htrack], before, after, rfl, fun a ha => ?_⟩
    simpa using hbefore a ha
  rw [Level.expansion, h]

/-- An item that can be opened is opened by one question for its children. -/
theorem openItem_of_opens {item : Item} {level child : Level} (session : Session)
    (h : Opens item level child) :
    openItem session item = .demand (.items (child.query item.id)) fun listing =>
      .done (level.expansion session child item (child.arrange listing.items)) := by
  cases h with
  | library hk hc => simp only [openItem, requireMusic, hk, hc]; rfl
  | artist hk => simp only [openItem, hk]; rfl
  | album hk =>
    simp only [openItem, hk, openAlbum, trackNodes_eq, Level.expansion]
    refine congrArg (Dialogue.demand _) (funext fun listing => ?_)
    rw [show listing.items.mergeSort byIndex = Level.track.arrange listing.items from rfl]
    cases Level.track.untyped? (Level.track.arrange listing.items) <;> rfl

/-- Any other item is refused without a question. -/
theorem openItem_of_not_opens {item : Item} (session : Session)
    (h : ∀ level child, ¬ Opens item level child) :
    openItem session item = .fail (refusal item) := by
  unfold openItem requireMusic refusal
  cases hk : item.kind with
  | library =>
    cases hc : item.collection with
    | none => rfl
    | some collection =>
      cases collection with
      | music => exact absurd (.library hk hc) (h _ _)
      | _ => rfl
  | artist => exact absurd (.artist hk) (h _ _)
  | album => exact absurd (.album hk) (h _ _)
  | _ => rfl

end MusicLibrary.Browsing
