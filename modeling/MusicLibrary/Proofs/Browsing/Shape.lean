import MusicLibrary.Proofs.Browsing.Run
import MusicLibrary.Proofs.FileType.Lookup

/-!
# The shape of what is shown

Whatever a server answers, a node that browsing shows is the root of a tree of the same shape
(`Shown`): it is open, one level deep, and of the classes that the hierarchy prescribes, and each
of its nodes can be either played or opened (`Sound`).
-/

namespace MusicLibrary.Media.Node

/-- The nodes of a tree: its root, and the nodes of the trees below it. -/
inductive Within : Node → Node → Prop where
  /-- The root of the tree. -/
  | root (n : Node) : Within n n
  /-- A node below a child of the root. -/
  | deeper {m c n : Node} : c ∈ n.childList → Within m c → Within m n

/-- In a tree of one level the nodes are the root and its children. -/
theorem Within.of_flat {m n : Node} (hflat : ∀ c ∈ n.childList, c.children = none)
    (h : m.Within n) : m = n ∨ m ∈ n.childList := by
  cases h with
  | root => exact .inl rfl
  | deeper hc hm =>
    cases hm with
    | root => exact .inr hc
    | deeper hd _ =>
      rw [childList, hflat _ hc] at hd
      exact absurd hd List.not_mem_nil

end MusicLibrary.Media.Node

namespace MusicLibrary.Browsing

open Catalogue Media

/-- What holds of every node by itself. -/
structure Sound (n : Node) : Prop where
  /-- It belongs to this source. -/
  domain : n.domain = "jellyfin"
  /-- It can be played or opened, and not both. -/
  play_or_expand : n.canPlay = true ∧ n.canExpand = false ∨ n.canPlay = false ∧ n.canExpand = true
  /-- What can be opened has no type. -/
  contentType_of_expand : n.canExpand = true → n.contentType = ""
  /-- What can be played has one. -/
  contentType_of_play : n.canPlay = true → n.contentType ≠ ""
  /-- Only artists, albums and tracks have an image. -/
  class_of_thumbnail : n.thumbnail.isSome →
    n.mediaClass = .artist ∨ n.mediaClass = .album ∨ n.mediaClass = .track

/-- The class of the children of a node, by its identifier and its own class. -/
inductive ChildClass : Option String → MediaClass → MediaClass → Prop where
  /-- Below the root stand libraries. -/
  | root : ChildClass none .directory .directory
  /-- Below a library stand artists. -/
  | library (id : String) : ChildClass (some id) .directory .artist
  /-- Below an artist stand albums. -/
  | artist (id : String) : ChildClass (some id) .artist .album
  /-- Below an album stand tracks. -/
  | album (id : String) : ChildClass (some id) .album .track

/-- What is shown for an identifier. -/
structure Shown (identifier : Option String) (n : Node) : Prop where
  /-- Every node of the tree is sound. -/
  sound : ∀ m : Node, m.Within n → Sound m
  /-- The node can be opened. -/
  canExpand : n.canExpand = true
  /-- It has been opened. -/
  isOpen : n.children.isSome
  /-- Its children have not. -/
  flat : ∀ c ∈ n.childList, c.children = none ∧ c.childrenClass = none
  /-- The children are of the class that follows in the hierarchy. -/
  hierarchy : ∃ mediaClass, n.childrenClass = some mediaClass ∧
    ChildClass n.identifier n.mediaClass mediaClass ∧
    ∀ c ∈ n.childList, c.mediaClass = mediaClass
  /-- Tracks can be played, and nothing else. -/
  canPlay_iff : ∀ c ∈ n.childList, c.canPlay = true ↔ c.mediaClass = .track
  /-- The root is shown if and only if it is asked for. -/
  root_iff : n.identifier = none ↔ identifier = none ∨ identifier = some ""
  /-- The root is nobody's child. -/
  child_identifier : ∀ c ∈ n.childList, c.identifier.isSome

theorem Sound.of_expandable {n : Node} (hdomain : n.domain = "jellyfin") (hplay : n.canPlay = false)
    (hexpand : n.canExpand = true) (htype : n.contentType = "")
    (hthumbnail : n.thumbnail.isSome →
      n.mediaClass = .artist ∨ n.mediaClass = .album ∨ n.mediaClass = .track) :
    Sound n := by
  refine ⟨hdomain, .inr ⟨hplay, hexpand⟩, fun _ => htype, fun h => ?_, hthumbnail⟩
  rw [hplay] at h
  exact absurd h Bool.false_ne_true

theorem Level.sound_summary (session : Session) {level : Level} {item : Item}
    (h : level = .track → (fileType? item).isSome) : Sound (level.summary session item) := by
  cases level with
  | track =>
    obtain ⟨type, htype⟩ := Option.isSome_iff_exists.mp (h rfl)
    obtain ⟨path, -, hpath⟩ := Option.bind_eq_some_iff.mp htype
    refine ⟨rfl, .inl ⟨rfl, rfl⟩, fun hexpand => ?_, fun _ => ?_, fun _ => .inr (.inr rfl)⟩
    · exact absurd hexpand Bool.false_ne_true
    · simpa [summary, htype] using FileType.typeOfPath?_ne_empty hpath
  | library => exact .of_expandable rfl rfl rfl rfl fun himage => absurd himage Bool.false_ne_true
  | artist => exact .of_expandable rfl rfl rfl rfl fun _ => .inl rfl
  | album => exact .of_expandable rfl rfl rfl rfl fun _ => .inr (.inl rfl)

theorem Level.mediaClass_eq_track_iff {level : Level} :
    level.mediaClass = .track ↔ level = .track := by
  cases level <;> simp [mediaClass]

/-- A sound node that is opened with summaries as its children has the right shape. -/
theorem shown_withChildren (session : Session) {identifier : Option String} {n : Node}
    {child : Level} {items : List Item} (hsound : Sound n) (hexpand : n.canExpand = true)
    (hclass : ChildClass n.identifier n.mediaClass child.mediaClass)
    (hroot : n.identifier = none ↔ NamesRoot identifier)
    (htyped : child = .track → ∀ item ∈ items, (fileType? item).isSome) :
    Shown identifier (n.withChildren child.mediaClass (items.map (child.summary session))) := by
  have hflat : ∀ c ∈
      (n.withChildren child.mediaClass (items.map (child.summary session))).childList,
      ∃ item ∈ items, child.summary session item = c := fun c hc => List.mem_map.mp hc
  refine ⟨fun m hm => ?_, hexpand, rfl, fun c hc => ?_, ⟨_, rfl, hclass, fun c hc => ?_⟩,
    fun c hc => ?_, hroot, fun c hc => ?_⟩
  · -- the tree has one level, so a node of it is the root or one of the summaries
    rcases hm.of_flat fun c hc => by obtain ⟨item, -, rfl⟩ := hflat c hc; rfl with rfl | hm
    · exact ⟨hsound.domain, hsound.play_or_expand, hsound.contentType_of_expand,
        hsound.contentType_of_play, hsound.class_of_thumbnail⟩
    · obtain ⟨item, hitem, rfl⟩ := hflat m hm
      exact Level.sound_summary session fun h => htyped h item hitem
  all_goals obtain ⟨item, -, rfl⟩ := hflat c hc
  · exact ⟨rfl, rfl⟩
  · rfl
  · show decide (child = .track) = true ↔ child.mediaClass = .track
    rw [Level.mediaClass_eq_track_iff]
    exact decide_eq_true_iff
  · rfl

theorem Opens.childClass {item : Item} {level child : Level} (h : Opens item level child)
    (id : String) : ChildClass (some id) level.mediaClass child.mediaClass := by
  cases h with
  | library => exact .library id
  | artist => exact .artist id
  | album => exact .album id

theorem Opens.ne_track {item : Item} {level child : Level} (h : Opens item level child) :
    level ≠ .track := by
  cases h <;> decide

/-- **Whatever the server answers, what is shown has this shape.** -/
theorem shown_of_browse {σ : Type} (server : Server σ) (session : Session)
    (identifier : Option String) (preferred : List String) {s : σ} {n : Node}
    (h : ((browse session identifier preferred).run server s).result = .ok n) :
    Shown identifier n := by
  have hrun := browsed server session s identifier preferred
  generalize (browse session identifier preferred).run server s = outcome at h hrun
  cases hrun with
  | root hroot _ =>
    obtain rfl := Except.ok.inj h
    have hsound : Sound rootNode :=
      .of_expandable rfl rfl rfl rfl fun himage => absurd himage Bool.false_ne_true
    have hclass : ChildClass rootNode.identifier rootNode.mediaClass Level.library.mediaClass :=
      .root
    exact shown_withChildren session hsound rfl hclass ⟨fun _ => hroot, fun _ => rfl⟩
      fun htrack => absurd htrack (by decide)
  | @opened _ item level _ _ _ _ hid _ hopens _ =>
    obtain ⟨htyped, rfl⟩ := Level.expansion_eq_ok_iff.mp h
    have hsound : Sound (level.summary session item) :=
      Level.sound_summary session fun htrack => absurd htrack hopens.ne_track
    refine shown_withChildren session hsound ?_ (hopens.childClass _) ?_ htyped
    · simpa [Level.summary] using hopens.ne_track
    · simp [Level.summary, NamesRoot, hid]
  | rootFails | itemFails | refused | childrenFail => cases h

/-! ### An album with one track -/

/-- The track. -/
def singleTrack : Item :=
  ⟨"t", "Side A", .audio, none, some 1, .empty, some .audio, [⟨none, some "/a.flac", none⟩]⟩

/-- The album. -/
def singleAlbum : Item := ⟨"al", "Single", .album, none, none, .empty, none, []⟩

/-- A server with the album alone. -/
def singleServer : Server Unit := .fixed fun
  | .item _ => .ok singleAlbum
  | .folders => .ok ⟨[], none⟩
  | .items _ => .ok ⟨[singleTrack], some 1⟩

/-- The album is shown with its track, which can be played. -/
theorem shown_of_browse_single :
    ∃ n, ((browse sampleSession (some "al") []).run singleServer ()).result = .ok n ∧
      (∃ c ∈ n.childList, c.canPlay = true) ∧ Shown (some "al") n := by
  have hid : "al" ≠ "" := by decide
  have hitem : singleServer.answer (.item "al") () = (.ok singleAlbum, ()) := rfl
  have hlist : singleServer.answer (.items (Level.track.query singleAlbum.id)) () =
      (.ok ⟨[singleTrack], some 1⟩, ()) := rfl
  have hsorted : Level.track.arrange [singleTrack] = [singleTrack] := by cbv
  have htyped : ∀ item ∈ [singleTrack], (fileType? item).isSome := by decide +kernel
  have hrun := run_browse_opens sampleSession [] hid hitem (.album rfl) hlist
  have hok := (congrArg Outcome.result hrun).trans
    (Level.expansion_eq_ok_iff.mpr ⟨fun _ => hsorted.symm ▸ htyped, rfl⟩)
  refine ⟨_, hok, ?_, shown_of_browse singleServer _ _ _ hok⟩
  rw [show (⟨[singleTrack], some 1⟩ : Listing).items = [singleTrack] from rfl, hsorted]
  exact ⟨_, List.mem_singleton_self _, rfl⟩

end MusicLibrary.Browsing
