import MusicLibrary.Proofs.Browsing.Run

/-!
# Opening an item

What the children of an item are that has been opened: the items of the server's listing, one
node each, in the one order that the level wants and that leaves items with equal keys as the
server lists them. An album one of whose tracks has a file of unknown type is not shown, and the
track that is reported is the first in that order, not the first that the server lists.
-/

namespace MusicLibrary.Browsing

open Catalogue Media

variable {σ : Type}

/-- **Opening an item is exact**: its children are the items of the listing in the one
arrangement that there is of them, and of the tracks without a known type the first in this
arrangement is reported. -/
theorem browse_arranges_children (server : Server σ) (session : Session) (preferred : List String)
    {s t u : σ} {id : String} {item : Item} {level child : Level} {listing : Listing}
    (hid : id ≠ "")
    (hitem : server.answer (.item id) s = (.ok item, t)) (hopens : Opens item level child)
    (hlist : server.answer (.items (child.query item.id)) t = (.ok listing, u)) :
    (∃! l, child.Arranged listing.items l) ∧ ∀ l, child.Arranged listing.items l →
      ((child = .track → ∀ a ∈ l, (fileType? a).isSome) →
        ∃ node, ((browse session (some id) preferred).run server s).result = .ok node ∧
          node.children = some (l.map (child.summary session)) ∧
          node.childrenClass = some child.mediaClass) ∧
      ∀ before track after, child = .track → l = before ++ track :: after →
        (∀ a ∈ before, (fileType? a).isSome) → fileType? track = none →
        ((browse session (some id) preferred).run server s).result =
          .error (.undeterminedType (reportedPath track)) := by
  have harranged := child.arranged_arrange listing.items
  refine ⟨⟨_, harranged, fun l hl => hl.unique harranged⟩, fun l hl => ?_⟩
  obtain rfl := hl.unique harranged
  rw [run_browse_opens session preferred hid hitem hopens hlist]
  refine ⟨fun htyped => ⟨_, Level.expansion_eq_ok_iff.mpr ⟨htyped, rfl⟩, rfl, rfl⟩, ?_⟩
  rintro before track after rfl hsplit hbefore htrack
  rw [hsplit]
  exact Level.expansion_append_cons hbefore htrack

/-! ### An album with two tracks of unknown type -/

/-- A track with a number and a file, if it has them. -/
def brokenTrack (id : String) (index : Option UInt32) (path : Option String) : Item :=
  ⟨id, id, .audio, none, index, .empty, some .audio, [⟨none, path, none⟩]⟩

/-- The tracks of the album as the server lists them. -/
def brokenTracks : List Item :=
  [brokenTrack "x" none none, brokenTrack "b" (some 2) none,
    brokenTrack "a" (some 1) (some "/a.mp3")]

/-- The album. -/
def brokenAlbum : Item := ⟨"al", "Broken", .album, none, none, .empty, none, []⟩

/-- A server with the album alone. -/
def brokenAlbumServer : Server Unit := .fixed fun
  | .item _ => .ok brokenAlbum
  | .folders => .ok ⟨[], none⟩
  | .items _ => .ok ⟨brokenTracks, some 3⟩

/-- The server lists track `x` first, but it has no number, and track `b` is reported. -/
theorem browse_arranges_children_album :
    "al" ≠ "" ∧ brokenAlbumServer.answer (.item "al") () = (.ok brokenAlbum, ()) ∧
    Opens brokenAlbum .album .track ∧
    brokenAlbumServer.answer (.items (Level.track.query brokenAlbum.id)) () =
      (.ok ⟨brokenTracks, some 3⟩, ()) ∧
    (∃! l, Level.track.Arranged brokenTracks l) ∧
    ((browse sampleSession (some "al") []).run brokenAlbumServer ()).result =
      .error (.undeterminedType "(no media source path on item b)") := by
  have hid : "al" ≠ "" := by decide
  have hitem : brokenAlbumServer.answer (.item "al") () = (.ok brokenAlbum, ()) := rfl
  have hopens : Opens brokenAlbum .album .track := .album rfl
  have hlist : brokenAlbumServer.answer (.items (Level.track.query brokenAlbum.id)) () =
      (.ok ⟨brokenTracks, some 3⟩, ()) := rfl
  have h := browse_arranges_children brokenAlbumServer sampleSession [] hid hitem hopens hlist
  have harrange : Level.track.arrange brokenTracks =
      [brokenTrack "a" (some 1) (some "/a.mp3")] ++
        brokenTrack "b" (some 2) none :: [brokenTrack "x" none none] := by
    cbv
  have htyped : ∀ a ∈ [brokenTrack "a" (some 1) (some "/a.mp3")], (fileType? a).isSome := by
    decide +kernel
  exact ⟨hid, hitem, hopens, hlist, h.1,
    (h.2 _ (Level.track.arranged_arrange _)).2 _ _ _ rfl harrange htyped rfl⟩

end MusicLibrary.Browsing
