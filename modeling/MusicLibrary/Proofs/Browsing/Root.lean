import MusicLibrary.Proofs.Browsing.Run

/-!
# The root

Which folders stand below the root is decided by one test, and whether a library can be shown by
another, which can fail. The two agree (`isShowable_iff`), so no folder, whatever it is, keeps the
root from being shown: it is shown whenever the folders can be had, with those of music below it
(`root_shows_music`).
-/

namespace MusicLibrary.Browsing

open Catalogue Media

variable {σ : Type}

/-- The folders to show are those that are not refused. -/
theorem isShowable_iff {folder : Item} :
    isShowable folder = true ↔ requireMusic folder = .ok () := by
  rw [isShowable_eq, requireMusic_eq_ok_iff]

/-- What browsing the root results in follows from the answer to its one question. -/
theorem run_browse_root (server : Server σ) (session : Session) {identifier : Option String}
    (hroot : NamesRoot identifier) (preferred : List String) (s : σ) :
    ((browse session identifier preferred).run server s).result =
      (server.answer .folders s).1.map fun listing => rootView session listing.items := by
  have hrun := browsed server session s identifier preferred
  generalize (browse session identifier preferred).run server s = outcome at hrun ⊢
  cases hrun with
  | rootFails _ hfolders => rw [hfolders]; rfl
  | root _ hfolders => rw [hfolders]; rfl
  | itemFails hid | refused hid | childrenFail hid | opened hid => simp [NamesRoot, hid] at hroot

/-- **The root is shown whenever the folders can be had**, and no folder keeps it from being shown.
Its children are the libraries of music, in the order of the folders and as often as they stand
among them. -/
theorem root_shows_music (server : Server σ) (session : Session) {identifier : Option String}
    (hroot : NamesRoot identifier) (preferred : List String) (s : σ) :
    (∀ cause, ((browse session identifier preferred).run server s).result = .error cause ↔
      (server.answer .folders s).1 = .error cause) ∧
    (∀ listing : Listing, (server.answer .folders s).1 = .ok listing →
      ((browse session identifier preferred).run server s).result = .ok
        { domain := "jellyfin"
          identifier := none
          mediaClass := .directory
          contentType := ""
          title := "Jellyfin"
          canPlay := false
          canExpand := true
          thumbnail := none
          children := some
            ((listing.items.filter holdsMusic).map (Level.library.summary session))
          childrenClass := some .directory }) ∧
    (∀ folder, isShowable folder = true ↔ requireMusic folder = .ok ()) ∧
    ∀ folders : List Item, ∃ nodes, libraryNodes (folders.filter isShowable) = .ok nodes := by
  rw [run_browse_root server session hroot preferred s]
  refine ⟨fun cause => ?_, fun listing hlisting => ?_, fun folder => isShowable_iff,
    fun folders => ⟨_, libraryNodes_filter folders⟩⟩
  · cases (server.answer .folders s).1 with
    | error e => simp [Except.map]
    | ok listing => simp [Except.map]
  · rw [hlisting]
    rfl

/-! ### Folders of all sorts -/

/-- A folder of any kind and what it is said to hold. -/
def clutterFolder (id : String) (kind : ItemKind) (collection : Option CollectionKind) : Item :=
  { Item.blank with id, kind, collection }

/-- Folders with other things than music in between, and one of them twice. -/
def clutteredFolders : List Item :=
  [clutterFolder "m" (.other "Folder") (some .music), clutterFolder "v" .library (some .movies),
    clutterFolder "b" .library (some (.other "Music")), clutterFolder "n" .album none,
    clutterFolder "a" .library (some .music), clutterFolder "m" (.other "Folder") (some .music)]

/-- A server with these folders and nothing below them. -/
def clutteredServer : Server Unit := .fixed fun
  | .item id => .error (.notFound id)
  | .folders => .ok ⟨clutteredFolders, some 6⟩
  | .items _ => .error (.status 503 "down")

/-- The folders of music are shown, the one that is listed twice in both places. -/
theorem root_shows_music_cluttered :
    NamesRoot (some "") ∧ ∃ root,
      ((browse sampleSession (some "") []).run clutteredServer ()).result = .ok root ∧
      root.childList.map Node.identifier = [some "m", some "a", some "m"] := by
  have hroot : NamesRoot (some "") := .inr rfl
  have h := root_shows_music clutteredServer sampleSession hroot [] ()
  exact ⟨hroot, _, h.2.1 _ rfl, rfl⟩

end MusicLibrary.Browsing
