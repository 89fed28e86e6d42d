import MusicLibrary.Proofs.Browsing.Run

/-!
# What the root offers

The root goes by what a folder is said to hold, and opening a folder goes by its kind first. For
libraries the two agree: a library is offered if and only if it is not refused
(`offered_iff_not_refused`). An artist or an album among the folders is never refused, but it is
not offered unless it is said to hold music.
-/

namespace MusicLibrary.Browsing

open Catalogue Media

variable {σ : Type} {server : Server σ}

/-- A child of the node stands for the folder. -/
def Offered (n : Node) (folder : Item) : Prop := ∃ c ∈ n.childList, c.identifier = some folder.id

/-- The item is refused for what it is: nothing but the item is asked for, and its kind or what
it holds is reported. -/
def Refused (id : String) (outcome : Outcome σ (Except Failure Node)) : Prop :=
  outcome.requests = [.item id] ∧
    ∃ name, outcome.result = .error (.unsupportedItemKind name) ∨
      outcome.result = .error (.unsupportedCollection name)

/-- The root offers the folders that hold music. -/
theorem offered_rootView_iff {folders : List Item} {folder : Item} (session : Session)
    (hfolder : folder ∈ folders)
    (hids : ∀ other ∈ folders, other.id = folder.id → other = folder) :
    Offered (rootView session folders) folder ↔ folder.collection = some .music := by
  constructor
  · rintro ⟨c, hc, hid⟩
    obtain ⟨other, hother, rfl⟩ := List.mem_map.mp hc
    obtain ⟨hmem, hmusic⟩ := List.mem_filter.mp hother
    rw [hids other hmem (Option.some.inj hid)] at hmusic
    exact beq_iff_eq.mp hmusic
  · intro hmusic
    have hmem : folder ∈ folders.filter holdsMusic :=
      List.mem_filter.mpr ⟨hfolder, beq_iff_eq.mpr hmusic⟩
    exact ⟨_, List.mem_map_of_mem hmem, rfl⟩

theorem exists_refusal_eq (item : Item) : ∃ name,
    refusal item = .unsupportedItemKind name ∨ refusal item = .unsupportedCollection name := by
  by_cases h : item.kind = .library
  · exact ⟨_, .inr (if_pos h)⟩
  · exact ⟨_, .inl (if_neg h)⟩

/-- The items that are refused are those that cannot be opened. -/
theorem refused_iff {id : String} {item : Item} {s : σ} (session : Session)
    (preferred : List String) (hid : id ≠ "") (hitem : (server.answer (.item id) s).1 = .ok item) :
    Refused id ((browse session (some id) preferred).run server s) ↔
      ¬ ∃ level child, Opens item level child := by
  rw [browse_item hid, run_demand_ok (Prod.ext hitem rfl)]
  constructor
  · rintro ⟨hrequests, -⟩ ⟨level, child, hopens⟩
    -- an item that can be opened is not the only thing asked for
    rw [openItem_of_opens session hopens] at hrequests
    exact absurd (List.cons.inj hrequests).2 (List.cons_ne_nil _ _)
  · intro hrefused
    rw [openItem_of_not_opens session fun level child h => hrefused ⟨level, child, h⟩]
    obtain ⟨name, hname⟩ := exists_refusal_eq item
    exact ⟨rfl, name, hname.imp (congrArg Except.error) (congrArg Except.error)⟩

/-- **A library is offered if and only if it is not refused.** A folder that is an artist or an
album is not refused, and is offered if and only if it is said to hold music; any other folder is
refused, and is not offered unless it is said to hold music. -/
theorem offered_iff_not_refused (session : Session) (preferred : List String) {s t s' : σ}
    {listing : Listing} (hlist : server.answer .folders s = (.ok listing, t))
    (hitems : ∀ folder ∈ listing.items,
      folder.id ≠ "" ∧ (server.answer (.item folder.id) s').1 = .ok folder) :
    ∃ root, ((browse session none preferred).run server s).result = .ok root ∧
      ∀ folder ∈ listing.items,
      (folder.kind = .library → (Offered root folder ↔
        ¬ Refused folder.id ((browse session (some folder.id) preferred).run server s'))) ∧
      (folder.kind = .artist ∨ folder.kind = .album →
        ¬ Refused folder.id ((browse session (some folder.id) preferred).run server s') ∧
          (Offered root folder ↔ folder.collection = some .music)) ∧
      (folder.kind ≠ .library → folder.kind ≠ .artist → folder.kind ≠ .album →
        Refused folder.id ((browse session (some folder.id) preferred).run server s') ∧
          (folder.collection ≠ some .music → ¬ Offered root folder)) := by
  refine ⟨rootView session listing.items, ?_, fun folder hfolder => ?_⟩
  · rw [browse_root (.inl rfl), openRoot, run_demand_ok hlist]
    rfl
  obtain ⟨hid, hitem⟩ := hitems folder hfolder
  -- folders with one identifier are one folder, for the server has one answer to it
  have hids : ∀ other ∈ listing.items, other.id = folder.id → other = folder := by
    intro other hother heq
    have hanswer := (hitems other hother).2
    rw [heq] at hanswer
    exact Except.ok.inj (hanswer.symm.trans hitem)
  rw [offered_rootView_iff session hfolder hids, refused_iff session preferred hid hitem,
    not_not, exists_opens_iff]
  refine ⟨fun hlibrary => ?_, fun hkind => ⟨.inr hkind, Iff.rfl⟩, fun hl ha hb => ⟨?_, id⟩⟩
  · simp [hlibrary]
  · rintro (⟨hkind, -⟩ | hkind | hkind)
    · exact hl hkind
    · exact ha hkind
    · exact hb hkind

/-! ### A library, an artist and a thing of another kind among the folders -/

/-- A folder of a kind, and what it is said to hold. -/
def mixedFolder (id : String) (kind : ItemKind) (collection : Option CollectionKind) : Item :=
  ⟨id, id, kind, collection, none, .empty, none, []⟩

/-- The folders. -/
def mixedFolders : List Item :=
  [mixedFolder "m" .library (some .music), mixedFolder "a" .artist none,
    mixedFolder "f" (.other "Folder") none]

/-- A server with the folders alone. -/
def mixedServer : Server Unit := .fixed fun
  | .item id =>
    match mixedFolders.find? fun folder => folder.id = id with
    | some folder => .ok folder
    | none => .error (.notFound id)
  | .folders => .ok ⟨mixedFolders, none⟩
  | .items _ => .ok ⟨[], none⟩

theorem mixedServer_answer_item : ∀ folder ∈ mixedFolders,
    folder.id ≠ "" ∧ (mixedServer.answer (.item folder.id) ()).1 = .ok folder := by
  simp only [mixedFolders, List.forall_mem_cons, List.not_mem_nil, false_imp_iff, implies_true,
    and_true]
  exact ⟨⟨by decide, rfl⟩, ⟨by decide, rfl⟩, by decide, rfl⟩

/-- The library is offered, the artist is not though it can be opened, and the third folder is
neither offered nor opened. -/
theorem offered_iff_not_refused_mixed :
    mixedServer.answer .folders () = (.ok ⟨mixedFolders, none⟩, ()) ∧
    (∀ folder ∈ mixedFolders,
      folder.id ≠ "" ∧ (mixedServer.answer (.item folder.id) ()).1 = .ok folder) ∧
    ∃ root, ((browse sampleSession none []).run mixedServer ()).result = .ok root ∧
      (Offered root (mixedFolder "m" .library (some .music)) ↔
        ¬ Refused "m" ((browse sampleSession (some "m") []).run mixedServer ())) ∧
      ¬ Refused "a" ((browse sampleSession (some "a") []).run mixedServer ()) ∧
      ¬ Offered root (mixedFolder "a" .artist none) ∧
      Refused "f" ((browse sampleSession (some "f") []).run mixedServer ()) ∧
      ¬ Offered root (mixedFolder "f" (.other "Folder") none) := by
  have hlist : mixedServer.answer .folders () = (.ok ⟨mixedFolders, none⟩, ()) := rfl
  obtain ⟨root, hroot, hfolders⟩ :=
    offered_iff_not_refused sampleSession [] hlist mixedServer_answer_item
  have hm := hfolders (mixedFolder "m" .library (some .music)) (by simp [mixedFolders])
  have ha := hfolders (mixedFolder "a" .artist none) (by simp [mixedFolders])
  have hf := hfolders (mixedFolder "f" (.other "Folder") none) (by simp [mixedFolders])
  have hopen := ha.2.1 (.inl rfl)
  have hshut := hf.2.2 (by decide) (by decide) (by decide)
  refine ⟨hlist, mixedServer_answer_item, root, hroot, hm.1 rfl, hopen.1, ?_, hshut.1,
    hshut.2 (by decide)⟩
  intro hoffered
  cases hopen.2.mp hoffered

/-- What can be opened need not be offered. -/
theorem not_offered_of_opened :
    ¬ ∀ (server : Server Unit) (session : Session) (preferred : List String) (listing : Listing),
      server.answer .folders () = (.ok listing, ()) →
      (∀ folder ∈ listing.items,
        folder.id ≠ "" ∧ (server.answer (.item folder.id) ()).1 = .ok folder) →
      ∃ root, ((browse session none preferred).run server ()).result = .ok root ∧
        ∀ folder ∈ listing.items, Offered root folder ↔ ¬ ∃ name,
          ((browse session (some folder.id) preferred).run server ()).result =
            .error (.unsupportedItemKind name) ∨
          ((browse session (some folder.id) preferred).run server ()).result =
            .error (.unsupportedCollection name) := by
  intro hall
  obtain ⟨root, hroot, hfolders⟩ := hall mixedServer sampleSession [] ⟨mixedFolders, none⟩ rfl
    mixedServer_answer_item
  have hmem : mixedFolder "a" .artist none ∈ mixedFolders := by simp [mixedFolders]
  have hoffered : Offered root (mixedFolder "a" .artist none) := by
    refine (hfolders _ hmem).mpr ?_
    rintro ⟨name, h | h⟩ <;> cases h
  obtain rfl := Except.ok.inj hroot
  -- the library is the only child of the root
  obtain ⟨c, hc, hid⟩ := hoffered
  obtain rfl := List.mem_singleton.mp hc
  exact absurd (Option.some.inj hid) (by decide)

end MusicLibrary.Browsing
