import MusicLibrary.Proofs.Browsing.Trace
import MusicLibrary.Proofs.Catalogue.KindNames

/-!
# Opening by name

Whether an item is opened is decided by two strings in its text, what it says that the item is and
what it holds (`browse_decides_by_names`). They are compared letter by letter with four names, and
what is refused is reported in the letters of the text.
-/

namespace MusicLibrary.Browsing

open Catalogue Media

variable {σ : Type} {server : Server σ} {s t : σ}

section

variable {text : String} {item : Item} {kind collection : Option String}
  (hdecode : Item.decode text = .ok item) (hkind : Item.Says text "Type" kind)
  (hcollection : Item.Says text "CollectionType" collection)

include hdecode hkind in
/-- An item is of a kind that has a name if and only if its text says this name. -/
theorem kind_eq_iff_said {k : ItemKind} (hk : k.Canonical) (hname : k.name ≠ "") :
    item.kind = k ↔ kind = some k.name := by
  rw [Item.kind_eq_of_said hdecode hkind, ItemKind.ofName_eq_iff hk]
  cases kind with
  | none => simp [hname.symm]
  | some a => simp

include hdecode hcollection in
theorem collection_eq_music_iff_said :
    item.collection = some .music ↔ collection = some "music" := by
  rw [← Item.says_music_iff hdecode, Item.says_collection_iff hdecode,
    ← (Item.says_collection_iff hdecode).mp hcollection, eq_comm]

include hdecode hkind hcollection in
/-- The items that can be opened, by the names that their texts give them. -/
theorem exists_opens_iff_said : (∃ level child, Opens item level child) ↔
    kind = some "CollectionFolder" ∧ collection = some "music" ∨
      kind = some "MusicArtist" ∨ kind = some "MusicAlbum" := by
  have hlibrary := kind_eq_iff_said hdecode hkind (k := .library) rfl (by decide)
  have hartist := kind_eq_iff_said hdecode hkind (k := .artist) rfl (by decide)
  have halbum := kind_eq_iff_said hdecode hkind (k := .album) rfl (by decide)
  rw [exists_opens_iff, hlibrary, hartist, halbum,
    collection_eq_music_iff_said hdecode hcollection]
  rfl

include hdecode hkind hcollection in
/-- Why an item cannot be opened, in the names that its text gives it. -/
theorem refusal_of_said : refusal item =
    if kind = some "CollectionFolder" then .unsupportedCollection (collection.getD "(none)")
    else .unsupportedItemKind (kind.getD "") := by
  have hlibrary := kind_eq_iff_said hdecode hkind (k := .library) rfl (by decide)
  have hname : item.kind.name = kind.getD "" := by
    rw [Item.kind_eq_of_said hdecode hkind, ItemKind.name_ofName]
  simp only [refusal, hlibrary, hname, ← (Item.says_collection_iff hdecode).mp hcollection]
  rfl

end

theorem concernsItem_refusal (item : Item) : (refusal item).concernsItem = true := by
  unfold refusal
  split_ifs <;> rfl

/-- The children of an item are asked for if and only if it can be opened. -/
theorem exists_requests_iff {id : String} {item : Item} (session : Session)
    (preferred : List String) (hid : id ≠ "")
    (hitem : server.answer (.item id) s = (.ok item, t)) :
    (∃ query, ((browse session (some id) preferred).run server s).requests =
      [.item id, .items query]) ↔ ∃ level child, Opens item level child := by
  rw [requests_browse]
  simp only [requestsToBrowse, if_neg hid, hitem]
  constructor
  · rintro ⟨query, hquery⟩
    by_contra hrefused
    rw [furtherRequests_of_not_opens fun level child h => hrefused ⟨level, child, h⟩] at hquery
    cases hquery
  · rintro ⟨level, child, hopens⟩
    exact ⟨_, by rw [furtherRequests_of_opens hopens]⟩

/-- **The names that a server gives decide what is opened.** The children of an item are asked for
if and only if its text says that it is an artist or an album, or a library and that it holds
music, in exactly these letters. An item that is said to be anything else is refused by that name,
whatever it is said to hold, and a library by what it is said to hold in place of music; nothing
else is asked then, and the failure concerns the item. -/
theorem browse_decides_by_names (server : Server σ) (session : Session) (preferred : List String)
    {id text : String} {item : Item} {s t : σ} (hid : id ≠ "")
    (hdecode : Item.decode text = .ok item)
    (hitem : server.answer (.item id) s = (.ok item, t)) :
    (∃ kind, Item.Says text "Type" kind) ∧
    (∃ collection, Item.Says text "CollectionType" collection) ∧
    ∀ kind collection, Item.Says text "Type" kind → Item.Says text "CollectionType" collection →
      ((∃ query, ((browse session (some id) preferred).run server s).requests =
          [.item id, .items query]) ↔
        kind = some "CollectionFolder" ∧ collection = some "music" ∨
          kind = some "MusicArtist" ∨ kind = some "MusicAlbum") ∧
      (kind ∉ [some "CollectionFolder", some "MusicArtist", some "MusicAlbum"] →
        (browse session (some id) preferred).run server s =
          ⟨.error (.unsupportedItemKind (kind.getD "")), [.item id], t⟩) ∧
      (kind = some "CollectionFolder" → collection ≠ some "music" →
        (browse session (some id) preferred).run server s =
          ⟨.error (.unsupportedCollection (collection.getD "(none)")), [.item id], t⟩) ∧
      ∀ cause, ((browse session (some id) preferred).run server s).result = .error cause →
        (¬ ∃ query, ((browse session (some id) preferred).run server s).requests =
          [.item id, .items query]) → cause.concernsItem = true := by
  refine ⟨Item.exists_says_kind hdecode, ⟨_, (Item.says_collection_iff hdecode).mpr rfl⟩,
    fun kind collection hkind hcollection => ?_⟩
  have hopens := exists_opens_iff_said hdecode hkind hcollection
  have hrefusal := refusal_of_said hdecode hkind hcollection
  have hrefused : (¬ ∃ level child, Opens item level child) →
      (browse session (some id) preferred).run server s =
        ⟨.error (refusal item), [.item id], t⟩ := fun h =>
    run_browse_refused session preferred hid hitem fun level child ho => h ⟨level, child, ho⟩
  rw [exists_requests_iff session preferred hid hitem]
  refine ⟨hopens, fun hother => ?_, fun hlibrary hmusic => ?_, fun cause hcause hclosed => ?_⟩
  · simp only [List.mem_cons, List.not_mem_nil, or_false, not_or] at hother
    rw [hrefused (by simp [hopens, hother]), hrefusal, if_neg hother.1]
  · rw [hrefused (by simp [hopens, hlibrary, hmusic]), hrefusal, if_pos hlibrary]
  · rw [hrefused hclosed] at hcause
    rw [← Except.error.inj hcause]
    exact concernsItem_refusal item

/-! ### A library of something that is almost music -/

/-- A library that holds, letter by letter, what no library of music holds. -/
def nearMiss : Item :=
  { Item.blank with id := "m", kind := .library, collection := some (.other "Music") }

/-- A server with this library alone. -/
def nearMissServer : Server Unit := .fixed fun
  | .item _ => .ok nearMiss
  | .folders => .ok ⟨[nearMiss], none⟩
  | .items _ => .ok ⟨[], none⟩

/-- It is refused by the very word. -/
theorem browse_decides_by_names_near_miss :
    Item.decode nearMiss.encode = .ok nearMiss ∧
    Item.Says nearMiss.encode "Type" (some "CollectionFolder") ∧
    Item.Says nearMiss.encode "CollectionType" (some "Music") ∧
    (browse sampleSession (some "m") []).run nearMissServer () =
      ⟨.error (.unsupportedCollection "Music"), [.item "m"], ()⟩ := by
  have hcanonical : nearMiss.Canonical := ⟨rfl, by simp [nearMiss]; rfl, nofun⟩
  have hdecode : Item.decode nearMiss.encode = .ok nearMiss := by
    rw [Item.encode_eq]
    exact Item.decode_encodeWith hcanonical (.refl _)
  have hkind : Item.Says nearMiss.encode "Type" (some "CollectionFolder") :=
    .string (Item.gives_encode_kind.mpr rfl) (Json.takes_writeString _).readAll_value
  have hcollection : Item.Says nearMiss.encode "CollectionType" (some "Music") :=
    (Item.says_collection_iff hdecode).mpr rfl
  have hid : "m" ≠ "" := by decide
  obtain ⟨-, -, hnames⟩ := browse_decides_by_names nearMissServer sampleSession [] hid hdecode
    (s := ()) (t := ()) rfl
  exact ⟨hdecode, hkind, hcollection, (hnames _ _ hkind hcollection).2.2.1 rfl (by decide)⟩

end MusicLibrary.Browsing
