import MusicLibrary.Browsing.Resolve
import MusicLibrary.Proofs.Browsing.Run
import MusicLibrary.Proofs.Catalogue.KindNames

/-!
# Runs of resolving

What resolving comes to with any server. There are five cases (`Resolved`), and every run is one of
them (`resolved`): there is no identifier, the item cannot be had, it plays no sound, its file is of
unknown type, or there is a playback. The order of the cases is that of the failures, and only an
item for which none of them is left resolves (`resolve_exact`).
-/

namespace MusicLibrary.Browsing

open Catalogue Media

variable {σ : Type} {server : Server σ} {session : Session} {s t : σ}

/-- The path of the first file behind an item. -/
theorem primaryPath?_eq (item : Item) :
    item.primaryPath? = item.files.head?.bind MediaFile.path := by
  unfold Item.primaryPath?
  cases item.files <;> rfl

/-- What is reported of an item that plays no sound: the name of what it plays, or that it plays
nothing. -/
def reportedMedium (item : Item) : String := (item.medium.map MediumKind.name).getD noKind

/-- An item that plays sound from a file of known type is played; of any other the first of the two
that it lacks is reported. -/
theorem playback_eq (session : Session) (item : Item) : playback session item =
    if item.medium = some .audio then
      match fileType? item with
      | some type => .ok ⟨session.streamUrl item.id, type⟩
      | none => .error (.undeterminedType (reportedPath item))
    else .error (.unsupportedMedium (reportedMedium item)) := by
  simp only [playback, itemStream, contentType_eq, reportedMedium]
  cases item.medium with
  | none => rfl
  | some medium =>
    cases medium with
    | audio => cases fileType? item <;> rfl
    | video => rfl
    | other name => rfl

theorem resolve_empty (session : Session) :
    resolve session "" = .fail (.invalidIdentifier "") := rfl

theorem resolve_item {id : String} (h : id ≠ "") (session : Session) :
    resolve session id = .demand (.item id) fun item => .done (playback session item) := by
  simp only [resolve, String.isEmpty_iff, h, if_false]

/-- Everything that resolving can come to, the server being in the state `s`. -/
inductive Resolved (server : Server σ) (session : Session) (s : σ) :
    String → Outcome σ (Except Failure Playback) → Prop where
  /-- There is nothing to ask for. -/
  | unnamed : Resolved server session s "" ⟨.error (.invalidIdentifier ""), [], s⟩
  /-- The item cannot be had. -/
  | itemFails {id : String} {cause : Failure} {t : σ} : id ≠ "" →
      server.answer (.item id) s = (.error cause, t) →
      Resolved server session s id ⟨.error cause, [.item id], t⟩
  /-- The item plays no sound. -/
  | silent {id : String} {item : Item} {t : σ} : id ≠ "" →
      server.answer (.item id) s = (.ok item, t) → item.medium ≠ some .audio →
      Resolved server session s id
        ⟨.error (.unsupportedMedium (reportedMedium item)), [.item id], t⟩
  /-- The type of the item's file is unknown. -/
  | untyped {id : String} {item : Item} {t : σ} : id ≠ "" →
      server.answer (.item id) s = (.ok item, t) → item.medium = some .audio →
      fileType? item = none →
      Resolved server session s id ⟨.error (.undeterminedType (reportedPath item)), [.item id], t⟩
  /-- The item is played. -/
  | played {id type : String} {item : Item} {t : σ} : id ≠ "" →
      server.answer (.item id) s = (.ok item, t) → item.medium = some .audio →
      fileType? item = some type →
      Resolved server session s id ⟨.ok ⟨session.streamUrl item.id, type⟩, [.item id], t⟩

theorem run_resolve_item {id : String} {item : Item} (session : Session) (hid : id ≠ "")
    (hitem : server.answer (.item id) s = (.ok item, t)) :
    (resolve session id).run server s = ⟨playback session item, [.item id], t⟩ := by
  rw [resolve_item hid, run_demand_ok hitem]
  rfl

/-- **Every run of resolving is one of these.** -/
theorem resolved (server : Server σ) (session : Session) (s : σ) (id : String) :
    Resolved server session s id ((resolve session id).run server s) := by
  by_cases hid : id = ""
  · subst hid
    exact .unnamed
  · rcases hitem : server.answer (.item id) s with ⟨cause | item, t⟩
    · rw [resolve_item hid, run_demand_error hitem]
      exact .itemFails hid hitem
    · rw [run_resolve_item session hid hitem, playback_eq]
      split_ifs with hmedium
      · cases htype : fileType? item with
        | none => exact .untyped hid hitem hmedium htype
        | some type => exact .played hid hitem hmedium htype
      · exact .silent hid hitem hmedium

/-! ### What resolves and what does not -/

/-- An item with a file of known type is one with a first file that has a path of known type. -/
theorem fileType?_eq_some_iff {item : Item} {type : String} : fileType? item = some type ↔
    ∃ path, item.files.head?.bind MediaFile.path = some path ∧
      FileType.typeOfPath? path = some type := by
  rw [fileType?, primaryPath?_eq, Option.bind_eq_some_iff]

theorem Resolved.result_eq_ok_iff {id : String} {outcome : Outcome σ (Except Failure Playback)}
    (h : Resolved server session s id outcome) {playback : Playback} :
    outcome.result = .ok playback ↔ id ≠ "" ∧ ∃ item type,
      (server.answer (.item id) s).1 = .ok item ∧ item.medium = some .audio ∧
        fileType? item = some type ∧ playback = ⟨session.streamUrl item.id, type⟩ := by
  cases h with
  | unnamed => simp
  | itemFails hid hitem => simp [hitem]
  | silent hid hitem hmedium => simp [hitem, hmedium]
  | untyped hid hitem hmedium htype => simp [hitem, hmedium, htype]
  | played hid hitem hmedium htype => simp [hid, hitem, hmedium, htype, eq_comm]

/-- Of an item that plays no sound it is reported what it plays. -/
theorem playback_of_not_audio {item : Item} (session : Session) (h : item.medium ≠ some .audio) :
    playback session item = .error (.unsupportedMedium (reportedMedium item)) := by
  rw [playback_eq, if_neg h]

theorem playback_of_no_path {item : Item} (session : Session) (h : item.medium = some .audio)
    (hpath : item.files.head?.bind MediaFile.path = none) : playback session item =
      .error (.undeterminedType ("(no media source path on item " ++ item.id ++ ")")) := by
  rw [playback_eq, if_pos h, fileType?, reportedPath, primaryPath?_eq, hpath]
  rfl

theorem playback_of_no_type {item : Item} {path : String} (session : Session)
    (h : item.medium = some .audio) (hpath : item.files.head?.bind MediaFile.path = some path)
    (htype : FileType.typeOfPath? path = none) :
    playback session item = .error (.undeterminedType path) := by
  rw [playback_eq, if_pos h, fileType?, reportedPath, primaryPath?_eq, hpath, Option.bind_some,
    htype]
  rfl

/-- What is reported of a decoded item is what its text says that it plays. -/
theorem reportedMedium_of_said {text : String} {item : Item} {raw : Option String}
    (h : Item.decode text = .ok item) (hsaid : Item.Says text "MediaType" raw) :
    reportedMedium item = raw.getD "(none)" := by
  rw [reportedMedium, ← (Item.says_medium_iff h).mp hsaid]
  rfl

/-- **What resolves, and why anything else does not.** An identifier resolves if and only if it is
not empty, the item can be had and plays sound, and the path of the first of its files is of known
type; the stream is that of the item. The failure of any other is the first of: that there is no
identifier, which is found without a question; the failure to get the item; what the item is said
to play in place of sound; and its path, or that it has none. -/
theorem resolve_exact (server : Server σ) (session : Session) (id : String) (s : σ) :
    (∀ playback, ((resolve session id).run server s).result = .ok playback ↔
      id ≠ "" ∧ ∃ item path type, (server.answer (.item id) s).1 = .ok item ∧
        item.medium = some .audio ∧ item.files.head?.bind MediaFile.path = some path ∧
        FileType.typeOfPath? path = some type ∧
        playback = ⟨session.streamUrl item.id, type⟩) ∧
    (id = "" → (resolve session id).run server s = ⟨.error (.invalidIdentifier ""), [], s⟩) ∧
    (id ≠ "" → ∀ cause t, server.answer (.item id) s = (.error cause, t) →
      (resolve session id).run server s = ⟨.error cause, [.item id], t⟩) ∧
    (id ≠ "" → ∀ item t, server.answer (.item id) s = (.ok item, t) →
      (item.medium ≠ some .audio → (resolve session id).run server s =
        ⟨.error (.unsupportedMedium ((item.medium.map MediumKind.name).getD "(none)")),
          [.item id], t⟩) ∧
      (item.medium = some .audio → item.files.head?.bind MediaFile.path = none →
        (resolve session id).run server s =
          ⟨.error (.undeterminedType ("(no media source path on item " ++ item.id ++ ")")),
            [.item id], t⟩) ∧
      (item.medium = some .audio → ∀ path, item.files.head?.bind MediaFile.path = some path →
        FileType.typeOfPath? path = none →
        (resolve session id).run server s = ⟨.error (.undeterminedType path), [.item id], t⟩) ∧
      ∀ text, Item.decode text = .ok item → (∃ raw, Item.Says text "MediaType" raw) ∧
        (item.medium = some .audio ↔ Item.Says text "MediaType" (some "Audio")) ∧
        ∀ raw, Item.Says text "MediaType" raw → raw ≠ some "Audio" →
          (resolve session id).run server s =
            ⟨.error (.unsupportedMedium (raw.getD "(none)")), [.item id], t⟩) := by
  refine ⟨fun playback => ?_, ?_, fun hid cause t hitem => ?_, fun hid item t hitem => ?_⟩
  · rw [(resolved server session s id).result_eq_ok_iff]
    simp only [fileType?_eq_some_iff]
    constructor
    · rintro ⟨hid, item, type, hitem, hmedium, ⟨path, hpath, htype⟩, rfl⟩
      exact ⟨hid, item, path, type, hitem, hmedium, hpath, htype, rfl⟩
    · rintro ⟨hid, item, path, type, hitem, hmedium, hpath, htype, rfl⟩
      exact ⟨hid, item, type, hitem, hmedium, ⟨path, hpath, htype⟩, rfl⟩
  · rintro rfl
    rfl
  · rw [resolve_item hid, run_demand_error hitem]
  · rw [run_resolve_item session hid hitem]
    refine ⟨fun hmedium => ?_, fun hmedium hpath => ?_, fun hmedium path hpath htype => ?_,
      fun text htext => ⟨⟨_, (Item.says_medium_iff htext).mpr rfl⟩,
        (Item.says_audio_iff htext).symm, fun raw hsaid hraw => ?_⟩⟩
    · rw [playback_of_not_audio session hmedium]
      rfl
    · rw [playback_of_no_path session hmedium hpath]
    · rw [playback_of_no_type session hmedium hpath htype]
    · have hmedium : item.medium ≠ some .audio := by
        intro hmedium
        rw [(Item.says_medium_iff htext).mp hsaid, hmedium] at hraw
        exact hraw rfl
      rw [playback_of_not_audio session hmedium, reportedMedium_of_said htext hsaid]

/-! ### A song that is not called a track -/

/-- A song in two files, of which only the first counts. -/
def song (first : Option String) : Item :=
  { Item.blank with
    id := "song"
    kind := .other "Song"
    medium := some .audio
    files := [⟨none, first, none⟩, ⟨none, some "/music/song.mp3", none⟩] }

/-- A server with the song under all identifiers, its first file with a path under one of them. -/
def songServer : Server Unit := .fixed fun
  | .item id => .ok (song (if id = "a" then some "/music/song.anx" else none))
  | .folders => .ok ⟨[], none⟩
  | .items _ => .ok ⟨[], none⟩

/-- The song resolves to its own stream and the type of the first file, or not at all. -/
theorem resolve_exact_song :
    ((resolve sampleSession "a").run songServer ()).result =
      .ok ⟨sampleSession.streamUrl "song", "application/annodex"⟩ ∧
    (resolve sampleSession "b").run songServer () =
      ⟨.error (.undeterminedType "(no media source path on item song)"), [.item "b"], ()⟩ ∧
    (resolve sampleSession "").run songServer () = ⟨.error (.invalidIdentifier ""), [], ()⟩ := by
  have htype : FileType.typeOfPath? "/music/song.anx" = some "application/annodex" := rfl
  obtain ⟨hplayed, -, -, -⟩ := resolve_exact songServer sampleSession "a" ()
  obtain ⟨-, -, -, hfails⟩ := resolve_exact songServer sampleSession "b" ()
  obtain ⟨-, hempty, -, -⟩ := resolve_exact songServer sampleSession "" ()
  exact ⟨(hplayed _).mpr ⟨by decide, song _, "/music/song.anx", _, rfl, rfl, rfl, htype, rfl⟩,
    (hfails (by decide) (song none) () rfl).2.1 rfl rfl, hempty rfl⟩

end MusicLibrary.Browsing
