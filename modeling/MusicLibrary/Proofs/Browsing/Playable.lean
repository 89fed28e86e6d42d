import MusicLibrary.Proofs.Browsing.Resolution

/-!
# Playing what is shown

A track is shown as one that can be played as soon as the type of its file is known. Whether it
can be resolved depends on one thing more, which is not looked at when it is shown: the server
must say of it that it plays sound. With a server that keeps to what it lists, a playable child
resolves to its own stream and type if this is so, and only then (`resolve_playable_child_iff`).
-/

namespace MusicLibrary.Browsing

open Catalogue Media

variable {σ : Type} {server : Server σ}

theorem run_resolve {id : String} {item : Item} {s : σ} (session : Session) (hid : id ≠ "")
    (hitem : (server.answer (.item id) s).1 = .ok item) :
    ((resolve session id).run server s).result = playback session item := by
  rw [run_resolve_item session hid (Prod.ext hitem rfl)]

/-- An item with a file of known type can be played if it plays sound. -/
theorem playback_of_fileType {item : Item} {type : String} (session : Session)
    (h : fileType? item = some type) :
    playback session item =
      if item.medium = some .audio then .ok ⟨session.streamUrl item.id, type⟩
      else .error (.unsupportedMedium ((item.medium.map MediumKind.name).getD noKind)) := by
  rw [playback_eq, h, reportedMedium]

/-- **A playable child resolves if and only if its item plays sound**; otherwise what it plays is
reported. -/
theorem resolve_playable_child_iff (session : Session) (hserver : Faithful server)
    {identifier : Option String} {preferred : List String} {s : σ} {n c : Node}
    (hn : ((browse session identifier preferred).run server s).result = .ok n)
    (hc : c ∈ n.childList) (hplay : c.canPlay = true) (s' : σ) :
    ∃ id item, c.identifier = some id ∧ (server.answer (.item id) s').1 = .ok item ∧
      item.kind = .audio ∧
      (((resolve session id).run server s').result = .ok ⟨session.streamUrl id, c.contentType⟩ ↔
        item.medium = some .audio) ∧
      (item.medium ≠ some .audio → ((resolve session id).run server s').result =
        .error (.unsupportedMedium ((item.medium.map MediumKind.name).getD noKind))) := by
  have hrun := browsed server session s identifier preferred
  rcases hrun.exists_item_of_mem hn hc with ⟨_, item, -, -, -, rfl⟩ |
    ⟨level, child, parent, listing, item, t, -, hlist, hitem, htyped, rfl⟩
  · cases hplay
  · have htrack : child = .track := by simpa [Level.summary] using hplay
    subst htrack
    obtain ⟨type, htype⟩ := Option.isSome_iff_exists.mp (htyped rfl)
    have hlists : Lists server item := .found hlist hitem
    have hanswer := hserver.answer_item hlists s'
    have hrun := run_resolve session (hserver.id_ne hlists) hanswer
    rw [playback_of_fileType session htype] at hrun
    have hkind : item.kind = .audio := hserver.kind_eq rfl hlist item hitem
    have hcontent : (Level.track.summary session item).contentType = type := by
      simp [Level.summary, htype]
    refine ⟨item.id, item, rfl, hanswer, hkind, ?_, fun hmedium => ?_⟩
    · rw [hrun, hcontent]
      split_ifs with hmedium <;> simp [hmedium]
    · rw [hrun, if_neg hmedium]

/-! ### An album with a track that is not said to play sound -/

/-- A track with a file, that plays what it is said to play. -/
def recording (id : String) (medium : Option MediumKind) : Item :=
  ⟨id, id, .audio, none, none, .empty, medium, [⟨none, some "/music/recording.mp3", none⟩]⟩

/-- The album of the tracks. -/
def recordingAlbum : Item := ⟨"al", "Recordings", .album, none, none, .empty, none, []⟩

/-- The tracks: of the first it is said that it plays sound, of the second nothing is said. -/
def recordings : List Item := [recording "a" (some .audio), recording "b" none]

/-- A server with the album alone. -/
def recordingServer : Server Unit := .fixed fun
  | .item id =>
    if id = "a" then .ok (recording "a" (some .audio))
    else if id = "b" then .ok (recording "b" none)
    else .ok recordingAlbum
  | .folders => .ok ⟨[], none⟩
  | .items query => .ok ⟨if query = Level.track.query "al" then recordings else [], none⟩

/-- The album, opened. -/
def recordingNode : Node :=
  (Level.album.summary sampleSession recordingAlbum).withChildren .track
    (recordings.map (Level.track.summary sampleSession))

theorem mem_recordings_of_lists {item : Item} (h : Lists recordingServer item) :
    item ∈ recordings := by
  cases h with
  | folder h hitem =>
    obtain rfl := Except.ok.inj (congrArg Prod.fst h)
    exact absurd hitem List.not_mem_nil
  | found h hitem =>
    obtain rfl := Except.ok.inj (congrArg Prod.fst h)
    dsimp only at hitem
    split_ifs at hitem
    · exact hitem
    · exact absurd hitem List.not_mem_nil

theorem faithful_recordingServer : Faithful recordingServer := by
  refine ⟨fun hlists s => ?_, fun hlists => ?_,
    fun {query kind listing s t} hkind hlist item hitem => ?_⟩
  · have hmem := mem_recordings_of_lists hlists
    simp only [recordings, List.mem_cons, List.not_mem_nil, or_false] at hmem
    rcases hmem with rfl | rfl <;> rfl
  · have hmem := mem_recordings_of_lists hlists
    simp only [recordings, List.mem_cons, List.not_mem_nil, or_false] at hmem
    rcases hmem with rfl | rfl <;> decide
  · obtain rfl := Except.ok.inj (congrArg Prod.fst hlist)
    dsimp only at hitem
    split_ifs at hitem with hquery
    · subst hquery
      obtain rfl : ItemKind.audio = kind := Option.some.inj hkind
      simp only [recordings, List.mem_cons, List.not_mem_nil, or_false] at hitem
      rcases hitem with rfl | rfl <;> rfl
    · exact absurd hitem List.not_mem_nil

theorem browse_recordingServer :
    ((browse sampleSession (some "al") []).run recordingServer ()).result =
      .ok recordingNode := by
  have hid : "al" ≠ "" := by decide
  have hitem : recordingServer.answer (.item "al") () = (.ok recordingAlbum, ()) := rfl
  have hlist : recordingServer.answer (.items (Level.track.query recordingAlbum.id)) () =
      (.ok ⟨recordings, none⟩, ()) := rfl
  have hsorted : Level.track.arrange recordings = recordings := by cbv
  have htyped : ∀ item ∈ recordings, (fileType? item).isSome := by decide +kernel
  rw [run_browse_opens sampleSession [] hid hitem (.album rfl) hlist]
  show Level.album.expansion _ _ _ (Level.track.arrange recordings) = _
  rw [hsorted]
  exact Level.expansion_eq_ok_iff.mpr ⟨fun _ => htyped, rfl⟩

/-- The first track resolves, and the second does not. -/
theorem resolve_playable_child_iff_recordings :
    Faithful recordingServer ∧
    ((browse sampleSession (some "al") []).run recordingServer ()).result = .ok recordingNode ∧
    ∃ a ∈ recordingNode.childList, ∃ b ∈ recordingNode.childList,
      a.canPlay = true ∧ b.canPlay = true ∧
      ((resolve sampleSession "a").run recordingServer ()).result =
        .ok ⟨sampleSession.streamUrl "a", a.contentType⟩ ∧
      ((resolve sampleSession "b").run recordingServer ()).result =
        .error (.unsupportedMedium "(none)") := by
  have hmem : ∀ item ∈ recordings,
      Level.track.summary sampleSession item ∈ recordingNode.childList :=
    fun item hitem => List.mem_map_of_mem hitem
  have ha := hmem (recording "a" (some .audio)) (by simp [recordings])
  have hb := hmem (recording "b" none) (by simp [recordings])
  refine ⟨faithful_recordingServer, browse_recordingServer, _, ha, _, hb, rfl, rfl, ?_, ?_⟩
  · obtain ⟨id, item, hid, hanswer, -, hiff, -⟩ := resolve_playable_child_iff sampleSession
      faithful_recordingServer browse_recordingServer ha rfl ()
    obtain rfl : "a" = id := Option.some.inj hid
    obtain rfl := Except.ok.inj hanswer
    exact hiff.mpr rfl
  · obtain ⟨id, item, hid, hanswer, -, -, hfails⟩ := resolve_playable_child_iff sampleSession
      faithful_recordingServer browse_recordingServer hb rfl ()
    obtain rfl : "b" = id := Option.some.inj hid
    obtain rfl := Except.ok.inj hanswer
    exact hfails (by decide)

/-- What is shown as playable need not resolve. -/
theorem not_resolve_of_canPlay :
    ¬ ∀ (server : Server Unit) (session : Session) (identifier : Option String)
        (preferred : List String) (n c : Node), Faithful server →
      ((browse session identifier preferred).run server ()).result = .ok n →
      c ∈ n.childList → c.canPlay = true →
      ∃ id, c.identifier = some id ∧ ((resolve session id).run server ()).result =
        .ok ⟨session.streamUrl id, c.contentType⟩ := by
  intro hall
  have hb : Level.track.summary sampleSession (recording "b" none) ∈ recordingNode.childList :=
    List.mem_map_of_mem (by simp [recordings])
  obtain ⟨id, hid, hresolve⟩ := hall recordingServer sampleSession (some "al") [] recordingNode _
    faithful_recordingServer browse_recordingServer hb rfl
  obtain rfl : "b" = id := Option.some.inj hid
  cases hresolve

end MusicLibrary.Browsing
