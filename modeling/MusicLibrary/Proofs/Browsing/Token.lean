import MusicLibrary.Browsing.Source
import MusicLibrary.Http.Client
import MusicLibrary.Proofs.Browsing.Resolution

/-!
# What the token changes

Two sessions that differ in their tokens alone are put to the same use with the same server. The
same is asked of it, and what comes out is the same but for the addresses that a listener's device
fetches by itself: there each session has its own token behind `&api_key=`
(`token_changes_addresses_alone`). The dialogues are compared first, question by question
(`Dialogue.Alike`), and what holds of them holds of their runs with any server
(`Dialogue.Alike.run`).
-/

namespace MusicLibrary

/-- The sessions differ in their tokens alone. -/
structure Session.SameButToken (s s' : Session) : Prop where
  /-- They are with the same server. -/
  baseUrl : s.baseUrl = s'.baseUrl
  /-- They are of the same user. -/
  userId : s.userId = s'.userId
  /-- They are of the same device. -/
  deviceId : s.deviceId = s'.deviceId

namespace Browsing

open Catalogue Media

variable {σ α β γ δ ε ζ : Type} {R : α → β → Prop} {S : γ → δ → Prop}

/-! ### Dialogues that ask the same -/

/-- Two outcomes that differ in their results alone, which are related. -/
structure Outcome.Alike (R : α → β → Prop) (o : Outcome σ α) (o' : Outcome σ β) : Prop where
  /-- The results are related. -/
  result : R o.result o'.result
  /-- The same has been asked. -/
  requests : o.requests = o'.requests
  /-- The server is in the same state. -/
  state : o.state = o'.state

/-- Two results that are the same failure, or are both none and related. -/
inductive ResultAlike (R : α → β → Prop) : Except ε α → Except ε β → Prop where
  /-- The same failure. -/
  | error (e : ε) : ResultAlike R (.error e) (.error e)
  /-- No failure. -/
  | ok {a : α} {b : β} : R a b → ResultAlike R (.ok a) (.ok b)

theorem ResultAlike.mapError {x : Except ε α} {y : Except ε β} (f : ε → ζ)
    (h : ResultAlike R x y) : ResultAlike R (x.mapError f) (y.mapError f) := by
  cases h with
  | error e => exact .error (f e)
  | ok hab => exact .ok hab

namespace Dialogue

/-- Two dialogues that ask the same whatever is answered, and end in related results. -/
inductive Alike (R : α → β → Prop) : Dialogue α → Dialogue β → Prop where
  /-- Nothing is left to ask. -/
  | done {a : α} {b : β} : R a b → Alike R (.done a) (.done b)
  /-- The same question, and after each answer to it dialogues that are alike. -/
  | ask (r : Request) {next : Except Failure r.Answer → Dialogue α}
      {next' : Except Failure r.Answer → Dialogue β} :
      (∀ answer, Alike R (next answer) (next' answer)) → Alike R (.ask r next) (.ask r next')

theorem Alike.run {d : Dialogue α} {d' : Dialogue β} (h : d.Alike R d') (server : Server σ)
    (t : σ) : (d.run server t).Alike R (d'.run server t) := by
  induction h generalizing t with
  | done hab => exact ⟨hab, rfl, rfl⟩
  | ask r _ ih =>
    have hrest := ih (server.answer r t).1 (server.answer r t).2
    exact ⟨hrest.result, congrArg (r :: ·) hrest.requests, hrest.state⟩

theorem Alike.demand (r : Request) {next : r.Answer → Dialogue (Except Failure α)}
    {next' : r.Answer → Dialogue (Except Failure β)}
    (h : ∀ a, (next a).Alike (ResultAlike R) (next' a)) :
    (Dialogue.demand r next).Alike (ResultAlike R) (Dialogue.demand r next') := by
  refine .ask r fun answer => ?_
  cases answer with
  | error cause => exact .done (.error cause)
  | ok a => exact h a

theorem Alike.map {f : α → γ} {g : β → δ} {d : Dialogue α} {d' : Dialogue β} (h : d.Alike R d')
    (hfg : ∀ a b, R a b → S (f a) (g b)) : (d.map f).Alike S (d'.map g) := by
  induction h with
  | done hab => exact .done (hfg _ _ hab)
  | ask r _ ih => exact .ask r ih

end Dialogue

/-! ### What comes out -/

variable {s s' : Session}

/-- Two addresses that are the same but for the token behind `&api_key=`. -/
def AddressAlike (s s' : Session) (rest url url' : String) : Prop :=
  ∃ start, url = start ++ "&api_key=" ++ s.accessToken ++ rest ∧
    url' = start ++ "&api_key=" ++ s'.accessToken ++ rest

/-- Two trees that are the same but for the tokens at the ends of the addresses of images. -/
inductive TreeAlike (s s' : Session) : Node → Node → Prop where
  /-- Everything but the image and the children is the same. -/
  | node {n n' : Node} : n' = { n with thumbnail := n'.thumbnail, children := n'.children } →
      Option.Rel (AddressAlike s s' "") n.thumbnail n'.thumbnail →
      Option.Rel (List.Forall₂ (TreeAlike s s')) n.children n'.children → TreeAlike s s' n n'

/-- Two playbacks that are the same but for the token in the address of the stream. -/
structure PlaybackAlike (s s' : Session) (p p' : Playback) : Prop where
  /-- The addresses are the same but for the token. -/
  url : ∃ rest, AddressAlike s s' rest p.url p'.url
  /-- The types are the same. -/
  contentType : p.contentType = p'.contentType

theorem thumbnailUrl?_alike (h : s.SameButToken s') (item : Item) :
    Option.Rel (AddressAlike s s' "") (s.thumbnailUrl? item) (s'.thumbnailUrl? item) := by
  unfold Session.thumbnailUrl?
  cases item.imageTag? Session.primaryImage with
  | none => exact .none
  | some tag =>
    refine .some ⟨_, String.append_empty.symm, ?_⟩
    rw [h.baseUrl, String.append_empty]

theorem streamUrl_alike (h : s.SameButToken s') (id : String) :
    AddressAlike s s' ("&MaxStreamingBitrate=" ++ Session.greatestBitrate) (s.streamUrl id)
      (s'.streamUrl id) := by
  refine ⟨_, String.append_assoc, ?_⟩
  rw [h.baseUrl, h.userId, h.deviceId]
  exact String.append_assoc

theorem Level.summary_alike (h : s.SameButToken s') (level : Level) (item : Item) :
    TreeAlike s s' (level.summary s item) (level.summary s' item) := by
  refine .node rfl ?_ .none
  show Option.Rel _ (if level = library then none else s.thumbnailUrl? item)
    (if level = library then none else s'.thumbnailUrl? item)
  split_ifs
  · exact .none
  · exact thumbnailUrl?_alike h item

/-- Two nodes that are alike stay so when they are opened, if their children are alike. -/
theorem TreeAlike.withChildren {n n' : Node} {children children' : List Node}
    (h : TreeAlike s s' n n') (mediaClass : MediaClass)
    (hchildren : List.Forall₂ (TreeAlike s s') children children') :
    TreeAlike s s' (n.withChildren mediaClass children) (n'.withChildren mediaClass children') := by
  obtain ⟨hsame, hthumbnail, -⟩ := h
  refine .node ?_ hthumbnail (.some hchildren)
  rw [hsame]
  rfl

theorem forall₂_summary (h : s.SameButToken s') (level : Level) (items : List Item) :
    List.Forall₂ (TreeAlike s s') (items.map (level.summary s)) (items.map (level.summary s')) := by
  rw [List.forall₂_map_left_iff, List.forall₂_map_right_iff, List.forall₂_same]
  exact fun item _ => Level.summary_alike h level item

theorem Level.expansion_alike (h : s.SameButToken s') (level child : Level) (item : Item)
    (items : List Item) : ResultAlike (TreeAlike s s') (level.expansion s child item items)
      (level.expansion s' child item items) := by
  unfold Level.expansion
  cases child.untyped? items with
  | some untyped => exact .error _
  | none =>
    exact .ok ((level.summary_alike h item).withChildren child.mediaClass
      (forall₂_summary h child items))

/-! ### What is done -/

theorem openItem_alike (h : s.SameButToken s') (item : Item) :
    (openItem s item).Alike (ResultAlike (TreeAlike s s')) (openItem s' item) := by
  rcases opens_or_not_opens item with ⟨level, child, hopens⟩ | hrefused
  · rw [openItem_of_opens s hopens, openItem_of_opens s' hopens]
    exact .demand _ fun _ => .done (level.expansion_alike h child item _)
  · rw [openItem_of_not_opens s hrefused, openItem_of_not_opens s' hrefused]
    exact .done (.error _)

theorem openRoot_alike (h : s.SameButToken s') :
    openRoot.Alike (ResultAlike (TreeAlike s s')) openRoot := by
  refine .demand _ fun listing => .done (.ok ?_)
  have hroot : TreeAlike s s' rootNode rootNode := .node rfl .none .none
  exact hroot.withChildren _ (forall₂_summary h .library _)

theorem browse_alike (h : s.SameButToken s') (identifier : Option String)
    (preferred : List String) : (browse s identifier preferred).Alike (ResultAlike (TreeAlike s s'))
      (browse s' identifier preferred) := by
  rcases namesRoot_or_item identifier with hroot | ⟨id, rfl, hid⟩
  · rw [browse_root hroot, browse_root hroot]
    exact openRoot_alike h
  · rw [browse_item hid, browse_item hid]
    exact .demand _ (openItem_alike h)

theorem playback_alike (h : s.SameButToken s') (item : Item) :
    ResultAlike (PlaybackAlike s s') (playback s item) (playback s' item) := by
  rw [playback_eq, playback_eq]
  split_ifs
  · cases fileType? item with
    | none => exact .error _
    | some type => exact .ok ⟨⟨_, streamUrl_alike h item.id⟩, rfl⟩
  · exact .error _

theorem resolve_alike (h : s.SameButToken s') (id : String) :
    (resolve s id).Alike (ResultAlike (PlaybackAlike s s')) (resolve s' id) := by
  by_cases hid : id = ""
  · rw [hid, resolve_empty, resolve_empty]
    exact .done (.error _)
  · rw [resolve_item hid, resolve_item hid]
    exact .demand _ fun item => .done (playback_alike h item)

theorem browseAddress_alike (h : s.SameButToken s') (address : Address) (preferred : List String) :
    (browseAddress s address preferred).Alike (ResultAlike (TreeAlike s s'))
      (browseAddress s' address preferred) :=
  (browse_alike h address.identifier preferred).map fun _ _ halike => halike.mapError _

theorem resolveAddress_alike (h : s.SameButToken s') (address : Address) :
    (resolveAddress s address).Alike (ResultAlike (PlaybackAlike s s'))
      (resolveAddress s' address) := by
  unfold resolveAddress
  cases address.identifier with
  | none => exact .done (.error _)
  | some id => exact (resolve_alike h id).map fun _ _ halike => halike.mapError _

theorem describe_eq (h : s.SameButToken s') : s.describe = s'.describe := by
  unfold Session.describe
  rw [h.baseUrl, h.userId, h.deviceId]

/-- **The token changes nothing but the addresses that it is put into**: what is asked is the same,
a failure is the same, what is shown or played is the same but for the token at the end of the
address of an image or within that of a stream, and no printed form tells the sessions apart. -/
theorem token_changes_addresses_alone (server : Server σ) {s s' : Session}
    (h : s.SameButToken s') (t : σ) :
    (∀ identifier preferred, ((browse s identifier preferred).run server t).Alike
      (ResultAlike (TreeAlike s s')) ((browse s' identifier preferred).run server t)) ∧
    (∀ id, ((resolve s id).run server t).Alike (ResultAlike (PlaybackAlike s s'))
      ((resolve s' id).run server t)) ∧
    (∀ address preferred, ((browseAddress s address preferred).run server t).Alike
      (ResultAlike (TreeAlike s s')) ((browseAddress s' address preferred).run server t)) ∧
    (∀ address, ((resolveAddress s address).run server t).Alike (ResultAlike (PlaybackAlike s s'))
      ((resolveAddress s' address).run server t)) ∧
    s.describe = s'.describe ∧ describeSource s = describeSource s' ∧
    ∀ c c' : Http.Client, c.session = s → c'.session = s' → c.describe = c'.describe := by
  refine ⟨fun identifier preferred => (browse_alike h identifier preferred).run server t,
    fun id => (resolve_alike h id).run server t,
    fun address preferred => (browseAddress_alike h address preferred).run server t,
    fun address => (resolveAddress_alike h address).run server t, describe_eq h, ?_, ?_⟩
  · unfold describeSource
    rw [describe_eq h]
  · rintro c c' rfl rfl
    unfold Http.Client.describe
    rw [describe_eq h]

/-! ### An artist and an album with images -/

/-- The session with another token. -/
def otherSession : Session := { sampleSession with accessToken := "OTHER" }

/-- An artist or an album with an image. -/
def portrayed (id : String) (kind : ItemKind) : Item :=
  { Item.blank with id, kind, imageTags := .ofList [("Primary", "p")] }

/-- A server with the artist and the album. -/
def portraitServer : Server Unit := .fixed fun
  | .item _ => .ok (portrayed "ar" .artist)
  | .folders => .ok ⟨[], none⟩
  | .items _ => .ok ⟨[portrayed "al" .album], none⟩

/-- The artist is shown alike to both sessions, and each sees its own token. -/
theorem token_changes_addresses_alone_portrait :
    sampleSession.SameButToken otherSession ∧ ∃ n n',
      ((browse sampleSession (some "ar") []).run portraitServer ()).result = .ok n ∧
      ((browse otherSession (some "ar") []).run portraitServer ()).result = .ok n' ∧
      TreeAlike sampleSession otherSession n n' ∧
      n.thumbnail = some "http://jf:8096/Items/ar/Images/Primary?Tag=p&api_key=KEY" ∧
      n'.thumbnail = some "http://jf:8096/Items/ar/Images/Primary?Tag=p&api_key=OTHER" ∧
      sampleSession.describe = otherSession.describe := by
  have h : sampleSession.SameButToken otherSession := ⟨rfl, rfl, rfl⟩
  have hsorted : Level.album.arrange [portrayed "al" .album] = [portrayed "al" .album] := by cbv
  have hshown : ∀ session : Session,
      ((browse session (some "ar") []).run portraitServer ()).result =
        .ok ((Level.artist.summary session (portrayed "ar" .artist)).withChildren .album
          [Level.album.summary session (portrayed "al" .album)]) := by
    intro session
    have hid : "ar" ≠ "" := by decide
    rw [run_browse_opens (t := ()) (u := ()) session [] hid rfl (.artist rfl) rfl]
    show Level.artist.expansion session .album _
      (Level.album.arrange [portrayed "al" .album]) = _
    rw [hsorted]
    exact Level.expansion_eq_ok_iff.mpr ⟨fun htrack => absurd htrack (by decide), rfl⟩
  obtain ⟨hbrowse, -, -, -, hdescribe, -⟩ := token_changes_addresses_alone portraitServer h ()
  have halike := (hbrowse (some "ar") []).result
  rw [hshown, hshown] at halike
  cases halike with
  | ok htree => exact ⟨h, _, _, hshown _, hshown _, htree, rfl, rfl, hdescribe⟩

end Browsing

end MusicLibrary
