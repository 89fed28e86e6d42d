import MusicLibrary.Proofs.Browsing.Trace

/-!
# Going down the tree

A child that can be opened is a promise of what is shown when it is browsed. With a server that
keeps to what it lists, and whose folders are libraries, the promise is kept: what is shown is the
child itself with its own children, and nothing that has been offered is refused
(`PromiseKept`). A walk from the root down therefore passes a library, an artist and an album, and
ends at tracks that can be played.
-/

namespace MusicLibrary.Browsing

open Catalogue Media

variable {σ : Type} {server : Server σ} {session : Session}

/-! ### Servers that list one level at a time -/

/-- A server that keeps to what it lists and whose folders are libraries. -/
structure Layered (server : Server σ) : Prop extends Faithful server where
  /-- The folders are libraries. -/
  folder_kind : ∀ {listing : Listing} {s t : σ}, server.answer .folders s = (.ok listing, t) →
    ∀ item ∈ listing.items, item.kind = .library

/-- The server lists the item, as one that browsing shows at a level. -/
structure StandsAt (server : Server σ) (level : Level) (item : Item) : Prop where
  /-- It is in a listing. -/
  lists : Lists server item
  /-- It is of the kind of the level. -/
  kind_eq : item.kind = level.kind
  /-- A library that is shown holds music. -/
  music : level = .library → item.collection = some .music

/-- Whatever stands above the tracks can be opened. -/
theorem StandsAt.opens {level : Level} {item : Item} (h : StandsAt server level item)
    (hlevel : level ≠ .track) : ∃ child, Opens item level child := by
  cases level with
  | library => exact ⟨.artist, .library h.kind_eq (h.music rfl)⟩
  | artist => exact ⟨.album, .artist h.kind_eq⟩
  | album => exact ⟨.track, .album h.kind_eq⟩
  | track => exact absurd rfl hlevel

/-- The children of the node are items that stand at a level, not yet opened. -/
def ShowsLevel (server : Server σ) (session : Session) (level : Level) (n : Node) : Prop :=
  ∀ c ∈ n.childList, ∃ item, StandsAt server level item ∧ c = level.summary session item

theorem Opens.child_ne_library {item : Item} {level child : Level} (h : Opens item level child) :
    child ≠ .library := by
  cases h <;> decide

/-- What is shown for an identifier is the root with libraries, or an item with what stands at the
level below it. -/
theorem Browsed.showsLevel (hserver : Layered server) {s : σ} {identifier : Option String}
    {n : Node} {outcome : Outcome σ (Except Failure Node)}
    (h : Browsed server session s identifier outcome) (hn : outcome.result = .ok n) :
    (NamesRoot identifier ∧ n.mediaClass = .directory ∧ ShowsLevel server session .library n) ∨
      ∃ id item level child, identifier = some id ∧ (server.answer (.item id) s).1 = .ok item ∧
        Opens item level child ∧ ShowsLevel server session child n := by
  cases h with
  | @root _ listing t hroot hlist =>
    obtain rfl := Except.ok.inj hn
    refine .inl ⟨hroot, rfl, ?_⟩
    intro c hc
    obtain ⟨item, hitem, rfl⟩ := List.mem_map.mp hc
    obtain ⟨hmem, hmusic⟩ := List.mem_filter.mp hitem
    have hkind := hserver.folder_kind hlist item hmem
    exact ⟨item, ⟨.folder hlist hmem, hkind, fun _ => beq_iff_eq.mp hmusic⟩, rfl⟩
  | @opened id item level child listing t u _ hanswer hopens hlist =>
    obtain ⟨-, rfl⟩ := Level.expansion_eq_ok_iff.mp hn
    refine .inr ⟨id, item, level, child, rfl, congrArg Prod.fst hanswer, hopens, ?_⟩
    intro c hc
    obtain ⟨below, hbelow, rfl⟩ := List.mem_map.mp hc
    have hmem := (Level.arranged_arrange _ _).perm.mem_iff.mp hbelow
    have hkind := hserver.kind_eq rfl hlist below hmem
    exact ⟨below, ⟨.found hlist hmem, hkind, fun e => absurd e hopens.child_ne_library⟩, rfl⟩
  | rootFails | itemFails | refused | childrenFail => cases hn

/-! ### One step down -/

theorem transcript_browse_opens {s t : σ} {id : String} {item : Item} {level child : Level}
    (session : Session) (preferred : List String) (hid : id ≠ "")
    (hitem : server.answer (.item id) s = (.ok item, t)) (hopens : Opens item level child) :
    (browse session (some id) preferred).transcript server s =
      [⟨.item id, .ok item⟩,
        ⟨.items (child.query item.id), (server.answer (.items (child.query item.id)) t).1⟩] := by
  rw [browse_item hid, Dialogue.demand, Dialogue.transcript, hitem]
  dsimp only
  rw [openItem_of_opens session hopens, Dialogue.demand, Dialogue.transcript]
  rcases (server.answer (.items (child.query item.id)) t).1 with cause | listing <;> rfl

/-- Browsing an item that stands above the tracks gets as far as the question for its children. -/
theorem StandsAt.browsed {level : Level} {item : Item} (h : StandsAt server level item)
    (hserver : Layered server) (hlevel : level ≠ .track) (session : Session)
    (preferred : List String) (s : σ) :
    ∃ child query answer, Opens item level child ∧
      (browse session (some item.id) preferred).transcript server s =
        [⟨.item item.id, .ok item⟩, ⟨.items query, answer⟩] ∧
      ((browse session (some item.id) preferred).run server s).result =
        match answer with
        | .error cause => .error cause
        | .ok listing => level.expansion session child item (child.arrange listing.items) := by
  obtain ⟨child, hopens⟩ := h.opens hlevel
  have hid := hserver.id_ne h.lists
  have hitem : server.answer (.item item.id) s = (.ok item, (server.answer (.item item.id) s).2) :=
    Prod.ext (hserver.answer_item h.lists s) rfl
  refine ⟨child, child.query item.id, _, hopens,
    transcript_browse_opens session preferred hid hitem hopens, ?_⟩
  rcases hlist : server.answer (.items (child.query item.id)) (server.answer (.item item.id) s).2
    with ⟨cause | listing, u⟩
  · rw [browse_item hid, run_demand_ok hitem, openItem_of_opens session hopens,
      run_demand_error hlist]
  · rw [run_browse_opens session preferred hid hitem hopens hlist]

/-- The failure rejects an identifier for what it stands for. -/
inductive Rejects : Failure → Prop where
  /-- It stands for an item of a kind that cannot be opened. -/
  | kind (name : String) : Rejects (.unsupportedItemKind name)
  /-- It stands for a library that does not hold music. -/
  | collection (name : String) : Rejects (.unsupportedCollection name)
  /-- It stands for nothing. -/
  | identifier (id : String) : Rejects (.invalidIdentifier id)

/-- Browsing a child comes to what the child has promised. -/
structure PromiseKept (server : Server σ) (session : Session) (preferred : List String) (s : σ)
    (c : Node) : Prop where
  /-- What is shown is the child with its own children. -/
  shown : ∀ m, ((browse session c.identifier preferred).run server s).result = .ok m →
    m = { c with children := m.children, childrenClass := m.childrenClass }
  /-- If nothing is shown, the children cannot be had, or those of an album cannot be played. -/
  fails : ∀ cause, ((browse session c.identifier preferred).run server s).result = .error cause →
    (∃ query, ⟨.items query, .error cause⟩ ∈
      (browse session c.identifier preferred).transcript server s) ∨
    c.mediaClass = .album ∧ ∃ path, cause = .undeterminedType path
  /-- The source does not reject the child: the words would be the server's own. -/
  not_rejected : ∀ cause, Rejects cause →
    ((browse session c.identifier preferred).run server s).result = .error cause →
    ∃ query, ⟨.items query, .error cause⟩ ∈
      (browse session c.identifier preferred).transcript server s

theorem Level.expansion_eq_error {level child : Level} {item : Item} {items : List Item}
    {cause : Failure} (h : level.expansion session child item items = .error cause) :
    child = .track ∧ ∃ path, cause = .undeterminedType path := by
  unfold Level.expansion at h
  by_cases hchild : child = .track
  · cases huntyped : child.untyped? items with
    | none => simp [huntyped] at h
    | some untyped =>
      rw [huntyped] at h
      exact ⟨hchild, _, (Except.error.inj h).symm⟩
  · simp [Level.untyped?, hchild] at h

/-- **An item above the tracks keeps the promise of its summary.** -/
theorem StandsAt.promiseKept {level : Level} {item : Item} (h : StandsAt server level item)
    (hserver : Layered server) (hlevel : level ≠ .track) (session : Session)
    (preferred : List String) (s : σ) :
    PromiseKept server session preferred s (level.summary session item) := by
  obtain ⟨child, query, answer, hopens, htranscript, hresult⟩ :=
    h.browsed hserver hlevel session preferred s
  have hfails : ∀ cause,
      ((browse session (some item.id) preferred).run server s).result = .error cause →
      (∃ query, ⟨.items query, .error cause⟩ ∈
        (browse session (some item.id) preferred).transcript server s) ∨
      level.mediaClass = .album ∧ ∃ path, cause = .undeterminedType path := by
    intro cause hcause
    rw [hresult] at hcause
    cases answer with
    | error cause' =>
      obtain rfl := Except.error.inj hcause
      exact .inl ⟨query, by simp [htranscript]⟩
    | ok listing =>
      obtain ⟨rfl, hpath⟩ := Level.expansion_eq_error hcause
      cases hopens
      exact .inr ⟨rfl, hpath⟩
  refine ⟨fun m hm => ?_, hfails, fun cause hrejects hcause => ?_⟩
  · have hm : ((browse session (some item.id) preferred).run server s).result = .ok m := hm
    rw [hresult] at hm
    cases answer with
    | error cause => cases hm
    | ok listing =>
      obtain ⟨-, rfl⟩ := Level.expansion_eq_ok_iff.mp hm
      rfl
  · rcases hfails cause hcause with hserver | ⟨-, path, rfl⟩
    · exact hserver
    · cases hrejects

/-! ### Walks -/

/-- A walk from the root down, the node that it has reached first: each node is what is shown for a
child of the one before that can be opened. The server may be in any state at any step. -/
inductive Descent (server : Server σ) (session : Session) : List Node → Prop where
  /-- The walk starts at the root. -/
  | root {preferred : List String} {s : σ} {n : Node} :
      ((browse session none preferred).run server s).result = .ok n → Descent server session [n]
  /-- It goes on to a child. -/
  | down {preferred : List String} {s : σ} {n m c : Node} {path : List Node} :
      Descent server session (n :: path) → c ∈ n.childList → c.canExpand = true →
      ((browse session c.identifier preferred).run server s).result = .ok m →
      Descent server session (m :: n :: path)

/-- The classes of the nodes of a walk whose last node has children at the level. -/
def Level.trail : Level → List MediaClass
  | library => [.directory]
  | artist => [.directory, .directory]
  | album => [.artist, .directory, .directory]
  | track => [.album, .artist, .directory, .directory]

theorem Opens.trail_eq {item : Item} {level child : Level} (h : Opens item level child) :
    child.trail = level.mediaClass :: level.trail := by
  cases h <;> rfl

theorem Level.canExpand_summary_iff {level : Level} {item : Item} :
    (level.summary session item).canExpand = true ↔ level ≠ .track := by
  simp [summary]

theorem Opens.kind_eq {item : Item} {level child : Level} (h : Opens item level child) :
    item.kind = level.kind := by
  cases h with
  | library hkind _ => exact hkind
  | artist hkind => exact hkind
  | album hkind => exact hkind

theorem Level.eq_of_kind_eq {level level' : Level} : level.kind = level'.kind → level = level' := by
  cases level <;> cases level' <;> decide

/-- One step of a walk goes one level down. -/
theorem ShowsLevel.down (hserver : Layered server) {level : Level} {n m c : Node}
    {preferred : List String} {s : σ} (h : ShowsLevel server session level n)
    (hc : c ∈ n.childList) (hexpand : c.canExpand = true)
    (hm : ((browse session c.identifier preferred).run server s).result = .ok m) :
    ∃ child : Level, child.trail = m.mediaClass :: level.trail ∧
      ShowsLevel server session child m := by
  obtain ⟨item, hitem, rfl⟩ := h c hc
  have hlevel : level ≠ .track := Level.canExpand_summary_iff.mp hexpand
  have hclass : m.mediaClass = level.mediaClass := by
    rw [(hitem.promiseKept hserver hlevel session preferred s).shown m hm]
    rfl
  obtain ⟨hroot, -, -⟩ | ⟨id, item', level', child, hid, hanswer, hopens, hchild⟩ :=
    (Browsing.browsed server session s (some item.id) preferred).showsLevel hserver hm
  · rcases hroot with e | e
    · cases e
    · exact absurd (Option.some.inj e) (hserver.id_ne hitem.lists)
  · -- the item that the server gives is the one that it has listed
    obtain rfl := Option.some.inj hid
    obtain rfl := Except.ok.inj ((hserver.answer_item hitem.lists s).symm.trans hanswer)
    obtain rfl := Level.eq_of_kind_eq (hopens.kind_eq.symm.trans hitem.kind_eq)
    exact ⟨child, by rw [hopens.trail_eq, hclass], hchild⟩

/-- Every node of a walk shows the level that the classes of the nodes before it lead to. -/
theorem Descent.showsLevel (hserver : Layered server) {path : List Node}
    (h : Descent server session path) : ∃ n before level, path = n :: before ∧
      path.map Node.mediaClass = level.trail ∧ ShowsLevel server session level n := by
  induction h with
  | @root preferred s n hn =>
    obtain ⟨-, hclass, hshows⟩ | ⟨id, -, -, -, hid, -⟩ :=
      (browsed server session s none preferred).showsLevel hserver hn
    · exact ⟨n, [], .library, rfl, by rw [List.map_singleton, hclass]; rfl, hshows⟩
    · cases hid
  | @down preferred s n m c path _ hc hexpand hm ih =>
    obtain ⟨n', before, level, hpath, hclasses, hshows⟩ := ih
    obtain ⟨rfl, rfl⟩ := List.cons.inj hpath
    obtain ⟨child, htrail, hchild⟩ := hshows.down hserver hc hexpand hm
    exact ⟨m, n :: path, child, rfl, by rw [List.map_cons, hclasses, htrail], hchild⟩

/-- **Going down keeps every promise**: what is shown for a child that can be opened is the child
with its own children, and if it cannot be shown then only because its children cannot be had or
played. So a walk from the root passes a library, an artist and an album, and the children of the
album are tracks that can be played. -/
theorem descent_keeps_promises (hserver : Layered server) (session : Session) :
    (∀ identifier preferred s n c,
      ((browse session identifier preferred).run server s).result = .ok n →
      c ∈ n.childList → c.canExpand = true →
      ∀ preferred' s', PromiseKept server session preferred' s' c) ∧
    ∀ n path, Descent server session (n :: path) →
      (n :: path).reverse.map Node.mediaClass <+: [.directory, .directory, .artist, .album] ∧
      ∀ c ∈ n.childList,
        if path.length < 3 then c.canExpand = true ∧ c.canPlay = false
        else c.mediaClass = .track ∧ c.canPlay = true ∧ c.canExpand = false := by
  constructor
  · intro identifier preferred s n c hn hc hexpand preferred' s'
    have hshows : ∃ level, ShowsLevel server session level n := by
      obtain ⟨-, -, h⟩ | ⟨-, -, -, child, -, -, -, h⟩ :=
        (browsed server session s identifier preferred).showsLevel hserver hn
      · exact ⟨_, h⟩
      · exact ⟨_, h⟩
    obtain ⟨level, hshows⟩ := hshows
    obtain ⟨item, hitem, rfl⟩ := hshows c hc
    exact hitem.promiseKept hserver (Level.canExpand_summary_iff.mp hexpand) session preferred' s'
  · intro n path h
    obtain ⟨n', before, level, hpath, hclasses, hshows⟩ := h.showsLevel hserver
    obtain ⟨rfl, rfl⟩ := List.cons.inj hpath
    have hlength : path.length + 1 = level.trail.length := by
      rw [← hclasses, List.length_map, List.length_cons]
    rw [List.map_reverse, hclasses]
    cases level with
    | track =>
      refine ⟨by decide, fun c hc => ?_⟩
      obtain ⟨item, -, rfl⟩ := hshows c hc
      have hlong : ¬ path.length < 3 := by
        simp only [Level.trail, List.length_cons, List.length_nil] at hlength
        omega
      rw [if_neg hlong]
      exact ⟨rfl, rfl, rfl⟩
    | library | artist | album =>
      refine ⟨by decide, fun c hc => ?_⟩
      obtain ⟨item, -, rfl⟩ := hshows c hc
      have hshort : path.length < 3 := by
        simp only [Level.trail, List.length_cons, List.length_nil] at hlength
        omega
      rw [if_pos hshort]
      exact ⟨rfl, rfl⟩

/-! ### A walk from the root to an album -/

/-- A library, an artist in it, an album of the artist and a track on the album. -/
def lineage : List Item :=
  [⟨"lib", "Music", .library, some .music, none, .empty, none, []⟩,
    ⟨"ar", "Band", .artist, none, none, .empty, none, []⟩,
    ⟨"al", "Debut", .album, none, none, .empty, none, []⟩,
    ⟨"t", "Opener", .audio, none, some 1, .empty, some .audio,
      [⟨none, some "/opener.flac", none⟩]⟩]

/-- The items among them of a kind. -/
def lineageOf (kind : ItemKind) : List Item := lineage.filter fun item => item.kind = kind

/-- A server with these items alone, each below the one before it. -/
def lineageServer : Server Unit := .fixed fun
  | .item id =>
    match lineage.find? fun item => item.id = id with
    | some item => .ok item
    | none => .error (.notFound id)
  | .folders => .ok ⟨lineageOf .library, none⟩
  | .items query => .ok ⟨(query.kind.map lineageOf).getD [], none⟩

theorem lineageServer_items {query : ItemQuery} {listing : Listing}
    (h : lineageServer.answer (.items query) () = (.ok listing, ())) {item : Item}
    (hitem : item ∈ listing.items) : ∃ kind, query.kind = some kind ∧ item ∈ lineageOf kind := by
  obtain rfl := Except.ok.inj (congrArg Prod.fst h)
  cases hkind : query.kind with
  | none =>
    simp only [hkind] at hitem
    exact absurd hitem List.not_mem_nil
  | some kind =>
    simp only [hkind] at hitem
    exact ⟨kind, rfl, hitem⟩

theorem mem_lineage_of_lists {item : Item} (h : Lists lineageServer item) : item ∈ lineage := by
  cases h with
  | folder h hitem =>
    obtain rfl := Except.ok.inj (congrArg Prod.fst h)
    have hmem : item ∈ lineageOf .library := hitem
    exact (List.mem_filter.mp hmem).1
  | found h hitem =>
    obtain ⟨kind, -, hmem⟩ := lineageServer_items h hitem
    exact (List.mem_filter.mp hmem).1

theorem layered_lineageServer : Layered lineageServer where
  answer_item hlists _ := by
    have hall : ∀ item ∈ lineage, (lineageServer.answer (.item item.id) ()).1 = .ok item := by
      decide +kernel
    exact hall _ (mem_lineage_of_lists hlists)
  id_ne hlists := by
    have hall : ∀ item ∈ lineage, item.id ≠ "" := by decide
    exact hall _ (mem_lineage_of_lists hlists)
  kind_eq {query kind listing s t} hkind hlist item hitem := by
    obtain ⟨kind', hkind', hmem⟩ := lineageServer_items hlist hitem
    obtain rfl := Option.some.inj (hkind.symm.trans hkind')
    exact of_decide_eq_true (List.mem_filter.mp hmem).2
  folder_kind {listing s t} hlist item hitem := by
    obtain rfl := Except.ok.inj (congrArg Prod.fst hlist)
    exact of_decide_eq_true (List.mem_filter.mp hitem).2

/-- What is shown of the album. -/
def lineageAlbum : Node :=
  (Level.album.summary sampleSession lineage[2]).withChildren .track
    [Level.track.summary sampleSession lineage[3]]

/-- What is shown on the way to it, the artist first. -/
def lineageWay : List Node :=
  [(Level.artist.summary sampleSession lineage[1]).withChildren .album
      [Level.album.summary sampleSession lineage[2]],
    (Level.library.summary sampleSession lineage[0]).withChildren .artist
      [Level.artist.summary sampleSession lineage[1]],
    rootNode.withChildren .directory [Level.library.summary sampleSession lineage[0]]]

theorem browse_lineageServer :
    ((browse sampleSession none []).run lineageServer ()).result = .ok lineageWay[2] := by
  decide +kernel

theorem descent_lineageAlbum :
    Descent lineageServer sampleSession (lineageAlbum :: lineageWay) := by
  have hlibrary : ((browse sampleSession (some "lib") []).run lineageServer ()).result =
      .ok lineageWay[1] := by
    decide +kernel
  have hartist : ((browse sampleSession (some "ar") []).run lineageServer ()).result =
      .ok lineageWay[0] := by
    decide +kernel
  have halbum : ((browse sampleSession (some "al") []).run lineageServer ()).result =
      .ok lineageAlbum := by
    decide +kernel
  exact .down (.down (.down (.root browse_lineageServer) (List.mem_singleton_self _) rfl hlibrary)
    (List.mem_singleton_self _) rfl hartist) (List.mem_singleton_self _) rfl halbum

/-- The library keeps its promise, and the walk to the album ends at a track that can be played. -/
theorem descent_keeps_promises_lineage :
    Layered lineageServer ∧
    PromiseKept lineageServer sampleSession [] () (Level.library.summary sampleSession lineage[0]) ∧
    Descent lineageServer sampleSession (lineageAlbum :: lineageWay) ∧
    (lineageAlbum :: lineageWay).reverse.map Node.mediaClass =
      [.directory, .directory, .artist, .album] ∧
    (Level.track.summary sampleSession lineage[3]).canPlay = true := by
  have hserver := layered_lineageServer
  obtain ⟨hpromises, hwalks⟩ := descent_keeps_promises hserver sampleSession
  obtain ⟨hclasses, hchildren⟩ := hwalks _ _ descent_lineageAlbum
  exact ⟨hserver, hpromises _ _ _ _ _ browse_lineageServer (List.mem_singleton_self _) rfl _ _,
    descent_lineageAlbum, hclasses.eq_of_length rfl,
    (hchildren _ (List.mem_singleton_self _)).2.1⟩

end MusicLibrary.Browsing
