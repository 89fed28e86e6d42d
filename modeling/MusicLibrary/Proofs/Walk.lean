import MusicLibrary.Walk
import MusicLibrary.Proofs.Browsing.Descent

/-!
# The walk from the root

A walk looks at the root and then at the first child of what it has seen, until it has seen an album
or a node without children (`Goes`). With a server that keeps to what it lists, and whose folders
are libraries, it comes past a library and an artist to an album and never looks at a track. So it
looks four times at most, with one question for the root and two for each level below it. What has
been seen is printed with empty lines between, and a look that fails leaves it as it is.
-/

namespace MusicLibrary.Walk

open Browsing Catalogue Media

variable {σ : Type} {server : Server σ} {session : Session}

/-! ### Looks -/

/-- What a walk comes to that starts at an identifier, the server being in a given state: the nodes
that it sees, the failure that ends it if one does, and the questions of each look. -/
inductive Goes (server : Server σ) (session : Session) :
    σ → Option String → List Node → Option Failure → List (List Request) → Prop where
  /-- There is nothing to see. -/
  | fails {s t : σ} {identifier : Option String} {cause : Failure} {requests : List Request} :
      (browse session identifier preferred).run server s = ⟨.error cause, requests, t⟩ →
      Goes server session s identifier [] (some cause) [requests]
  /-- An album, or a node without children, is the end. -/
  | ends {s t : σ} {identifier : Option String} {n : Node} {requests : List Request} :
      (browse session identifier preferred).run server s = ⟨.ok n, requests, t⟩ →
      n.mediaClass = .album ∨ n.childList = [] →
      Goes server session s identifier [n] none [requests]
  /-- From any other node the walk goes on to the first child, which cannot be played. -/
  | down {s t : σ} {identifier : Option String} {n c : Node} {rest nodes : List Node}
      {cause : Option Failure} {requests : List Request} {looks : List (List Request)} :
      (browse session identifier preferred).run server s = ⟨.ok n, requests, t⟩ →
      n.mediaClass ≠ .album → n.childList = c :: rest → c.canPlay = false →
      Goes server session t c.identifier nodes cause looks →
      Goes server session s identifier (n :: nodes) cause (requests :: looks)

/-- The classes of the nodes on the way down to an album. -/
def classesDown : List MediaClass := [.directory, .directory, .artist, .album]

theorem reverse_trail_prefix (level : Level) : level.trail.reverse <+: classesDown := by
  cases level <;> decide

theorem length_trail_eq_four_iff {level : Level} : level.trail.length = 4 ↔ level = .track := by
  cases level <;> decide

theorem mediaClass_eq_album_iff {level : Level} {mediaClass : MediaClass}
    (h : level.trail.head? = some mediaClass) : mediaClass = .album ↔ level = .track := by
  cases level <;> simp_all [Level.trail, eq_comm]

/-! ### One level down -/

/-- What a walk does below a node: the node has been seen with its children at a level, `text` has
been printed, and there are `levels` levels left. -/
structure Descends (server : Server σ) (session : Session) (levels : ℕ) (level : Level) (n : Node)
    (s : σ) (text : String) (nodes : List Node) (looks : List (List Request)) : Prop where
  /-- The looks at the nodes below continue any walk that has come to the node. -/
  goes : ∀ {t : σ} {identifier : Option String} {requests : List Request},
    (browse session identifier preferred).run server t = ⟨.ok n, requests, s⟩ →
    Goes server session t identifier (n :: nodes)
      ((descend session levels n text).run server s).result.cause (requests :: looks)
  /-- The nodes below are printed behind the text. -/
  text_eq : ((descend session levels n text).run server s).result.text =
    text ++ String.join (nodes.map fun m => "\n" ++ nodeText m) ++
      if ((descend session levels n text).run server s).result.failed then "\n" else ""
  /-- What is asked is what is asked at each look. -/
  requests_eq : ((descend session levels n text).run server s).requests = looks.flatten
  /-- The nodes are one below the other. -/
  classes : level.trail.reverse ++ nodes.map Node.mediaClass <+: classesDown
  /-- There are two questions for each level. -/
  lengths : looks.map List.length <+: List.replicate levels 2

theorem descend_done {levels : ℕ} {n : Node} (h : levels = 0 ∨ n.childList = []) (text : String) :
    descend session levels n text = .done ⟨text, none⟩ := by
  rcases h with rfl | h
  · simp [descend]
  · have hnext : nextIdentifier? n = none := by rw [nextIdentifier?, h]
    cases levels <;> simp [descend, hnext]

theorem descend_succ {n c : Node} {rest : List Node} {id : String} (hc : n.childList = c :: rest)
    (hid : c.identifier = some id) (levels : ℕ) (text : String) :
    descend session (levels + 1) n text =
      (browse session (some id) preferred).bind fun
        | .error cause => .done ⟨text ++ "\n", some cause⟩
        | .ok next => descend session levels next (text ++ "\n" ++ nodeText next) := by
  have hnext : nextIdentifier? n = some id := by rw [nextIdentifier?, hc]; exact hid
  rw [descend.eq_def]
  generalize nextIdentifier? n = next at hnext ⊢
  subst hnext
  rfl

/-- A look at a child above the tracks takes two questions. -/
theorem length_requests_of_standsAt (hserver : Layered server) {level : Level} {item : Item}
    (h : StandsAt server level item) (hlevel : level ≠ .track) (session : Session) (s : σ) :
    ((browse session (some item.id) preferred).run server s).requests.length = 2 := by
  obtain ⟨child, query, answer, -, htranscript, -⟩ :=
    h.browsed hserver hlevel session preferred s
  rw [← Dialogue.map_request_transcript, htranscript]
  rfl

/-- The walk ends where no level is left, and at a node without children. -/
theorem Descends.stop {levels : ℕ} {level : Level} {n : Node}
    (hlevels : level.trail.length + levels = 4) (hclass : level.trail.head? = some n.mediaClass)
    (h : levels = 0 ∨ n.childList = []) (s : σ) (text : String) :
    Descends server session levels level n s text [] [] where
  goes hrun := by
    rw [descend_done h]
    refine .ends hrun (h.imp_left fun hzero => (mediaClass_eq_album_iff hclass).mpr ?_)
    rw [← length_trail_eq_four_iff]
    omega
  text_eq := by
    rw [descend_done h]
    simp [Dialogue.run, Report.failed]
  requests_eq := by
    rw [descend_done h]
    rfl
  classes := by
    rw [List.map_nil, List.append_nil]
    exact reverse_trail_prefix level
  lengths := List.nil_prefix

/-- The walk ends at a child that cannot be shown. -/
theorem Descends.fail {levels : ℕ} {level : Level} {n c : Node} {rest : List Node} {id : String}
    {cause : Failure} {requests : List Request} {s t : σ} (hc : n.childList = c :: rest)
    (hid : c.identifier = some id) (hplay : c.canPlay = false) (hclass : n.mediaClass ≠ .album)
    (hrun : (browse session (some id) preferred).run server s = ⟨.error cause, requests, t⟩)
    (hlength : requests.length = 2) (text : String) :
    Descends server session (levels + 1) level n s text [] [requests] := by
  have hdescend : (descend session (levels + 1) n text).run server s =
      ⟨⟨text ++ "\n", some cause⟩, requests, t⟩ := by
    rw [descend_succ hc hid, Dialogue.run_bind, hrun]
    simp [Dialogue.run]
  refine ⟨fun hbefore => ?_, ?_, ?_, ?_, ?_⟩
  · rw [hdescend]
    exact .down hbefore hclass hc hplay (hid ▸ .fails hrun)
  · simp [hdescend, Report.failed]
  · simp [hdescend]
  · simpa using reverse_trail_prefix level
  · simp [hlength, List.replicate_succ]

/-- The walk goes on below a child that is shown. -/
theorem Descends.next {levels : ℕ} {level child : Level} {n m c : Node} {rest nodes : List Node}
    {id : String} {requests : List Request} {looks : List (List Request)} {s t : σ} {text : String}
    (hc : n.childList = c :: rest) (hid : c.identifier = some id) (hplay : c.canPlay = false)
    (hclass : n.mediaClass ≠ .album)
    (hrun : (browse session (some id) preferred).run server s = ⟨.ok m, requests, t⟩)
    (hlength : requests.length = 2) (htrail : child.trail = m.mediaClass :: level.trail)
    (h : Descends server session levels child m t (text ++ "\n" ++ nodeText m) nodes looks) :
    Descends server session (levels + 1) level n s text (m :: nodes) (requests :: looks) := by
  have hdescend : (descend session (levels + 1) n text).run server s =
      ⟨((descend session levels m (text ++ "\n" ++ nodeText m)).run server t).result,
        requests ++ ((descend session levels m (text ++ "\n" ++ nodeText m)).run server t).requests,
        ((descend session levels m (text ++ "\n" ++ nodeText m)).run server t).state⟩ := by
    rw [descend_succ hc hid, Dialogue.run_bind, hrun]
  refine ⟨fun hbefore => ?_, ?_, ?_, ?_, ?_⟩
  · rw [hdescend]
    exact .down hbefore hclass hc hplay (hid ▸ h.goes hrun)
  · rw [hdescend, h.text_eq, List.map_cons, String.join_cons]
    simp only [String.append_assoc]
  · rw [hdescend, h.requests_eq, List.flatten_cons]
  · have hclasses := h.classes
    rw [htrail, List.reverse_cons, List.append_assoc] at hclasses
    exact hclasses
  · rw [List.map_cons, hlength, List.replicate_succ]
    exact List.cons_prefix_cons.mpr ⟨rfl, h.lengths⟩

/-- Below a node that shows a level a walk goes down as far as there are levels. -/
theorem exists_descends (hserver : Layered server) (levels : ℕ) {level : Level} {n : Node}
    (hlevels : level.trail.length + levels = 4) (hclass : level.trail.head? = some n.mediaClass)
    (hshows : ShowsLevel server session level n) (s : σ) (text : String) :
    ∃ nodes looks, Descends server session levels level n s text nodes looks := by
  induction levels generalizing level n s text with
  | zero => exact ⟨[], [], .stop hlevels hclass (.inl rfl) s text⟩
  | succ levels ih =>
    cases hc : n.childList with
    | nil => exact ⟨[], [], .stop hlevels hclass (.inr hc) s text⟩
    | cons c rest =>
      have hmem : c ∈ n.childList := hc ▸ List.mem_cons_self ..
      obtain ⟨item, hitem, rfl⟩ := hshows c hmem
      have hlevel : level ≠ .track := by
        rw [ne_eq, ← length_trail_eq_four_iff]
        omega
      have hplay : (level.summary session item).canPlay = false := decide_eq_false hlevel
      have hexpand : (level.summary session item).canExpand = true :=
        Level.canExpand_summary_iff.mpr hlevel
      have halbum : n.mediaClass ≠ .album := mt (mediaClass_eq_album_iff hclass).mp hlevel
      have hlength := length_requests_of_standsAt hserver hitem hlevel session s
      rcases hrun : (browse session (some item.id) preferred).run server s
        with ⟨cause | m, requests, t⟩
      · rw [hrun] at hlength
        exact ⟨[], [requests], .fail hc rfl hplay halbum hrun hlength text⟩
      · rw [hrun] at hlength
        obtain ⟨child, htrail, hchild⟩ :=
          hshows.down hserver hmem hexpand (congrArg Outcome.result hrun)
        have hlevels' : child.trail.length + levels = 4 := by
          rw [htrail, List.length_cons]
          omega
        obtain ⟨nodes, looks, hbelow⟩ := ih hlevels' (by rw [htrail]; rfl) hchild t
          (text ++ "\n" ++ nodeText m)
        exact ⟨m :: nodes, requests :: looks,
          .next hc rfl hplay halbum hrun hlength htrail hbelow⟩

/-! ### The whole walk -/

theorem intercalate_cons (a : String) (l : List String) :
    "\n".intercalate (a :: l) = a ++ String.join (l.map fun b => "\n" ++ b) := by
  induction l generalizing a with
  | nil => simp
  | cons b l ih =>
    rw [String.intercalate_cons_cons, ih, List.map_cons, String.join_cons]
    simp only [String.append_assoc]

/-- **The walk from the root goes down the tree and stops.** It prints what it sees, with an empty
line between any two nodes and one behind them if it fails below the root. The nodes are at most
the root, a library, an artist and an album, and it asks one question for the root and two for each
level below it. -/
theorem fromRoot_goes_down (hserver : Layered server) {s : σ} {outcome : Outcome σ Report}
    (hwalk : (run session none).run server s = outcome) :
    ∃ nodes looks,
      Goes server session s none nodes outcome.result.cause looks ∧
      outcome.result.text = "\n".intercalate (nodes.map nodeText) ++
        (if outcome.result.failed ∧ nodes ≠ [] then "\n" else "") ∧
      outcome.requests = looks.flatten ∧
      nodes.map Node.mediaClass <+: [.directory, .directory, .artist, .album] ∧
      looks.map List.length <+: [1, 2, 2, 2] ∧
      outcome.requests.length ≤ 7 := by
  have hbrowsed := browsed server session s none preferred
  have hrequests := requests_browse server session s none preferred
  rw [run, fromRoot, Dialogue.run_bind] at hwalk
  rcases hrun : (browse session none preferred).run server s with ⟨cause | root, requests, t⟩
  · rw [hrun] at hwalk hrequests
    obtain rfl : requests = [.folders] := hrequests
    subst hwalk
    exact ⟨[], [[.folders]], .fails hrun, by simp [Dialogue.run], rfl, List.nil_prefix,
      by simp, by simp [Dialogue.run]⟩
  · rw [hrun] at hwalk hrequests hbrowsed
    obtain rfl : requests = [.folders] := hrequests
    obtain ⟨-, hclass, hshows⟩ | ⟨id, -, -, -, hid, -⟩ := hbrowsed.showsLevel hserver rfl
    · have hbelow : ∃ nodes looks,
          Descends server session 3 .library root t (nodeText root) nodes looks :=
        exists_descends hserver 3 rfl (by rw [hclass]; rfl) hshows t (nodeText root)
      obtain ⟨nodes, looks, h⟩ := hbelow
      have hlengths : ([.folders] :: looks).map List.length <+: [1, 2, 2, 2] :=
        List.cons_prefix_cons.mpr ⟨rfl, h.lengths⟩
      have hrequests : outcome.requests = ([.folders] :: looks).flatten := by
        rw [← hwalk, List.flatten_cons, ← h.requests_eq]
      refine ⟨root :: nodes, [.folders] :: looks, hwalk ▸ h.goes hrun, ?_, hrequests, ?_, hlengths,
        ?_⟩
      · rw [← hwalk, List.map_cons, intercalate_cons, List.map_map]
        simpa [Function.comp_def] using h.text_eq
      · rw [List.map_cons, hclass]
        exact h.classes
      · rw [hrequests, List.length_flatten]
        exact hlengths.sublist.sum_le_sum fun _ _ => Nat.zero_le _
    · cases hid

/-! ### A walk to an album whose tracks cannot be listed -/

/-- The server of the lineage, down when it is to list tracks. -/
def silentServer : Server Unit where
  answer
    | .items query, s =>
      if query.kind = some .audio then (.error (.status 503 "down"), s)
      else lineageServer.answer (.items query) s
    | .item id, s => lineageServer.answer (.item id) s
    | .folders, s => lineageServer.answer .folders s

theorem answer_of_silentServer {query : ItemQuery} {listing : Listing} {s t : Unit}
    (h : silentServer.answer (.items query) s = (.ok listing, t)) :
    lineageServer.answer (.items query) s = (.ok listing, t) := by
  simp only [silentServer] at h
  split_ifs at h with haudio
  · cases h
  · exact h

theorem layered_silentServer : Layered silentServer := by
  have hlists : ∀ {item : Item}, Lists silentServer item → Lists lineageServer item := by
    intro item h
    cases h with
    | folder hlist hitem => exact .folder hlist hitem
    | found hlist hitem => exact .found (answer_of_silentServer hlist) hitem
  have h := layered_lineageServer
  exact ⟨⟨fun hitem => h.answer_item (hlists hitem), fun hitem => h.id_ne (hlists hitem),
    fun hkind hlist => h.kind_eq hkind (answer_of_silentServer hlist)⟩, h.folder_kind⟩

/-- What a walk prints before it comes to the tracks. -/
def silentText : String :=
  "Jellyfin [directory] -\n  + Music (lib)\n\n" ++ "Music [directory] lib\n  + Band (ar)\n\n" ++
    "Band [artist] ar\n  + Debut (al)\n\n"

/-- The root, the library and the artist have been seen before the look at the album fails, and what
has been printed of them stays. -/
theorem fromRoot_goes_down_silent :
    Layered silentServer ∧
    ∃ nodes looks, Goes silentServer sampleSession () none nodes (some (.status 503 "down")) looks ∧
      silentText = "\n".intercalate (nodes.map nodeText) ++ "\n" ∧
      nodes.map Node.mediaClass <+: [.directory, .directory, .artist, .album] ∧
      looks.map List.length <+: [1, 2, 2, 2] := by
  have hserver := layered_silentServer
  have hresult : ((run sampleSession none).run silentServer ()).result =
      ⟨silentText, some (.status 503 "down")⟩ := by
    cbv
  obtain ⟨nodes, looks, hgoes, htext, -, hclasses, hlengths, -⟩ := fromRoot_goes_down hserver rfl
  rw [hresult] at hgoes htext
  have hne : nodes ≠ [] := by
    rintro rfl
    have hempty : silentText = "" := htext
    exact absurd hempty (by decide)
  refine ⟨hserver, nodes, looks, hgoes, ?_, hclasses, hlengths⟩
  rwa [if_pos ⟨rfl, hne⟩] at htext

end MusicLibrary.Walk
