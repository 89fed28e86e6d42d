import MusicLibrary.Proofs.Browsing.Shape
import MusicLibrary.Proofs.Browsing.Trace
import MusicLibrary.Proofs.Media.Address

/-!
# The addresses of nodes

A host keeps nothing of a node but the text of its address. Every node that browsing shows is of
the source's own domain (`Browsed.domain_eq`), so whatever characters its identifier has, the text
is read as the address of this node, and the source serves it: asked for that address it does what
it does when it is asked for the identifier (`Outcome.told`, `served_of_browse`).
-/

namespace MusicLibrary.Media.Node

/-- The address of a node: the root of its domain, or an item in it. -/
def address (n : Node) : Address :=
  match n.identifier with
  | none => .root n.domain
  | some id => .item n.domain id

theorem identifier_address {n : Node} (h : n.identifier ≠ some "") :
    n.address.identifier = n.identifier := by
  unfold address
  cases hn : n.identifier with
  | none => rfl
  | some id => exact nonEmpty_toList fun e => h (hn.trans (congrArg some e))

theorem domain_address (n : Node) : n.address.domain = some n.domain := by
  unfold address
  cases n.identifier <;> rfl

/-- A node whose domain is a text without a slash has an address that is read back. -/
theorem readable_address {n : Node} (h : n.domain ≠ "") (hslash : '/' ∉ n.domain.toList) :
    n.address.Readable := by
  unfold address
  cases n.identifier with
  | none => exact Address.readable_root_iff.mpr ⟨h, hslash⟩
  | some id => exact Address.readable_item_iff.mpr ⟨h, hslash⟩

end MusicLibrary.Media.Node

namespace MusicLibrary.Browsing

open Catalogue Media

variable {σ α : Type} {server : Server σ} {session : Session} {s : σ}

/-- The outcome as a host is told of it: of a failure it learns the words. -/
def Outcome.told (wrap : String → SourceError) (o : Outcome σ (Except Failure α)) :
    Outcome σ (Except SourceError α) where
  result :=
    match o.result with
    | .ok a => .ok a
    | .error cause => .error (wrap cause.message)
  requests := o.requests
  state := o.state

/-- A dialogue whose failures are put into words has the outcome that a host is told of. -/
theorem run_map_mapError (wrap : String → SourceError) (d : Dialogue (Except Failure α)) (s : σ) :
    (d.map (Except.mapError fun cause => wrap cause.message)).run server s =
      (d.run server s).told wrap := by
  rw [Dialogue.run_map, Outcome.told]
  cases (d.run server s).result <;> rfl

theorem run_browseAddress (a : Address) (preferred : List String) (s : σ) :
    (browseAddress session a preferred).run server s =
      ((browse session a.identifier preferred).run server s).told .browse :=
  run_map_mapError SourceError.browse _ s

theorem run_resolveAddress {a : Address} {id : String} (h : a.identifier = some id) (s : σ) :
    (resolveAddress session a).run server s =
      ((resolve session id).run server s).told .unresolvable := by
  rw [resolveAddress, h]
  exact run_map_mapError SourceError.unresolvable _ s

theorem handles_iff {a : Address} : handles a = true ↔ a.domain = some domain := beq_iff_eq

/-- Every node that browsing shows is of the domain of the source. -/
theorem Browsed.domain_eq {identifier : Option String} {m n : Node}
    {outcome : Outcome σ (Except Failure Node)} (h : Browsed server session s identifier outcome)
    (hn : outcome.result = .ok n) (hm : m.Within n) : m.domain = domain := by
  have hchild : ∀ c ∈ n.childList, c.domain = domain ∧ c.children = none := by
    intro c hc
    obtain ⟨_, _, -, -, -, rfl⟩ | ⟨_, _, _, _, _, _, -, -, -, -, rfl⟩ :=
      h.exists_item_of_mem hn hc
    · exact ⟨rfl, rfl⟩
    · exact ⟨rfl, rfl⟩
  rcases hm.of_flat fun c hc => (hchild c hc).2 with rfl | hm
  · cases h with
    | root _ _ =>
      obtain rfl := Except.ok.inj hn
      rfl
    | opened _ _ _ _ =>
      obtain ⟨-, rfl⟩ := Level.expansion_eq_ok_iff.mp hn
      rfl
    | rootFails | itemFails | refused | childrenFail => cases hn
  · exact (hchild m hm).1

/-- **The source serves the address of every node that it shows**, whatever its identifier is made
of: the text of the address is read as the address of the node. -/
theorem served_of_browse (server : Server σ) (session : Session) (identifier : Option String)
    (preferred : List String) {s : σ} {tree n : Node}
    (htree : ((browse session identifier preferred).run server s).result = .ok tree)
    (hn : n.Within tree) (hid : n.identifier ≠ some "") :
    ∃ a, readAddress n.address.render = .ok a ∧ handles a = true ∧
      a.identifier = n.identifier ∧
      (∀ t preferred, (browseAddress session a preferred).run server t =
        ((browse session n.identifier preferred).run server t).told .browse) ∧
      ∀ id, n.identifier = some id → ∀ t, (resolveAddress session a).run server t =
        ((resolve session id).run server t).told .unresolvable := by
  have hdomain : n.domain = "jellyfin" :=
    (browsed server session s identifier preferred).domain_eq htree hn
  have hreadable : n.address.Readable := by
    refine Node.readable_address ?_ ?_ <;> rw [hdomain] <;> decide
  have hidentifier := Node.identifier_address hid
  refine ⟨n.address, ?_, ?_, hidentifier, fun t preferred => ?_, fun id h t => ?_⟩
  · exact Address.readAddress_eq_ok_iff.mpr (Address.parse?_render_eq_some_iff.mpr hreadable)
  · rw [handles_iff, n.domain_address, hdomain]
    rfl
  · rw [run_browseAddress, hidentifier]
  · exact run_resolveAddress (hidentifier.trans h) t

/-! ### A library with a strange identifier -/

/-- A library whose identifier looks like an address. -/
def strangeLibrary : Item :=
  ⟨"media-source://a/b ?", "Strange", .library, some .music, none, .empty, none, []⟩

/-- A server that lists the library and has lost it. -/
def strangeServer : Server Unit := .fixed fun
  | .item id => .error (.notFound id)
  | .folders => .ok ⟨[strangeLibrary], none⟩
  | .items _ => .ok ⟨[], none⟩

/-- The library is asked for by its identifier, and the host learns that it is not there. -/
theorem served_of_browse_strange :
    ∃ (tree n : Node) (a : Address),
      ((browse sampleSession none []).run strangeServer ()).result = .ok tree ∧
      n.Within tree ∧ n.identifier = some "media-source://a/b ?" ∧
      n.address.render = "media-source://jellyfin/media-source://a/b ?" ∧
      readAddress n.address.render = .ok a ∧ handles a = true ∧
      (browseAddress sampleSession a []).run strangeServer () =
        ⟨.error (.browse "Item not found: media-source://a/b ?"),
          [.item "media-source://a/b ?"], ()⟩ := by
  have htree : ((browse sampleSession none []).run strangeServer ()).result =
      .ok (rootView sampleSession [strangeLibrary]) := by
    rw [browse_root (.inl rfl), openRoot, run_demand_ok rfl]
    rfl
  have hn : (Level.library.summary sampleSession strangeLibrary).Within
      (rootView sampleSession [strangeLibrary]) :=
    .deeper (List.mem_singleton_self _) (.root _)
  obtain ⟨a, hread, hhandles, -, hbrowse, -⟩ :=
    served_of_browse strangeServer sampleSession none [] htree hn (by decide)
  exact ⟨_, _, a, htree, hn, rfl, rfl, hread, hhandles, hbrowse () []⟩

end MusicLibrary.Browsing
