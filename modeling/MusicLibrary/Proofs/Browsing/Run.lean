import MusicLibrary.Proofs.Browsing.Level

/-!
# Runs of browsing

What browsing comes to with any server, whatever it answers and however its state changes. There
are six cases (`Browsed`), and every run is one of them (`browsed`): the libraries or the item
cannot be had, the item is refused, its children cannot be had, or there is a node to show.
-/

namespace MusicLibrary.Browsing

open Catalogue Media

variable {σ α : Type} {server : Server σ} {s t u : σ}

theorem run_demand_error {r : Request} {next : r.Answer → Dialogue (Except Failure α)}
    {cause : Failure} (h : server.answer r s = (.error cause, t)) :
    (Dialogue.demand r next).run server s = ⟨.error cause, [r], t⟩ := by
  simp only [Dialogue.demand, Dialogue.run, h, Dialogue.fail]

theorem run_demand_ok {r : Request} {next : r.Answer → Dialogue (Except Failure α)} {a : r.Answer}
    (h : server.answer r s = (.ok a, t)) :
    (Dialogue.demand r next).run server s =
      ⟨((next a).run server t).result, r :: ((next a).run server t).requests,
        ((next a).run server t).state⟩ := by
  simp only [Dialogue.demand, Dialogue.run, h]

/-- The server that answers a question always in the same way. -/
def Server.fixed (answer : (r : Request) → Except Failure r.Answer) : Server Unit where
  answer r s := (answer r, s)

/-- A session with a server. -/
def sampleSession : Session := ⟨"http://jf:8096/", "KEY", "USER", "DEVICE"⟩

/-- The identifier stands for the root. -/
def NamesRoot (identifier : Option String) : Prop := identifier = none ∨ identifier = some ""

theorem namesRoot_or_item (identifier : Option String) :
    NamesRoot identifier ∨ ∃ id, identifier = some id ∧ id ≠ "" := by
  cases identifier with
  | none => exact .inl (.inl rfl)
  | some id =>
    by_cases hid : id = ""
    · exact .inl (.inr (congrArg some hid))
    · exact .inr ⟨id, rfl, hid⟩

theorem browse_root {identifier : Option String} (h : NamesRoot identifier) (session : Session)
    (preferred : List String) : browse session identifier preferred = openRoot := by
  rcases h with rfl | rfl <;> exact openLibraries_eq

theorem browse_item {id : String} (h : id ≠ "") (session : Session) (preferred : List String) :
    browse session (some id) preferred = .demand (.item id) (openItem session) := by
  simp only [browse, String.isEmpty_iff, h, if_false]

/-- The root with the libraries among the folders that hold music, in the order of the folders. -/
def rootView (session : Session) (folders : List Item) : Node :=
  rootNode.withChildren .directory ((folders.filter holdsMusic).map (Level.library.summary session))

/-- Everything that browsing can come to, the server being in the state `s`. -/
inductive Browsed (server : Server σ) (session : Session) (s : σ) :
    Option String → Outcome σ (Except Failure Node) → Prop where
  /-- The libraries cannot be had. -/
  | rootFails {identifier : Option String} {cause : Failure} {t : σ} : NamesRoot identifier →
      server.answer .folders s = (.error cause, t) →
      Browsed server session s identifier ⟨.error cause, [.folders], t⟩
  /-- The root is shown. -/
  | root {identifier : Option String} {listing : Listing} {t : σ} : NamesRoot identifier →
      server.answer .folders s = (.ok listing, t) →
      Browsed server session s identifier ⟨.ok (rootView session listing.items), [.folders], t⟩
  /-- The item cannot be had. -/
  | itemFails {id : String} {cause : Failure} {t : σ} : id ≠ "" →
      server.answer (.item id) s = (.error cause, t) →
      Browsed server session s (some id) ⟨.error cause, [.item id], t⟩
  /-- The item cannot be opened. -/
  | refused {id : String} {item : Item} {t : σ} : id ≠ "" →
      server.answer (.item id) s = (.ok item, t) →
      (∀ level child, ¬ Opens item level child) →
      Browsed server session s (some id) ⟨.error (refusal item), [.item id], t⟩
  /-- The children of the item cannot be had. -/
  | childrenFail {id : String} {item : Item} {level child : Level} {cause : Failure} {t u : σ} :
      id ≠ "" → server.answer (.item id) s = (.ok item, t) → Opens item level child →
      server.answer (.items (child.query item.id)) t = (.error cause, u) →
      Browsed server session s (some id) ⟨.error cause, [.item id, .items (child.query item.id)], u⟩
  /-- The item is opened. -/
  | opened {id : String} {item : Item} {level child : Level} {listing : Listing} {t u : σ} :
      id ≠ "" → server.answer (.item id) s = (.ok item, t) → Opens item level child →
      server.answer (.items (child.query item.id)) t = (.ok listing, u) →
      Browsed server session s (some id)
        ⟨level.expansion session child item (child.arrange listing.items),
          [.item id, .items (child.query item.id)], u⟩

theorem run_browse_opens {id : String} {item : Item} {level child : Level} {listing : Listing}
    (session : Session) (preferred : List String) (hid : id ≠ "")
    (hitem : server.answer (.item id) s = (.ok item, t)) (hopens : Opens item level child)
    (hlist : server.answer (.items (child.query item.id)) t = (.ok listing, u)) :
    (browse session (some id) preferred).run server s =
      ⟨level.expansion session child item (child.arrange listing.items),
        [.item id, .items (child.query item.id)], u⟩ := by
  rw [browse_item hid, run_demand_ok hitem, openItem_of_opens session hopens, run_demand_ok hlist]
  rfl

theorem run_browse_refused {id : String} {item : Item} (session : Session)
    (preferred : List String) (hid : id ≠ "") (hitem : server.answer (.item id) s = (.ok item, t))
    (hrefused : ∀ level child, ¬ Opens item level child) :
    (browse session (some id) preferred).run server s =
      ⟨.error (refusal item), [.item id], t⟩ := by
  rw [browse_item hid, run_demand_ok hitem, openItem_of_not_opens session hrefused]
  rfl

/-- **Every run of browsing is one of these.** -/
theorem browsed (server : Server σ) (session : Session) (s : σ) (identifier : Option String)
    (preferred : List String) :
    Browsed server session s identifier ((browse session identifier preferred).run server s) := by
  rcases namesRoot_or_item identifier with hroot | ⟨id, rfl, hid⟩
  · rw [browse_root hroot]
    rcases h : server.answer .folders s with ⟨cause | listing, t⟩
    · rw [openRoot, run_demand_error h]
      exact .rootFails hroot h
    · rw [openRoot, run_demand_ok h]
      exact .root hroot h
  · rcases h : server.answer (.item id) s with ⟨cause | item, t⟩
    · rw [browse_item hid, run_demand_error h]
      exact .itemFails hid h
    · rcases opens_or_not_opens item with ⟨level, child, hopens⟩ | hrefused
      · rcases hlist : server.answer (.items (child.query item.id)) t with ⟨cause | listing, u⟩
        · rw [browse_item hid, run_demand_ok h, openItem_of_opens session hopens,
            run_demand_error hlist]
          exact .childrenFail hid h hopens hlist
        · rw [run_browse_opens session preferred hid h hopens hlist]
          exact .opened hid h hopens hlist
      · rw [run_browse_refused session preferred hid h hrefused]
        exact .refused hid h hrefused

/-! ### Servers that keep to what they list -/

/-- The item stands in a listing that the server may give. -/
inductive Lists (server : Server σ) (item : Item) : Prop where
  /-- Among the folders. -/
  | folder {listing : Listing} {s t : σ} : server.answer .folders s = (.ok listing, t) →
      item ∈ listing.items → Lists server item
  /-- Among the items that a query finds. -/
  | found {query : ItemQuery} {listing : Listing} {s t : σ} :
      server.answer (.items query) s = (.ok listing, t) → item ∈ listing.items → Lists server item

/-- A server that can be asked for what it lists, and lists of a kind what is of this kind. -/
structure Faithful (server : Server σ) : Prop where
  /-- A listed item is got by its identifier. -/
  answer_item : ∀ {item : Item}, Lists server item →
    ∀ s, (server.answer (.item item.id) s).1 = .ok item
  /-- The identifier of a listed item is not empty. -/
  id_ne : ∀ {item : Item}, Lists server item → item.id ≠ ""
  /-- A query for a kind finds items of this kind. -/
  kind_eq : ∀ {query : ItemQuery} {kind : ItemKind} {listing : Listing} {s t : σ},
    query.kind = some kind → server.answer (.items query) s = (.ok listing, t) →
    ∀ item ∈ listing.items, item.kind = kind

/-- A child that browsing shows stands for an item of the server's listing. -/
theorem Browsed.exists_item_of_mem {session : Session} {identifier : Option String} {n c : Node}
    {outcome : Outcome σ (Except Failure Node)} (h : Browsed server session s identifier outcome)
    (hn : outcome.result = .ok n) (hc : c ∈ n.childList) :
    (∃ listing item, server.answer .folders s = (.ok listing, outcome.state) ∧
      item ∈ listing.items ∧ holdsMusic item = true ∧ c = Level.library.summary session item) ∨
    ∃ level child parent listing item t, Opens parent level child ∧
      server.answer (.items (child.query parent.id)) t = (.ok listing, outcome.state) ∧
      item ∈ listing.items ∧ (child = .track → (fileType? item).isSome) ∧
      c = child.summary session item := by
  cases h with
  | root _ hlist =>
    obtain rfl := Except.ok.inj hn
    obtain ⟨item, hitem, rfl⟩ := List.mem_map.mp hc
    rw [List.mem_filter] at hitem
    exact .inl ⟨_, item, hlist, hitem.1, hitem.2, rfl⟩
  | opened _ _ hopens hlist =>
    obtain ⟨htyped, rfl⟩ := Level.expansion_eq_ok_iff.mp hn
    obtain ⟨item, hitem, rfl⟩ := List.mem_map.mp hc
    have hmem := (Level.arranged_arrange _ _).perm.mem_iff.mp hitem
    exact .inr ⟨_, _, _, _, item, _, hopens, hlist, hmem, fun h => htyped h item hitem, rfl⟩
  | rootFails | itemFails | refused | childrenFail => cases hn

end MusicLibrary.Browsing
