import MusicLibrary.Browsing.Source
import MusicLibrary.Proofs.Browsing.Resolution

/-!
# What is asked

Which questions an operation asks follows from what it is asked to do and, when an item is browsed,
from the server's answer to the question for the item (`Operation.asks`). The questions are asked
one after the other, and a question that fails is the last one: its failure is the result
(`EndsOnFailure`). How many items a listing holds and what the listener prefers make no difference.
-/

namespace MusicLibrary.Browsing

open Catalogue Media

variable {σ α β : Type} {server : Server σ}

/-! ### Questions with their answers -/

/-- A question and the answer that it gets. -/
structure Exchange where
  /-- The question. -/
  request : Request
  /-- What the server answers, or why it does not. -/
  answer : Except Failure request.Answer

namespace Dialogue

/-- The questions of a run with their answers, in the order in which they are asked. -/
def transcript (server : Server σ) : Dialogue α → σ → List Exchange
  | done _, _ => []
  | ask r next, s =>
    ⟨r, (server.answer r s).1⟩ ::
      (next (server.answer r s).1).transcript server (server.answer r s).2

theorem map_request_transcript (server : Server σ) (d : Dialogue α) (s : σ) :
    (d.transcript server s).map Exchange.request = (d.run server s).requests := by
  induction d generalizing s with
  | done a => rfl
  | ask r next ih =>
    rw [transcript, List.map_cons, ih]
    rfl

theorem run_bind (server : Server σ) (d : Dialogue α) (f : α → Dialogue β) (s : σ) :
    (d.bind f).run server s =
      ⟨((f (d.run server s).result).run server (d.run server s).state).result,
        (d.run server s).requests ++
          ((f (d.run server s).result).run server (d.run server s).state).requests,
        ((f (d.run server s).result).run server (d.run server s).state).state⟩ := by
  induction d generalizing s with
  | done a => rfl
  | ask r next ih => simp only [bind, run, ih, List.cons_append]

theorem run_map (server : Server σ) (f : α → β) (d : Dialogue α) (s : σ) :
    (d.map f).run server s =
      ⟨f (d.run server s).result, (d.run server s).requests, (d.run server s).state⟩ := by
  rw [map, run_bind]
  simp only [run, List.append_nil]

/-- As soon as a question fails the dialogue is over, and `fail` tells what the failure comes to. -/
inductive EndsOnFailure (fail : Failure → α) : Dialogue α → Prop where
  /-- Nothing is left to ask. -/
  | done (a : α) : EndsOnFailure fail (.done a)
  /-- If the question fails nothing else is asked; if it does not the rest ends on a failure. -/
  | ask (r : Request) {next : Except Failure r.Answer → Dialogue α} :
      (∀ cause, next (.error cause) = .done (fail cause)) →
      (∀ a, EndsOnFailure fail (next (.ok a))) → EndsOnFailure fail (.ask r next)

theorem EndsOnFailure.demand (r : Request) {next : r.Answer → Dialogue (Except Failure α)}
    (h : ∀ a, (next a).EndsOnFailure .error) : (Dialogue.demand r next).EndsOnFailure .error :=
  .ask r (fun _ => rfl) h

theorem EndsOnFailure.map {fail : Failure → α} {d : Dialogue α} (f : α → β)
    (h : d.EndsOnFailure fail) : (d.map f).EndsOnFailure fun cause => f (fail cause) := by
  induction h with
  | done a => exact .done (f a)
  | ask r herror _ ih =>
    refine .ask r (fun cause => ?_) ih
    rw [herror]
    rfl

/-- In a run of such a dialogue only the last question can fail, and then with its failure the
dialogue ends. -/
theorem EndsOnFailure.last {fail : Failure → α} {d : Dialogue α} (h : d.EndsOnFailure fail)
    {s : σ} {before after : List Exchange} {r : Request} {cause : Failure}
    (hrun : d.transcript server s = before ++ ⟨r, .error cause⟩ :: after) :
    after = [] ∧ (d.run server s).result = fail cause := by
  induction h generalizing s before with
  | done a => simp [transcript] at hrun
  | ask q herror hok ih =>
    rw [transcript] at hrun
    rcases hanswer : server.answer q s with ⟨cause' | a, t⟩
    · -- the first question fails already, so it is the one in the transcript
      rw [hanswer, herror] at hrun
      cases before with
      | nil =>
        obtain ⟨hfirst, rfl⟩ := List.cons.inj hrun
        cases hfirst
        refine ⟨rfl, ?_⟩
        simp only [run, hanswer, herror]
      | cons x before => simp [transcript] at hrun
    · rw [hanswer] at hrun
      cases before with
      | nil =>
        obtain ⟨hfirst, -⟩ := List.cons.inj hrun
        cases hfirst
      | cons x before =>
        obtain ⟨hafter, hresult⟩ := ih a (List.cons.inj hrun).2
        refine ⟨hafter, ?_⟩
        simpa only [run, hanswer] using hresult

end Dialogue

/-! ### Operations -/

/-- What the source can be asked to do. -/
inductive Operation where
  /-- To show what an identifier stands for. -/
  | browse (identifier : Option String) (preferred : List String)
  /-- To tell how the item of an identifier is played. -/
  | resolve (identifier : String)
  /-- To show to a host what stands at an address. -/
  | browseAddress (address : Address) (preferred : List String)
  /-- To tell a host how the item at an address is played. -/
  | resolveAddress (address : Address)

namespace Operation

/-- What an operation results in. -/
abbrev Result : Operation → Type
  | browse _ _ => Except Failure Node
  | resolve _ => Except Failure Playback
  | browseAddress _ _ => Except SourceError Node
  | resolveAddress _ => Except SourceError Playback

/-- The dialogue that an operation holds with the server. -/
def dialogue (session : Session) : (o : Operation) → Dialogue o.Result
  | browse identifier preferred => Browsing.browse session identifier preferred
  | resolve id => Browsing.resolve session id
  | browseAddress address preferred => Browsing.browseAddress session address preferred
  | resolveAddress address => Browsing.resolveAddress session address

/-- The result of an operation one of whose questions has failed: the failure as it is, and to a
host the text of the failure. -/
def failure : (o : Operation) → Failure → o.Result
  | browse _ _, cause => .error cause
  | resolve _, cause => .error cause
  | browseAddress _ _, cause => .error (.browse cause.message)
  | resolveAddress _, cause => .error (.unresolvable cause.message)

end Operation

/-- The kind of the children of an item, if it can be opened. -/
def childKind? (item : Item) : Option ItemKind :=
  match item.kind with
  | .library => if item.collection = some .music then some .artist else none
  | .artist => some .album
  | .album => some .audio
  | _ => none

/-- What is asked about an item once the server has given it: its children in one listing, found
by the identifier that the item has, and with their files if they are tracks. -/
def furtherRequests (item : Item) : List Request :=
  match childKind? item with
  | none => []
  | some kind =>
    [.items ⟨true, some item.id, some kind, if kind = .audio then ["MediaSources"] else []⟩]

/-- What is asked to show what an identifier stands for, if `items` tells what the server answers
to the questions for items. -/
def requestsToBrowse (items : String → Except Failure Item) : Option String → List Request
  | none => [.folders]
  | some id =>
    if id = "" then [.folders]
    else
      match items id with
      | .error _ => [.item id]
      | .ok item => .item id :: furtherRequests item

/-- What is asked to tell how the item of an identifier is played. -/
def requestsToResolve (id : String) : List Request := if id = "" then [] else [.item id]

/-- What an operation asks, if `items` tells what the server answers to the questions for items. -/
def Operation.asks (items : String → Except Failure Item) : Operation → List Request
  | browse identifier _ => requestsToBrowse items identifier
  | resolve id => requestsToResolve id
  | browseAddress address _ => requestsToBrowse items address.identifier
  | resolveAddress address =>
    match address.identifier with
    | none => []
    | some id => requestsToResolve id

theorem requestsToBrowse_root {identifier : Option String} (h : NamesRoot identifier)
    (items : String → Except Failure Item) : requestsToBrowse items identifier = [.folders] := by
  rcases h with rfl | rfl <;> rfl

theorem furtherRequests_of_opens {item : Item} {level child : Level}
    (h : Opens item level child) : furtherRequests item = [.items (child.query item.id)] := by
  cases h with
  | library hkind hmusic => simp only [furtherRequests, childKind?, hkind, hmusic]; rfl
  | artist hkind => simp only [furtherRequests, childKind?, hkind]; rfl
  | album hkind => simp only [furtherRequests, childKind?, hkind]; rfl

theorem furtherRequests_of_not_opens {item : Item} (h : ∀ level child, ¬ Opens item level child) :
    furtherRequests item = [] := by
  have hnone : childKind? item = none := by
    unfold childKind?
    cases hkind : item.kind with
    | library => exact if_neg fun hmusic => h _ _ (.library hkind hmusic)
    | artist => exact absurd (.artist hkind) (h _ _)
    | album => exact absurd (.album hkind) (h _ _)
    | audio => rfl
    | other name => rfl
  rw [furtherRequests, hnone]

theorem requests_browse (server : Server σ) (session : Session) (s : σ)
    (identifier : Option String) (preferred : List String) :
    ((browse session identifier preferred).run server s).requests =
      requestsToBrowse (fun id => (server.answer (.item id) s).1) identifier := by
  have hrun := browsed server session s identifier preferred
  generalize (browse session identifier preferred).run server s = outcome at hrun ⊢
  cases hrun with
  | rootFails hroot _ => rw [requestsToBrowse_root hroot]
  | root hroot _ => rw [requestsToBrowse_root hroot]
  | itemFails hid hitem => simp only [requestsToBrowse, if_neg hid, hitem]
  | refused hid hitem hrefused =>
    simp only [requestsToBrowse, if_neg hid, hitem, furtherRequests_of_not_opens hrefused]
  | childrenFail hid hitem hopens _ =>
    simp only [requestsToBrowse, if_neg hid, hitem, furtherRequests_of_opens hopens]
  | opened hid hitem hopens _ =>
    simp only [requestsToBrowse, if_neg hid, hitem, furtherRequests_of_opens hopens]

theorem requests_resolve (server : Server σ) (session : Session) (s : σ) (id : String) :
    ((resolve session id).run server s).requests = requestsToResolve id := by
  have hrun := resolved server session s id
  generalize (resolve session id).run server s = outcome at hrun ⊢
  cases hrun with
  | unnamed => rfl
  | itemFails hid | silent hid | untyped hid | played hid => rw [requestsToResolve, if_neg hid]

theorem requests_operation (server : Server σ) (session : Session) (s : σ) (o : Operation) :
    ((o.dialogue session).run server s).requests =
      o.asks fun id => (server.answer (.item id) s).1 := by
  cases o with
  | browse identifier preferred => exact requests_browse server session s identifier preferred
  | resolve id => exact requests_resolve server session s id
  | browseAddress address preferred =>
    show ((Dialogue.map _ _).run server s).requests = _
    rw [Dialogue.run_map]
    exact requests_browse server session s address.identifier preferred
  | resolveAddress address =>
    obtain ⟨domain, identifier⟩ := address
    cases identifier with
    | none => rfl
    | some id =>
      show ((Dialogue.map _ _).run server s).requests = _
      rw [Dialogue.run_map]
      exact requests_resolve server session s id

theorem length_furtherRequests_le (item : Item) : (furtherRequests item).length ≤ 1 := by
  unfold furtherRequests
  split <;> simp

theorem length_requestsToBrowse_le (items : String → Except Failure Item)
    (identifier : Option String) : (requestsToBrowse items identifier).length ≤ 2 := by
  unfold requestsToBrowse
  split
  · simp
  · split_ifs
    · simp
    · split
      · simp
      · simpa using length_furtherRequests_le _

theorem length_requestsToResolve_le (id : String) : (requestsToResolve id).length ≤ 2 := by
  unfold requestsToResolve
  split_ifs <;> simp

theorem Operation.length_asks_le (items : String → Except Failure Item) (o : Operation) :
    (o.asks items).length ≤ 2 := by
  cases o with
  | browse identifier _ => exact length_requestsToBrowse_le items identifier
  | resolve id => exact length_requestsToResolve_le id
  | browseAddress address _ => exact length_requestsToBrowse_le items address.identifier
  | resolveAddress address =>
    obtain ⟨domain, identifier⟩ := address
    cases identifier with
    | none => exact Nat.zero_le 2
    | some id => exact length_requestsToResolve_le id

theorem endsOnFailure_openItem (session : Session) (item : Item) :
    (openItem session item).EndsOnFailure .error := by
  rcases opens_or_not_opens item with ⟨level, child, hopens⟩ | hrefused
  · rw [openItem_of_opens session hopens]
    exact .demand _ fun _ => .done _
  · rw [openItem_of_not_opens session hrefused]
    exact .done _

theorem endsOnFailure_browse (session : Session) (identifier : Option String)
    (preferred : List String) :
    (browse session identifier preferred).EndsOnFailure .error := by
  rcases namesRoot_or_item identifier with hroot | ⟨id, rfl, hid⟩
  · rw [browse_root hroot]
    exact .demand _ fun _ => .done _
  · rw [browse_item hid]
    exact .demand _ (endsOnFailure_openItem session)

theorem endsOnFailure_resolve (session : Session) (id : String) :
    (resolve session id).EndsOnFailure .error := by
  by_cases hid : id = ""
  · rw [hid, resolve_empty]
    exact .done _
  · rw [resolve_item hid]
    exact .demand _ fun _ => .done _

theorem Operation.endsOnFailure (session : Session) (o : Operation) :
    (o.dialogue session).EndsOnFailure o.failure := by
  cases o with
  | browse identifier preferred => exact endsOnFailure_browse session identifier preferred
  | resolve id => exact endsOnFailure_resolve session id
  | browseAddress address preferred =>
    exact (endsOnFailure_browse session address.identifier preferred).map
      (Except.mapError fun e => SourceError.browse e.message)
  | resolveAddress address =>
    obtain ⟨domain, identifier⟩ := address
    cases identifier with
    | none => exact .done _
    | some id =>
      exact (endsOnFailure_resolve session id).map
        (Except.mapError fun e => SourceError.unresolvable e.message)

/-- **What an operation asks, and how it ends.** The questions are those of `Operation.asks`, so
at most two; only the last one can fail, and its failure is the result; and what the listener
prefers changes neither the questions nor the result. -/
theorem operation_asks (server : Server σ) (session : Session) (s : σ) (o : Operation) :
    ((o.dialogue session).transcript server s).map Exchange.request =
        ((o.dialogue session).run server s).requests ∧
      (((o.dialogue session).run server s).requests =
        o.asks fun id => (server.answer (.item id) s).1) ∧
      ((o.dialogue session).run server s).requests.length ≤ 2 ∧
      (∀ before r cause after,
        (o.dialogue session).transcript server s = before ++ ⟨r, .error cause⟩ :: after →
          after = [] ∧ ((o.dialogue session).run server s).result = o.failure cause) ∧
      (∀ identifier preferred preferred',
        (browse session identifier preferred).run server s =
          (browse session identifier preferred').run server s) ∧
      ∀ address preferred preferred',
        (browseAddress session address preferred).run server s =
          (browseAddress session address preferred').run server s := by
  have hasks := requests_operation server session s o
  refine ⟨Dialogue.map_request_transcript _ _ _, hasks, ?_, ?_, fun _ _ _ => rfl,
    fun _ _ _ => rfl⟩
  · rw [hasks]
    exact o.length_asks_le _
  · intro before r cause after hrun
    exact (o.endsOnFailure session).last hrun

/-! ### An artist whose albums cannot be listed -/

/-- The artist, who is known under another identifier too. -/
def mutedArtist : Item := ⟨"AR", "Muted", .artist, none, none, .empty, none, []⟩

/-- A server that has the artist and lists nothing. -/
def mutedServer : Server Unit := .fixed fun
  | .item _ => .ok mutedArtist
  | .folders => .error (.status 503 "down")
  | .items _ => .error (.status 503 "down")

/-- The albums are asked for by the identifier that the artist has, and that this fails is what
the host is told. -/
theorem operation_asks_muted :
    ((browseAddress sampleSession ⟨some "jellyfin", some "ar"⟩ []).run mutedServer ()).requests =
        [.item "ar", .items ⟨true, some "AR", some .album, []⟩] ∧
      ((browseAddress sampleSession ⟨some "jellyfin", some "ar"⟩ []).run mutedServer ()).result =
        .error (.browse "Jellyfin API error (code 503): down") := by
  obtain ⟨-, hasks, -, hlast, -⟩ := operation_asks mutedServer sampleSession ()
    (.browseAddress ⟨some "jellyfin", some "ar"⟩ [])
  refine ⟨hasks, ?_⟩
  have h := hlast [⟨.item "ar", .ok mutedArtist⟩] (.items ⟨true, some "AR", some .album, []⟩)
    (.status 503 "down") [] rfl
  refine h.2.trans ?_
  decide +kernel

end MusicLibrary.Browsing
