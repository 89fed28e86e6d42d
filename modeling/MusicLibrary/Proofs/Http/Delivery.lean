import MusicLibrary.Proofs.Browsing.Resolution
import MusicLibrary.Proofs.Http.Address
import MusicLibrary.Proofs.Http.Reading

/-!
# Browsing and resolving over the wire

A server on the network answers the requests of a client one after the other. The first request is
for the item, and only if its response holds an item that can be opened there is a second one, for
the children. All responses count: the first that fails decides the result, and there is a result
other than a failure only if every response holds what has been asked for
(`BrowsedInOrder`, `ResolvedInOrder`).
-/

namespace MusicLibrary.Http

open Browsing Catalogue Media

/-! ### The responses of a script -/

namespace Script

/-- The response to request number `n`. -/
def response (script : Script) (n : ℕ) : Response := script.responses.getD n exhausted

/-- The script after one more request. -/
def after (script : Script) (request : Request) : Script :=
  ⟨script.responses.tail, script.seen ++ [request]⟩

theorem respond_eq (script : Script) (request : Request) :
    script.respond request = (script.response 0, script.after request) := by
  obtain ⟨responses, seen⟩ := script
  cases responses <;> rfl

theorem response_after (script : Script) (request : Request) (n : ℕ) :
    (script.after request).response n = script.response (n + 1) := by
  obtain ⟨responses, seen⟩ := script
  cases responses <;> rfl

theorem complete_exhausted : exhausted.Complete :=
  ⟨.inr (by decide), "no scripted response", rfl⟩

theorem complete_response {script : Script} (h : ∀ r ∈ script.responses, r.Complete) (n : ℕ) :
    (script.response n).Complete := by
  unfold response
  by_cases hn : n < script.responses.length
  · rw [List.getD_eq_getElem _ _ hn]
    exact h _ (List.getElem_mem hn)
  · rw [List.getD_eq_default _ _ (Nat.not_lt.mp hn)]
    exact complete_exhausted

end Script

/-! ### What is sent -/

section Requests

variable (session : Session) (name : String) (base : Url)

/-- The request for an item. -/
def itemRequest (id : String) : Request :=
  getRequest session name base ("Items/" ++ Client.segment id)

/-- The parameters of the request for the children of an item: all of a kind below it, and with
their files if they are tracks. -/
def childParams (item : Item) (child : Level) : List (String × String) :=
  (ItemQuery.childrenOf item.id child.kind).params ++
    if child = .track then [("Fields", "MediaSources")] else []

/-- The request for the children of an item. -/
def childrenRequest (item : Item) (child : Level) : Request :=
  getRequest session name base ("Items?" ++ String.ofList (encodePairs (childParams item child)))

/-- What a client of the session talks to over the wire: a script, as the server at the address
`base`. -/
def wire (timeout : UInt64) : Server Script :=
  Script.server base.endpoint (Client.create session name timeout)

end Requests

theorem params_query (item : Item) (child : Level) :
    (child.query item.id).params = childParams item child := by
  cases child <;> rfl

/-! ### One question over the wire -/

variable {session : Session} {name : String} {timeout : UInt64} {base : Url}

/-- The address of an item below that of the session. -/
def itemUrl (session : Session) (id : String) : String :=
  session.baseUrl ++ "Users/" ++ session.userId ++ "/" ++ ("Items/" ++ Client.segment id)

theorem Sends.answer_item (h : Sends session name timeout base) {id : String}
    (hlength : (itemUrl session id).utf8ByteSize ≤ greatestLength) (script : Script) :
    (wire session name base timeout).answer (.item id) script =
      ((script.response 0).read Item.decode, script.after (itemRequest session name base id)) := by
  rw [wire, Script.answer_of_sent (h.requestTo_item hlength), Script.respond_eq]
  rfl

theorem Sends.answer_children (h : Sends session name timeout base) {id : String}
    (hlength : (itemUrl session id).utf8ByteSize ≤ greatestLength) (item : Item) (child : Level)
    (script : Script) :
    (wire session name base timeout).answer (.items (child.query item.id)) script =
      ((script.response 0).read Listing.decode,
        script.after (childrenRequest session name base item child)) := by
  -- the address of the listing is the beginning of that of the item
  have hlength : ((Client.create session name timeout).userUrl "Items").utf8ByteSize ≤
      greatestLength := by
    refine Nat.le_trans ?_ hlength
    simp only [Client.userUrl, Client.create, itemUrl, String.utf8ByteSize_append]
    have hitems : "Items".utf8ByteSize ≤ "Items/".utf8ByteSize := by decide
    omega
  have hparams : (child.query item.id).params ≠ [] := by
    rw [params_query]
    exact List.cons_ne_nil _ _
  rw [wire, Script.answer_of_sent (h.requestTo_items hparams hlength), Script.respond_eq,
    params_query]
  rfl

/-! ### Browsing -/

/-- Everything that browsing an item over the wire can come to. -/
inductive Delivered (session : Session) (name : String) (base : Url) (source : Session)
    (id : String) (script : Script) : Outcome Script (Except Failure Node) → Prop where
  /-- The first response fails. -/
  | itemFails {cause : Failure} : (script.response 0).Fails Item.decode cause →
      Delivered session name base source id script
        ⟨.error cause, [.item id], script.after (itemRequest session name base id)⟩
  /-- The item cannot be opened. -/
  | refused {item : Item} : (script.response 0).Holds Item.decode item →
      (∀ level child, ¬ Opens item level child) →
      Delivered session name base source id script
        ⟨.error (refusal item), [.item id], script.after (itemRequest session name base id)⟩
  /-- The second response fails. -/
  | childrenFail {item : Item} {level child : Level} {cause : Failure} :
      (script.response 0).Holds Item.decode item → Opens item level child →
      (script.response 1).Fails Listing.decode cause →
      Delivered session name base source id script
        ⟨.error cause, [.item id, .items (child.query item.id)],
          (script.after (itemRequest session name base id)).after
            (childrenRequest session name base item child)⟩
  /-- Both responses hold what is asked for. -/
  | opened {item : Item} {level child : Level} {listing : Listing} :
      (script.response 0).Holds Item.decode item → Opens item level child →
      (script.response 1).Holds Listing.decode listing →
      Delivered session name base source id script
        ⟨level.expansion source child item (child.arrange listing.items),
          [.item id, .items (child.query item.id)],
          (script.after (itemRequest session name base id)).after
            (childrenRequest session name base item child)⟩

/-- **Every run of browsing an item over the wire is one of these.** -/
theorem Sends.delivered (h : Sends session name timeout base) (source : Session) {id : String}
    (hid : id ≠ "") (hlength : (itemUrl session id).utf8ByteSize ≤ greatestLength)
    (preferred : List String) {script : Script} (hcomplete : ∀ r ∈ script.responses, r.Complete) :
    Delivered session name base source id script
      ((browse source (some id) preferred).run (wire session name base timeout) script) := by
  have hrun := browsed (wire session name base timeout) source script (some id) preferred
  have hfirst := Script.complete_response hcomplete 0
  have hsecond := Script.complete_response hcomplete 1
  generalize (browse source (some id) preferred).run _ script = outcome at hrun ⊢
  have hroot : ¬ NamesRoot (some id) := by
    rintro (e | e)
    · cases e
    · exact hid (Option.some.inj e)
  cases hrun with
  | rootFails hnames _ => exact absurd hnames hroot
  | root hnames _ => exact absurd hnames hroot
  | itemFails _ hitem =>
    rw [h.answer_item hlength] at hitem
    obtain ⟨hread, rfl⟩ := Prod.mk.inj hitem
    exact .itemFails (hfirst.read_eq_error_iff.mp hread)
  | refused _ hitem hrefused =>
    rw [h.answer_item hlength] at hitem
    obtain ⟨hread, rfl⟩ := Prod.mk.inj hitem
    exact .refused (hfirst.read_eq_ok_iff.mp hread) hrefused
  | childrenFail _ hitem hopens hlist =>
    rw [h.answer_item hlength] at hitem
    obtain ⟨hread, rfl⟩ := Prod.mk.inj hitem
    rw [h.answer_children hlength, Script.response_after] at hlist
    obtain ⟨hreadList, rfl⟩ := Prod.mk.inj hlist
    exact .childrenFail (hfirst.read_eq_ok_iff.mp hread) hopens
      (hsecond.read_eq_error_iff.mp hreadList)
  | opened _ hitem hopens hlist =>
    rw [h.answer_item hlength] at hitem
    obtain ⟨hread, rfl⟩ := Prod.mk.inj hitem
    rw [h.answer_children hlength, Script.response_after] at hlist
    obtain ⟨hreadList, rfl⟩ := Prod.mk.inj hlist
    exact .opened (hfirst.read_eq_ok_iff.mp hread) hopens (hsecond.read_eq_ok_iff.mp hreadList)

/-- Browsing asks first for the item and then for its children, and it is over with the first
response that fails. -/
structure BrowsedInOrder (session : Session) (name : String) (base : Url) (id : String)
    (script : Script) (outcome : Outcome Script (Except Failure Node)) : Prop where
  /-- The first request is for the item, and has no query. If there is another one it is for the
  children of the item that the first response holds, and that can be opened. -/
  sent : '?' ∉ (itemRequest session name base id).target.toList ∧
    ∃ later, outcome.state.seen = script.seen ++ itemRequest session name base id :: later ∧
      (later = [] ∨ ∃ item level child, (script.response 0).Holds Item.decode item ∧
        Opens item level child ∧ later = [childrenRequest session name base item child])
  /-- There is a node only if both responses hold what has been asked for. -/
  shown : ∀ n, outcome.result = .ok n → ∃ item level child listing,
    (script.response 0).Holds Item.decode item ∧ Opens item level child ∧
      (script.response 1).Holds Listing.decode listing ∧
      outcome.state.seen = script.seen ++
        [itemRequest session name base id, childrenRequest session name base item child]
  /-- If the first response fails this is the result, and nothing else is sent. -/
  first_fails : ∀ cause, (script.response 0).Fails Item.decode cause →
    outcome.result = .error cause ∧
      outcome.state.seen = script.seen ++ [itemRequest session name base id]
  /-- If the second response is asked for and fails this is the result. -/
  second_fails : ∀ cause, outcome.state.seen.length = script.seen.length + 2 →
    (script.response 1).Fails Listing.decode cause → outcome.result = .error cause

theorem seen_after_after (script : Script) (first second : Request) :
    ((script.after first).after second).seen = script.seen ++ [first, second] := by
  simp [Script.after]

theorem Delivered.inOrder {source : Session} {id : String} {script : Script}
    {outcome : Outcome Script (Except Failure Node)}
    (h : Delivered session name base source id script outcome)
    (hquery : '?' ∉ (itemRequest session name base id).target.toList)
    (hcomplete : ∀ r ∈ script.responses, r.Complete) :
    BrowsedInOrder session name base id script outcome := by
  have hfirst := Script.complete_response hcomplete 0
  have hsecond := Script.complete_response hcomplete 1
  cases h with
  | @itemFails cause hfails =>
    refine ⟨⟨hquery, [], rfl, .inl rfl⟩, nofun, fun cause' hfails' => ?_, fun _ hlength => ?_⟩
    · obtain rfl := hfirst.eq_of_fails hfails hfails'
      exact ⟨rfl, rfl⟩
    · simp [Script.after] at hlength
  | refused hholds _ =>
    refine ⟨⟨hquery, [], rfl, .inl rfl⟩, nofun, fun _ hfails => ?_, fun _ hlength => ?_⟩
    · exact absurd hfails (hfirst.not_fails hholds)
    · simp [Script.after] at hlength
  | @childrenFail item level child cause hholds hopens hfails =>
    refine ⟨⟨hquery, _, seen_after_after _ _ _, .inr ⟨item, level, child, hholds, hopens, rfl⟩⟩,
      nofun, fun _ hfails => ?_, fun cause' _ hfails' => ?_⟩
    · exact absurd hfails (hfirst.not_fails hholds)
    · obtain rfl := hsecond.eq_of_fails hfails hfails'
      rfl
  | @opened item level child listing hholds hopens hlisting =>
    refine ⟨⟨hquery, _, seen_after_after _ _ _, .inr ⟨item, level, child, hholds, hopens, rfl⟩⟩,
      fun _ _ => ⟨item, level, child, listing, hholds, hopens, hlisting, seen_after_after _ _ _⟩,
      fun _ hfails => ?_, fun _ _ hfails => ?_⟩
    · exact absurd hfails (hfirst.not_fails hholds)
    · exact absurd hfails (hsecond.not_fails hlisting)

/-! ### Resolving -/

/-- Resolving asks for the item alone, and its response must hold it. -/
structure ResolvedInOrder (session : Session) (name : String) (base : Url) (id : String)
    (script : Script) (outcome : Outcome Script (Except Failure Playback)) : Prop where
  /-- The only request is for the item. -/
  sent : outcome.state.seen = script.seen ++ [itemRequest session name base id]
  /-- The item can be played only if the response holds it. -/
  resolved : ∀ p, outcome.result = .ok p → ∃ item, (script.response 0).Holds Item.decode item
  /-- If the response fails this is the result. -/
  fails : ∀ cause, (script.response 0).Fails Item.decode cause → outcome.result = .error cause

theorem Sends.resolvedInOrder (h : Sends session name timeout base) (source : Session) {id : String}
    (hid : id ≠ "") (hlength : (itemUrl session id).utf8ByteSize ≤ greatestLength)
    {script : Script} (hcomplete : ∀ r ∈ script.responses, r.Complete) :
    ResolvedInOrder session name base id script
      ((resolve source id).run (wire session name base timeout) script) := by
  have hfirst := Script.complete_response hcomplete 0
  have hanswer := h.answer_item hlength script
  rw [resolve_item hid]
  obtain ⟨item, hholds⟩ | ⟨cause, hfails⟩ := hfirst.holds_or_fails Item.decode
  · rw [hholds.read_eq] at hanswer
    rw [run_demand_ok hanswer]
    exact ⟨rfl, fun _ _ => ⟨item, hholds⟩, fun _ hfails => absurd hfails (hfirst.not_fails hholds)⟩
  · rw [hfails.read_eq hfirst] at hanswer
    rw [run_demand_error hanswer]
    refine ⟨rfl, nofun, fun cause' hfails' => ?_⟩
    obtain rfl := hfirst.eq_of_fails hfails hfails'
    rfl

/-! ### An address that is too long -/

theorem length_le_utf8Len (s : List Char) : s.length ≤ String.utf8Len s := by
  induction s with
  | nil => exact Nat.le_refl 0
  | cons c s ih =>
    have hsize := c.utf8Size_pos
    rw [List.length_cons, String.utf8Len_cons]
    omega

theorem encodeChar_ne_nil (keep : Char → Bool) (c : Char) :
    PercentEncoding.encodeChar keep c ≠ [] := by
  unfold PercentEncoding.encodeChar
  split_ifs
  · exact List.cons_ne_nil _ _
  · obtain ⟨byte, hbyte⟩ := List.exists_mem_of_ne_nil _ (String.utf8EncodeChar_ne_nil (c := c))
    intro hnil
    exact List.cons_ne_nil _ _ (List.flatMap_eq_nil_iff.mp hnil byte hbyte)

/-- Percent-encoding makes no text shorter. -/
theorem length_le_encode (keep : Char → Bool) (s : List Char) :
    s.length ≤ (PercentEncoding.encode keep s).length := by
  rw [PercentEncoding.encode, List.length_flatMap]
  induction s with
  | nil => exact Nat.le_refl 0
  | cons c s ih =>
    have hc := List.length_pos_iff.mpr (encodeChar_ne_nil keep c)
    rw [List.length_cons, List.map_cons, List.sum_cons]
    omega

/-- An identifier that is longer than any address may be has too long an address. -/
theorem itemUrl_too_long {id : String} (h : greatestLength < id.length) (session : Session) :
    greatestLength < (itemUrl session id).utf8ByteSize := by
  have hsegment : id.length ≤ (Client.segment id).utf8ByteSize := by
    rw [Client.segment, String.utf8ByteSize_ofList]
    exact (length_le_encode _ _).trans (length_le_utf8Len _)
  simp only [itemUrl, String.utf8ByteSize_append]
  omega

theorem answer_item_of_too_long {id : String}
    (hlong : greatestLength < (itemUrl session id).utf8ByteSize) (script : Script) :
    (wire session name base timeout).answer (.item id) script =
      (.error (.transport "invalid address"), script) := by
  have hrequest : (Client.create session name timeout).request (.item id) =
      .error (.transport "invalid address") := Client.request_eq_error hlong
  simp only [wire, Script.server, Client.requestTo, hrequest]

/-- **The first response that fails decides, and nothing is shown unless all hold what they
should.** This is so for browsing and for resolving, whatever the responses are, if the address of
the item is not too long for a request. If it is, nothing is sent at all. -/
theorem fail_fast_over_wire (h : Sends session name timeout base) (source : Session) {id : String}
    (hid : id ≠ "") {script : Script} (hcomplete : ∀ r ∈ script.responses, r.Complete) :
    ((itemUrl session id).utf8ByteSize ≤ greatestLength →
      (∀ preferred, BrowsedInOrder session name base id script
        ((browse source (some id) preferred).run (wire session name base timeout) script)) ∧
      ResolvedInOrder session name base id script
        ((resolve source id).run (wire session name base timeout) script)) ∧
    (greatestLength < (itemUrl session id).utf8ByteSize →
      (∀ preferred,
        (browse source (some id) preferred).run (wire session name base timeout) script =
          ⟨.error (.transport "invalid address"), [.item id], script⟩) ∧
      (resolve source id).run (wire session name base timeout) script =
        ⟨.error (.transport "invalid address"), [.item id], script⟩) := by
  refine ⟨fun hlength => ⟨fun preferred => ?_, ?_⟩, fun hlong => ⟨fun preferred => ?_, ?_⟩⟩
  · have hquery := h.question_mark_not_mem hlength
    exact (h.delivered source hid hlength preferred hcomplete).inOrder hquery hcomplete
  · exact h.resolvedInOrder source hid hlength hcomplete
  · rw [browse_item hid]
    exact run_demand_error (answer_item_of_too_long hlong script)
  · rw [resolve, if_neg (by simpa using hid)]
    exact run_demand_error (answer_item_of_too_long hlong script)

/-! ### An album whose tracks cannot be had -/

/-- The host of the server and the root of its path. -/
def serverBase : Url := ⟨"SERVER".toList, ['/'], none⟩

theorem sends_serverSession : Sends serverSession defaultClientName defaultTimeout serverBase where
  created := ⟨"http://SERVER", "KEY", "USER", "DEVICE", rfl⟩
  address := by decide +kernel
  plain c hc := by
    have hall : serverSession.baseUrl.toList.all (fun c => c != '?' && c != '#') = true := by
      decide +kernel
    simpa using List.all_eq_true.mp hall c hc
  user := List.all_eq_true.mp rfl
  token := List.all_eq_true.mp rfl
  device := List.all_eq_true.mp rfl
  name := List.all_eq_true.mp rfl
  patient := by decide

/-- The album. -/
def wiredAlbum : Item := ⟨"al", "", .album, none, none, .empty, none, []⟩

/-- The text of the album. -/
def albumText : String := "\x7b\"Id\":\"al\",\"Type\":\"MusicAlbum\"\x7d"

/-- The text of a listing. -/
def listingText : String := "\x7b\"Items\":[]\x7d"

/-- The album, and the listing of its tracks with a status that reports an error. -/
def brokenScript : Script := ⟨[⟨200, albumText.toUTF8⟩, ⟨503, listingText.toUTF8⟩], []⟩

theorem complete_brokenScript : ∀ r ∈ brokenScript.responses, r.Complete := by
  simp only [brokenScript, List.forall_mem_cons, List.not_mem_nil, false_imp_iff, implies_true,
    and_true]
  exact ⟨⟨.inl (by decide), albumText, rfl⟩, .inr (by decide), listingText, rfl⟩

theorem holds_wiredAlbum : (brokenScript.response 0).Holds Item.decode wiredAlbum := by
  have htext : (brokenScript.response 0).text = .ok albumText := rfl
  have hdecode : Item.decode albumText = .ok wiredAlbum := by decide +kernel
  exact .intro (by decide) (by decide) htext hdecode

theorem fails_listingText :
    (brokenScript.response 1).Fails Listing.decode (.status 503 listingText) := by
  have htext : (brokenScript.response 1).text = .ok listingText := rfl
  exact .status (by decide) htext (.status (by decide) (by decide) (by decide))

/-- What browsing the album over the wire leaves behind. -/
def brokenOutcome : Outcome Script (Except Failure Node) :=
  (browse serverSession (some "al") []).run
    (wire serverSession defaultClientName serverBase defaultTimeout) brokenScript

theorem seen_brokenOutcome : brokenOutcome.state.seen.map Request.target =
    ["/Users/USER/Items/al", "/Users/USER/Items?Recursive=true&ParentId=al&" ++
      "IncludeItemTypes=Audio&Fields=MediaSources"] := by
  decide +kernel

/-- The album is asked for and then its tracks, and that these cannot be had is the result. -/
theorem fail_fast_over_wire_broken :
    Sends serverSession defaultClientName defaultTimeout serverBase ∧ "al" ≠ "" ∧
    (∀ r ∈ brokenScript.responses, r.Complete) ∧
    (itemUrl serverSession "al").utf8ByteSize ≤ greatestLength ∧
    brokenOutcome.result = .error (.status 503 listingText) ∧
    brokenOutcome.state.seen.map Request.target =
      ["/Users/USER/Items/al", "/Users/USER/Items?Recursive=true&ParentId=al&" ++
        "IncludeItemTypes=Audio&Fields=MediaSources"] := by
  have hid : "al" ≠ "" := by decide
  have hlength : (itemUrl serverSession "al").utf8ByteSize ≤ greatestLength := by decide +kernel
  have hbrowse : BrowsedInOrder serverSession defaultClientName serverBase "al" brokenScript
      brokenOutcome :=
    ((fail_fast_over_wire sends_serverSession serverSession hid complete_brokenScript).1
      hlength).1 []
  have hcount := congrArg List.length seen_brokenOutcome
  rw [List.length_map] at hcount
  exact ⟨sends_serverSession, hid, complete_brokenScript, hlength,
    hbrowse.second_fails _ hcount fails_listingText, seen_brokenOutcome⟩

/-- An identifier that is too long for a request. -/
def endlessId : String := String.ofList (List.replicate (greatestLength + 1) 'a')

/-- There are texts of more bytes than any given number. -/
theorem exists_lt_utf8ByteSize (n : ℕ) : ∃ text : String, n < text.utf8ByteSize := by
  refine ⟨String.ofList (List.replicate (n + 1) 'a'), ?_⟩
  rw [String.utf8ByteSize_ofList]
  refine Nat.lt_of_lt_of_le ?_ (length_le_utf8Len _)
  rw [List.length_replicate]
  exact Nat.lt_succ_self n

/-- A text as the message of an error. -/
def messageScript (text : String) : Script := ⟨[⟨404, text.toUTF8⟩], []⟩

theorem complete_messageScript (text : String) : ∀ r ∈ (messageScript text).responses, r.Complete :=
  List.forall_mem_singleton.mpr ⟨.inr (by simp), text, rfl⟩

theorem fails_messageScript {text : String} (h : Response.bodyLimit < text.utf8ByteSize) :
    ((messageScript text).response 0).Fails Item.decode Response.oversized :=
  .oversized rfl h

/-- The children are not always asked for by the parameters of the query for all of a kind, not
every item is asked for, and not every status that reports an error is the result. -/
theorem not_only_childrenOf_params :
    (¬ ∀ (session : Session) (name : String) (timeout : UInt64) (base : Url) (id : String)
        (script : Script) (item : Item) (level child : Level),
      Sends session name timeout base → id ≠ "" → (∀ r ∈ script.responses, r.Complete) →
      (itemUrl session id).utf8ByteSize ≤ greatestLength →
      (script.response 0).Holds Item.decode item → Opens item level child →
      ((browse session (some id) []).run
        (wire session name base timeout) script).state.seen =
          script.seen ++ [itemRequest session name base id, getRequest session name base
            ("Items?" ++ String.ofList
              (encodePairs (ItemQuery.childrenOf item.id child.kind).params))]) ∧
    (¬ ∀ (session : Session) (name : String) (timeout : UInt64) (base : Url) (id : String)
        (script : Script),
      Sends session name timeout base → id ≠ "" → (∀ r ∈ script.responses, r.Complete) →
      itemRequest session name base id ∈ ((browse session (some id) []).run
        (wire session name base timeout) script).state.seen) ∧
    ¬ ∀ (session : Session) (name : String) (timeout : UInt64) (base : Url) (id : String)
        (script : Script) (text : String),
      Sends session name timeout base → id ≠ "" → (∀ r ∈ script.responses, r.Complete) →
      (itemUrl session id).utf8ByteSize ≤ greatestLength →
      400 ≤ (script.response 0).status → (script.response 0).body = text.toUTF8 →
      ((browse session (some id) []).run (wire session name base timeout) script).result =
        .error (.ofStatus (script.response 0).status text) := by
  refine ⟨?_, ?_, ?_⟩
  · intro hall
    have hseen := hall _ _ _ _ "al" brokenScript _ _ _ sends_serverSession (by decide)
      complete_brokenScript (by decide +kernel) holds_wiredAlbum (.album rfl)
    have htargets := seen_brokenOutcome
    rw [show brokenOutcome.state.seen = _ from hseen] at htargets
    revert htargets
    decide +kernel
  · intro hall
    have hlength : greatestLength < endlessId.length := by
      rw [endlessId, String.length_ofList, List.length_replicate]
      exact Nat.lt_succ_self _
    have hid : endlessId ≠ "" := by
      intro e
      rw [e] at hlength
      exact absurd hlength (Nat.not_lt_zero _)
    have hseen := hall _ _ _ _ endlessId brokenScript sends_serverSession hid complete_brokenScript
    rw [browse_item hid,
      run_demand_error (answer_item_of_too_long (itemUrl_too_long hlength _) _)] at hseen
    exact List.not_mem_nil hseen
  · intro hall
    have hid : "al" ≠ "" := by decide
    have hlength : (itemUrl serverSession "al").utf8ByteSize ≤ greatestLength := by decide +kernel
    obtain ⟨text, htext⟩ := exists_lt_utf8ByteSize Response.bodyLimit
    have hcomplete := complete_messageScript text
    have hresult := hall _ _ _ _ "al" (messageScript text) text sends_serverSession hid hcomplete
      hlength (by simp [messageScript, Script.response]) rfl
    have hquery := sends_serverSession.question_mark_not_mem hlength
    have hbrowse := (sends_serverSession.delivered serverSession hid hlength [] hcomplete).inOrder
      hquery hcomplete
    obtain ⟨hlost, -⟩ := hbrowse.first_fails _ (fails_messageScript htext)
    cases hresult.symm.trans hlost

end MusicLibrary.Http
