import MusicLibrary.Proofs.Browsing.Run
import MusicLibrary.Proofs.Http.Address
import MusicLibrary.Proofs.Http.Escapes

/-!
# Where questions are sent

Every question of a client is sent to the place on its server that the folders are asked for at,
with more behind it: a slash and the identifier for an item, a question mark and the parameters for
a query (`Client.request_eq_ok_iff_folders`). The identifier is escaped, so it is one segment of a
path whatever characters it is made of, and it can be read back from there
(`Client.item_address_reads_back`).
-/

namespace MusicLibrary

/-- The address of the server and the identifier of the user stay within a path: no `?` starts a
query in them, and no `#` cuts off what follows. -/
structure Session.PathOnly (s : Session) : Prop where
  /-- The address of the server. -/
  server : s.baseUrl.toList.Disjoint ['?', '#']
  /-- The identifier of the user. -/
  user : s.userId.toList.Disjoint ['?', '#']

namespace Http

open PercentEncoding

/-! ### Requests and addresses -/

theorem Url.exists_afterScheme?_of_parse? {text : String} {u : Url} (h : parse? text = some u) :
    ∃ s, afterScheme? text.toList = some s := by
  unfold parse? at h
  split_ifs at h
  split at h
  · cases h
  next s hs => exact ⟨s, hs⟩

/-- No `U` stands within the seven characters that an address starts with. -/
theorem seven_le_length_of_afterScheme? {s t rest : List Char}
    (h : afterScheme? (s ++ 'U' :: t) = some rest) : 7 ≤ s.length := by
  by_contra hshort
  obtain ⟨hscheme, -⟩ := afterScheme?_eq_some_iff.mp h
  have hget : "http://".toList[s.length]? = some 'u' := by
    rw [← hscheme, List.getElem?_map, List.getElem?_take_of_lt (by omega),
      List.getElem?_append_right (Nat.le_refl _), Nat.sub_self]
    rfl
  exact absurd (List.mem_of_getElem? hget) (by decide)

/-- The part of a target that gives the parameters: there is none without any. -/
def queryText (pairs : List (String × String)) : String :=
  if pairs = [] then "" else "?" ++ String.ofList (encodePairs pairs)

namespace Client

variable {c : Client} {more : String} {u : Url}

/-- A question is put into a request exactly if its address, the header of the client and its
patience allow it. -/
theorem request_eq_ok_iff {r : Browsing.Request} {q : Request} :
    c.request r = .ok q ↔ ∃ u v, Url.parse? (c.question r).1 = some u ∧
      u.withPairs? (c.question r).2 = some v ∧ c.authorization.toList.all allowedInHeader = true ∧
      impatience? c.timeout = none ∧ q = ⟨"GET", v.target, c.authorization, "application/json"⟩ := by
  constructor
  · intro h
    unfold request at h
    split at h
    · cases h
    next u hu =>
      split_ifs at h with hheader
      split at h
      · cases h
      next v hv =>
        split at h
        · cases h
        next hpatient => exact ⟨u, v, hu, hv, hheader, hpatient, (Except.ok.inj h).symm⟩
  · rintro ⟨u, v, hu, hv, hheader, hpatient, rfl⟩
    exact request_eq_ok hu hv hheader hpatient

theorem userUrl_append (handler : String) : c.userUrl (handler ++ more) = c.userUrl handler ++ more :=
  (String.append_assoc ..).symm

theorem plain_listings (h : c.session.PathOnly) :
    ∀ ch ∈ (c.userUrl "Items").toList, ch ≠ '?' ∧ ch ≠ '#' := by
  have hwords : ∀ word ∈ ["Users/", "/", "Items"], word.toList.Disjoint ['?', '#'] := by simp
  have hdisjoint : (c.userUrl "Items").toList.Disjoint ['?', '#'] := by
    simp only [userUrl, String.toList_append, List.disjoint_append_left]
    exact ⟨⟨⟨⟨h.server, hwords _ (by simp)⟩, h.user⟩, hwords _ (by simp)⟩, hwords _ (by simp)⟩
  intro ch hch
  simpa using hdisjoint hch

/-- There is a slash behind the host in any address that starts with that of the listings. -/
theorem slash_mem_of_parse? (h : Url.parse? (c.userUrl "Items" ++ more) = some u) :
    '/' ∈ (c.userUrl "Items").toList.drop 7 := by
  obtain ⟨s, hs⟩ := Url.exists_afterScheme?_of_parse? h
  obtain ⟨t, ht, hslash⟩ : ∃ t, (c.userUrl "Items").toList = c.session.baseUrl.toList ++ 'U' :: t ∧
      '/' ∈ t := by
    refine ⟨"sers/".toList ++ c.session.userId.toList ++ "/Items".toList, ?_, ?_⟩
    · simp [userUrl]
    · simp
  rw [String.toList_append, ht, List.append_assoc, List.cons_append] at hs
  rw [ht, List.drop_append_of_le_length (seven_le_length_of_afterScheme? hs)]
  exact List.mem_append_right _ (List.mem_cons_of_mem _ hslash)

theorem slash_mem_listings (hu : Url.parse? (c.userUrl "Items") = some u) :
    '/' ∈ (c.userUrl "Items").toList.drop 7 := by
  have hu' : Url.parse? (c.userUrl "Items" ++ "") = some u := by rwa [String.append_empty]
  exact slash_mem_of_parse? hu'

/-- The address of the listings has no query, and a path that starts with a slash. -/
theorem path_of_parse? (h : c.session.PathOnly) (hu : Url.parse? (c.userUrl "Items") = some u) :
    u.query = none ∧ ∃ path, u.path = '/' :: path := by
  obtain ⟨-, -, s, hs, rfl⟩ := (Url.parse?_eq_some_iff (plain_listings h)).mp hu
  obtain ⟨-, rfl⟩ := afterScheme?_eq_some_iff.mp hs
  exact ⟨rfl, Url.exists_path_ofRest (slash_mem_listings hu) fun ch hch =>
    plain_listings h ch (List.mem_of_mem_drop hch)⟩

theorem target_of_parse? (h : c.session.PathOnly) (hu : Url.parse? (c.userUrl "Items") = some u) :
    u.target = String.ofList u.path := by
  obtain ⟨hquery, path, hpath⟩ := path_of_parse? h hu
  simp only [Url.target, hquery, hpath]

/-- What is put behind the path of the listings is put behind the target of their request. -/
theorem exists_withPairs_listings (h : c.session.PathOnly)
    (hu : Url.parse? (c.userUrl "Items") = some u) (more : String)
    (pairs : List (String × String)) :
    ∃ v, Url.withPairs? { u with path := u.path ++ more.toList } pairs = some v ∧
      v.target = u.target ++ (more ++ queryText pairs) := by
  obtain ⟨hquery, path, hpath⟩ := path_of_parse? h hu
  have hlonger : u.path ++ more.toList = '/' :: (path ++ more.toList) := by
    rw [hpath, List.cons_append]
  obtain ⟨v, hv, hsent⟩ := Url.exists_withPairs (u := { u with path := u.path ++ more.toList })
    hquery hlonger pairs
  refine ⟨v, hv, ?_⟩
  rw [hsent, target_of_parse? h hu, String.ofList_append, String.ofList_toList,
    String.append_assoc, queryText]

/-- **Every question is sent to where the folders are asked for**, with what its address and its
parameters put behind that, unless its address is too long. -/
theorem request_eq_ok_iff_folders (h : c.session.PathOnly) {r : Browsing.Request} {q : Request}
    (hurl : (c.question r).1 = c.userUrl "Items" ++ more)
    (hmore : ∀ ch ∈ more.toList, allowedInPath ch = true) :
    c.request r = .ok q ↔ (c.question r).1.utf8ByteSize ≤ greatestLength ∧
      ∃ q₀, c.request .folders = .ok q₀ ∧
        q = { q₀ with target := q₀.target ++ (more ++ queryText (c.question r).2) } := by
  simp only [request_eq_ok_iff]
  constructor
  · rintro ⟨u, v, hu, hv, hheader, hpatient, rfl⟩
    rw [hurl] at hu
    obtain ⟨hlength, u₀, hu₀, rfl⟩ :=
      (Url.parse?_append_eq_some_iff (plain_listings h) (slash_mem_of_parse? hu) hmore).mp hu
    obtain ⟨w, hw, htarget⟩ := exists_withPairs_listings h hu₀ more (c.question r).2
    obtain rfl := Option.some.inj (hv.symm.trans hw)
    exact ⟨by rwa [hurl], _, ⟨u₀, u₀, hu₀, rfl, hheader, hpatient, rfl⟩, by rw [htarget]⟩
  · rintro ⟨hlength, _, ⟨u₀, v₀, hu₀, hv₀, hheader, hpatient, rfl⟩, rfl⟩
    obtain rfl := Option.some.inj hv₀
    obtain ⟨v, hv, htarget⟩ := exists_withPairs_listings h hu₀ more (c.question r).2
    rw [hurl] at hlength ⊢
    refine ⟨_, v, (Url.parse?_append_eq_some_iff (plain_listings h) (slash_mem_listings hu₀)
      hmore).mpr ⟨hlength, u₀, hu₀, rfl⟩, hv, hheader, hpatient, by rw [htarget]⟩

/-! ### Listings -/

/-- A query is sent whenever the folders can be asked for. -/
theorem request_items_eq_ok_iff (h : c.session.PathOnly) {query : Catalogue.ItemQuery}
    {q : Request} : c.request (.items query) = .ok q ↔
      ∃ q₀, c.request .folders = .ok q₀ ∧
        q = { q₀ with target := q₀.target ++ queryText query.params } := by
  have hurl : c.userUrl "Items" = c.userUrl "Items" ++ "" := String.append_empty.symm
  have hitems := request_eq_ok_iff_folders (r := .items query) (q := q) h hurl (by simp)
  simp only [String.empty_append] at hitems
  refine hitems.trans (and_iff_right_of_imp ?_)
  rintro ⟨q₀, hfolders, -⟩
  exact ((request_eq_ok_iff_folders (r := .folders) h hurl (by simp)).mp hfolders).1

theorem question_mark_not_mem_folders (h : c.session.PathOnly) {q : Request}
    (hfolders : c.request .folders = .ok q) : '?' ∉ q.target.toList := by
  obtain ⟨u, v, hu, hv, -, -, rfl⟩ := request_eq_ok_iff.mp hfolders
  obtain rfl := Option.some.inj hv
  rw [target_of_parse? h hu, String.toList_ofList]
  exact fun hmem => (ne_of_allowedInPath (Url.allowedInPath_of_parse? hu _ hmem)).1 rfl

/-! ### Items -/

theorem question_item (id : String) : c.question (.item id) =
    (c.session.baseUrl ++ "Users/" ++ c.session.userId ++ "/Items/" ++ segment id, []) := by
  have hwords : "/" ++ "Items/" = "/Items/" := rfl
  rw [question, userUrl, ← hwords]
  simp only [String.append_assoc]

theorem decode?_segment (id : String) : decode? (segment id).toList = some id := by
  rw [segment, String.toList_ofList]
  exact decode?_encode rfl id

theorem escaped_segment (id : String) : Escaped keptInSegment (segment id).toList := by
  rw [segment, String.toList_ofList]
  exact escaped_encode keptInSegment id.toList

theorem disjoint_segment (id : String) :
    (segment id).toList.Disjoint ['/', '?', '#', '&', ' '] := by
  refine (escaped_segment id).disjoint ?_
  simp [keptInSegment, isUpperHex]

theorem segment_injective : Function.Injective segment := by
  intro id id' h
  have hdecode := decode?_segment id
  rw [h, decode?_segment] at hdecode
  exact (Option.some.inj hdecode).symm

theorem request_item_eq_ok_iff (h : c.session.PathOnly) {id : String} {q : Request} :
    c.request (.item id) = .ok q ↔ (c.question (.item id)).1.utf8ByteSize ≤ greatestLength ∧
      ∃ q₀, c.request .folders = .ok q₀ ∧
        q = { q₀ with target := q₀.target ++ ("/" ++ segment id) } := by
  have hwords : "Items" ++ ("/" ++ segment id) = "Items/" ++ segment id := by
    rw [← String.append_assoc]
    rfl
  have hurl : (c.question (.item id)).1 = c.userUrl "Items" ++ ("/" ++ segment id) := by
    rw [← userUrl_append, hwords]
    rfl
  have hallowed : ∀ ch ∈ ("/" ++ segment id).toList, allowedInPath ch = true := by
    intro ch hch
    rw [String.toList_append, List.mem_append] at hch
    rcases hch with hch | hch
    · obtain rfl := List.mem_singleton.mp hch
      rfl
    · rw [segment, String.toList_ofList] at hch
      exact allowedInPath_of_mem_encode hch
  have hitem := request_eq_ok_iff_folders (q := q) h hurl hallowed
  rwa [show queryText (c.question (.item id)).2 = "" from rfl, String.append_empty] at hitem

/-- **The identifier of an item is one segment of its address and is read back from there**, so the
addresses of different items differ from each other and from that of the folders. If nothing in
the session ends the path, then this segment is the last one of what is asked for. -/
theorem item_address_reads_back (c : Client) :
    (∀ id, c.question (.item id) =
        (c.session.baseUrl ++ "Users/" ++ c.session.userId ++ "/Items/" ++ segment id, []) ∧
      Escaped keptInSegment (segment id).toList ∧
      (segment id).toList.Disjoint ['/', '?', '#', '&', ' '] ∧
      decode? (segment id).toList = some id) ∧
    (∀ id id', (c.question (.item id)).1 = (c.question (.item id')).1 → id = id') ∧
    (∀ id, (c.question (.item id)).1 ≠ (c.question .folders).1) ∧
    (c.session.PathOnly → ∀ id q, c.request (.item id) = .ok q ↔
      (c.question (.item id)).1.utf8ByteSize ≤ greatestLength ∧
        ∃ q₀, c.request .folders = .ok q₀ ∧
          q = { q₀ with target := q₀.target ++ ("/" ++ segment id) }) := by
  refine ⟨fun id => ⟨question_item id, escaped_segment id, disjoint_segment id,
    decode?_segment id⟩, fun id id' h => ?_, fun id h => ?_, fun h id q => request_item_eq_ok_iff h⟩
  · rw [question_item, question_item] at h
    exact segment_injective ((String.append_right_inj _).mp h)
  · have hlength := congrArg (fun s => s.toList.length) h
    simp [question, userUrl] at hlength

end Client

/-! ### An identifier with delimiters -/

open Browsing (sampleSession)

theorem pathOnly_sampleSession : sampleSession.PathOnly := by
  constructor <;> simp [sampleSession]

/-- An identifier that looks like a path, a query and an escape is asked for as it is. -/
theorem item_address_reads_back_delimiters :
    sampleSession.PathOnly ∧
    (Client.ofSession sampleSession).request (.item "a/b?c %41é") =
      .ok { foldersRequest with target := "/Users/USER/Items/a%2Fb%3Fc%20%2541%C3%A9" } ∧
    decode? "a%2Fb%3Fc%20%2541%C3%A9".toList = some "a/b?c %41é" := by
  obtain ⟨hread, -, -, hrequest⟩ :=
    Client.item_address_reads_back (Client.ofSession sampleSession)
  have hsegment : Client.segment "a/b?c %41é" = "a%2Fb%3Fc%20%2541%C3%A9" := by rfl
  refine ⟨pathOnly_sampleSession, ?_, ?_⟩
  · refine (hrequest pathOnly_sampleSession _ _).mpr ⟨by decide, foldersRequest, request_folders, ?_⟩
    rw [hsegment]
    rfl
  · obtain ⟨-, -, -, hdecode⟩ := hread "a/b?c %41é"
    rwa [hsegment] at hdecode

end Http
end MusicLibrary
