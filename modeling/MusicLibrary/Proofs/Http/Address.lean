import MusicLibrary.Http.Client
import Mathlib

/-!
# Addresses below a server

An address that stands for a host and a path can be continued: what is put behind it becomes part
of the path, as long as it is made of characters of a path and the whole is not too long
(`Url.parse?_append`). The questions of a dialogue are such continuations of the address of the
session, so it is known to which target each is sent (`Sends.request_item`,
`Sends.request_items`), and they all go to the host of that address (`Sends.endpoint?_eq`).
-/

namespace MusicLibrary.Http

open PercentEncoding

/-! ### Characters of a path -/

theorem ne_of_allowedInPath {c : Char} (h : allowedInPath c = true) : c ≠ '?' ∧ c ≠ '#' := by
  constructor
  · rintro rfl
    exact absurd h (by decide)
  · rintro rfl
    exact absurd h (by decide)

theorem toNat_of_isAlphanum {c : Char} (h : c.isAlphanum = true) :
    48 ≤ c.toNat ∧ c.toNat ≤ 57 ∨ 65 ≤ c.toNat ∧ c.toNat ≤ 90 ∨ 97 ≤ c.toNat ∧ c.toNat ≤ 122 := by
  have hval : c.toNat = c.val.toNat := rfl
  simp only [Char.isAlphanum, Char.isAlpha, Char.isUpper, Char.isLower, Char.isDigit,
    Bool.or_eq_true, Bool.and_eq_true, decide_eq_true_eq, ge_iff_le, UInt32.le_iff_toNat_le,
    Char.reduceVal, UInt32.reduceToNat] at h
  omega

theorem allowedInPath_of_kept {c : Char} (h : keptInSegment c = true) : allowedInPath c = true := by
  simp only [keptInSegment, Bool.or_eq_true, beq_iff_eq] at h
  obtain ((((halnum | rfl) | rfl) | rfl) | rfl) := h
  · have hrange := toNat_of_isAlphanum halnum
    simp only [allowedInPath, Bool.or_eq_true, Bool.and_eq_true, beq_iff_eq, decide_eq_true_eq,
      bne_iff_ne]
    omega
  all_goals decide

theorem allowedInPath_hexDigit : ∀ n < 16, allowedInPath (hexDigit n) = true := by decide

/-- What is percent-encoded as a segment of a path may stand in a path. -/
theorem allowedInPath_of_mem_encode {s : List Char} {c : Char}
    (h : c ∈ encode keptInSegment s) : allowedInPath c = true := by
  obtain ⟨d, -, hc⟩ := List.mem_flatMap.mp h
  unfold encodeChar at hc
  split_ifs at hc with hkept
  · obtain rfl := List.mem_singleton.mp hc
    exact allowedInPath_of_kept hkept
  · obtain ⟨byte, -, hc⟩ := List.mem_flatMap.mp hc
    have hbyte := byte.toNat_lt
    simp only [escapedByte, List.mem_cons, List.not_mem_nil, or_false] at hc
    obtain rfl | rfl | rfl := hc
    · decide
    · exact allowedInPath_hexDigit _ (by omega)
    · exact allowedInPath_hexDigit _ (by omega)

/-! ### Continuing an address -/

theorem afterScheme?_eq_some_iff {s rest : List Char} : afterScheme? s = some rest ↔
    (s.take 7).map Char.toLower = "http://".toList ∧ rest = s.drop 7 := by
  unfold afterScheme?
  split_ifs with h
  · rw [and_iff_right h, Option.some.injEq, eq_comm]
  · exact ⟨nofun, fun e => absurd e.1 h⟩

theorem afterScheme?_append {s rest : List Char} (h : afterScheme? s = some rest)
    (t : List Char) : afterScheme? (s ++ t) = some (rest ++ t) := by
  obtain ⟨hscheme, rfl⟩ := afterScheme?_eq_some_iff.mp h
  have hlength : 7 ≤ s.length := by
    have := congrArg List.length hscheme
    simp only [List.length_map, List.length_take] at this
    have hseven : "http://".toList.length = 7 := by decide
    omega
  refine afterScheme?_eq_some_iff.mpr ⟨?_, ?_⟩
  · rw [List.take_append_of_le_length hlength, hscheme]
  · rw [List.drop_append_of_le_length hlength]

theorem takeWhile_append_of_stop {α : Type*} {p : α → Bool} {l : List α} (h : ∃ a ∈ l, p a = false)
    (t : List α) : (l ++ t).takeWhile p = l.takeWhile p := by
  obtain ⟨a, ha, hp⟩ := h
  rw [List.takeWhile_append, if_neg]
  intro hlength
  have hall := List.takeWhile_eq_self_iff.mp ((List.takeWhile_prefix p).eq_of_length hlength)
  rw [hall a ha] at hp
  cases hp

theorem dropWhile_append_of_stop {α : Type*} {p : α → Bool} {l : List α} (h : ∃ a ∈ l, p a = false)
    (t : List α) : (l ++ t).dropWhile p = l.dropWhile p ++ t := by
  obtain ⟨a, ha, hp⟩ := h
  rw [List.dropWhile_append, if_neg]
  intro hempty
  have hall := List.dropWhile_eq_nil_iff.mp (List.isEmpty_iff.mp hempty)
  rw [hall a ha] at hp
  cases hp

/-- The characters between the host and the end, and those before: what an address without a query
is made of. -/
def Url.ofRest (s : List Char) : Url :=
  ⟨s.takeWhile fun c => !endsAuthority c, s.dropWhile fun c => !endsAuthority c, none⟩

section Slash

variable {s : List Char} (hslash : '/' ∈ s)
include hslash

/-- What follows a slash does not belong to the host. -/
theorem Url.ofRest_append (t : List Char) :
    ofRest (s ++ t) = { ofRest s with path := (ofRest s).path ++ t } := by
  have hstop : ∃ c ∈ s, (!endsAuthority c) = false := ⟨'/', hslash, by decide⟩
  simp only [ofRest, takeWhile_append_of_stop hstop, dropWhile_append_of_stop hstop]

/-- If only a slash can end the host, then a slash starts the path. -/
theorem Url.exists_path_ofRest (hplain : ∀ c ∈ s, c ≠ '?' ∧ c ≠ '#') :
    ∃ path, (ofRest s).path = '/' :: path := by
  cases hpath : s.dropWhile fun c => !endsAuthority c with
  | nil =>
    have hall := List.dropWhile_eq_nil_iff.mp hpath '/' hslash
    exact absurd hall (by decide)
  | cons c path =>
    have hc : c ∈ s := (List.dropWhile_sublist _).subset (by rw [hpath]; exact List.mem_cons_self)
    obtain ⟨hquestion, hhash⟩ := hplain c hc
    have hends : endsAuthority c = true := by
      have := List.head?_dropWhile_not (fun c => !endsAuthority c) s
      rw [hpath] at this
      simpa using this
    simp only [endsAuthority, Bool.or_eq_true, beq_iff_eq] at hends
    obtain (rfl | e) | e := hends
    · exact ⟨path, hpath⟩
    · exact absurd e hquestion
    · exact absurd e hhash

end Slash

/-- The host and the path of an address are as they must be. -/
def Url.Valid (u : Url) : Prop :=
  isAuthority u.authority = true ∧ (hostOf u.authority).isEmpty = false ∧
    u.path.all allowedInPath = true

/-- How an address without a question mark and a hash is read. -/
theorem Url.parse?_eq_some_iff {text : String} {u : Url}
    (hplain : ∀ c ∈ text.toList, c ≠ '?' ∧ c ≠ '#') : parse? text = some u ↔
      text.utf8ByteSize ≤ greatestLength ∧ u.Valid ∧
        ∃ s, afterScheme? text.toList = some s ∧ u = ofRest s := by
  unfold parse?
  split_ifs with hlength
  · simp [Nat.not_le.mpr hlength]
  rw [and_iff_right (Nat.not_lt.mp hlength)]
  cases hscheme : afterScheme? text.toList with
  | none => simp
  | some s =>
    obtain ⟨-, hs⟩ := afterScheme?_eq_some_iff.mp hscheme
    have hrest : ∀ c ∈ s.dropWhile fun c => !endsAuthority c, c ≠ '?' ∧ c ≠ '#' := by
      intro c hc
      rw [hs] at hc
      exact hplain c (List.mem_of_mem_drop ((List.dropWhile_sublist _).subset hc))
    have hhash : (s.dropWhile fun c => !endsAuthority c).takeWhile (· != '#') =
        s.dropWhile fun c => !endsAuthority c :=
      List.takeWhile_eq_self_iff.mpr fun c hc => bne_iff_ne.mpr (hrest c hc).2
    have hpath : (s.dropWhile fun c => !endsAuthority c).takeWhile (· != '?') =
        s.dropWhile fun c => !endsAuthority c :=
      List.takeWhile_eq_self_iff.mpr fun c hc => bne_iff_ne.mpr (hrest c hc).1
    have hquery : (s.dropWhile fun c => !endsAuthority c).dropWhile (· != '?') = [] :=
      List.dropWhile_eq_nil_iff.mpr fun c hc => bne_iff_ne.mpr (hrest c hc).1
    simp only [hhash, hpath, hquery, Option.getD_none, List.all_nil, Bool.and_true,
      Option.some.injEq, exists_eq_left']
    constructor
    · intro h
      split_ifs at h with hvalid
      obtain rfl := Option.some.inj h
      simp only [Bool.and_eq_true, Bool.not_eq_true'] at hvalid
      exact ⟨⟨hvalid.1.1, hvalid.1.2, hvalid.2⟩, rfl⟩
    · rintro ⟨⟨hauthority, hhost, hall⟩, rfl⟩
      exact if_pos (by simp only [ofRest] at *; simp [hauthority, hhost, hall])

theorem Url.allowedInPath_of_parse? {text : String} {u : Url} (h : parse? text = some u) :
    ∀ c ∈ u.path, allowedInPath c = true := by
  unfold parse? at h
  split_ifs at h
  split at h
  · cases h
  · dsimp only at h
    split_ifs at h with hvalid
    obtain rfl := Option.some.inj h
    simp only [Bool.and_eq_true] at hvalid
    exact List.all_eq_true.mp hvalid.1.2

section Continued

variable {text more : String} {u : Url}

/-- An address that ends in a slash has one behind its host. -/
theorem Url.exists_slash (h : parse? text = some u)
    (hplain : ∀ c ∈ text.toList, c ≠ '?' ∧ c ≠ '#') (hslash : text.toList.getLast? = some '/') :
    ∃ s, afterScheme? text.toList = some s ∧ u = ofRest s ∧ u.Valid ∧ '/' ∈ s := by
  obtain ⟨-, hvalid, s, hscheme, rfl⟩ := (parse?_eq_some_iff hplain).mp h
  refine ⟨s, hscheme, rfl, hvalid, ?_⟩
  obtain ⟨-, hs⟩ := afterScheme?_eq_some_iff.mp hscheme
  have hne : s ≠ [] := by
    rintro rfl
    exact absurd hvalid.1 (by decide)
  have hlast : s.getLast? = some '/' := by
    rw [hs, List.getLast?_drop, if_neg, hslash]
    intro hle
    exact hne (by rw [hs, List.drop_eq_nil_iff.mpr hle])
  exact List.mem_of_getLast? hlast

/-- What is put behind an address with a slash behind its host is put behind its path, unless the
whole is too long. -/
theorem Url.parse?_append_eq_some_iff (hplain : ∀ c ∈ text.toList, c ≠ '?' ∧ c ≠ '#')
    (hslash : '/' ∈ text.toList.drop 7) (hmore : ∀ c ∈ more.toList, allowedInPath c = true) :
    parse? (text ++ more) = some u ↔ (text ++ more).utf8ByteSize ≤ greatestLength ∧
      ∃ v, parse? text = some v ∧ u = { v with path := v.path ++ more.toList } := by
  have hplain' : ∀ c ∈ (text ++ more).toList, c ≠ '?' ∧ c ≠ '#' := by
    intro c hc
    rw [String.toList_append] at hc
    rcases List.mem_append.mp hc with hc | hc
    · exact hplain c hc
    · exact ne_of_allowedInPath (hmore c hc)
  have hseven : 7 ≤ text.toList.length := by
    have hpos := List.length_pos_of_mem hslash
    rw [List.length_drop] at hpos
    omega
  have hdrop : (text ++ more).toList.drop 7 = text.toList.drop 7 ++ more.toList := by
    rw [String.toList_append, List.drop_append_of_le_length hseven]
  constructor
  · intro h
    obtain ⟨hlength, hvalid, s, hscheme, rfl⟩ := (parse?_eq_some_iff hplain').mp h
    obtain ⟨hstart, rfl⟩ := afterScheme?_eq_some_iff.mp hscheme
    rw [hdrop, ofRest_append hslash] at hvalid ⊢
    rw [String.toList_append, List.take_append_of_le_length hseven] at hstart
    obtain ⟨hauthority, hhost, hpath⟩ := hvalid
    rw [List.all_append, Bool.and_eq_true] at hpath
    refine ⟨hlength, ofRest (text.toList.drop 7), (parse?_eq_some_iff hplain).mpr
      ⟨?_, ⟨hauthority, hhost, hpath.1⟩, _, afterScheme?_eq_some_iff.mpr ⟨hstart, rfl⟩, rfl⟩, rfl⟩
    rw [String.utf8ByteSize_append] at hlength
    omega
  · rintro ⟨hlength, v, hv, rfl⟩
    obtain ⟨-, hvalid, s, hscheme, rfl⟩ := (parse?_eq_some_iff hplain).mp hv
    obtain ⟨-, rfl⟩ := afterScheme?_eq_some_iff.mp hscheme
    refine (parse?_eq_some_iff hplain').mpr ⟨hlength, ⟨hvalid.1, hvalid.2.1, ?_⟩, _, ?_,
      (ofRest_append hslash _).symm⟩
    · rw [List.all_append, hvalid.2.2, Bool.true_and]
      exact List.all_eq_true.mpr hmore
    · rw [String.toList_append]
      exact afterScheme?_append hscheme _

/-- What is put behind an address that ends in a slash is put behind its path. -/
theorem Url.parse?_append (h : parse? text = some u)
    (hplain : ∀ c ∈ text.toList, c ≠ '?' ∧ c ≠ '#') (hslash : text.toList.getLast? = some '/')
    (hmore : ∀ c ∈ more.toList, allowedInPath c = true)
    (hlength : (text ++ more).utf8ByteSize ≤ greatestLength) :
    parse? (text ++ more) = some { u with path := u.path ++ more.toList } := by
  obtain ⟨s, hscheme, -, -, hmem⟩ := exists_slash h hplain hslash
  obtain ⟨-, rfl⟩ := afterScheme?_eq_some_iff.mp hscheme
  exact (parse?_append_eq_some_iff hplain hmem hmore).mpr ⟨hlength, u, h, rfl⟩

/-- The path of such an address starts with a slash. -/
theorem Url.exists_path_eq (h : parse? text = some u)
    (hplain : ∀ c ∈ text.toList, c ≠ '?' ∧ c ≠ '#') (hslash : text.toList.getLast? = some '/') :
    u.query = none ∧ ∃ path, u.path = '/' :: path := by
  obtain ⟨s, hscheme, rfl, -, hmem⟩ := exists_slash h hplain hslash
  obtain ⟨-, hs⟩ := afterScheme?_eq_some_iff.mp hscheme
  exact ⟨rfl, exists_path_ofRest hmem fun c hc => hplain c (List.mem_of_mem_drop (hs ▸ hc))⟩

end Continued

/-- Parameters are put behind the path of an address without a query. -/
theorem Url.exists_withPairs {u : Url} {path : List Char} (hquery : u.query = none)
    (hpath : u.path = '/' :: path) (pairs : List (String × String)) :
    ∃ v, u.withPairs? pairs = some v ∧ v.target = String.ofList u.path ++
      if pairs = [] then "" else "?" ++ String.ofList (encodePairs pairs) := by
  cases pairs with
  | nil =>
    refine ⟨u, rfl, ?_⟩
    simp only [target, hquery, hpath, if_true, String.append_empty]
  | cons pair pairs =>
    refine ⟨{ u with query := some (encodePairs (pair :: pairs)) }, ?_, ?_⟩
    · simp [withPairs?, hquery, separator]
    · simp only [target, hpath, reduceCtorEq, if_false]
      rw [show "?" = String.ofList ['?'] from rfl, ← String.ofList_append, ← String.ofList_append]
      rfl

/-! ### The addresses of questions -/

/-- The address of a session ends in a slash. -/
theorem getLast?_normalizeUrl (url : String) :
    (Session.normalizeUrl url).toList.getLast? = some '/' := by
  simp [Session.normalizeUrl]

/-- The header of a client may be sent if what it names may be. -/
theorem allowedInHeader_authorizationFor {session : Session} {name : String}
    (hname : ∀ c ∈ name.toList, Client.allowedInHeader c = true)
    (hdevice : ∀ c ∈ session.deviceId.toList, Client.allowedInHeader c = true)
    (htoken : ∀ c ∈ session.accessToken.toList, Client.allowedInHeader c = true) :
    (Client.authorizationFor session name).toList.all Client.allowedInHeader = true := by
  have hname := List.all_eq_true.mpr hname
  have hdevice := List.all_eq_true.mpr hdevice
  have htoken := List.all_eq_true.mpr htoken
  unfold Client.authorizationFor
  simp only [String.toList_append, List.all_append, hname, hdevice, htoken, Bool.and_true]
  decide +kernel

/-- A question is put into a request if its address and the header of the client allow it. -/
theorem Client.request_eq_ok {c : Client} {r : Browsing.Request} {u v : Url}
    (hurl : Url.parse? (c.question r).1 = some u)
    (hpairs : u.withPairs? (c.question r).2 = some v)
    (hheader : c.authorization.toList.all allowedInHeader = true)
    (hpatient : impatience? c.timeout = none) :
    c.request r = .ok ⟨"GET", v.target, c.authorization, "application/json"⟩ := by
  simp only [request, hurl, hpairs, hheader, hpatient, if_true]

theorem Client.requestTo_eq_ok_iff {c : Client} {endpoint : Endpoint} {r : Browsing.Request}
    {request : Request} : c.requestTo endpoint r = .ok request ↔
      c.request r = .ok request ∧ c.endpoint? r = some endpoint := by
  unfold requestTo
  cases c.request r with
  | error cause => simp
  | ok sent => by_cases h : c.endpoint? r = some endpoint <;> simp [h]

/-- A client of the session can send its requests to the server at the address `base`. -/
structure Sends (session : Session) (name : String) (timeout : UInt64) (base : Url) : Prop where
  /-- The session is one that has been made from an address. -/
  created : ∃ url token user device, session = Session.create url token user device
  /-- A request can be sent to the address. -/
  address : Url.parse? session.baseUrl = some base
  /-- The address has neither a query nor anything that is not sent. -/
  plain : ∀ c ∈ session.baseUrl.toList, c ≠ '?' ∧ c ≠ '#'
  /-- The identifier of the user needs no encoding. -/
  user : ∀ c ∈ session.userId.toList, keptInSegment c = true
  /-- The token may stand in a header. -/
  token : ∀ c ∈ session.accessToken.toList, Client.allowedInHeader c = true
  /-- The identifier of the device may stand in a header. -/
  device : ∀ c ∈ session.deviceId.toList, Client.allowedInHeader c = true
  /-- The name of the client may stand in a header. -/
  name : ∀ c ∈ name.toList, Client.allowedInHeader c = true
  /-- The client waits for the server. -/
  patient : Client.impatience? timeout = none

/-- The request to a handler for the user of the session, on the server at the address `base`. -/
def getRequest (session : Session) (name : String) (base : Url) (handler : String) : Request :=
  ⟨"GET", String.ofList base.path ++ "Users/" ++ session.userId ++ "/" ++ handler,
    Client.authorizationFor session name, "application/json"⟩

namespace Sends

variable {session : Session} {name : String} {timeout : UInt64} {base : Url}

theorem slash (h : Sends session name timeout base) :
    session.baseUrl.toList.getLast? = some '/' := by
  obtain ⟨url, token, user, device, rfl⟩ := h.created
  exact getLast?_normalizeUrl url

theorem parse?_userUrl (h : Sends session name timeout base) {handler : String}
    (hhandler : ∀ c ∈ handler.toList, allowedInPath c = true)
    (hlength : ((Client.create session name timeout).userUrl handler).utf8ByteSize ≤
      greatestLength) :
    Url.parse? ((Client.create session name timeout).userUrl handler) =
      some { base with
        path := base.path ++ ("Users/" ++ session.userId ++ "/" ++ handler).toList } := by
  have hurl : (Client.create session name timeout).userUrl handler =
      session.baseUrl ++ ("Users/" ++ session.userId ++ "/" ++ handler) := by
    simp only [Client.userUrl, Client.create, String.append_assoc]
  rw [hurl] at hlength ⊢
  refine Url.parse?_append h.address h.plain h.slash ?_ hlength
  have husers : "Users/".toList.all allowedInPath = true := rfl
  have hslash : "/".toList.all allowedInPath = true := rfl
  intro c hc
  simp only [String.toList_append, List.mem_append] at hc
  obtain ((hc | hc) | hc) | hc := hc
  · exact List.all_eq_true.mp husers c hc
  · exact allowedInPath_of_kept (h.user c hc)
  · exact List.all_eq_true.mp hslash c hc
  · exact hhandler c hc

/-- Questions go to the host and the port of the address of the session. -/
theorem endpoint?_eq (h : Sends session name timeout base) {r : Browsing.Request}
    {handler : String} {pairs : List (String × String)}
    (hquestion : (Client.create session name timeout).question r =
      ((Client.create session name timeout).userUrl handler, pairs))
    (hhandler : ∀ c ∈ handler.toList, allowedInPath c = true)
    (hlength : ((Client.create session name timeout).userUrl handler).utf8ByteSize ≤
      greatestLength) :
    (Client.create session name timeout).endpoint? r = some base.endpoint := by
  rw [Client.endpoint?, hquestion, h.parse?_userUrl hhandler hlength]
  rfl

/-- What is sent to a handler with the parameters `pairs`. -/
theorem request_eq (h : Sends session name timeout base) {r : Browsing.Request} {handler : String}
    {pairs : List (String × String)}
    (hquestion : (Client.create session name timeout).question r =
      ((Client.create session name timeout).userUrl handler, pairs))
    (hhandler : ∀ c ∈ handler.toList, allowedInPath c = true)
    (hlength : ((Client.create session name timeout).userUrl handler).utf8ByteSize ≤
      greatestLength) :
    (Client.create session name timeout).request r = .ok (getRequest session name base
      (handler ++ if pairs = [] then "" else "?" ++ String.ofList (encodePairs pairs))) := by
  obtain ⟨hquery, path, hpath⟩ := Url.exists_path_eq h.address h.plain h.slash
  obtain ⟨v, hpairs, htarget⟩ := Url.exists_withPairs
    (u := { base with path := base.path ++ ("Users/" ++ session.userId ++ "/" ++ handler).toList })
    hquery (by rw [hpath]; rfl) pairs
  have hheader : (Client.create session name timeout).authorization.toList.all
      Client.allowedInHeader = true :=
    allowedInHeader_authorizationFor h.name h.device h.token
  have hurl := h.parse?_userUrl hhandler hlength
  have hrequest : (Client.create session name timeout).request r =
      .ok ⟨"GET", v.target, Client.authorizationFor session name, "application/json"⟩ :=
    Client.request_eq_ok (by rw [hquestion]; exact hurl) (by rw [hquestion]; exact hpairs) hheader
      h.patient
  have htarget : v.target = String.ofList base.path ++ "Users/" ++ session.userId ++ "/" ++
      (handler ++ if pairs = [] then "" else "?" ++ String.ofList (encodePairs pairs)) := by
    rw [htarget]
    simp only [String.ofList_append, String.ofList_toList, String.append_assoc]
  rw [hrequest, htarget, getRequest]

theorem allowedInPath_items (id : String) :
    ∀ c ∈ ("Items/" ++ Client.segment id).toList, allowedInPath c = true := by
  have hitems : "Items/".toList.all allowedInPath = true := rfl
  intro c hc
  rw [String.toList_append] at hc
  rcases List.mem_append.mp hc with hc | hc
  · exact List.all_eq_true.mp hitems c hc
  · rw [Client.segment, String.toList_ofList] at hc
    exact allowedInPath_of_mem_encode hc

/-- An item is asked for by its identifier alone. -/
theorem request_item (h : Sends session name timeout base) {id : String}
    (hlength : ((Client.create session name timeout).userUrl
      ("Items/" ++ Client.segment id)).utf8ByteSize ≤ greatestLength) :
    (Client.create session name timeout).request (.item id) =
      .ok (getRequest session name base ("Items/" ++ Client.segment id)) := by
  have hrequest := h.request_eq (r := .item id) rfl (allowedInPath_items id) hlength
  rw [hrequest, if_pos rfl, String.append_empty]

theorem requestTo_item (h : Sends session name timeout base) {id : String}
    (hlength : ((Client.create session name timeout).userUrl
      ("Items/" ++ Client.segment id)).utf8ByteSize ≤ greatestLength) :
    (Client.create session name timeout).requestTo base.endpoint (.item id) =
      .ok (getRequest session name base ("Items/" ++ Client.segment id)) :=
  Client.requestTo_eq_ok_iff.mpr
    ⟨h.request_item hlength, h.endpoint?_eq rfl (allowedInPath_items id) hlength⟩

/-- The request for an item has no query. -/
theorem question_mark_not_mem (h : Sends session name timeout base) {id : String}
    (hlength : ((Client.create session name timeout).userUrl
      ("Items/" ++ Client.segment id)).utf8ByteSize ≤ greatestLength) :
    '?' ∉ (getRequest session name base ("Items/" ++ Client.segment id)).target.toList := by
  have hurl := h.parse?_userUrl (allowedInPath_items id) hlength
  have htarget : (getRequest session name base ("Items/" ++ Client.segment id)).target.toList =
      base.path ++
        ("Users/" ++ session.userId ++ "/" ++ ("Items/" ++ Client.segment id)).toList := by
    simp only [getRequest, String.toList_append, String.toList_ofList, List.append_assoc]
  rw [htarget]
  intro hmem
  exact (ne_of_allowedInPath (Url.allowedInPath_of_parse? hurl _ hmem)).1 rfl

/-- Items are asked for by the parameters of the query. -/
theorem request_items (h : Sends session name timeout base) {query : Catalogue.ItemQuery}
    (hparams : query.params ≠ [])
    (hlength : ((Client.create session name timeout).userUrl "Items").utf8ByteSize ≤
      greatestLength) :
    (Client.create session name timeout).request (.items query) =
      .ok (getRequest session name base
        ("Items?" ++ String.ofList (encodePairs query.params))) := by
  have hitems : "Items".toList.all allowedInPath = true := rfl
  have hrequest := h.request_eq (r := .items query) rfl (List.all_eq_true.mp hitems) hlength
  rw [hrequest, if_neg hparams, ← String.append_assoc]
  rfl

theorem requestTo_items (h : Sends session name timeout base) {query : Catalogue.ItemQuery}
    (hparams : query.params ≠ [])
    (hlength : ((Client.create session name timeout).userUrl "Items").utf8ByteSize ≤
      greatestLength) :
    (Client.create session name timeout).requestTo base.endpoint (.items query) =
      .ok (getRequest session name base
        ("Items?" ++ String.ofList (encodePairs query.params))) := by
  have hitems : "Items".toList.all allowedInPath = true := rfl
  exact Client.requestTo_eq_ok_iff.mpr ⟨h.request_items hparams hlength,
    h.endpoint?_eq (r := .items query) rfl (List.all_eq_true.mp hitems) hlength⟩

end Sends

/-- What has too long an address is not asked. -/
theorem Client.request_eq_error {c : Client} {r : Browsing.Request}
    (h : greatestLength < (c.question r).1.utf8ByteSize) :
    c.request r = .error (.transport "invalid address") := by
  have hurl : Url.parse? (c.question r).1 = none := by
    unfold Url.parse?
    exact if_pos h
  simp only [request, hurl]

end MusicLibrary.Http
