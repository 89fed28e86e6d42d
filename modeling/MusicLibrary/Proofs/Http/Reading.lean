import MusicLibrary.Http.Script
import MusicLibrary.Proofs.Browsing.Run

/-!
# What a response says

A complete response either holds the value that is asked for (`Response.Holds`) or fails for a
cause that its status and its text determine (`Response.Fails`). A status of 400 and more is
reported as what it is (`Reports`) together with the text of the body. That the body is a text, and
not too long a one, is looked at first, though: otherwise the status is lost, and the failure is one
of transport (`answer_of_error_status`).
-/

namespace MusicLibrary.Http

variable {α : Type} {decode : String → Except Json.ReadError α}

/-- The failure tells of a status of the server, with the text that came along. -/
inductive Reports (code : ℕ) (text : String) : Failure → Prop where
  /-- The token is refused. -/
  | unauthorized : code = 401 ∨ code = 403 → Reports code text (.unauthorized text)
  /-- There is no such item. -/
  | notFound : code = 404 → Reports code text (.notFound text)
  /-- The status is another one. -/
  | status : code ≠ 401 → code ≠ 403 → code ≠ 404 → Reports code text (.status code text)

theorem reports_ofStatus (code : ℕ) (text : String) : Reports code text (.ofStatus code text) := by
  unfold Failure.ofStatus
  split_ifs with hrefused hunknown
  · exact .unauthorized hrefused
  · exact .notFound hunknown
  · exact .status (fun e => hrefused (.inl e)) (fun e => hrefused (.inr e)) hunknown

theorem Reports.eq_ofStatus {code : ℕ} {text : String} {cause : Failure}
    (h : Reports code text cause) : cause = .ofStatus code text := by
  unfold Failure.ofStatus
  cases h with
  | unauthorized hcode => rw [if_pos hcode]
  | notFound hcode => rw [if_neg (by omega), if_pos hcode]
  | status h401 h403 h404 => rw [if_neg (by omega), if_neg h404]

theorem fromUTF8?_eq_some_iff {bytes : ByteArray} {text : String} :
    String.fromUTF8? bytes = some text ↔ bytes = text.toUTF8 := by
  unfold String.fromUTF8?
  constructor
  · intro h
    split_ifs at h with hvalid
    obtain rfl := Option.some.inj h
    rfl
  · rintro rfl
    exact dif_pos text.isValidUTF8

theorem fromUTF8?_eq_none_iff {bytes : ByteArray} :
    String.fromUTF8? bytes = none ↔ ∀ text : String, bytes ≠ text.toUTF8 := by
  simp only [Option.eq_none_iff_forall_ne_some, ne_eq, fromUTF8?_eq_some_iff]

namespace Response

/-- The response reports success, and its body is the text of a value. -/
inductive Holds (decode : String → Except Json.ReadError α) (r : Response) (a : α) : Prop where
  /-- The text is read without an error. -/
  | intro {text : String} : 200 ≤ r.status → r.status < 300 → r.text = .ok text →
      decode text = .ok a → Holds decode r a

/-- The response holds no value, and this is why. -/
inductive Fails (decode : String → Except Json.ReadError α) (r : Response) : Failure → Prop where
  /-- It does not report success; what its body says counts for no more than a message. -/
  | status {text : String} {cause : Failure} : ¬ (200 ≤ r.status ∧ r.status < 300) →
      r.text = .ok text → Reports r.status text cause → Fails decode r cause
  /-- It reports success, but its body cannot be read. -/
  | unreadable {text : String} {error : Json.ReadError} : 200 ≤ r.status → r.status < 300 →
      r.text = .ok text → decode text = .error error → Fails decode r (.unreadable error)
  /-- There is a body, and it is too long. -/
  | oversized : r.isBodiless = false → bodyLimit < r.body.size → Fails decode r oversized

/-- A response that says all that it has to say: it is neither an announcement nor a redirection,
and its body is a text. -/
structure Complete (r : Response) : Prop where
  /-- The status reports success or an error. -/
  status : 200 ≤ r.status ∧ r.status < 300 ∨ 400 ≤ r.status ∧ r.status < 1000
  /-- The body is UTF-8. -/
  body : ∃ text : String, r.body = text.toUTF8

theorem isBodiless_of_error {r : Response} (h : 400 ≤ r.status) : r.isBodiless = false := by
  simp only [isBodiless, Bool.or_eq_false_iff, beq_eq_false_iff_ne]
  omega

/-- A text that is not too long is read as it is. -/
theorem text_of_toUTF8 {r : Response} {text : String} (hbody : r.isBodiless = false)
    (htext : r.body = text.toUTF8) (hsize : r.body.size ≤ bodyLimit) : r.text = .ok text := by
  rw [Response.text, hbody, if_neg Bool.false_ne_true, if_neg (Nat.not_lt.mpr hsize),
    fromUTF8?_eq_some_iff.mpr htext]

theorem text_of_oversized {r : Response} (hbody : r.isBodiless = false)
    (hsize : bodyLimit < r.body.size) : r.text = .error oversized := by
  rw [text, hbody, if_neg Bool.false_ne_true, if_pos hsize]

/-- A body that is too long or no text is lost on the way. -/
theorem exists_text_eq_error {r : Response} (hbody : r.isBodiless = false)
    (h : bodyLimit < r.body.size ∨ ∀ text : String, r.body ≠ text.toUTF8) :
    ∃ message, r.text = .error (.transport message) := by
  by_cases hsize : bodyLimit < r.body.size
  · exact ⟨_, text_of_oversized hbody hsize⟩
  · have hbytes := fromUTF8?_eq_none_iff.mpr (h.resolve_left hsize)
    rw [text, hbody, if_neg Bool.false_ne_true, if_neg hsize, hbytes]
    exact ⟨_, rfl⟩

/-- The body of a complete response is read as a text, unless it is too long. -/
theorem Complete.text_cases {r : Response} (h : r.Complete) :
    (∃ text, r.text = .ok text) ∨ r.isBodiless = false ∧ bodyLimit < r.body.size := by
  cases hbody : r.isBodiless with
  | true => exact .inl ⟨"", if_pos hbody⟩
  | false =>
    rcases Nat.lt_or_ge bodyLimit r.body.size with hsize | hsize
    · exact .inr ⟨rfl, hsize⟩
    · obtain ⟨text, htext⟩ := h.body
      exact .inl ⟨text, text_of_toUTF8 hbody htext hsize⟩

/-- A response with a status that reports success or an error is read as its text. -/
theorem read_of_status {r : Response}
    (h : 200 ≤ r.status ∧ r.status < 300 ∨ 400 ≤ r.status ∧ r.status < 1000) :
    r.read decode =
      match r.text with
      | .error cause => .error cause
      | .ok text =>
        if 200 ≤ r.status ∧ r.status < 300 then (decode text).mapError .unreadable
        else .error (.ofStatus r.status text) := by
  have hhas : r.hasStatus = true := by
    simp only [hasStatus, Bool.and_eq_true, decide_eq_true_eq]
    omega
  have hinterim : r.isInterim = false := by
    simp only [isInterim, Bool.and_eq_false_iff, decide_eq_false_iff_not]
    omega
  have hredirection : r.isRedirection = false := by
    simp only [isRedirection, Bool.and_eq_false_iff, decide_eq_false_iff_not]
    omega
  have hsuccess : r.isSuccess = true ↔ 200 ≤ r.status ∧ r.status < 300 := by simp [isSuccess]
  cases htext : r.text with
  | error cause => simp [read, hhas, hinterim, hredirection, htext]
  | ok text => simp [read, hhas, hinterim, hredirection, htext, hsuccess]

theorem Holds.read_eq {r : Response} {a : α} (h : Holds decode r a) : r.read decode = .ok a := by
  obtain ⟨hlow, hhigh, htext, hdecode⟩ := h
  rw [read_of_status (.inl ⟨hlow, hhigh⟩), htext]
  dsimp only
  rw [if_pos ⟨hlow, hhigh⟩, hdecode]
  rfl

theorem Fails.read_eq {r : Response} {cause : Failure} (hcomplete : r.Complete)
    (h : Fails decode r cause) : r.read decode = .error cause := by
  rw [read_of_status hcomplete.status]
  cases h with
  | status hstatus htext hreports =>
    rw [htext, hreports.eq_ofStatus]
    exact if_neg hstatus
  | unreadable hlow hhigh htext hdecode =>
    rw [htext]
    dsimp only
    rw [if_pos ⟨hlow, hhigh⟩, hdecode]
    rfl
  | oversized hbody hsize => rw [text_of_oversized hbody hsize]

/-- A complete response holds a value, or it fails. -/
theorem Complete.holds_or_fails {r : Response} (h : r.Complete)
    (decode : String → Except Json.ReadError α) :
    (∃ a, Holds decode r a) ∨ ∃ cause, Fails decode r cause := by
  obtain ⟨text, htext⟩ | ⟨hbody, hsize⟩ := h.text_cases
  case inr => exact .inr ⟨_, .oversized hbody hsize⟩
  by_cases hsuccess : 200 ≤ r.status ∧ r.status < 300
  · cases hdecode : decode text with
    | ok a => exact .inl ⟨a, .intro hsuccess.1 hsuccess.2 htext hdecode⟩
    | error e => exact .inr ⟨_, .unreadable hsuccess.1 hsuccess.2 htext hdecode⟩
  · exact .inr ⟨_, .status hsuccess htext (reports_ofStatus _ _)⟩

theorem Complete.read_eq_ok_iff {r : Response} {a : α} (h : r.Complete) :
    r.read decode = .ok a ↔ Holds decode r a := by
  refine ⟨fun hread => ?_, Holds.read_eq⟩
  obtain ⟨b, hholds⟩ | ⟨cause, hfails⟩ := h.holds_or_fails decode
  · obtain rfl := Except.ok.inj (hread.symm.trans hholds.read_eq)
    exact hholds
  · cases hread.symm.trans (hfails.read_eq h)

theorem Complete.read_eq_error_iff {r : Response} {cause : Failure} (h : r.Complete) :
    r.read decode = .error cause ↔ Fails decode r cause := by
  refine ⟨fun hread => ?_, fun hfails => hfails.read_eq h⟩
  obtain ⟨b, hholds⟩ | ⟨cause', hfails⟩ := h.holds_or_fails decode
  · cases hread.symm.trans hholds.read_eq
  · obtain rfl := Except.error.inj (hread.symm.trans (hfails.read_eq h))
    exact hfails

theorem Complete.not_fails {r : Response} {a : α} {cause : Failure} (h : r.Complete)
    (hholds : Holds decode r a) : ¬ Fails decode r cause := by
  intro hfails
  cases hholds.read_eq.symm.trans (hfails.read_eq h)

theorem Complete.eq_of_fails {r : Response} {cause cause' : Failure} (h : r.Complete)
    (hfails : Fails decode r cause) (hfails' : Fails decode r cause') : cause = cause' :=
  Except.error.inj ((hfails.read_eq h).symm.trans (hfails'.read_eq h))

end Response

/-! ### Statuses that report an error -/

theorem Response.read_of_error_status {r : Response} {text : String}
    (h : 400 ≤ r.status ∧ r.status < 600) (htext : r.text = .ok text) :
    r.read decode = .error (.ofStatus r.status text) := by
  rw [read_of_status (.inr ⟨h.1, by omega⟩), htext]
  exact if_neg (by omega)

theorem Response.read_of_lost {r : Response} {cause : Failure}
    (h : 200 ≤ r.status ∧ r.status < 300 ∨ 400 ≤ r.status ∧ r.status < 1000)
    (hlost : r.text = .error cause) : r.read decode = .error cause := by
  rw [read_of_status h, hlost]

/-- What a response says to clients of every type of value it says whatever is asked. -/
theorem Client.read_of_forall_read (r : Browsing.Request) {response : Response} {cause : Failure}
    (h : ∀ {β : Type} (decode : String → Except Json.ReadError β),
      response.read decode = .error cause) : Client.read r response = .error cause := by
  cases r with
  | item id => exact h Catalogue.Item.decode
  | folders => exact h Catalogue.Listing.decode
  | items query => exact h Catalogue.Listing.decode

/-- Whatever is asked, a response that reports an error is read by its status and its text. -/
theorem Client.read_of_error_status (r : Browsing.Request) {response : Response} {text : String}
    (h : 400 ≤ response.status ∧ response.status < 600) (htext : response.text = .ok text) :
    Client.read r response = .error (.ofStatus response.status text) :=
  read_of_forall_read r fun _ => Response.read_of_error_status h htext

/-- Whatever is asked, a response whose body is lost says no more than that. -/
theorem Client.read_of_lost (r : Browsing.Request) {response : Response} {cause : Failure}
    (h : 200 ≤ response.status ∧ response.status < 300 ∨
      400 ≤ response.status ∧ response.status < 1000)
    (hlost : response.text = .error cause) : Client.read r response = .error cause :=
  read_of_forall_read r fun _ => Response.read_of_lost h hlost

theorem Script.answer_of_sent {client : Client} {endpoint : Endpoint} {r : Browsing.Request}
    {request : Request} (hsent : client.requestTo endpoint r = .ok request) (script : Script) :
    (Script.server endpoint client).answer r script =
      (Client.read r (script.respond request).1, (script.respond request).2) := by
  simp only [Script.server, hsent]

/-- The next response of a script decides what a request comes to that reaches the server. -/
theorem Script.answer_cons {client : Client} {endpoint : Endpoint} {r : Browsing.Request}
    {request : Request} (hsent : client.requestTo endpoint r = .ok request) (response : Response)
    (responses : List Response) (seen : List Request) :
    ((Script.server endpoint client).answer r ⟨response :: responses, seen⟩).1 =
      Client.read r response := by
  rw [answer_of_sent hsent]
  rfl

/-- **An error status is reported as that status if the body is a text that is not too long.** If
the body is too long, or no text, the status is lost: then the failure is one of transport. -/
theorem answer_of_error_status (client : Client) (endpoint : Endpoint) {r : Browsing.Request}
    {request : Request} (hsent : client.requestTo endpoint r = .ok request) {response : Response}
    (hstatus : 400 ≤ response.status ∧ response.status < 600) (responses : List Response)
    (seen : List Request) :
    (response.body.size ≤ Response.bodyLimit → ∀ text : String, response.body = text.toUTF8 →
      ∃ cause, Reports response.status text cause ∧
        ((Script.server endpoint client).answer r ⟨response :: responses, seen⟩).1 =
          .error cause) ∧
    (Response.bodyLimit < response.body.size ∨ (∀ text : String, response.body ≠ text.toUTF8) →
      ∃ message, ((Script.server endpoint client).answer r ⟨response :: responses, seen⟩).1 =
        .error (.transport message)) := by
  have hbody := Response.isBodiless_of_error hstatus.1
  rw [Script.answer_cons hsent]
  constructor
  · intro hsize text htext
    have hread := Client.read_of_error_status r hstatus
      (Response.text_of_toUTF8 hbody htext hsize)
    exact ⟨_, reports_ofStatus _ _, hread⟩
  · intro hlost
    obtain ⟨message, hmessage⟩ := Response.exists_text_eq_error hbody hlost
    exact ⟨message, Client.read_of_lost r (.inr ⟨hstatus.1, by omega⟩) hmessage⟩

/-! ### An item that is not there -/

/-- The request for the folders. -/
def foldersRequest : Request :=
  ⟨"GET", "/Users/USER/Items",
    Client.authorizationFor Browsing.sampleSession defaultClientName, "application/json"⟩

theorem request_folders : (Client.ofSession Browsing.sampleSession).request .folders =
    .ok foldersRequest := by
  decide +kernel

/-- The session of the same user with a server that is known as `SERVER`. -/
def serverSession : Session := ⟨"http://SERVER/", "KEY", "USER", "DEVICE"⟩

/-- The host and the port of the server. -/
def serverEndpoint : Endpoint := ("SERVER", 80)

theorem requestTo_folders :
    (Client.ofSession serverSession).requestTo serverEndpoint .folders = .ok foldersRequest := by
  decide +kernel

/-- A body that is no text. -/
def garbled : ByteArray := ⟨#[0xFF]⟩

theorem garbled_ne_toUTF8 (text : String) : garbled ≠ text.toUTF8 :=
  fromUTF8?_eq_none_iff.mp rfl text

/-- With a text the status 404 is reported, without one it is not. -/
theorem answer_of_error_status_not_found :
    (Client.ofSession serverSession).requestTo serverEndpoint .folders = .ok foldersRequest ∧
    ((Script.server serverEndpoint (Client.ofSession serverSession)).answer .folders
      ⟨[⟨404, "gone".toUTF8⟩], []⟩).1 = .error (.notFound "gone") ∧
    ∃ message, ((Script.server serverEndpoint (Client.ofSession serverSession)).answer .folders
      ⟨[⟨404, garbled⟩], []⟩).1 = .error (.transport message) := by
  have hgone : 400 ≤ (⟨404, "gone".toUTF8⟩ : Response).status ∧ 404 < 600 := by decide
  have hlost : 400 ≤ (⟨404, garbled⟩ : Response).status ∧ 404 < 600 := by decide
  obtain ⟨htext, -⟩ := answer_of_error_status _ _ requestTo_folders hgone [] []
  obtain ⟨-, hgarbled⟩ := answer_of_error_status _ _ requestTo_folders hlost [] []
  obtain ⟨cause, hreports, hanswer⟩ := htext (by decide) "gone" rfl
  refine ⟨requestTo_folders, ?_, hgarbled (.inr garbled_ne_toUTF8)⟩
  rw [hanswer, hreports.eq_ofStatus]
  rfl

/-- An error status need not be reported as that status, though the body is not too long. -/
theorem not_reported_of_error_status :
    ¬ ∀ (client : Client) (endpoint : Endpoint) (r : Browsing.Request) (request : Request)
        (response : Response), client.requestTo endpoint r = .ok request →
      400 ≤ response.status ∧ response.status < 600 →
      response.body.size ≤ Response.bodyLimit →
      ∃ text cause, Reports response.status text cause ∧
        ((Script.server endpoint client).answer r ⟨[response], []⟩).1 = .error cause := by
  intro hall
  obtain ⟨text, cause, hreports, hanswer⟩ :=
    hall _ _ _ _ ⟨404, garbled⟩ requestTo_folders (by decide) (by decide)
  obtain ⟨message, hlost⟩ := @Response.exists_text_eq_error ⟨404, garbled⟩ rfl
    (.inr garbled_ne_toUTF8)
  rw [Script.answer_cons requestTo_folders] at hanswer
  have hread := Client.read_of_lost .folders (.inr (by decide)) hlost
  have hcause := Except.error.inj (hread.symm.trans hanswer)
  subst hcause
  cases hreports

end MusicLibrary.Http
