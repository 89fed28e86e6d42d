import MusicLibrary.Proofs.Json.Truncation
import MusicLibrary.Proofs.Catalogue.ListingText
import MusicLibrary.Proofs.Http.Reading

/-!
# Responses that are cut short

An item and a listing are told by their closing bracket, so no beginning of their text is taken for
one, not even for another that says less (`HoldsAnswer.not_isText_of_cut`). A response whose body
ends too early therefore fails (`answer_of_cut`): what is left of the body cannot be read, or it is
no text, if the cut goes through a character that takes more than one byte, or it is still too long.
-/

namespace MusicLibrary.Catalogue

open MusicLibrary.Json (EndsTight IsComplete IsText RecordFormat RecordOf)

/-- The text is that of an item or of a listing. -/
def HoldsAnswer (t : String) : Prop :=
  (∃ x, Item.decode t = .ok x) ∨ ∃ l, Listing.decode t = .ok l

variable {s t u : String}

theorem Listing.specified_reader (n : ℕ) : (reader (n + 1)).Specified (RecordOf (format n)) :=
  (exact_format n).specified_record

theorem HoldsAnswer.isText (h : HoldsAnswer t) : IsText t.toList := by
  rcases h with ⟨x, hx⟩ | ⟨l, hl⟩
  · exact (Item.specified_reader 126).exact.isText_of_readAll hx
  · exact (Listing.specified_reader 126).exact.isText_of_readAll hl

theorem HoldsAnswer.isComplete (h : HoldsAnswer t) (htight : EndsTight t.toList) :
    IsComplete t.toList := by
  rcases h with ⟨x, hx⟩ | ⟨l, hl⟩
  · exact (Item.specified_reader 126).isComplete_of_readAll hx htight
  · exact (Listing.specified_reader 126).isComplete_of_readAll hl htight

/-- What is no text is neither an item nor a listing. -/
theorem exists_errors_of_not_isText (h : ¬ IsText s.toList) :
    (∃ e, Item.decode s = .error e) ∧ ∃ e, Listing.decode s = .error e := by
  constructor
  · cases hx : Item.decode s with
    | ok x => exact absurd (HoldsAnswer.isText (.inl ⟨x, hx⟩)) h
    | error e => exact ⟨e, rfl⟩
  · cases hl : Listing.decode s with
    | ok l => exact absurd (HoldsAnswer.isText (.inr ⟨l, hl⟩)) h
    | error e => exact ⟨e, rfl⟩

theorem HoldsAnswer.not_isText_of_cut (h : HoldsAnswer t) (htight : EndsTight t.toList)
    (hcut : u.toList <+: t.toList) (hne : u ≠ t) : ¬ IsText u.toList := by
  obtain ⟨lost, hlost⟩ := hcut
  refine IsComplete.not_isText_of_cut (hlost ▸ h.isComplete htight) ?_
  rintro rfl
  exact hne (String.toList_inj.mp (by rw [← hlost, List.append_nil]))

end MusicLibrary.Catalogue

namespace MusicLibrary.Http

open Catalogue

variable {t u : String}

/-- The bytes are those of a text up to some point before its end. -/
def CutFrom (t : String) (body : ByteArray) : Prop :=
  ∃ lost : ByteArray, lost ≠ .empty ∧ body ++ lost = t.toUTF8

theorem CutFrom.toList_prefix (h : CutFrom t u.toUTF8) : u.toList <+: t.toList := by
  obtain ⟨lost, -, hbytes⟩ := h
  refine List.isPrefix_of_utf8Encode_append_eq_utf8Encode lost ?_
  rw [String.utf8Encode_toList, String.utf8Encode_toList]
  exact hbytes

theorem CutFrom.ne (h : CutFrom t u.toUTF8) : u ≠ t := by
  obtain ⟨lost, hlost, hbytes⟩ := h
  rintro rfl
  refine hlost ((ByteArray.append_right_inj u.toUTF8).mp ?_)
  rw [hbytes, ByteArray.append_empty]

theorem not_isText_nil : ¬ Json.IsText [] := by
  rintro ⟨p, hp, htext⟩
  obtain ⟨c, s, hcore, -⟩ := hp.head
  rw [Json.Spaced.text, hcore] at htext
  simp at htext

namespace Response

variable {r : Response}

/-- Of the responses that report success those with the status 204 have no body. -/
theorem isBodiless_iff_of_success (h : 200 ≤ r.status ∧ r.status < 300) :
    r.isBodiless = true ↔ r.status = 204 := by
  simp only [isBodiless, Bool.or_eq_true, beq_iff_eq]
  omega

theorem isBodiless_of_success (h : 200 ≤ r.status ∧ r.status < 300) (hstatus : r.status ≠ 204) :
    r.isBodiless = false := by
  rw [Bool.eq_false_iff, ne_eq, isBodiless_iff_of_success h]
  exact hstatus

theorem read_of_undecodable {α : Type} {decode : String → Except Json.ReadError α} {text : String}
    (h : 200 ≤ r.status ∧ r.status < 300) (htext : r.text = .ok text)
    (herror : ∃ e, decode text = .error e) : ∃ e, r.read decode = .error (.unreadable e) := by
  obtain ⟨e, he⟩ := herror
  refine ⟨e, ?_⟩
  rw [read_of_status (.inl h), htext]
  dsimp only
  rw [if_pos h, he]
  rfl

end Response

/-- A success whose text is neither an item nor a listing cannot be read, whatever was asked. -/
theorem Client.read_of_not_isText (r : Browsing.Request) {response : Response} {text : String}
    (h : 200 ≤ response.status ∧ response.status < 300) (htext : response.text = .ok text)
    (hnot : ¬ Json.IsText text.toList) : ∃ e, read r response = .error (.unreadable e) := by
  obtain ⟨hitem, hlisting⟩ := exists_errors_of_not_isText hnot
  cases r with
  | item id => exact Response.read_of_undecodable h htext hitem
  | folders => exact Response.read_of_undecodable h htext hlisting
  | items query => exact Response.read_of_undecodable h htext hlisting

/-- What is left of an answer is no text that could be read. -/
theorem CutFrom.exists_text (hanswer : HoldsAnswer t) (htight : Json.EndsTight t.toList)
    {response : Response} (h : 200 ≤ response.status ∧ response.status < 300)
    (hcut : CutFrom t response.body)
    (htext : response.status = 204 ∨
      response.body.size ≤ Response.bodyLimit ∧ ∃ u : String, response.body = u.toUTF8) :
    ∃ text, response.text = .ok text ∧ ¬ Json.IsText text.toList := by
  by_cases hempty : response.status = 204
  · exact ⟨"", if_pos ((Response.isBodiless_iff_of_success h).mpr hempty), not_isText_nil⟩
  · obtain ⟨hsize, u, hu⟩ := htext.resolve_left hempty
    have hbody := Response.isBodiless_of_success h hempty
    refine ⟨u, Response.text_of_toUTF8 hbody hu hsize, ?_⟩
    rw [hu] at hcut
    exact hanswer.not_isText_of_cut htight hcut.toList_prefix hcut.ne

/-- **An answer that is cut short is never taken for a complete one.** No beginning of its text is
decoded, and a success with such a body is a failure: one of reading, or one of transport if the
body has been cut within a character or is too long all the same. -/
theorem answer_of_cut {t : String} (hanswer : HoldsAnswer t) (htight : Json.EndsTight t.toList) :
    (∀ u : String, u.toList <+: t.toList → u ≠ t →
      (∃ e, Item.decode u = .error e) ∧ ∃ e, Listing.decode u = .error e) ∧
    ∀ (client : Client) (endpoint : Endpoint) (r : Browsing.Request) (request : Request)
      (response : Response) (responses : List Response) (seen : List Request),
      client.requestTo endpoint r = .ok request →
      200 ≤ response.status ∧ response.status < 300 → CutFrom t response.body →
      ((response.status = 204 ∨
          response.body.size ≤ Response.bodyLimit ∧ ∃ u : String, response.body = u.toUTF8) →
        ∃ e, ((Script.server endpoint client).answer r ⟨response :: responses, seen⟩).1 =
          .error (.unreadable e)) ∧
      (response.status ≠ 204 →
        Response.bodyLimit < response.body.size ∨ (∀ u : String, response.body ≠ u.toUTF8) →
        ∃ message, ((Script.server endpoint client).answer r ⟨response :: responses, seen⟩).1 =
          .error (.transport message)) := by
  refine ⟨fun u hcut hne => ?_, ?_⟩
  · exact exists_errors_of_not_isText (hanswer.not_isText_of_cut htight hcut hne)
  · intro client endpoint r request response responses seen hsent h hcut
    rw [Script.answer_cons hsent]
    constructor
    · intro htext
      obtain ⟨text, htext, hnot⟩ := hcut.exists_text hanswer htight h htext
      exact Client.read_of_not_isText r h htext hnot
    · intro hstatus hlost
      have hbody := Response.isBodiless_of_success h hstatus
      obtain ⟨message, hmessage⟩ := Response.exists_text_eq_error hbody hlost
      exact ⟨message, Client.read_of_lost r (.inl h) hmessage⟩

/-! ### A listing with an accent -/

/-- The text of a listing of one item. -/
def accentedText : String := "\x7b\"Items\":[\x7b\"Id\":\"é\"\x7d]\x7d"

/-- The text without its last character. -/
def unclosedText : String := "\x7b\"Items\":[\x7b\"Id\":\"é\"\x7d]"

/-- The bytes of the text up to the first of the two that the accented letter takes. -/
def accentedStart : ByteArray := "\x7b\"Items\":[\x7b\"Id\":\"".toUTF8 ++ ⟨#[0xC3]⟩

theorem decode_accentedText :
    Listing.decode accentedText = .ok ⟨[{ Item.blank with id := "é" }], none⟩ := by
  decide +kernel

theorem endsTight_accentedText : Json.EndsTight accentedText.toList := by
  have hlast : accentedText.toList.getLast? = some '\x7d' := by simp [accentedText]
  intro c hc
  obtain rfl := Option.some.inj (hlast.symm.trans hc)
  decide

theorem cutFrom_unclosedText : CutFrom accentedText unclosedText.toUTF8 :=
  ⟨"\x7d".toUTF8, by decide, rfl⟩

theorem cutFrom_accentedStart : CutFrom accentedText accentedStart :=
  ⟨⟨#[0xA9]⟩ ++ "\"\x7d]\x7d".toUTF8, by decide, rfl⟩

theorem accentedStart_ne_toUTF8 (u : String) : accentedStart ≠ u.toUTF8 :=
  fromUTF8?_eq_none_iff.mp rfl u

/-- Without its last character the listing cannot be read, and without half of the accented letter
it is no text. -/
theorem answer_of_cut_accented :
    HoldsAnswer accentedText ∧ Json.EndsTight accentedText.toList ∧
    (∃ e, Listing.decode unclosedText = .error e) ∧
    (∃ e, ((Script.server serverEndpoint (Client.ofSession serverSession)).answer .folders
      ⟨[⟨200, unclosedText.toUTF8⟩], []⟩).1 = .error (.unreadable e)) ∧
    ∃ message, ((Script.server serverEndpoint (Client.ofSession serverSession)).answer .folders
      ⟨[⟨200, accentedStart⟩], []⟩).1 = .error (.transport message) := by
  have hholds : HoldsAnswer accentedText := .inr ⟨_, decode_accentedText⟩
  obtain ⟨hparts, hanswer⟩ := answer_of_cut hholds endsTight_accentedText
  refine ⟨hholds, endsTight_accentedText, ?_, ?_, ?_⟩
  · exact (hparts _ cutFrom_unclosedText.toList_prefix cutFrom_unclosedText.ne).2
  · exact (hanswer _ _ _ _ ⟨200, unclosedText.toUTF8⟩ [] [] requestTo_folders (by decide)
      cutFrom_unclosedText).1 (.inr ⟨by decide, unclosedText, rfl⟩)
  · exact (hanswer _ _ _ _ ⟨200, accentedStart⟩ [] [] requestTo_folders (by decide)
      cutFrom_accentedStart).2 (by decide) (.inr accentedStart_ne_toUTF8)

/-- A listing that is cut short need not fail for being unreadable. -/
theorem not_unreadable_of_cut :
    ¬ ∀ (t : String) (l : Listing), Listing.decode t = .ok l → Json.EndsTight t.toList →
      ∀ (client : Client) (endpoint : Endpoint) (request : Request) (response : Response),
      client.requestTo endpoint .folders = .ok request →
      200 ≤ response.status ∧ response.status < 300 → CutFrom t response.body →
      ∃ e, ((Script.server endpoint client).answer .folders ⟨[response], []⟩).1 =
        .error (.unreadable e) := by
  intro hall
  obtain ⟨e, he⟩ := hall _ _ decode_accentedText endsTight_accentedText _ _ _ ⟨200, accentedStart⟩
    requestTo_folders (by decide) cutFrom_accentedStart
  obtain ⟨message, hlost⟩ := @Response.exists_text_eq_error ⟨200, accentedStart⟩ rfl
    (.inr accentedStart_ne_toUTF8)
  have hread := Client.read_of_lost .folders (.inl (by decide)) hlost
  rw [Script.answer_cons requestTo_folders] at he
  cases hread.symm.trans he

end MusicLibrary.Http
