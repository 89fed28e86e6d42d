import MusicLibrary.Proofs.Catalogue.ItemMembers
import MusicLibrary.Proofs.Catalogue.ListingText
import MusicLibrary.Proofs.Json.Frame
import MusicLibrary.Proofs.Json.Word32

/-!
# The numbers of items and listings

The number of an item within its album and the number of items that a listing states are read from
their digits alone. Whatever else an item or a listing says, with a numeral in this place it is
decoded if and only if the numeral is a number below `2 ^ 32` in digits, and then it is this number
(`numbers_read_exactly`). No numeral is rounded, cut off or moved into the range.
-/

namespace MusicLibrary.Catalogue

open MusicLibrary.Json (Frame Gives IsNumber Member ReadError Reader RecordFormat RecordOf Value
  WritesNat)

variable {σ : Type} {format : RecordFormat σ} {name : String} {put : Option UInt32 → σ → σ}

/-- What is decoded of a numeral that a text gives the member `name` is the number that its digits
write, stored by `put`. -/
structure ReadsExactly (decode : String → Except ReadError σ) (format : RecordFormat σ)
    (name : String) (put : Option UInt32 → σ → σ) : Prop where
  /-- A text that gives the member a value is a frame with this value in it. -/
  framed : ∀ s v, Gives format s.toList name v → ∃ F : Frame format name, s = F.text v
  /-- A frame that is decoded with one value in it is decoded with a numeral in it if and only if this
  writes a number that fits, and only the number differs. -/
  decodes_iff : ∀ (F : Frame format name) w a, Value w → decode (F.text w) = .ok a →
    ∀ l, IsNumber l → ∀ c, decode (F.text l) = .ok c ↔
      ∃ n : UInt32, WritesNat l n.toNat ∧ c = put (some n) a
  /-- With any other numeral it is not decoded. -/
  fails : ∀ (F : Frame format name) l, IsNumber l → (∀ n < 2 ^ 32, ¬ WritesNat l n) →
    ∃ e, decode (F.text l) = .error e

theorem readsExactly_of {y : Reader σ} {π : σ → Option UInt32}
    (hstores : format.Stores name (Json.nullable Json.word32) put π)
    (hy : y.Specified (RecordOf format)) :
    ReadsExactly (fun s => y.readAll s.toList) format name put where
  framed s v hgives := by
    obtain ⟨F, hF⟩ := Json.exists_frame_of_gives hgives
    exact ⟨F, by rw [Frame.text, ← hF, String.ofList_toList]⟩
  decodes_iff F w a hw ha l hl c := by
    simp only [Frame.text, String.toList_ofList] at ha ⊢
    rw [F.readAll_iff hstores hy hw ha hl.value]
    constructor
    · rintro ⟨o, ho, rfl⟩
      obtain ⟨n, hn, rfl⟩ := (Json.takes_nullable_word32_iff hl).mp ho
      exact ⟨n, hn, rfl⟩
    · rintro ⟨n, hn, rfl⟩
      exact ⟨some n, (Json.takes_nullable_word32_iff hl).mpr ⟨n, hn, rfl⟩, rfl⟩
  fails F l hl hnone := by
    simp only [Frame.text, String.toList_ofList]
    cases hread : y.readAll (F.fill l).text with
    | error e => exact ⟨e, rfl⟩
    | ok c =>
      have hvalue : Value (F.fill l).core := F.shell.value_fill hl.value
      have hc := hy.takes_iff.mp ((hy.exact.readAll_text_iff hvalue).mp hread)
      have htakes := hc.takes_of_gives hstores.distinct hstores.sets (F.gives hl.value)
      obtain ⟨n, hn, -⟩ := (Json.takes_nullable_word32_iff hl).mp htakes
      exact absurd hn (hnone n.toNat n.toNat_lt)

theorem Item.stores_indexNumber : (Item.format 126).Stores "IndexNumber"
    (Json.nullable Json.word32) (fun n x => { x with indexNumber := n }) Item.indexNumber where
  distinct := distinct_format 126
  commutes := commutes_format 126
  exact_reader := Json.exact_word32.specified_nullable.exact
  member := ⟨.optional, rfl⟩
  put_put _ _ _ := rfl
  sets := sets_indexNumber 126

theorem Listing.stores_total : (Listing.format 126).Stores "TotalRecordCount"
    (Json.nullable Json.word32) (fun n l => { l with total := n }) Listing.total where
  distinct := distinct_format 126
  commutes := commutes_format 126
  exact_reader := exact_total
  member := ⟨.optional, rfl⟩
  put_put _ _ _ := rfl
  sets := sets_total 126

/-- **Numbers are read as they are written or not at all.** -/
theorem numbers_read_exactly :
    ReadsExactly Item.decode (Item.format 126) "IndexNumber"
        (fun n x => { x with indexNumber := n }) ∧
      ReadsExactly Listing.decode (Listing.format 126) "TotalRecordCount"
        fun n l => { l with total := n } :=
  ⟨readsExactly_of Item.stores_indexNumber (Item.specified_reader 126),
    readsExactly_of Listing.stores_total (Listing.exact_format 126).specified_record⟩

/-- The text of an item that gives its identifier and then its number, without the number. -/
def Item.numberedFrame (id : String) : Frame (Item.format 126) "IndexNumber" where
  around := .tight
  shell := .object [.written "Id" (Json.writeString id)] (Json.MemberText.written "IndexNumber" []).label
    .tight [] (congrArg Prod.fst (Json.MemberText.content_written "IndexNumber" []))
    (List.forall_mem_singleton.mpr (Json.takes_writeString id).value)

theorem Item.decode_numberedFrame (id : String) (n : UInt32) :
    decode ((numberedFrame id).text (Json.writeNat n.toNat)) =
      .ok { blank with id, indexNumber := some n } := by
  have hs := isObject_writeObject
    [("Id", Json.writeString id), ("IndexNumber", Json.writeNat n.toNat)]
    (List.forall_mem_cons.mpr ⟨(Json.takes_writeString id).value,
      List.forall_mem_singleton.mpr (Json.takes_writeNat n).value⟩)
  have htext : (numberedFrame id).text (Json.writeNat n.toNat) = String.ofList (Json.writeObject
      [("Id", Json.writeString id), ("IndexNumber", Json.writeNat n.toNat)]) := by
    rw [Json.writeObject_eq]
    exact congrArg String.ofList (Json.Spaced.text_tight _)
  rw [htext]
  refine (decode_isObject_iff hs).mpr
    ⟨⟨{ blank with id, indexNumber := some n }, ["IndexNumber", "Id"]⟩, ?_, rfl, rfl⟩
  rw [Json.map_content_written]
  refine (Json.Fills.cons_iff Json.exact_string rfl).mpr
    ⟨nofun, id, Json.takes_writeString id, ?_⟩
  exact (Json.Fills.cons_iff Json.exact_word32.specified_nullable.exact rfl).mpr
    ⟨by simp, some n, takes_writeNullableNat (some n), .done⟩

theorem numbers_read_exactly_limit :
    Item.decode ((Item.numberedFrame "a").text "4294967295".toList) =
      .ok { Item.blank with id := "a", indexNumber := some 4294967295 } ∧
    (∃ e, Item.decode ((Item.numberedFrame "a").text "4294967296".toList) = .error e) ∧
    ∃ e, Item.decode ((Item.numberedFrame "a").text "-0".toList) = .error e := by
  have hlarge : Json.Whole "4294967296".toList := Json.whole_writeNat 4294967296
  refine ⟨?_, ?_, ?_⟩
  · have hwrites : WritesNat "4294967295".toList (4294967295 : UInt32).toNat :=
      Json.writesNat_writeNat 4294967295
    exact (numbers_read_exactly.1.decodes_iff _ _ _ (Json.takes_writeNat 7).value
      (Item.decode_numberedFrame "a" 7) _ hwrites.isNumber _).mpr ⟨_, hwrites, rfl⟩
  · refine numbers_read_exactly.1.fails _ _ (.numeral (Json.spells_of_whole false hlarge)) ?_
    rintro n hn ⟨-, hvalue⟩
    have hnumber : Nat.ofDigitChars 10 "4294967296".toList 0 = 4294967296 := by decide
    omega
  · refine numbers_read_exactly.1.fails _ _ (.negative (Json.spells_of_whole true .zero)) ?_
    rintro n hn ⟨hwhole, -⟩
    cases hwhole with
    | digits hdigit => exact absurd hdigit (by decide)

end MusicLibrary.Catalogue
