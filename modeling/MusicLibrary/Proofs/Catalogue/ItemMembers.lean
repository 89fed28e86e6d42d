import MusicLibrary.Proofs.Catalogue.Reading
import MusicLibrary.Proofs.Catalogue.ImageTags

/-!
# The members of an item

An item that is decoded from an object does not depend on the order of the members, on what white
space stands between them or on members with other names, and no member is given twice
(`Item.decode_members`). A name has to be a string, though: one with half of a surrogate pair is
none, and no object with such a name is decoded.
-/

namespace MusicLibrary.Catalogue

open MusicLibrary.Json (Fills MapOf MemberText RecordFormat RecordOf Spaced Value)

namespace Item

/-- The names of the members of an item. -/
def keys : List String :=
  ["Id", "Name", "Type", "CollectionType", "IndexNumber", "ImageTags", "MediaType", "MediaSources"]

theorem member?_eq_none_iff {opens : ℕ} {key : String} :
    (format opens).member? key = none ↔ key ∉ keys :=
  RecordFormat.member?_eq_none_iff

theorem isSome_member?_iff {opens : ℕ} {key : String} :
    ((format opens).member? key).isSome ↔ key ∈ keys := by
  rw [Option.isSome_iff_ne_none, ne_eq, member?_eq_none_iff, not_not]

/-- The text is an object of the given members, with white space around it. -/
def IsObject (s : String) (ms : List MemberText) : Prop :=
  (∀ m ∈ ms, Value m.value.core) ∧ ∃ p : Spaced, s.toList = p.text ∧ p.core = Json.objectText ms

/-- A text that starts as an object and is decoded is an object of members. -/
theorem exists_isObject {s : String} {x : Item} (h : decode s = .ok x)
    (hs : (Json.skipBlanks s.toList).head? = some '{') : ∃ ms, IsObject s ms := by
  obtain ⟨p, hp, hof⟩ := decode_eq_ok_iff.mp h
  rw [hp, Spaced.text, hof.value.skipBlanks_append p.blank_before] at hs
  generalize hv : p.core = v at hof
  cases hof with
  | emptyObject _ hmissing => cases hmissing
  | @object ms q hfills hmissing =>
    exact ⟨ms, fun m hm => hfills.values _ (List.mem_map_of_mem hm), p, hp, hv⟩
  | emptyArray _ _ =>
    rw [hv] at hs
    cases hs
  | array _ =>
    rw [hv] at hs
    cases hs

/-- What an object is decoded to is what its members make. -/
theorem decode_isObject_iff {s : String} {ms : List MemberText} (hs : IsObject s ms) {x : Item} :
    decode s = .ok x ↔ ∃ q, Fills (format 126) ⟨blank, []⟩ (ms.map MemberText.content) q ∧
      (format 126).missing? q.seen = none ∧ q.value = x := by
  obtain ⟨hms, p, hp, hcore⟩ := hs
  have hspec : (reader Json.openLimit).Specified (RecordOf (format 126)) := specified_reader 126
  have hvalue : Value p.core := hcore ▸ .object hms
  rw [decode, hp, hspec.exact.readAll_text_iff hvalue, hspec.takes_iff, hcore]
  exact Json.recordOf_objectText_iff hms

theorem exists_error {s : String} (h : ∀ x, decode s ≠ .ok x) : ∃ e, decode s = .error e := by
  cases hs : decode s with
  | error e => exact ⟨e, rfl⟩
  | ok x => exact absurd hs (h x)

/-- No object with a name that is not the text of a string is decoded. -/
theorem exists_error_of_key?_eq_none {s : String} {ms : List MemberText} (hs : IsObject s ms)
    {m : MemberText} (hm : m ∈ ms) (hkey : m.key? = none) : ∃ e, decode s = .error e := by
  refine exists_error fun x hx => ?_
  obtain ⟨q, hfills, -⟩ := (decode_isObject_iff hs).mp hx
  obtain ⟨key, hsome⟩ := hfills.exists_key m.content (List.mem_map_of_mem hm)
  cases hkey.symm.trans hsome

/-- Members in another order and members with other names change nothing. -/
theorem decode_of_perm {s s' : String} {ms ms' extra : List MemberText} {x : Item}
    (hs : IsObject s ms) (hx : decode s = .ok x) (hs' : IsObject s' ms')
    (hperm : (ms'.map MemberText.content).Perm ((ms ++ extra).map MemberText.content))
    (hextra : ∀ m ∈ extra, ∃ key, m.key? = some key ∧ key ∉ keys) : decode s' = .ok x := by
  obtain ⟨q, hfills, hmissing, hq⟩ := (decode_isObject_iff hs).mp hx
  have hignores : ∀ c ∈ extra.map MemberText.content, (format 126).Ignores c := by
    refine List.forall_mem_map.mpr fun m hm => ?_
    obtain ⟨key, hkey, hnot⟩ := hextra m hm
    refine ⟨⟨key, hkey, member?_eq_none_iff.mpr hnot⟩, ?_⟩
    have hmem : m.content ∈ ms'.map MemberText.content := by
      rw [hperm.mem_iff]
      exact List.mem_map_of_mem (List.mem_append_right ms hm)
    obtain ⟨m', hm', hcontent⟩ := List.mem_map.mp hmem
    rw [← hcontent]
    exact hs'.1 m' hm'
  have hperm' : (extra.map MemberText.content ++ ms.map MemberText.content).Perm
      (ms'.map MemberText.content) := by
    rw [← List.map_append]
    exact ((List.perm_append_comm.map _).trans hperm.symm)
  obtain ⟨q', hfills', hq'⟩ := (hfills.append_unknown hignores).perm (commutes_format 126) hperm'
  exact (decode_isObject_iff hs').mpr
    ⟨q', hfills', hq'.missing?_eq ▸ hmissing, hq'.value.symm.trans hq⟩

/-- An object in which a member is given twice is not decoded. -/
theorem exists_error_of_count {s : String} {ms : List MemberText} (hs : IsObject s ms)
    {key : String} (hkey : key ∈ keys) (hcount : 2 ≤ (ms.map MemberText.key?).count (some key)) :
    ∃ e, decode s = .error e := by
  refine exists_error fun x hx => ?_
  obtain ⟨q, hfills, -⟩ := (decode_isObject_iff hs).mp hx
  have hle := hfills.count_le_one (isSome_member?_iff.mpr hkey)
  rw [List.map_map] at hle
  have hfst : Prod.fst ∘ MemberText.content = MemberText.key? := rfl
  rw [hfst] at hle
  omega

/-! ### Image tags -/

/-- The member lists the given entries as image tags. -/
structure ListsTags (m : MemberText) (es : List MemberText) : Prop where
  /-- It has the name of the image tags. -/
  key : m.key? = some "ImageTags"
  /-- The values of the entries are well formed. -/
  values : ∀ e ∈ es, Value e.value.core
  /-- Its value is the object of the entries. -/
  core : m.value.core = Json.objectText es

/-- The entry gives a kind of image a tag. -/
structure GivesTag (e : MemberText) (kind tag : String) : Prop where
  /-- Its name is the kind. -/
  key : e.key? = some kind
  /-- Its value is the tag. -/
  value : Json.string.readAll e.value.core = .ok tag

theorem GivesTag.entryOf {e : MemberText} {kind tag : String} (h : GivesTag e kind tag)
    (hvalue : Value e.value.core) : Json.EntryOf Json.string e (kind, tag) :=
  ⟨h.key, (Json.exact_string.readAll_value_iff hvalue).mp h.value⟩

theorem takes_tags_iff {es : List MemberText} (hes : ∀ e ∈ es, Value e.value.core)
    {tags : ImageTags} : (ImageTags.reader 126).Takes (Json.objectText es) tags ↔
      ∃ entries, List.Forall₂ (Json.EntryOf Json.string) es entries ∧ tags = .ofList entries := by
  have hmap : (Json.map 126 Json.string).Specified (MapOf Json.string) :=
    Json.exact_string.specified_map_of
  have htags := (hmap.exact.specified_map ImageTags.ofList).takes_iff (v := Json.objectText es)
    (a := tags)
  refine htags.trans (exists_congr fun entries => and_congr_left' ?_)
  rw [hmap.takes_iff]
  exact ⟨MapOf.of_objectText hes, .members⟩

/-- Of the entries that are listed for a kind of image the last one counts. -/
theorem imageTag?_eq_lookup {s : String} {ms : List MemberText} {x : Item} (hs : IsObject s ms)
    (hx : decode s = .ok x) {m : MemberText} (hm : m ∈ ms) {es : List MemberText}
    (htags : ListsTags m es) :
    ∃ entries : List (String × String), List.Forall₂ (fun e p => GivesTag e p.1 p.2) es entries ∧
      ∀ kind, x.imageTag? kind = entries.reverse.lookup kind := by
  obtain ⟨q, hfills, -, rfl⟩ := (decode_isObject_iff hs).mp hx
  have hcontent : m.content = (some "ImageTags", Json.objectText es) :=
    Prod.ext htags.key htags.core
  have hmem : (some "ImageTags", Json.objectText es) ∈ ms.map MemberText.content := by
    rw [← hcontent]
    exact List.mem_map_of_mem hm
  obtain ⟨entries, hentries, heq⟩ :=
    (takes_tags_iff htags.values).mp (hfills.takes_of_mem (sets_imageTags 126) hmem)
  refine ⟨entries, hentries.imp fun e p he => ⟨he.1, he.2.readAll_value⟩, fun kind => ?_⟩
  rw [imageTag?, heq, ImageTags.get?_ofList]

/-- An entry behind the others is taken in place of any other for its kind. -/
theorem decode_append_tag {s s' : String} {ms ms' : List MemberText} {m m' : MemberText}
    {es : List MemberText} {e : MemberText} {kind tag : String} {x : Item}
    (hs : IsObject s (ms ++ m :: ms')) (hx : decode s = .ok x) (htags : ListsTags m es)
    (he : GivesTag e kind tag) (hs' : IsObject s' (ms ++ m' :: ms'))
    (htags' : ListsTags m' (es ++ [e])) :
    decode s' = .ok { x with imageTags := x.imageTags.insert kind tag } := by
  obtain ⟨q, hfills, hmissing, rfl⟩ := (decode_isObject_iff hs).mp hx
  have hcontent : m.content = (some "ImageTags", Json.objectText es) :=
    Prod.ext htags.key htags.core
  have hcontent' : m'.content = (some "ImageTags", Json.objectText (es ++ [e])) :=
    Prod.ext htags'.key htags'.core
  rw [List.map_append, List.map_cons, hcontent] at hfills
  obtain ⟨entries, hentries, heq⟩ := (takes_tags_iff htags.values).mp
    (hfills.takes_of_mem (sets_imageTags 126) (by simp))
  have hvalue : Value e.value.core := htags'.values e (by simp)
  have htakes := (takes_tags_iff htags'.values).mpr
    ⟨entries ++ [(kind, tag)], List.rel_append hentries (.cons (he.entryOf hvalue) .nil), rfl⟩
  have hmember : (format 126).member? "ImageTags" = some (.of "ImageTags" .optional
      (ImageTags.reader 126) fun imageTags i => { i with imageTags }) := rfl
  -- only the value of one member differs between the two texts
  obtain ⟨q', hfills', hq'⟩ := hfills.replace (commutes_format 126) (ImageTags.exact_reader 126)
    hmember (fun _ _ _ => rfl) htakes
  refine (decode_isObject_iff hs').mpr ⟨q', ?_, hq'.missing?_eq ▸ hmissing, ?_⟩
  · rwa [List.map_append, List.map_cons, hcontent']
  · rw [hq'.value, heq]
    simp [ImageTags.ofList]

/-! ### All together -/

/-- **What an object says of an item does not depend on the order of its members or on members with
other names, and nothing is said twice.** -/
theorem decode_members :
    (∀ s x, decode s = .ok x → (Json.skipBlanks s.toList).head? = some '{' →
      ∃ ms, IsObject s ms) ∧
    (∀ s ms x, IsObject s ms → decode s = .ok x → ∀ s' ms' extra, IsObject s' ms' →
      (ms'.map MemberText.content).Perm ((ms ++ extra).map MemberText.content) →
      (∀ m ∈ extra, ∃ key, m.key? = some key ∧ key ∉ keys) → decode s' = .ok x) ∧
    (∀ s ms, IsObject s ms → ∀ key ∈ keys, 2 ≤ (ms.map MemberText.key?).count (some key) →
      ∃ e, decode s = .error e) ∧
    (∀ s ms x, IsObject s ms → decode s = .ok x → ∀ m ∈ ms, ∀ es, ListsTags m es →
      ∃ entries : List (String × String),
        List.Forall₂ (fun e p => GivesTag e p.1 p.2) es entries ∧
          ∀ kind, x.imageTag? kind = entries.reverse.lookup kind) ∧
    ∀ s ms m ms' x, IsObject s (ms ++ m :: ms') → decode s = .ok x → ∀ es, ListsTags m es →
      ∀ e kind tag, GivesTag e kind tag → ∀ s' m', IsObject s' (ms ++ m' :: ms') →
        ListsTags m' (es ++ [e]) →
          decode s' = .ok { x with imageTags := x.imageTags.insert kind tag } :=
  ⟨fun _ _ h hs => exists_isObject h hs,
    fun _ _ _ hs hx _ _ _ hs' hperm hextra => decode_of_perm hs hx hs' hperm hextra,
    fun _ _ hs _ hkey hcount => exists_error_of_count hs hkey hcount,
    fun _ _ _ hs hx _ hm _ htags => imageTag?_eq_lookup hs hx hm htags,
    fun _ _ _ _ _ hs hx _ htags _ _ _ he _ _ hs' htags' =>
      decode_append_tag hs hx htags he hs' htags'⟩

/-- An identifier alone makes an item. -/
theorem decode_id_only {s : String} (id : String)
    (hs : IsObject s [.written "Id" (Json.writeString id)]) :
    decode s = .ok { blank with id } := by
  refine (decode_isObject_iff hs).mpr ⟨⟨{ blank with id }, ["Id"]⟩, ?_, rfl, rfl⟩
  rw [List.map_singleton, MemberText.content_written]
  exact (Fills.cons_iff Json.exact_string rfl).mpr ⟨nofun, id, Json.takes_writeString id, .done⟩

/-- An identifier and image tags make an item. -/
theorem decode_id_tags {s : String} (id : String) {m : MemberText} {es : List MemberText}
    {entries : List (String × String)}
    (hs : IsObject s [.written "Id" (Json.writeString id), m]) (htags : ListsTags m es)
    (hentries : List.Forall₂ (Json.EntryOf Json.string) es entries) :
    decode s = .ok { blank with id, imageTags := .ofList entries } := by
  have hcontent : m.content = (some "ImageTags", Json.objectText es) :=
    Prod.ext htags.key htags.core
  refine (decode_isObject_iff hs).mpr
    ⟨⟨{ blank with id, imageTags := .ofList entries }, ["ImageTags", "Id"]⟩, ?_, rfl, rfl⟩
  rw [List.map_cons, List.map_singleton, MemberText.content_written, hcontent]
  refine (Fills.cons_iff Json.exact_string rfl).mpr ⟨nofun, id, Json.takes_writeString id, ?_⟩
  exact (Fills.cons_iff (ImageTags.exact_reader 126) rfl).mpr
    ⟨by simp, _, (takes_tags_iff htags.values).mpr ⟨entries, hentries, rfl⟩, .done⟩

theorem isObject_writeObject (members : List (String × List Char)) (h : ∀ m ∈ members, Value m.2) :
    IsObject (String.ofList (Json.writeObject members))
      (members.map fun m => MemberText.written m.1 m.2) := by
  refine ⟨Json.values_written h, .tight (Json.writeObject members), ?_, Json.writeObject_eq members⟩
  rw [String.toList_ofList, Spaced.text_tight]

theorem listsTags_written {entries : List (String × List Char)} (h : ∀ e ∈ entries, Value e.2) :
    ListsTags (.written "ImageTags" (Json.writeObject entries))
      (entries.map fun e => .written e.1 e.2) where
  key := congrArg Prod.fst (MemberText.content_written _ _)
  values := Json.values_written h
  core := Json.writeObject_eq entries

theorem givesTag_written (kind tag : String) :
    GivesTag (.written kind (Json.writeString tag)) kind tag where
  key := congrArg Prod.fst (MemberText.content_written _ _)
  value := (Json.takes_writeString tag).readAll_value

theorem decode_members_repeated :
    decode (String.ofList (Json.writeObject
        [("Extra", Json.writeArray [Json.writeNull]), ("Id", Json.writeString "a")])) =
      .ok { blank with id := "a" } ∧
    (∃ e, decode (String.ofList (Json.writeObject
        [("Id", Json.writeString "a"), ("Id", Json.writeString "a")])) = .error e) ∧
    decode (String.ofList (Json.writeObject [("Id", Json.writeString "a"), ("ImageTags",
        Json.writeObject
          [("Primary", Json.writeString "p"), ("Primary", Json.writeString "q")])])) =
      .ok { blank with id := "a", imageTags := ⟨[("Primary", "q")], by simp⟩ } := by
  have hstring : ∀ s, Value (Json.writeString s) := fun s => (Json.takes_writeString s).value
  have hextra : Value (Json.writeArray [Json.writeNull]) := by
    rw [Json.writeArray_eq]
    exact .array (List.forall_mem_singleton.mpr .nullWord)
  have hid := isObject_writeObject [("Id", Json.writeString "a")]
    (List.forall_mem_singleton.mpr (hstring "a"))
  refine ⟨?_, ?_, ?_⟩
  · have hs' := isObject_writeObject
      [("Extra", Json.writeArray [Json.writeNull]), ("Id", Json.writeString "a")]
      (by simp [hextra, hstring])
    refine decode_members.2.1 _ _ _ hid (decode_id_only "a" hid) _ _
      [.written "Extra" (Json.writeArray [Json.writeNull])] hs' (.swap _ _ _) ?_
    have hcontent := MemberText.content_written "Extra" (Json.writeArray [Json.writeNull])
    exact List.forall_mem_singleton.mpr ⟨"Extra", congrArg Prod.fst hcontent, by decide⟩
  · have hs := isObject_writeObject [("Id", Json.writeString "a"), ("Id", Json.writeString "a")]
      (by simp [hstring])
    have hkey : (MemberText.written "Id" (Json.writeString "a")).key? = some "Id" :=
      congrArg Prod.fst (MemberText.content_written _ _)
    exact decode_members.2.2.1 _ _ hs "Id" (by decide) (by simp [hkey])
  · have htag : ∀ e ∈ [("Primary", Json.writeString "p")], Value e.2 := by simp [hstring]
    have htags : ∀ e ∈ [("Primary", Json.writeString "p"), ("Primary", Json.writeString "q")],
        Value e.2 := by simp [hstring]
    have hs := isObject_writeObject [("Id", Json.writeString "a"),
      ("ImageTags", Json.writeObject [("Primary", Json.writeString "p")])]
      (by simp [hstring, Json.value_writeObject htag])
    have hs' := isObject_writeObject [("Id", Json.writeString "a"), ("ImageTags",
      Json.writeObject [("Primary", Json.writeString "p"), ("Primary", Json.writeString "q")])]
      (by simp [hstring, Json.value_writeObject htags])
    have hentry := (givesTag_written "Primary" "p").entryOf (hstring "p")
    have hx := decode_id_tags "a" hs (listsTags_written htag) (.cons hentry .nil)
    exact decode_members.2.2.2.2 _ [_] _ [] _ hs hx _ (listsTags_written htag) _ "Primary" "q"
      (givesTag_written "Primary" "q") _ _ hs' (listsTags_written htags)

/-- A member whose name is half of a surrogate pair. -/
def halfNamed : MemberText where
  label := ⟨[], ['\\', 'u', 'd', '8', '3', '4'], [], .nil,
    .code (by decide) (by decide) (by decide) (by decide) .nil, .nil⟩
  value := .tight ['1']

theorem key?_halfNamed : halfNamed.key? = none := by
  have hchar : Json.readStringChar (halfNamed.label.chars ++ ['"']) =
      .error (.malformed .unpairedSurrogate) := rfl
  simp [MemberText.key?, Json.Label.key?, Json.readName, Json.readChars_of_error hchar]

/-- A member whose name is none of those of an item is not passed over if its name is not the text
of a string. -/
theorem decode_halfNamed :
    IsObject "\x7b\"Id\":\"a\"\x7d" [.written "Id" (Json.writeString "a")] ∧
      decode "\x7b\"Id\":\"a\"\x7d" = .ok { blank with id := "a" } ∧
      IsObject "\x7b\"Id\":\"a\",\"\\ud834\":1\x7d"
        [.written "Id" (Json.writeString "a"), halfNamed] ∧
      (∀ key ∈ keys, halfNamed.key? ≠ some key) ∧
      ∃ e, decode "\x7b\"Id\":\"a\",\"\\ud834\":1\x7d" = .error e := by
  have hid : Value (Json.writeString "a") := (Json.takes_writeString "a").value
  have hone : Value ['1'] := .numeral (Json.spells_writeNat false 1)
  have hs : IsObject "\x7b\"Id\":\"a\"\x7d" [.written "Id" (Json.writeString "a")] :=
    ⟨List.forall_mem_singleton.mpr hid, .tight _, rfl, rfl⟩
  have hs' : IsObject "\x7b\"Id\":\"a\",\"\\ud834\":1\x7d"
      [.written "Id" (Json.writeString "a"), halfNamed] :=
    ⟨List.forall_mem_cons.mpr ⟨hid, List.forall_mem_singleton.mpr hone⟩, .tight _, rfl, rfl⟩
  refine ⟨hs, decode_id_only "a" hs, hs', fun key _ => ?_, ?_⟩
  · rw [key?_halfNamed]
    nofun
  · exact exists_error_of_key?_eq_none hs' (by simp) key?_halfNamed

end Item

end MusicLibrary.Catalogue
