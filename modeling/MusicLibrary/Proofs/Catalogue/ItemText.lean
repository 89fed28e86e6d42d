import MusicLibrary.Proofs.Catalogue.Reading
import MusicLibrary.Proofs.Catalogue.ImageTags

/-!
# Items, written and read back

An item whose kinds are ones that decoding gives is the one that its text is decoded to, in whatever
order the entries of its image tags are written, and the names that a server gives its kinds are the
ones that are written again (`Item.decode_encode`).
-/

namespace MusicLibrary.Catalogue

open MusicLibrary.Json (Fills Gives MapOf Member NullableOf RecordFormat RecordOf Spaced Value)

/-! ### Kinds -/

theorem ItemKind.name_ofName (name : String) : (ofName name).name = name := by
  unfold ofName
  split_ifs with h h h h <;> first | exact h.symm | rfl

theorem CollectionKind.name_ofName (name : String) : (ofName name).name = name := by
  unfold ofName
  split_ifs with h h h <;> first | exact h.symm | rfl

theorem MediumKind.name_ofName (name : String) : (ofName name).name = name := by
  unfold ofName
  split_ifs with h h <;> first | exact h.symm | rfl

/-- The kind is the one that its name is decoded to: it is not an `other` with the name of a kind
that has a constructor of its own. -/
def ItemKind.Canonical (k : ItemKind) : Prop := ofName k.name = k

/-- What a library holds is what its name is decoded to. -/
def CollectionKind.Canonical (k : CollectionKind) : Prop := ofName k.name = k

/-- What an item plays is what its name is decoded to. -/
def MediumKind.Canonical (k : MediumKind) : Prop := ofName k.name = k

/-- A name is read as the kind that it stands for. -/
theorem takes_named {α : Type} {ofName : String → α} {v : List Char} {k : α} :
    (Json.string.map ofName).Takes v k ↔ ∃ name, Json.string.Takes v name ∧ k = ofName name :=
  (Json.exact_string.specified_map ofName).takes_iff

/-- A name is read as a kind that is the one of its own name. -/
theorem ofName_name_of_takes {α : Type} {ofName : String → α} {name : α → String}
    (hname : ∀ s, name (ofName s) = s) {v : List Char} {o : Option α}
    (h : (Json.nullable (Json.string.map ofName)).Takes v o) : ∀ k ∈ o, ofName (name k) = k := by
  have hexact : (Json.string.map ofName).Exact := (Json.exact_string.specified_map ofName).exact
  rintro k rfl
  obtain _ | ⟨-, htakes⟩ := hexact.specified_nullable.takes_iff.mp h
  obtain ⟨s, -, rfl⟩ := takes_named.mp htakes
  rw [hname]

theorem exists_of_takes_nullable {α : Type} {ofName : String → α} {v : List Char} {o : Option α}
    (h : (Json.nullable (Json.string.map ofName)).Takes v o) (hv : v ≠ Json.writeNull) :
    ∃ name, Json.string.readAll v = .ok name ∧ o = some (ofName name) := by
  have hexact : (Json.string.map ofName).Exact := (Json.exact_string.specified_map ofName).exact
  obtain _ | ⟨-, htakes⟩ := hexact.specified_nullable.takes_iff.mp h
  · exact absurd rfl hv
  · obtain ⟨name, hname, rfl⟩ := takes_named.mp htakes
    exact ⟨name, hname.readAll_value, rfl⟩

theorem eq_none_of_takes_null {α : Type} {ofName : String → α} {o : Option α}
    (h : (Json.nullable (Json.string.map ofName)).Takes Json.writeNull o) : o = none := by
  have hexact : (Json.string.map ofName).Exact := (Json.exact_string.specified_map ofName).exact
  exact h.unique (hexact.specified_nullable.complete .null)

theorem writeString_ne_null (s : String) : Json.writeString s ≠ Json.writeNull := by
  intro h
  cases (List.cons_eq_cons.mp h).1

namespace MediaFile

/-- A file is read back. -/
theorem takes_write (n : ℕ) (f : MediaFile) : (reader (n + 1)).Takes f.write f := by
  have hoption := Json.exact_string.specified_nullable.exact
  have htakes : ∀ o : Option String,
      (Json.nullable Json.string).Takes (Json.writeNullable Json.writeString o) o := fun o =>
    Json.takes_writeNullable Json.exact_string fun s _ =>
      ⟨Json.takes_writeString s, writeString_ne_null s⟩
  have hspec : (reader (n + 1)).Specified (RecordOf format) := exact_format.specified_record
  refine Json.takes_writeObject (q := ⟨f, ["Container", "Path", "Id"]⟩) hspec ?_ rfl
  simp only [List.map_cons, List.map_nil]
  refine (Fills.cons_iff hoption rfl).mpr ⟨nofun, f.id, htakes _, ?_⟩
  refine (Fills.cons_iff hoption rfl).mpr ⟨by simp, f.path, htakes _, ?_⟩
  exact (Fills.cons_iff hoption rfl).mpr ⟨by simp, f.container, htakes _, .done⟩

end MediaFile

/-- Image tags are read from their entries in any order. -/
theorem ImageTags.takes_entries (n : ℕ) (tags : ImageTags) {entries : List (String × String)}
    (h : entries.Perm tags.entries) : (reader (n + 1)).Takes
      (Json.writeObject (entries.map fun e => (e.1, Json.writeString e.2))) tags := by
  have hentries : List.Forall₂ (Json.EntryOf Json.string)
      (entries.map fun e => Json.MemberText.written e.1 (Json.writeString e.2)) entries := by
    rw [List.forall₂_map_left_iff, List.forall₂_same]
    rintro ⟨kind, tag⟩ -
    have hcontent := Json.MemberText.content_written kind (Json.writeString tag)
    exact ⟨congrArg Prod.fst hcontent, Json.takes_writeString tag⟩
  have hmap : (Json.map (n + 1) Json.string).Takes
      (Json.writeObject (entries.map fun e => (e.1, Json.writeString e.2))) entries := by
    rw [Json.writeObject_eq, List.map_map]
    exact Json.exact_string.specified_map_of.complete (.members hentries)
  exact (Json.exact_string.specified_map_of.exact.specified_map ofList).complete
    ⟨entries, hmap, (ofList_perm h).symm⟩

namespace Item

/-- The members of an item in JSON, the image tags listed in the order of `entries`. -/
def writtenMembers (entries : List (String × String)) (i : Item) : List (String × List Char) :=
  [("Id", Json.writeString i.id),
    ("Name", Json.writeString i.name),
    ("Type", i.kind.write),
    ("CollectionType", Json.writeNullable CollectionKind.write i.collection),
    ("IndexNumber", Json.writeNullable (fun n => Json.writeNat n.toNat) i.indexNumber),
    ("ImageTags", Json.writeObject (entries.map fun e => (e.1, Json.writeString e.2))),
    ("MediaType", Json.writeNullable MediumKind.write i.medium),
    ("MediaSources", Json.writeArray (i.files.map MediaFile.write))]

/-- The text of an item, the image tags listed in the order of `entries`. -/
def encodeWith (entries : List (String × String)) (i : Item) : String :=
  String.ofList (Json.writeObject (i.writtenMembers entries))

/-- An item is written with its image tags in ascending order. -/
theorem encode_eq (i : Item) : i.encode = i.encodeWith i.imageTags.entries := rfl

/-- The kinds of an item are ones that decoding gives. -/
structure Canonical (i : Item) : Prop where
  /-- What it is. -/
  kind : i.kind.Canonical
  /-- What it holds. -/
  collection : ∀ k ∈ i.collection, k.Canonical
  /-- What it plays. -/
  medium : ∀ k ∈ i.medium, k.Canonical

theorem takes_collection {o : Option CollectionKind} (h : ∀ k ∈ o, k.Canonical) :
    (Json.nullable CollectionKind.reader).Takes (Json.writeNullable CollectionKind.write o) o :=
  Json.takes_writeNullable CollectionKind.exact_reader fun k hk =>
    ⟨takes_named.mpr ⟨k.name, Json.takes_writeString k.name, (h k hk).symm⟩,
      writeString_ne_null k.name⟩

theorem takes_medium {o : Option MediumKind} (h : ∀ k ∈ o, k.Canonical) :
    (Json.nullable MediumKind.reader).Takes (Json.writeNullable MediumKind.write o) o :=
  Json.takes_writeNullable MediumKind.exact_reader fun k hk =>
    ⟨takes_named.mpr ⟨k.name, Json.takes_writeString k.name, (h k hk).symm⟩,
      writeString_ne_null k.name⟩

theorem takes_files (n : ℕ) (files : List MediaFile) :
    (Json.array (n + 2) fun m _ => MediaFile.reader m).Takes
      (Json.writeArray (files.map MediaFile.write)) files := by
  rw [Json.writeArray_eq, List.map_map]
  refine (MediaFile.exact_reader (n + 1)).specified_array.complete (.elements ?_)
  rw [List.forall₂_map_left_iff, List.forall₂_same]
  exact fun f _ => MediaFile.takes_write n f

theorem value_writtenMembers (entries : List (String × String)) (i : Item) :
    ∀ m ∈ i.writtenMembers entries, Value m.2 := by
  have hstring : ∀ s, Value (Json.writeString s) := fun s => (Json.takes_writeString s).value
  simp only [writtenMembers, List.forall_mem_cons]
  exact ⟨hstring i.id, hstring i.name, hstring i.kind.name,
    Json.value_writeNullable fun k _ => hstring k.name,
    (takes_writeNullableNat i.indexNumber).value,
    Json.value_writeObject (List.forall_mem_map.mpr fun e _ => hstring e.2),
    Json.value_writeNullable fun k _ => hstring k.name, (takes_files 0 i.files).value, nofun⟩

/-- An item whose kinds are canonical is read back, at any depth that leaves room for its parts. -/
theorem takes_writtenMembers (n : ℕ) {i : Item} (hi : i.Canonical)
    {entries : List (String × String)} (hentries : entries.Perm i.imageTags.entries) :
    (reader (n + 3)).Takes (Json.writeObject (i.writtenMembers entries)) i := by
  have hid := Json.takes_writeString i.id
  have hname := Json.takes_writeString i.name
  have hkind : ItemKind.reader.Takes i.kind.write i.kind :=
    takes_named.mpr ⟨_, Json.takes_writeString _, hi.kind.symm⟩
  have hcollection := takes_collection hi.collection
  have hnumber := takes_writeNullableNat i.indexNumber
  have htags := ImageTags.takes_entries (n + 1) i.imageTags hentries
  have hmedium := takes_medium hi.medium
  have hfiles := takes_files n i.files
  refine Json.takes_writeObject (q := ⟨i, ["MediaSources", "MediaType", "ImageTags", "IndexNumber",
    "CollectionType", "Type", "Name", "Id"]⟩) (specified_reader (n + 2)) ?_ rfl
  simp only [writtenMembers, List.map_cons, List.map_nil]
  refine (Fills.cons_iff Json.exact_string rfl).mpr ⟨nofun, i.id, hid, ?_⟩
  refine (Fills.cons_iff Json.exact_string rfl).mpr ⟨by simp, i.name, hname, ?_⟩
  refine (Fills.cons_iff ItemKind.exact_reader rfl).mpr ⟨by simp, i.kind, hkind, ?_⟩
  refine (Fills.cons_iff CollectionKind.exact_reader.specified_nullable.exact rfl).mpr
    ⟨by simp, i.collection, hcollection, ?_⟩
  refine (Fills.cons_iff Json.exact_word32.specified_nullable.exact rfl).mpr
    ⟨by simp, i.indexNumber, hnumber, ?_⟩
  refine (Fills.cons_iff (ImageTags.exact_reader (n + 2)) rfl).mpr
    ⟨by simp, i.imageTags, htags, ?_⟩
  refine (Fills.cons_iff MediumKind.exact_reader.specified_nullable.exact rfl).mpr
    ⟨by simp, i.medium, hmedium, ?_⟩
  exact (Fills.cons_iff (exact_files (n + 2)) rfl).mpr ⟨by simp, i.files, hfiles, .done⟩

/-- Decoding gives canonical kinds only. -/
theorem canonical_of_decode {s : String} {x : Item} (h : decode s = .ok x) : x.Canonical := by
  obtain ⟨p, -, hof⟩ := decode_eq_ok_iff.mp h
  have hdistinct := distinct_format 126
  refine ⟨?_, ?_, ?_⟩
  · rcases hof.takes_or_blank hdistinct (sets_kind 126) with ⟨w, hw⟩ | hblank
    · obtain ⟨name, -, hkind⟩ := takes_named.mp hw
      rw [hkind, ItemKind.Canonical, ItemKind.name_ofName]
    · rw [hblank]
      rfl
  · rcases hof.takes_or_blank hdistinct (sets_collection 126) with ⟨w, hw⟩ | hblank
    · exact ofName_name_of_takes CollectionKind.name_ofName hw
    · rw [hblank]
      nofun
  · rcases hof.takes_or_blank hdistinct (sets_medium 126) with ⟨w, hw⟩ | hblank
    · exact ofName_name_of_takes MediumKind.name_ofName hw
    · rw [hblank]
      nofun

/-- The text gives the member `name` of an item the value `v`. -/
def Gives (s : String) (name : String) (v : List Char) : Prop :=
  Json.Gives (format 126) s.toList name v

/-- What a member sets is what the value is read as that the text gives it. -/
theorem takes_of_gives {α : Type} {y : Json.Reader α} {π : Item → α} {s name : String} {x : Item}
    {v : List Char} (h : decode s = .ok x) (hsets : (format 126).Sets name y π)
    (hgives : Gives s name v) : y.Takes v (π x) := by
  obtain ⟨p, hp, hof⟩ := decode_eq_ok_iff.mp h
  rw [Gives, hp] at hgives
  exact hof.takes_of_gives (distinct_format 126) hsets hgives

theorem gives_encode_iff {x : Item} {name : String} {w : List Char} : Gives x.encode name w ↔
    (name, w) ∈ x.writtenMembers x.imageTags.entries := by
  have htold := Json.told_writeObject (format 126)
    (value_writtenMembers x.imageTags.entries x)
  rw [Gives, encode_eq, encodeWith, String.toList_ofList, ← Spaced.text_tight (Json.writeObject _),
    Json.gives_iff htold]
  simp

theorem gives_encode_kind {x : Item} {w : List Char} :
    Gives x.encode "Type" w ↔ w = Json.writeString x.kind.name := by
  simp [gives_encode_iff, writtenMembers, ItemKind.write]

theorem gives_encode_collection {x : Item} {w : List Char} : Gives x.encode "CollectionType" w ↔
    w = Json.writeNullable CollectionKind.write x.collection := by
  simp [gives_encode_iff, writtenMembers]

theorem gives_encode_medium {x : Item} {w : List Char} : Gives x.encode "MediaType" w ↔
    w = Json.writeNullable MediumKind.write x.medium := by
  simp [gives_encode_iff, writtenMembers]

/-- An item is decoded from its text, in whatever order its image tags are written. -/
theorem decode_encodeWith {i : Item} (hi : i.Canonical) {entries : List (String × String)}
    (hentries : entries.Perm i.imageTags.entries) : decode (i.encodeWith entries) = .ok i := by
  rw [decode, encodeWith, String.toList_ofList]
  exact (takes_writtenMembers 124 hi hentries).readAll_value

/-- The name that a text gives a kind is the one that is written. -/
theorem encode_gives_name {s : String} {x : Item} (h : decode s = .ok x) {name : String}
    (hname : name ∈ ["Type", "CollectionType", "MediaType"]) {v : List Char}
    (hgives : Gives s name v) (hv : v ≠ Json.writeNull) : ∃ a, Json.string.readAll v = .ok a ∧
      ∀ w, Gives x.encode name w ↔ w = Json.writeString a := by
  simp only [List.mem_cons, List.not_mem_nil, or_false] at hname
  rcases hname with rfl | rfl | rfl
  · obtain ⟨a, ha, hkind⟩ := takes_named.mp (takes_of_gives h (sets_kind 126) hgives)
    refine ⟨a, ha.readAll_value, fun w => ?_⟩
    rw [gives_encode_kind, hkind, ItemKind.name_ofName]
  · have htakes := takes_of_gives h (sets_collection 126) hgives
    obtain ⟨a, ha, hcollection⟩ := exists_of_takes_nullable htakes hv
    refine ⟨a, ha, fun w => ?_⟩
    rw [gives_encode_collection, hcollection, Json.writeNullable, CollectionKind.write,
      CollectionKind.name_ofName]
  · have htakes := takes_of_gives h (sets_medium 126) hgives
    obtain ⟨a, ha, hmedium⟩ := exists_of_takes_nullable htakes hv
    refine ⟨a, ha, fun w => ?_⟩
    rw [gives_encode_medium, hmedium, Json.writeNullable, MediumKind.write, MediumKind.name_ofName]

theorem eq_none_of_gives_null {α : Type} {ofName : String → α} {name : String}
    {π : Item → Option α} (hblank : π blank = none) {p : Spaced} {x : Item}
    (hof : RecordOf (format 126) p.core x)
    (hsets : (format 126).Sets name (Json.nullable (Json.string.map ofName)) π)
    (hgives : ∀ v, Json.Gives (format 126) p.text name v → v = Json.writeNull) : π x = none := by
  by_cases hgiven : ∃ v, Json.Gives (format 126) p.text name v
  · obtain ⟨v, hv⟩ := hgiven
    have htakes := hof.takes_of_gives (distinct_format 126) hsets hv
    rw [hgives v hv] at htakes
    exact eq_none_of_takes_null htakes
  · rw [hof.eq_blank (distinct_format 126) hsets (not_exists.mp hgiven)]
    exact hblank

/-- A kind that a text does not give is written as `null`. -/
theorem encode_gives_null {s : String} {x : Item} (h : decode s = .ok x) {name : String}
    (hname : name ∈ ["CollectionType", "MediaType"])
    (hgives : ∀ v, Gives s name v → v = Json.writeNull) (w : List Char) :
    Gives x.encode name w ↔ w = Json.writeNull := by
  obtain ⟨p, hp, hof⟩ := decode_eq_ok_iff.mp h
  simp only [Gives, hp] at hgives
  simp only [List.mem_cons, List.not_mem_nil, or_false] at hname
  rcases hname with rfl | rfl
  · have hnone : x.collection = none := eq_none_of_gives_null rfl hof (sets_collection 126) hgives
    rw [gives_encode_collection, hnone, Json.writeNullable]
  · have hnone : x.medium = none := eq_none_of_gives_null rfl hof (sets_medium 126) hgives
    rw [gives_encode_medium, hnone, Json.writeNullable]

/-- **Items survive being written and read, and no classification is lost.** -/
theorem decode_encode :
    (∀ i : Item, i.Canonical → ∀ entries : List (String × String),
      entries.Perm i.imageTags.entries → decode (i.encodeWith entries) = .ok i) ∧
    ∀ s x, decode s = .ok x → decode x.encode = .ok x ∧
      (∀ name ∈ ["Type", "CollectionType", "MediaType"], ∀ v, Gives s name v →
        v ≠ Json.writeNull → ∃ a, Json.string.readAll v = .ok a ∧
          ∀ w, Gives x.encode name w ↔ w = Json.writeString a) ∧
      ∀ name ∈ ["CollectionType", "MediaType"], (∀ v, Gives s name v → v = Json.writeNull) →
        ∀ w, Gives x.encode name w ↔ w = Json.writeNull := by
  refine ⟨fun i hi entries hentries => decode_encodeWith hi hentries, fun s x h => ⟨?_, ?_, ?_⟩⟩
  · rw [encode_eq]
    exact decode_encodeWith (canonical_of_decode h) (.refl _)
  · exact fun name hname v hgives hv => encode_gives_name h hname hgives hv
  · exact fun name hname hgives => encode_gives_null h hname hgives

/-- A book that is listened to, with images of two kinds. -/
def audiobook : Item where
  id := "a1"
  name := "Chapter One"
  kind := .other "AudioBook"
  collection := some (.other "books")
  indexNumber := some 3
  imageTags := ⟨[("Art", "q"), ("Primary", "p")], by decide⟩
  medium := none
  files := [⟨some "f", none, none⟩]

theorem decode_encode_audiobook :
    decode (audiobook.encodeWith [("Primary", "p"), ("Art", "q")]) = .ok audiobook ∧
    decode audiobook.encode = .ok audiobook ∧
    (∃ a, Json.string.readAll (Json.writeString "AudioBook") = .ok a ∧
      ∀ w, Gives audiobook.encode "Type" w ↔ w = Json.writeString a) ∧
    ∀ w, Gives audiobook.encode "MediaType" w ↔ w = Json.writeNull := by
  have hcanonical : audiobook.Canonical := ⟨rfl, by simp [audiobook]; rfl, nofun⟩
  have hswap := decode_encode.1 audiobook hcanonical _ (.swap _ _ _)
  have hsame := decode_encode.1 audiobook hcanonical _ (.refl _)
  have hread := decode_encode.2 _ _ hsame
  refine ⟨hswap, hread.1, ?_, ?_⟩
  · exact hread.2.1 "Type" (by simp) _ (gives_encode_kind.mpr rfl) (writeString_ne_null _)
  · exact hread.2.2 "MediaType" (by simp) fun v hv => gives_encode_medium.mp hv

end Item

end MusicLibrary.Catalogue
