import MusicLibrary.Catalogue.Item
import MusicLibrary.Proofs.Json.Written

/-!
# How items are read

The members of files, items and listings are read exactly. Each member of an item (`Item.Field`)
sets an aspect of its own, so that they may be given in any order. How deep an item stands in a text
does not matter as long as its own arrays and objects may be opened (`Item.reader_eq`).
-/

namespace MusicLibrary.Catalogue

open MusicLibrary.Json (Member RecordFormat RecordOf Spaced)

/-- A number that may be absent is read back. -/
theorem takes_writeNullableNat (o : Option UInt32) : (Json.nullable Json.word32).Takes
    (Json.writeNullable (fun n => Json.writeNat n.toNat) o) o := by
  refine Json.takes_writeNullable Json.exact_word32 fun n _ => ⟨Json.takes_writeNat n, ?_⟩
  intro hnull
  have hdigits := Json.digits_writeNat n.toNat
  rw [hnull] at hdigits
  exact absurd (hdigits 'n' (by decide)) (by decide)

theorem ItemKind.exact_reader : reader.Exact := (Json.exact_string.specified_map ofName).exact

theorem CollectionKind.exact_reader : reader.Exact := (Json.exact_string.specified_map ofName).exact

theorem MediumKind.exact_reader : reader.Exact := (Json.exact_string.specified_map ofName).exact

theorem ImageTags.exact_reader (opens : ℕ) : (reader opens).Exact :=
  ((Json.exact_string.map_of opens).specified_map ofList).exact

namespace MediaFile

theorem exact_format : format.Exact := by
  have hoption := Json.exact_string.specified_nullable.exact
  simp only [RecordFormat.Exact, format, List.forall_mem_cons]
  exact ⟨Member.exact_of hoption, Member.exact_of hoption, Member.exact_of hoption,
    List.forall_mem_nil _⟩

theorem exact_reader (opens : ℕ) : (reader opens).Exact :=
  RecordFormat.exact_record fun _ _ => exact_format

end MediaFile

namespace Item

theorem exact_files (opens : ℕ) : (Json.array opens fun n _ => MediaFile.reader n).Exact := by
  cases opens with
  | zero => exact Json.exact_array_zero
  | succ n => exact (MediaFile.exact_reader n).specified_array.exact

/-- The members of an item. -/
inductive Field where
  /-- The identifier. -/
  | id
  /-- The name. -/
  | name
  /-- The kind. -/
  | kind
  /-- What a library holds. -/
  | collection
  /-- The number within the album. -/
  | indexNumber
  /-- The tags of the images. -/
  | imageTags
  /-- What an item plays. -/
  | medium
  /-- The files. -/
  | files

namespace Field

/-- What an item has under a member. -/
abbrev Value : Field → Type
  | id | name => String
  | kind => ItemKind
  | collection => Option CollectionKind
  | indexNumber => Option UInt32
  | imageTags => ImageTags
  | medium => Option MediumKind
  | files => List MediaFile

/-- The name of a member in an object. -/
def key : Field → String
  | id => "Id"
  | name => "Name"
  | kind => "Type"
  | collection => "CollectionType"
  | indexNumber => "IndexNumber"
  | imageTags => "ImageTags"
  | medium => "MediaType"
  | files => "MediaSources"

/-- Where a member may be left out. -/
def presence : Field → Json.Presence
  | id => .required
  | _ => .optional

/-- How a member is read. -/
def reader (opens : ℕ) : (f : Field) → Json.Reader f.Value
  | id | name => Json.string
  | kind => ItemKind.reader
  | collection => Json.nullable CollectionKind.reader
  | indexNumber => Json.nullable Json.word32
  | imageTags => ImageTags.reader opens
  | medium => Json.nullable MediumKind.reader
  | files => Json.array opens fun n _ => MediaFile.reader n

/-- What an item has under the member. -/
def get : (f : Field) → Item → f.Value
  | id => Item.id
  | name => Item.name
  | kind => Item.kind
  | collection => Item.collection
  | indexNumber => Item.indexNumber
  | imageTags => Item.imageTags
  | medium => Item.medium
  | files => Item.files

/-- The item with something else under the member. -/
def put : (f : Field) → f.Value → Item → Item
  | id => fun id i => { i with id }
  | name => fun name i => { i with name }
  | kind => fun kind i => { i with kind }
  | collection => fun collection i => { i with collection }
  | indexNumber => fun indexNumber i => { i with indexNumber }
  | imageTags => fun imageTags i => { i with imageTags }
  | medium => fun medium i => { i with medium }
  | files => fun files i => { i with files }

/-- All members in their order. -/
def all : List Field := [id, name, kind, collection, indexNumber, imageTags, medium, files]

/-- The member as it is read and stored. -/
def member (opens : ℕ) (f : Field) : Member Item :=
  .of f.key f.presence (f.reader opens) f.put

theorem exists_eq_member {opens : ℕ} {m : Member Item} (hm : m ∈ (format opens).members) :
    ∃ f : Field, m = f.member opens := by
  have hmembers : (format opens).members = all.map (member opens) := rfl
  rw [hmembers] at hm
  obtain ⟨f, -, rfl⟩ := List.mem_map.mp hm
  exact ⟨f, rfl⟩

theorem member?_key (opens : ℕ) (f : Field) :
    (format opens).member? f.key = some (f.member opens) := by
  cases f <;> rfl

theorem exact_reader (opens : ℕ) (f : Field) : (f.reader opens).Exact := by
  cases f with
  | id => exact Json.exact_string
  | name => exact Json.exact_string
  | kind => exact ItemKind.exact_reader
  | collection => exact CollectionKind.exact_reader.specified_nullable.exact
  | indexNumber => exact Json.exact_word32.specified_nullable.exact
  | imageTags => exact ImageTags.exact_reader opens
  | medium => exact MediumKind.exact_reader.specified_nullable.exact
  | files => exact exact_files opens

theorem get_put (f : Field) (b : f.Value) (i : Item) : f.get (f.put b i) = b := by
  cases f <;> rfl

theorem get_put_of_ne {f g : Field} (h : f ≠ g) (b : g.Value) (i : Item) :
    f.get (g.put b i) = f.get i := by
  cases f <;> cases g <;> first | rfl | exact absurd rfl h

theorem put_put_of_ne {f g : Field} (h : f ≠ g) (b : f.Value) (c : g.Value) (i : Item) :
    f.put b (g.put c i) = g.put c (f.put b i) := by
  cases f <;> cases g <;> first | rfl | exact absurd rfl h

end Field

/-- The members of an item are read exactly. -/
theorem exact_format (opens : ℕ) : (format opens).Exact := by
  intro m hm
  obtain ⟨f, rfl⟩ := Field.exists_eq_member hm
  exact Member.exact_of (f.exact_reader opens)

theorem specified_reader (n : ℕ) : (reader (n + 1)).Specified (RecordOf (format n)) :=
  (exact_format n).specified_record

theorem distinct_format (opens : ℕ) : (format opens).Distinct := by
  show ["Id", "Name", "Type", "CollectionType", "IndexNumber", "ImageTags", "MediaType",
    "MediaSources"].Nodup
  decide

/-- What members of an item say may be said in any order. -/
theorem commutes_format (opens : ℕ) : (format opens).Commutes := by
  intro m hm m' hm' hname
  obtain ⟨f, rfl⟩ := Field.exists_eq_member hm
  obtain ⟨g, rfl⟩ := Field.exists_eq_member hm'
  have hne : f ≠ g := fun e => hname (congrArg Field.key e)
  exact Member.commute_of (Field.put_put_of_ne hne)

/-- A member sets what an item has under it, and no other member does. -/
theorem sets_field (opens : ℕ) (f : Field) :
    (format opens).Sets f.key (f.reader opens) f.get := by
  refine RecordFormat.sets_of (f.exact_reader opens) (f.member?_key opens) f.get_put ?_
  intro m hm hname
  obtain ⟨g, rfl⟩ := Field.exists_eq_member hm
  have hne : f ≠ g := fun e => hname (congrArg Field.key e.symm)
  exact Member.keeps_of (Field.get_put_of_ne hne)

theorem sets_kind (opens : ℕ) : (format opens).Sets "Type" ItemKind.reader kind :=
  sets_field opens .kind

theorem sets_collection (opens : ℕ) :
    (format opens).Sets "CollectionType" (Json.nullable CollectionKind.reader) collection :=
  sets_field opens .collection

theorem sets_indexNumber (opens : ℕ) :
    (format opens).Sets "IndexNumber" (Json.nullable Json.word32) indexNumber :=
  sets_field opens .indexNumber

theorem sets_imageTags (opens : ℕ) :
    (format opens).Sets "ImageTags" (ImageTags.reader opens) imageTags :=
  sets_field opens .imageTags

theorem sets_medium (opens : ℕ) :
    (format opens).Sets "MediaType" (Json.nullable MediumKind.reader) medium :=
  sets_field opens .medium

/-- An item is read in the same way wherever it may open three arrays and objects: itself, its files
and each of them. -/
theorem reader_eq (n : ℕ) : reader (n + 3) = reader 3 := by
  have hfile : MediaFile.reader (n + 1) = MediaFile.reader 1 := Json.record_congr _ rfl
  have hfiles : (Json.array (n + 2) fun m _ => MediaFile.reader m) =
      Json.array 2 fun m _ => MediaFile.reader m := Json.array_congr hfile
  have htags : ImageTags.reader (n + 2) = ImageTags.reader 2 :=
    congrArg (Json.Reader.map ImageTags.ofList) (Json.map_succ_eq (n + 1) 1 Json.string)
  have hformat : format (n + 2) = format 2 := by rw [format, hfiles, htags, ← format]
  exact Json.record_congr _ hformat

/-- A text that is decoded holds an item. -/
theorem decode_eq_ok_iff {s : String} {x : Item} :
    decode s = .ok x ↔ ∃ p : Spaced, s.toList = p.text ∧ RecordOf (format 126) p.core x := by
  have hspec : (reader Json.openLimit).Specified (RecordOf (format 126)) := specified_reader 126
  simp only [decode, hspec.exact.readAll_iff, hspec.takes_iff]

end Item

end MusicLibrary.Catalogue
