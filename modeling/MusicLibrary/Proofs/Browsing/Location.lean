import MusicLibrary.Browsing.Location
import MusicLibrary.Proofs.Http.Parts

/-!
# What the addresses of images and streams say

The identifiers of items, users and devices, the tags of images and the token are put into these
addresses as they are. An address says what is meant if and only if all of them are plain where they
stand (`Session.locations_read_back_iff`). The address of an image still tells its item and its tag
apart unless one of them holds the very text that stands between them.
-/

namespace MusicLibrary.Session

open Catalogue
open Http (Parts Plain PlainParameter)

/-! ### A mark between two texts -/

/-- No beginning of the text is an end of it, but for the empty text and the text itself. -/
def Unbordered (mark : List Char) : Prop := ∀ t, t <+: mark → t <:+ mark → t = [] ∨ t = mark

theorem exists_of_mark_append {mark x s t : List Char} (hmark : Unbordered mark) (hx : x ≠ [])
    (h : mark ++ s = x ++ (mark ++ t)) : ∃ y, x = mark ++ y ∧ s = y ++ (mark ++ t) := by
  rcases List.append_eq_append_iff.mp h with hlong | ⟨border, hend, hstart⟩
  · exact hlong
  · have hbegins : border <+: mark := by
      refine List.prefix_of_prefix_length_le ⟨s, hstart.symm⟩ ⟨t, rfl⟩ ?_
      rw [hend, List.length_append]
      omega
    rcases hmark border hbegins ⟨x, hend.symm⟩ with rfl | rfl
    · exact ⟨[], by rw [hend, List.append_nil, List.append_nil], hstart.symm⟩
    · exact absurd (List.self_eq_append_left.mp hend) hx

/-- Two texts with a mark between them are other two texts with the mark between them if and only if
one of them holds the mark. -/
theorem exists_ne_append_mark_iff {mark s t : List Char} (hmark : Unbordered mark)
    (hne : mark ≠ []) :
    (∃ s' t', (s', t') ≠ (s, t) ∧ s' ++ (mark ++ t') = s ++ (mark ++ t)) ↔
      mark <:+: s ∨ mark <:+: t := by
  constructor
  · rintro ⟨s', t', hpair, h⟩
    rcases List.append_eq_append_iff.mp h with ⟨x, rfl, hx⟩ | ⟨x, rfl, hx⟩
    · have hx0 : x ≠ [] := by
        rintro rfl
        exact hpair (by simp_all)
      obtain ⟨y, rfl, -⟩ := exists_of_mark_append hmark hx0 hx
      exact .inl ⟨s', y, by simp⟩
    · have hx0 : x ≠ [] := by
        rintro rfl
        exact hpair (by simp_all)
      obtain ⟨y, -, rfl⟩ := exists_of_mark_append hmark hx0 hx
      exact .inr ⟨y, t', by simp⟩
  · rintro (⟨x, y, rfl⟩ | ⟨x, y, rfl⟩)
    · refine ⟨x, y ++ (mark ++ t), fun h => hne ?_, by simp⟩
      have hx := congrArg List.length (Prod.mk.inj h).1
      simp only [List.length_append] at hx
      exact List.eq_nil_of_length_eq_zero (by omega)
    · refine ⟨s ++ (mark ++ x), y, fun h => hne ?_, by simp⟩
      have hx := congrArg List.length (Prod.mk.inj h).1
      simp only [List.length_append] at hx
      exact List.eq_nil_of_length_eq_zero (by omega)

/-! ### What is meant -/

/-- What the address of a stream is to say. -/
def streamParts (s : Session) (id : String) : Parts where
  segments := ["Audio", id, "universal"]
  parameters := [("UserId", s.userId), ("DeviceId", s.deviceId), ("api_key", s.accessToken),
    ("MaxStreamingBitrate", "140000000")]

/-- What the address of an image is to say. -/
def thumbnailParts (s : Session) (id tag : String) : Parts where
  segments := ["Items", id, "Images", "Primary"]
  parameters := [("Tag", tag), ("api_key", s.accessToken)]

/-- The text between the item and the tag in the address of an image. -/
def imageMark : List Char := "/Images/Primary?Tag=".toList

variable {s : Session}

theorem streamUrl_eq (id : String) : s.streamUrl id = (s.streamParts id).write s.baseUrl := by
  rw [← String.toList_inj]
  simp [streamUrl, Parts.write, Parts.path, Parts.query, streamParts, Http.joined,
    Http.writeParameter, greatestBitrate]

theorem thumbnailUrl?_eq {item : Item} {tag : String} (h : item.imageTag? primaryImage = some tag) :
    s.thumbnailUrl? item = some ((s.thumbnailParts item.id tag).write s.baseUrl) := by
  rw [thumbnailUrl?, h, Option.map_some, Option.some_inj, ← String.toList_inj]
  simp [Parts.write, Parts.path, Parts.query, thumbnailParts, Http.joined, Http.writeParameter,
    primaryImage]

theorem imageMark_eq : imageMark = ['/', 'I', 'm', 'a', 'g', 'e', 's', '/', 'P', 'r', 'i', 'm', 'a',
    'r', 'y', '?', 'T', 'a', 'g', '='] := rfl

/-- The identifier and the tag, with the mark between them, are a part of the address. -/
theorem exists_toList_write_thumbnailParts (s : Session) :
    ∃ start rest : List Char, ∀ id tag, ((s.thumbnailParts id tag).write s.baseUrl).toList =
      start ++ (id.toList ++ (imageMark ++ tag.toList)) ++ rest := by
  refine ⟨s.baseUrl.toList ++ "Items/".toList, "&api_key=".toList ++ s.accessToken.toList,
    fun id tag => ?_⟩
  rw [Parts.write, String.toList_ofList, imageMark_eq]
  simp [Parts.path, Parts.query, thumbnailParts, Http.joined, Http.writeParameter]

theorem write_thumbnailParts_inj {id tag id' tag' : String} :
    (s.thumbnailParts id' tag').write s.baseUrl = (s.thumbnailParts id tag).write s.baseUrl ↔
      id'.toList ++ (imageMark ++ tag'.toList) = id.toList ++ (imageMark ++ tag.toList) := by
  obtain ⟨start, rest, hwrite⟩ := exists_toList_write_thumbnailParts s
  rw [← String.toList_inj, hwrite, hwrite]
  exact (List.append_left_inj rest).trans (List.append_right_inj start)

theorem unbordered_imageMark : Unbordered imageMark := by
  have hends : ∀ t ∈ imageMark.tails, t <+: imageMark → t = [] ∨ t = imageMark := by
    rw [imageMark_eq]
    decide
  exact fun t hstart hend => hends t ((List.mem_tails t imageMark).mpr hend) hstart

/-- An item of which only the identifier and the tag of its image are known. -/
def pictured (id tag : String) : Item :=
  { Item.blank with id, imageTags := .ofList [(primaryImage, tag)] }

theorem imageTag?_pictured (id tag : String) :
    (pictured id tag).imageTag? primaryImage = some tag := rfl

/-- Another item, or another tag, has an image with this address. -/
def Ambiguous (s : Session) (item : Item) (tag : String) : Prop :=
  ∃ (other : Item) (otherTag : String), other.imageTag? primaryImage = some otherTag ∧
    (other.id, otherTag) ≠ (item.id, tag) ∧ s.thumbnailUrl? other = s.thumbnailUrl? item

theorem ambiguous_iff {item : Item} {tag : String} (h : item.imageTag? primaryImage = some tag) :
    s.Ambiguous item tag ↔ imageMark <:+: item.id.toList ∨ imageMark <:+: tag.toList := by
  rw [← exists_ne_append_mark_iff unbordered_imageMark (by decide)]
  constructor
  · rintro ⟨other, otherTag, hother, hne, hurl⟩
    rw [thumbnailUrl?_eq h, thumbnailUrl?_eq hother, Option.some_inj,
      write_thumbnailParts_inj] at hurl
    refine ⟨_, _, fun hpair => hne ?_, hurl⟩
    obtain ⟨hid, htag⟩ := Prod.mk.inj hpair
    rw [String.toList_inj.mp hid, String.toList_inj.mp htag]
  · rintro ⟨id, otherTag, hne, happend⟩
    have hother := imageTag?_pictured (String.ofList id) (String.ofList otherTag)
    refine ⟨_, _, hother, fun hpair => hne ?_, ?_⟩
    · obtain ⟨hid, htag⟩ := Prod.mk.inj hpair
      rw [← hid, ← htag, pictured, String.toList_ofList, String.toList_ofList]
    · rw [thumbnailUrl?_eq h, thumbnailUrl?_eq hother, Option.some_inj, write_thumbnailParts_inj,
        pictured, String.toList_ofList, String.toList_ofList, happend]

/-! ### What is said -/

/-- The words that the addresses are made of are plain wherever they stand. -/
theorem plain_word {ds : List Char} {word : String} (hds : ds ⊆ ['/', '?', '#', '=', '&'])
    (hword : word ∈ ["Audio", "universal", "Items", "Images", "Primary", "UserId", "DeviceId",
      "api_key", "Tag", "MaxStreamingBitrate", "140000000"]) : Plain ds word := by
  have hall : word.toList.Disjoint ['%', '/', '?', '#', '=', '&'] := by
    revert word
    simp
  obtain ⟨hpercent, hrest⟩ := List.disjoint_cons_right.mp hall
  exact ⟨List.disjoint_of_subset_right hds hrest, PercentEncoding.unescaped_of_not_mem hpercent⟩

variable (hbase : s.baseUrl.toList.Disjoint ['?', '#'])
include hbase

theorem read?_streamUrl_iff (id : String) :
    Parts.read? s.baseUrl (s.streamUrl id) = some (s.streamParts id) ↔
      Plain ['/', '?', '#'] id ∧ Plain ['&', '#'] s.userId ∧ Plain ['&', '#'] s.deviceId ∧
        Plain ['&', '#'] s.accessToken := by
  rw [streamUrl_eq, Parts.read?_write_eq_some_iff hbase (List.cons_ne_nil _ _)
    (List.cons_ne_nil _ _)]
  simp [streamParts, PlainParameter, plain_word]

theorem read?_thumbnailParts_iff (id tag : String) :
    Parts.read? s.baseUrl ((s.thumbnailParts id tag).write s.baseUrl) =
        some (s.thumbnailParts id tag) ↔
      Plain ['/', '?', '#'] id ∧ Plain ['&', '#'] tag ∧ Plain ['&', '#'] s.accessToken := by
  rw [Parts.read?_write_eq_some_iff hbase (List.cons_ne_nil _ _) (List.cons_ne_nil _ _)]
  simp [thumbnailParts, PlainParameter, plain_word]

omit hbase

/-- **The addresses of streams and images say what is meant** if and only if what is put into them
is plain, and the address of an image tells its item and its tag apart unless one of these holds the
text between them. -/
theorem locations_read_back_iff {s : Session} (hquestion : '?' ∉ s.baseUrl.toList)
    (hhash : '#' ∉ s.baseUrl.toList) :
    (∀ id, Parts.read? s.baseUrl (s.streamUrl id) = some (s.streamParts id) ↔
      Plain ['/', '?', '#'] id ∧ Plain ['&', '#'] s.userId ∧ Plain ['&', '#'] s.deviceId ∧
        Plain ['&', '#'] s.accessToken) ∧
    ∀ (item : Item) (tag : String), item.imageTag? primaryImage = some tag →
      (∃ url, s.thumbnailUrl? item = some url ∧
        (Parts.read? s.baseUrl url = some (s.thumbnailParts item.id tag) ↔
          Plain ['/', '?', '#'] item.id ∧ Plain ['&', '#'] tag ∧
            Plain ['&', '#'] s.accessToken)) ∧
      (s.Ambiguous item tag ↔ imageMark <:+: item.id.toList ∨ imageMark <:+: tag.toList) := by
  have hbase : s.baseUrl.toList.Disjoint ['?', '#'] :=
    List.disjoint_cons_right.mpr ⟨hquestion, List.disjoint_singleton.mpr hhash⟩
  refine ⟨read?_streamUrl_iff hbase, fun item tag htag => ⟨?_, ambiguous_iff htag⟩⟩
  exact ⟨_, thumbnailUrl?_eq htag, read?_thumbnailParts_iff hbase item.id tag⟩

/-! ### Delimiters in other places than their own -/

open Browsing (sampleSession)
open PercentEncoding (Unescaped escaped? unescaped_cons_iff unescaped_of_not_mem)

theorem disjoint_sampleSession : sampleSession.baseUrl.toList.Disjoint ['?', '#'] := by
  simp [sampleSession]

theorem plain_ampersand : Plain ['/', '?', '#'] "50% & é" where
  disjoint := by simp
  unescaped := by
    -- A percent sign with a blank behind it is no escape.
    have hblank : Json.hexValue? ' ' = none := rfl
    have hrest : Unescaped [' ', 'é'] := unescaped_of_not_mem (by simp)
    simp [unescaped_cons_iff, escaped?, hblank, hrest]

theorem plain_question : Plain ['&', '#'] "a/b?c=d" where
  disjoint := by simp
  unescaped := unescaped_of_not_mem (by simp)

/-- An identifier may hold what parts parameters, and a tag what parts segments. -/
theorem locations_read_back_iff_swapped :
    '?' ∉ sampleSession.baseUrl.toList ∧ '#' ∉ sampleSession.baseUrl.toList ∧
    Parts.read? sampleSession.baseUrl (sampleSession.streamUrl "50% & é") =
      some (sampleSession.streamParts "50% & é") ∧
    (∃ url, sampleSession.thumbnailUrl? (pictured "50% & é" "a/b?c=d") = some url ∧
      Parts.read? sampleSession.baseUrl url =
        some (sampleSession.thumbnailParts "50% & é" "a/b?c=d")) ∧
    ¬ sampleSession.Ambiguous (pictured "50% & é" "a/b?c=d") "a/b?c=d" := by
  obtain ⟨hquestion, hrest⟩ := List.disjoint_cons_right.mp disjoint_sampleSession
  have hhash := List.disjoint_singleton.mp hrest
  have hword : ∀ word ∈ ["USER", "DEVICE", "KEY"], Plain ['&', '#'] word := by
    intro word hword
    refine ⟨?_, unescaped_of_not_mem ?_⟩ <;> revert word <;> simp
  have huser : Plain ['&', '#'] sampleSession.userId := hword "USER" (by simp)
  have hdevice : Plain ['&', '#'] sampleSession.deviceId := hword "DEVICE" (by simp)
  have htoken : Plain ['&', '#'] sampleSession.accessToken := hword "KEY" (by simp)
  obtain ⟨hstream, himage⟩ := locations_read_back_iff hquestion hhash
  obtain ⟨⟨url, hurl, hread⟩, hambiguous⟩ := himage _ _ (imageTag?_pictured "50% & é" "a/b?c=d")
  refine ⟨hquestion, hhash, ?_, ⟨url, hurl, ?_⟩, fun h => ?_⟩
  · exact (hstream _).mpr ⟨plain_ampersand, huser, hdevice, htoken⟩
  · exact hread.mpr ⟨plain_ampersand, plain_question, htoken⟩
  · rcases hambiguous.mp h with h | h
    · exact absurd h.length_le (by rw [imageMark_eq]; simp [pictured])
    · exact absurd h.length_le (by rw [imageMark_eq]; simp)

/-- An identifier with a slash and a question mark is not read back from the address of a stream,
nor a tag with an ampersand from that of an image, and one address can be that of the images of two
items. -/
theorem not_read_back_of_delimiters :
    '?' ∉ sampleSession.baseUrl.toList ∧ '#' ∉ sampleSession.baseUrl.toList ∧
    Parts.read? sampleSession.baseUrl (sampleSession.streamUrl "a/b?c") ≠
      some (sampleSession.streamParts "a/b?c") ∧
    (∃ url, sampleSession.thumbnailUrl? (pictured "a" "t&u") = some url ∧
      Parts.read? sampleSession.baseUrl url ≠ some (sampleSession.thumbnailParts "a" "t&u")) ∧
    sampleSession.Ambiguous (pictured "a" "b/Images/Primary?Tag=c") "b/Images/Primary?Tag=c" := by
  obtain ⟨hquestion, hrest⟩ := List.disjoint_cons_right.mp disjoint_sampleSession
  have himage := thumbnailUrl?_eq (s := sampleSession) (imageTag?_pictured "a" "t&u")
  refine ⟨hquestion, List.disjoint_singleton.mp hrest, ?_, ⟨_, himage, ?_⟩, ?_⟩
  · intro h
    obtain ⟨hid, -⟩ := (read?_streamUrl_iff disjoint_sampleSession _).mp h
    exact hid.disjoint (show '/' ∈ "a/b?c".toList by simp) (List.mem_cons_self ..)
  · intro h
    obtain ⟨-, htag, -⟩ := (read?_thumbnailParts_iff disjoint_sampleSession _ _).mp h
    exact htag.disjoint (show '&' ∈ "t&u".toList by simp) (List.mem_cons_self ..)
  · apply (ambiguous_iff (imageTag?_pictured _ _)).mpr
    exact .inr ⟨['b'], ['c'], by rw [imageMark_eq]; simp⟩

end MusicLibrary.Session
