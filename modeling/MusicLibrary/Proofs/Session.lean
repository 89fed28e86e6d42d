import MusicLibrary.Browsing.Location
import MusicLibrary.Http.Client
import MusicLibrary.Proofs.BaseUrl
import Mathlib.Data.List.DropRight

/-!
# One session for all spellings of an address

An address may be given with white space around it and with slashes behind it. White space is taken
away first and slashes second, each as far as it goes, and one slash is put back. The white space that
stands in front of the slashes is thus kept: `a /` and `a` are two addresses.

The result ends in a slash and is not changed if it is given as an address once more. An address
without white space at its ends leads to the same session, and so to the same questions, streams and
images, however many slashes and whatever white space are put around it
(`Session.create_canonical`).
-/

namespace MusicLibrary

/-! ### Texts without white space at their ends -/

namespace Text

variable {p : Char → Bool} {s t w w' : List Char}

/-- Neither the first nor the last character is white space. -/
structure Unpadded (s : List Char) : Prop where
  /-- The first character. -/
  head : ∀ c ∈ s.head?, isBlank c = false
  /-- The last character. -/
  last : ∀ c ∈ s.getLast?, isBlank c = false

theorem all_not_isBlank_iff {o : Option Char} :
    o.all (!isBlank ·) = true ↔ ∀ c ∈ o, isBlank c = false := by
  simp [Option.all_eq_true]

instance (s : List Char) : Decidable (Unpadded s) :=
  decidable_of_iff (s.head?.all (!isBlank ·) = true ∧ s.getLast?.all (!isBlank ·) = true)
    ⟨fun h => ⟨all_not_isBlank_iff.mp h.1, all_not_isBlank_iff.mp h.2⟩,
      fun h => ⟨all_not_isBlank_iff.mpr h.head, all_not_isBlank_iff.mpr h.last⟩⟩

theorem dropTrailing_append (hw : ∀ c ∈ w, p c = true) :
    dropTrailing p (s ++ w) = dropTrailing p s := by
  rw [dropTrailing, List.reverse_append, List.dropWhile_append_of_pos]
  · rfl
  · exact fun c hc => hw c (List.mem_reverse.mp hc)

theorem dropTrailing_eq_self (h : ∀ c ∈ s.getLast?, p c = false) : dropTrailing p s = s := by
  refine List.rdropWhile_eq_self_iff.mpr fun hs => ?_
  rw [h _ (List.getLast_mem_getLast? hs)]
  exact Bool.false_ne_true

/-- What is left does not end in a character that is dropped. -/
theorem of_mem_getLast?_dropTrailing {c : Char} (h : c ∈ (dropTrailing p s).getLast?) :
    p c = false := by
  obtain ⟨hne, rfl⟩ := List.mem_getLast?_eq_getLast h
  exact Bool.eq_false_iff.mpr (List.rdropWhile_last_not p s hne)

theorem head?_dropTrailing {c : Char} (h : c ∈ (dropTrailing p s).head?) : c ∈ s.head? := by
  obtain ⟨t, ht⟩ : dropTrailing p s <+: s := List.rdropWhile_prefix p s
  rw [← ht, List.head?_append, Option.mem_def.mp h]
  rfl

theorem unpadded_trim (s : List Char) : Unpadded (trim s) where
  head c hc := by
    have h := List.head?_dropWhile_not isBlank s
    rw [Option.mem_def.mp (head?_dropTrailing hc)] at h
    simpa using h
  last _ := of_mem_getLast?_dropTrailing

theorem trim_eq_self (h : Unpadded s) : trim s = s := by
  have hfront : s.dropWhile isBlank = s := by
    cases s with
    | nil => rfl
    | cons c s => exact List.dropWhile_cons_of_neg (by simp [h.head c rfl])
  rw [trim, hfront, dropTrailing_eq_self h.last]

/-- White space around a text does not matter. -/
theorem trim_pad (hw : ∀ c ∈ w, isBlank c = true) (hw' : ∀ c ∈ w', isBlank c = true) :
    trim (w ++ s ++ w') = trim s := by
  rw [trim, trim, List.append_assoc, List.dropWhile_append_of_pos hw, List.dropWhile_append]
  split_ifs with hempty
  · -- all of `s` is white space
    have hback : w'.dropWhile isBlank = [] := List.dropWhile_eq_nil_iff.mpr hw'
    rw [hback, List.isEmpty_iff.mp hempty]
  · exact dropTrailing_append hw'

theorem Unpadded.append (hs : Unpadded s) (ht : Unpadded t) : Unpadded (s ++ t) where
  head c hc := by
    rw [List.head?_append, Option.mem_def, Option.or_eq_some_iff] at hc
    exact hc.elim (hs.head c) fun hc => ht.head c hc.2
  last c hc := by
    rw [List.getLast?_append, Option.mem_def, Option.or_eq_some_iff] at hc
    exact hc.elim (ht.last c) fun hc => hs.last c hc.2

theorem unpadded_slashes (k : ℕ) : Unpadded (List.replicate k '/') where
  head c hc := by
    rw [List.eq_of_mem_replicate (List.mem_of_mem_head? hc)]
    decide
  last c hc := by
    rw [List.eq_of_mem_replicate (List.mem_of_mem_getLast? hc)]
    decide

end Text

/-! ### Spellings of an address -/

namespace Session

open Text

/-- The second text is the first one with slashes behind it and white space around both. -/
def Pads (url padded : String) : Prop :=
  ∃ (k : ℕ) (w w' : String), (∀ c ∈ w.toList, isBlank c = true) ∧
    (∀ c ∈ w'.toList, isBlank c = true) ∧
    padded = w ++ url ++ String.ofList (List.replicate k '/') ++ w'

/-- What stands in front of the last slash of the base address. -/
def host (url : String) : List Char := dropTrailing (· == '/') (trim url.toList)

theorem toList_normalizeUrl (url : String) : (normalizeUrl url).toList = host url ++ ['/'] := by
  rw [normalizeUrl, String.toList_ofList, host]

theorem normalizeUrl_eq_iff {url url' : String} :
    normalizeUrl url = normalizeUrl url' ↔ host url = host url' := by
  rw [← String.toList_inj, toList_normalizeUrl, toList_normalizeUrl, List.append_left_inj]

theorem getLast?_host {url : String} {c : Char} (h : c ∈ (host url).getLast?) : c ≠ '/' := by
  simpa using of_mem_getLast?_dropTrailing h

theorem unpadded_host_concat (url : String) : Unpadded (host url ++ ['/']) where
  head c hc := by
    rw [List.head?_append, Option.mem_def, Option.or_eq_some_iff] at hc
    obtain hc | ⟨-, hc⟩ := hc
    · exact (unpadded_trim url.toList).head c (head?_dropTrailing hc)
    · exact (unpadded_slashes 1).head c hc
  last c hc := (unpadded_slashes 1).last c (by rwa [List.getLast?_concat] at hc)

/-- A base address is its own base address. -/
theorem host_normalizeUrl (url : String) : host (normalizeUrl url) = host url := by
  rw [host, toList_normalizeUrl, trim_eq_self (unpadded_host_concat url),
    dropTrailing_append (by simp)]
  exact dropTrailing_eq_self fun c hc => by simpa using getLast?_host hc

theorem host_of_pads {url padded : String} (hurl : Unpadded url.toList) (h : Pads url padded) :
    host padded = host url := by
  obtain ⟨k, w, w', hw, hw', rfl⟩ := h
  have hslashes : ∀ c ∈ List.replicate k '/', (c == '/') = true :=
    fun c hc => beq_iff_eq.mpr (List.eq_of_mem_replicate hc)
  have htext : (w ++ url ++ String.ofList (List.replicate k '/') ++ w').toList =
      w.toList ++ (url.toList ++ List.replicate k '/') ++ w'.toList := by
    simp only [String.toList_append, String.toList_ofList, List.append_assoc]
  rw [host, htext, trim_pad hw hw', trim_eq_self (hurl.append (unpadded_slashes k)),
    dropTrailing_append hslashes, host, trim_eq_self hurl]

-- White space in front of the slashes belongs to the address.
example : Pads "a " "a /" ∧ normalizeUrl "a /" ≠ normalizeUrl "a " :=
  ⟨⟨1, "", "", List.all_eq_true.mp rfl, List.all_eq_true.mp rfl, by decide⟩, by decide⟩

/-- Addresses with one base address lead to one session. -/
theorem create_eq_of_host {url url' : String} (h : host url = host url')
    (accessToken userId deviceId : String) :
    create url accessToken userId deviceId = create url' accessToken userId deviceId := by
  rw [create, normalizeUrl_eq_iff.mpr h, create]

theorem create_baseUrl (url accessToken userId deviceId : String) :
    create (create url accessToken userId deviceId).baseUrl accessToken userId deviceId =
      create url accessToken userId deviceId :=
  create_eq_of_host (host_normalizeUrl url) accessToken userId deviceId

theorem create_of_pads {url padded : String} (hurl : Unpadded url.toList) (h : Pads url padded)
    (accessToken userId deviceId : String) :
    create padded accessToken userId deviceId = create url accessToken userId deviceId :=
  create_eq_of_host (host_of_pads hurl h) accessToken userId deviceId

/-- **The base address is canonical.** It ends in one slash, it is kept if it is given as an address,
and all spellings of an address that differ in white space around it and in slashes behind it are one
session, which asks at the same addresses and finds streams and images at the same addresses. -/
theorem create_canonical (url accessToken userId deviceId : String) :
    ['/'] <:+ (create url accessToken userId deviceId).baseUrl.toList ∧
      ¬ ['/', '/'] <:+ (create url accessToken userId deviceId).baseUrl.toList ∧
      create (create url accessToken userId deviceId).baseUrl accessToken userId deviceId =
        create url accessToken userId deviceId ∧
      (Unpadded url.toList → ∀ padded, Pads url padded →
        create padded accessToken userId deviceId = create url accessToken userId deviceId ∧
        (∀ name timeout r,
          (Http.Client.create (create padded accessToken userId deviceId) name timeout).question r =
            (Http.Client.create (create url accessToken userId deviceId) name timeout).question r) ∧
        (∀ id, (create padded accessToken userId deviceId).streamUrl id =
          (create url accessToken userId deviceId).streamUrl id) ∧
        ∀ item, (create padded accessToken userId deviceId).thumbnailUrl? item =
          (create url accessToken userId deviceId).thumbnailUrl? item) := by
  have hbase : (create url accessToken userId deviceId).baseUrl.toList = host url ++ ['/'] :=
    toList_normalizeUrl url
  rw [hbase]
  refine ⟨List.suffix_append _ _, ?_, create_baseUrl url accessToken userId deviceId, ?_⟩
  · rintro ⟨t, ht⟩
    have hhost : t ++ ['/'] = host url := by
      refine (List.append_left_inj ['/']).mp ?_
      rw [← ht, List.append_assoc]
      rfl
    exact getLast?_host (by rw [← hhost, List.getLast?_concat]; rfl) rfl
  · intro hurl padded h
    rw [create_of_pads hurl h]
    exact ⟨rfl, fun _ _ _ => rfl, fun _ => rfl, fun _ => rfl⟩

theorem create_canonical_padded :
    create " \thttp://jellyfin.local//\n" "token" "user" "device" =
      create "http://jellyfin.local" "token" "user" "device" :=
  ((create_canonical "http://jellyfin.local" "token" "user" "device").2.2.2 (by decide) _
    ⟨2, " \t", "\n", List.all_eq_true.mp rfl, List.all_eq_true.mp rfl, by decide⟩).1

end Session

end MusicLibrary
