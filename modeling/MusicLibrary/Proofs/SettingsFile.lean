import MusicLibrary.SettingsFile
import MusicLibrary.Proofs.Json.Written
import MusicLibrary.Proofs.Yaml.Mapping

/-!
# Settings from a file

The members of a settings file can be given in any order: the settings are the same, or the file is
refused either way (`Settings.setAll_perm`). A word of letters and digits that does not spell null is
a text wherever a text is asked for, even if it could be a number, and a number in decimal is read
where a number is asked for. So a file of lines gives exactly what its lines say
(`Settings.ofYaml_document`), as long as no key is too long to be one.
-/

namespace MusicLibrary

open Yaml

/-! ### The order of the members -/

namespace Settings

variable {c : Settings} {seen seen' : List String} {key key' : String} {s : Scalar}
variable {v v' : Node} {ms ms' : List (Node × Node)}

theorem setAll_collection : c.setAll seen ((.collection, v) :: ms) = none := rfl

theorem setAll_unknown (h : String.ofList s.text ∉ keys) :
    c.setAll seen ((.scalar s, v) :: ms) = c.setAll seen ms := by
  simp [setAll, h]

theorem setAll_known (h : String.ofList s.text ∈ keys) :
    c.setAll seen ((.scalar s, v) :: ms) =
      if String.ofList s.text ∈ seen then none
      else (c.set (String.ofList s.text) v).bind fun d =>
        d.setAll (String.ofList s.text :: seen) ms := by
  simp only [setAll, List.contains_eq_mem, h, decide_true, if_true, decide_eq_true_eq]
  split_ifs with hseen
  · rfl
  · cases c.set (String.ofList s.text) v <;> rfl

/-- Of the names that have been seen it does not matter in which order they were. -/
theorem setAll_congr (h : ∀ key, key ∈ seen ↔ key ∈ seen') :
    c.setAll seen ms = c.setAll seen' ms := by
  induction ms generalizing c seen seen' with
  | nil => rfl
  | cons m ms ih =>
    obtain ⟨s | _, v⟩ := m
    · by_cases hkey : String.ofList s.text ∈ keys
      · have hcons : ∀ key, key ∈ String.ofList s.text :: seen ↔
            key ∈ String.ofList s.text :: seen' := fun key => by
          rw [List.mem_cons, List.mem_cons, h]
        simp only [setAll_known hkey, h, ih hcons]
      · rw [setAll_unknown hkey, setAll_unknown hkey, ih h]
    · rfl

/-- What is done to the settings under two names can be done in either order. -/
def SetsCommute (key key' : String) : Prop :=
  ∀ (c : Settings) (v v' : Node),
    ((c.set key v).bind fun d => d.set key' v') = (c.set key' v').bind fun d => d.set key v

theorem SetsCommute.symm (h : SetsCommute key key') : SetsCommute key' key :=
  fun c v v' => (h c v' v).symm

theorem pairwise_setsCommute : keys.Pairwise SetsCommute := by
  simp only [keys, List.pairwise_cons, List.forall_mem_cons, List.not_mem_nil, false_imp_iff,
    implies_true, List.Pairwise.nil, and_true]
  and_intros <;> intro c v v' <;> simp only [set, reduceIte, String.reduceEq]
  -- the last name is that of the number
  all_goals first
    | cases readText v <;> cases readText v' <;> rfl
    | cases readText v <;> cases readNumber v' <;> rfl

/-- Settings of different names can be set in either order. -/
theorem setsCommute (hkey : key ∈ keys) (hkey' : key' ∈ keys) (hne : key ≠ key') :
    SetsCommute key key' := by
  have hsymm : Std.Symm SetsCommute := ⟨fun _ _ h => h.symm⟩
  exact pairwise_setsCommute.forall hkey hkey' hne

theorem setAll_cons_collection (m : Node × Node) :
    c.setAll seen (m :: (.collection, v) :: ms) = none := by
  obtain ⟨s | _, v⟩ := m
  · by_cases hkey : String.ofList s.text ∈ keys
    · simp [setAll_known hkey, setAll_collection]
    · rw [setAll_unknown hkey, setAll_collection]
  · rfl

/-- Two members of known names can be given in either order. -/
theorem setAll_swap_known {s' : Scalar} (hkey : String.ofList s.text ∈ keys)
    (hkey' : String.ofList s'.text ∈ keys) :
    c.setAll seen ((.scalar s, v) :: (.scalar s', v') :: ms) =
      c.setAll seen ((.scalar s', v') :: (.scalar s, v) :: ms) := by
  simp only [setAll_known hkey, setAll_known hkey']
  by_cases hne : String.ofList s.text = String.ofList s'.text
  · -- the second one is refused
    simp [hne]
  have hmem : String.ofList s'.text ∈ String.ofList s.text :: seen ↔
      String.ofList s'.text ∈ seen := by simp [Ne.symm hne]
  have hmem' : String.ofList s.text ∈ String.ofList s'.text :: seen ↔
      String.ofList s.text ∈ seen := by simp [hne]
  simp only [hmem, hmem']
  by_cases hseen : String.ofList s.text ∈ seen
  · simp [hseen]
  by_cases hseen' : String.ofList s'.text ∈ seen
  · simp [hseen']
  simp only [if_neg hseen, if_neg hseen', ← Option.bind_assoc]
  rw [setsCommute hkey hkey' hne c v v']
  congr 1
  funext d
  exact setAll_congr fun key => by simp only [List.mem_cons, or_left_comm]

/-- Two members can be given in either order. -/
theorem setAll_swap (m m' : Node × Node) :
    c.setAll seen (m :: m' :: ms) = c.setAll seen (m' :: m :: ms) := by
  obtain ⟨s | _, v⟩ := m
  · obtain ⟨s' | _, v'⟩ := m'
    · by_cases hkey : String.ofList s.text ∈ keys
      · by_cases hkey' : String.ofList s'.text ∈ keys
        · exact setAll_swap_known hkey hkey'
        · simp only [setAll_known hkey, setAll_unknown hkey']
      · by_cases hkey' : String.ofList s'.text ∈ keys
        · simp only [setAll_known hkey', setAll_unknown hkey]
        · simp only [setAll_unknown hkey, setAll_unknown hkey']
    · rw [setAll_cons_collection, setAll_collection]
  · rw [setAll_cons_collection, setAll_collection]

/-- **The members of a mapping can be given in any order.** -/
theorem setAll_perm (h : ms.Perm ms') : c.setAll seen ms = c.setAll seen ms' := by
  induction h generalizing c seen with
  | nil => rfl
  | cons m _ ih =>
    obtain ⟨s | _, v⟩ := m
    · by_cases hkey : String.ofList s.text ∈ keys
      · simp only [setAll_known hkey, ih]
      · rw [setAll_unknown hkey, setAll_unknown hkey, ih]
    · rfl
  | swap m m' ms => exact setAll_swap m' m
  | trans _ _ ih ih' => exact ih.trans ih'

end Settings

/-! ### Values -/

/-- The text is a word of letters and digits of ASCII. -/
structure Alphanumeric (s : String) : Prop where
  /-- It is not empty. -/
  ne_empty : s ≠ ""
  /-- All characters are letters and digits. -/
  chars : ∀ c ∈ s.toList, c.isAlphanum = true

/-- The text is a word of letters and digits that does not spell null. -/
structure Identifier (s : String) : Prop extends Alphanumeric s where
  /-- It does not spell null. -/
  not_null : s ∉ ["null", "Null", "NULL"]

instance (s : String) : Decidable (Alphanumeric s) :=
  decidable_of_iff (s ≠ "" ∧ s.toList.all Char.isAlphanum = true)
    ⟨fun h => ⟨h.1, List.all_eq_true.mp h.2⟩, fun h => ⟨h.ne_empty, List.all_eq_true.mpr h.chars⟩⟩

instance (s : String) : Decidable (Identifier s) :=
  decidable_of_iff (Alphanumeric s ∧ s ∉ ["null", "Null", "NULL"])
    ⟨fun h => ⟨h.1, h.2⟩, fun h => ⟨h.toAlphanumeric, h.not_null⟩⟩

theorem Alphanumeric.isWord {s : String} (h : Alphanumeric s) : IsWord s.toList where
  ne_nil hs := h.ne_empty (String.toList_eq_nil_iff.mp hs)
  chars c hc := by rw [isPlainChar, h.chars c hc, Bool.true_or]

theorem Identifier.isGiven {s : String} (h : Identifier s) : isGiven (plainScalar s) = some true := by
  have htilde : s ≠ "~" := by
    rintro rfl
    exact absurd (h.chars '~' (by decide)) (by decide)
  have hnull := h.not_null
  simp only [List.mem_cons, List.not_mem_nil, or_false, not_or] at hnull
  simp [MusicLibrary.isGiven, plainScalar, spellsNull, hnull, htilde, h.ne_empty]

/-- An identifier is a text, whatever it looks like. -/
theorem readText_identifier {s : String} (h : Identifier s) :
    readText (.scalar (plainScalar s)) = some (some s) := by
  rw [readText, h.isGiven]
  simp [plainScalar]

theorem digitIn?_of_isDigit {c : Char} (hc : c.isDigit = true) :
    digitIn? 10 c = some (c.toNat - '0'.toNat) := by
  have hrange : '0' ≤ c ∧ c ≤ '9' := by
    simp only [Char.isDigit, Bool.and_eq_true, decide_eq_true_eq] at hc
    exact hc
  have hnine : c.toNat ≤ '9'.toNat := hrange.2
  have hten : c.toNat - 48 < 10 := by
    have : '9'.toNat = 57 := rfl
    omega
  rw [digitIn?, hexDigit?, if_pos hrange, Option.bind_some, if_pos hten]
  rfl

theorem foldlM_digitIn? {ds : List Char} (hds : ∀ c ∈ ds, c.isDigit = true) (n : ℕ) :
    ds.foldlM (fun n c => (digitIn? 10 c).map (n * 10 + ·)) n = some (Nat.ofDigitChars 10 ds n) := by
  induction ds generalizing n with
  | nil => rfl
  | cons c ds ih =>
    obtain ⟨hc, hds⟩ := List.forall_mem_cons.mp hds
    rw [List.foldlM_cons, digitIn?_of_isDigit hc, Option.map_some, Option.bind_eq_bind,
      Option.bind_some, ih hds, Nat.ofDigitChars_cons, Nat.mul_comm]

/-- Digits without a zero in front of them are those of a decimal number. -/
theorem wholeNumber?_cons {c : Char} {ds : List Char} (hc : c ≠ '0') (hplus : c ≠ '+') :
    wholeNumber? (c :: ds) = digitsIn? 10 (c :: ds) := by
  unfold wholeNumber?
  split <;> simp_all

/-- A number in decimal is read. -/
theorem wholeNumber?_writeNat (n : UInt64) : wholeNumber? (Json.writeNat n.toNat) = some n := by
  rcases Nat.eq_zero_or_pos n.toNat with hn | hn
  · have hzero : n = 0 := UInt64.toNat_inj.mp hn
    rw [hzero]
    rfl
  · obtain ⟨c, ds, hds, hc⟩ := Json.exists_writeNat_cons hn
    have hdigits : ∀ d ∈ c :: ds, d.isDigit = true := hds ▸ Json.digits_writeNat n.toNat
    have hplus : c ≠ '+' := by
      rintro rfl
      exact absurd (hdigits '+' List.mem_cons_self) (by decide)
    have hnumber : Nat.ofDigitChars 10 (c :: ds) 0 = n.toNat := by
      rw [← hds]
      exact Nat.ofDigitChars_ten_toDigits
    have hlt : n.toNat < secondsLimit := n.toNat_lt
    rw [hds, wholeNumber?_cons hc hplus, digitsIn?, foldlM_digitIn? hdigits, hnumber]
    simp [hlt]

/-- A number in decimal does not spell null. -/
theorem identifier_repr (n : ℕ) : Identifier n.repr := by
  have hlist : n.repr.toList = Json.writeNat n := Nat.toList_repr
  have hdigits : ∀ c ∈ n.repr.toList, c.isDigit = true := hlist ▸ Json.digits_writeNat n
  refine ⟨⟨?_, fun c hc => by simp [Char.isAlphanum, hdigits c hc]⟩, ?_⟩
  · intro hempty
    rw [hempty] at hlist
    exact Nat.toDigits_ne_nil hlist.symm
  · intro hnull
    simp only [List.mem_cons, List.not_mem_nil, or_false] at hnull
    obtain h | h | h := hnull <;> rw [h] at hdigits <;>
      exact absurd (hdigits _ List.mem_cons_self) (by decide)

theorem readNumber_repr (n : UInt64) :
    readNumber (.scalar (plainScalar n.toNat.repr)) = some (some n) := by
  have hnumber : wholeNumber? (plainScalar n.toNat.repr).text = some n := by
    rw [plainScalar, Nat.toList_repr]
    exact wholeNumber?_writeNat n
  rw [readNumber, (identifier_repr n.toNat).isGiven]
  refine (if_pos (.inl rfl)).trans ?_
  rw [hnumber]
  rfl

/-! ### Files -/

namespace Settings

/-- The lines that give the settings of a session but the address. -/
def sessionLines (token userId deviceId : String) (timeout : UInt64) : List Line :=
  [⟨"token", token⟩, ⟨"user_id", userId⟩, ⟨"device_id", deviceId⟩,
    ⟨"timeout_secs", timeout.toNat.repr⟩]

/-- A line that gives no setting: its key is a word of letters that starts with `x`. -/
structure IsExtra (l : Line) : Prop where
  /-- The key consists of letters. -/
  letters : ∀ c ∈ l.key.toList, c.isAlpha = true
  /-- It starts with `x`. -/
  start : l.key.toList.head? = some 'x'
  /-- The value is a word. -/
  value : Alphanumeric l.value

variable {token userId deviceId : String} {n : UInt64} {l : Line} {extra ls : List Line}

theorem IsExtra.plain (h : IsExtra l) : l.Plain where
  key := by
    refine ⟨fun hnil => ?_, fun c hc => ?_⟩
    · have hstart := h.start
      rw [hnil] at hstart
      cases hstart
    · rw [isPlainChar, Char.isAlphanum, h.letters c hc, Bool.true_or, Bool.true_or]
  value := h.value.isWord

theorem IsExtra.not_mem_keys (h : IsExtra l) : l.key ∉ keys := by
  intro hmem
  have hstart := h.start
  simp only [keys, List.mem_cons, List.not_mem_nil, or_false] at hmem
  obtain h | h | h | h | h | h := hmem <;> rw [h] at hstart <;> exact absurd hstart (by decide)

theorem plain_sessionLines (ht : Identifier token) (hu : Identifier userId)
    (hd : Identifier deviceId) (n : UInt64) :
    ∀ l ∈ sessionLines token userId deviceId n, l.Plain := by
  have hword : ∀ k : String, k.toList ≠ [] → k.toList.all isPlainChar = true → IsWord k.toList :=
    fun k hne hall => ⟨hne, List.all_eq_true.mp hall⟩
  simp only [sessionLines, List.forall_mem_cons, List.not_mem_nil, false_imp_iff, implies_true,
    and_true]
  exact ⟨⟨hword "token" (by decide) rfl, ht.isWord⟩, ⟨hword "user_id" (by decide) rfl, hu.isWord⟩,
    ⟨hword "device_id" (by decide) rfl, hd.isWord⟩,
    ⟨hword "timeout_secs" (by decide) rfl, (identifier_repr n.toNat).isWord⟩⟩

theorem setAll_extra (hextra : ∀ l ∈ extra, IsExtra l) (c : Settings) (seen : List String) :
    c.setAll seen (extra.map Line.member) = some c := by
  induction extra generalizing c with
  | nil => rfl
  | cons l extra ih =>
    obtain ⟨hl, hextra⟩ := List.forall_mem_cons.mp hextra
    have hkey : String.ofList (plainScalar l.key).text ∉ keys := by
      rw [plainScalar, String.ofList_toList]
      exact hl.not_mem_keys
    rw [List.map_cons, Line.member, setAll_unknown hkey, ih hextra]

/-- What the lines of a session set. -/
theorem setAll_sessionLines (ht : Identifier token) (hu : Identifier userId)
    (hd : Identifier deviceId) (n : UInt64) (ms : List (Node × Node)) :
    empty.setAll [] ((sessionLines token userId deviceId n).map Line.member ++ ms) =
      setAll ⟨none, some token, some userId, some deviceId, none, some n⟩
        ["timeout_secs", "device_id", "user_id", "token"] ms := by
  have hkey : ∀ k, String.ofList (plainScalar k).text = k := fun k => String.ofList_toList
  simp [sessionLines, Line.member, setAll, hkey, keys, set, readText_identifier ht,
    readText_identifier hu, readText_identifier hd, readNumber_repr, empty]

theorem short_sessionLines : ∀ l ∈ sessionLines token userId deviceId n, l.Short := by
  simp only [sessionLines, List.forall_mem_cons, List.not_mem_nil, false_imp_iff, implies_true,
    and_true]
  exact ⟨show "token".length ≤ 1024 by decide, show "user_id".length ≤ 1024 by decide,
    show "device_id".length ≤ 1024 by decide, show "timeout_secs".length ≤ 1024 by decide⟩

theorem ofYaml?_document (ht : Identifier token) (hu : Identifier userId)
    (hd : Identifier deviceId) (hextra : ∀ l ∈ extra, IsExtra l)
    (hls : ls.Perm (sessionLines token userId deviceId n ++ extra)) :
    ofYaml? (document ls) =
      if ∀ l ∈ extra, l.Short then
        some ⟨none, some token, some userId, some deviceId, none, some n⟩
      else none := by
  have hplain : ∀ l ∈ ls, l.Plain := by
    intro l hl
    obtain hl | hl := List.mem_append.mp (hls.mem_iff.mp hl)
    · exact plain_sessionLines ht hu hd n l hl
    · exact (hextra l hl).plain
  have hne : ls ≠ [] := by
    rintro rfl
    exact absurd hls.length_eq (by simp [sessionLines])
  have hshort : (∀ l ∈ ls, l.Short) ↔ ∀ l ∈ extra, l.Short := by
    simp only [hls.mem_iff, List.forall_mem_append]
    exact and_iff_right short_sessionLines
  have hset : empty.setAll [] (ls.map Line.member) =
      some ⟨none, some token, some userId, some deviceId, none, some n⟩ := by
    rw [setAll_perm (hls.map Line.member), List.map_append, setAll_sessionLines ht hu hd,
      setAll_extra hextra]
  rw [ofYaml?, mapping?_document hne hplain]
  by_cases h : ∀ l ∈ extra, l.Short
  · rw [if_pos h, if_pos (hshort.mpr h), Option.bind_some, hset]
  · rw [if_neg h, if_neg (mt hshort.mp h), Option.bind_none]

/-- **Identifiers are taken as they are written.** Lines that give a token, a user, a device and a
time limit are read as these, in any order and among other lines, whatever the identifiers look like.
A file with a key of more than 1024 letters is refused. -/
theorem ofYaml_document (ht : Identifier token) (hu : Identifier userId)
    (hd : Identifier deviceId) (hextra : ∀ l ∈ extra, IsExtra l)
    (hls : ls.Perm (sessionLines token userId deviceId n ++ extra)) :
    ofYaml (document ls) =
      if ∀ l ∈ extra, l.Short then
        .ok ⟨none, some token, some userId, some deviceId, none, some n⟩
      else .error invalidMessage := by
  rw [ofYaml, ofYaml?_document ht hu hd hextra hls]
  by_cases h : ∀ l ∈ extra, l.Short
  · rw [if_pos h, if_pos h]
  · rw [if_neg h, if_neg h]

theorem ofYaml_document_numbers :
    ofYaml "timeout_secs: 30\nxtra: true\ndevice_id: 0x1F\ntoken: 0123\nuser_id: 12e34\n" =
      .ok ⟨none, some "0123", some "12e34", some "0x1F", none, some 30⟩ := by
  have ht : Identifier "0123" := by decide
  have hu : Identifier "12e34" := by decide
  have hd : Identifier "0x1F" := by decide
  have hxtra : IsExtra ⟨"xtra", "true"⟩ := ⟨List.all_eq_true.mp rfl, rfl, by decide⟩
  have hshort : Line.Short ⟨"xtra", "true"⟩ := show "xtra".length ≤ 1024 by decide
  have hls : [⟨"timeout_secs", "30"⟩, ⟨"xtra", "true"⟩, ⟨"device_id", "0x1F"⟩, ⟨"token", "0123"⟩,
      ⟨"user_id", "12e34"⟩].Perm
        (sessionLines "0123" "12e34" "0x1F" 30 ++ [⟨"xtra", "true"⟩]) := by
    decide
  have h := ofYaml_document ht hu hd (List.forall_mem_singleton.mpr hxtra) hls
  rw [if_pos (List.forall_mem_singleton.mpr hshort)] at h
  exact h

/-- A line whose key is the letter `x` so many times. -/
def lineOfLength (n : ℕ) : Line := ⟨String.ofList (List.replicate n 'x'), "v"⟩

theorem toList_lineOfLength (n : ℕ) : (lineOfLength n).key.toList = List.replicate n 'x' :=
  String.toList_ofList

theorem isExtra_lineOfLength (n : ℕ) : IsExtra (lineOfLength (n + 1)) where
  letters c hc := by
    rw [toList_lineOfLength] at hc
    rw [List.eq_of_mem_replicate hc]
    rfl
  start := by rw [toList_lineOfLength]; rfl
  value := show Alphanumeric "v" by decide

theorem short_lineOfLength_iff {n : ℕ} : (lineOfLength n).Short ↔ n ≤ 1024 := by
  rw [Line.Short, ← String.length_toList, toList_lineOfLength, List.length_replicate]

/-- Not all words are accepted as keys. -/
theorem not_accepted_of_long_key :
    ofYaml (document (sessionLines "a" "b" "c" 1 ++ [lineOfLength 1025])) = .error invalidMessage ∧
    ¬ ∀ (token userId deviceId : String) (n : UInt64) (extra ls : List Line),
      Identifier token → Identifier userId → Identifier deviceId → (∀ l ∈ extra, IsExtra l) →
      (extra.map Line.key).Nodup → ls.Perm (sessionLines token userId deviceId n ++ extra) →
        ofYaml (document ls) =
          .ok ⟨none, some token, some userId, some deviceId, none, some n⟩ := by
  have ha : Identifier "a" := by decide
  have hb : Identifier "b" := by decide
  have hc : Identifier "c" := by decide
  have hextra : ∀ l ∈ [lineOfLength 1025], IsExtra l :=
    List.forall_mem_singleton.mpr (isExtra_lineOfLength 1024)
  have herror : ofYaml (document (sessionLines "a" "b" "c" 1 ++ [lineOfLength 1025])) =
      .error invalidMessage := by
    rw [ofYaml, ofYaml?_document ha hb hc hextra (.refl _), if_neg]
    intro h
    exact absurd (short_lineOfLength_iff.mp (List.forall_mem_singleton.mp h)) (by decide)
  refine ⟨herror, fun hall => ?_⟩
  have hok := hall "a" "b" "c" 1 [lineOfLength 1025] _ ha hb hc hextra (List.nodup_singleton _)
    (.refl _)
  cases herror.symm.trans hok

end Settings

end MusicLibrary
