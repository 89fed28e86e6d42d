import MusicLibrary.Json.Writer
import MusicLibrary.Proofs.Json.Members

/-!
# What is written is read back

For each kind of value, the reader takes the written text for the value that it was written from.
Arrays and objects that are written hold no white space (`writeArray_eq`, `writeObject_eq`).
-/

namespace MusicLibrary.Json

open Reader (Takes)

variable {α : Type} {x : Reader α}

/-! ### Strings -/

theorem readStringChar_control {n : ℕ} (hn : n < 32) (r : List Char) :
    readStringChar (writeChar (Char.ofNat n) ++ r) = .ok (some (Char.ofNat n), r) := by
  interval_cases n <;> rfl

theorem writeChar_eq {c : Char} (hquote : c ≠ '"') (hbackslash : c ≠ '\\')
    (hcontrol : 32 ≤ c.toNat) :
    writeChar c = [c] := by
  have hne : ∀ d : Char, d.toNat < 32 → c ≠ d := by
    rintro d hd rfl
    omega
  simp only [writeChar, if_neg hquote, if_neg hbackslash, if_neg (hne (Char.ofNat 8) (by decide)),
    if_neg (hne '\t' (by decide)), if_neg (hne '\n' (by decide)),
    if_neg (hne (Char.ofNat 12) (by decide)), if_neg (hne '\r' (by decide)),
    if_neg (Nat.not_lt.mpr hcontrol)]

/-- A character is read back, whatever follows. -/
theorem readStringChar_writeChar (c : Char) (r : List Char) :
    readStringChar (writeChar c ++ r) = .ok (some c, r) := by
  by_cases hcontrol : c.toNat < 32
  · have h := readStringChar_control hcontrol r
    rwa [Char.ofNat_toNat] at h
  · by_cases hquote : c = '"'
    · rw [hquote]
      rfl
    · by_cases hbackslash : c = '\\'
      · rw [hbackslash]
        rfl
      · have hlt : ¬ c < ' ' := fun h => hcontrol h
        rw [writeChar_eq hquote hbackslash (Nat.not_lt.mp hcontrol), List.singleton_append]
        simp [readStringChar, hlt]

theorem readChars_writeString (s acc r : List Char) :
    readChars acc (s.flatMap writeChar ++ '"' :: r) = .ok (acc.reverse ++ s, r) := by
  induction s generalizing acc with
  | nil => simpa using readChars_of_none (readStringChar_quote r)
  | cons c s ih =>
    rw [List.flatMap_cons, List.append_assoc, readChars_of_some (readStringChar_writeChar c _), ih]
    simp

theorem readName_writeString (s : String) (r : List Char) :
    readName (s.toList.flatMap writeChar ++ '"' :: r) = .ok (s, r) := by
  simp [readName, readChars_writeString]

theorem chars_writeString (s : String) : Chars (s.toList.flatMap writeChar) := by
  obtain ⟨t, ht, hchars, -⟩ := exists_of_readChars (readChars_writeString s.toList [] [])
  rwa [List.append_cancel_right ht]

theorem stringOf_writeString (s : String) : StringOf (writeString s) s :=
  .intro (chars_writeString s) (readName_writeString s [])

/-- A string is read back. -/
theorem takes_writeString (s : String) : string.Takes (writeString s) s :=
  specified_string.complete (stringOf_writeString s)

/-! ### Words and numbers -/

theorem takes_writeBoolean (a : Bool) : boolean.Takes (writeBoolean a) a :=
  specified_boolean.complete rfl

theorem digits_writeNat (n : ℕ) : Digits (writeNat n) := fun _ hc =>
  Nat.isDigit_of_mem_toDigits (by decide) (by decide) hc

/-- The numeral of a number that is not zero starts with another digit. -/
theorem exists_writeNat_cons {n : ℕ} (hn : 0 < n) : ∃ c ds, writeNat n = c :: ds ∧ c ≠ '0' := by
  induction n using Nat.strongRecOn with
  | ind n ih =>
    by_cases hlt : n < 10
    · refine ⟨_, [], Nat.toDigits_of_lt_base hlt, ?_⟩
      interval_cases n <;> decide
    · obtain ⟨c, ds, hds, hc⟩ := ih (n / 10) (by omega) (by omega)
      refine ⟨c, ds ++ [(n % 10).digitChar], ?_, hc⟩
      rw [writeNat, Nat.toDigits_of_base_le (by decide) (by omega), ← writeNat, hds]
      rfl

theorem whole_writeNat (n : ℕ) : Whole (writeNat n) := by
  rcases Nat.eq_zero_or_pos n with rfl | hn
  · exact .zero
  · obtain ⟨c, ds, hds, hc⟩ := exists_writeNat_cons hn
    have hdigits := digits_writeNat n
    rw [hds] at hdigits ⊢
    exact .digits (hdigits c List.mem_cons_self) hc fun d hd =>
      hdigits d (List.mem_cons_of_mem c hd)

theorem spells_writeNat (minus : Bool) (n : ℕ) :
    Spells minus (writeNat n) ⟨minus, writeNat n, [], none⟩ := by
  have h : Spells minus (writeNat n ++ ([] ++ [])) ⟨minus, writeNat n, [], none⟩ :=
    .intro (whole_writeNat n) .absent .absent
  rwa [List.append_nil, List.append_nil] at h

/-- Digits are collected into their number as long as it fits. -/
theorem collect_eq {n : ℕ} {ds : List Char} (h : Nat.ofDigitChars 10 ds n < naturalLimit) :
    collect n ds = (Nat.ofDigitChars 10 ds n, 0) := by
  induction ds generalizing n with
  | nil => rfl
  | cons c ds ih =>
    rw [Nat.ofDigitChars_cons] at h ⊢
    have hstep : n * 10 + digitValue c = 10 * n + (c.toNat - '0'.toNat) := by
      rw [Nat.mul_comm]
      rfl
    have hle : 10 * n + (c.toNat - '0'.toNat) ≤
        Nat.ofDigitChars 10 ds (10 * n + (c.toNat - '0'.toNat)) := by
      rw [Nat.ofDigitChars_eq_ofDigitChars_zero]
      nlinarith [Nat.one_le_pow ds.length 10 (by decide)]
    simp only [collect, hstep, if_pos (Nat.lt_of_le_of_lt hle h)]
    exact ih h

/-- A word is read back. -/
theorem takes_writeNat (w : UInt32) : word32.Takes (writeNat w.toNat) w := by
  have hlt : w.toNat < word32Limit := w.toNat_lt
  have hcollect : collect 0 (writeNat w.toNat) = (w.toNat, 0) := by
    have hnumber : Nat.ofDigitChars 10 (writeNat w.toNat) 0 = w.toNat :=
      Nat.ofDigitChars_ten_toDigits
    rw [collect_eq (by rw [hnumber]; exact Nat.lt_trans hlt (by decide)), hnumber]
  have hvalue : Numeral.value ⟨false, writeNat w.toNat, [], none⟩ = some (.natural w.toNat) := by
    simp [Numeral.value, hcollect]
  have hword : (Number.natural w.toNat).toWord32 = .ok w := by simp [Number.toWord32, hlt]
  exact specified_word32.complete (.numeral (spells_writeNat false w.toNat) hvalue hword)

/-- A value that may be absent is read back. -/
theorem takes_writeNullable {write : α → List Char} {o : Option α} (hx : x.Exact)
    (h : ∀ a ∈ o, x.Takes (write a) a ∧ write a ≠ writeNull) :
    (nullable x).Takes (writeNullable write o) o := by
  cases o with
  | none => exact hx.specified_nullable.complete .null
  | some a =>
    obtain ⟨htakes, hne⟩ := h a rfl
    exact hx.specified_nullable.complete (.value hne htakes)

theorem value_writeNullable {write : α → List Char} {o : Option α}
    (h : ∀ a ∈ o, Value (write a)) : Value (writeNullable write o) := by
  cases o with
  | none => exact value_writeNull
  | some a => exact h a rfl

/-! ### Arrays and objects -/

theorem writeArray_eq (ts : List (List Char)) :
    writeArray ts = arrayText (ts.map Spaced.tight) := by
  simp [arrayText, Function.comp_def]

/-- A member of the given name and value, without white space. -/
def MemberText.written (name : String) (value : List Char) : MemberText where
  label := ⟨[], name.toList.flatMap writeChar, [], .nil, chars_writeString name, .nil⟩
  value := .tight value

@[simp] theorem MemberText.text_written (name : String) (value : List Char) :
    (written name value).text = writeMember name value := by
  simp [text, written, writeMember, writeString, Label.text]

@[simp] theorem MemberText.content_written (name : String) (value : List Char) :
    (written name value).content = (some name, value) := by
  have hkey : (written name value).label.key? = some name :=
    (Label.key?_eq_some_iff []).mpr (readName_writeString name [])
  simp [content, key?, hkey]
  rfl

theorem writeObject_eq (members : List (String × List Char)) :
    writeObject members = objectText (members.map fun m => .written m.1 m.2) := by
  simp [writeObject, objectText, Function.comp_def]

theorem map_content_written (members : List (String × List Char)) :
    (members.map fun m => MemberText.written m.1 m.2).map MemberText.content =
      members.map fun m => (some m.1, m.2) := by
  simp [Function.comp_def]

theorem values_written {members : List (String × List Char)} (h : ∀ m ∈ members, Value m.2) :
    ∀ m ∈ members.map fun m => MemberText.written m.1 m.2, Value m.value.core :=
  List.forall_mem_map.mpr h

theorem value_writeObject {members : List (String × List Char)} (h : ∀ m ∈ members, Value m.2) :
    Value (writeObject members) := by
  rw [writeObject_eq]
  exact .object (values_written h)

theorem told_writeObject {σ : Type} (format : RecordFormat σ)
    {members : List (String × List Char)} (h : ∀ m ∈ members, Value m.2) :
    Told format (writeObject members) (members.map fun m => (some m.1, m.2)) := by
  rw [writeObject_eq, ← map_content_written]
  exact .object (values_written h)

/-- A record is read from a written object whose members make it. -/
theorem takes_writeObject {σ : Type} {y : Reader σ} {format : RecordFormat σ} {q : Draft σ}
    {members : List (String × List Char)} (hspec : y.Specified (RecordOf format))
    (hfills : Fills format ⟨format.blank, []⟩ (members.map fun m => (some m.1, m.2)) q)
    (hmissing : format.missing? q.seen = none) : y.Takes (writeObject members) q.value := by
  rw [← map_content_written] at hfills
  rw [writeObject_eq]
  exact hspec.complete (.object hfills hmissing)

/-- A record is read from a written object if and only if its members make it. -/
theorem takes_writeObject_iff {σ : Type} {y : Reader σ} {format : RecordFormat σ} {a : σ}
    {members : List (String × List Char)} (hspec : y.Specified (RecordOf format))
    (hmembers : ∀ m ∈ members, Value m.2) :
    y.Takes (writeObject members) a ↔ ∃ q,
      Fills format ⟨format.blank, []⟩ (members.map fun m => (some m.1, m.2)) q ∧
        format.missing? q.seen = none ∧ q.value = a := by
  rw [writeObject_eq, hspec.takes_iff, recordOf_objectText_iff (values_written hmembers),
    map_content_written]

end MusicLibrary.Json
