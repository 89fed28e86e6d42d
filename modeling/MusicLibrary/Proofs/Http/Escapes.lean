import MusicLibrary.Proofs.Http.Parts

/-!
# Escapes

A text that is put into an address with escapes comes out of it again, whichever characters are
kept, as long as the percent sign is not one of them (`decode?_encode`). In between it is made of
kept characters and of escapes in upper case (`escaped_encode`), so that a delimiter cannot be
taken for a part of it, nor a part of it for a delimiter.
-/

namespace MusicLibrary.PercentEncoding

open Json (hexValue?)

/-! ### Texts with escapes -/

/-- A hexadecimal digit, a letter of which is in upper case. -/
def isUpperHex (c : Char) : Bool := c.isDigit || ('A' ≤ c && c ≤ 'F')

/-- A text of kept characters and of escapes with digits in upper case. -/
inductive Escaped (keep : Char → Bool) : List Char → Prop where
  /-- The empty text. -/
  | nil : Escaped keep []
  /-- A kept character stands for itself. -/
  | kept {c : Char} {s : List Char} : keep c = true → Escaped keep s → Escaped keep (c :: s)
  /-- A percent sign stands before two digits. -/
  | escape {a b : Char} {s : List Char} : isUpperHex a = true → isUpperHex b = true →
      Escaped keep s → Escaped keep ('%' :: a :: b :: s)

section Keep

variable {keep : Char → Bool} {s t : List Char}

theorem Escaped.append (hs : Escaped keep s) (ht : Escaped keep t) : Escaped keep (s ++ t) := by
  induction hs with
  | nil => exact ht
  | kept hc _ ih => exact .kept hc ih
  | escape ha hb _ ih => exact .escape ha hb ih

/-- A character that is neither kept nor needed for an escape does not occur. -/
theorem Escaped.not_mem {c : Char} (hs : Escaped keep s) (hkeep : keep c = false) (hc : c ≠ '%')
    (hhex : isUpperHex c = false) : c ∉ s := by
  have hne : ∀ {d : Char}, isUpperHex d = true → c ≠ d := by
    rintro d hd rfl
    rw [hhex] at hd
    cases hd
  induction hs with
  | nil => exact List.not_mem_nil
  | kept hd _ ih =>
    rw [List.mem_cons, not_or]
    refine ⟨?_, ih⟩
    rintro rfl
    rw [hkeep] at hd
    cases hd
  | escape ha hb _ ih =>
    simp only [List.mem_cons, not_or]
    exact ⟨hc, hne ha, hne hb, ih⟩

theorem Escaped.disjoint {delimiters : List Char} (hs : Escaped keep s)
    (h : ∀ c ∈ delimiters, keep c = false ∧ c ≠ '%' ∧ isUpperHex c = false) :
    s.Disjoint delimiters := by
  intro c hmem hc
  obtain ⟨hkeep, hpercent, hhex⟩ := h c hc
  exact hs.not_mem hkeep hpercent hhex hmem

theorem isUpperHex_hexDigit : ∀ n < 16, isUpperHex (hexDigit n) = true := by decide

theorem escaped_flatMap_escapedByte (bytes : List UInt8) :
    Escaped keep (bytes.flatMap escapedByte) := by
  induction bytes with
  | nil => exact .nil
  | cons b bytes ih =>
    have hb := b.toNat_lt
    exact .escape (isUpperHex_hexDigit _ (by omega)) (isUpperHex_hexDigit _ (by omega)) ih

/-- What is encoded is made of kept characters and of escapes. -/
theorem escaped_encode (keep : Char → Bool) (s : List Char) : Escaped keep (encode keep s) := by
  induction s with
  | nil => exact .nil
  | cons c s ih =>
    rw [encode, List.flatMap_cons]
    refine Escaped.append ?_ ih
    unfold encodeChar
    split_ifs with hc
    · exact .kept hc .nil
    · exact escaped_flatMap_escapedByte _

/-! ### Undoing escapes -/

theorem decodeBytes_cons_of_ne {c : Char} (hc : c ≠ '%') (s : List Char) :
    decodeBytes (c :: s) = String.utf8EncodeChar c ++ decodeBytes s := by
  match s with
  | [] => rfl
  | [a] => rfl
  | a :: b :: s => rw [decodeBytes, escaped?, if_neg hc]

theorem hexValue?_hexDigit : ∀ n < 16, hexValue? (hexDigit n) = some n := by decide

/-- The escape of a byte is read as the byte. -/
theorem decodeBytes_escapedByte_append (b : UInt8) (s : List Char) :
    decodeBytes (escapedByte b ++ s) = b :: decodeBytes s := by
  have hb := b.toNat_lt
  have hescaped : escaped? '%' (hexDigit (b.toNat / 16)) (hexDigit (b.toNat % 16)) = some b := by
    rw [escaped?, if_pos rfl, hexValue?_hexDigit _ (by omega), hexValue?_hexDigit _ (by omega)]
    simp only [Option.bind_some, Option.map_some, Nat.div_add_mod, UInt8.ofNat_toNat]
  rw [escapedByte, List.cons_append, List.cons_append, List.cons_append, decodeBytes, hescaped]
  rfl

theorem decodeBytes_flatMap_escapedByte_append (bytes : List UInt8) (s : List Char) :
    decodeBytes (bytes.flatMap escapedByte ++ s) = bytes ++ decodeBytes s := by
  induction bytes with
  | nil => rfl
  | cons b bytes ih =>
    rw [List.flatMap_cons, List.append_assoc, decodeBytes_escapedByte_append, ih, List.cons_append]

theorem decodeBytes_encodeChar_append (hkeep : keep '%' = false) (c : Char) (s : List Char) :
    decodeBytes (encodeChar keep c ++ s) = String.utf8EncodeChar c ++ decodeBytes s := by
  unfold encodeChar
  split_ifs with hc
  · refine decodeBytes_cons_of_ne ?_ s
    rintro rfl
    rw [hkeep] at hc
    cases hc
  · exact decodeBytes_flatMap_escapedByte_append _ s

theorem decodeBytes_encode (hkeep : keep '%' = false) (s : List Char) :
    decodeBytes (encode keep s) = utf8 s := by
  induction s with
  | nil => rfl
  | cons c s ih =>
    rw [encode, List.flatMap_cons, decodeBytes_encodeChar_append hkeep, ← encode, ih, utf8, utf8,
      List.flatMap_cons]

/-- **A text that is encoded is decoded to itself**, as long as a percent sign is not kept. -/
theorem decode?_encode (hkeep : keep '%' = false) (t : String) :
    decode? (encode keep t.toList) = some t :=
  decode?_eq_some_iff.mpr (decodeBytes_encode hkeep t.toList)

end Keep

end MusicLibrary.PercentEncoding
