import Mathlib

/-!
# The order of texts

Texts are compared character by character here, by the codes of the characters. Compared byte by
byte in UTF-8 they stand in the same order (`bytes_le_bytes_iff`): the encoding of a character is
a prefix of that of no other, and a greater code has the greater encoding
(`codeBytes_append_lt`).
-/

namespace MusicLibrary.Text

/-- The bytes of a text in UTF-8, as numbers. -/
def bytes (s : String) : List ℕ := s.toByteArray.data.toList.map UInt8.toNat

/-- The bytes of the character whose code is `n`. -/
def codeBytes (n : ℕ) : List ℕ :=
  if n ≤ 0x7F then [n]
  else if n ≤ 0x7FF then [0xC0 + n / 64, 0x80 + n % 64]
  else if n ≤ 0xFFFF then [0xE0 + n / 4096, 0x80 + n / 64 % 64, 0x80 + n % 64]
  else [0xF0 + n / 262144, 0x80 + n / 4096 % 64, 0x80 + n / 64 % 64, 0x80 + n % 64]

theorem toNat_lt (c : Char) : c.toNat < 0x110000 := by
  rcases c.valid with h | ⟨_, h⟩
  · exact Nat.lt_trans h (by decide)
  · exact h

theorem map_utf8EncodeChar (c : Char) :
    (String.utf8EncodeChar c).map UInt8.toNat = codeBytes c.toNat := by
  have hc := toNat_lt c
  simp only [String.utf8EncodeChar, codeBytes, Char.toNat_val]
  split_ifs <;>
    simp only [List.map_cons, List.map_nil, UInt8.toNat_ofNat', List.cons.injEq, and_true] <;>
    omega

theorem bytes_eq_flatMap (s : String) : bytes s = s.toList.flatMap fun c => codeBytes c.toNat := by
  have h : s.toByteArray.data.toList = s.toList.flatMap String.utf8EncodeChar := by
    conv_lhs => rw [← String.ofList_toList (s := s)]
    exact List.toList_data_toByteArray
  simp only [bytes, h, List.map_flatMap, map_utf8EncodeChar]

/-- A greater code has the greater bytes, whatever follows. -/
theorem codeBytes_append_lt {m n : ℕ} (h : m < n) (hn : n < 0x110000) (s t : List ℕ) :
    codeBytes m ++ s < codeBytes n ++ t := by
  unfold codeBytes
  split_ifs <;> simp only [List.cons_append, List.nil_append, List.cons_lt_cons_iff] <;> omega

theorem nil_lt_codeBytes (n : ℕ) : [] < codeBytes n := by
  unfold codeBytes
  split_ifs <;> exact List.nil_lt_cons _ _

theorem flatMap_codeBytes_lt {s t : List Char} (h : s < t) :
    (s.flatMap fun c => codeBytes c.toNat) < t.flatMap fun c => codeBytes c.toNat := by
  induction h with
  | nil =>
    rw [List.flatMap_cons]
    exact List.Lex.append_right _ _ (nil_lt_codeBytes _)
  | cons _ ih =>
    rw [List.flatMap_cons, List.flatMap_cons]
    exact List.append_left_lt ih
  | rel h =>
    rw [List.flatMap_cons, List.flatMap_cons]
    exact codeBytes_append_lt h (toNat_lt _) _ _

/-- **The order of the bytes in UTF-8 is the order of the characters.** -/
theorem bytes_le_bytes_iff {s t : String} : bytes s ≤ bytes t ↔ s ≤ t := by
  have h : StrictMono fun l : List Char => l.flatMap fun c => codeBytes c.toNat := fun _ _ =>
    flatMap_codeBytes_lt
  rw [bytes_eq_flatMap, bytes_eq_flatMap, String.le_iff_toList_le]
  exact h.le_iff_le

end MusicLibrary.Text
