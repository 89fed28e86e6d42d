import MusicLibrary.Yaml.Layout
import MusicLibrary.Proofs.Http.Address

/-!
# Words in YAML

A word is made of letters, digits and underscores. None of these characters has a meaning of its own
anywhere in a document, and each of them is one byte. A scalar that starts with a word goes on to the
colon in front of a blank, or to the end of its line if the next line is not indented
(`plainFrom_append`, `plainFrom_colon`, `plainFrom_newline`).
-/

namespace MusicLibrary.Yaml

/-- A character of a word: a letter of ASCII, a digit or an underscore. -/
def isPlainChar (c : Char) : Bool := c.isAlphanum || c == '_'

/-- At least one character, and only those of words. -/
structure IsWord (w : List Char) : Prop where
  /-- There is one. -/
  ne_nil : w ≠ []
  /-- All are characters of words. -/
  chars : ∀ c ∈ w, isPlainChar c = true

variable {c d : Char} {w s r : List Char}

/-! ### Characters -/

theorem ne_of_isPlainChar (hc : isPlainChar c = true) (hd : isPlainChar d = false) : c ≠ d := by
  rintro rfl
  rw [hc] at hd
  cases hd

theorem toNat_of_isPlainChar (hc : isPlainChar c = true) : 48 ≤ c.toNat ∧ c.toNat ≤ 122 := by
  rw [isPlainChar, Bool.or_eq_true, beq_iff_eq] at hc
  obtain halnum | rfl := hc
  · have := Http.toNat_of_isAlphanum halnum
    omega
  · decide

theorem not_mem_of_isPlainChar {cs : List Char} (hc : isPlainChar c = true)
    (hcs : cs.any isPlainChar = false) : c ∉ cs := by
  intro hmem
  rw [List.any_of_mem hmem hc] at hcs
  cases hcs

section
variable (hc : isPlainChar c = true)
include hc

theorem isBlank_of_isPlainChar : isBlank c = false := by
  have hspace := ne_of_isPlainChar hc (d := ' ') (by decide)
  have htab := ne_of_isPlainChar hc (d := '\t') (by decide)
  simp [isBlank, hspace, htab]

theorem isBreak_of_isPlainChar : isBreak c = false := by
  have hfeed := ne_of_isPlainChar hc (d := '\n') (by decide)
  have hrange := toNat_of_isPlainChar hc
  simp only [isBreak, Bool.or_eq_false_iff, beq_eq_false_iff_ne]
  exact ⟨⟨hfeed, by omega⟩, by omega⟩

theorem isSpace_of_isPlainChar : isSpace c = false := by
  rw [isSpace, isBlank_of_isPlainChar hc, isBreak_of_isPlainChar hc]
  rfl

theorem isIndicator_of_isPlainChar : Layout.isIndicator c = false := by
  have hcs : c ∉ "-?:,[]\x7b\x7d#&*!|>'\"%@`".toList := not_mem_of_isPlainChar hc rfl
  rw [Layout.isIndicator, isSpace_of_isPlainChar hc, Bool.false_or]
  simpa using hcs

theorem atDocumentMark_of_isPlainChar (s : List Char) : atDocumentMark (c :: s) = false := by
  have hdash := ne_of_isPlainChar hc (d := '-') (by decide)
  have hdot := ne_of_isPlainChar hc (d := '.') (by decide)
  simp [atDocumentMark, hdash, hdot]

theorem utf8Size_of_isPlainChar : c.utf8Size = 1 := by
  have hrange := toNat_of_isPlainChar hc
  rw [Char.utf8Size_eq_one_iff, UInt32.le_iff_toNat_le]
  exact hrange.2.trans (by decide)

theorem isAllowed_of_isPlainChar : isAllowed c = true := by
  have hrange := toNat_of_isPlainChar hc
  simp only [isAllowed, Bool.or_eq_true, Bool.and_eq_true, decide_eq_true_eq, beq_iff_eq]
  omega

end

theorem byteCount_cons (c : Char) (s : List Char) :
    byteCount (c :: s) = c.utf8Size + byteCount s := by
  have hfold : ∀ (s : List Char) (n : ℕ),
      s.foldl (fun n c => n + c.utf8Size) n = n + byteCount s := by
    intro s
    induction s with
    | nil => exact fun n => rfl
    | cons d s ih =>
      intro n
      rw [byteCount, List.foldl_cons, List.foldl_cons, ih, ih, Nat.zero_add, Nat.add_assoc]
  rw [byteCount, List.foldl_cons, hfold, Nat.zero_add]

/-- Every character of a word is one byte. -/
theorem byteCount_append_of_isPlainChar (hw : ∀ c ∈ w, isPlainChar c = true) (s : List Char) :
    byteCount (w ++ s) = w.length + byteCount s := by
  induction w with
  | nil => exact (Nat.zero_add _).symm
  | cons c w ih =>
    obtain ⟨hc, hw⟩ := List.forall_mem_cons.mp hw
    rw [List.cons_append, byteCount_cons, ih hw, utf8Size_of_isPlainChar hc, List.length_cons]
    omega

/-! ### Words within a scalar -/

theorem plainFrom_cons (hc : isPlainChar c = true) (margin : ℕ) (text : List Char)
    (line column : ℕ) (s : List Char) :
    plainFrom false margin text .none line column (c :: s) =
      plainFrom false margin (c :: text) .none line (column + 1) s := by
  have hcolon := ne_of_isPlainChar hc (d := ':') (by decide)
  rw [plainFrom]
  simp [isBlank_of_isPlainChar hc, isBreak_of_isPlainChar hc, hcolon, Gap.none, Gap.isOpen,
    Gap.push]

/-- A word belongs to the scalar that it stands in. -/
theorem plainFrom_append (hw : ∀ c ∈ w, isPlainChar c = true) (margin : ℕ) (text : List Char)
    (line column : ℕ) (s : List Char) :
    plainFrom false margin text .none line column (w ++ s) =
      plainFrom false margin (w.reverse ++ text) .none line (column + w.length) s := by
  induction w generalizing text column with
  | nil => rfl
  | cons c w ih =>
    obtain ⟨hc, hw⟩ := List.forall_mem_cons.mp hw
    rw [List.cons_append, plainFrom_cons hc, ih hw, List.reverse_cons, List.append_assoc,
      List.length_cons, Nat.add_assoc, Nat.add_comm 1]
    rfl

/-- A colon in front of a blank ends a scalar. -/
theorem plainFrom_colon (margin : ℕ) (text : List Char) (line column : ℕ) (s : List Char) :
    plainFrom false margin text .none line column (':' :: ' ' :: s) =
      some ⟨text.reverse, ⟨':' :: ' ' :: s, line, column⟩, false⟩ := by
  rw [plainFrom]
  simp [isBlank, isBreak, Gap.none, Gap.isOpen, startsWithSpace, isSpace, Gap.isBroken]

/-- The text is at its end, or goes on with a word. -/
def AtWord (s : List Char) : Prop := ∀ c ∈ s.head?, isPlainChar c = true

/-- A scalar ends with its line if the next line is not indented. -/
theorem plainFrom_newline (hs : AtWord s) (text : List Char) (line column : ℕ) :
    plainFrom false 1 text .none line column ('\n' :: s) =
      some ⟨text.reverse, ⟨s, line + 1, 0⟩, true⟩ := by
  cases s with
  | nil => rfl
  | cons c s =>
    have hc := hs c rfl
    have hstep : plainFrom false 1 text .none line column ('\n' :: c :: s) =
        plainFrom false 1 text (.broken '\n' []) (line + 1) 0 (c :: s) := rfl
    rw [hstep, plainFrom]
    simp [isBlank_of_isPlainChar hc, isBreak_of_isPlainChar hc, Gap.isOpen, Gap.isBroken]

end MusicLibrary.Yaml
