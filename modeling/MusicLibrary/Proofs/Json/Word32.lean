import MusicLibrary.Proofs.Json.Written

/-!
# Which numerals are words

A number of 32 bits is read from a numeral if and only if this is the number in digits, without a
sign, a point, an exponent or a zero in front of other digits, and the number is below `2 ^ 32`
(`takes_word32_iff`). All other numerals stand for a negative integer, for one that is too large or
for a double, and none of these is a word, whatever its value: `-0`, `1.0` and `1e3` are doubles.
-/

namespace MusicLibrary.Json

variable {l : List Char} {n m : ℕ}

/-- The text is a numeral. -/
inductive IsNumber : List Char → Prop where
  /-- It has no sign. -/
  | numeral {l : List Char} {s : Numeral} : Spells false l s → IsNumber l
  /-- It has a minus sign. -/
  | negative {l : List Char} {s : Numeral} : Spells true l s → IsNumber ('-' :: l)

/-- The text is the number in digits, with no zero in front of others. -/
def WritesNat (l : List Char) (n : ℕ) : Prop := Whole l ∧ Nat.ofDigitChars 10 l 0 = n

theorem IsNumber.value (h : IsNumber l) : Value l := by
  cases h with
  | numeral h => exact .numeral h
  | negative h => exact .negative h

theorem IsNumber.ne_null (h : IsNumber l) : l ≠ writeNull := by
  rintro rfl
  cases h with
  | numeral h =>
    obtain ⟨c, s, hnull, hc⟩ := h.head
    obtain ⟨rfl, -⟩ := List.cons.inj hnull
    exact absurd hc (by decide)

theorem writesNat_writeNat (n : ℕ) : WritesNat (writeNat n) n :=
  ⟨whole_writeNat n, Nat.ofDigitChars_ten_toDigits⟩

theorem spells_of_whole (minus : Bool) (h : Whole l) : Spells minus l ⟨minus, l, [], none⟩ := by
  have hspells : Spells minus (l ++ ([] ++ [])) ⟨minus, l, [], none⟩ := .intro h .absent .absent
  rwa [List.append_nil, List.append_nil] at hspells

theorem WritesNat.isNumber (h : WritesNat l n) : IsNumber l :=
  .numeral (spells_of_whole false h.1)

/-! ### Natural numbers -/

/-- If no digit is left over, all of them have been collected. -/
theorem eq_of_collect_eq {ds : List Char} (h : collect n ds = (m, 0)) :
    Nat.ofDigitChars 10 ds n = m := by
  induction ds generalizing n with
  | nil => exact congrArg Prod.fst h
  | cons c ds ih =>
    simp only [collect] at h
    split_ifs at h
    · rw [Nat.ofDigitChars_cons, Nat.mul_comm]
      exact ih h
    · cases h

/-- A numeral of digits alone is a natural number if it fits, and no other is one. -/
theorem Numeral.value_eq_natural_iff {s : Numeral} : s.value = some (.natural n) ↔
    s.minus = false ∧ s.fraction = [] ∧ s.exponent = none ∧ collect 0 s.whole = (n, 0) := by
  obtain ⟨minus, whole, fraction, exponent⟩ := s
  simp only [value]
  constructor
  · intro h
    split_ifs at h with hinteger hmoved hminus
    · -- digits are left over
      simp at h
    · obtain rfl := Number.natural.inj (Option.some.inj h)
      simp only [Bool.and_eq_true, decide_eq_true_eq, Option.isNone_iff_eq_none] at hinteger
      have hmoved : (collect 0 whole).2 = 0 := not_not.mp hmoved
      have hminus : minus = false := by simpa using hminus
      exact ⟨hminus, hinteger.1, hinteger.2, Prod.ext rfl hmoved⟩
    · cases h
    · cases h
    · -- there is a point or an exponent
      simp at h
  · rintro ⟨rfl, rfl, rfl, hcollect⟩
    simp [hcollect]

/-- Only a natural number is a word. -/
theorem Number.toWord32_eq_ok_iff {x : Number} {w : UInt32} :
    x.toWord32 = .ok w ↔ x = .natural w.toNat := by
  constructor
  · intro h
    cases x with
    | natural n =>
      simp only [toWord32] at h
      split_ifs at h with hlt
      obtain rfl := Except.ok.inj h
      rw [UInt32.toNat_ofNat_of_lt' hlt]
    | negative n => cases h
    | double minus x => cases h
  · rintro rfl
    have hlt : w.toNat < word32Limit := w.toNat_lt
    simp [toWord32, hlt]

theorem Spells.eq_whole {minus : Bool} {s : Numeral} (h : Spells minus l s)
    (hfraction : s.fraction = []) (hexponent : s.exponent = none) : Whole l ∧ s.whole = l := by
  obtain ⟨hwhole, hfractionText, hexponentText⟩ := h
  cases hfractionText with
  | present hne _ => exact absurd hfraction hne
  | absent =>
    cases hexponentText with
    | present => cases hexponent
    | absent => exact ⟨by simpa using hwhole, by simp⟩

/-- **A word is read from its digits and from nothing else.** -/
theorem takes_word32_iff {w : UInt32} : word32.Takes l w ↔ WritesNat l w.toNat := by
  rw [specified_word32.takes_iff]
  constructor
  · rintro (⟨hspells, hvalue, hword⟩ | ⟨hspells, hvalue, hword⟩)
    · obtain rfl := Number.toWord32_eq_ok_iff.mp hword
      obtain ⟨-, hfraction, hexponent, hcollect⟩ := Numeral.value_eq_natural_iff.mp hvalue
      obtain ⟨hwhole, hl⟩ := hspells.eq_whole hfraction hexponent
      exact ⟨hwhole, by rw [← hl]; exact eq_of_collect_eq hcollect⟩
    · obtain rfl := Number.toWord32_eq_ok_iff.mp hword
      obtain ⟨hminus, -⟩ := Numeral.value_eq_natural_iff.mp hvalue
      cases hspells
      cases hminus
  · rintro ⟨hwhole, hn⟩
    have hlt : Nat.ofDigitChars 10 l 0 < naturalLimit := by
      rw [hn]
      exact Nat.lt_trans w.toNat_lt (by decide)
    have hvalue : Numeral.value ⟨false, l, [], none⟩ = some (.natural w.toNat) :=
      Numeral.value_eq_natural_iff.mpr ⟨rfl, rfl, rfl, by rw [collect_eq hlt, hn]⟩
    exact .numeral (spells_of_whole false hwhole) hvalue (Number.toWord32_eq_ok_iff.mpr rfl)

/-- Where a number may be `null`, a numeral is read as a number or not at all. -/
theorem takes_nullable_word32_iff (h : IsNumber l) {o : Option UInt32} :
    (nullable word32).Takes l o ↔ ∃ w : UInt32, WritesNat l w.toNat ∧ o = some w := by
  rw [exact_word32.specified_nullable.takes_iff]
  constructor
  · rintro (_ | ⟨-, htakes⟩)
    · exact absurd rfl h.ne_null
    · exact ⟨_, takes_word32_iff.mp htakes, rfl⟩
  · rintro ⟨w, hw, rfl⟩
    exact .value h.ne_null (takes_word32_iff.mpr hw)

end MusicLibrary.Json
