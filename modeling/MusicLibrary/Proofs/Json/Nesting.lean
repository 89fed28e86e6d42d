import MusicLibrary.Proofs.Json.Written

/-!
# How deep a text nests

The greatest number of arrays and objects that a text opens at once, counted from its characters:
brackets and braces count outside of strings (`nesting`). A text counts as `Nests` says if it is
closed in itself, so that what is counted of it does not depend on the text around it.
-/

namespace MusicLibrary.Json

variable {d d' : ℕ} {s t : List Char}

/-- Where the count stands. -/
inductive Place where
  /-- Between lexemes, or in one that is no string. -/
  | outside
  /-- In a string. -/
  | inside
  /-- In a string, behind a backslash. -/
  | escaped

/-- The greatest number of arrays and objects that are open at once in a part of a text, `opened` of
them in front of it. -/
def deepest (opened : ℕ) : Place → List Char → ℕ
  | _, [] => opened
  | .outside, c :: s =>
    if c = '"' then deepest opened .inside s
    else if c = '[' ∨ c = '{' then deepest (opened + 1) .outside s
    else if c = ']' ∨ c = '}' then max opened (deepest (opened - 1) .outside s)
    else deepest opened .outside s
  | .inside, c :: s =>
    if c = '"' then deepest opened .outside s
    else if c = '\\' then deepest opened .escaped s
    else deepest opened .inside s
  | .escaped, _ :: s => deepest opened .inside s

/-- The greatest number of arrays and objects that a text opens at once. -/
def nesting (s : List Char) : ℕ := deepest 0 .outside s

theorem le_deepest (opened : ℕ) (place : Place) (s : List Char) :
    opened ≤ deepest opened place s := by
  fun_induction deepest opened place s with
  | case1 => exact Nat.le_refl _
  | _ => omega

/-- A text that closes what it opens, and opens `d` arrays and objects at once. -/
def Nests (s : List Char) (d : ℕ) : Prop :=
  ∀ (opened : ℕ) (r : List Char),
    deepest opened .outside (s ++ r) = max (opened + d) (deepest opened .outside r)

theorem Nests.nesting_eq (h : Nests s d) : nesting s = d := by
  have hdeepest := h 0 []
  rw [List.append_nil] at hdeepest
  rw [nesting, hdeepest]
  simp [deepest]

theorem Nests.append (hs : Nests s d) (ht : Nests t d') : Nests (s ++ t) (max d d') := by
  intro opened r
  rw [List.append_assoc, hs, ht]
  omega

/-- A text without quotes, brackets and braces opens nothing. -/
theorem nests_plain (h : ∀ c ∈ s, c ∉ ['"', '[', ']', '{', '}']) : Nests s 0 := by
  intro opened r
  rw [Nat.add_zero, max_eq_right (le_deepest opened .outside r)]
  induction s with
  | nil => rfl
  | cons c s ih =>
    obtain ⟨hc, hs⟩ := List.forall_mem_cons.mp h
    simp only [List.mem_cons, List.not_mem_nil, or_false, not_or] at hc
    simp [deepest, hc, ih hs]

theorem ne_of_hexValue? {c : Char} (h : (hexValue? c).isSome) : c ≠ '"' ∧ c ≠ '\\' := by
  constructor <;> rintro rfl <;> exact absurd h (by decide)

/-- Nothing is counted in a string. -/
theorem Chars.deepest_inside (h : Chars s) (opened : ℕ) (r : List Char) :
    deepest opened .inside (s ++ '"' :: r) = deepest opened .outside r := by
  induction h with
  | nil => simp [deepest]
  | plain hquote hbackslash _ _ ih => simp [deepest, hquote, hbackslash, ih]
  | escape _ _ ih => simp [deepest, ih]
  | code ha hb hc hd _ ih =>
    simp [deepest, ne_of_hexValue? ha, ne_of_hexValue? hb, ne_of_hexValue? hc, ne_of_hexValue? hd,
      ih]

theorem nests_writeString (s : String) : Nests (writeString s) 0 := by
  intro opened r
  rw [Nat.add_zero, max_eq_right (le_deepest opened .outside r)]
  simp [writeString, deepest, (chars_writeString s).deepest_inside]

/-- What stands in brackets or braces nests one deeper in them. -/
theorem Nests.enclosed {o c : Char} (hoc : o = '[' ∧ c = ']' ∨ o = '{' ∧ c = '}')
    (h : Nests s d) : Nests (o :: s ++ [c]) (d + 1) := by
  intro opened r
  have hopen : deepest opened .outside (o :: s ++ [c] ++ r) =
      deepest (opened + 1) .outside (s ++ c :: r) := by
    rcases hoc with ⟨rfl, rfl⟩ | ⟨rfl, rfl⟩ <;> simp [deepest]
  have hclose : deepest (opened + 1) .outside (c :: r) =
      max (opened + 1) (deepest opened .outside r) := by
    rcases hoc with ⟨rfl, rfl⟩ | ⟨rfl, rfl⟩ <;> simp [deepest]
  rw [hopen, h, hclose]
  omega

theorem nests_continued {ts : List (List Char)} {ds : List ℕ} (h : List.Forall₂ Nests ts ds) :
    Nests (continued ts) (ds.foldr max 0) := by
  induction h with
  | nil => exact nests_plain nofun
  | @cons t d ts ds ht _ ih =>
    have hcomma : Nests [','] 0 := nests_plain (by simp)
    have hnests := hcomma.append (ht.append ih)
    rwa [Nat.zero_max] at hnests

/-- Texts with commas between them nest as deep as the deepest. -/
theorem nests_separated {ts : List (List Char)} {ds : List ℕ} (h : List.Forall₂ Nests ts ds) :
    Nests (separated ts) (ds.foldr max 0) := by
  cases h with
  | nil => exact nests_plain nofun
  | cons ht hts =>
    rw [separated_cons]
    exact ht.append (nests_continued hts)

theorem nests_writeArray {ts : List (List Char)} {ds : List ℕ} (h : List.Forall₂ Nests ts ds) :
    Nests (writeArray ts) (ds.foldr max 0 + 1) :=
  (nests_separated h).enclosed (.inl ⟨rfl, rfl⟩)

theorem nests_writeObject {members : List (String × List Char)} {ds : List ℕ}
    (h : List.Forall₂ (fun m d => Nests m.2 d) members ds) :
    Nests (writeObject members) (ds.foldr max 0 + 1) := by
  refine (nests_separated ?_).enclosed (.inr ⟨rfl, rfl⟩)
  rw [List.forall₂_map_left_iff]
  refine h.imp fun m d hm => ?_
  have hcolon : Nests [':'] 0 := nests_plain (by simp)
  have hnests := (nests_writeString m.1).append (hcolon.append hm)
  rwa [Nat.zero_max, Nat.zero_max] at hnests

end MusicLibrary.Json
