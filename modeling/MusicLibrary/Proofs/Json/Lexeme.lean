import MusicLibrary.Proofs.Json.Grammar

/-!
# Strings and numerals, read and skipped

The two readings of strings and numerals take the same extent of text, which is the one that the
grammar gives them: what is read or skipped is well formed, and what is well formed is skipped to
its end. What is read does not depend on the text that follows.
-/

namespace MusicLibrary.Json

/-! ### Escapes -/

/-- The text may stand in front of what is left of a string. -/
def Chunk (t : List Char) : Prop := ∀ u, Chars u → Chars (t ++ u)

theorem lacksFourBytes_eq_false (a b c d : Char) (r : List Char) :
    lacksFourBytes (a :: b :: c :: d :: r) = false := by
  have ha := a.utf8Size_pos
  have hb := b.utf8Size_pos
  have hc := c.utf8Size_pos
  have hd := d.utf8Size_pos
  simp only [lacksFourBytes, List.take_succ_cons, List.take_zero, List.foldl_cons, List.foldl_nil]
  exact decide_eq_false (by omega)

/-- Four hexadecimal digits are read whatever follows. -/
theorem exists_readHex4 {a b c d : Char} (ha : (hexValue? a).isSome) (hb : (hexValue? b).isSome)
    (hc : (hexValue? c).isSome) (hd : (hexValue? d).isSome) :
    ∃ n, ∀ r, readHex4 (a :: b :: c :: d :: r) = .ok (n, r) := by
  obtain ⟨a', ha⟩ := Option.isSome_iff_exists.mp ha
  obtain ⟨b', hb⟩ := Option.isSome_iff_exists.mp hb
  obtain ⟨c', hc⟩ := Option.isSome_iff_exists.mp hc
  obtain ⟨d', hd⟩ := Option.isSome_iff_exists.mp hd
  refine ⟨((a' * 16 + b') * 16 + c') * 16 + d', fun r => ?_⟩
  simp [readHex4, lacksFourBytes_eq_false, ha, hb, hc, hd]

/-- What is read as a code are four hexadecimal digits. -/
theorem exists_of_readHex4 {s r : List Char} {n : ℕ} (h : readHex4 s = .ok (n, r)) :
    ∃ t, s = t ++ r ∧ Chunk ('\\' :: 'u' :: t) ∧ ∀ r', readHex4 (t ++ r') = .ok (n, r') := by
  unfold readHex4 at h
  split_ifs at h with hbytes
  split at h
  · rename_i a b c d r₀
    split at h
    · rename_i ha hb hc hd
      simp only [Except.ok.injEq, Prod.mk.injEq] at h
      obtain ⟨rfl, rfl⟩ := h
      refine ⟨[a, b, c, d], rfl, fun u hu => ?_, fun r' => ?_⟩
      · exact .code (by simp [ha]) (by simp [hb]) (by simp [hc]) (by simp [hd]) hu
      · simp [readHex4, lacksFourBytes_eq_false, ha, hb, hc, hd]
    · cases h
  · cases h

theorem exists_of_readLowSurrogate {high : ℕ} {s r : List Char} {c : Char}
    (h : readLowSurrogate high s = .ok (c, r)) :
    ∃ t, s = t ++ r ∧ Chunk t ∧ ∀ r', readLowSurrogate high (t ++ r') = .ok (c, r') := by
  unfold readLowSurrogate at h
  split at h
  · cases h
  · cases h
  · split at h
    · cases h
    · rename_i hread
      obtain ⟨t, rfl, hchunk, hlocal⟩ := exists_of_readHex4 hread
      split_ifs at h with hlow
      simp only [Except.ok.injEq, Prod.mk.injEq] at h
      obtain ⟨rfl, rfl⟩ := h
      refine ⟨'\\' :: 'u' :: t, rfl, hchunk, fun r' => ?_⟩
      simp [readLowSurrogate, hlocal, hlow]
  · cases h

theorem exists_of_readEscape {s r : List Char} {c : Char} (h : readEscape s = .ok (c, r)) :
    ∃ t, s = t ++ r ∧ Chunk ('\\' :: t) ∧ ∀ r', readEscape (t ++ r') = .ok (c, r') := by
  unfold readEscape at h
  split at h
  · cases h
  · split at h
    · cases h
    · rename_i n r₀ hread
      obtain ⟨t, rfl, hchunk, hlocal⟩ := exists_of_readHex4 hread
      split_ifs at h with hlow hhigh
      · obtain ⟨t', rfl, hchunk', hlocal'⟩ := exists_of_readLowSurrogate h
        refine ⟨'u' :: (t ++ t'), by simp, fun u hu => ?_, fun r' => ?_⟩
        · simpa using hchunk _ (hchunk' u hu)
        · simp [readEscape, hlocal, hlow, hhigh, hlocal']
      · simp only [Except.ok.injEq, Prod.mk.injEq] at h
        obtain ⟨rfl, rfl⟩ := h
        refine ⟨'u' :: t, by simp, hchunk, fun r' => ?_⟩
        simp [readEscape, hlocal, hlow, hhigh]
  · rename_i d s₀ hu
    split at h
    · rename_i e hsimple
      simp only [Except.ok.injEq, Prod.mk.injEq] at h
      obtain ⟨rfl, rfl⟩ := h
      refine ⟨[d], rfl, fun u hu => .escape (by simp [hsimple]) hu, fun r' => ?_⟩
      simp [readEscape, hsimple]
    · cases h

/-! ### Strings -/

theorem eq_of_readStringChar_none {s r : List Char} (h : readStringChar s = .ok (none, r)) :
    s = '"' :: r := by
  unfold readStringChar at h
  split at h
  · cases h
  · cases h; rfl
  · split at h <;> cases h
  · split_ifs at h
    cases h

theorem exists_of_readStringChar_some {s r : List Char} {c : Char}
    (h : readStringChar s = .ok (some c, r)) :
    ∃ t, s = t ++ r ∧ Chunk t ∧ ∀ r', readStringChar (t ++ r') = .ok (some c, r') := by
  unfold readStringChar at h
  split at h
  · cases h
  · cases h
  · split at h
    · cases h
    · rename_i hescape
      obtain ⟨t, rfl, hchunk, hlocal⟩ := exists_of_readEscape hescape
      simp only [Except.ok.injEq, Prod.mk.injEq, Option.some.injEq] at h
      obtain ⟨rfl, rfl⟩ := h
      exact ⟨'\\' :: t, rfl, hchunk, fun r' => by simp [readStringChar, hlocal]⟩
  · rename_i d s₀ hquote hbackslash
    split_ifs at h with hcontrol
    simp only [Except.ok.injEq, Prod.mk.injEq, Option.some.injEq] at h
    obtain ⟨rfl, rfl⟩ := h
    refine ⟨[d], rfl, fun u hu => .plain hquote hbackslash hcontrol hu, fun r' => ?_⟩
    simp [readStringChar, hcontrol]

theorem readChars_of_none {acc s r : List Char} (h : readStringChar s = .ok (none, r)) :
    readChars acc s = .ok (acc.reverse, r) := by
  rw [readChars]
  split <;> simp_all

theorem readChars_of_some {acc s r : List Char} {c : Char}
    (h : readStringChar s = .ok (some c, r)) : readChars acc s = readChars (c :: acc) r := by
  rw [readChars]
  split <;> simp_all

theorem readChars_of_error {acc s : List Char} {e : ReadError} (h : readStringChar s = .error e) :
    readChars acc s = .error e := by
  rw [readChars]
  split <;> simp_all

theorem readStringChar_quote (r : List Char) : readStringChar ('"' :: r) = .ok (none, r) := rfl

/-- A string that is read is well formed, and what follows it does not matter. -/
theorem exists_of_readChars {acc s cs r : List Char} (h : readChars acc s = .ok (cs, r)) :
    ∃ t, s = t ++ '"' :: r ∧ Chars t ∧ ∀ r', readChars acc (t ++ '"' :: r') = .ok (cs, r') := by
  fun_induction readChars acc s with
  | case1 => cases h
  | case2 acc s r₀ hread =>
    simp only [Except.ok.injEq, Prod.mk.injEq] at h
    obtain ⟨rfl, rfl⟩ := h
    refine ⟨[], eq_of_readStringChar_none hread, .nil, fun r' => ?_⟩
    exact readChars_of_none (readStringChar_quote r')
  | case3 acc s c r₀ hread ih =>
    obtain ⟨t, rfl, hchunk, hlocal⟩ := exists_of_readStringChar_some hread
    obtain ⟨t', rfl, hchars, hlocal'⟩ := ih h
    refine ⟨t ++ t', by simp, hchunk t' hchars, fun r' => ?_⟩
    rw [List.append_assoc, readChars_of_some (hlocal _), hlocal']

theorem skipChars_of_true {s r : List Char} (h : skipStringChar s = .ok (true, r)) :
    skipChars s = .ok r := by
  rw [skipChars]
  split <;> simp_all

theorem skipChars_of_false {s r : List Char} (h : skipStringChar s = .ok (false, r)) :
    skipChars s = skipChars r := by
  rw [skipChars]
  split <;> simp_all

/-- A well-formed string is skipped. -/
theorem Chars.skipChars_append {t : List Char} (h : Chars t) (r : List Char) :
    skipChars (t ++ '"' :: r) = .ok r := by
  induction h with
  | nil => exact skipChars_of_true rfl
  | plain hquote hbackslash hcontrol _ ih =>
    rw [List.cons_append, skipChars_of_false, ih]
    simp [skipStringChar, hbackslash, hcontrol]
  | @escape c s hsimple _ ih =>
    have hc : c ≠ 'u' := by
      rintro rfl
      exact absurd hsimple (by decide)
    rw [List.cons_append, List.cons_append, skipChars_of_false, ih]
    simp [skipStringChar, hsimple]
  | code ha hb hc hd _ ih =>
    obtain ⟨n, hread⟩ := exists_readHex4 ha hb hc hd
    simp only [List.cons_append]
    rw [skipChars_of_false, ih]
    simp [skipStringChar, hread]

theorem eq_of_skipStringChar_true {s r : List Char} (h : skipStringChar s = .ok (true, r)) :
    s = '"' :: r := by
  unfold skipStringChar at h
  split at h
  · cases h
  · cases h; rfl
  · cases h
  · split at h <;> cases h
  · split_ifs at h
    cases h
  · split_ifs at h
    cases h

theorem exists_of_skipStringChar_false {s r : List Char} (h : skipStringChar s = .ok (false, r)) :
    ∃ t, s = t ++ r ∧ Chunk t := by
  unfold skipStringChar at h
  split at h
  · cases h
  · cases h
  · cases h
  · split at h
    · cases h
    · rename_i hread
      obtain ⟨t, rfl, hchunk, -⟩ := exists_of_readHex4 hread
      cases h
      exact ⟨'\\' :: 'u' :: t, rfl, hchunk⟩
  · rename_i c s₀ _
    split_ifs at h with hsimple
    cases h
    exact ⟨['\\', c], rfl, fun u hu => .escape hsimple hu⟩
  · rename_i c s₀ hquote hend hcode hescape
    split_ifs at h with hcontrol
    cases h
    have hbackslash : c ≠ '\\' := by
      intro e
      cases r with
      | nil => exact hend e rfl
      | cons d s₁ => exact hescape d s₁ e rfl
    exact ⟨[c], rfl, fun u hu => .plain hquote hbackslash hcontrol hu⟩

/-- A string that is skipped is well formed. -/
theorem exists_of_skipChars {s r : List Char} (h : skipChars s = .ok r) :
    ∃ t, s = t ++ '"' :: r ∧ Chars t := by
  fun_induction skipChars s with
  | case1 => cases h
  | case2 s r₀ hskip =>
    cases h
    exact ⟨[], eq_of_skipStringChar_true hskip, .nil⟩
  | case3 s r₀ hskip ih =>
    obtain ⟨t, rfl, hchunk⟩ := exists_of_skipStringChar_false hskip
    obtain ⟨t', rfl, hchars⟩ := ih h
    exact ⟨t ++ t', by simp, hchunk t' hchars⟩

/-- The quote that ends a string is determined by the text. -/
theorem Chars.unique {t t' r r' : List Char} (h : Chars t) (h' : Chars t')
    (e : t ++ '"' :: r = t' ++ '"' :: r') : t = t' ∧ r = r' := by
  have hskip := h.skipChars_append r
  rw [e, h'.skipChars_append r'] at hskip
  obtain rfl := Except.ok.inj hskip
  exact ⟨List.append_cancel_right e, rfl⟩

/-- A name is read to its quote, and is the one that is written. -/
theorem readName_eq_ok_iff {name r r' : List Char} {key : String} (h : Chars name) :
    readName (name ++ '"' :: r) = .ok (key, r') ↔
      readName (name ++ ['"']) = .ok (key, []) ∧ r' = r := by
  constructor
  · intro hread
    unfold readName at hread ⊢
    split at hread
    · cases hread
    · rename_i hchars
      obtain ⟨t, e, ht, hlocal⟩ := exists_of_readChars hchars
      obtain ⟨rfl, rfl⟩ := h.unique ht e
      simp only [Except.ok.injEq, Prod.mk.injEq] at hread
      obtain ⟨rfl, rfl⟩ := hread
      exact ⟨by rw [hlocal []], rfl⟩
  · rintro ⟨hread, rfl⟩
    unfold readName at hread ⊢
    split at hread
    · cases hread
    · rename_i hchars
      obtain ⟨t, e, ht, hlocal⟩ := exists_of_readChars hchars
      obtain ⟨rfl, -⟩ := h.unique ht e
      simp only [Except.ok.injEq, Prod.mk.injEq] at hread
      obtain ⟨rfl, rfl⟩ := hread
      rw [hlocal r']

/-- The name that is written is the one that is read, whatever follows its quote. -/
theorem Label.key?_eq_some_iff {l : Label} {key : String} (r : List Char) :
    l.key? = some key ↔ readName (l.chars ++ '"' :: r) = .ok (key, r) := by
  rw [readName_eq_ok_iff l.chars_chars, key?]
  constructor
  · intro h
    split at h
    · rename_i hread
      obtain rfl := Option.some.inj h
      exact ⟨hread, rfl⟩
    · cases h
  · rintro ⟨h, -⟩
    rw [h]

/-! ### Numerals -/

/-- The text does not go on with digits. -/
def NoDigit (r : List Char) : Prop := ∀ c ∈ r.head?, c.isDigit = false

theorem Ends.noDigit {r : List Char} (h : Ends r) : NoDigit r := fun c hc => (h c hc).1

theorem NoDigit.any_head? {r : List Char} (h : NoDigit r) : r.head?.any Char.isDigit = false := by
  cases r with
  | nil => rfl
  | cons c r => exact h c rfl

theorem Digits.takeWhile_append {ds r : List Char} (hds : Digits ds) (hr : NoDigit r) :
    (ds ++ r).takeWhile Char.isDigit = ds := by
  rw [List.takeWhile_append_of_pos hds]
  cases r with
  | nil => simp
  | cons c r => simp [hr c rfl]

theorem Digits.dropWhile_append {ds r : List Char} (hds : Digits ds) (hr : NoDigit r) :
    (ds ++ r).dropWhile Char.isDigit = r := by
  rw [List.dropWhile_append_of_pos hds]
  cases r with
  | nil => rfl
  | cons c r => simp [hr c rfl]

theorem digits_takeWhile (s : List Char) : Digits (s.takeWhile Char.isDigit) :=
  fun _ hc => List.mem_takeWhile_imp hc

/-- The digits of an exponent, from behind its sign. -/
def readExponentDigits (minus : Bool) : List Char → Except ReadError (ℤ × List Char)
  | [] => .error (.ended .value)
  | c :: r =>
    if c.isDigit then
      .ok (exponentValue minus (c :: r.takeWhile Char.isDigit), r.dropWhile Char.isDigit)
    else .error (.malformed .badNumber)

/-- The text behind the digits of an exponent that is skipped, from behind its sign. -/
def skipExponentDigits : List Char → Except ReadError (List Char)
  | [] => .error (.malformed .badNumber)
  | c :: r => if c.isDigit then .ok (r.dropWhile Char.isDigit) else .error (.malformed .badNumber)

/-- Both readings take the sign off first. -/
theorem exists_readExponent_eq (s : List Char) : ∃ sign minus t, s = sign ++ t ∧
    Sign sign minus ∧ readExponent s = readExponentDigits minus t ∧
    skipExponent s = skipExponentDigits t := by
  rcases s with _ | ⟨c, t⟩
  · exact ⟨[], false, [], rfl, .absent, rfl, rfl⟩
  · by_cases hplus : c = '+'
    · subst hplus
      exact ⟨['+'], false, t, rfl, .plus, by cases t <;> rfl, by cases t <;> rfl⟩
    · by_cases hminus : c = '-'
      · subst hminus
        exact ⟨['-'], true, t, rfl, .minus, by cases t <;> rfl, by cases t <;> rfl⟩
      · refine ⟨[], false, c :: t, rfl, .absent, ?_, ?_⟩
        · simp [readExponent, hplus, hminus, readExponentDigits, exponentValue]
        · simp [skipExponent, hplus, hminus, skipExponentDigits]

theorem exists_of_readExponent {s r : List Char} {n : ℤ} (h : readExponent s = .ok (n, r)) :
    ∃ sign minus ds, s = sign ++ (ds ++ r) ∧ Sign sign minus ∧ ds ≠ [] ∧ Digits ds ∧
      n = exponentValue minus ds := by
  obtain ⟨sign, minus, t, rfl, hsign, hread, -⟩ := exists_readExponent_eq s
  rw [hread] at h
  cases t with
  | nil => cases h
  | cons c t =>
    rw [readExponentDigits] at h
    split_ifs at h with hc
    simp only [Except.ok.injEq, Prod.mk.injEq] at h
    obtain ⟨rfl, rfl⟩ := h
    refine ⟨sign, minus, c :: t.takeWhile Char.isDigit, ?_, hsign, List.cons_ne_nil _ _,
      List.forall_mem_cons.mpr ⟨hc, digits_takeWhile t⟩, rfl⟩
    rw [List.cons_append, List.takeWhile_append_dropWhile]

theorem readExponent_append {sign ds r : List Char} {minus : Bool} (hsign : Sign sign minus)
    (hne : ds ≠ []) (hds : Digits ds) (hr : NoDigit r) :
    readExponent (sign ++ (ds ++ r)) = .ok (exponentValue minus ds, r) := by
  obtain ⟨c, t, rfl⟩ := List.exists_cons_of_ne_nil hne
  obtain ⟨hc, ht⟩ := List.forall_mem_cons.mp hds
  have hdigits : readExponentDigits minus (c :: t ++ r) =
      .ok (exponentValue minus (c :: t), r) := by
    rw [List.cons_append, readExponentDigits, if_pos hc, Digits.takeWhile_append ht hr,
      Digits.dropWhile_append ht hr]
  rw [← hdigits]
  cases hsign with
  | absent =>
    have hplus : c ≠ '+' := by rintro rfl; exact absurd hc (by decide)
    have hminus : c ≠ '-' := by rintro rfl; exact absurd hc (by decide)
    simp [readExponent, hplus, hminus, readExponentDigits, exponentValue]
  | plus => rfl
  | minus => rfl

/-- The exponent of a numeral if it has one. -/
def readOptionalExponent : List Char → Except ReadError (Option ℤ × List Char)
  | [] => .ok (none, [])
  | c :: r =>
    if c = 'e' ∨ c = 'E' then (readExponent r).map fun p => (some p.1, p.2)
    else .ok (none, c :: r)

theorem exists_of_readOptionalExponent {s r : List Char} {e : Option ℤ}
    (h : readOptionalExponent s = .ok (e, r)) : ∃ t, s = t ++ r ∧ Exponent t e := by
  cases s with
  | nil =>
    cases h
    exact ⟨[], rfl, .absent⟩
  | cons c s =>
    rw [readOptionalExponent] at h
    split_ifs at h with hletter
    · cases hread : readExponent s with
      | error e => rw [hread] at h; cases h
      | ok p =>
        rw [hread] at h
        obtain ⟨sign, minus, ds, rfl, hsign, hne, hds, hn⟩ := exists_of_readExponent hread
        cases h
        refine ⟨c :: (sign ++ ds), by simp, ?_⟩
        rw [hn]
        exact .present hletter hsign hne hds
    · cases h
      exact ⟨[], rfl, .absent⟩

theorem Exponent.readOptionalExponent_append {t r : List Char} {e : Option ℤ} (h : Exponent t e)
    (hr : Ends r) : readOptionalExponent (t ++ r) = .ok (e, r) := by
  cases h with
  | absent =>
    cases r with
    | nil => rfl
    | cons c r =>
      obtain ⟨-, -, he, hE⟩ := hr c rfl
      exact if_neg (by simp [he, hE])
  | present hletter hsign hne hds =>
    rw [List.cons_append, List.append_assoc, readOptionalExponent, if_pos hletter,
      readExponent_append hsign hne hds hr.noDigit]
    rfl

theorem readFraction_eq (minus : Bool) (whole : List Char) {s : List Char}
    (hs : s.head? ≠ some '.') :
    readFraction minus whole s =
      (readOptionalExponent s).map fun p => (⟨minus, whole, [], p.1⟩, p.2) := by
  cases s with
  | nil => rfl
  | cons c r =>
    have hc : c ≠ '.' := by simpa using hs
    by_cases he : c = 'e' ∨ c = 'E'
    · simp only [readFraction, readOptionalExponent, he, if_true]
      cases readExponent r <;> rfl
    · simp only [readFraction, readOptionalExponent, he, if_false]
      rfl

theorem readFraction_point (minus : Bool) (whole : List Char) {s : List Char}
    (hs : s.takeWhile Char.isDigit ≠ []) :
    readFraction minus whole ('.' :: s) =
      (readOptionalExponent (s.dropWhile Char.isDigit)).map fun p =>
        (⟨minus, whole, s.takeWhile Char.isDigit, p.1⟩, p.2) := by
  simp only [readFraction, List.isEmpty_iff, hs, if_false]
  cases s.dropWhile Char.isDigit with
  | nil => rfl
  | cons c r =>
    by_cases he : c = 'e' ∨ c = 'E'
    · simp only [readOptionalExponent, he, if_true]
      cases readExponent r <;> rfl
    · simp only [readOptionalExponent, he, if_false]
      rfl

theorem exists_of_readFraction {minus : Bool} {whole s r : List Char} {n : Numeral}
    (h : readFraction minus whole s = .ok (n, r)) :
    ∃ fractionText fraction exponentText exponent, s = fractionText ++ (exponentText ++ r) ∧
      Fraction fractionText fraction ∧ Exponent exponentText exponent ∧
      n = ⟨minus, whole, fraction, exponent⟩ := by
  by_cases hpoint : s.head? = some '.'
  · obtain ⟨t, rfl⟩ := List.head?_eq_some_iff.mp hpoint
    by_cases hne : t.takeWhile Char.isDigit = []
    · simp [readFraction, hne] at h
    · rw [readFraction_point minus whole hne] at h
      cases hread : readOptionalExponent (t.dropWhile Char.isDigit) with
      | error e => rw [hread] at h; cases h
      | ok p =>
        rw [hread] at h
        obtain ⟨exponentText, ht, hexponent⟩ := exists_of_readOptionalExponent hread
        cases h
        refine ⟨'.' :: t.takeWhile Char.isDigit, _, exponentText, _, ?_,
          .present hne (digits_takeWhile t), hexponent, rfl⟩
        rw [List.cons_append, ← ht, List.takeWhile_append_dropWhile]
  · rw [readFraction_eq minus whole hpoint] at h
    cases hread : readOptionalExponent s with
    | error e => rw [hread] at h; cases h
    | ok p =>
      rw [hread] at h
      obtain ⟨exponentText, hs, hexponent⟩ := exists_of_readOptionalExponent hread
      cases h
      exact ⟨[], [], exponentText, _, hs, .absent, hexponent, rfl⟩

/-- No exponent starts with a digit or a point. -/
theorem Exponent.head_append {t r : List Char} {e : Option ℤ} (h : Exponent t e) (hr : Ends r) :
    ∀ c ∈ (t ++ r).head?, c.isDigit = false ∧ c ≠ '.' := by
  cases h with
  | absent => exact fun c hc => ⟨(hr c hc).1, (hr c hc).2.1⟩
  | present hletter _ _ _ =>
    intro c hc
    obtain rfl := Option.some.inj hc
    rcases hletter with rfl | rfl <;> decide

theorem readFraction_append (minus : Bool) (whole : List Char)
    {fractionText fraction exponentText r : List Char} {exponent : Option ℤ}
    (hfraction : Fraction fractionText fraction) (hexponent : Exponent exponentText exponent)
    (hr : Ends r) : readFraction minus whole (fractionText ++ (exponentText ++ r)) =
      .ok (⟨minus, whole, fraction, exponent⟩, r) := by
  have hhead := hexponent.head_append hr
  have hread := hexponent.readOptionalExponent_append hr
  cases hfraction with
  | absent =>
    rw [List.nil_append, readFraction_eq, hread]
    · rfl
    · exact fun e => (hhead '.' e).2 rfl
  | present hne hds =>
    have hstop : NoDigit (exponentText ++ r) := fun c hc => (hhead c hc).1
    have htake := Digits.takeWhile_append hds hstop
    rw [List.cons_append, readFraction_point minus whole (by rw [htake]; exact hne), htake,
      Digits.dropWhile_append hds hstop, hread]
    rfl

/-- A numeral that is read is well formed. -/
theorem exists_of_readNumeral {minus : Bool} {s r : List Char} {n : Numeral}
    (h : readNumeral minus s = .ok (n, r)) : ∃ t, s = t ++ r ∧ Spells minus t n := by
  cases s with
  | nil => cases h
  | cons c s =>
    rw [readNumeral] at h
    split_ifs at h with hzero hleading hdigit
    · obtain ⟨_, _, _, _, rfl, hfraction, hexponent, rfl⟩ := exists_of_readFraction h
      subst hzero
      exact ⟨_, by simp, .intro .zero hfraction hexponent⟩
    · obtain ⟨_, _, _, _, hs, hfraction, hexponent, rfl⟩ := exists_of_readFraction h
      refine ⟨_, ?_, .intro (.digits hdigit hzero (digits_takeWhile s)) hfraction hexponent⟩
      rw [List.append_assoc, List.append_assoc, ← hs, List.cons_append,
        List.takeWhile_append_dropWhile]

/-- Behind the digits before the point there is no digit. -/
theorem Fraction.noDigit_append {fractionText fraction exponentText r : List Char}
    {exponent : Option ℤ} (hfraction : Fraction fractionText fraction)
    (hexponent : Exponent exponentText exponent) (hr : Ends r) :
    NoDigit (fractionText ++ (exponentText ++ r)) := by
  cases hfraction with
  | absent => exact fun c hc => (hexponent.head_append hr c hc).1
  | present _ _ =>
    intro c hc
    obtain rfl := Option.some.inj hc
    decide

/-- A well-formed numeral is read if the text does not go on with it. -/
theorem Spells.readNumeral_append {minus : Bool} {t r : List Char} {n : Numeral}
    (h : Spells minus t n) (hr : Ends r) : readNumeral minus (t ++ r) = .ok (n, r) := by
  obtain ⟨hwhole, hfraction, hexponent⟩ := h
  have hstop := hfraction.noDigit_append hexponent hr
  have hread := fun whole => readFraction_append minus whole hfraction hexponent hr
  rw [List.append_assoc, List.append_assoc]
  cases hwhole with
  | zero =>
    rw [List.cons_append, List.nil_append, readNumeral, if_pos rfl, hstop.any_head?, if_neg, hread]
    exact Bool.false_ne_true
  | digits hc hzero hds =>
    rw [List.cons_append, readNumeral, if_neg hzero, if_pos hc, Digits.takeWhile_append hds hstop,
      Digits.dropWhile_append hds hstop, hread]

/-! What is skipped is what can be read. -/

/-- The text behind the exponent of a numeral that is skipped. -/
def skipOptionalExponent : List Char → Except ReadError (List Char)
  | [] => .ok []
  | c :: r => if c = 'e' ∨ c = 'E' then skipExponent r else .ok (c :: r)

theorem skipExponent_eq_ok_iff {s r : List Char} :
    skipExponent s = .ok r ↔ ∃ n, readExponent s = .ok (n, r) := by
  obtain ⟨sign, minus, t, -, -, hread, hskip⟩ := exists_readExponent_eq s
  rw [hread, hskip]
  cases t with
  | nil => simp [skipExponentDigits, readExponentDigits]
  | cons c t => by_cases hc : c.isDigit <;> simp [skipExponentDigits, readExponentDigits, hc]

theorem skipOptionalExponent_eq_ok_iff {s r : List Char} :
    skipOptionalExponent s = .ok r ↔ ∃ e, readOptionalExponent s = .ok (e, r) := by
  cases s with
  | nil => simp [skipOptionalExponent, readOptionalExponent]
  | cons c s =>
    by_cases hletter : c = 'e' ∨ c = 'E'
    · simp only [skipOptionalExponent, readOptionalExponent, hletter, if_true,
        skipExponent_eq_ok_iff]
      rcases readExponent s with _ | ⟨n, t⟩ <;> simp [Except.map]
    · simp [skipOptionalExponent, readOptionalExponent, hletter]

theorem skipFraction_eq_ok_iff (minus : Bool) (whole : List Char) {s r : List Char} :
    skipFraction s = .ok r ↔ ∃ n, readFraction minus whole s = .ok (n, r) := by
  by_cases hpoint : s.head? = some '.'
  · obtain ⟨t, rfl⟩ := List.head?_eq_some_iff.mp hpoint
    by_cases hne : t.takeWhile Char.isDigit = []
    · simp [skipFraction, readFraction, hne]
    · have hskip : skipFraction ('.' :: t) = skipOptionalExponent (t.dropWhile Char.isDigit) := by
        simp only [skipFraction, List.isEmpty_iff, hne, if_false]
        rfl
      rw [hskip, skipOptionalExponent_eq_ok_iff, readFraction_point minus whole hne]
      rcases readOptionalExponent (t.dropWhile Char.isDigit) with _ | ⟨e, u⟩ <;> simp [Except.map]
  · have hskip : skipFraction s = skipOptionalExponent s := by
      cases s with
      | nil => rfl
      | cons c s =>
        have hc : c ≠ '.' := by simpa using hpoint
        simp only [skipFraction, skipOptionalExponent]
    rw [hskip, skipOptionalExponent_eq_ok_iff, readFraction_eq minus whole hpoint]
    rcases readOptionalExponent s with _ | ⟨e, u⟩ <;> simp [Except.map]

/-- A numeral can be skipped if and only if it can be read. -/
theorem skipNumeral_eq_ok_iff (minus : Bool) {s r : List Char} :
    skipNumeral s = .ok r ↔ ∃ n, readNumeral minus s = .ok (n, r) := by
  cases s with
  | nil => simp [skipNumeral, readNumeral]
  | cons c s =>
    rw [skipNumeral, readNumeral]
    split_ifs
    · simp
    · exact skipFraction_eq_ok_iff minus _
    · exact skipFraction_eq_ok_iff minus _
    · simp

end MusicLibrary.Json
