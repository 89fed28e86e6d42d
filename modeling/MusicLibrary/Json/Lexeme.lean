import MusicLibrary.Json.ReadError

/-!
# Words, strings and numerals of JSON

Each function reads one lexeme from the start of a text and gives what it says and the text after it.
Strings and numerals have two readings. The one that is used decodes escapes and requires surrogates to
come in pairs; the one for values that nobody asked for only finds where the lexeme ends. That a lexeme
is not empty is stated beside each function, in the form that recursion over texts needs: the text
after it is shorter.
-/

namespace MusicLibrary.Json

/-- The white space between lexemes. -/
def isBlank (c : Char) : Bool :=
  c == ' ' || c == '\n' || c == '\t' || c == '\r'

/-- The text from the first lexeme on. -/
def skipBlanks (s : List Char) : List Char := s.dropWhile isBlank

theorem skipBlanks_length_le (s : List Char) : (skipBlanks s).length ≤ s.length :=
  (List.dropWhile_sublist _).length_le

theorem dropDigits_length_le (s : List Char) : (s.dropWhile Char.isDigit).length ≤ s.length :=
  (List.dropWhile_sublist _).length_le

/-! ### Words -/

/-- The text after `word`, with which `s` must start. -/
def readWord : List Char → List Char → Except ReadError (List Char)
  | [], s => .ok s
  | _ :: _, [] => .error (.ended .value)
  | w :: word, c :: s => if c = w then readWord word s else .error (.malformed .wordExpected)

theorem readWord_length_le {word s r : List Char} (h : readWord word s = .ok r) : r.length ≤ s.length := by
  fun_induction readWord word s with
  | case1 s => cases h; exact Nat.le_refl _
  | case2 => cases h
  | case3 w word s ih => exact Nat.le_succ_of_le (ih h)
  | case4 => cases h

/-! ### Strings -/

/-- The value of a hexadecimal digit. -/
def hexValue? (c : Char) : Option Nat :=
  if '0' ≤ c ∧ c ≤ '9' then some (c.toNat - 48)
  else if 'a' ≤ c ∧ c ≤ 'f' then some (c.toNat - 87)
  else if 'A' ≤ c ∧ c ≤ 'F' then some (c.toNat - 55)
  else none

/-- Fewer than four bytes are left of a text in UTF-8. -/
def lacksFourBytes (s : List Char) : Bool :=
  (s.take 4).foldl (fun n c => n + c.utf8Size) 0 < 4

/-- The number written by the first four characters, all hexadecimal digits. -/
def readHex4 (s : List Char) : Except ReadError (Nat × List Char) :=
  if lacksFourBytes s then .error (.ended .string)
  else
    match s with
    | a :: b :: c :: d :: r =>
      match hexValue? a, hexValue? b, hexValue? c, hexValue? d with
      | some a, some b, some c, some d => .ok (((a * 16 + b) * 16 + c) * 16 + d, r)
      | _, _, _, _ => .error (.malformed .badEscape)
    | _ => .error (.malformed .badEscape)

theorem readHex4_shortens {s r : List Char} {n : Nat} (h : readHex4 s = .ok (n, r)) : r.length < s.length := by
  unfold readHex4 at h
  split at h
  · cases h
  · split at h
    · split at h
      · cases h; simp only [List.length_cons]; omega
      · cases h
    · cases h

/-- The escapes of one letter. -/
def simpleEscape? (c : Char) : Option Char :=
  if c = '"' then some '"'
  else if c = '\\' then some '\\'
  else if c = '/' then some '/'
  else if c = 'b' then some (Char.ofNat 8)
  else if c = 'f' then some (Char.ofNat 12)
  else if c = 'n' then some '\n'
  else if c = 'r' then some '\r'
  else if c = 't' then some '\t'
  else none

/-- The first half of a surrogate pair. -/
def isHighSurrogate (n : Nat) : Bool := 0xD800 ≤ n && n ≤ 0xDBFF

/-- The second half of a surrogate pair. -/
def isLowSurrogate (n : Nat) : Bool := 0xDC00 ≤ n && n ≤ 0xDFFF

/-- The character whose surrogate pair starts with `high`, the second half being read from an escape. -/
def readLowSurrogate (high : Nat) : List Char → Except ReadError (Char × List Char)
  | [] => .error (.ended .string)
  | '\\' :: [] => .error (.ended .string)
  | '\\' :: 'u' :: s =>
    match readHex4 s with
    | .error e => .error e
    | .ok (low, r) =>
      if isLowSurrogate low then .ok (Char.ofNat ((high - 0xD800) * 0x400 + (low - 0xDC00) + 0x10000), r)
      else .error (.malformed .loneSurrogate)
  | _ => .error (.malformed .unpairedSurrogate)

theorem readLowSurrogate_shortens {high : Nat} {s r : List Char} {c : Char}
    (h : readLowSurrogate high s = .ok (c, r)) : r.length < s.length := by
  unfold readLowSurrogate at h
  split at h
  · cases h
  · cases h
  · split at h
    · cases h
    · rename_i hr
      have := readHex4_shortens hr
      split at h
      · injection h with h
        injection h with _ h
        subst h
        simp only [List.length_cons]; omega
      · cases h
  · cases h

/-- The character of an escape, read after its backslash. -/
def readEscape : List Char → Except ReadError (Char × List Char)
  | [] => .error (.ended .string)
  | 'u' :: s =>
    match readHex4 s with
    | .error e => .error e
    | .ok (n, r) =>
      if isLowSurrogate n then .error (.malformed .loneSurrogate)
      else if isHighSurrogate n then readLowSurrogate n r
      else .ok (Char.ofNat n, r)
  | c :: s =>
    match simpleEscape? c with
    | some d => .ok (d, s)
    | none => .error (.malformed .badEscape)

theorem readEscape_shortens {s r : List Char} {c : Char} (h : readEscape s = .ok (c, r)) :
    r.length < s.length := by
  unfold readEscape at h
  split at h
  · cases h
  · split at h
    · cases h
    · rename_i hr
      have h1 := readHex4_shortens hr
      split at h
      · cases h
      · split at h
        · have h2 := readLowSurrogate_shortens h
          simp only [List.length_cons]; omega
        · cases h; simp only [List.length_cons]; omega
  · split at h
    · cases h; simp only [List.length_cons]; omega
    · cases h

/-- The next character of a string, `none` at its closing quote. -/
def readStringChar : List Char → Except ReadError (Option Char × List Char)
  | [] => .error (.ended .string)
  | '"' :: s => .ok (none, s)
  | '\\' :: s =>
    match readEscape s with
    | .error e => .error e
    | .ok (c, r) => .ok (some c, r)
  | c :: s => if c < ' ' then .error (.malformed .controlCharacter) else .ok (some c, s)

theorem readStringChar_shortens {s r : List Char} {c : Option Char} (h : readStringChar s = .ok (c, r)) :
    r.length < s.length := by
  unfold readStringChar at h
  split at h
  · cases h
  · cases h; simp only [List.length_cons]; omega
  · split at h
    · cases h
    · rename_i hr
      have := readEscape_shortens hr
      cases h; simp only [List.length_cons]; omega
  · split at h
    · cases h
    · cases h; simp only [List.length_cons]; omega

/-- The rest of a string after its opening quote, put behind the characters `acc` read before it in
reverse order. -/
def readChars (acc : List Char) (s : List Char) : Except ReadError (List Char × List Char) :=
  match _ : readStringChar s with
  | .error e => .error e
  | .ok (none, r) => .ok (acc.reverse, r)
  | .ok (some c, r) => readChars (c :: acc) r
termination_by s.length
decreasing_by exact readStringChar_shortens (by assumption)

theorem readChars_shortens {acc s cs r : List Char} (h : readChars acc s = .ok (cs, r)) :
    r.length < s.length := by
  fun_induction readChars acc s with
  | case1 => cases h
  | case2 acc s r' hr => cases h; exact readStringChar_shortens hr
  | case3 acc s c r' hr ih => exact Nat.lt_trans (ih h) (readStringChar_shortens hr)

/-- The next character of a string that is skipped: `true` at its closing quote. Escapes must be well
formed, but surrogates may stand alone. -/
def skipStringChar : List Char → Except ReadError (Bool × List Char)
  | [] => .error (.ended .string)
  | '"' :: s => .ok (true, s)
  | '\\' :: [] => .error (.ended .string)
  | '\\' :: 'u' :: s =>
    match readHex4 s with
    | .error e => .error e
    | .ok (_, r) => .ok (false, r)
  | '\\' :: c :: s => if (simpleEscape? c).isSome then .ok (false, s) else .error (.malformed .badEscape)
  | c :: s => if c < ' ' then .error (.malformed .controlCharacter) else .ok (false, s)

theorem skipStringChar_shortens {s r : List Char} {b : Bool} (h : skipStringChar s = .ok (b, r)) :
    r.length < s.length := by
  unfold skipStringChar at h
  split at h
  · cases h
  · cases h; simp only [List.length_cons]; omega
  · cases h
  · split at h
    · cases h
    · rename_i hr
      have := readHex4_shortens hr
      cases h; simp only [List.length_cons]; omega
  · split at h
    · cases h; simp only [List.length_cons]; omega
    · cases h
  · split at h
    · cases h
    · cases h; simp only [List.length_cons]; omega

/-- The text after a string that is skipped, from after its opening quote. -/
def skipChars (s : List Char) : Except ReadError (List Char) :=
  match _ : skipStringChar s with
  | .error e => .error e
  | .ok (true, r) => .ok r
  | .ok (false, r) => skipChars r
termination_by s.length
decreasing_by exact skipStringChar_shortens (by assumption)

theorem skipChars_shortens {s r : List Char} (h : skipChars s = .ok r) : r.length < s.length := by
  fun_induction skipChars s with
  | case1 => cases h
  | case2 s r' hr => cases h; exact skipStringChar_shortens hr
  | case3 s r' hr ih => exact Nat.lt_trans (ih h) (skipStringChar_shortens hr)

/-! ### Numerals -/

/-- The exponent of a numeral, from after the letter `e`. -/
def readExponent (s : List Char) : Except ReadError (Int × List Char) :=
  let (minus, s) : Bool × List Char :=
    match s with
    | '+' :: r => (false, r)
    | '-' :: r => (true, r)
    | r => (false, r)
  match s with
  | [] => .error (.ended .value)
  | c :: r =>
    if c.isDigit then
      let n : Int := Nat.ofDigitChars 10 (c :: r.takeWhile Char.isDigit) 0
      .ok (if minus then -n else n, r.dropWhile Char.isDigit)
    else .error (.malformed .badNumber)

theorem readExponent_length_le {s r : List Char} {n : Int} (h : readExponent s = .ok (n, r)) :
    r.length ≤ s.length := by
  unfold readExponent at h
  split at h
  rename_i minus s' hs
  have hs' : s'.length ≤ s.length := by
    split at hs <;> cases hs <;> simp
  split at h
  · cases h
  · rename_i c t
    split at h
    · have := dropDigits_length_le t
      cases h
      simp only [List.length_cons] at hs'
      omega
    · cases h

/-- A numeral whose digits before the point are `whole`, read from the point or exponent on. -/
def readFraction (minus : Bool) (whole : List Char) : List Char → Except ReadError (Numeral × List Char)
  | '.' :: s =>
    let fraction := s.takeWhile Char.isDigit
    let rest := s.dropWhile Char.isDigit
    if fraction.isEmpty then .error (if s.isEmpty then .ended .value else .malformed .badNumber)
    else
      match rest with
      | [] => .ok (⟨minus, whole, fraction, none⟩, [])
      | c :: r =>
        if c = 'e' ∨ c = 'E' then
          match readExponent r with
          | .error e => .error e
          | .ok (n, t) => .ok (⟨minus, whole, fraction, some n⟩, t)
        else .ok (⟨minus, whole, fraction, none⟩, c :: r)
  | [] => .ok (⟨minus, whole, [], none⟩, [])
  | c :: r =>
    if c = 'e' ∨ c = 'E' then
      match readExponent r with
      | .error e => .error e
      | .ok (n, t) => .ok (⟨minus, whole, [], some n⟩, t)
    else .ok (⟨minus, whole, [], none⟩, c :: r)

theorem readFraction_length_le {minus : Bool} {whole s r : List Char} {n : Numeral}
    (h : readFraction minus whole s = .ok (n, r)) : r.length ≤ s.length := by
  unfold readFraction at h
  split at h
  · rename_i s
    have hd := dropDigits_length_le s
    simp only at h
    split at h
    · cases h
    · split at h
      · cases h; simp
      · rename_i c t ht
        rw [ht] at hd
        simp only [List.length_cons] at hd
        split at h
        · split at h
          · cases h
          · rename_i he
            have := readExponent_length_le he
            cases h; simp only [List.length_cons]; omega
        · cases h; simp only [List.length_cons]; omega
  · cases h; simp
  · split at h
    · split at h
      · cases h
      · rename_i he
        have := readExponent_length_le he
        cases h; simp only [List.length_cons]; omega
    · cases h; simp

/-- A numeral, from after its minus sign if it has one. -/
def readNumeral (minus : Bool) : List Char → Except ReadError (Numeral × List Char)
  | [] => .error (.ended .value)
  | c :: s =>
    if c = '0' then
      if s.head?.any Char.isDigit then .error (.malformed .badNumber) else readFraction minus ['0'] s
    else if c.isDigit then readFraction minus (c :: s.takeWhile Char.isDigit) (s.dropWhile Char.isDigit)
    else .error (.malformed .badNumber)

theorem readNumeral_shortens {minus : Bool} {s r : List Char} {n : Numeral}
    (h : readNumeral minus s = .ok (n, r)) : r.length < s.length := by
  unfold readNumeral at h
  split at h
  · cases h
  · rename_i c s
    have hd := dropDigits_length_le s
    simp only [List.length_cons]
    split at h
    · split at h
      · cases h
      · have := readFraction_length_le h; omega
    · split at h
      · have := readFraction_length_le h; omega
      · cases h

/-- The value of a number, read from after its minus sign if it has one. -/
def readNumber (minus : Bool) (s : List Char) : Except ReadError (Number × List Char) :=
  match readNumeral minus s with
  | .error e => .error e
  | .ok (numeral, r) =>
    match numeral.value with
    | some n => .ok (n, r)
    | none => .error (.malformed .numberOutOfRange)

theorem readNumber_shortens {minus : Bool} {s r : List Char} {n : Number}
    (h : readNumber minus s = .ok (n, r)) : r.length < s.length := by
  unfold readNumber at h
  split at h
  · cases h
  · rename_i hr
    split at h
    · cases h; exact readNumeral_shortens hr
    · cases h

/-- The text after an exponent that is skipped, from after the letter `e`. -/
def skipExponent (s : List Char) : Except ReadError (List Char) :=
  let s :=
    match s with
    | '+' :: r => r
    | '-' :: r => r
    | r => r
  match s with
  | c :: r => if c.isDigit then .ok (r.dropWhile Char.isDigit) else .error (.malformed .badNumber)
  | [] => .error (.malformed .badNumber)

theorem skipExponent_length_le {s r : List Char} (h : skipExponent s = .ok r) : r.length ≤ s.length := by
  unfold skipExponent at h
  generalize hs : (match s with | '+' :: r => r | '-' :: r => r | r => r) = s' at h
  have hs' : s'.length ≤ s.length := by
    subst hs
    split <;> simp
  simp only at h
  split at h
  · rename_i c t
    have := dropDigits_length_le t
    simp only [List.length_cons] at hs'
    split at h
    · cases h; omega
    · cases h
  · cases h

/-- The text after a numeral that is skipped, from its point or exponent on. -/
def skipFraction : List Char → Except ReadError (List Char)
  | '.' :: s =>
    if (s.takeWhile Char.isDigit).isEmpty then .error (.malformed .badNumber)
    else
      match s.dropWhile Char.isDigit with
      | [] => .ok []
      | c :: r => if c = 'e' ∨ c = 'E' then skipExponent r else .ok (c :: r)
  | [] => .ok []
  | c :: r => if c = 'e' ∨ c = 'E' then skipExponent r else .ok (c :: r)

theorem skipFraction_length_le {s r : List Char} (h : skipFraction s = .ok r) : r.length ≤ s.length := by
  unfold skipFraction at h
  split at h
  · rename_i s
    have hd := dropDigits_length_le s
    split at h
    · cases h
    · split at h
      · cases h; simp
      · rename_i c t ht
        rw [ht] at hd
        simp only [List.length_cons] at hd ⊢
        split at h
        · have := skipExponent_length_le h; omega
        · cases h; simp only [List.length_cons]; omega
  · cases h; simp
  · split at h
    · have := skipExponent_length_le h
      simp only [List.length_cons]; omega
    · cases h; simp

/-- The text after a numeral that is skipped, from after its minus sign if it has one. -/
def skipNumeral : List Char → Except ReadError (List Char)
  | [] => .error (.malformed .badNumber)
  | c :: s =>
    if c = '0' then
      if s.head?.any Char.isDigit then .error (.malformed .badNumber) else skipFraction s
    else if c.isDigit then skipFraction (s.dropWhile Char.isDigit)
    else .error (.malformed .badNumber)

theorem skipNumeral_shortens {s r : List Char} (h : skipNumeral s = .ok r) : r.length < s.length := by
  unfold skipNumeral at h
  split at h
  · cases h
  · rename_i c s
    have hd := dropDigits_length_le s
    simp only [List.length_cons]
    split at h
    · split at h
      · cases h
      · have := skipFraction_length_le h; omega
    · split at h
      · have := skipFraction_length_le h; omega
      · cases h

end MusicLibrary.Json
