import MusicLibrary.Json.Skip

/-!
# Readers

A `Reader` takes a value of one type from the start of a JSON text. That every value takes up some of
the text is part of the type, so that arrays and objects are read by recursion on what is left of the
text. Readers of arrays and objects also know how many of them may still be opened: a value that is
used may nest less than 128 deep.
-/

namespace MusicLibrary.Json

/-- A way to read one value from the start of a text, with the text after it. -/
structure Reader (α : Type) where
  /-- The value and the text after it. -/
  run : List Char → Except ReadError (α × List Char)
  /-- A value is not empty. -/
  shortens : ∀ {s a r}, run s = .ok (a, r) → r.length < s.length

/-- The number of arrays and objects that may be open at once. -/
def openLimit : Nat := 127

/-- The value that makes up the whole of a text but for white space around it. -/
def Reader.readAll {α : Type} (x : Reader α) (s : List Char) : Except ReadError α :=
  match x.run s with
  | .error e => .error e
  | .ok (a, r) => if (skipBlanks r).isEmpty then .ok a else .error (.malformed .trailingText)

/-- `f` applied to the value read. -/
def Reader.map {α β : Type} (f : α → β) (x : Reader α) : Reader β where
  run s :=
    match x.run s with
    | .error e => .error e
    | .ok (a, r) => .ok (f a, r)
  shortens {s b r} h := by
    split at h
    · cases h
    · rename_i hx
      cases h
      exact x.shortens hx

/-- The error for a value of another shape than `wanted`, which starts the text `s`. A lexeme that is
itself wrong comes first. -/
def unexpected (wanted : Shape) (s : List Char) : ReadError :=
  let wrong (found : Found) : ReadError := .mismatch (.wrongType found wanted)
  match s with
  | [] => .ended .value
  | c :: r =>
    if c = 'n' then
      match readWord ['u', 'l', 'l'] r with
      | .error e => e
      | .ok _ => wrong .null
    else if c = 't' then
      match readWord ['r', 'u', 'e'] r with
      | .error e => e
      | .ok _ => wrong (.boolean true)
    else if c = 'f' then
      match readWord ['a', 'l', 's', 'e'] r with
      | .error e => e
      | .ok _ => wrong (.boolean false)
    else if c = '-' then
      match readNumber true r with
      | .error e => e
      | .ok (n, _) => wrong (.number n)
    else if c.isDigit then
      match readNumber false (c :: r) with
      | .error e => e
      | .ok (n, _) => wrong (.number n)
    else if c = '"' then
      match readChars [] r with
      | .error e => e
      | .ok (cs, _) => wrong (.string (String.ofList cs))
    else if c = '[' then wrong .sequence
    else if c = '{' then wrong .map
    else .malformed .valueExpected

/-! ### Values without parts -/

/-- A string, from its first lexeme on. -/
def readString (s : List Char) : Except ReadError (String × List Char) :=
  match skipBlanks s with
  | '"' :: r =>
    match readChars [] r with
    | .error e => .error e
    | .ok (cs, t) => .ok (String.ofList cs, t)
  | t => .error (unexpected .string t)

theorem readString_shortens {s r : List Char} {a : String} (h : readString s = .ok (a, r)) :
    r.length < s.length := by
  have hs := skipBlanks_length_le s
  unfold readString at h
  split at h
  · rename_i t ht
    rw [ht] at hs
    simp only [List.length_cons] at hs
    split at h
    · cases h
    · rename_i hc
      have := readChars_shortens hc
      cases h
      omega
  · cases h

/-- A string. -/
def string : Reader String := ⟨readString, readString_shortens⟩

/-- `true` or `false`, from its first lexeme on. -/
def readBoolean (s : List Char) : Except ReadError (Bool × List Char) :=
  match skipBlanks s with
  | 't' :: r =>
    match readWord ['r', 'u', 'e'] r with
    | .error e => .error e
    | .ok t => .ok (true, t)
  | 'f' :: r =>
    match readWord ['a', 'l', 's', 'e'] r with
    | .error e => .error e
    | .ok t => .ok (false, t)
  | t => .error (unexpected .boolean t)

theorem readBoolean_shortens {s r : List Char} {b : Bool} (h : readBoolean s = .ok (b, r)) :
    r.length < s.length := by
  have hs := skipBlanks_length_le s
  unfold readBoolean at h
  split at h
  · rename_i t ht
    rw [ht] at hs
    simp only [List.length_cons] at hs
    split at h
    · cases h
    · rename_i hc
      have := readWord_length_le hc
      cases h
      omega
  · rename_i t ht
    rw [ht] at hs
    simp only [List.length_cons] at hs
    split at h
    · cases h
    · rename_i hc
      have := readWord_length_le hc
      cases h
      omega
  · cases h

/-- `true` or `false`. -/
def boolean : Reader Bool := ⟨readBoolean, readBoolean_shortens⟩

/-- `null`, from its first lexeme on. -/
def readUnit (s : List Char) : Except ReadError (Unit × List Char) :=
  match skipBlanks s with
  | 'n' :: r =>
    match readWord ['u', 'l', 'l'] r with
    | .error e => .error e
    | .ok t => .ok ((), t)
  | t => .error (unexpected .unit t)

theorem readUnit_shortens {s r : List Char} {u : Unit} (h : readUnit s = .ok (u, r)) : r.length < s.length := by
  have hs := skipBlanks_length_le s
  unfold readUnit at h
  split at h
  · rename_i t ht
    rw [ht] at hs
    simp only [List.length_cons] at hs
    split at h
    · cases h
    · rename_i hc
      have := readWord_length_le hc
      cases h
      omega
  · cases h

/-- `null`. -/
def unit : Reader Unit := ⟨readUnit, readUnit_shortens⟩

/-- `2 ^ 32`, which words of 32 bits are below. -/
def word32Limit : Nat := 0x100000000

/-- A number as a natural number below `2 ^ 32`. A double is none, whatever its value. -/
def Number.toWord32 : Number → Except Mismatch UInt32
  | .natural n => if n < word32Limit then .ok (UInt32.ofNat n) else .error (.outOfRange (.natural n) .word32)
  | .negative n => .error (.outOfRange (.negative n) .word32)
  | .double minus x => .error (.wrongType (.number (.double minus x)) .word32)

/-- A natural number below `2 ^ 32`, after its sign if it has one. -/
def readWord32After (minus : Bool) (s : List Char) : Except ReadError (UInt32 × List Char) :=
  match readNumber minus s with
  | .error e => .error e
  | .ok (n, r) =>
    match n.toWord32 with
    | .error m => .error (.mismatch m)
    | .ok w => .ok (w, r)

theorem readWord32After_shortens {minus : Bool} {s r : List Char} {w : UInt32}
    (h : readWord32After minus s = .ok (w, r)) : r.length < s.length := by
  unfold readWord32After at h
  split at h
  · cases h
  · rename_i hn
    split at h
    · cases h
    · cases h; exact readNumber_shortens hn

/-- A natural number below `2 ^ 32`, from its first lexeme on. -/
def readWord32 (s : List Char) : Except ReadError (UInt32 × List Char) :=
  match skipBlanks s with
  | [] => .error (.ended .value)
  | c :: r =>
    if c = '-' then readWord32After true r
    else if c.isDigit then readWord32After false (c :: r)
    else .error (unexpected .word32 (c :: r))

theorem readWord32_shortens {s r : List Char} {w : UInt32} (h : readWord32 s = .ok (w, r)) :
    r.length < s.length := by
  have hs := skipBlanks_length_le s
  unfold readWord32 at h
  split at h
  · cases h
  · rename_i c t ht
    rw [ht] at hs
    simp only [List.length_cons] at hs
    split at h
    · have := readWord32After_shortens h; omega
    · split at h
      · have := readWord32After_shortens h
        simp only [List.length_cons] at this
        omega
      · cases h

/-- A natural number below `2 ^ 32`. -/
def word32 : Reader UInt32 := ⟨readWord32, readWord32_shortens⟩

/-- A value or `null`. -/
def nullable {α : Type} (x : Reader α) : Reader (Option α) where
  run s :=
    match skipBlanks s with
    | 'n' :: r =>
      match readWord ['u', 'l', 'l'] r with
      | .error e => .error e
      | .ok t => .ok (none, t)
    | t =>
      match x.run t with
      | .error e => .error e
      | .ok (a, r) => .ok (some a, r)
  shortens {s a r} h := by
    have hs := skipBlanks_length_le s
    split at h
    · rename_i t ht
      rw [ht] at hs
      simp only [List.length_cons] at hs
      split at h
      · cases h
      · rename_i hc
        have := readWord_length_le hc
        cases h
        omega
    · split at h
      · cases h
      · rename_i hx
        have := x.shortens hx
        cases h
        omega

/-! ### Arrays -/

/-- The next step in an array: its end with the text after it, or an element with the text from there. -/
inductive ListStep where
  /-- The array ends. -/
  | closed (rest : List Char)
  /-- An element follows. -/
  | element (rest : List Char)

/-- The text that the step leads to. -/
def ListStep.rest : ListStep → List Char
  | .closed r => r
  | .element r => r

/-- The next step in an array, `first` saying that no element has been read. -/
def nextElement (first : Bool) (s : List Char) : Except ReadError ListStep :=
  match skipBlanks s with
  | [] => .error (.ended .list)
  | c :: r =>
    if c = ']' then .ok (.closed r)
    else if first then .ok (.element (c :: r))
    else if c = ',' then
      match skipBlanks r with
      | [] => .error (.ended .value)
      | ']' :: _ => .error (.malformed .trailingComma)
      | t => .ok (.element t)
    else .error (.malformed .listSeparatorExpected)

theorem nextElement_length_le {first : Bool} {s : List Char} {p : ListStep} (h : nextElement first s = .ok p) :
    p.rest.length ≤ s.length ∧ ∀ r, p = .closed r → r.length < s.length := by
  have hs := skipBlanks_length_le s
  unfold nextElement at h
  split at h
  · cases h
  · rename_i c t ht
    rw [ht] at hs
    simp only [List.length_cons] at hs
    have hb := skipBlanks_length_le t
    split at h
    · cases h
      refine ⟨by simp only [ListStep.rest]; omega, fun r hr => ?_⟩
      cases hr
      omega
    · split at h
      · cases h
        exact ⟨by simp only [ListStep.rest, List.length_cons]; omega, nofun⟩
      · split at h
        · split at h
          · cases h
          · cases h
          · cases h
            exact ⟨by simp only [ListStep.rest]; omega, nofun⟩
        · cases h

/-- The elements of an array up to its closing bracket, behind the elements `acc` in reverse order. -/
def readElements {α : Type} (x : Reader α) (acc : List α) (first : Bool) (s : List Char) :
    Except ReadError (List α × List Char) :=
  match _ : nextElement first s with
  | .error e => .error e
  | .ok (.closed r) => .ok (acc.reverse, r)
  | .ok (.element t) =>
    match _ : x.run t with
    | .error e => .error e
    | .ok (a, r) => readElements x (a :: acc) false r
termination_by s.length
decreasing_by
  have h1 := (nextElement_length_le (by assumption)).1
  have h2 := x.shortens (by assumption)
  simp only [ListStep.rest] at h1
  omega

theorem readElements_shortens {α : Type} {x : Reader α} {acc : List α} {first : Bool} {s r : List Char}
    {as : List α} (h : readElements x acc first s = .ok (as, r)) : r.length < s.length := by
  fun_induction readElements x acc first s with
  | case1 => cases h
  | case2 acc first s t ht => cases h; exact (nextElement_length_le ht).2 _ rfl
  | case3 => cases h
  | case4 acc first s t ht a t' hx ih =>
    have h1 := (nextElement_length_le ht).1
    have h2 := x.shortens hx
    have h3 := ih h
    simp only [ListStep.rest] at h1
    omega

/-- An array of values, each read by `item` with fewer arrays and objects that may be opened. -/
def array {α : Type} (opens : Nat) (item : (n : Nat) → n < opens → Reader α) : Reader (List α) where
  run s :=
    match skipBlanks s with
    | '[' :: r =>
      match opens, item with
      | 0, _ => .error (.malformed .tooDeep)
      | n + 1, item => readElements (item n (Nat.lt_succ_self n)) [] true r
    | t => .error (unexpected .sequence t)
  shortens {s as r} h := by
    have hs := skipBlanks_length_le s
    split at h
    · rename_i t ht
      rw [ht] at hs
      simp only [List.length_cons] at hs
      split at h
      · cases h
      · have := readElements_shortens h; omega
    · cases h

end MusicLibrary.Json
