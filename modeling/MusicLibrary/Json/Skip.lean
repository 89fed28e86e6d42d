import MusicLibrary.Json.Lexeme

/-!
# Values that nobody asked for

A member of an object whose name is unknown is skipped. Its value must be well formed, but nothing is
decoded: numbers have no range, surrogates may stand alone, and arrays and objects nest without limit,
since the brackets that are open are kept in a list.
-/

namespace MusicLibrary.Json

/-- The text after the colon that separates a name from its value. -/
def readColon (s : List Char) : Except ReadError (List Char) :=
  match skipBlanks s with
  | ':' :: r => .ok r
  | [] => .error (.ended .object)
  | _ => .error (.malformed .colonExpected)

theorem readColon_shortens {s r : List Char} (h : readColon s = .ok r) : r.length < s.length := by
  have hs := skipBlanks_length_le s
  unfold readColon at h
  split at h
  · rename_i hr
    rw [hr] at hs
    simp only [List.length_cons] at hs
    cases h
    omega
  · cases h
  · cases h

/-- The text after a member's name and colon, both skipped. -/
def skipName (s : List Char) : Except ReadError (List Char) :=
  match skipBlanks s with
  | '"' :: r =>
    match skipChars r with
    | .error e => .error e
    | .ok t => readColon t
  | [] => .error (.ended .object)
  | _ => .error (.malformed .nameExpected)

theorem skipName_shortens {s r : List Char} (h : skipName s = .ok r) : r.length < s.length := by
  have hs := skipBlanks_length_le s
  unfold skipName at h
  split at h
  · rename_i t ht
    rw [ht] at hs
    simp only [List.length_cons] at hs
    split at h
    · cases h
    · rename_i hc
      have h1 := skipChars_shortens hc
      have h2 := readColon_shortens h
      omega
  · cases h
  · cases h

/-- A bracket that is open. -/
inductive Bracket where
  /-- `[`. -/
  | square
  /-- `{`. -/
  | curly
  deriving DecidableEq, Repr

/-- What a lexeme of a skipped value leads to. -/
inductive Progress where
  /-- A value is complete, and the text after it follows. -/
  | complete (rest : List Char)
  /-- A bracket has been opened, and the text before its first value follows. -/
  | opened (bracket : Bracket) (rest : List Char)

/-- The text after the lexeme. -/
def Progress.rest : Progress → List Char
  | .complete r => r
  | .opened _ r => r

/-- A value whose lexeme ends with the text `r`. -/
def completed : Except ReadError (List Char) → Except ReadError Progress
  | .error e => .error e
  | .ok r => .ok (.complete r)

/-- The first lexeme of a value; for an object, the name of its first member and the colon as well. -/
def skipStart (s : List Char) : Except ReadError Progress :=
  match skipBlanks s with
  | [] => .error (.ended .value)
  | c :: r =>
    if c = 'n' then completed (readWord ['u', 'l', 'l'] r)
    else if c = 't' then completed (readWord ['r', 'u', 'e'] r)
    else if c = 'f' then completed (readWord ['a', 'l', 's', 'e'] r)
    else if c = '"' then completed (skipChars r)
    else if c = '-' then completed (skipNumeral r)
    else if c.isDigit then completed (skipNumeral (c :: r))
    else if c = '[' then
      match skipBlanks r with
      | [] => .error (.ended .list)
      | ']' :: t => .ok (.complete t)
      | _ => .ok (.opened .square r)
    else if c = '{' then
      match skipBlanks r with
      | [] => .error (.ended .object)
      | '}' :: t => .ok (.complete t)
      | _ =>
        match skipName r with
        | .error e => .error e
        | .ok t => .ok (.opened .curly t)
    else .error (.malformed .valueExpected)

theorem completed_rest {x : Except ReadError (List Char)} {p : Progress} (h : completed x = .ok p) :
    x = .ok p.rest := by
  unfold completed at h
  split at h
  · cases h
  · cases h; rfl

theorem skipStart_shortens {s : List Char} {p : Progress} (h : skipStart s = .ok p) :
    p.rest.length < s.length := by
  have hs := skipBlanks_length_le s
  unfold skipStart at h
  split at h
  · cases h
  · rename_i c r hr
    rw [hr] at hs
    simp only [List.length_cons] at hs
    have hb := skipBlanks_length_le r
    split at h
    · have := readWord_length_le (completed_rest h); omega
    split at h
    · have := readWord_length_le (completed_rest h); omega
    split at h
    · have := readWord_length_le (completed_rest h); omega
    split at h
    · have := skipChars_shortens (completed_rest h); omega
    split at h
    · have := skipNumeral_shortens (completed_rest h); omega
    split at h
    · have := skipNumeral_shortens (completed_rest h)
      simp only [List.length_cons] at this
      omega
    split at h
    · split at h
      · cases h
      · rename_i ht
        rw [ht] at hb
        simp only [List.length_cons] at hb
        cases h
        simp only [Progress.rest]
        omega
      · cases h
        simp only [Progress.rest]
        omega
    split at h
    · split at h
      · cases h
      · rename_i ht
        rw [ht] at hb
        simp only [List.length_cons] at hb
        cases h
        simp only [Progress.rest]
        omega
      · split at h
        · cases h
        · rename_i hn
          have := skipName_shortens hn
          cases h
          simp only [Progress.rest]
          omega
    · cases h

/-- What follows a complete value inside a bracket: another value (`opened`, after its name if the
bracket is curly) or the end of the bracket (`complete`). -/
def skipNext (bracket : Bracket) (s : List Char) : Except ReadError Progress :=
  match bracket, skipBlanks s with
  | .square, [] => .error (.ended .list)
  | .square, ',' :: r => .ok (.opened .square r)
  | .square, ']' :: r => .ok (.complete r)
  | .square, _ => .error (.malformed .listSeparatorExpected)
  | .curly, [] => .error (.ended .object)
  | .curly, ',' :: r =>
    match skipName r with
    | .error e => .error e
    | .ok t => .ok (.opened .curly t)
  | .curly, '}' :: r => .ok (.complete r)
  | .curly, _ => .error (.malformed .objectSeparatorExpected)

theorem skipNext_shortens {b : Bracket} {s : List Char} {p : Progress} (h : skipNext b s = .ok p) :
    p.rest.length < s.length := by
  have hs := skipBlanks_length_le s
  unfold skipNext at h
  split at h
  · cases h
  · rename_i hr
    rw [hr] at hs
    simp only [List.length_cons] at hs
    cases h
    simp only [Progress.rest]
    omega
  · rename_i hr
    rw [hr] at hs
    simp only [List.length_cons] at hs
    cases h
    simp only [Progress.rest]
    omega
  · cases h
  · cases h
  · rename_i hr
    rw [hr] at hs
    simp only [List.length_cons] at hs
    split at h
    · cases h
    · rename_i hn
      have := skipName_shortens hn
      cases h
      simp only [Progress.rest]
      omega
  · rename_i hr
    rw [hr] at hs
    simp only [List.length_cons] at hs
    cases h
    simp only [Progress.rest]
    omega
  · cases h

/-- The text after a value, inside the open brackets `stack`: before the value if `pending` holds, and
after it otherwise. -/
def skipWithin (stack : List Bracket) (pending : Bool) (s : List Char) : Except ReadError (List Char) :=
  match pending, stack with
  | true, stack =>
    match _ : skipStart s with
    | .error e => .error e
    | .ok (.complete r) => skipWithin stack false r
    | .ok (.opened b r) => skipWithin (b :: stack) true r
  | false, [] => .ok s
  | false, b :: stack =>
    match _ : skipNext b s with
    | .error e => .error e
    | .ok (.complete r) => skipWithin stack false r
    | .ok (.opened b r) => skipWithin (b :: stack) true r
termination_by s.length
decreasing_by
  all_goals first
    | exact skipStart_shortens (by assumption)
    | exact skipNext_shortens (by assumption)

/-- The text after a value that is skipped. -/
def skipValue (s : List Char) : Except ReadError (List Char) := skipWithin [] true s

theorem skipWithin_length_le {stack : List Bracket} {pending : Bool} {s r : List Char}
    (h : skipWithin stack pending s = .ok r) : r.length ≤ s.length ∧ (pending = true → r.length < s.length) := by
  fun_induction skipWithin stack pending s with
  | case1 => cases h
  | case2 s stack t ht ih =>
    have := skipStart_shortens ht
    simp only [Progress.rest] at this
    have := (ih h).1
    omega
  | case3 s stack b t ht ih =>
    have := skipStart_shortens ht
    simp only [Progress.rest] at this
    have := (ih h).1
    omega
  | case4 s => cases h; simp
  | case5 => cases h
  | case6 s b stack t ht ih =>
    have := skipNext_shortens ht
    simp only [Progress.rest] at this
    have := (ih h).1
    omega
  | case7 s b stack b' t ht ih =>
    have := skipNext_shortens ht
    simp only [Progress.rest] at this
    have := (ih h).1
    omega

theorem skipValue_shortens {s r : List Char} (h : skipValue s = .ok r) : r.length < s.length :=
  (skipWithin_length_le h).2 rfl

end MusicLibrary.Json
