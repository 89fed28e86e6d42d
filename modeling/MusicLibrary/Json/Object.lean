import MusicLibrary.Json.Reader

/-!
# Members of objects

The steps from one member of an object to the next, and objects that stand for finite maps: any name
is allowed, and the entries are kept in the order of the text.
-/

namespace MusicLibrary.Json

/-- The next step in an object: its end with the text after it, or a member with the text from after
the opening quote of its name. -/
inductive MemberStep where
  /-- The object ends. -/
  | closed (rest : List Char)
  /-- A member follows. -/
  | member (rest : List Char)

/-- The text that the step leads to. -/
def MemberStep.rest : MemberStep → List Char
  | .closed r => r
  | .member r => r

/-- The next step in an object, `first` saying that no member has been read. -/
def nextMember (first : Bool) (s : List Char) : Except ReadError MemberStep :=
  match skipBlanks s with
  | [] => .error (.ended .object)
  | c :: r =>
    if c = '}' then .ok (.closed r)
    else if first then
      if c = '"' then .ok (.member r) else .error (.malformed .nameExpected)
    else if c = ',' then
      match skipBlanks r with
      | [] => .error (.ended .value)
      | '}' :: _ => .error (.malformed .trailingComma)
      | '"' :: t => .ok (.member t)
      | _ => .error (.malformed .nameExpected)
    else .error (.malformed .objectSeparatorExpected)

theorem nextMember_shortens {first : Bool} {s : List Char} {p : MemberStep} (h : nextMember first s = .ok p) :
    p.rest.length < s.length := by
  have hs := skipBlanks_length_le s
  unfold nextMember at h
  split at h
  · cases h
  · rename_i c t ht
    rw [ht] at hs
    simp only [List.length_cons] at hs
    have hb := skipBlanks_length_le t
    split at h
    · cases h
      simp only [MemberStep.rest]
      omega
    · split at h
      · split at h
        · cases h
          simp only [MemberStep.rest]
          omega
        · cases h
      · split at h
        · split at h
          · cases h
          · cases h
          · rename_i hr
            rw [hr] at hb
            simp only [List.length_cons] at hb
            cases h
            simp only [MemberStep.rest]
            omega
          · cases h
        · cases h

/-- The rest of a member's name, and the text after it. -/
def readName (s : List Char) : Except ReadError (String × List Char) :=
  match readChars [] s with
  | .error e => .error e
  | .ok (cs, r) => .ok (String.ofList cs, r)

theorem readName_shortens {s r : List Char} {name : String} (h : readName s = .ok (name, r)) :
    r.length < s.length := by
  unfold readName at h
  split at h
  · cases h
  · rename_i hc
    cases h
    exact readChars_shortens hc

/-- The value of a member, from its colon on. -/
def readMemberValue {α : Type} (x : Reader α) (s : List Char) : Except ReadError (α × List Char) :=
  match readColon s with
  | .error e => .error e
  | .ok t => x.run t

theorem readMemberValue_shortens {α : Type} {x : Reader α} {s r : List Char} {a : α}
    (h : readMemberValue x s = .ok (a, r)) : r.length < s.length := by
  unfold readMemberValue at h
  split at h
  · cases h
  · rename_i hc
    exact Nat.lt_trans (x.shortens h) (readColon_shortens hc)

/-! ### Maps -/

/-- An entry of a map, from after the opening quote of its name. -/
def readEntry {α : Type} (x : Reader α) (s : List Char) : Except ReadError ((String × α) × List Char) :=
  match readName s with
  | .error e => .error e
  | .ok (name, t) =>
    match readMemberValue x t with
    | .error e => .error e
    | .ok (a, r) => .ok ((name, a), r)

theorem readEntry_shortens {α : Type} {x : Reader α} {s r : List Char} {p : String × α}
    (h : readEntry x s = .ok (p, r)) : r.length < s.length := by
  unfold readEntry at h
  split at h
  · cases h
  · rename_i hn
    split at h
    · cases h
    · rename_i hv
      cases h
      exact Nat.lt_trans (readMemberValue_shortens hv) (readName_shortens hn)

/-- The entries of a map up to its closing brace, behind the entries `acc` in reverse order. -/
def readEntries {α : Type} (x : Reader α) (acc : List (String × α)) (first : Bool) (s : List Char) :
    Except ReadError (List (String × α) × List Char) :=
  match _ : nextMember first s with
  | .error e => .error e
  | .ok (.closed r) => .ok (acc.reverse, r)
  | .ok (.member t) =>
    match _ : readEntry x t with
    | .error e => .error e
    | .ok (p, r) => readEntries x (p :: acc) false r
termination_by s.length
decreasing_by
  have h1 := nextMember_shortens (by assumption)
  have h2 := readEntry_shortens (by assumption)
  simp only [MemberStep.rest] at h1
  omega

theorem readEntries_shortens {α : Type} {x : Reader α} {acc : List (String × α)} {first : Bool}
    {s r : List Char} {ps : List (String × α)} (h : readEntries x acc first s = .ok (ps, r)) :
    r.length < s.length := by
  fun_induction readEntries x acc first s with
  | case1 => cases h
  | case2 acc first s t ht => cases h; exact nextMember_shortens ht
  | case3 => cases h
  | case4 acc first s t ht p t' hp ih =>
    have h1 := nextMember_shortens ht
    have h2 := readEntry_shortens hp
    have h3 := ih h
    simp only [MemberStep.rest] at h1
    omega

/-- An object with any names, its values read by `x` and its entries in the order of the text. -/
def map {α : Type} (opens : Nat) (x : Reader α) : Reader (List (String × α)) where
  run s :=
    match skipBlanks s with
    | '{' :: r => if opens = 0 then .error (.malformed .tooDeep) else readEntries x [] true r
    | t => .error (unexpected .map t)
  shortens {s ps r} h := by
    have hs := skipBlanks_length_le s
    split at h
    · rename_i t ht
      rw [ht] at hs
      simp only [List.length_cons] at hs
      split at h
      · cases h
      · have := readEntries_shortens h; omega
    · cases h

end MusicLibrary.Json
