import MusicLibrary.Json.Object

/-!
# Records

A record is written as an object or as an array. In an object the members come in any order, names
that the record does not know are skipped with their values, and no known name may come twice. In an
array the members come in the order in which the record declares them, and those at the end may be
left out if they are optional. Either way a member changes the value built so far, which starts as the
record's blank value.
-/

namespace MusicLibrary.Json

/-- Where a member may be left out. -/
inductive Presence where
  /-- Nowhere. -/
  | required
  /-- In an object, but not in an array. -/
  | nullable
  /-- In an object and at the end of an array. -/
  | optional
  deriving DecidableEq, Repr

/-- A member of a record that is read into values of the type `σ`. -/
structure Member (σ : Type) where
  /-- The name of the member in an object. -/
  name : String
  /-- Where it may be left out. -/
  presence : Presence
  /-- What its value does to the record. -/
  update : Reader (σ → σ)

/-- The member of the given name that is read by `x` and stored by `put`. -/
def Member.of {σ α : Type} (name : String) (presence : Presence) (x : Reader α) (put : α → σ → σ) : Member σ :=
  ⟨name, presence, x.map put⟩

/-- The blank value of a record and its members, in the order of their declaration. -/
structure RecordFormat (σ : Type) where
  /-- The record before any member has been read. -/
  blank : σ
  /-- The members. -/
  members : List (Member σ)

/-- The member of the given name. -/
def RecordFormat.member? {σ : Type} (format : RecordFormat σ) (name : String) : Option (Member σ) :=
  format.members.find? (·.name == name)

/-- The first required member whose name has not been seen. -/
def RecordFormat.missing? {σ : Type} (format : RecordFormat σ) (seen : List String) : Option (Member σ) :=
  format.members.find? fun m => m.presence == .required && !seen.contains m.name

/-! ### The form of an object -/

/-- The value of a record so far and the known names that it has been given. -/
structure Draft (σ : Type) where
  /-- The value built so far. -/
  value : σ
  /-- The known names seen so far. -/
  seen : List String

/-- The value and end of a member, from after its name. -/
def readNamed {σ : Type} (format : RecordFormat σ) (p : Draft σ) (name : String) (s : List Char) :
    Except ReadError (Draft σ × List Char) :=
  match format.member? name with
  | none =>
    match readColon s with
    | .error e => .error e
    | .ok t =>
      match skipValue t with
      | .error e => .error e
      | .ok r => .ok (p, r)
  | some m =>
    if p.seen.contains name then .error (.mismatch (.duplicateMember name))
    else
      match readMemberValue m.update s with
      | .error e => .error e
      | .ok (f, r) => .ok (⟨f p.value, name :: p.seen⟩, r)

theorem readNamed_shortens {σ : Type} {format : RecordFormat σ} {p q : Draft σ} {name : String}
    {s r : List Char} (h : readNamed format p name s = .ok (q, r)) : r.length < s.length := by
  unfold readNamed at h
  split at h
  · split at h
    · cases h
    · rename_i hc
      split at h
      · cases h
      · rename_i hv
        cases h
        exact Nat.lt_trans (skipValue_shortens hv) (readColon_shortens hc)
  · split at h
    · cases h
    · split at h
      · cases h
      · rename_i hv
        cases h
        exact readMemberValue_shortens hv

/-- A member, from after the opening quote of its name. -/
def readMember {σ : Type} (format : RecordFormat σ) (p : Draft σ) (s : List Char) :
    Except ReadError (Draft σ × List Char) :=
  match readName s with
  | .error e => .error e
  | .ok (name, t) => readNamed format p name t

theorem readMember_shortens {σ : Type} {format : RecordFormat σ} {p q : Draft σ} {s r : List Char}
    (h : readMember format p s = .ok (q, r)) : r.length < s.length := by
  unfold readMember at h
  split at h
  · cases h
  · rename_i hn
    exact Nat.lt_trans (readNamed_shortens h) (readName_shortens hn)

/-- The members of an object up to its closing brace, after those that made up `p`. -/
def readMembers {σ : Type} (format : RecordFormat σ) (p : Draft σ) (first : Bool) (s : List Char) :
    Except ReadError (σ × List Char) :=
  match _ : nextMember first s with
  | .error e => .error e
  | .ok (.closed r) =>
    match format.missing? p.seen with
    | some m => .error (.mismatch (.missingMember m.name))
    | none => .ok (p.value, r)
  | .ok (.member t) =>
    match _ : readMember format p t with
    | .error e => .error e
    | .ok (q, r) => readMembers format q false r
termination_by s.length
decreasing_by
  have h1 := nextMember_shortens (by assumption)
  have h2 := readMember_shortens (by assumption)
  simp only [MemberStep.rest] at h1
  omega

theorem readMembers_shortens {σ : Type} {format : RecordFormat σ} {p : Draft σ} {first : Bool}
    {s r : List Char} {a : σ} (h : readMembers format p first s = .ok (a, r)) : r.length < s.length := by
  fun_induction readMembers format p first s with
  | case1 => cases h
  | case2 => cases h
  | case3 p first s t ht hm => cases h; exact nextMember_shortens ht
  | case4 => cases h
  | case5 p first s t ht q t' hq ih =>
    have h1 := nextMember_shortens ht
    have h2 := readMember_shortens hq
    have h3 := ih h
    simp only [MemberStep.rest] at h1
    omega

/-! ### The form of an array -/

/-- The text after the closing bracket of an array that has all its elements. -/
def closeArray (s : List Char) : Except ReadError (List Char) :=
  match skipBlanks s with
  | [] => .error (.ended .list)
  | ']' :: r => .ok r
  | ',' :: r =>
    match skipBlanks r with
    | ']' :: _ => .error (.malformed .trailingComma)
    | _ => .error (.malformed .trailingText)
  | _ => .error (.malformed .trailingText)

theorem closeArray_shortens {s r : List Char} (h : closeArray s = .ok r) : r.length < s.length := by
  have hs := skipBlanks_length_le s
  unfold closeArray at h
  split at h
  · cases h
  · rename_i hr
    rw [hr] at hs
    simp only [List.length_cons] at hs
    cases h
    omega
  · split at h <;> cases h
  · cases h

/-- The position of the first of the members that must not be left out of an array, the members starting
at position `i`. -/
def firstNeeded? {σ : Type} (i : Nat) (members : List (Member σ)) : Option Nat :=
  (members.findIdx? fun m => m.presence != .optional).map (i + ·)

/-- The elements of an array up to its closing bracket, one for each of the given members of a record, of
which the first stands at position `i`. -/
def readPositions {σ : Type} (title : String) (count : Nat) (i : Nat) (a : σ) :
    List (Member σ) → List Char → Except ReadError (σ × List Char)
  | [], s =>
    match closeArray s with
    | .error e => .error e
    | .ok r => .ok (a, r)
  | m :: ms, s =>
    match nextElement (i == 0) s with
    | .error e => .error e
    | .ok (.closed r) =>
      match firstNeeded? i (m :: ms) with
      | some n => .error (.mismatch (.wrongLength n title count))
      | none => .ok (a, r)
    | .ok (.element t) =>
      match m.update.run t with
      | .error e => .error e
      | .ok (f, r) => readPositions title count (i + 1) (f a) ms r

theorem readPositions_shortens {σ : Type} {title : String} {count i : Nat} {a b : σ} {ms : List (Member σ)}
    {s r : List Char} (h : readPositions title count i a ms s = .ok (b, r)) : r.length < s.length := by
  induction ms generalizing i a s with
  | nil =>
    simp only [readPositions] at h
    split at h
    · cases h
    · rename_i hc
      cases h
      exact closeArray_shortens hc
  | cons m ms ih =>
    simp only [readPositions] at h
    split at h
    · cases h
    · rename_i hn
      split at h
      · cases h
      · cases h
        exact (nextElement_length_le hn).2 _ rfl
    · rename_i hn
      have h1 := (nextElement_length_le hn).1
      simp only [ListStep.rest] at h1
      split at h
      · cases h
      · rename_i hm
        have h2 := m.update.shortens hm
        have h3 := ih h
        omega

/-! ### Both forms -/

/-- A record of the given title, in one of its two forms. Its members may open fewer arrays and objects
than the record may. -/
def record {σ : Type} (title : String) (opens : Nat) (format : (n : Nat) → n < opens → RecordFormat σ) :
    Reader σ where
  run s :=
    match skipBlanks s with
    | '{' :: r =>
      match opens, format with
      | 0, _ => .error (.malformed .tooDeep)
      | n + 1, format =>
        let format := format n (Nat.lt_succ_self n)
        readMembers format ⟨format.blank, []⟩ true r
    | '[' :: r =>
      match opens, format with
      | 0, _ => .error (.malformed .tooDeep)
      | n + 1, format =>
        let format := format n (Nat.lt_succ_self n)
        readPositions title format.members.length 0 format.blank format.members r
    | t => .error (unexpected (.record title) t)
  shortens {s a r} h := by
    have hs := skipBlanks_length_le s
    split at h
    · rename_i t ht
      rw [ht] at hs
      simp only [List.length_cons] at hs
      split at h
      · cases h
      · have := readMembers_shortens h; omega
    · rename_i t ht
      rw [ht] at hs
      simp only [List.length_cons] at hs
      split at h
      · cases h
      · have := readPositions_shortens h; omega
    · cases h

end MusicLibrary.Json
