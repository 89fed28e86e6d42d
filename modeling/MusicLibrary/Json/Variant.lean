import MusicLibrary.Json.Object

/-!
# Alternatives

A value of a type with finitely many named values is written as its name, or as an object with the name
as its only member and `null` as the value.
-/

namespace MusicLibrary.Json

/-- The alternative of the given name. -/
def alternative {α : Type} (known : List (String × α)) (name : String) : Except ReadError α :=
  match known.lookup name with
  | some a => .ok a
  | none => .error (.mismatch (.unknownVariant name (known.map (·.1))))

/-- The text after the brace that closes an object of one member. -/
def closeObject (s : List Char) : Except ReadError (List Char) :=
  match skipBlanks s with
  | [] => .error (.ended .object)
  | '}' :: r => .ok r
  | _ => .error (.malformed .valueExpected)

theorem closeObject_shortens {s r : List Char} (h : closeObject s = .ok r) : r.length < s.length := by
  have hs := skipBlanks_length_le s
  unfold closeObject at h
  split at h
  · cases h
  · rename_i hr
    rw [hr] at hs
    simp only [List.length_cons] at hs
    cases h
    omega
  · cases h

/-- The name of an alternative in the form of an object, from after the opening brace. -/
def readTag (s : List Char) : Except ReadError (String × List Char) :=
  match skipBlanks s with
  | [] => .error (.ended .object)
  | '"' :: r => readName r
  | _ => .error (.malformed .nameExpected)

theorem readTag_shortens {s r : List Char} {name : String} (h : readTag s = .ok (name, r)) :
    r.length < s.length := by
  have hs := skipBlanks_length_le s
  unfold readTag at h
  split at h
  · cases h
  · rename_i hr
    rw [hr] at hs
    simp only [List.length_cons] at hs
    have := readName_shortens h
    omega
  · cases h

/-- The rest of an alternative in the form of an object, from after the opening brace. -/
def readTagged {α : Type} (known : List (String × α)) (s : List Char) : Except ReadError (α × List Char) :=
  match readTag s with
  | .error e => .error e
  | .ok (name, t) =>
    match alternative known name with
    | .error e => .error e
    | .ok a =>
      match readMemberValue unit t with
      | .error e => .error e
      | .ok (_, u) =>
        match closeObject u with
        | .error e => .error e
        | .ok r => .ok (a, r)

theorem readTagged_shortens {α : Type} {known : List (String × α)} {s r : List Char} {a : α}
    (h : readTagged known s = .ok (a, r)) : r.length < s.length := by
  unfold readTagged at h
  split at h
  · cases h
  · rename_i hs
    split at h
    · cases h
    · split at h
      · cases h
      · rename_i hv
        split at h
        · cases h
        · rename_i hc
          cases h
          exact Nat.lt_trans (closeObject_shortens hc) (Nat.lt_trans (readMemberValue_shortens hv) (readTag_shortens hs))

/-- One of the alternatives `known`, in one of the two forms. -/
def variant {α : Type} (opens : Nat) (known : List (String × α)) : Reader α where
  run s :=
    match skipBlanks s with
    | [] => .error (.ended .value)
    | '{' :: r => if opens = 0 then .error (.malformed .tooDeep) else readTagged known r
    | '"' :: r =>
      match readName r with
      | .error e => .error e
      | .ok (name, t) =>
        match alternative known name with
        | .error e => .error e
        | .ok a => .ok (a, t)
    | _ => .error (.malformed .valueExpected)
  shortens {s a r} h := by
    have hs := skipBlanks_length_le s
    split at h
    · cases h
    · rename_i t ht
      rw [ht] at hs
      simp only [List.length_cons] at hs
      split at h
      · cases h
      · have := readTagged_shortens h; omega
    · rename_i t ht
      rw [ht] at hs
      simp only [List.length_cons] at hs
      split at h
      · cases h
      · rename_i hn
        have := readName_shortens hn
        split at h
        · cases h
        · cases h
          omega
    · cases h

end MusicLibrary.Json
