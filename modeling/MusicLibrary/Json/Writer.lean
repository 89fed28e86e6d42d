/-!
# Compact JSON

Values in their compact form: no white space, members in the order given, and in strings an escape
only where the grammar asks for one.
-/

namespace MusicLibrary.Json

/-- The lower-case hexadecimal digit of `n`, for `n < 16`. -/
def lowerHexDigit (n : Nat) : Char :=
  if n < 10 then Char.ofNat (48 + n) else Char.ofNat (87 + n)

/-- One character of a string: a quote, a backslash and the control characters below U+0020 are escaped,
five of these with a letter. -/
def writeChar (c : Char) : List Char :=
  if c = '"' then ['\\', '"']
  else if c = '\\' then ['\\', '\\']
  else if c = Char.ofNat 8 then ['\\', 'b']
  else if c = '\t' then ['\\', 't']
  else if c = '\n' then ['\\', 'n']
  else if c = Char.ofNat 12 then ['\\', 'f']
  else if c = '\r' then ['\\', 'r']
  else if c.toNat < 32 then
    ['\\', 'u', '0', '0', lowerHexDigit (c.toNat / 16), lowerHexDigit (c.toNat % 16)]
  else [c]

/-- A string. -/
def writeString (s : String) : List Char :=
  '"' :: s.toList.flatMap writeChar ++ ['"']

/-- `true` or `false`. -/
def writeBoolean (b : Bool) : List Char :=
  if b then ['t', 'r', 'u', 'e'] else ['f', 'a', 'l', 's', 'e']

/-- `null`. -/
def writeNull : List Char := ['n', 'u', 'l', 'l']

/-- A natural number. -/
def writeNat (n : Nat) : List Char := Nat.toDigits 10 n

/-- A value or `null`. -/
def writeNullable {α : Type} (write : α → List Char) : Option α → List Char
  | none => writeNull
  | some a => write a

/-- The given texts with commas between them. -/
def separated : List (List Char) → List Char
  | [] => []
  | [t] => t
  | t :: u :: ts => t ++ ',' :: separated (u :: ts)

/-- An array of written elements. -/
def writeArray (elements : List (List Char)) : List Char :=
  '[' :: separated elements ++ [']']

/-- A member of an object. -/
def writeMember (name : String) (value : List Char) : List Char :=
  writeString name ++ ':' :: value

/-- An object of names and written values. -/
def writeObject (members : List (String × List Char)) : List Char :=
  '{' :: separated (members.map fun m => writeMember m.1 m.2) ++ ['}']

end MusicLibrary.Json
