import MusicLibrary.Text.Markless

/-!
# Quoted text

A text between double quotes as it appears in error messages and in the printed form of sessions.
A quote, a backslash and the usual control characters have a short escape; a character that would
leave no mark of its own is spelled by its code point in hexadecimal; all others stand for
themselves.
-/

namespace MusicLibrary.Text

/-- The lower-case hexadecimal digits of `n`. -/
def hexadecimal (n : Nat) : List Char := Nat.toDigits 16 n

/-- One character inside double quotes. -/
def quotedChar (c : Char) : List Char :=
  if c = Char.ofNat 0 then ['\\', '0']
  else if c = '\t' then ['\\', 't']
  else if c = '\r' then ['\\', 'r']
  else if c = '\n' then ['\\', 'n']
  else if c = '"' then ['\\', '"']
  else if c = '\\' then ['\\', '\\']
  else if isMarkless c then ['\\', 'u', '{'] ++ hexadecimal c.toNat ++ ['}']
  else [c]

/-- The text `s` between double quotes. -/
def quoted (s : String) : String :=
  String.ofList ('"' :: s.toList.flatMap quotedChar ++ ['"'])

end MusicLibrary.Text
