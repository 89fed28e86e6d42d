/-!
# Percent-encoding

The bytes of a text in UTF-8, those of a chosen set of ASCII characters kept and every other
written as `%` and two upper-case hexadecimal digits. An item's id is encoded as one segment of a
path, a query's names and values as parts of a query string; the two keep different characters.
-/

namespace MusicLibrary.PercentEncoding

/-- The upper-case hexadecimal digit of `n`, for `n < 16`. -/
def hexDigit (n : Nat) : Char :=
  if n < 10 then Char.ofNat (48 + n) else Char.ofNat (55 + n)

/-- A byte as `%` and two hexadecimal digits. -/
def escapedByte (b : UInt8) : List Char :=
  ['%', hexDigit (b.toNat / 16), hexDigit (b.toNat % 16)]

/-- One character: itself if `keep` holds of it, otherwise its bytes, each escaped. -/
def encodeChar (keep : Char → Bool) (c : Char) : List Char :=
  if keep c then [c] else (String.utf8EncodeChar c).flatMap escapedByte

/-- The text `s`, with the characters of the set `keep` left as they are. -/
def encode (keep : Char → Bool) (s : List Char) : List Char :=
  s.flatMap (encodeChar keep)

/-- The characters kept in a segment of a path: ASCII letters and digits, `-`, `.`, `_` and `~`. -/
def keptInSegment (c : Char) : Bool :=
  c.isAlphanum || c == '-' || c == '.' || c == '_' || c == '~'

/-- The characters kept in a name or value of a query: those of a segment, and `!`, `(`, `)`, `*`. -/
def keptInQuery (c : Char) : Bool :=
  keptInSegment c || c == '!' || c == '(' || c == ')' || c == '*'

end MusicLibrary.PercentEncoding
