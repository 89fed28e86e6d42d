/-!
# White space

The Unicode property `White_Space`, and texts without characters of a class at their ends. The
server address of a configuration is read through `trim`, so that stray blanks, tabs and line
breaks around it do no harm.
-/

namespace MusicLibrary.Text

/-- The characters of the Unicode property `White_Space`. -/
def isBlank (c : Char) : Bool :=
  let n := c.toNat
  (9 ≤ n && n ≤ 13) || n == 0x20 || n == 0x85 || n == 0xA0 || n == 0x1680 ||
    (0x2000 ≤ n && n ≤ 0x200A) || n == 0x2028 || n == 0x2029 || n == 0x202F || n == 0x205F || n == 0x3000

/-- `s` without the longest run of characters of the class `p` at its end. -/
def dropTrailing (p : Char → Bool) (s : List Char) : List Char :=
  (s.reverse.dropWhile p).reverse

/-- `s` without white space at its start and at its end. -/
def trim (s : List Char) : List Char :=
  dropTrailing isBlank (s.dropWhile isBlank)

end MusicLibrary.Text
