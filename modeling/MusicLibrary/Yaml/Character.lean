/-!
# Characters of YAML

The classes of characters that the structure of a document hangs on. A document is prepared before it is
read: a character that may not stand in a document spoils it, and the different ways to end a line are
made one.
-/

namespace MusicLibrary.Yaml

/-- A blank within a line. -/
def isBlank (c : Char) : Bool := c == ' ' || c == '\t'

/-- The end of a line in a prepared document. -/
def isBreak (c : Char) : Bool := c == '\n' || c.toNat == 0x2028 || c.toNat == 0x2029

/-- A blank or the end of a line. -/
def isSpace (c : Char) : Bool := isBlank c || isBreak c

/-- The mark of the byte order, which may start a line. -/
def isByteOrderMark (c : Char) : Bool := c.toNat == 0xFEFF

/-- The text is at its end, or goes on with a blank or the end of a line. -/
def startsWithSpace (s : List Char) : Bool := s.head?.all isSpace

/-- A bracket or comma of a flow collection. -/
def isFlowIndicator (c : Char) : Bool := c == ',' || c == '[' || c == ']' || c == '{' || c == '}'

/-- A character of a word: the name of an anchor, a directive or a tag's handle. -/
def isWordChar (c : Char) : Bool := c.isAlphanum || c == '_' || c == '-'

/-- The text starts with three dashes or three dots that stand alone, which separate documents. -/
def atDocumentMark (s : List Char) : Bool :=
  (s.take 3 == ['-', '-', '-'] || s.take 3 == ['.', '.', '.']) && startsWithSpace (s.drop 3)

/-- The number of bytes of a text in UTF-8. -/
def byteCount (s : List Char) : Nat := s.foldl (fun n c => n + c.utf8Size) 0

/-- A character that may stand in a document. -/
def isAllowed (c : Char) : Bool :=
  let n := c.toNat
  n == 9 || n == 0xA || n == 0xD || (0x20 ≤ n && n ≤ 0x7E) || n == 0x85 || (0xA0 ≤ n && n ≤ 0xD7FF) ||
    (0xE000 ≤ n && n ≤ 0xFFFD) || 0x10000 ≤ n

/-- The text with a line feed for every carriage return, line feed or both together, and for every next-line
character. -/
def normalizeBreaks : List Char → List Char
  | [] => []
  | c :: s =>
    if c = '\r' then
      match s with
      | '\n' :: t => '\n' :: normalizeBreaks t
      | t => '\n' :: normalizeBreaks t
    else if c.toNat = 0x85 then '\n' :: normalizeBreaks s
    else c :: normalizeBreaks s

/-- The prepared document, if every character may stand in one. -/
def prepare (s : List Char) : Option (List Char) :=
  if s.all isAllowed then some (normalizeBreaks s) else none

/-! ### Places in a document -/

/-- A place in a document: the text from there on, the number of the line, and the number of characters
before the place in its line. -/
structure Place where
  /-- The text from the place on. -/
  rest : List Char
  /-- The number of line ends before the place. -/
  line : Nat
  /-- The number of characters between the start of the line and the place. -/
  column : Nat
  deriving DecidableEq, Repr

namespace Place

/-- The place after the longest run of characters of a class without line ends, and the run. -/
def takeRun (p : Place) (inClass : Char → Bool) : List Char × Place :=
  let run := p.rest.takeWhile inClass
  (run, ⟨p.rest.dropWhile inClass, p.line, p.column + run.length⟩)

/-- The place after the longest run of characters of a class without line ends. -/
def skipRun (p : Place) (inClass : Char → Bool) : Place := (p.takeRun inClass).2

/-- The place after the next `n` characters, none of which ends a line. -/
def skip (p : Place) (n : Nat) : Place := ⟨p.rest.drop n, p.line, p.column + n⟩

/-- The place after a line end, which comes next. -/
def nextLine (p : Place) : Place := ⟨p.rest.tail, p.line + 1, 0⟩

/-- The next character. -/
def head? (p : Place) : Option Char := p.rest.head?

/-- The place after a comment, if one comes next. -/
def skipComment (p : Place) : Place :=
  match p.rest with
  | '#' :: _ => p.skipRun fun c => !isBreak c
  | _ => p

end Place

end MusicLibrary.Yaml
