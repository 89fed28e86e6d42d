/-!
# Extensions of file names

The extension of a path is what follows the last dot in its last part, unless that dot comes first. Two
extensions that differ only in case are the same; the case of a letter is removed by the Unicode rule,
under which a few letters outside ASCII stand for ASCII letters.
-/

namespace MusicLibrary.FileType

/-- The parts of a path between its slashes. -/
def pathParts : List Char → List (List Char)
  | [] => [[]]
  | c :: s =>
    if c = '/' then [] :: pathParts s
    else
      match pathParts s with
      | [] => [[c]]
      | p :: ps => (c :: p) :: ps

/-- The name of the file that a path leads to: its last part, empty parts and single dots left out; none if
that is the way up. -/
def fileName? (path : List Char) : Option (List Char) :=
  match ((pathParts path).filter fun p => !p.isEmpty && p != ['.']).getLast? with
  | none => none
  | some p => if p = ['.', '.'] then none else some p

/-- What follows the last dot of a name, unless there is none or it comes first. -/
def nameExtension? (name : List Char) : Option (List Char) :=
  let back := name.reverse
  match back.dropWhile (· != '.') with
  | [] => none
  | [_] => none
  | _ => some (back.takeWhile (· != '.')).reverse

/-- The extension of a path. -/
def extension? (path : List Char) : Option (List Char) :=
  (fileName? path).bind nameExtension?

/-- The letters outside ASCII whose case folds into ASCII letters, with these letters. -/
def foldsIntoAscii : List (Char × List Char) :=
  [('ß', ['s', 's']), ('ẞ', ['s', 's']), ('ſ', ['s']), (Char.ofNat 0x212A, ['k']), (Char.ofNat 0xFB00, ['f', 'f']),
    (Char.ofNat 0xFB01, ['f', 'i']), (Char.ofNat 0xFB02, ['f', 'l']), (Char.ofNat 0xFB03, ['f', 'f', 'i']),
    (Char.ofNat 0xFB04, ['f', 'f', 'l']), (Char.ofNat 0xFB05, ['s', 't']), (Char.ofNat 0xFB06, ['s', 't'])]

/-- A character without case, as far as it may be equal to ASCII letters then. -/
def foldChar (c : Char) : List Char :=
  match foldsIntoAscii.lookup c with
  | some cs => cs
  | none => [c.toLower]

/-- A text without case, as far as it may be equal to an ASCII text then. -/
def foldCase (s : List Char) : List Char := s.flatMap foldChar

end MusicLibrary.FileType
