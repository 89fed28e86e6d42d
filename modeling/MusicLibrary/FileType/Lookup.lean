import MusicLibrary.FileType.Extension
import MusicLibrary.FileType.Table

/-!
# The media type of a file

A file's media type is guessed from the extension of its name alone.
-/

namespace MusicLibrary.FileType

/-- The media type of files with the given extension. -/
def typeOfExtension? (extension : List Char) : Option String :=
  let folded := String.ofList (foldCase extension)
  (entries.find? fun e => e.extensions.contains folded).map Entry.name

/-- The media type of the file that a path leads to. -/
def typeOfPath? (path : String) : Option String :=
  (extension? path.toList).bind typeOfExtension?

end MusicLibrary.FileType
