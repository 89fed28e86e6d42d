import MusicLibrary.FileType.Lookup

/-!
# Looking up types of files

What is found for a path is the name of an entry of the table, and so never the empty text, which
stands for no type at all.
-/

namespace MusicLibrary.FileType

theorem name_ne_empty : ∀ e ∈ entries, e.name ≠ "" := by decide +kernel

theorem typeOfExtension?_ne_empty {extension : List Char} {type : String}
    (h : typeOfExtension? extension = some type) : type ≠ "" := by
  obtain ⟨e, he, rfl⟩ := Option.map_eq_some_iff.mp h
  exact name_ne_empty e (List.mem_of_find?_eq_some he)

/-- The type of a file is never the empty text. -/
theorem typeOfPath?_ne_empty {path type : String} (h : typeOfPath? path = some type) :
    type ≠ "" := by
  obtain ⟨extension, -, h⟩ := Option.bind_eq_some_iff.mp h
  exact typeOfExtension?_ne_empty h

end MusicLibrary.FileType
