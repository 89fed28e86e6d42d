import MusicLibrary.Browsing.Browse
import Mathlib

/-!
# Endings of file names

The type of a file does not depend on where the file lies. Of a path only the last part counts,
whatever directory stands before it and however many slashes behind it (`fileName?_of_leadsTo`). Of
that name only the ending counts, which is what follows its last dot (`extension?_eq_of_ending`),
and of the ending it makes no difference which letters are capitals (`typeOfExtension?_congr`). So
dots in the names of directories never matter, and a file whose name starts with its only dot has no
type.
-/

namespace MusicLibrary.FileType

/-! ### Names at the end of paths -/

/-- The text names a file: it is one part of a path, and not one that stands for no step. -/
structure FileName (name : List Char) : Prop where
  /-- It is not empty. -/
  ne_nil : name ≠ []
  /-- It is one part. -/
  slash_not_mem : '/' ∉ name
  /-- It is not the dot, which stands for where the path has got already. -/
  ne_dot : name ≠ ['.']

/-- The paths to a name, with any number of slashes at the end. -/
inductive LeadsTo (name : List Char) : List Char → Prop where
  /-- The name alone. -/
  | here (slashes : ℕ) : LeadsTo name (name ++ List.replicate slashes '/')
  /-- The name behind a directory. -/
  | within (directory : List Char) (slashes : ℕ) :
      LeadsTo name (directory ++ '/' :: (name ++ List.replicate slashes '/'))

theorem pathParts_eq_splitOn (path : List Char) : pathParts path = path.splitOn '/' := by
  induction path with
  | nil => rfl
  | cons c path ih =>
    simp only [pathParts, ih, List.splitOn, List.splitOnP_cons_eq_if_modifyHead, beq_iff_eq]
    split_ifs with hc
    · rfl
    · have hne := List.splitOnP_ne_nil (· == '/') path
      obtain ⟨part, parts, hparts⟩ := List.exists_cons_of_ne_nil hne
      rw [hparts]
      rfl

theorem pathParts_append_cons (s t : List Char) :
    pathParts (s ++ '/' :: t) = pathParts s ++ pathParts t := by
  simp only [pathParts_eq_splitOn, List.splitOn_append_cons_self]

theorem pathParts_append_replicate (s : List Char) (n : ℕ) :
    pathParts (s ++ List.replicate n '/') = pathParts s ++ List.replicate n [] := by
  induction n with
  | zero => simp
  | succ n ih =>
    have hsplit : s ++ List.replicate (n + 1) '/' = (s ++ List.replicate n '/') ++ '/' :: [] := by
      rw [List.replicate_succ', List.append_assoc]
    rw [hsplit, pathParts_append_cons, ih, List.append_assoc, List.replicate_succ']
    rfl

/-- The parts of a path to a name: the name is the last of them that is not empty. -/
theorem LeadsTo.parts {name path : List Char} (hname : FileName name) (h : LeadsTo name path) :
    ∃ before slashes, pathParts path = before ++ [name] ++ List.replicate slashes [] := by
  have hone : pathParts name = [name] := by
    rw [pathParts_eq_splitOn, List.splitOn_eq_singleton hname.slash_not_mem]
  cases h with
  | here slashes => exact ⟨[], slashes, by rw [pathParts_append_replicate, hone]; rfl⟩
  | within directory slashes =>
    refine ⟨pathParts directory, slashes, ?_⟩
    rw [pathParts_append_cons, pathParts_append_replicate, hone, List.append_assoc]

/-- A path to a name leads to the file of that name, or nowhere if the name is the way up. -/
theorem fileName?_of_leadsTo {name path : List Char} (hname : FileName name)
    (h : LeadsTo name path) : fileName? path = if name = ['.', '.'] then none else some name := by
  obtain ⟨before, slashes, hparts⟩ := h.parts hname
  have hlast : ((pathParts path).filter fun p => !p.isEmpty && p != ['.']).getLast? =
      some name := by
    simp [hparts, hname.ne_nil, hname.ne_dot]
  simp only [fileName?, hlast]

/-! ### Endings -/

/-- The ending of a name, if it has one. -/
inductive Ending : (name : List Char) → Option (List Char) → Prop where
  /-- A name without a dot has no ending. -/
  | plain {name : List Char} : '.' ∉ name → Ending name none
  /-- A dot that comes first begins no ending. -/
  | hidden {name : List Char} : '.' ∉ name → Ending ('.' :: name) none
  /-- The way up has no ending. -/
  | up : Ending ['.', '.'] none
  /-- Any other ending is what follows the last dot. -/
  | dotted {start ending : List Char} : start ≠ [] → '.' ∉ ending →
      start ++ '.' :: ending ≠ ['.', '.'] → Ending (start ++ '.' :: ending) (some ending)

theorem nameExtension?_of_not_mem {name : List Char} (h : '.' ∉ name) :
    nameExtension? name = none := by
  have hdrop : name.reverse.dropWhile (· != '.') = [] := by
    rw [List.dropWhile_eq_nil_iff]
    intro c hc
    simpa using ne_of_mem_of_not_mem (List.mem_reverse.mp hc) h
  simp only [nameExtension?, hdrop]

theorem nameExtension?_append_cons {ending : List Char} (h : '.' ∉ ending) (start : List Char) :
    nameExtension? (start ++ '.' :: ending) = if start = [] then none else some ending := by
  have hback : (start ++ '.' :: ending).reverse = ending.reverse ++ '.' :: start.reverse := by simp
  have hall : ∀ c ∈ ending.reverse, (c != '.') = true := by
    intro c hc
    simpa using ne_of_mem_of_not_mem (List.mem_reverse.mp hc) h
  have hdrop : (ending.reverse ++ '.' :: start.reverse).dropWhile (· != '.') =
      '.' :: start.reverse := List.dropWhile_append_of_pos hall
  have htake : (ending.reverse ++ '.' :: start.reverse).takeWhile (· != '.') = ending.reverse := by
    rw [List.takeWhile_append_of_pos hall]
    exact List.append_nil _
  simp only [nameExtension?, hback, hdrop, htake, List.reverse_reverse]
  cases start using List.reverseRecOn with
  | nil => rfl
  | append_singleton start c => simp

theorem Ending.nameExtension?_eq {name : List Char} {ending : Option (List Char)}
    (h : Ending name ending) :
    (if name = ['.', '.'] then none else nameExtension? name) = ending := by
  cases h with
  | plain hdot => rw [nameExtension?_of_not_mem hdot, ite_self]
  | @hidden name hdot =>
    have hnone := nameExtension?_append_cons hdot []
    rw [List.nil_append, if_pos rfl] at hnone
    rw [hnone, ite_self]
  | up => rfl
  | dotted hstart hdot hup => rw [if_neg hup, nameExtension?_append_cons hdot, if_neg hstart]

theorem exists_ending (name : List Char) : ∃ ending, Ending name ending := by
  by_cases hup : name = ['.', '.']
  · exact ⟨none, hup ▸ .up⟩
  · by_cases hdot : '.' ∈ name
    · -- The last dot of the name is the first one from behind.
      obtain ⟨after, before, hback, hafter⟩ :=
        List.eq_append_cons_of_mem (List.mem_reverse.mpr hdot)
      have hname : name = before.reverse ++ '.' :: after.reverse := by
        rw [← List.reverse_reverse name, hback]
        simp
      have hending : '.' ∉ after.reverse := by simpa using hafter
      rw [hname] at hup ⊢
      by_cases hstart : before.reverse = []
      · rw [hstart]
        exact ⟨none, .hidden hending⟩
      · exact ⟨some after.reverse, .dotted hstart hending hup⟩
    · exact ⟨none, .plain hdot⟩

/-- A name has exactly one ending, or exactly none. -/
theorem existsUnique_ending (name : List Char) : ∃! ending, Ending name ending := by
  obtain ⟨ending, hending⟩ := exists_ending name
  exact ⟨ending, hending, fun other hother =>
    hother.nameExtension?_eq.symm.trans hending.nameExtension?_eq⟩

/-- The extension of a path is the ending of the name that it leads to. -/
theorem extension?_eq_of_ending {name path : List Char} {ending : Option (List Char)}
    (hname : FileName name) (hpath : LeadsTo name path) (hending : Ending name ending) :
    extension? path = ending := by
  rw [extension?, fileName?_of_leadsTo hname hpath, ← hending.nameExtension?_eq]
  split_ifs <;> rfl

/-! ### Capitals -/

/-- The texts are equal but for the case of the letters from A to Z. -/
def SameButCase (s t : List Char) : Prop := s.map Char.toLower = t.map Char.toLower

theorem foldChar_of_isAlpha {c : Char} (h : c.isAlpha) : foldChar c = [c.toLower] := by
  have hkeys : ∀ p ∈ foldsIntoAscii, ¬ p.1.isAlpha := by decide
  have hnone : foldsIntoAscii.lookup c = none := by
    rw [List.lookup_eq_none_iff]
    intro p hp
    rw [bne_iff_ne]
    rintro rfl
    exact hkeys p hp h
  rw [foldChar, hnone]

theorem foldChar_toLower (c : Char) : foldChar c.toLower = foldChar c := by
  by_cases h : c.isUpper
  · have halpha : c.isAlpha := by simp [Char.isAlpha, h]
    rw [foldChar_of_isAlpha halpha, foldChar_of_isAlpha (by simpa using halpha),
      Char.toLower_toLower_eq_toLower]
  · rw [Char.toLower_eq_of_not_isUpper h]

theorem foldCase_map_toLower (s : List Char) : foldCase (s.map Char.toLower) = foldCase s := by
  simp only [foldCase, List.flatMap_map, foldChar_toLower]

/-- The type of files with an extension does not depend on the case of its letters. -/
theorem typeOfExtension?_congr {s t : List Char} (h : SameButCase s t) :
    typeOfExtension? s = typeOfExtension? t := by
  rw [typeOfExtension?, typeOfExtension?, ← foldCase_map_toLower s, h, foldCase_map_toLower]

end MusicLibrary.FileType

namespace MusicLibrary.Browsing

open Catalogue FileType

/-- **The type of a file depends on the ending of its name alone**: an item whose first file lies at
a path to a name has the type of the ending of that name, or fails with the path if the name has no
ending or one of no known type. Every name has exactly one ending or exactly none, and the type of
an ending does not depend on the case of its letters. -/
theorem contentType_depends_on_ending :
    (∀ name, ∃! ending, Ending name ending) ∧
    (∀ (item : Item) (path : String) (name : List Char) (ending : Option (List Char)),
      item.primaryPath? = some path → FileName name → LeadsTo name path.toList →
      Ending name ending →
      contentType item =
        match ending.bind typeOfExtension? with
        | some type => .ok type
        | none => .error (.undeterminedType path)) ∧
    ∀ s t, SameButCase s t → typeOfExtension? s = typeOfExtension? t := by
  refine ⟨existsUnique_ending, ?_, fun s t => typeOfExtension?_congr⟩
  intro item path name ending hitem hname hpath hending
  have htype : typeOfPath? path = ending.bind typeOfExtension? := by
    rw [typeOfPath?, extension?_eq_of_ending hname hpath hending]
  simp only [contentType, hitem, htype]
  cases ending.bind typeOfExtension? <;> rfl

/-! ### Two files with dots in their paths -/

/-- A track with one file. -/
def trackAt (path : String) : Item :=
  ⟨"t", "Intro", .audio, none, none, .empty, some .audio, [⟨none, some path, none⟩]⟩

/-- A file has the type of its ending in capitals behind a directory with a dot in its name, and a
file whose name starts with its only dot has none, though its directory has an ending. -/
theorem contentType_depends_on_ending_dots :
    FileName "Intro.FLAC".toList ∧
    LeadsTo "Intro.FLAC".toList "/music/v1.0/Intro.FLAC//".toList ∧
    Ending "Intro.FLAC".toList (some ['F', 'L', 'A', 'C']) ∧
    SameButCase ['F', 'L', 'A', 'C'] ['f', 'l', 'a', 'c'] ∧
    contentType (trackAt "/music/v1.0/Intro.FLAC//") = .ok "audio/flac" ∧
    contentType (trackAt "Best.mp3/.flac") = .error (.undeterminedType "Best.mp3/.flac") := by
  obtain ⟨-, htyped, hcase⟩ := contentType_depends_on_ending
  have hname : FileName "Intro.FLAC".toList := ⟨by decide, by decide, by decide⟩
  have hpath : LeadsTo "Intro.FLAC".toList "/music/v1.0/Intro.FLAC//".toList :=
    .within "/music/v1.0".toList 2
  have hending : Ending "Intro.FLAC".toList (some ['F', 'L', 'A', 'C']) :=
    @Ending.dotted "Intro".toList ['F', 'L', 'A', 'C'] (by decide) (by decide) (by decide)
  have hsame : SameButCase ['F', 'L', 'A', 'C'] ['f', 'l', 'a', 'c'] := rfl
  have hhidden : FileName ".flac".toList := ⟨by decide, by decide, by decide⟩
  refine ⟨hname, hpath, hending, hsame, ?_, ?_⟩
  · have hflac : typeOfExtension? ['f', 'l', 'a', 'c'] = some "audio/flac" := by decide +kernel
    rw [htyped _ _ _ _ rfl hname hpath hending, Option.bind_some, hcase _ _ hsame, hflac]
  · exact htyped _ _ _ none rfl hhidden (.within "Best.mp3".toList 0) (.hidden (by decide))

end MusicLibrary.Browsing
