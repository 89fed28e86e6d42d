import MusicLibrary.Json.Object
import MusicLibrary.Json.Writer

/-!
# Image tags

An item has at most one image of each kind, and the server names the current version of an image by a
tag. The tags are kept in ascending order of their kinds, which makes the order in which the server
lists them immaterial: equal maps are equal values.
-/

namespace MusicLibrary.Catalogue

/-- The entries `entries`, in ascending order of their keys, with `value` under `key` in place of any other. -/
def insertEntry (key value : String) : List (String × String) → List (String × String)
  | [] => [(key, value)]
  | (k, v) :: entries =>
    if key < k then (key, value) :: (k, v) :: entries
    else if k < key then (k, v) :: insertEntry key value entries
    else (key, value) :: entries

theorem mem_insertEntry {key value : String} {entries : List (String × String)} {p : String × String}
    (h : p ∈ insertEntry key value entries) : p = (key, value) ∨ p ∈ entries := by
  fun_induction insertEntry key value entries with
  | case1 => simpa using h
  | case2 k v entries _ => simpa using h
  | case3 k v entries _ _ ih =>
    rcases List.mem_cons.mp h with rfl | h
    · simp
    · rcases ih h with h | h
      · exact .inl h
      · exact .inr (List.mem_cons_of_mem _ h)
  | case4 k v entries _ _ =>
    rcases List.mem_cons.mp h with h | h
    · exact .inl h
    · exact .inr (List.mem_cons_of_mem _ h)

theorem insertEntry_sorted {key value : String} {entries : List (String × String)}
    (h : entries.Pairwise fun p q => p.1 < q.1) :
    (insertEntry key value entries).Pairwise fun p q => p.1 < q.1 := by
  fun_induction insertEntry key value entries with
  | case1 => simp
  | case2 k v entries hk =>
    rw [List.pairwise_cons] at h ⊢
    refine ⟨fun p hp => ?_, List.pairwise_cons.mpr h⟩
    rcases List.mem_cons.mp hp with rfl | hp
    · exact hk
    · exact String.lt_trans hk (h.1 p hp)
  | case3 k v entries _ hk ih =>
    rw [List.pairwise_cons] at h ⊢
    refine ⟨fun p hp => ?_, ih h.2⟩
    rcases mem_insertEntry hp with rfl | hp
    · exact hk
    · exact h.1 p hp
  | case4 k v entries h1 h2 =>
    have : k = key := String.le_antisymm (String.not_lt.mp h1) (String.not_lt.mp h2)
    subst this
    exact List.pairwise_cons.mpr (List.pairwise_cons.mp h)

/-- The tag of each kind of image that an item has. -/
structure ImageTags where
  /-- The kinds and their tags. -/
  entries : List (String × String)
  /-- The kinds ascend. -/
  sorted : entries.Pairwise fun p q => p.1 < q.1
  deriving DecidableEq

namespace ImageTags

/-- No images. -/
def empty : ImageTags := ⟨[], .nil⟩

/-- The tags with `tag` as the one of the kind `kind`. -/
def insert (tags : ImageTags) (kind tag : String) : ImageTags :=
  ⟨insertEntry kind tag tags.entries, insertEntry_sorted tags.sorted⟩

/-- The tags listed; of two for one kind the last one counts. -/
def ofList (entries : List (String × String)) : ImageTags :=
  entries.foldl (fun tags e => tags.insert e.1 e.2) empty

/-- The tag of a kind of image. -/
def get? (tags : ImageTags) (kind : String) : Option String := tags.entries.lookup kind

/-- Image tags, an object with any names. -/
def reader (opens : Nat) : Json.Reader ImageTags := (Json.map opens Json.string).map ofList

/-- Image tags in JSON. -/
def write (tags : ImageTags) : List Char :=
  Json.writeObject (tags.entries.map fun e => (e.1, Json.writeString e.2))

end ImageTags

end MusicLibrary.Catalogue
