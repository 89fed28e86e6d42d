import MusicLibrary.Catalogue.ImageTags
import Mathlib

/-!
# Image tags as a finite map

Image tags are determined by the tag that they have for each kind (`ImageTags.ext_get?`). Of listed
entries the last one for a kind counts (`ImageTags.get?_ofList`), so entries for different kinds may
be listed in any order (`ImageTags.ofList_perm`).
-/

namespace MusicLibrary.Catalogue

variable {key value k v : String} {entries entries' : List (String × String)}

theorem lookup_cons_of_ne {k₀ v₀ : String} (h : k ≠ k₀) :
    ((k₀, v₀) :: entries).lookup k = entries.lookup k := by
  rw [List.lookup_cons, beq_eq_false_iff_ne.mpr h]

theorem lookup_insertEntry (k : String) :
    (insertEntry key value entries).lookup k =
      if k = key then some value else entries.lookup k := by
  fun_induction insertEntry key value entries with
  | case1 => by_cases h : k = key <;> simp [h]
  | case2 k₀ v₀ entries _ => by_cases h : k = key <;> simp [h, lookup_cons_of_ne]
  | case3 k₀ v₀ entries _ hlt ih =>
    by_cases hk : k = k₀
    · subst hk
      simp [String.ne_of_lt hlt]
    · rw [lookup_cons_of_ne hk, lookup_cons_of_ne hk, ih]
  | case4 k₀ v₀ entries hnot hnot' =>
    obtain rfl : k₀ = key := String.le_antisymm (String.not_lt.mp hnot) (String.not_lt.mp hnot')
    by_cases h : k = k₀ <;> simp [h, lookup_cons_of_ne]

/-- Where no two entries have the same key, what is looked up is what is listed. -/
theorem lookup_eq_some_iff_mem (h : (entries.map Prod.fst).Nodup) :
    entries.lookup k = some v ↔ (k, v) ∈ entries := by
  induction entries with
  | nil => simp
  | cons e entries ih =>
    obtain ⟨k₀, v₀⟩ := e
    obtain ⟨hk₀, hnodup⟩ := List.nodup_cons.mp h
    by_cases hk : k = k₀
    · subst hk
      have hmem : (k, v) ∉ entries := fun hmem => hk₀ (List.mem_map.mpr ⟨_, hmem, rfl⟩)
      simp [hmem, eq_comm]
    · rw [lookup_cons_of_ne hk, ih hnodup]
      simp [hk]

namespace ImageTags

theorem get?_empty : empty.get? k = none := rfl

/-- Of two tags for one kind the one that is inserted counts. -/
theorem get?_insert (tags : ImageTags) (kind tag : String) (k : String) :
    (tags.insert kind tag).get? k = if k = kind then some tag else tags.get? k :=
  lookup_insertEntry k

theorem get?_foldl (tags : ImageTags) (entries : List (String × String)) (k : String) :
    (entries.foldl (fun tags e => tags.insert e.1 e.2) tags).get? k =
      (entries.reverse.lookup k).or (tags.get? k) := by
  induction entries generalizing tags with
  | nil => rfl
  | cons e entries ih =>
    obtain ⟨kind, tag⟩ := e
    rw [List.foldl_cons, ih, get?_insert, List.reverse_cons, List.lookup_append]
    by_cases h : k = kind <;> simp [h]

/-- Of the entries listed for a kind the last one counts. -/
theorem get?_ofList (entries : List (String × String)) (k : String) :
    (ofList entries).get? k = entries.reverse.lookup k := by
  rw [ofList, get?_foldl, get?_empty, Option.or_none]

theorem nodup_keys (tags : ImageTags) : (tags.entries.map Prod.fst).Nodup :=
  List.pairwise_map.mpr (tags.sorted.imp String.ne_of_lt)

/-- Image tags are determined by the tag of each kind. -/
theorem ext_get? {tags tags' : ImageTags} (h : ∀ k, tags.get? k = tags'.get? k) : tags = tags' := by
  have hmem : ∀ e, e ∈ tags.entries ↔ e ∈ tags'.entries := by
    rintro ⟨k, v⟩
    rw [← lookup_eq_some_iff_mem tags.nodup_keys, ← lookup_eq_some_iff_mem tags'.nodup_keys]
    exact iff_of_eq (congrArg (· = some v) (h k))
  have hperm : tags.entries.Perm tags'.entries :=
    (List.perm_ext_iff_of_nodup tags.nodup_keys.of_map tags'.nodup_keys.of_map).mpr hmem
  have hentries : tags.entries = tags'.entries :=
    hperm.eq_of_pairwise (fun _ _ _ _ hlt hlt' => absurd hlt' (String.lt_asymm hlt)) tags.sorted
      tags'.sorted
  cases tags
  cases tags'
  cases hentries
  rfl

/-- The entries of image tags may be listed in any order. -/
theorem ofList_perm {tags : ImageTags} (h : entries.Perm tags.entries) : ofList entries = tags := by
  have hreverse : entries.reverse.Perm tags.entries := entries.reverse_perm.trans h
  have hnodup : (entries.reverse.map Prod.fst).Nodup :=
    (hreverse.map Prod.fst).nodup_iff.mpr tags.nodup_keys
  refine ext_get? fun k => ?_
  rw [get?_ofList, get?]
  refine Option.ext fun v => ?_
  rw [lookup_eq_some_iff_mem hnodup, lookup_eq_some_iff_mem tags.nodup_keys, hreverse.mem_iff]

end ImageTags

end MusicLibrary.Catalogue
