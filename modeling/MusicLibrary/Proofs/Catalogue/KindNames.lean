import MusicLibrary.Proofs.Catalogue.ItemText

/-!
# The names that a server gives

What a text says an item is, holds and plays are strings that the server is free to choose. The
item that is decoded from the text has them all, letter by letter: as the names of what it holds
and plays (`says_collection_iff`, `says_medium_iff`) and as the one name of its kind, where saying
nothing is the same as saying the empty string (`kind_eq_of_said`).
-/

namespace MusicLibrary.Catalogue

theorem ItemKind.ofName_eq_iff {name : String} {k : ItemKind} (hk : k.Canonical) :
    ofName name = k ↔ name = k.name := by
  constructor
  · rintro rfl
    exact (name_ofName name).symm
  · rintro rfl
    exact hk

/-- A value that is read as a string is not `null`. -/
theorem string_ne_null {v : List Char} {a : String} (h : Json.string.readAll v = .ok a) :
    v ≠ Json.writeNull := by
  rintro rfl
  have hfails : (Json.string.readAll Json.writeNull).toOption = none := by cbv
  rw [h] at hfails
  cases hfails

namespace Item

variable {α : Type} {s name : String} {o : Option String} {x : Item}

/-- What a text says of an item in the member `name`: a string, or nothing. -/
inductive Says (s name : String) : Option String → Prop where
  /-- The text does not give the member any value but `null`. -/
  | nothing : (∀ v, Gives s name v → v = Json.writeNull) → Says s name none
  /-- The text gives the member a string. -/
  | string {v : List Char} {a : String} : Gives s name v → Json.string.readAll v = .ok a →
      Says s name (some a)

/-- A member that may be absent says what the item is decoded to. -/
theorem says_iff_of_sets {ofName : String → α} {nameOf : α → String} {π : Item → Option α}
    (hname : ∀ a, nameOf (ofName a) = a) (hblank : π blank = none)
    (hsets : (format 126).Sets name (Json.nullable (Json.string.map ofName)) π)
    (h : decode s = .ok x) : Says s name o ↔ o = (π x).map nameOf := by
  have hnothing : (∀ v, Gives s name v → v = Json.writeNull) → π x = none := by
    obtain ⟨p, hp, hof⟩ := decode_eq_ok_iff.mp h
    simp only [Gives, hp]
    exact eq_none_of_gives_null hblank hof hsets
  have hstring : ∀ {v}, Gives s name v → v ≠ Json.writeNull →
      ∃ a, Json.string.readAll v = .ok a ∧ (π x).map nameOf = some a := by
    intro v hgives hv
    obtain ⟨a, ha, hx⟩ := exists_of_takes_nullable (takes_of_gives h hsets hgives) hv
    exact ⟨a, ha, by rw [hx, Option.map_some, hname]⟩
  constructor
  · intro hsaid
    cases hsaid with
    | nothing hnull => rw [hnothing hnull, Option.map_none]
    | string hgives ha =>
      obtain ⟨a, ha', hx⟩ := hstring hgives (string_ne_null ha)
      rw [hx, Except.ok.inj (ha.symm.trans ha')]
  · rintro rfl
    by_cases hnull : ∀ v, Gives s name v → v = Json.writeNull
    · rw [hnothing hnull]
      exact .nothing hnull
    · push Not at hnull
      obtain ⟨v, hgives, hv⟩ := hnull
      obtain ⟨a, ha, hx⟩ := hstring hgives hv
      rw [hx]
      exact .string hgives ha

/-- A member that may be absent says a string if the item is decoded to what the string stands
for. -/
theorem says_some_iff_of_sets {ofName : String → α} {nameOf : α → String} {π : Item → Option α}
    (hname : ∀ a, nameOf (ofName a) = a) (hblank : π blank = none)
    (hsets : (format 126).Sets name (Json.nullable (Json.string.map ofName)) π)
    (h : decode s = .ok x) {a : String} : Says s name (some a) ↔ π x = some (ofName a) := by
  constructor
  · rintro (_ | ⟨hgives, ha⟩)
    have htakes := takes_of_gives h hsets hgives
    obtain ⟨a', ha', hx⟩ := exists_of_takes_nullable htakes (string_ne_null ha)
    rw [hx, Except.ok.inj (ha.symm.trans ha')]
  · intro hx
    rw [says_iff_of_sets hname hblank hsets h, hx, Option.map_some, hname]

theorem says_collection_iff (h : decode s = .ok x) :
    Says s "CollectionType" o ↔ o = x.collection.map CollectionKind.name :=
  says_iff_of_sets CollectionKind.name_ofName rfl (sets_collection 126) h

theorem says_music_iff (h : decode s = .ok x) :
    Says s "CollectionType" (some "music") ↔ x.collection = some .music :=
  says_some_iff_of_sets CollectionKind.name_ofName rfl (sets_collection 126) h

theorem says_medium_iff (h : decode s = .ok x) :
    Says s "MediaType" o ↔ o = x.medium.map MediumKind.name :=
  says_iff_of_sets MediumKind.name_ofName rfl (sets_medium 126) h

theorem says_audio_iff (h : decode s = .ok x) :
    Says s "MediaType" (some "Audio") ↔ x.medium = some .audio :=
  says_some_iff_of_sets MediumKind.name_ofName rfl (sets_medium 126) h

theorem exists_of_gives_kind {v : List Char} (h : decode s = .ok x) (hgives : Gives s "Type" v) :
    ∃ a, Json.string.readAll v = .ok a ∧ x.kind = .ofName a := by
  obtain ⟨a, ha, hkind⟩ := takes_named.mp (takes_of_gives h (sets_kind 126) hgives)
  exact ⟨a, ha.readAll_value, hkind⟩

theorem exists_says_kind (h : decode s = .ok x) : ∃ o, Says s "Type" o := by
  by_cases hgiven : ∃ v, Gives s "Type" v
  · obtain ⟨v, hgives⟩ := hgiven
    obtain ⟨a, ha, -⟩ := exists_of_gives_kind h hgives
    exact ⟨some a, .string hgives ha⟩
  · exact ⟨none, .nothing fun v hgives => absurd ⟨v, hgives⟩ hgiven⟩

/-- The kind is the one of the name that is said. -/
theorem kind_eq_of_said (h : decode s = .ok x) (hsaid : Says s "Type" o) :
    x.kind = .ofName (o.getD "") := by
  cases hsaid with
  | nothing hnull =>
    have hnone : ∀ v, ¬ Gives s "Type" v := fun v hgives => by
      obtain ⟨a, ha, -⟩ := exists_of_gives_kind h hgives
      exact string_ne_null ha (hnull v hgives)
    obtain ⟨p, hp, hof⟩ := decode_eq_ok_iff.mp h
    simp only [Gives, hp] at hnone
    exact hof.eq_blank (distinct_format 126) (sets_kind 126) hnone
  | string hgives ha =>
    obtain ⟨a', ha', hkind⟩ := exists_of_gives_kind h hgives
    rw [hkind, Option.getD_some, Except.ok.inj (ha.symm.trans ha')]

end Item

end MusicLibrary.Catalogue
