import MusicLibrary.Browsing.Source
import Mathlib

/-!
# Addresses and their texts

A text is the text of an address if and only if it starts with the scheme. The first slash behind
the scheme parts the domain from the identifier, and a part that is empty counts as absent: so an
address is read back from its text if and only if its domain holds no slash and neither part is the
empty text (`parse?_render_eq_some_iff`), and the text of an address that has been read differs from
the text that it was read from by no more than a slash at the end.
-/

namespace MusicLibrary.Media

open Browsing (readAddress)

/-! ### Parts that may be absent -/

theorem getD_nonEmpty (s : List Char) : (nonEmpty s).getD "" = String.ofList s := by
  cases s <;> rfl

theorem nonEmpty_ne (s : List Char) : nonEmpty s ≠ some "" := by
  cases s with
  | nil => nofun
  | cons c s =>
    intro h
    exact absurd (congrArg String.toList (Option.some.inj h)) (by simp)

theorem nonEmpty_toList {s : String} (h : s ≠ "") : nonEmpty s.toList = some s := by
  have htoList : s.toList ≠ [] := fun e => h (String.toList_eq_nil_iff.mp e)
  rw [nonEmpty, if_neg (by simpa using htoList), String.ofList_toList]

/-- A part that is absent or not the empty text is got back from the text that stands for it. -/
theorem nonEmpty_getD {o : Option String} (h : o ≠ some "") : nonEmpty (o.getD "").toList = o := by
  cases o with
  | none => rfl
  | some s => exact nonEmpty_toList fun e => h (congrArg some e)

namespace Address

/-! ### The scheme and the slash -/

theorem dropStart?_eq_some_iff {start s r : List Char} :
    dropStart? start s = some r ↔ s = start ++ r := by
  fun_induction dropStart? start s with
  | case1 s => simp [eq_comm]
  | case2 => simp
  | case3 c start s ih => simpa using ih
  | case4 a start c s hne => simp [hne]

theorem splitSlash_of_not_mem {s : List Char} (h : '/' ∉ s) : splitSlash s = (s, []) := by
  induction s with
  | nil => rfl
  | cons c s ih =>
    obtain ⟨hc, hs⟩ := List.ne_and_not_mem_of_not_mem_cons h
    rw [splitSlash, if_neg (Ne.symm hc), ih hs]

theorem splitSlash_append {s : List Char} (h : '/' ∉ s) (t : List Char) :
    splitSlash (s ++ '/' :: t) = (s, t) := by
  induction s with
  | nil => rfl
  | cons c s ih =>
    obtain ⟨hc, hs⟩ := List.ne_and_not_mem_of_not_mem_cons h
    rw [List.cons_append, splitSlash, if_neg (Ne.symm hc), ih hs]

theorem slash_not_mem_splitSlash (s : List Char) : '/' ∉ (splitSlash s).1 := by
  by_cases h : '/' ∈ s
  · obtain ⟨d, i, rfl, hd⟩ := List.eq_append_cons_of_mem h
    rwa [splitSlash_append hd]
  · rwa [splitSlash_of_not_mem h]

/-! ### Reading -/

/-- The address that the text behind the scheme stands for. -/
def ofRest (rest : List Char) : Address :=
  ⟨nonEmpty (splitSlash rest).1, nonEmpty (splitSlash rest).2⟩

theorem parse?_eq_some_iff {uri : String} {a : Address} :
    parse? uri = some a ↔ ∃ rest, uri = scheme ++ String.ofList rest ∧ a = ofRest rest := by
  have huri : ∀ rest, uri = scheme ++ String.ofList rest ↔ uri.toList = scheme.toList ++ rest :=
    fun rest => by rw [← String.toList_inj, String.toList_append, String.toList_ofList]
  simp only [parse?, Option.map_eq_some_iff, dropStart?_eq_some_iff, huri]
  exact ⟨fun ⟨rest, hrest, ha⟩ => ⟨rest, hrest, ha.symm⟩,
    fun ⟨rest, hrest, ha⟩ => ⟨rest, hrest, ha.symm⟩⟩

theorem readAddress_eq_ok_iff {uri : String} {a : Address} :
    readAddress uri = .ok a ↔ parse? uri = some a := by
  unfold readAddress
  cases parse? uri with
  | none => exact ⟨nofun, nofun⟩
  | some b => exact ⟨fun h => congrArg some (Except.ok.inj h), fun h => by cases h; rfl⟩

/-- The text of an address, with its two parts behind the scheme. -/
theorem render_eq (a : Address) :
    a.render = scheme ++
      String.ofList ((a.domain.getD "").toList ++ '/' :: (a.identifier.getD "").toList) := by
  rw [← String.toList_inj]
  simp [render, show "/".toList = ['/'] from rfl]

/-- The address is one that is read from some text: its domain is without a slash, and neither part
is the empty text. -/
structure Readable (a : Address) : Prop where
  /-- The domain is not the empty text. -/
  domain_ne : a.domain ≠ some ""
  /-- The domain ends at the first slash. -/
  slash_not_mem : '/' ∉ (a.domain.getD "").toList
  /-- The identifier is not the empty text. -/
  identifier_ne : a.identifier ≠ some ""

theorem readable_ofRest (rest : List Char) : (ofRest rest).Readable := by
  refine ⟨nonEmpty_ne _, ?_, nonEmpty_ne _⟩
  rw [ofRest, getD_nonEmpty, String.toList_ofList]
  exact slash_not_mem_splitSlash rest

/-- **Such addresses and no others are read back from their texts.** -/
theorem parse?_render_eq_some_iff {a : Address} : parse? a.render = some a ↔ a.Readable := by
  rw [parse?_eq_some_iff]
  constructor
  · rintro ⟨rest, -, rfl⟩
    exact readable_ofRest rest
  · intro h
    refine ⟨_, a.render_eq, ?_⟩
    rw [ofRest, splitSlash_append h.slash_not_mem, nonEmpty_getD h.domain_ne,
      nonEmpty_getD h.identifier_ne]

theorem render_ofRest (rest : List Char) :
    (ofRest rest).render =
      scheme ++ String.ofList (if '/' ∈ rest then rest else rest ++ ['/']) := by
  rw [render_eq, ofRest, getD_nonEmpty, getD_nonEmpty, String.toList_ofList, String.toList_ofList]
  split_ifs with h
  · obtain ⟨d, i, rfl, hd⟩ := List.eq_append_cons_of_mem h
    rw [splitSlash_append hd]
  · rw [splitSlash_of_not_mem h]

theorem readable_item_iff {domain identifier : String} :
    (item domain identifier).Readable ↔ domain ≠ "" ∧ '/' ∉ domain.toList :=
  ⟨fun h => ⟨fun e => h.domain_ne (congrArg some e), h.slash_not_mem⟩,
    fun h => ⟨fun e => h.1 (Option.some.inj e), h.2, nonEmpty_ne _⟩⟩

theorem readable_root_iff {domain : String} :
    (root domain).Readable ↔ domain ≠ "" ∧ '/' ∉ domain.toList :=
  ⟨fun h => ⟨fun e => h.domain_ne (congrArg some e), h.slash_not_mem⟩,
    fun h => ⟨fun e => h.1 (Option.some.inj e), h.2, nofun⟩⟩

/-- **Reading and writing addresses are inverse wherever they can be.** -/
theorem readAddress_render :
    (∀ uri : String, (∃ a, readAddress uri = .ok a) ↔ ∃ rest, uri = scheme ++ rest) ∧
    (∀ rest : String, ∃ a, readAddress (scheme ++ rest) = .ok a ∧
      a.render = (if '/' ∈ rest.toList then scheme ++ rest else scheme ++ rest ++ "/") ∧
      readAddress a.render = .ok a) ∧
    ∀ domain identifier : String,
      (readAddress (item domain identifier).render = .ok (item domain identifier) ↔
        domain ≠ "" ∧ '/' ∉ domain.toList) ∧
      (readAddress (root domain).render = .ok (root domain) ↔
        domain ≠ "" ∧ '/' ∉ domain.toList) := by
  simp only [readAddress_eq_ok_iff, parse?_render_eq_some_iff]
  refine ⟨fun uri => ?_, fun rest => ?_, fun domain identifier => ?_⟩
  · constructor
    · rintro ⟨a, ha⟩
      obtain ⟨rest, huri, -⟩ := parse?_eq_some_iff.mp ha
      exact ⟨_, huri⟩
    · rintro ⟨rest, rfl⟩
      exact ⟨_, parse?_eq_some_iff.mpr ⟨rest.toList, by rw [String.ofList_toList], rfl⟩⟩
  · refine ⟨ofRest rest.toList, ?_, ?_, readable_ofRest _⟩
    · exact parse?_eq_some_iff.mpr ⟨rest.toList, by rw [String.ofList_toList], rfl⟩
    · rw [render_ofRest]
      split_ifs
      · rw [String.ofList_toList]
      · rw [String.ofList_append, String.ofList_toList, ← String.append_assoc]
  · exact ⟨readable_item_iff, readable_root_iff⟩

end Address

end MusicLibrary.Media
