import MusicLibrary.Yaml.Document
import MusicLibrary.Proofs.Yaml.Lines

/-!
# The members of a mapping in lines

Lines of words are prepared without a change, their tokens are the events of one mapping, and its
members are the keys and values of the lines, in their order (`mapping?_document`).
-/

namespace MusicLibrary.Yaml

variable {l : Line} {ls : List Line}

/-! ### Preparation -/

/-- A character that stands for itself in a prepared document. -/
def IsKept (c : Char) : Prop := isAllowed c = true ∧ c ≠ '\r' ∧ c.toNat ≠ 0x85

theorem normalizeBreaks_of_isKept {s : List Char} (hs : ∀ c ∈ s, IsKept c) :
    normalizeBreaks s = s := by
  induction s with
  | nil => rfl
  | cons c s ih =>
    obtain ⟨⟨-, hreturn, hnext⟩, hs⟩ := List.forall_mem_cons.mp hs
    unfold normalizeBreaks
    rw [if_neg hreturn, if_neg hnext, ih hs]

theorem isKept_of_isPlainChar {c : Char} (hc : isPlainChar c = true) : IsKept c := by
  have hrange := toNat_of_isPlainChar hc
  exact ⟨isAllowed_of_isPlainChar hc, ne_of_isPlainChar hc (by decide), by omega⟩

theorem Line.Plain.isKept (hl : l.Plain) : ∀ c ∈ l.chars, IsKept c := by
  intro c hc
  simp only [Line.chars, List.mem_append, List.mem_cons, List.not_mem_nil, or_false] at hc
  obtain hc | rfl | rfl | hc | rfl := hc
  · exact isKept_of_isPlainChar (hl.key.chars c hc)
  · exact ⟨by decide, by decide, by decide⟩
  · exact ⟨by decide, by decide, by decide⟩
  · exact isKept_of_isPlainChar (hl.value.chars c hc)
  · exact ⟨by decide, by decide, by decide⟩

theorem prepare_lines (hls : ∀ l ∈ ls, l.Plain) :
    prepare (ls.flatMap Line.chars) = some (ls.flatMap Line.chars) := by
  have hkept : ∀ c ∈ ls.flatMap Line.chars, IsKept c := by
    intro c hc
    obtain ⟨l, hl, hc⟩ := List.mem_flatMap.mp hc
    exact (hls l hl).isKept c hc
  rw [prepare, if_pos (List.all_eq_true.mpr fun c hc => (hkept c hc).1),
    normalizeBreaks_of_isKept hkept]

/-! ### Events -/

/-- A plain scalar without a tag. -/
def plainScalar (s : String) : Scalar := ⟨none, .plain, s.toList⟩

/-- The events of a line. -/
def Line.events (l : Line) : List Event :=
  [.scalar none (plainScalar l.key), .scalar none (plainScalar l.value)]

theorem foldlM_feed_lines (handles : Handles) (ls : List Line) (es : List Event) :
    (ls.flatMap Line.tokens).foldlM (fun (r : Reading) t => feed handles t r.events r.stack)
        ⟨[.blockMembers, .closing], es⟩ =
      some ⟨[.blockMembers, .closing], (ls.flatMap Line.events).reverse ++ es⟩ := by
  induction ls generalizing es with
  | nil => rfl
  | cons l ls ih =>
    rw [List.flatMap_cons, List.foldlM_append]
    have hline : l.tokens.foldlM (fun (r : Reading) t => feed handles t r.events r.stack)
        ⟨[.blockMembers, .closing], es⟩ =
          some ⟨[.blockMembers, .closing], l.events.reverse ++ es⟩ := rfl
    rw [hline, Option.bind_eq_bind, Option.bind_some, ih, List.flatMap_cons, List.reverse_append,
      List.append_assoc]

/-- Each line is a key and a value. -/
theorem events_lines (ls : List Line) :
    events (.blockMappingStart :: (ls.flatMap Line.tokens ++ [.blockEnd, .streamEnd])) =
      some (.mappingStart none :: (ls.flatMap Line.events ++ [.mappingEnd])) := by
  have hread : ∀ ts, events (.blockMappingStart :: ts) =
      readTokens defaultHandles [.node .document, .closing] (.blockMappingStart :: ts) :=
    fun _ => rfl
  have hopen : feed defaultHandles .blockMappingStart [] [.node .document, .closing] =
      some ⟨[.blockMembers, .closing], [.mappingStart none]⟩ := rfl
  rw [hread, readTokens, List.foldlM_cons, hopen, Option.bind_eq_bind, Option.bind_some,
    List.foldlM_append, foldlM_feed_lines, Option.bind_eq_bind, Option.bind_some]
  simp [feed]

/-! ### Nodes -/

theorem innerNodes_lines (ls : List Line) (found : List Linked) :
    innerNodes 1 .empty found (ls.flatMap Line.events ++ [.mappingEnd]) =
      some (found.reverse ++ ls.flatMap fun l =>
        [.node (.scalar (plainScalar l.key)), .node (.scalar (plainScalar l.value))], .empty) := by
  induction ls generalizing found with
  | nil => simp [innerNodes]
  | cons l ls ih =>
    have hline : innerNodes 1 .empty found
        (l.events ++ (ls.flatMap Line.events ++ [.mappingEnd])) =
          innerNodes 1 .empty (.node (.scalar (plainScalar l.value)) ::
            .node (.scalar (plainScalar l.key)) :: found)
            (ls.flatMap Line.events ++ [.mappingEnd]) := rfl
    rw [List.flatMap_cons, List.append_assoc, hline, ih]
    simp

/-- The key and the value of a line. -/
def Line.member (l : Line) : Node × Node :=
  (.scalar (plainScalar l.key), .scalar (plainScalar l.value))

theorem pairs_flatMap {α β : Type} (f g : β → α) (bs : List β) :
    pairs (bs.flatMap fun b => [f b, g b]) = bs.map fun b => (f b, g b) := by
  induction bs with
  | nil => rfl
  | cons b bs ih => rw [List.flatMap_cons, List.map_cons, ← ih]; rfl

/-- **The members of a mapping that is written line by line.** -/
theorem mapping?_document (hne : ls ≠ []) (hls : ∀ l ∈ ls, l.Plain) :
    mapping? (document ls).toList =
      if ∀ l ∈ ls, l.Short then some (ls.map Line.member) else none := by
  rw [mapping?, toList_document, prepare_lines hls]
  simp only [Option.bind_eq_bind, Option.bind_some, tokens_lines hne hls]
  by_cases hshort : ∀ l ∈ ls, l.Short
  · have hnodes : innerNodes 0 .empty []
        (.mappingStart none :: (ls.flatMap Line.events ++ [.mappingEnd])) =
          innerNodes 1 .empty [] (ls.flatMap Line.events ++ [.mappingEnd]) := rfl
    simp only [if_pos hshort, Option.bind_some, events_lines, hnodes, innerNodes_lines,
      List.reverse_nil, List.nil_append, List.map_flatMap, List.map_cons, List.map_nil,
      Linked.resolve]
    rw [pairs_flatMap]
    rfl
  · simp only [if_neg hshort, Option.bind_none]

end MusicLibrary.Yaml
