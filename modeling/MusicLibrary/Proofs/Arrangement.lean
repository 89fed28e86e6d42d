import Mathlib

/-!
# Stable arrangements

Items arranged by a key: all of them, as often as they are there, in ascending order of their
keys, and those with equal keys in the order in which they stood before. There is exactly one
such arrangement (`Arranged.unique`), and a stable sort by the key finds it
(`arranged_mergeSort`).
-/

namespace MusicLibrary

variable {α κ : Type*} [LinearOrder κ] {key : α → κ}

/-- The items `items`, arranged by their keys. -/
structure Arranged (key : α → κ) (items arranged : List α) : Prop where
  /-- Nothing is lost and nothing is added. -/
  perm : arranged.Perm items
  /-- The keys ascend. -/
  ascending : arranged.Pairwise fun a b => key a ≤ key b
  /-- Items of one key keep their order. -/
  stable : ∀ k, (arranged.filter fun a => key a = k) = items.filter fun a => key a = k

/-- The head of an ascending list is least, also in a list with the same items of each key. -/
theorem key_head_le {a b : α} {l l' : List α} (ha : (a :: l).Pairwise fun a b => key a ≤ key b)
    (h : ∀ k, ((a :: l).filter fun a => key a = k) = (b :: l').filter fun a => key a = k) :
    key a ≤ key b := by
  have hb : b ∈ (b :: l').filter fun a => key a = key b :=
    List.mem_filter.mpr ⟨List.mem_cons_self, by simp⟩
  rw [← h (key b)] at hb
  rcases List.mem_cons.mp (List.mem_of_mem_filter hb) with rfl | hm
  · exact le_rfl
  · exact (List.pairwise_cons.mp ha).1 b hm

/-- A list in ascending order is known from its parts of one key each. -/
theorem eq_of_filter_eq : ∀ {l l' : List α}, (l.Pairwise fun a b => key a ≤ key b) →
    (l'.Pairwise fun a b => key a ≤ key b) →
    (∀ k, (l.filter fun a => key a = k) = l'.filter fun a => key a = k) → l = l'
  | [], [], _, _, _ => rfl
  | [], b :: l', _, _, h => by
    have := h (key b)
    simp at this
  | a :: l, [], _, _, h => by
    have := h (key a)
    simp at this
  | a :: l, b :: l', ha, hb, h => by
    have hk : key a = key b := le_antisymm (key_head_le ha h) (key_head_le hb fun k => (h k).symm)
    have hhead : a = b := by
      have := h (key a)
      simp only [hk, List.filter_cons, decide_true, if_true, List.cons.injEq] at this
      exact this.1
    subst hhead
    have htail : l = l' := eq_of_filter_eq ha.tail hb.tail fun k => by
      have := h k
      by_cases hk : key a = k
      · simpa only [List.filter_cons, hk, decide_true, if_true, List.cons.injEq, true_and]
          using this
      · simpa only [List.filter_cons, hk, decide_false, Bool.false_eq_true, if_false] using this
    rw [htail]

/-- There is no other arrangement. -/
theorem Arranged.unique {items l l' : List α} (h : Arranged key items l)
    (h' : Arranged key items l') : l = l' :=
  eq_of_filter_eq h.ascending h'.ascending fun k => (h.stable k).trans (h'.stable k).symm

/-- A stable sort arranges. -/
theorem arranged_mergeSort (key : α → κ) (items : List α) :
    Arranged key items (items.mergeSort fun a b => decide (key a ≤ key b)) := by
  have trans : ∀ a b c : α, decide (key a ≤ key b) → decide (key b ≤ key c) →
      decide (key a ≤ key c) := by
    simp only [decide_eq_true_eq]
    exact fun _ _ _ => le_trans
  have total : ∀ a b : α, decide (key a ≤ key b) || decide (key b ≤ key a) := by
    simp only [Bool.or_eq_true, decide_eq_true_eq]
    exact fun _ _ => le_total _ _
  have hperm := List.mergeSort_perm items fun a b => decide (key a ≤ key b)
  refine ⟨hperm, ?_, fun k => ?_⟩
  · simpa only [decide_eq_true_eq] using List.pairwise_mergeSort trans total items
  · -- the items of one key are a sorted part of the list, which the sort leaves as it is
    have hsorted :
        (items.filter fun a => key a = k).Pairwise fun a b => decide (key a ≤ key b) := by
      rw [List.pairwise_filter]
      refine List.pairwise_of_forall fun a b ha hb => ?_
      simp only [decide_eq_true_eq] at ha hb ⊢
      rw [ha, hb]
    have hsub := (List.sublist_mergeSort trans total hsorted List.filter_sublist).filter
      fun a => key a = k
    rw [List.filter_filter] at hsub
    simp only [Bool.and_self] at hsub
    exact (hsub.eq_of_length (hperm.filter _).length_eq.symm).symm

end MusicLibrary
