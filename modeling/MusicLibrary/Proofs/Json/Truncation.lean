import MusicLibrary.Proofs.Json.Record

/-!
# Texts that are cut short

An array or an object ends at its closing bracket, whatever stands behind it (`Value.delimited`). So
a text that holds one and nothing behind it does not start with another text that holds a value:
wherever it is cut, what is left of it is no text (`IsComplete.not_isText_of_cut`).
-/

namespace MusicLibrary.Json

variable {σ : Type} {format : RecordFormat σ} {v s t lost : List Char} {a : σ}

/-- The text starts with the bracket of an array or the brace of an object. -/
def Bracketed (v : List Char) : Prop := ∃ c t, v = c :: t ∧ (c = '[' ∨ c = '{')

theorem bracketed_cons_iff {c : Char} : Bracketed (c :: t) ↔ c = '[' ∨ c = '{' := by
  constructor
  · rintro ⟨_, _, h, hc⟩
    cases h
    exact hc
  · intro hc
    exact ⟨c, t, rfl, hc⟩

/-- The value of an array or an object is skipped to its end whatever stands behind it. -/
theorem Value.delimited (h : Value v) (hv : Bracketed v) : Delimited v := by
  cases h with
  | emptyArray hb => exact delimited_emptyArray hb
  | emptyObject hb => exact delimited_emptyObject hb
  | array hes => exact delimited_arrayText hes fun e he => (hes e he).skipped
  | object hms => exact delimited_objectText fun m hm => (hms m hm).skipped
  | numeral hspells =>
    obtain ⟨c, s, rfl, hc⟩ := hspells.head
    rcases bracketed_cons_iff.mp hv with rfl | rfl <;> exact absurd hc (by decide)
  | nullWord | trueWord | falseWord | string _ | negative _ =>
    exact absurd (bracketed_cons_iff.mp hv) (by decide)

theorem RecordOf.bracketed (h : RecordOf format v a) : Bracketed v := by
  cases h with
  | emptyObject _ _ => exact ⟨_, _, rfl, .inr rfl⟩
  | object _ _ => exact ⟨_, _, rfl, .inr rfl⟩
  | emptyArray _ _ => exact ⟨_, _, rfl, .inl rfl⟩
  | array _ => exact ⟨_, _, rfl, .inl rfl⟩

/-- No white space stands at the end of the text. -/
def EndsTight (t : List Char) : Prop := ∀ c ∈ t.getLast?, isBlank c = false

/-- White space at the end of a text that has none there is empty. -/
theorem EndsTight.eq_nil {b : List Char} (h : EndsTight (s ++ b)) (hb : Blank b) : b = [] := by
  cases hlast : b.getLast? with
  | none => exact List.getLast?_eq_none_iff.mp hlast
  | some c =>
    have hc := h c (by simp [List.getLast?_append, hlast])
    rw [hb c (List.mem_of_getLast? hlast)] at hc
    cases hc

/-- The text holds an array or an object and ends with its closing bracket. -/
structure IsComplete (t : List Char) : Prop where
  /-- There is nothing but white space in front of the value. -/
  exists_text : ∃ p : Spaced, t = p.text ∧ Value p.core ∧ Bracketed p.core
  /-- There is nothing behind it. -/
  endsTight : EndsTight t

theorem IsComplete.exists_value (h : IsComplete t) :
    ∃ b v, Blank b ∧ Value v ∧ Bracketed v ∧ t = b ++ v := by
  obtain ⟨⟨p, rfl, hvalue, hbracket⟩, htight⟩ := h
  rw [Spaced.text, ← List.append_assoc] at htight
  refine ⟨p.before, p.core, p.blank_before, hvalue, hbracket, ?_⟩
  rw [Spaced.text, htight.eq_nil p.blank_after, List.append_nil]

/-- **What is left of such a text when it is cut short is no text.** -/
theorem IsComplete.not_isText_of_cut (h : IsComplete (s ++ lost)) (hlost : lost ≠ []) :
    ¬ IsText s := by
  rintro ⟨q, hq, rfl⟩
  obtain ⟨b, v, hb, hv, hbracket, htext⟩ := h.exists_value
  have hsplit : q.before ++ (q.core ++ (q.after ++ lost)) = b ++ (v ++ []) := by
    rw [List.append_nil, ← htext, Spaced.text, List.append_assoc, List.append_assoc]
  -- the first character of the value that is left is that of the whole one
  have hleft : Bracketed q.core := by
    obtain ⟨c, t, hcore, hc, -⟩ := hq.head
    obtain ⟨c', t', rfl, hc'⟩ := hbracket
    have hblank : isBlank c' = false := by rcases hc' with rfl | rfl <;> decide
    rw [hcore] at hsplit ⊢
    obtain ⟨-, rfl, -⟩ := q.blank_before.unique hb hc hblank hsplit
    exact bracketed_cons_iff.mpr hc'
  -- so both end where skipping stops
  have hskip := hq.delimited hleft [] q.before (q.after ++ lost) q.blank_before
  rw [hsplit, hv.delimited hbracket [] b [] hb, skipWithin_nil, skipWithin_nil] at hskip
  exact hlost (List.append_eq_nil_iff.mp (Except.ok.inj hskip).symm).2

/-! ### Records -/

variable {x : Reader σ}

theorem Reader.Exact.isText_of_readAll (hx : x.Exact) (h : x.readAll s = .ok a) : IsText s := by
  obtain ⟨p, rfl, htakes⟩ := hx.readAll_iff.mp h
  exact ⟨p, htakes.value, rfl⟩

theorem Reader.Specified.isComplete_of_readAll (hx : x.Specified (RecordOf format))
    (h : x.readAll s = .ok a) (htight : EndsTight s) : IsComplete s := by
  obtain ⟨p, rfl, htakes⟩ := hx.exact.readAll_iff.mp h
  exact ⟨⟨p, rfl, htakes.value, (hx.takes_iff.mp htakes).bracketed⟩, htight⟩

end MusicLibrary.Json
