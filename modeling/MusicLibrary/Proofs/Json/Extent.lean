import MusicLibrary.Proofs.Json.Lexeme

/-!
# The extent of a value

A value that is skipped is a value of the grammar, and a value of the grammar is skipped to its end
(`exists_of_skipValue`, `Value.skipValue_append`). So where a value ends is determined by the text,
and a text can be taken apart into values in one way only (`Value.unique`).
-/

namespace MusicLibrary.Json

/-! ### How values start -/

theorem Spells.head {minus : Bool} {t : List Char} {n : Numeral} (h : Spells minus t n) :
    ∃ c s, t = c :: s ∧ c.isDigit = true := by
  obtain ⟨hwhole, -, -⟩ := h
  cases hwhole with
  | zero => exact ⟨'0', _, rfl, by decide⟩
  | digits hc _ _ => exact ⟨_, _, rfl, hc⟩

theorem isBlank_of_isDigit {c : Char} (h : c.isDigit = true) : isBlank c = false := by
  rw [Bool.eq_false_iff]
  intro hc
  simp only [isBlank, Bool.or_eq_true, beq_iff_eq] at hc
  rcases hc with ((rfl | rfl) | rfl) | rfl <;> exact absurd h (by decide)

/-- A value starts neither with white space nor with the end of an array. -/
theorem Value.head {v : List Char} (h : Value v) :
    ∃ c t, v = c :: t ∧ isBlank c = false ∧ c ≠ ']' := by
  cases h with
  | numeral h =>
    obtain ⟨c, s, rfl, hc⟩ := h.head
    refine ⟨c, s, rfl, isBlank_of_isDigit hc, ?_⟩
    rintro rfl
    exact absurd hc (by decide)
  | _ => exact ⟨_, _, rfl, by decide, by decide⟩

theorem Value.skipBlanks_append {v b : List Char} (h : Value v) (hb : Blank b) (r : List Char) :
    skipBlanks (b ++ (v ++ r)) = v ++ r := by
  obtain ⟨c, t, rfl, hc, -⟩ := h.head
  exact skipBlanks_append_cons hb hc _

/-! ### Names -/

theorem readColon_append {b : List Char} (hb : Blank b) (r : List Char) :
    readColon (b ++ ':' :: r) = .ok r := by
  rw [readColon, skipBlanks_append_cons hb (by decide)]
  rfl

theorem exists_of_readColon {s r : List Char} (h : readColon s = .ok r) :
    ∃ b, Blank b ∧ s = b ++ ':' :: r := by
  unfold readColon at h
  split at h
  · rename_i hs
    cases h
    exact exists_blank_of_skipBlanks hs
  · cases h
  · cases h

theorem Label.text_append (l : Label) (r : List Char) :
    l.text ++ r = l.before ++ '"' :: (l.chars ++ '"' :: (l.gap ++ ':' :: r)) := by
  simp [text]

theorem skipName_append (l : Label) (r : List Char) : skipName (l.text ++ r) = .ok r := by
  rw [l.text_append, skipName, skipBlanks_append_cons l.blank_before (by decide)]
  simp only [l.chars_chars.skipChars_append, readColon_append l.blank_gap]

theorem exists_of_skipName {s r : List Char} (h : skipName s = .ok r) :
    ∃ l : Label, s = l.text ++ r := by
  unfold skipName at h
  split at h
  · rename_i t hs
    obtain ⟨b, hb, rfl⟩ := exists_blank_of_skipBlanks hs
    split at h
    · cases h
    · rename_i hskip
      obtain ⟨chars, rfl, hchars⟩ := exists_of_skipChars hskip
      obtain ⟨gap, hgap, rfl⟩ := exists_of_readColon h
      exact ⟨⟨b, chars, gap, hb, hchars, hgap⟩, by rw [Label.text_append]⟩
  · cases h
  · cases h

/-! ### Values are skipped -/

variable {stack : List Bracket} {s t r : List Char}

theorem skipWithin_of_start_complete (h : skipStart s = .ok (.complete t)) :
    skipWithin stack true s = skipWithin stack false t := by
  rw [skipWithin]
  split <;> simp_all

theorem skipWithin_of_start_opened {bracket : Bracket} (h : skipStart s = .ok (.opened bracket t)) :
    skipWithin stack true s = skipWithin (bracket :: stack) true t := by
  rw [skipWithin]
  split <;> simp_all

theorem skipWithin_of_next_complete {bracket : Bracket}
    (h : skipNext bracket s = .ok (.complete t)) :
    skipWithin (bracket :: stack) false s = skipWithin stack false t := by
  rw [skipWithin]
  split <;> simp_all

theorem skipWithin_of_next_opened {bracket bracket' : Bracket}
    (h : skipNext bracket s = .ok (.opened bracket' t)) :
    skipWithin (bracket :: stack) false s = skipWithin (bracket' :: stack) true t := by
  conv_lhs => rw [skipWithin]
  split <;> simp_all

theorem skipWithin_nil (s : List Char) : skipWithin [] false s = .ok s := by
  rw [skipWithin]

/-- The text of a value is skipped, whatever brackets are open and whatever stands around it. -/
def Skipped (v : List Char) : Prop :=
  ∀ {stack : List Bracket} {b r : List Char}, Blank b → Ends r →
    skipWithin stack true (b ++ (v ++ r)) = skipWithin stack false r

/-- The text of a value is skipped even if what stands behind it could be the rest of a numeral. -/
def Delimited (v : List Char) : Prop :=
  ∀ (stack : List Bracket) (b r : List Char), Blank b →
    skipWithin stack true (b ++ (v ++ r)) = skipWithin stack false r

theorem Delimited.skipped {v : List Char} (h : Delimited v) : Skipped v := fun hb _ => h _ _ _ hb

theorem skipWithin_of_skipStart {c : Char} {b v : List Char} (hc : isBlank c = false)
    (hb : Blank b) (h : skipStart (c :: (v ++ r)) = .ok (.complete r)) :
    skipWithin stack true (b ++ (c :: v ++ r)) = skipWithin stack false r := by
  apply skipWithin_of_start_complete
  rw [← h, skipStart, skipStart, List.cons_append, skipBlanks_append_cons hb hc,
    skipBlanks_cons hc]

/-- A lexeme that is a value is skipped. -/
theorem skipped_of_skipStart {c : Char} {v : List Char} (hc : isBlank c = false)
    (h : ∀ r, Ends r → skipStart (c :: (v ++ r)) = .ok (.complete r)) : Skipped (c :: v) :=
  fun hb hr => skipWithin_of_skipStart hc hb (h _ hr)

theorem delimited_of_skipStart {c : Char} {v : List Char} (hc : isBlank c = false)
    (h : ∀ r, skipStart (c :: (v ++ r)) = .ok (.complete r)) : Delimited (c :: v) :=
  fun _ _ r hb => skipWithin_of_skipStart hc hb (h r)

theorem ends_continued (ts : List (List Char)) {r : List Char} (hr : Ends r) :
    Ends (continued ts ++ r) := by
  cases ts with
  | nil => exact hr
  | cons t ts => exact Ends.comma _

/-- A value in brackets ends where the text behind it starts. -/
theorem Spaced.ends_after (e : Spaced) (ts : List (List Char)) {r : List Char} (hr : Ends r) :
    Ends (e.after ++ (continued ts ++ r)) :=
  ends_blank_append e.blank_after (ends_continued ts hr)

/-- The elements of an array that are left are skipped. -/
theorem skipWithin_elements {es : List Spaced} (hes : ∀ e ∈ es, Skipped e.core) {b : List Char}
    (hb : Blank b) (r : List Char) :
    skipWithin (.square :: stack) false (b ++ (continued (es.map Spaced.text) ++ ']' :: r)) =
      skipWithin stack false r := by
  induction es generalizing b with
  | nil =>
    apply skipWithin_of_next_complete
    rw [skipNext.eq_def]
    simp [skipBlanks_append_cons hb (show isBlank ']' = false by decide)]
  | cons e es ih =>
    obtain ⟨he, hes⟩ := List.forall_mem_cons.mp hes
    rw [← ih hes e.blank_after, ← he e.blank_before (e.ends_after _ (Ends.bracket r))]
    apply skipWithin_of_next_opened
    rw [skipNext.eq_def, List.map_cons, continued_cons, List.cons_append,
      skipBlanks_append_cons hb (by decide)]
    simp [Spaced.text]

/-- The members of an object that are left are skipped. -/
theorem skipWithin_members {ms : List MemberText} (hms : ∀ m ∈ ms, Skipped m.value.core)
    {b : List Char} (hb : Blank b) (r : List Char) :
    skipWithin (.curly :: stack) false (b ++ (continued (ms.map MemberText.text) ++ '}' :: r)) =
      skipWithin stack false r := by
  induction ms generalizing b with
  | nil =>
    apply skipWithin_of_next_complete
    rw [skipNext.eq_def]
    simp [skipBlanks_append_cons hb (show isBlank '}' = false by decide)]
  | cons m ms ih =>
    obtain ⟨hm, hms⟩ := List.forall_mem_cons.mp hms
    rw [← ih hms m.value.blank_after,
      ← hm m.value.blank_before (m.value.ends_after _ (Ends.brace r))]
    apply skipWithin_of_next_opened
    rw [skipNext.eq_def, List.map_cons, continued_cons, List.cons_append,
      skipBlanks_append_cons hb (by decide)]
    simp [MemberText.text, Spaced.text, skipName_append]

theorem skipStart_of_isDigit {c : Char} (hc : c.isDigit = true) (s : List Char) :
    skipStart (c :: s) = completed (skipNumeral (c :: s)) := by
  have hne : ∀ d : Char, d.isDigit = false → c ≠ d := by
    rintro d hd rfl
    rw [hc] at hd
    cases hd
  rw [skipStart, skipBlanks_cons (isBlank_of_isDigit hc)]
  simp [hne 'n' (by decide), hne 't' (by decide), hne 'f' (by decide), hne '"' (by decide),
    hne '-' (by decide), hc]

theorem Spells.skipNumeral_append {minus : Bool} {v r : List Char} {n : Numeral}
    (h : Spells minus v n) (hr : Ends r) : skipNumeral (v ++ r) = .ok r :=
  (skipNumeral_eq_ok_iff minus).mpr ⟨n, h.readNumeral_append hr⟩

theorem delimited_emptyArray {b : List Char} (hb : Blank b) : Delimited ('[' :: (b ++ [']'])) := by
  refine delimited_of_skipStart (by decide) fun r => ?_
  rw [skipStart, skipBlanks_cons (by decide), List.append_assoc]
  simp [skipBlanks_append_cons hb (show isBlank ']' = false by decide)]

theorem delimited_emptyObject {b : List Char} (hb : Blank b) :
    Delimited ('{' :: (b ++ ['}'])) := by
  refine delimited_of_skipStart (by decide) fun r => ?_
  rw [skipStart, skipBlanks_cons (by decide), List.append_assoc]
  simp [skipBlanks_append_cons hb (show isBlank '}' = false by decide)]

/-- An array is skipped if its elements are, whatever stands behind its bracket. -/
theorem delimited_arrayText {es : List Spaced} (hes : ∀ e ∈ es, Value e.core)
    (h : ∀ e ∈ es, Skipped e.core) : Delimited (arrayText es) := by
  cases es with
  | nil => exact delimited_of_skipStart (by decide) fun r => rfl
  | cons e es =>
    intro stack b r hb
    obtain ⟨he, hrest⟩ := List.forall_mem_cons.mp h
    obtain ⟨c, t, hcore, hc, hne⟩ := (hes e List.mem_cons_self).head
    rw [arrayText_cons, ← skipWithin_elements hrest e.blank_after r,
      ← he e.blank_before (e.ends_after _ (Ends.bracket r))]
    apply skipWithin_of_start_opened
    rw [skipStart, skipBlanks_append_cons hb (by decide)]
    simp [Spaced.text, hcore, skipBlanks_append_cons e.blank_before hc, hne]

/-- An object is skipped if the values of its members are, whatever stands behind its brace. -/
theorem delimited_objectText {ms : List MemberText} (h : ∀ m ∈ ms, Skipped m.value.core) :
    Delimited (objectText ms) := by
  cases ms with
  | nil => exact delimited_of_skipStart (by decide) fun r => rfl
  | cons m ms =>
    intro stack b r hb
    obtain ⟨hm, hrest⟩ := List.forall_mem_cons.mp h
    rw [objectText_cons, ← skipWithin_members hrest m.value.blank_after r,
      ← hm m.value.blank_before (m.value.ends_after _ (Ends.brace r))]
    apply skipWithin_of_start_opened
    rw [skipStart, skipBlanks_append_cons hb (by decide)]
    have hname := skipName_append m.label
    simp only [Label.text_append] at hname
    simp [MemberText.text, Spaced.text, Label.text_append,
      skipBlanks_append_cons m.label.blank_before (show isBlank '"' = false by decide), hname]

/-- A value is skipped to its end. -/
theorem Value.skipped {v : List Char} (h : Value v) : Skipped v := by
  induction h with
  | nullWord => exact skipped_of_skipStart (by decide) fun r _ => rfl
  | trueWord => exact skipped_of_skipStart (by decide) fun r _ => rfl
  | falseWord => exact skipped_of_skipStart (by decide) fun r _ => rfl
  | string h =>
    refine skipped_of_skipStart (by decide) fun r _ => ?_
    rw [List.append_assoc]
    exact congrArg completed (h.skipChars_append r)
  | numeral h =>
    obtain ⟨c, s, rfl, hc⟩ := h.head
    refine skipped_of_skipStart (isBlank_of_isDigit hc) fun r hr => ?_
    rw [skipStart_of_isDigit hc, ← List.cons_append, h.skipNumeral_append hr]
    rfl
  | negative h =>
    refine skipped_of_skipStart (by decide) fun r hr => ?_
    exact congrArg completed (h.skipNumeral_append hr)
  | emptyArray hb => exact (delimited_emptyArray hb).skipped
  | emptyObject hb => exact (delimited_emptyObject hb).skipped
  | array hes ih => exact (delimited_arrayText hes ih).skipped
  | object _ ih => exact (delimited_objectText ih).skipped

/-- **What is well formed is skipped to its end.** -/
theorem Value.skipValue_append {v b r : List Char} (h : Value v) (hb : Blank b) (hr : Ends r) :
    skipValue (b ++ (v ++ r)) = .ok r := by
  rw [skipValue, h.skipped hb hr, skipWithin_nil]

/-- Where a value ends is determined by the text. -/
theorem Value.unique {v v' b b' r r' : List Char} (h : Value v) (h' : Value v') (hb : Blank b)
    (hb' : Blank b') (hr : Ends r) (hr' : Ends r') (e : b ++ (v ++ r) = b' ++ (v' ++ r')) :
    b = b' ∧ v = v' ∧ r = r' := by
  have hskip := h.skipValue_append hb hr
  rw [e, h'.skipValue_append hb' hr'] at hskip
  obtain rfl := Except.ok.inj hskip
  have hblanks := h.skipBlanks_append hb r'
  rw [e, h'.skipBlanks_append hb'] at hblanks
  obtain rfl := List.append_cancel_right hblanks
  exact ⟨List.append_cancel_right e, rfl, rfl⟩

/-- The value of a text in white space is determined by the text. -/
theorem Value.core_unique {p q : Spaced} (hp : Value p.core) (hq : Value q.core)
    (h : p.text = q.text) : p.core = q.core := by
  have hafter : ∀ p : Spaced, Ends p.after := fun p => by
    simpa using ends_blank_append p.blank_after .nil
  exact (hp.unique hq p.blank_before q.blank_before (hafter p) (hafter q) h).2.1

theorem Blank.unique {b b' r r' : List Char} {c c' : Char} (hb : Blank b) (hb' : Blank b')
    (hc : isBlank c = false) (hc' : isBlank c' = false) (e : b ++ c :: r = b' ++ c' :: r') :
    b = b' ∧ c = c' ∧ r = r' := by
  have hskip := skipBlanks_append_cons hb hc r
  rw [e, skipBlanks_append_cons hb' hc' r'] at hskip
  cases hskip
  exact ⟨List.append_cancel_right e, rfl, rfl⟩

theorem Label.unique {l l' : Label} {r r' : List Char} (e : l.text ++ r = l'.text ++ r') :
    l = l' ∧ r = r' := by
  rw [l.text_append, l'.text_append] at e
  obtain ⟨hbefore, -, e⟩ := l.blank_before.unique l'.blank_before (by decide) (by decide) e
  obtain ⟨hchars, e⟩ := l.chars_chars.unique l'.chars_chars e
  obtain ⟨hgap, -, e⟩ := l.blank_gap.unique l'.blank_gap (by decide) (by decide) e
  exact ⟨Label.ext hbefore hchars hgap, e⟩

/-- What stands behind commas, each part `i` of it with the text `text i`, can be taken apart in one
way only if each part is determined by the text up to the white space at its end, `after i`. -/
theorem continued_unique {ι : Type} {text after : ι → List Char} {P : ι → Prop} {close : Char}
    (hclose : close = ']' ∨ close = '}') (hafter : ∀ i, Blank (after i))
    (hpart : ∀ {i i' : ι} {r r' : List Char}, P i → P i' → Ends (after i ++ r) →
      Ends (after i' ++ r') → text i ++ r = text i' ++ r' →
        after i ++ r = after i' ++ r' ∧ (after i = after i' → i = i'))
    {is is' : List ι} (his : ∀ i ∈ is, P i) (his' : ∀ i ∈ is', P i) {b b' r r' : List Char}
    (hb : Blank b) (hb' : Blank b')
    (h : b ++ (continued (is.map text) ++ close :: r) =
      b' ++ (continued (is'.map text) ++ close :: r')) : b = b' ∧ is = is' ∧ r = r' := by
  have hblank : isBlank close = false := by rcases hclose with rfl | rfl <;> decide
  have hcomma : close ≠ ',' := by rcases hclose with rfl | rfl <;> decide
  have hends : ∀ (i : ι) (is : List ι) (r : List Char),
      Ends (after i ++ (continued (is.map text) ++ close :: r)) := fun i is r =>
    ends_blank_append (hafter i) (ends_continued _ (by
      rcases hclose with rfl | rfl
      · exact Ends.bracket r
      · exact Ends.brace r))
  induction is generalizing b b' is' with
  | nil =>
    cases is' with
    | nil =>
      obtain ⟨rfl, -, rfl⟩ := hb.unique hb' hblank hblank h
      exact ⟨rfl, rfl, rfl⟩
    | cons i' is' =>
      obtain ⟨-, hc, -⟩ := hb.unique hb' hblank (by decide) h
      exact absurd hc hcomma
  | cons i is ih =>
    cases is' with
    | nil =>
      obtain ⟨-, hc, -⟩ := hb.unique hb' (by decide) hblank h
      exact absurd hc.symm hcomma
    | cons i' is' =>
      obtain ⟨hi, his⟩ := List.forall_mem_cons.mp his
      obtain ⟨hi', his'⟩ := List.forall_mem_cons.mp his'
      simp only [List.map_cons, continued_cons, List.cons_append, List.append_assoc] at h
      obtain ⟨rfl, -, h⟩ := hb.unique hb' (by decide) (by decide) h
      obtain ⟨h, heq⟩ := hpart hi hi' (hends i is r) (hends i' is' r') h
      -- where the white space behind a part ends is known from the parts that follow
      obtain ⟨hafters, rfl, rfl⟩ := ih his his' (hafter i) (hafter i') h
      exact ⟨rfl, by rw [heq hafters], rfl⟩

/-- An array can be taken apart in one way only. -/
theorem continued_elements_unique {es es' : List Spaced} {b b' r r' : List Char}
    (hes : ∀ e ∈ es, Value e.core) (hes' : ∀ e ∈ es', Value e.core) (hb : Blank b)
    (hb' : Blank b') (h : b ++ (continued (es.map Spaced.text) ++ ']' :: r) =
      b' ++ (continued (es'.map Spaced.text) ++ ']' :: r')) : b = b' ∧ es = es' ∧ r = r' := by
  refine continued_unique (.inl rfl) Spaced.blank_after ?_ hes hes' hb hb' h
  intro e e' r r' he he' hr hr' h
  simp only [Spaced.text, List.append_assoc] at h
  obtain ⟨hbefore, hcore, h⟩ := he.unique he' e.blank_before e'.blank_before hr hr' h
  exact ⟨h, Spaced.ext hbefore hcore⟩

/-- An object can be taken apart in one way only. -/
theorem continued_members_unique {ms ms' : List MemberText} {b b' r r' : List Char}
    (hms : ∀ m ∈ ms, Value m.value.core) (hms' : ∀ m ∈ ms', Value m.value.core) (hb : Blank b)
    (hb' : Blank b') (h : b ++ (continued (ms.map MemberText.text) ++ '}' :: r) =
      b' ++ (continued (ms'.map MemberText.text) ++ '}' :: r')) : b = b' ∧ ms = ms' ∧ r = r' := by
  refine continued_unique (.inr rfl) (fun m => m.value.blank_after) ?_ hms hms' hb hb' h
  intro m m' r r' hm hm' hr hr' h
  simp only [MemberText.text, Spaced.text, List.append_assoc] at h
  obtain ⟨hlabel, h⟩ := Label.unique h
  obtain ⟨hbefore, hcore, h⟩ := hm.unique hm' m.value.blank_before m'.value.blank_before hr hr' h
  exact ⟨h, fun hafter => MemberText.ext hlabel (Spaced.ext hbefore hcore hafter)⟩

/-- An object with a member is not an empty one. -/
theorem objectText_cons_ne {m : MemberText} {ms : List MemberText} {b : List Char} (hb : Blank b) :
    objectText (m :: ms) ≠ '{' :: (b ++ ['}']) := by
  intro h
  have e := objectText_cons m ms []
  rw [List.append_nil, h, MemberText.text, List.append_assoc, Label.text_append] at e
  obtain ⟨-, hc, -⟩ :=
    hb.unique m.label.blank_before (by decide) (by decide) (List.cons_eq_cons.mp e).2
  exact absurd hc (by decide)

/-- An array with an element is not an empty one. -/
theorem arrayText_cons_ne {e : Spaced} {es : List Spaced} {b : List Char} (he : Value e.core)
    (hb : Blank b) : arrayText (e :: es) ≠ '[' :: (b ++ [']']) := by
  intro h
  have heq := arrayText_cons e es []
  obtain ⟨c, t, hcore, hblank, hc⟩ := he.head
  rw [List.append_nil, h, Spaced.text, hcore, List.cons_append, List.append_assoc,
    List.cons_append] at heq
  obtain ⟨-, hc', -⟩ := hb.unique e.blank_before (by decide) hblank (List.cons_eq_cons.mp heq).2
  exact hc hc'.symm

theorem objectText_unique {ms ms' : List MemberText} (hms : ∀ m ∈ ms, Value m.value.core)
    (hms' : ∀ m ∈ ms', Value m.value.core) (h : objectText ms = objectText ms') : ms = ms' := by
  cases ms with
  | nil =>
    cases ms' with
    | nil => rfl
    | cons m' ms' => exact absurd h.symm (objectText_cons_ne .nil)
  | cons m ms =>
    cases ms' with
    | nil => exact absurd h (objectText_cons_ne .nil)
    | cons m' ms' =>
      have hl := objectText_cons m ms []
      have hr := objectText_cons m' ms' []
      rw [h, hr] at hl
      -- with a comma in front the members are a part of the text of an object
      have e : [] ++ (continued ((m :: ms).map MemberText.text) ++ '}' :: []) =
          [] ++ (continued ((m' :: ms').map MemberText.text) ++ '}' :: []) := by
        simpa using (List.cons_eq_cons.mp hl).2.symm
      exact (continued_members_unique hms hms' .nil .nil e).2.1

theorem arrayText_unique {es es' : List Spaced} (hes : ∀ e ∈ es, Value e.core)
    (hes' : ∀ e ∈ es', Value e.core) (h : arrayText es = arrayText es') : es = es' := by
  cases es with
  | nil =>
    cases es' with
    | nil => rfl
    | cons e' es' => exact absurd h.symm (arrayText_cons_ne (List.forall_mem_cons.mp hes').1 .nil)
  | cons e es =>
    cases es' with
    | nil => exact absurd h (arrayText_cons_ne (List.forall_mem_cons.mp hes).1 .nil)
    | cons e' es' =>
      have hl := arrayText_cons e es []
      have hr := arrayText_cons e' es' []
      rw [h, hr] at hl
      have heq : [] ++ (continued ((e :: es).map Spaced.text) ++ ']' :: []) =
          [] ++ (continued ((e' :: es').map Spaced.text) ++ ']' :: []) := by
        simpa using (List.cons_eq_cons.mp hl).2.symm
      exact (continued_elements_unique hes hes' .nil .nil heq).2.1

/-! ### What is skipped is a value -/

/-- What stands in front of the first value in brackets. -/
inductive Opening : Bracket → List Char → Prop where
  /-- The bracket of an array. -/
  | square : Opening .square ['[']
  /-- The brace of an object, and the name of the member. -/
  | curly (l : Label) : Opening .curly ('{' :: l.text)

/-- What stands in front of another value in brackets. -/
inductive Separator : Bracket → List Char → Prop where
  /-- A comma. -/
  | square : Separator .square [',']
  /-- A comma, and the name of the member. -/
  | curly (l : Label) : Separator .curly (',' :: l.text)

/-- The text from behind a value to where the brackets `stack` around it are closed, the innermost
first. -/
inductive Closes : List Bracket → List Char → Prop where
  /-- No bracket is open. -/
  | done : Closes [] []
  /-- More elements, and the end of the array. -/
  | square {stack : List Bracket} {b c : List Char} {es : List Spaced} : Blank b →
      (∀ e ∈ es, Value e.core) → Closes stack c →
      Closes (.square :: stack) (b ++ (continued (es.map Spaced.text) ++ ']' :: c))
  /-- More members, and the end of the object. -/
  | curly {stack : List Bracket} {b c : List Char} {ms : List MemberText} : Blank b →
      (∀ m ∈ ms, Value m.value.core) → Closes stack c →
      Closes (.curly :: stack) (b ++ (continued (ms.map MemberText.text) ++ '}' :: c))

/-- The text from in front of a value, or from behind it, to where the brackets are closed. -/
def Completes (stack : List Bracket) : (pending : Bool) → List Char → Prop
  | true, t => ∃ b v c, Blank b ∧ Value v ∧ Closes stack c ∧ t = b ++ (v ++ c)
  | false, t => Closes stack t

/-- With the first value in brackets all of what they hold is a value. -/
theorem Completes.opened {bracket : Bracket} {o t b : List Char} (ho : Opening bracket o)
    (h : Completes (bracket :: stack) true t) (hb : Blank b) :
    Completes stack true (b ++ (o ++ t)) := by
  obtain ⟨b₁, v, c, hb₁, hv, hc, rfl⟩ := h
  cases ho with
  | square =>
    cases hc with
    | @square _ b₂ c es hb₂ hes hclose =>
      refine ⟨b, arrayText (⟨b₁, v, b₂, hb₁, hb₂⟩ :: es), c, hb,
        .array (List.forall_mem_cons.mpr ⟨hv, hes⟩), hclose, ?_⟩
      rw [arrayText_cons]
      simp [Spaced.text]
  | curly l =>
    cases hc with
    | @curly _ b₂ c ms hb₂ hms hclose =>
      refine ⟨b, objectText (⟨l, ⟨b₁, v, b₂, hb₁, hb₂⟩⟩ :: ms), c, hb,
        .object (List.forall_mem_cons.mpr ⟨hv, hms⟩), hclose, ?_⟩
      rw [objectText_cons]
      simp [MemberText.text, Spaced.text]

theorem Completes.separated {bracket : Bracket} {o t b : List Char} (ho : Separator bracket o)
    (h : Completes (bracket :: stack) true t) (hb : Blank b) :
    Completes (bracket :: stack) false (b ++ (o ++ t)) := by
  obtain ⟨b₁, v, c, hb₁, hv, hc, rfl⟩ := h
  cases ho with
  | square =>
    cases hc with
    | @square _ b₂ c es hb₂ hes hclose =>
      have hclosed := @Closes.square _ b _ (⟨b₁, v, b₂, hb₁, hb₂⟩ :: es) hb
        (List.forall_mem_cons.mpr ⟨hv, hes⟩) hclose
      simpa [Completes, Spaced.text] using hclosed
  | curly l =>
    cases hc with
    | @curly _ b₂ c ms hb₂ hms hclose =>
      have hclosed := @Closes.curly _ b _ (⟨l, ⟨b₁, v, b₂, hb₁, hb₂⟩⟩ :: ms) hb
        (List.forall_mem_cons.mpr ⟨hv, hms⟩) hclose
      simpa [Completes, MemberText.text, Spaced.text] using hclosed

/-- What the text of a lexeme is, by what it leads to: a value or what opens a bracket. -/
def Progress.Begins (t : List Char) : Progress → Prop
  | .complete _ => Value t
  | .opened bracket _ => Opening bracket t

theorem exists_of_completed {x : Except ReadError (List Char)} {p : Progress}
    (h : completed x = .ok p) : ∃ r, x = .ok r ∧ p = .complete r := by
  cases x with
  | error e => cases h
  | ok r => cases h; exact ⟨r, rfl, rfl⟩

theorem eq_append_of_readWord {word : List Char} (h : readWord word s = .ok r) :
    s = word ++ r := by
  fun_induction readWord word s with
  | case1 s => cases h; rfl
  | case2 => cases h
  | case3 c word s ih => rw [ih h, List.cons_append]
  | case4 => cases h

theorem Spells.exists_of_skipNumeral (minus : Bool) (h : skipNumeral s = .ok r) :
    ∃ t n, s = t ++ r ∧ Spells minus t n := by
  obtain ⟨n, hread⟩ := (skipNumeral_eq_ok_iff minus).mp h
  obtain ⟨t, ht, hspells⟩ := exists_of_readNumeral hread
  exact ⟨t, n, ht, hspells⟩

/-- The first lexeme of a value completes it or opens a bracket. -/
theorem exists_of_skipStart {p : Progress} (h : skipStart s = .ok p) :
    ∃ b t, Blank b ∧ s = b ++ (t ++ p.rest) ∧ p.Begins t := by
  suffices hlexeme : ∃ t, skipBlanks s = t ++ p.rest ∧ p.Begins t by
    obtain ⟨t, ht, hbegins⟩ := hlexeme
    obtain ⟨b, hb, hs⟩ := exists_blank_of_skipBlanks ht
    exact ⟨b, t, hb, hs, hbegins⟩
  unfold skipStart at h
  split at h
  · cases h
  · rename_i c r hc
    rw [hc]
    split_ifs at h with hn ht hf hquote hminus hdigit hsquare hcurly
    · obtain ⟨r, hword, rfl⟩ := exists_of_completed h
      obtain rfl := eq_append_of_readWord hword
      exact ⟨['n', 'u', 'l', 'l'], by rw [hn]; rfl, .nullWord⟩
    · obtain ⟨r, hword, rfl⟩ := exists_of_completed h
      obtain rfl := eq_append_of_readWord hword
      exact ⟨['t', 'r', 'u', 'e'], by rw [ht]; rfl, .trueWord⟩
    · obtain ⟨r, hword, rfl⟩ := exists_of_completed h
      obtain rfl := eq_append_of_readWord hword
      exact ⟨['f', 'a', 'l', 's', 'e'], by rw [hf]; rfl, .falseWord⟩
    · obtain ⟨r, hskip, rfl⟩ := exists_of_completed h
      obtain ⟨t, rfl, hchars⟩ := exists_of_skipChars hskip
      exact ⟨stringText t, by simp [stringText, hquote, Progress.rest], .string hchars⟩
    · obtain ⟨r, hskip, rfl⟩ := exists_of_completed h
      obtain ⟨t, n, rfl, hspells⟩ := Spells.exists_of_skipNumeral true hskip
      exact ⟨'-' :: t, by rw [hminus]; rfl, .negative hspells⟩
    · obtain ⟨r, hskip, rfl⟩ := exists_of_completed h
      obtain ⟨t, n, ht, hspells⟩ := Spells.exists_of_skipNumeral false hskip
      exact ⟨t, ht, .numeral hspells⟩
    · split at h
      · cases h
      · rename_i t hend
        obtain ⟨b, hb, rfl⟩ := exists_blank_of_skipBlanks hend
        cases h
        exact ⟨'[' :: (b ++ [']']), by simp [hsquare, Progress.rest], .emptyArray hb⟩
      · cases h
        exact ⟨['['], by rw [hsquare]; rfl, .square⟩
    · split at h
      · cases h
      · rename_i t hend
        obtain ⟨b, hb, rfl⟩ := exists_blank_of_skipBlanks hend
        cases h
        exact ⟨'{' :: (b ++ ['}']), by simp [hcurly, Progress.rest], .emptyObject hb⟩
      · split at h
        · cases h
        · rename_i hname
          obtain ⟨l, rfl⟩ := exists_of_skipName hname
          cases h
          exact ⟨'{' :: l.text, by rw [hcurly]; rfl, .curly l⟩

/-- What follows a value in a bracket closes the bracket or stands in front of another value. -/
theorem exists_of_skipNext (stack : List Bracket) {bracket : Bracket} {p : Progress}
    (h : skipNext bracket s = .ok p) :
    ∃ b t, Blank b ∧ s = b ++ (t ++ p.rest) ∧
      ((∃ r, p = .complete r ∧ ∀ {c}, Closes stack c → Closes (bracket :: stack) (b ++ (t ++ c))) ∨
        ∃ r, p = .opened bracket r ∧ Separator bracket t) := by
  unfold skipNext at h
  split at h
  · cases h
  · rename_i t hs
    obtain ⟨b, hb, rfl⟩ := exists_blank_of_skipBlanks hs
    cases h
    exact ⟨b, [','], hb, rfl, .inr ⟨t, rfl, .square⟩⟩
  · rename_i t hs
    obtain ⟨b, hb, rfl⟩ := exists_blank_of_skipBlanks hs
    cases h
    exact ⟨b, [']'], hb, rfl, .inl ⟨t, rfl, fun hc =>
      @Closes.square _ _ _ [] hb (List.forall_mem_nil _) hc⟩⟩
  · cases h
  · cases h
  · rename_i t hs
    obtain ⟨b, hb, rfl⟩ := exists_blank_of_skipBlanks hs
    split at h
    · cases h
    · rename_i hname
      obtain ⟨l, rfl⟩ := exists_of_skipName hname
      cases h
      exact ⟨b, ',' :: l.text, hb, rfl, .inr ⟨_, rfl, .curly l⟩⟩
  · rename_i t hs
    obtain ⟨b, hb, rfl⟩ := exists_blank_of_skipBlanks hs
    cases h
    exact ⟨b, ['}'], hb, rfl, .inl ⟨t, rfl, fun hc =>
      @Closes.curly _ _ _ [] hb (List.forall_mem_nil _) hc⟩⟩
  · cases h

theorem exists_of_skipWithin {pending : Bool} (h : skipWithin stack pending s = .ok r) :
    ∃ t, s = t ++ r ∧ Completes stack pending t := by
  -- each step puts a lexeme in front of a text that closes one bracket more, one less or as many
  fun_induction skipWithin stack pending s with
  | case1 => cases h
  | case2 s stack u hstart ih =>
    obtain ⟨c, rfl, hc⟩ := ih h
    obtain ⟨b, v, hb, rfl, hv⟩ := exists_of_skipStart hstart
    exact ⟨b ++ (v ++ c), by simp [Progress.rest], b, v, c, hb, hv, hc, rfl⟩
  | case3 s stack bracket u hstart ih =>
    obtain ⟨t, rfl, ht⟩ := ih h
    obtain ⟨b, o, hb, rfl, ho⟩ := exists_of_skipStart hstart
    exact ⟨b ++ (o ++ t), by simp [Progress.rest], ht.opened ho hb⟩
  | case4 s =>
    cases h
    exact ⟨[], rfl, .done⟩
  | case5 => cases h
  | case6 s bracket stack u hnext ih =>
    obtain ⟨c, rfl, hc⟩ := ih h
    obtain ⟨b, t, hb, rfl, ⟨_, -, hclose⟩ | ⟨_, hopened, -⟩⟩ := exists_of_skipNext stack hnext
    · exact ⟨b ++ (t ++ c), by simp [Progress.rest], hclose hc⟩
    · cases hopened
  | case7 s bracket stack bracket' u hnext ih =>
    obtain ⟨t, rfl, ht⟩ := ih h
    obtain ⟨b, o, hb, rfl, ⟨_, hcomplete, -⟩ | ⟨_, hopened, ho⟩⟩ :=
      exists_of_skipNext stack hnext
    · cases hcomplete
    · cases hopened
      exact ⟨b ++ (o ++ t), by simp [Progress.rest], ht.separated ho hb⟩

/-- **What is skipped is well formed.** -/
theorem exists_of_skipValue (h : skipValue s = .ok r) :
    ∃ b v, Blank b ∧ Value v ∧ s = b ++ (v ++ r) := by
  obtain ⟨t, rfl, b, v, c, hb, hv, hc, rfl⟩ := exists_of_skipWithin h
  cases hc
  exact ⟨b, v, hb, hv, by simp⟩

end MusicLibrary.Json
