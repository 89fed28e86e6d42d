import MusicLibrary.Proofs.Json.Extent

/-!
# What readers take

A reader that is exact takes a value of the grammar from the start of a text, from its first to its
last character, and takes it for the same thing wherever it stands (`Reader.Takes`). For each reader
it is said which values it takes, and for what (`Reader.Specified`), without the text around them.
-/

namespace MusicLibrary.Json

variable {α β : Type} {x : Reader α} {a : α} {b r s t v : List Char}

namespace Reader

/-- The reader takes the value `v` for `a`, wherever it stands. -/
structure Takes (x : Reader α) (v : List Char) (a : α) : Prop where
  /-- It is a value. -/
  value : Value v
  /-- White space in front of it is skipped, and the text behind it is left. -/
  run_eq : ∀ {b r : List Char}, Blank b → Ends r → x.run (b ++ (v ++ r)) = .ok (a, r)

/-- The reader takes the values that are related to something by `P`, and takes them for that. -/
structure Specified (x : Reader α) (P : List Char → α → Prop) : Prop where
  /-- What is read is a value that `P` relates to the result. -/
  sound : ∀ {s r : List Char} {a : α}, x.run s = .ok (a, r) →
    ∃ b v, Blank b ∧ s = b ++ (v ++ r) ∧ P v a
  /-- What `P` relates is read. -/
  complete : ∀ {v : List Char} {a : α}, P v a → x.Takes v a

/-- The reader reads nothing but values that it takes wherever they stand. -/
def Exact (x : Reader α) : Prop := x.Specified x.Takes

theorem Specified.exact {P : List Char → α → Prop} (h : x.Specified P) : x.Exact where
  sound hrun := by
    obtain ⟨b, v, hb, hs, hv⟩ := h.sound hrun
    exact ⟨b, v, hb, hs, h.complete hv⟩
  complete := id

theorem Specified.takes_iff {P : List Char → α → Prop} (h : x.Specified P) :
    x.Takes v a ↔ P v a := by
  refine ⟨fun htakes => ?_, h.complete⟩
  obtain ⟨b, v', hb, hv, hP⟩ := h.sound (htakes.run_eq .nil .nil)
  obtain ⟨-, rfl, -⟩ := htakes.value.unique (h.complete hP).value .nil hb .nil .nil hv
  exact hP

/-- A value is taken for one thing only. -/
theorem Takes.unique {a' : α} (h : x.Takes v a) (h' : x.Takes v a') : a = a' := by
  have hrun := h.run_eq .nil .nil
  rw [h'.run_eq .nil .nil] at hrun
  cases hrun
  rfl

/-! ### Whole texts -/

theorem Takes.readAll {p : Spaced} (h : x.Takes p.core a) : x.readAll p.text = .ok a := by
  have hafter := p.blank_after
  rw [Reader.readAll, Spaced.text, h.run_eq p.blank_before (by
    simpa using ends_blank_append hafter .nil)]
  simp [skipBlanks_of_blank hafter]

theorem Takes.readAll_value (h : x.Takes v a) : x.readAll v = .ok a := by
  have hread := Takes.readAll (p := .tight v) h
  rwa [Spaced.text_tight] at hread

/-- A whole text that is read is a value with white space around it. -/
theorem Exact.readAll_iff (hx : x.Exact) :
    x.readAll s = .ok a ↔ ∃ p : Spaced, s = p.text ∧ x.Takes p.core a := by
  refine ⟨fun h => ?_, fun ⟨p, hp, htakes⟩ => hp ▸ htakes.readAll⟩
  unfold Reader.readAll at h
  split at h
  · cases h
  · rename_i r hrun
    split_ifs at h with hafter
    cases h
    obtain ⟨b, v, hb, rfl, htakes⟩ := hx.sound hrun
    exact ⟨⟨b, v, r, hb, blank_of_skipBlanks (List.isEmpty_iff.mp hafter)⟩, rfl, htakes⟩

/-- A text in white space is read if and only if its value is taken. -/
theorem Exact.readAll_text_iff (hx : x.Exact) {p : Spaced} (hp : Value p.core) :
    x.readAll p.text = .ok a ↔ x.Takes p.core a := by
  refine ⟨fun h => ?_, Takes.readAll⟩
  obtain ⟨q, hq, htakes⟩ := hx.readAll_iff.mp h
  rw [hp.core_unique htakes.value hq]
  exact htakes

theorem Exact.readAll_value_iff (hx : x.Exact) (hv : Value v) :
    x.readAll v = .ok a ↔ x.Takes v a := by
  have hread := hx.readAll_text_iff (a := a) (p := .tight v) hv
  rwa [Spaced.text_tight] at hread

end Reader

/-! ### Values without parts -/

theorem Value.eq_null {t : List Char} (h : Value ('n' :: t)) : 'n' :: t = writeNull := by
  generalize hv : 'n' :: t = v at h
  cases h with
  | nullWord => rfl
  | numeral h =>
    obtain ⟨c, s, rfl, hc⟩ := h.head
    cases hv
    exact absurd hc (by decide)
  | _ => cases hv

/-- The text between the quotes stands for the text `a`. -/
inductive StringOf : List Char → String → Prop where
  /-- The characters of `a`, each for itself or in an escape. -/
  | intro {chars : List Char} {a : String} : Chars chars →
      readName (chars ++ ['"']) = .ok (a, []) → StringOf (stringText chars) a

theorem readString_quote (hb : Blank b) (s : List Char) :
    readString (b ++ '"' :: s) = readName s := by
  rw [readString, skipBlanks_append_cons hb (by decide)]
  rfl

/-- A string is read as the text that it stands for. -/
theorem specified_string : string.Specified StringOf where
  sound {s r a} h := by
    replace h : readString s = .ok (a, r) := h
    cases hs : skipBlanks s with
    | nil => simp [readString, hs] at h
    | cons c t =>
      by_cases hc : c = '"'
      · subst hc
        obtain ⟨b, hb, rfl⟩ := exists_blank_of_skipBlanks hs
        rw [readString_quote hb, readName] at h
        split at h
        · cases h
        · rename_i hchars
          obtain ⟨chars, rfl, hc, hlocal⟩ := exists_of_readChars hchars
          cases h
          refine ⟨b, stringText chars, hb, by simp [stringText], .intro hc ?_⟩
          rw [readName, hlocal]
      · simp [readString, hs, hc] at h
  complete := by
    rintro v a ⟨hchars, hname⟩
    refine ⟨.string hchars, fun {b r} hb _ => ?_⟩
    show readString _ = _
    rw [stringText, List.cons_append, List.append_assoc, readString_quote hb]
    exact (readName_eq_ok_iff hchars).mpr ⟨hname, rfl⟩

theorem exact_string : string.Exact := specified_string.exact

theorem value_writeBoolean (a : Bool) : Value (writeBoolean a) := by
  cases a
  · exact .falseWord
  · exact .trueWord

/-- A truth value is read as its word. -/
theorem specified_boolean : boolean.Specified fun v a => v = writeBoolean a where
  sound {s r a} h := by
    replace h : readBoolean s = .ok (a, r) := h
    unfold readBoolean at h
    split at h
    · rename_i hs
      obtain ⟨b, hb, rfl⟩ := exists_blank_of_skipBlanks hs
      split at h
      · cases h
      · rename_i hword
        obtain rfl := eq_append_of_readWord hword
        cases h
        exact ⟨b, _, hb, rfl, rfl⟩
    · rename_i hs
      obtain ⟨b, hb, rfl⟩ := exists_blank_of_skipBlanks hs
      split at h
      · cases h
      · rename_i hword
        obtain rfl := eq_append_of_readWord hword
        cases h
        exact ⟨b, _, hb, rfl, rfl⟩
    · cases h
  complete := by
    rintro v a rfl
    refine ⟨value_writeBoolean a, fun {b r} hb _ => ?_⟩
    show readBoolean _ = _
    rw [readBoolean, (value_writeBoolean a).skipBlanks_append hb]
    cases a <;> rfl

theorem value_writeNull : Value writeNull := .nullWord

/-- `null` is read as itself. -/
theorem specified_unit : unit.Specified fun v _ => v = writeNull where
  sound {s r a} h := by
    replace h : readUnit s = .ok (a, r) := h
    unfold readUnit at h
    split at h
    · rename_i hs
      obtain ⟨b, hb, rfl⟩ := exists_blank_of_skipBlanks hs
      split at h
      · cases h
      · rename_i hword
        obtain rfl := eq_append_of_readWord hword
        cases h
        exact ⟨b, _, hb, rfl, rfl⟩
    · cases h
  complete := by
    rintro v a rfl
    refine ⟨.nullWord, fun {b r} hb _ => ?_⟩
    show readUnit _ = _
    rw [readUnit, value_writeNull.skipBlanks_append hb]
    rfl

/-- The numeral stands for a natural number below `2 ^ 32`. -/
inductive Word32Of : List Char → UInt32 → Prop where
  /-- It has no sign. -/
  | numeral {t : List Char} {n : Numeral} {number : Number} {w : UInt32} : Spells false t n →
      n.value = some number → number.toWord32 = .ok w → Word32Of t w
  /-- It has a minus sign. -/
  | negative {t : List Char} {n : Numeral} {number : Number} {w : UInt32} : Spells true t n →
      n.value = some number → number.toWord32 = .ok w → Word32Of ('-' :: t) w

theorem readWord32After_eq_ok_iff {minus : Bool} {w : UInt32} :
    readWord32After minus s = .ok (w, r) ↔ ∃ n number, readNumeral minus s = .ok (n, r) ∧
      n.value = some number ∧ number.toWord32 = .ok w := by
  constructor
  · intro h
    unfold readWord32After at h
    split at h
    · cases h
    · rename_i number t hread
      unfold readNumber at hread
      split at hread
      · cases hread
      · rename_i n u hnumeral
        split at hread
        · rename_i hvalue
          cases hread
          split at h
          · cases h
          · rename_i hword
            cases h
            exact ⟨n, number, hnumeral, hvalue, hword⟩
        · cases hread
  · rintro ⟨n, number, hread, hvalue, hword⟩
    simp [readWord32After, readNumber, hread, hvalue, hword]

/-- A number is read by its numeral. -/
theorem specified_word32 : word32.Specified Word32Of where
  sound {s r a} h := by
    replace h : readWord32 s = .ok (a, r) := h
    unfold readWord32 at h
    split at h
    · cases h
    · rename_i c t hs
      obtain ⟨b, hb, rfl⟩ := exists_blank_of_skipBlanks hs
      split_ifs at h with hminus hdigit
      · obtain ⟨n, number, hread, hvalue, hword⟩ := readWord32After_eq_ok_iff.mp h
        obtain ⟨t, rfl, hspells⟩ := exists_of_readNumeral hread
        subst hminus
        exact ⟨b, '-' :: t, hb, rfl, .negative hspells hvalue hword⟩
      · obtain ⟨n, number, hread, hvalue, hword⟩ := readWord32After_eq_ok_iff.mp h
        obtain ⟨t, ht, hspells⟩ := exists_of_readNumeral hread
        exact ⟨b, t, hb, by rw [ht], .numeral hspells hvalue hword⟩
  complete := by
    rintro v a (⟨hspells, hvalue, hword⟩ | ⟨hspells, hvalue, hword⟩)
    · refine ⟨.numeral hspells, fun {b r} hb hr => ?_⟩
      obtain ⟨c, t, rfl, hc⟩ := hspells.head
      have hminus : c ≠ '-' := by
        rintro rfl
        exact absurd hc (by decide)
      show readWord32 _ = _
      rw [readWord32, List.cons_append, skipBlanks_append_cons hb (isBlank_of_isDigit hc)]
      dsimp only
      rw [if_neg hminus, if_pos hc]
      exact readWord32After_eq_ok_iff.mpr ⟨_, _, hspells.readNumeral_append hr, hvalue, hword⟩
    · refine ⟨.negative hspells, fun {b r} hb hr => ?_⟩
      show readWord32 _ = _
      rw [readWord32, List.cons_append, skipBlanks_append_cons hb (by decide)]
      dsimp only
      rw [if_pos rfl]
      exact readWord32After_eq_ok_iff.mpr ⟨_, _, hspells.readNumeral_append hr, hvalue, hword⟩

theorem exact_word32 : word32.Exact := specified_word32.exact

/-! ### Values of other values -/

/-- What is read is changed by `f`. -/
theorem Reader.Exact.specified_map (hx : x.Exact) (f : α → β) :
    (x.map f).Specified fun v b => ∃ a, x.Takes v a ∧ b = f a where
  sound {s r b} h := by
    simp only [Reader.map] at h
    split at h
    · cases h
    · rename_i hrun
      cases h
      obtain ⟨b, v, hb, hs, htakes⟩ := hx.sound hrun
      exact ⟨b, v, hb, hs, _, htakes, rfl⟩
  complete := by
    rintro v b ⟨a, htakes, rfl⟩
    refine ⟨htakes.value, fun {b r} hb hr => ?_⟩
    simp only [Reader.map, htakes.run_eq hb hr]

/-- `null` is nothing, and any other value is what the reader takes it for. -/
inductive NullableOf (x : Reader α) : List Char → Option α → Prop where
  /-- `null`. -/
  | null : NullableOf x writeNull none
  /-- Another value. -/
  | value {v : List Char} {a : α} : v ≠ writeNull → x.Takes v a → NullableOf x v (some a)

/-- A text that does not start as `null` does is left to the reader. -/
theorem nullable_run_of_ne (hs : ∀ t, skipBlanks s ≠ 'n' :: t) :
    (nullable x).run s = (x.run (skipBlanks s)).map fun p => (some p.1, p.2) := by
  cases hskip : skipBlanks s with
  | nil =>
    simp only [nullable, hskip]
    cases x.run [] <;> rfl
  | cons c t =>
    have hc : c ≠ 'n' := by
      rintro rfl
      exact hs t hskip
    cases hrun : x.run (c :: t) <;> simp [nullable, hskip, hc, hrun, Except.map]

theorem Reader.Exact.specified_nullable (hx : x.Exact) :
    (nullable x).Specified (NullableOf x) where
  sound {s r o} h := by
    by_cases hn : ∃ t, skipBlanks s = 'n' :: t
    · obtain ⟨t, ht⟩ := hn
      obtain ⟨b, hb, rfl⟩ := exists_blank_of_skipBlanks ht
      simp only [nullable, ht] at h
      split at h
      · cases h
      · rename_i hword
        obtain rfl := eq_append_of_readWord hword
        cases h
        exact ⟨b, writeNull, hb, rfl, .null⟩
    · rw [nullable_run_of_ne (not_exists.mp hn)] at h
      cases hrun : x.run (skipBlanks s) with
      | error e => rw [hrun] at h; cases h
      | ok p =>
        rw [hrun] at h
        cases h
        obtain ⟨b, v, hb, hv, htakes⟩ := hx.sound hrun
        obtain ⟨b₀, hb₀, hs⟩ := exists_blank_append s
        refine ⟨b₀ ++ b, v, hb₀.append hb, ?_, .value ?_ htakes⟩
        · rw [List.append_assoc, ← hv]
          exact hs
        · -- white space in front of the value is skipped already
          rintro rfl
          apply hn
          have hskip := htakes.value.skipBlanks_append hb p.2
          rw [← hv, skipBlanks_skipBlanks] at hskip
          exact ⟨_, hskip⟩
  complete := by
    rintro v a (_ | ⟨hne, htakes⟩)
    · refine ⟨.nullWord, fun {b r} hb _ => ?_⟩
      simp only [nullable, value_writeNull.skipBlanks_append hb]
      rfl
    · refine ⟨htakes.value, fun {b r} hb hr => ?_⟩
      have hskip := htakes.value.skipBlanks_append hb r
      rw [nullable_run_of_ne, hskip]
      · exact congrArg (Except.map _) (htakes.run_eq .nil hr)
      · intro t ht
        obtain ⟨c, u, rfl, -⟩ := htakes.value.head
        rw [hskip] at ht
        cases ht
        exact hne htakes.value.eq_null

/-! ### Arrays -/

/-- An array of values that the reader takes for the given elements, in this order. -/
inductive ArrayOf (x : Reader α) : List Char → List α → Prop where
  /-- Nothing but white space. -/
  | empty {b : List Char} : Blank b → ArrayOf x ('[' :: (b ++ [']'])) []
  /-- The elements. -/
  | elements {es : List Spaced} {as : List α} :
      List.Forall₂ (fun e a => x.Takes e.core a) es as → ArrayOf x (arrayText es) as

theorem value_of_forall₂ {es : List Spaced} {as : List α}
    (h : List.Forall₂ (fun e a => x.Takes e.core a) es as) : ∀ e ∈ es, Value e.core := by
  induction h with
  | nil => nofun
  | cons he _ ih => exact List.forall_mem_cons.mpr ⟨he.value, ih⟩

theorem ArrayOf.value {as : List α} (h : ArrayOf x v as) : Value v := by
  cases h with
  | empty hb => exact .emptyArray hb
  | elements h => exact .array (value_of_forall₂ h)

/-- Every element of an array is read from some text. -/
theorem ArrayOf.exists_takes {as : List α} (h : ArrayOf x v as) : ∀ a ∈ as, ∃ w, x.Takes w a := by
  cases h with
  | empty _ => nofun
  | elements h =>
    induction h with
    | nil => nofun
    | cons he _ ih => exact List.forall_mem_cons.mpr ⟨⟨_, he⟩, ih⟩

/-- An array that is given by its elements is read as theirs. -/
theorem ArrayOf.of_arrayText {es : List Spaced} {as : List α} (hes : ∀ e ∈ es, Value e.core)
    (h : ArrayOf x (arrayText es) as) : List.Forall₂ (fun e a => x.Takes e.core a) es as := by
  generalize hv : arrayText es = v at h
  cases h with
  | empty hb =>
    cases es with
    | nil => exact .nil
    | cons e es => exact absurd hv (arrayText_cons_ne (List.forall_mem_cons.mp hes).1 hb)
  | elements h =>
    rw [arrayText_unique hes (value_of_forall₂ h) hv]
    exact h

/-- The text in front of a step in an array. -/
inductive ElementStep : (first : Bool) → List Char → ListStep → Prop where
  /-- The array ends. -/
  | closed {first : Bool} {b r : List Char} : Blank b →
      ElementStep first (b ++ ']' :: r) (.closed r)
  /-- The first element. -/
  | head {b t : List Char} : Blank b → ElementStep true (b ++ t) (.element t)
  /-- Another element, behind a comma. -/
  | next {b b' t : List Char} : Blank b → Blank b' →
      ElementStep false (b ++ ',' :: (b' ++ t)) (.element t)

theorem elementStep_of_nextElement {first : Bool} {p : ListStep}
    (h : nextElement first s = .ok p) : ElementStep first s p := by
  unfold nextElement at h
  split at h
  · cases h
  · rename_i c t hs
    obtain ⟨b, hb, hs⟩ := exists_blank_of_skipBlanks hs
    split_ifs at h with hclose hfirst hcomma
    · cases h
      rw [hs, hclose]
      exact .closed hb
    · cases h
      rw [hs, hfirst]
      exact .head hb
    · split at h
      · cases h
      · cases h
      · cases h
        obtain ⟨b', hb', ht⟩ := exists_blank_append t
        rw [hs, hcomma, ht, Bool.eq_false_iff.mpr hfirst, skipBlanks_blank_append hb',
          skipBlanks_skipBlanks]
        exact .next hb hb'

theorem nextElement_bracket (first : Bool) (hb : Blank b) (r : List Char) :
    nextElement first (b ++ ']' :: r) = .ok (.closed r) := by
  rw [nextElement, skipBlanks_append_cons hb (by decide)]
  exact if_pos rfl

theorem nextElement_value (hv : Value v) (hb : Blank b) (r : List Char) :
    nextElement true (b ++ (v ++ r)) = .ok (.element (v ++ r)) := by
  rw [nextElement, hv.skipBlanks_append hb]
  obtain ⟨c, t, rfl, -, hc⟩ := hv.head
  simp [hc]

theorem nextElement_comma (hv : Value v) (hb : Blank b) {b' : List Char} (hb' : Blank b')
    (r : List Char) :
    nextElement false (b ++ ',' :: (b' ++ (v ++ r))) = .ok (.element (v ++ r)) := by
  rw [nextElement, skipBlanks_append_cons hb (by decide)]
  simp only [hv.skipBlanks_append hb']
  obtain ⟨c, t, rfl, -, hc⟩ := hv.head
  simp [hc]

theorem readElements_of_closed {first : Bool} {acc : List α}
    (h : nextElement first s = .ok (.closed r)) :
    readElements x acc first s = .ok (acc.reverse, r) := by
  rw [readElements]
  split <;> simp_all

theorem readElements_of_element {first : Bool} (acc : List α)
    (h : nextElement first s = .ok (.element t)) (hrun : x.run t = .ok (a, r)) :
    readElements x acc first s = readElements x (a :: acc) false r := by
  rw [readElements]
  split
  · simp_all
  · simp_all
  · rename_i h'
    cases h'.symm.trans h
    split <;> simp_all

/-- What is read behind an element of an array: more elements, each behind a comma. -/
theorem Reader.Exact.exists_of_readElements (hx : x.Exact) {acc as : List α} {first : Bool}
    (hfirst : first = false) (h : readElements x acc first s = .ok (as, r)) :
    ∃ b es bs, Blank b ∧ s = b ++ (continued (es.map Spaced.text) ++ ']' :: r) ∧
      List.Forall₂ (fun e a => x.Takes e.core a) es bs ∧ as = acc.reverse ++ bs := by
  fun_induction readElements x acc first s with
  | case1 => cases h
  | case2 acc first s t hnext =>
    cases elementStep_of_nextElement hnext with
    | closed hb =>
      cases h
      exact ⟨_, [], [], hb, rfl, .nil, by simp⟩
  | case3 => cases h
  | case4 acc first s t hnext a u hrun ih =>
    subst hfirst
    obtain ⟨b₁, v, hb₁, rfl, htakes⟩ := hx.sound hrun
    obtain ⟨b₂, es, bs, hb₂, rfl, hes, rfl⟩ := ih rfl h
    cases elementStep_of_nextElement hnext with
    | @next b b' _ hb hb' =>
      refine ⟨b, ⟨b' ++ b₁, v, b₂, hb'.append hb₁, hb₂⟩ :: es, a :: bs, hb, ?_,
        .cons htakes hes, ?_⟩
      · simp [Spaced.text]
      · simp

/-- What is read behind the bracket of an array is the rest of one. -/
theorem Reader.Exact.exists_of_elements (hx : x.Exact) {as : List α}
    (h : readElements x [] true s = .ok (as, r)) : ∃ v, '[' :: s = v ++ r ∧ ArrayOf x v as := by
  rw [readElements] at h
  split at h
  · cases h
  · rename_i hnext
    cases elementStep_of_nextElement hnext with
    | @closed _ b _ hb =>
      cases h
      exact ⟨'[' :: (b ++ [']']), by simp, .empty hb⟩
  · rename_i hnext
    split at h
    · cases h
    · rename_i hrun
      obtain ⟨b₁, v, hb₁, rfl, htakes⟩ := hx.sound hrun
      obtain ⟨b₂, es, bs, hb₂, rfl, hes, rfl⟩ := hx.exists_of_readElements rfl h
      cases elementStep_of_nextElement hnext with
      | @head b _ hb =>
        refine ⟨arrayText (⟨b ++ b₁, v, b₂, hb.append hb₁, hb₂⟩ :: es), ?_,
          .elements (.cons htakes hes)⟩
        rw [arrayText_cons]
        simp [Spaced.text]

/-- Elements behind commas are read. -/
theorem readElements_continued {es : List Spaced} {bs : List α}
    (h : List.Forall₂ (fun e a => x.Takes e.core a) es bs) (acc : List α) (hb : Blank b)
    (r : List Char) :
    readElements x acc false (b ++ (continued (es.map Spaced.text) ++ ']' :: r)) =
      .ok (acc.reverse ++ bs, r) := by
  induction h generalizing acc b with
  | nil => simpa using readElements_of_closed (nextElement_bracket false hb r)
  | @cons e a es bs htakes _ ih =>
    have hnext := nextElement_comma htakes.value hb e.blank_before
      (e.after ++ (continued (es.map Spaced.text) ++ ']' :: r))
    have hrun := htakes.run_eq .nil (e.ends_after (es.map Spaced.text) (Ends.bracket r))
    have hstep := readElements_of_element acc hnext hrun
    rw [ih _ e.blank_after] at hstep
    simpa [Spaced.text] using hstep

/-- The elements of an array are read. -/
theorem readElements_separated {es : List Spaced} {as : List α}
    (h : List.Forall₂ (fun e a => x.Takes e.core a) es as) (r : List Char) :
    readElements x [] true (separated (es.map Spaced.text) ++ ']' :: r) = .ok (as, r) := by
  cases h with
  | nil => exact readElements_of_closed (nextElement_bracket true .nil r)
  | @cons e a es as htakes hes =>
    have hnext := nextElement_value htakes.value e.blank_before
      (e.after ++ (continued (es.map Spaced.text) ++ ']' :: r))
    have hrun := htakes.run_eq .nil (e.ends_after (es.map Spaced.text) (Ends.bracket r))
    have hstep := readElements_of_element [] hnext hrun
    rw [readElements_continued hes _ e.blank_after] at hstep
    simpa [separated_cons, Spaced.text] using hstep

/-- An array is read element by element. -/
theorem Reader.Exact.specified_array {n : ℕ} {item : (m : ℕ) → m < n + 1 → Reader α}
    (hx : (item n (Nat.lt_succ_self n)).Exact) :
    (array (n + 1) item).Specified (ArrayOf (item n (Nat.lt_succ_self n))) where
  sound {s r as} h := by
    simp only [array] at h
    split at h
    · rename_i t hs
      obtain ⟨b, hb, rfl⟩ := exists_blank_of_skipBlanks hs
      obtain ⟨v, hv, hof⟩ := hx.exists_of_elements h
      exact ⟨b, v, hb, by rw [hv], hof⟩
    · cases h
  complete {v as} h := by
    refine ⟨h.value, fun {b r} hb _ => ?_⟩
    have hrun : ∀ s, (array (n + 1) item).run (b ++ '[' :: s) =
        readElements (item n (Nat.lt_succ_self n)) [] true s := by
      intro s
      simp only [array, skipBlanks_append_cons hb (show isBlank '[' = false by decide)]
    cases h with
    | empty hb' =>
      rw [List.cons_append, hrun, List.append_assoc]
      exact readElements_of_closed (nextElement_bracket true hb' r)
    | elements h =>
      rw [arrayText, writeArray, List.append_assoc, List.cons_append, hrun]
      exact readElements_separated h r

/-- How many arrays and objects may be opened matters to an array through its elements alone. -/
theorem array_congr {n m : ℕ} {item : (k : ℕ) → k < n + 1 → Reader α}
    {item' : (k : ℕ) → k < m + 1 → Reader α}
    (h : item n (Nat.lt_succ_self n) = item' m (Nat.lt_succ_self m)) :
    array (n + 1) item = array (m + 1) item' := by
  simp only [array, h]

theorem array_zero_run_ne_ok {item : (m : ℕ) → m < 0 → Reader α} {p : List α × List Char} :
    (array 0 item).run s ≠ .ok p := by
  intro h
  simp only [array] at h
  split at h <;> cases h

theorem exact_array_zero {item : (m : ℕ) → m < 0 → Reader α} : (array 0 item).Exact where
  sound h := absurd h array_zero_run_ne_ok
  complete := id

end MusicLibrary.Json
