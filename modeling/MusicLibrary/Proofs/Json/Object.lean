import MusicLibrary.Json.Variant
import MusicLibrary.Proofs.Json.Reader

/-!
# Members, maps and alternatives

A step from one member of an object to the next is told from the text in front of it (`NameStep`),
and a name and its colon are taken together as a label. With these, objects that stand for maps are
read entry by entry (`Reader.Exact.specified_map_of`) and an alternative is read in its two forms
(`specified_variant`).
-/

namespace MusicLibrary.Json

variable {α : Type} {x : Reader α} {a : α} {b r s t : List Char} {first : Bool}

/-! ### Steps -/

/-- The text in front of a step in an object. -/
inductive NameStep : (first : Bool) → List Char → MemberStep → Prop where
  /-- The object ends. -/
  | closed {first : Bool} {b r : List Char} : Blank b → NameStep first (b ++ '}' :: r) (.closed r)
  /-- The first member. -/
  | head {b t : List Char} : Blank b → NameStep true (b ++ '"' :: t) (.member t)
  /-- Another member, behind a comma. -/
  | next {b b' t : List Char} : Blank b → Blank b' →
      NameStep false (b ++ ',' :: (b' ++ '"' :: t)) (.member t)

theorem nameStep_of_nextMember {p : MemberStep} (h : nextMember first s = .ok p) :
    NameStep first s p := by
  unfold nextMember at h
  split at h
  · cases h
  · rename_i c t hs
    obtain ⟨b, hb, hs⟩ := exists_blank_of_skipBlanks hs
    split_ifs at h with hclose hfirst hquote hcomma
    · cases h
      rw [hs, hclose]
      exact .closed hb
    · cases h
      rw [hs, hfirst, hquote]
      exact .head hb
    · split at h
      · cases h
      · cases h
      · rename_i hr
        obtain ⟨b', hb', ht⟩ := exists_blank_of_skipBlanks hr
        cases h
        rw [hs, hcomma, ht, Bool.eq_false_iff.mpr hfirst]
        exact .next hb hb'
      · cases h

theorem nextMember_brace (first : Bool) (hb : Blank b) (r : List Char) :
    nextMember first (b ++ '}' :: r) = .ok (.closed r) := by
  rw [nextMember, skipBlanks_append_cons hb (by decide)]
  exact if_pos rfl

/-- The text of a label from behind the quote in front of its name. -/
def Label.rest (l : Label) (r : List Char) : List Char := l.chars ++ '"' :: (l.gap ++ ':' :: r)

theorem nextMember_label (l : Label) (r : List Char) :
    nextMember true (l.text ++ r) = .ok (.member (l.rest r)) := by
  rw [nextMember, l.text_append, skipBlanks_append_cons l.blank_before (by decide)]
  rfl

theorem nextMember_comma (hb : Blank b) (l : Label) (r : List Char) :
    nextMember false (b ++ ',' :: (l.text ++ r)) = .ok (.member (l.rest r)) := by
  rw [nextMember, skipBlanks_append_cons hb (by decide)]
  simp only [l.text_append,
    skipBlanks_append_cons l.blank_before (show isBlank '"' = false by decide)]
  rfl

/-! ### Labels -/

theorem Label.readName_rest {l : Label} {key : String} (hkey : l.key? = some key) (r : List Char) :
    readName (l.rest r) = .ok (key, l.gap ++ ':' :: r) :=
  (Label.key?_eq_some_iff _).mp hkey

theorem Label.readColon_gap (l : Label) (r : List Char) : readColon (l.gap ++ ':' :: r) = .ok r :=
  readColon_append l.blank_gap r

/-- A name and the colon behind it make up a label. -/
theorem exists_label {key : String} {u : List Char} (hb : Blank b)
    (hname : readName s = .ok (key, t))
    (hcolon : readColon t = .ok u) :
    ∃ l : Label, b ++ '"' :: s = l.text ++ u ∧ l.key? = some key := by
  have hname' := hname
  unfold readName at hname'
  split at hname'
  · cases hname'
  · rename_i hchars
    obtain ⟨chars, rfl, hc, -⟩ := exists_of_readChars hchars
    cases hname'
    obtain ⟨gap, hgap, rfl⟩ := exists_of_readColon hcolon
    exact ⟨⟨b, chars, gap, hb, hc, hgap⟩, by rw [Label.text_append],
      (Label.key?_eq_some_iff _).mpr hname⟩

theorem exists_of_readMemberValue (h : readMemberValue x s = .ok (a, r)) :
    ∃ t, readColon s = .ok t ∧ x.run t = .ok (a, r) := by
  unfold readMemberValue at h
  split at h
  · cases h
  · rename_i hcolon
    exact ⟨_, hcolon, h⟩

theorem Label.readMemberValue_gap (l : Label) (r : List Char) :
    readMemberValue x (l.gap ++ ':' :: r) = x.run r := by
  rw [readMemberValue, l.readColon_gap]

/-! ### Maps -/

/-- The member has the name of the entry, and the reader takes its value for that of the entry. -/
def EntryOf (x : Reader α) (m : MemberText) (e : String × α) : Prop :=
  m.key? = some e.1 ∧ x.Takes m.value.core e.2

/-- An object with the given entries, in this order. -/
inductive MapOf (x : Reader α) : List Char → List (String × α) → Prop where
  /-- Nothing but white space. -/
  | empty {b : List Char} : Blank b → MapOf x ('{' :: (b ++ ['}'])) []
  /-- The entries. -/
  | members {ms : List MemberText} {es : List (String × α)} :
      List.Forall₂ (EntryOf x) ms es → MapOf x (objectText ms) es

theorem value_of_forall₂_entry {ms : List MemberText} {es : List (String × α)}
    (h : List.Forall₂ (EntryOf x) ms es) : ∀ m ∈ ms, Value m.value.core := by
  induction h with
  | nil => nofun
  | cons hm _ ih => exact List.forall_mem_cons.mpr ⟨hm.2.value, ih⟩

theorem MapOf.value {v : List Char} {es : List (String × α)} (h : MapOf x v es) : Value v := by
  cases h with
  | empty hb => exact .emptyObject hb
  | members h => exact .object (value_of_forall₂_entry h)

/-- An object that is given by its members is read as theirs. -/
theorem MapOf.of_objectText {ms : List MemberText} {es : List (String × α)}
    (hms : ∀ m ∈ ms, Value m.value.core) (h : MapOf x (objectText ms) es) :
    List.Forall₂ (EntryOf x) ms es := by
  generalize hv : objectText ms = v at h
  cases h with
  | empty hb =>
    cases ms with
    | nil => exact .nil
    | cons m ms => exact absurd hv (objectText_cons_ne hb)
  | members h =>
    rw [objectText_unique hms (value_of_forall₂_entry h) hv]
    exact h

/-- What is read as an entry is a member, from behind the quote in front of its name. -/
theorem Reader.Exact.exists_of_readEntry (hx : x.Exact) {e : String × α} (hb : Blank b)
    (h : readEntry x s = .ok (e, r)) : ∃ (l : Label) (b' v : List Char), Blank b' ∧
      b ++ '"' :: s = l.text ++ (b' ++ (v ++ r)) ∧ l.key? = some e.1 ∧ x.Takes v e.2 := by
  unfold readEntry at h
  split at h
  · cases h
  · rename_i hname
    split at h
    · cases h
    · rename_i hvalue
      obtain ⟨t, hcolon, hrun⟩ := exists_of_readMemberValue hvalue
      obtain ⟨b', v, hb', rfl, htakes⟩ := hx.sound hrun
      obtain ⟨l, hl, hkey⟩ := exists_label hb hname hcolon
      cases h
      exact ⟨l, b', v, hb', hl, hkey, htakes⟩

theorem EntryOf.readEntry_rest {m : MemberText} {e : String × α} (h : EntryOf x m e) (hr : Ends r) :
    readEntry x (m.label.rest (m.value.text ++ r)) = .ok (e, m.value.after ++ r) := by
  rw [readEntry, Label.readName_rest h.1]
  simp only [Label.readMemberValue_gap, Spaced.text, List.append_assoc,
    h.2.run_eq m.value.blank_before (ends_blank_append m.value.blank_after hr)]

theorem readEntries_of_closed {acc : List (String × α)} (h : nextMember first s = .ok (.closed r)) :
    readEntries x acc first s = .ok (acc.reverse, r) := by
  rw [readEntries]
  split <;> simp_all

theorem readEntries_of_member (acc : List (String × α)) {e : String × α}
    (h : nextMember first s = .ok (.member t)) (he : readEntry x t = .ok (e, r)) :
    readEntries x acc first s = readEntries x (e :: acc) false r := by
  rw [readEntries]
  split
  · simp_all
  · simp_all
  · rename_i h'
    cases h'.symm.trans h
    split <;> simp_all

/-- What is read behind an entry of a map: more entries, each behind a comma. -/
theorem Reader.Exact.exists_of_readEntries (hx : x.Exact) {acc es : List (String × α)}
    (hfirst : first = false) (h : readEntries x acc first s = .ok (es, r)) :
    ∃ b ms es', Blank b ∧ s = b ++ (continued (ms.map MemberText.text) ++ '}' :: r) ∧
      List.Forall₂ (EntryOf x) ms es' ∧ es = acc.reverse ++ es' := by
  fun_induction readEntries x acc first s with
  | case1 => cases h
  | case2 acc first s t hnext =>
    cases nameStep_of_nextMember hnext with
    | closed hb =>
      cases h
      exact ⟨_, [], [], hb, rfl, .nil, by simp⟩
  | case3 => cases h
  | case4 acc first s t hnext e u hentry ih =>
    subst hfirst
    obtain ⟨b₂, ms, es', hb₂, rfl, hms, rfl⟩ := ih rfl h
    cases nameStep_of_nextMember hnext with
    | @next b b' _ hb hb' =>
      obtain ⟨l, b₁, v, hb₁, hl, hkey, htakes⟩ := hx.exists_of_readEntry hb' hentry
      refine ⟨b, ⟨l, ⟨b₁, v, b₂, hb₁, hb₂⟩⟩ :: ms, e :: es', hb, ?_, .cons ⟨hkey, htakes⟩ hms, ?_⟩
      · rw [hl]
        simp [MemberText.text, Spaced.text]
      · simp

/-- What is read behind the brace of a map is the rest of one. -/
theorem Reader.Exact.exists_of_entries (hx : x.Exact) {es : List (String × α)}
    (h : readEntries x [] true s = .ok (es, r)) : ∃ v, '{' :: s = v ++ r ∧ MapOf x v es := by
  rw [readEntries] at h
  split at h
  · cases h
  · rename_i hnext
    cases nameStep_of_nextMember hnext with
    | @closed _ b _ hb =>
      cases h
      exact ⟨'{' :: (b ++ ['}']), by simp, .empty hb⟩
  · rename_i hnext
    split at h
    · cases h
    · rename_i hentry
      obtain ⟨b₂, ms, es', hb₂, rfl, hms, rfl⟩ := hx.exists_of_readEntries rfl h
      cases nameStep_of_nextMember hnext with
      | head hb =>
        obtain ⟨l, b₁, v, hb₁, hl, hkey, htakes⟩ := hx.exists_of_readEntry hb hentry
        refine ⟨objectText (⟨l, ⟨b₁, v, b₂, hb₁, hb₂⟩⟩ :: ms), ?_,
          .members (.cons ⟨hkey, htakes⟩ hms)⟩
        rw [objectText_cons, hl]
        simp [MemberText.text, Spaced.text]

/-- Entries behind commas are read. -/
theorem readEntries_continued {ms : List MemberText} {es : List (String × α)}
    (h : List.Forall₂ (EntryOf x) ms es) (acc : List (String × α)) (hb : Blank b)
    (r : List Char) :
    readEntries x acc false (b ++ (continued (ms.map MemberText.text) ++ '}' :: r)) =
      .ok (acc.reverse ++ es, r) := by
  induction h generalizing acc b with
  | nil => simpa using readEntries_of_closed (nextMember_brace false hb r)
  | @cons m e ms es hentry _ ih =>
    have hends := ends_continued (ms.map MemberText.text) (Ends.brace r)
    have hstep := readEntries_of_member acc
      (nextMember_comma hb m.label _) (hentry.readEntry_rest hends)
    rw [ih _ m.value.blank_after] at hstep
    simpa [MemberText.text] using hstep

/-- The entries of a map are read. -/
theorem readEntries_separated {ms : List MemberText} {es : List (String × α)}
    (h : List.Forall₂ (EntryOf x) ms es) (r : List Char) :
    readEntries x [] true (separated (ms.map MemberText.text) ++ '}' :: r) = .ok (es, r) := by
  cases h with
  | nil => exact readEntries_of_closed (nextMember_brace true .nil r)
  | @cons m e ms es hentry hms =>
    have hends := ends_continued (ms.map MemberText.text) (Ends.brace r)
    have hstep := readEntries_of_member [] (nextMember_label m.label _)
      (hentry.readEntry_rest hends)
    rw [readEntries_continued hms _ m.value.blank_after] at hstep
    simpa [separated_cons, MemberText.text] using hstep

/-- An object that stands for a map is read entry by entry. -/
theorem Reader.Exact.specified_map_of {n : ℕ} (hx : x.Exact) :
    (Json.map (n + 1) x).Specified (MapOf x) where
  sound {s r es} h := by
    simp only [Json.map, if_neg (Nat.succ_ne_zero n)] at h
    split at h
    · rename_i t hs
      obtain ⟨b, hb, rfl⟩ := exists_blank_of_skipBlanks hs
      obtain ⟨v, hv, hof⟩ := hx.exists_of_entries h
      exact ⟨b, v, hb, by rw [hv], hof⟩
    · cases h
  complete {v es} h := by
    refine ⟨h.value, fun {b r} hb _ => ?_⟩
    have hrun : ∀ s, (Json.map (n + 1) x).run (b ++ '{' :: s) = readEntries x [] true s := by
      intro s
      simp only [Json.map, skipBlanks_append_cons hb (show isBlank '{' = false by decide),
        if_neg (Nat.succ_ne_zero n)]
    cases h with
    | empty hb' =>
      rw [List.cons_append, hrun, List.append_assoc]
      exact readEntries_of_closed (nextMember_brace true hb' r)
    | members h =>
      rw [objectText, List.append_assoc, List.cons_append, hrun]
      exact readEntries_separated h r

theorem map_succ_eq (n m : ℕ) (x : Reader α) : Json.map (n + 1) x = Json.map (m + 1) x := by
  simp only [Json.map, if_neg (Nat.succ_ne_zero n), if_neg (Nat.succ_ne_zero m)]

theorem Reader.Exact.map_of (hx : x.Exact) (opens : ℕ) : (Json.map opens x).Exact := by
  cases opens with
  | zero =>
    refine ⟨fun h => ?_, id⟩
    simp only [Json.map] at h
    split at h <;> cases h
  | succ n => exact hx.specified_map_of.exact

/-! ### Alternatives -/

/-- The name of an alternative, or an object with this name for its only member. -/
inductive VariantOf (opens : ℕ) (known : List (String × α)) : List Char → α → Prop where
  /-- The name alone. -/
  | name {v : List Char} {key : String} {a : α} : StringOf v key → known.lookup key = some a →
      VariantOf opens known v a
  /-- An object, with `null` under the name. -/
  | member {m : MemberText} {key : String} {a : α} : opens ≠ 0 → m.key? = some key →
      known.lookup key = some a → m.value.core = writeNull →
        VariantOf opens known (objectText [m]) a

theorem alternative_eq_ok_iff {known : List (String × α)} {key : String} :
    alternative known key = .ok a ↔ known.lookup key = some a := by
  cases hlookup : known.lookup key <;> simp [alternative, hlookup]

theorem exists_of_readTag {key : String} (h : readTag s = .ok (key, r)) :
    ∃ b t, Blank b ∧ s = b ++ '"' :: t ∧ readName t = .ok (key, r) := by
  unfold readTag at h
  split at h
  · cases h
  · rename_i hs
    obtain ⟨b, hb, rfl⟩ := exists_blank_of_skipBlanks hs
    exact ⟨b, _, hb, rfl, h⟩
  · cases h

theorem exists_of_closeObject (h : closeObject s = .ok r) : ∃ b, Blank b ∧ s = b ++ '}' :: r := by
  unfold closeObject at h
  split at h
  · cases h
  · rename_i hs
    cases h
    exact exists_blank_of_skipBlanks hs
  · cases h

theorem exists_of_readTagged {known : List (String × α)} (h : readTagged known s = .ok (a, r)) :
    ∃ (m : MemberText) (key : String), '{' :: s = objectText [m] ++ r ∧ m.key? = some key ∧
      known.lookup key = some a ∧ m.value.core = writeNull := by
  unfold readTagged at h
  split at h
  · cases h
  · rename_i htag
    obtain ⟨b, t, hb, rfl, hname⟩ := exists_of_readTag htag
    split at h
    · cases h
    · rename_i halternative
      split at h
      · cases h
      · rename_i hvalue
        obtain ⟨u, hcolon, hunit⟩ := exists_of_readMemberValue hvalue
        obtain ⟨b₁, v, hb₁, rfl, rfl⟩ := specified_unit.sound hunit
        obtain ⟨l, hl, hkey⟩ := exists_label hb hname hcolon
        split at h
        · cases h
        · rename_i hclose
          obtain ⟨b₂, hb₂, rfl⟩ := exists_of_closeObject hclose
          cases h
          refine ⟨⟨l, ⟨b₁, writeNull, b₂, hb₁, hb₂⟩⟩, _, ?_, hkey,
            alternative_eq_ok_iff.mp halternative, rfl⟩
          rw [objectText_cons, hl]
          simp [MemberText.text, Spaced.text]

theorem readTagged_member {known : List (String × α)} {m : MemberText} {key : String}
    (hkey : m.key? = some key) (hknown : known.lookup key = some a)
    (hnull : m.value.core = writeNull) (r : List Char) :
    readTagged known (m.text ++ '}' :: r) = .ok (a, r) := by
  have htag : readTag (m.text ++ '}' :: r) =
      .ok (key, m.label.gap ++ ':' :: (m.value.text ++ '}' :: r)) := by
    rw [readTag, MemberText.text, List.append_assoc, Label.text_append,
      skipBlanks_append_cons m.label.blank_before (by decide)]
    exact Label.readName_rest hkey _
  have hunit : unit.run (m.value.text ++ '}' :: r) = .ok ((), m.value.after ++ '}' :: r) := by
    have htakes := specified_unit.complete (a := ()) hnull
    rw [Spaced.text, List.append_assoc, List.append_assoc]
    exact htakes.run_eq m.value.blank_before (ends_blank_append m.value.blank_after (Ends.brace r))
  have hclose : closeObject (m.value.after ++ '}' :: r) = .ok r := by
    rw [closeObject, skipBlanks_append_cons m.value.blank_after (by decide)]
    rfl
  simp only [readTagged, htag, alternative_eq_ok_iff.mpr hknown, Label.readMemberValue_gap, hunit,
    hclose]

/-- An alternative is read by its name, in one of two forms. -/
theorem specified_variant (opens : ℕ) (known : List (String × α)) :
    (variant opens known).Specified (VariantOf opens known) where
  sound {s r a} h := by
    simp only [variant] at h
    split at h
    · cases h
    · rename_i hs
      obtain ⟨b, hb, rfl⟩ := exists_blank_of_skipBlanks hs
      split_ifs at h with hopens
      obtain ⟨m, key, hm, hkey, hknown, hnull⟩ := exists_of_readTagged h
      exact ⟨b, objectText [m], hb, by rw [hm], .member hopens hkey hknown hnull⟩
    · rename_i hs
      obtain ⟨b, hb, rfl⟩ := exists_blank_of_skipBlanks hs
      split at h
      · cases h
      · rename_i hname
        split at h
        · cases h
        · rename_i halternative
          cases h
          have hstring : string.run (b ++ '"' :: _) = .ok (_, r) :=
            (readString_quote hb _).trans hname
          obtain ⟨b', v, hb', hv, hof⟩ := specified_string.sound hstring
          exact ⟨b', v, hb', hv, .name hof (alternative_eq_ok_iff.mp halternative)⟩
    · cases h
  complete := by
    rintro v a (⟨⟨hchars, hname⟩, hknown⟩ | ⟨hopens, hkey, hknown, hnull⟩)
    · refine ⟨.string hchars, fun {b r} hb _ => ?_⟩
      have hread := (readName_eq_ok_iff (r := r) hchars).mpr ⟨hname, rfl⟩
      simp only [variant, stringText, List.cons_append, List.append_assoc,
        skipBlanks_append_cons hb (show isBlank '"' = false by decide), List.nil_append, hread,
        alternative_eq_ok_iff.mpr hknown]
    · refine ⟨.object ?_, fun {b r} hb _ => ?_⟩
      · simp [hnull, value_writeNull]
      · rw [objectText_cons]
        simp only [variant, skipBlanks_append_cons hb (show isBlank '{' = false by decide),
          if_neg hopens]
        exact readTagged_member hkey hknown hnull r

end MusicLibrary.Json
