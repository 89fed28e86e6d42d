import MusicLibrary.Json.Record
import MusicLibrary.Proofs.Json.Object

/-!
# Records

What a text has to be for a record to be read from it, in both of its forms. In the form of an
object the members make a draft of the record, one after another (`Adds`, `Fills`); in the form of
an array each element has its place (`Places`). A record is read from the texts of `RecordOf` and
from no others (`specified_record`).
-/

namespace MusicLibrary.Json

variable {σ : Type} {format : RecordFormat σ} {p q : Draft σ} {a c : σ} {b r s t v : List Char}

/-! ### What a text has to be -/

/-- What a member of the name `key` with the value `v` makes of a draft. -/
inductive Adds (format : RecordFormat σ) (p : Draft σ) (key : String) (v : List Char) :
    Draft σ → Prop where
  /-- The record has no such member. -/
  | unknown : format.member? key = none → Value v → Adds format p key v p
  /-- A member that has not been given yet. -/
  | known {member : Member σ} {f : σ → σ} : format.member? key = some member → key ∉ p.seen →
      member.update.Takes v f → Adds format p key v ⟨f p.value, key :: p.seen⟩

/-- What the members of an object make of a draft, one after another. -/
inductive Fills (format : RecordFormat σ) :
    Draft σ → List (Option String × List Char) → Draft σ → Prop where
  /-- There are no more. -/
  | done {p : Draft σ} : Fills format p [] p
  /-- A member, and those behind it. -/
  | member {p q q' : Draft σ} {c : Option String × List Char} {key : String}
      {cs : List (Option String × List Char)} : c.1 = some key → Adds format p key c.2 q →
      Fills format q cs q' → Fills format p (c :: cs) q'

/-- What the elements of an array make of a value, one for each member of the record up to where the
members that are left may be left out. -/
inductive Places : List (Member σ) → σ → List Spaced → σ → Prop where
  /-- There are no more. -/
  | done {members : List (Member σ)} {a : σ} : (∀ m ∈ members, m.presence = .optional) →
      Places members a [] a
  /-- An element, and those behind it. -/
  | element {member : Member σ} {members : List (Member σ)} {f : σ → σ} {e : Spaced}
      {es : List Spaced} {a c : σ} : member.update.Takes e.core f → Places members (f a) es c →
      Places (member :: members) a (e :: es) c

/-- A record in one of its two forms. -/
inductive RecordOf (format : RecordFormat σ) : List Char → σ → Prop where
  /-- An object that holds nothing but white space. -/
  | emptyObject {b : List Char} : Blank b → format.missing? [] = none →
      RecordOf format ('{' :: (b ++ ['}'])) format.blank
  /-- An object of members, with none of those missing that have to be there. -/
  | object {ms : List MemberText} {q : Draft σ} :
      Fills format ⟨format.blank, []⟩ (ms.map MemberText.content) q →
      format.missing? q.seen = none → RecordOf format (objectText ms) q.value
  /-- An array that holds nothing but white space. -/
  | emptyArray {b : List Char} : Blank b → (∀ m ∈ format.members, m.presence = .optional) →
      RecordOf format ('[' :: (b ++ [']'])) format.blank
  /-- An array of the members in their order. -/
  | array {es : List Spaced} {a : σ} : Places format.members format.blank es a →
      RecordOf format (arrayText es) a

theorem Adds.value {key : String} (h : Adds format p key v q) : Value v := by
  cases h with
  | unknown _ hv => exact hv
  | known _ _ htakes => exact htakes.value

theorem Fills.values {cs : List (Option String × List Char)} (h : Fills format p cs q) :
    ∀ c ∈ cs, Value c.2 := by
  induction h with
  | done => nofun
  | member _ hadds _ ih => exact List.forall_mem_cons.mpr ⟨hadds.value, ih⟩

theorem Places.values {members : List (Member σ)} {es : List Spaced} (h : Places members a es c) :
    ∀ e ∈ es, Value e.core := by
  induction h with
  | done => nofun
  | element htakes _ ih => exact List.forall_mem_cons.mpr ⟨htakes.value, ih⟩

theorem RecordOf.value (h : RecordOf format v a) : Value v := by
  cases h with
  | emptyObject hb _ => exact .emptyObject hb
  | object hfills _ => exact .object fun m hm => hfills.values _ (List.mem_map_of_mem hm)
  | emptyArray hb _ => exact .emptyArray hb
  | array hplaces => exact .array hplaces.values

/-! ### The form of an object -/

/-- The members of the record are read exactly. -/
def RecordFormat.Exact (format : RecordFormat σ) : Prop := ∀ m ∈ format.members, m.update.Exact

theorem RecordFormat.mem_of_member? {key : String} {m : Member σ}
    (h : format.member? key = some m) : m ∈ format.members :=
  List.mem_of_find?_eq_some h

/-- What is read as a member is one, from behind the quote in front of its name. -/
theorem RecordFormat.Exact.exists_of_readMember (hformat : format.Exact) (hb : Blank b)
    (h : readMember format p s = .ok (q, r)) : ∃ (l : Label) (key : String) (b' v : List Char),
      Blank b' ∧ b ++ '"' :: s = l.text ++ (b' ++ (v ++ r)) ∧ l.key? = some key ∧
        Adds format p key v q := by
  unfold readMember at h
  split at h
  · cases h
  · rename_i key t hname
    unfold readNamed at h
    split at h
    · rename_i hunknown
      split at h
      · cases h
      · rename_i hcolon
        split at h
        · cases h
        · rename_i hskip
          obtain ⟨b', v, hb', hv, rfl⟩ := exists_of_skipValue hskip
          obtain ⟨l, hl, hkey⟩ := exists_label hb hname hcolon
          cases h
          exact ⟨l, key, b', v, hb', hl, hkey, .unknown hunknown hv⟩
    · rename_i m hknown
      split_ifs at h with hseen
      split at h
      · cases h
      · rename_i hvalue
        obtain ⟨u, hcolon, hrun⟩ := exists_of_readMemberValue hvalue
        have hexact := hformat m (mem_of_member? hknown)
        obtain ⟨b', v, hb', rfl, htakes⟩ := hexact.sound hrun
        obtain ⟨l, hl, hkey⟩ := exists_label hb hname hcolon
        cases h
        exact ⟨l, key, b', v, hb', hl, hkey, .known hknown (by simpa using hseen) htakes⟩

/-- A member is read, from behind the quote in front of its name to its last character. -/
theorem Adds.readMember_rest {m : MemberText} {key : String} (h : Adds format p key m.value.core q)
    (hkey : m.key? = some key) (hr : Ends r) :
    readMember format p (m.label.rest (m.value.text ++ r)) = .ok (q, m.value.after ++ r) := by
  have hends := ends_blank_append m.value.blank_after hr
  simp only [readMember, Label.readName_rest hkey, readNamed, Spaced.text, List.append_assoc]
  cases h with
  | unknown hunknown hv =>
    simp only [hunknown, Label.readColon_gap, hv.skipValue_append m.value.blank_before hends]
  | known hknown hseen htakes =>
    have hcontains : ¬ p.seen.contains key = true := by simpa using hseen
    simp only [hknown, if_neg hcontains, Label.readMemberValue_gap,
      htakes.run_eq m.value.blank_before hends]

theorem readMembers_of_closed {first : Bool} (h : nextMember first s = .ok (.closed r))
    (hmissing : format.missing? p.seen = none) :
    readMembers format p first s = .ok (p.value, r) := by
  rw [readMembers]
  split <;> simp_all

theorem readMembers_of_member {first : Bool} (h : nextMember first s = .ok (.member t))
    (hmember : readMember format p t = .ok (q, r)) :
    readMembers format p first s = readMembers format q false r := by
  rw [readMembers]
  split
  · simp_all
  · simp_all
  · rename_i h'
    cases h'.symm.trans h
    split <;> simp_all

/-- What is read behind a member of an object: more members, each behind a comma. -/
theorem RecordFormat.Exact.exists_of_readMembers (hformat : format.Exact) {first : Bool}
    (hfirst : first = false) (h : readMembers format p first s = .ok (a, r)) :
    ∃ (b : List Char) (ms : List MemberText) (q : Draft σ), Blank b ∧
      s = b ++ (continued (ms.map MemberText.text) ++ '}' :: r) ∧
      Fills format p (ms.map MemberText.content) q ∧ format.missing? q.seen = none ∧
        a = q.value := by
  fun_induction readMembers format p first s with
  | case1 => cases h
  | case2 => cases h
  | case3 p first s t hnext hmissing =>
    cases nameStep_of_nextMember hnext with
    | closed hb =>
      cases h
      exact ⟨_, [], p, hb, rfl, .done, hmissing, rfl⟩
  | case4 => cases h
  | case5 p first s t hnext p' u hmember ih =>
    subst hfirst
    obtain ⟨b₂, ms, q, hb₂, rfl, hfills, hmissing, rfl⟩ := ih rfl h
    cases nameStep_of_nextMember hnext with
    | @next b b' _ hb hb' =>
      obtain ⟨l, key, b₁, v, hb₁, hl, hkey, hadds⟩ := hformat.exists_of_readMember hb' hmember
      refine ⟨b, ⟨l, ⟨b₁, v, b₂, hb₁, hb₂⟩⟩ :: ms, q, hb, ?_, .member hkey hadds hfills, hmissing,
        rfl⟩
      rw [hl]
      simp [MemberText.text, Spaced.text]

/-- Members behind commas are read. -/
theorem Fills.readMembers_continued {ms : List MemberText}
    (h : Fills format p (ms.map MemberText.content) q) (hmissing : format.missing? q.seen = none)
    (hb : Blank b) (r : List Char) :
    readMembers format p false (b ++ (continued (ms.map MemberText.text) ++ '}' :: r)) =
      .ok (q.value, r) := by
  induction ms generalizing p b with
  | nil =>
    cases h with
    | done => exact readMembers_of_closed (nextMember_brace false hb r) hmissing
  | cons m ms ih =>
    obtain _ | ⟨hkey, hadds, hfills⟩ := h
    have hends := ends_continued (ms.map MemberText.text) (Ends.brace r)
    have hstep := readMembers_of_member (nextMember_comma hb m.label _)
      (hadds.readMember_rest hkey hends)
    rw [ih hfills m.value.blank_after] at hstep
    simpa [MemberText.text] using hstep

/-- The members of an object are read. -/
theorem Fills.readMembers_separated {ms : List MemberText}
    (h : Fills format p (ms.map MemberText.content) q) (hmissing : format.missing? q.seen = none)
    (r : List Char) :
    readMembers format p true (separated (ms.map MemberText.text) ++ '}' :: r) =
      .ok (q.value, r) := by
  cases ms with
  | nil =>
    cases h with
    | done => exact readMembers_of_closed (nextMember_brace true .nil r) hmissing
  | cons m ms =>
    obtain _ | ⟨hkey, hadds, hfills⟩ := h
    have hends := ends_continued (ms.map MemberText.text) (Ends.brace r)
    have hstep := readMembers_of_member (nextMember_label m.label _)
      (hadds.readMember_rest hkey hends)
    rw [hfills.readMembers_continued hmissing m.value.blank_after] at hstep
    simpa [separated_cons, MemberText.text] using hstep

theorem RecordFormat.Exact.exists_of_object (hformat : format.Exact)
    (h : readMembers format ⟨format.blank, []⟩ true s = .ok (a, r)) :
    ∃ v, '{' :: s = v ++ r ∧ RecordOf format v a := by
  rw [readMembers] at h
  split at h
  · cases h
  · rename_i hnext
    split at h
    · cases h
    · rename_i hmissing
      cases nameStep_of_nextMember hnext with
      | @closed _ b _ hb =>
        cases h
        exact ⟨'{' :: (b ++ ['}']), by simp, .emptyObject hb hmissing⟩
  · rename_i hnext
    split at h
    · cases h
    · rename_i hmember
      obtain ⟨b₂, ms, q, hb₂, rfl, hfills, hmissing, rfl⟩ := hformat.exists_of_readMembers rfl h
      cases nameStep_of_nextMember hnext with
      | head hb =>
        obtain ⟨l, key, b₁, v, hb₁, hl, hkey, hadds⟩ := hformat.exists_of_readMember hb hmember
        refine ⟨objectText (⟨l, ⟨b₁, v, b₂, hb₁, hb₂⟩⟩ :: ms), ?_,
          .object (.member hkey hadds hfills) hmissing⟩
        rw [objectText_cons, hl]
        simp [MemberText.text, Spaced.text]

/-! ### The form of an array -/

theorem firstNeeded?_eq_none_iff {i : ℕ} {members : List (Member σ)} :
    firstNeeded? i members = none ↔ ∀ m ∈ members, m.presence = .optional := by
  simp [firstNeeded?, List.findIdx?_eq_none_iff]

theorem exists_of_closeArray (h : closeArray s = .ok r) : ∃ b, Blank b ∧ s = b ++ ']' :: r := by
  unfold closeArray at h
  split at h
  · cases h
  · rename_i hs
    cases h
    exact exists_blank_of_skipBlanks hs
  · split at h <;> cases h
  · cases h

theorem closeArray_append (hb : Blank b) (r : List Char) : closeArray (b ++ ']' :: r) = .ok r := by
  rw [closeArray, skipBlanks_append_cons hb (by decide)]
  rfl

/-- What is read behind an element: more elements, each behind a comma and in its place. -/
theorem exists_of_readPositions {title : String} {count i : ℕ} {members : List (Member σ)}
    (hexact : ∀ m ∈ members, m.update.Exact) (hi : i ≠ 0)
    (h : readPositions title count i a members s = .ok (c, r)) :
    ∃ b es, Blank b ∧ s = b ++ (continued (es.map Spaced.text) ++ ']' :: r) ∧
      Places members a es c := by
  induction members generalizing i a s with
  | nil =>
    simp only [readPositions] at h
    split at h
    · cases h
    · rename_i hclose
      obtain ⟨b, hb, rfl⟩ := exists_of_closeArray hclose
      cases h
      exact ⟨b, [], hb, rfl, .done (List.forall_mem_nil _)⟩
  | cons m members ih =>
    obtain ⟨hm, hmembers⟩ := List.forall_mem_cons.mp hexact
    simp only [readPositions, beq_eq_false_iff_ne.mpr hi] at h
    split at h
    · cases h
    · rename_i hnext
      split at h
      · cases h
      · rename_i hneeded
        cases elementStep_of_nextElement hnext with
        | closed hb =>
          cases h
          exact ⟨_, [], hb, rfl, .done (firstNeeded?_eq_none_iff.mp hneeded)⟩
    · rename_i hnext
      split at h
      · cases h
      · rename_i hrun
        obtain ⟨b₁, v, hb₁, rfl, htakes⟩ := hm.sound hrun
        obtain ⟨b₂, es, hb₂, rfl, hplaces⟩ := ih hmembers (Nat.succ_ne_zero i) h
        cases elementStep_of_nextElement hnext with
        | @next b b' _ hb hb' =>
          refine ⟨b, ⟨b' ++ b₁, v, b₂, hb'.append hb₁, hb₂⟩ :: es, hb, ?_, .element htakes hplaces⟩
          simp [Spaced.text]

theorem readPositions_bracket {title : String} {count i : ℕ} {members : List (Member σ)}
    (hoptional : ∀ m ∈ members, m.presence = .optional) (hb : Blank b) (r : List Char) :
    readPositions title count i a members (b ++ ']' :: r) = .ok (a, r) := by
  cases members with
  | nil => simp [readPositions, closeArray_append hb]
  | cons m members =>
    simp [readPositions, nextElement_bracket _ hb, firstNeeded?_eq_none_iff.mpr hoptional]

/-- Elements behind commas are read. -/
theorem Places.readPositions_continued {title : String} {count i : ℕ}
    {members : List (Member σ)} {es : List Spaced} (h : Places members a es c) (hi : i ≠ 0)
    (hb : Blank b) (r : List Char) :
    readPositions title count i a members (b ++ (continued (es.map Spaced.text) ++ ']' :: r)) =
      .ok (c, r) := by
  induction h generalizing b i with
  | done hoptional => exact readPositions_bracket hoptional hb r
  | @element m members f e es a c htakes _ ih =>
    have hnext := nextElement_comma htakes.value hb e.blank_before
      (e.after ++ (continued (es.map Spaced.text) ++ ']' :: r))
    have hrun := htakes.run_eq .nil (e.ends_after (es.map Spaced.text) (Ends.bracket r))
    simp only [List.nil_append] at hrun
    simp only [List.map_cons, continued_cons, List.cons_append, Spaced.text, List.append_assoc,
      readPositions, beq_eq_false_iff_ne.mpr hi, hnext, hrun]
    exact ih (Nat.succ_ne_zero i) e.blank_after

/-- The elements of an array are read. -/
theorem Places.readPositions_separated {title : String} {count : ℕ} {members : List (Member σ)}
    {es : List Spaced} (h : Places members a es c) (r : List Char) :
    readPositions title count 0 a members (separated (es.map Spaced.text) ++ ']' :: r) =
      .ok (c, r) := by
  cases h with
  | done hoptional => exact readPositions_bracket hoptional .nil r
  | @element m members f e es _ _ htakes hplaces =>
    have hnext := nextElement_value htakes.value e.blank_before
      (e.after ++ (continued (es.map Spaced.text) ++ ']' :: r))
    have hrun := htakes.run_eq .nil (e.ends_after (es.map Spaced.text) (Ends.bracket r))
    simp only [List.nil_append] at hrun
    simp only [List.map_cons, separated_cons, Spaced.text, List.append_assoc, readPositions,
      beq_self_eq_true, hnext, hrun]
    exact hplaces.readPositions_continued (Nat.succ_ne_zero 0) e.blank_after r

theorem RecordFormat.Exact.exists_of_array (hformat : format.Exact) {title : String} {count : ℕ}
    (h : readPositions title count 0 format.blank format.members s = .ok (a, r)) :
    ∃ v, '[' :: s = v ++ r ∧ RecordOf format v a := by
  cases hmembers : format.members with
  | nil =>
    simp only [hmembers, readPositions] at h
    split at h
    · cases h
    · rename_i hclose
      obtain ⟨b, hb, rfl⟩ := exists_of_closeArray hclose
      cases h
      exact ⟨'[' :: (b ++ [']']), by simp, .emptyArray hb (by simp [hmembers])⟩
  | cons m members =>
    have hexact := hformat
    rw [Exact, hmembers, List.forall_mem_cons] at hexact
    simp only [hmembers, readPositions] at h
    split at h
    · cases h
    · rename_i hnext
      split at h
      · cases h
      · rename_i hneeded
        cases elementStep_of_nextElement hnext with
        | @closed _ b _ hb =>
          cases h
          rw [← hmembers] at hneeded
          exact ⟨'[' :: (b ++ [']']), by simp, .emptyArray hb (firstNeeded?_eq_none_iff.mp hneeded)⟩
    · rename_i hnext
      split at h
      · cases h
      · rename_i hrun
        obtain ⟨b₁, v, hb₁, rfl, htakes⟩ := hexact.1.sound hrun
        obtain ⟨b₂, es, hb₂, rfl, hplaces⟩ :=
          exists_of_readPositions hexact.2 (Nat.succ_ne_zero 0) h
        cases elementStep_of_nextElement hnext with
        | @head b _ hb =>
          refine ⟨arrayText (⟨b ++ b₁, v, b₂, hb.append hb₁, hb₂⟩ :: es), ?_, .array ?_⟩
          · rw [arrayText_cons]
            simp [Spaced.text]
          · rw [hmembers]
            exact .element htakes hplaces

/-! ### Both forms -/

/-- A record is read from the texts that hold one, and from no others. -/
theorem RecordFormat.Exact.specified_record {n : ℕ} {title : String}
    {format : (m : ℕ) → m < n + 1 → RecordFormat σ}
    (hformat : (format n (Nat.lt_succ_self n)).Exact) :
    (record title (n + 1) format).Specified (RecordOf (format n (Nat.lt_succ_self n))) where
  sound {s r a} h := by
    simp only [record] at h
    split at h
    · rename_i hs
      obtain ⟨b, hb, rfl⟩ := exists_blank_of_skipBlanks hs
      obtain ⟨v, hv, hof⟩ := hformat.exists_of_object h
      exact ⟨b, v, hb, by rw [hv], hof⟩
    · rename_i hs
      obtain ⟨b, hb, rfl⟩ := exists_blank_of_skipBlanks hs
      obtain ⟨v, hv, hof⟩ := hformat.exists_of_array h
      exact ⟨b, v, hb, by rw [hv], hof⟩
    · cases h
  complete {v a} h := by
    refine ⟨h.value, fun {b r} hb _ => ?_⟩
    generalize hf : format n (Nat.lt_succ_self n) = f at h
    have hobject : ∀ s, (record title (n + 1) format).run (b ++ '{' :: s) =
        readMembers f ⟨f.blank, []⟩ true s := by
      intro s
      simp only [record, skipBlanks_append_cons hb (show isBlank '{' = false by decide), hf]
    have harray : ∀ s, (record title (n + 1) format).run (b ++ '[' :: s) =
        readPositions title f.members.length 0 f.blank f.members s := by
      intro s
      simp only [record, skipBlanks_append_cons hb (show isBlank '[' = false by decide), hf]
    cases h with
    | emptyObject hb' hmissing =>
      rw [List.cons_append, hobject, List.append_assoc]
      exact readMembers_of_closed (nextMember_brace true hb' r) hmissing
    | object hfills hmissing =>
      rw [objectText, List.append_assoc, List.cons_append, hobject]
      exact hfills.readMembers_separated hmissing r
    | emptyArray hb' hoptional =>
      rw [List.cons_append, harray, List.append_assoc]
      exact readPositions_bracket hoptional hb' r
    | array hplaces =>
      rw [arrayText, writeArray, List.append_assoc, List.cons_append, harray]
      exact hplaces.readPositions_separated r

/-- How many arrays and objects may be opened matters to a record through its members alone. -/
theorem record_congr {n m : ℕ} (title : String) {format : (k : ℕ) → k < n + 1 → RecordFormat σ}
    {format' : (k : ℕ) → k < m + 1 → RecordFormat σ}
    (h : format n (Nat.lt_succ_self n) = format' m (Nat.lt_succ_self m)) :
    record title (n + 1) format = record title (m + 1) format' := by
  simp only [record, h]

theorem record_zero_run_ne_ok {title : String} {format : (n : ℕ) → n < 0 → RecordFormat σ}
    {p : σ × List Char} : (record title 0 format).run s ≠ .ok p := by
  intro h
  simp only [record] at h
  split at h <;> cases h

/-- A record of members that are read exactly is read exactly. -/
theorem RecordFormat.exact_record {opens : ℕ} {title : String}
    {format : (n : ℕ) → n < opens → RecordFormat σ} (hformat : ∀ n h, (format n h).Exact) :
    (record title opens format).Exact := by
  cases opens with
  | zero => exact ⟨fun h => absurd h record_zero_run_ne_ok, id⟩
  | succ n => exact (hformat n (Nat.lt_succ_self n)).specified_record.exact

end MusicLibrary.Json
