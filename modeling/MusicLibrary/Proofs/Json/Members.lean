import MusicLibrary.Proofs.Json.Record

/-!
# What the members of a record come to

In either form a record is told member by member (`Told`): what its text says of each member, and of
which members it says anything, determines the record. Members that set different aspects of a
record may be told in any order (`Fills.perm`), unknown members change nothing
(`Fills.append_unknown`), a known member is told once at most (`Fills.count_le_one`), and an aspect
that one member alone sets is what this member says (`Fills.takes_of_mem`, `Fills.eq_of_not_mem`).
-/

namespace MusicLibrary.Json

variable {σ β : Type} {format : RecordFormat σ} {p p' q q' : Draft σ} {a c : σ}
variable {cs cs' : List (Option String × List Char)} {key key' : String} {v v' : List Char}

theorem RecordFormat.name_of_member? {m : Member σ} (h : format.member? key = some m) :
    m.name = key := by
  simpa using List.find?_some h

theorem RecordFormat.member?_eq_none_iff :
    format.member? key = none ↔ key ∉ format.members.map Member.name := by
  simp [member?]

theorem Fills.exists_key (h : Fills format p cs q) : ∀ c ∈ cs, ∃ key, c.1 = some key := by
  induction h with
  | done => nofun
  | member hkey _ _ ih => exact List.forall_mem_cons.mpr ⟨⟨_, hkey⟩, ih⟩

/-- No two members have the same name. -/
def RecordFormat.Distinct (format : RecordFormat σ) : Prop := (format.members.map Member.name).Nodup

theorem find?_name_eq_some {members : List (Member σ)} (h : (members.map Member.name).Nodup)
    {m : Member σ} (hm : m ∈ members) : members.find? (·.name == m.name) = some m := by
  induction members with
  | nil => cases hm
  | cons m' members ih =>
    obtain ⟨hm', hdistinct⟩ := List.nodup_cons.mp h
    rcases List.mem_cons.mp hm with rfl | hm
    · exact List.find?_cons_of_pos (by simp)
    · have hne : m'.name ≠ m.name := fun heq => hm' (heq ▸ List.mem_map_of_mem hm)
      rw [List.find?_cons_of_neg (by simpa using hne)]
      exact ih hdistinct hm

theorem RecordFormat.Distinct.member?_name (h : format.Distinct) {m : Member σ}
    (hm : m ∈ format.members) : format.member? m.name = some m :=
  find?_name_eq_some h hm

/-! ### Order -/

/-- Two drafts of one record that have been given the same members. -/
structure Draft.Similar (p q : Draft σ) : Prop where
  /-- The values are equal. -/
  value : p.value = q.value
  /-- The names are the same. -/
  seen : p.seen.Perm q.seen

theorem Draft.Similar.refl (p : Draft σ) : p.Similar p := ⟨rfl, .refl _⟩

theorem Draft.Similar.trans {r : Draft σ} (h : p.Similar q) (h' : q.Similar r) : p.Similar r :=
  ⟨h.value.trans h'.value, h.seen.trans h'.seen⟩

theorem Draft.Similar.missing?_eq (h : p.Similar q) :
    format.missing? p.seen = format.missing? q.seen := by
  have hcontains : ∀ name, p.seen.contains name = q.seen.contains name := fun name => by
    rw [Bool.eq_iff_iff, List.contains_iff_mem, List.contains_iff_mem]
    exact h.seen.mem_iff
  simp only [RecordFormat.missing?, hcontains]

theorem Adds.similar (h : Adds format p key v q) (hp : p.Similar p') :
    ∃ q', Adds format p' key v q' ∧ q.Similar q' := by
  cases h with
  | unknown hunknown hv => exact ⟨p', .unknown hunknown hv, hp⟩
  | @known m f hknown hseen htakes =>
    refine ⟨⟨f p'.value, key :: p'.seen⟩, .known hknown ?_ htakes, ?_, hp.seen.cons key⟩
    · rwa [← hp.seen.mem_iff]
    · exact congrArg f hp.value

theorem Fills.similar (h : Fills format p cs q) (hp : p.Similar p') :
    ∃ q', Fills format p' cs q' ∧ q.Similar q' := by
  induction h generalizing p' with
  | done => exact ⟨p', .done, hp⟩
  | member hkey hadds _ ih =>
    obtain ⟨p₁, hadds', hp₁⟩ := hadds.similar hp
    obtain ⟨q', hfills, hq⟩ := ih hp₁
    exact ⟨q', .member hkey hadds' hfills, hq⟩

/-- What two members do to a record can be done in either order. -/
def Member.Commute (m m' : Member σ) : Prop :=
  ∀ ⦃v f v' f'⦄, m.update.Takes v f → m'.update.Takes v' f' → ∀ a, f (f' a) = f' (f a)

/-- What members of different names do can be done in either order. -/
def RecordFormat.Commutes (format : RecordFormat σ) : Prop :=
  ∀ ⦃m⦄, m ∈ format.members → ∀ ⦃m'⦄, m' ∈ format.members → m.name ≠ m'.name → m.Commute m'

theorem Member.exists_of_takes {name : String} {presence : Presence} {x : Reader β}
    {put : β → σ → σ} {f : σ → σ} (h : (Member.of name presence x put).update.Takes v f) :
    ∃ b, f = put b := by
  have hrun : (x.map put).run ([] ++ (v ++ [])) = .ok (f, []) := h.run_eq .nil .nil
  simp only [Reader.map] at hrun
  split at hrun
  · cases hrun
  · cases hrun
    exact ⟨_, rfl⟩

theorem Member.commute_of {γ : Type} {name name' : String} {presence presence' : Presence}
    {x : Reader β} {y : Reader γ} {put : β → σ → σ} {put' : γ → σ → σ}
    (h : ∀ b b' a, put b (put' b' a) = put' b' (put b a)) :
    (Member.of name presence x put).Commute (Member.of name' presence' y put') := by
  intro v f v' f' htakes htakes' a
  obtain ⟨b, rfl⟩ := exists_of_takes htakes
  obtain ⟨b', rfl⟩ := exists_of_takes htakes'
  exact h b b' a

theorem RecordFormat.commutes_of_pairwise (h : format.members.Pairwise Member.Commute) :
    format.Commutes := by
  have hsymm : Std.Symm (@Member.Commute σ) := ⟨fun _ _ h _ _ _ _ htakes htakes' a =>
    (h htakes' htakes a).symm⟩
  intro m hm m' hm' hne
  exact h.forall hm hm' fun heq => hne (congrArg Member.name heq)

theorem Adds.swap (hcomm : format.Commutes) (h : Adds format p key v q)
    (h' : Adds format q key' v' q') :
    ∃ p₁ p₂, Adds format p key' v' p₁ ∧ Adds format p₁ key v p₂ ∧ q'.Similar p₂ := by
  cases h with
  | unknown hunknown hv => exact ⟨q', q', h', .unknown hunknown hv, .refl q'⟩
  | @known m f hknown hseen htakes =>
    cases h' with
    | unknown hunknown' hv' =>
      exact ⟨p, _, .unknown hunknown' hv', .known hknown hseen htakes, .refl _⟩
    | @known m' f' hknown' hseen' htakes' =>
      have hne : key' ≠ key := List.ne_of_not_mem_cons hseen'
      have hseen' : key' ∉ p.seen := List.not_mem_of_not_mem_cons hseen'
      have hmem : key ∉ key' :: p.seen := List.not_mem_cons_of_ne_of_not_mem hne.symm hseen
      refine ⟨_, _, .known hknown' hseen' htakes', .known hknown hmem htakes, ?_, .swap _ _ _⟩
      refine hcomm (RecordFormat.mem_of_member? hknown') (RecordFormat.mem_of_member? hknown) ?_
        htakes' htakes p.value
      rw [RecordFormat.name_of_member? hknown, RecordFormat.name_of_member? hknown']
      exact hne

/-- Members may be told in any order. -/
theorem Fills.perm (hcomm : format.Commutes) (hperm : cs.Perm cs') (h : Fills format p cs q) :
    ∃ q', Fills format p cs' q' ∧ q.Similar q' := by
  -- the names are noted in another order, so what is carried along is a similar draft
  induction hperm generalizing p q with
  | nil => exact ⟨q, h, .refl q⟩
  | cons c _ ih =>
    obtain _ | ⟨hkey, hadds, hfills⟩ := h
    obtain ⟨q', hfills', hq⟩ := ih hfills
    exact ⟨q', .member hkey hadds hfills', hq⟩
  | swap c c' cs =>
    obtain _ | ⟨hkey, hadds, _ | ⟨hkey', hadds', hfills⟩⟩ := h
    obtain ⟨p₁, p₂, h₁, h₂, hp₂⟩ := hadds.swap hcomm hadds'
    obtain ⟨q', hfills', hq⟩ := hfills.similar hp₂
    exact ⟨q', .member hkey' h₁ (.member hkey h₂ hfills'), hq⟩
  | trans _ _ ih ih' =>
    obtain ⟨q₁, h₁, hq₁⟩ := ih h
    obtain ⟨q₂, h₂, hq₂⟩ := ih' h₁
    exact ⟨q₂, h₂, hq₁.trans hq₂⟩

/-! ### Unknown and repeated members -/

/-- Something well formed is said under a name that the record has no member of. -/
def RecordFormat.Ignores (format : RecordFormat σ) (c : Option String × List Char) : Prop :=
  (∃ key, c.1 = some key ∧ format.member? key = none) ∧ Value c.2

/-- Unknown members change nothing. -/
theorem Fills.append_unknown {extra : List (Option String × List Char)} (h : Fills format p cs q)
    (hextra : ∀ c ∈ extra, format.Ignores c) : Fills format p (extra ++ cs) q := by
  induction extra with
  | nil => exact h
  | cons c extra ih =>
    obtain ⟨⟨⟨key, hkey, hunknown⟩, hv⟩, hextra⟩ := List.forall_mem_cons.mp hextra
    exact .member hkey (.unknown hunknown hv) (ih hextra)

theorem Adds.seen_subset (h : Adds format p key v q) : p.seen ⊆ q.seen := by
  cases h with
  | unknown => exact fun _ hk => hk
  | known => exact List.subset_cons_self _ _

/-- A known member that has been given is not given again. -/
theorem Fills.count_eq_zero (h : Fills format p cs q) (hknown : (format.member? key).isSome)
    (hseen : key ∈ p.seen) : (cs.map Prod.fst).count (some key) = 0 := by
  induction h with
  | done => rfl
  | @member p q q' c key' cs hkey hadds _ ih =>
    have hne : key' ≠ key := by
      rintro rfl
      cases hadds with
      | unknown hunknown => simp [hunknown] at hknown
      | known _ hnot => exact hnot hseen
    rw [List.map_cons, hkey, List.count_cons_of_ne (by simpa using hne),
      ih (hadds.seen_subset hseen)]

/-- A known member is given once at most. -/
theorem Fills.count_le_one (h : Fills format p cs q) (hknown : (format.member? key).isSome) :
    (cs.map Prod.fst).count (some key) ≤ 1 := by
  induction h with
  | done => exact Nat.zero_le 1
  | @member p q q' c key' cs hkey hadds hfills ih =>
    rw [List.map_cons, hkey]
    by_cases hkeys : key' = key
    · subst hkeys
      cases hadds with
      | unknown hunknown => simp [hunknown] at hknown
      | known =>
        rw [List.count_cons_self, hfills.count_eq_zero hknown List.mem_cons_self]
    · rw [List.count_cons_of_ne (by simpa using hkeys)]
      exact ih

/-- An object that is given by its members is read as what they make of a blank record. -/
theorem recordOf_objectText_iff {ms : List MemberText} (hms : ∀ m ∈ ms, Value m.value.core) :
    RecordOf format (objectText ms) a ↔ ∃ q,
      Fills format ⟨format.blank, []⟩ (ms.map MemberText.content) q ∧
        format.missing? q.seen = none ∧ q.value = a := by
  refine ⟨fun h => ?_, fun ⟨q, hfills, hmissing, hq⟩ => hq ▸ .object hfills hmissing⟩
  generalize hv : objectText ms = v at h
  cases h with
  | emptyObject hb hmissing =>
    cases ms with
    | nil => exact ⟨_, .done, hmissing, rfl⟩
    | cons m ms => exact absurd hv (objectText_cons_ne hb)
  | @object ms' q hfills hmissing =>
    have hms' : ∀ m ∈ ms', Value m.value.core := fun m hm =>
      hfills.values _ (List.mem_map_of_mem hm)
    rw [objectText_unique hms hms' hv]
    exact ⟨q, hfills, hmissing, rfl⟩
  | emptyArray _ _ => cases hv
  | array _ => cases hv

/-! ### Aspects -/

/-- The member `name` alone sets the aspect `π` of a record, to what the reader takes its value
for. -/
structure RecordFormat.Sets (format : RecordFormat σ) (name : String) (x : Reader β) (π : σ → β) :
    Prop where
  /-- There is such a member. -/
  known : (format.member? name).isSome
  /-- It sets the aspect. -/
  own : ∀ {m v f}, format.member? name = some m → m.update.Takes v f →
    ∃ b, x.Takes v b ∧ ∀ a, π (f a) = b
  /-- No other member does. -/
  other : ∀ {m v f}, m ∈ format.members → m.name ≠ name → m.update.Takes v f →
    ∀ a, π (f a) = π a

variable {name : String} {x : Reader β} {π : σ → β}

theorem Adds.eq_of_ne (hsets : format.Sets name x π) (h : Adds format p key v q)
    (hne : key ≠ name) : π q.value = π p.value := by
  cases h with
  | unknown => rfl
  | known hknown _ htakes =>
    refine hsets.other (RecordFormat.mem_of_member? hknown) ?_ htakes p.value
    rwa [RecordFormat.name_of_member? hknown]

/-- An aspect stays as it is if its member is not given. -/
theorem Fills.eq_of_not_mem (hsets : format.Sets name x π) (h : Fills format p cs q)
    (hcs : some name ∉ cs.map Prod.fst) : π q.value = π p.value := by
  induction h with
  | done => rfl
  | @member p q q' c key cs hkey hadds _ ih =>
    rw [List.map_cons, hkey, List.mem_cons, not_or] at hcs
    rw [ih hcs.2, hadds.eq_of_ne hsets fun heq => hcs.1 (congrArg some heq.symm)]

/-- An aspect is what its member says. -/
theorem Fills.takes_of_mem (hsets : format.Sets name x π) (h : Fills format p cs q)
    (hmem : (some name, v) ∈ cs) : x.Takes v (π q.value) := by
  induction h with
  | done => cases hmem
  | @member p q q' c key cs hkey hadds hfills ih =>
    rcases List.mem_cons.mp hmem with rfl | hmem
    · obtain rfl := Option.some.inj hkey
      cases hadds with
      | unknown hunknown => exact absurd hsets.known (by simp [hunknown])
      | known hknown hseen htakes =>
        obtain ⟨b, hb, hπ⟩ := hsets.own hknown htakes
        have hcount := hfills.count_eq_zero hsets.known List.mem_cons_self
        rw [hfills.eq_of_not_mem hsets (List.count_eq_zero.mp hcount), hπ]
        exact hb
    · exact ih hmem

/-- A member leaves an aspect of a record as it is. -/
def Member.Keeps (m : Member σ) (π : σ → β) : Prop :=
  ∀ ⦃v f⦄, m.update.Takes v f → ∀ a, π (f a) = π a

theorem Member.keeps_of {γ : Type} {presence : Presence} {y : Reader γ} {put : γ → σ → σ}
    (h : ∀ b a, π (put b a) = π a) : (Member.of name presence y put).Keeps π := by
  intro v f htakes a
  obtain ⟨b, rfl⟩ := exists_of_takes htakes
  exact h b a

theorem Member.takes_of_iff {presence : Presence} {put : β → σ → σ} {f : σ → σ} (hx : x.Exact) :
    (Member.of name presence x put).update.Takes v f ↔ ∃ b, x.Takes v b ∧ f = put b :=
  (hx.specified_map put).takes_iff

theorem Member.exact_of {presence : Presence} {put : β → σ → σ} (hx : x.Exact) :
    (Member.of name presence x put).update.Exact :=
  (hx.specified_map put).exact

/-- A member whose name the record knows is read and stored. -/
theorem Fills.cons_iff {presence : Presence} {put : β → σ → σ} (hx : x.Exact)
    (hmember : format.member? name = some (.of name presence x put)) :
    Fills format p ((some name, v) :: cs) q ↔
      name ∉ p.seen ∧ ∃ b, x.Takes v b ∧ Fills format ⟨put b p.value, name :: p.seen⟩ cs q := by
  constructor
  · rintro (_ | ⟨hkey, hadds, hfills⟩)
    obtain rfl := Option.some.inj hkey
    cases hadds with
    | unknown hunknown => cases hmember.symm.trans hunknown
    | known hknown hseen htakes =>
      obtain rfl := Option.some.inj (hmember.symm.trans hknown)
      obtain ⟨b, hb, rfl⟩ := (Member.takes_of_iff hx).mp htakes
      exact ⟨hseen, b, hb, hfills⟩
  · rintro ⟨hseen, b, hb, hfills⟩
    exact .member rfl (.known hmember hseen ((Member.takes_of_iff hx).mpr ⟨b, hb, rfl⟩)) hfills

/-- Storing something else for a member that has been given can wait until all members are read. -/
theorem Fills.put {presence : Presence} {put : β → σ → σ} {b : β} (hcomm : format.Commutes)
    (hx : x.Exact) (hmember : format.member? name = some (.of name presence x put))
    (hb : x.Takes v b) (h : Fills format p cs q) (hseen : name ∈ p.seen) :
    Fills format ⟨put b p.value, p.seen⟩ cs ⟨put b q.value, q.seen⟩ := by
  induction h with
  | done => exact .done
  | @member p q q' c key cs hkey hadds _ ih =>
    have hfills := ih (hadds.seen_subset hseen)
    cases hadds with
    | unknown hunknown hv => exact .member hkey (.unknown hunknown hv) hfills
    | @known m f hknown hnot htakes =>
      have hne : m.name ≠ name := by
        rw [RecordFormat.name_of_member? hknown]
        rintro rfl
        exact hnot hseen
      have hput : f (put b p.value) = put b (f p.value) :=
        hcomm (RecordFormat.mem_of_member? hknown) (RecordFormat.mem_of_member? hmember) hne htakes
          ((Member.takes_of_iff hx).mpr ⟨b, hb, rfl⟩) p.value
      rw [← hput] at hfills
      exact .member hkey (.known hknown hnot htakes) hfills

/-- Where a member is given another value, that value is stored in place of the first one. -/
theorem Fills.replace {presence : Presence} {put : β → σ → σ} {b : β} (hcomm : format.Commutes)
    (hx : x.Exact) (hmember : format.member? name = some (.of name presence x put))
    (hput : ∀ b b' a, put b (put b' a) = put b a) (hb : x.Takes v' b)
    (h : Fills format p (cs ++ (some name, v) :: cs') q) :
    ∃ q', Fills format p (cs ++ (some name, v') :: cs') q' ∧
      q'.Similar ⟨put b q.value, q.seen⟩ := by
  obtain ⟨q₁, hfront, hq₁⟩ := h.perm hcomm List.perm_middle
  obtain ⟨hseen, b', -, hrest⟩ := (Fills.cons_iff hx hmember).mp hfront
  have hrest' := hrest.put hcomm hx hmember hb List.mem_cons_self
  rw [hput] at hrest'
  have hfront' := (Fills.cons_iff hx hmember).mpr ⟨hseen, b, hb, hrest'⟩
  obtain ⟨q', hfills, hq'⟩ := hfront'.perm hcomm List.perm_middle.symm
  exact ⟨q', hfills, hq'.value.symm.trans (congrArg (put b) hq₁.value.symm),
    hq'.seen.symm.trans hq₁.seen.symm⟩

/-- A member that may be `null` is stored whether it is given or not. -/
theorem Fills.optional {presence : Presence} {put : Option β → σ → σ} {o : Option β}
    {write : β → List Char} (hx : (nullable x).Exact)
    (hmember : format.member? name = some (.of name presence (nullable x) put))
    (hseen : name ∉ p.seen) (hnone : put none p.value = p.value)
    (htakes : ∀ b ∈ o, (nullable x).Takes (write b) (some b))
    (h : Fills format ⟨put o p.value, (o.map fun _ => name).toList ++ p.seen⟩ cs q) :
    Fills format p (o.toList.map (fun b => (some name, write b)) ++ cs) q := by
  cases o with
  | none =>
    rw [hnone] at h
    exact h
  | some b => exact (Fills.cons_iff hx hmember).mpr ⟨hseen, some b, htakes b rfl, h⟩

theorem Fills.optional_last {presence : Presence} {put : Option β → σ → σ} {o : Option β}
    {write : β → List Char} (hx : (nullable x).Exact)
    (hmember : format.member? name = some (.of name presence (nullable x) put))
    (hseen : name ∉ p.seen) (hnone : put none p.value = p.value)
    (htakes : ∀ b ∈ o, (nullable x).Takes (write b) (some b))
    (hq : ⟨put o p.value, (o.map fun _ => name).toList ++ p.seen⟩ = q) :
    Fills format p (o.toList.map fun b => (some name, write b)) q := by
  have h := Fills.optional hx hmember hseen hnone htakes .done
  rwa [List.append_nil, hq] at h

theorem RecordFormat.missing?_eq_none_iff {seen : List String} : format.missing? seen = none ↔
    ∀ m ∈ format.members, m.presence = .required → m.name ∈ seen := by
  simp [missing?]

theorem Fills.nil_iff : Fills format p [] q ↔ q = p := by
  refine ⟨fun h => ?_, fun h => h ▸ .done⟩
  cases h
  rfl

/-- A member that stores its value where no other one does sets an aspect. -/
theorem RecordFormat.sets_of {presence : Presence} {put : β → σ → σ} (hx : x.Exact)
    (hmember : format.member? name = some (.of name presence x put))
    (hput : ∀ b a, π (put b a) = b)
    (hother : ∀ m ∈ format.members, m.name ≠ name → m.Keeps π) : format.Sets name x π where
  known := by rw [hmember]; rfl
  own hm htakes := by
    obtain rfl := Option.some.inj (hmember.symm.trans hm)
    obtain ⟨b, hb, rfl⟩ := (Member.takes_of_iff hx).mp htakes
    exact ⟨b, hb, hput b⟩
  other hm hne htakes := hother _ hm hne htakes

/-! ### What a text tells -/

/-- What the text of a record says of its members, in the order of the text. -/
inductive Told (format : RecordFormat σ) : List Char → List (Option String × List Char) → Prop where
  /-- An object that holds nothing but white space. -/
  | emptyObject {b : List Char} : Blank b → Told format ('{' :: (b ++ ['}'])) []
  /-- An object. -/
  | object {ms : List MemberText} : (∀ m ∈ ms, Value m.value.core) →
      Told format (objectText ms) (ms.map MemberText.content)
  /-- An array that holds nothing but white space. -/
  | emptyArray {b : List Char} : Blank b → Told format ('[' :: (b ++ [']'])) []
  /-- An array, its elements under the names of the members in their places. -/
  | array {es : List Spaced} : (∀ e ∈ es, Value e.core) →
      Told format (arrayText es)
        (format.members.zipWith (fun m e => (some m.name, e.core)) es)

theorem Told.of_objectText {ms : List MemberText} (hms : ∀ m ∈ ms, Value m.value.core)
    (h : Told format (objectText ms) cs) : cs = ms.map MemberText.content := by
  generalize hv : objectText ms = v at h
  cases h with
  | emptyObject hb =>
    cases ms with
    | nil => rfl
    | cons m ms => exact absurd hv (objectText_cons_ne hb)
  | object hms' => rw [objectText_unique hms hms' hv]
  | emptyArray _ => cases hv
  | array _ => cases hv

theorem Told.of_arrayText {es : List Spaced} (hes : ∀ e ∈ es, Value e.core)
    (h : Told format (arrayText es) cs) :
    cs = format.members.zipWith (fun m e => (some m.name, e.core)) es := by
  generalize hv : arrayText es = v at h
  cases h with
  | emptyObject _ => cases hv
  | object _ => cases hv
  | emptyArray hb =>
    cases es with
    | nil => exact List.zipWith_nil_right.symm
    | cons e es => exact absurd hv (arrayText_cons_ne (List.forall_mem_cons.mp hes).1 hb)
  | array hes' => rw [arrayText_unique hes hes' hv]

/-- A text tells one thing only. -/
theorem Told.unique (h : Told format v cs) (h' : Told format v cs') : cs = cs' := by
  cases h with
  | object hms => exact (h'.of_objectText hms).symm
  | array hes => exact (h'.of_arrayText hes).symm
  | @emptyObject b hb =>
    generalize hv : '{' :: (b ++ ['}']) = v at h'
    cases h' with
    | emptyObject => rfl
    | object hms =>
      have htold : Told format ('{' :: (b ++ ['}'])) [] := .emptyObject hb
      rw [hv] at htold
      exact htold.of_objectText hms
    | emptyArray => cases hv
    | array => cases hv
  | @emptyArray b hb =>
    generalize hv : '[' :: (b ++ [']']) = v at h'
    cases h' with
    | emptyObject => cases hv
    | object => cases hv
    | emptyArray => rfl
    | array hes =>
      have htold : Told format ('[' :: (b ++ [']'])) [] := .emptyArray hb
      rw [hv] at htold
      exact htold.of_arrayText hes

/-- What stands in an array stands in an object as well. -/
theorem Places.fills {members : List (Member σ)} {es : List Spaced} {seen : List String}
    (hmembers : ∀ m ∈ members, format.member? m.name = some m ∧ m.name ∉ seen)
    (hdistinct : (members.map Member.name).Nodup) (h : Places members a es c) :
    ∃ q, Fills format ⟨a, seen⟩ (members.zipWith (fun m e => (some m.name, e.core)) es) q ∧
      q.value = c := by
  induction h generalizing seen with
  | done =>
    rw [List.zipWith_nil_right]
    exact ⟨_, .done, rfl⟩
  | @element m members f e es a c htakes _ ih =>
    obtain ⟨⟨hknown, hseen⟩, hmembers⟩ := List.forall_mem_cons.mp hmembers
    obtain ⟨hm, hdistinct⟩ := List.nodup_cons.mp hdistinct
    have hmembers' : ∀ m' ∈ members,
        format.member? m'.name = some m' ∧ m'.name ∉ m.name :: seen := by
      intro m' hm'
      obtain ⟨hknown', hseen'⟩ := hmembers m' hm'
      refine ⟨hknown', List.not_mem_cons_of_ne_of_not_mem ?_ hseen'⟩
      intro heq
      exact hm (heq ▸ List.mem_map_of_mem hm')
    obtain ⟨q, hfills, hq⟩ := ih hmembers' hdistinct
    exact ⟨q, .member rfl (.known hknown hseen htakes) hfills, hq⟩

/-- Whatever form a record is read from, what its text tells makes the record. -/
theorem RecordOf.exists_fills (hdistinct : format.Distinct) (h : RecordOf format v a) :
    ∃ cs q, Told format v cs ∧ Fills format ⟨format.blank, []⟩ cs q ∧ q.value = a := by
  cases h with
  | emptyObject hb _ => exact ⟨_, _, .emptyObject hb, .done, rfl⟩
  | @object ms q hfills _ =>
    exact ⟨_, q, .object fun m hm => hfills.values _ (List.mem_map_of_mem hm), hfills, rfl⟩
  | emptyArray hb _ => exact ⟨_, _, .emptyArray hb, .done, rfl⟩
  | array hplaces =>
    have hmembers : ∀ m ∈ format.members, format.member? m.name = some m ∧ m.name ∉ [] :=
      fun m hm => ⟨hdistinct.member?_name hm, List.not_mem_nil⟩
    obtain ⟨q, hfills, hq⟩ := hplaces.fills hmembers hdistinct
    exact ⟨_, q, .array hplaces.values, hfills, hq⟩

/-- The text of a record gives the member `name` the value `v`. -/
def Gives (format : RecordFormat σ) (s : List Char) (name : String) (v : List Char) : Prop :=
  ∃ (p : Spaced) (cs : List (Option String × List Char)), s = p.text ∧ Told format p.core cs ∧
    (some name, v) ∈ cs

theorem Told.value (h : Told format v cs) : Value v := by
  cases h with
  | emptyObject hb => exact .emptyObject hb
  | object hms => exact .object hms
  | emptyArray hb => exact .emptyArray hb
  | array hes => exact .array hes

theorem gives_iff {p : Spaced} (h : Told format p.core cs) :
    Gives format p.text name v ↔ (some name, v) ∈ cs := by
  refine ⟨?_, fun hmem => ⟨p, cs, rfl, h, hmem⟩⟩
  rintro ⟨q, cs', hq, h', hmem⟩
  rw [← h.value.core_unique h'.value hq] at h'
  rwa [h.unique h']

/-- An aspect of a record is what the text gives its member. -/
theorem RecordOf.takes_of_gives (hdistinct : format.Distinct) (hsets : format.Sets name x π)
    {p : Spaced} (h : RecordOf format p.core a) (hgives : Gives format p.text name v) :
    x.Takes v (π a) := by
  obtain ⟨cs, q, htold, hfills, rfl⟩ := h.exists_fills hdistinct
  exact hfills.takes_of_mem hsets ((gives_iff htold).mp hgives)

/-- An aspect of a record is as in a blank record if the text gives its member nothing. -/
theorem RecordOf.eq_blank (hdistinct : format.Distinct) (hsets : format.Sets name x π)
    {p : Spaced} (h : RecordOf format p.core a) (hgives : ∀ v, ¬ Gives format p.text name v) :
    π a = π format.blank := by
  obtain ⟨cs, q, htold, hfills, rfl⟩ := h.exists_fills hdistinct
  refine hfills.eq_of_not_mem hsets fun hmem => ?_
  obtain ⟨⟨-, v⟩, hv, rfl⟩ := List.mem_map.mp hmem
  exact hgives v ((gives_iff htold).mpr hv)

/-- An aspect of a record that is read is what the reader of its member takes something for, or as
it is in a blank record. -/
theorem RecordOf.takes_or_blank (hdistinct : format.Distinct) (hsets : format.Sets name x π)
    (h : RecordOf format v a) : (∃ w, x.Takes w (π a)) ∨ π a = π format.blank := by
  obtain ⟨cs, q, -, hfills, rfl⟩ := h.exists_fills hdistinct
  by_cases hmem : some name ∈ cs.map Prod.fst
  · obtain ⟨⟨-, w⟩, hw, rfl⟩ := List.mem_map.mp hmem
    exact .inl ⟨w, hfills.takes_of_mem hsets hw⟩
  · exact .inr (hfills.eq_of_not_mem hsets hmem)

end MusicLibrary.Json
