import MusicLibrary.Proofs.Json.Members

/-!
# Records around a member

A record is written around the values of its members. If the value of one member is left out, a frame
stays (`Frame`), which other values can be put into, and every text that gives the member a value is
such a frame with this value in it (`exists_frame_of_gives`). If a frame with some value in it is
read, it is read with another value as well as long as the reader of the member takes that value, and
the records differ in nothing else (`Frame.readAll_iff`).
-/

namespace MusicLibrary.Json

variable {σ β : Type} {format : RecordFormat σ} {name : String} {x : Reader β}
variable {a c : σ} {s v w : List Char}

/-! ### Frames -/

/-- White space around a value that is left out. -/
structure Gap where
  /-- The white space in front. -/
  before : List Char
  /-- The white space behind. -/
  after : List Char
  /-- What is in front is white space. -/
  blank_before : Blank before
  /-- What is behind is white space. -/
  blank_after : Blank after

/-- The value in its place. -/
def Gap.fill (g : Gap) (v : List Char) : Spaced :=
  ⟨g.before, v, g.after, g.blank_before, g.blank_after⟩

/-- No white space. -/
def Gap.tight : Gap := ⟨[], [], .nil, .nil⟩

/-- A record without the value of its member `name`. -/
inductive Shell (format : RecordFormat σ) (name : String) where
  /-- An object, in which the member has a label. -/
  | object (front : List MemberText) (label : Label) (gap : Gap) (back : List MemberText)
      (named : label.key? = some name) (values : ∀ m ∈ front ++ back, Value m.value.core)
  /-- An array, in which the member has a place. -/
  | array (front : List Spaced) (gap : Gap) (back : List Spaced)
      (placed : (format.members.map Member.name)[front.length]? = some name)
      (values : ∀ e ∈ front ++ back, Value e.core)

/-- The record with a value for the member. -/
def Shell.fill : Shell format name → List Char → List Char
  | object front label gap back _ _, v => objectText (front ++ ⟨label, gap.fill v⟩ :: back)
  | array front gap back _ _, v => arrayText (front ++ gap.fill v :: back)

/-- The text of a record without the value of its member `name`. -/
structure Frame (format : RecordFormat σ) (name : String) where
  /-- The white space around the record. -/
  around : Gap
  /-- The record. -/
  shell : Shell format name

/-- The text with a value for the member. -/
def Frame.fill (F : Frame format name) (v : List Char) : Spaced := F.around.fill (F.shell.fill v)

/-- The text with a value for the member, as a string. -/
def Frame.text (F : Frame format name) (v : List Char) : String := String.ofList (F.fill v).text

/-! ### What a frame tells -/

theorem forall_mem_middle {α : Type} {P : α → Prop} {front back : List α} {e : α}
    (h : ∀ m ∈ front ++ back, P m) (he : P e) : ∀ m ∈ front ++ e :: back, P m := by
  rw [List.forall_mem_append] at h ⊢
  exact ⟨h.1, List.forall_mem_cons.mpr ⟨he, h.2⟩⟩

/-- A list around the element in a given place. -/
theorem exists_split_at {α : Type} {l : List α} {i : ℕ} (hi : i < l.length) :
    ∃ front back, l = front ++ l[i] :: back ∧ front.length = i :=
  ⟨l.take i, l.drop (i + 1), by rw [List.getElem_cons_drop, List.take_append_drop],
    by rw [List.length_take, Nat.min_eq_left hi.le]⟩

theorem RecordFormat.exists_split {i : ℕ}
    (h : (format.members.map Member.name)[i]? = some name) :
    ∃ front m back, format.members = front ++ m :: back ∧ front.length = i ∧ m.name = name := by
  rw [List.getElem?_map, Option.map_eq_some_iff] at h
  obtain ⟨m, hm, hname⟩ := h
  obtain ⟨hi, rfl⟩ := List.getElem?_eq_some_iff.mp hm
  obtain ⟨front, back, hsplit, hlength⟩ := exists_split_at hi
  exact ⟨front, _, back, hsplit, hlength, hname⟩

/-- A frame tells the value that is put into it, and of the other members always the same. -/
theorem Shell.exists_told (F : Shell format name) :
    ∃ cs cs', ∀ v, Value v → Told format (F.fill v) (cs ++ (some name, v) :: cs') := by
  cases F with
  | object front label gap back named values =>
    refine ⟨front.map MemberText.content, back.map MemberText.content, fun v hv => ?_⟩
    have htold : Told format (objectText (front ++ ⟨label, gap.fill v⟩ :: back)) _ :=
      .object (forall_mem_middle values hv)
    rw [List.map_append, List.map_cons, MemberText.content, MemberText.key?, named] at htold
    exact htold
  | array front gap back placed values =>
    obtain ⟨ms, m, ms', hmembers, hlength, rfl⟩ := RecordFormat.exists_split placed
    refine ⟨ms.zipWith (fun m e => (some m.name, e.core)) front,
      ms'.zipWith (fun m e => (some m.name, e.core)) back, fun v hv => ?_⟩
    have htold : Told format (arrayText (front ++ gap.fill v :: back)) _ :=
      .array (forall_mem_middle values hv)
    rw [hmembers, List.zipWith_append hlength, List.zipWith_cons_cons] at htold
    exact htold

theorem Shell.value_fill (F : Shell format name) (hv : Value v) : Value (F.fill v) := by
  obtain ⟨cs, cs', htold⟩ := F.exists_told
  exact (htold v hv).value

theorem Frame.gives (F : Frame format name) (hv : Value v) : Gives format (F.fill v).text name v := by
  obtain ⟨cs, cs', htold⟩ := F.shell.exists_told
  exact ⟨F.fill v, _, rfl, htold v hv, by simp⟩

/-- A text that gives a member a value is a frame with this value in it. -/
theorem exists_frame_of_gives (h : Gives format s name v) :
    ∃ F : Frame format name, s = (F.fill v).text := by
  obtain ⟨p, cs, rfl, htold, hmem⟩ := h
  obtain ⟨F, hF⟩ : ∃ F : Shell format name, p.core = F.fill v := by
    generalize p.core = t at htold
    cases htold with
    | emptyObject _ => cases hmem
    | emptyArray _ => cases hmem
    | @object ms hms =>
      obtain ⟨m, hm, hcontent⟩ := List.mem_map.mp hmem
      obtain ⟨hkey, rfl⟩ := Prod.mk.inj hcontent
      obtain ⟨front, back, rfl⟩ := List.append_of_mem hm
      have hrest : front ++ back ⊆ front ++ m :: back :=
        ((List.sublist_cons_self m back).append_left front).subset
      exact ⟨.object front m.label ⟨_, _, m.value.blank_before, m.value.blank_after⟩ back hkey
        fun m' hm' => hms m' (hrest hm'), rfl⟩
    | @array es hes =>
      obtain ⟨i, hi, hcontent⟩ := List.mem_iff_getElem.mp hmem
      rw [List.getElem_zipWith] at hcontent
      obtain ⟨hkey, rfl⟩ := Prod.mk.inj hcontent
      rw [List.length_zipWith, Nat.lt_min] at hi
      obtain ⟨front, back, hsplit, hlength⟩ := exists_split_at hi.2
      generalize es[i] = e at hsplit ⊢
      subst hsplit
      have hrest : front ++ back ⊆ front ++ e :: back :=
        ((List.sublist_cons_self e back).append_left front).subset
      refine ⟨.array front ⟨_, _, e.blank_before, e.blank_after⟩ back ?_
        fun e' he' => hes e' (hrest he'), rfl⟩
      rw [hlength, List.getElem?_map, List.getElem?_eq_getElem hi.1]
      exact hkey
  exact ⟨⟨⟨_, _, p.blank_before, p.blank_after⟩, F⟩, by rw [Frame.fill, ← hF]; rfl⟩

/-! ### Putting another value into a frame -/

theorem recordOf_arrayText_iff {es : List Spaced} (hes : ∀ e ∈ es, Value e.core) :
    RecordOf format (arrayText es) a ↔ Places format.members format.blank es a := by
  refine ⟨fun h => ?_, .array⟩
  generalize hv : arrayText es = v at h
  cases h with
  | emptyObject _ _ => cases hv
  | object _ _ => cases hv
  | emptyArray hb hoptional =>
    cases es with
    | nil => exact .done hoptional
    | cons e es => exact absurd hv (arrayText_cons_ne (List.forall_mem_cons.mp hes).1 hb)
  | array hplaces =>
    rw [arrayText_unique hes hplaces.values hv]
    exact hplaces

/-- Storing something else for a member can wait until the members behind it are read. -/
theorem Places.apply {m : Member σ} {f : σ → σ} {members : List (Member σ)} {es : List Spaced}
    (hf : m.update.Takes v f) (hcomm : ∀ m' ∈ members, m'.Commute m)
    (h : Places members a es c) : Places members (f a) es (f c) := by
  induction h with
  | done hoptional => exact .done hoptional
  | @element m' members f' e es a c htakes _ ih =>
    obtain ⟨hm', hmembers⟩ := List.forall_mem_cons.mp hcomm
    have hplaces := ih hmembers
    rw [← hm' htakes hf] at hplaces
    exact .element htakes hplaces

/-- What another element says is stored in place of what the first one says. -/
theorem Places.replace {m : Member σ} {f : σ → σ} {members members' : List (Member σ)}
    {front back : List Spaced} {e e' : Spaced} (hf : m.update.Takes e'.core f)
    (hover : ∀ ⦃v f'⦄, m.update.Takes v f' → ∀ a, f (f' a) = f a)
    (hcomm : ∀ m' ∈ members', m'.Commute m) (hlength : members.length = front.length)
    (h : Places (members ++ m :: members') a (front ++ e :: back) c) :
    Places (members ++ m :: members') a (front ++ e' :: back) (f c) := by
  induction members generalizing front a with
  | nil =>
    obtain rfl := List.length_eq_zero_iff.mp hlength.symm
    obtain _ | ⟨htakes, hplaces⟩ := h
    have hrest := hplaces.apply hf hcomm
    rw [hover htakes] at hrest
    exact .element hf hrest
  | cons m' members ih =>
    cases front with
    | nil => cases hlength
    | cons d front =>
      obtain _ | ⟨htakes, hplaces⟩ := h
      exact .element htakes (ih (Nat.succ.inj hlength) hplaces)

/-- The member `name` alone stores what the reader takes its value for, in the aspect `π` of the
record and in place of what was stored there, and no matter when. -/
structure RecordFormat.Stores (format : RecordFormat σ) (name : String) (x : Reader β)
    (put : β → σ → σ) (π : σ → β) : Prop where
  /-- No two members have the same name. -/
  distinct : format.Distinct
  /-- The order of the members does not matter. -/
  commutes : format.Commutes
  /-- The reader is exact. -/
  exact_reader : x.Exact
  /-- There is such a member. -/
  member : ∃ presence, format.member? name = some (.of name presence x put)
  /-- What is stored is stored in place of all else. -/
  put_put : ∀ b b' a, put b (put b' a) = put b a
  /-- It sets the aspect. -/
  sets : format.Sets name x π

variable {put : β → σ → σ} {π : σ → β} {b : β}

/-- Where an object is given another value for a member, that value is stored. -/
theorem RecordFormat.Stores.recordOf_objectText (hstores : format.Stores name x put π)
    {front back : List MemberText} {label : Label} {gap : Gap} (named : label.key? = some name)
    (values : ∀ m ∈ front ++ back, Value m.value.core) (hw : Value w)
    (h : RecordOf format (objectText (front ++ ⟨label, gap.fill w⟩ :: back)) a)
    (hb : x.Takes v b) :
    RecordOf format (objectText (front ++ ⟨label, gap.fill v⟩ :: back)) (put b a) := by
  obtain ⟨presence, hmember⟩ := hstores.member
  have hcontent : ∀ v, ((front ++ ⟨label, gap.fill v⟩ :: back).map MemberText.content) =
      front.map MemberText.content ++ (some name, v) :: back.map MemberText.content := by
    intro v
    rw [List.map_append, List.map_cons, MemberText.content, MemberText.key?, named]
    rfl
  obtain ⟨q, hfills, hmissing, rfl⟩ :=
    (recordOf_objectText_iff (forall_mem_middle values hw)).mp h
  rw [hcontent] at hfills
  obtain ⟨q', hfills', hq'⟩ := hfills.replace hstores.commutes hstores.exact_reader hmember
    hstores.put_put hb
  rw [← hcontent] at hfills'
  exact (recordOf_objectText_iff (forall_mem_middle values hb.value)).mpr
    ⟨q', hfills', hq'.missing?_eq ▸ hmissing, hq'.value⟩

/-- Where an array is given another element in the place of a member, that element is stored. -/
theorem RecordFormat.Stores.recordOf_arrayText (hstores : format.Stores name x put π)
    {front back : List Spaced} {gap : Gap}
    (placed : (format.members.map Member.name)[front.length]? = some name)
    (values : ∀ e ∈ front ++ back, Value e.core) (hw : Value w)
    (h : RecordOf format (arrayText (front ++ gap.fill w :: back)) a) (hb : x.Takes v b) :
    RecordOf format (arrayText (front ++ gap.fill v :: back)) (put b a) := by
  obtain ⟨presence, hmember⟩ := hstores.member
  obtain ⟨ms, m, ms', hmembers, hlength, hname⟩ := RecordFormat.exists_split placed
  have hm : m ∈ format.members := by simp [hmembers]
  have hknown := hstores.distinct.member?_name hm
  rw [hname, hmember] at hknown
  obtain rfl := Option.some.inj hknown
  have htakes : (Member.of name presence x put).update.Takes v (put b) :=
    (Member.takes_of_iff hstores.exact_reader).mpr ⟨b, hb, rfl⟩
  have hover : ∀ ⦃v f⦄, (Member.of name presence x put).update.Takes v f →
      ∀ a, put b (f a) = put b a := by
    intro v f hf a
    obtain ⟨b', rfl⟩ := Member.exists_of_takes hf
    exact hstores.put_put b b' a
  -- the members behind the place have other names
  have hcomm : ∀ m' ∈ ms', m'.Commute (Member.of name presence x put) := by
    intro m' hm'
    refine hstores.commutes (by simp [hmembers, hm']) hm fun heq => ?_
    have hdistinct := hstores.distinct
    rw [RecordFormat.Distinct, hmembers, List.map_append, List.map_cons] at hdistinct
    refine (List.nodup_cons.mp (List.nodup_append.mp hdistinct).2.1).1 ?_
    rw [← heq]
    exact List.mem_map_of_mem hm'
  have hplaces := (recordOf_arrayText_iff (forall_mem_middle values hw)).mp h
  rw [hmembers] at hplaces
  refine .array ?_
  rw [hmembers]
  exact hplaces.replace htakes hover hcomm hlength

/-- Where a record is given another value for a member, that value is stored. -/
theorem Shell.recordOf_fill (hstores : format.Stores name x put π) (F : Shell format name)
    (hw : Value w) (h : RecordOf format (F.fill w) a) (hb : x.Takes v b) :
    RecordOf format (F.fill v) (put b a) := by
  cases F with
  | object front label gap back named values =>
    exact hstores.recordOf_objectText named values hw h hb
  | array front gap back placed values => exact hstores.recordOf_arrayText placed values hw h hb

/-- Another value for a member is read as it would be on its own, and nothing else changes. -/
theorem Frame.readAll_iff {y : Reader σ} (hstores : format.Stores name x put π)
    (hy : y.Specified (RecordOf format)) (F : Frame format name) (hw : Value w)
    (h : y.readAll (F.fill w).text = .ok a) (hv : Value v) :
    y.readAll (F.fill v).text = .ok c ↔ ∃ b, x.Takes v b ∧ c = put b a := by
  have hread : ∀ {v c}, Value v →
      (y.readAll (F.fill v).text = .ok c ↔ RecordOf format (F.shell.fill v) c) := by
    intro v c hv
    rw [hy.exact.readAll_text_iff (F.shell.value_fill hv)]
    exact hy.takes_iff
  have ha := (hread hw).mp h
  constructor
  · intro hc
    have hb := ((hread hv).mp hc).takes_of_gives (p := F.fill v) hstores.distinct hstores.sets
      (F.gives hv)
    have hput := (hread hv).mpr (F.shell.recordOf_fill hstores hw ha hb)
    exact ⟨π c, hb, Except.ok.inj (hc.symm.trans hput)⟩
  · rintro ⟨b, hb, rfl⟩
    exact (hread hv).mpr (F.shell.recordOf_fill hstores hw ha hb)

end MusicLibrary.Json
