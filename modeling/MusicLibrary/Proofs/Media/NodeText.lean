import MusicLibrary.Media.Node
import MusicLibrary.Proofs.Json.Nesting

/-!
# Nodes, written and read back

A node is decoded from its text if and only if the text opens fewer than 128 arrays and objects at
once, and what is decoded from any text never opens more (`Node.decode_encode_iff`).
-/

namespace MusicLibrary.Media

open MusicLibrary.Json (Fills Member Nests NullableOf RecordFormat RecordOf)

/-! ### Reading -/

theorem MediaClass.exact_reader (opens : ℕ) : (reader opens).Exact :=
  (Json.specified_variant opens _).exact

/-- A class is read back. -/
theorem MediaClass.takes_write (opens : ℕ) (c : MediaClass) : (reader opens).Takes c.write c := by
  refine (Json.specified_variant opens _).complete (.name (Json.stringOf_writeString c.name) ?_)
  cases c <;> rfl

namespace Node

variable {opens : ℕ} {children : Json.Reader (List Node)}

theorem exact_format (hchildren : children.Exact) : (format opens children).Exact := by
  have hclass := MediaClass.exact_reader opens
  simp only [RecordFormat.Exact, format, List.forall_mem_cons]
  exact ⟨Member.exact_of Json.exact_string,
    Member.exact_of Json.exact_string.specified_nullable.exact,
    Member.exact_of hclass, Member.exact_of Json.exact_string, Member.exact_of Json.exact_string,
    Member.exact_of Json.specified_boolean.exact, Member.exact_of Json.specified_boolean.exact,
    Member.exact_of Json.exact_string.specified_nullable.exact,
    Member.exact_of hchildren.specified_nullable.exact,
    Member.exact_of hclass.specified_nullable.exact, List.forall_mem_nil _⟩

theorem distinct_format : (format opens children).Distinct := by
  show ["domain", "identifier", "media_class", "media_content_type", "title", "can_play",
    "can_expand", "thumbnail", "children", "children_media_class"].Nodup
  decide

/-- The member "children" sets the children. -/
theorem sets_children (hchildren : children.Exact) :
    (format opens children).Sets "children" (Json.nullable children) Node.children := by
  refine RecordFormat.sets_of hchildren.specified_nullable.exact rfl (fun _ _ => rfl) ?_
  simp only [format, List.forall_mem_cons, List.not_mem_nil, false_imp_iff, implies_true, and_true]
  and_intros <;> first
    | exact fun _ => Member.keeps_of fun _ _ => rfl
    | exact fun h => absurd rfl h

theorem exact_reader (opens : ℕ) : (reader opens).Exact := by
  induction opens using Nat.strongRecOn with
  | ind opens ih =>
    rw [reader]
    refine RecordFormat.exact_record fun n hn => exact_format ?_
    cases n with
    | zero => exact Json.exact_array_zero
    | succ m => exact (ih m (by omega)).specified_array.exact

/-! ### Levels -/

mutual

/-- The number of arrays and objects that a node opens at once in its text: its own, the array of
its children and those that they open. -/
def levels : Node → ℕ
  | ⟨_, _, _, _, _, _, _, _, children, _⟩ => childrenLevels children + 1

/-- The number of arrays and objects that the children open at once. -/
def childrenLevels : Option (List Node) → ℕ
  | none => 0
  | some ns => listLevels ns + 1

/-- The number of arrays and objects that the nodes of a list open at once. -/
def listLevels : List Node → ℕ
  | [] => 0
  | n :: ns => max (levels n) (listLevels ns)

end

theorem levels_eq (n : Node) : n.levels = childrenLevels n.children + 1 := by
  cases n
  rw [levels]

theorem listLevels_eq_foldr (ns : List Node) : listLevels ns = (ns.map levels).foldr max 0 := by
  induction ns with
  | nil => rw [listLevels, List.map_nil, List.foldr_nil]
  | cons n ns ih => rw [listLevels, ih, List.map_cons, List.foldr_cons]

theorem listLevels_le_iff {ns : List Node} {k : ℕ} :
    listLevels ns ≤ k ↔ ∀ n ∈ ns, n.levels ≤ k := by
  induction ns with
  | nil => simp [listLevels]
  | cons n ns ih => rw [listLevels, max_le_iff, ih, List.forall_mem_cons]

theorem writeList_eq_map (ns : List Node) : writeList ns = ns.map write := by
  induction ns with
  | nil => rw [writeList, List.map_nil]
  | cons n ns ih => rw [writeList, ih, List.map_cons]

/-- The members of a node in JSON. -/
def writtenMembers (n : Node) : List (String × List Char) :=
  [("domain", Json.writeString n.domain),
    ("identifier", Json.writeNullable Json.writeString n.identifier),
    ("media_class", n.mediaClass.write),
    ("media_content_type", Json.writeString n.contentType),
    ("title", Json.writeString n.title),
    ("can_play", Json.writeBoolean n.canPlay),
    ("can_expand", Json.writeBoolean n.canExpand)] ++
  (n.thumbnail.toList.map (fun t => ("thumbnail", Json.writeString t)) ++
    (n.children.toList.map (fun ns => ("children", Json.writeArray (ns.map write))) ++
      n.childrenClass.toList.map fun c => ("children_media_class", c.write)))

theorem write_eq (n : Node) : n.write = Json.writeObject n.writtenMembers := by
  obtain ⟨_, _, _, _, _, _, _, thumbnail, children, childrenClass⟩ := n
  rw [write, writtenMembers]
  cases children with
  | none => cases thumbnail <;> cases childrenClass <;> simp [writeChildren]
  | some ns =>
    cases thumbnail <;> cases childrenClass <;> simp [writeChildren, writeList_eq_map]

theorem exact_children (opens : ℕ) : (Json.array opens fun m _ => reader m).Exact := by
  cases opens with
  | zero => exact Json.exact_array_zero
  | succ m => exact (exact_reader m).specified_array.exact

theorem specified_reader (opens : ℕ) : (reader (opens + 1)).Specified
    (RecordOf (format opens (Json.array opens fun m _ => reader m))) := by
  rw [reader]
  exact (exact_format (exact_children opens)).specified_record

/-- The array of the children is read back if each of them is. -/
theorem takes_children {opens : ℕ} {o : Option (List Node)} (h : childrenLevels o ≤ opens)
    (hread : ∀ m < opens, ∀ n : Node, n.levels ≤ m → (reader m).Takes n.write n) :
    ∀ ns ∈ o, (Json.nullable (Json.array opens fun m _ => reader m)).Takes
      (Json.writeArray (ns.map write)) (some ns) := by
  rintro ns rfl
  refine (exact_children opens).specified_nullable.complete (.value nofun ?_)
  cases opens with
  | zero => simp [childrenLevels] at h
  | succ m =>
    rw [childrenLevels, Nat.add_le_add_iff_right, listLevels_le_iff] at h
    rw [Json.writeArray_eq, List.map_map]
    refine (exact_reader m).specified_array.complete (.elements ?_)
    rw [List.forall₂_map_left_iff, List.forall₂_same]
    exact fun n hn => hread m (Nat.lt_succ_self m) n (h n hn)

/-- The names of the members that the text of a node gives, the last one first. -/
def writtenNames (n : Node) : List String :=
  (n.childrenClass.map fun _ => "children_media_class").toList ++
    ((n.children.map fun _ => "children").toList ++
      ((n.thumbnail.map fun _ => "thumbnail").toList ++
        ["can_expand", "can_play", "title", "media_content_type", "media_class", "identifier",
          "domain"]))

theorem missing?_writtenNames (n : Node) :
    (format opens children).missing? n.writtenNames = none := by
  refine RecordFormat.missing?_eq_none_iff.mpr ?_
  simp [format, Member.of, writtenNames]

/-- The members that are written make up the node, if its children are read back. -/
theorem fills_writtenMembers {n : Node} (hexact : children.Exact)
    (hchildren : ∀ ns ∈ n.children,
      (Json.nullable children).Takes (Json.writeArray (ns.map write)) (some ns)) :
    Fills (format opens children) ⟨(format opens children).blank, []⟩
      (n.writtenMembers.map fun m => (some m.1, m.2)) ⟨n, n.writtenNames⟩ := by
  have hstring := Json.exact_string.specified_nullable
  have hboolean := Json.specified_boolean.exact
  have hclass := (MediaClass.exact_reader opens).specified_nullable
  simp only [writtenMembers, List.map_cons, List.map_append, List.map_map, List.cons_append,
    List.nil_append]
  refine (Fills.cons_iff Json.exact_string rfl).mpr
    ⟨nofun, n.domain, Json.takes_writeString _, ?_⟩
  refine (Fills.cons_iff hstring.exact rfl).mpr ⟨by simp, n.identifier,
    Json.takes_writeNullable Json.exact_string fun s _ => ⟨Json.takes_writeString s, nofun⟩, ?_⟩
  refine (Fills.cons_iff (MediaClass.exact_reader opens) rfl).mpr
    ⟨by simp, n.mediaClass, MediaClass.takes_write opens _, ?_⟩
  refine (Fills.cons_iff Json.exact_string rfl).mpr
    ⟨by simp, n.contentType, Json.takes_writeString _, ?_⟩
  refine (Fills.cons_iff Json.exact_string rfl).mpr
    ⟨by simp, n.title, Json.takes_writeString _, ?_⟩
  refine (Fills.cons_iff hboolean rfl).mpr ⟨by simp, n.canPlay, Json.takes_writeBoolean _, ?_⟩
  refine (Fills.cons_iff hboolean rfl).mpr ⟨by simp, n.canExpand, Json.takes_writeBoolean _, ?_⟩
  refine Fills.optional hstring.exact rfl (by simp) rfl
    (fun t _ => hstring.complete (.value nofun (Json.takes_writeString t))) ?_
  refine Fills.optional hexact.specified_nullable.exact rfl (by simp) rfl hchildren ?_
  refine Fills.optional_last hclass.exact rfl (by simp) rfl
    (fun c _ => hclass.complete (.value nofun (MediaClass.takes_write opens c))) ?_
  -- the record refers to itself, so it is not its fields put together by definition
  cases n
  rfl

/-- A node is read back where it may open as many arrays and objects as it has levels. -/
theorem takes_write {opens : ℕ} {n : Node} (h : n.levels ≤ opens) :
    (reader opens).Takes n.write n := by
  -- a child is two levels down, in the array that its parent holds
  induction opens using Nat.strongRecOn generalizing n with
  | ind opens ih =>
    rw [levels_eq] at h
    obtain ⟨k, rfl⟩ : ∃ k, opens = k + 1 := ⟨opens - 1, by omega⟩
    have hchildren := takes_children (Nat.le_of_succ_le_succ h) fun m hm n hn =>
      ih m (Nat.lt_succ_of_lt hm) hn
    rw [write_eq]
    exact Json.takes_writeObject (specified_reader k)
      (fills_writtenMembers (exact_children k) hchildren) (missing?_writtenNames n)

/-- What is read has no more levels than may be opened. -/
theorem levels_le_of_takes {opens : ℕ} {v : List Char} {n : Node} (h : (reader opens).Takes v n) :
    n.levels ≤ opens := by
  induction opens using Nat.strongRecOn generalizing v n with
  | ind opens ih =>
    cases opens with
    | zero =>
      rw [reader] at h
      exact absurd (h.run_eq .nil .nil) Json.record_zero_run_ne_ok
    | succ k =>
      have hof := (specified_reader k).takes_iff.mp h
      rw [levels_eq]
      refine Nat.succ_le_succ ?_
      rcases hof.takes_or_blank distinct_format (sets_children (exact_children k)) with
        ⟨w, hw⟩ | hblank
      · generalize n.children = o at hw
        obtain _ | ⟨-, htakes⟩ := (exact_children k).specified_nullable.takes_iff.mp hw
        · exact Nat.zero_le k
        · cases k with
          | zero => exact absurd (htakes.run_eq .nil .nil) Json.array_zero_run_ne_ok
          | succ j =>
            have hchildren := (exact_reader j).specified_array.takes_iff.mp htakes
            refine Nat.succ_le_succ (listLevels_le_iff.mpr fun c hc => ?_)
            obtain ⟨w', hw'⟩ := hchildren.exists_takes c hc
            exact ih j (by omega) hw'
      · rw [hblank]
        exact Nat.zero_le k

/-- The members of a node that is written are strings, truth values and nulls, but for the array of
its children. -/
theorem nests_members {n : Node} (h : ∀ ns ∈ n.children, ∀ c ∈ ns, Nests c.write c.levels) :
    List.Forall₂ (fun m d => Nests m.2 d) n.writtenMembers
      (List.replicate 7 0 ++ (n.thumbnail.toList.map (fun _ => 0) ++
        (n.children.toList.map (fun ns => listLevels ns + 1) ++
          n.childrenClass.toList.map fun _ => 0))) := by
  have hidentifier : Nests (Json.writeNullable Json.writeString n.identifier) 0 := by
    cases n.identifier with
    | none => exact Json.nests_plain (by simp [Json.writeNullable, Json.writeNull])
    | some s => exact Json.nests_writeString s
  have hboolean : ∀ b : Bool, Nests (Json.writeBoolean b) 0 := fun b =>
    Json.nests_plain (by cases b <;> simp [Json.writeBoolean])
  have hfixed : List.Forall₂ (fun m d => Nests m.2 d)
      [("domain", Json.writeString n.domain),
        ("identifier", Json.writeNullable Json.writeString n.identifier),
        ("media_class", n.mediaClass.write),
        ("media_content_type", Json.writeString n.contentType),
        ("title", Json.writeString n.title),
        ("can_play", Json.writeBoolean n.canPlay),
        ("can_expand", Json.writeBoolean n.canExpand)] (List.replicate 7 0) :=
    .cons (Json.nests_writeString _) (.cons hidentifier (.cons (Json.nests_writeString _)
      (.cons (Json.nests_writeString _) (.cons (Json.nests_writeString _)
        (.cons (hboolean _) (.cons (hboolean _) .nil))))))
  refine List.rel_append hfixed (List.rel_append ?_ (List.rel_append ?_ ?_)) <;>
    rw [List.forall₂_map_left_iff, List.forall₂_map_right_iff, List.forall₂_same]
  · exact fun t _ => Json.nests_writeString t
  · intro ns hns
    rw [listLevels_eq_foldr]
    refine Json.nests_writeArray ?_
    rw [List.forall₂_map_left_iff, List.forall₂_map_right_iff, List.forall₂_same]
    exact h ns (Option.mem_toList.mp hns)
  · exact fun c _ => Json.nests_writeString c.name

/-- The text of a node opens as many arrays and objects at once as the node has levels. -/
theorem nests_write (n : Node) : Nests n.write n.levels := by
  -- the children have fewer levels, whatever else they are
  induction hk : n.levels using Nat.strongRecOn generalizing n with
  | ind k ih =>
    subst hk
    have hmembers := nests_members (n := n) fun ns hns c hc => ih c.levels ?_ c rfl
    · have hnests := Json.nests_writeObject hmembers
      rw [write_eq, levels_eq]
      convert hnests using 2
      cases n.thumbnail <;> cases n.children <;> cases n.childrenClass <;> simp [childrenLevels]
    · have hle := listLevels_le_iff.mp le_rfl c hc
      rw [levels_eq n, hns, childrenLevels]
      omega

theorem toList_encode (n : Node) : n.encode.toList = n.write := String.toList_ofList

theorem nesting_encode (n : Node) : Json.nesting n.encode.toList = n.levels := by
  rw [toList_encode, (nests_write n).nesting_eq]

/-- **Nodes survive being written and read**, as far as the depth of a text allows. -/
theorem decode_encode_iff :
    (∀ n : Node, decode n.encode = .ok n ↔ Json.nesting n.encode.toList < 128) ∧
      ∀ s n, decode s = .ok n → decode n.encode = .ok n := by
  have hback : ∀ n : Node, n.levels ≤ Json.openLimit → decode n.encode = .ok n := fun n h => by
    rw [decode, toList_encode]
    exact (takes_write h).readAll_value
  have hlevels : ∀ s n, decode s = .ok n → n.levels ≤ Json.openLimit := fun s n h => by
    obtain ⟨p, -, htakes⟩ := (exact_reader _).readAll_iff.mp h
    exact levels_le_of_takes htakes
  refine ⟨fun n => ?_, fun s n h => hback n (hlevels s n h)⟩
  rw [nesting_encode]
  exact ⟨fun h => Nat.lt_succ_of_le (hlevels _ n h), fun h => hback n (Nat.le_of_lt_succ h)⟩

/-- An album that has been opened, with its only track. -/
def openedAlbum : Node :=
  (bare "jellyfin" (some "al1") .album "Blue").expandable.withChildren .track
    [(bare "jellyfin" (some "t1") .track "River").playable "audio/flac"]

/-- The text of a root in the form of an array, without the members that may be left out. -/
def rootElements : List Char :=
  Json.writeArray [Json.writeString "jellyfin", Json.writeNull, MediaClass.directory.write,
    Json.writeString "", Json.writeString "Jellyfin", Json.writeBoolean false,
    Json.writeBoolean true]

theorem decode_rootElements : decode (String.ofList rootElements) =
    .ok (bare "jellyfin" none .directory "Jellyfin").expandable := by
  have hstring := Json.exact_string
  have hclass := MediaClass.exact_reader 126
  have hboolean := Json.specified_boolean.exact
  rw [decode, String.toList_ofList]
  refine Json.Reader.Takes.readAll_value ((specified_reader 126).complete ?_)
  rw [rootElements, Json.writeArray_eq]
  refine .array (.element ((Member.takes_of_iff hstring).mpr ⟨_, Json.takes_writeString _, rfl⟩) ?_)
  refine .element ((Member.takes_of_iff hstring.specified_nullable.exact).mpr
    ⟨none, hstring.specified_nullable.complete .null, rfl⟩) ?_
  refine .element ((Member.takes_of_iff hclass).mpr ⟨_, MediaClass.takes_write 126 _, rfl⟩) ?_
  refine .element ((Member.takes_of_iff hstring).mpr ⟨_, Json.takes_writeString _, rfl⟩) ?_
  refine .element ((Member.takes_of_iff hstring).mpr ⟨_, Json.takes_writeString _, rfl⟩) ?_
  refine .element ((Member.takes_of_iff hboolean).mpr ⟨_, Json.takes_writeBoolean false, rfl⟩) ?_
  refine .element ((Member.takes_of_iff hboolean).mpr ⟨_, Json.takes_writeBoolean true, rfl⟩) ?_
  exact .done (by simp [Member.of])

theorem decode_encode_iff_opened :
    Json.nesting openedAlbum.encode.toList < 128 ∧ decode openedAlbum.encode = .ok openedAlbum ∧
      decode (bare "jellyfin" none .directory "Jellyfin").expandable.encode =
        .ok (bare "jellyfin" none .directory "Jellyfin").expandable := by
  have hnesting : Json.nesting openedAlbum.encode.toList < 128 := by
    rw [nesting_encode]
    decide
  exact ⟨hnesting, (decode_encode_iff.1 openedAlbum).mpr hnesting,
    decode_encode_iff.2 _ _ decode_rootElements⟩

end Node

end MusicLibrary.Media
