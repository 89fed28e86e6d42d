import MusicLibrary.Media.Node
import Mathlib.Data.List.Induction

/-!
# Nodes that are built in steps

A node is built from a bare one by any number of steps in any order. Each step sets its own members,
so the latest step that says anything of a member decides it (`Node.build_bare`). Whatever the
steps, the node cannot be both played and opened, the class of its children stands with the
children, and its place and its title stay as they are (`Node.Keeps.build`).

The type of its media is another matter. A step that makes a node one that can be opened leaves the
type that an earlier step has given it. So a type stands exactly with a node that can be played as
long as no node is opened that could be played before (`Node.build_keeps_promises`).
-/

namespace MusicLibrary.Media.Node

/-! ### Steps -/

/-- A step of building a node. -/
inductive Step where
  /-- The node can be played. -/
  | playable (contentType : String)
  /-- The node can be opened. -/
  | expandable
  /-- The node gets another thumbnail. -/
  | withThumbnail (thumbnail : Option String)
  /-- The node is opened. -/
  | withChildren (childrenClass : MediaClass) (children : List Node)

namespace Step

/-- The node after the step. -/
def apply (n : Node) : Step → Node
  | playable contentType => n.playable contentType
  | expandable => n.expandable
  | withThumbnail thumbnail => n.withThumbnail thumbnail
  | withChildren childrenClass children => n.withChildren childrenClass children

/-- Whether the node can be played rather than opened, if the step says so. -/
def plays? : Step → Option Bool
  | playable _ => some true
  | expandable => some false
  | _ => none

/-- The type of the media that the step gives. -/
def contentType? : Step → Option String
  | playable contentType => some contentType
  | _ => none

/-- The thumbnail that the step gives or takes away. -/
def thumbnail? : Step → Option (Option String)
  | withThumbnail thumbnail => some thumbnail
  | _ => none

/-- The children that the step gives, with their class. -/
def children? : Step → Option (MediaClass × List Node)
  | withChildren childrenClass children => some (childrenClass, children)
  | _ => none

theorem contentType?_eq_some_iff {s : Step} {contentType : String} :
    s.contentType? = some contentType ↔ s = playable contentType := by
  cases s <;> simp [contentType?]

theorem plays?_eq_false_iff {s : Step} : s.plays? = some false ↔ s = expandable := by
  cases s <;> simp [plays?]

theorem plays?_eq_true_iff {s : Step} :
    s.plays? = some true ↔ ∃ contentType, s = playable contentType := by
  cases s <;> simp [plays?]

end Step

/-- The node after the steps, the first of them first. -/
def build (n : Node) (steps : List Step) : Node := steps.foldl Step.apply n

theorem build_concat (n : Node) (steps : List Step) (s : Step) :
    n.build (steps ++ [s]) = s.apply (n.build steps) := by
  rw [build, List.foldl_append]
  rfl

/-! ### What all steps keep -/

/-- What a node keeps of the one that it is built from, and what holds of any node that is built. -/
structure Keeps (start n : Node) : Prop where
  /-- It cannot be both played and opened. -/
  exclusive : ¬ (n.canPlay = true ∧ n.canExpand = true)
  /-- The class of the children stands with the children. -/
  grouped : n.childrenClass.isSome = n.children.isSome
  /-- It belongs to the same source. -/
  domain : n.domain = start.domain
  /-- It is the same item. -/
  identifier : n.identifier = start.identifier
  /-- It is of the same class. -/
  mediaClass : n.mediaClass = start.mediaClass
  /-- It has the same title. -/
  title : n.title = start.title

theorem Keeps.bare (domain : String) (identifier : Option String) (mediaClass : MediaClass)
    (title : String) :
    Keeps (Node.bare domain identifier mediaClass title)
      (Node.bare domain identifier mediaClass title) where
  exclusive := by simp [Node.bare]
  grouped := rfl
  domain := rfl
  identifier := rfl
  mediaClass := rfl
  title := rfl

theorem Keeps.apply {start n : Node} (h : Keeps start n) (s : Step) :
    Keeps start (s.apply n) := by
  obtain ⟨hexclusive, hgrouped, hdomain, hidentifier, hclass, htitle⟩ := h
  cases s with
  | playable contentType =>
    exact ⟨by simp [Step.apply, playable], hgrouped, hdomain, hidentifier, hclass, htitle⟩
  | expandable =>
    exact ⟨by simp [Step.apply, expandable], hgrouped, hdomain, hidentifier, hclass, htitle⟩
  | withThumbnail thumbnail => exact ⟨hexclusive, hgrouped, hdomain, hidentifier, hclass, htitle⟩
  | withChildren childrenClass children =>
    exact ⟨hexclusive, rfl, hdomain, hidentifier, hclass, htitle⟩

/-- Any run of steps keeps what each of them keeps. -/
theorem Keeps.build {start n : Node} (h : Keeps start n) (steps : List Step) :
    Keeps start (n.build steps) := by
  induction steps using List.reverseRecOn with
  | nil => exact h
  | append_singleton steps s ih =>
    rw [build_concat]
    exact ih.apply s

/-! ### What the latest step decides -/

section Latest

variable {α : Type} {tells : Step → Option α} {steps : List Step} {a : α}

/-- What the steps tell in the end: the latest one that tells anything decides. -/
def latest (tells : Step → Option α) (steps : List Step) : Option α := steps.reverse.findSome? tells

theorem latest_append (front back : List Step) :
    latest tells (front ++ back) = (latest tells back).or (latest tells front) := by
  rw [latest, List.reverse_append, List.findSome?_append]
  rfl

theorem latest_concat (s : Step) : latest tells (steps ++ [s]) = (tells s).or (latest tells steps) := by
  rw [latest_append]
  cases hs : tells s <;> simp [latest, hs]

theorem latest_eq_none_iff : latest tells steps = none ↔ ∀ s ∈ steps, tells s = none := by
  simp [latest]

/-- Behind the step that decides, all are silent. -/
theorem latest_eq_some_iff : latest tells steps = some a ↔ ∃ front s back,
    steps = front ++ s :: back ∧ tells s = some a ∧ ∀ t ∈ back, tells t = none := by
  rw [latest, List.findSome?_eq_some_iff]
  constructor
  · rintro ⟨back, s, front, hsteps, hs, hsilent⟩
    refine ⟨front.reverse, s, back.reverse, ?_, hs, fun t ht => hsilent t (List.mem_reverse.mp ht)⟩
    rw [← List.reverse_reverse steps, hsteps, List.reverse_append, List.reverse_cons,
      List.append_assoc, List.singleton_append]
  · rintro ⟨front, s, back, rfl, hs, hsilent⟩
    refine ⟨back.reverse, s, front.reverse, ?_, hs, fun t ht => hsilent t (List.mem_reverse.mp ht)⟩
    rw [List.reverse_append, List.reverse_cons, List.append_assoc, List.singleton_append]

end Latest

/-- **The latest step that says anything of a member decides it.** -/
theorem build_bare (domain : String) (identifier : Option String) (mediaClass : MediaClass)
    (title : String) (steps : List Step) :
    (bare domain identifier mediaClass title).build steps =
      { domain, identifier, mediaClass, title
        contentType := (latest Step.contentType? steps).getD ""
        canPlay := latest Step.plays? steps == some true
        canExpand := latest Step.plays? steps == some false
        thumbnail := (latest Step.thumbnail? steps).getD none
        children := (latest Step.children? steps).map Prod.snd
        childrenClass := (latest Step.children? steps).map Prod.fst } := by
  induction steps using List.reverseRecOn with
  | nil => rfl
  | append_singleton steps s ih =>
    rw [build_concat, ih]
    simp only [latest_concat]
    cases s <;> rfl

/-! ### The type of the media -/

/-- A type of media stands with the node exactly if it can be played. -/
def Typed (n : Node) : Prop := n.contentType ≠ "" ↔ n.canPlay = true

/-- A node that could be played is made one that can be opened, and it stays one. -/
def Reopened (steps : List Step) : Prop :=
  ∃ front back, steps = front ++ .expandable :: back ∧
    (∃ contentType, .playable contentType ∈ front) ∧ ∀ contentType, .playable contentType ∉ back

theorem latest_contentType?_eq_none_iff {steps : List Step} :
    latest Step.contentType? steps = none ↔ ∀ contentType, .playable contentType ∉ steps := by
  rw [latest_eq_none_iff]
  constructor
  · intro h contentType hmem
    cases h _ hmem
  · intro h s hs
    cases s with
    | playable contentType => exact absurd hs (h contentType)
    | _ => rfl

/-- Only a step that makes a node playable leaves it so. -/
theorem exists_playable_of_latest {steps : List Step}
    (h : latest Step.plays? steps = some true) : ∃ contentType, .playable contentType ∈ steps := by
  obtain ⟨front, s, back, rfl, hs, -⟩ := latest_eq_some_iff.mp h
  obtain ⟨contentType, rfl⟩ := Step.plays?_eq_true_iff.mp hs
  exact ⟨contentType, List.mem_append_right front List.mem_cons_self⟩

theorem reopened_iff {steps : List Step} :
    Reopened steps ↔
      (∃ contentType, .playable contentType ∈ steps) ∧ latest Step.plays? steps = some false := by
  constructor
  · rintro ⟨front, back, rfl, ⟨contentType, hfront⟩, hback⟩
    refine ⟨⟨contentType, List.mem_append_left _ hfront⟩, ?_⟩
    have hcons : latest Step.plays? (front ++ .expandable :: back) =
        (latest Step.plays? back).or (some false) := by
      rw [List.append_cons, latest_append, latest_concat]
      rfl
    rw [hcons]
    cases hlatest : latest Step.plays? back with
    | none => rfl
    | some plays =>
      cases plays with
      | false => rfl
      | true =>
        obtain ⟨again, hagain⟩ := exists_playable_of_latest hlatest
        exact absurd hagain (hback again)
  · rintro ⟨⟨contentType, hmem⟩, hlatest⟩
    obtain ⟨front, s, back, rfl, hs, hsilent⟩ := latest_eq_some_iff.mp hlatest
    rw [Step.plays?_eq_false_iff] at hs
    subst hs
    have hback : ∀ contentType, Step.playable contentType ∉ back := fun contentType h => by
      cases hsilent _ h
    refine ⟨front, back, rfl, ⟨contentType, ?_⟩, hback⟩
    rcases List.mem_append.mp hmem with h | h
    · exact h
    · rcases List.mem_cons.mp h with h | h
      · cases h
      · exact absurd h (hback contentType)

/-- A node has a type as soon as it could be played once. -/
theorem contentType_build_ne_iff {domain title : String} {identifier : Option String}
    {mediaClass : MediaClass} {steps : List Step}
    (hsteps : ∀ contentType, .playable contentType ∈ steps → contentType ≠ "") :
    ((bare domain identifier mediaClass title).build steps).contentType ≠ "" ↔
      ∃ contentType, .playable contentType ∈ steps := by
  rw [build_bare]
  cases hlatest : latest Step.contentType? steps with
  | none => simpa using latest_contentType?_eq_none_iff.mp hlatest
  | some contentType =>
    obtain ⟨front, s, back, rfl, hs, -⟩ := latest_eq_some_iff.mp hlatest
    rw [Step.contentType?_eq_some_iff] at hs
    subst hs
    have hmem : Step.playable contentType ∈ front ++ .playable contentType :: back :=
      List.mem_append_right front List.mem_cons_self
    exact iff_of_true (hsteps contentType hmem) ⟨contentType, hmem⟩

/-- **What is built keeps what a node promises, but for the type of its media.** Whatever the steps
and their order, the node cannot be both played and opened, the class of its children stands with
the children, and its place, class and title are those it began with. It has a type exactly if it
can be played, unless it could be played before it was made one that can be opened. -/
theorem build_keeps_promises (domain : String) (identifier : Option String)
    (mediaClass : MediaClass) (title : String) (steps : List Step)
    (hsteps : ∀ contentType, .playable contentType ∈ steps → contentType ≠ "") :
    Keeps (bare domain identifier mediaClass title)
        ((bare domain identifier mediaClass title).build steps) ∧
      (((bare domain identifier mediaClass title).build steps).Typed ↔ ¬ Reopened steps) := by
  refine ⟨(Keeps.bare domain identifier mediaClass title).build steps, ?_⟩
  have hplays : ((bare domain identifier mediaClass title).build steps).canPlay = true ↔
      latest Step.plays? steps = some true := by
    rw [build_bare]
    exact beq_iff_eq
  rw [Typed, contentType_build_ne_iff hsteps, hplays, reopened_iff]
  constructor
  · rintro h ⟨hexists, hfalse⟩
    rw [h.mp hexists] at hfalse
    cases hfalse
  · intro h
    refine ⟨fun hexists => ?_, exists_playable_of_latest⟩
    obtain ⟨contentType, hmem⟩ := hexists
    cases hlatest : latest Step.plays? steps with
    | none => cases latest_eq_none_iff.mp hlatest _ hmem
    | some plays =>
      cases plays with
      | true => rfl
      | false => exact absurd ⟨⟨contentType, hmem⟩, hlatest⟩ h

/-- The steps of a track that could be opened for a while. -/
def songSteps : List Step :=
  [.expandable, .withChildren .track [], .playable "audio/mpeg", .withThumbnail (some "cover.jpg")]

theorem build_keeps_promises_song :
    (∀ contentType, .playable contentType ∈ songSteps → contentType ≠ "") ∧
      ((bare "test" (some "1") .track "Song").build songSteps).Typed := by
  have hsteps : ∀ contentType, .playable contentType ∈ songSteps → contentType ≠ "" := by
    simp [songSteps]
  refine ⟨hsteps, (build_keeps_promises "test" (some "1") .track "Song" songSteps hsteps).2.mpr ?_⟩
  rw [reopened_iff]
  rintro ⟨-, hlatest⟩
  cases hlatest

/-- A track that is made one that can be opened keeps its type. -/
theorem not_typed_of_reopened :
    ¬ ∀ steps : List Step, (∀ contentType, .playable contentType ∈ steps → contentType ≠ "") →
      ((bare "test" (some "1") .track "Song").build steps).Typed := by
  intro h
  have htyped := h [.playable "audio/mpeg", .expandable] (by simp)
  have htype : ((bare "test" (some "1") .track "Song").build
      [.playable "audio/mpeg", .expandable]).contentType = "audio/mpeg" := rfl
  exact absurd (htyped.mp (by rw [htype]; decide)) (by decide)

end MusicLibrary.Media.Node
