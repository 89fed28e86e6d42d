import MusicLibrary.Yaml.Event

/-!
# Documents

A document that is a mapping, as the list of its members. A repetition stands for the node that it names,
which must have been named before. Names are counted as they appear, and a name that is given again does
not change the number of names: a node is found by the number of names at its time, so that of two nodes
with one number the later one is meant everywhere.
-/

namespace MusicLibrary.Yaml

/-- The nodes that have been given names so far. -/
structure Anchors where
  /-- The number that each name stands for at the moment. -/
  numbers : List (List Char × Nat)
  /-- The node behind each number; the latest comes first. -/
  nodes : List (Nat × Event)
  deriving DecidableEq, Repr

namespace Anchors

/-- No names. -/
def empty : Anchors := ⟨[], []⟩

/-- The names with one more for a node. -/
def add (a : Anchors) (name : Option (List Char)) (node : Event) : Anchors :=
  match name with
  | none => a
  | some name =>
    let number := a.numbers.length
    ⟨(name, number) :: a.numbers.filter (fun p => p.1 ≠ name), (number, node) :: a.nodes⟩

end Anchors

/-- A node whose inside is not looked at. -/
inductive Node where
  /-- A text. -/
  | scalar (scalar : Scalar)
  /-- A sequence or a mapping. -/
  | collection
  deriving DecidableEq, Repr

/-- A node, or the number of the node that it repeats. -/
inductive Linked where
  /-- The node itself. -/
  | node (node : Node)
  /-- A repetition. -/
  | alias (number : Nat)
  deriving DecidableEq, Repr

/-- The node that an event begins. -/
def Event.node : Event → Node
  | .scalar _ s => .scalar s
  | _ => .collection

/-- The nodes directly inside the node that the events begin with, and all names: `depth` is the number of
nodes that are open around the next event, and `found` holds the nodes in reverse order. A repetition of
a name that has not been given spoils the document. -/
def innerNodes (depth : Nat) (anchors : Anchors) (found : List Linked) :
    List Event → Option (List Linked × Anchors)
  | [] => some (found.reverse, anchors)
  | e :: es =>
    let keep (n : Linked) := if depth = 1 then n :: found else found
    match e with
    | .alias name =>
      match anchors.numbers.lookup name with
      | none => none
      | some number => innerNodes depth anchors (keep (.alias number)) es
    | .scalar name _ => innerNodes depth (anchors.add name e) (keep (.node e.node)) es
    | .sequenceStart name => innerNodes (depth + 1) (anchors.add name e) (keep (.node e.node)) es
    | .mappingStart name => innerNodes (depth + 1) (anchors.add name e) (keep (.node e.node)) es
    | .sequenceEnd => innerNodes (depth - 1) anchors found es
    | .mappingEnd => innerNodes (depth - 1) anchors found es

/-- The node that a repetition stands for. -/
def Linked.resolve (anchors : Anchors) : Linked → Node
  | .node n => n
  | .alias number => ((anchors.nodes.lookup number).map Event.node).getD .collection

/-- Neighbours taken together in pairs. -/
def pairs {α : Type} : List α → List (α × α)
  | a :: b :: rest => (a, b) :: pairs rest
  | _ => []

/-- The members of the mapping that a text is: none if the text holds no document, or nothing in it; `none`
if it is not well formed or something else. -/
def mapping? (text : List Char) : Option (List (Node × Node)) := do
  let s ← prepare text
  let ts ← tokens s
  let es ← events ts
  match es with
  | [] => some []
  | .scalar _ s :: _ => if s.style = .plain ∧ s.text.isEmpty then some [] else none
  | .mappingStart _ :: _ =>
    let (nodes, anchors) ← innerNodes 0 .empty [] es
    some (pairs (nodes.map (Linked.resolve anchors)))
  | _ => none

end MusicLibrary.Yaml
