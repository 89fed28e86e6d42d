import MusicLibrary.Browsing.Dialogue

/-!
# Servers in memory

A server that holds its answers in memory, as the JSON texts that a server on the network would send. An
answer is read when it is asked for, so a text that holds no item fails then and not before. Places can
be made to fail.
-/

namespace MusicLibrary.Browsing

open Catalogue

/-- A place that questions go to. -/
inductive Place where
  /-- The item of the given identifier. -/
  | item (id : String)
  /-- The listing of the libraries. -/
  | folders
  /-- The listings of what is below a parent, whatever its kind. -/
  | children (parent : Option String)
  deriving DecidableEq, Repr

/-- The place that a question goes to. -/
def Request.place : Request → Place
  | .item id => .item id
  | .folders => .folders
  | .items query => .children query.parent

/-- The answers of a server in memory. -/
structure Shelf where
  /-- The items, by their identifiers. -/
  items : List (String × String)
  /-- The libraries, an array of items. -/
  folders : Option String
  /-- What is below a parent, by the parent and the kind that is asked for: arrays of items. -/
  children : List ((Option String × Option ItemKind) × String)
  /-- The places that fail. -/
  failures : List (Place × Failure)

namespace Shelf

/-- The pairs with `value` under `key` in place of any other. -/
def put {α β : Type} [DecidableEq α] (key : α) (value : β) (pairs : List (α × β)) : List (α × β) :=
  (key, value) :: pairs.filter fun p => p.1 ≠ key

/-- The pairs without those under `key`. -/
def drop {α β : Type} [DecidableEq α] (key : α) (pairs : List (α × β)) : List (α × β) :=
  pairs.filter fun p => p.1 ≠ key

/-- Nothing. -/
def empty : Shelf := ⟨[], none, [], []⟩

/-- The shelf with one item more. -/
def putItem (s : Shelf) (id text : String) : Shelf := { s with items := put id text s.items }

/-- The shelf without an item. -/
def dropItem (s : Shelf) (id : String) : Shelf := { s with items := drop id s.items }

/-- The shelf with another listing of what is below a parent. -/
def putChildren (s : Shelf) (parent : Option String) (kind : Option ItemKind) (text : Option String) : Shelf :=
  match text with
  | none => { s with children := drop (parent, kind) s.children }
  | some text => { s with children := put (parent, kind) text s.children }

/-- The shelf with a place that fails. -/
def putFailure (s : Shelf) (place : Place) (cause : Failure) : Shelf :=
  { s with failures := put place cause s.failures }

/-- The shelf with a place that works again. -/
def dropFailure (s : Shelf) (place : Place) : Shelf := { s with failures := drop place s.failures }

/-- The listing whose items are the elements of the array `text`; no items if there is none. -/
def listing : Option String → Except Failure Listing
  | none => .ok ⟨[], none⟩
  | some text => (Listing.decode ("\x7b\"Items\":" ++ text ++ "\x7d")).mapError .unreadable

/-- The answer to a question from a place that works. -/
def find (s : Shelf) : (r : Request) → Except Failure r.Answer
  | .item id =>
    match s.items.lookup id with
    | none => .error (.notFound id)
    | some text => (Item.decode text).mapError .unreadable
  | .folders => listing s.folders
  | .items query => listing (s.children.lookup (query.parent, query.kind))

/-- The shelf as a server. -/
def server : Server Shelf where
  answer r s :=
    match s.failures.lookup r.place with
    | some cause => (.error cause, s)
    | none => (s.find r, s)

end Shelf

end MusicLibrary.Browsing
