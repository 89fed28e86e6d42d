import MusicLibrary.Catalogue.Kind

/-!
# Queries for items

A query asks the server for the items below a parent or of one kind. It is sent as a list of named
parameters, and what the query leaves open is not mentioned.
-/

namespace MusicLibrary.Catalogue

/-- A query for items. -/
structure ItemQuery where
  /-- Items at any depth are wanted. -/
  recursive : Bool
  /-- The identifier of the item below which to look. -/
  parent : Option String
  /-- The kind of the items wanted. -/
  kind : Option ItemKind
  /-- The members that the answer shall hold beyond the usual ones. -/
  fields : List String
  deriving DecidableEq, Repr

namespace ItemQuery

/-- All items of a kind below a parent. -/
def childrenOf (parent : String) (kind : ItemKind) : ItemQuery := ⟨true, some parent, some kind, []⟩

/-- The query for one member more. -/
def withField (q : ItemQuery) (field : String) : ItemQuery := { q with fields := q.fields ++ [field] }

/-- The parameters of a query, by name. -/
def params (q : ItemQuery) : List (String × String) :=
  (if q.recursive then [("Recursive", "true")] else []) ++
  (q.parent.map fun parent => ("ParentId", parent)).toList ++
  (q.kind.map fun kind => ("IncludeItemTypes", kind.name)).toList ++
  (if q.fields.isEmpty then [] else [("Fields", ",".intercalate q.fields)])

end ItemQuery

end MusicLibrary.Catalogue
