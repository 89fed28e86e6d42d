import MusicLibrary.Browsing.Resolve

/-!
# A walk through a library

What the command prints. Without an item it goes from the root down to the first album, always into the
first child, and prints every node on the way with its children; an empty line stands between two nodes.
With an item it prints that item, or where its stream is found if it cannot be opened. A failure ends
the walk, and what has been printed stays. What is logged on the way is not printed: log lines, though they
may be written to the same place, are no part of the text of a report.
-/

namespace MusicLibrary

open Browsing Media

/-- What a walk has printed, and why it ended early if it did. -/
structure Report where
  /-- The text printed. -/
  text : String
  /-- The failure that ended the walk. -/
  cause : Option Failure
  deriving DecidableEq, Repr

/-- The walk has failed. -/
def Report.failed (r : Report) : Bool := r.cause.isSome

namespace Walk

/-- What the walk would rather see. -/
def preferred : List String := ["Audio"]

/-- What is printed for an identifier. -/
def identifierText (identifier : Option String) : String := identifier.getD "-"

/-- The line of a child. -/
def childLine (child : Node) : String :=
  "  " ++ (if child.canPlay then "▶" else "+") ++ " " ++ child.title ++ " (" ++ identifierText child.identifier ++ ")\n"

/-- The lines of a node and its children. -/
def nodeText (node : Node) : String :=
  node.title ++ " [" ++ node.mediaClass.name ++ "] " ++ identifierText node.identifier ++ "\n" ++
    String.join (node.childList.map childLine)

/-- The identifier to go on with: that of the first child. -/
def nextIdentifier? (node : Node) : Option String :=
  match node.childList with
  | [] => none
  | child :: _ => child.identifier

/-- At most `levels` more nodes, from `node` on downwards, after `text` has been printed. -/
def descend (session : Session) (levels : Nat) (node : Node) (text : String) : Dialogue Report :=
  match levels, nextIdentifier? node with
  | 0, _ => .done ⟨text, none⟩
  | _, none => .done ⟨text, none⟩
  | n + 1, some id =>
    (browse session (some id) preferred).bind fun
      | .error cause => .done ⟨text ++ "\n", some cause⟩
      | .ok next => descend session n next (text ++ "\n" ++ nodeText next)

/-- The walk from the root: a library, an artist and an album below it. -/
def fromRoot (session : Session) : Dialogue Report :=
  (browse session none preferred).bind fun
    | .error cause => .done ⟨"", some cause⟩
    | .ok root => descend session 3 root (nodeText root)

/-- What is printed for a stream. -/
def playbackText (p : Playback) : String := p.url ++ " (" ++ p.contentType ++ ")\n"

/-- The item of the given identifier. -/
def ofItem (session : Session) (id : String) : Dialogue Report :=
  (browse session (some id) preferred).bind fun
    | .ok node => .done ⟨nodeText node, none⟩
    | .error (.unsupportedItemKind _) =>
      (resolve session id).map fun
        | .ok p => ⟨playbackText p, none⟩
        | .error cause => ⟨"", some cause⟩
    | .error cause => .done ⟨"", some cause⟩

/-- The walk to the item of the given identifier, or from the root if there is none. -/
def run (session : Session) (identifier : Option String) : Dialogue Report :=
  match identifier with
  | none => fromRoot session
  | some id => ofItem session id

end Walk

end MusicLibrary
