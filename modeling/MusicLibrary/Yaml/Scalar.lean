import MusicLibrary.Yaml.Character

/-!
# Scalars

The five ways to write a text: plain, in single or double quotes, and as a literal or folded block. A
line end within a plain or quoted scalar stands for a blank, and several of them for all but the first;
blocks keep their lines, and folded blocks join those that are not indented further. Each reader walks
through the text once and gives the scalar's text and the place after it. Nothing comes out of a text
that is not well formed.
-/

namespace MusicLibrary.Yaml

/-- How a scalar is written. -/
inductive Style where
  /-- Without quotes. -/
  | plain
  /-- In single quotes. -/
  | singleQuoted
  /-- In double quotes. -/
  | doubleQuoted
  /-- As a block whose lines are kept. -/
  | literal
  /-- As a block whose lines are joined. -/
  | folded
  deriving DecidableEq, Repr

/-! ### Gaps between words -/

/-- The blanks and line ends since the last word of a scalar. -/
inductive Gap where
  /-- Blanks only, in reverse order. -/
  | blanks (reversed : List Char)
  /-- A line end, and those after it in reverse order. -/
  | broken (first : Char) (reversed : List Char)
  /-- A line end that a backslash takes away, and those after it in reverse order. -/
  | joined (reversed : List Char)
  deriving DecidableEq, Repr

namespace Gap

/-- No gap. -/
def none : Gap := .blanks []

/-- The gap with one more blank. Blanks count only as long as the line goes on. -/
def blank (c : Char) : Gap → Gap
  | blanks cs => blanks (c :: cs)
  | gap => gap

/-- The gap with one more line end. -/
def lineEnd (c : Char) : Gap → Gap
  | blanks _ => broken c []
  | broken first cs => broken first (c :: cs)
  | joined cs => joined (c :: cs)

/-- The gap holds a line end. -/
def isBroken : Gap → Bool
  | blanks _ => false
  | _ => true

/-- There is a gap. -/
def isOpen : Gap → Bool
  | blanks [] => false
  | _ => true

/-- What the gap stands for, in reverse order, put before `text`. -/
def push (text : List Char) : Gap → List Char
  | blanks cs => cs ++ text
  | joined cs => cs ++ text
  | broken first cs =>
    if first = '\n' then (if cs.isEmpty then ' ' :: text else cs ++ text) else cs ++ first :: text

end Gap

/-! ### Plain scalars -/

/-- A plain scalar and what comes after it. -/
structure PlainEnd where
  /-- The text of the scalar. -/
  text : List Char
  /-- The place after the scalar and the blanks and line ends behind it. -/
  place : Place
  /-- A line has ended behind the scalar. -/
  lineEnded : Bool
  deriving DecidableEq, Repr

/-- A plain scalar, from within it on: `text` is what has been read, in reverse order, and `gap` what has
been passed since. The lines after the first must be indented to the column `margin`, unless the scalar
stands in a flow collection. -/
def plainFrom (inFlow : Bool) (margin : Nat) (text : List Char) (gap : Gap) (line column : Nat) :
    List Char → Option PlainEnd
  | [] => some ⟨text.reverse, ⟨[], line, column⟩, gap.isBroken⟩
  | c :: s =>
    let ended : Option PlainEnd := some ⟨text.reverse, ⟨c :: s, line, column⟩, gap.isBroken⟩
    if isBlank c then
      if c = '\t' ∧ gap.isBroken ∧ column < margin then none
      else plainFrom inFlow margin text (gap.blank c) line (column + 1) s
    else if isBreak c then plainFrom inFlow margin text (gap.lineEnd c) (line + 1) 0 s
    else if gap.isOpen && ((!inFlow && column < margin) || (column == 0 && atDocumentMark (c :: s)) || c == '#') then
      ended
    else if inFlow && c == ':' && s.head?.any fun d => isFlowIndicator d || d == '?' then none
    else if (c == ':' && startsWithSpace s) || (inFlow && isFlowIndicator c) then ended
    else plainFrom inFlow margin (c :: gap.push text) .none line (column + 1) s

/-- The plain scalar at a place. -/
def plain (inFlow : Bool) (margin : Nat) (p : Place) : Option PlainEnd :=
  plainFrom inFlow margin [] .none p.line p.column p.rest

/-! ### Quoted scalars -/

/-- A scalar in single quotes, from within it on. -/
def singleFrom (text : List Char) (gap : Gap) (line column : Nat) : List Char → Option (List Char × Place)
  | [] => none
  | c :: s =>
    if isBlank c then singleFrom text (gap.blank c) line (column + 1) s
    else if isBreak c then singleFrom text (gap.lineEnd c) (line + 1) 0 s
    else if column == 0 && atDocumentMark (c :: s) then none
    else if c.toNat = 39 then
      match s with
      | d :: t =>
        if d.toNat = 39 then singleFrom (c :: gap.push text) .none line (column + 2) t
        else some ((gap.push text).reverse, ⟨d :: t, line, column + 1⟩)
      | [] => some ((gap.push text).reverse, ⟨[], line, column + 1⟩)
    else singleFrom (c :: gap.push text) .none line (column + 1) s

/-- The value of a hexadecimal digit. -/
def hexDigit? (c : Char) : Option Nat :=
  if '0' ≤ c ∧ c ≤ '9' then some (c.toNat - 48)
  else if 'a' ≤ c ∧ c ≤ 'f' then some (c.toNat - 87)
  else if 'A' ≤ c ∧ c ≤ 'F' then some (c.toNat - 55)
  else none

/-- The number written by hexadecimal digits. -/
def hexNumber? (digits : List Char) : Option Nat :=
  digits.foldlM (fun n c => (hexDigit? c).map (n * 16 + ·)) 0

/-- The character that a number stands for. -/
def character? (n : Nat) : Option Char :=
  if h : n.isValidChar then some (Char.ofNatAux n h) else none

/-- The character of an escape of one letter. -/
def letterEscape? (c : Char) : Option Char :=
  [('0', 0), ('a', 7), ('b', 8), ('t', 9), ('\t', 9), ('n', 10), ('v', 11), ('f', 12), ('r', 13), ('e', 27),
    (' ', 32), ('"', 34), ('/', 47), ('\\', 92), ('N', 0x85), ('_', 0xA0), ('L', 0x2028), ('P', 0x2029)].lookup c
    |>.map Char.ofNat

/-- The number of hexadecimal digits that an escape letter asks for. -/
def escapeWidth? (c : Char) : Option Nat := [('x', 2), ('u', 4), ('U', 8)].lookup c

/-- The character of an escape, read after its backslash, and the number of characters of the escape. -/
def escape? : List Char → Option (Char × Nat)
  | [] => none
  | c :: s =>
    match letterEscape? c with
    | some d => some (d, 1)
    | none =>
      match escapeWidth? c with
      | none => none
      | some width =>
        if s.length < width then none
        else ((hexNumber? (s.take width)).bind character?).map fun d => (d, width + 1)

/-- A scalar in double quotes, from within it on; the next `skip` characters belong to an escape that has
been read. -/
def doubleFrom (text : List Char) (gap : Gap) (line column skip : Nat) : List Char → Option (List Char × Place)
  | [] => none
  | c :: s =>
    match skip with
    | n + 1 => doubleFrom text gap line (column + 1) n s
    | 0 =>
      if isBlank c then doubleFrom text (gap.blank c) line (column + 1) 0 s
      else if isBreak c then doubleFrom text (gap.lineEnd c) (line + 1) 0 0 s
      else if column == 0 && atDocumentMark (c :: s) then none
      else if c = '"' then some ((gap.push text).reverse, ⟨s, line, column + 1⟩)
      else if c = '\\' then
        match s with
        | [] => none
        | b :: t =>
          if isBreak b then doubleFrom (gap.push text) (.joined []) (line + 1) 0 0 t
          else
            match escape? (b :: t) with
            | none => none
            | some (d, width) => doubleFrom (d :: gap.push text) .none line (column + 1) width (b :: t)
      else doubleFrom (c :: gap.push text) .none line (column + 1) 0 s

/-- The quoted scalar at a place, which is its opening quote. -/
def quoted (style : Style) (p : Place) : Option (List Char × Place) :=
  let q := p.skip 1
  if style = .singleQuoted then singleFrom [] .none q.line q.column q.rest
  else doubleFrom [] .none q.line q.column 0 q.rest

/-! ### Blocks -/

/-- What happens to the line ends at the end of a block. -/
inductive Chomping where
  /-- All are dropped. -/
  | strip
  /-- The first is kept. -/
  | clip
  /-- All are kept. -/
  | keep
  deriving DecidableEq, Repr

/-- How a block is written: what happens at its end, and how far it is indented beyond the block around it,
if that is stated. -/
structure BlockHeader where
  /-- What happens to the line ends at the end. -/
  chomping : Chomping
  /-- The number of columns of further indentation. -/
  increment : Option Nat
  deriving DecidableEq, Repr

/-- The indicator for the end of a block. -/
def chomping? (c : Char) : Option Chomping :=
  if c = '+' then some .keep else if c = '-' then some .strip else none

/-- The header of a block, read after its first indicator, and the place after it. The two further
indicators may come in any order. -/
def blockHeader (p : Place) : Option (BlockHeader × Place) :=
  let increment? (c : Char) : Option (Option Nat) :=
    if !c.isDigit then some none else if c = '0' then none else some (some (c.toNat - 48))
  match p.rest with
  | [] => some (⟨.clip, none⟩, p)
  | c :: s =>
    match chomping? c with
    | some chomping =>
      match s with
      | [] => some (⟨chomping, none⟩, p.skip 1)
      | d :: _ => (increment? d).map fun n => (⟨chomping, n⟩, p.skip (if n.isSome then 2 else 1))
    | none =>
      (increment? c).map fun n =>
        match n, s.head?.bind chomping? with
        | none, _ => (⟨.clip, none⟩, p)
        | some n, none => (⟨.clip, some n⟩, p.skip 1)
        | some n, some chomping => (⟨chomping, some n⟩, p.skip 2)

/-- The place after the rest of the line that opens a block, which must hold nothing but a comment. -/
def blockOpening (p : Place) : Option Place :=
  let q := (p.skipRun isBlank).skipComment
  match q.rest with
  | [] => some q
  | c :: _ => if isBreak c then some q.nextLine else none

/-- The line ends and blanks before the first line of a block whose indentation is not stated: the line ends
in reverse order, the greatest column reached, and the place after them. -/
def leadingLines (reversed : List Char) (greatest line column : Nat) :
    List Char → Option (List Char × Nat × Place)
  | [] => some (reversed, max greatest column, ⟨[], line, column⟩)
  | c :: s =>
    if c = ' ' then leadingLines reversed greatest line (column + 1) s
    else if c = '\t' then none
    else if isBreak c then leadingLines (c :: reversed) (max greatest column) (line + 1) 0 s
    else some (reversed, max greatest column, ⟨c :: s, line, column⟩)

/-- What has been read of a block. -/
structure BlockText where
  /-- The text, in reverse order. -/
  text : List Char
  /-- The end of the last line, if it has one. -/
  lastEnd : Option Char
  /-- The last line starts with a blank. -/
  indented : Bool
  /-- The ends of the empty lines after it, in reverse order. -/
  emptyLines : List Char
  deriving DecidableEq, Repr

/-- The block with the line ends so far made text, before a line that starts with the character `c`. In a
folded block a line end between two lines that are not indented further becomes a blank, or goes away if
empty lines follow it. -/
def BlockText.startLine (b : BlockText) (folding : Bool) (c : Char) : BlockText :=
  let text :=
    if folding && b.lastEnd == some '\n' && !b.indented && !isBlank c then
      if b.emptyLines.isEmpty then ' ' :: b.text else b.text
    else b.lastEnd.toList ++ b.text
  ⟨b.emptyLines ++ text, none, isBlank c, []⟩

/-- The text of a block at its end. -/
def BlockText.finish (b : BlockText) (chomping : Chomping) : List Char :=
  let text :=
    match chomping with
    | .strip => b.text
    | .clip => b.lastEnd.toList ++ b.text
    | .keep => b.emptyLines ++ (b.lastEnd.toList ++ b.text)
  text.reverse

/-- The lines of a block that is indented to the column `margin`; `inLine` says that a line has been begun. -/
def blockFrom (folding : Bool) (margin : Nat) (b : BlockText) (inLine : Bool) (line column : Nat) :
    List Char → Option (BlockText × Place)
  | [] => some (b, ⟨[], line, column⟩)
  | c :: s =>
    if inLine then
      if isBreak c then blockFrom folding margin { b with lastEnd := some c } false (line + 1) 0 s
      else blockFrom folding margin { b with text := c :: b.text } true line (column + 1) s
    else if column < margin && c == ' ' then blockFrom folding margin b false line (column + 1) s
    else if column < margin && c == '\t' then none
    else if isBreak c then
      blockFrom folding margin { b with emptyLines := c :: b.emptyLines } false (line + 1) 0 s
    else if column = margin then
      let b := b.startLine folding c
      blockFrom folding margin { b with text := c :: b.text } true line (column + 1) s
    else some (b, ⟨c :: s, line, column⟩)

/-- The block at a place, which is its first indicator, inside a block that is indented to the column
`outer`; outside of all blocks `outer` is `-1`. -/
def block (style : Style) (outer : Int) (p : Place) : Option (List Char × Place) := do
  let (header, p) ← blockHeader (p.skip 1)
  let p ← blockOpening p
  let (emptyLines, margin, p) ←
    match header.increment with
    | some n => some ([], if 0 ≤ outer then outer.toNat + n else n, p)
    | none =>
      (leadingLines [] 0 p.line p.column p.rest).map fun (emptyLines, greatest, q) =>
        (emptyLines, max (max greatest (outer + 1).toNat) 1, q)
  let (b, p) ← blockFrom (style == .folded) margin ⟨[], none, false, emptyLines⟩ false p.line p.column p.rest
  return (b.finish header.chomping, p)

end MusicLibrary.Yaml
