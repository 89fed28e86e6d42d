import MusicLibrary.Yaml.Token

/-!
# From text to tokens

Indentation opens and closes sequences and mappings, and a key is known for one only when the colon behind
it is found: the token that announces it is then put in front of what has been read since. Where such a
key may begin is remembered, one place for each open flow collection; it must be followed by its colon on
the same line and within 1024 bytes.
-/

namespace MusicLibrary.Yaml

/-- Where a key may have begun. -/
structure PossibleKey where
  /-- Nothing but a key can stand there. -/
  required : Bool
  /-- The number of tokens before the key. -/
  position : Nat
  /-- The number of bytes from the key to the end of the text. -/
  remaining : Nat
  /-- The line of the key. -/
  line : Nat
  /-- The column of the key. -/
  column : Nat
  deriving DecidableEq, Repr

/-- The reading of a text in progress. -/
structure Layout where
  /-- The place that has been reached. -/
  place : Place
  /-- The tokens found so far, in reverse order. -/
  tokens : List Token
  /-- The column of the innermost block; `-1` outside of all blocks. -/
  indent : Int
  /-- The columns of the blocks around it. -/
  outerIndents : List Int
  /-- A key may begin at the place. -/
  keyAllowed : Bool
  /-- Where a key may have begun in the innermost collection. -/
  possibleKey : Option PossibleKey
  /-- The same for the collections around it, as far as they are around flow collections. -/
  outerKeys : List (Option PossibleKey)
  deriving DecidableEq, Repr

namespace Layout

/-- The start of a text. -/
def start (s : List Char) : Layout := ⟨⟨s, 0, 0⟩, [], -1, [], true, none, []⟩

/-- The place is inside a flow collection. -/
def inFlow (l : Layout) : Bool := !l.outerKeys.isEmpty

/-- One more token. -/
def push (l : Layout) (t : Token) : Layout := { l with tokens := t :: l.tokens }

/-! ### Keys -/

/-- A key that has not been followed by its colon in time is none; if nothing else can stand there, the text is
spoiled. The place reached is in the given line, and so many bytes are left from there on. -/
def expire (line remaining : Nat) (key : Option PossibleKey) : Option (Option PossibleKey) :=
  match key with
  | none => some none
  | some k =>
    if k.line < line || 1024 < k.remaining - remaining then
      if k.required then none else some none
    else some (some k)

/-- All possible keys checked at the place reached. -/
def expireKeys (l : Layout) : Option Layout := do
  let remaining := byteCount l.place.rest
  let possibleKey ← expire l.place.line remaining l.possibleKey
  let outerKeys ← l.outerKeys.mapM (expire l.place.line remaining)
  return { l with possibleKey, outerKeys }

/-- No key can have begun in the innermost collection; if nothing else can stand there, the text is spoiled. -/
def dropKey (l : Layout) : Option Layout :=
  match l.possibleKey with
  | some k => if k.required then none else some { l with possibleKey := none }
  | none => some l

/-- A key may begin at the place, if one is allowed there. -/
def saveKey (l : Layout) : Option Layout :=
  if l.keyAllowed then do
    let l ← l.dropKey
    let required := !l.inFlow && l.indent == (l.place.column : Int)
    let key : PossibleKey := ⟨required, l.tokens.length, byteCount l.place.rest, l.place.line, l.place.column⟩
    return { l with possibleKey := some key }
  else some l

/-! ### Indentation -/

/-- The tokens with `token` at the given position. -/
def insertAt (l : Layout) (position : Nat) (token : Token) : Layout :=
  let newer := l.tokens.length - position
  { l with tokens := l.tokens.take newer ++ token :: l.tokens.drop newer }

/-- A block begins at a column, if that lies further in than the innermost block; `token` announces it at the
given position among the tokens. -/
def indentTo (l : Layout) (column position : Nat) (token : Token) : Layout :=
  if l.inFlow || (column : Int) ≤ l.indent then l
  else { l.insertAt position token with indent := column, outerIndents := l.indent :: l.outerIndents }

/-- The blocks that lie further in than a column end: `outer` are the columns of the blocks around the innermost
one, which is at `indent`. -/
def closeBlocks (column : Int) (tokens : List Token) (indent : Int) : List Int → List Token × Int × List Int
  | [] => (tokens, indent, [])
  | i :: outer =>
    if column < indent then closeBlocks column (.blockEnd :: tokens) i outer else (tokens, indent, i :: outer)

/-- The blocks that lie further in than a column end. -/
def unindentTo (l : Layout) (column : Int) : Layout :=
  if l.inFlow then l
  else
    let (tokens, indent, outerIndents) := closeBlocks column l.tokens l.indent l.outerIndents
    { l with tokens, indent, outerIndents }

/-! ### Between tokens -/

/-- The place of the next token, and whether a key may begin there: blanks, comments and line ends are passed,
and a mark of the byte order at the start of a line, which takes up a column. A tab is a blank only where no
key may begin, or inside a flow collection; a line end outside of these makes room for a key. -/
def nextPlace (inFlow keyAllowed : Bool) (inComment : Bool) (line column : Nat) : List Char → Place × Bool
  | [] => (⟨[], line, column⟩, keyAllowed)
  | c :: s =>
    if isBreak c then nextPlace inFlow (keyAllowed || !inFlow) false (line + 1) 0 s
    else if inComment || c == ' ' || (c == '\t' && (inFlow || !keyAllowed)) || (column == 0 && isByteOrderMark c) then
      nextPlace inFlow keyAllowed inComment line (column + 1) s
    else if c = '#' then nextPlace inFlow keyAllowed true line (column + 1) s
    else (⟨c :: s, line, column⟩, keyAllowed)

/-- The reading at the next token. -/
def advance (l : Layout) : Layout :=
  let (place, keyAllowed) := nextPlace l.inFlow l.keyAllowed false l.place.line l.place.column l.place.rest
  { l with place, keyAllowed }

/-! ### Tokens -/

/-- A token of `width` characters, after which a key may begin or not. -/
def take (l : Layout) (width : Nat) (token : Token) (keyAllowed : Bool) : Layout :=
  { l.push token with place := l.place.skip width, keyAllowed }

/-- The directive at the place. -/
def takeDirective (l : Layout) : Option Layout := do
  let l ← (l.unindentTo (-1)).dropKey
  let (token, place) ← directive l.place
  return { l.push token with place, keyAllowed := false }

/-- The document mark at the place. -/
def takeDocumentMark (l : Layout) (token : Token) : Option Layout := do
  let l ← (l.unindentTo (-1)).dropKey
  return l.take 3 token false

/-- The opening bracket at the place. -/
def openFlow (l : Layout) (token : Token) : Option Layout := do
  let l ← l.saveKey
  return { l.take 1 token true with possibleKey := none, outerKeys := l.possibleKey :: l.outerKeys }

/-- The closing bracket at the place. -/
def closeFlow (l : Layout) (token : Token) : Option Layout := do
  let l ← l.dropKey
  let l := l.take 1 token false
  match l.outerKeys with
  | [] => some l
  | key :: outerKeys => some { l with possibleKey := key, outerKeys }

/-- The comma at the place. -/
def takeComma (l : Layout) : Option Layout := do
  let l ← l.dropKey
  return l.take 1 .flowEntry true

/-- The dash of an element at the place. -/
def takeDash (l : Layout) : Option Layout := do
  if !l.inFlow && !l.keyAllowed then none
  let l ← (l.indentTo l.place.column l.tokens.length .blockSequenceStart).dropKey
  return l.take 1 .blockEntry true

/-- The question mark of a key at the place. -/
def takeKey (l : Layout) : Option Layout := do
  if !l.inFlow && !l.keyAllowed then none
  let l ← (l.indentTo l.place.column l.tokens.length .blockMappingStart).dropKey
  return l.take 1 .key (!l.inFlow)

/-- The colon of a value at the place. If a key may have begun before it, that key has been found. -/
def takeValue (l : Layout) : Option Layout :=
  match l.possibleKey with
  | some k =>
    let l := (l.insertAt k.position .key).indentTo k.column k.position .blockMappingStart
    some ({ l with possibleKey := none }.take 1 .value false)
  | none =>
    if !l.inFlow && !l.keyAllowed then none
    else
      let l := l.indentTo l.place.column l.tokens.length .blockMappingStart
      some (l.take 1 .value (!l.inFlow))

/-- The alias or anchor at the place. -/
def takeName (l : Layout) (token : List Char → Token) : Option Layout := do
  let l ← l.saveKey
  let (name, place) ← anchorName (l.place.skip 1)
  return { l.push (token name) with place, keyAllowed := false }

/-- The tag at the place. -/
def takeTag (l : Layout) : Option Layout := do
  let l ← l.saveKey
  let (name, place) ← tagName l.inFlow l.place
  return { l.push (.tag name) with place, keyAllowed := false }

/-- The block at the place. -/
def takeBlock (l : Layout) (style : Style) : Option Layout := do
  let l ← l.dropKey
  let (text, place) ← block style l.indent l.place
  return { l.push (.scalar style text) with place, keyAllowed := true }

/-- The quoted scalar at the place. -/
def takeQuoted (l : Layout) (style : Style) : Option Layout := do
  let l ← l.saveKey
  let (text, place) ← quoted style l.place
  return { l.push (.scalar style text) with place, keyAllowed := false }

/-- The plain scalar at the place. -/
def takePlain (l : Layout) : Option Layout := do
  let l ← l.saveKey
  let e ← plain l.inFlow (l.indent + 1).toNat l.place
  return { l.push (.scalar .plain e.text) with place := e.place, keyAllowed := e.lineEnded }

/-- A character that no plain scalar starts with. -/
def isIndicator (c : Char) : Bool := isSpace c || "-?:,[]\x7b\x7d#&*!|>'\"%@`".toList.contains c

/-- A plain scalar starts with the character `c` before the text `s`. -/
def startsPlain (inFlow : Bool) (c : Char) (s : List Char) : Bool :=
  !isIndicator c || (c == '-' && !s.head?.any isBlank) ||
    (!inFlow && (c == '?' || c == ':') && !startsWithSpace s)

/-- The token at the place, which starts with the character `c` before the text `s`. -/
def takeToken (l : Layout) (c : Char) (s : List Char) : Option Layout :=
  let atMark := l.place.column == 0 && atDocumentMark (c :: s)
  if l.place.column == 0 && c == '%' then l.takeDirective
  else if atMark && c == '-' then l.takeDocumentMark .documentStart
  else if atMark && c == '.' then l.takeDocumentMark .documentEnd
  else if c = '[' then l.openFlow .flowSequenceStart
  else if c = '{' then l.openFlow .flowMappingStart
  else if c = ']' then l.closeFlow .flowSequenceEnd
  else if c = '}' then l.closeFlow .flowMappingEnd
  else if c = ',' then l.takeComma
  else if c == '-' && startsWithSpace s then l.takeDash
  else if c == '?' && (l.inFlow || startsWithSpace s) then l.takeKey
  else if c == ':' && (l.inFlow || startsWithSpace s) then l.takeValue
  else if c = '*' then l.takeName .alias
  else if c = '&' then l.takeName .anchor
  else if c = '!' then l.takeTag
  else if c == '|' && !l.inFlow then l.takeBlock .literal
  else if c == '>' && !l.inFlow then l.takeBlock .folded
  else if c.toNat = 39 then l.takeQuoted .singleQuoted
  else if c = '"' then l.takeQuoted .doubleQuoted
  else if startsPlain l.inFlow c s then l.takePlain
  else none

/-- The end of the text: all blocks end. -/
def finish (l : Layout) : Option Layout := do
  let l ← (l.unindentTo (-1)).dropKey
  return l.push .streamEnd

/-- The reading at the next token, the keys checked and the blocks ended that cannot go on there. -/
def atToken (l : Layout) : Option Layout :=
  l.advance.expireKeys.map fun t => t.unindentTo t.place.column

/-- The reading up to the end of the text. A token that takes up nothing would be none. -/
def run (l : Layout) : Option (List Token) :=
  match l.atToken with
  | none => none
  | some t =>
    match t.place.rest with
    | [] => t.finish.map fun e => e.tokens.reverse
    | c :: s =>
      match t.takeToken c s with
      | none => none
      | some next => if next.place.rest.length < l.place.rest.length then run next else none
termination_by l.place.rest.length

end Layout

/-- The tokens of a prepared document. -/
def tokens (s : List Char) : Option (List Token) := (Layout.start s).run

end MusicLibrary.Yaml
