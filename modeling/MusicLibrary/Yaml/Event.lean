import MusicLibrary.Yaml.Layout

/-!
# From tokens to nodes

The nodes of a document as the sequence of their beginnings and ends. What the tokens must say next is
kept as a stack of expectations. A token either fulfils the topmost expectation, or the expectation gives
way, perhaps with an empty scalar in place of what was left out, and the token is put to the one
below it; so the tokens are read one by one, each against a stack that only shrinks in between.
-/

namespace MusicLibrary.Yaml

/-- The name and the tag that a node is given. -/
structure Properties where
  /-- The name for later repetitions. -/
  anchor : Option (List Char)
  /-- The tag in full. -/
  tag : Option (List Char)
  deriving DecidableEq, Repr

/-- A text and how it is written. -/
structure Scalar where
  /-- The tag in full. -/
  tag : Option (List Char)
  /-- How the text is written. -/
  style : Style
  /-- The text. -/
  text : List Char
  deriving DecidableEq, Repr

/-- The beginning or end of a node, or all of it. -/
inductive Event where
  /-- A repetition of the node of that name. -/
  | alias (name : List Char)
  /-- A text. -/
  | scalar (anchor : Option (List Char)) (scalar : Scalar)
  /-- A sequence begins. -/
  | sequenceStart (anchor : Option (List Char))
  /-- A sequence ends. -/
  | sequenceEnd
  /-- A mapping begins; keys and values alternate. -/
  | mappingStart (anchor : Option (List Char))
  /-- A mapping ends. -/
  | mappingEnd
  deriving DecidableEq, Repr

/-- Where a node stands, which decides how it may be written and whether it may be left out. -/
inductive Position where
  /-- The node of the document. -/
  | document
  /-- An element of a sequence that begins by indentation. -/
  | blockElement
  /-- An element of a sequence that is indented like the key it belongs to. -/
  | flatElement
  /-- A key or value of a mapping that begins by indentation. -/
  | blockMember
  /-- An element of a flow sequence. -/
  | flowElement
  /-- The value of a pair in a flow sequence. -/
  | pairValue
  /-- A key of a flow mapping. -/
  | flowKey
  /-- A value of a flow mapping. -/
  | flowValue
  deriving DecidableEq, Repr

namespace Position

/-- A node may begin by indentation there. -/
def allowsBlocks : Position → Bool
  | document | blockElement | flatElement | blockMember => true
  | _ => false

/-- The dash of an element begins a sequence there. -/
def allowsFlat : Position → Bool
  | blockMember => true
  | _ => false

/-- The node has been left out if the token comes there. -/
def isOmittedAt : Position → Token → Bool
  | document, t =>
    match t with
    | .version .. | .handle .. | .documentStart | .documentEnd | .streamEnd => true
    | _ => false
  | blockElement, t => t == .blockEntry || t == .blockEnd
  | flatElement, t => t == .blockEntry || t == .key || t == .value || t == .blockEnd
  | blockMember, t => t == .key || t == .value || t == .blockEnd
  | flowElement, _ => false
  | pairValue, t => t == .flowEntry || t == .flowSequenceEnd
  | flowKey, t => t == .value || t == .flowEntry || t == .flowMappingEnd
  | flowValue, t => t == .flowEntry || t == .flowMappingEnd

end Position

/-- What the tokens must say next. -/
inductive Expectation where
  /-- A node, which may be left out. -/
  | optional (position : Position)
  /-- A node. -/
  | node (position : Position)
  /-- The content of a node that has been given a name or a tag. -/
  | content (position : Position) (properties : Properties)
  /-- The elements of a sequence that begins by indentation. -/
  | blockElements
  /-- The elements of a sequence that is indented like the key it belongs to. -/
  | flatElements
  /-- The members of a mapping that begins by indentation. -/
  | blockMembers
  /-- The value of a member. -/
  | blockValue
  /-- The elements of a flow sequence, `ready` saying that one may come without a comma before it. -/
  | flowElements (ready : Bool)
  /-- The key of a pair in a flow sequence. -/
  | pairKey
  /-- The value of a pair in a flow sequence. -/
  | pairValue
  /-- The end of a pair in a flow sequence. -/
  | pairEnd
  /-- The members of a flow mapping, `ready` saying that one may come without a comma before it. -/
  | flowMembers (ready : Bool)
  /-- The value of a member of a flow mapping. -/
  | flowValue
  /-- The value of a member of a flow mapping that has none. -/
  | noValue
  /-- The end of the document. -/
  | closing
  deriving DecidableEq, Repr

/-- The reading of tokens in progress. -/
structure Reading where
  /-- What the tokens must say next. -/
  stack : List Expectation
  /-- The events so far, in reverse order. -/
  events : List Event
  deriving DecidableEq, Repr

/-- What the handles of tags stand for. -/
abbrev Handles := List (List Char × List Char)

/-- A tag in full; the handle must stand for something. -/
def fullTag (handles : Handles) (name : TagName) : Option (List Char) :=
  if name.handle.isEmpty then some name.suffix else (handles.lookup name.handle).map (· ++ name.suffix)

/-- The text left out where one could stand. -/
def emptyScalar (properties : Properties) : Event := .scalar properties.anchor ⟨properties.tag, .plain, []⟩

/-- The properties of a node without name and tag. -/
def noProperties : Properties := ⟨none, none⟩

/-- The reading after a token that begins the content of a node at `position`; `none` if the token begins no
content there. -/
def beginContent (position : Position) (properties : Properties) (stack : List Expectation)
    (events : List Event) (t : Token) : Option Reading :=
  match t with
  | .scalar style text => some ⟨stack, .scalar properties.anchor ⟨properties.tag, style, text⟩ :: events⟩
  | .flowSequenceStart => some ⟨.flowElements true :: stack, .sequenceStart properties.anchor :: events⟩
  | .flowMappingStart => some ⟨.flowMembers true :: stack, .mappingStart properties.anchor :: events⟩
  | .blockSequenceStart =>
    if position.allowsBlocks then some ⟨.blockElements :: stack, .sequenceStart properties.anchor :: events⟩ else none
  | .blockMappingStart =>
    if position.allowsBlocks then some ⟨.blockMembers :: stack, .mappingStart properties.anchor :: events⟩ else none
  | .blockEntry =>
    if position.allowsFlat then
      some ⟨.optional .flatElement :: .flatElements :: stack, .sequenceStart properties.anchor :: events⟩
    else none
  | _ => none

/-- The reading after a token that begins a node at `position`. -/
def beginNode (handles : Handles) (position : Position) (stack : List Expectation) (events : List Event)
    (t : Token) : Option Reading :=
  match t with
  | .alias name => some ⟨stack, .alias name :: events⟩
  | .anchor name => some ⟨.content position ⟨some name, none⟩ :: stack, events⟩
  | .tag name => (fullTag handles name).map fun tag => ⟨.content position ⟨none, some tag⟩ :: stack, events⟩
  | t => beginContent position noProperties stack events t

/-- The properties with one more that a token gives: a name beside a tag, or a tag beside a name. -/
def Properties.add (handles : Handles) (p : Properties) : Token → Option Properties
  | .anchor name => if p.anchor.isNone then some { p with anchor := some name } else none
  | .tag name =>
    if p.tag.isNone then (fullTag handles name).map fun tag => { p with tag := some tag } else none
  | _ => none

/-- The reading after one more token. -/
def feed (handles : Handles) (t : Token) (events : List Event) : List Expectation → Option Reading
  | [] => none
  | .optional position :: stack =>
    if position.isOmittedAt t then feed handles t (emptyScalar noProperties :: events) stack
    else beginNode handles position stack events t
  | .node position :: stack => beginNode handles position stack events t
  | .content position properties :: stack =>
    match properties.add handles t with
    | some properties => some ⟨.content position properties :: stack, events⟩
    | none =>
      match beginContent position properties stack events t with
      | some r => some r
      | none => feed handles t (emptyScalar properties :: events) stack
  | .blockElements :: stack =>
    match t with
    | .blockEntry => some ⟨.optional .blockElement :: .blockElements :: stack, events⟩
    | .blockEnd => some ⟨stack, .sequenceEnd :: events⟩
    | _ => none
  | .flatElements :: stack =>
    match t with
    | .blockEntry => some ⟨.optional .flatElement :: .flatElements :: stack, events⟩
    | t => feed handles t (.sequenceEnd :: events) stack
  | .blockMembers :: stack =>
    match t with
    | .key => some ⟨.optional .blockMember :: .blockValue :: .blockMembers :: stack, events⟩
    | .blockEnd => some ⟨stack, .mappingEnd :: events⟩
    | _ => none
  | .blockValue :: stack =>
    match t with
    | .value => some ⟨.optional .blockMember :: stack, events⟩
    | t => feed handles t (emptyScalar noProperties :: events) stack
  | .flowElements ready :: stack =>
    match ready, t with
    | _, .flowSequenceEnd => some ⟨stack, .sequenceEnd :: events⟩
    | false, .flowEntry => some ⟨.flowElements true :: stack, events⟩
    | false, _ => none
    | true, .key =>
      some ⟨.pairKey :: .pairValue :: .pairEnd :: .flowElements false :: stack, .mappingStart none :: events⟩
    | true, t => beginNode handles .flowElement (.flowElements false :: stack) events t
  | .pairKey :: stack =>
    match t with
    | .value | .flowEntry | .flowSequenceEnd => some ⟨stack, emptyScalar noProperties :: events⟩
    | t => beginNode handles .flowElement stack events t
  | .pairValue :: stack =>
    match t with
    | .value => some ⟨.optional .pairValue :: stack, events⟩
    | t => feed handles t (emptyScalar noProperties :: events) stack
  | .pairEnd :: stack => feed handles t (.mappingEnd :: events) stack
  | .flowMembers ready :: stack =>
    match ready, t with
    | _, .flowMappingEnd => some ⟨stack, .mappingEnd :: events⟩
    | false, .flowEntry => some ⟨.flowMembers true :: stack, events⟩
    | false, _ => none
    | true, .key => some ⟨.optional .flowKey :: .flowValue :: .flowMembers false :: stack, events⟩
    | true, t => beginNode handles .flowKey (.noValue :: .flowMembers false :: stack) events t
  | .flowValue :: stack =>
    match t with
    | .value => some ⟨.optional .flowValue :: stack, events⟩
    | t => feed handles t (emptyScalar noProperties :: events) stack
  | .noValue :: stack => feed handles t (emptyScalar noProperties :: events) stack
  | .closing :: stack =>
    match t with
    | .documentEnd => some ⟨.closing :: stack, events⟩
    | .streamEnd => some ⟨stack, events⟩
    | _ => none

/-! ### Documents -/

/-- The handles that need no directive. -/
def defaultHandles : Handles := [(['!'], ['!']), (['!', '!'], "tag:yaml.org,2002:".toList)]

/-- The directives before a document: the version is stated at most once, and a handle has one meaning. The
tokens after them, and the handles. -/
def directives (versionSeen : Bool) (handles : Handles) : List Token → Option (Handles × List Token)
  | .version major minor :: ts =>
    if versionSeen || major ≠ 1 || (minor ≠ 1 && minor ≠ 2) then none else directives true handles ts
  | .handle handle start :: ts =>
    if (handles.lookup handle).isSome then none else directives versionSeen ((handle, start) :: handles) ts
  | ts => some (handles ++ defaultHandles, ts)

/-- The events that tokens stand for, against a stack of expectations. -/
def readTokens (handles : Handles) (stack : List Expectation) (ts : List Token) : Option (List Event) :=
  match ts.foldlM (fun (r : Reading) t => feed handles t r.events r.stack) ⟨stack, []⟩ with
  | some ⟨[], events⟩ => some events.reverse
  | _ => none

/-- The events of the only document of a text; none if there is no document. -/
def events (ts : List Token) : Option (List Event) :=
  match ts with
  | [.streamEnd] => some []
  | .version .. :: _ | .handle .. :: _ | .documentStart :: _ =>
    match directives false [] ts with
    | some (handles, .documentStart :: ts) => readTokens handles [.optional .document, .closing] ts
    | _ => none
  | ts => readTokens defaultHandles [.node .document, .closing] ts

end MusicLibrary.Yaml
