import MusicLibrary.Yaml.Scalar

/-!
# Tokens

The pieces that a document is made of, and the readers of those that stand on one line: anchors, aliases,
tags and directives. A tag is a handle, which a directive may give a meaning, and what follows it.
-/

namespace MusicLibrary.Yaml

/-- A tag as it is written. -/
structure TagName where
  /-- The handle: empty, `!`, or a word between two exclamation marks. -/
  handle : List Char
  /-- What follows the handle. -/
  suffix : List Char
  deriving DecidableEq, Repr

/-- A piece of a document. -/
inductive Token where
  /-- The version of the format. -/
  | version (major minor : Nat)
  /-- The meaning of a handle. -/
  | handle (handle start : List Char)
  /-- Three dashes. -/
  | documentStart
  /-- Three dots. -/
  | documentEnd
  /-- The end of everything. -/
  | streamEnd
  /-- A sequence begins by indentation. -/
  | blockSequenceStart
  /-- A mapping begins by indentation. -/
  | blockMappingStart
  /-- A sequence or mapping ends by indentation. -/
  | blockEnd
  /-- `[`. -/
  | flowSequenceStart
  /-- `]`. -/
  | flowSequenceEnd
  /-- `{`. -/
  | flowMappingStart
  /-- `}`. -/
  | flowMappingEnd
  /-- A dash before an element. -/
  | blockEntry
  /-- A comma. -/
  | flowEntry
  /-- A key follows. -/
  | key
  /-- A value follows. -/
  | value
  /-- A repetition of the node of that name. -/
  | alias (name : List Char)
  /-- A name for the node that follows. -/
  | anchor (name : List Char)
  /-- A tag for the node that follows. -/
  | tag (name : TagName)
  /-- A text. -/
  | scalar (style : Style) (text : List Char)
  deriving DecidableEq, Repr

/-! ### Names of nodes -/

/-- A character that may follow the name of an anchor or alias. -/
def endsAnchor (c : Char) : Bool := isSpace c || "?:,]\x7d%@`".toList.contains c

/-- The name of an anchor or alias, read after its indicator. -/
def anchorName (p : Place) : Option (List Char × Place) :=
  let (name, q) := p.takeRun isWordChar
  if name.isEmpty || !q.rest.head?.all endsAnchor then none else some (name, q)

/-! ### Tags -/

/-- A character that may stand in a tag; `wide` adds those that have another meaning in a flow collection. -/
def isTagChar (wide : Bool) (c : Char) : Bool :=
  isWordChar c || ";/?:@&=+$.!~*'()%".toList.contains c || (wide && ",[]".toList.contains c)

/-- The number of bytes of a character whose first byte is given. -/
def encodedLength? (n : Nat) : Option Nat :=
  if n < 0x80 then some 1
  else if n / 0x20 = 6 then some 2
  else if n / 0x10 = 0xE then some 3
  else if n / 8 = 0x1E then some 4
  else none

/-- The bytes written as `%` and two hexadecimal digits each at the start of a text: `count` of them. -/
def percentBytes (count : Nat) (s : List Char) : Option (List Nat) :=
  match count with
  | 0 => some []
  | n + 1 =>
    match s with
    | '%' :: a :: b :: t => do
      let high ← hexDigit? a
      let low ← hexDigit? b
      let bytes ← percentBytes n t
      return (high * 16 + low) :: bytes
    | _ => none

/-- The character that a run of percent-encoded bytes stands for, and the number of its bytes. Bytes that are
put together wrongly, but in the right number, stand for a character that no tag needs. -/
def percentChar? (s : List Char) : Option (Char × Nat) := do
  let first ← (← percentBytes 1 s).head?
  let count ← encodedLength? first
  let bytes ← percentBytes count s
  if bytes.tail.all fun b => b / 0x40 == 2 then
    if count = 1 then return (Char.ofNat first, 1)
    let wide := bytes.tail.foldl (fun n b => n * 0x40 + b % 0x40) (first % Nat.pow 2 (7 - count))
    return (if wide < 0x80 then Char.ofNat 0xFFFD else Char.ofNat wide, count)
  else none

/-- The part of a tag made of the characters that may stand in one; the next `skip` characters belong to a
percent-encoded character that has been read. -/
def tagText (wide : Bool) (reversed : List Char) (skip taken : Nat) : List Char → Option (List Char × Nat)
  | [] => some (reversed.reverse, taken)
  | c :: s =>
    match skip with
    | n + 1 => tagText wide reversed n (taken + 1) s
    | 0 =>
      if c = '%' then
        match percentChar? (c :: s) with
        | none => none
        | some (d, count) => tagText wide (d :: reversed) (3 * count - 1) (taken + 1) s
      else if isTagChar wide c then tagText wide (c :: reversed) 0 (taken + 1) s
      else some (reversed.reverse, taken)

/-- What follows the handle of a tag. -/
def tagSuffix (wide : Bool) (p : Place) : Option (List Char × Place) :=
  (tagText wide [] 0 0 p.rest).map fun (text, taken) => (text, p.skip taken)

/-- A handle: an exclamation mark, or a word between two. If the second one is missing, so that the word is no
handle, the flag says so. -/
def tagHandle (p : Place) : Option (List Char × Bool × Place) :=
  match p.rest with
  | '!' :: _ =>
    let (word, q) := (p.skip 1).takeRun isWordChar
    match q.rest with
    | '!' :: _ => some ('!' :: word ++ ['!'], true, q.skip 1)
    | _ => some ('!' :: word, false, q)
  | _ => none

/-- The tag at a place. -/
def tagName (inFlow : Bool) (p : Place) : Option (TagName × Place) := do
  let (tag, q) ←
    if p.rest.take 2 = ['!', '<'] then do
      let (suffix, q) ← tagSuffix true (p.skip 2)
      if suffix.isEmpty || q.head? ≠ some '>' then none else some (⟨[], suffix⟩, q.skip 1)
    else do
      let (handle, closed, q) ← tagHandle p
      let (suffix, r) ← tagSuffix false q
      if closed then (if suffix.isEmpty then none else some (⟨handle, suffix⟩, r))
      else
        let suffix := handle.tail ++ suffix
        some (if suffix.isEmpty then ⟨[], ['!']⟩ else ⟨['!'], suffix⟩, r)
  if startsWithSpace q.rest || (inFlow && q.head? == some ',') then some (tag, q) else none

/-! ### Directives -/

/-- A number of at most nine digits. -/
def versionNumber (p : Place) : Option (Nat × Place) :=
  let (digits, q) := p.takeRun Char.isDigit
  if digits.isEmpty || 9 < digits.length then none else some (Nat.ofDigitChars 10 digits 0, q)

/-- The directive at a place, which is its percent sign, up to the end of its line. -/
def directive (p : Place) : Option (Token × Place) := do
  let (name, q) := (p.skip 1).takeRun isWordChar
  if !startsWithSpace q.rest then none
  let q := q.skipRun isBlank
  let (token, q) ←
    if name = "YAML".toList then do
      let (major, q) ← versionNumber q
      if q.head? ≠ some '.' then none
      let (minor, q) ← versionNumber (q.skip 1)
      some (Token.version major minor, q)
    else if name = "TAG".toList then do
      let (handle, closed, q) ← tagHandle q
      if !closed && handle ≠ ['!'] then none
      if !q.rest.head?.any isBlank then none
      let (start, q) ← tagSuffix true (q.skipRun isBlank)
      if start.isEmpty || !startsWithSpace q.rest then none
      some (Token.handle handle start, q)
    else none
  let q := (q.skipRun isBlank).skipComment
  match q.rest with
  | [] => some (token, q)
  | c :: _ => if isBreak c then some (token, q.nextLine) else none

end MusicLibrary.Yaml
