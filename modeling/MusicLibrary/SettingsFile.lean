import MusicLibrary.Settings
import MusicLibrary.Yaml.Document

/-!
# Settings from a file

A settings file is a YAML mapping. Texts are taken as they are written, whether they look like numbers or
not; only a plain scalar that says nothing or spells null leaves a setting open. The time limit is a plain
whole number. Names that are no settings are passed over, and no setting may be given twice.
-/

namespace MusicLibrary

open Yaml

/-- A text that spells null. -/
def spellsNull (s : List Char) : Bool :=
  ["null", "Null", "NULL", "~"].contains (String.ofList s)

/-- The tag of null. -/
def nullTag : List Char := "tag:yaml.org,2002:null".toList

/-- The tag of whole numbers. -/
def integerTag : List Char := "tag:yaml.org,2002:int".toList

/-- The text is given or left open; nothing else may carry the tag of null. -/
def isGiven (s : Scalar) : Option Bool :=
  if s.style ≠ .plain then some true
  else
    match s.tag with
    | none => some (!s.text.isEmpty && !spellsNull s.text)
    | some tag =>
      if tag = nullTag then (if spellsNull s.text then some false else none) else some true

/-- A setting that is a text. -/
def readText : Node → Option (Option String)
  | .collection => none
  | .scalar s => (isGiven s).map fun given => if given then some (String.ofList s.text) else none

/-- The value of a digit in a base up to 16. -/
def digitIn? (base : Nat) (c : Char) : Option Nat :=
  (hexDigit? c).bind fun n => if n < base then some n else none

/-- The number below `2 ^ 64` that digits in a base stand for. -/
def digitsIn? (base : Nat) (s : List Char) : Option UInt64 :=
  if s.isEmpty then none
  else
    match s.foldlM (fun n c => (digitIn? base c).map (n * base + ·)) 0 with
    | none => none
    | some n => if n < secondsLimit then some (UInt64.ofNat n) else none

/-- A whole number: decimal without needless zeros at its start, or with a letter for its base after a zero, and
a plus sign before it or not. -/
def wholeNumber? (s : List Char) : Option UInt64 :=
  let digits :=
    match s with
    | '+' :: digits => digits
    | digits => digits
  match digits with
  | '0' :: 'x' :: rest => digitsIn? 16 rest
  | '0' :: 'o' :: rest => digitsIn? 8 rest
  | '0' :: 'b' :: rest => digitsIn? 2 rest
  | ['0'] => some 0
  | '0' :: _ => none
  | digits => digitsIn? 10 digits

/-- A setting that is a whole number. -/
def readNumber : Node → Option (Option UInt64)
  | .collection => none
  | .scalar s =>
    match isGiven s with
    | none => none
    | some false => some none
    | some true =>
      if s.style = .plain ∨ (s.style = .literal ∧ s.tag = some integerTag) then (wholeNumber? s.text).map some
      else none

namespace Settings

/-- The names of the settings. -/
def keys : List String := ["url", "token", "user_id", "device_id", "client_name", "timeout_secs"]

/-- The settings with the one of the given name set. -/
def set (c : Settings) (key : String) (value : Node) : Option Settings :=
  if key = "url" then (readText value).map fun url => { c with url }
  else if key = "token" then (readText value).map fun token => { c with token }
  else if key = "user_id" then (readText value).map fun userId => { c with userId }
  else if key = "device_id" then (readText value).map fun deviceId => { c with deviceId }
  else if key = "client_name" then (readText value).map fun clientName => { c with clientName }
  else (readNumber value).map fun timeoutSeconds => { c with timeoutSeconds }

/-- The settings with the members of a mapping set, after the names `seen`. -/
def setAll (c : Settings) (seen : List String) : List (Node × Node) → Option Settings
  | [] => some c
  | (.collection, _) :: _ => none
  | (.scalar s, value) :: members =>
    let key := String.ofList s.text
    if keys.contains key then
      if seen.contains key then none
      else
        match c.set key value with
        | none => none
        | some c => setAll c (key :: seen) members
    else setAll c seen members

/-- The settings that a text describes. -/
def ofYaml? (text : String) : Option Settings :=
  (mapping? text.toList).bind (empty.setAll [])

/-- The message for a text that describes no settings. -/
def invalidMessage : String := "Invalid Jellyfin configuration"

/-- The settings that a text describes. -/
def ofYaml (text : String) : Except String Settings :=
  match ofYaml? text with
  | none => .error invalidMessage
  | some c => .ok c

/-- The settings in the file at a path that holds the given bytes, if it can be read, under an environment. -/
def load (path : String) (content : Option ByteArray) (env : Environment) : Except String Settings :=
  match content.bind String.fromUTF8? with
  | none => .error ("Cannot read " ++ path)
  | some text => (ofYaml text).map fun c => c.overriddenBy env

end Settings

end MusicLibrary
