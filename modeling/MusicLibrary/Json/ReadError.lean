import MusicLibrary.Json.Number
import MusicLibrary.Text.Quoted

/-!
# Why a JSON text cannot be read

A text is read from left to right and the first obstacle ends the reading. It is one of three kinds:
the text ends too early, it breaks the grammar of JSON, or it is well formed so far and holds a value
of another shape than the one asked for.
-/

namespace MusicLibrary.Json

/-- What was being read when a text ended. -/
inductive Enclosure where
  /-- An array. -/
  | list
  /-- An object. -/
  | object
  /-- A string. -/
  | string
  /-- Any value. -/
  | value
  deriving DecidableEq, Repr

/-- A breach of the grammar. -/
inductive Fault where
  /-- A name in an object has no colon after it. -/
  | colonExpected
  /-- An element of an array has neither a comma nor the end of the array after it. -/
  | listSeparatorExpected
  /-- A member of an object has neither a comma nor the end of the object after it. -/
  | objectSeparatorExpected
  /-- A letter starts none of the words `true`, `false` and `null`. -/
  | wordExpected
  /-- No value starts here. -/
  | valueExpected
  /-- A backslash in a string starts no escape. -/
  | badEscape
  /-- A number breaks off or has a leading zero. -/
  | badNumber
  /-- A number is too large for a double. -/
  | numberOutOfRange
  /-- A control character stands in a string. -/
  | controlCharacter
  /-- A member of an object has no name. -/
  | nameExpected
  /-- The first escape of a surrogate pair is a second one, or the second one is not. -/
  | loneSurrogate
  /-- The first escape of a surrogate pair has no escape after it. -/
  | unpairedSurrogate
  /-- A comma comes last in an array or object. -/
  | trailingComma
  /-- Something follows the value, or the last element that an array may have. -/
  | trailingText
  /-- Too many arrays and objects are open. -/
  | tooDeep
  deriving DecidableEq, Repr

/-- The shape of value asked for. -/
inductive Shape where
  /-- A string. -/
  | string
  /-- `true` or `false`. -/
  | boolean
  /-- A natural number below `2 ^ 32`. -/
  | word32
  /-- An array. -/
  | sequence
  /-- An object with any names. -/
  | map
  /-- `null` and nothing else. -/
  | unit
  /-- The record with the given name. -/
  | record (name : String)
  deriving DecidableEq, Repr

/-- The value found in place of another. -/
inductive Found where
  /-- `null`. -/
  | null
  /-- A truth value. -/
  | boolean (b : Bool)
  /-- A number. -/
  | number (n : Number)
  /-- A string. -/
  | string (s : String)
  /-- An array. -/
  | sequence
  /-- An object. -/
  | map
  deriving DecidableEq, Repr

/-- A value of another shape than the one asked for. -/
inductive Mismatch where
  /-- A value of another type. -/
  | wrongType (found : Found) (wanted : Shape)
  /-- An integer that does not fit. -/
  | outOfRange (found : Number) (wanted : Shape)
  /-- An array of `length` elements in place of a record with the given number of members. -/
  | wrongLength (length : Nat) (record : String) (members : Nat)
  /-- A member given twice. -/
  | duplicateMember (name : String)
  /-- A member that is required and not given. -/
  | missingMember (name : String)
  /-- A name that is none of the alternatives. -/
  | unknownVariant (name : String) (known : List String)
  deriving DecidableEq, Repr

/-- The obstacle that ended the reading. -/
inductive ReadError where
  /-- The text ends too early. -/
  | ended (within : Enclosure)
  /-- The text is not JSON. -/
  | malformed (fault : Fault)
  /-- The text holds another value than the one asked for. -/
  | mismatch (cause : Mismatch)
  deriving DecidableEq, Repr

/-! ### Wording -/

/-- The words for `Enclosure`. -/
def Enclosure.describe : Enclosure → String
  | .list => "a list"
  | .object => "an object"
  | .string => "a string"
  | .value => "a value"

/-- The words for `Fault`. -/
def Fault.describe : Fault → String
  | .colonExpected => "expected `:`"
  | .listSeparatorExpected => "expected `,` or `]`"
  | .objectSeparatorExpected => "expected `,` or `\x7d`"
  | .wordExpected => "expected ident"
  | .valueExpected => "expected value"
  | .badEscape => "invalid escape"
  | .badNumber => "invalid number"
  | .numberOutOfRange => "number out of range"
  | .controlCharacter => "control character (\\u0000-\\u001F) found while parsing a string"
  | .nameExpected => "key must be a string"
  | .loneSurrogate => "lone leading surrogate in hex escape"
  | .unpairedSurrogate => "unexpected end of hex escape"
  | .trailingComma => "trailing comma"
  | .trailingText => "trailing characters"
  | .tooDeep => "recursion limit exceeded"

/-- The words for `Shape`. -/
def Shape.describe : Shape → String
  | .string => "a string"
  | .boolean => "a boolean"
  | .word32 => "u32"
  | .sequence => "a sequence"
  | .map => "a map"
  | .unit => "unit"
  | .record name => "struct " ++ name

/-- The words for `Found`. -/
def Found.describe : Found → String
  | .null => "null"
  | .boolean true => "boolean `true`"
  | .boolean false => "boolean `false`"
  | .number n => String.ofList n.describe
  | .string s => "string " ++ Text.quoted s
  | .sequence => "sequence"
  | .map => "map"

/-- The words for `Mismatch`. -/
def Mismatch.describe : Mismatch → String
  | .wrongType found wanted => "invalid type: " ++ found.describe ++ ", expected " ++ wanted.describe
  | .outOfRange found wanted => "invalid value: " ++ String.ofList found.describe ++ ", expected " ++ wanted.describe
  | .wrongLength length record members =>
    "invalid length " ++ toString length ++ ", expected struct " ++ record ++ " with " ++ toString members ++
      (if members = 1 then " element" else " elements")
  | .duplicateMember name => "duplicate field `" ++ name ++ "`"
  | .missingMember name => "missing field `" ++ name ++ "`"
  | .unknownVariant name known =>
    "unknown variant `" ++ name ++ "`, expected one of " ++ ", ".intercalate (known.map fun k => "`" ++ k ++ "`")

/-- The text of a reading error. -/
def ReadError.message : ReadError → String
  | .ended within => "EOF while parsing " ++ within.describe
  | .malformed fault => fault.describe
  | .mismatch cause => cause.describe

end MusicLibrary.Json
