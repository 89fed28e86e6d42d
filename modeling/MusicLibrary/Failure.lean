import MusicLibrary.Json.ReadError

/-!
# Failures

Why an item can be neither shown nor played. Some failures say something about the item, and asking again
changes nothing; the others come from the way to the server.
-/

namespace MusicLibrary

/-- The cause of a failure. -/
inductive Failure where
  /-- The item is none that can be opened. -/
  | unsupportedItemKind (name : String)
  /-- The library does not hold music. -/
  | unsupportedCollection (name : String)
  /-- The item does not play sound. -/
  | unsupportedMedium (name : String)
  /-- The type of the item's file is unknown. -/
  | undeterminedType (path : String)
  /-- The identifier names no item. -/
  | invalidIdentifier (identifier : String)
  /-- The server does not know the item. -/
  | notFound (message : String)
  /-- The server refuses the token. -/
  | unauthorized (message : String)
  /-- The server answers with another status than success. -/
  | status (code : Nat) (message : String)
  /-- The request or the answer gets lost on the way. -/
  | transport (message : String)
  /-- The answer of the server cannot be read. -/
  | unreadable (error : Json.ReadError)
  /-- The settings lack something. -/
  | configuration (message : String)
  /-- The call was cut short. -/
  | interrupted (message : String)
  deriving DecidableEq, Repr

namespace Failure

/-- The failure that a status of the server stands for, if it is not success. -/
def ofStatus (code : Nat) (message : String) : Failure :=
  if code = 401 ∨ code = 403 then .unauthorized message
  else if code = 404 then .notFound message
  else .status code message

/-- The failure says that the item itself cannot be shown or played. -/
def concernsItem : Failure → Bool
  | unsupportedItemKind _ | unsupportedCollection _ | unsupportedMedium _ | undeterminedType _ => true
  | _ => false

/-- The text of a failure. -/
def message : Failure → String
  | unsupportedItemKind name => "Unsupported item type " ++ name
  | unsupportedCollection name => "Unsupported collection type " ++ name
  | unsupportedMedium name => "Unsupported media type " ++ name
  | undeterminedType path => "Unable to determine mime type for path " ++ path
  | invalidIdentifier identifier => "Invalid item identifier: " ++ Text.quoted identifier
  | notFound message => "Item not found: " ++ message
  | unauthorized message => "Authentication failed: " ++ message
  | status code message => "Jellyfin API error (code " ++ toString code ++ "): " ++ message
  | transport message => "HTTP error: " ++ message
  | unreadable error => "JSON parsing error: " ++ error.message
  | configuration message => "Configuration error: " ++ message
  | interrupted message => "Blocking task failed: " ++ message

end Failure

end MusicLibrary
