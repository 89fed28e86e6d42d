import MusicLibrary.Http.Client
import MusicLibrary.SettingsFile
import MusicLibrary.Walk

/-!
# The command

The command is given the path of a settings file and perhaps the identifier of an item. It fails before
any question is asked if there is no path, or if the file describes no session.
-/

namespace MusicLibrary

/-- What the command is asked to do. -/
structure Command where
  /-- The path of the settings file. -/
  settingsPath : String
  /-- The identifier of the item to show. -/
  item : Option String
  deriving DecidableEq, Repr

namespace Command

/-- The command that arguments describe; further arguments say nothing. -/
def ofArguments? : List String → Option Command
  | [] => none
  | path :: rest => some ⟨path, rest.head?⟩

/-- How the command is used. -/
def usage (name : String) : String := "Usage: " ++ name ++ " <config.yaml> [item_id]"

/-- The client for the settings file with the given content, under an environment, with `fresh` for the
identifier of a device that has none; or the message that tells why there is none. -/
def client (c : Command) (content : Option ByteArray) (env : Environment) (fresh : String) :
    Except String Http.Client :=
  match Settings.load c.settingsPath content env with
  | .error message => .error message
  | .ok settings => (Http.Client.ofSettings settings fresh).mapError Failure.message

/-- What the command asks and prints. -/
def dialogue (c : Command) (client : Http.Client) : Browsing.Dialogue Report := Walk.run client.session c.item

end Command

end MusicLibrary
