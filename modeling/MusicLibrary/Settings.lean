import MusicLibrary.Failure
import MusicLibrary.Session

/-!
# Settings

The settings say which server to ask and in whose name. They are written down in a file, and each of
them can be overridden by a variable of the environment, which counts only if it says something: an
empty text overrides nothing, and a time limit must be a number. A session is made of settings that
name a server, a token and a user; a device without an identifier gets a fresh one.
-/

namespace MusicLibrary

/-- The settings, as far as they are given. -/
structure Settings where
  /-- The address of the server. -/
  url : Option String
  /-- The token that authenticates the user. -/
  token : Option String
  /-- The identifier of the user. -/
  userId : Option String
  /-- The identifier of the device. -/
  deviceId : Option String
  /-- The name under which the client announces itself. -/
  clientName : Option String
  /-- How long to wait for the server, in seconds. -/
  timeoutSeconds : Option UInt64
  deriving DecidableEq, Repr

/-- The variables of the environment that override settings, as far as they are set. -/
structure Environment where
  /-- The address of the server. -/
  url : Option String
  /-- The token that authenticates the user. -/
  token : Option String
  /-- The identifier of the user. -/
  userId : Option String
  /-- The identifier of the device. -/
  deviceId : Option String
  /-- The name under which the client announces itself. -/
  clientName : Option String
  /-- How long to wait for the server, in seconds. -/
  timeoutSeconds : Option String
  deriving DecidableEq, Repr

/-- The name under which the client announces itself, and the name of its device. -/
def defaultClientName : String := "PMOMusic"

/-- How long to wait for the server, in seconds. -/
def defaultTimeout : UInt64 := 30

/-- `2 ^ 64`, which numbers of seconds are below. -/
def secondsLimit : Nat := 0x10000000000000000

/-- The number below `2 ^ 64` that a text of digits, perhaps after a plus sign, stands for. -/
def readSeconds (s : List Char) : Option UInt64 :=
  let digits :=
    match s with
    | '+' :: digits => digits
    | digits => digits
  if digits.isEmpty || !digits.all Char.isDigit then none
  else
    let n := Nat.ofDigitChars 10 digits 0
    if n < secondsLimit then some (UInt64.ofNat n) else none

namespace Environment

/-- The environment without any of the variables. -/
def empty : Environment := ⟨none, none, none, none, none, none⟩

/-- What the names of the variables start with. -/
def variableStart : String := "PMOJELLYFIN_"

/-- What follows that in the name of each variable. -/
def keys : List String := ["URL", "TOKEN", "USER_ID", "DEVICE_ID", "CLIENT_NAME", "TIMEOUT_SECS"]

/-- The names of the variables. -/
def variableNames : List String := keys.map fun key => variableStart ++ key

/-- The environment in which each key has the value that `lookup` finds. -/
def ofLookup (lookup : String → Option String) : Environment :=
  ⟨lookup "URL", lookup "TOKEN", lookup "USER_ID", lookup "DEVICE_ID", lookup "CLIENT_NAME", lookup "TIMEOUT_SECS"⟩

/-- The environment in which each variable has the value that `lookup` finds. -/
def ofVariables (lookup : String → Option String) : Environment :=
  ofLookup fun key => lookup (variableStart ++ key)

end Environment

/-- The text of a variable in place of a setting, unless it is empty or not set. -/
def overlay (replacement setting : Option String) : Option String :=
  match replacement with
  | none => setting
  | some s => if s.isEmpty then setting else some s

/-- A setting that must be given and not be empty. -/
def requiredSetting (value : Option String) (key : String) : Except String String :=
  match value with
  | none => .error ("Jellyfin " ++ key ++ " not configured")
  | some s => if s.isEmpty then .error ("Jellyfin " ++ key ++ " not configured") else .ok s

namespace Settings

/-- No settings at all. -/
def empty : Settings := ⟨none, none, none, none, none, none⟩

/-- The settings under an environment. -/
def overriddenBy (c : Settings) (env : Environment) : Settings where
  url := overlay env.url c.url
  token := overlay env.token c.token
  userId := overlay env.userId c.userId
  deviceId := overlay env.deviceId c.deviceId
  clientName := overlay env.clientName c.clientName
  timeoutSeconds := (env.timeoutSeconds.bind fun s => readSeconds s.toList).or c.timeoutSeconds

/-- The settings of an environment alone. -/
def ofEnvironment (env : Environment) : Settings := empty.overriddenBy env

/-- The session that the settings describe, with `fresh` for the identifier of a device that has none. -/
def session (c : Settings) (fresh : String) : Except String Session := do
  let url ← requiredSetting c.url "url"
  let token ← requiredSetting c.token "token"
  let userId ← requiredSetting c.userId "user_id"
  let deviceId :=
    match c.deviceId with
    | none => fresh
    | some id => if id.isEmpty then fresh else id
  return Session.create url token userId deviceId

/-- The name under which the client announces itself. -/
def announcedName (c : Settings) : String := c.clientName.getD defaultClientName

/-- How long to wait for the server, in seconds. -/
def timeout (c : Settings) : UInt64 := c.timeoutSeconds.getD defaultTimeout

end Settings

end MusicLibrary
