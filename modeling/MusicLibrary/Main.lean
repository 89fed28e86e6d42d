import MusicLibrary.Command
import MusicLibrary.Http.Wire
import Std.Async.DNS
import Std.Async.TCP
import Std.Async.Timer

/-!
# The program

Reads the arguments, the environment and the settings file, puts the questions to the server, and prints
what the walk has to tell. Messages about failures go to the error output.
-/

namespace MusicLibrary.Main

open Std.Async Std.Net Http Browsing

/-- All bytes that come until the other side closes the connection, behind `received`. -/
partial def receiveAll (socket : TCP.Socket.Client) (received : ByteArray) : Async ByteArray := do
  match ← socket.recv? 65536 with
  | none => return received
  | some bytes => receiveAll socket (received ++ bytes)

/-- The address of a port. -/
def socketAddress (port : UInt16) : IPAddr → SocketAddress
  | .v4 addr => .v4 ⟨addr, port⟩
  | .v6 addr => .v6 ⟨addr, port⟩

/-- The bytes that a host sends back for a request. -/
def exchange (url : Url) (request : Http.Request) : Async ByteArray := do
  let (host, port) := url.endpoint
  let some address := (← DNS.getAddrInfo host (toString port))[0]? | throw (IO.userError "no address")
  let socket ← TCP.Socket.Client.mk
  socket.connect (socketAddress port address)
  socket.send (request.wireText (String.ofList url.authority)).toUTF8
  receiveAll socket ByteArray.empty

/-- The answer to a question over the network, within the time that the client waits. -/
def ask (client : Client) (r : Browsing.Request) : IO (Except Failure r.Answer) := do
  match client.request r, Url.parse? (client.question r).1 with
  | .error cause, _ => return .error cause
  | .ok _, none => return .error (.transport "invalid address")
  | .ok request, some url =>
    try
      let expired : Async ByteArray := do
        sleep (.ofNat (min client.timeout.toNat 0x100000000 * 1000))
        throw (IO.userError "timeout")
      let bytes ← (EAsync.race (exchange url request) expired).block
      match Response.ofBytes? bytes with
      | none => return .error (.transport "broken response")
      | some response => return Client.read r response
    catch e => return .error (.transport (toString e))

/-- The result of a dialogue whose questions are put to the network. -/
def converse {α : Type} (client : Client) : Dialogue α → IO α
  | .done a => return a
  | .ask r next => do
    let answer ← ask client r
    converse client (next answer)

/-- A fresh identifier for a device: 122 random bits. -/
def freshDeviceId : IO String := do
  let bytes ← IO.getRandomBytes 16
  let digits := bytes.toList.flatMap fun b => [Json.lowerHexDigit (b.toNat / 16), Json.lowerHexDigit (b.toNat % 16)]
  let variant := Json.lowerHexDigit (8 + (bytes.get! 8).toNat % 4)
  let group (start count : Nat) := String.ofList ((digits.drop start).take count)
  return group 0 8 ++ "-" ++ group 8 4 ++ "-4" ++ group 13 3 ++ "-" ++ variant.toString ++ group 17 3 ++ "-" ++
    group 20 12

/-- The environment of the program. -/
def environment : IO Environment := do
  let values ← Environment.variableNames.mapM fun name => return (name, ← IO.getEnv name)
  return Environment.ofVariables fun name => (values.lookup name).join

/-- The bytes of a file, if it can be read. -/
def fileContent (path : String) : IO (Option ByteArray) := do
  try return some (← IO.FS.readBinFile path)
  catch _ => return none

/-- Runs the command that the arguments describe. -/
def run (arguments : List String) : IO UInt32 := do
  match Command.ofArguments? arguments with
  | none =>
    IO.eprintln (Command.usage "browse_library")
    return 1
  | some command =>
    let env ← environment
    match command.client (← fileContent command.settingsPath) env (← freshDeviceId) with
    | .error message =>
      IO.eprintln ("Error: " ++ message)
      return 1
    | .ok client =>
      let report ← converse client (command.dialogue client)
      IO.print report.text
      match report.cause with
      | none => return 0
      | some cause =>
        IO.eprintln ("Error: " ++ cause.message)
        return 1

end MusicLibrary.Main

/-- Runs the program. -/
def main (arguments : List String) : IO UInt32 := MusicLibrary.Main.run arguments
