import MusicLibrary.Http.Message
import MusicLibrary.Http.Url

/-!
# Requests and responses as bytes

A request is sent as text, and its response ends with the connection. The head of a response gives its
status; if it gives the length of the body as well, a shorter body is a broken one.
-/

namespace MusicLibrary.Http

/-- The text of a request to a host. -/
def Request.wireText (r : Request) (host : String) : String :=
  r.method ++ " " ++ r.target ++ " HTTP/1.0\r\nHost: " ++ host ++ "\r\nX-Emby-Authorization: " ++ r.authorization ++
    "\r\nAccept: " ++ r.accept ++ "\r\nConnection: close\r\n\r\n"

/-- The position after the empty line that ends the head of a response, from position `i` on. -/
def headEnd? (bytes : ByteArray) (i : Nat) : Option Nat :=
  if i + 4 ≤ bytes.size then
    if (bytes.extract i (i + 4)).toList = [13, 10, 13, 10] then some (i + 4) else headEnd? bytes (i + 1)
  else none
termination_by bytes.size - i

/-- The number that a text of digits stands for. -/
def digits? (s : List Char) : Option Nat :=
  if s.isEmpty || !s.all Char.isDigit then none else some (Nat.ofDigitChars 10 s 0)

/-- The status in the first line of a head. -/
def statusOf? (line : String) : Option Nat :=
  match line.splitOn " " with
  | _ :: code :: _ => digits? code.toList
  | _ => none

/-- The length of the body that the lines of a head give. -/
def lengthOf? (lines : List String) : Option Nat :=
  lines.findSome? fun line =>
    match line.splitOn ":" with
    | name :: rest =>
      if name.toLower = "content-length" then
        digits? ((":".intercalate rest).toList.filter fun c => !(c == ' ' || c == '\t'))
      else none
    | [] => none

/-- The response that bytes are, if they are one. -/
def Response.ofBytes? (bytes : ByteArray) : Option Response := do
  let i ← headEnd? bytes 0
  let head ← String.fromUTF8? (bytes.extract 0 (i - 4))
  let lines := head.splitOn "\r\n"
  let status ← lines.head?.bind statusOf?
  let body := bytes.extract i bytes.size
  match lengthOf? lines.tail with
  | none => some ⟨status, body⟩
  | some n => if n ≤ body.size then some ⟨status, body.extract 0 n⟩ else none

end MusicLibrary.Http
