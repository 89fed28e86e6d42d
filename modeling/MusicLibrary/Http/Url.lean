import MusicLibrary.Text.PercentEncoding

/-!
# Addresses of requests

A request can be sent to an address that starts with `http://` and names a host, and whose characters
are all allowed where they stand. The path and the query are sent as they are written, whatever follows
a `#` is not sent at all, and further parameters are put behind the query in percent-encoded form, which
only works if the query holds nothing but ASCII characters.
-/

namespace MusicLibrary.Http

/-- An address that a request can be sent to. -/
structure Url where
  /-- The host, perhaps with a user before it and a port after it. -/
  authority : List Char
  /-- The path. -/
  path : List Char
  /-- What follows the question mark, if there is one. -/
  query : Option (List Char)
  deriving DecidableEq, Repr

/-! ### The host -/

/-- A character that ends the part of an address that names the host. -/
def endsAuthority (c : Char) : Bool := c == '/' || c == '?' || c == '#'

/-- A character without a meaning of its own in the part that names the host. -/
def isPlain (c : Char) : Bool :=
  c.isAlphanum || "!$&'()*+,-.;=_~".toList.contains c

/-- What has been seen of the part that names the host. -/
structure AuthorityScan where
  /-- The number of colons since the last `@` or `]`. -/
  colons : Nat
  /-- A `[` has been seen. -/
  opened : Bool
  /-- A `]` has been seen. -/
  closed : Bool
  /-- A `%` has been seen since the last `@` or `]`. -/
  percent : Bool
  /-- The last character was `@`. -/
  afterAt : Bool
  deriving DecidableEq, Repr

/-- The scan after one more character, unless it may not stand there. -/
def AuthorityScan.step (a : AuthorityScan) (c : Char) : Option AuthorityScan :=
  let a := { a with afterAt := false }
  if c = ':' then (if 8 ≤ a.colons then none else some { a with colons := a.colons + 1 })
  else if c = '[' then (if a.percent || a.opened then none else some { a with opened := true })
  else if c = ']' then
    (if !a.opened || a.closed then none else some { a with closed := true, colons := 0, percent := false })
  else if c = '@' then some { a with colons := 0, percent := false, afterAt := true }
  else if c = '%' then some { a with percent := true }
  else if isPlain c then some a
  else none

/-- The text can name a host: brackets match, at most one colon is left for the port, and no percent sign
stands outside the user and the brackets. -/
def isAuthority (s : List Char) : Bool :=
  match s.foldlM AuthorityScan.step ⟨0, false, false, false, false⟩ with
  | none => false
  | some a => a.opened == a.closed && a.colons ≤ 1 && !a.afterAt && !a.percent && !s.isEmpty

/-- The host within the part that names it: from after the last `@` up to the port. -/
def hostOf (authority : List Char) : List Char :=
  let hostPort := (authority.reverse.takeWhile (· != '@')).reverse
  match hostPort with
  | '[' :: _ => hostPort.takeWhile (· != ']') ++ [']']
  | _ => hostPort.takeWhile (· != ':')

/-- A host, and a port of it. -/
abbrev Endpoint : Type := String × UInt16

/-- The host of an address without brackets, and its port. -/
def Url.endpoint (u : Url) : Endpoint :=
  let host := hostOf u.authority
  let port := ((u.authority.reverse.takeWhile fun c => c != '@' && c != ']').reverse.dropWhile (· != ':')).drop 1
  let number := Nat.ofDigitChars 10 port 0
  let known := !port.isEmpty && port.all Char.isDigit && number < 0x10000
  (String.ofList (host.filter fun c => c != '[' && c != ']'), if known then UInt16.ofNat number else 80)

/-! ### Path and query -/

/-- A character that may stand in a path. -/
def allowedInPath (c : Char) : Bool :=
  let n := c.toNat
  n == 0x21 || n == 0x22 || (0x24 ≤ n && n ≤ 0x3B) || n == 0x3D || (0x40 ≤ n && n ≤ 0x5F) ||
    (0x61 ≤ n && n != 0x7F)

/-- A character that may stand in a query. -/
def allowedInQuery (c : Char) : Bool :=
  let n := c.toNat
  n == 0x21 || (0x24 ≤ n && n ≤ 0x3B) || n == 0x3D || (0x3F ≤ n && n != 0x7F)

/-- The text after `http://`, in upper or lower case, with which an address must start. -/
def afterScheme? (s : List Char) : Option (List Char) :=
  if (s.take 7).map Char.toLower = "http://".toList then some (s.drop 7) else none

/-- The greatest number of bytes of an address. -/
def greatestLength : Nat := 65534

/-- The address that a text stands for. -/
def Url.parse? (text : String) : Option Url :=
  if greatestLength < text.utf8ByteSize then none
  else
    match afterScheme? text.toList with
    | none => none
    | some s =>
      let authority := s.takeWhile fun c => !endsAuthority c
      let rest := (s.dropWhile fun c => !endsAuthority c).takeWhile (· != '#')
      let path := rest.takeWhile (· != '?')
      let query :=
        match rest.dropWhile (· != '?') with
        | [] => none
        | _ :: q => some q
      if isAuthority authority && !(hostOf authority).isEmpty && path.all allowedInPath &&
          (query.getD []).all allowedInQuery then
        some ⟨authority, path, query⟩
      else none

/-! ### Parameters -/

/-- A parameter, percent-encoded. -/
def encodePair (pair : String × String) : List Char :=
  let encode (s : String) := PercentEncoding.encode PercentEncoding.keptInQuery s.toList
  encode pair.1 ++ '=' :: encode pair.2

/-- Parameters, percent-encoded, with `&` between them. -/
def encodePairs : List (String × String) → List Char
  | [] => []
  | [p] => encodePair p
  | p :: q :: ps => encodePair p ++ '&' :: encodePairs (q :: ps)

/-- What stands between a query and further parameters: nothing, if none are to be parted there. -/
def separator (query : List Char) : List Char :=
  match query.getLast? with
  | none => []
  | some c => if c = '&' then [] else ['&']

/-- The address with further parameters behind its query; none if its query is not all ASCII. -/
def Url.withPairs? (u : Url) (pairs : List (String × String)) : Option Url :=
  let query := u.query.getD []
  if pairs.isEmpty then some u
  else if query.all fun c => c.toNat < 0x80 then
    some { u with query := some (query ++ separator query ++ encodePairs pairs) }
  else none

/-- The path and query as a request states them. A path starts with a slash. -/
def Url.target (u : Url) : String :=
  let path :=
    match u.path with
    | '/' :: _ => u.path
    | _ => '/' :: u.path
  String.ofList
    (match u.query with
    | none => path
    | some q => path ++ '?' :: q)

end MusicLibrary.Http
