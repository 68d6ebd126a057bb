import LabelTemplate.Numeral.Integer
import LabelTemplate.Adapters.Web.Host

/-!
# Web addresses

An address is taken apart and put together again in its normal form before a request
is sent: scheme and host in lower case, the usual number of the scheme left out, steps
to the same or the parent folder resolved, and characters that an address cannot hold
written as percent escapes of their bytes. Escapes that are there already stay, since a
percent sign stands for itself.

An address without a scheme or without a host leads nowhere. Of such an address only the
path and the query are kept.
-/

namespace LabelTemplate.Adapters.Web

/-- Why something is no address. -/
inductive AddressError where
  /-- The address is too long. -/
  | tooLong
  /-- The path is too long when it is written with escapes. -/
  | pathTooLong
  /-- The query is too long when it is written with escapes. -/
  | queryTooLong
  /-- The address has a control character. -/
  | controlCharacter (c : Char) (offset : Nat)
  /-- The host is none. -/
  | badHost (cause : HostError)
  /-- What stands in the place of the number behind the host is no number. -/
  | badPort (written : Text)
  /-- A path behind a host does not begin with a slash. -/
  | pathWithoutSlash
  /-- A path without a host begins with two slashes. -/
  | pathWithTwoSlashes
  /-- A path without a scheme begins with a colon. -/
  | pathWithColon
deriving DecidableEq, Repr

/-- The wording of an address error. -/
def AddressError.message : AddressError → String
  | .tooLong => "URL too long"
  | .pathTooLong => "URL component 'path' too long"
  | .queryTooLong => "URL component 'query' too long"
  | .controlCharacter c offset =>
    "Invalid non-printable ASCII character in URL, " ++ String.ofList (Quoted.quote [c])
      ++ " at position " ++ toString offset ++ "."
  | .badHost cause => cause.message
  | .badPort written => "Invalid port: " ++ String.ofList (Quoted.quote written)
  | .pathWithoutSlash => "For absolute URLs, path must be empty or begin with '/'"
  | .pathWithTwoSlashes => "Relative URLs cannot have a path starting with '//'"
  | .pathWithColon => "Relative URLs cannot have a path starting with ':'"

/-- The parts of an address as written. -/
structure Address where
  /-- The scheme, without its colon. -/
  scheme : Text
  /-- The user part of the authority. -/
  user : Text
  /-- The host. -/
  host : Text
  /-- The number behind the host, as written. -/
  portNumber : Text
  /-- The path. -/
  path : Text
  /-- The query behind its question mark. -/
  query : Option Text
  /-- The fragment behind its number sign. -/
  fragment : Option Text
deriving DecidableEq, Repr

/-- The parts of an address in its normal form. -/
structure NormalAddress where
  /-- The scheme, without its colon. -/
  scheme : Text := []
  /-- The user part of the authority. -/
  user : Text := []
  /-- The host. -/
  host : Text := []
  /-- The number behind the host, if it is not the usual one. -/
  portNumber : Option Int := none
  /-- The path. -/
  path : Text
  /-- The query behind its question mark. -/
  query : Option Text
  /-- The fragment behind its number sign. -/
  fragment : Option Text := none
deriving DecidableEq, Repr

namespace NormalAddress

/-- Does the address lead to a host? -/
def leadsToHost (a : NormalAddress) : Bool := !a.scheme.isEmpty && !a.host.isEmpty

/-- The host and the number behind it. -/
def place (a : NormalAddress) : Text :=
  a.host ++ match a.portNumber with | some n => ':' :: Text.ofInt n | none => []

/-- The authority behind its two slashes. -/
def authority (a : NormalAddress) : Text :=
  (if a.user.isEmpty then [] else a.user ++ ['@']) ++ a.place

/-- The written form. -/
def text (a : NormalAddress) : Text :=
  (if a.scheme.isEmpty then [] else a.scheme ++ [':'])
    ++ (if a.authority.isEmpty then [] else '/' :: '/' :: a.authority)
    ++ a.path
    ++ (match a.query with | some q => '?' :: q | none => [])
    ++ (match a.fragment with | some f => '#' :: f | none => [])

end NormalAddress

namespace Address

/-- The greatest number of characters of an address, and of a part of one. -/
def lengthLimit : Nat := 65536

/-- Is this an ASCII control character? -/
def isControl (c : Char) : Bool := c.toNat < 0x20 || c.toNat == 0x7F

/-- Can this character be part of a scheme? -/
def isSchemeChar (c : Char) : Bool := c.isAlphanum || c == '+' || c == '.' || c == '-'

/-- Splits off a scheme. -/
def splitScheme (t : Text) : Text × Text :=
  let scheme := t.takeWhile isSchemeChar
  match t.dropWhile isSchemeChar with
  | ':' :: rest =>
    if scheme.isEmpty || scheme.head?.any Char.isAlpha then (scheme, rest) else ([], t)
  | _ => ([], t)

/-- Splits off what stands before the first of some characters. -/
def splitAtAny (stops : List Char) (t : Text) : Text × Text :=
  (t.takeWhile (!stops.contains ·), t.dropWhile (!stops.contains ·))

/-- Splits off the authority behind two slashes. -/
def splitAuthority (t : Text) : Text × Text :=
  match t with
  | '/' :: '/' :: rest => splitAtAny ['/', '?', '#'] rest
  | _ => ([], t)

/-- The host of an authority without its user part, and the number behind it. -/
def splitHost (t : Text) : Text × Text :=
  let (host, rest) := match t with
    | '[' :: _ =>
      match Text.partitionLast? ']' t with
      | some (inner, rest) => (inner ++ [']'], rest)
      | none => splitAtAny [':', '@'] t
    | _ => splitAtAny [':', '@'] t
  (host, match rest with | ':' :: number => number | rest => rest)

/-- Takes an address apart. -/
def split (t : Text) : Address :=
  let (scheme, t) := splitScheme t
  let (authority, t) := splitAuthority t
  let (user, hostPort) := (Text.partitionLast? '@' authority).getD ([], authority)
  let (host, number) := splitHost hostPort
  let (path, t) := splitAtAny ['?', '#'] t
  let (query, t) := match t with
    | '?' :: t => let (q, t) := splitAtAny ['#'] t; (some q, t)
    | t => (none, t)
  { scheme := scheme, user := user, host := host, portNumber := number, path := path, query := query
    fragment := match t with | '#' :: f => some f | _ => none }

/-- Characters that stand for themselves in a fragment. -/
def safeInFragment (c : Char) : Bool :=
  0x20 < c.toNat && c.toNat < 0x7F && !(['"', '<', '>', '`'].contains c)

/-- Characters that stand for themselves in a query. -/
def safeInQuery (c : Char) : Bool :=
  0x20 < c.toNat && c.toNat < 0x7F && !(['"', '#', '<', '>'].contains c)

/-- Characters that stand for themselves in a path. -/
def safeInPath (c : Char) : Bool := safeInQuery c && !"?`\x7b\x7d".toList.contains c

/-- Characters that stand for themselves in a user part. -/
def safeInUser (c : Char) : Bool :=
  safeInPath c && !(['/', ';', '=', '@', '[', '\\', ']', '^', '|'].contains c)

/-- The usual number behind the hosts of a scheme, if that is written in lower case. -/
def usualPort? (scheme : Text) : Option Int :=
  let scheme := String.ofList scheme
  if scheme == "http" || scheme == "ws" then some 80
  else if scheme == "https" || scheme == "wss" then some 443
  else if scheme == "ftp" then some 21
  else none

/-- The number behind the host of an address, if it is not the usual one. -/
def normalPort (scheme written : Text) : Except AddressError (Option Int) :=
  if written.isEmpty then .ok none
  else match Integer.read? written with
    | none => .error (.badPort written)
    | some n => .ok (if usualPort? scheme == some n then none else some n)

/-- One step of a path, put behind the steps already taken, which are kept in reverse. -/
def takeStep (taken : List Text) (step : Text) : List Text :=
  if step == ['.'] then taken
  else if step == ['.', '.'] then
    (if taken.isEmpty || taken == [[]] then taken else taken.tail)
  else step :: taken

/-- A path without steps to the same or the parent folder. -/
def normalPath (path : Text) : Text :=
  let steps := Text.splitOn '/' path
  if steps.any fun step => step == ['.'] || step == ['.', '.'] then
    Text.joinWith ['/'] (steps.foldl takeStep []).reverse
  else path

/-- Is the path one that can stand where it stands? -/
def checkPath (path : Text) (hasScheme hasHost : Bool) : Except AddressError Unit :=
  if hasHost && !path.isEmpty && path.head? != some '/' then .error .pathWithoutSlash
  else if hasHost || hasScheme then .ok ()
  else if ['/', '/'].isPrefixOf path then .error .pathWithTwoSlashes
  else if path.head? == some ':' then .error .pathWithColon
  else .ok ()

/-- Only the path and the query of an address that leads nowhere. -/
def withoutHost (a : NormalAddress) : Except AddressError NormalAddress :=
  let path := '/' :: a.path.dropWhile (· == '/')
  if lengthLimit < path.length then .error .pathTooLong
  else if a.query.any (lengthLimit < ·.length) then .error .queryTooLong
  else .ok { path := path, query := a.query }

/-- The normal form of an address. -/
def normal (t : Text) : Except AddressError NormalAddress := do
  if lengthLimit < t.length then throw .tooLong
  match t.findIdx? isControl with
  | some offset => throw (.controlCharacter (t.getD offset ' ') offset)
  | none =>
    let a := split t
    let user := Host.escape safeInUser a.user
    let host ← (Host.normal a.host).mapError .badHost
    let number ← normalPort a.scheme a.portNumber
    let hasScheme := !a.scheme.isEmpty
    let hasHost := !user.isEmpty || !host.isEmpty || number.isSome
    checkPath a.path hasScheme hasHost
    let path := if hasScheme || hasHost then normalPath a.path else a.path
    let normal : NormalAddress := {
      scheme := a.scheme.map Char.toLower
      user := user
      host := host
      portNumber := number
      path := Host.escape safeInPath path
      query := a.query.map (Host.escape safeInQuery)
      fragment := a.fragment.map (Host.escape safeInFragment) }
    if normal.leadsToHost then pure normal else withoutHost normal

end Address

end LabelTemplate.Adapters.Web
