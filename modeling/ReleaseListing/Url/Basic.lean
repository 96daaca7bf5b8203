/-!
# URLs

A parsed URL keeps its parts apart, already in the form in which they are written: percent
signs in place, host and scheme in lower case. `Url.render` puts the parts together again.
-/

namespace ReleaseListing

namespace Url

/-- Why a text is not a URL. -/
inductive Error where
  | emptyHost
  | invalidDomainName
  | invalidPort
  | invalidIpv4
  | invalidIpv6
  | invalidHostCharacter
  | relativeWithoutBase
  | relativeToOpaquePath
  deriving DecidableEq, Repr

/-- The reason in words. -/
def Error.message : Error → String
  | .emptyHost => "empty host"
  | .invalidDomainName => "invalid international domain name"
  | .invalidPort => "invalid port number"
  | .invalidIpv4 => "invalid IPv4 address"
  | .invalidIpv6 => "invalid IPv6 address"
  | .invalidHostCharacter => "invalid domain character"
  | .relativeWithoutBase => "relative URL without a base"
  | .relativeToOpaquePath => "relative URL with a cannot-be-a-base base"

/-- Schemes are read in three ways. -/
inductive SchemeKind where
  /-- Files: the host may be missing, and drive letters count. -/
  | file
  /-- The other schemes that always have a host. -/
  | special
  /-- All other schemes. -/
  | plain
  deriving DecidableEq, Repr

/-- `file`, the schemes that need a host, and the rest. -/
def SchemeKind.of (scheme : List Char) : SchemeKind :=
  if scheme = "file".toList then .file
  else if ["http", "https", "ws", "wss", "ftp"].contains (String.ofList scheme) then .special
  else .plain

/-- File URLs and those that need a host treat a backslash as a slash. -/
def SchemeKind.isSpecial (kind : SchemeKind) : Bool := kind != .plain

/-- The port that a scheme uses when none is given. -/
def defaultPort? (scheme : List Char) : Option Nat :=
  match String.ofList scheme with
  | "http" | "ws" => some 80
  | "https" | "wss" => some 443
  | "ftp" => some 21
  | _ => none

/-- What stands between `//` and the path. -/
structure Authority where
  /-- User name and password with their colon, without the at sign. -/
  userinfo : List Char := []
  host : List Char
  /-- Only a port other than the scheme's default. -/
  port : Option Nat := none
  deriving DecidableEq, Repr

/-- `userinfo@host:port`, each part only if it is there. -/
def Authority.render (a : Authority) : List Char :=
  (if a.userinfo.isEmpty then [] else a.userinfo ++ ['@']) ++ a.host ++
    (match a.port with
    | some p => ':' :: (toString p).toList
    | none => [])

/-- The part after scheme and authority. -/
inductive Path where
  /-- Text that is no list of segments, as in `mailto:`. -/
  | opaqueText (text : List Char)
  /-- Segments; empty or starting with a slash. -/
  | segments (text : List Char)
  deriving DecidableEq, Repr

end Url

/-- A URL by its parts. -/
structure Url where
  scheme : List Char
  authority : Option Url.Authority
  path : Url.Path
  query : Option (List Char)
  fragment : Option (List Char)
  deriving DecidableEq, Repr

namespace Url

/-- The path as it is written. A path that starts with two slashes and follows no authority
is kept apart from one by `/.`. -/
def renderPath (authority : Option Authority) : Path → List Char
  | .opaqueText text => text
  | .segments text =>
    if authority.isNone && "//".toList.isPrefixOf text then '/' :: '.' :: text else text

/-- The parts in their order, each behind its mark. -/
def render (u : Url) : String :=
  let part (mark : Char) : Option (List Char) → List Char
    | some text => mark :: text
    | none => []
  String.ofList <|
    u.scheme ++ [':'] ++
    (match u.authority with
    | some a => '/' :: '/' :: a.render
    | none => []) ++
    renderPath u.authority u.path ++ part '?' u.query ++ part '#' u.fragment

/-- How the URL's scheme is read. -/
def kind (u : Url) : SchemeKind := .of u.scheme

/-- Whether a relative reference other than a fragment has nothing to hold on to. -/
def hasOpaquePath (u : Url) : Bool :=
  match u.path with
  | .opaqueText _ => true
  | .segments _ => false

end Url

end ReleaseListing
