import ReleaseListing.Url.Host
import ReleaseListing.Url.Segments

/-!
# Reading URLs

A text is read on its own or against a base URL, which lends the parts that the text leaves out.
`Url.parse` reads a URL that stands alone, `Url.join` one that may be relative.
-/

namespace ReleaseListing.Url

/-! ## Parts -/

/-- The text up to the first character that satisfies `stop`, and the rest. -/
def upTo (stop : Char → Bool) (cs : List Char) : List Char × List Char :=
  (cs.takeWhile (!stop ·), cs.dropWhile (!stop ·))

/-- Whether a character ends the path. -/
def endsPath (c : Char) : Bool := c == '?' || c == '#'

/-- Query and fragment at the start of a text that begins with their mark or is empty. -/
def queryAndFragment (kind : SchemeKind) (text : List Char) :
    Option (List Char) × Option (List Char) :=
  let fragmentOf : List Char → Option (List Char)
    | '#' :: fragment => some (percentEncode inFragmentSet fragment)
    | _ => none
  match text with
  | '?' :: rest =>
    let (query, rest) := upTo (· == '#') rest
    (some (percentEncode (inQuerySet kind.isSpecial) query), fragmentOf rest)
  | _ => (none, fragmentOf text)

/-- Puts query and fragment, read from `rest`, behind the other parts. -/
def close (scheme : List Char) (authority : Option Authority) (path : Path) (rest : List Char) :
    Url :=
  let (query, fragment) := queryAndFragment (.of scheme) rest
  { scheme, authority, path, query, fragment }

/-- Reads path, query and fragment onto the path `start`. -/
def withSegments (scheme : List Char) (authority : Option Authority) (start text : List Char) :
    Url :=
  let (path, rest) := upTo endsPath text
  let done := PathBuffer.read (.of scheme) ⟨start, authority.isSome⟩ path
  close scheme authority (.segments done.text) rest

/-! ## Authority -/

/-- Splits at the last at sign before the authority's end. -/
def splitUserinfo? (kind : SchemeKind) (text : List Char) : Option (List Char × List Char) :=
  let isEnd (c : Char) : Bool := c == '/' || endsPath c || (kind.isSpecial && c == '\\')
  let (authority, rest) := upTo isEnd text
  match Text.throughLast? '@' authority with
  | some before => some (before.dropLast, authority.drop before.length ++ rest)
  | none => none

/-- User name and password, encoded; a colon only before a password. -/
def encodedUserinfo (text : List Char) : List Char :=
  let (name, rest) := upTo (· == ':') text
  let encode := percentEncode inUserinfoSet
  match rest.drop 1 with
  | [] => encode name
  | password => encode name ++ ':' :: encode password

/-- Whether nothing is left of the text, or the authority ends here. -/
def atAuthorityEnd (kind : SchemeKind) : List Char → Bool
  | c :: _ => c == '/' || endsPath c || (kind.isSpecial && c == '\\')
  | [] => false

/-- Userinfo and the text behind it. -/
def readUserinfo (kind : SchemeKind) (text : List Char) : Except Error (List Char × List Char) :=
  match splitUserinfo? kind text with
  | none => .ok ([], text)
  | some ([], rest) => if atAuthorityEnd kind rest then .error .emptyHost else .ok ([], rest)
  | some (userinfo, rest) => .ok (encodedUserinfo userinfo, rest)

/-- The length of a host: a colon ends it outside of brackets. -/
def hostLength (kind : SchemeKind) (inBrackets : Bool) : List Char → Nat
  | [] => 0
  | c :: cs =>
    if (c == ':' && !inBrackets) || c == '/' || endsPath c || (kind.isSpecial && c == '\\') then 0
    else hostLength kind (if c == '[' then true else if c == ']' then false else inBrackets) cs + 1

/-- The port behind a colon, and the text behind it. The default port is left out. -/
def readPort (scheme text : List Char) : Except Error (Option Nat × List Char) :=
  let digits := text.takeWhile Char.isDigit
  let rest := text.drop digits.length
  let port := Text.ofDecimal digits
  let ends : Bool := match rest with
    | c :: _ => "/\\?#".toList.contains c
    | [] => true
  if 65535 < port || !ends then .error .invalidPort
  else if digits.isEmpty || defaultPort? scheme = some port then .ok (none, rest)
  else .ok (some port, rest)

/-- Reads what follows `//`: authority, path, query and fragment. -/
def afterSlashes (scheme text : List Char) : Except Error Url := do
  let kind := SchemeKind.of scheme
  let (userinfo, rest) ← readUserinfo kind text
  let length := hostLength kind false rest
  let (name, rest) := (rest.take length, rest.drop length)
  if kind == .special && name.isEmpty then throw .emptyHost
  let host ← if kind.isSpecial then specialHost name else plainHost name
  if host.isEmpty && rest.head? == some ':' then throw .emptyHost
  let (port, rest) ← match rest with
    | ':' :: rest => readPort scheme rest
    | _ => .ok (none, rest)
  if host.isEmpty && !userinfo.isEmpty then throw .emptyHost
  let authority : Authority := { userinfo, host, port }
  if kind.isSpecial then
    let text := match rest with
      | '/' :: text => text
      | '\\' :: text => text
      | text => text
    return withSegments scheme authority ['/'] text
  else
    match rest with
    | [] => return close scheme authority (.segments []) []
    | c :: _ =>
      if endsPath c then return close scheme authority (.segments []) rest
      else return withSegments scheme authority (if c == '/' then [] else ['/']) rest

/-! ## Files -/

def fileScheme : List Char := "file".toList

/-- A file's path on the host, which a drive letter at its start does away with. -/
def fileUrl (host : List Char) (start text : List Char) : Url :=
  let (path, rest) := upTo endsPath text
  let done := PathBuffer.read .file ⟨start, !host.isEmpty⟩ path
  let authority : Authority := { host := if done.hasHost then host else [] }
  close fileScheme (some authority) (.segments done.text) rest

/-- Reads a file's host and path behind `//`. -/
def fileAfterSlashes (text : List Char) : Except Error Url := do
  let (name, rest) := upTo (fun c => c == '/' || c == '\\' || endsPath c) text
  if isDriveLetter name then return fileUrl [] ['/'] text
  else if name.isEmpty then return fileUrl [] ['/'] rest
  else
    let host ← specialHost name
    if host = "localhost".toList then return fileUrl [] ['/'] rest
    else
      let text := match rest with
        | '/' :: text => text
        | '\\' :: text => text
        | text => text
      return fileUrl host ['/'] text

/-- The path text of a URL. -/
def segmentsText (u : Url) : List Char :=
  match u.path with
  | .segments text => text
  | .opaqueText text => text

/-- The drive letter that starts the base's path, with its slash, or the base's host. -/
def driveOrHost (base : Url) : List Char × List Char :=
  let first := ((segmentsText base).drop 1).takeWhile (· != '/')
  if isNormalDriveLetter first then ([], '/' :: first)
  else ((base.authority.map Authority.host).getD [], [])

/-- Reads a file URL behind its scheme, against a base that is a file too. -/
def readFile (base : Option Url) (text : List Char) : Except Error Url :=
  let isSlash (c : Char) : Bool := c == '/' || c == '\\'
  match text with
  | [] =>
    match base with
    | some b => .ok { b with fragment := none }
    | none => .ok (fileUrl [] ['/'] [])
  | c :: rest =>
    if isSlash c then
      match rest with
      | d :: more =>
        if isSlash d then fileAfterSlashes more else onBase base text rest
      | [] => onBase base text rest
    else
      match base with
      | none => .ok (fileUrl [] ['/'] text)
      | some b =>
        if endsPath c then
          let (query, fragment) := queryAndFragment .file text
          .ok { b with query := if c == '?' then query else b.query, fragment }
        else if startsWithDriveLetter text then .ok (fileUrl [] ['/'] text)
        else
          let (path, rest) := upTo endsPath text
          let done := PathBuffer.read .file ⟨withoutLast .file (segmentsText b), true⟩ path
          .ok (close fileScheme b.authority (.segments done.text) rest)
where
  /-- Reads a path that starts with one slash; `rest` is the text behind it. -/
  onBase (base : Option Url) (text rest : List Char) : Except Error Url :=
    let (host, start) :=
      if startsWithDriveLetter rest then ([], [])
      else (base.map driveOrHost).getD ([], [])
    let (path, rest) := upTo endsPath text
    let done := PathBuffer.read .file ⟨start, false⟩ path
    .ok (close fileScheme (some { host }) (.segments done.text) rest)

/-! ## Relative references -/

/-- Reads a text without a scheme of its own against a base that has segments. -/
def readRelative (base : Url) (text : List Char) : Except Error Url :=
  let isSlash (c : Char) : Bool := c == '/' || c == '\\'
  match text with
  | [] => .ok { base with fragment := none }
  | c :: rest =>
    if endsPath c then
      let (query, fragment) := queryAndFragment base.kind text
      .ok { base with query := if c == '?' then query else base.query, fragment }
    else if isSlash c then
      match rest with
      | d :: more =>
        if isSlash d then
          if c == '/' && d == '/' then afterSlashes base.scheme more
          else afterSlashes base.scheme (text.dropWhile isSlash)
        else .ok (withSegments base.scheme base.authority ['/'] rest)
      | [] => .ok (withSegments base.scheme base.authority ['/'] rest)
    else
      let up := withoutLast base.kind (segmentsText base)
      .ok (withSegments base.scheme base.authority (if up.isEmpty then ['/'] else up) text)

/-! ## Whole URLs -/

/-- The scheme in lower case and the text behind its colon. -/
def splitScheme? (text : List Char) : Option (List Char × List Char) :=
  let (scheme, rest) := upTo (fun c => !(c.isAlphanum || "+-.".toList.contains c)) text
  match scheme, rest with
  | c :: _, ':' :: rest => if c.isAlpha then some (Text.asciiLower scheme, rest) else none
  | _, _ => none

/-- Reads what follows the scheme. -/
def readWithScheme (base : Option Url) (scheme text : List Char) : Except Error Url :=
  match SchemeKind.of scheme with
  | .file => readFile (base.filter (·.scheme == fileScheme)) text
  | .special =>
    let isSlash (c : Char) : Bool := c == '/' || c == '\\'
    let slashes := (text.takeWhile isSlash).length
    match base.filter (·.scheme == scheme) with
    | some b => if slashes < 2 then readRelative b text else afterSlashes scheme (text.drop slashes)
    | none => afterSlashes scheme (text.drop slashes)
  | .plain =>
    match text with
    | '/' :: '/' :: rest => afterSlashes scheme rest
    | '/' :: rest => .ok (withSegments scheme none ['/'] rest)
    | _ =>
      let (path, rest) := upTo endsPath text
      .ok (close scheme none (.opaqueText (percentEncode isControlOrBeyond path)) rest)

/-- The text without spaces and controls around it, and without tabs and line ends inside. -/
def trimmed (text : String) : List Char :=
  let atEdge (c : Char) : Bool := c.toNat ≤ 0x20
  let inner := ((text.toList.dropWhile atEdge).reverse.dropWhile atEdge).reverse
  inner.filter fun c => !(c == '\t' || c == '\n' || c == '\r')

/-- Reads a text, relative to `base` if it has no scheme of its own. -/
def read (base : Option Url) (text : String) : Except Error Url :=
  let text := trimmed text
  match splitScheme? text with
  | some (scheme, rest) => readWithScheme base scheme rest
  | none =>
    match base with
    | none => .error .relativeWithoutBase
    | some b =>
      if text.head? == some '#' then .ok { b with fragment := (queryAndFragment b.kind text).2 }
      else if b.hasOpaquePath then .error .relativeToOpaquePath
      else if b.kind == .file then readFile (some b) text
      else readRelative b text

/-- Reads a URL that stands alone. -/
def parse (text : String) : Except Error Url := read none text

/-- Reads a reference found in a document whose address is `base`. -/
def join (base : Url) (reference : String) : Except Error Url := read (some base) reference

end ReleaseListing.Url
