import ReleaseListing.Text.Split
import ReleaseListing.Url.Basic
import ReleaseListing.Url.Percent

/-!
# Paths made of segments

Segments are appended to a path one by one. A segment of one dot says nothing, one of two dots
takes the last segment away, and in file URLs a drive letter stays where it is.
-/

namespace ReleaseListing.Url

/-! ## Drive letters -/

/-- A letter and a colon or bar, and nothing more. -/
def isDriveLetter : List Char → Bool
  | [letter, mark] => letter.isAlpha && (mark == ':' || mark == '|')
  | _ => false

/-- A letter and a colon, and nothing more. -/
def isNormalDriveLetter : List Char → Bool
  | [letter, mark] => letter.isAlpha && mark == ':'
  | _ => false

/-- Whether a text starts with a drive letter that a segment's end follows. -/
def startsWithDriveLetter : List Char → Bool
  | letter :: mark :: rest =>
    isDriveLetter [letter, mark] &&
      (match rest with
      | [] => true
      | c :: _ => "/\\?#".toList.contains c)
  | _ => false

/-! ## Dots -/

/-- Puts plain dots for percent-encoded ones. -/
def withPlainDots : List Char → List Char
  | '%' :: '2' :: 'e' :: rest => '.' :: withPlainDots rest
  | '%' :: '2' :: 'E' :: rest => '.' :: withPlainDots rest
  | c :: rest => c :: withPlainDots rest
  | [] => []

def isSingleDot (segment : List Char) : Bool := withPlainDots segment == ['.']

def isDoubleDot (segment : List Char) : Bool := withPlainDots segment == ['.', '.']

/-! ## Shortening -/

def endsInSlash (path : List Char) : Bool := path.getLast? == some '/'

def withFinalSlash (path : List Char) : List Char :=
  if endsInSlash path then path else path ++ ['/']

/-- Takes away what follows the last slash, but no drive letter of a file. -/
def withoutLast (kind : SchemeKind) (path : List Char) : List Char :=
  if kind == .file && isNormalDriveLetter (Text.afterLast '/' path) then path
  else Text.throughLast '/' path

/-- Whether a segment stands before the final slash of a path, other than a drive letter. -/
def hasRemovableSlash (path : List Char) : Bool :=
  match Text.afterLast? '/' path.dropLast with
  | some segment => endsInSlash path && !startsWithDriveLetter (segment ++ ['/'])
  | none => false

/-- The path without its last segment. -/
def parent (kind : SchemeKind) (path : List Char) : List Char :=
  withoutLast kind (if hasRemovableSlash path then path.dropLast else path)

/-! ## Appending -/

/-- A path under construction, and whether the URL still has a host. -/
structure PathBuffer where
  text : List Char
  hasHost : Bool

/-- Appends a percent-encoded segment, and a slash if one ends it. -/
def PathBuffer.push (kind : SchemeKind) (b : PathBuffer) (segment : List Char) (slash : Bool) :
    PathBuffer :=
  let base :=
    if kind == .file && !segment.isEmpty && isNormalDriveLetter (b.text.drop 1) then
      b.text ++ ['/']
    else b.text
  let ending := if slash then ['/'] else []
  if isDoubleDot segment then
    let up := parent kind base
    { b with text := if slash then withFinalSlash up else up }
  else if isSingleDot segment then { b with text := withFinalSlash base }
  else if kind == .file && base.length == 1 && isDriveLetter segment then
    ⟨base ++ segment.take 1 ++ [':'] ++ ending, false⟩
  else { b with text := base ++ segment ++ ending }

/-- Appends the segments of a text, each but the last with the slash that ends it. -/
def PathBuffer.pushAll (kind : SchemeKind) (b : PathBuffer) : List (List Char) → PathBuffer
  | [] => b
  | [last] => b.push kind last false
  | segment :: rest => (b.push kind segment true).pushAll kind rest

/-- Reads a text without query and fragment onto a path. The path of a file has one slash at its
start, however many there are in the text. -/
def PathBuffer.read (kind : SchemeKind) (b : PathBuffer) (text : List Char) : PathBuffer :=
  let isSlash (c : Char) : Bool := c == '/' || (kind.isSpecial && c == '\\')
  let done := b.pushAll kind ((text.splitOnP isSlash).map (percentEncode inPathSet))
  if kind == .file then { done with text := '/' :: done.text.dropWhile (· == '/') } else done

end ReleaseListing.Url
