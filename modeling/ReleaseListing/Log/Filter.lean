import ReleaseListing.Log
import ReleaseListing.Text.Blank
import ReleaseListing.Text.Split

/-!
# Which events are told

A filter holds directives, parted by commas. A directive is a level for all events, or the start
of a target with a level for its events; of several that apply, the longest start counts, and of
equal ones the last.
-/

namespace ReleaseListing.Log

/-- The rank up to which events are told; `0` for none. -/
abbrev Limit := Nat

/-- The limit that a word or a digit stands for. -/
def limit? (word : List Char) : Option Limit :=
  match String.ofList (Text.asciiLower word) with
  | "off" | "0" => some 0
  | "error" | "1" | "" => some 1
  | "warn" | "2" => some 2
  | "info" | "3" => some 3
  | "debug" | "4" => some 4
  | "trace" | "5" => some 5
  | _ => none

/-- A limit for the events of some targets. -/
structure Directive where
  /-- How the targets start; none for all of them. -/
  start : Option (List Char)
  limit : Limit
  /-- Set for a directive that asks for an enclosing span, of which there are none. -/
  spanOnly : Bool := false
  deriving DecidableEq, Repr

namespace Directive

/-- A directive that is a level or a target. -/
def ofWord (word : List Char) : Directive :=
  match limit? word with
  | some limit => ⟨none, limit, false⟩
  | none => ⟨some word, 5, false⟩

/-- A directive with the level behind an equals sign. -/
def withLimit? (start : Option (List Char)) (spanOnly : Bool) (word : List Char) :
    Option Directive :=
  if word.isEmpty then some ⟨start, 5, spanOnly⟩
  else (limit? word).map fun limit => ⟨start, limit, spanOnly⟩

/-- Whether a word may start with the character. -/
def startsWord (c : Char) : Bool := c.isAlphanum || "-:_".toList.contains c || 0x80 ≤ c.toNat

/-- What follows a span in brackets: nothing, or a level. -/
def behindSpan? (start : Option (List Char)) (rest : List Char) : Option Directive :=
  match rest.dropWhile (· != ']') with
  | [_] => some ⟨start, 5, true⟩
  | _ :: '=' :: word => withLimit? start true word
  | _ => none

/-- Reads a directive. Blanks in front of it shift what counts as its parts. -/
def parse? (text : List Char) : Option Directive :=
  let trimmed := text.dropWhile Text.isBlank
  match trimmed with
  | [] => none
  | '[' :: rest => behindSpan? none rest
  | c :: _ =>
    if !startsWord c then none
    else
      let length := (trimmed.takeWhile fun c => c != '=' && c != '[').length
      match trimmed.drop length with
      | '=' :: _ => withLimit? (some (text.take length)) false (text.drop (length + 1))
      | '[' :: rest => behindSpan? (some (text.take length)) rest
      | _ => some (ofWord text)

/-- Whether the directive is about a target. -/
def covers (d : Directive) (target : String) : Bool :=
  !d.spanOnly && (d.start.all fun start => start.isPrefixOf target.toList)

/-- How close a directive comes to a target; that for all targets comes least close. -/
def closeness (d : Directive) : Nat :=
  match d.start with
  | none => 0
  | some start => start.length + 1

end Directive

/-- Directives, in their order. -/
abbrev Filter := List Directive

namespace Filter

/-- Reads a filter. -/
def parse? (text : String) : Option Filter :=
  if text.isEmpty then some [] else (text.toList.splitOnP (· == ',')).mapM Directive.parse?

/-- The filter that holds if no other one is given. -/
def standard : Filter :=
  [⟨none, Level.info.rank, false⟩, ⟨some "rellist".toList, Level.debug.rank, false⟩]

/-- The filter that a setting asks for. -/
def ofSetting (setting : Option String) : Filter := (setting.bind parse?).getD standard

/-- The directive that counts for a target. -/
def closest? (filter : Filter) (target : String) : Option Directive :=
  let closer (best : Option Directive) (d : Directive) : Option Directive :=
    if !d.covers target then best
    else if (best.map (·.closeness)).getD 0 ≤ d.closeness then some d
    else best
  filter.foldl closer none

/-- Whether an event is told. -/
def admits (filter : Filter) (e : Event) : Bool :=
  (filter.closest? e.target).any fun d => e.level.rank ≤ d.limit

end Filter

end ReleaseListing.Log
