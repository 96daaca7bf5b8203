import ReleaseListing.Extraction

/-!
# Jobs

A job lists the entries of a page, and then may remove the rows that they stand in.
-/

namespace ReleaseListing

/-- What to list and how. -/
structure Job where
  /-- A heading for the listing. -/
  label : Option String := none
  pattern : String
  /-- What every name starts with. -/
  start : String := ""
  strategy : Strategy := .pathTail
  style : Style := .call
  baseUrl : Option String := none
  assign : Option String := none
  docstring : Option String := none
  removesRows : Bool := false
  deriving DecidableEq, Repr, Inhabited

/-- What all jobs of a run have in common. -/
structure Settings where
  record : String
  separator : String
  /-- How many levels above an anchor its row is. -/
  rowLevels : Nat
  deriving DecidableEq, Repr

/-- What comes of a job. -/
structure Outcome where
  listing : String
  matched : Nat
  removed : Nat
  deriving DecidableEq, Repr

/-- Why a job does not come to its end. -/
inductive Job.Stop where
  | failure (f : Failure)
  /-- The page has lost the element that everything stands in. -/
  | rootless
  deriving DecidableEq, Repr

namespace Job

/-- The entries that the job asks for. -/
def extraction (job : Job) : Except Failure Extraction := do
  let base ← job.baseUrl.mapM readBaseUrl
  return { pattern := job.pattern, start := job.start, strategy := job.strategy, base }

/-- The form of the job's listing. -/
def format (job : Job) (settings : Settings) : Format where
  style := job.style
  record := settings.record
  separator := settings.separator
  assign := job.assign
  docstring := job.docstring

/-- Lists the entries of the page, and then removes their rows if the job says so. -/
def run {P : Type} [Page P] (job : Job) (settings : Settings) (page : P) :
    Except Stop (Outcome × P) :=
  match job.extraction with
  | .error failure => .error (.failure failure)
  | .ok x =>
    match Page.anchors? page with
    | none => .error .rootless
    | some anchors =>
      let entries := x.entries anchors
      let listing := Listing.render entries (job.format settings)
      let (page, removed) :=
        if job.removesRows then Page.removeRows (x.nodes anchors) settings.rowLevels page
        else (page, 0)
      .ok ({ listing, matched := entries.length, removed }, page)

end Job

end ReleaseListing
