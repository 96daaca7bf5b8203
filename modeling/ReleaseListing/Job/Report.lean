import ReleaseListing.Job
import ReleaseListing.Log

/-!
# What the log tells of a job
-/

namespace ReleaseListing.Job

open Log (Event)

/-- A warning for each link that leads nowhere from the base. -/
def unresolved (x : Extraction) (anchors : List PlacedAnchor) : List Event :=
  (x.matched anchors).filterMap fun a =>
    match x.base with
    | none => none
    | some base =>
      match base.join a.anchor.href with
      | .ok _ => none
      | .error e =>
        some {
          level := .warn
          target := "rellist_core::filename::resolve"
          message := "could not resolve href against base URL; keeping it raw"
          fields := [("href", Log.quotedField a.anchor.href), ("err", e.message)] }

/-- How many anchors match. -/
def matching (job : Job) (outcome : Outcome) : Event where
  level := .debug
  target := "rellist_core::extract"
  message := if outcome.matched == 0 then "no anchors matched" else "extracted entries"
  fields :=
    ("pattern", job.pattern) ::
      if outcome.matched == 0 then [] else [("matched", toString outcome.matched)]

/-- That a listing leaves something out, if it does. -/
def dropping (job : Job) (settings : Settings) : List Event :=
  if Listing.dropsWrapping (job.format settings) then
    [{ level := .debug
       target := "rellist_core::listing"
       message := "assignment/docstring wrapping ignored for json listings" }]
  else []

/-- How many rows are removed, if any are to be. -/
def removal (job : Job) (settings : Settings) (outcome : Outcome) : List Event :=
  if job.removesRows then
    [{ level := .debug
       target := "rellist_core::document::html"
       message := "detached rows from html document"
       fields := [("removed", toString outcome.removed), ("levels", toString settings.rowLevels)] }]
  else []

/-- That the job is done. -/
def finished (job : Job) (outcome : Outcome) : Event where
  level := .info
  target := "rellist_core::job"
  message := "listing job finished"
  fields :=
    [("pattern", job.pattern), ("matched", toString outcome.matched),
     ("removed", toString outcome.removed)]

/-- What the log tells of a job that has come to its end; `page` is the page in front of it. -/
def report {P : Type} [Page P] (job : Job) (settings : Settings) (page : P) (outcome : Outcome) :
    List Event :=
  let warnings := match job.extraction with
    | .ok x => unresolved x ((Page.anchors? page).getD [])
    | .error _ => []
  warnings ++ matching job outcome :: dropping job settings ++ removal job settings outcome ++
    [finished job outcome]

end ReleaseListing.Job
