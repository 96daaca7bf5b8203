import ReleaseListing.Url.Basic

/-!
# What can go wrong
-/

namespace ReleaseListing

/-- Why a request about listings cannot be answered. -/
inductive Failure where
  /-- No preset has this name. -/
  | unknownPreset (name : String)
  /-- No naming strategy has this name. -/
  | unknownStrategy (name : String)
  /-- No listing style has this name. -/
  | unknownStyle (name : String)
  /-- The base URL of a job cannot be read. -/
  | invalidBaseUrl (url : String) (cause : Url.Error)
  deriving DecidableEq, Repr

/-- The failure in words, without its cause. -/
def Failure.message : Failure → String
  | .unknownPreset name =>
    "unknown preset `" ++ name ++ "`; run `rellist presets` to list available presets"
  | .unknownStrategy name =>
    "unknown filename strategy `" ++ name ++ "` (expected `path-tail` or `label`)"
  | .unknownStyle name =>
    "unknown listing format `" ++ name ++ "` (expected `call` or `json`)"
  | .invalidBaseUrl url _ => "invalid base URL `" ++ url ++ "`"

/-- The words of what lies behind the failure, outermost first. -/
def Failure.causes : Failure → List String
  | .invalidBaseUrl _ cause => [cause.message]
  | _ => []

end ReleaseListing
