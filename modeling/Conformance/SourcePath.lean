/-!
# Source paths

A path is kept in one spelling: repeated slashes, `.` components and a trailing slash are dropped,
`..` stays, and the empty path is `.`. A path may start with one slash or with exactly two; three
or more count as one.
-/

set_option autoImplicit false

namespace Conformance

/-- Path of a source file, in its one spelling. -/
structure SourcePath where
  text : String
  deriving DecidableEq

namespace SourcePath

/-- Slashes kept at the front. -/
def root (text : String) : String :=
  match (text.toList.takeWhile (· == '/')).length with
  | 0 => ""
  | 2 => "//"
  | _ => "/"

/-- The components that count. -/
def components (text : String) : List String :=
  (text.splitOn "/").filter fun part => part != "" && part != "."

/-- The path that a text denotes. -/
def ofText (text : String) : SourcePath :=
  let spelled := root text ++ "/".intercalate (components text)
  ⟨if spelled = "" then "." else spelled⟩

end SourcePath

end Conformance
