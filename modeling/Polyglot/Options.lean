/-
# Options as JSON

The options of a detection can be given as a JSON text: an object that names
them, or an array that lists them.  What is not given takes its default.
-/

import Polyglot.Detection
import Polyglot.Json.Reader

namespace Polyglot

namespace DetectOptions

/-- The truth value that a JSON value is. -/
def bool? : Json → Option Bool
  | .bool b => some b
  | _ => none

/-- The values given by name so far. -/
structure Given where
  /-- Whether to thin out, if given. -/
  heuristic : Option Bool := none
  /-- Whether to report scores, if given. -/
  statistics : Option Bool := none
  deriving DecidableEq, Repr

/-- The options, with defaults for what is not given. -/
def Given.complete (given : Given) : DetectOptions :=
  let standard : DetectOptions := {}
  ⟨given.heuristic.getD standard.heuristic, given.statistics.getD standard.statistics⟩

/-- Take in one member of an object.  Its name has to be a text; the two names
that mean something may be given once each, with truth values. -/
def Given.member? (given : Given) (member : List JsonUnit × Json) : Option Given := do
  let name ← Json.textOf? member.1
  if name = "heuristic" then
    if given.heuristic.isSome then none
    let value ← bool? member.2
    some { given with heuristic := some value }
  else if name = "statistics" then
    if given.statistics.isSome then none
    let value ← bool? member.2
    some { given with statistics := some value }
  else some given

/-- The options that a JSON value gives. -/
def ofJson? : Json → Option DetectOptions
  | .object members =>
    (members.foldlM Given.member? {}).map Given.complete
  | .array [] => some (Given.complete {})
  | .array [heuristic] => do
    let heuristic ← bool? heuristic
    some (Given.complete ⟨some heuristic, none⟩)
  | .array [heuristic, statistics] => do
    let heuristic ← bool? heuristic
    let statistics ← bool? statistics
    some ⟨heuristic, statistics⟩
  | _ => none

/-- The options that a JSON text gives. -/
def ofText? (text : List Char) : Option DetectOptions := do
  let value ← Json.ofText? text
  ofJson? value

end DetectOptions

end Polyglot
