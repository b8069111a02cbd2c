/-
# Detections as JSON

A detection without scores is written as its name, one with scores as an object
whose scores are pairs.  A file's detection adds the path of the file.
-/

import Polyglot.Detection
import Polyglot.Json.Writer

namespace Polyglot

namespace Json

/-- A name with its score. -/
def ofScore (score : LanguageScore) : Json := .array [ofText score.1, ofInt score.2]

/-- Scores in their order. -/
def ofScores (scores : List LanguageScore) : Json := .array (scores.map ofScore)

end Json

namespace Detection

/-- A detection as a value. -/
def toJson : Detection → Json
  | language name => Json.ofText name
  | report detected statistics =>
    .object [(Json.unitsOf "detected", Json.ofText detected),
      (Json.unitsOf "statistics", Json.ofScores statistics)]

/-- The text of a detection. -/
def write (detection : Detection) : List Char := detection.toJson.write

end Detection

/-- What is written for one file. -/
structure FileItem where
  /-- The path of the file. -/
  path : String
  /-- What was detected in it. -/
  detection : Detection
  deriving DecidableEq, Repr

namespace FileItem

/-- An item as a value; scores are a member only where they are reported. -/
def toJson (item : FileItem) : Json :=
  let scores :=
    match item.detection.statistics? with
    | some statistics => [(Json.unitsOf "statistics", Json.ofScores statistics)]
    | none => []
  .object ([(Json.unitsOf "path", Json.ofText item.path),
    (Json.unitsOf "detected", Json.ofText item.detection.name)] ++ scores)

/-- The text of an item. -/
def write (item : FileItem) : List Char := item.toJson.write

end FileItem

end Polyglot
