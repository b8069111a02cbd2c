/-
# Detecting the language of a snippet

Every candidate is scored on the lines of a snippet, and the first candidate of
the highest score is detected.  Unknown always has one point, so a language is
detected only if it has at least one.
-/

import Polyglot.Registry

namespace Polyglot

open Lines

/-- The score of Unknown. -/
def unknownPoints : Int := 1

/-- The sum of points. -/
def totalPoints (points : List Int) : Int := points.foldr (· + ·) 0

/-- A candidate's name with its score. -/
abbrev LanguageScore := String × Int

namespace Rule

/-- Whether a rule is tried on a line. -/
def applies (rule : Rule) (index total : Nat) : Bool :=
  isNearTop index total || !rule.nearTop

/-- The points that a rule gives for one line of a snippet. -/
def pointsOn (rule : Rule) (index total : Nat) (line : Line) : Int :=
  if rule.applies index total && rule.hits line then rule.points else 0

end Rule

namespace Candidate

/-- The points of some rules for one line. -/
def linePoints (rules : List Rule) (total : Nat) (entry : Line × Nat) : Int :=
  totalPoints (rules.map fun rule => rule.pointsOn entry.2 total entry.1)

/-- The score of a candidate on the lines of a snippet: each rule counts at most
once a line.  It is kept in a word, `scoreWord`, which wraps it around where it does not fit;
with at most 2 ^ 32 trials of rules on lines it always fits. -/
def score (candidate : Candidate) (lines : List Line) : Int :=
  match candidate with
  | unknown => unknownPoints
  | language _ rules => totalPoints (lines.zipIdx.map (linePoints rules lines.length))

end Candidate

/-- How to detect. -/
structure DetectOptions where
  /-- Whether long snippets are thinned out. -/
  heuristic : Bool := true
  /-- Whether the scores of all candidates are reported. -/
  statistics : Bool := false
  deriving DecidableEq, Repr

/-- What is detected. -/
inductive Detection
  /-- A name alone. -/
  | language (name : String)
  /-- A name with the scores of all candidates, highest first. -/
  | report (detected : String) (statistics : List LanguageScore)
  deriving DecidableEq, Repr

namespace Detection

/-- The name detected. -/
def name : Detection → String
  | language name => name
  | report detected _ => detected

/-- The scores, where they are reported. -/
def statistics? : Detection → Option (List LanguageScore)
  | language _ => none
  | report _ statistics => some statistics

end Detection

/-- The lines of a snippet that are scored. -/
def scoredLines (snippet : List Char) (heuristic : Bool) : List Line :=
  subsample (normalize snippet) heuristic

/-- The scores of all candidates, in the order of the registry. -/
def scoreAll (snippet : List Char) (heuristic : Bool) (registry : Registry) :
    List LanguageScore :=
  let lines := scoredLines snippet heuristic
  registry.candidates.map fun candidate => (candidate.name, candidate.score lines)

/-- One step of the scan for the winner: a strictly higher score replaces the
best so far. -/
def better (best : Option LanguageScore) (score : LanguageScore) : Option LanguageScore :=
  match best with
  | none => some score
  | some leader => if leader.2 < score.2 then some score else some leader

/-- The name of the first candidate with the highest score. -/
def selectWinner (scores : List LanguageScore) : String :=
  match scores.foldl better none with
  | some winner => winner.1
  | none => unknownName

/-- The scores in descending order; equal ones keep their order. -/
def rank (scores : List LanguageScore) : List LanguageScore :=
  scores.mergeSort fun first second => decide (second.2 ≤ first.2)

/-- Detect the language of a snippet. -/
def detect (snippet : List Char) (options : DetectOptions) (registry : Registry) : Detection :=
  let scores := scoreAll snippet options.heuristic registry
  let detected := selectWinner scores
  if options.statistics then .report detected (rank scores) else .language detected

end Polyglot
