/-
# Scores in words

Scores are added up in signed words of 64 bits: for each line the points of the rules that
count on it, and then what the lines give.  A sum that does not fit a word wraps around,
or stops the program where additions are checked.  Both are defined here, with the scan
for the winner and the ranking by words.
-/

import Polyglot.Detection

namespace Polyglot

open Lines

/-- A number fits a signed word of 64 bits. -/
def FitsWord (n : Int) : Prop := -0x8000000000000000 ≤ n ∧ n < 0x8000000000000000

instance (n : Int) : Decidable (FitsWord n) := inferInstanceAs (Decidable (_ ∧ _))

/-- Words added up from left to right; a sum that does not fit wraps around. -/
def totalWord (points : List Int64) : Int64 := points.foldl (· + ·) 0

/-- The sum of two words, if it fits. -/
def addWord? (first second : Int64) : Option Int64 :=
  if FitsWord (first.toInt + second.toInt) then some (first + second) else none

/-- Words added up from left to right, if every sum on the way fits. -/
def totalWord? (points : List Int64) : Option Int64 := points.foldlM addWord? 0

namespace Candidate

/-- The points that are added up for one line of a snippet, in the order of the rules. -/
def lineWords (rules : List Rule) (total : Nat) (entry : Line × Nat) : List Int64 :=
  (rules.filter fun rule => rule.applies entry.2 total && rule.hits entry.1).map
    fun rule => rule.spec.points.toInt64

/-- The score of a candidate as a word. -/
def scoreWord (candidate : Candidate) (lines : List Line) : Int64 :=
  match candidate with
  | unknown => 1
  | language _ rules =>
    totalWord (lines.zipIdx.map fun entry => totalWord (lineWords rules lines.length entry))

/-- The score of a candidate as a word, if every sum on the way fits. -/
def scoreWord? (candidate : Candidate) (lines : List Line) : Option Int64 :=
  match candidate with
  | unknown => some 1
  | language _ rules =>
    lines.zipIdx.foldlM (fun score entry => do
      let points ← totalWord? (lineWords rules lines.length entry)
      addWord? score points) 0

end Candidate

/-- A candidate's name with its score as a word. -/
abbrev WordScore := String × Int64

/-- The score that a word holds. -/
def WordScore.toScore (score : WordScore) : LanguageScore := (score.1, score.2.toInt)

/-- The scores of all candidates as words, in the order of the registry. -/
def scoreAllWords (snippet : List Char) (heuristic : Bool) (registry : Registry) :
    List WordScore :=
  let lines := scoredLines snippet heuristic
  registry.candidates.map fun candidate => (candidate.name, candidate.scoreWord lines)

/-- One step of the scan for the winner: a strictly greater word replaces the best so far. -/
def betterWord (best : Option WordScore) (score : WordScore) : Option WordScore :=
  match best with
  | none => some score
  | some leader => if leader.2 < score.2 then some score else some leader

/-- The name of the first candidate with the greatest word. -/
def selectWinnerWord (scores : List WordScore) : String :=
  match scores.foldl betterWord none with
  | some winner => winner.1
  | none => unknownName

/-- The scores in descending order of their words; equal ones keep their order. -/
def rankWords (scores : List WordScore) : List WordScore :=
  scores.mergeSort fun first second => decide (second.2 ≤ first.2)

/-- Detect the language of a snippet by scores in words. -/
def detectWord (snippet : List Char) (options : DetectOptions) (registry : Registry) :
    Detection :=
  let scores := scoreAllWords snippet options.heuristic registry
  let detected := selectWinnerWord scores
  if options.statistics then .report detected ((rankWords scores).map WordScore.toScore)
  else .language detected

end Polyglot
