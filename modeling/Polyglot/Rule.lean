/-
# Rules

A rule says that lines in which a pattern occurs speak for a language, or
against it, with so many points.  A rule near the top counts on the first lines
of a snippet only.
-/

import Polyglot.Lines
import Polyglot.Pattern.Marking
import Polyglot.Pattern.Parser

namespace Polyglot

/-- A rule as it is written. -/
structure RuleSpec where
  /-- The text of the pattern. -/
  pattern : String
  /-- The points of a line in which the pattern occurs. -/
  points : Int32
  /-- Whether the rule counts near the top only. -/
  nearTop : Bool := false
  deriving DecidableEq, Repr

/-- A language with its rules as they are written. -/
structure LanguageRules where
  /-- The name of the language. -/
  language : String
  /-- Its rules. -/
  rules : List RuleSpec
  deriving DecidableEq, Repr

/-- A rule whose pattern has been read. -/
structure Rule where
  /-- The rule as it is written. -/
  spec : RuleSpec
  /-- The pattern. -/
  pattern : Pattern
  /-- The pattern is the one that the text writes. -/
  reads : Pattern.ofText? spec.pattern.toList = some pattern

namespace Rule

/-- The rule that is written, unless its pattern is none. -/
def ofSpec? (spec : RuleSpec) : Option Rule :=
  match reads : Pattern.ofText? spec.pattern.toList with
  | some pattern => some ⟨spec, pattern, reads⟩
  | none => none

/-- The points of a line in which the pattern occurs. -/
def points (rule : Rule) : Int := rule.spec.points.toInt

/-- Whether the rule counts near the top only. -/
def nearTop (rule : Rule) : Bool := rule.spec.nearTop

/-- Whether the pattern occurs in a line. -/
def hits (rule : Rule) (line : Lines.Line) : Bool := rule.pattern.occursIn line

end Rule

end Polyglot
