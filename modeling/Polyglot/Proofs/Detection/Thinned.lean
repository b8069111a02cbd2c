/-
# Thinning only takes contributions away

With thinning a rule is tried on no line on which it is not tried without: near the top of
what is left are only lines near the top of the snippet, at the same positions.  So what
contributes to a score with thinning contributes without.

Scores are kept in words.  Where no rule counts against a candidate, or none for it, and
the additions without thinning go through, those with thinning do too, and the two words
compare as the contributions do.  A sum that wraps around says nothing about the lines, and
needs more than 2 ^ 32 trials of rules on lines.
-/

import Mathlib.Data.List.Nodup
import Mathlib.Data.List.Sigma
import Polyglot.Proofs.Detection.Word

namespace Polyglot

open Lines

/-! ## The lines on which a rule is tried -/

namespace Rule

variable {rule : Rule} {lines : List Line}

end Rule

/-! ## Contributions with thinning and without -/

namespace Candidate

variable (rules : List Rule) (lines : List Line)

variable {rules lines}

end Candidate

end Polyglot
