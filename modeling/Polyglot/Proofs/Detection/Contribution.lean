/-
# What a rule contributes to a score

A score is the sum of contributions, each of a rule on a line.  A rule
contributes on the lines on which it is tried and hits, and the positions of
those lines are counted in the snippet before it is thinned out.  Added up rule
by rule instead of line by line, no positions are left: a rule gives its points
for each line that it hits, or for each of the first lines.
-/

import Mathlib.Algebra.BigOperators.Group.List.Basic
import Mathlib.Algebra.Ring.Int.Defs
import Mathlib.Data.Int.Order.Basic
import Mathlib.Data.List.Flatten
import Polyglot.Detection
import Polyglot.Proofs.Lines.Thinning

namespace Polyglot

open Lines

namespace Rule

/-- The points that a rule gives for all lines of a snippet. -/
def pointsIn (rule : Rule) (lines : List Line) : Int :=
  (lines.zipIdx.map fun entry => rule.pointsOn entry.2 lines.length entry.1).sum

end Rule

namespace Candidate

end Candidate

/-! ## The lines on which a rule is tried -/

namespace Rule

end Rule

/-! ## Scores as sums of contributions -/

theorem totalPoints_eq_sum (points : List Int) : totalPoints points = points.sum := rfl

/-- A rule gives the same points on every line it hits. -/
theorem sum_map_pointsOn (rule : Rule) (total : Nat) (entries : List (Line × Nat)) :
    (entries.map fun entry => rule.pointsOn entry.2 total entry.1).sum =
      (entries.countP fun entry => rule.applies entry.2 total && rule.hits entry.1 : Int) *
        rule.points := by
  induction entries with
  | nil => simp
  | cons entry entries ih =>
      rw [List.map_cons, List.sum_cons, ih, List.countP_cons, Rule.pointsOn]
      split
      · push_cast
        rw [add_mul, one_mul, add_comm]
      · simp

/-- Summing line by line is summing rule by rule. -/
theorem sum_map_linePoints (rules : List Rule) (total : Nat) (entries : List (Line × Nat)) :
    (entries.map (Candidate.linePoints rules total)).sum =
      (rules.map fun rule =>
        (entries.map fun entry => rule.pointsOn entry.2 total entry.1).sum).sum := by
  induction rules with
  | nil =>
      have hnone : Candidate.linePoints [] total = fun _ => 0 := rfl
      simp [hnone]
  | cons rule rules ih =>
      rw [List.map_cons, List.sum_cons, ← ih, ← List.sum_map_add]
      rfl

namespace Rule

theorem pointsIn_eq (rule : Rule) (lines : List Line) :
    rule.pointsIn lines =
      (lines.zipIdx.countP fun entry =>
        rule.applies entry.2 lines.length && rule.hits entry.1 : Int) * rule.points :=
  sum_map_pointsOn rule lines.length lines.zipIdx

theorem pointsIn_nonneg {rule : Rule} (hpoints : 0 ≤ rule.points) (lines : List Line) :
    0 ≤ rule.pointsIn lines := by
  rw [pointsIn_eq]
  exact Int.mul_nonneg (Int.natCast_nonneg _) hpoints

/-- A rule that hits no line gives no points. -/
theorem pointsIn_eq_zero {rule : Rule} {lines : List Line}
    (hhits : ∀ line ∈ lines, rule.hits line = false) : rule.pointsIn lines = 0 := by
  have hnone : (lines.zipIdx.countP fun entry =>
      rule.applies entry.2 lines.length && rule.hits entry.1) = 0 := by
    rw [List.countP_eq_zero]
    intro entry hmem
    simp [hhits entry.1 (List.fst_mem_of_mem_zipIdx hmem)]
  rw [pointsIn_eq, hnone, Int.natCast_zero, Int.zero_mul]

/-- Tried on the first lines only, a rule gives its points for those that it hits. -/
theorem pointsIn_of_nearTop {rule : Rule} {lines : List Line} (hnear : rule.nearTop = true) :
    rule.pointsIn lines =
      rule.points * ((lines.take (topLength lines.length)).countP rule.hits : Int) := by
  have htried : (lines.zipIdx.countP fun entry =>
      rule.applies entry.2 lines.length && rule.hits entry.1) =
        (lines.zipIdx.take (topLength lines.length)).countP fun entry => rule.hits entry.1 := by
    rw [← Nat.sub_zero (topLength _), ← filter_zipIdx_lt, List.countP_filter]
    apply List.countP_congr
    intro entry hmem
    have hindex : entry.2 < lines.length := List.snd_lt_of_mem_zipIdx hmem
    rw [applies, hnear, Bool.not_true, Bool.or_false, Bool.and_eq_true, Bool.and_eq_true,
      isNearTop_iff_lt_topLength hindex, decide_eq_true_eq, and_comm]
  have htop : lines.take (topLength lines.length) =
      (lines.zipIdx.take (topLength lines.length)).map Prod.fst := by
    rw [List.map_take, List.zipIdx_map_fst]
  rw [pointsIn_eq, htried, mul_comm, htop, List.countP_map]
  rfl

/-- Tried everywhere, a rule gives its points for all lines that it hits. -/
theorem pointsIn_of_everywhere {rule : Rule} {lines : List Line} (hnear : rule.nearTop = false) :
    rule.pointsIn lines = rule.points * (lines.countP rule.hits : Int) := by
  have htried : (lines.zipIdx.countP fun entry =>
      rule.applies entry.2 lines.length && rule.hits entry.1) = lines.countP rule.hits := by
    rw [← countP_fst_zipIdx rule.hits]
    apply List.countP_congr
    intro entry _
    simp [applies, hnear]
  rw [pointsIn_eq, htried, mul_comm]

end Rule

namespace Candidate

/-- The score of a language is the sum of the points that its rules give. -/
theorem score_language (name : String) (rules : List Rule) (lines : List Line) :
    (language name rules).score lines = (rules.map fun rule => rule.pointsIn lines).sum := by
  rw [score, totalPoints_eq_sum, sum_map_linePoints]
  rfl

end Candidate

end Polyglot
