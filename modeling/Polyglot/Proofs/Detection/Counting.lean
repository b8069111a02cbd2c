/-
# Scores counted rule by rule

A score is defined line by line, with a look at the position of each line.  Counted rule
by rule no positions are left: a rule gives its points once for each line that it hits,
and one that counts near the top is tried on the first lines only, whose number depends
on the number of all lines.

Rules that are tried everywhere therefore see a list of lines as a bag: their points add
up when lists are joined, and the order of the lines does not matter to them.  All this is
said of words, in which it holds whether or not a sum wraps around.
-/

import Mathlib.Algebra.Order.Floor.Div
import Mathlib.GroupTheory.GroupAction.Ring
import Polyglot.Proofs.Detection.Word

namespace Polyglot

open Lines

namespace Candidate

/-- The rules of a language are those that are tried everywhere and those that count near
the top. -/
theorem sum_pointsIn_eq_add (rules : List Rule) (lines : List Line) :
    (rules.map fun rule => rule.pointsIn lines).sum =
      ((rules.filter fun rule => !rule.nearTop).map fun rule => rule.pointsIn lines).sum +
        ((rules.filter Rule.nearTop).map fun rule => rule.pointsIn lines).sum := by
  have hperm := (List.filter_append_perm Rule.nearTop rules).map fun rule => rule.pointsIn lines
  rw [← hperm.sum_eq, List.map_append, List.sum_append, add_comm]

/-- Rules that are tried everywhere give for joined lists of lines what they give for each. -/
theorem sum_pointsIn_append {rules : List Rule} (hnear : ∀ rule ∈ rules, rule.nearTop = false)
    (first second : List Line) :
    (rules.map fun rule => rule.pointsIn (first ++ second)).sum =
      (rules.map fun rule => rule.pointsIn first).sum +
        (rules.map fun rule => rule.pointsIn second).sum := by
  rw [← List.sum_map_add]
  apply congrArg List.sum
  apply List.map_congr_left
  intro rule hmem
  have heverywhere := hnear rule hmem
  rw [Rule.pointsIn_of_everywhere heverywhere, Rule.pointsIn_of_everywhere heverywhere,
    Rule.pointsIn_of_everywhere heverywhere, List.countP_append, Nat.cast_add, mul_add]

/-- Rules that are tried everywhere do not see the order of the lines. -/
theorem sum_pointsIn_of_perm {rules : List Rule} (hnear : ∀ rule ∈ rules, rule.nearTop = false)
    {first second : List Line} (perm : first.Perm second) :
    (rules.map fun rule => rule.pointsIn first).sum =
      (rules.map fun rule => rule.pointsIn second).sum := by
  apply congrArg List.sum
  apply List.map_congr_left
  intro rule hmem
  have heverywhere := hnear rule hmem
  rw [Rule.pointsIn_of_everywhere heverywhere, Rule.pointsIn_of_everywhere heverywhere,
    perm.countP_eq]

/-- The points that rules give for so many lines each, added up in words. -/
theorem ofInt_sum_map_mul (rules : List Rule) (count : Rule → Nat) :
    Int64.ofInt (rules.map fun rule => rule.points * (count rule : Int)).sum =
      totalWord (rules.map fun rule => rule.spec.points.toInt64 * Int64.ofNat (count rule)) := by
  have hpoints (rule : Rule) : Int64.ofInt (rule.points * (count rule : Int)) =
      rule.spec.points.toInt64 * Int64.ofNat (count rule) := by
    rw [Int64.ofInt_mul, Int64.ofInt_eq_ofNat, Rule.points, ← Int32.toInt_toInt64,
      Int64.ofInt_toInt]
  rw [← totalWord_map_ofInt, List.map_map]
  exact congrArg totalWord (List.map_congr_left fun rule _ => hpoints rule)

/-- A score counted rule by rule: the points of every rule times the lines that it hits, for
rules that count near the top times those among the first lines. -/
theorem score_eq_add (name : String) (rules : List Rule) (lines : List Line) :
    (language name rules).score lines =
      ((rules.filter fun rule => !rule.nearTop).map fun rule =>
        rule.points * (lines.countP rule.hits : Int)).sum +
      ((rules.filter Rule.nearTop).map fun rule =>
        rule.points * ((lines.take (topLength lines.length)).countP rule.hits : Int)).sum := by
  rw [score_language, sum_pointsIn_eq_add]
  congr 2
  · apply List.map_congr_left
    intro rule hmem
    obtain ⟨-, hnear⟩ := List.mem_filter.mp hmem
    exact Rule.pointsIn_of_everywhere (by simpa using hnear)
  · apply List.map_congr_left
    intro rule hmem
    exact Rule.pointsIn_of_nearTop (List.mem_filter.mp hmem).2

/-- The score of a language is counted rule by rule, in the words in which points are added
up: a rule gives its points for each line that it hits, and one that counts near the top
for each of the first lines, which are all lines if there are no more than ten of them and
a tenth, rounded up, otherwise.  So without rules that count near the top, the score of
joined lists of lines is the sum of their scores, and the order of the lines does not
matter.  A checked score, and with at most 2 ^ 32 trials every score, is the same sum of
numbers that do not wrap around. -/
theorem score_counts_hits (name : String) (rules : List Rule) (lines : List Line) :
    (language name rules).scoreWord lines =
      totalWord ((rules.filter fun rule => !rule.nearTop).map fun rule =>
        rule.spec.points.toInt64 * Int64.ofNat (lines.countP rule.hits)) +
      totalWord ((rules.filter Rule.nearTop).map fun rule =>
        rule.spec.points.toInt64 * Int64.ofNat ((lines.take (if lines.length ≤ 10
          then lines.length else lines.length ⌈/⌉ 10)).countP rule.hits)) ∧
    ((∀ rule ∈ rules, rule.nearTop = false) →
      (∀ others, (language name rules).scoreWord (lines ++ others) =
        (language name rules).scoreWord lines + (language name rules).scoreWord others) ∧
      ∀ others, lines.Perm others →
        (language name rules).scoreWord lines = (language name rules).scoreWord others) ∧
    ∀ points, (language name rules).scoreWord? lines = some points ∨
        lines.length * rules.length ≤ 2 ^ 32 ∧ (language name rules).scoreWord lines = points →
      points.toInt =
        ((rules.filter fun rule => !rule.nearTop).map fun rule =>
          rule.points * (lines.countP rule.hits : Int)).sum +
        ((rules.filter Rule.nearTop).map fun rule =>
          rule.points * ((lines.take (if lines.length ≤ 10 then lines.length
            else lines.length ⌈/⌉ 10)).countP rule.hits : Int)).sum := by
  have htop : topLength lines.length =
      if lines.length ≤ 10 then lines.length else lines.length ⌈/⌉ 10 := rfl
  refine ⟨?_, fun hnear => ⟨fun others => ?_, fun others perm => ?_⟩, fun points hpoints => ?_⟩
  · rw [scoreWord_eq_ofInt, score_eq_add, Int64.ofInt_add, ofInt_sum_map_mul, ofInt_sum_map_mul,
      htop]
  · rw [scoreWord_eq_ofInt, scoreWord_eq_ofInt, scoreWord_eq_ofInt, ← Int64.ofInt_add,
      score_language, score_language, score_language, sum_pointsIn_append hnear lines others]
  · rw [scoreWord_eq_ofInt, scoreWord_eq_ofInt, score_language, score_language,
      sum_pointsIn_of_perm hnear perm]
  · have fits : AdditionsFit rules lines ∧ (language name rules).scoreWord lines = points := by
      rcases hpoints with hchecked | ⟨hbound, hscore⟩
      · exact scoreWord?_eq_some_iff.mp hchecked
      · exact ⟨additionsFit_of_trials hbound, hscore⟩
    rw [← fits.2, fits.1.toInt_scoreWord, score_eq_add, htop]

/-- Of eleven lines that all have the letter, two are near the top. -/
theorem score_counts_hits_of_eleven_lines :
    ∃ everywhere nearTop, Rule.ofSpec? ⟨"a", 2, false⟩ = some everywhere ∧
      Rule.ofSpec? ⟨"a", -5, true⟩ = some nearTop ∧
      (language "A" [nearTop, everywhere]).scoreWord (List.replicate 11 ['a']) =
        2 * 11 + -5 * 2 ∧
      (language "A" [everywhere]).scoreWord (List.replicate 11 ['a'] ++ [['a'], ['b']]) =
        (language "A" [everywhere]).scoreWord (List.replicate 11 ['a']) +
          (language "A" [everywhere]).scoreWord [['a'], ['b']] ∧
      (language "A" [everywhere]).scoreWord [['a'], ['b']] =
        (language "A" [everywhere]).scoreWord [['b'], ['a']] ∧
      ((language "A" [nearTop, everywhere]).scoreWord (List.replicate 11 ['a'])).toInt =
        2 * 11 + -5 * 2 := by
  refine ⟨_, _, rfl, rfl, ?_, ?_, ?_, ?_⟩
  · exact (score_counts_hits "A" _ _).1.trans (by decide +kernel)
  · exact ((score_counts_hits "A" _ _).2.1 (by decide +kernel)).1 _
  · exact ((score_counts_hits "A" _ _).2.1 (by decide +kernel)).2 _ (List.Perm.swap _ _ _)
  · exact ((score_counts_hits "A" _ _).2.2 _ (Or.inr ⟨by decide +kernel, rfl⟩)).trans
      (by decide +kernel)

end Candidate

end Polyglot
