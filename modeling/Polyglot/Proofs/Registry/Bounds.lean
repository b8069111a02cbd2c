/-
# How many points rules can give

A rule gives its points once for each line on which it is tried and hits.  So what it
gives for a snippet is bounded by the sign of its points, the number of lines, and the
lines that it hits, and what several rules give is bounded by the same numbers.  A
language with a positive score has a rule that speaks for it and hits a line.
-/

import Mathlib.Algebra.Order.BigOperators.Group.List
import Mathlib.Algebra.Order.Ring.Int
import Polyglot.Proofs.Registry.Scores

namespace Polyglot

open Lines

namespace RuleSpec

/-- Whether a rule hits a line; a text that is no pattern hits none. -/
def hits (spec : RuleSpec) (line : Line) : Bool :=
  (Rule.ofSpec? spec).any fun rule => rule.hits line

/-- The number of lines of a snippet on which a rule is tried and hits. -/
def hitCount (spec : RuleSpec) (lines : List Line) : Nat :=
  lines.zipIdx.countP fun entry =>
    (isNearTop entry.2 lines.length || !spec.nearTop) && spec.hits entry.1

theorem hits_eq {spec : RuleSpec} {pattern : Pattern}
    (hread : Pattern.ofText? spec.pattern.toList = some pattern) (line : Line) :
    spec.hits line = pattern.occursIn line := by
  have hrule : Rule.ofSpec? spec = some ⟨spec, pattern, hread⟩ :=
    Rule.ofSpec?_spec ⟨spec, pattern, hread⟩
  rw [hits, hrule]
  rfl

/-- The pattern of a rule whose text is written out character by character. -/
theorem hits_ofList {text : List Char} {pattern : Pattern}
    (hread : Pattern.ofText? text = some pattern) (points : Int32) (nearTop : Bool) (line : Line) :
    hits ⟨String.ofList text, points, nearTop⟩ line = pattern.occursIn line := by
  apply hits_eq
  rw [String.toList_ofList, hread]

variable {spec other : RuleSpec} {lines : List Line}

/-! ## Lines that are hit -/

theorem hitCount_le_length (spec : RuleSpec) (lines : List Line) :
    spec.hitCount lines ≤ lines.length := by
  rw [← List.length_zipIdx (l := lines)]
  exact List.countP_le_length

/-- A rule that does not count near the top only is tried on every line. -/
theorem hitCount_eq_countP (hnear : spec.nearTop = false) (lines : List Line) :
    spec.hitCount lines = lines.countP spec.hits := by
  rw [← countP_fst_zipIdx spec.hits]
  apply List.countP_congr
  intro entry _
  simp [hnear]

theorem hitCount_le_hitCount (hnear : spec.nearTop = other.nearTop)
    (hhits : ∀ line, spec.hits line = true → other.hits line = true) (lines : List Line) :
    spec.hitCount lines ≤ other.hitCount lines := by
  apply List.countP_mono_left
  intro entry _ htried
  rw [Bool.and_eq_true] at htried ⊢
  exact ⟨hnear ▸ htried.1, hhits entry.1 htried.2⟩

theorem hitCount_eq_zero (hmisses : ∀ line ∈ lines, spec.hits line = false) :
    spec.hitCount lines = 0 := by
  rw [hitCount, List.countP_eq_zero]
  intro entry hmem
  simp [hmisses entry.1 (List.fst_mem_of_mem_zipIdx hmem)]

/-! ## Points for all lines -/

theorem pointsIn_eq (spec : RuleSpec) (lines : List Line) :
    spec.pointsIn lines = spec.hitCount lines * spec.points.toInt := by
  cases hread : Rule.ofSpec? spec with
  | none => simp [pointsIn, hitCount, hits, hread]
  | some rule =>
      obtain rfl := Rule.spec_of_ofSpec? hread
      have hhits (line : Line) : rule.spec.hits line = rule.hits line := by
        rw [hits, hread]
        rfl
      simp only [pointsIn_spec, Rule.pointsIn_eq, hitCount, hhits]
      rfl

theorem pointsIn_nonneg (hpoints : 0 ≤ spec.points.toInt) (lines : List Line) :
    0 ≤ spec.pointsIn lines := by
  rw [pointsIn_eq]
  exact Int.mul_nonneg (Int.natCast_nonneg _) hpoints

theorem pointsIn_nonpos (hpoints : spec.points.toInt ≤ 0) (lines : List Line) :
    spec.pointsIn lines ≤ 0 := by
  rw [pointsIn_eq]
  exact Int.mul_nonpos_of_nonneg_of_nonpos (Int.natCast_nonneg _) hpoints

/-- A rule gives no more than its points for every line. -/
theorem pointsIn_le (spec : RuleSpec) (lines : List Line) :
    spec.pointsIn lines ≤ lines.length * max 0 spec.points.toInt := by
  rw [pointsIn_eq]
  calc (spec.hitCount lines : Int) * spec.points.toInt
    _ ≤ spec.hitCount lines * max 0 spec.points.toInt :=
        Int.mul_le_mul_of_nonneg_left (le_max_right _ _) (Int.natCast_nonneg _)
    _ ≤ lines.length * max 0 spec.points.toInt :=
        Int.mul_le_mul_of_nonneg_right (Int.ofNat_le.mpr (spec.hitCount_le_length lines))
          (le_max_left _ _)

theorem pointsIn_le_pointsIn (hpoints : spec.points = other.points)
    (hnonneg : 0 ≤ other.points.toInt) (hnear : spec.nearTop = other.nearTop)
    (hhits : ∀ line, spec.hits line = true → other.hits line = true) (lines : List Line) :
    spec.pointsIn lines ≤ other.pointsIn lines := by
  rw [pointsIn_eq, pointsIn_eq, hpoints]
  apply Int.mul_le_mul_of_nonneg_right _ hnonneg
  exact Int.ofNat_le.mpr (hitCount_le_hitCount hnear hhits lines)

/-- A rule that gives points for a snippet hits one of its lines. -/
theorem exists_hits_of_pointsIn_pos (hpos : 0 < spec.pointsIn lines) :
    0 < spec.points.toInt ∧ ∃ line ∈ lines, spec.hits line = true := by
  constructor
  · by_contra hpoints
    exact absurd hpos (not_lt.mpr (pointsIn_nonpos (not_lt.mp hpoints) lines))
  · by_contra hnone
    have hmisses : ∀ line ∈ lines, spec.hits line = false := by
      intro line hmem
      rw [← Bool.not_eq_true]
      exact fun hhits => hnone ⟨line, hmem, hhits⟩
    rw [pointsIn_eq, hitCount_eq_zero hmisses, Int.natCast_zero, Int.zero_mul] at hpos
    exact absurd hpos (lt_irrefl 0)

/-! ## Points of several rules -/

theorem sum_pointsIn_of_perm {specs others : List RuleSpec} (perm : specs.Perm others)
    (lines : List Line) :
    (specs.map fun spec => spec.pointsIn lines).sum =
      (others.map fun spec => spec.pointsIn lines).sum :=
  (perm.map _).sum_eq

theorem sum_pointsIn_nonneg {specs : List RuleSpec}
    (hpoints : ∀ spec ∈ specs, 0 ≤ spec.points.toInt) (lines : List Line) :
    0 ≤ (specs.map fun spec => spec.pointsIn lines).sum := by
  apply List.sum_nonneg
  rw [List.forall_mem_map]
  intro spec hmem
  exact pointsIn_nonneg (hpoints spec hmem) lines

/-- Rules together give no more than the points that speak for a language, for every line. -/
theorem sum_pointsIn_le (specs : List RuleSpec) (lines : List Line) :
    (specs.map fun spec => spec.pointsIn lines).sum ≤
      lines.length * (specs.map fun spec => max 0 spec.points.toInt).sum := by
  induction specs with
  | nil => simp
  | cons spec specs ih =>
      rw [List.map_cons, List.map_cons, List.sum_cons, List.sum_cons, mul_add]
      exact add_le_add (spec.pointsIn_le lines) ih

/-- Where one rule alone speaks for a language, all rules give no more than this one. -/
theorem sum_pointsIn_le_pointsIn {specs : List RuleSpec} (hnonneg : 0 ≤ spec.pointsIn lines)
    (honce : specs.count spec ≤ 1)
    (hothers : ∀ other ∈ specs, other = spec ∨ other.pointsIn lines ≤ 0) :
    (specs.map fun other => other.pointsIn lines).sum ≤ spec.pointsIn lines := by
  have hbound : ∀ other ∈ specs,
      other.pointsIn lines ≤ if other = spec then spec.pointsIn lines else 0 := by
    intro other hmem
    split
    case isTrue heq => rw [heq]
    case isFalse hne => exact (hothers other hmem).resolve_left hne
  calc (specs.map fun other => other.pointsIn lines).sum
    _ ≤ (specs.map fun other => if other = spec then spec.pointsIn lines else 0).sum :=
        List.sum_le_sum hbound
    _ = specs.count spec * spec.pointsIn lines := by
        rw [List.sum_map_ite_eq]
        simp
    _ ≤ spec.pointsIn lines :=
        mul_le_of_le_one_left hnonneg (Int.ofNat_le.mpr honce)

end RuleSpec

/-- A language with a positive score has a rule that speaks for it and hits a line. -/
theorem Entry.exists_hits_of_scoreIn_pos {entry : Entry} (hname : entry.name ≠ unknownName)
    {lines : List Line} (hpos : 0 < entry.scoreIn lines) :
    ∃ spec ∈ entry.rules, 0 < spec.points.toInt ∧ ∃ line ∈ lines, spec.hits line = true := by
  rw [scoreIn, if_neg hname, ← List.sum_map_zero (l := entry.rules)] at hpos
  obtain ⟨spec, hmem, hspec⟩ := List.exists_lt_of_sum_lt _ _ hpos
  exact ⟨spec, hmem, RuleSpec.exists_hits_of_pointsIn_pos hspec⟩

end Polyglot
