/-
# Scores read off entries

The score of a candidate depends only on what its entry says: the name, and the
rules as they are written.  So the scores of a registry that was built are a
function of its entries, applied entry by entry, and two registries are compared
by comparing their entries.  As no name is registered twice, a name has one score.
-/

import Polyglot.Proofs.Detection.Contribution
import Polyglot.Proofs.Registry.Candidates

namespace Polyglot

open Lines

/-! ## Rules as they are written -/

theorem Rule.ofSpec?_spec (rule : Rule) : Rule.ofSpec? rule.spec = some rule := by
  obtain ⟨spec, pattern, reads⟩ := rule
  rw [Rule.ofSpec?]
  split
  case h_1 other hother =>
      obtain rfl : pattern = other := Option.some.inj (reads.symm.trans hother)
      rfl
  case h_2 hnone => exact absurd (reads.symm.trans hnone) (by simp)

/-- The points that a rule gives for all lines of a snippet, read off its text; a text
that is no pattern gives none. -/
def RuleSpec.pointsIn (spec : RuleSpec) (lines : List Line) : Int :=
  ((Rule.ofSpec? spec).map fun rule => rule.pointsIn lines).getD 0

theorem RuleSpec.pointsIn_spec (rule : Rule) (lines : List Line) :
    rule.spec.pointsIn lines = rule.pointsIn lines := by
  rw [RuleSpec.pointsIn, rule.ofSpec?_spec, Option.map_some, Option.getD_some]

/-! ## Entries -/

/-- The score that an entry gives its candidate. -/
def Entry.scoreIn (entry : Entry) (lines : List Line) : Int :=
  if entry.name = unknownName then unknownPoints
  else (entry.rules.map fun spec => spec.pointsIn lines).sum

namespace Registry

theorem Registers.score_eq {entry : Entry} {candidate : Candidate}
    (registers : Registers entry candidate) (lines : List Line) :
    candidate.score lines = entry.scoreIn lines := by
  cases candidate with
  | unknown =>
      rw [Entry.scoreIn, if_pos (registers.isUnknown_iff.mp rfl), Candidate.score]
  | language name rules =>
      have hname : entry.name ≠ unknownName :=
        fun hname => Bool.false_ne_true (registers.isUnknown_iff.mpr hname)
      have hrules : rules.map Rule.spec = entry.rules := registers.rules_eq
      rw [Entry.scoreIn, if_neg hname, Candidate.score_language, ← hrules, List.map_map]
      apply congrArg List.sum
      apply List.map_congr_left
      intro rule _
      exact (RuleSpec.pointsIn_spec rule lines).symm

/-- The scores of a registry that was built, entry by entry. -/
theorem scoreAll_eq_map_entries {entries : List Entry} {registry : Registry}
    (built : build entries = .ok registry) (snippet : List Char) (heuristic : Bool) :
    scoreAll snippet heuristic registry =
      (withUnknownEntry entries).map fun entry =>
        (entry.name, entry.scoreIn (scoredLines snippet heuristic)) := by
  have registers := forall₂_registers_of_build built
  rw [scoreAll_eq_map]
  generalize withUnknownEntry entries = listed, registry.candidates = candidates at registers
  induction registers with
  | nil => rfl
  | cons first _ ih => rw [List.map_cons, List.map_cons, ih, first.name_eq, first.score_eq]

/-! ## The score of a name -/

/-- The score of the candidate of a name. -/
def scoreOf? (registry : Registry) (name : String) (snippet : List Char) (heuristic : Bool) :
    Option Int :=
  (registry.get? name).map fun candidate => candidate.score (scoredLines snippet heuristic)

variable {registry : Registry} {snippet : List Char} {heuristic : Bool}

theorem WellFormed.scoreOf?_eq_some_iff (formed : registry.WellFormed) {name : String}
    {points : Int} :
    registry.scoreOf? name snippet heuristic = some points ↔
      (name, points) ∈ scoreAll snippet heuristic registry := by
  rw [scoreOf?, Option.map_eq_some_iff, scoreAll_eq_map, List.mem_map]
  constructor
  · rintro ⟨candidate, hget, rfl⟩
    obtain ⟨hmem, rfl⟩ := formed.get?_eq_some_iff.mp hget
    exact ⟨candidate, hmem, rfl⟩
  · rintro ⟨candidate, hmem, heq⟩
    obtain ⟨hname, hpoints⟩ := Prod.mk.inj heq
    exact ⟨candidate, formed.get?_eq_some_iff.mpr ⟨hmem, hname⟩, hpoints⟩

/-- Two registries with the same scores give every name the same score. -/
theorem WellFormed.scoreOf?_congr {other : Registry} (formed : registry.WellFormed)
    (formedOther : other.WellFormed) {name : String}
    (hscores : ∀ points, (name, points) ∈ scoreAll snippet heuristic registry ↔
      (name, points) ∈ scoreAll snippet heuristic other) :
    registry.scoreOf? name snippet heuristic = other.scoreOf? name snippet heuristic := by
  apply Option.ext
  intro points
  rw [formed.scoreOf?_eq_some_iff, formedOther.scoreOf?_eq_some_iff, hscores]

theorem WellFormed.scoreAll_ne_nil (formed : registry.WellFormed) (snippet : List Char)
    (heuristic : Bool) : scoreAll snippet heuristic registry ≠ [] :=
  List.ne_nil_of_mem (List.mem_map.mpr ⟨.unknown, formed.unknown_mem, rfl⟩)

/-- What is detected has the highest of all scores. -/
theorem WellFormed.exists_scoreOf?_detect (formed : registry.WellFormed)
    (options : DetectOptions) :
    ∃ highest, registry.scoreOf? (detect snippet options registry).name snippet
        options.heuristic = some highest ∧
      ∀ score ∈ scoreAll snippet options.heuristic registry, score.2 ≤ highest := by
  obtain ⟨winner, hfirst, hname⟩ :=
    exists_selectWinner_eq (formed.scoreAll_ne_nil snippet options.heuristic)
  refine ⟨winner.2, ?_, fun score hmem => hfirst.le hmem⟩
  rw [detect_name, hname, formed.scoreOf?_eq_some_iff]
  exact hfirst.mem

end Registry

end Polyglot
