/-
# Texts without visible ASCII

Every built-in pattern demands a visible character of ASCII: a letter, a digit or a
mark, whatever else it takes.  So in a text of white space, control characters and
characters beyond ASCII no built-in rule hits a line, for or against a language, and
Unknown is detected by its one point.  Which patterns demand such a character is read
off them one by one; the rest holds of any registry whose rules have this in common.
-/

import Polyglot.Builtin
import Polyglot.Proofs.Lines.Breaks
import Polyglot.Proofs.Pattern.Demand
import Polyglot.Proofs.Registry.Faults
import Polyglot.Proofs.Registry.Scores

namespace Polyglot

open Lines

/-! ## Rules whose characters are absent -/

/-- Whether a rule has a pattern, and it demands a code point from the first to the second. -/
def RuleSpec.Demands (low high : Nat) (spec : RuleSpec) : Prop :=
  ∃ pattern, Pattern.ofText? spec.pattern.toList = some pattern ∧ pattern.demands low high = true

variable {low high : Nat}

/-- The test on the characters of a text.  They are written out on both sides, so that the
test can be run without taking the text apart. -/
theorem RuleSpec.demands_of_any_demands {text : List Char} {points : Int32} {nearTop : Bool}
    (htest : (Pattern.ofText? text).any (Pattern.demands low high) = true) :
    Demands low high ⟨String.ofList text, points, nearTop⟩ := by
  obtain ⟨pattern, hread, hdemands⟩ := (Option.any_eq_true _ _).mp htest
  refine ⟨pattern, ?_, hdemands⟩
  rw [String.toList_ofList, hread]

theorem RuleSpec.Demands.pointsIn_eq_zero {spec : RuleSpec} (hdemands : spec.Demands low high)
    {lines : List Line}
    (habsent : ∀ line ∈ lines, ∀ c ∈ line, ¬ (low ≤ c.toNat ∧ c.toNat ≤ high)) :
    spec.pointsIn lines = 0 := by
  obtain ⟨pattern, hread, hpattern⟩ := hdemands
  have hspec : (⟨spec, pattern, hread⟩ : Rule).spec.pointsIn lines =
      (⟨spec, pattern, hread⟩ : Rule).pointsIn lines :=
    RuleSpec.pointsIn_spec _ lines
  rw [hspec]
  apply Rule.pointsIn_eq_zero
  intro line hline
  exact Pattern.occursIn_eq_false hpattern (habsent line hline)

theorem Entry.scoreIn_eq_zero {entry : Entry} (hname : entry.name ≠ unknownName)
    (hdemands : ∀ spec ∈ entry.rules, spec.Demands low high) {lines : List Line}
    (habsent : ∀ line ∈ lines, ∀ c ∈ line, ¬ (low ≤ c.toNat ∧ c.toNat ≤ high)) :
    entry.scoreIn lines = 0 := by
  rw [scoreIn, if_neg hname]
  apply List.sum_eq_zero
  intro points hmem
  obtain ⟨spec, hspec, rfl⟩ := List.mem_map.mp hmem
  exact (hdemands spec hspec).pointsIn_eq_zero habsent

theorem mem_of_mem_scoredLines {snippet : List Char} {heuristic : Bool} {line : Line}
    (hline : line ∈ scoredLines snippet heuristic) {c : Char} (hmem : c ∈ line) : c ∈ snippet :=
  mem_of_mem_normalize ((subsample_sublist _ heuristic).subset hline) hmem

/-! ## The built-in rules -/

namespace Builtin

/-- Every built-in pattern demands a visible character. -/
theorem demands_visible : ∀ group ∈ languages, ∀ spec ∈ group.rules, spec.Demands 0x21 0x7e := by
  simp only [languages, c, cPlusPlus, css, go, html, java, javascript, php, python, ruby,
    List.forall_mem_cons, List.not_mem_nil, false_implies, implies_true, and_true]
  repeat' apply And.intro
  all_goals exact RuleSpec.demands_of_any_demands (by decide +kernel)

theorem language_ne_unknownName : ∀ group ∈ languages, group.language ≠ unknownName := by
  decide

theorem sound_of_mem_entries : ∀ entry ∈ entries, entry.Sound := by
  intro entry hmem
  rcases List.mem_append.mp hmem with hmem | hmem
  · obtain ⟨group, hgroup, rfl⟩ := List.mem_map.mp hmem
    refine ⟨fun hname => absurd hname (language_ne_unknownName group hgroup), ?_⟩
    intro spec hspec
    obtain ⟨pattern, hread, -⟩ := demands_visible group hgroup spec hspec
    rw [hread]
    exact Option.some_ne_none pattern
  · obtain rfl := List.mem_singleton.mp hmem
    exact ⟨fun _ => rfl, fun _ hspec => absurd hspec List.not_mem_nil⟩

end Builtin

namespace Registry

/-- The built-in registry is the one that its entries give. -/
theorem build_builtin : build Builtin.entries = .ok builtin := by
  obtain ⟨registry, built⟩ := exists_build_eq_ok_iff.mpr
    ⟨by decide, Builtin.sound_of_mem_entries⟩
  rw [builtin, built]
  rfl

/-- In a text without a visible character of ASCII, however long, no built-in language has a
point for or against it, and the built-in registry detects Unknown. -/
theorem builtin_detects_unknown {snippet : List Char}
    (habsent : ∀ c ∈ snippet, ¬ (0x21 ≤ c.toNat ∧ c.toNat ≤ 0x7e)) :
    build Builtin.entries = .ok builtin ∧
    (∀ heuristic, scoreAll snippet heuristic builtin =
      [("C", 0), ("C++", 0), ("CSS", 0), ("Go", 0), ("HTML", 0), ("Java", 0), ("Javascript", 0),
        ("PHP", 0), ("Python", 0), ("Ruby", 0), ("Unknown", 1)]) ∧
    ∀ options, (detect snippet options builtin).name = "Unknown" := by
  have hscores (heuristic : Bool) : scoreAll snippet heuristic builtin =
      (Builtin.languages.map fun group => (group.language, 0)) ++ [(unknownName, unknownPoints)] := by
    have hlines : ∀ line ∈ scoredLines snippet heuristic, ∀ c ∈ line,
        ¬ (0x21 ≤ c.toNat ∧ c.toNat ≤ 0x7e) :=
      fun line hline c hmem => habsent c (mem_of_mem_scoredLines hline hmem)
    rw [scoreAll_eq_map_entries build_builtin, withUnknownEntry, if_pos (by decide),
      Builtin.entries, List.map_append, List.map_map]
    congr 1
    apply List.map_congr_left
    intro group hgroup
    have hname : (Entry.ofLanguageRules group).name ≠ unknownName :=
      Builtin.language_ne_unknownName group hgroup
    have hzero : (Entry.ofLanguageRules group).scoreIn (scoredLines snippet heuristic) = 0 :=
      Entry.scoreIn_eq_zero hname (Builtin.demands_visible group hgroup) hlines
    exact congrArg (Prod.mk group.language) hzero
  refine ⟨build_builtin, hscores, ?_⟩
  intro options
  have hfirst : IsFirstMaximum (scoreAll snippet options.heuristic builtin)
      (unknownName, unknownPoints) := by
    rw [hscores]
    refine ⟨_, [], rfl, ?_, fun score hmem => absurd hmem List.not_mem_nil⟩
    intro score hmem
    obtain ⟨group, -, rfl⟩ := List.mem_map.mp hmem
    exact Int.zero_lt_one
  rw [detect_name]
  exact selectWinner_eq_of_isFirstMaximum hfirst

/-- Ideographs and marks beyond ASCII on several lines, with control characters and white space
between them. -/
theorem builtin_detects_unknown_of_ideographs :
    (detect ['漢', '字', '\u3000', '—', '\n', '\t', '\x00', '\x7f', 'é', ' ', '→'] {} builtin).name =
      "Unknown" :=
  (@builtin_detects_unknown
    ['漢', '字', '\u3000', '—', '\n', '\t', '\x00', '\x7f', 'é', ' ', '→'] (by simp)).2.2 {}

end Registry

end Polyglot
