/-
# The name that is detected

What is detected is the name of a candidate, and unless it is Unknown it is a name that
somebody registered, with a rule that hits a line; the rule speaks for the name, as long as
there are too few trials for a sum of penalties to wrap around.  Registration
refuses a name that is taken and rules for Unknown, but it looks at names in no other
way.  So nothing keeps the empty name out: it is detected where it is registered and
comes out first, from the entries of a program and from those of a rule file alike.
-/

import Polyglot.Proofs.Detection.Visible
import Polyglot.Proofs.Registry.Bounds
import Polyglot.Proofs.RuleFile.Registry

namespace Polyglot

namespace Registry

variable {entries : List Entry} {registry : Registry} {snippet : List Char}
  {options : DetectOptions}

theorem mem_of_mem_withUnknownEntry {entry : Entry} (hmem : entry ∈ withUnknownEntry entries)
    (hname : entry.name ≠ unknownName) : entry ∈ entries := by
  rw [withUnknownEntry] at hmem
  split at hmem
  · exact hmem
  · rw [List.mem_append, List.mem_singleton] at hmem
    apply hmem.resolve_right
    rintro rfl
    exact hname rfl

/-- A name other than Unknown is detected because of a rule that was registered under it. -/
theorem exists_entry_of_detect (built : build entries = .ok registry)
    (hname : (detect snippet options registry).name ≠ unknownName) :
    ∃ entry ∈ entries, entry.name = (detect snippet options registry).name ∧
      ∃ spec ∈ entry.rules,
        (∃ line ∈ scoredLines snippet options.heuristic, spec.hits line = true) ∧
        ((scoredLines snippet options.heuristic).length * entry.rules.length ≤ 2 ^ 32 →
          0 < spec.points.toInt) := by
  have formed := wellFormed_of_build built
  obtain ⟨winner, hfirst, hwinner⟩ :=
    exists_selectWinner_eq (formed.scoreAll_ne_nil snippet options.heuristic)
  rw [detect_name, hwinner] at hname ⊢
  have hunknown : (unknownName, unknownPoints) ∈ scoreAll snippet options.heuristic registry :=
    List.mem_map.mpr ⟨.unknown, formed.unknown_mem, rfl⟩
  have hpos : 0 < winner.2 := lt_of_lt_of_le Int.zero_lt_one (hfirst.le hunknown)
  have hmem := hfirst.mem
  rw [scoreAll_eq_map_entries built] at hmem
  obtain ⟨entry, hentry, rfl⟩ := List.mem_map.mp hmem
  obtain ⟨spec, hspec, hpoints, hhits⟩ := entry.exists_hits_of_scoreIn_pos hname hpos
  exact ⟨entry, mem_of_mem_withUnknownEntry hentry hname, rfl, spec, hspec, hhits,
    fun _ => hpoints⟩

/-- A name is detected exactly if it is that of the first maximum. -/
theorem detect_name_eq_iff (built : build entries = .ok registry) {name : String} :
    (detect snippet options registry).name = name ↔
      ∃ points, IsFirstMaximum (scoreAll snippet options.heuristic registry) (name, points) := by
  rw [detect_name]
  constructor
  · rintro rfl
    obtain ⟨⟨name, points⟩, hfirst, hwinner⟩ := exists_selectWinner_eq
      ((wellFormed_of_build built).scoreAll_ne_nil snippet options.heuristic)
    rw [hwinner]
    exact ⟨points, hfirst⟩
  · rintro ⟨points, hfirst⟩
    exact selectWinner_eq_of_isFirstMaximum hfirst

/-- No built-in language has the empty name. -/
theorem builtin_detect_name_ne_empty (snippet : List Char) (options : DetectOptions) :
    (detect snippet options builtin).name ≠ "" := by
  intro hname
  have hne : (detect snippet options builtin).name ≠ unknownName := by
    rw [hname]
    decide
  obtain ⟨entry, hmem, hentry, -⟩ := exists_entry_of_detect build_builtin hne
  rw [hname] at hentry
  have hnames : "" ∉ Builtin.entries.map Entry.name := by decide
  exact hnames (hentry ▸ List.mem_map_of_mem hmem)

end Registry

namespace RuleFile

open Registry

/-- A language of a rule file has no more rules than the file has entries. -/
theorem length_rules_le {entries : List RuleEntry} {language : LanguageRules}
    (hmem : language ∈ group entries) : language.rules.length ≤ entries.length := by
  rw [(groups_group entries).rules_eq language hmem, List.length_map]
  calc ((keptRules entries).filter fun rule => rule.1 = language.language).length
    _ ≤ (keptRules entries).length := List.length_filter_le _ _
    _ ≤ entries.length := List.length_filterMap_le _ _

/-- A name other than Unknown is detected because of an entry of the rule file that was kept
for it. -/
theorem exists_ruleEntry_of_detect {entries : List RuleEntry} {registry : Registry}
    (built : ofLanguageRules (group entries) = .ok registry) {snippet : List Char}
    {options : DetectOptions} (hname : (detect snippet options registry).name ≠ unknownName) :
    ∃ entry ∈ entries, entry.language = (detect snippet options registry).name ∧
      ∃ spec, entry.rule? = some spec ∧
        (∃ line ∈ scoredLines snippet options.heuristic, spec.hits line = true) ∧
        ((scoredLines snippet options.heuristic).length * entries.length ≤ 2 ^ 32 →
          0 < spec.points.toInt) := by
  obtain ⟨registered, hmem, hregistered, spec, hspec, hhits, hpoints⟩ :=
    exists_entry_of_detect built hname
  obtain ⟨group, hgroup, rfl⟩ := List.mem_map.mp hmem
  have hkept := (groups_group entries).exists_mem_rules_iff.mp ⟨group, hgroup, rfl, hspec⟩
  obtain ⟨entry, hentry, hlanguage, hrule⟩ := mem_keptRules.mp hkept
  refine ⟨entry, hentry, hlanguage.trans hregistered, spec, hrule, hhits, fun hbound => ?_⟩
  exact hpoints (Nat.le_trans (Nat.mul_le_mul_left _ (length_rules_le hgroup)) hbound)

end RuleFile

/-- The empty name is detected exactly if it is that of the first maximum.  Then it was
registered, with a rule that hits a line and that speaks for it, if there are at most
2 ^ 32 trials, and where the registry comes from a rule file, an entry of the file was kept
for it. -/
theorem empty_name_detected (snippet : List Char) (options : DetectOptions) :
    (∀ entries registry, Registry.build entries = .ok registry →
      ((detect snippet options registry).name = "" ↔
        ∃ points, IsFirstMaximum (scoreAll snippet options.heuristic registry) ("", points)) ∧
      ((detect snippet options registry).name = "" →
        ∃ entry ∈ entries, entry.name = "" ∧ ∃ spec ∈ entry.rules,
          (∃ line ∈ scoredLines snippet options.heuristic, spec.hits line = true) ∧
          ((scoredLines snippet options.heuristic).length * entry.rules.length ≤ 2 ^ 32 →
            0 < spec.points.toInt))) ∧
    ∀ text groups registry, RuleFile.ofText? text = some groups →
      Registry.ofLanguageRules groups = .ok registry →
      (detect snippet options registry).name = "" →
        ∃ entries, RuleFile.entries? text = some entries ∧
          ∃ entry ∈ entries, entry.language = "" ∧
            ∃ spec, entry.rule? = some spec ∧
              (∃ line ∈ scoredLines snippet options.heuristic, spec.hits line = true) ∧
              ((scoredLines snippet options.heuristic).length * entries.length ≤ 2 ^ 32 →
                0 < spec.points.toInt) := by
  have hunknown {name : String} (hname : name = "") : name ≠ unknownName := by
    rw [hname]
    decide
  constructor
  · intro entries registry built
    refine ⟨Registry.detect_name_eq_iff built, fun hname => ?_⟩
    have hentry := Registry.exists_entry_of_detect built (hunknown hname)
    rwa [hname] at hentry
  · intro text groups registry read built hname
    obtain ⟨entries, hentries, rfl⟩ := Option.map_eq_some_iff.mp read
    have hentry := RuleFile.exists_ruleEntry_of_detect built (hunknown hname)
    rw [hname] at hentry
    exact ⟨entries, hentries, hentry⟩

/-- A program and a rule file that register the empty name with one rule. -/
theorem empty_name_detected_of_one_rule :
    ∃ registry groups,
      Registry.build [.language "" [⟨"x", 2, false⟩]] = .ok registry ∧
      RuleFile.ofText? "rules=[['','x','',2]]".toList = some groups ∧
      Registry.ofLanguageRules groups = .ok registry ∧
      (detect ['x'] {} registry).name = "" ∧
      (∃ points, IsFirstMaximum (scoreAll ['x'] true registry) ("", points)) ∧
      ∃ entries, RuleFile.entries? "rules=[['','x','',2]]".toList = some entries ∧
        ∃ entry ∈ entries, entry.language = "" := by
  have hread : RuleFile.ofText? "rules=[['','x','',2]]".toList =
      some [⟨"", [⟨"x", 2, false⟩]⟩] := by
    decide +kernel
  obtain ⟨hbuilt, hfile⟩ := empty_name_detected ['x'] {}
  refine ⟨_, _, rfl, hread, rfl, by decide +kernel, ?_, ?_⟩
  · exact (hbuilt [.language "" [⟨"x", 2, false⟩]] _ rfl).1.mp (by decide +kernel)
  · obtain ⟨entries, hentries, entry, hmem, hlanguage, -⟩ :=
      hfile _ [⟨"", [⟨"x", 2, false⟩]⟩] _ hread rfl (by decide +kernel)
    exact ⟨entries, hentries, entry, hmem, hlanguage⟩

/-- Some registry detects the empty name. -/
theorem empty_name_is_detected :
    ¬ ∀ entries registry, Registry.build entries = .ok registry → ∀ snippet options,
      (detect snippet options registry).name ≠ "" := by
  intro hnever
  exact hnever [.language "" [⟨"x", 2, false⟩]] _ rfl ['x'] {} (by decide +kernel)

end Polyglot
