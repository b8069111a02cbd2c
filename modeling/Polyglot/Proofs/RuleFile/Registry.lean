/-
# From a rule file to a registry

The groups of a rule file have different languages and none is empty.  So the
registry of a rule file is never refused for a name that is taken, a group for
Unknown is always a fault, and in a registry that was built Unknown comes last,
behind languages of which each has a rule.
-/

import Polyglot.Proofs.Registry.Faults
import Polyglot.Proofs.RuleFile.Grouping

namespace Polyglot

/-- Behind other names Unknown wins unless one of them has a point. -/
theorem selectWinner_concat_unknown_ne_iff {scores : List LanguageScore}
    (hnames : ∀ score ∈ scores, score.1 ≠ unknownName) :
    selectWinner (scores ++ [(unknownName, unknownPoints)]) ≠ unknownName ↔
      ∃ score ∈ scores, unknownPoints ≤ score.2 := by
  have hlast : (unknownName, unknownPoints) ∈ scores ++ [(unknownName, unknownPoints)] := by simp
  obtain ⟨winner, hfirst, hname⟩ := exists_selectWinner_eq (List.ne_nil_of_mem hlast)
  rw [hname]
  constructor
  · intro hne
    refine ⟨winner, (List.mem_append.mp hfirst.mem).resolve_right fun hmem => ?_, hfirst.le hlast⟩
    exact hne (congrArg Prod.fst (List.mem_singleton.mp hmem))
  · rintro ⟨score, hmem, hpoint⟩ hunknown
    have hwinner : winner = (unknownName, unknownPoints) :=
      List.mem_singleton.mp
        ((List.mem_append.mp hfirst.mem).resolve_left fun hmem => hnames winner hmem hunknown)
    obtain ⟨before, after, hsplit, hbefore, -⟩ := hfirst
    rw [hwinner] at hsplit hbefore
    have habsent : (unknownName, unknownPoints) ∉ scores := fun hmem => hnames _ hmem rfl
    obtain ⟨rfl, -⟩ := (List.append_cons_inj_of_notMem habsent List.not_mem_nil).mp hsplit
    exact absurd (hbefore score hmem) (not_lt.mpr hpoint)

namespace Registry

/-- Where Unknown comes last, a language is detected exactly if one has a point. -/
theorem detect_name_ne_unknownName_iff {registry : Registry} {languages : List Candidate}
    (hlast : registry.candidates = languages ++ [.unknown])
    (hnames : ∀ candidate ∈ languages, candidate.name ≠ unknownName)
    (snippet : List Char) (options : DetectOptions) :
    (detect snippet options registry).name ≠ unknownName ↔
      ∃ candidate ∈ languages, 1 ≤ candidate.score (scoredLines snippet options.heuristic) := by
  have hscores : scoreAll snippet options.heuristic registry =
      (languages.map fun candidate =>
        (candidate.name, candidate.score (scoredLines snippet options.heuristic))) ++
          [(unknownName, unknownPoints)] := by
    rw [scoreAll_eq_map, hlast, List.map_append]
    rfl
  rw [detect_name, hscores, selectWinner_concat_unknown_ne_iff]
  · simp [unknownPoints]
  · rw [List.forall_mem_map]
    exact hnames

/-- Without an entry named Unknown the languages stand in front of it. -/
theorem exists_candidates_eq_concat_unknown {entries : List Entry} {registry : Registry}
    (built : build entries = .ok registry) (hnames : unknownName ∉ entries.map Entry.name) :
    ∃ languages, registry.candidates = languages ++ [.unknown] ∧
      List.Forall₂ Registers entries languages := by
  obtain ⟨candidates, hregister, rfl⟩ := build_eq_ok built
  have registers := forall₂_registers_of_registerAll hregister
  exact ⟨candidates, if_neg (mt (any_isUnknown_iff registers).mp hnames), registers⟩

theorem sum_length_rules_of_registers {entries : List Entry} {candidates : List Candidate}
    (registers : List.Forall₂ Registers entries candidates) :
    (candidates.map fun candidate => candidate.rules.length).sum =
      (entries.map fun entry => entry.rules.length).sum := by
  induction registers with
  | nil => rfl
  | cons first _ ih =>
      rw [List.map_cons, List.map_cons, List.sum_cons, List.sum_cons, ih, ← first.rules_eq,
        List.length_map]

end Registry

namespace RuleFile

open Registry

variable {kept : List (String × RuleSpec)} {groups : List LanguageRules}

theorem map_name_ofLanguageRules (groups : List LanguageRules) :
    (groups.map Entry.ofLanguageRules).map Entry.name = groups.map LanguageRules.language := by
  rw [List.map_map]
  rfl

/-- The groups make no registry exactly if a rule was kept that is for Unknown or has no
pattern. -/
theorem Groups.exists_ofLanguageRules_eq_error_iff (grouped : Groups kept groups) :
    (∃ fault, ofLanguageRules groups = .error fault) ↔
      ∃ rule ∈ kept, rule.1 = unknownName ∨
        Pattern.ofText? rule.2.pattern.toList = none := by
  rw [ofLanguageRules, exists_build_eq_error_iff, map_name_ofLanguageRules, List.forall_mem_map,
    and_iff_right grouped.nodup]
  constructor
  · intro hunsound
    by_contra hnone
    have hkept (rule : String × RuleSpec) (hrule : rule ∈ kept) :
        rule.1 ≠ unknownName ∧ Pattern.ofText? rule.2.pattern.toList ≠ none :=
      not_or.mp fun hfault => hnone ⟨rule, hrule, hfault⟩
    have hmem {group : LanguageRules} (hgroup : group ∈ groups) {rule : RuleSpec}
        (hrule : rule ∈ group.rules) : (group.language, rule) ∈ kept :=
      grouped.exists_mem_rules_iff.mp ⟨group, hgroup, rfl, hrule⟩
    refine hunsound fun group hgroup => ⟨fun hname => ?_, fun rule hrule => ?_⟩
    · obtain ⟨rule, hrule⟩ := List.exists_mem_of_ne_nil _ (grouped.ne_nil group hgroup)
      exact absurd hname (hkept _ (hmem hgroup hrule)).1
    · exact (hkept _ (hmem hgroup hrule)).2
  · rintro ⟨⟨language, rule⟩, hkept, hfault⟩ sound
    obtain ⟨group, hgroup, rfl, hrule⟩ := grouped.exists_mem_rules_iff.mpr hkept
    rcases hfault with hname | hnone
    · exact grouped.ne_nil group hgroup ((sound group hgroup).rules_of_unknown hname)
    · exact (sound group hgroup).reads rule hrule hnone

/-- In the registry of some groups Unknown comes behind languages that have rules. -/
theorem Groups.exists_candidates_eq (grouped : Groups kept groups) {registry : Registry}
    (built : ofLanguageRules groups = .ok registry) :
    ∃ languages, registry.candidates = languages ++ [.unknown] ∧
      (∀ candidate ∈ languages, candidate.name ≠ unknownName ∧ candidate.rules ≠ []) ∧
      (registry.candidates.map fun candidate => candidate.rules.length).sum =
        (groups.map fun group => group.rules.length).sum := by
  have hsound := sound_of_build built
  rw [List.forall_mem_map] at hsound
  have hunknown (group : LanguageRules) (hgroup : group ∈ groups) :
      group.language ≠ unknownName := fun hname =>
    grouped.ne_nil group hgroup ((hsound group hgroup).rules_of_unknown hname)
  have habsent : unknownName ∉ (groups.map Entry.ofLanguageRules).map Entry.name := by
    rw [map_name_ofLanguageRules]
    intro hmem
    obtain ⟨group, hgroup, hname⟩ := List.mem_map.mp hmem
    exact hunknown group hgroup hname
  obtain ⟨languages, hlast, registers⟩ := exists_candidates_eq_concat_unknown built habsent
  refine ⟨languages, hlast, fun candidate hmem => ?_, ?_⟩
  · obtain ⟨entry, hentry, hregisters⟩ := exists_registers_of_mem registers hmem
    obtain ⟨group, hgroup, rfl⟩ := List.mem_map.mp hentry
    refine ⟨hregisters.name_eq ▸ hunknown group hgroup, fun hnone => ?_⟩
    have hrules := hregisters.rules_eq
    rw [hnone] at hrules
    exact grouped.ne_nil group hgroup hrules.symm
  · rw [hlast, List.map_append, List.sum_append, sum_length_rules_of_registers registers,
      List.map_map]
    rfl

/-- A rule file that can be read makes a registry unless one of the entries that are kept
is for Unknown or has a pattern that cannot be read; that a language is there twice
is never the fault.  In the registry Unknown comes last, the languages in front of it
all have rules, and there are as many rules as entries were kept.  So a language is
detected exactly if one of them has a point. -/
theorem registry_of_ruleFile {text : List Char} {groups : List LanguageRules}
    (read : ofText? text = some groups) :
    ∃ entries, entries? text = some entries ∧
      (∀ name, ofLanguageRules groups ≠ .error (.duplicateLanguage name)) ∧
      ((∃ fault, ofLanguageRules groups = .error fault) ↔
        ∃ entry ∈ entries, ∃ pattern, entry.pattern.or entry.regex = some pattern ∧
          (entry.language = unknownName ∨ Pattern.ofText? pattern.toList = none)) ∧
      ∀ registry, ofLanguageRules groups = .ok registry →
        ∃ languages, registry.candidates = languages ++ [.unknown] ∧
          (∀ candidate ∈ languages, candidate.name ≠ unknownName ∧ candidate.rules ≠ []) ∧
          (registry.candidates.map fun candidate => candidate.rules.length).sum =
            entries.countP RuleEntry.isKept ∧
          ∀ snippet options, (detect snippet options registry).name ≠ unknownName ↔
            ∃ candidate ∈ languages,
              1 ≤ candidate.score (scoredLines snippet options.heuristic) := by
  obtain ⟨entries, hentries, rfl⟩ := Option.map_eq_some_iff.mp read
  have grouped := groups_group entries
  refine ⟨entries, hentries, build_ne_duplicateLanguage ?_, ?_, fun registry built => ?_⟩
  · rw [map_name_ofLanguageRules]
    exact grouped.nodup
  · rw [grouped.exists_ofLanguageRules_eq_error_iff]
    constructor
    · rintro ⟨⟨language, rule⟩, hkept, hfault⟩
      obtain ⟨entry, hmem, rfl, hrule⟩ := mem_keptRules.mp hkept
      obtain ⟨pattern, hpattern, rfl⟩ := Option.map_eq_some_iff.mp hrule
      exact ⟨entry, hmem, pattern, hpattern, hfault⟩
    · rintro ⟨entry, hmem, pattern, hpattern, hfault⟩
      have hrule : entry.rule? = some ⟨pattern, entry.points, entry.nearTop⟩ := by
        rw [RuleEntry.rule?, hpattern, Option.map_some]
      exact ⟨_, mem_keptRules.mpr ⟨entry, hmem, rfl, hrule⟩, hfault⟩
  · obtain ⟨languages, hlast, hlanguages, hsum⟩ := grouped.exists_candidates_eq built
    rw [sum_length_group] at hsum
    exact ⟨languages, hlast, hlanguages, hsum, fun snippet options =>
      detect_name_ne_unknownName_iff hlast (fun candidate hmem => (hlanguages candidate hmem).1)
        snippet options⟩

/-- An entry without a pattern stands between two entries for one language. -/
theorem registry_of_ruleFile_interleaved :
    ∃ text groups registry,
      text = ("[[rules]]\nlanguage='Go'\npattern='a'\npoints=1\n" ++
        "[[rules]]\nlanguage='C'\npoints=5\n" ++
        "[[rules]]\nlanguage='Go'\nregex='b'\npoints=-1\nnear_top=true\n").toList ∧
      ofText? text = some groups ∧ ofLanguageRules groups = .ok registry ∧
      groups = [⟨"Go", [⟨"a", 1, false⟩, ⟨"b", -1, true⟩]⟩] ∧
      ((detect ['a'] {} registry).name ≠ unknownName ↔
        ∃ candidate ∈ registry.candidates.dropLast,
          1 ≤ candidate.score (scoredLines ['a'] true)) := by
  refine ⟨_, [⟨"Go", [⟨"a", 1, false⟩, ⟨"b", -1, true⟩]⟩], _, rfl, by decide +kernel, rfl, rfl, ?_⟩
  obtain ⟨entries, -, -, -, hbuilt⟩ := @registry_of_ruleFile
    ("[[rules]]\nlanguage='Go'\npattern='a'\npoints=1\n" ++
      "[[rules]]\nlanguage='C'\npoints=5\n" ++
      "[[rules]]\nlanguage='Go'\nregex='b'\npoints=-1\nnear_top=true\n").toList
    [⟨"Go", [⟨"a", 1, false⟩, ⟨"b", -1, true⟩]⟩] (by decide +kernel)
  obtain ⟨languages, hlast, -, -, hdetect⟩ := hbuilt _ rfl
  rw [hdetect ['a'] {}, hlast, List.dropLast_concat]

end RuleFile

end Polyglot
