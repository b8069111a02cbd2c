/-
# The candidates of a registry

A registry that was built is read off its entries.  Each entry gives, in its
place, the candidate of its name with the rules as they are written, and Unknown
comes last where no entry has its name.  `Registers` says what one entry gives;
registration keeps it from entry to entry, and what the registry answers when
it is asked for a name, or scored on a snippet, follows.
-/

import Mathlib.Data.List.Forall2
import Polyglot.Proofs.Detection.Ranking
import Polyglot.Proofs.Registry.Build

namespace Polyglot

namespace Rule

/-- A rule is read from the text that it keeps. -/
theorem spec_of_ofSpec? {spec : RuleSpec} {rule : Rule} (read : ofSpec? spec = some rule) :
    rule.spec = spec := by
  rw [ofSpec?] at read
  split at read
  · cases read
    rfl
  · contradiction

/-- A rule is read unless its pattern is none. -/
theorem ofSpec?_eq_none_iff {spec : RuleSpec} :
    ofSpec? spec = none ↔ Pattern.ofText? spec.pattern.toList = none := by
  rw [ofSpec?]
  split
  case h_1 pattern reads => simp [reads]
  case h_2 reads => simp [reads]

end Rule

namespace Registry

/-! ## What an entry gives -/

theorem readRules_cons_eq_ok {language : String} {spec : RuleSpec} {rest : List RuleSpec}
    {rules : List Rule} (read : readRules language (spec :: rest) = .ok rules) :
    ∃ rule others, Rule.ofSpec? spec = some rule ∧ readRules language rest = .ok others ∧
      rules = rule :: others := by
  rw [readRules] at read
  cases hrule : Rule.ofSpec? spec with
  | none =>
      rw [hrule] at read
      contradiction
  | some rule =>
      simp only [hrule] at read
      cases hrest : readRules language rest with
      | error fault =>
          rw [hrest] at read
          contradiction
      | ok others =>
          rw [hrest] at read
          cases read
          exact ⟨rule, others, rfl, rfl, rfl⟩

/-- The rules that were read are those that are written, none more and none less. -/
theorem map_spec_of_readRules {language : String} {specs : List RuleSpec} {rules : List Rule}
    (read : readRules language specs = .ok rules) : rules.map Rule.spec = specs := by
  induction specs generalizing rules with
  | nil =>
      cases read
      rfl
  | cons spec rest ih =>
      obtain ⟨rule, others, hrule, hothers, rfl⟩ := readRules_cons_eq_ok read
      rw [List.map_cons, Rule.spec_of_ofSpec? hrule, ih hothers]

/-- The candidate that an entry gives. -/
structure Registers (entry : Entry) (candidate : Candidate) : Prop where
  /-- It has the name of the entry. -/
  name_eq : candidate.name = entry.name
  /-- Its rules are those of the entry, as they are written. -/
  rules_eq : candidate.rules.map Rule.spec = entry.rules
  /-- It is the candidate without rules exactly if the entry is named Unknown. -/
  isUnknown_iff : candidate.isUnknown = true ↔ entry.name = unknownName

theorem registers_unknown : Registers .unknown .unknown := ⟨rfl, rfl, by decide⟩

theorem registers_of_register {taken : List String} {entry : Entry} {candidate : Candidate}
    (accepted : register taken entry = .ok candidate) : Registers entry candidate := by
  obtain ⟨_, ⟨hname, hrules, rfl⟩ | ⟨hname, rules, hread, rfl⟩⟩ := register_eq_ok accepted
  · exact ⟨hname.symm, hrules.symm, by simp [hname]⟩
  · exact ⟨rfl, map_spec_of_readRules hread, by simp [hname]⟩

/-- Every entry gives its candidate, in its place. -/
theorem forall₂_registers_of_registerAll {taken : List String} {entries : List Entry}
    {candidates : List Candidate} (accepted : registerAll taken entries = .ok candidates) :
    List.Forall₂ Registers entries candidates := by
  induction entries generalizing taken candidates with
  | nil =>
      cases accepted
      exact .nil
  | cons entry rest ih =>
      obtain ⟨candidate, others, hregister, hothers, rfl⟩ := registerAll_cons_eq_ok accepted
      exact .cons (registers_of_register hregister) (ih hothers)

/-- Every candidate is given by one of the entries. -/
theorem exists_registers_of_mem {entries : List Entry} {candidates : List Candidate}
    (registers : List.Forall₂ Registers entries candidates) {candidate : Candidate}
    (hmem : candidate ∈ candidates) : ∃ entry ∈ entries, Registers entry candidate := by
  obtain ⟨place, hplace, rfl⟩ := List.getElem_of_mem hmem
  have hentry : place < entries.length := registers.length_eq ▸ hplace
  exact ⟨entries[place], List.getElem_mem hentry, registers.get hentry hplace⟩

/-! ## Unknown among the entries -/

/-- The entries with Unknown among them: where none has its name, it comes last. -/
def withUnknownEntry (entries : List Entry) : List Entry :=
  if unknownName ∈ entries.map Entry.name then entries else entries ++ [.unknown]

theorem any_isUnknown_iff {entries : List Entry} {candidates : List Candidate}
    (registers : List.Forall₂ Registers entries candidates) :
    candidates.any Candidate.isUnknown = true ↔ unknownName ∈ entries.map Entry.name := by
  induction registers with
  | nil => simp
  | cons first _ ih =>
      rw [List.any_cons, Bool.or_eq_true, first.isUnknown_iff, ih, List.map_cons, List.mem_cons]
      exact or_congr_left eq_comm

theorem forall₂_registers_withUnknown {entries : List Entry} {candidates : List Candidate}
    (registers : List.Forall₂ Registers entries candidates) :
    List.Forall₂ Registers (withUnknownEntry entries) (withUnknown candidates) := by
  rw [withUnknownEntry, withUnknown]
  by_cases hplaced : unknownName ∈ entries.map Entry.name
  · rwa [if_pos hplaced, if_pos ((any_isUnknown_iff registers).mpr hplaced)]
  · rw [if_neg hplaced, if_neg (mt (any_isUnknown_iff registers).mp hplaced)]
    exact List.rel_append registers (.cons registers_unknown .nil)

/-- The candidates of a registry that was built are those of its entries, and Unknown. -/
theorem forall₂_registers_of_build {entries : List Entry} {registry : Registry}
    (built : build entries = .ok registry) :
    List.Forall₂ Registers (withUnknownEntry entries) registry.candidates := by
  obtain ⟨candidates, hregister, rfl⟩ := build_eq_ok built
  exact forall₂_registers_withUnknown (forall₂_registers_of_registerAll hregister)

/-! ## What a well-formed registry answers -/

namespace WellFormed

variable {registry : Registry}

theorem countP_isUnknown (formed : registry.WellFormed) :
    registry.candidates.countP Candidate.isUnknown = 1 := by
  obtain ⟨before, after, hsplit, hbefore, hafter⟩ := formed.exists_eq_append_unknown
  have hnone {candidates : List Candidate} (habsent : Candidate.unknown ∉ candidates) :
      candidates.countP Candidate.isUnknown = 0 := by
    rw [List.countP_eq_zero]
    intro candidate hmem hunknown
    exact habsent (Candidate.isUnknown_iff.mp hunknown ▸ hmem)
  rw [hsplit, List.countP_append, List.countP_cons, hnone hbefore, hnone hafter]
  rfl

/-- The candidate of a name is the only one that has it. -/
theorem get?_eq_some_iff (formed : registry.WellFormed) {name : String} {candidate : Candidate} :
    registry.get? name = some candidate ↔
      candidate ∈ registry.candidates ∧ candidate.name = name := by
  constructor
  · intro hfound
    exact ⟨List.mem_of_find?_eq_some hfound, by simpa using List.find?_some hfound⟩
  · rintro ⟨hmem, hname⟩
    cases hfound : registry.get? name with
    | none =>
        rw [get?, List.find?_eq_none] at hfound
        exact absurd (beq_iff_eq.mpr hname) (hfound candidate hmem)
    | some other =>
        have hother : other.name = name := by simpa using List.find?_some hfound
        have hsame := List.inj_on_of_nodup_map formed.nodup_names
          (List.mem_of_find?_eq_some hfound) hmem (hother.trans hname.symm)
        rw [hsame]

end WellFormed

theorem map_fst_scoreAll (snippet : List Char) (heuristic : Bool) (registry : Registry) :
    (scoreAll snippet heuristic registry).map Prod.fst = registry.languages := by
  rw [scoreAll_eq_map, List.map_map]
  rfl

/-- The registry of some entries has their candidates in their order, and Unknown behind
them exactly if none of them is named so.  Each candidate has the name of its entry
and the rules that are written there; the names differ from each other, so that the
candidate of a name is the only one; and one candidate alone is the one without
rules, which is the one named Unknown.  Scores on a snippet come in the same order
under the same names, with one point for Unknown. -/
theorem build_candidates {entries : List Entry} {registry : Registry}
    (built : build entries = .ok registry) :
    List.Forall₂ Registers
      (entries ++ if unknownName ∈ entries.map Entry.name then [] else [.unknown])
      registry.candidates ∧
    registry.languages.Nodup ∧
    registry.candidates.countP Candidate.isUnknown = 1 ∧
    (∀ candidate ∈ registry.candidates,
      (candidate.isUnknown = true ↔ candidate.name = unknownName) ∧
        (candidate.isUnknown = true → candidate.rules = [])) ∧
    (∀ name candidate, registry.get? name = some candidate ↔
      candidate ∈ registry.candidates ∧ candidate.name = name) ∧
    ∀ snippet heuristic,
      (scoreAll snippet heuristic registry).map Prod.fst = registry.languages ∧
        (scoreAll snippet heuristic registry).count (unknownName, 1) = 1 := by
  have formed := wellFormed_of_build built
  have hentries : (entries ++ if unknownName ∈ entries.map Entry.name then [] else [.unknown]) =
      withUnknownEntry entries := by
    rw [withUnknownEntry]
    split
    · exact List.append_nil entries
    · rfl
  refine ⟨hentries ▸ forall₂_registers_of_build built, formed.nodup_names,
    formed.countP_isUnknown, fun candidate hmem => ⟨⟨fun hunknown => ?_, fun hname => ?_⟩, ?_⟩,
    fun name candidate => formed.get?_eq_some_iff, fun snippet heuristic => ⟨?_, ?_⟩⟩
  · rw [Candidate.isUnknown_iff.mp hunknown, Candidate.name_unknown]
  · exact Candidate.isUnknown_iff.mpr (formed.eq_unknown_of_name candidate hmem hname)
  · intro hunknown
    rw [Candidate.isUnknown_iff.mp hunknown]
    rfl
  · exact map_fst_scoreAll snippet heuristic registry
  · exact List.count_eq_one_of_mem (scoreAll_nodup built snippet heuristic)
      (List.mem_map.mpr ⟨.unknown, formed.unknown_mem, rfl⟩)

/-- A language named Unknown stands for the candidate without rules. -/
theorem build_candidates_of_language_named_unknown :
    ∃ registry, build [.language "A" [⟨"a", 1, false⟩, ⟨"^b", -1, true⟩], .language "Unknown" [],
        .language "B" []] = .ok registry ∧
      registry.languages = ["A", "Unknown", "B"] ∧
      registry.candidates.countP Candidate.isUnknown = 1 ∧
      (scoreAll ['a'] true registry).count ("Unknown", 1) = 1 ∧
      registry.get? "Unknown" = some .unknown := by
  refine ⟨_, rfl, by decide +kernel, ?_⟩
  obtain ⟨-, -, hcount, -, hget, hscores⟩ := @build_candidates
    [.language "A" [⟨"a", 1, false⟩, ⟨"^b", -1, true⟩], .language "Unknown" [], .language "B" []] _
    rfl
  exact ⟨hcount, (hscores ['a'] true).2, (hget _ _).mpr ⟨by simp [withUnknown], rfl⟩⟩

end Registry

end Polyglot
