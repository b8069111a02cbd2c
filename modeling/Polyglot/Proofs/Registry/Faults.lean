/-
# Why a registry cannot be built

Registration stops at the first entry that is refused, and what is wrong with that
entry is the error.  Of several faults of one entry a name that is taken goes before
rules on Unknown, and these before patterns that cannot be read.  `Entry.Refused` says
so for one entry, `register_eq_error_iff` is the step, and `registerAll_eq_error_iff`
is the run.

From this an answer to a question about all entries is derived: a registry can be
built exactly if the names differ from each other and each entry is sound by itself,
that is, carries no rules if it is named Unknown, and patterns only in its rules if it
is not.
-/

import Mathlib.Data.List.Induction
import Polyglot.Proofs.Registry.Candidates

namespace Polyglot

namespace RuleSpec

/-- Whether the text of a rule is no pattern. -/
def isUnreadable (spec : RuleSpec) : Bool := (Pattern.ofText? spec.pattern.toList).isNone

theorem isUnreadable_iff {spec : RuleSpec} :
    spec.isUnreadable = true ↔ Pattern.ofText? spec.pattern.toList = none :=
  Option.isNone_iff_eq_none

theorem exists_find?_isUnreadable_iff {specs : List RuleSpec} :
    (∃ spec, specs.find? isUnreadable = some spec) ↔
      ∃ spec ∈ specs, Pattern.ofText? spec.pattern.toList = none := by
  rw [← Option.isSome_iff_exists, List.find?_isSome]
  simp only [isUnreadable_iff]

end RuleSpec

namespace Entry

/-- An entry that is refused under no circumstances but that its name is taken. -/
structure Sound (entry : Entry) : Prop where
  /-- Unknown carries no rules. -/
  rules_of_unknown : entry.name = unknownName → entry.rules = []
  /-- The patterns of all rules can be read. -/
  reads : ∀ spec ∈ entry.rules, Pattern.ofText? spec.pattern.toList ≠ none

/-- An entry is at fault behind entries of some names if it repeats one of them, or is
Unknown and carries rules, or is a language with a rule that has no pattern. -/
def IsAtFault (taken : List String) (entry : Entry) : Prop :=
  entry.name ∈ taken ∨ (entry.name = unknownName ∧ entry.rules ≠ []) ∨
    (entry.name ≠ unknownName ∧
      ∃ spec ∈ entry.rules, Pattern.ofText? spec.pattern.toList = none)

/-- The error of an entry behind entries of some names. -/
inductive Refused (taken : List String) (entry : Entry) : RegistryError → Prop
  /-- The name is taken. -/
  | duplicateLanguage (htaken : entry.name ∈ taken) :
      Refused taken entry (.duplicateLanguage entry.name)
  /-- The name is new, but it is that of Unknown, and there are rules. -/
  | rulesOnUnknown (hfresh : entry.name ∉ taken) (hname : entry.name = unknownName)
      (hrules : entry.rules ≠ []) : Refused taken entry (.rulesOnUnknown entry.name)
  /-- The name is new and that of a language, and a rule is the first without a pattern. -/
  | invalidPattern (hfresh : entry.name ∉ taken) (hname : entry.name ≠ unknownName)
      {spec : RuleSpec} (hfirst : entry.rules.find? RuleSpec.isUnreadable = some spec) :
      Refused taken entry (.invalidPattern entry.name spec.pattern)

variable {taken : List String} {entry : Entry}

/-- There is an error exactly for an entry that is at fault. -/
theorem exists_refused_iff : (∃ fault, Refused taken entry fault) ↔ IsAtFault taken entry := by
  constructor
  · rintro ⟨fault, hfault⟩
    cases hfault with
    | duplicateLanguage htaken => exact Or.inl htaken
    | rulesOnUnknown _ hname hrules => exact Or.inr (Or.inl ⟨hname, hrules⟩)
    | invalidPattern _ hname hfirst =>
        exact Or.inr (Or.inr ⟨hname, RuleSpec.exists_find?_isUnreadable_iff.mp ⟨_, hfirst⟩⟩)
  · intro hfault
    by_cases htaken : entry.name ∈ taken
    · exact ⟨_, .duplicateLanguage htaken⟩
    · rcases hfault.resolve_left htaken with ⟨hname, hrules⟩ | ⟨hname, hnone⟩
      · exact ⟨_, .rulesOnUnknown htaken hname hrules⟩
      · obtain ⟨spec, hfirst⟩ := RuleSpec.exists_find?_isUnreadable_iff.mpr hnone
        exact ⟨_, .invalidPattern htaken hname hfirst⟩

end Entry

namespace Registry

open Entry

/-! ## One entry -/

/-- The error of some rules is the first of them without a pattern. -/
theorem readRules_eq_error_iff {language : String} {specs : List RuleSpec}
    {fault : RegistryError} :
    readRules language specs = .error fault ↔
      ∃ spec, specs.find? RuleSpec.isUnreadable = some spec ∧
        fault = .invalidPattern language spec.pattern := by
  induction specs with
  | nil => simp [readRules]
  | cons spec rest ih =>
      rw [readRules, List.find?_cons]
      cases hrule : Rule.ofSpec? spec with
      | none =>
          rw [RuleSpec.isUnreadable_iff.mpr (Rule.ofSpec?_eq_none_iff.mp hrule)]
          simp [eq_comm]
      | some rule =>
          have hread : spec.isUnreadable = false := by
            rw [← Bool.not_eq_true, RuleSpec.isUnreadable_iff, ← Rule.ofSpec?_eq_none_iff, hrule]
            exact Option.some_ne_none rule
          rw [hread, ← ih]
          cases readRules language rest <;> simp [Except.map]

/-- The step: the error of an entry is its fault that goes before the others. -/
theorem register_eq_error_iff {taken : List String} {entry : Entry} {fault : RegistryError} :
    register taken entry = .error fault ↔ Refused taken entry fault := by
  constructor
  · intro refused
    rw [register] at refused
    split at refused
    case isTrue htaken =>
        cases refused
        exact .duplicateLanguage (by simpa using htaken)
    case isFalse hfresh =>
        have hfresh : entry.name ∉ taken := by simpa using hfresh
        split at refused
        case isTrue hunknown =>
            split at refused
            case isTrue hrules => contradiction
            case isFalse hrules =>
                cases refused
                exact .rulesOnUnknown hfresh hunknown (by simpa using hrules)
        case isFalse hunknown =>
            cases hread : readRules entry.name entry.rules with
            | ok rules =>
                rw [hread] at refused
                contradiction
            | error other =>
                rw [hread] at refused
                cases refused
                obtain ⟨spec, hfirst, rfl⟩ := readRules_eq_error_iff.mp hread
                exact .invalidPattern hfresh hunknown hfirst
  · intro hfault
    cases hfault with
    | duplicateLanguage htaken => rw [register, if_pos (by simpa using htaken)]
    | rulesOnUnknown hfresh hname hrules =>
        rw [register, if_neg (by simpa using hfresh), if_pos hname,
          if_neg (by simpa using hrules)]
    | invalidPattern hfresh hname hfirst =>
        rw [register, if_neg (by simpa using hfresh), if_neg hname,
          readRules_eq_error_iff.mpr ⟨_, hfirst, rfl⟩]
        rfl

/-- The order in which names were taken does not matter. -/
theorem register_reverse (taken : List String) (entry : Entry) :
    register taken.reverse entry = register taken entry := by
  rw [register, register, List.contains_reverse]

/-! ## Entries one after the other -/

/-- Entries behind others are registered after them, unless these are refused. -/
theorem registerAll_append (taken : List String) (first second : List Entry) :
    registerAll taken (first ++ second) =
      (registerAll taken first).bind fun candidates =>
        (registerAll ((first.map Entry.name).reverse ++ taken) second).map (candidates ++ ·) := by
  induction first generalizing taken with
  | nil =>
      rw [List.nil_append, registerAll]
      cases hsecond : registerAll taken second <;> simp [Except.bind, Except.map, hsecond]
  | cons entry rest ih =>
      rw [List.cons_append, registerAll, registerAll]
      cases register taken entry with
      | error fault => rfl
      | ok candidate =>
          simp only [ih, List.map_cons, List.reverse_cons, List.append_assoc, List.singleton_append]
          cases registerAll (entry.name :: taken) rest with
          | error fault => rfl
          | ok others =>
              simp only [Except.bind, Except.map]
              cases registerAll ((rest.map Entry.name).reverse ++ entry.name :: taken) second <;> rfl

/-- One more entry is registered behind the names of those before it. -/
theorem registerAll_concat (entries : List Entry) (entry : Entry) :
    registerAll [] (entries ++ [entry]) =
      (registerAll [] entries).bind fun candidates =>
        (register (entries.map Entry.name) entry).map (candidates ++ [·]) := by
  rw [registerAll_append]
  apply congrArg (Except.bind _)
  funext candidates
  rw [List.append_nil, registerAll, register_reverse]
  cases register (entries.map Entry.name) entry <;> rfl

/-- Entries are registered exactly if none of them is at fault behind those before it. -/
theorem exists_registerAll_eq_ok_iff {entries : List Entry} :
    (∃ candidates, registerAll [] entries = .ok candidates) ↔
      ∀ earlier entry, earlier ++ [entry] <+: entries →
        ¬ IsAtFault (earlier.map Entry.name) entry := by
  induction entries using List.reverseRecOn with
  | nil => simp [registerAll]
  | append_singleton entries last ih =>
      have hlast : (∃ candidate, register (entries.map Entry.name) last = .ok candidate) ↔
          ¬ IsAtFault (entries.map Entry.name) last := by
        rw [← exists_refused_iff]
        simp only [← register_eq_error_iff]
        cases register (entries.map Entry.name) last <;> simp
      have hconcat : (∃ candidates, registerAll [] (entries ++ [last]) = .ok candidates) ↔
          (∃ candidates, registerAll [] entries = .ok candidates) ∧
            ∃ candidate, register (entries.map Entry.name) last = .ok candidate := by
        rw [registerAll_concat]
        cases registerAll [] entries <;> cases register (entries.map Entry.name) last <;>
          simp [Except.bind, Except.map]
      rw [hconcat, hlast, ih]
      simp only [List.prefix_concat_iff, List.append_singleton_inj, or_imp, forall_and]
      constructor
      · rintro ⟨hearlier, hfault⟩
        refine ⟨?_, hearlier⟩
        rintro _ _ ⟨rfl, rfl⟩
        exact hfault
      · rintro ⟨hfault, hearlier⟩
        exact ⟨hearlier, hfault entries last ⟨rfl, rfl⟩⟩

/-- What is refused stays refused, for the same reason, whatever comes behind it. -/
theorem registerAll_append_of_error {taken : List String} {entries : List Entry}
    {fault : RegistryError} (refused : registerAll taken entries = .error fault)
    (further : List Entry) : registerAll taken (entries ++ further) = .error fault := by
  rw [registerAll_append, refused]
  rfl

/-- The run: the error of some entries is that of the first one that is refused. -/
theorem registerAll_eq_error_iff {entries : List Entry} {fault : RegistryError} :
    registerAll [] entries = .error fault ↔
      ∃ earlier entry, earlier ++ [entry] <+: entries ∧
        (∃ candidates, registerAll [] earlier = .ok candidates) ∧
          Refused (earlier.map Entry.name) entry fault := by
  constructor
  · intro refused
    induction entries using List.reverseRecOn with
    | nil => contradiction
    | append_singleton entries last ih =>
        cases hentries : registerAll [] entries with
        | error other =>
            have hsame := registerAll_append_of_error hentries [last]
            rw [refused] at hsame
            obtain ⟨earlier, entry, hfirst, hfault⟩ := ih (hentries.trans hsame.symm)
            exact ⟨earlier, entry, hfirst.trans (List.prefix_append entries [last]), hfault⟩
        | ok candidates =>
            rw [registerAll_concat, hentries] at refused
            cases hlast : register (entries.map Entry.name) last with
            | ok candidate => simp [hlast, Except.bind, Except.map] at refused
            | error other =>
                obtain rfl : other = fault := by
                  simpa [hlast, Except.bind, Except.map] using refused
                exact ⟨entries, last, List.prefix_rfl, ⟨candidates, hentries⟩,
                  register_eq_error_iff.mp hlast⟩
  · rintro ⟨earlier, entry, ⟨later, rfl⟩, ⟨candidates, hearlier⟩, hfault⟩
    apply registerAll_append_of_error
    rw [registerAll_concat, hearlier, Except.bind, register_eq_error_iff.mpr hfault]
    rfl

theorem build_eq_error_iff {entries : List Entry} {fault : RegistryError} :
    build entries = .error fault ↔ registerAll [] entries = .error fault := by
  rw [build]
  cases registerAll [] entries <;> simp [Except.map]

/-- Entries of different names are never refused for their names. -/
theorem build_ne_duplicateLanguage {entries : List Entry}
    (nodup : (entries.map Entry.name).Nodup) (name : String) :
    build entries ≠ .error (.duplicateLanguage name) := by
  intro refused
  obtain ⟨earlier, entry, ⟨later, rfl⟩, -, hfault⟩ :=
    registerAll_eq_error_iff.mp (build_eq_error_iff.mp refused)
  cases hfault with
  | duplicateLanguage htaken =>
      rw [List.append_assoc, List.map_append, List.nodup_append] at nodup
      exact nodup.2.2 _ htaken _ List.mem_cons_self rfl

/-- The entry of a candidate is sound. -/
theorem Registers.sound {entry : Entry} {candidate : Candidate}
    (registers : Registers entry candidate) : entry.Sound where
  rules_of_unknown hname := by
    rw [← registers.rules_eq, Candidate.isUnknown_iff.mp (registers.isUnknown_iff.mpr hname)]
    rfl
  reads spec hmem := by
    rw [← registers.rules_eq] at hmem
    obtain ⟨rule, -, rfl⟩ := List.mem_map.mp hmem
    simp [rule.reads]

theorem sound_of_build {entries : List Entry} {registry : Registry}
    (built : build entries = .ok registry) : ∀ entry ∈ entries, entry.Sound := by
  intro entry hmem
  obtain ⟨candidates, hregister, -⟩ := build_eq_ok built
  obtain ⟨place, hplace, rfl⟩ := List.getElem_of_mem hmem
  have registers := forall₂_registers_of_registerAll hregister
  exact (registers.get hplace (registers.length_eq ▸ hplace)).sound

/-- A registry can be built exactly from sound entries of different names. -/
theorem exists_build_eq_ok_iff {entries : List Entry} :
    (∃ registry, build entries = .ok registry) ↔
      (entries.map Entry.name).Nodup ∧ ∀ entry ∈ entries, entry.Sound := by
  constructor
  · rintro ⟨registry, built⟩
    obtain ⟨candidates, hregister, -⟩ := build_eq_ok built
    obtain ⟨hnames, hnodup, -, -⟩ := registerAll_names hregister
    exact ⟨hnames ▸ hnodup, sound_of_build built⟩
  · rintro ⟨nodup, sound⟩
    cases hbuild : build entries with
    | ok registry => exact ⟨registry, rfl⟩
    | error fault =>
        obtain ⟨earlier, entry, hfirst, -, hfault⟩ :=
          registerAll_eq_error_iff.mp (build_eq_error_iff.mp hbuild)
        have hsound := sound entry (hfirst.subset (by simp))
        cases hfault with
        | duplicateLanguage => exact absurd hbuild (build_ne_duplicateLanguage nodup _)
        | rulesOnUnknown _ hname hrules => exact absurd (hsound.rules_of_unknown hname) hrules
        | invalidPattern _ _ hfirst =>
            exact absurd (RuleSpec.isUnreadable_iff.mp (List.find?_some hfirst))
              (hsound.reads _ (List.mem_of_find?_eq_some hfirst))

theorem exists_build_eq_error_iff {entries : List Entry} :
    (∃ fault, build entries = .error fault) ↔
      ¬ ((entries.map Entry.name).Nodup ∧ ∀ entry ∈ entries, entry.Sound) := by
  rw [← exists_build_eq_ok_iff]
  cases build entries <;> simp

/-- A registry cannot be built exactly if some entry repeats the name of an earlier one, is
Unknown and carries rules, or is a language with a rule that has no pattern.  The
error is that of the earliest such entry, for which a name that is taken goes before
rules on Unknown, and these before the first rule without a pattern.  Entries behind
it change nothing. -/
theorem build_reports_first_fault (entries : List Entry) :
    ((∃ fault, build entries = .error fault) ↔
      ∃ earlier entry, earlier ++ [entry] <+: entries ∧
        IsAtFault (earlier.map Entry.name) entry) ∧
    (∀ fault, build entries = .error fault ↔
      ∃ earlier entry, earlier ++ [entry] <+: entries ∧
        (∀ fewer other, fewer ++ [other] <+: earlier →
          ¬ IsAtFault (fewer.map Entry.name) other) ∧
        Refused (earlier.map Entry.name) entry fault) ∧
    ∀ fault further, build entries = .error fault → build (entries ++ further) = .error fault := by
  have hregistered : (¬ ∃ fault, build entries = .error fault) ↔
      ∃ candidates, registerAll [] entries = .ok candidates := by
    simp only [build_eq_error_iff]
    cases registerAll [] entries <;> simp
  refine ⟨?_, fun fault => ?_, fun fault further refused => ?_⟩
  · rw [← not_iff_not, hregistered, exists_registerAll_eq_ok_iff]
    simp only [not_exists, not_and]
  · rw [build_eq_error_iff, registerAll_eq_error_iff]
    simp only [exists_registerAll_eq_ok_iff]
  · rw [build_eq_error_iff] at refused ⊢
    exact registerAll_append_of_error refused further

/-- Of two patterns that cannot be read the first one is reported, also with further faults
behind it; a name that is taken is reported before rules on Unknown. -/
theorem build_reports_first_fault_of_several_faults :
    build [.language "A" [], .language "B" [⟨"b", 1, false⟩, ⟨"(", 1, false⟩, ⟨"[", 1, false⟩],
      .language "A" []] = .error (.invalidPattern "B" "(") ∧
    build [.unknown, .language "Unknown" [⟨"(", 1, false⟩]] =
      .error (.duplicateLanguage "Unknown") := by
  constructor
  · exact (build_reports_first_fault [.language "A" [],
      .language "B" [⟨"b", 1, false⟩, ⟨"(", 1, false⟩, ⟨"[", 1, false⟩]]).2.2 _ [_] rfl
  · refine ((build_reports_first_fault _).2.1 _).mpr ⟨[.unknown], _, List.prefix_rfl, ?_,
      .duplicateLanguage (by decide)⟩
    rintro fewer other ⟨later, hsplit⟩
    obtain ⟨rfl, hother⟩ : fewer = [] ∧ other :: later = [.unknown] := by
      cases fewer <;> simp_all
    obtain ⟨rfl, -⟩ := List.cons.inj hother
    simp [IsAtFault, Entry.rules, Entry.name]

end Registry

end Polyglot
