/-
# Registries that can be built

Registration goes through the entries from left to right.  `register_eq_ok` says
once what an entry that is accepted gives, and everything about registries that
were built is derived from it: the names are the registered ones and differ from
each other, and the candidate without rules is there exactly once and is the
only one of its name.
-/

import Mathlib.Data.List.Nodup
import Polyglot.Registry

namespace Polyglot

namespace Candidate

@[simp]
theorem name_unknown : unknown.name = unknownName := rfl

@[simp]
theorem isUnknown_iff {candidate : Candidate} :
    candidate.isUnknown = true ↔ candidate = unknown := by
  cases candidate <;> simp [isUnknown]

end Candidate

namespace Registry

/-- What an accepted entry gives: a name that is new, and under it either the
candidate without rules or a language with the rules that were read. -/
theorem register_eq_ok {taken : List String} {entry : Entry} {candidate : Candidate}
    (accepted : register taken entry = .ok candidate) :
    entry.name ∉ taken ∧
      ((entry.name = unknownName ∧ entry.rules = [] ∧ candidate = .unknown) ∨
        (entry.name ≠ unknownName ∧ ∃ rules, readRules entry.name entry.rules = .ok rules ∧
          candidate = .language entry.name rules)) := by
  rw [register] at accepted
  split at accepted
  · contradiction
  · rename_i hfresh
    refine ⟨by simpa using hfresh, ?_⟩
    split at accepted
    · rename_i hunknown
      split at accepted
      · rename_i hrules
        cases accepted
        exact Or.inl ⟨hunknown, by simpa using hrules, rfl⟩
      · contradiction
    · rename_i hunknown
      cases hread : readRules entry.name entry.rules with
      | error fault =>
          rw [hread] at accepted
          contradiction
      | ok rules =>
          rw [hread] at accepted
          cases accepted
          exact Or.inr ⟨hunknown, rules, rfl, rfl⟩

theorem name_of_register {taken : List String} {entry : Entry} {candidate : Candidate}
    (accepted : register taken entry = .ok candidate) : candidate.name = entry.name := by
  obtain ⟨_, ⟨hunknown, _, rfl⟩ | ⟨_, rules, _, rfl⟩⟩ := register_eq_ok accepted
  · exact hunknown.symm
  · rfl

/-- What an accepted list of entries gives, entry by entry. -/
theorem registerAll_cons_eq_ok {taken : List String} {entry : Entry} {rest : List Entry}
    {candidates : List Candidate}
    (accepted : registerAll taken (entry :: rest) = .ok candidates) :
    ∃ candidate others, register taken entry = .ok candidate ∧
      registerAll (entry.name :: taken) rest = .ok others ∧ candidates = candidate :: others := by
  rw [registerAll] at accepted
  cases hregister : register taken entry with
  | error fault =>
      rw [hregister] at accepted
      contradiction
  | ok candidate =>
      simp only [hregister] at accepted
      cases hrest : registerAll (entry.name :: taken) rest with
      | error fault =>
          rw [hrest] at accepted
          contradiction
      | ok others =>
          rw [hrest] at accepted
          cases accepted
          exact ⟨candidate, others, rfl, rfl, rfl⟩

/-- The invariant of registration: the names are those of the entries, they are new
and differ from each other, and only the candidate without rules is named
Unknown. -/
theorem registerAll_names {taken : List String} {entries : List Entry}
    {candidates : List Candidate} (accepted : registerAll taken entries = .ok candidates) :
    candidates.map Candidate.name = entries.map Entry.name ∧
      (candidates.map Candidate.name).Nodup ∧
      (∀ candidate ∈ candidates, candidate.name ∉ taken) ∧
      ∀ candidate ∈ candidates, candidate.name = unknownName → candidate = .unknown := by
  induction entries generalizing taken candidates with
  | nil =>
      cases accepted
      simp
  | cons entry rest ih =>
      obtain ⟨candidate, others, hregister, hothers, rfl⟩ := registerAll_cons_eq_ok accepted
      obtain ⟨hnames, hnodup, hfresh, hunknown⟩ := ih hothers
      have hname := name_of_register hregister
      have hcandidate := register_eq_ok hregister
      refine ⟨by simp [hname, hnames], ?_, ?_, ?_⟩
      · rw [List.map_cons, List.nodup_cons]
        refine ⟨fun hmem => ?_, hnodup⟩
        obtain ⟨other, hother, hsame⟩ := List.mem_map.mp hmem
        exact hfresh other hother (by simp [hsame, hname])
      · intro other hmem
        obtain rfl | hmem := List.mem_cons.mp hmem
        · exact hname ▸ hcandidate.1
        · exact fun htaken => hfresh other hmem (List.mem_cons_of_mem _ htaken)
      · intro other hmem hsame
        obtain rfl | hmem := List.mem_cons.mp hmem
        · obtain ⟨_, ⟨_, _, heq⟩ | ⟨hne, _⟩⟩ := hcandidate
          · exact heq
          · exact absurd (hname.symm.trans hsame) hne
        · exact hunknown other hmem hsame

/-- What holds of every registry that was built. -/
structure WellFormed (registry : Registry) : Prop where
  /-- No two candidates have the same name. -/
  nodup_names : (registry.candidates.map Candidate.name).Nodup
  /-- The candidate without rules is there. -/
  unknown_mem : Candidate.unknown ∈ registry.candidates
  /-- No other candidate has its name. -/
  eq_unknown_of_name : ∀ candidate ∈ registry.candidates,
    candidate.name = unknownName → candidate = .unknown

/-- A registry that was built has the registered candidates, and Unknown among
them. -/
theorem build_eq_ok {entries : List Entry} {registry : Registry}
    (built : build entries = .ok registry) :
    ∃ candidates, registerAll [] entries = .ok candidates ∧
      registry = ⟨withUnknown candidates⟩ := by
  rw [build] at built
  cases hregister : registerAll [] entries with
  | error fault =>
      rw [hregister] at built
      contradiction
  | ok candidates =>
      rw [hregister] at built
      cases built
      exact ⟨candidates, rfl, rfl⟩

/-- Unknown is appended only where it was not registered, and then its name is
new. -/
theorem wellFormed_withUnknown {candidates : List Candidate}
    (nodup : (candidates.map Candidate.name).Nodup)
    (hunknown : ∀ candidate ∈ candidates, candidate.name = unknownName → candidate = .unknown) :
    WellFormed ⟨withUnknown candidates⟩ := by
  by_cases hplaced : candidates.any Candidate.isUnknown = true
  · have hsame : withUnknown candidates = candidates := if_pos hplaced
    obtain ⟨candidate, hmem, hcandidate⟩ := List.any_eq_true.mp hplaced
    obtain rfl := Candidate.isUnknown_iff.mp hcandidate
    rw [hsame]
    exact ⟨nodup, hmem, hunknown⟩
  · have happended : withUnknown candidates = candidates ++ [.unknown] := if_neg hplaced
    have habsent : unknownName ∉ candidates.map Candidate.name := by
      intro hname
      obtain ⟨candidate, hmem, hname⟩ := List.mem_map.mp hname
      obtain rfl := hunknown candidate hmem hname
      exact hplaced (List.any_eq_true.mpr ⟨_, hmem, rfl⟩)
    rw [happended]
    refine ⟨?_, by simp, ?_⟩
    · rw [List.map_append, List.nodup_append]
      refine ⟨nodup, by simp, ?_⟩
      rintro name hmem _ hlast rfl
      obtain rfl : name = unknownName := by simpa using hlast
      exact habsent hmem
    · intro candidate hmem hname
      obtain hmem | hmem := List.mem_append.mp hmem
      · exact hunknown candidate hmem hname
      · simpa using hmem

/-- A registry that was built is well formed. -/
theorem wellFormed_of_build {entries : List Entry} {registry : Registry}
    (built : build entries = .ok registry) : registry.WellFormed := by
  obtain ⟨candidates, hregister, rfl⟩ := build_eq_ok built
  obtain ⟨_, hnodup, _, hunknown⟩ := registerAll_names hregister
  exact wellFormed_withUnknown hnodup hunknown

/-- Around the candidate without rules stand the others. -/
theorem WellFormed.exists_eq_append_unknown {registry : Registry} (formed : registry.WellFormed) :
    ∃ before after, registry.candidates = before ++ .unknown :: after ∧
      Candidate.unknown ∉ before ∧ Candidate.unknown ∉ after := by
  obtain ⟨before, after, hsplit⟩ := List.append_of_mem formed.unknown_mem
  have hnodup := formed.nodup_names.of_map
  rw [hsplit, List.nodup_middle, List.nodup_cons] at hnodup
  exact ⟨before, after, hsplit, by simpa [not_or] using hnodup.1⟩

end Registry

end Polyglot
