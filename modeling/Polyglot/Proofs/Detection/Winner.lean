/-
# Who wins

The scan for the winner replaces the best so far by strictly higher scores only,
so it ends at the first entry of the highest score.  In a registry that was
built one candidate always has one point, which is why the winner has at least
one.  On the two sides of that candidate a language needs different scores: in
front of it one point is enough to win, behind it two are needed.
-/

import Mathlib.Data.Int.Order.Basic
import Mathlib.Data.List.Basic
import Polyglot.Detection
import Polyglot.Proofs.Registry.Build

namespace Polyglot

/-- An entry is the first of the highest score: those in front of it have less, and
those behind it have no more. -/
def IsFirstMaximum (scores : List LanguageScore) (winner : LanguageScore) : Prop :=
  ∃ before after, scores = before ++ winner :: after ∧
    (∀ score ∈ before, score.2 < winner.2) ∧ ∀ score ∈ after, score.2 ≤ winner.2

namespace IsFirstMaximum

variable {scores : List LanguageScore} {winner : LanguageScore}

theorem mem (first : IsFirstMaximum scores winner) : winner ∈ scores := by
  obtain ⟨before, after, rfl, _, _⟩ := first
  simp

theorem le (first : IsFirstMaximum scores winner) {score : LanguageScore}
    (hmem : score ∈ scores) : score.2 ≤ winner.2 := by
  obtain ⟨before, after, rfl, hbefore, hafter⟩ := first
  rw [List.mem_append, List.mem_cons] at hmem
  rcases hmem with hmem | rfl | hmem
  · exact le_of_lt (hbefore score hmem)
  · exact le_rfl
  · exact hafter score hmem

/-- The first entry is the first maximum, or a higher one behind it is. -/
theorem cons_iff {score : LanguageScore} :
    IsFirstMaximum (score :: scores) winner ↔
      (winner = score ∧ ∀ other ∈ scores, other.2 ≤ winner.2) ∨
        (score.2 < winner.2 ∧ IsFirstMaximum scores winner) := by
  constructor
  · rintro ⟨before, after, hsplit, hbefore, hafter⟩
    cases before with
    | nil =>
        obtain ⟨rfl, rfl⟩ := List.cons_eq_cons.mp hsplit
        exact Or.inl ⟨rfl, hafter⟩
    | cons other before =>
        obtain ⟨rfl, rfl⟩ := List.cons_eq_cons.mp hsplit
        refine Or.inr ⟨hbefore score List.mem_cons_self, before, after, rfl, ?_, hafter⟩
        exact fun other hmem => hbefore other (List.mem_cons_of_mem _ hmem)
  · rintro (⟨rfl, hothers⟩ | ⟨hlt, before, after, rfl, hbefore, hafter⟩)
    · exact ⟨[], scores, rfl, by simp, hothers⟩
    · exact ⟨score :: before, after, rfl, by simpa [hlt] using hbefore, hafter⟩

/-- There is only one first maximum. -/
theorem eq {other : LanguageScore} (first : IsFirstMaximum scores winner)
    (second : IsFirstMaximum scores other) : winner = other := by
  induction scores with
  | nil => simpa using first.mem
  | cons score scores ih =>
      rcases cons_iff.mp first with ⟨rfl, hothers⟩ | ⟨hlt, hfirst⟩ <;>
        rcases cons_iff.mp second with ⟨rfl, hothers'⟩ | ⟨hlt', hsecond⟩
      · rfl
      · exact absurd (hothers other hsecond.mem) (not_le.mpr hlt')
      · exact absurd (hothers' winner hfirst.mem) (not_le.mpr hlt)
      · exact ih hfirst hsecond

end IsFirstMaximum

/-- The scan from a best entry so far ends at the first maximum of that entry and
the entries that follow. -/
theorem exists_foldl_better_eq_some (leader : LanguageScore) (scores : List LanguageScore) :
    ∃ winner, scores.foldl better (some leader) = some winner ∧
      IsFirstMaximum (leader :: scores) winner := by
  -- A step of the scan is the same scan from another leader.
  induction scores generalizing leader with
  | nil => exact ⟨leader, rfl, [], [], rfl, by simp, by simp⟩
  | cons score scores ih =>
      by_cases hlt : leader.2 < score.2
      · obtain ⟨winner, hscan, hfirst⟩ := ih score
        refine ⟨winner, by simpa [better, hlt] using hscan, ?_⟩
        have hle : score.2 ≤ winner.2 := hfirst.le List.mem_cons_self
        exact IsFirstMaximum.cons_iff.mpr (Or.inr ⟨lt_of_lt_of_le hlt hle, hfirst⟩)
      · obtain ⟨winner, hscan, hfirst⟩ := ih leader
        refine ⟨winner, by simpa [better, hlt] using hscan, ?_⟩
        rw [IsFirstMaximum.cons_iff] at hfirst ⊢
        rcases hfirst with ⟨rfl, hothers⟩ | ⟨hleader, hfirst⟩
        · refine Or.inl ⟨rfl, ?_⟩
          simpa [not_lt.mp hlt] using hothers
        · have hscore : score.2 < winner.2 := lt_of_le_of_lt (not_lt.mp hlt) hleader
          exact Or.inr ⟨hleader, IsFirstMaximum.cons_iff.mpr (Or.inr ⟨hscore, hfirst⟩)⟩

/-- The winner of some entries is the first maximum. -/
theorem exists_selectWinner_eq {scores : List LanguageScore} (hne : scores ≠ []) :
    ∃ winner, IsFirstMaximum scores winner ∧ selectWinner scores = winner.1 := by
  cases scores with
  | nil => contradiction
  | cons score scores =>
      obtain ⟨winner, hscan, hfirst⟩ := exists_foldl_better_eq_some score scores
      refine ⟨winner, hfirst, ?_⟩
      rw [selectWinner, List.foldl_cons, better, hscan]

/-- The entry that is the first maximum gives the winner its name. -/
theorem selectWinner_eq_of_isFirstMaximum {scores : List LanguageScore}
    {winner : LanguageScore} (first : IsFirstMaximum scores winner) :
    selectWinner scores = winner.1 := by
  obtain ⟨other, hother, hname⟩ := exists_selectWinner_eq (List.ne_nil_of_mem first.mem)
  rw [hname, hother.eq first]

@[simp]
theorem detect_name (snippet : List Char) (options : DetectOptions) (registry : Registry) :
    (detect snippet options registry).name =
      selectWinner (scoreAll snippet options.heuristic registry) := by
  cases hstatistics : options.statistics <;> simp [detect, hstatistics, Detection.name]

theorem scoreAll_eq_map (snippet : List Char) (heuristic : Bool) (registry : Registry) :
    scoreAll snippet heuristic registry =
      registry.candidates.map fun candidate =>
        (candidate.name, candidate.score (scoredLines snippet heuristic)) :=
  rfl

variable {registry : Registry}

/-- The first maximum of all scores belongs to a candidate. -/
theorem exists_candidate_of_isFirstMaximum {snippet : List Char} {heuristic : Bool}
    {winner : LanguageScore}
    (first : IsFirstMaximum (scoreAll snippet heuristic registry) winner) :
    ∃ before candidate after, registry.candidates = before ++ candidate :: after ∧
      winner = (candidate.name, candidate.score (scoredLines snippet heuristic)) ∧
      (∀ other ∈ before, other.score (scoredLines snippet heuristic) < winner.2) ∧
      ∀ other ∈ after, other.score (scoredLines snippet heuristic) ≤ winner.2 := by
  obtain ⟨scoresBefore, scoresAfter, hsplit, hbefore, hafter⟩ := first
  rw [scoreAll_eq_map, List.map_eq_append_iff] at hsplit
  obtain ⟨before, rest, hcandidates, rfl, hrest⟩ := hsplit
  obtain ⟨candidate, after, rfl, hwinner, rfl⟩ := List.map_eq_cons_iff.mp hrest
  refine ⟨before, candidate, after, hcandidates, hwinner.symm, ?_, ?_⟩
  · exact fun other hmem => hbefore _ (List.mem_map_of_mem hmem)
  · exact fun other hmem => hafter _ (List.mem_map_of_mem hmem)

/-- Unknown is the first maximum if no candidate in front of it has a point, and none
behind it has two. -/
theorem isFirstMaximum_unknown {snippet : List Char} {heuristic : Bool}
    {before after : List Candidate}
    (hsplit : registry.candidates = before ++ .unknown :: after)
    (hbefore : ∀ candidate ∈ before, candidate.score (scoredLines snippet heuristic) ≤ 0)
    (hafter : ∀ candidate ∈ after, candidate.score (scoredLines snippet heuristic) ≤ 1) :
    IsFirstMaximum (scoreAll snippet heuristic registry) (unknownName, unknownPoints) := by
  rw [scoreAll_eq_map, hsplit, List.map_append, List.map_cons]
  refine ⟨_, _, rfl, fun score hmem => ?_, fun score hmem => ?_⟩
  · obtain ⟨candidate, hcandidate, rfl⟩ := List.mem_map.mp hmem
    exact Int.lt_add_one_iff.mpr (hbefore candidate hcandidate)
  · obtain ⟨candidate, hcandidate, rfl⟩ := List.mem_map.mp hmem
    exact hafter candidate hcandidate

/-- In a registry that was built the first candidate of the highest score is detected,
and that score is at least one.  It is Unknown exactly if every candidate in front
of Unknown has no point and every candidate behind it has at most one. -/
theorem detect_first_maximum {entries : List Entry} (built : Registry.build entries = .ok registry)
    (snippet : List Char) (options : DetectOptions) :
    (∃ winner, IsFirstMaximum (scoreAll snippet options.heuristic registry) winner ∧
      (detect snippet options registry).name = winner.1 ∧ 1 ≤ winner.2) ∧
    ∃ before after, registry.candidates = before ++ .unknown :: after ∧
      Candidate.unknown ∉ before ∧ Candidate.unknown ∉ after ∧
      ((detect snippet options registry).name = unknownName ↔
        (∀ other ∈ before, other.score (scoredLines snippet options.heuristic) ≤ 0) ∧
          ∀ other ∈ after, other.score (scoredLines snippet options.heuristic) ≤ 1) := by
  have formed := Registry.wellFormed_of_build built
  have hunknown : (unknownName, unknownPoints) ∈
      scoreAll snippet options.heuristic registry :=
    List.mem_map.mpr ⟨.unknown, formed.unknown_mem, rfl⟩
  obtain ⟨winner, hfirst, hname⟩ := exists_selectWinner_eq (List.ne_nil_of_mem hunknown)
  obtain ⟨front, back, hplace, hfront, hback⟩ := formed.exists_eq_append_unknown
  rw [detect_name]
  refine ⟨⟨winner, hfirst, hname, hfirst.le hunknown⟩, front, back, hplace, hfront, hback,
    fun hdetected => ?_, fun ⟨hnone, hone⟩ => ?_⟩
  · obtain ⟨before, candidate, after, hcandidates, rfl, hbefore, hafter⟩ :=
      exists_candidate_of_isFirstMaximum hfirst
    have hmem : candidate ∈ registry.candidates := by simp [hcandidates]
    obtain rfl := formed.eq_unknown_of_name candidate hmem (hname.symm.trans hdetected)
    -- Unknown has one place only, so the two ways to split the candidates are one.
    obtain ⟨rfl, -, rfl⟩ :=
      (List.append_cons_inj_of_notMem hfront hback).mp (hplace.symm.trans hcandidates)
    exact ⟨fun other hother => Int.lt_add_one_iff.mp (hbefore other hother), hafter⟩
  · exact selectWinner_eq_of_isFirstMaximum (isFirstMaximum_unknown hplace hnone hone)

/-- Behind Unknown one point is not enough, in front of it it is. -/
theorem detect_first_maximum_around_unknown :
    ∃ registry, Registry.build [.language "A" [⟨"a", 1, false⟩], .unknown,
        .language "B" [⟨"b", 1, false⟩]] = .ok registry ∧
      (∃ winner, IsFirstMaximum (scoreAll ['b'] true registry) winner ∧
        (detect ['b'] {} registry).name = winner.1 ∧ 1 ≤ winner.2) ∧
      (detect ['a'] {} registry).name = "A" ∧ (detect ['b'] {} registry).name = unknownName :=
  ⟨_, rfl, (@detect_first_maximum _ [.language "A" [⟨"a", 1, false⟩], .unknown,
    .language "B" [⟨"b", 1, false⟩]] rfl ['b'] {}).1, by decide +kernel, by decide +kernel⟩

end Polyglot
