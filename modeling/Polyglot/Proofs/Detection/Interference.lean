/-
# What one language can change

Two registries that have the same candidates in the same order, but for those of
one name, give every other name the same score.  The first maximum stays where it
is when other entries are taken away, so a language that wins in neither of them
cannot decide between two others.  And a language that keeps its place can only
gain by a higher score.
-/

import Mathlib.Algebra.Order.BigOperators.Group.List
import Polyglot.Proofs.Registry.Scores

namespace Polyglot

open Lines

/-! ## First maxima of parts of the scores -/

namespace IsFirstMaximum

variable {scores : List LanguageScore} {winner : LanguageScore}

/-- Taking away other entries does not change the winner. -/
theorem filter (first : IsFirstMaximum scores winner) (keeps : LanguageScore → Bool)
    (hwinner : keeps winner = true) : IsFirstMaximum (scores.filter keeps) winner := by
  obtain ⟨before, after, rfl, hbefore, hafter⟩ := first
  rw [List.filter_append, List.filter_cons_of_pos hwinner]
  refine ⟨_, _, rfl, ?_, ?_⟩
  · intro score hmem
    exact hbefore score (List.mem_of_mem_filter hmem)
  · intro score hmem
    exact hafter score (List.mem_of_mem_filter hmem)

/-- An entry that wins still wins with a higher score. -/
theorem raise {before after : List LanguageScore} {name : String} {points higher : Int}
    (first : IsFirstMaximum (before ++ (name, points) :: after) (name, points))
    (nodup : (before ++ (name, points) :: after).Nodup) (hle : points ≤ higher) :
    IsFirstMaximum (before ++ (name, higher) :: after) (name, higher) := by
  rw [List.nodup_middle, List.nodup_cons, List.mem_append, not_or] at nodup
  obtain ⟨⟨hbefore, hafter⟩, -⟩ := nodup
  obtain ⟨front, back, hsplit, hfront, hback⟩ := first
  -- The winner has one place only, so the two ways to split the scores are one.
  obtain ⟨rfl, -, rfl⟩ := (List.append_cons_inj_of_notMem hbefore hafter).mp hsplit
  refine ⟨before, after, rfl, ?_, ?_⟩
  · intro score hmem
    exact lt_of_lt_of_le (hfront score hmem) hle
  · intro score hmem
    exact le_trans (hback score hmem) hle

end IsFirstMaximum

/-! ## More rules for a language -/

namespace Candidate

/-- Further rules that do not count against a language do not lower its score. -/
theorem score_le_score_of_perm_append {name : String} {rules added more : List Rule}
    (hmore : more.Perm (rules ++ added)) (hpoints : ∀ rule ∈ added, 0 ≤ rule.points)
    (lines : List Line) :
    (language name rules).score lines ≤ (language name more).score lines := by
  have hadded : 0 ≤ (added.map fun rule => rule.pointsIn lines).sum := by
    apply List.sum_nonneg
    intro points hmem
    obtain ⟨rule, hrule, rfl⟩ := List.mem_map.mp hmem
    exact Rule.pointsIn_nonneg (hpoints rule hrule) lines
  rw [score_language, score_language, (hmore.map _).sum_eq, List.map_append, List.sum_append]
  exact Int.le_add_of_nonneg_right hadded

end Candidate

namespace Registry

/-- The same candidates in the same order, but for those of one name. -/
def AgreeExcept (name : String) (first second : Registry) : Prop :=
  first.candidates.filter (fun candidate => candidate.name != name) =
    second.candidates.filter fun candidate => candidate.name != name

/-- Where names differ, leaving out one name leaves out one candidate. -/
theorem filter_name_ne {before after : List Candidate} {candidate : Candidate}
    (nodup : ((before ++ candidate :: after).map Candidate.name).Nodup) :
    (before ++ candidate :: after).filter (fun other => other.name != candidate.name) =
      before ++ after := by
  rw [List.map_append, List.map_cons, List.nodup_middle, List.nodup_cons, List.mem_append,
    not_or] at nodup
  obtain ⟨⟨hbefore, hafter⟩, -⟩ := nodup
  have hkept {others : List Candidate} (habsent : candidate.name ∉ others.map Candidate.name) :
      others.filter (fun other => other.name != candidate.name) = others := by
    rw [List.filter_eq_self]
    intro other hmem
    rw [bne_iff_ne]
    intro hsame
    exact habsent (hsame ▸ List.mem_map_of_mem hmem)
  rw [List.filter_append, List.filter_cons_of_neg (by simp), hkept hbefore, hkept hafter]

namespace AgreeExcept

variable {name : String} {first second : Registry}

theorem filter_scoreAll (agree : AgreeExcept name first second) (snippet : List Char)
    (heuristic : Bool) :
    (scoreAll snippet heuristic first).filter (fun score => score.1 != name) =
      (scoreAll snippet heuristic second).filter fun score => score.1 != name := by
  rw [scoreAll_eq_map, scoreAll_eq_map, List.filter_map, List.filter_map]
  exact congrArg _ agree

/-- Every other name has the same score. -/
theorem scoreOf?_eq (agree : AgreeExcept name first second) (formedFirst : first.WellFormed)
    (formedSecond : second.WellFormed) {other : String} (hne : other ≠ name)
    (snippet : List Char) (heuristic : Bool) :
    first.scoreOf? other snippet heuristic = second.scoreOf? other snippet heuristic := by
  apply formedFirst.scoreOf?_congr formedSecond
  intro points
  have hkept : ((other, points).1 != name) = true := bne_iff_ne.mpr hne
  have hmem (scores : List LanguageScore) : (other, points) ∈ scores ↔
      (other, points) ∈ scores.filter fun score => score.1 != name := by
    rw [List.mem_filter, and_iff_left hkept]
  rw [hmem, agree.filter_scoreAll, ← hmem]

/-- Two candidates of the name that have the same place stand between the same others. -/
theorem exists_eq_append_cons (agree : AgreeExcept name first second)
    (formedFirst : first.WellFormed) (formedSecond : second.WellFormed) {place : Nat}
    {formerly now : Candidate} (hfirst : first.candidates[place]? = some formerly)
    (hsecond : second.candidates[place]? = some now) (hformerly : formerly.name = name)
    (hnow : now.name = name) :
    ∃ before after, first.candidates = before ++ formerly :: after ∧
      second.candidates = before ++ now :: after := by
  have hsplit {candidates : List Candidate} {candidate : Candidate}
      (hplace : candidates[place]? = some candidate) :
      ∃ before after, candidates = before ++ candidate :: after ∧ before.length = place := by
    obtain ⟨hlength, rfl⟩ := List.getElem?_eq_some_iff.mp hplace
    refine ⟨candidates.take place, candidates.drop (place + 1), ?_, ?_⟩
    · rw [← List.drop_eq_getElem_cons hlength, List.take_append_drop]
    · exact List.length_take_of_le (Nat.le_of_lt hlength)
  obtain ⟨before, after, hcandidates, hlength⟩ := hsplit hfirst
  obtain ⟨front, back, hothers, hlength'⟩ := hsplit hsecond
  have nodupFirst := formedFirst.nodup_names
  have nodupSecond := formedSecond.nodup_names
  rw [hcandidates] at nodupFirst
  rw [hothers] at nodupSecond
  have hagree : before ++ after = front ++ back := by
    rw [← filter_name_ne nodupFirst, ← filter_name_ne nodupSecond, ← hcandidates, ← hothers,
      hformerly, hnow]
    exact agree
  obtain ⟨rfl, rfl⟩ := List.append_inj hagree (hlength.trans hlength'.symm)
  exact ⟨before, after, hcandidates, hothers⟩

end AgreeExcept

/-- A candidate that keeps its place and loses no points is still detected. -/
theorem AgreeExcept.detect_name_eq {name : String} {first second : Registry}
    (agree : AgreeExcept name first second) (formedFirst : first.WellFormed)
    (formedSecond : second.WellFormed) {place : Nat} {formerly now : Candidate}
    (hfirst : first.candidates[place]? = some formerly)
    (hsecond : second.candidates[place]? = some now) (hformerly : formerly.name = name)
    (hnow : now.name = name) {snippet : List Char} {options : DetectOptions}
    (hle : formerly.score (scoredLines snippet options.heuristic) ≤
      now.score (scoredLines snippet options.heuristic))
    (hdetected : (detect snippet options first).name = name) :
    (detect snippet options second).name = name := by
  obtain ⟨before, after, hcandidates, hothers⟩ :=
    agree.exists_eq_append_cons formedFirst formedSecond hfirst hsecond hformerly hnow
  have nodup : ((scoreAll snippet options.heuristic first).map Prod.fst).Nodup :=
    (map_fst_scoreAll snippet options.heuristic first).symm ▸ formedFirst.nodup_names
  have hmem : (name, formerly.score (scoredLines snippet options.heuristic)) ∈
      scoreAll snippet options.heuristic first :=
    List.mem_map.mpr ⟨formerly, List.mem_of_getElem? hfirst, by rw [hformerly]⟩
  obtain ⟨winner, hwinner, hname⟩ := exists_selectWinner_eq (List.ne_nil_of_mem hmem)
  rw [detect_name, hname] at hdetected
  obtain rfl := List.inj_on_of_nodup_map nodup hwinner.mem hmem hdetected
  rw [scoreAll_eq_map, hcandidates, List.map_append, List.map_cons, hformerly] at hwinner nodup
  have hraised := hwinner.raise nodup.of_map hle
  rw [detect_name, scoreAll_eq_map, hothers, List.map_append, List.map_cons, hnow]
  exact selectWinner_eq_of_isFirstMaximum hraised

/-- Between registries that agree on all candidates but those of one name, every other name
has the same score, and what is detected is the same unless it is that name in one
of them.  If a language of that name has the same place in both, and scores no less
in the second, as with further rules that do not count against it and at most 2 ^ 32 trials,
in which no sum wraps around, then the second detects it where the first does. -/
theorem detected_by_own_score {entries others : List Entry} {first second : Registry}
    (builtFirst : build entries = .ok first) (builtSecond : build others = .ok second)
    {name : String} (agree : AgreeExcept name first second) (snippet : List Char)
    (options : DetectOptions) :
    (∀ other, other ≠ name → first.scoreOf? other snippet options.heuristic =
      second.scoreOf? other snippet options.heuristic) ∧
    ((detect snippet options first).name = (detect snippet options second).name ∨
      (detect snippet options first).name = name ∨ (detect snippet options second).name = name) ∧
    ∀ (place : Nat) rules more, first.candidates[place]? = some (Candidate.language name rules) →
      second.candidates[place]? = some (Candidate.language name more) →
      ((Candidate.language name rules).score (scoredLines snippet options.heuristic) ≤
          (Candidate.language name more).score (scoredLines snippet options.heuristic) ∨
        ∃ added, more.Perm (rules ++ added) ∧ (∀ rule ∈ added, 0 ≤ rule.points) ∧
          (scoredLines snippet options.heuristic).length * more.length ≤ 2 ^ 32) →
      (detect snippet options first).name = name → (detect snippet options second).name = name := by
  have formedFirst := wellFormed_of_build builtFirst
  have formedSecond := wellFormed_of_build builtSecond
  refine ⟨?_, ?_, ?_⟩
  · intro other hne
    exact agree.scoreOf?_eq formedFirst formedSecond hne snippet options.heuristic
  · obtain ⟨winner, hwinner, hname⟩ := exists_selectWinner_eq
      (formedFirst.scoreAll_ne_nil snippet options.heuristic)
    obtain ⟨other, hother, hname'⟩ := exists_selectWinner_eq
      (formedSecond.scoreAll_ne_nil snippet options.heuristic)
    rw [detect_name, detect_name, hname, hname']
    by_cases hfirst : winner.1 = name
    · exact Or.inr (Or.inl hfirst)
    by_cases hsecond : other.1 = name
    · exact Or.inr (Or.inr hsecond)
    -- Both win among the scores of the other names, which are the same scores.
    have hkept := hwinner.filter (fun score => score.1 != name) (bne_iff_ne.mpr hfirst)
    have hkept' := hother.filter (fun score => score.1 != name) (bne_iff_ne.mpr hsecond)
    rw [agree.filter_scoreAll] at hkept
    exact Or.inl (congrArg Prod.fst (hkept.eq hkept'))
  · intro place rules more hfirst hsecond hmore hdetected
    have hle : (Candidate.language name rules).score (scoredLines snippet options.heuristic) ≤
        (Candidate.language name more).score (scoredLines snippet options.heuristic) := by
      rcases hmore with hle | ⟨added, hperm, hpoints, -⟩
      · exact hle
      · exact Candidate.score_le_score_of_perm_append hperm hpoints _
    exact agree.detect_name_eq formedFirst formedSecond hfirst hsecond rfl rfl hle hdetected

/-- A language between two others is detected for one rule of its own, and with a further
rule as well. -/
theorem detected_by_own_score_of_further_rule :
    ∃ first second,
      build [.language "A" [⟨"a", 1, false⟩], .language "X" [⟨"x", 1, false⟩],
        .language "B" [⟨"b", 1, false⟩]] = .ok first ∧
      build [.language "A" [⟨"a", 1, false⟩], .language "X" [⟨"x", 1, false⟩, ⟨"b", 1, false⟩],
        .language "B" [⟨"b", 1, false⟩]] = .ok second ∧
      (detect ['x', 'b'] {} first).name = "X" ∧ (detect ['x', 'b'] {} second).name = "X" ∧
      first.scoreOf? "B" ['x', 'b'] true = second.scoreOf? "B" ['x', 'b'] true := by
  refine ⟨_, _, rfl, rfl, by decide +kernel, ?_⟩
  obtain ⟨hscores, -, hgains⟩ := @detected_by_own_score
    [.language "A" [⟨"a", 1, false⟩], .language "X" [⟨"x", 1, false⟩],
      .language "B" [⟨"b", 1, false⟩]]
    [.language "A" [⟨"a", 1, false⟩], .language "X" [⟨"x", 1, false⟩, ⟨"b", 1, false⟩],
      .language "B" [⟨"b", 1, false⟩]] _ _ rfl rfl "X" rfl ['x', 'b'] {}
  refine ⟨hgains 1 _ _ rfl rfl (Or.inr ⟨_, List.Perm.refl _, ?_, by decide +kernel⟩)
    (by decide +kernel), hscores "B" (by decide)⟩
  rw [List.forall_mem_singleton]
  decide +kernel

end Registry

end Polyglot
