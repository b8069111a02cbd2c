/-
# The ranking of the candidates

The scores in descending order, equal ones in the order of the registry.  As no
name is registered twice, these two conditions leave one list only, the one that
the sort gives.  The scan for the winner, which is another algorithm, breaks ties
the same way: the winner comes before every other entry.
-/

import Mathlib.Data.List.Nodup
import Polyglot.Proofs.Detection.Winner

namespace Polyglot

/-- Which of two entries comes first: the one of the higher score, and of two with the
same score the one that is first among the scores. -/
def RanksBefore (scores : List LanguageScore) (first second : LanguageScore) : Prop :=
  second.2 < first.2 ∨ second.2 = first.2 ∧ [first, second].Sublist scores

/-- The scores in another order, in which every entry comes behind those that rank
before it. -/
structure IsRanking (scores ranking : List LanguageScore) : Prop where
  /-- No entry is lost and none is added. -/
  perm : ranking.Perm scores
  /-- The entries stand in their order. -/
  ordered : ranking.Pairwise (RanksBefore scores)

variable {α : Type}

/-- Of two members of a list one is in front of the other. -/
theorem pair_sublist_or_swap {entries : List α} {first second : α}
    (hfirst : first ∈ entries) (hsecond : second ∈ entries) (hne : first ≠ second) :
    [first, second].Sublist entries ∨ [second, first].Sublist entries := by
  induction entries with
  | nil => cases hfirst
  | cons entry entries ih =>
      rw [List.mem_cons] at hfirst hsecond
      rcases hfirst with rfl | hfirst <;> rcases hsecond with rfl | hsecond
      · exact absurd rfl hne
      · exact Or.inl ((List.singleton_sublist.mpr hsecond).cons_cons _)
      · exact Or.inr ((List.singleton_sublist.mpr hfirst).cons_cons _)
      · exact (ih hfirst hsecond).imp (List.Sublist.cons _) (List.Sublist.cons _)

/-- In a list without repetition two members do not stand in both orders. -/
theorem not_pair_sublist_swap {entries : List α} (hnodup : entries.Nodup) {first second : α}
    (hpair : [first, second].Sublist entries) : ¬ [second, first].Sublist entries := by
  induction entries with
  | nil => cases hpair
  | cons entry entries ih =>
      obtain ⟨hentry, hnodup⟩ := List.nodup_cons.mp hnodup
      intro hswap
      cases hpair with
      | cons _ hpair =>
          cases hswap with
          | cons _ hswap => exact ih hnodup hpair hswap
          | cons_cons _ hswap => exact hentry (hpair.subset (by simp))
      | cons_cons _ hpair =>
          cases hswap with
          | cons _ hswap => exact hentry (hswap.subset (by simp))
          | cons_cons _ hswap => exact hentry (hpair.subset (by simp))

section Scores

variable {scores ranking : List LanguageScore}

theorem RanksBefore.asymm (hnodup : scores.Nodup) {first second : LanguageScore}
    (hbefore : RanksBefore scores first second) : ¬ RanksBefore scores second first := by
  rintro (hlt | ⟨heq, hswap⟩) <;> rcases hbefore with hlt' | ⟨heq', hpair⟩
  · exact absurd hlt (not_lt.mpr (le_of_lt hlt'))
  · exact absurd heq' (ne_of_gt hlt)
  · exact absurd heq (ne_of_gt hlt')
  · exact not_pair_sublist_swap hnodup hpair hswap

/-- There is only one ranking. -/
theorem IsRanking.eq (hnodup : scores.Nodup) {other : List LanguageScore}
    (first : IsRanking scores ranking) (second : IsRanking scores other) : ranking = other :=
  List.Perm.eq_of_pairwise (fun _ _ _ _ hbefore hafter => absurd hafter (hbefore.asymm hnodup))
    first.ordered second.ordered (first.perm.trans second.perm.symm)

theorem rank_perm (scores : List LanguageScore) : (rank scores).Perm scores :=
  List.mergeSort_perm _ _

theorem rank_pairwise_le (scores : List LanguageScore) :
    (rank scores).Pairwise fun first second => second.2 ≤ first.2 := by
  have hsorted : (rank scores).Pairwise fun first second =>
      decide (second.2 ≤ first.2) = true :=
    List.pairwise_mergeSort (fun first second third => by simpa using ge_trans)
      (fun first second => by simpa using Int.le_total second.2 first.2) scores
  exact hsorted.imp of_decide_eq_true

/-- Entries that need not change places keep them. -/
theorem pair_sublist_rank {first second : LanguageScore} (hle : second.2 ≤ first.2)
    (hpair : [first, second].Sublist scores) : [first, second].Sublist (rank scores) :=
  List.pair_sublist_mergeSort (fun first second third => by simpa using ge_trans)
    (fun first second => by simpa using Int.le_total second.2 first.2) (decide_eq_true hle) hpair

theorem isRanking_rank (hnodup : scores.Nodup) : IsRanking scores (rank scores) where
  perm := rank_perm scores
  ordered := by
    have hranked : (rank scores).Nodup := (rank_perm scores).nodup_iff.mpr hnodup
    apply List.pairwise_of_forall_sublist
    intro first second hpair
    rcases lt_or_eq_of_le ((rank_pairwise_le scores).forall_sublist hpair) with hlt | heq
    · exact Or.inl hlt
    · have hmem : ∀ entry ∈ [first, second], entry ∈ scores := fun entry hentry =>
        (rank_perm scores).mem_iff.mp (hpair.subset hentry)
      have hne : first ≠ second := by simpa using hranked.sublist hpair
      -- The sort is stable, so it would have kept the opposite order as well.
      rcases pair_sublist_or_swap (hmem first (by simp)) (hmem second (by simp)) hne with
        hkept | hswap
      · exact Or.inr ⟨heq, hkept⟩
      · exact absurd (pair_sublist_rank (ge_of_eq heq) hswap) (not_pair_sublist_swap hranked hpair)

/-- The first maximum ranks before every other entry. -/
theorem IsFirstMaximum.ranksBefore {winner other : LanguageScore}
    (first : IsFirstMaximum scores winner) (hmem : other ∈ scores) (hne : other ≠ winner) :
    RanksBefore scores winner other := by
  obtain ⟨before, after, rfl, hbefore, hafter⟩ := first
  rw [List.mem_append, List.mem_cons] at hmem
  rcases hmem with hmem | rfl | hmem
  · exact Or.inl (hbefore other hmem)
  · exact absurd rfl hne
  · refine (lt_or_eq_of_le (hafter other hmem)).imp id fun heq => ⟨heq, ?_⟩
    exact List.sublist_append_of_sublist_right ((List.singleton_sublist.mpr hmem).cons_cons _)

/-- A ranking begins with the first maximum. -/
theorem IsRanking.head?_eq (hnodup : scores.Nodup) (ranks : IsRanking scores ranking)
    {winner : LanguageScore} (first : IsFirstMaximum scores winner) :
    ranking.head? = some winner := by
  have hmem : winner ∈ ranking := ranks.perm.mem_iff.mpr first.mem
  cases ranking with
  | nil => cases hmem
  | cons head rest =>
      rw [List.head?_cons, Option.some_inj]
      by_contra hne
      have hrest : winner ∈ rest := (List.mem_cons.mp hmem).resolve_left (Ne.symm hne)
      have hhead : head ∈ scores := ranks.perm.mem_iff.mp List.mem_cons_self
      exact (first.ranksBefore hhead hne).asymm hnodup
        ((List.pairwise_cons.mp ranks.ordered).1 winner hrest)

end Scores

/-- The scores of a registry that was built have different names. -/
theorem scoreAll_nodup {entries : List Entry} {registry : Registry}
    (built : Registry.build entries = .ok registry) (snippet : List Char) (heuristic : Bool) :
    (scoreAll snippet heuristic registry).Nodup := by
  refine List.Nodup.of_map Prod.fst ?_
  rw [scoreAll_eq_map, List.map_map]
  exact (Registry.wellFormed_of_build built).nodup_names

end Polyglot
