/-
# Registries of the same entries in another order

The order of the rules within a language never matters, since a score is a sum
over the rules.  The order of the entries is the order of the registry, and so it
decides between equal scores, but nothing else: the scores are the same, and what
is detected has the highest of them in either order.
-/

import Mathlib.Algebra.BigOperators.Group.List.Basic
import Mathlib.Data.List.Forall2
import Polyglot.Proofs.Registry.Scores

namespace Polyglot

open Lines

namespace Entry

/-- Two entries of one name whose rules differ in their order only. -/
structure SameUpToOrder (first second : Entry) : Prop where
  /-- The names are the same. -/
  name_eq : first.name = second.name
  /-- The rules are the same, in some order. -/
  rules_perm : first.rules.Perm second.rules

/-- The same entries in another order, with the rules within each of them in another
order. -/
def Reordered (entries reordered : List Entry) : Prop :=
  ∃ moved, entries.Perm moved ∧ List.Forall₂ SameUpToOrder moved reordered

theorem SameUpToOrder.refl (entry : Entry) : entry.SameUpToOrder entry :=
  ⟨rfl, List.Perm.refl _⟩

/-- The order of the rules does not matter for a score. -/
theorem SameUpToOrder.scoreIn_eq {first second : Entry} (same : first.SameUpToOrder second)
    (lines : List Line) : first.scoreIn lines = second.scoreIn lines := by
  have hsum : (first.rules.map fun spec => spec.pointsIn lines).sum =
      (second.rules.map fun spec => spec.pointsIn lines).sum :=
    (same.rules_perm.map _).sum_eq
  rw [scoreIn, scoreIn, same.name_eq, hsum]

namespace Reordered

variable {entries reordered : List Entry}

/-- What is said of an entry without regard to the order of its rules is said of the same
entries in both orders. -/
theorem map_perm {α : Type} {describe : Entry → α} (reorders : Reordered entries reordered)
    (hdescribe : ∀ first second : Entry, first.SameUpToOrder second →
      describe first = describe second) :
    (entries.map describe).Perm (reordered.map describe) := by
  obtain ⟨moved, hperm, hsame⟩ := reorders
  have hmap : moved.map describe = reordered.map describe := by
    induction hsame generalizing entries with
    | nil => rfl
    | cons first _ ih =>
        rw [List.map_cons, List.map_cons, hdescribe _ _ first, ih (List.Perm.refl _)]
  rw [← hmap]
  exact hperm.map describe

/-- Where Unknown has to be added, it is added in both orders. -/
theorem withUnknownEntry (reorders : Reordered entries reordered) :
    Reordered (Registry.withUnknownEntry entries) (Registry.withUnknownEntry reordered) := by
  have hnames : unknownName ∈ entries.map Entry.name ↔ unknownName ∈ reordered.map Entry.name :=
    (reorders.map_perm fun _ _ same => same.name_eq).mem_iff
  rw [Registry.withUnknownEntry, Registry.withUnknownEntry, if_congr hnames rfl rfl]
  split
  case isTrue _ => exact reorders
  case isFalse _ =>
    obtain ⟨moved, hperm, hsame⟩ := reorders
    have hunknown : List.Forall₂ SameUpToOrder [.unknown] [.unknown] :=
      .cons (SameUpToOrder.refl .unknown) .nil
    exact ⟨moved ++ [.unknown], hperm.append_right _, List.rel_append hsame hunknown⟩

end Reordered

end Entry

open Registry

/-- The scores of registries of the same entries are the same, in some order. -/
theorem Entry.Reordered.scoreAll_perm {entries reordered : List Entry} {first second : Registry}
    (reorders : Entry.Reordered entries reordered) (builtFirst : build entries = .ok first)
    (builtSecond : build reordered = .ok second) (snippet : List Char) (heuristic : Bool) :
    (scoreAll snippet heuristic first).Perm (scoreAll snippet heuristic second) := by
  rw [scoreAll_eq_map_entries builtFirst, scoreAll_eq_map_entries builtSecond]
  apply reorders.withUnknownEntry.map_perm
  intro entry other same
  rw [same.name_eq, same.scoreIn_eq]

/-- Two detections both report their scores or neither does, and what they report is the
same in some order if the scores are. -/
theorem rel_perm_statistics? {snippet : List Char} {options : DetectOptions}
    {first second : Registry}
    (hscores : (scoreAll snippet options.heuristic first).Perm
      (scoreAll snippet options.heuristic second)) :
    Option.Rel List.Perm (detect snippet options first).statistics?
      (detect snippet options second).statistics? := by
  rw [detect, detect]
  cases options.statistics with
  | false => exact .none
  | true => exact .some ((rank_perm _).trans (hscores.trans (rank_perm _).symm))

/-- Two registries of the same entries, in any order of the entries and of the rules within
them, give every name the same score.  The scores that they report are the same in
some order.  What they detect has the same score, the highest of all in both, so
what they detect differs only if both names have the highest score. -/
theorem order_decides_ties_only {entries reordered : List Entry} {first second : Registry}
    (reorders : Entry.Reordered entries reordered) (builtFirst : build entries = .ok first)
    (builtSecond : build reordered = .ok second) (snippet : List Char)
    (options : DetectOptions) :
    (∀ name, first.scoreOf? name snippet options.heuristic =
      second.scoreOf? name snippet options.heuristic) ∧
    Option.Rel List.Perm (detect snippet options first).statistics?
      (detect snippet options second).statistics? ∧
    ∃ highest, ∀ registry ∈ [first, second],
      (∀ score ∈ scoreAll snippet options.heuristic registry, score.2 ≤ highest) ∧
      registry.scoreOf? (detect snippet options first).name snippet options.heuristic =
        some highest ∧
      registry.scoreOf? (detect snippet options second).name snippet options.heuristic =
        some highest := by
  have formedFirst := wellFormed_of_build builtFirst
  have formedSecond := wellFormed_of_build builtSecond
  have hscores := reorders.scoreAll_perm builtFirst builtSecond snippet options.heuristic
  have hnames (name : String) : first.scoreOf? name snippet options.heuristic =
      second.scoreOf? name snippet options.heuristic :=
    formedFirst.scoreOf?_congr formedSecond fun points => hscores.mem_iff
  obtain ⟨highest, hfirst, hhighest⟩ :=
    @WellFormed.exists_scoreOf?_detect first snippet formedFirst options
  obtain ⟨other, hsecond, hother⟩ :=
    @WellFormed.exists_scoreOf?_detect second snippet formedSecond options
  -- Each of the two bounds all scores, the other one among them.
  have hsame : highest = other := by
    apply le_antisymm
    · exact hother _ (formedSecond.scoreOf?_eq_some_iff.mp (hnames _ ▸ hfirst))
    · exact hhighest _ (formedFirst.scoreOf?_eq_some_iff.mp ((hnames _).trans hsecond))
  subst hsame
  refine ⟨hnames, rel_perm_statistics? hscores, highest, ?_⟩
  rw [List.forall_mem_cons, List.forall_mem_singleton]
  exact ⟨⟨hhighest, hfirst, (hnames _).trans hsecond⟩, hother, hnames _ ▸ hfirst, hsecond⟩

/-- Two languages with three points each: the one that is registered first is detected. -/
theorem order_decides_ties_only_of_tie :
    ∃ first second,
      build [.language "A" [⟨"a", 1, false⟩, ⟨"c", 2, true⟩], .unknown,
        .language "B" [⟨"c", 3, false⟩]] = .ok first ∧
      build [.unknown, .language "B" [⟨"c", 3, false⟩],
        .language "A" [⟨"c", 2, true⟩, ⟨"a", 1, false⟩]] = .ok second ∧
      (detect ['a', 'c'] {} first).name = "A" ∧ (detect ['a', 'c'] {} second).name = "B" ∧
      ∃ highest, ∀ registry ∈ [first, second],
        registry.scoreOf? "A" ['a', 'c'] true = some highest ∧
          registry.scoreOf? "B" ['a', 'c'] true = some highest := by
  refine ⟨_, _, rfl, rfl, by decide +kernel, by decide +kernel, ?_⟩
  have hmoved : [Entry.language "A" [⟨"a", 1, false⟩, ⟨"c", 2, true⟩], .unknown,
      .language "B" [⟨"c", 3, false⟩]].Perm [.unknown, .language "B" [⟨"c", 3, false⟩],
        .language "A" [⟨"a", 1, false⟩, ⟨"c", 2, true⟩]] := by decide
  have hrules : List.Forall₂ Entry.SameUpToOrder [.unknown, .language "B" [⟨"c", 3, false⟩],
      .language "A" [⟨"a", 1, false⟩, ⟨"c", 2, true⟩]] [.unknown,
        .language "B" [⟨"c", 3, false⟩], .language "A" [⟨"c", 2, true⟩, ⟨"a", 1, false⟩]] :=
    .cons (.refl _) (.cons (.refl _) (.cons ⟨rfl, by decide⟩ .nil))
  obtain ⟨-, -, highest, hhighest⟩ :=
    order_decides_ties_only ⟨_, hmoved, hrules⟩ rfl rfl ['a', 'c'] {}
  exact ⟨highest, fun registry hmem => (hhighest registry hmem).2⟩

end Polyglot
