/-
# Rules grouped by language

The entries of a rule file are grouped one after the other.  After any of them
the languages of the groups differ from each other, and the rules of a group are
those of the entries that were kept for its language, in their order.  The step
that keeps this is `Groups.insertRule`; the run is `groups_group`.
-/

import Mathlib.Algebra.GroupWithZero.Nat
import Mathlib.Data.List.Induction
import Mathlib.Data.List.Nodup
import Polyglot.RuleFile

namespace Polyglot

namespace RuleEntry

/-- An entry is kept if it has a pattern under one of the two keys. -/
def isKept (entry : RuleEntry) : Bool := entry.pattern.isSome || entry.regex.isSome

theorem isSome_rule? (entry : RuleEntry) : entry.rule?.isSome = entry.isKept := by
  rw [rule?, Option.isSome_map, isKept, Option.isSome_or]

end RuleEntry

namespace RuleFile

/-- The rules that entries give, each with its language.  Entries that are not kept give
none. -/
def keptRules (entries : List RuleEntry) : List (String × RuleSpec) :=
  entries.filterMap fun entry => entry.rule?.map fun rule => (entry.language, rule)

theorem mem_keptRules {entries : List RuleEntry} {language : String} {rule : RuleSpec} :
    (language, rule) ∈ keptRules entries ↔
      ∃ entry ∈ entries, entry.language = language ∧ entry.rule? = some rule := by
  simp only [keptRules, List.mem_filterMap, Option.map_eq_some_iff, Prod.mk.injEq]
  constructor
  · rintro ⟨entry, hmem, rule, hrule, hlanguage, rfl⟩
    exact ⟨entry, hmem, hlanguage, hrule⟩
  · rintro ⟨entry, hmem, hlanguage, hrule⟩
    exact ⟨entry, hmem, rule, hrule, hlanguage, rfl⟩

theorem length_keptRules (entries : List RuleEntry) :
    (keptRules entries).length = entries.countP RuleEntry.isKept := by
  rw [keptRules, List.length_filterMap_eq_countP]
  apply List.countP_congr
  intro entry _
  rw [Option.isSome_map, entry.isSome_rule?]

/-! ## Adding one rule -/

/-- A group with one more rule, if it is that of the rule's language. -/
def addRule (language : String) (rule : RuleSpec) (group : LanguageRules) : LanguageRules :=
  if group.language = language then { group with rules := group.rules ++ [rule] } else group

@[simp]
theorem language_addRule (language : String) (rule : RuleSpec) (group : LanguageRules) :
    (addRule language rule group).language = group.language := by
  rw [addRule]
  split <;> rfl

theorem addRule_of_eq {language : String} (rule : RuleSpec) {group : LanguageRules}
    (heq : group.language = language) :
    addRule language rule group = ⟨group.language, group.rules ++ [rule]⟩ :=
  if_pos heq

theorem addRule_of_ne {language : String} (rule : RuleSpec) {group : LanguageRules}
    (hne : group.language ≠ language) : addRule language rule group = group :=
  if_neg hne

/-- The rule of a language that has no group yet makes one at the end. -/
theorem insertRule_of_notMem {language : String} (rule : RuleSpec) {groups : List LanguageRules}
    (hnew : language ∉ groups.map LanguageRules.language) :
    insertRule language rule groups = groups ++ [⟨language, [rule]⟩] := by
  induction groups with
  | nil => rfl
  | cons group rest ih =>
      rw [List.map_cons, List.mem_cons, not_or] at hnew
      rw [insertRule, if_neg (Ne.symm hnew.1), ih hnew.2, List.cons_append]

/-- The rule of a language that has a group is added to it. -/
theorem insertRule_of_mem {language : String} (rule : RuleSpec) {groups : List LanguageRules}
    (nodup : (groups.map LanguageRules.language).Nodup)
    (hmem : language ∈ groups.map LanguageRules.language) :
    insertRule language rule groups = groups.map (addRule language rule) := by
  induction groups with
  | nil => contradiction
  | cons group rest ih =>
      rw [List.map_cons, List.nodup_cons] at nodup
      rw [insertRule]
      split
      case isTrue hfirst =>
          have hothers : ∀ other ∈ rest, addRule language rule other = other := by
            intro other hother
            apply addRule_of_ne
            rintro rfl
            exact nodup.1 (hfirst ▸ List.mem_map_of_mem hother)
          rw [List.map_cons, addRule_of_eq rule hfirst, List.map_congr_left hothers, List.map_id']
      case isFalse hfirst =>
          have hrest : language ∈ rest.map LanguageRules.language :=
            (List.mem_cons.mp hmem).resolve_left (Ne.symm hfirst)
          rw [ih nodup.2 hrest, List.map_cons, addRule_of_ne rule hfirst]

theorem sum_length_insertRule (language : String) (rule : RuleSpec)
    (groups : List LanguageRules) :
    ((insertRule language rule groups).map fun group => group.rules.length).sum =
      (groups.map fun group => group.rules.length).sum + 1 := by
  induction groups with
  | nil => rfl
  | cons group rest ih =>
      rw [insertRule]
      split
      · simp only [List.map_cons, List.sum_cons, List.length_append, List.length_singleton]
        omega
      · simp only [List.map_cons, List.sum_cons, ih]
        omega

/-! ## The invariant of grouping -/

/-- Groups of rules that were kept, each with its language. -/
structure Groups (kept : List (String × RuleSpec)) (groups : List LanguageRules) : Prop where
  /-- No two groups are of the same language. -/
  nodup : (groups.map LanguageRules.language).Nodup
  /-- No group is empty. -/
  ne_nil : ∀ group ∈ groups, group.rules ≠ []
  /-- The rules of a group are those that were kept for its language, in their order. -/
  rules_eq : ∀ group ∈ groups,
    group.rules = (kept.filter fun rule => rule.1 = group.language).map Prod.snd
  /-- Every language that a rule was kept for has a group. -/
  exists_group : ∀ rule ∈ kept, rule.1 ∈ groups.map LanguageRules.language

namespace Groups

variable {kept : List (String × RuleSpec)} {groups : List LanguageRules}

/-- What was kept for a language after one more rule. -/
theorem map_snd_filter_concat (language other : String) (rule : RuleSpec) :
    ((kept ++ [(language, rule)]).filter fun rule => rule.1 = other).map Prod.snd =
      (kept.filter fun rule => rule.1 = other).map Prod.snd ++
        if language = other then [rule] else [] := by
  rw [List.filter_append, List.map_append, List.filter_singleton]
  by_cases heq : language = other <;> simp [heq]

/-- A rule of a language that has a group. -/
theorem map_addRule (grouped : Groups kept groups) {language : String} (rule : RuleSpec)
    (hmem : language ∈ groups.map LanguageRules.language) :
    Groups (kept ++ [(language, rule)]) (groups.map (addRule language rule)) := by
  have hlanguages : (groups.map (addRule language rule)).map LanguageRules.language =
      groups.map LanguageRules.language := by
    rw [List.map_map]
    exact List.map_congr_left fun group _ => language_addRule language rule group
  refine ⟨hlanguages ▸ grouped.nodup, ?_, ?_, ?_⟩
  · rw [List.forall_mem_map]
    intro group hgroup
    rw [addRule]
    split
    · simp
    · exact grouped.ne_nil group hgroup
  · rw [List.forall_mem_map]
    intro group hgroup
    rw [language_addRule, map_snd_filter_concat, ← grouped.rules_eq group hgroup]
    by_cases heq : group.language = language
    · rw [addRule_of_eq rule heq, if_pos heq.symm]
    · rw [addRule_of_ne rule heq, if_neg (Ne.symm heq), List.append_nil]
  · rw [hlanguages, List.forall_mem_append, List.forall_mem_singleton]
    exact ⟨grouped.exists_group, hmem⟩

/-- A rule of a language that has no group. -/
theorem append_singleton (grouped : Groups kept groups) {language : String} (rule : RuleSpec)
    (hnew : language ∉ groups.map LanguageRules.language) :
    Groups (kept ++ [(language, rule)]) (groups ++ [⟨language, [rule]⟩]) := by
  have hnone : (kept.filter fun rule => rule.1 = language) = [] := by
    rw [List.filter_eq_nil_iff]
    intro other hother
    have hne : other.1 ≠ language := fun heq => hnew (heq ▸ grouped.exists_group other hother)
    simpa using hne
  refine ⟨?_, ?_, ?_, ?_⟩
  · rw [List.map_append, List.map_singleton, List.nodup_append]
    refine ⟨grouped.nodup, List.nodup_singleton _, ?_⟩
    rintro other hother _ hlast rfl
    obtain rfl : other = language := List.mem_singleton.mp hlast
    exact hnew hother
  · rw [List.forall_mem_append, List.forall_mem_singleton]
    exact ⟨grouped.ne_nil, List.cons_ne_nil _ _⟩
  · rw [List.forall_mem_append, List.forall_mem_singleton]
    refine ⟨fun group hgroup => ?_, ?_⟩
    · have hne : language ≠ group.language := fun heq =>
        hnew (heq ▸ List.mem_map_of_mem hgroup)
      rw [map_snd_filter_concat, if_neg hne, List.append_nil, grouped.rules_eq group hgroup]
    · rw [map_snd_filter_concat, if_pos rfl, hnone, List.map_nil, List.nil_append]
  · rw [List.map_append, List.forall_mem_append, List.forall_mem_singleton]
    refine ⟨fun other hother => ?_, by simp⟩
    exact List.mem_append_left _ (grouped.exists_group other hother)

/-- The step: one more rule is grouped. -/
theorem insertRule (grouped : Groups kept groups) (language : String) (rule : RuleSpec) :
    Groups (kept ++ [(language, rule)]) (insertRule language rule groups) := by
  by_cases hmem : language ∈ groups.map LanguageRules.language
  · rw [insertRule_of_mem rule grouped.nodup hmem]
    exact grouped.map_addRule rule hmem
  · rw [insertRule_of_notMem rule hmem]
    exact grouped.append_singleton rule hmem

/-- A rule is in the group of its language. -/
theorem exists_mem_rules_iff (grouped : Groups kept groups) {language : String}
    {rule : RuleSpec} : (∃ group ∈ groups, group.language = language ∧ rule ∈ group.rules) ↔
      (language, rule) ∈ kept := by
  constructor
  · rintro ⟨group, hgroup, rfl, hrule⟩
    rw [grouped.rules_eq group hgroup] at hrule
    obtain ⟨⟨other, rule⟩, hkept, rfl⟩ := List.mem_map.mp hrule
    obtain ⟨hkept, hother⟩ := List.mem_filter.mp hkept
    obtain rfl : other = group.language := of_decide_eq_true hother
    exact hkept
  · intro hkept
    obtain ⟨group, hgroup, hlanguage⟩ := List.mem_map.mp (grouped.exists_group _ hkept)
    refine ⟨group, hgroup, hlanguage, ?_⟩
    rw [grouped.rules_eq group hgroup]
    exact List.mem_map.mpr ⟨_, List.mem_filter.mpr ⟨hkept, decide_eq_true hlanguage.symm⟩, rfl⟩

end Groups

/-! ## Grouping a whole file -/

theorem group_concat (entries : List RuleEntry) (entry : RuleEntry) :
    group (entries ++ [entry]) = insertEntry (group entries) entry := by
  rw [group, List.foldl_append]
  rfl

/-- The groups of entries are those of the rules that were kept. -/
theorem groups_group (entries : List RuleEntry) : Groups (keptRules entries) (group entries) := by
  -- The last entry is split off, as the ones in front of it are grouped before it.
  induction entries using List.reverseRecOn with
  | nil => exact ⟨List.nodup_nil, by simp [group], by simp [group], by simp [keptRules]⟩
  | append_singleton entries entry ih =>
      rw [group_concat, insertEntry, keptRules, List.filterMap_append, ← keptRules]
      cases hrule : entry.rule? with
      | none => simpa [hrule] using ih
      | some rule => simpa [hrule] using ih.insertRule entry.language rule

/-- No rule is lost and none is added. -/
theorem sum_length_group (entries : List RuleEntry) :
    ((group entries).map fun group => group.rules.length).sum =
      entries.countP RuleEntry.isKept := by
  rw [← length_keptRules]
  induction entries using List.reverseRecOn with
  | nil => rfl
  | append_singleton entries entry ih =>
      rw [group_concat, insertEntry, keptRules, List.filterMap_append, List.length_append,
        ← keptRules, ← ih]
      cases hrule : entry.rule? with
      | none => simp [hrule]
      | some rule => simp [hrule, sum_length_insertRule]

end RuleFile

end Polyglot
