/-
# Groups in the order of first appearance

How the rules of a file are grouped is determined by what the groups hold and how they
stand: the languages are in the order of the first entry that is kept for each, and a
group has the rules of all entries that are kept for its language, in their order.
`IsGrouping` says so without a look at how groups are made, and `IsGrouping.eq` that only
one list of groups is described.

Groups that are listed as entries again are described by their own listing, so nothing
of a file that matters is lost by grouping it.
-/

import Mathlib.Data.List.Forall2
import Polyglot.Proofs.RuleFile.Grouping

namespace Polyglot

namespace RuleEntry

/-- Whether an entry is kept and for a language. -/
def isFor (language : String) (entry : RuleEntry) : Bool :=
  entry.isKept && entry.language == language

/-- `Gives entry rule` says that a rule is the one that an entry writes. -/
structure Gives (entry : RuleEntry) (rule : RuleSpec) : Prop where
  /-- The points are the same. -/
  points_eq : rule.points = entry.points
  /-- So is whether the rule counts near the top only. -/
  nearTop_eq : rule.nearTop = entry.nearTop
  /-- The pattern stands under the usual key, or under the other one if that is missing. -/
  pattern_eq : entry.pattern = some rule.pattern ∨
    (entry.pattern = none ∧ entry.regex = some rule.pattern)

theorem gives_iff {entry : RuleEntry} {rule : RuleSpec} :
    entry.Gives rule ↔ entry.rule? = some rule := by
  obtain ⟨language, pattern, regex, points, nearTop⟩ := entry
  obtain ⟨text, worth, top⟩ := rule
  constructor
  · rintro ⟨rfl, rfl, hpattern⟩
    obtain rfl | ⟨rfl, rfl⟩ := hpattern <;> rfl
  · intro hrule
    obtain ⟨found, hfound, hsame⟩ := Option.map_eq_some_iff.mp hrule
    obtain ⟨rfl, rfl, rfl⟩ := RuleSpec.mk.inj hsame
    exact ⟨rfl, rfl, Option.or_eq_some_iff.mp hfound⟩

/-- The entry that writes a rule. -/
def ofRule (language : String) (rule : RuleSpec) : RuleEntry :=
  ⟨language, some rule.pattern, none, rule.points, rule.nearTop⟩

theorem gives_ofRule (language : String) (rule : RuleSpec) :
    (ofRule language rule).Gives rule :=
  ⟨rfl, rfl, Or.inl rfl⟩

theorem isFor_ofRule (language other : String) (rule : RuleSpec) :
    (ofRule other rule).isFor language = (other == language) := rfl

end RuleEntry

namespace RuleFile

open RuleEntry

/-- What holds of the groups of some entries. -/
structure IsGrouping (entries : List RuleEntry) (groups : List LanguageRules) : Prop where
  /-- No two groups are of the same language. -/
  nodup : (groups.map LanguageRules.language).Nodup
  /-- The languages are in the order of the first entry that is kept for each. -/
  inOrder : (groups.map LanguageRules.language).Pairwise fun first second =>
    entries.findIdx (isFor first) < entries.findIdx (isFor second)
  /-- Every entry that is kept has a group. -/
  exists_group : ∀ entry ∈ entries, entry.isKept = true →
    entry.language ∈ groups.map LanguageRules.language
  /-- No group is empty. -/
  ne_nil : ∀ group ∈ groups, group.rules ≠ []
  /-- The rules of a group are those of the entries that are kept for its language, in
  their order. -/
  gives : ∀ group ∈ groups,
    List.Forall₂ Gives (entries.filter (isFor group.language)) group.rules

variable {entries : List RuleEntry} {groups others : List LanguageRules}

/-! ## There is only one grouping -/

theorem eq_filterMap_of_gives {rules : List RuleSpec} (gives : List.Forall₂ Gives entries rules) :
    rules = entries.filterMap RuleEntry.rule? := by
  induction gives with
  | nil => rfl
  | cons first _ ih => rw [List.filterMap_cons_some (gives_iff.mp first), ← ih]

theorem forall₂_gives_filterMap (hkept : ∀ entry ∈ entries, entry.isKept = true) :
    List.Forall₂ Gives entries (entries.filterMap RuleEntry.rule?) := by
  induction entries with
  | nil => exact .nil
  | cons entry rest ih =>
      rw [List.forall_mem_cons] at hkept
      obtain ⟨rule, hrule⟩ := Option.isSome_iff_exists.mp (entry.isSome_rule?.trans hkept.1)
      rw [List.filterMap_cons_some hrule]
      exact .cons (gives_iff.mpr hrule) (ih hkept.2)

namespace IsGrouping

/-- The languages are those that an entry is kept for. -/
theorem mem_map_language_iff (grouping : IsGrouping entries groups) {language : String} :
    language ∈ groups.map LanguageRules.language ↔
      ∃ entry ∈ entries, entry.isFor language = true := by
  constructor
  · intro hmem
    obtain ⟨group, hgroup, rfl⟩ := List.mem_map.mp hmem
    have hne : entries.filter (isFor group.language) ≠ [] := by
      intro hnone
      have gives := grouping.gives group hgroup
      rw [hnone] at gives
      exact grouping.ne_nil group hgroup (List.forall₂_nil_left_iff.mp gives)
    obtain ⟨entry, hentry⟩ := List.exists_mem_of_ne_nil _ hne
    exact ⟨entry, List.mem_filter.mp hentry⟩
  · rintro ⟨entry, hentry, hfor⟩
    obtain ⟨hkept, hlanguage⟩ := Bool.and_eq_true_iff.mp hfor
    exact beq_iff_eq.mp hlanguage ▸ grouping.exists_group entry hentry hkept

/-- A group is determined by its language. -/
theorem eq_map_language (grouping : IsGrouping entries groups) :
    groups = (groups.map LanguageRules.language).map fun language =>
      ⟨language, (entries.filter (isFor language)).filterMap RuleEntry.rule?⟩ := by
  rw [List.map_map]
  conv_lhs => rw [← List.map_id groups]
  apply List.map_congr_left
  intro group hgroup
  rw [Function.comp_apply, ← eq_filterMap_of_gives (grouping.gives group hgroup)]
  rfl

/-- Two groupings of the same entries are the same. -/
theorem eq (grouping : IsGrouping entries groups) (other : IsGrouping entries others) :
    groups = others := by
  have hperm : (groups.map LanguageRules.language).Perm (others.map LanguageRules.language) := by
    rw [List.perm_ext_iff_of_nodup grouping.nodup other.nodup]
    intro language
    rw [grouping.mem_map_language_iff, other.mem_map_language_iff]
  have hlanguages : groups.map LanguageRules.language = others.map LanguageRules.language := by
    apply hperm.eq_of_pairwise _ grouping.inOrder other.inOrder
    intro first second _ _ hlt hgt
    exact absurd hlt (Nat.lt_asymm hgt)
  rw [grouping.eq_map_language, other.eq_map_language, hlanguages]

end IsGrouping

/-! ## Grouping gives it -/

theorem exists_isFor_iff {language : String} :
    (∃ entry ∈ entries, entry.isFor language = true) ↔
      ∃ rule, (language, rule) ∈ keptRules entries := by
  simp only [mem_keptRules, isFor, Bool.and_eq_true, beq_iff_eq, ← isSome_rule?,
    Option.isSome_iff_exists]
  constructor
  · rintro ⟨entry, hmem, ⟨rule, hrule⟩, hlanguage⟩
    exact ⟨rule, entry, hmem, hlanguage, hrule⟩
  · rintro ⟨rule, entry, hmem, hlanguage, hrule⟩
    exact ⟨entry, hmem, ⟨rule, hrule⟩, hlanguage⟩

/-- The rules that were kept for a language are those of its entries. -/
theorem map_snd_filter_keptRules (entries : List RuleEntry) (language : String) :
    ((keptRules entries).filter fun rule => rule.1 = language).map Prod.snd =
      (entries.filter (isFor language)).filterMap RuleEntry.rule? := by
  rw [keptRules, List.filter_filterMap, List.map_filterMap, List.filterMap_filter]
  apply List.filterMap_congr
  intro entry _
  rw [isFor, ← isSome_rule?]
  cases entry.rule? with
  | none => rfl
  | some rule => by_cases hlanguage : entry.language = language <;> simp [hlanguage]

/-- A language has a group exactly if it appears in the file. -/
theorem mem_map_language_group_iff {language : String} :
    language ∈ (group entries).map LanguageRules.language ↔
      entries.findIdx (isFor language) < entries.length := by
  have grouped := groups_group entries
  rw [List.findIdx_lt_length, exists_isFor_iff]
  constructor
  · intro hmem
    obtain ⟨made, hmade, rfl⟩ := List.mem_map.mp hmem
    obtain ⟨rule, hrule⟩ := List.exists_mem_of_ne_nil _ (grouped.ne_nil made hmade)
    exact ⟨rule, grouped.exists_mem_rules_iff.mp ⟨made, hmade, rfl, hrule⟩⟩
  · rintro ⟨rule, hkept⟩
    exact grouped.exists_group _ hkept

/-- A rule leaves the languages as they are, or adds its own at the end. -/
theorem map_language_insertRule {language : String} (rule : RuleSpec)
    (nodup : (groups.map LanguageRules.language).Nodup) :
    (insertRule language rule groups).map LanguageRules.language =
      if language ∈ groups.map LanguageRules.language then groups.map LanguageRules.language
      else groups.map LanguageRules.language ++ [language] := by
  split
  case isTrue hmem =>
      rw [insertRule_of_mem rule nodup hmem, List.map_map]
      exact List.map_congr_left fun group _ => language_addRule language rule group
  case isFalse hnew =>
      rw [insertRule_of_notMem rule hnew, List.map_append, List.map_singleton]

/-- The languages of the groups come in the order in which they appear. -/
theorem pairwise_findIdx_group (entries : List RuleEntry) :
    ((group entries).map LanguageRules.language).Pairwise fun first second =>
      entries.findIdx (isFor first) < entries.findIdx (isFor second) := by
  -- The last entry is split off: it moves no language that has appeared, and one that has not
  -- appears behind all others.
  induction entries using List.reverseRecOn with
  | nil => exact .nil
  | append_singleton entries entry ih =>
      have hstays {language : String}
          (hmem : language ∈ (group entries).map LanguageRules.language) :
          (entries ++ [entry]).findIdx (isFor language) = entries.findIdx (isFor language) := by
        rw [List.findIdx_append, if_pos (mem_map_language_group_iff.mp hmem)]
      have hbefore : ((group entries).map LanguageRules.language).Pairwise fun first second =>
          (entries ++ [entry]).findIdx (isFor first) <
            (entries ++ [entry]).findIdx (isFor second) := by
        apply ih.imp_of_mem
        intro first second hfirst hsecond hlt
        rwa [hstays hfirst, hstays hsecond]
      rw [group_concat, insertEntry]
      cases entry.rule? with
      | none => exact hbefore
      | some rule =>
          simp only [map_language_insertRule rule (groups_group entries).nodup]
          split
          case isTrue => exact hbefore
          case isFalse hnew =>
              rw [mem_map_language_group_iff] at hnew
              rw [List.pairwise_append]
              refine ⟨hbefore, List.pairwise_singleton _ _, fun first hfirst second hsecond => ?_⟩
              rw [List.mem_singleton.mp hsecond, hstays hfirst, List.findIdx_append, if_neg hnew]
              have hlt := mem_map_language_group_iff.mp hfirst
              omega

theorem isGrouping_group (entries : List RuleEntry) : IsGrouping entries (group entries) := by
  have grouped := groups_group entries
  refine ⟨grouped.nodup, pairwise_findIdx_group entries, ?_, grouped.ne_nil, ?_⟩
  · intro entry hmem hkept
    rw [mem_map_language_group_iff, List.findIdx_lt_length]
    exact ⟨entry, hmem, by simp [isFor, hkept]⟩
  · intro made hmade
    rw [grouped.rules_eq made hmade, map_snd_filter_keptRules]
    apply forall₂_gives_filterMap
    intro entry hmem
    exact (Bool.and_eq_true_iff.mp (List.mem_filter.mp hmem).2).1

/-! ## Groups listed as entries -/

/-- The rules of groups as entries of a file, one group after the other. -/
def listing (groups : List LanguageRules) : List RuleEntry :=
  groups.flatMap fun group => group.rules.map (ofRule group.language)

theorem listing_cons (group : LanguageRules) (groups : List LanguageRules) :
    listing (group :: groups) = group.rules.map (ofRule group.language) ++ listing groups := rfl

theorem filter_map_ofRule (language other : String) (rules : List RuleSpec) :
    (rules.map (ofRule other)).filter (isFor language) =
      if other = language then rules.map (ofRule other) else [] := by
  split
  case isTrue heq =>
      rw [List.filter_eq_self, List.forall_mem_map]
      intro rule _
      rw [isFor_ofRule, beq_iff_eq, heq]
  case isFalse hne =>
      rw [List.filter_eq_nil_iff, List.forall_mem_map]
      intro rule _
      rwa [isFor_ofRule, beq_iff_eq]

theorem filter_listing_of_notMem {language : String}
    (hnew : language ∉ groups.map LanguageRules.language) :
    (listing groups).filter (isFor language) = [] := by
  rw [listing, List.filter_flatMap, List.flatMap_eq_nil_iff]
  intro other hother
  rw [filter_map_ofRule, if_neg]
  rintro rfl
  exact hnew (List.mem_map_of_mem hother)

/-- In a listing the entries for the language of a group are those of this group. -/
theorem filter_listing (nodup : (groups.map LanguageRules.language).Nodup)
    {group : LanguageRules} (hgroup : group ∈ groups) :
    (listing groups).filter (isFor group.language) =
      group.rules.map (ofRule group.language) := by
  induction groups with
  | nil => contradiction
  | cons head rest ih =>
      rw [List.map_cons, List.nodup_cons] at nodup
      rw [listing_cons, List.filter_append, filter_map_ofRule]
      obtain rfl | hrest := List.mem_cons.mp hgroup
      · rw [if_pos rfl, filter_listing_of_notMem nodup.1, List.append_nil]
      · have hne : head.language ≠ group.language := fun heq =>
          nodup.1 (heq ▸ List.mem_map_of_mem hrest)
        rw [if_neg hne, List.nil_append, ih nodup.2 hrest]

/-- The language of the first group appears at once. -/
theorem findIdx_listing_self {group : LanguageRules} (hrules : group.rules ≠ [])
    (groups : List LanguageRules) :
    (listing (group :: groups)).findIdx (isFor group.language) = 0 := by
  obtain ⟨rule, others, hsplit⟩ := List.exists_cons_of_ne_nil hrules
  rw [listing_cons, hsplit, List.map_cons, List.cons_append, List.findIdx_cons, isFor_ofRule,
    beq_self_eq_true, cond_true]

/-- Other languages appear behind the rules of the first group. -/
theorem findIdx_listing_of_ne {group : LanguageRules} {language : String}
    (hne : group.language ≠ language) (groups : List LanguageRules) :
    (listing (group :: groups)).findIdx (isFor language) =
      (listing groups).findIdx (isFor language) + group.rules.length := by
  have hnone : (group.rules.map (ofRule group.language)).findIdx (isFor language) =
      (group.rules.map (ofRule group.language)).length := by
    rw [List.findIdx_eq_length, List.forall_mem_map]
    intro rule _
    rwa [isFor_ofRule, beq_eq_false_iff_ne]
  rw [listing_cons, List.findIdx_append, hnone, if_neg (Nat.lt_irrefl _), List.length_map]

/-- In a listing the languages appear in the order of the groups. -/
theorem pairwise_findIdx_listing (nodup : (groups.map LanguageRules.language).Nodup)
    (hrules : ∀ group ∈ groups, group.rules ≠ []) :
    (groups.map LanguageRules.language).Pairwise fun first second =>
      (listing groups).findIdx (isFor first) < (listing groups).findIdx (isFor second) := by
  induction groups with
  | nil => exact .nil
  | cons head rest ih =>
      rw [List.map_cons, List.nodup_cons] at nodup
      rw [List.forall_mem_cons] at hrules
      have hne {language : String} (hmem : language ∈ rest.map LanguageRules.language) :
          head.language ≠ language := fun heq => nodup.1 (heq ▸ hmem)
      rw [List.map_cons, List.pairwise_cons]
      refine ⟨fun language hmem => ?_, ?_⟩
      · rw [findIdx_listing_self hrules.1, findIdx_listing_of_ne (hne hmem)]
        exact Nat.add_pos_right _ (List.length_pos_iff.mpr hrules.1)
      · apply (ih nodup.2 hrules.2).imp_of_mem
        intro first second hfirst hsecond hlt
        rw [findIdx_listing_of_ne (hne hfirst), findIdx_listing_of_ne (hne hsecond)]
        exact Nat.add_lt_add_right hlt _

/-- Groups of different languages, none of them empty, are the grouping of their listing. -/
theorem isGrouping_listing (nodup : (groups.map LanguageRules.language).Nodup)
    (hrules : ∀ group ∈ groups, group.rules ≠ []) : IsGrouping (listing groups) groups := by
  refine ⟨nodup, pairwise_findIdx_listing nodup hrules, ?_, hrules, ?_⟩
  · intro entry hmem _
    obtain ⟨group, hgroup, hentry⟩ := List.mem_flatMap.mp hmem
    obtain ⟨rule, -, rfl⟩ := List.mem_map.mp hentry
    exact List.mem_map_of_mem hgroup
  · intro group hgroup
    rw [filter_listing nodup hgroup, List.forall₂_map_left_iff, List.forall₂_same]
    intro rule _
    exact gives_ofRule group.language rule

/-- The groups of some entries, and so of a rule file, are the only ones of different languages
that stand in the order of the first entry that is kept for each, of which none is
empty, and which have the rules of all entries that are kept for their language, in
the order of the file.  Groups that are listed as entries again are grouped as they
were. -/
theorem group_eq_iff_isGrouping :
    (∀ entries groups, group entries = groups ↔ IsGrouping entries groups) ∧
    (∀ text groups, ofText? text = some groups ↔
      ∃ entries, entries? text = some entries ∧ IsGrouping entries groups) ∧
    ∀ entries, group (listing (group entries)) = group entries := by
  have hgroup (entries : List RuleEntry) (groups : List LanguageRules) :
      group entries = groups ↔ IsGrouping entries groups := by
    constructor
    · rintro rfl
      exact isGrouping_group entries
    · exact (isGrouping_group entries).eq
  refine ⟨hgroup, fun text groups => ?_, fun entries => ?_⟩
  · rw [ofText?, Option.map_eq_some_iff]
    simp only [hgroup]
  · have grouping := isGrouping_group entries
    rw [hgroup]
    exact isGrouping_listing grouping.nodup grouping.ne_nil

end RuleFile

end Polyglot
