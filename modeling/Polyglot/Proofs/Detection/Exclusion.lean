/-
# How far constructs of C++ exclude C

A rule of C takes fifty points for a line with a construct of C++ alone, so that C is
not detected.  Fifty points are no more than that, and other lines can outweigh them.
How many lines this takes is a question about the two tables.  All that speaks for C and
not for C++ comes to eight points a line, so C is not detected where more than eight
fiftieths of the lines are excluded.  There are lines that come to these eight points and
tell C++ nothing, so C is detected for some snippet of every other proportion.
-/

import Polyglot.Proofs.Detection.Visible
import Polyglot.Proofs.Lines.Written
import Polyglot.Proofs.Pattern.Refinement
import Polyglot.Proofs.Registry.Bounds

namespace Polyglot

open Lines

namespace Builtin

/-! ## What C and C++ have in common -/

/-- The rule of C against lines with constructs of C++ alone. -/
def exclusion : RuleSpec :=
  ⟨r"(std::|using\s+namespace|template\s*<|\bcout\b|\bcin\b)", -50, false⟩

/-- The rule of C for headers, which end in `.h`. -/
def cHeader : RuleSpec := ⟨"#include\\s*(<|\")\\w+\\.h(>|\")", 2, true⟩

/-- The rule of C++ for headers, which may end in `.h`. -/
def cPlusPlusHeader : RuleSpec := ⟨"#include\\s*(<|\")\\w+(\\.h)?(>|\")", 2, true⟩

/-- The rules that C and C++ have in common. -/
def shared : List RuleSpec := c.filter fun spec => decide (spec ∈ cPlusPlus)

/-- The rules of C alone, but for the one for headers and the exclusion. -/
def cOnly : List RuleSpec :=
  ((c.filter fun spec => decide (spec ∉ cPlusPlus)).erase cHeader).erase exclusion

/-- The rules of C++ alone, but for the one for headers. -/
def cPlusPlusOnly : List RuleSpec :=
  (cPlusPlus.filter fun spec => decide (spec ∉ c)).erase cPlusPlusHeader

theorem c_perm : c.Perm (cHeader :: exclusion :: (shared ++ cOnly)) := by decide +kernel

theorem cPlusPlus_perm : cPlusPlus.Perm (cPlusPlusHeader :: (shared ++ cPlusPlusOnly)) := by
  decide +kernel

/-- All that speaks for C and not for C++. -/
theorem sum_points_cOnly : (cOnly.map fun spec => max 0 spec.points.toInt).sum = 8 := by
  decide +kernel

/-- What speaks against C++ speaks against C as well. -/
theorem zero_le_points_of_mem_cPlusPlusOnly {spec : RuleSpec} (hmem : spec ∈ cPlusPlusOnly) :
    0 ≤ spec.points.toInt := by
  have hall : ∀ spec ∈ cPlusPlus, 0 ≤ spec.points.toInt ∨ spec ∈ c := by decide +kernel
  obtain ⟨hcPlusPlus, hnew⟩ := List.mem_filter.mp (List.mem_of_mem_erase hmem)
  exact (hall spec hcPlusPlus).resolve_right (of_decide_eq_true hnew)

/-! ## Headers -/

/-- The name of a header without its end. -/
def headerName : List Pattern :=
  ("#include".toList.map fun c => Pattern.set (.single c)) ++
    [.star (.set .space), .alt (.set (.single '<')) (.set (.single '"')), .plus (.set .word)]

/-- What closes the name of a header. -/
def headerClose : Pattern := .alt (.set (.single '>')) (.set (.single '"'))

/-- The end of the name of a header of C. -/
def cHeaderEnd : List Pattern := [.set (.single '.'), .set (.single 'h'), headerClose]

/-- The end of the name of a header of C++. -/
def cPlusPlusHeaderEnd : List Pattern :=
  [.opt (.seq (.set (.single '.')) (.set (.single 'h'))), headerClose]

theorem ofText?_cHeader :
    Pattern.ofText? cHeader.pattern.toList = some (.sequence (headerName ++ cHeaderEnd)) :=
  rfl

theorem ofText?_cPlusPlusHeader : Pattern.ofText? cPlusPlusHeader.pattern.toList =
    some (.sequence (headerName ++ cPlusPlusHeaderEnd)) :=
  rfl

theorem hits_cPlusPlusHeader {line : Line} (hhits : cHeader.hits line = true) :
    cPlusPlusHeader.hits line = true := by
  rw [RuleSpec.hits_eq ofText?_cHeader] at hhits
  rw [RuleSpec.hits_eq ofText?_cPlusPlusHeader]
  have refines : (Pattern.sequence cHeaderEnd).Refines (Pattern.sequence cPlusPlusHeaderEnd) :=
    Pattern.refines_seq_opt _ _ _
  apply Pattern.Refines.occursIn_eq_true _ hhits
  exact refines.sequence_append (List.cons_ne_nil _ _) (List.cons_ne_nil _ _) headerName

/-! ## How C compares with C++ -/

theorem pointsIn_exclusion (lines : List Line) :
    exclusion.pointsIn lines = -50 * (lines.countP exclusion.hits : Int) := by
  rw [RuleSpec.pointsIn_eq, RuleSpec.hitCount_eq_countP rfl, mul_comm]
  rfl

theorem scoreIn_c (lines : List Line) :
    (Entry.language "C" c).scoreIn lines = cHeader.pointsIn lines + (exclusion.pointsIn lines +
      ((shared.map fun spec => spec.pointsIn lines).sum +
        (cOnly.map fun spec => spec.pointsIn lines).sum)) := by
  rw [Entry.scoreIn, if_neg (by decide), Entry.rules, RuleSpec.sum_pointsIn_of_perm c_perm,
    List.map_cons, List.map_cons, List.sum_cons, List.sum_cons, List.map_append, List.sum_append]

theorem scoreIn_cPlusPlus (lines : List Line) :
    (Entry.language "C++" cPlusPlus).scoreIn lines = cPlusPlusHeader.pointsIn lines +
      ((shared.map fun spec => spec.pointsIn lines).sum +
        (cPlusPlusOnly.map fun spec => spec.pointsIn lines).sum) := by
  rw [Entry.scoreIn, if_neg (by decide), Entry.rules, RuleSpec.sum_pointsIn_of_perm cPlusPlus_perm,
    List.map_cons, List.sum_cons, List.map_append, List.sum_append]

/-- C is ahead of C++ by no more than eight points a line, less fifty for a line that is
excluded. -/
theorem scoreIn_c_le (lines : List Line) :
    (Entry.language "C" c).scoreIn lines ≤ (Entry.language "C++" cPlusPlus).scoreIn lines +
      8 * lines.length - 50 * lines.countP exclusion.hits := by
  have hheader : cHeader.pointsIn lines ≤ cPlusPlusHeader.pointsIn lines :=
    @RuleSpec.pointsIn_le_pointsIn cHeader cPlusPlusHeader rfl (by decide) rfl
      (fun _ => hits_cPlusPlusHeader) lines
  have honly := RuleSpec.sum_pointsIn_le cOnly lines
  have hother : 0 ≤ (cPlusPlusOnly.map fun spec => spec.pointsIn lines).sum :=
    RuleSpec.sum_pointsIn_nonneg (fun _ => zero_le_points_of_mem_cPlusPlusOnly) lines
  have hexclusion := pointsIn_exclusion lines
  rw [sum_points_cOnly] at honly
  rw [scoreIn_c, scoreIn_cPlusPlus]
  omega

/-! ## Lines that speak for C -/

/-- The rule for which C and C++ have a point in the lines below. -/
def voidRule : RuleSpec := ⟨r"\bvoid\b", 1, false⟩

/-- The line `puts(malloc(a*NULL a[void a;])`, with eight points for C alone, and one for C and
C++. -/
def plainLine : Line :=
  ['p', 'u', 't', 's', '(', 'm', 'a', 'l', 'l', 'o', 'c', '(',
    'a', '*', 'N', 'U', 'L', 'L', ' ', 'a', '[',
    'v', 'o', 'i', 'd', ' ', 'a', ';', ']', ')']

/-- The same line with a construct of C++ behind it. -/
def excludedLine : Line := plainLine ++ ['s', 't', 'd', ':', ':']

/-- A rule that hits neither line. -/
structure Misses (spec : RuleSpec) : Prop where
  /-- It misses the first. -/
  plain : spec.hits plainLine = false
  /-- It misses the second. -/
  excluded : spec.hits excludedLine = false

/-- A rule that hits both lines, wherever they are. -/
structure Tells (spec : RuleSpec) : Prop where
  /-- It counts not near the top only. -/
  nearTop : spec.nearTop = false
  /-- It hits the first. -/
  plain : spec.hits plainLine = true
  /-- It hits the second. -/
  excluded : spec.hits excludedLine = true

/-- Ranges of characters that are in neither line. -/
def absentRanges : List (Nat × Nat) :=
  [(0x21, 0x27), (0x2b, 0x39), (0x3c, 0x4b), (0x4d, 0x4d), (0x4f, 0x54), (0x56, 0x5a), (0x5c, 0x5c),
    (0x5e, 0x60), (0x62, 0x62), (0x65, 0x68), (0x6a, 0x6b), (0x6e, 0x6e), (0x71, 0x72),
    (0x77, 0x7e)]

/-- Whether a pattern demands a character that is in neither line. -/
def isForeign (pattern : Pattern) : Bool :=
  absentRanges.any fun range => pattern.demands range.1 range.2

theorem not_mem_absentRanges {range : Nat × Nat} (hrange : range ∈ absentRanges) {line : Line}
    (hline : line ∈ [plainLine, excludedLine]) {c : Char} (hmem : c ∈ line) :
    ¬ (range.1 ≤ c.toNat ∧ c.toNat ≤ range.2) := by
  have htest : (absentRanges.all fun range => [plainLine, excludedLine].all fun line =>
      line.all fun c => decide (¬ (range.1 ≤ c.toNat ∧ c.toNat ≤ range.2))) = true := by
    decide +kernel
  rw [List.all_eq_true] at htest
  have hranges := List.all_eq_true.mp (htest range hrange)
  have hlines := List.all_eq_true.mp (hranges line hline)
  exact of_decide_eq_true (hlines c hmem)

theorem occursIn_eq_false_of_isForeign {pattern : Pattern} (hforeign : isForeign pattern = true)
    {line : Line} (hline : line ∈ [plainLine, excludedLine]) : pattern.occursIn line = false := by
  obtain ⟨range, hrange, hdemands⟩ := List.any_eq_true.mp hforeign
  exact Pattern.occursIn_eq_false hdemands fun c => not_mem_absentRanges hrange hline

/-- The test on the characters of a text.  The lines are read only if no character is seen
to be missing. -/
theorem misses_of_test {text : List Char} {points : Int32} {nearTop : Bool}
    (htest : ((Pattern.ofText? text).any fun pattern => isForeign pattern ||
      !(pattern.occursIn plainLine || pattern.occursIn excludedLine)) = true) :
    Misses ⟨String.ofList text, points, nearTop⟩ := by
  obtain ⟨pattern, hread, htest⟩ := (Option.any_eq_true _ _).mp htest
  have hhits := RuleSpec.hits_ofList hread points nearTop
  rcases Bool.or_eq_true_iff.mp htest with hforeign | hneither
  · exact ⟨(hhits plainLine).trans (occursIn_eq_false_of_isForeign hforeign (by simp)),
      (hhits excludedLine).trans (occursIn_eq_false_of_isForeign hforeign (by simp))⟩
  · rw [Bool.not_eq_true', Bool.or_eq_false_iff] at hneither
    exact ⟨(hhits plainLine).trans hneither.1, (hhits excludedLine).trans hneither.2⟩

theorem tells_of_test {text : List Char} {points : Int32}
    (htest : ((Pattern.ofText? text).any fun pattern =>
      pattern.occursIn plainLine && pattern.occursIn excludedLine) = true) :
    Tells ⟨String.ofList text, points, false⟩ := by
  obtain ⟨pattern, hread, htest⟩ := (Option.any_eq_true _ _).mp htest
  have hhits := RuleSpec.hits_ofList hread points false
  obtain ⟨hplain, hexcluded⟩ := Bool.and_eq_true_iff.mp htest
  exact ⟨rfl, (hhits plainLine).trans hplain, (hhits excludedLine).trans hexcluded⟩

/-- No other language has a point in the lines, but for the one that C++ has too. -/
theorem misses_of_mem_languages : ∀ group ∈ languages.drop 1, ∀ spec ∈ group.rules,
    spec = voidRule ∨ spec.points.toInt ≤ 0 ∨ Misses spec := by
  simp only [languages, List.drop_succ_cons, List.drop_zero, cPlusPlus, css, go, html, java,
    javascript, php, python, ruby, List.forall_mem_cons, List.not_mem_nil, false_implies,
    implies_true, and_true]
  repeat' apply And.intro
  all_goals first
    | exact Or.inl rfl
    | exact Or.inr (Or.inl (by decide))
    | exact Or.inr (Or.inr (misses_of_test (by decide +kernel)))

/-! ## What the rules give for the lines -/

/-- Some of these lines, and some more with a construct of C++. -/
def mixture (plain excluded : Nat) : List Line :=
  List.replicate plain plainLine ++ List.replicate excluded excludedLine

variable {plain excluded : Nat} {spec : RuleSpec}

theorem length_mixture (plain excluded : Nat) :
    (mixture plain excluded).length = plain + excluded := by
  rw [mixture, List.length_append, List.length_replicate, List.length_replicate]

theorem forall_mem_mixture {p : Line → Prop} (hplain : p plainLine) (hexcluded : p excludedLine) :
    ∀ line ∈ mixture plain excluded, p line := by
  intro line hline
  rcases List.mem_append.mp hline with hmem | hmem
  · rw [List.eq_of_mem_replicate hmem]
    exact hplain
  · rw [List.eq_of_mem_replicate hmem]
    exact hexcluded

theorem Misses.pointsIn_eq (misses : Misses spec) :
    spec.pointsIn (mixture plain excluded) = 0 := by
  rw [RuleSpec.pointsIn_eq,
    RuleSpec.hitCount_eq_zero (forall_mem_mixture misses.plain misses.excluded)]
  exact Int.zero_mul _

theorem Tells.pointsIn_eq (tells : Tells spec) :
    spec.pointsIn (mixture plain excluded) = (plain + excluded : Nat) * spec.points.toInt := by
  have hall : (mixture plain excluded).countP spec.hits = (mixture plain excluded).length :=
    List.countP_eq_length.mpr (forall_mem_mixture tells.plain tells.excluded)
  rw [RuleSpec.pointsIn_eq, RuleSpec.hitCount_eq_countP tells.nearTop, hall, length_mixture]

theorem countP_exclusion_mixture (plain excluded : Nat) :
    (mixture plain excluded).countP exclusion.hits = excluded := by
  have hplain : exclusion.hits plainLine = false := by decide +kernel
  have hexcluded : exclusion.hits excludedLine = true := by decide +kernel
  rw [mixture, List.countP_append, List.countP_replicate, List.countP_replicate, hplain, hexcluded]
  exact Nat.zero_add excluded

/-- What each rule of C gives for the lines, in the order of the rules. -/
theorem map_pointsIn_c (plain excluded : Nat) {total : Int}
    (htotal : total = (plain + excluded : Nat)) :
    (c.map fun spec => spec.pointsIn (mixture plain excluded)) =
      [0, total * 2, 0, total * 2, total * 1, total * 1, 0, total * 1, total * 1, total * 1,
        0, 0, 0, -50 * (excluded : Int)] := by
  have hexclusion := pointsIn_exclusion (mixture plain excluded)
  rw [countP_exclusion_mixture] at hexclusion
  simp only [c, List.map_cons, List.map_nil, List.cons.injEq, and_true, htotal]
  refine ⟨?number, ?malloc, ?header, ?product, ?declaration, ?array, ?define, ?null, ?void, ?print,
    ?new, ?quoted, ?binding, hexclusion⟩
  case malloc | product | declaration | array | null | void | print =>
      exact (tells_of_test (by decide +kernel)).pointsIn_eq
  all_goals exact (misses_of_test (by decide +kernel)).pointsIn_eq

theorem scoreIn_c_mixture (plain excluded : Nat) :
    (Entry.language "C" c).scoreIn (mixture plain excluded) =
      9 * (plain + excluded : Nat) - 50 * excluded := by
  rw [Entry.scoreIn, if_neg (by decide), Entry.rules, map_pointsIn_c plain excluded rfl]
  simp only [List.sum_cons, List.sum_nil]
  omega

theorem voidRule_pointsIn_mixture (plain excluded : Nat) :
    voidRule.pointsIn (mixture plain excluded) = (plain + excluded : Nat) := by
  have tells : Tells voidRule := tells_of_test (by decide +kernel)
  rw [tells.pointsIn_eq]
  exact Int.mul_one _

/-- No other language has more than a point for each of the lines. -/
theorem scoreIn_mixture_le {group : LanguageRules} (hgroup : group ∈ languages.drop 1)
    (plain excluded : Nat) :
    (Entry.ofLanguageRules group).scoreIn (mixture plain excluded) ≤ (plain + excluded : Nat) := by
  have honce : ∀ group ∈ languages.drop 1, group.rules.count voidRule ≤ 1 := by decide +kernel
  have hname : (Entry.ofLanguageRules group).name ≠ unknownName :=
    language_ne_unknownName group (List.mem_of_mem_drop hgroup)
  have hothers : ∀ spec ∈ group.rules,
      spec = voidRule ∨ spec.pointsIn (mixture plain excluded) ≤ 0 := by
    intro spec hspec
    rcases misses_of_mem_languages group hgroup spec hspec with hvoid | hpoints | hmisses
    · exact Or.inl hvoid
    · exact Or.inr (RuleSpec.pointsIn_nonpos hpoints _)
    · exact Or.inr (le_of_eq hmisses.pointsIn_eq)
  have hvoid := voidRule_pointsIn_mixture plain excluded
  rw [Entry.scoreIn, if_neg hname, ← hvoid]
  apply RuleSpec.sum_pointsIn_le_pointsIn _ (honce group hgroup) hothers
  rw [hvoid]
  exact Int.natCast_nonneg _

/-- C comes first among the entries. -/
theorem entries_eq_cons :
    entries = .language "C" c :: ((languages.drop 1).map Entry.ofLanguageRules ++ [.unknown]) :=
  rfl

/-! ## The snippet of the lines -/

theorem normal_mixture (hpos : 0 < plain + excluded) : Normal (mixture plain excluded) := by
  have hbreaks {line : Line} (hnone : line.any isBreak = false) : ∀ c ∈ line, isBreak c = false :=
    fun c hmem => Bool.eq_false_of_not_eq_true (List.any_eq_false.mp hnone c hmem)
  refine ⟨?_, ?_, ?_⟩
  · apply List.ne_nil_of_length_pos
    rwa [length_mixture]
  · exact forall_mem_mixture (hbreaks (by decide)) (hbreaks (by decide))
  · intro line hmem
    have hne : ∀ line ∈ mixture plain excluded, line ≠ [] :=
      forall_mem_mixture (by decide) (by decide)
    exact hne line (List.mem_of_mem_tail (List.dropLast_subset _ hmem))

/-- A snippet of these lines. -/
def mixedSnippet (plain excluded : Nat) : List Char := ['\n'].intercalate (mixture plain excluded)

theorem normalize_mixedSnippet (hpos : 0 < plain + excluded) :
    normalize (mixedSnippet plain excluded) = mixture plain excluded :=
  normalize_intercalate (normal_mixture hpos)

end Builtin

namespace Registry

open Builtin

variable {snippet : List Char} {heuristic : Bool} {options : DetectOptions}

theorem scoreAll_builtin (snippet : List Char) (heuristic : Bool) :
    scoreAll snippet heuristic builtin = Builtin.entries.map fun entry =>
      (entry.name, entry.scoreIn (scoredLines snippet heuristic)) := by
  rw [scoreAll_eq_map_entries build_builtin, withUnknownEntry, if_pos (by decide)]

theorem mem_scoreAll_builtin {entry : Entry} (hentry : entry ∈ Builtin.entries) :
    (entry.name, entry.scoreIn (scoredLines snippet heuristic)) ∈
      scoreAll snippet heuristic builtin := by
  rw [scoreAll_builtin]
  exact List.mem_map_of_mem hentry

/-- Where C is detected, no more than eight fiftieths of the lines are excluded. -/
theorem countP_exclusion_le (hname : (detect snippet options builtin).name = "C") :
    50 * (scoredLines snippet options.heuristic).countP exclusion.hits ≤
      8 * (scoredLines snippet options.heuristic).length := by
  have formed := wellFormed_of_build build_builtin
  have hc : Entry.language "C" c ∈ Builtin.entries := List.mem_of_getElem? (i := 0) rfl
  have hcPlusPlus : Entry.language "C++" cPlusPlus ∈ Builtin.entries :=
    List.mem_of_getElem? (i := 1) rfl
  have hscore : builtin.scoreOf? "C" snippet options.heuristic =
      some ((Entry.language "C" c).scoreIn (scoredLines snippet options.heuristic)) :=
    formed.scoreOf?_eq_some_iff.mpr (mem_scoreAll_builtin hc)
  obtain ⟨highest, hdetected, hhighest⟩ := formed.exists_scoreOf?_detect options
  rw [hname, hscore] at hdetected
  obtain rfl := Option.some.inj hdetected
  have hbehind := hhighest _ (mem_scoreAll_builtin hcPlusPlus)
  have hahead := scoreIn_c_le (scoredLines snippet options.heuristic)
  simp only at hbehind
  omega

/-- C is detected for the lines that speak for it, if these come to the points that are taken. -/
theorem detect_mixedSnippet {plain excluded : Nat} (hpos : 0 < plain + excluded)
    (hpoints : 50 * excluded ≤ 8 * (plain + excluded)) (statistics : Bool) :
    (detect (mixedSnippet plain excluded) ⟨false, statistics⟩ builtin).name = "C" := by
  have hlines : scoredLines (mixedSnippet plain excluded) false = mixture plain excluded := by
    rw [scoredLines, normalize_mixedSnippet hpos, subsample_false]
  have hfirst : IsFirstMaximum (scoreAll (mixedSnippet plain excluded) false builtin)
      ("C", (Entry.language "C" c).scoreIn (mixture plain excluded)) := by
    rw [scoreAll_builtin, hlines, entries_eq_cons, List.map_cons]
    refine ⟨[], _, rfl, fun _ hmem => absurd hmem List.not_mem_nil, ?_⟩
    rw [List.forall_mem_map, List.forall_mem_append, List.forall_mem_map, List.forall_mem_singleton,
      scoreIn_c_mixture]
    constructor
    · intro group hgroup
      have hle := scoreIn_mixture_le hgroup plain excluded
      simp only
      omega
    · have hunknown : Entry.unknown.scoreIn (mixture plain excluded) = 1 := if_pos rfl
      simp only [hunknown]
      omega
  rw [detect_name]
  exact selectWinner_eq_of_isFirstMaximum hfirst

/-- For snippets of so many lines, of which so many have a construct of C++ alone, C is detected
for one of them exactly if the points of the other rules can make up for those that are taken:
eight for each line, against fifty for each line with such a construct. -/
theorem detects_c_iff (lines excluded : Nat) :
    (∃ snippet statistics, (normalize snippet).length = lines ∧
      (normalize snippet).countP exclusion.hits = excluded ∧
      (detect snippet ⟨false, statistics⟩ builtin).name = "C") ↔
    0 < lines ∧ 50 * excluded ≤ 8 * lines := by
  constructor
  · rintro ⟨snippet, statistics, rfl, rfl, hname⟩
    have hle := countP_exclusion_le hname
    rw [scoredLines, subsample_false] at hle
    exact ⟨List.length_pos_of_ne_nil (normal_normalize snippet).ne_nil, hle⟩
  · rintro ⟨hpos, hpoints⟩
    obtain ⟨plain, rfl⟩ : ∃ plain, lines = plain + excluded := Nat.exists_eq_add_of_le' (by omega)
    refine ⟨mixedSnippet plain excluded, false, ?_, ?_, detect_mixedSnippet hpos hpoints false⟩
    · rw [normalize_mixedSnippet hpos, length_mixture]
    · rw [normalize_mixedSnippet hpos, countP_exclusion_mixture]

/-- Six lines that speak for C make up for one with a construct of C++. -/
theorem detects_c_of_seven_lines :
    exclusion ∈ c ∧ ∃ line ∈ normalize (mixedSnippet 6 1), exclusion.hits line = true ∧
      (detect (mixedSnippet 6 1) ⟨false, false⟩ builtin).name = "C" := by
  have hpositive : 0 < (normalize (mixedSnippet 6 1)).countP exclusion.hits := by
    rw [normalize_mixedSnippet (by decide), countP_exclusion_mixture]
    exact Nat.one_pos
  obtain ⟨line, hmem, hhits⟩ := List.countP_pos_iff.mp hpositive
  refine ⟨List.mem_of_getElem? (i := 13) rfl, line, hmem, hhits, ?_⟩
  exact detect_mixedSnippet (by decide) (by decide) false

end Registry

end Polyglot
