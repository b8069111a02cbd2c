/-
# Scores fit words

A word is the sum of points wrapped around, in whatever order they were added, and a
checked sum is given exactly if every sum on the way fits a word.  This holds for the
sums within a line and for those from line to line, so the score in words is the score
wrapped around, and a checked score is the score itself.

No rule has more points, or a greater penalty, than fit 32 bits.  So while the rules of a
candidate are tried on the lines of a snippet at most 2 ^ 32 times, no sum on the way to
its score leaves the range of a word of 64 bits.  The score in words is then the score,
and candidates compare by words as they do by scores.  Where no rule counts against a
candidate, or none for it, it is enough that the score itself fits.

The bound cannot be raised.  A rule with the greatest penalty that hits 2 ^ 32 lines
reaches the least word, and on one more line the sum wraps around.
-/

import Mathlib.Algebra.Order.BigOperators.Group.List
import Mathlib.Algebra.Order.Ring.Int
import Polyglot.Detection.Word
import Polyglot.Proofs.Detection.Contribution
import Polyglot.Proofs.Detection.Winner
import Polyglot.Proofs.Registry.Candidates

namespace Polyglot

open Lines

/-! ## Sums of words -/

theorem fitsWord_toInt (word : Int64) : FitsWord word.toInt :=
  ⟨word.le_toInt, word.toInt_lt⟩

/-- Wrapping around changes no number that fits. -/
theorem FitsWord.toInt_ofInt {n : Int} (fits : FitsWord n) : (Int64.ofInt n).toInt = n :=
  Int64.toInt_ofInt_of_le fits.1 fits.2

theorem foldl_add_eq_ofInt (points : List Int64) (start : Int64) :
    points.foldl (· + ·) start = Int64.ofInt (start.toInt + (points.map Int64.toInt).sum) := by
  induction points generalizing start with
  | nil => simp
  | cons word points ih =>
      rw [List.foldl_cons, ih, List.map_cons, List.sum_cons, ← Int.add_assoc, Int64.ofInt_add,
        Int64.ofInt_add (start.toInt + word.toInt), Int64.ofInt_add start.toInt,
        Int64.ofInt_toInt, Int64.ofInt_toInt, Int64.ofInt_toInt]

/-- Words add up to the sum of the numbers that they hold, wrapped around. -/
theorem totalWord_eq_ofInt (points : List Int64) :
    totalWord points = Int64.ofInt (points.map Int64.toInt).sum := by
  rw [totalWord, foldl_add_eq_ofInt, Int64.toInt_zero, Int.zero_add]

/-- The sums on the way behind a first word are those that start with this word added. -/
theorem forall_prefix_cons_fitsWord_iff {start word : Int64} {points : List Int64} :
    (∀ front, front <+: word :: points →
      FitsWord (start.toInt + (front.map Int64.toInt).sum)) ↔
        ∀ front, front <+: points →
          FitsWord (start.toInt + word.toInt + (front.map Int64.toInt).sum) := by
  constructor
  · intro fits front hfront
    have hcons := fits (word :: front) (List.cons_prefix_cons.mpr ⟨rfl, hfront⟩)
    rwa [List.map_cons, List.sum_cons, ← Int.add_assoc] at hcons
  · intro fits front hfront
    cases front with
    | nil =>
        rw [List.map_nil, List.sum_nil, Int.add_zero]
        exact fitsWord_toInt start
    | cons first front =>
        obtain ⟨rfl, hothers⟩ := List.cons_prefix_cons.mp hfront
        rw [List.map_cons, List.sum_cons, ← Int.add_assoc]
        exact fits front hothers

/-- Checked additions go through exactly where every sum on the way fits. -/
theorem foldlM_addWord?_eq_some_iff {points : List Int64} {start total : Int64} :
    points.foldlM addWord? start = some total ↔
      (∀ front, front <+: points → FitsWord (start.toInt + (front.map Int64.toInt).sum)) ∧
        points.foldl (· + ·) start = total := by
  -- The first addition is made, and the others start from what it gives.
  induction points generalizing start with
  | nil =>
      have hstart : ∀ front : List Int64, front <+: [] →
          FitsWord (start.toInt + (front.map Int64.toInt).sum) := by
        intro front hfront
        rw [List.prefix_nil.mp hfront, List.map_nil, List.sum_nil, Int.add_zero]
        exact fitsWord_toInt start
      rw [and_iff_right hstart]
      exact Option.some_inj
  | cons word points ih =>
      rw [List.foldlM_cons, List.foldl_cons, forall_prefix_cons_fitsWord_iff, addWord?]
      by_cases hfirst : FitsWord (start.toInt + word.toInt)
      · have hword : (start + word).toInt = start.toInt + word.toInt := by
          rw [← hfirst.toInt_ofInt, Int64.ofInt_add, Int64.ofInt_toInt, Int64.ofInt_toInt]
        rw [if_pos hfirst, ← hword]
        exact ih
      · have hempty : ¬ ∀ front, front <+: points →
            FitsWord (start.toInt + word.toInt + (front.map Int64.toInt).sum) := by
          intro fits
          have hnil := fits [] List.nil_prefix
          rw [List.map_nil, List.sum_nil, Int.add_zero] at hnil
          exact hfirst hnil
        rw [if_neg hfirst, Option.bind_eq_bind, Option.bind_none]
        exact iff_of_false (Option.some_ne_none total).symm fun fits => hempty fits.1

/-- The sums that are formed on the way fit words. -/
def SumsFit (points : List Int64) : Prop :=
  ∀ front, front <+: points → FitsWord (front.map Int64.toInt).sum

theorem totalWord?_eq_some_iff {points : List Int64} {total : Int64} :
    totalWord? points = some total ↔ SumsFit points ∧ totalWord points = total := by
  rw [totalWord?, foldlM_addWord?_eq_some_iff, Int64.toInt_zero]
  simp only [Int.zero_add]
  rfl

theorem totalWord_cons (word : Int64) (points : List Int64) :
    totalWord (word :: points) = word + totalWord points := by
  rw [totalWord_eq_ofInt, totalWord_eq_ofInt, List.map_cons, List.sum_cons, Int64.ofInt_add,
    Int64.ofInt_toInt]

/-- It does not matter whether numbers wrap around before or after they are added up. -/
theorem totalWord_map_ofInt (points : List Int) :
    totalWord (points.map Int64.ofInt) = Int64.ofInt points.sum := by
  induction points with
  | nil => rfl
  | cons n points ih => rw [List.map_cons, totalWord_cons, ih, List.sum_cons, Int64.ofInt_add]

theorem SumsFit.toInt_totalWord {points : List Int64} (fits : SumsFit points) :
    (totalWord points).toInt = (points.map Int64.toInt).sum := by
  rw [totalWord_eq_ofInt, (fits points List.prefix_rfl).toInt_ofInt]

/-- A sum is between so many times the least and so many times the greatest number. -/
theorem sum_bounds {points : List Int} {low high : Int} (hlow : low ≤ 0) (hhigh : 0 ≤ high)
    (hpoints : ∀ n ∈ points, low ≤ n ∧ n ≤ high) {size : Nat} (hsize : points.length ≤ size) :
    low * size ≤ points.sum ∧ points.sum ≤ high * size := by
  induction points generalizing size with
  | nil =>
      exact ⟨Int.mul_nonpos_of_nonpos_of_nonneg hlow (Int.natCast_nonneg _),
        Int.mul_nonneg hhigh (Int.natCast_nonneg _)⟩
  | cons n points ih =>
      obtain ⟨others, rfl⟩ := Nat.exists_eq_succ_of_ne_zero (Nat.ne_zero_of_lt hsize)
      rw [List.forall_mem_cons] at hpoints
      have hothers := ih hpoints.2 (Nat.le_of_succ_le_succ hsize)
      rw [List.sum_cons, Nat.succ_eq_add_one, Nat.cast_add_one, mul_add, mul_add]
      omega

namespace Candidate

theorem linePoints_cons (rule : Rule) (rules : List Rule) (total : Nat) (entry : Line × Nat) :
    linePoints (rule :: rules) total entry =
      rule.pointsOn entry.2 total entry.1 + linePoints rules total entry := rfl

/-- Rules that do not count on a line add nothing to its points. -/
theorem sum_lineWords (rules : List Rule) (total : Nat) (entry : Line × Nat) :
    ((lineWords rules total entry).map Int64.toInt).sum = linePoints rules total entry := by
  induction rules with
  | nil => rfl
  | cons rule rules ih =>
      rw [linePoints_cons, ← ih, lineWords, lineWords, List.filter_cons, Rule.pointsOn]
      split
      · rw [List.map_cons, List.map_cons, List.sum_cons, Int32.toInt_toInt64]
        rfl
      · rw [Int.zero_add]

theorem length_lineWords_le (rules : List Rule) (total : Nat) (entry : Line × Nat) :
    (lineWords rules total entry).length ≤ rules.length := by
  rw [lineWords, List.length_map]
  exact List.length_filter_le _ _

/-- What holds of the points of all rules holds of what is added up for a line. -/
theorem forall_mem_lineWords {rules : List Rule} {total : Nat} {entry : Line × Nat}
    {holds : Int → Prop} (hpoints : ∀ rule ∈ rules, holds rule.points) :
    ∀ n ∈ (lineWords rules total entry).map Int64.toInt, holds n := by
  simp only [lineWords, List.map_map, List.forall_mem_map, Function.comp_apply,
    Int32.toInt_toInt64]
  exact fun rule hrule => hpoints rule (List.mem_of_mem_filter hrule)

/-- Part of the points of a line are bounded by the number of rules. -/
theorem sum_prefix_lineWords_bounds {rules : List Rule} {total : Nat} {entry : Line × Nat}
    {front : List Int64} (hfront : front <+: lineWords rules total entry) :
    -2 ^ 31 * (rules.length : Int) ≤ (front.map Int64.toInt).sum ∧
      (front.map Int64.toInt).sum ≤ (2 ^ 31 - 1) * (rules.length : Int) := by
  -- A rule has points of 32 bits.
  have hwords : ∀ n ∈ (lineWords rules total entry).map Int64.toInt,
      -2 ^ 31 ≤ n ∧ n ≤ 2 ^ 31 - 1 :=
    forall_mem_lineWords fun rule _ =>
      ⟨rule.spec.points.le_toInt, Int.le_sub_one_of_lt rule.spec.points.toInt_lt⟩
  apply sum_bounds (by decide) (by decide)
  · exact fun n hmem => hwords n ((hfront.map _).subset hmem)
  · rw [List.length_map]
    exact hfront.length_le.trans (length_lineWords_le rules total entry)

theorem linePoints_bounds (rules : List Rule) (total : Nat) (entry : Line × Nat) :
    -2 ^ 31 * (rules.length : Int) ≤ linePoints rules total entry ∧
      linePoints rules total entry ≤ (2 ^ 31 - 1) * (rules.length : Int) := by
  rw [← sum_lineWords]
  exact sum_prefix_lineWords_bounds List.prefix_rfl

/-- The points of a line as a word. -/
theorem totalWord_lineWords (rules : List Rule) (total : Nat) (entry : Line × Nat) :
    totalWord (lineWords rules total entry) = Int64.ofInt (linePoints rules total entry) := by
  rw [totalWord_eq_ofInt, sum_lineWords]

/-- The score in words is the score wrapped around. -/
theorem scoreWord_eq_ofInt (candidate : Candidate) (lines : List Line) :
    candidate.scoreWord lines = Int64.ofInt (candidate.score lines) := by
  cases candidate with
  | unknown => rfl
  | language name rules =>
      have hlines : (lines.zipIdx.map fun entry =>
          totalWord (lineWords rules lines.length entry)) =
            (lines.zipIdx.map (linePoints rules lines.length)).map Int64.ofInt := by
        rw [List.map_map]
        exact List.map_congr_left fun entry _ => totalWord_lineWords rules lines.length entry
      rw [scoreWord, hlines, totalWord_map_ofInt, score, totalPoints_eq_sum]

/-- Every sum on the way to a score fits: those within a line and those from line to line. -/
structure AdditionsFit (rules : List Rule) (lines : List Line) : Prop where
  within : ∀ entry ∈ lines.zipIdx, SumsFit (lineWords rules lines.length entry)
  across : ∀ front, front <+: lines.zipIdx →
    FitsWord (front.map (linePoints rules lines.length)).sum

variable {name : String} {rules : List Rule} {lines : List Line}

theorem AdditionsFit.toInt_scoreWord (fits : AdditionsFit rules lines) :
    ((language name rules).scoreWord lines).toInt = (language name rules).score lines := by
  rw [scoreWord_eq_ofInt]
  exact (fits.across lines.zipIdx List.prefix_rfl).toInt_ofInt

/-- Where the points of every line can be added up, the sums from line to line are those of
the lines' words. -/
theorem sumsFit_lines_iff (hwithin : ∀ entry ∈ lines.zipIdx,
    SumsFit (lineWords rules lines.length entry)) :
    SumsFit (lines.zipIdx.map fun entry => totalWord (lineWords rules lines.length entry)) ↔
      ∀ front, front <+: lines.zipIdx →
        FitsWord (front.map (linePoints rules lines.length)).sum := by
  have hwords {front : List (Line × Nat)} (hfront : front <+: lines.zipIdx) :
      (front.map fun entry => totalWord (lineWords rules lines.length entry)).map Int64.toInt =
        front.map (linePoints rules lines.length) := by
    rw [List.map_map]
    apply List.map_congr_left
    intro entry hmem
    rw [Function.comp_apply, (hwithin entry (hfront.subset hmem)).toInt_totalWord, sum_lineWords]
  constructor
  · intro fits front hfront
    rw [← hwords hfront]
    exact fits _ (hfront.map _)
  · intro fits front hfront
    rw [List.prefix_iff_eq_take, ← List.map_take] at hfront
    rw [hfront, hwords (List.take_prefix _ _)]
    exact fits _ (List.take_prefix _ _)

/-- A checked score adds up the words of the lines, where the points of every line can be
added up. -/
theorem foldlM_bind_addWord?_eq_some_iff {entries : List (Line × Nat)} {total : Nat}
    {start points : Int64} :
    (entries.foldlM (fun score entry => do
      let points ← totalWord? (lineWords rules total entry)
      addWord? score points) start) = some points ↔
        (∀ entry ∈ entries, SumsFit (lineWords rules total entry)) ∧
          (entries.map fun entry => totalWord (lineWords rules total entry)).foldlM addWord?
            start = some points := by
  induction entries generalizing start with
  | nil => simp
  | cons entry entries ih =>
      simp only [Option.bind_eq_bind] at ih
      simp only [List.foldlM_cons, List.map_cons, List.forall_mem_cons, Option.bind_eq_bind,
        Option.bind_eq_some_iff, totalWord?_eq_some_iff, ih]
      constructor
      · rintro ⟨score, ⟨_, ⟨hfirst, rfl⟩, hscore⟩, hothers, hpoints⟩
        exact ⟨⟨hfirst, hothers⟩, score, hscore, hpoints⟩
      · rintro ⟨⟨hfirst, hothers⟩, score, hscore, hpoints⟩
        exact ⟨score, ⟨_, ⟨hfirst, rfl⟩, hscore⟩, hothers, hpoints⟩

/-- Checked additions give a score exactly if every sum on the way fits. -/
theorem scoreWord?_eq_some_iff {points : Int64} :
    (language name rules).scoreWord? lines = some points ↔
      AdditionsFit rules lines ∧ (language name rules).scoreWord lines = points := by
  rw [scoreWord?, foldlM_bind_addWord?_eq_some_iff, ← totalWord?, totalWord?_eq_some_iff, scoreWord]
  constructor
  · rintro ⟨hwithin, hlines, hpoints⟩
    exact ⟨⟨hwithin, (sumsFit_lines_iff hwithin).mp hlines⟩, hpoints⟩
  · rintro ⟨⟨hwithin, hacross⟩, hpoints⟩
    exact ⟨hwithin, (sumsFit_lines_iff hwithin).mpr hacross, hpoints⟩

/-- With at most 2 ^ 32 trials every sum fits. -/
theorem additionsFit_of_trials (hbound : lines.length * rules.length ≤ 2 ^ 32) :
    AdditionsFit rules lines := by
  constructor
  · intro entry hentry front hfront
    have hlines : 0 < lines.length := Nat.zero_lt_of_lt (List.snd_lt_of_mem_zipIdx hentry)
    have hrules : rules.length ≤ 2 ^ 32 := (Nat.le_mul_of_pos_left _ hlines).trans hbound
    have hsum := sum_prefix_lineWords_bounds hfront
    rw [FitsWord]
    omega
  · intro front hfront
    have hlength : (front.map (linePoints rules lines.length)).length ≤ lines.length := by
      rw [List.length_map, ← List.length_zipIdx (l := lines)]
      exact hfront.length_le
    have hlines : ∀ n ∈ front.map (linePoints rules lines.length),
        -2 ^ 31 * (rules.length : Int) ≤ n ∧ n ≤ (2 ^ 31 - 1) * (rules.length : Int) :=
      List.forall_mem_map.mpr fun entry _ => linePoints_bounds rules lines.length entry
    have hsum := sum_bounds (by omega) (by omega) hlines hlength
    have hproduct : (rules.length : Int) * lines.length ≤ 2 ^ 32 := by
      rw [Int.mul_comm]
      exact_mod_cast hbound
    rw [Int.mul_assoc, Int.mul_assoc] at hsum
    rw [FitsWord]
    omega

/-- No checked addition stops a score with at most 2 ^ 32 trials. -/
theorem scoreWord?_eq_some {candidate : Candidate}
    (hbound : lines.length * candidate.rules.length ≤ 2 ^ 32) :
    candidate.scoreWord? lines = some (candidate.scoreWord lines) := by
  cases candidate with
  | unknown => rfl
  | language name rules => exact scoreWord?_eq_some_iff.mpr ⟨additionsFit_of_trials hbound, rfl⟩

theorem toInt_scoreWord {candidate : Candidate}
    (hbound : lines.length * candidate.rules.length ≤ 2 ^ 32) :
    (candidate.scoreWord lines).toInt = candidate.score lines := by
  cases candidate with
  | unknown => rfl
  | language name rules => exact (additionsFit_of_trials hbound).toInt_scoreWord

/-- One rule that hits every line gives its points for each. -/
theorem score_replicate {rule : Rule} {line : Line} (hnear : rule.nearTop = false)
    (hhits : rule.hits line = true) (name : String) (count : Nat) :
    (language name [rule]).score (List.replicate count line) = rule.points * count := by
  rw [score_language, List.map_singleton, List.sum_singleton, Rule.pointsIn_of_everywhere hnear,
    List.countP_replicate, if_pos hhits]

end Candidate

/-! ## Winners and rankings by words -/

theorem map_toScore_betterWord (best : Option WordScore) (score : WordScore) :
    (betterWord best score).map WordScore.toScore =
      better (best.map WordScore.toScore) score.toScore := by
  cases best with
  | none => rfl
  | some leader =>
      have hlt : leader.2 < score.2 ↔ leader.toScore.2 < score.toScore.2 := Int64.lt_iff_toInt_lt
      rw [betterWord, Option.map_some, better]
      by_cases hbetter : leader.2 < score.2
      · rw [if_pos hbetter, if_pos (hlt.mp hbetter), Option.map_some]
      · rw [if_neg hbetter, if_neg (mt hlt.mpr hbetter), Option.map_some]

theorem map_toScore_foldl (best : Option WordScore) (scores : List WordScore) :
    (scores.foldl betterWord best).map WordScore.toScore =
      (scores.map WordScore.toScore).foldl better (best.map WordScore.toScore) := by
  induction scores generalizing best with
  | nil => rfl
  | cons score scores ih =>
      rw [List.foldl_cons, ih, map_toScore_betterWord, List.map_cons, List.foldl_cons]

/-- The scan by words ends where the scan by the scores that they hold does. -/
theorem selectWinnerWord_eq (scores : List WordScore) :
    selectWinnerWord scores = selectWinner (scores.map WordScore.toScore) := by
  have hscan : (scores.map WordScore.toScore).foldl better none =
      (scores.foldl betterWord none).map WordScore.toScore :=
    (map_toScore_foldl none scores).symm
  rw [selectWinnerWord, selectWinner, hscan]
  cases scores.foldl betterWord none <;> rfl

theorem map_toScore_rankWords (scores : List WordScore) :
    (rankWords scores).map WordScore.toScore = rank (scores.map WordScore.toScore) := by
  apply List.map_mergeSort
  intro first _ second _
  rw [decide_eq_decide]
  exact Int64.le_iff_toInt_le

theorem map_toScore_scoreAllWords {snippet : List Char} {heuristic : Bool} {registry : Registry}
    (hbound : ∀ candidate ∈ registry.candidates,
      (scoredLines snippet heuristic).length * candidate.rules.length ≤ 2 ^ 32) :
    (scoreAllWords snippet heuristic registry).map WordScore.toScore =
      scoreAll snippet heuristic registry := by
  rw [scoreAllWords, scoreAll_eq_map, List.map_map]
  apply List.map_congr_left
  intro candidate hmem
  exact Prod.ext rfl (Candidate.toInt_scoreWord (hbound candidate hmem))

/-- While the rules of a candidate are tried at most 2 ^ 32 times, every sum of points that
is formed within a line, and every sum from line to line, fits a signed word of 64 bits.
So checked additions go through, and the score in words is the score.  In a registry of
such candidates words compare as scores do: the scan for the winner and the ranking by
words are those by scores, and the same is detected. -/
theorem scores_exact_in_words :
    (∀ (candidate : Candidate) (lines : List Line),
      lines.length * candidate.rules.length ≤ 2 ^ 32 →
      (∀ entry ∈ lines.zipIdx, ∀ front,
        front <+: Candidate.lineWords candidate.rules lines.length entry →
          FitsWord (front.map Int64.toInt).sum) ∧
      (∀ front, front <+: lines.zipIdx →
        FitsWord (front.map (Candidate.linePoints candidate.rules lines.length)).sum) ∧
      candidate.scoreWord? lines = some (candidate.scoreWord lines) ∧
      (candidate.scoreWord lines).toInt = candidate.score lines) ∧
    ∀ (snippet : List Char) (options : DetectOptions) (registry : Registry),
      (∀ candidate ∈ registry.candidates,
        (scoredLines snippet options.heuristic).length * candidate.rules.length ≤ 2 ^ 32) →
      (scoreAllWords snippet options.heuristic registry).map WordScore.toScore =
        scoreAll snippet options.heuristic registry ∧
      selectWinnerWord (scoreAllWords snippet options.heuristic registry) =
        selectWinner (scoreAll snippet options.heuristic registry) ∧
      (rankWords (scoreAllWords snippet options.heuristic registry)).map WordScore.toScore =
        rank (scoreAll snippet options.heuristic registry) ∧
      detectWord snippet options registry = detect snippet options registry := by
  refine ⟨fun candidate lines hbound => ?_, fun snippet options registry hbound => ?_⟩
  · have fits := Candidate.additionsFit_of_trials hbound
    exact ⟨fits.within, fits.across, Candidate.scoreWord?_eq_some hbound,
      Candidate.toInt_scoreWord hbound⟩
  · have hscores := map_toScore_scoreAllWords hbound
    have hwinner : selectWinnerWord (scoreAllWords snippet options.heuristic registry) =
        selectWinner (scoreAll snippet options.heuristic registry) := by
      rw [selectWinnerWord_eq, hscores]
    have hrank : (rankWords (scoreAllWords snippet options.heuristic registry)).map
        WordScore.toScore = rank (scoreAll snippet options.heuristic registry) := by
      rw [map_toScore_rankWords, hscores]
    refine ⟨hscores, hwinner, hrank, ?_⟩
    simp only [detectWord, detect, hwinner, hrank]

/-- The greatest penalty on 2 ^ 32 lines gives the least word. -/
theorem scores_exact_in_words_of_least_word :
    ∃ rule, Rule.ofSpec? ⟨"a", -2147483648, false⟩ = some rule ∧
      (List.replicate (2 ^ 32) ['a']).length * [rule].length = 2 ^ 32 ∧
      ((Candidate.language "A" [rule]).scoreWord (List.replicate (2 ^ 32) ['a'])).toInt =
        -2 ^ 63 := by
  refine ⟨_, rfl, by rw [List.length_replicate, List.length_singleton, Nat.mul_one], ?_⟩
  rw [(scores_exact_in_words.1 _ _ ?_).2.2.2, Candidate.score_replicate]
  · rfl
  · rfl
  · decide +kernel
  · rw [List.length_replicate]
    rfl

/-- The bound cannot be raised: with more trials the score need not fit a word. -/
theorem exists_toInt_scoreWord_ne {trials : Nat} (hmany : 2 ^ 32 < trials) :
    ∃ (candidate : Candidate) (lines : List Line),
      lines.length * candidate.rules.length = trials ∧
      (candidate.scoreWord lines).toInt ≠ candidate.score lines := by
  obtain ⟨rule, hrule, hhits⟩ : ∃ rule, Rule.ofSpec? ⟨"a", -2147483648, false⟩ = some rule ∧
      rule.hits ['a'] = true := ⟨_, rfl, by decide +kernel⟩
  have hspec := Rule.spec_of_ofSpec? hrule
  have hnear : rule.nearTop = false := by rw [Rule.nearTop, hspec]
  have hpoints : rule.points = -2 ^ 31 := by
    rw [Rule.points, hspec]
    rfl
  refine ⟨.language "A" [rule], List.replicate trials ['a'], ?_, ?_⟩
  · rw [List.length_replicate]
    exact Nat.mul_one trials
  · have hleast := Int64.le_toInt
      ((Candidate.language "A" [rule]).scoreWord (List.replicate trials ['a']))
    rw [Candidate.score_replicate hnear hhits, hpoints]
    omega

end Polyglot
