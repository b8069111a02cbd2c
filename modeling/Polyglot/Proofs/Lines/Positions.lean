/-
# The positions that thinning keeps

Which lines of a long snippet stay depends on their number alone.  The positions that
are kept can be listed without a look at the lines: the first tenth, and the multiples
of the stride, both rounded up.  How many there are is counted by going from the end of
the first tenth to the end of the snippet, one position at a time.

What is scored of a snippet are its lines at these positions, so lines at other
positions are never read.
-/

import Mathlib.Algebra.Order.Floor.Div
import Mathlib.GroupTheory.GroupAction.Ring
import Polyglot.Proofs.Detection.Winner
import Polyglot.Proofs.Lines.Thinning

namespace Polyglot

namespace Lines

/-- The positions that thinning keeps of a list of `total` items. -/
def keptPositions (total : Nat) : List Nat :=
  (List.range total).filter fun position =>
    position < total ⌈/⌉ 10 ∨ total ⌈/⌉ subsampleThreshold ∣ position

theorem mem_keptPositions {total position : Nat} :
    position ∈ keptPositions total ↔ position < total ∧
      (position < total ⌈/⌉ 10 ∨ total ⌈/⌉ subsampleThreshold ∣ position) := by
  rw [keptPositions, List.mem_filter, List.mem_range, decide_eq_true_eq]

theorem isKept_iff {total position : Nat} (hlong : smallSnippet < total)
    (hposition : position < total) :
    isKept total position = true ↔
      position < total ⌈/⌉ 10 ∨ total ⌈/⌉ subsampleThreshold ∣ position := by
  have hstride : stride total = total ⌈/⌉ subsampleThreshold := rfl
  have htop : topLength total = total ⌈/⌉ 10 := topLength_of_lt hlong
  rw [isKept, Bool.or_eq_true, isNearTop_iff_lt_topLength hposition, htop, hstride, beq_iff_eq,
    Nat.dvd_iff_mod_eq_zero]

variable {α : Type}

/-! ## Items at positions -/

/-- Items that are chosen by their positions are the items at these positions. -/
theorem map_fst_filter_zipIdx (items : List α) (chosen : Nat → Bool) :
    (items.zipIdx.filter fun entry => chosen entry.2).map Prod.fst =
      ((List.range items.length).filter chosen).filterMap fun position => items[position]? := by
  calc (items.zipIdx.filter fun entry => chosen entry.2).map Prod.fst
    _ = (items.zipIdx.filter fun entry => chosen entry.2).filterMap
          (fun entry => items[entry.2]?) := by
        rw [← List.filterMap_eq_map]
        apply List.filterMap_congr
        intro entry hmem
        exact (List.mem_zipIdx_iff_getElem?.mp (List.mem_of_mem_filter hmem)).symm
    _ = ((items.zipIdx.filter fun entry => chosen entry.2).map Prod.snd).filterMap
          (fun position => items[position]?) := List.filterMap_map.symm
    _ = _ := by
        rw [List.range_eq_range', ← List.zipIdx_map_snd 0 items, List.filter_map]
        rfl

/-- Thinning keeps the items at the kept positions. -/
theorem subsample_eq_filterMap {items : List α} (hlong : subsampleThreshold < items.length) :
    subsample items true =
      (keptPositions items.length).filterMap fun position => items[position]? := by
  have hsmall : smallSnippet < items.length := Nat.lt_trans (by decide) hlong
  have hkept : (List.range items.length).filter (isKept items.length) =
      keptPositions items.length := by
    apply List.filter_congr
    intro position hmem
    rw [Bool.eq_iff_iff, isKept_iff hsmall (List.mem_range.mp hmem), decide_eq_true_eq]
  rw [subsample, if_pos (by simpa using hlong), map_fst_filter_zipIdx, hkept]

theorem length_subsample {items : List α} (hlong : subsampleThreshold < items.length) :
    (subsample items true).length = (keptPositions items.length).length := by
  rw [subsample_eq_filterMap hlong, List.length_filterMap_eq_countP, List.countP_eq_length]
  intro position hmem
  rw [List.getElem?_eq_getElem (mem_keptPositions.mp hmem).1]
  rfl

/-! ## How many positions are kept -/

theorem succ_ceilDiv {step : Nat} (hstep : 0 < step) (bound : Nat) :
    (bound + 1) ⌈/⌉ step = bound ⌈/⌉ step + if step ∣ bound then 1 else 0 := by
  have hpred : bound + step - 1 + 1 = bound + step := by omega
  rw [Nat.ceilDiv_eq_add_pred_div, Nat.ceilDiv_eq_add_pred_div,
    show bound + 1 + step - 1 = bound + step - 1 + 1 by omega, Nat.succ_div, hpred]
  simp

/-- Up to any bound behind a head the positions in the head are kept, and behind it the
multiples of the step. -/
theorem countP_range_add {step head bound : Nat} (hstep : 0 < step) (hhead : head ≤ bound) :
    (List.range bound).countP (fun position => position < head ∨ step ∣ position) +
      head ⌈/⌉ step = head + bound ⌈/⌉ step := by
  -- The induction goes from the end of the head on, where nothing has been left out yet.
  induction bound, hhead using Nat.le_induction with
  | base =>
      have hall : (List.range head).countP (fun position => position < head ∨ step ∣ position) =
          (List.range head).length := by
        rw [List.countP_eq_length]
        intro position hmem
        exact decide_eq_true (Or.inl (List.mem_range.mp hmem))
      rw [hall, List.length_range]
  | succ bound hhead ih =>
      have hbehind : (bound < head ∨ step ∣ bound) ↔ step ∣ bound :=
        or_iff_right (Nat.not_lt.mpr hhead)
      rw [List.range_succ, List.countP_append, List.countP_singleton, succ_ceilDiv hstep]
      simp only [hbehind, decide_eq_true_eq]
      omega

theorem two_le_step {total : Nat} (hlong : subsampleThreshold < total) :
    2 ≤ total ⌈/⌉ subsampleThreshold := by
  by_contra hsmall
  have hle : total ⌈/⌉ subsampleThreshold ≤ 1 := by omega
  rw [ceilDiv_le_iff_le_mul (by decide), Nat.mul_one] at hle
  omega

theorem length_keptPositions {total : Nat} (hlong : subsampleThreshold < total) :
    (keptPositions total).length = total ⌈/⌉ 10 +
      total ⌈/⌉ (total ⌈/⌉ subsampleThreshold) -
        (total ⌈/⌉ 10) ⌈/⌉ (total ⌈/⌉ subsampleThreshold) := by
  have hstep := two_le_step hlong
  have hhead : total ⌈/⌉ 10 ≤ total := by
    rw [ceilDiv_le_iff_le_mul (by decide)]
    omega
  have hcount := countP_range_add (by omega : 0 < total ⌈/⌉ subsampleThreshold) hhead
  rw [keptPositions, ← List.countP_eq_length_filter]
  omega

/-- The multiples of the stride are no more than the lines of a short snippet. -/
theorem ceilDiv_step_le {total : Nat} (hlong : subsampleThreshold < total) :
    total ⌈/⌉ (total ⌈/⌉ subsampleThreshold) ≤ subsampleThreshold := by
  have hstep := two_le_step hlong
  rw [ceilDiv_le_iff_le_mul (by omega), Nat.mul_comm, ← ceilDiv_le_iff_le_mul (by decide)]

/-- Thinning leaves something out: one of two neighbours behind the first tenth. -/
theorem length_keptPositions_lt {total : Nat} (hlong : subsampleThreshold < total) :
    (keptPositions total).length < total := by
  have hstep := two_le_step hlong
  have hhead : total ⌈/⌉ 10 + 1 < total := by
    rw [Nat.ceilDiv_eq_add_pred_div]
    simp only [subsampleThreshold] at hlong
    omega
  have hleft : ∃ position ∈ List.range total,
      ¬ decide (position < total ⌈/⌉ 10 ∨ total ⌈/⌉ subsampleThreshold ∣ position) = true := by
    simp only [List.mem_range, decide_eq_true_eq, not_or, Nat.not_lt]
    by_cases hdvd : total ⌈/⌉ subsampleThreshold ∣ total ⌈/⌉ 10
    · refine ⟨total ⌈/⌉ 10 + 1, hhead, by omega, fun hnext => ?_⟩
      have hone := (Nat.dvd_add_right hdvd).mp hnext
      exact absurd (Nat.le_of_dvd Nat.one_pos hone) (by omega)
    · exact ⟨total ⌈/⌉ 10, by omega, Nat.le_refl _, hdvd⟩
  have hlt := List.length_filter_lt_length_iff_exists.mpr hleft
  rwa [List.length_range] at hlt

/-- Among as many neighbours as the stride one is kept. -/
theorem exists_mem_keptPositions {total start : Nat} (hlong : subsampleThreshold < total)
    (hend : start + total ⌈/⌉ subsampleThreshold ≤ total) :
    ∃ position ∈ keptPositions total,
      start ≤ position ∧ position < start + total ⌈/⌉ subsampleThreshold := by
  have hstep := two_le_step hlong
  generalize hs : total ⌈/⌉ subsampleThreshold = step at hstep hend
  have hstart : start ≤ step * (start ⌈/⌉ step) :=
    (ceilDiv_le_iff_le_mul (by omega)).mp (Nat.le_refl _)
  have hnext : step * (start ⌈/⌉ step) < start + step := by
    have hle : step * (start ⌈/⌉ step) ≤ start + step - 1 := Nat.mul_div_le _ _
    omega
  refine ⟨step * (start ⌈/⌉ step), ?_, hstart, hnext⟩
  rw [mem_keptPositions, hs]
  exact ⟨Nat.lt_of_lt_of_le hnext hend, Or.inr (Nat.dvd_mul_right _ _)⟩

end Lines

open Lines

/-- What thinning keeps of more than five hundred items are the items in the first tenth and
those at multiples of the stride, in their order.  They are counted exactly; there are
fewer than before, and no more than five hundred behind the first tenth, of which
nothing is lost.  Nowhere are as many neighbours as the stride left out together.
The scores of a snippet depend on its lines at the kept positions, and their number,
alone. -/
theorem subsample_keeps_positions {total : Nat} (hlong : 500 < total) :
    (∀ (α : Type) (items : List α), items.length = total →
      (subsample items true).Sublist items ∧
      subsample items true = ((List.range total).filter fun position =>
        position < total ⌈/⌉ 10 ∨ total ⌈/⌉ 500 ∣ position).filterMap
          (fun position => items[position]?) ∧
      (subsample items true).length =
        total ⌈/⌉ 10 + total ⌈/⌉ (total ⌈/⌉ 500) - (total ⌈/⌉ 10) ⌈/⌉ (total ⌈/⌉ 500) ∧
      (subsample items true).length ≤ total ⌈/⌉ 10 + 500 ∧
      (subsample items true).length < total ∧
      (subsample items true).take (total ⌈/⌉ 10) = items.take (total ⌈/⌉ 10)) ∧
    (∀ start, start + total ⌈/⌉ 500 ≤ total →
      ∃ position, start ≤ position ∧ position < start + total ⌈/⌉ 500 ∧
        (position < total ⌈/⌉ 10 ∨ total ⌈/⌉ 500 ∣ position)) ∧
    ∀ (registry : Registry) (first second : List Char),
      (normalize first).length = total → (normalize second).length = total →
      (∀ position < total, (position < total ⌈/⌉ 10 ∨ total ⌈/⌉ 500 ∣ position) →
        (normalize first)[position]? = (normalize second)[position]?) →
      scoreAll first true registry = scoreAll second true registry := by
  refine ⟨?_, ?_, ?_⟩
  · rintro α items rfl
    have htop : topLength items.length = items.length ⌈/⌉ 10 :=
      topLength_of_lt (Nat.lt_trans (by decide) hlong)
    have hlength := length_keptPositions hlong
    have hstep := ceilDiv_step_le hlong
    refine ⟨subsample_sublist items true, subsample_eq_filterMap hlong, ?_, ?_, ?_, ?_⟩
    · rw [length_subsample hlong, hlength]
      rfl
    · rw [length_subsample hlong, hlength]
      simp only [subsampleThreshold] at hstep ⊢
      omega
    · rw [length_subsample hlong]
      exact length_keptPositions_lt hlong
    · exact take_subsample hlong (Nat.le_of_eq htop.symm)
  · intro start hend
    obtain ⟨position, hmem, hstart, hnext⟩ := exists_mem_keptPositions hlong hend
    exact ⟨position, hstart, hnext, (mem_keptPositions.mp hmem).2⟩
  · intro registry first second hfirst hsecond hagree
    have hlines : scoredLines first true = scoredLines second true := by
      rw [scoredLines, scoredLines, subsample_eq_filterMap (hfirst ▸ hlong),
        subsample_eq_filterMap (hsecond ▸ hlong), hfirst, hsecond]
      apply List.filterMap_congr
      intro position hmem
      obtain ⟨hposition, hkept⟩ := mem_keptPositions.mp hmem
      exact hagree position hposition hkept
    rw [scoreAll_eq_map, scoreAll_eq_map, hlines]

/-- Of six hundred lines of one letter, and an empty last line, 331 stay.  A letter in the
line at position 101, which is odd and behind the first 61, can be any other. -/
theorem subsample_keeps_positions_of_one_letter :
    ∃ first second : List Char,
      first = (List.replicate 600 ['a', '\n']).flatten ∧
      second = (List.replicate 101 ['a', '\n']).flatten ++
        'b' :: '\n' :: (List.replicate 498 ['a', '\n']).flatten ∧
      (normalize first).length = 601 ∧
      normalize second = (normalize first).set 101 ['b'] ∧
      (subsample (normalize first) true).length = 331 ∧
      (subsample (normalize first) true).take 61 = (normalize first).take 61 ∧
      ∀ registry, scoreAll first true registry = scoreAll second true registry := by
  have hlength : (normalize (List.replicate 600 ['a', '\n']).flatten).length = 601 := by
    decide +kernel
  have hset : normalize ((List.replicate 101 ['a', '\n']).flatten ++
      'b' :: '\n' :: (List.replicate 498 ['a', '\n']).flatten) =
        (normalize (List.replicate 600 ['a', '\n']).flatten).set 101 ['b'] := by
    decide +kernel
  obtain ⟨hkept, -, hscores⟩ := @subsample_keeps_positions 601 (by decide)
  obtain ⟨-, -, hcount, -, -, htake⟩ := hkept _ _ hlength
  refine ⟨_, _, rfl, rfl, hlength, hset, hcount, htake, fun registry => ?_⟩
  apply hscores registry _ _ hlength
  · rw [hset, List.length_set, hlength]
  · intro position _ hposition
    rw [hset, List.getElem?_set_ne]
    rintro rfl
    exact absurd hposition (by decide)

end Polyglot
