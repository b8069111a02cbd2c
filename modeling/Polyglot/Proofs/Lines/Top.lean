/-
# The lines near the top

Whether a line is near the top is decided in words of 64 bits, where ten times an index
may not fit.  A product that does not fit is held at the greatest word, which no total
exceeds, so the test answers as it would without a bound.

The positions near the top are a prefix of a snippet.  Its length is that of a small
snippet, and else a tenth of it, rounded up: from ten lines to eleven it falls from ten
to two, and from there on it grows with the snippet.
-/

import Mathlib.Algebra.Order.Floor.Div
import Mathlib.GroupTheory.GroupAction.Ring
import Polyglot.Proofs.Lines.Thinning

namespace Polyglot

namespace Lines

/-! ## The test in words -/

theorem toNat_tenfoldSaturating (n : UInt64) :
    (tenfoldSaturating n).toNat = min (10 * n.toNat) (2 ^ 64 - 1) := by
  rw [tenfoldSaturating]
  split
  case isTrue hfits =>
      have hproduct : (n * 10).toNat = n.toNat * 10 % UInt64.size := UInt64.toNat_mul n 10
      rw [hproduct, Nat.mod_eq_of_lt hfits, Nat.mul_comm, Nat.min_eq_left]
      simp only [UInt64.size] at hfits
      omega
  case isFalse hover =>
      simp only [UInt64.size] at hover
      rw [Nat.min_eq_right (by omega)]
      rfl

/-- Holding the product at the greatest word does not change how it compares. -/
theorem tenfoldSaturating_lt_iff (index total : UInt64) :
    tenfoldSaturating index < total ↔ 10 * index.toNat < total.toNat := by
  have htotal : total.toNat < 2 ^ 64 := total.toNat_lt
  rw [UInt64.lt_iff_toNat_lt, toNat_tenfoldSaturating]
  omega

theorem isNearTopWord_iff (index total : UInt64) :
    isNearTopWord index total = true ↔ total.toNat ≤ 10 ∨ 10 * index.toNat < total.toNat := by
  rw [isNearTopWord, Bool.or_eq_true, decide_eq_true_eq, decide_eq_true_eq,
    tenfoldSaturating_lt_iff, smallSnippet]

theorem isNearTop_iff (index total : Nat) :
    isNearTop index total = true ↔ total ≤ 10 ∨ 10 * index < total := by
  rw [isNearTop, Bool.or_eq_true, decide_eq_true_eq, decide_eq_true_eq, Nat.mul_comm, smallSnippet]

/-- The test in words is the one on numbers. -/
theorem isNearTopWord_eq (index total : UInt64) :
    isNearTopWord index total = isNearTop index.toNat total.toNat := by
  rw [Bool.eq_iff_iff, isNearTopWord_iff, isNearTop_iff]

/-! ## The prefix -/

theorem filter_range_lt {bound total : Nat} (hle : bound ≤ total) :
    ((List.range total).filter fun position => position < bound) = List.range bound := by
  obtain ⟨others, rfl⟩ := Nat.exists_eq_add_of_le hle
  have hfront : ∀ position ∈ List.range bound, decide (position < bound) = true := by
    intro position hmem
    exact decide_eq_true (List.mem_range.mp hmem)
  have hbehind : ∀ position ∈ (List.range others).map (bound + ·),
      ¬ decide (position < bound) = true := by
    rw [List.forall_mem_map]
    intro position _
    rw [decide_eq_true_eq]
    omega
  rw [List.range_add, List.filter_append, List.filter_eq_self.mpr hfront,
    List.filter_eq_nil_iff.mpr hbehind, List.append_nil]

/-- The positions near the top of a snippet are its first ones. -/
theorem filter_isNearTop_range (total : Nat) :
    ((List.range total).filter fun position => isNearTop position total) =
      List.range (topLength total) := by
  rw [← filter_range_lt (topLength_le total)]
  apply List.filter_congr
  intro position hmem
  rw [Bool.eq_iff_iff, isNearTop_iff_lt_topLength (List.mem_range.mp hmem), decide_eq_true_eq]

theorem filter_isNearTopWord_range (total : UInt64) :
    ((List.range total.toNat).filter fun position =>
      isNearTopWord (UInt64.ofNat position) total) = List.range (topLength total.toNat) := by
  rw [← filter_isNearTop_range]
  apply List.filter_congr
  intro position hmem
  have hfits : position < 2 ^ 64 := Nat.lt_trans (List.mem_range.mp hmem) total.toNat_lt
  rw [isNearTopWord_eq, UInt64.toNat_ofNat', Nat.mod_eq_of_lt hfits]

/-- In words of 64 bits the test for the top says of every index and total what it says of
unbounded numbers.  The positions of a snippet that are near its top are a prefix of them,
all of at most ten and else a tenth, rounded up; they are two of eleven, and no fewer of
more lines than of fewer, from eleven on. -/
theorem isNearTopWord_exact_prefix :
    (∀ index total : UInt64, isNearTopWord index total = true ↔
      total.toNat ≤ 10 ∨ 10 * index.toNat < total.toNat) ∧
    (∀ index total : UInt64, isNearTopWord index total = isNearTop index.toNat total.toNat) ∧
    (∀ total : UInt64, ((List.range total.toNat).filter fun position =>
      isNearTopWord (UInt64.ofNat position) total) = List.range (topLength total.toNat)) ∧
    (∀ total, ((List.range total).filter fun position => isNearTop position total) =
      List.range (topLength total)) ∧
    (∀ total, topLength total = if total ≤ 10 then total else total ⌈/⌉ 10) ∧
    (∀ total, topLength total ≤ total) ∧
    topLength 10 = 10 ∧ topLength 11 = 2 ∧
    ∀ fewer more, 11 ≤ fewer → fewer ≤ more → topLength fewer ≤ topLength more :=
  ⟨isNearTopWord_iff, isNearTopWord_eq, filter_isNearTopWord_range, filter_isNearTop_range,
    fun _ => rfl, topLength_le, rfl, rfl, fun _ _ => topLength_le_topLength⟩

end Lines

end Polyglot
