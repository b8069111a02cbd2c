/-
# Thinning out long snippets

The lines near the top are a prefix of a snippet, whose length is a rounded-up
tenth of it.  Thinning keeps that prefix whole and in its place, and of the
other lines those at multiples of the stride.  So a position in the prefix is
the same before and after thinning.
-/

import Mathlib.Data.List.Basic
import Mathlib.Data.Nat.Basic
import Polyglot.Lines

namespace Polyglot

namespace Lines

/-- The number of lines near the top of a snippet. -/
def topLength (total : Nat) : Nat :=
  if total ≤ smallSnippet then total else (total + 9) / 10

theorem topLength_of_le {total : Nat} (hsmall : total ≤ smallSnippet) :
    topLength total = total :=
  if_pos hsmall

theorem topLength_of_lt {total : Nat} (hlong : smallSnippet < total) :
    topLength total = (total + 9) / 10 :=
  if_neg (Nat.not_le.mpr hlong)

/-- The lines near the top are those in front of a position. -/
theorem isNearTop_iff_lt_topLength {index total : Nat} (hindex : index < total) :
    isNearTop index total = true ↔ index < topLength total := by
  rw [isNearTop, Bool.or_eq_true, decide_eq_true_eq, decide_eq_true_eq]
  by_cases hsmall : total ≤ smallSnippet
  · simp [topLength_of_le hsmall, hsmall, hindex]
  · rw [topLength_of_lt (Nat.not_le.mp hsmall)]
    omega

theorem topLength_le (total : Nat) : topLength total ≤ total := by
  by_cases hsmall : total ≤ smallSnippet
  · exact Nat.le_of_eq (topLength_of_le hsmall)
  · rw [topLength_of_lt (Nat.not_le.mp hsmall)]
    simp only [smallSnippet] at hsmall
    omega

/-- A snippet that is not small has no more lines near its top than a longer one. -/
theorem topLength_le_topLength {kept total : Nat} (hlong : smallSnippet < kept)
    (hle : kept ≤ total) : topLength kept ≤ topLength total := by
  rw [topLength_of_lt hlong, topLength_of_lt (Nat.lt_of_lt_of_le hlong hle)]
  omega

variable {α β : Type}

/-- The entries in front of a position are a prefix. -/
theorem filter_zipIdx_lt (lines : List α) (start bound : Nat) :
    ((lines.zipIdx start).filter fun entry => entry.2 < bound) =
      (lines.zipIdx start).take (bound - start) := by
  induction lines generalizing start with
  | nil => simp
  | cons line lines ih =>
      rw [List.zipIdx_cons, List.filter_cons, ih]
      by_cases hbound : start < bound
      · have hcount : bound - start = bound - (start + 1) + 1 := by omega
        simp [hbound, hcount]
      · simp [hbound, show bound - start = 0 by omega, show bound - (start + 1) = 0 by omega]

/-- Counting items does not need their positions. -/
theorem countP_fst_zipIdx (chosen : α → Bool) (items : List α) :
    (items.zipIdx.countP fun entry => chosen entry.1) = items.countP chosen := by
  conv_rhs => rw [← List.zipIdx_map_fst 0 items, List.countP_map]
  rfl

@[simp]
theorem subsample_false (lines : List α) : subsample lines false = lines := rfl

theorem filter_isKept (lines : List α) :
    (lines.zipIdx.filter fun entry => isKept lines.length entry.2) =
      lines.zipIdx.take (topLength lines.length) ++
        (lines.zipIdx.drop (topLength lines.length)).filter fun entry =>
          entry.2 % stride lines.length == 0 := by
  have htop : (lines.zipIdx.take (topLength lines.length)).filter
      (fun entry => isKept lines.length entry.2) =
        lines.zipIdx.take (topLength lines.length) := by
    rw [List.filter_eq_self]
    intro entry hmem
    have hlt : entry.2 < topLength lines.length := by
      rw [← Nat.sub_zero (topLength lines.length), ← filter_zipIdx_lt lines 0] at hmem
      simpa using (List.mem_filter.mp hmem).2
    have hindex := Nat.lt_of_lt_of_le hlt (topLength_le lines.length)
    rw [isKept, (isNearTop_iff_lt_topLength hindex).mpr hlt, Bool.true_or]
  have hrest : (lines.zipIdx.drop (topLength lines.length)).filter
      (fun entry => isKept lines.length entry.2) =
        (lines.zipIdx.drop (topLength lines.length)).filter fun entry =>
          entry.2 % stride lines.length == 0 := by
    apply List.filter_congr
    intro entry hmem
    obtain ⟨position, hposition, rfl⟩ := List.mem_drop_iff_getElem.mp hmem
    rw [List.length_zipIdx] at hposition
    have hfar : isNearTop (topLength lines.length + position) lines.length = false := by
      rw [← Bool.not_eq_true, isNearTop_iff_lt_topLength (by omega)]
      omega
    simp [isKept, hfar]
  calc (lines.zipIdx.filter fun entry => isKept lines.length entry.2)
    _ = (lines.zipIdx.take (topLength lines.length) ++
          lines.zipIdx.drop (topLength lines.length)).filter
            (fun entry => isKept lines.length entry.2) := by rw [List.take_append_drop]
    _ = _ := by rw [List.filter_append, htop, hrest]

/-- Thinning keeps the lines near the top, and of those behind them the ones at
multiples of the stride. -/
theorem subsample_eq_append {lines : List α} (hlong : subsampleThreshold < lines.length) :
    subsample lines true = lines.take (topLength lines.length) ++
      ((lines.zipIdx.drop (topLength lines.length)).filter fun entry =>
        entry.2 % stride lines.length == 0).map Prod.fst := by
  rw [subsample, if_pos (by simpa using hlong), filter_isKept, List.map_append, List.map_take,
    List.zipIdx_map_fst]

/-- In front of the end of the top, thinning changes nothing. -/
theorem take_subsample {lines : List α} (hlong : subsampleThreshold < lines.length)
    {count : Nat} (hcount : count ≤ topLength lines.length) :
    (subsample lines true).take count = lines.take count := by
  have htop : count ≤ (lines.take (topLength lines.length)).length := by
    rw [List.length_take]
    exact Nat.le_min.mpr ⟨hcount, Nat.le_trans hcount (topLength_le lines.length)⟩
  rw [subsample_eq_append hlong, List.take_append_of_le_length htop, List.take_take,
    Nat.min_eq_left hcount]

theorem subsample_sublist (lines : List α) (heuristic : Bool) :
    (subsample lines heuristic).Sublist lines := by
  rw [subsample]
  split
  · have hsublist := (List.filter_sublist (p := fun entry => isKept lines.length entry.2)
      (l := lines.zipIdx)).map Prod.fst
    rwa [List.zipIdx_map_fst] at hsublist
  · exact List.Sublist.refl lines

end Lines

end Polyglot
