/-
# Files in the order of their paths

Paths are compared name by name and names byte by byte.  A directory is a
beginning of every path below it, and whatever stands between two paths with one
beginning has this beginning too: so the files below a directory stand together,
which the order of the written paths would not give.
-/

import Polyglot.Batch.Basic

namespace Polyglot

namespace Batch

/-- Files stand in the order of their paths, and no path comes twice. -/
def InPathOrder (files : List FoundFile) : Prop :=
  files.Pairwise fun first second => first.path < second.path

theorem sortFiles_perm (files : List FoundFile) : (sortFiles files).Perm files :=
  List.mergeSort_perm files _

/-- Sorting puts files with distinct paths in order. -/
theorem inPathOrder_sortFiles {files : List FoundFile}
    (nodup : (files.map FoundFile.path).Nodup) : InPathOrder (sortFiles files) := by
  have hle : (sortFiles files).Pairwise fun first second => first.path ≤ second.path := by
    have htrans (first second third : FoundFile) (h12 : decide (first.path ≤ second.path) = true)
        (h23 : decide (second.path ≤ third.path) = true) :
        decide (first.path ≤ third.path) = true :=
      decide_eq_true (List.le_trans (of_decide_eq_true h12) (of_decide_eq_true h23))
    have htotal (first second : FoundFile) :
        (decide (first.path ≤ second.path) || decide (second.path ≤ first.path)) = true := by
      simpa using List.le_total first.path second.path
    exact (List.pairwise_mergeSort htrans htotal files).imp of_decide_eq_true
  have hne : (sortFiles files).Pairwise fun first second => first.path ≠ second.path :=
    List.pairwise_map.mp (((sortFiles_perm files).map FoundFile.path).nodup_iff.mpr nodup)
  exact (hle.and hne).imp fun ⟨hle, hne⟩ => Std.lt_of_le_of_ne hle hne

namespace InPathOrder

variable {files others : List FoundFile}

theorem filter (ordered : InPathOrder files) (p : FoundFile → Bool) :
    InPathOrder (files.filter p) :=
  ordered.sublist List.filter_sublist

theorem nodup (ordered : InPathOrder files) : files.Nodup := by
  apply List.Pairwise.imp _ ordered
  rintro first second hlt rfl
  exact List.lt_irrefl _ hlt

/-- The order and the files leave one list. -/
theorem eq_of_mem_iff (ordered : InPathOrder files) (ordered' : InPathOrder others)
    (hmem : ∀ file, file ∈ files ↔ file ∈ others) : files = others := by
  have hperm : files.Perm others :=
    (List.perm_ext_iff_of_nodup ordered.nodup ordered'.nodup).mpr hmem
  apply List.Perm.eq_of_pairwise _ ordered ordered' hperm
  intro first second _ _ hlt hgt
  exact absurd hgt (List.lt_asymm hlt)

end InPathOrder

/-! ## Directories are blocks -/

end Batch

end Polyglot
