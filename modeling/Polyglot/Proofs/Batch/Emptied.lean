/-
# A listing after a file was emptied

An empty file is never skipped.  So a file that is created or emptied below a
directory is in the listing of the directory afterwards, and the other files are
listed as before.  If the file was listed before, it keeps its place and loses its
content, and otherwise the listing is longer by one.
-/

import Polyglot.Proofs.Batch.Listing
import Polyglot.Proofs.FileTree.Put

namespace Polyglot

namespace Batch

theorem not_skips_nil (limit : Option Nat) : ¬ Skips limit [] := by
  intro skips
  cases skips with
  | tooLarge bound hlimit hlarge => exact Nat.not_lt_zero bound hlarge
  | zeroByte hmem => cases hmem
  | fewPrintable hne htext hprintable => exact hne rfl

/-- A file as it is listed after the file at a path was emptied. -/
def emptied (path : List Name) (file : FoundFile) : FoundFile :=
  if file.path = path then ⟨path, []⟩ else file

@[simp]
theorem path_emptied (path : List Name) (file : FoundFile) :
    (emptied path file).path = file.path := by
  rw [emptied]
  split
  · next heq => exact heq.symm
  · rfl

namespace IsListing

variable {directory : Node} {rest : List Name} {limit : Option Nat}
  {listed listed' : List FoundFile}

/-- There is one file at a path. -/
theorem content_eq (lists : IsListing directory limit listed) {file : FoundFile}
    (hfile : file ∈ listed) {content : List UInt8} (hmem : ⟨file.path, content⟩ ∈ listed) :
    file.content = content := by
  have hlookup := ((lists.mem_iff _).mp hfile).1
  rw [((lists.mem_iff _).mp hmem).1, Option.some.injEq, Node.file.injEq] at hlookup
  exact hlookup.symm

variable (lists : IsListing directory limit listed) (takes : directory.Takes rest)
  (lists' : IsListing (directory.put rest (.file [])) limit listed')

include lists takes lists'

/-- The emptied file is listed, and what is listed elsewhere. -/
theorem mem_put_iff (file : FoundFile) :
    file ∈ listed' ↔ file = ⟨rest, []⟩ ∨ file ∈ listed ∧ file.path ≠ rest := by
  rw [lists'.mem_iff, lists.mem_iff]
  obtain ⟨path, content⟩ := file
  by_cases hpath : path = rest
  · subst hpath
    rw [takes.lookup_put_self]
    constructor
    · rintro ⟨hcontent, -⟩
      cases hcontent
      exact Or.inl rfl
    · rintro (heq | ⟨-, hne⟩)
      · cases heq
        exact ⟨rfl, not_skips_nil limit⟩
      · exact absurd rfl hne
  · have hkind := takes.kind_lookup_put hpath []
    rw [Node.lookup_eq_some_file_iff, hkind, ← Node.lookup_eq_some_file_iff]
    simp [hpath]

/-- A file that was listed keeps its place. -/
theorem eq_map_emptied {old : List UInt8} (hmem : ⟨rest, old⟩ ∈ listed) :
    listed' = listed.map (emptied rest) := by
  have ordered : InPathOrder (listed.map (emptied rest)) := by
    rw [InPathOrder, List.pairwise_map]
    simp only [path_emptied]
    exact lists.ordered
  apply lists'.ordered.eq_of_mem_iff ordered
  intro file
  rw [lists.mem_put_iff takes lists', List.mem_map]
  constructor
  · rintro (rfl | ⟨hfile, hne⟩)
    · exact ⟨_, hmem, if_pos rfl⟩
    · exact ⟨file, hfile, if_neg hne⟩
  · rintro ⟨file, hfile, rfl⟩
    by_cases hpath : file.path = rest
    · exact Or.inl (if_pos hpath)
    · rw [emptied, if_neg hpath]
      exact Or.inr ⟨hfile, hpath⟩

/-- A file that was not listed is one more. -/
theorem length_put (hnew : ∀ old, ⟨rest, old⟩ ∉ listed) : listed'.length = listed.length + 1 := by
  have hperm : listed'.Perm (⟨rest, []⟩ :: listed) := by
    refine (List.perm_ext_iff_of_nodup lists'.ordered.nodup
      (List.nodup_cons.mpr ⟨hnew [], lists.ordered.nodup⟩)).mpr ?_
    intro file
    rw [lists.mem_put_iff takes lists', List.mem_cons]
    refine or_congr_right (and_iff_left_of_imp ?_)
    rintro hfile rfl
    exact hnew file.content hfile
  exact hperm.length_eq

/-- The items are the same exactly if the file was listed and is detected as an empty file is. -/
theorem map_listedItem_eq_iff (options : DetectOptions) (registry : Registry) :
    listed'.map (listedItem options registry) = listed.map (listedItem options registry) ↔
      ∃ old, ⟨rest, old⟩ ∈ listed ∧
        detectBytes old options registry = detectBytes [] options registry := by
  by_cases hnew : ∀ old, ⟨rest, old⟩ ∉ listed
  · have hlength := lists.length_put takes lists' hnew
    constructor
    · intro heq
      have hsame := congrArg List.length heq
      rw [List.length_map, List.length_map] at hsame
      omega
    · rintro ⟨old, hmem, -⟩
      exact absurd hmem (hnew old)
  · simp only [not_forall, not_not] at hnew
    obtain ⟨old, hmem⟩ := hnew
    rw [lists.eq_map_emptied takes lists' hmem, List.map_map, List.map_inj_left]
    constructor
    · intro heq
      have hitem := heq _ hmem
      rw [Function.comp_apply, emptied, if_pos rfl] at hitem
      exact ⟨old, hmem, (congrArg FileItem.detection hitem).symm⟩
    · rintro ⟨content, hcontent, hsame⟩ file hfile
      rw [Function.comp_apply, emptied]
      split
      · next hpath =>
          subst hpath
          rw [listedItem, listedItem, lists.content_eq hfile hcontent]
          exact congrArg (FileItem.mk _) hsame.symm
      · rfl

end IsListing

end Batch

end Polyglot
