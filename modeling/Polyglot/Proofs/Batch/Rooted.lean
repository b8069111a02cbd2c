/-
# However the directory is written

There are many ways to write the path to one directory: with dots, doubled
slashes or a slash at the end, up and down again, or through a link.  What a batch
by full paths writes does not depend on this.  All full paths begin with the parts
of the path of the directory, so they are ordered by what is behind it; each leads
to the file that was found; and taking off the path of the directory leaves the
names below it, which are never nothing.  So it writes what `Batch.run` does, which
knows the names below the directory only.
-/

import Polyglot.Batch.Rooted
import Polyglot.Proofs.Batch.Listing
import Polyglot.Proofs.FileTree.Below

namespace Polyglot

open Polyglot.Path (IsName)

namespace Batch

open ItemWriter

variable {w : Workspace} {root root' : List UInt8} {entries : List (Name × Node)}
  {file other : FoundFile} {files : List FoundFile} {walked : List (List Name × Node)}

/-- A regular file below a directory, under proper names. -/
structure IsBelow (entries : List (Name × Node)) (file : FoundFile) : Prop where
  /-- The names are proper. -/
  named : ∀ name ∈ file.path, IsName name
  /-- They lead to the file. -/
  lookup_eq : (Node.directory entries).lookup file.path = some (.file file.content)

namespace IsBelow

theorem path_ne_nil (isBelow : IsBelow entries file) : file.path ≠ [] := by
  intro hnil
  have hlookup := isBelow.lookup_eq
  rw [hnil] at hlookup
  cases hlookup

/-- The path of the file is no empty text. -/
theorem pathText_ne_empty (isBelow : IsBelow entries file) : file.pathText ≠ "" := by
  obtain ⟨path, content⟩ := file
  have hbytes : FoundFile.pathBytes ⟨path, content⟩ ≠ [] := by
    cases path with
    | nil => exact absurd rfl isBelow.path_ne_nil
    | cons name rest =>
        have hname := (isBelow.named name List.mem_cons_self).ne_nil
        cases rest with
        | nil => simpa [FoundFile.pathBytes] using hname
        | cons next rest => simp [FoundFile.pathBytes, List.intercalate_cons_cons]
  intro htext
  exact Utf8.decodeLossy_ne_nil hbytes (String.ofList_eq_empty_iff.mp htext)

/-- The full path of a file below a directory is the path of the directory with the names
behind it. -/
theorem ofBytes_fullPath (isBelow : IsBelow entries file) (root : List UInt8) :
    Path.ofBytes (fullPath root file) = (Path.ofBytes root).join file.path :=
  Path.ofBytes_foldl_addName isBelow.named root

/-- Taking off the path of the directory leaves the names. -/
theorem below?_fullPath (isBelow : IsBelow entries file) (root : List UInt8) :
    Path.below? root (fullPath root file) = some file.pathBytes :=
  Path.below?_foldl_addName isBelow.named root

theorem textBelow_fullPath (isBelow : IsBelow entries file) (root : List UInt8) :
    textBelow root (fullPath root file) = file.pathText := by
  rw [textBelow, isBelow.below?_fullPath, Option.getD_some, FoundFile.pathText]

/-- The full path leads to the file. -/
theorem resultAt_fullPath (isBelow : IsBelow entries file)
    (hfind : w.find (Path.ofBytes root) = .ok (.directory entries)) (options : BatchOptions)
    (registry : Registry) :
    resultAt w options registry (fullPath root file) =
      fileResult options registry file.content := by
  have hread := Workspace.read_of_find
    (Workspace.find_join isBelow.named hfind isBelow.lookup_eq)
  rw [resultAt, isBelow.ofBytes_fullPath, hread]

/-- Two files are in the order of their full paths as they are in that of the names below the
directory. -/
theorem keys_fullPath_le_iff (isBelow : IsBelow entries file) (isBelow' : IsBelow entries other)
    (root : List UInt8) :
    (Path.ofBytes (fullPath root file)).keys ≤ (Path.ofBytes (fullPath root other)).keys ↔
      file.path ≤ other.path := by
  rw [isBelow.ofBytes_fullPath, isBelow'.ofBytes_fullPath,
    Path.keys_join_le_iff isBelow.named isBelow'.named]

end IsBelow

/-! ## Results -/

/-- Putting the full paths in order puts the files in order. -/
theorem sortPaths_map_fullPath (isBelow : ∀ file ∈ files, IsBelow entries file)
    (root : List UInt8) :
    sortPaths (files.map (fullPath root)) = (sortFiles files).map (fullPath root) := by
  rw [sortPaths, sortFiles, List.map_mergeSort]
  intro first hfirst second hsecond
  exact decide_eq_decide.mpr
    ((isBelow first hfirst).keys_fullPath_le_iff (isBelow second hsecond) root).symm

/-- By full paths, the files of a directory have the results that they have by the names below
it. -/
theorem resultsAt_map_fullPath (isBelow : ∀ file ∈ files, IsBelow entries file)
    (hfind : w.find (Path.ofBytes root) = .ok (.directory entries)) (options : BatchOptions)
    (registry : Registry) :
    resultsAt w root options registry (files.map (fullPath root)) =
      results options registry (sortFiles files) := by
  rw [resultsAt, sortPaths_map_fullPath isBelow, List.map_map, results]
  apply List.map_congr_left
  intro file hmem
  have hfile := isBelow file ((sortFiles_perm files).mem_iff.mp hmem)
  rw [Function.comp_apply, hfile.textBelow_fullPath, hfile.resultAt_fullPath hfind]

/-- The full paths of the files of a walk. -/
def walkedPaths (root : List UInt8) (walked : List (List Name × Node)) : List (List UInt8) :=
  (Node.regularFiles walked).map (fullPath root)

theorem isBelow_of_lookup (named : w.tree.Named) {path : Path}
    (hfind : w.find path = .ok (.directory entries))
    (hlookup : (Node.directory entries).lookup file.path = some (.file file.content)) :
    IsBelow entries file := by
  obtain ⟨location, -, hdirectory⟩ := Workspace.find_eq_ok_iff.mp hfind
  exact ⟨((named.of_lookup hdirectory).2.of_lookup hlookup).1, hlookup⟩

/-- By full paths, any walk of a directory has the results that it has by the names below the
directory. -/
theorem resultsAt_walkedPaths (named : w.tree.Named)
    (hfind : w.find (Path.ofBytes root) = .ok (.directory entries))
    (walks : (Node.directory entries).IsWalk walked) (options : BatchOptions)
    (registry : Registry) :
    resultsAt w root options registry (walkedPaths root walked) =
      walkResults options registry walked :=
  resultsAt_map_fullPath
    (fun _ hmem => isBelow_of_lookup named hfind (walks.mem_regularFiles_iff.mp hmem)) hfind
    options registry

/-! ## Runs -/

/-- A run by full paths writes what a run by the names below the directory writes. -/
theorem runAt_eq_run (distinct : w.tree.Distinct) (named : w.tree.Named) (root : List UInt8)
    (options : BatchOptions) (registry : Registry) (sink : Sink) :
    runAt w root options registry sink = run w (Path.ofBytes root) options registry sink := by
  by_cases hfind : ∃ entries, w.find (Path.ofBytes root) = .ok (.directory entries)
  · obtain ⟨entries, hfind⟩ := hfind
    have hwalk := (Workspace.distinct_of_find distinct hfind).isWalk_walk
    have hresults := resultsAt_walkedPaths named hfind hwalk options registry
    rw [walkedPaths, ← Node.files_eq_regularFiles_walk] at hresults
    rw [runAt, directory?_eq_some hfind]
    simp only [hresults]
    exact writeArray_walkResults_eq_run distinct hfind hwalk options registry (List.Perm.refl _)
      sink
  · rw [not_exists] at hfind
    have hnil : resultsAt w root options registry [] = [] := by
      rw [resultsAt, sortPaths, List.mergeSort_nil, List.map_nil]
    rw [runAt, directory?_eq_none hfind, run_eq, filesAt_eq_nil hfind]
    simp only [List.map_nil, hnil]
    rfl

/-- What a batch by full paths writes and counts does not depend on how the path to the
directory is written, on the order in which the directory is walked, or on that in
which the results arrive.  It lists the files below the directory under their
paths below it: taking off the path of the directory always leaves these, and they
are no empty texts. -/
theorem runAt_of_same_directory (distinct : w.tree.Distinct) (named : w.tree.Named)
    (hfind : w.find (Path.ofBytes root) = .ok (.directory entries))
    (hfind' : w.find (Path.ofBytes root') = .ok (.directory entries)) (options : BatchOptions)
    (registry : Registry) :
    (∀ sink, runAt w root options registry sink = runAt w root' options registry sink) ∧
    (∀ walked, (Node.directory entries).IsWalk walked →
      ∀ arrivals, arrivals.Perm
          (inOrder (resultsAt w root options registry (walkedPaths root walked))) →
        ∀ sink, writeArray options.workers arrivals
            (resultsAt w root options registry (walkedPaths root walked)) sink =
          runAt w root' options registry sink) ∧
    ∃ listed written, IsListing (.directory entries) options.maxFileSize listed ∧
      runAt w root options registry (Sink.empty none) = .ok written ∧
      written.sink.text = (Json.array (listed.map fun file =>
        (listedItem options.detect registry file).toJson)).write ∧
      ∀ file ∈ listed, file.pathText ≠ "" ∧
        Path.below? root (fullPath root file) = some file.pathBytes ∧
        Path.below? root' (fullPath root' file) = some file.pathBytes := by
  have hrun (sink : Sink) : run w (Path.ofBytes root) options registry sink =
      run w (Path.ofBytes root') options registry sink := by
    simp only [run, directory?_eq_some hfind, directory?_eq_some hfind']
  simp only [runAt_eq_run distinct named]
  refine ⟨hrun, fun walked walks arrivals hperm sink => ?_, ?_⟩
  · rw [resultsAt_walkedPaths named hfind walks] at hperm ⊢
    rw [writeArray_walkResults_eq_run distinct hfind walks options registry hperm, hrun]
  · have lists := isListing_filesAt distinct hfind options.maxFileSize
    obtain ⟨written, hwritten, htext, -⟩ :=
      exists_run_eq_listing w (Path.ofBytes root) options registry rfl
    refine ⟨_, written, lists, hwritten, htext, fun file hmem => ?_⟩
    have hfile := isBelow_of_lookup named hfind ((lists.mem_iff file).mp hmem).1
    exact ⟨hfile.pathText_ne_empty, hfile.below?_fullPath root, hfile.below?_fullPath root'⟩

theorem named_sampleWorkspace : sampleWorkspace.tree.Named := by
  have htree : sampleWorkspace.tree = .directory sampleEntries := rfl
  rw [htree]
  refine .directory (by decide) ?_
  simp only [sampleEntries, List.forall_mem_cons]
  exact ⟨.file _, .file _, .link _, .directory (by decide) (by simpa using .file _), nofun⟩

/-- Up again from what a link leads to is one way to write where one is. -/
theorem runAt_of_same_directory_of_sampleWorkspace :
    ∃ written,
      runAt sampleWorkspace (Utf8.encode ".".toList) ⟨⟨true, false⟩, none, 2⟩ ⟨[.unknown]⟩
        (Sink.empty none) = .ok written ∧
      runAt sampleWorkspace (Utf8.encode "l//..//".toList) ⟨⟨true, false⟩, none, 2⟩ ⟨[.unknown]⟩
        (Sink.empty none) = .ok written ∧
      written.sink.text = (Json.array [FileItem.toJson ⟨"a/z", .language "Unknown"⟩,
        FileItem.toJson ⟨"a!b", .language "Unknown"⟩]).write ∧
      Path.below? (Utf8.encode "l//..//".toList) (Utf8.encode "l//..//a/z".toList) =
        some (Utf8.encode "a/z".toList) := by
  have hpath : Path.ofBytes (Utf8.encode "l//..//".toList) =
      ⟨false, [[0x6c], Path.above], true⟩ := by
    decide
  have hlink : sampleWorkspace.find (Path.ofBytes (Utf8.encode "l//..//".toList)) =
      .ok (.directory sampleEntries) := by
    rw [hpath]
    rfl
  obtain ⟨hsame, -, listed, written, lists, hwritten, htext, hfiles⟩ :=
    runAt_of_same_directory distinct_sampleWorkspace named_sampleWorkspace find_sampleWorkspace
      hlink ⟨⟨true, false⟩, none, 2⟩ ⟨[.unknown]⟩
  obtain rfl := lists.eq isListing_sampleFiles
  refine ⟨written, hwritten, (hsame _).symm.trans hwritten, ?_, ?_⟩
  · rw [htext]
    decide +kernel
  · exact (hfiles _ List.mem_cons_self).2.2

end Batch

end Polyglot
