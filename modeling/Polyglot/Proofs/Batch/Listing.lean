/-
# What a batch lists

A batch lists the regular files below a directory, except for those that it
skips, in the order of their paths.  `IsListing` says which list this is by what
is at the locations below the directory, without walking or sorting anything,
and there is only one such list.  So neither the order in which a walk yields
the entries nor that in which several workers finish changes what is written.

Which files are skipped is said by `Skips`: the size decides first and without a
look at the content, and a zero byte decides before the text does.  The share of
printable bytes is compared as a fraction, without rounding.
-/

import Polyglot.Proofs.Batch.Arrival
import Polyglot.Proofs.Batch.Order
import Polyglot.Proofs.FileTree.Walk
import Polyglot.Proofs.Text.Utf8

namespace Polyglot

namespace Batch

open ItemWriter

/-! ## Files that are skipped -/

/-- When a file is skipped: it is too large, or it holds a zero byte, or it holds something
that is the bytes of no text and less than a quarter of which is printable. -/
inductive Skips (limit : Option Nat) (content : List UInt8) : Prop
  /-- The file is larger than the limit. -/
  | tooLarge (bound : Nat) (hlimit : limit = some bound) (hlarge : bound < content.length)
  /-- The file holds a zero byte. -/
  | zeroByte (hmem : 0 ∈ content)
  /-- The file is no text, and too few of its bytes are printable. -/
  | fewPrintable (hne : content ≠ []) (htext : ∀ text, Utf8.encode text ≠ content)
      (hprintable : 4 * content.countP isPrintable < content.length)

theorem isTooLarge_iff (limit : Option Nat) (size : Nat) :
    isTooLarge limit size = true ↔ ∃ bound, limit = some bound ∧ bound < size := by
  cases limit <;> simp [isTooLarge]

theorem isProbablyBinary_iff (content : List UInt8) :
    isProbablyBinary content = true ↔ 0 ∈ content ∨ content ≠ [] ∧
      (∀ text, Utf8.encode text ≠ content) ∧
        4 * content.countP isPrintable < content.length := by
  have htext : Utf8.isValid content = false ↔ ∀ text, Utf8.encode text ≠ content := by
    rw [← Bool.not_eq_true, Utf8.isValid_iff_exists_encode, not_exists]
  rw [← htext, isProbablyBinary]
  by_cases hne : content = []
  · subst hne
    simp
  · by_cases hzero : 0 ∈ content <;> cases Utf8.isValid content <;> simp [hne, hzero]

/-- Whether a file is skipped. -/
def isSkipped (limit : Option Nat) (content : List UInt8) : Bool :=
  isTooLarge limit content.length || isProbablyBinary content

theorem isSkipped_iff (limit : Option Nat) (content : List UInt8) :
    isSkipped limit content = true ↔ Skips limit content := by
  rw [isSkipped, Bool.or_eq_true, isTooLarge_iff, isProbablyBinary_iff]
  constructor
  · rintro (⟨bound, hlimit, hlarge⟩ | hmem | ⟨hne, htext, hprintable⟩)
    · exact .tooLarge bound hlimit hlarge
    · exact .zeroByte hmem
    · exact .fewPrintable hne htext hprintable
  · rintro (⟨bound, hlimit, hlarge⟩ | hmem | ⟨hne, htext, hprintable⟩)
    · exact Or.inl ⟨bound, hlimit, hlarge⟩
    · exact Or.inr (Or.inl hmem)
    · exact Or.inr (Or.inr ⟨hne, htext, hprintable⟩)

/-- A file that is not skipped has the detection in its bytes. -/
theorem fileResult_eq (options : BatchOptions) (registry : Registry) (content : List UInt8) :
    fileResult options registry content =
      if isSkipped options.maxFileSize content then none
      else some (detectBytes content options.detect registry) := by
  rw [fileResult, isSkipped]
  cases isTooLarge options.maxFileSize content.length <;> cases isProbablyBinary content <;> rfl

/-! ## Listings -/

/-- The list of the files below a directory that are not skipped, in the order of their
paths. -/
structure IsListing (directory : Node) (limit : Option Nat) (listed : List FoundFile) :
    Prop where
  /-- Exactly the regular files below the directory that are not skipped are listed. -/
  mem_iff : ∀ file, file ∈ listed ↔
    directory.lookup file.path = some (.file file.content) ∧ ¬ Skips limit file.content
  /-- They are listed in the order of their paths, each of them once. -/
  ordered : InPathOrder listed

/-- There is only one listing. -/
theorem IsListing.eq {directory : Node} {limit : Option Nat} {listed listed' : List FoundFile}
    (lists : IsListing directory limit listed) (lists' : IsListing directory limit listed') :
    listed = listed' := by
  apply lists.ordered.eq_of_mem_iff lists'.ordered
  intro file
  rw [lists.mem_iff, lists'.mem_iff]

variable {entries : List (Name × Node)} {walked : List (List Name × Node)}

/-- A listing is made of the files of a walk by leaving out those that are skipped and putting
the others in order. -/
theorem isListing_of_perm (walks : (Node.directory entries).IsWalk walked)
    {limit : Option Nat} {listed : List FoundFile}
    (hperm : listed.Perm
      ((Node.regularFiles walked).filter fun file => !isSkipped limit file.content))
    (ordered : InPathOrder listed) : IsListing (.directory entries) limit listed := by
  refine ⟨?_, ordered⟩
  intro file
  rw [hperm.mem_iff, List.mem_filter, walks.mem_regularFiles_iff, Bool.not_eq_true',
    ← Bool.not_eq_true, isSkipped_iff]

/-- Every walk gives the same files in the order of their paths. -/
theorem sortFiles_regularFiles_eq (walks : (Node.directory entries).IsWalk walked)
    {walked' : List (List Name × Node)} (walks' : (Node.directory entries).IsWalk walked') :
    sortFiles (Node.regularFiles walked) = sortFiles (Node.regularFiles walked') := by
  apply (inPathOrder_sortFiles walks.nodup_path).eq_of_mem_iff
    (inPathOrder_sortFiles walks'.nodup_path)
  intro file
  rw [(sortFiles_perm _).mem_iff, (sortFiles_perm _).mem_iff, walks.mem_regularFiles_iff,
    walks'.mem_regularFiles_iff]

/-- What is written for a file: its path and the detection in its text. -/
def listedItem (options : DetectOptions) (registry : Registry) (file : FoundFile) : FileItem :=
  ⟨file.pathText, detect (Utf8.decodeLossy file.content) options registry⟩

/-- The items of a batch are those of the files that are not skipped. -/
theorem items_results (options : BatchOptions) (registry : Registry) (files : List FoundFile) :
    items (results options registry files) =
      (files.filter fun file => !isSkipped options.maxFileSize file.content).map
        (listedItem options.detect registry) := by
  induction files with
  | nil => rfl
  | cons file rest ih =>
      have hcons : results options registry (file :: rest) =
          (file.pathText, fileResult options registry file.content) ::
            results options registry rest := rfl
      rw [hcons, fileResult_eq]
      cases hskip : isSkipped options.maxFileSize file.content with
      | true =>
          rw [if_pos rfl, items_cons_none, ih, List.filter_cons_of_neg (by simp [hskip])]
      | false =>
          rw [if_neg Bool.false_ne_true, items_cons_some, ih,
            List.filter_cons_of_pos (by simp [hskip]), List.map_cons]
          rfl

/-! ## Runs -/

/-- The regular files below the directory that a path leads to, in the order of their paths. -/
def filesAt (w : Workspace) (root : Path) : List FoundFile :=
  sortFiles (match w.directory? root with
    | some directory => directory.files
    | none => [])

/-- A run writes the results for these files. -/
theorem run_eq (w : Workspace) (root : Path) (options : BatchOptions) (registry : Registry)
    (sink : Sink) : run w root options registry sink =
      writeArray options.workers (inOrder (results options registry (filesAt w root)))
        (results options registry (filesAt w root)) sink := rfl

/-- The results for the files of a walk, in the order of their paths. -/
def walkResults (options : BatchOptions) (registry : Registry)
    (walked : List (List Name × Node)) : List (String × FileResult) :=
  results options registry (sortFiles (Node.regularFiles walked))

theorem directory?_eq_some {w : Workspace} {root : Path}
    (hfind : w.find root = .ok (.directory entries)) :
    w.directory? root = some (.directory entries) := by
  rw [Workspace.directory?, hfind]

theorem directory?_eq_none {w : Workspace} {root : Path}
    (hfind : ∀ entries, w.find root ≠ .ok (.directory entries)) : w.directory? root = none := by
  rw [Workspace.directory?]
  split
  · next entries hdirectory => exact absurd hdirectory (hfind entries)
  · rfl

/-- A run on a directory writes the results for any walk of it, in whatever order they
arrive. -/
theorem writeArray_walkResults_eq_run {w : Workspace} (distinct : w.tree.Distinct) {root : Path}
    (hfind : w.find root = .ok (.directory entries))
    (walks : (Node.directory entries).IsWalk walked) (options : BatchOptions)
    (registry : Registry) {arrivals : List Arrival}
    (hperm : arrivals.Perm (inOrder (walkResults options registry walked))) (sink : Sink) :
    writeArray options.workers arrivals (walkResults options registry walked) sink =
      run w root options registry sink := by
  have hwalk := (Workspace.distinct_of_find distinct hfind).isWalk_walk
  have hfiles : sortFiles (Node.directory entries).files =
      sortFiles (Node.regularFiles walked) := by
    rw [Node.files_eq_regularFiles_walk, sortFiles_regularFiles_eq hwalk walks]
  rw [writeArray_eq_one_of_perm hperm, run, directory?_eq_some hfind]
  simp only [writeFiles, hfiles]
  rw [writeArray_eq_one_of_perm (List.Perm.refl _), walkResults]

/-- Without a limit, the results for a walk are written as the array of the items of the
listing. -/
theorem exists_listing_of_walk (walks : (Node.directory entries).IsWalk walked)
    (options : BatchOptions) (registry : Registry) :
    ∃ listed written, IsListing (.directory entries) options.maxFileSize listed ∧
      writeArray 1 [] (walkResults options registry walked) (Sink.empty none) = .ok written ∧
      written.sink.text = (Json.array (listed.map fun file =>
        (listedItem options.detect registry file).toJson)).write := by
  obtain ⟨written, hwritten, htext, -⟩ :=
    exists_writeArray_one_eq_ok [] (walkResults options registry walked)
  have lists := isListing_of_perm walks
    ((sortFiles_perm (Node.regularFiles walked)).filter _)
    ((inPathOrder_sortFiles walks.nodup_path).filter
      fun file => !isSkipped options.maxFileSize file.content)
  refine ⟨_, written, lists, hwritten, ?_⟩
  rw [htext, document, walkResults, items_results, List.map_map]
  rfl

/-- The files that a path leads to are listed without those that are skipped. -/
theorem isListing_filesAt {w : Workspace} (distinct : w.tree.Distinct) {root : Path}
    (hfind : w.find root = .ok (.directory entries)) (limit : Option Nat) :
    IsListing (.directory entries) limit
      ((filesAt w root).filter fun file => !isSkipped limit file.content) := by
  have hwalk := (Workspace.distinct_of_find distinct hfind).isWalk_walk
  have hfiles : filesAt w root = sortFiles (Node.regularFiles (Node.directory entries).walk) := by
    rw [filesAt, directory?_eq_some hfind, ← Node.files_eq_regularFiles_walk]
  rw [hfiles]
  exact isListing_of_perm hwalk ((sortFiles_perm _).filter _)
    ((inPathOrder_sortFiles hwalk.nodup_path).filter _)

theorem filesAt_eq_nil {w : Workspace} {root : Path}
    (hfind : ∀ entries, w.find root ≠ .ok (.directory entries)) : filesAt w root = [] := by
  rw [filesAt, directory?_eq_none hfind, sortFiles, List.mergeSort_nil]

/-- Without a limit on the output, a run writes the document of the results for these files and
counts them. -/
theorem exists_run_eq_document (w : Workspace) (root : Path) (options : BatchOptions)
    (registry : Registry) :
    ∃ written, run w root options registry (Sink.empty none) = .ok written ∧
      written.sink.text = (document (results options registry (filesAt w root))).write ∧
      written.stats = countsAfter ⟨0, 0, 0⟩ (results options registry (filesAt w root)) := by
  rw [run_eq, writeArray_eq_one_of_perm (List.Perm.refl _)]
  obtain ⟨written, hextends, hwritten, hstats⟩ := @writeArray_one_of_fits []
    (results options registry (filesAt w root)) (Sink.empty none)
    (Sink.fits_of_room_eq_none rfl _)
  exact ⟨written, hwritten, Sink.text_of_bytes_eq hextends.bytes_eq, hstats⟩

/-- A run writes the items of the files that are not skipped and counts the others as skipped. -/
theorem exists_run_eq_listing (w : Workspace) (root : Path) (options : BatchOptions)
    (registry : Registry) {listed : List FoundFile}
    (hlisted : ((filesAt w root).filter fun file =>
      !isSkipped options.maxFileSize file.content) = listed) :
    ∃ written, run w root options registry (Sink.empty none) = .ok written ∧
      written.sink.text = (Json.array (listed.map fun file =>
        (listedItem options.detect registry file).toJson)).write ∧
      written.stats.seen = (filesAt w root).length ∧ written.stats.detected = listed.length ∧
      written.stats.detected + written.stats.skipped = (filesAt w root).length := by
  obtain ⟨written, hwritten, htext, hstats⟩ := exists_run_eq_document w root options registry
  have hitems := items_results options registry (filesAt w root)
  have hlength : (results options registry (filesAt w root)).length = (filesAt w root).length :=
    List.length_map _
  rw [hlisted] at hitems
  refine ⟨written, hwritten, ?_, ?_, ?_, ?_⟩
  · rw [htext, document, hitems, List.map_map]
    rfl
  · rw [hstats, countsAfter, hlength, Nat.zero_add]
  · rw [hstats, countsAfter, hitems, List.length_map]
    exact Nat.zero_add _
  · rw [hstats, ← hlength, ← length_items_add_skippedCount]
    simp only [countsAfter, Nat.zero_add]

/-- A workspace with the files `a!b`, `n` and `a/z`, of which the second holds a zero byte, and
a link `l`.  The texts of the paths come in another order than the paths. -/
def sampleWorkspace : Workspace :=
  ((((⟨.directory [], []⟩ : Workspace).makeFile (Path.ofText "a!b") []).makeFile
    (Path.ofText "n") [0]).makeLink (Path.ofText "l") (Path.ofText "a")).makeFile
      (Path.ofText "a/z") [0x78]

/-- The entries of its directory. -/
def sampleEntries : List (Name × Node) :=
  [([0x61, 0x21, 0x62], .file []), ([0x6e], .file [0]), ([0x6c], .link ⟨false, [[0x61]], false⟩),
    ([0x61], .directory [([0x7a], .file [0x78])])]

theorem find_sampleWorkspace :
    sampleWorkspace.find (Path.ofText ".") = .ok (.directory sampleEntries) := rfl

theorem distinct_sampleWorkspace : sampleWorkspace.tree.Distinct := by
  apply Workspace.distinct_makeFile
  apply Workspace.distinct_makeLink
  apply Workspace.distinct_makeFile
  apply Workspace.distinct_makeFile
  exact Node.Distinct.empty

/-- The files that are listed there when no size is too large. -/
def sampleFiles : List FoundFile :=
  [⟨[[0x61], [0x7a]], [0x78]⟩, ⟨[[0x61, 0x21, 0x62]], []⟩]

theorem isListing_sampleFiles : IsListing (.directory sampleEntries) none sampleFiles :=
  isListing_of_perm
    (Workspace.distinct_of_find distinct_sampleWorkspace find_sampleWorkspace).isWalk_walk
    (by decide) (by rw [InPathOrder]; decide)

end Batch

end Polyglot
