/-
# A limit on the size of files

A limit leaves out the files that are larger, and changes nothing else: not the
other items, not their order, and not the number of files that are met.  What is
left out is counted among the files that are skipped.  So a run with a limit is
known from the run without one and the sizes of the files, and a greater limit can
only add items.
-/

import Polyglot.Proofs.Batch.Listing

namespace Polyglot

namespace BatchOptions

/-- The same options with another limit on the size. -/
def withLimit (options : BatchOptions) (limit : Option Nat) : BatchOptions :=
  { options with maxFileSize := limit }

end BatchOptions

namespace Batch

open ItemWriter

/-- The files of at most so many bytes. -/
def within (limit : Nat) (files : List FoundFile) : List FoundFile :=
  files.filter fun file => file.content.length ≤ limit

/-- The number of files of more bytes. -/
def countBeyond (limit : Nat) (files : List FoundFile) : Nat :=
  files.countP fun file => limit < file.content.length

theorem length_within_add_countBeyond (limit : Nat) (files : List FoundFile) :
    (within limit files).length + countBeyond limit files = files.length := by
  rw [within, countBeyond, ← List.countP_eq_length_filter,
    List.length_eq_countP_add_countP (fun file => file.content.length ≤ limit)]
  simp only [decide_eq_true_eq, Nat.not_le]

/-- With a limit, a file is skipped that is larger or that is skipped without a limit. -/
theorem isSkipped_some (limit : Nat) (content : List UInt8) :
    isSkipped (some limit) content = (decide (limit < content.length) || isSkipped none content) :=
  rfl

/-- What is listed with a limit are the files within the limit of what is listed without. -/
theorem filter_isSkipped_some (limit : Nat) (files : List FoundFile) :
    (files.filter fun file => !isSkipped (some limit) file.content) =
      within limit (files.filter fun file => !isSkipped none file.content) := by
  rw [within, List.filter_filter]
  apply List.filter_congr
  intro file _
  rw [isSkipped_some, Bool.not_or, ← decide_not]
  simp only [Nat.not_lt]

theorem within_sublist_within {limit greater : Nat} (hle : limit ≤ greater)
    (files : List FoundFile) : (within limit files).Sublist (within greater files) := by
  apply List.monotone_filter_right
  intro file hfile
  exact decide_eq_true (Nat.le_trans (of_decide_eq_true hfile) hle)

/-- A run with a limit on the size of files writes the items of the run without a limit whose
files are within the limit, as they are and in their order.  It meets the same
files, and those that it leaves out are counted as skipped where the other run
counts a detection.  So a greater limit only adds items. -/
theorem run_with_limit {w : Workspace} (distinct : w.tree.Distinct) (root : Path)
    (options : BatchOptions) (registry : Registry) :
    ∃ listed full,
      (∀ entries, w.find root = .ok (.directory entries) →
        IsListing (.directory entries) none listed) ∧
      ((∀ entries, w.find root ≠ .ok (.directory entries)) → listed = []) ∧
      run w root (options.withLimit none) registry (Sink.empty none) = .ok full ∧
      full.sink.text = (Json.array (listed.map fun file =>
        (listedItem options.detect registry file).toJson)).write ∧
      (∀ limit, ∃ limited,
        run w root (options.withLimit (some limit)) registry (Sink.empty none) = .ok limited ∧
        limited.sink.text = (Json.array ((within limit listed).map fun file =>
          (listedItem options.detect registry file).toJson)).write ∧
        limited.stats.seen = full.stats.seen ∧
        full.stats.detected = limited.stats.detected + countBeyond limit listed ∧
        limited.stats.skipped = full.stats.skipped + countBeyond limit listed) ∧
      ∀ limit greater, limit ≤ greater →
        ((within limit listed).map (listedItem options.detect registry)).Sublist
          ((within greater listed).map (listedItem options.detect registry)) := by
  obtain ⟨listed, hlisted⟩ : ∃ listed,
      ((filesAt w root).filter fun file => !isSkipped none file.content) = listed := ⟨_, rfl⟩
  obtain ⟨full, hfull, htext, hseen, hdetected, hskipped⟩ :=
    exists_run_eq_listing w root (options.withLimit none) registry hlisted
  refine ⟨listed, full, ?_, ?_, hfull, htext, ?_, ?_⟩
  · intro entries hfind
    exact hlisted ▸ isListing_filesAt distinct hfind none
  · intro hfind
    rw [← hlisted, filesAt_eq_nil hfind, List.filter_nil]
  · intro limit
    obtain ⟨limited, hlimited, htext', hseen', hdetected', hskipped'⟩ :=
      exists_run_eq_listing w root (options.withLimit (some limit)) registry
        (hlisted ▸ filter_isSkipped_some limit (filesAt w root))
    have hcount := length_within_add_countBeyond limit listed
    refine ⟨limited, hlimited, htext', hseen'.trans hseen.symm, ?_, ?_⟩ <;> omega
  · intro limit greater hle
    exact (within_sublist_within hle listed).map _

/-- With no byte allowed the empty file stays, and with one byte the file of one byte too. -/
theorem run_with_limit_of_sampleWorkspace :
    ∃ full limited,
      run sampleWorkspace (Path.ofText ".") ⟨⟨true, false⟩, none, 2⟩ ⟨[.unknown]⟩
        (Sink.empty none) = .ok full ∧
      run sampleWorkspace (Path.ofText ".") ⟨⟨true, false⟩, some 0, 2⟩ ⟨[.unknown]⟩
        (Sink.empty none) = .ok limited ∧
      limited.sink.text =
        (Json.array [FileItem.toJson ⟨"a!b", .language "Unknown"⟩]).write ∧
      limited.stats.seen = full.stats.seen ∧
      full.stats.detected = limited.stats.detected + 1 ∧
      limited.stats.skipped = full.stats.skipped + 1 ∧
      [FileItem.mk "a!b" (.language "Unknown")].Sublist
        [FileItem.mk "a/z" (.language "Unknown"), FileItem.mk "a!b" (.language "Unknown")] := by
  obtain ⟨listed, full, lists, -, hfull, -, hlimit, hgreater⟩ := run_with_limit
    distinct_sampleWorkspace (Path.ofText ".") ⟨⟨true, false⟩, none, 2⟩ ⟨[.unknown]⟩
  have hlisted : listed = sampleFiles :=
    (lists sampleEntries find_sampleWorkspace).eq isListing_sampleFiles
  obtain ⟨limited, hlimited, htext, hseen, hdetected, hskipped⟩ := hlimit 0
  subst hlisted
  refine ⟨full, limited, hfull, hlimited, ?_, hseen, hdetected, hskipped, ?_⟩
  · rw [htext]
    decide +kernel
  · exact hgreater 0 1 (Nat.zero_le 1)

end Batch

end Polyglot
