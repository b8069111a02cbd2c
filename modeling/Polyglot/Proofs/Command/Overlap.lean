/-
# An answer that is written over its input

The file for the answer is emptied before the input is read, although the rule
file is read earlier.  So a file that is both the input and the place for the answer
is detected as an empty file, and a directory that holds the place for the answer
has an empty file listed there.  The answer is the one that would be printed only
if the old content of the file is detected, and in a directory listed, like no
content at all.

A file is read before anything is written.  A directory is read while its answer is
made, and nothing of it is in the file until then as long as the answer fits the
buffer that holds it back.
-/

import Polyglot.Proofs.Batch.Emptied
import Polyglot.Proofs.Command.Answers
import Polyglot.Proofs.Json.Answer

namespace Polyglot

namespace Workspace

variable {w : Workspace} {path : Path} {location : List Name}

/-- How a location for a file is within what a path leads to. -/
inductive Overlap (w : Workspace) (path : Path) (location : List Name) : Prop
  /-- The path leads to the file at the location. -/
  | same {old : List UInt8} (hfind : w.find path = .ok (.file old))
      (hlookup : w.tree.lookup location = some (.file old))
      (hafter : (w.write location []).find path = .ok (.file []))
  /-- The path leads to a directory that takes the file. -/
  | below {entries : List (Name × Node)} {rest : List Name}
      (hfind : w.find path = .ok (.directory entries))
      (hlookup : w.tree.lookup location = (Node.directory entries).lookup rest)
      (takes : (Node.directory entries).Takes rest)
      (hafter : (w.write location []).find path =
        .ok ((Node.directory entries).put rest (.file [])))

theorem Within.overlap (hwithin : w.Within path location) (hroot : w.tree.isDirectory = true)
    (takes : w.tree.Takes location) : w.Overlap path location := by
  obtain ⟨top, hresolve, rest, rfl⟩ := hwithin
  by_cases hrest : rest = []
  · subst hrest
    rw [List.append_nil] at takes ⊢
    cases isIn_of_resolve hroot hresolve with
    | file hlookup =>
        exact .same (find_eq_ok_iff.mpr ⟨top, hresolve, hlookup⟩) hlookup
          (find_write_self takes hresolve [])
    | directory hlookup =>
        obtain ⟨content, hfile⟩ := takes.exists_content hlookup
        cases hfile
  · obtain ⟨entries, -, hlookup, -⟩ := takes.exists_directory (List.prefix_append top rest)
      (by simpa using hrest) (.file [])
    refine .below (find_eq_ok_iff.mpr ⟨top, hresolve, hlookup⟩) ?_
      (takes.of_append hrest hlookup) (find_write_append takes hrest hresolve hlookup [])
    rw [Node.lookup_append, hlookup, Option.bind_some]

end Workspace

namespace Command

variable {w : Workspace} {request : DetectCommand} {registry : Registry} {input output : String}
  {location : List Name}

/-- The answer does not show that the file at a location was emptied: the old content is detected
like no content, and a directory lists the file. -/
structure Unnoticed (w : Workspace) (request : DetectCommand) (registry : Registry)
    (input : String) (location : List Name) (old : List UInt8) : Prop where
  /-- The file was there. -/
  lookup_eq : w.tree.lookup location = some (.file old)
  /-- It is not skipped in a directory. -/
  not_skips : ∀ entries, w.find (Path.ofText input) = .ok (.directory entries) →
    ¬ Batch.Skips request.maxFileSize old
  /-- It is detected as an empty file is. -/
  detect_eq : Batch.detectBytes old request.options registry =
    Batch.detectBytes [] request.options registry

/-- The answer is held back while the input is read: the input is no directory, or the answer
fits the buffer. -/
def HeldBack (w : Workspace) (input : String) (answer : List Char) : Prop :=
  ∀ entries, w.find (Path.ofText input) = .ok (.directory entries) →
    (Utf8.encode (asLine answer)).length ≤ bufferSize

theorem snippetText_inj {first second : List UInt8} :
    snippetText first request registry = snippetText second request registry ↔
      Batch.detectBytes first request.options registry =
        Batch.detectBytes second request.options registry :=
  Detection.write_injective.eq_iff

theorem listingText_inj {options : DetectOptions} {listed listed' : List FoundFile} :
    listingText options registry listed = listingText options registry listed' ↔
      listed.map (Batch.listedItem options registry) =
        listed'.map (Batch.listedItem options registry) :=
  FileItem.writeArray_injective.eq_iff

/-- The answers before and after the file was emptied. -/
theorem exists_answerText_of_overlap (distinct : w.tree.Distinct)
    (hinput : request.input = some input) (overlap : w.Overlap (Path.ofText input) location)
    (stdin : List UInt8) (registry : Registry) :
    ∃ answer answer', answerText w stdin request registry = .ok answer ∧
      answerText (w.write location []) stdin request registry = .ok answer' ∧
      (answer' = answer ↔ ∃ old, Unnoticed w request registry input location old) := by
  cases overlap with
  | @same old hfind hlookup hafter =>
      refine ⟨_, _, answerText_of_file hinput hfind stdin registry,
        answerText_of_file hinput hafter stdin registry, ?_⟩
      rw [snippetText_inj]
      constructor
      · intro heq
        refine ⟨old, hlookup, fun entries hdirectory => ?_, heq.symm⟩
        rw [hfind] at hdirectory
        cases hdirectory
      · rintro ⟨content, hcontent, -, heq⟩
        rw [hlookup, Option.some.injEq, Node.file.injEq] at hcontent
        rw [hcontent, heq]
  | @below entries rest hfind hlookup takes hafter =>
      obtain ⟨entries', hput⟩ := takes.exists_put_eq_directory (.file [])
      obtain ⟨listed, lists, hanswer⟩ :=
        exists_answerText_of_directory distinct hinput hfind stdin registry
      obtain ⟨listed', lists', hanswer'⟩ := exists_answerText_of_directory
        (Workspace.distinct_write distinct location []) hinput (hput ▸ hafter) stdin registry
      rw [← hput] at lists'
      refine ⟨_, _, hanswer, hanswer', ?_⟩
      rw [listingText_inj, lists.map_listedItem_eq_iff takes lists']
      refine exists_congr fun old => ?_
      rw [lists.mem_iff, ← hlookup]
      constructor
      · rintro ⟨⟨hold, hskips⟩, heq⟩
        exact ⟨hold, fun _ _ => hskips, heq⟩
      · rintro ⟨hold, hskips, heq⟩
        exact ⟨⟨hold, hskips entries hfind⟩, heq⟩

/-- If the answer goes to a file that is the input or within it, and is held back while the
input is read, the file holds the answer for the files with this one emptied.  It is the
answer that would have been printed exactly if the file was there, its content is detected
as no content is, and a directory does not skip it.  So a new file in the input directory
changes the answer, and a file that says anything about its language is lost before it is
read. -/
theorem output_over_input_iff (distinct : w.tree.Distinct) (hroot : w.tree.isDirectory = true)
    (hstdout : request.output = none) (hload : loadRegistry w request.rules = .ok registry)
    (hinput : request.input = some input) {created : Workspace}
    (hcreate : w.create (Path.ofText output) = .ok (created, location))
    (hwithin : w.Within (Path.ofText input) location) (stdin : List UInt8) :
    ∃ printed answer, (Command.detect request).run w stdin = ⟨w, printed, none⟩ ∧
      answerText (w.write location []) stdin request registry = .ok answer ∧
      (HeldBack w input answer →
        ∃ after, (Command.detect { request with output := some output }).run w stdin =
            ⟨after, [], none⟩ ∧
          after.read (Path.ofText output) = .ok (Utf8.encode (asLine answer)) ∧
          (after.read (Path.ofText output) = .ok (Utf8.encode printed) ↔
            ∃ old, Unnoticed w request registry input location old)) := by
  obtain ⟨-, takes, -⟩ := Workspace.create_eq_ok hroot hcreate
  obtain ⟨answer, answer', hanswer, hanswer', hiff⟩ := exists_answerText_of_overlap distinct hinput
    (hwithin.overlap hroot takes) stdin registry
  have hread := Workspace.read_of_find
    (Workspace.find_write_of_create hroot hcreate (Utf8.encode (asLine answer')))
  refine ⟨asLine answer, answer', run_detect_to_stdout hload hstdout hanswer, hanswer', fun _ =>
    ⟨w.write location (Utf8.encode (asLine answer')),
      run_detect_to_file hroot hload rfl hcreate hanswer', hread, ?_⟩⟩
  have hinjective := Function.LeftInverse.injective Utf8.decodeLossy_encode
  rw [hread, Except.ok.injEq, hinjective.eq_iff, asLine, asLine, List.append_left_inj, hiff]

/-- A new file in the input directory is listed in the answer that it holds. -/
theorem output_over_input_iff_of_sampleWorkspace :
    ∃ after printed,
      (Command.detect ⟨some "d", none, some "r", ⟨true, false⟩, none, none⟩).run
        sampleWorkspace [] = ⟨sampleWorkspace, printed, none⟩ ∧
      (Command.detect ⟨some "d", some "d/g", some "r", ⟨true, false⟩, none, none⟩).run
        sampleWorkspace [] = ⟨after, [], none⟩ ∧
      after.read (Path.ofText "d/g") ≠ .ok (Utf8.encode printed) := by
  obtain ⟨registry, hload, hletter, hempty⟩ := exists_loadRegistry_sampleWorkspace
  obtain ⟨printed, answer, hprinted, hanswer, hwritten⟩ :=
    @output_over_input_iff sampleWorkspace
      ⟨some "d", none, some "r", ⟨true, false⟩, none, none⟩ registry "d" "d/g"
      [[0x64], [0x67]] distinct_sampleWorkspace rfl rfl hload rfl
      (sampleWorkspace.write [[0x64], [0x67]] []) rfl ⟨[[0x64]], rfl, by decide⟩ []
  -- The answer lists two files, so it fits the buffer.
  have distinct := Workspace.distinct_write distinct_sampleWorkspace [[0x64], [0x67]] []
  have hfind : (sampleWorkspace.write [[0x64], [0x67]] []).find (Path.ofText "d") =
      .ok (.directory [([0x66], .file [0x78]), ([0x67], .file [])]) := rfl
  obtain ⟨listed, lists, htext⟩ := @exists_answerText_of_directory _
    ⟨some "d", none, some "r", ⟨true, false⟩, none, none⟩ _ distinct rfl _ hfind [] registry
  have hlisted : listed = [⟨[[0x66]], [0x78]⟩, ⟨[[0x67]], []⟩] :=
    lists.eq (Batch.isListing_of_perm (Workspace.distinct_of_find distinct hfind).isWalk_walk
      (by decide) (by rw [Batch.InPathOrder]; decide))
  have hitems : listed.map (Batch.listedItem ⟨true, false⟩ registry) =
      [⟨"f", .language "X"⟩, ⟨"g", .language "Unknown"⟩] := by
    rw [hlisted, ← hletter, ← hempty]
    rfl
  have hfits : (Utf8.encode (asLine answer)).length ≤ bufferSize := by
    rw [Except.ok.inj (hanswer.symm.trans htext), listingText, hitems]
    decide +kernel
  obtain ⟨after, hrun, -, hiff⟩ := hwritten fun _ _ => hfits
  refine ⟨after, printed, hprinted, hrun, ?_⟩
  rw [Ne, hiff]
  rintro ⟨old, hnew, -, -⟩
  cases hnew

/-- The letter x is printed as one language, and written over itself as another. -/
theorem output_over_input_differs :
    ∃ after, (Command.detect ⟨some "d/f", none, some "r", ⟨true, false⟩, none, none⟩).run
        sampleWorkspace [] = ⟨sampleWorkspace, "\"X\"\n".toList, none⟩ ∧
      (Command.detect ⟨some "d/f", some "d/f", some "r", ⟨true, false⟩, none, none⟩).run
        sampleWorkspace [] = ⟨after, [], none⟩ ∧
      after.read (Path.ofText "d/f") = .ok (Utf8.encode "\"Unknown\"\n".toList) := by
  obtain ⟨registry, hload, hletter, hempty⟩ := exists_loadRegistry_sampleWorkspace
  have hprinted := @run_detect_to_stdout sampleWorkspace []
    ⟨some "d/f", none, some "r", ⟨true, false⟩, none, none⟩ registry _ hload rfl
    (answerText_of_file rfl find_file_sampleWorkspace [] registry)
  have hwritten := @run_detect_to_file sampleWorkspace
    (sampleWorkspace.write [[0x64], [0x66]] []) []
    ⟨some "d/f", some "d/f", some "r", ⟨true, false⟩, none, none⟩ registry "d/f"
    [[0x64], [0x66]] _ rfl hload rfl rfl (answerText_of_file rfl rfl [] registry)
  refine ⟨_, ?_, hwritten, ?_⟩
  · rw [hprinted, snippetText, hletter]
    rfl
  · rw [snippetText, hempty]
    rfl

end Command

end Polyglot
