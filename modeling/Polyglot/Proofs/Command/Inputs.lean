/-
# Three ways to give an input

The same bytes are detected alike whether they come from the standard input, from
a file or from a file in a directory.  Only a directory skips files, so there the
item may be missing, but never for a text.
-/

import Mathlib.Data.List.Forall2
import Polyglot.Proofs.Command.Answers
import Polyglot.Proofs.Json.Answer

namespace Polyglot

namespace Batch

/-- Without a limit a text that holds no zero byte is never skipped. -/
theorem not_skips_encode {text : List Char} (hzero : 0 ∉ Utf8.encode text) :
    ¬ Skips none (Utf8.encode text) := by
  intro skips
  cases skips with
  | tooLarge bound hlimit hlarge => cases hlimit
  | zeroByte hmem => exact hzero hmem
  | fewPrintable hne htext hprintable => exact htext text rfl

end Batch

namespace Command

/-- With one rule file and one set of options, bytes on the standard input and a file that holds
them give the same line, which says a detection.  In a directory, whatever else it
holds, however many workers there are and whatever the limit on the size, every
item for a file that holds these bytes has this detection, and without a limit
there is one if the bytes are a text without a zero byte. -/
theorem inputs_agree {w : Workspace} (distinct : w.tree.Distinct) {request : DetectCommand}
    (houtput : request.output = none) {registry : Registry}
    (hload : loadRegistry w request.rules = .ok registry) (content : List UInt8) :
    ∃ text detection, Detection.ofText? text = some detection ∧
      (Command.detect { request with input := none }).run w content =
        ⟨w, asLine text, none⟩ ∧
      (∀ input stdin, w.find (Path.ofText input) = .ok (.file content) →
        (Command.detect { request with input := some input }).run w stdin =
          ⟨w, asLine text, none⟩) ∧
      ∀ input stdin entries, w.find (Path.ofText input) = .ok (.directory entries) →
        ∀ workers maxFileSize, ∃ answer items listed,
          (Command.detect
            { request with
              input := some input
              workers := workers
              maxFileSize := maxFileSize }).run w stdin = ⟨w, asLine answer, none⟩ ∧
          FileItem.listOfText? answer = some items ∧
          Batch.IsListing (.directory entries) maxFileSize listed ∧
          List.Forall₂ (fun file item => item.path = file.pathText ∧
            (file.content = content → item.detection = detection)) listed items ∧
          ∀ location, (Node.directory entries).lookup location = some (.file content) →
            maxFileSize = none → (∃ snippet, Utf8.encode snippet = content) → 0 ∉ content →
              ⟨location, content⟩ ∈ listed := by
  refine ⟨(Batch.detectBytes content request.options registry).write, _,
    Detection.ofText?_write _, ?_, ?_, ?_⟩
  · exact run_detect_to_stdout hload houtput (answerText_of_stdin rfl w content registry)
  · intro input stdin hfind
    exact run_detect_to_stdout hload houtput (answerText_of_file rfl hfind stdin registry)
  · intro input stdin entries hfind workers maxFileSize
    obtain ⟨listed, lists, hanswer⟩ := @exists_answerText_of_directory w
      { request with
        input := some input
        workers := workers
        maxFileSize := maxFileSize } input distinct rfl entries hfind stdin registry
    refine ⟨_, _, listed, run_detect_to_stdout hload houtput hanswer,
      FileItem.listOfText?_write _, lists, ?_, ?_⟩
    · rw [List.forall₂_map_right_iff, List.forall₂_same]
      rintro file -
      refine ⟨rfl, ?_⟩
      rintro rfl
      rfl
    · rintro location hlookup rfl ⟨snippet, rfl⟩ hzero
      exact (lists.mem_iff _).mpr ⟨hlookup, Batch.not_skips_encode hzero⟩

/-- The letter x, which has two points for the one language of the rule file. -/
theorem inputs_agree_of_sampleWorkspace :
    ∃ text answer, Detection.ofText? text = some (.language "X") ∧
      (Command.detect ⟨none, none, some "r", ⟨true, false⟩, none, none⟩).run sampleWorkspace
        [0x78] = ⟨sampleWorkspace, asLine text, none⟩ ∧
      (Command.detect ⟨some "d/f", none, some "r", ⟨true, false⟩, none, none⟩).run
        sampleWorkspace [] = ⟨sampleWorkspace, asLine text, none⟩ ∧
      (Command.detect ⟨some "d", none, some "r", ⟨true, false⟩, some 2, none⟩).run
        sampleWorkspace [] = ⟨sampleWorkspace, asLine answer, none⟩ ∧
      ∃ items, FileItem.listOfText? answer = some items ∧ ⟨"f", .language "X"⟩ ∈ items := by
  obtain ⟨registry, hload, hdetect, -⟩ := exists_loadRegistry_sampleWorkspace
  obtain ⟨text, detection, hread, hstdin, hfile, hdirectory⟩ :=
    @inputs_agree sampleWorkspace distinct_sampleWorkspace
      ⟨none, none, some "r", ⟨true, false⟩, none, none⟩ rfl registry hload [0x78]
  obtain ⟨answer, items, listed, hanswer, hitems, -, hsame, hlisted⟩ :=
    hdirectory "d" [] [([0x66], .file [0x78])] rfl (some 2) none
  have htext : text = (Detection.language "X").write := by
    have hline := congrArg Outcome.stdout (hstdin.symm.trans
      (run_detect_to_stdout hload rfl (answerText_of_stdin rfl sampleWorkspace [0x78] registry)))
    rw [← hdetect]
    exact List.append_cancel_right hline
  rw [htext, Detection.ofText?_write, Option.some.injEq] at hread
  subst hread
  refine ⟨text, answer, ?_, hstdin, hfile "d/f" [] find_file_sampleWorkspace, hanswer, items,
    hitems, ?_⟩
  · rw [htext, Detection.ofText?_write]
  · have hmem := hlisted [[0x66]] rfl rfl ⟨['x'], by decide⟩ (by decide)
    obtain ⟨position, hposition, hfound⟩ := List.mem_iff_getElem.mp hmem
    obtain ⟨hlength, hitem⟩ := List.forall₂_iff_get.mp hsame
    obtain ⟨hpath, hdetection⟩ := hitem position hposition (hlength ▸ hposition)
    simp only [List.get_eq_getElem, hfound] at hpath hdetection
    have hname : FoundFile.pathText ⟨[[0x66]], [0x78]⟩ = "f" := by decide
    rw [← hname, ← hpath, ← hdetection trivial]
    exact List.getElem_mem _

end Command

end Polyglot
