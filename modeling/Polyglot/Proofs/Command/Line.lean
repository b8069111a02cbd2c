/-
# A detection on a line

What is printed for the standard input or for a file is one line, and the line says
which detection was made.  A detection without scores is a JSON string and one
with scores is an object, so the two are never taken for each other, and different
detections never have the same line.
-/

import Polyglot.Proofs.Command.Answers
import Polyglot.Proofs.Json.Printable

namespace Polyglot

namespace Command

variable {w : Workspace} {stdin : List UInt8} {request : DetectCommand}

/-- The bytes of an input that is no directory. -/
inductive Gives (w : Workspace) (stdin : List UInt8) (request : DetectCommand) :
    List UInt8 → Prop
  /-- Without an input the bytes are those of the standard input. -/
  | stdin (hinput : request.input = none) : Gives w stdin request stdin
  /-- The bytes of a file. -/
  | file {input : String} {content : List UInt8} (hinput : request.input = some input)
      (hread : w.read (Path.ofText input) = .ok content) : Gives w stdin request content

/-- An answer for an input that is no directory is the detection in its bytes. -/
theorem exists_gives_of_answerText {registry : Registry} {text : List Char}
    (hfile : ∀ input, request.input = some input → w.directory? (Path.ofText input) = none)
    (hanswer : answerText w stdin request registry = .ok text) :
    ∃ content, Gives w stdin request content ∧ text = snippetText content request registry := by
  cases hinput : request.input with
  | none =>
      rw [answerText_of_stdin hinput] at hanswer
      cases hanswer
      exact ⟨stdin, .stdin hinput, rfl⟩
  | some input =>
      cases hread : w.read (Path.ofText input) with
      | error fault => simp [answerText, hinput, hfile input hinput, hread] at hanswer
      | ok content =>
          simp only [answerText, hinput, hfile input hinput, hread, Option.isSome_none,
            Bool.false_eq_true, if_false] at hanswer
          cases hanswer
          exact ⟨content, .file hinput hread, rfl⟩

/-- A detection is written without control characters and is read back from its text, so no
other detection has this text: a name is read as a string, and a name with scores as
an object with the name and the pairs of names and points in their order.  A command
that succeeds on the standard input or on a file prints the text of the detection in
its bytes, and a line feed, the only one. -/
theorem detection_is_one_line :
    (∀ detection : Detection, (∀ c ∈ detection.write, 0x20 ≤ c.toNat) ∧
      Detection.ofText? detection.write = some detection ∧
      ∀ other : Detection, other.write = detection.write → other = detection) ∧
    (∀ name, Json.ofText? (Detection.language name).write =
      some (.string (Json.unitsOf name))) ∧
    (∀ detected statistics, Json.ofText? (Detection.report detected statistics).write =
      some (.object [(Json.unitsOf "detected", .string (Json.unitsOf detected)),
        (Json.unitsOf "statistics", .array (statistics.map fun score =>
          .array [.string (Json.unitsOf score.1), Json.ofInt score.2]))])) ∧
    ∀ (w : Workspace) (stdin : List UInt8) (request : DetectCommand), request.output = none →
      (∀ input, request.input = some input → w.directory? (Path.ofText input) = none) →
      ((Command.detect request).run w stdin).failure = none →
      ∃ registry content, loadRegistry w request.rules = .ok registry ∧
        Gives w stdin request content ∧
        ((Command.detect request).run w stdin).stdout =
          (Batch.detectBytes content request.options registry).write ++ ['\n'] ∧
        '\n' ∉ (Batch.detectBytes content request.options registry).write := by
  refine ⟨?_, ?_, ?_, ?_⟩
  · intro detection
    refine ⟨detection.le_toNat_of_mem_write, Detection.ofText?_write detection, ?_⟩
    intro other hwrite
    exact Detection.write_injective hwrite
  · intro name
    exact Json.ofText?_write (Detection.language name).plain_toJson
  · intro detected statistics
    exact Json.ofText?_write (Detection.report detected statistics).plain_toJson
  · intro w stdin request houtput hfile hsuccess
    obtain ⟨registry, text, hload, hanswer⟩ := exists_answerText_of_run houtput hsuccess
    obtain ⟨content, gives, rfl⟩ := exists_gives_of_answerText hfile hanswer
    refine ⟨registry, content, hload, gives, ?_, ?_⟩
    · rw [run_detect_to_stdout hload houtput hanswer]
      rfl
    · intro hmem
      exact absurd (Detection.le_toNat_of_mem_write _ _ hmem) (by decide)

/-- A name with a quote and a line break, with scores and without, and the file of the sample
workspace. -/
theorem detection_is_one_line_of_sampleWorkspace :
    Detection.ofText? (Detection.language "a\"\n").write = some (.language "a\"\n") ∧
    Detection.ofText? (Detection.report "a\"\n" [("a\"\n", 2), ("\\", -3)]).write =
      some (.report "a\"\n" [("a\"\n", 2), ("\\", -3)]) ∧
    ∃ registry content,
      Gives sampleWorkspace [] ⟨some "d/f", none, some "r", ⟨true, true⟩, none, none⟩ content ∧
      ((Command.detect ⟨some "d/f", none, some "r", ⟨true, true⟩, none, none⟩).run
        sampleWorkspace []).stdout =
          (Batch.detectBytes content ⟨true, true⟩ registry).write ++ ['\n'] := by
  obtain ⟨registry, hload, -⟩ := exists_loadRegistry_sampleWorkspace
  have hdirectory : sampleWorkspace.directory? (Path.ofText "d/f") = none := rfl
  have hrun := @run_detect_to_stdout sampleWorkspace []
    ⟨some "d/f", none, some "r", ⟨true, true⟩, none, none⟩ registry _ hload rfl
    (answerText_of_file rfl find_file_sampleWorkspace [] registry)
  obtain ⟨hreads, -, -, hprints⟩ := detection_is_one_line
  refine ⟨(hreads _).2.1, (hreads _).2.1, ?_⟩
  obtain ⟨registry, content, -, gives, hstdout, -⟩ := hprints sampleWorkspace []
    ⟨some "d/f", none, some "r", ⟨true, true⟩, none, none⟩ rfl
    (fun input hinput => Option.some.inj hinput ▸ hdirectory) (by rw [hrun])
  exact ⟨registry, content, gives, hstdout⟩

end Command

end Polyglot
