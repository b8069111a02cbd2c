/-
# An answer that goes to a file

Sending the answer to a file changes nothing but this file, as long as the file is
not the input and not in it: the rules are loaded before the file is created, and
the input is found as it was.  So the rule file itself can be the file for the
answer, and so can a file that is longer than the answer.
-/

import Polyglot.Proofs.Command.Answers

namespace Polyglot

namespace Command

/-- The answer does not depend on a file that is created outside the input. -/
theorem answerText_write {w : Workspace} {request : DetectCommand} {registry : Registry}
    {stdin : List UInt8} {text : List Char}
    (hanswer : answerText w stdin request registry = .ok text) {location : List Name}
    (takes : w.tree.Takes location)
    (houtside : ∀ input, request.input = some input → ¬ w.Within (Path.ofText input) location)
    (content : List UInt8) :
    answerText (w.write location content) stdin request registry = .ok text := by
  rw [← hanswer]
  apply answerText_congr
  intro input hinput
  obtain ⟨node, hfind⟩ := exists_find_of_answerText hinput hanswer
  rw [hfind]
  exact Workspace.find_write_of_not_within takes hfind (houtside input hinput) content

/-- A command that succeeds when its answer is printed succeeds when the answer goes to a file
that can be created and is not within the input, for an input file: is not this
file, and for an input directory: is not below it.  Then the file holds the bytes
that would have been printed, nothing is printed, and nothing else is changed. -/
theorem output_redirects {w : Workspace} (hroot : w.tree.isDirectory = true)
    {request : DetectCommand} {stdin : List UInt8} (hstdout : request.output = none)
    (hsuccess : ((Command.detect request).run w stdin).failure = none) {output : String}
    {created : Workspace} {location : List Name}
    (hcreate : w.create (Path.ofText output) = .ok (created, location))
    (houtside : ∀ input, request.input = some input → ¬ w.Within (Path.ofText input) location) :
    ∃ after, (Command.detect { request with output := some output }).run w stdin =
        ⟨after, [], none⟩ ∧
      after.read (Path.ofText output) =
        .ok (Utf8.encode ((Command.detect request).run w stdin).stdout) ∧
      after.current = w.current ∧
      ∀ other, other ≠ location →
        (after.tree.lookup other).map Node.kind = (w.tree.lookup other).map Node.kind := by
  obtain ⟨registry, text, hload, hanswer⟩ := exists_answerText_of_run hstdout hsuccess
  obtain ⟨-, takes, -⟩ := Workspace.create_eq_ok hroot hcreate
  have hprinted := run_detect_to_stdout hload hstdout hanswer
  have hwritten := answerText_write hanswer takes houtside []
  refine ⟨w.write location (Utf8.encode (asLine text)),
    run_detect_to_file hroot hload rfl hcreate hwritten, ?_, rfl, ?_⟩
  · rw [hprinted]
    exact Workspace.read_of_find (Workspace.find_write_of_create hroot hcreate _)
  · intro other hne
    exact takes.kind_lookup_put hne _

/-- The rule file is replaced by the answer. -/
theorem output_redirects_of_sampleWorkspace :
    ∃ after, (Command.detect ⟨some "d/f", some "r", some "r", ⟨true, false⟩, none, none⟩).run
        sampleWorkspace [] = ⟨after, [], none⟩ ∧
      after.read (Path.ofText "r") = .ok (Utf8.encode "\"X\"\n".toList) ∧
      (after.tree.lookup [[0x64], [0x66]]).map Node.kind = some (.file [0x78]) := by
  obtain ⟨registry, hload, hdetect, -⟩ := exists_loadRegistry_sampleWorkspace
  have hprinted : (Command.detect ⟨some "d/f", none, some "r", ⟨true, false⟩, none, none⟩).run
      sampleWorkspace [] =
        ⟨sampleWorkspace, asLine (Batch.detectBytes [0x78] ⟨true, false⟩ registry).write, none⟩ :=
    run_detect_to_stdout hload rfl
      (answerText_of_file rfl find_file_sampleWorkspace [] registry)
  have hresolve : sampleWorkspace.resolve false (Path.ofText "d/f") =
      .ok (.existing [[0x64], [0x66]]) := rfl
  have houtside : ¬ sampleWorkspace.Within (Path.ofText "d/f") [[0x72]] := by
    rintro ⟨top, htop, hbegins⟩
    rw [hresolve, Except.ok.injEq, Resolved.existing.injEq] at htop
    subst htop
    exact absurd hbegins (by decide)
  obtain ⟨after, hrun, hread, -, hsame⟩ := @output_redirects sampleWorkspace rfl
    ⟨some "d/f", none, some "r", ⟨true, false⟩, none, none⟩ [] rfl (by rw [hprinted]) "r"
    (sampleWorkspace.write [[0x72]] []) [[0x72]] rfl (by
      rintro input ⟨⟩
      exact houtside)
  refine ⟨after, hrun, ?_, ?_⟩
  · rw [hread, hprinted, hdetect]
    rfl
  · rw [hsame _ (by decide)]
    rfl

end Command

end Polyglot
