/-
# What a failed command leaves behind

The rules are loaded and the file for the answer is created before the input is
read.  A command whose rules cannot be loaded, or whose file cannot be created,
leaves all files as they were, and so does one that would print its answer.  But
if the input cannot be read, the file for the answer is there already, and it
stays behind without content.

`Leftover` names the file that a failed command leaves behind.  Whether the files
are as they were is decided by this file alone.
-/

import Polyglot.Proofs.Command.Answers

namespace Polyglot

namespace Command

variable {w created : Workspace} {stdin : List UInt8} {command : Command}
  {request : DetectCommand} {registry : Registry} {fault : CommandError} {input output : String}
  {location : List Name}

/-- A file for the answer to a request whose input cannot be read. -/
inductive Leftover (w : Workspace) : Command → CommandError → List Name → Prop
  /-- The file can be created. -/
  | intro {request : DetectCommand} {output input : String} {created : Workspace}
      {location : List Name} {pathFault : PathError} (houtput : request.output = some output)
      (hcreate : w.create (Path.ofText output) = .ok (created, location)) :
      Leftover w (.detect request) (.input input pathFault) location

/-- How a run ends that fails: either nothing was done to the files, or the file for the answer
was created. -/
inductive FailedRun (w : Workspace) (command : Command) (fault : CommandError) :
    Outcome → Prop
  /-- The files are as they were. -/
  | untouched (hnothing : ∀ location, ¬ Leftover w command fault location) :
      FailedRun w command fault ⟨w, [], some fault⟩
  /-- The file for the answer was created or emptied. -/
  | created {created : Workspace} {location : List Name}
      (hleftover : ∀ other, Leftover w command fault other ↔ other = location)
      (hcreated : created = w.write location []) (takes : w.tree.Takes location) :
      FailedRun w command fault ⟨created, [], some fault⟩

/-! ## Faults -/

theorem loadRegistry_eq_error {rules : Option String} (hload : loadRegistry w rules = .error fault) :
    ∃ path loadFault, fault = .rules path loadFault := by
  cases rules with
  | none => cases hload
  | some path =>
      rw [loadRegistry] at hload
      cases hregistry : RuleFile.loadRegistry w (Path.ofText path) with
      | error loadFault =>
          rw [hregistry] at hload
          exact ⟨path, loadFault, (Except.error.inj hload).symm⟩
      | ok registry =>
          rw [hregistry] at hload
          cases hload

/-- There is an answer for every directory and for every snippet, so what can go wrong is
reading a file. -/
theorem answerText_eq_error (hanswer : answerText w stdin request registry = .error fault) :
    ∃ input pathFault, fault = .input input pathFault := by
  cases hinput : request.input with
  | none => simp [answerText, hinput] at hanswer
  | some input =>
      obtain ⟨written, hwritten, -, -⟩ :=
        Batch.exists_run_eq_document w (Path.ofText input) (batchOptions request) registry
      simp only [answerText, hinput, directoryText, hwritten, batchText] at hanswer
      split at hanswer
      · cases hanswer
      · cases hread : w.read (Path.ofText input) with
        | error pathFault =>
            rw [hread] at hanswer
            exact ⟨input, pathFault, (Except.error.inj hanswer).symm⟩
        | ok bytes =>
            rw [hread] at hanswer
            cases hanswer

/-! ## Runs that fail -/

theorem not_leftover_of_output_eq_none (houtput : request.output = none) (fault : CommandError)
    (location : List Name) : ¬ Leftover w (.detect request) fault location := by
  rintro ⟨hsome, -⟩
  rw [houtput] at hsome
  cases hsome

theorem not_leftover_of_ne_input (hfault : ∀ input pathFault, fault ≠ .input input pathFault)
    (location : List Name) : ¬ Leftover w command fault location := by
  rintro ⟨-, -⟩
  exact hfault _ _ rfl

theorem leftover_iff (houtput : request.output = some output)
    (hcreate : w.create (Path.ofText output) = .ok (created, location)) {pathFault : PathError}
    (other : List Name) :
    Leftover w (.detect request) (.input input pathFault) other ↔ other = location := by
  constructor
  · rintro ⟨houtput', hcreate'⟩
    rw [houtput, Option.some.injEq] at houtput'
    subst houtput'
    rw [hcreate, Except.ok.injEq, Prod.mk.injEq] at hcreate'
    exact hcreate'.2.symm
  · rintro rfl
    exact .intro houtput hcreate

/-- An answer that goes to a file but cannot be given. -/
theorem run_detect_to_file_of_error (hload : loadRegistry w request.rules = .ok registry)
    (houtput : request.output = some output)
    (hcreate : w.create (Path.ofText output) = .ok (created, location))
    (hanswer : answerText created stdin request registry = .error fault) :
    (Command.detect request).run w stdin = ⟨created, [], some fault⟩ := by
  simp only [run, hload, houtput, detectToFile, hcreate, hanswer]

theorem failedRun_detect (hroot : w.tree.isDirectory = true)
    (hfailure : ((Command.detect request).run w stdin).failure = some fault) :
    FailedRun w (.detect request) fault ((Command.detect request).run w stdin) := by
  cases hload : loadRegistry w request.rules with
  | error loadFault =>
      obtain ⟨path, cause, rfl⟩ := loadRegistry_eq_error hload
      simp only [run, hload, Option.some.injEq] at hfailure ⊢
      subst hfailure
      exact .untouched (not_leftover_of_ne_input fun _ _ heq => by cases heq)
  | ok registry =>
      cases houtput : request.output with
      | none =>
          cases hanswer : answerText w stdin request registry with
          | error cause =>
              simp only [run, hload, houtput, detectToStdout, hanswer, Option.some.injEq]
                at hfailure ⊢
              subst hfailure
              exact .untouched (not_leftover_of_output_eq_none houtput cause)
          | ok text =>
              simp only [run, hload, houtput, detectToStdout, hanswer] at hfailure
              cases hfailure
      | some output =>
          cases hcreate : w.create (Path.ofText output) with
          | error cause =>
              simp only [run, hload, houtput, detectToFile, hcreate, Option.some.injEq]
                at hfailure ⊢
              subst hfailure
              exact .untouched (not_leftover_of_ne_input fun _ _ heq => by cases heq)
          | ok opened =>
              obtain ⟨created, location⟩ := opened
              obtain ⟨hcreated, takes, -⟩ := Workspace.create_eq_ok hroot hcreate
              cases hanswer : answerText created stdin request registry with
              | error cause =>
                  have hrun := run_detect_to_file_of_error hload houtput hcreate hanswer
                  rw [hrun, Option.some.injEq] at hfailure
                  obtain ⟨input, pathFault, rfl⟩ := answerText_eq_error hanswer
                  subst hfailure
                  rw [hrun]
                  exact .created (leftover_iff houtput hcreate) hcreated takes
              | ok text =>
                  simp only [run, hload, houtput, detectToFile, hcreate, hanswer] at hfailure
                  cases hfailure

/-- Every run that fails ends in one of these ways. -/
theorem failedRun_run (hroot : w.tree.isDirectory = true)
    (hfailure : (command.run w stdin).failure = some fault) :
    FailedRun w command fault (command.run w stdin) := by
  cases command with
  | detect request => exact failedRun_detect hroot hfailure
  | languages rules =>
      cases hload : loadRegistry w rules with
      | error loadFault =>
          simp only [run, hload, Option.some.injEq] at hfailure ⊢
          subst hfailure
          exact .untouched fun _ hleftover => by cases hleftover
      | ok registry =>
          simp only [run, hload] at hfailure
          cases hfailure

/-- A command that fails prints nothing.  It leaves the files as they were, except for the file
for an answer that could not be given because the input could not be read.  This
file is then empty, whatever it held, and it is there even if it was not before;
nothing else is changed. -/
theorem failed_run_keeps_files_iff (hroot : w.tree.isDirectory = true)
    (hfailure : (command.run w stdin).failure = some fault) :
    (command.run w stdin).stdout = [] ∧
    ((command.run w stdin).workspace = w ↔ ∀ location, Leftover w command fault location →
      w.tree.lookup location = some (.file [])) ∧
    ∀ location, Leftover w command fault location →
      (command.run w stdin).workspace.current = w.current ∧
      (command.run w stdin).workspace.tree.lookup location = some (.file []) ∧
      ∀ other, other ≠ location →
        ((command.run w stdin).workspace.tree.lookup other).map Node.kind =
          (w.tree.lookup other).map Node.kind := by
  have hrun := failedRun_run hroot hfailure
  generalize command.run w stdin = outcome at hrun ⊢
  cases hrun with
  | untouched hnothing =>
      refine ⟨rfl, ⟨fun _ location hleftover => ?_, fun _ => rfl⟩, fun location hleftover => ?_⟩
      · exact absurd hleftover (hnothing location)
      · exact absurd hleftover (hnothing location)
  | @created created location hleftover hcreated takes =>
      have hself : created.tree.lookup location = some (.file []) := by
        rw [hcreated]
        exact takes.lookup_put_self _
      refine ⟨rfl, ⟨?_, ?_⟩, ?_⟩
      · rintro hsame other hother
        rw [(hleftover other).mp hother, ← hsame]
        exact hself
      · intro hempty
        have hold := hempty location ((hleftover location).mpr rfl)
        rw [hcreated, Workspace.write, Node.put_of_lookup hold]
      · intro other hother
        obtain rfl := (hleftover other).mp hother
        refine ⟨by rw [hcreated, Workspace.write], hself, fun elsewhere hne => ?_⟩
        rw [hcreated]
        exact takes.kind_lookup_put hne []

/-- The request to detect a file that does not exist leaves an empty file for its answer. -/
theorem failed_run_keeps_files_iff_of_missing_input :
    ∃ fault after,
      (Command.detect ⟨some "n", some "d/g", none, ⟨true, false⟩, none, none⟩).run
        sampleWorkspace [] = ⟨after, [], some fault⟩ ∧
      after ≠ sampleWorkspace ∧ after.tree.lookup [[0x64], [0x67]] = some (.file []) := by
  have hrun := @run_detect_to_file_of_error sampleWorkspace
    (sampleWorkspace.write [[0x64], [0x67]] []) []
    ⟨some "n", some "d/g", none, ⟨true, false⟩, none, none⟩ Registry.builtin
    (.input "n" .notFound) "d/g" [[0x64], [0x67]] rfl rfl rfl rfl
  have hleftover : Leftover sampleWorkspace
      (.detect ⟨some "n", some "d/g", none, ⟨true, false⟩, none, none⟩)
      (.input "n" .notFound) [[0x64], [0x67]] := .intro rfl rfl
  obtain ⟨-, hkeeps, hleft⟩ := @failed_run_keeps_files_iff sampleWorkspace []
    (.detect ⟨some "n", some "d/g", none, ⟨true, false⟩, none, none⟩)
    (.input "n" .notFound) rfl (by rw [hrun])
  rw [hrun] at hkeeps hleft
  refine ⟨_, _, hrun, fun hsame => ?_, (hleft _ hleftover).2.1⟩
  have hbefore := hkeeps.mp hsame _ hleftover
  cases hbefore

/-- A file for the answer loses its content when the input does not exist. -/
theorem failed_run_empties_output :
    ∃ after, sampleWorkspace.read (Path.ofText "d/f") = .ok [0x78] ∧
      (Command.detect ⟨some "n", some "d/f", none, ⟨true, false⟩, none, none⟩).run
        sampleWorkspace [] = ⟨after, [], some (.input "n" .notFound)⟩ ∧
      after.read (Path.ofText "d/f") = .ok [] :=
  ⟨sampleWorkspace.write [[0x64], [0x66]] [], rfl,
    run_detect_to_file_of_error rfl rfl rfl rfl, rfl⟩

end Command

end Polyglot
