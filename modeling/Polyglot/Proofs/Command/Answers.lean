/-
# What a command answers

The answer of a detection by the kind of its input, and what becomes of an answer
that is printed and of one that goes to a file.  Everything that is said of whole
commands goes through these lemmas.
-/

import Polyglot.Command.Run
import Polyglot.Proofs.Batch.Listing
import Polyglot.Proofs.FileTree.Creation

namespace Polyglot

namespace Command

variable {w created : Workspace} {stdin content : List UInt8} {request : DetectCommand}
  {registry : Registry} {input output : String} {location : List Name} {text : List Char}

/-! ## Rule files -/

/-- The registry of a rule file is that of the rules in its text. -/
theorem loadRegistry_of_find {rules : List Char} {groups : List LanguageRules}
    (hfind : w.find (Path.ofText input) = .ok (.file (Utf8.encode rules)))
    (hrules : RuleFile.ofText? rules = some groups)
    (hbuild : RuleFile.build groups = .ok registry) :
    loadRegistry w (some input) = .ok registry := by
  have hload : RuleFile.load w (Path.ofText input) = .ok groups := by
    rw [RuleFile.load, Workspace.read_of_find hfind]
    simp only [RuleFile.ofBytes, (Utf8.decode?_eq_some_iff _ _).mpr rfl, hrules]
  rw [loadRegistry, RuleFile.loadRegistry, hload]
  change Except.mapError _ (RuleFile.build groups) = _
  rw [hbuild]
  rfl

/-! ## Answers -/

theorem answerText_of_stdin (hinput : request.input = none) (w : Workspace)
    (stdin : List UInt8) (registry : Registry) :
    answerText w stdin request registry = .ok (snippetText stdin request registry) := by
  simp only [answerText, hinput]

theorem answerText_of_file (hinput : request.input = some input)
    (hfind : w.find (Path.ofText input) = .ok (.file content)) (stdin : List UInt8)
    (registry : Registry) :
    answerText w stdin request registry = .ok (snippetText content request registry) := by
  simp only [answerText, hinput, Workspace.directory?_of_find hfind, Node.isDirectory,
    Workspace.read_of_find hfind]
  rfl

/-- What is written for the files of a listing. -/
def listingText (options : DetectOptions) (registry : Registry) (listed : List FoundFile) :
    List Char :=
  (Json.array ((listed.map (Batch.listedItem options registry)).map FileItem.toJson)).write

/-- The answer for a directory is its listing. -/
theorem exists_answerText_of_directory (distinct : w.tree.Distinct)
    (hinput : request.input = some input) {entries : List (Name × Node)}
    (hfind : w.find (Path.ofText input) = .ok (.directory entries)) (stdin : List UInt8)
    (registry : Registry) :
    ∃ listed, Batch.IsListing (.directory entries) request.maxFileSize listed ∧
      answerText w stdin request registry =
        .ok (listingText request.options registry listed) := by
  have hwalk := (Workspace.distinct_of_find distinct hfind).isWalk_walk
  obtain ⟨listed, written, lists, hwritten, htext⟩ :=
    Batch.exists_listing_of_walk hwalk (batchOptions request) registry
  have hrun := Batch.writeArray_walkResults_eq_run distinct hfind hwalk (batchOptions request)
    registry (List.Perm.refl _) (Sink.empty none)
  rw [Batch.writeArray_eq_one_of_perm (List.Perm.refl _), hwritten] at hrun
  refine ⟨listed, lists, ?_⟩
  simp only [answerText, hinput, Workspace.directory?_of_find hfind, Node.isDirectory, if_true,
    Option.isSome_some, directoryText, ← hrun, batchText, htext, listingText, List.map_map]
  rfl

/-- Where there is an answer, the input is a file or a directory. -/
theorem exists_find_of_answerText (hinput : request.input = some input)
    (hanswer : answerText w stdin request registry = .ok text) :
    ∃ node, w.find (Path.ofText input) = .ok node := by
  cases hfind : w.find (Path.ofText input) with
  | ok node => exact ⟨node, rfl⟩
  | error fault =>
      simp [answerText, hinput, Workspace.directory?, Workspace.read, hfind] at hanswer

/-- The answer depends on the files only by what the path of the input leads to. -/
theorem answerText_congr {w' : Workspace} (hfind : ∀ input, request.input = some input →
      w'.find (Path.ofText input) = w.find (Path.ofText input))
    (stdin : List UInt8) (registry : Registry) :
    answerText w' stdin request registry = answerText w stdin request registry := by
  cases hinput : request.input with
  | none => rw [answerText_of_stdin hinput, answerText_of_stdin hinput]
  | some input =>
      have hdirectory : w'.directory? (Path.ofText input) = w.directory? (Path.ofText input) := by
        rw [Workspace.directory?, hfind input hinput, Workspace.directory?]
      have hread : w'.read (Path.ofText input) = w.read (Path.ofText input) := by
        rw [Workspace.read, hfind input hinput, Workspace.read]
      simp only [answerText, hinput, directoryText, Batch.run, hdirectory, hread]

/-! ## Runs -/

/-- An answer that is printed. -/
theorem run_detect_to_stdout (hload : loadRegistry w request.rules = .ok registry)
    (houtput : request.output = none)
    (hanswer : answerText w stdin request registry = .ok text) :
    (Command.detect request).run w stdin = ⟨w, asLine text, none⟩ := by
  simp only [run, hload, houtput, detectToStdout, hanswer]

/-- A command that prints its answer succeeds only if there is one. -/
theorem exists_answerText_of_run (houtput : request.output = none)
    (hsuccess : ((Command.detect request).run w stdin).failure = none) :
    ∃ registry text, loadRegistry w request.rules = .ok registry ∧
      answerText w stdin request registry = .ok text := by
  cases hload : loadRegistry w request.rules with
  | error fault => simp [run, hload] at hsuccess
  | ok registry =>
      cases hanswer : answerText w stdin request registry with
      | error fault => simp [run, hload, houtput, detectToStdout, hanswer] at hsuccess
      | ok text => exact ⟨registry, text, rfl, hanswer⟩

/-- An answer that goes to a file.  The rules are loaded before the file is created, the input
is read after. -/
theorem run_detect_to_file (hroot : w.tree.isDirectory = true)
    (hload : loadRegistry w request.rules = .ok registry)
    (houtput : request.output = some output)
    (hcreate : w.create (Path.ofText output) = .ok (created, location))
    (hanswer : answerText (w.write location []) stdin request registry = .ok text) :
    (Command.detect request).run w stdin =
      ⟨w.write location (Utf8.encode (asLine text)), [], none⟩ := by
  obtain ⟨rfl, -, -⟩ := Workspace.create_eq_ok hroot hcreate
  simp only [run, hload, houtput, detectToFile, hcreate, hanswer, Workspace.write_write]

/-! ## A small workspace -/

/-- A rule file with one rule. -/
def sampleRules : List Char := "[[rules]]\nlanguage='X'\npattern='x'\npoints=2\n".toList

/-- A workspace with the rule file `r` and the file `d/f`, which holds the letter x. -/
def sampleWorkspace : Workspace :=
  ((⟨.directory [], []⟩ : Workspace).makeFile (Path.ofText "r") (Utf8.encode sampleRules)).makeFile
    (Path.ofText "d/f") [0x78]

theorem distinct_sampleWorkspace : sampleWorkspace.tree.Distinct := by
  apply Workspace.distinct_makeFile
  apply Workspace.distinct_makeFile
  exact Node.Distinct.empty

theorem find_rules_sampleWorkspace :
    sampleWorkspace.find (Path.ofText "r") = .ok (.file (Utf8.encode sampleRules)) := rfl

theorem find_file_sampleWorkspace :
    sampleWorkspace.find (Path.ofText "d/f") = .ok (.file [0x78]) := rfl

/-- The letter x is in the one language of the rule file, and the empty text is in none. -/
theorem exists_loadRegistry_sampleWorkspace :
    ∃ registry, loadRegistry sampleWorkspace (some "r") = .ok registry ∧
      Batch.detectBytes [0x78] ⟨true, false⟩ registry = .language "X" ∧
      Batch.detectBytes [] ⟨true, false⟩ registry = .language "Unknown" := by
  have hrules : RuleFile.ofText? sampleRules = some [⟨"X", [⟨"x", 2, false⟩]⟩] := by
    decide +kernel
  exact ⟨_, loadRegistry_of_find find_rules_sampleWorkspace hrules rfl, by decide +kernel,
    by decide +kernel⟩

end Command

end Polyglot
