/-
# Statistics only add

Whether the scores are reported decides nothing else.  The name that is detected
is the same, and it is the one with which the reported scores begin.  In the
output of a batch the scores are one member of each item, so that the output
without them is the output with them after this member is deleted.
-/

import Polyglot.Proofs.Batch.Listing
import Polyglot.Proofs.Detection.Ranking
import Polyglot.Proofs.Json.RoundTrip

namespace Polyglot

/-! ## Deleting a member of every item -/

namespace Json

/-- An object without the members of a name. -/
def withoutMember (name : String) : Json → Json
  | .object members => .object (members.filter fun member => member.1 ≠ unitsOf name)
  | value => value

/-- An array with each of its items changed. -/
def mapItems (f : Json → Json) : Json → Json
  | .array items => .array (items.map f)
  | value => value

end Json

namespace FileItem

open Json

/-- Deleting the scores leaves the path and the name. -/
theorem withoutMember_toJson (item : FileItem) :
    item.toJson.withoutMember "statistics" =
      toJson ⟨item.path, .language item.detection.name⟩ := by
  have hpath : unitsOf "path" ≠ unitsOf "statistics" := by decide
  have hdetected : unitsOf "detected" ≠ unitsOf "statistics" := by decide
  obtain ⟨path, detection⟩ := item
  cases detection <;> simp [withoutMember, hpath, hdetected, Detection.name]

end FileItem

/-! ## Detection with and without scores -/

namespace BatchOptions

/-- The same options, but for whether the scores are reported. -/
def withStatistics (options : BatchOptions) (statistics : Bool) : BatchOptions :=
  { options with detect := { options.detect with statistics := statistics } }

end BatchOptions

namespace Batch

open ItemWriter

/-- The same files are skipped with and without scores, and in the others the same names
are detected. -/
theorem fileResult_withStatistics (options : BatchOptions) (registry : Registry)
    (content : List UInt8) :
    fileResult (options.withStatistics false) registry content =
      (fileResult (options.withStatistics true) registry content).map fun detection =>
        .language detection.name := by
  by_cases hlarge : isTooLarge options.maxFileSize content.length = true
  · simp [fileResult, BatchOptions.withStatistics, hlarge]
  · by_cases hbinary : isProbablyBinary content = true
    · simp [fileResult, BatchOptions.withStatistics, hbinary]
    · simp only [fileResult, BatchOptions.withStatistics, hlarge, hbinary]
      rfl

/-- Without scores the items are those with scores, reduced to their names. -/
theorem items_results_withStatistics (options : BatchOptions) (registry : Registry)
    (files : List FoundFile) :
    items (results (options.withStatistics false) registry files) =
      (items (results (options.withStatistics true) registry files)).map fun item =>
        ⟨item.path, .language item.detection.name⟩ := by
  simp only [items, results, List.filterMap_map, List.map_filterMap]
  apply List.filterMap_congr
  intro file _
  simp only [Function.comp_apply, fileResult_withStatistics options, Option.map_map]
  rfl

theorem plain_document (results : List (String × FileResult)) : (document results).Plain :=
  FileItem.plain_array (items results)

/-- The document without scores is the document with scores after they are deleted. -/
theorem document_withStatistics (options : BatchOptions) (registry : Registry)
    (files : List FoundFile) :
    document (results (options.withStatistics false) registry files) =
      (document (results (options.withStatistics true) registry files)).mapItems
        (Json.withoutMember "statistics") := by
  simp only [document, Json.mapItems, items_results_withStatistics, List.map_map]
  congr 1
  apply List.map_congr_left
  intro item _
  exact item.withoutMember_toJson.symm

theorem skippedCount_results_withStatistics (options : BatchOptions) (registry : Registry)
    (files : List FoundFile) :
    skippedCount (results (options.withStatistics false) registry files) =
      skippedCount (results (options.withStatistics true) registry files) := by
  simp only [skippedCount, results, List.countP_map]
  apply List.countP_congr
  intro file _
  simp only [Function.comp_apply, fileResult_withStatistics options, Option.isNone_map]

/-- The output of a batch without scores is the output with scores, read and written again
after the scores were deleted from every item. -/
theorem exists_run_withStatistics (w : Workspace) (root : Path) (options : BatchOptions)
    (registry : Registry) :
    ∃ bare full document,
      run w root (options.withStatistics false) registry (Sink.empty none) = .ok bare ∧
      run w root (options.withStatistics true) registry (Sink.empty none) = .ok full ∧
      Json.ofText? full.sink.text = some document ∧
      bare.sink.text = (document.mapItems (Json.withoutMember "statistics")).write ∧
      bare.stats = full.stats := by
  obtain ⟨bare, hbare, hbareText, hbareStats⟩ :=
    exists_run_eq_document w root (options.withStatistics false) registry
  obtain ⟨full, hfull, hfullText, hfullStats⟩ :=
    exists_run_eq_document w root (options.withStatistics true) registry
  refine ⟨bare, full, document (results (options.withStatistics true) registry (filesAt w root)),
    hbare, hfull, ?_, ?_, ?_⟩
  · rw [hfullText]
    exact Json.ofText?_write (plain_document _)
  · rw [hbareText, document_withStatistics]
  · rw [hbareStats, hfullStats, countsAfter, countsAfter, items_results_withStatistics,
      List.length_map, skippedCount_results_withStatistics, results, results, List.length_map,
      List.length_map]

end Batch

/-- In a registry that was built the reported scores are the one ranking of all scores, and they
begin with the name that the scan for the winner gives, which is detected with and
without scores.  The output of a batch without scores is the output with scores
after the scores were deleted from every item, and it counts the same files. -/
theorem statistics_only_add {entries : List Entry} {registry : Registry}
    (built : Registry.build entries = .ok registry) :
    (∀ snippet heuristic, ∃ detected statistics,
      detect snippet ⟨heuristic, true⟩ registry = .report detected statistics ∧
      detect snippet ⟨heuristic, false⟩ registry = .language detected ∧
      detected = selectWinner (scoreAll snippet heuristic registry) ∧
      statistics.head?.map Prod.fst = some detected ∧
      statistics.Perm (scoreAll snippet heuristic registry) ∧
      ∀ ranking, IsRanking (scoreAll snippet heuristic registry) ranking ↔
        ranking = statistics) ∧
    ∀ (w : Workspace) (root : Path) (options : BatchOptions), ∃ bare full document,
      Batch.run w root (options.withStatistics false) registry (Sink.empty none) = .ok bare ∧
      Batch.run w root (options.withStatistics true) registry (Sink.empty none) = .ok full ∧
      Json.ofText? full.sink.text = some document ∧
      bare.sink.text = (document.mapItems (Json.withoutMember "statistics")).write ∧
      bare.stats = full.stats := by
  refine ⟨fun snippet heuristic => ?_, fun w root options =>
    Batch.exists_run_withStatistics w root options registry⟩
  have hnodup := scoreAll_nodup built snippet heuristic
  have ranks := isRanking_rank hnodup
  have hne : scoreAll snippet heuristic registry ≠ [] := by
    rw [scoreAll_eq_map, ne_eq, List.map_eq_nil_iff]
    exact List.ne_nil_of_mem (Registry.wellFormed_of_build built).unknown_mem
  obtain ⟨winner, hfirst, hname⟩ := exists_selectWinner_eq hne
  refine ⟨_, _, rfl, rfl, rfl, ?_, ranks.perm, fun ranking => ?_⟩
  · rw [ranks.head?_eq hnodup hfirst, hname]
    rfl
  · exact ⟨fun other => other.eq hnodup ranks, fun heq => heq ▸ ranks⟩

/-- Three candidates with one point each keep the order of the registry. -/
theorem statistics_only_add_of_tie :
    ∃ registry, Registry.build [.language "A" [⟨"a", 1, false⟩], .unknown,
        .language "B" [⟨"b", 1, false⟩]] = .ok registry ∧
      detect ['a', 'b'] ⟨true, true⟩ registry =
        .report "A" [("A", 1), ("Unknown", 1), ("B", 1)] ∧
      detect ['a', 'b'] ⟨true, false⟩ registry = .language "A" := by
  refine ⟨_, rfl, ?_, by decide +kernel⟩
  obtain ⟨detected, statistics, hdetect, -, hdetected, -, -, hranking⟩ :=
    (@statistics_only_add [.language "A" [⟨"a", 1, false⟩], .unknown,
      .language "B" [⟨"b", 1, false⟩]] _ rfl).1 ['a', 'b'] true
  have ranks : IsRanking [("A", 1), ("Unknown", 1), ("B", 1)]
      [("A", 1), ("Unknown", 1), ("B", 1)] :=
    ⟨List.Perm.refl _, by simp [RanksBefore]⟩
  rw [hdetect, hdetected, ← (hranking [("A", 1), ("Unknown", 1), ("B", 1)]).mp ranks]
  rfl

end Polyglot
