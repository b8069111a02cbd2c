/-
# Reading the output of a batch

The output of a batch is put together piece by piece, and files that are skipped
write nothing.  Whichever of them are skipped, the text is one array, and reading
it gives back the items of the others.
-/

import Mathlib.Data.List.Forall2
import Polyglot.Proofs.Batch.Output
import Polyglot.Proofs.Json.Answer

namespace Polyglot

namespace ItemWriter

/-- Whatever results are written between opening and closing, a reader of JSON reads an array in
the text, and in this array the items of the results that were not skipped, in
their order: each with its path and its name, and with scores as a member exactly
if the detection has them.  Every result is counted, and so is every item. -/
theorem array_reads_back (results : List (String × FileResult)) :
    ∃ written elements,
      (do
        let writer ← (start (Sink.empty none)).openArray
        let writer ← writer.writeAll results
        writer.closeArray) = .ok written ∧
      Json.ofText? written.sink.text = some (.array elements) ∧
      List.Forall₂ (fun element item => FileItem.ofJson? element = some item ∧
        (element.member? "statistics").isSome = item.detection.statistics?.isSome)
        elements (items results) ∧
      written.stats.seen = results.length ∧ written.stats.detected = elements.length ∧
      written.stats.detected + written.stats.skipped = written.stats.seen := by
  obtain ⟨written, hwritten, htext, hstats⟩ := Batch.exists_writeArray_one_eq_ok [] results
  refine ⟨written, (items results).map FileItem.toJson, hwritten, ?_, ?_, ?_, ?_, ?_⟩
  · rw [htext]
    exact Json.ofText?_write (FileItem.plain_array (items results))
  · rw [List.forall₂_map_left_iff, List.forall₂_same]
    intro item _
    rw [item.ofJson?_toJson, item.members_toJson.2.2, Option.isSome_map]
    exact ⟨rfl, rfl⟩
  · rw [hstats]
  · rw [hstats, List.length_map]
  · rw [hstats]
    exact length_items_add_skippedCount results

end ItemWriter

end Polyglot
