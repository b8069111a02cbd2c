/-
# Writing the items of a batch

What the writer does, one operation at a time, as long as there is room: every
operation adds the bytes of a text to the sink, whatever the pieces are that they are
cut into, and a list of results adds the texts of its items.  A list of results is
written in pieces exactly as it is written in one go, whether or not a write
fails on the way.  The whole text is that of one JSON array, whose items are the
results that were not skipped, and a sink without a limit takes all of it.
-/

import Polyglot.Batch.Basic
import Polyglot.Proofs.Text.Utf8

namespace Polyglot

namespace Json

/-- The items behind the first have a comma in front of each. -/
theorem writeItems_cons (item : Json) (rest : List Json) :
    writeItems (item :: rest) = write item ++ rest.flatMap fun other => ',' :: write other := by
  induction rest generalizing item with
  | nil => simp [writeItems]
  | cons other rest ih => simp [writeItems, ih]

end Json

namespace Sink

/-- A sink to which bytes were added. -/
structure Extends (sink : Sink) (added : List UInt8) (extended : Sink) : Prop where
  /-- The room is what it was. -/
  room_eq : extended.room = sink.room
  /-- Bytes are cut as before. -/
  cutting_eq : extended.cutting = sink.cutting
  /-- The bytes stand behind what was there. -/
  bytes_eq : extended.bytes = sink.bytes ++ added
  /-- They are counted. -/
  used_eq : extended.used = sink.used + added.length

variable {sink extended : Sink} {text : List Char} {added : List UInt8}

namespace Extends

theorem refl (sink : Sink) : sink.Extends [] sink :=
  ⟨rfl, rfl, (List.append_nil _).symm, rfl⟩

theorem trans {further : Sink} {more : List UInt8} (extends₁ : sink.Extends added extended)
    (extends₂ : extended.Extends more further) : sink.Extends (added ++ more) further where
  room_eq := extends₂.room_eq.trans extends₁.room_eq
  cutting_eq := extends₂.cutting_eq.trans extends₁.cutting_eq
  bytes_eq := by rw [extends₂.bytes_eq, extends₁.bytes_eq, List.append_assoc]
  used_eq := by rw [extends₂.used_eq, extends₁.used_eq, List.length_append, Nat.add_assoc]

/-- What fits behind the bytes is what fits together with them. -/
theorem fits_eq (extends₁ : sink.Extends added extended) (bytes : Nat) :
    extended.fits bytes = sink.fits (added.length + bytes) := by
  rw [fits, fits, extends₁.room_eq, extends₁.used_eq]
  simp only [Nat.add_assoc]

end Extends

/-- Bytes that encode a text are read as this text. -/
theorem text_of_bytes_eq (hbytes : sink.bytes = Utf8.encode text) : sink.text = text := by
  rw [Sink.text, hbytes, (Utf8.decode?_eq_some_iff _ _).mpr rfl, Option.getD_some]

theorem extends_push (sink : Sink) (chunk : List UInt8) :
    sink.Extends chunk (sink.push chunk) := by
  refine ⟨rfl, rfl, ?_, rfl⟩
  simp [push, bytes]

theorem fits_of_room_eq_none (unlimited : sink.room = none) (bytes : Nat) : sink.fits bytes := by
  simp [fits, unlimited]

theorem fits_of_le {bytes more : Nat} (hfits : sink.fits more) (hle : bytes ≤ more) :
    sink.fits bytes := by
  rw [fits] at hfits ⊢
  split at hfits
  · rfl
  · exact decide_eq_true (Nat.le_trans (Nat.add_le_add_left hle _) (of_decide_eq_true hfits))

/-- Pieces that fit together are all taken. -/
theorem handOver_of_fits {pieces : List (List UInt8)} (hfits : sink.fits pieces.flatten.length) :
    ∃ extended, sink.Extends pieces.flatten extended ∧ sink.handOver pieces = .ok extended := by
  induction pieces generalizing sink with
  | nil => exact ⟨sink, .refl sink, rfl⟩
  | cons piece rest ih =>
      rw [List.flatten_cons, List.length_append] at hfits
      have hpush := sink.extends_push piece
      obtain ⟨extended, hextends, hrest⟩ := ih (by rwa [hpush.fits_eq])
      refine ⟨extended, hpush.trans hextends, ?_⟩
      rw [handOver, if_pos (fits_of_le hfits (Nat.le_add_right _ _)), hrest]

/-- A text that fits is taken, however its bytes are cut. -/
theorem write_of_fits (hfits : sink.fits (Utf8.encode text).length) :
    ∃ extended, sink.Extends (Utf8.encode text) extended ∧ sink.write text = .ok extended := by
  have hflatten := sink.cutting.flatten_pieces (Utf8.encode text)
  obtain ⟨extended, hextends, hwrite⟩ := handOver_of_fits (hflatten.symm ▸ hfits)
  exact ⟨extended, hflatten ▸ hextends, hwrite⟩

end Sink

namespace ItemWriter

@[simp]
theorem writeAll_nil (writer : ItemWriter) : writer.writeAll [] = .ok writer := rfl

theorem writeAll_cons (writer : ItemWriter) (result : String × FileResult)
    (rest : List (String × FileResult)) :
    writer.writeAll (result :: rest) =
      (writer.write result.1 result.2).bind fun writer => writer.writeAll rest := rfl

/-- Two lists of results are written like the one list of both.  A failure in the
first keeps the second from being tried. -/
theorem writeAll_append (writer : ItemWriter) (first second : List (String × FileResult)) :
    writer.writeAll (first ++ second) =
      (writer.writeAll first).bind fun writer => writer.writeAll second := by
  simp only [writeAll, List.foldlM_append]
  rfl

/-- The items that results give: those that were not skipped. -/
def items (results : List (String × FileResult)) : List FileItem :=
  results.filterMap fun result => result.2.map (FileItem.mk result.1)

/-- The number of files that were skipped. -/
def skippedCount (results : List (String × FileResult)) : Nat :=
  results.countP fun result => result.2.isNone

/-- The counts after more files. -/
def countsAfter (stats : BatchStats) (results : List (String × FileResult)) : BatchStats :=
  ⟨stats.seen + results.length, stats.detected + (items results).length,
    stats.skipped + skippedCount results⟩

/-- The text of items, the first of which has no comma in front of it if nothing was
written before. -/
def itemsText (isFirst : Bool) (items : List FileItem) : List Char :=
  if isFirst then Json.writeItems (items.map FileItem.toJson)
  else items.flatMap fun item => ',' :: item.write

@[simp]
theorem items_nil : items [] = [] := rfl

@[simp]
theorem items_cons_none (path : String) (rest : List (String × FileResult)) :
    items ((path, none) :: rest) = items rest := rfl

@[simp]
theorem items_cons_some (path : String) (detection : Detection)
    (rest : List (String × FileResult)) :
    items ((path, some detection) :: rest) = ⟨path, detection⟩ :: items rest := rfl

/-- Every file gives an item or is skipped. -/
theorem length_items_add_skippedCount (results : List (String × FileResult)) :
    (items results).length + skippedCount results = results.length := by
  induction results with
  | nil => rfl
  | cons result rest ih =>
      obtain ⟨path, none | detection⟩ := result <;>
        simp [skippedCount] at ih ⊢ <;> omega

theorem items_append (first second : List (String × FileResult)) :
    items (first ++ second) = items first ++ items second :=
  List.filterMap_append

/-- Counts add up. -/
theorem countsAfter_append (stats : BatchStats) (first second : List (String × FileResult)) :
    countsAfter stats (first ++ second) = countsAfter (countsAfter stats first) second := by
  simp only [countsAfter, items_append, skippedCount, List.length_append, List.countP_append,
    Nat.add_assoc]

theorem countsAfter_cons (stats : BatchStats) (result : String × FileResult)
    (rest : List (String × FileResult)) :
    countsAfter stats (result :: rest) = countsAfter (countsAfter stats [result]) rest :=
  countsAfter_append stats [result] rest

/-- What stands in front of an item: a comma, unless the item is the first. -/
def separator (isFirst : Bool) : List Char := if isFirst then [] else [',']

theorem itemsText_nil (isFirst : Bool) : itemsText isFirst [] = [] := by
  cases isFirst <;> simp [itemsText, Json.writeItems]

theorem itemsText_cons (isFirst : Bool) (item : FileItem) (rest : List FileItem) :
    itemsText isFirst (item :: rest) =
      separator isFirst ++ item.write ++ itemsText false rest := by
  cases isFirst with
  | true =>
      simp only [itemsText, if_true, List.map_cons, Json.writeItems_cons, List.flatMap_map]
      rfl
  | false => simp [itemsText, separator]

/-- The items behind others have a comma in front of the first of them if there are others. -/
theorem itemsText_append (isFirst : Bool) (first second : List FileItem) :
    itemsText isFirst (first ++ second) =
      itemsText isFirst first ++ itemsText (isFirst && first.isEmpty) second := by
  induction first generalizing isFirst with
  | nil => rw [List.nil_append, itemsText_nil, List.isEmpty_nil, Bool.and_true, List.nil_append]
  | cons item rest ih =>
      rw [List.cons_append, itemsText_cons, itemsText_cons, ih, List.isEmpty_cons, Bool.and_false,
        Bool.false_and]
      simp only [List.append_assoc]

variable {writer : ItemWriter}

theorem put_of_fits {chunk : List Char} (hfits : writer.sink.fits (Utf8.encode chunk).length) :
    ∃ sink, writer.sink.Extends (Utf8.encode chunk) sink ∧
      writer.put chunk = .ok { writer with sink := sink } := by
  obtain ⟨sink, hextends, hwrite⟩ := Sink.write_of_fits hfits
  exact ⟨sink, hextends, by rw [put, hwrite]⟩

/-- A comma separates what is written from what comes next. -/
theorem separate_of_fits
    (hfits : writer.sink.fits (Utf8.encode (separator writer.isFirst)).length) :
    ∃ sink, writer.sink.Extends (Utf8.encode (separator writer.isFirst)) sink ∧
      writer.separate = .ok ⟨sink, false, writer.stats⟩ := by
  cases hfirst : writer.isFirst with
  | true => exact ⟨writer.sink, .refl _, if_pos hfirst⟩
  | false =>
      rw [hfirst] at hfits
      obtain ⟨sink, hextends, hput⟩ := put_of_fits hfits
      refine ⟨sink, hextends, ?_⟩
      rw [separate, hfirst]
      exact hput.trans (by rw [← hfirst])

/-- An item is written behind a comma, unless it is the first. -/
theorem write_some_of_fits {path : String} {detection : Detection}
    (hfits : writer.sink.fits (Utf8.encode
      (separator writer.isFirst ++ FileItem.write ⟨path, detection⟩)).length) :
    ∃ sink, writer.sink.Extends
        (Utf8.encode (separator writer.isFirst ++ FileItem.write ⟨path, detection⟩)) sink ∧
      writer.write path (some detection) =
        .ok ⟨sink, false, countsAfter writer.stats [(path, some detection)]⟩ := by
  rw [Utf8.encode_append, List.length_append] at hfits
  obtain ⟨separated, hseparated, hseparate⟩ :=
    @separate_of_fits writer.countDetected (Sink.fits_of_le hfits (Nat.le_add_right _ _))
  obtain ⟨sink, hextends, hput⟩ :=
    @put_of_fits ⟨separated, false, writer.countDetected.stats⟩ (FileItem.write ⟨path, detection⟩)
      (by rwa [hseparated.fits_eq])
  refine ⟨sink, ?_, ?_⟩
  · rw [Utf8.encode_append]
    exact hseparated.trans hextends
  · rw [write, hseparate]
    exact hput

/-- A writer with enough room writes every list of results: their items behind what
was written before, and their counts on top of the others. -/
theorem writeAll_of_fits {results : List (String × FileResult)}
    (hfits : writer.sink.fits (Utf8.encode (itemsText writer.isFirst (items results))).length) :
    ∃ sink, writer.sink.Extends (Utf8.encode (itemsText writer.isFirst (items results))) sink ∧
      writer.writeAll results = .ok
        ⟨sink, writer.isFirst && (items results).isEmpty, countsAfter writer.stats results⟩ := by
  induction results generalizing writer with
  | nil =>
      rw [items_nil, itemsText_nil, List.isEmpty_nil, Bool.and_true]
      exact ⟨writer.sink, .refl _, rfl⟩
  | cons result rest ih =>
      rw [writeAll_cons, countsAfter_cons]
      obtain ⟨path, none | detection⟩ := result
      · exact @ih writer.skip hfits
      · rw [items_cons_some, itemsText_cons, Utf8.encode_append] at hfits ⊢
        rw [List.length_append] at hfits
        obtain ⟨one, hone, hwrite⟩ :=
          write_some_of_fits (Sink.fits_of_le hfits (Nat.le_add_right _ _))
        obtain ⟨sink, hextends, hwritten⟩ := @ih
          ⟨one, false, countsAfter writer.stats [(path, some detection)]⟩ (by rwa [hone.fits_eq])
        refine ⟨sink, hone.trans hextends, ?_⟩
        rw [hwrite, List.isEmpty_cons, Bool.and_false]
        exact hwritten

end ItemWriter

namespace Batch

open ItemWriter

/-- What a batch writes: the array of its items. -/
def document (results : List (String × FileResult)) : Json :=
  .array ((items results).map FileItem.toJson)

/-- The opening bracket is written to a sink that has room for it. -/
theorem openArray_of_fits {sink : Sink} (hfits : sink.fits (Utf8.encode ['[']).length) :
    ∃ opened, sink.Extends (Utf8.encode ['[']) opened ∧
      (ItemWriter.start sink).openArray = .ok ⟨opened, true, ⟨0, 0, 0⟩⟩ :=
  @put_of_fits (ItemWriter.start sink) ['['] hfits

theorem writeResults_one (arrivals : List Arrival) (results : List (String × FileResult))
    (writer : ItemWriter) : writeResults 1 arrivals results writer = writer.writeAll results :=
  rfl

/-- One worker opens the array, writes the results and closes it. -/
theorem writeArray_one (arrivals : List Arrival) (results : List (String × FileResult))
    (sink : Sink) : writeArray 1 arrivals results sink =
      (ItemWriter.start sink).openArray.bind fun writer =>
        (writer.writeAll results).bind fun writer => writer.closeArray := rfl

theorem document_write (results : List (String × FileResult)) :
    (document results).write = ['['] ++ (itemsText true (items results) ++ [']']) := by
  simp [document, Json.write, itemsText]

/-- The bytes of the document, bracket by bracket. -/
theorem encode_document (results : List (String × FileResult)) :
    Utf8.encode (document results).write = Utf8.encode ['['] ++
      (Utf8.encode (itemsText true (items results)) ++ Utf8.encode [']']) := by
  rw [document_write, Utf8.encode_append, Utf8.encode_append]

/-- One worker with enough room writes the whole document and counts every file. -/
theorem writeArray_one_of_fits (arrivals : List Arrival) {results : List (String × FileResult)}
    {sink : Sink} (hfits : sink.fits (Utf8.encode (document results).write).length) :
    ∃ written, sink.Extends (Utf8.encode (document results).write) written.sink ∧
      writeArray 1 arrivals results sink = .ok written ∧
      written.stats = countsAfter ⟨0, 0, 0⟩ results := by
  rw [encode_document, List.length_append, List.length_append] at hfits
  obtain ⟨opened, hopened, hopen⟩ :=
    openArray_of_fits (Sink.fits_of_le hfits (Nat.le_add_right _ _))
  rw [← hopened.fits_eq] at hfits
  obtain ⟨filled, hfilled, hwritten⟩ := @writeAll_of_fits ⟨opened, true, ⟨0, 0, 0⟩⟩ results
    (Sink.fits_of_le hfits (Nat.le_add_right _ _))
  rw [← hfilled.fits_eq] at hfits
  obtain ⟨closed, hclosed, hclose⟩ := @put_of_fits
    ⟨filled, (items results).isEmpty, countsAfter ⟨0, 0, 0⟩ results⟩ [']'] hfits
  refine ⟨⟨closed, (items results).isEmpty, countsAfter ⟨0, 0, 0⟩ results⟩,
    encode_document results ▸ hopened.trans (hfilled.trans hclosed), ?_, rfl⟩
  rw [writeArray_one, hopen, Except.bind, hwritten]
  exact hclose

/-- One worker without a limit writes the whole document and counts every file. -/
theorem exists_writeArray_one_eq_ok (arrivals : List Arrival)
    (results : List (String × FileResult)) :
    ∃ written, writeArray 1 arrivals results (Sink.empty none) = .ok written ∧
      written.sink.text = (document results).write ∧
      written.stats = ⟨results.length, (items results).length, skippedCount results⟩ := by
  obtain ⟨written, hextends, hwritten, hstats⟩ := @writeArray_one_of_fits arrivals results
    (Sink.empty none) (Sink.fits_of_room_eq_none rfl _)
  refine ⟨written, hwritten, Sink.text_of_bytes_eq hextends.bytes_eq, ?_⟩
  rw [hstats]
  simp [countsAfter]

end Batch

end Polyglot
