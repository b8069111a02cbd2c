/-
# A sink that runs out of room

What is written to a sink with too little room ends at the first piece that does
not fit, in whichever text this piece is: a bracket, a comma or an item.  The
writer stops there, so the pieces in front of it are a beginning of the bytes of the
whole output, and neither the rest of the item nor a later file is tried.  For each
operation of the writer there is one lemma that says where it stops, beside the
one that says what it adds when there is room.

How the bytes of a text are cut into pieces is up to the sink, and nothing here depends
on it: a piece may end within a character.
-/

import Polyglot.Proofs.Batch.Listing

namespace Polyglot

namespace Sink

variable {sink stopped : Sink} {text : List Char}

/-- Writing a text stopped at a piece of it that there was no room for.  The pieces in front of
this one were taken. -/
inductive StopsIn (sink : Sink) (text : List Char) (stopped : Sink) : Prop
  /-- The pieces that were taken, the one that was refused, and those that were not tried. -/
  | intro {taken rest : List (List UInt8)} {refused : List UInt8}
      (hpieces : sink.cutting.pieces (Utf8.encode text) = taken ++ refused :: rest)
      (hextends : sink.Extends taken.flatten stopped)
      (hroom : stopped.fits 0 = true)
      (hfull : stopped.fits refused.length = false)

theorem StopsIn.fits_zero (stops : sink.StopsIn text stopped) : stopped.fits 0 = true := by
  cases stops with
  | intro hpieces hextends hroom hfull => exact hroom

/-- What was taken is a beginning of the bytes of the text. -/
theorem StopsIn.exists_prefix (stops : sink.StopsIn text stopped) :
    ∃ part, part <+: Utf8.encode text ∧ sink.Extends part stopped := by
  cases stops with
  | @intro taken rest refused hpieces hextends hroom hfull =>
      refine ⟨taken.flatten, ⟨(refused :: rest).flatten, ?_⟩, hextends⟩
      rw [← List.flatten_append, ← hpieces, sink.cutting.flatten_pieces]

/-- Pieces that do not fit together are taken up to one that does not fit. -/
theorem handOver_of_not_fits (hroom : sink.fits 0 = true) {pieces : List (List UInt8)}
    (hfull : sink.fits pieces.flatten.length = false) :
    ∃ taken refused rest stopped, pieces = taken ++ refused :: rest ∧
      sink.Extends taken.flatten stopped ∧ stopped.fits 0 = true ∧
      stopped.fits refused.length = false ∧ sink.handOver pieces = .error stopped := by
  induction pieces generalizing sink with
  | nil =>
      rw [List.flatten_nil, List.length_nil, hroom] at hfull
      cases hfull
  | cons piece rest ih =>
      rw [handOver]
      cases hpiece : sink.fits piece.length with
      | false => exact ⟨[], piece, rest, sink, rfl, .refl sink, hroom, hpiece, rfl⟩
      | true =>
          have hpush := sink.extends_push piece
          rw [List.flatten_cons, List.length_append, ← hpush.fits_eq] at hfull
          obtain ⟨taken, refused, others, stopped, rfl, hextends, hstopped, hrefused, herror⟩ :=
            ih (by rwa [hpush.fits_eq]) hfull
          exact ⟨piece :: taken, refused, others, stopped, rfl, hpush.trans hextends, hstopped,
            hrefused, by rw [if_pos rfl, herror]⟩

/-- Writing a text that does not fit stops in it. -/
theorem write_of_not_fits (hroom : sink.fits 0 = true)
    (hfull : sink.fits (Utf8.encode text).length = false) :
    ∃ stopped, sink.StopsIn text stopped ∧ sink.write text = .error stopped := by
  rw [← sink.cutting.flatten_pieces (Utf8.encode text)] at hfull
  obtain ⟨taken, refused, rest, stopped, hpieces, hextends, hstopped, hrefused, herror⟩ :=
    handOver_of_not_fits hroom hfull
  exact ⟨stopped, .intro hpieces hextends hstopped hrefused, herror⟩

/-- Writing an item stopped, at the comma in front of it or in its text. -/
inductive StopsAtItem (sink : Sink) (isFirst : Bool) (item : FileItem) (stopped : Sink) : Prop
  /-- There was no room for the comma. -/
  | comma (hnext : isFirst = false) (hstop : sink.StopsIn [','] stopped)
  /-- There was no room for the whole text of the item. -/
  | item {separated : Sink}
      (hseparated : sink.Extends (Utf8.encode (ItemWriter.separator isFirst)) separated)
      (hstop : separated.StopsIn item.write stopped)

theorem StopsAtItem.fits_zero {isFirst : Bool} {item : FileItem}
    (stops : sink.StopsAtItem isFirst item stopped) : stopped.fits 0 = true := by
  cases stops with
  | comma hnext hstop => exact hstop.fits_zero
  | item hseparated hstop => exact hstop.fits_zero

theorem StopsAtItem.exists_prefix {isFirst : Bool} {item : FileItem}
    (stops : sink.StopsAtItem isFirst item stopped) :
    ∃ part, part <+: Utf8.encode (ItemWriter.separator isFirst ++ item.write) ∧
      sink.Extends part stopped := by
  rw [Utf8.encode_append]
  cases stops with
  | comma hnext hstop =>
      obtain ⟨part, hpart, hextends⟩ := hstop.exists_prefix
      have hcomma : ItemWriter.separator isFirst = [','] := by rw [hnext]; rfl
      exact ⟨part, hcomma ▸ hpart.trans (List.prefix_append _ _), hextends⟩
  | item hseparated hstop =>
      obtain ⟨part, hpart, hextends⟩ := hstop.exists_prefix
      exact ⟨_, (List.prefix_append_right_inj _).mpr hpart, hseparated.trans hextends⟩

end Sink

namespace ItemWriter

variable {writer : ItemWriter}

theorem put_of_not_fits {chunk : List Char} (hroom : writer.sink.fits 0 = true)
    (hfull : writer.sink.fits (Utf8.encode chunk).length = false) :
    ∃ stopped, writer.sink.StopsIn chunk stopped ∧
      writer.put chunk = .error { writer with sink := stopped } := by
  obtain ⟨stopped, hstop, herror⟩ := Sink.write_of_not_fits hroom hfull
  exact ⟨stopped, hstop, by rw [put, herror]⟩

/-- An item for which there is no room stops the writer, which has counted its file. -/
theorem write_some_of_not_fits {path : String} {detection : Detection}
    (hroom : writer.sink.fits 0 = true)
    (hfull : writer.sink.fits (Utf8.encode
      (separator writer.isFirst ++ FileItem.write ⟨path, detection⟩)).length = false) :
    ∃ failed, writer.sink.StopsAtItem writer.isFirst ⟨path, detection⟩ failed.sink ∧
      failed.stats = countsAfter writer.stats [(path, some detection)] ∧
      writer.write path (some detection) = .error failed := by
  cases hcomma : writer.sink.fits (Utf8.encode (separator writer.isFirst)).length with
  | true =>
      obtain ⟨separated, hseparated, hseparate⟩ : ∃ separated,
          writer.sink.Extends (Utf8.encode (separator writer.isFirst)) separated ∧
            writer.countDetected.separate = .ok ⟨separated, false, writer.countDetected.stats⟩ :=
        @separate_of_fits writer.countDetected hcomma
      rw [Utf8.encode_append, List.length_append, ← hseparated.fits_eq] at hfull
      have hzero : separated.fits 0 = true := by rwa [hseparated.fits_eq]
      obtain ⟨stopped, hstop, herror⟩ :=
        @put_of_not_fits ⟨separated, false, writer.countDetected.stats⟩ _ hzero hfull
      refine ⟨⟨stopped, false, writer.countDetected.stats⟩, .item hseparated hstop, rfl, ?_⟩
      rw [write, hseparate]
      exact herror
  | false =>
      cases hfirst : writer.isFirst with
      | true =>
          have hzero : writer.sink.fits 0 = false := by rwa [hfirst] at hcomma
          rw [hroom] at hzero
          cases hzero
      | false =>
          rw [hfirst] at hcomma
          obtain ⟨stopped, hstop, herror⟩ :=
            @put_of_not_fits writer.countDetected [','] hroom hcomma
          refine ⟨{ writer.countDetected with sink := stopped }, .comma rfl hstop, rfl, ?_⟩
          have hseparate : writer.countDetected.separate = writer.countDetected.put [','] :=
            if_neg (by simp [countDetected, hfirst])
          rw [write, hseparate, herror]
          rfl

/-- Results for which there is no room stop the writer at one of their items.  The results in
front of it are written, and those behind it are not even counted. -/
theorem writeAll_of_not_fits {results : List (String × FileResult)}
    (hroom : writer.sink.fits 0 = true)
    (hfull : writer.sink.fits
      (Utf8.encode (itemsText writer.isFirst (items results))).length = false) :
    ∃ before path detection after reached failed,
      results = before ++ (path, some detection) :: after ∧
      writer.sink.Extends (Utf8.encode (itemsText writer.isFirst (items before))) reached ∧
      reached.StopsAtItem (writer.isFirst && (items before).isEmpty) ⟨path, detection⟩
        failed.sink ∧
      failed.stats = countsAfter writer.stats (before ++ [(path, some detection)]) ∧
      writer.writeAll results = .error failed := by
  induction results generalizing writer with
  | nil =>
      rw [items_nil, itemsText_nil, Utf8.encode_nil, List.length_nil, hroom] at hfull
      cases hfull
  | cons result rest ih =>
      rw [writeAll_cons]
      obtain ⟨path, none | detection⟩ := result
      · obtain ⟨before, other, detection, after, reached, failed, rfl, hreached, hstop, hstats,
          herror⟩ := @ih writer.skip hroom hfull
        refine ⟨(path, none) :: before, other, detection, after, reached, failed, rfl, hreached,
          hstop, ?_, herror⟩
        rw [hstats, List.cons_append, countsAfter_cons]
        rfl
      · rw [items_cons_some, itemsText_cons, Utf8.encode_append, List.length_append] at hfull
        cases hone : writer.sink.fits (Utf8.encode
            (separator writer.isFirst ++ FileItem.write ⟨path, detection⟩)).length with
        | true =>
            obtain ⟨one, hextends, hwrite⟩ := write_some_of_fits hone
            rw [← hextends.fits_eq] at hfull
            have hzero : one.fits 0 = true := by rwa [hextends.fits_eq]
            obtain ⟨before, other, found, after, reached, failed, rfl, hreached, hstop, hstats,
              herror⟩ := @ih ⟨one, false, countsAfter writer.stats [(path, some detection)]⟩ hzero
                hfull
            refine ⟨(path, some detection) :: before, other, found, after, reached, failed, rfl,
              ?_, ?_, ?_, ?_⟩
            · rw [items_cons_some, itemsText_cons, Utf8.encode_append]
              exact hextends.trans hreached
            · rw [items_cons_some, List.isEmpty_cons, Bool.and_false]
              exact hstop
            · rw [hstats, List.cons_append, ← countsAfter_cons]
            · rw [hwrite]
              exact herror
        | false =>
            obtain ⟨failed, hstop, hstats, herror⟩ := write_some_of_not_fits hroom hone
            refine ⟨[], path, detection, rest, writer.sink, failed, rfl, ?_, ?_, hstats, ?_⟩
            · rw [items_nil, itemsText_nil]
              exact .refl _
            · rwa [items_nil, List.isEmpty_nil, Bool.and_true]
            · rw [herror]
              rfl

end ItemWriter

namespace Batch

open ItemWriter

/-- Where writing the array for results stopped, and what was counted by then. -/
inductive StopsAt (sink : Sink) (results : List (String × FileResult)) (failed : ItemWriter) :
    Prop
  /-- There was no room for the opening bracket. -/
  | opening (hstop : sink.StopsIn ['['] failed.sink) (hstats : failed.stats = ⟨0, 0, 0⟩)
  /-- There was no room for an item.  The results in front of it are written, and no result
  behind it is counted. -/
  | item {before after : List (String × FileResult)} {path : String} {detection : Detection}
      {reached : Sink} (hresults : results = before ++ (path, some detection) :: after)
      (hreached : sink.Extends (Utf8.encode (['['] ++ itemsText true (items before))) reached)
      (hstop : reached.StopsAtItem (items before).isEmpty ⟨path, detection⟩ failed.sink)
      (hstats : failed.stats = countsAfter ⟨0, 0, 0⟩ (before ++ [(path, some detection)]))
  /-- There was no room for the closing bracket. -/
  | closing {reached : Sink}
      (hreached : sink.Extends (Utf8.encode (['['] ++ itemsText true (items results))) reached)
      (hstop : reached.StopsIn [']'] failed.sink)
      (hstats : failed.stats = countsAfter ⟨0, 0, 0⟩ results)

section StopsAt

variable {sink : Sink} {results : List (String × FileResult)} {failed : ItemWriter}

/-- The sink has not taken more than there was room for. -/
theorem StopsAt.fits_zero (stops : StopsAt sink results failed) : failed.sink.fits 0 = true := by
  cases stops with
  | opening hstop hstats => exact hstop.fits_zero
  | item hresults hreached hstop hstats => exact hstop.fits_zero
  | closing hreached hstop hstats => exact hstop.fits_zero

/-- The sink has taken a beginning of the bytes of the document. -/
theorem StopsAt.exists_prefix (stops : StopsAt sink results failed) :
    ∃ part, part <+: Utf8.encode (document results).write ∧ sink.Extends part failed.sink := by
  rw [document_write]
  cases stops with
  | opening hstop hstats =>
      obtain ⟨part, hpart, hextends⟩ := hstop.exists_prefix
      rw [Utf8.encode_append]
      exact ⟨part, hpart.trans (List.prefix_append _ _), hextends⟩
  | @item before after path detection reached hresults hreached hstop hstats =>
      obtain ⟨part, hpart, hextends⟩ := hstop.exists_prefix
      refine ⟨_, ?_, hreached.trans hextends⟩
      rw [hresults, items_append, items_cons_some, itemsText_append, itemsText_cons, Bool.true_and]
      simp only [Utf8.encode_append, List.append_assoc, List.prefix_append_right_inj] at hpart ⊢
      rw [← List.append_assoc]
      exact hpart.trans (List.prefix_append _ _)
  | closing hreached hstop hstats =>
      obtain ⟨part, hpart, hextends⟩ := hstop.exists_prefix
      rw [← List.append_assoc, Utf8.encode_append]
      exact ⟨_, (List.prefix_append_right_inj _).mpr hpart, hreached.trans hextends⟩

/-- With too little room, writing the array for results stops. -/
theorem writeArray_one_of_not_fits (arrivals : List Arrival) (hroom : sink.fits 0 = true)
    (hfull : sink.fits (Utf8.encode (document results).write).length = false) :
    ∃ failed, StopsAt sink results failed ∧
      writeArray 1 arrivals results sink = .error failed := by
  rw [writeArray_one]
  cases hopening : sink.fits (Utf8.encode ['[']).length with
  | false =>
      obtain ⟨stopped, hstop, herror⟩ :=
        @put_of_not_fits (ItemWriter.start sink) ['['] hroom hopening
      exact ⟨⟨stopped, true, ⟨0, 0, 0⟩⟩, .opening hstop rfl, by rw [openArray, herror]; rfl⟩
  | true =>
      obtain ⟨opened, hopened, hopen⟩ := openArray_of_fits hopening
      rw [encode_document, List.length_append, ← hopened.fits_eq, List.length_append] at hfull
      have hzero : opened.fits 0 = true := by rwa [hopened.fits_eq]
      rw [hopen, Except.bind]
      cases hitems : opened.fits (Utf8.encode (itemsText true (items results))).length with
      | false =>
          obtain ⟨before, path, detection, after, reached, failed, hresults, hreached, hstop,
            hstats, herror⟩ := @writeAll_of_not_fits ⟨opened, true, ⟨0, 0, 0⟩⟩ results hzero hitems
          rw [Bool.true_and] at hstop
          have hfront := hopened.trans hreached
          rw [← Utf8.encode_append] at hfront
          exact ⟨failed, .item hresults hfront hstop hstats, by rw [herror]; rfl⟩
      | true =>
          obtain ⟨filled, hfilled, hwritten⟩ :=
            @writeAll_of_fits ⟨opened, true, ⟨0, 0, 0⟩⟩ results hitems
          rw [← hfilled.fits_eq] at hfull
          have hzero' : filled.fits 0 = true := by rwa [hfilled.fits_eq]
          obtain ⟨stopped, hstop, herror⟩ := @put_of_not_fits
            ⟨filled, (items results).isEmpty, countsAfter ⟨0, 0, 0⟩ results⟩ [']'] hzero' hfull
          have hfront := hopened.trans hfilled
          rw [← Utf8.encode_append] at hfront
          refine ⟨⟨stopped, (items results).isEmpty, countsAfter ⟨0, 0, 0⟩ results⟩,
            .closing hfront hstop rfl, ?_⟩
          rw [hwritten]
          exact herror

/-- What fits a sink that nothing was written to. -/
theorem fits_cutBy (cutting : Cutting) (room bytes : Nat) :
    (Sink.cutBy cutting (some room)).fits bytes = decide (bytes ≤ room) := by
  simp [Sink.fits, Sink.cutBy]

/-- What was taken is a beginning of the bytes of the document, and there was room for it. -/
theorem StopsAt.bytes_prefix {cutting : Cutting} {room : Nat}
    (stops : StopsAt (Sink.cutBy cutting (some room)) results failed) :
    failed.sink.bytes <+: Utf8.encode (document results).write ∧
      failed.sink.bytes.length ≤ room := by
  obtain ⟨part, hpart, hextends⟩ := stops.exists_prefix
  have hbytes : failed.sink.bytes = part := hextends.bytes_eq
  have hfits := stops.fits_zero
  rw [hextends.fits_eq, fits_cutBy, decide_eq_true_iff] at hfits
  exact hbytes ▸ ⟨hpart, hfits⟩

end StopsAt

/-- Into a sink with room for so many bytes, whatever the pieces are that it takes, a batch is
written without a failure exactly if the whole output is no longer than that, and
then it is the output that a sink without a limit receives.  Otherwise the sink
has taken a beginning of the bytes of this output, up to the first piece that did not
fit, and no file behind the one that this piece belongs to was counted.  All of this is
the same for one worker and for several, in whatever order the results arrive. -/
theorem run_stops_when_full (w : Workspace) (root : Path) (options : BatchOptions)
    (registry : Registry) (cutting : Cutting) (room : Nat) :
    ∃ complete, run w root options registry (Sink.empty none) = .ok complete ∧
      complete.sink.bytes = Utf8.encode complete.sink.text ∧
      ((∃ failed, run w root options registry (Sink.cutBy cutting (some room)) =
        .error failed) ↔ room < complete.sink.bytes.length) ∧
      (∀ written, run w root options registry (Sink.cutBy cutting (some room)) = .ok written →
        written.sink.bytes = complete.sink.bytes ∧ written.sink.text = complete.sink.text ∧
        written.stats = complete.stats) ∧
      (∀ failed, run w root options registry (Sink.cutBy cutting (some room)) = .error failed →
        failed.sink.bytes <+: complete.sink.bytes ∧
        failed.sink.bytes.length ≤ room ∧
        StopsAt (Sink.cutBy cutting (some room)) (results options registry (filesAt w root))
          failed) ∧
      ∀ workers arrivals, arrivals.Perm (inOrder (results options registry (filesAt w root))) →
        writeArray workers arrivals (results options registry (filesAt w root))
            (Sink.cutBy cutting (some room)) =
          run w root options registry (Sink.cutBy cutting (some room)) := by
  have hrun (sink : Sink) : run w root options registry sink =
      writeArray 1 [] (results options registry (filesAt w root)) sink := by
    rw [run_eq, writeArray_eq_one_of_perm (List.Perm.refl _)]
  simp only [hrun]
  generalize results options registry (filesAt w root) = results
  obtain ⟨complete, hextends, hcomplete, hstats⟩ := @writeArray_one_of_fits [] results
    (Sink.empty none) (Sink.fits_of_room_eq_none rfl _)
  have hbytes : complete.sink.bytes = Utf8.encode (document results).write := hextends.bytes_eq
  refine ⟨complete, hcomplete, ?_⟩
  rw [Sink.text_of_bytes_eq hbytes, hbytes, hstats]
  refine ⟨rfl, ?_⟩
  have horder : ∀ workers arrivals, arrivals.Perm (inOrder results) →
      writeArray workers arrivals results (Sink.cutBy cutting (some room)) =
        writeArray 1 [] results (Sink.cutBy cutting (some room)) :=
    fun workers arrivals hperm => writeArray_eq_one_of_perm hperm workers _
  by_cases hfull : room < (Utf8.encode (document results).write).length
  · obtain ⟨failed, hstop, herror⟩ := @writeArray_one_of_not_fits
      (Sink.cutBy cutting (some room)) results [] (by simp [fits_cutBy])
      (by simpa [fits_cutBy] using hfull)
    rw [herror]
    refine ⟨⟨fun _ => hfull, fun _ => ⟨failed, rfl⟩⟩, nofun, ?_, herror ▸ horder⟩
    rintro _ ⟨⟩
    exact ⟨hstop.bytes_prefix.1, hstop.bytes_prefix.2, hstop⟩
  · obtain ⟨written, hextends, hwritten, hcounts⟩ := @writeArray_one_of_fits [] results
      (Sink.cutBy cutting (some room)) (by simpa [fits_cutBy] using hfull)
    rw [hwritten]
    refine ⟨⟨nofun, fun hlt => absurd hlt hfull⟩, ?_, nofun, hwritten ▸ horder⟩
    rintro _ ⟨⟩
    exact ⟨hextends.bytes_eq, Sink.text_of_bytes_eq hextends.bytes_eq, hcounts⟩

/-- Every byte is a piece. -/
def byteByByte : Cutting where
  pieces bytes := bytes.map fun b => [b]
  flatten_pieces bytes := by
    induction bytes with
    | nil => rfl
    | cons b rest ih => rw [List.map_cons, List.flatten_cons, ih, List.singleton_append]

/-- The output for two items, of which 40 bytes hold the first and the beginning of the second. -/
def twoItems : List Char :=
  ("[\x7b\"path\":\"a/z\",\"detected\":\"Unknown\"\x7d," ++
    "\x7b\"path\":\"a!b\",\"detected\":\"Unknown\"\x7d]").toList

/-- Two workers that finish in the opposite order stop where one worker does. -/
theorem run_stops_when_full_of_two_items :
    ∃ failed,
      run sampleWorkspace (Path.ofText ".") ⟨⟨true, false⟩, none, 2⟩ ⟨[.unknown]⟩
        (Sink.cutBy byteByByte (some 40)) = .error failed ∧
      failed.sink.bytes <+: Utf8.encode twoItems ∧
      writeArray 2
        (inOrder (results ⟨⟨true, false⟩, none, 2⟩ ⟨[.unknown]⟩
          (filesAt sampleWorkspace (Path.ofText ".")))).reverse
        (results ⟨⟨true, false⟩, none, 2⟩ ⟨[.unknown]⟩
          (filesAt sampleWorkspace (Path.ofText ".")))
        (Sink.cutBy byteByByte (some 40)) = .error failed := by
  obtain ⟨complete, hcomplete, hbytes, hfails, -, hstops, horder⟩ :=
    run_stops_when_full sampleWorkspace (Path.ofText ".") ⟨⟨true, false⟩, none, 2⟩ ⟨[.unknown]⟩
      byteByByte 40
  have htext : complete.sink.text = twoItems := by
    obtain ⟨written, hwritten, htext, -⟩ := exists_run_eq_listing sampleWorkspace (Path.ofText ".")
      ⟨⟨true, false⟩, none, 2⟩ ⟨[.unknown]⟩
      ((isListing_filesAt distinct_sampleWorkspace find_sampleWorkspace none).eq
        isListing_sampleFiles)
    obtain rfl := Except.ok.inj (hcomplete.symm.trans hwritten)
    rw [htext]
    decide +kernel
  rw [htext] at hbytes
  obtain ⟨failed, hfailed⟩ := hfails.mpr (by rw [hbytes]; decide)
  refine ⟨failed, hfailed, hbytes ▸ (hstops failed hfailed).1, ?_⟩
  rw [horder 2 _ (List.reverse_perm _), hfailed]

end Batch

end Polyglot
