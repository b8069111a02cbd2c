/-
# Every order of arrivals writes the same batch

Results that come in any order are written as if they had come in the order of
the files.  The invariant that carries the proof is `Receiver.receiveAll_of_isDue`:
after any arrivals, the results in front of the first position that is missing
have been written in order, and exactly the arrivals behind it are kept.  It
holds of a run that fails too, and the failure is that of writing in order.

That every position arrives exactly once is what the workers promise.  Nothing
is assumed about the order, or about what the results are.
-/

import Mathlib.Data.Fintype.EquivFin
import Mathlib.Data.List.Perm.Subperm
import Mathlib.Data.Nat.Find
import Polyglot.Batch.Basic
import Polyglot.Proofs.Batch.Output

namespace Polyglot

/-- Arrivals that belong to a list of results: each brings the result of its
position, and no position comes twice. -/
structure Delivered (results : List (String × FileResult)) (arrivals : List Arrival) :
    Prop where
  /-- An arrival brings the result of its position. -/
  result_of_mem : ∀ arrival ∈ arrivals,
    (results[arrival.1]?).map Prod.snd = some arrival.2
  /-- No position comes twice. -/
  nodup : (arrivals.map Prod.fst).Nodup

namespace Delivered

variable {results : List (String × FileResult)} {arrivals : List Arrival}

theorem exists_path (delivered : Delivered results arrivals) {position : Nat}
    {result : FileResult} (hmem : (position, result) ∈ arrivals) :
    ∃ path, results[position]? = some (path, result) := by
  have hresult := delivered.result_of_mem _ hmem
  obtain ⟨⟨path, found⟩, hfound, rfl⟩ := Option.map_eq_some_iff.mp hresult
  exact ⟨path, hfound⟩

theorem of_beginning (delivered : Delivered results arrivals) {received : List Arrival}
    (hreceived : received <+: arrivals) : Delivered results received where
  result_of_mem arrival hmem := delivered.result_of_mem arrival (hreceived.subset hmem)
  nodup := delivered.nodup.sublist (hreceived.sublist.map Prod.fst)

end Delivered

/-- The first position that has not arrived. -/
structure IsDue (arrivals : List Arrival) (position : Nat) : Prop where
  /-- All positions in front of it have arrived. -/
  arrived : ∀ earlier < position, earlier ∈ arrivals.map Prod.fst
  /-- It has not. -/
  missing : position ∉ arrivals.map Prod.fst

namespace IsDue

/-- Only finitely many positions have arrived, so some position is due. -/
theorem exists_isDue (arrivals : List Arrival) : ∃ position, IsDue arrivals position := by
  have hmissing : ∃ position, position ∉ arrivals.map Prod.fst := by
    obtain ⟨position, hposition⟩ :=
      Infinite.exists_notMem_finset (arrivals.map Prod.fst).toFinset
    exact ⟨position, by simpa using hposition⟩
  classical
  refine ⟨Nat.find hmissing, fun earlier hlt => ?_, Nat.find_spec hmissing⟩
  exact not_not.mp (Nat.find_min hmissing hlt)

variable {arrivals : List Arrival} {position : Nat}

/-- One more arrival never moves the position that is due backwards. -/
theorem le_of_append (due : IsDue arrivals position) {more : List Arrival} {next : Nat}
    (later : IsDue (arrivals ++ more) next) : position ≤ next := by
  by_contra hlt
  have harrived := due.arrived next (Nat.lt_of_not_le hlt)
  exact later.missing (by simpa using Or.inl (by simpa using harrived))

theorem le_length {results : List (String × FileResult)} (due : IsDue arrivals position)
    (delivered : Delivered results arrivals) : position ≤ results.length := by
  by_contra hlt
  obtain ⟨⟨_, result⟩, hmem, rfl⟩ :=
    List.mem_map.mp (due.arrived results.length (Nat.lt_of_not_le hlt))
  obtain ⟨path, hpath⟩ := delivered.exists_path hmem
  simp at hpath

/-- There are at least as many arrivals from a position on as there are
positions up to the one that is due. -/
theorem sub_le_length_filter (due : IsDue arrivals position) (next : Nat) :
    position - next ≤ (arrivals.filter fun arrival => next ≤ arrival.1).length := by
  have hsubset : List.range' next (position - next) ⊆
      (arrivals.filter fun arrival => next ≤ arrival.1).map Prod.fst := by
    intro middle hmiddle
    obtain ⟨hnext, hposition⟩ := List.mem_range'_1.mp hmiddle
    obtain ⟨arrival, hmem, rfl⟩ := List.mem_map.mp (due.arrived middle (by omega))
    exact List.mem_map.mpr ⟨arrival, List.mem_filter.mpr ⟨hmem, by simpa using hnext⟩, rfl⟩
  have hlength := (List.Nodup.subperm List.nodup_range' hsubset).length_le
  simpa using hlength

end IsDue

namespace Receiver

/-- The arrivals from a position on, the last one first. -/
def keptFrom (arrivals : List Arrival) (position : Nat) : List Arrival :=
  (arrivals.filter fun arrival => position ≤ arrival.1).reverse

theorem mem_keptFrom {arrivals : List Arrival} {position : Nat} {arrival : Arrival} :
    arrival ∈ keptFrom arrivals position ↔ arrival ∈ arrivals ∧ position ≤ arrival.1 := by
  simp [keptFrom]

/-- Taking out a position leaves the arrivals behind it. -/
theorem filter_keptFrom (arrivals : List Arrival) (position : Nat) :
    ((keptFrom arrivals position).filter fun other => other.1 != position) =
      keptFrom arrivals (position + 1) := by
  rw [keptFrom, keptFrom, List.filter_reverse, List.filter_filter]
  congr 1
  apply List.filter_congr
  intro arrival _
  rw [Bool.eq_iff_iff]
  simp
  omega

/-- A position that has arrived and was not taken out is found. -/
theorem exists_lookup_keptFrom {arrivals : List Arrival} {position : Nat}
    (harrived : position ∈ arrivals.map Prod.fst) :
    ∃ result, (keptFrom arrivals position).lookup position = some result ∧
      (position, result) ∈ arrivals := by
  obtain ⟨arrival, hmem, rfl⟩ := List.mem_map.mp harrived
  cases hlookup : (keptFrom arrivals arrival.1).lookup arrival.1 with
  | none =>
      have habsent := List.lookup_eq_none_iff.mp hlookup arrival
        (mem_keptFrom.mpr ⟨hmem, le_rfl⟩)
      simp at habsent
  | some result =>
      obtain ⟨before, after, hsplit, _⟩ := List.lookup_eq_some_iff.mp hlookup
      have hfound : (arrival.1, result) ∈ keptFrom arrivals arrival.1 := by
        rw [hsplit]
        exact List.mem_append_right before List.mem_cons_self
      exact ⟨result, rfl, (mem_keptFrom.mp hfound).1⟩

/-- No arrival is at the position that is due. -/
theorem keptFrom_of_isDue {arrivals : List Arrival} {position : Nat}
    (due : IsDue arrivals position) : keptFrom arrivals position =
      (arrivals.filter fun arrival => position < arrival.1).reverse := by
  rw [keptFrom]
  congr 1
  apply List.filter_congr
  intro arrival hmem
  have hne : arrival.1 ≠ position := fun heq => due.missing (heq ▸ List.mem_map_of_mem hmem)
  rw [Bool.eq_iff_iff]
  simp
  omega

theorem lookup_keptFrom_of_isDue {arrivals : List Arrival} {position : Nat}
    (due : IsDue arrivals position) :
    (keptFrom arrivals position).lookup position = none := by
  rw [List.lookup_eq_none_iff]
  intro arrival hmem
  have hne : arrival.1 ≠ position := fun heq =>
    due.missing (heq ▸ List.mem_map_of_mem (mem_keptFrom.mp hmem).1)
  simpa using hne.symm

variable {results : List (String × FileResult)} {arrivals : List Arrival}

/-- The inner loop.  While the next position has arrived its result is written, so
the loop stops at the position that is due, having written everything up to it. -/
theorem drain_keptFrom (delivered : Delivered results arrivals) {position : Nat}
    (due : IsDue arrivals position) (steps next : Nat) (writer : ItemWriter)
    (hnext : next ≤ position) (hsteps : position - next ≤ steps) :
    drain (results.map Prod.fst) steps ⟨next, keptFrom arrivals next, writer⟩ =
      (writer.writeAll ((results.take position).drop next)).map fun written =>
        ⟨position, keptFrom arrivals position, written⟩ := by
  induction steps generalizing next writer with
  | zero =>
      obtain rfl : next = position := by omega
      simp [drain, Except.map]
  | succ steps ih =>
      by_cases hstop : next = position
      · subst hstop
        simp [drain, lookup_keptFrom_of_isDue due, Except.map]
      · have hlt : next < position := by omega
        obtain ⟨result, hlookup, hmem⟩ := exists_lookup_keptFrom (due.arrived next hlt)
        obtain ⟨path, hresult⟩ := delivered.exists_path hmem
        have hlist : (results.take position).drop next =
            (path, result) :: (results.take position).drop (next + 1) := by
          refine List.drop_eq_getElem?_toList_append.trans ?_
          simp [hlt, hresult]
        have hpath : (results.map Prod.fst)[next]? = some path := by
          simp [hresult]
        rw [hlist, ItemWriter.writeAll_cons, drain, hlookup, hpath]
        cases hwrite : writer.write path result with
        | error failed => simp only [hwrite, Except.bind, Except.map]
        | ok written =>
            simp only [hwrite, Except.bind, filter_keptFrom]
            exact ih (next + 1) written hlt (by omega)

/-- One arrival is put in front of those that are kept. -/
theorem keep_keptFrom {arrival : Arrival} {position : Nat}
    (fresh : arrival.1 ∉ arrivals.map Prod.fst) (hle : position ≤ arrival.1)
    (writer : ItemWriter) :
    keep ⟨position, keptFrom arrivals position, writer⟩ arrival =
      ⟨position, keptFrom (arrivals ++ [arrival]) position, writer⟩ := by
  have hothers : ((keptFrom arrivals position).filter fun other => other.1 != arrival.1) =
      keptFrom arrivals position := by
    rw [List.filter_eq_self]
    intro other hmem
    have hne : other.1 ≠ arrival.1 := fun heq =>
      fresh (heq ▸ List.mem_map_of_mem (mem_keptFrom.mp hmem).1)
    simpa using hne
  simp only [keep, hothers]
  simp [keptFrom, hle]

/-- The step of the outer loop: one arrival moves the position that is due, and
everything in between is written. -/
theorem receive_keptFrom {arrival : Arrival}
    (delivered : Delivered results (arrivals ++ [arrival])) {position next : Nat}
    (due : IsDue arrivals position) (later : IsDue (arrivals ++ [arrival]) next)
    (writer : ItemWriter) :
    receive (results.map Prod.fst) ⟨position, keptFrom arrivals position, writer⟩ arrival =
      (writer.writeAll ((results.take next).drop position)).map fun written =>
        ⟨next, keptFrom (arrivals ++ [arrival]) next, written⟩ := by
  have fresh : arrival.1 ∉ arrivals.map Prod.fst := by
    have hnodup := delivered.nodup
    rw [List.map_append, List.nodup_append] at hnodup
    intro hmem
    exact hnodup.2.2 arrival.1 hmem arrival.1 (by simp) rfl
  have hle : position ≤ arrival.1 := by
    by_contra hlt
    exact fresh (due.arrived arrival.1 (Nat.lt_of_not_le hlt))
  rw [receive, keep_keptFrom fresh hle]
  refine drain_keptFrom delivered later _ position writer (due.le_of_append later) ?_
  rw [keptFrom, List.length_reverse]
  exact later.sub_le_length_filter position

theorem receiveAll_concat (paths : List String) (receiver : Receiver)
    (arrivals : List Arrival) (arrival : Arrival) :
    receiveAll paths receiver (arrivals ++ [arrival]) =
      (receiveAll paths receiver arrivals).bind fun receiver =>
        receiver.receive paths arrival := by
  simp only [receiveAll, List.foldlM_append, List.foldlM_cons, List.foldlM_nil, bind_pure]
  rfl

/-- The outer loop.  After any arrivals the results in front of the position that
is due have been written in order, and the arrivals behind it are kept. -/
theorem receiveAll_of_isDue (delivered : Delivered results arrivals) {position : Nat}
    (due : IsDue arrivals position) (writer : ItemWriter) :
    receiveAll (results.map Prod.fst) (start writer) arrivals =
      (writer.writeAll (results.take position)).map fun written =>
        ⟨position, keptFrom arrivals position, written⟩ := by
  -- The last arrival is split off, since the loop has received all others before it.
  induction arrivals using List.reverseRecOn generalizing position with
  | nil =>
      have hzero : position = 0 := by
        by_contra hne
        simpa using due.arrived 0 (Nat.pos_of_ne_zero hne)
      subst hzero
      rfl
  | append_singleton arrivals arrival ih =>
      obtain ⟨earlier, hdue⟩ := IsDue.exists_isDue arrivals
      have hle : earlier ≤ position := hdue.le_of_append due
      have hbefore := ih (delivered.of_beginning (List.prefix_append arrivals [arrival])) hdue
      have hsplit : results.take position =
          results.take earlier ++ (results.take position).drop earlier := by
        have happend := List.take_append_drop earlier (results.take position)
        rwa [List.take_take, Nat.min_eq_left hle, eq_comm] at happend
      rw [receiveAll_concat, hbefore, hsplit, ItemWriter.writeAll_append]
      cases writer.writeAll (results.take earlier) with
      | error failed => rfl
      | ok written => exact receive_keptFrom delivered hdue due written

end Receiver

namespace Batch

variable {results : List (String × FileResult)} {arrivals : List Arrival}

theorem map_fst_inOrder (results : List (String × FileResult)) :
    (inOrder results).map Prod.fst = List.range results.length := by
  rw [inOrder, List.map_map, List.range_eq_range', ← List.zipIdx_map_snd 0 results]
  rfl

theorem delivered_of_perm (hperm : arrivals.Perm (inOrder results)) :
    Delivered results arrivals where
  result_of_mem arrival hmem := by
    obtain ⟨⟨result, position⟩, hentry, rfl⟩ := List.mem_map.mp (hperm.mem_iff.mp hmem)
    simp [List.mk_mem_zipIdx_iff_getElem?.mp hentry]
  nodup := by
    rw [(hperm.map Prod.fst).nodup_iff, map_fst_inOrder]
    exact List.nodup_range

/-- When every position has arrived, the one behind the last is due. -/
theorem isDue_length_of_perm (hperm : arrivals.Perm (inOrder results)) :
    IsDue arrivals results.length := by
  have hmem (position : Nat) :
      position ∈ arrivals.map Prod.fst ↔ position < results.length := by
    rw [(hperm.map Prod.fst).mem_iff, map_fst_inOrder, List.mem_range]
  exact ⟨fun earlier hlt => (hmem earlier).mpr hlt, fun hlast => by simp [hmem] at hlast⟩

theorem keptFrom_length_of_perm (hperm : arrivals.Perm (inOrder results)) :
    Receiver.keptFrom arrivals results.length = [] := by
  rw [List.eq_nil_iff_forall_not_mem]
  intro arrival hmem
  obtain ⟨harrived, hle⟩ := Receiver.mem_keptFrom.mp hmem
  obtain ⟨path, hresult⟩ := (delivered_of_perm hperm).exists_path harrived
  exact absurd (List.getElem?_eq_some_iff.mp hresult).1 (Nat.not_lt.mpr hle)

/-- Writing the results as they arrive is writing them in order. -/
theorem receiveAll_of_perm (hperm : arrivals.Perm (inOrder results)) (writer : ItemWriter) :
    Receiver.receiveAll (results.map Prod.fst) (Receiver.start writer) arrivals =
      (writer.writeAll results).map fun written => ⟨results.length, [], written⟩ := by
  rw [Receiver.receiveAll_of_isDue (delivered_of_perm hperm) (isDue_length_of_perm hperm),
    List.take_length, keptFrom_length_of_perm hperm]

/-- However many workers there are, the array is the one that one worker writes. -/
theorem writeArray_eq_one_of_perm (hperm : arrivals.Perm (inOrder results)) (workers : Nat)
    (sink : Sink) : writeArray workers arrivals results sink = writeArray 1 [] results sink := by
  have hresults (writer : ItemWriter) : writeResults workers arrivals results writer =
      writeResults 1 [] results writer := by
    rw [writeResults_one, writeResults]
    split
    · rw [ItemWriter.writeArrivals, receiveAll_of_perm hperm]
      cases writer.writeAll results <;> rfl
    · rfl
  simp only [writeArray, hresults]

/-- Several workers write what one worker writes, whatever the results and whatever the
order in which they arrive, be the sink limited or not.  After each arrival the
results in front of the position that is due have been written in order, and
those behind it are kept; in the end nothing is kept and every file had its
turn.  So a sink without a limit receives one item for every file that was not
skipped, in the order of the files. -/
theorem writeArray_of_perm_inOrder (hperm : arrivals.Perm (inOrder results)) :
    (∀ workers sink, writeArray workers arrivals results sink =
      writeArray 1 [] results sink) ∧
    (∀ writer received, received <+: arrivals → ∃ due, IsDue received due ∧
      due ≤ results.length ∧
      Receiver.receiveAll (results.map Prod.fst) (Receiver.start writer) received =
        (writer.writeAll (results.take due)).map fun written =>
          ⟨due, (received.filter fun arrival => due < arrival.1).reverse, written⟩) ∧
    (∀ writer, Receiver.receiveAll (results.map Prod.fst) (Receiver.start writer) arrivals =
      (writer.writeAll results).map fun written => ⟨results.length, [], written⟩) ∧
    ∀ workers, ∃ written, writeArray workers arrivals results (Sink.empty none) = .ok written ∧
      written.sink.text = (document results).write ∧
      written.stats = ⟨results.length, (ItemWriter.items results).length,
        ItemWriter.skippedCount results⟩ := by
  refine ⟨writeArray_eq_one_of_perm hperm, fun writer received hreceived => ?_,
    receiveAll_of_perm hperm, fun workers => ?_⟩
  · have delivered := (delivered_of_perm hperm).of_beginning hreceived
    obtain ⟨position, due⟩ := IsDue.exists_isDue received
    refine ⟨position, due, due.le_length delivered, ?_⟩
    rw [Receiver.receiveAll_of_isDue delivered due, Receiver.keptFrom_of_isDue due]
  · rw [writeArray_eq_one_of_perm hperm]
    exact exists_writeArray_one_eq_ok [] results

/-- The last of three files comes first, and the first one is skipped. -/
theorem writeArray_of_last_first :
    [(2, some (.language "Go")), (0, none), (1, some (.language "C"))].Perm
      (inOrder [("a", none), ("b", some (.language "C")), ("c", some (.language "Go"))]) ∧
    ∀ sink, writeArray 4 [(2, some (.language "Go")), (0, none), (1, some (.language "C"))]
        [("a", none), ("b", some (.language "C")), ("c", some (.language "Go"))] sink =
      writeArray 1 [] [("a", none), ("b", some (.language "C")), ("c", some (.language "Go"))]
        sink :=
  ⟨by decide, (writeArray_of_perm_inOrder (by decide)).1 4⟩

end Batch

end Polyglot
