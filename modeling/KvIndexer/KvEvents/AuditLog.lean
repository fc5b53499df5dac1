import KvIndexer.KvEvents.Ingest

/-!
The audit log of an ingested batch.

Every event of a resolved batch leaves one record, which says whether the event was
indexed. The log explains the index: a record that says no stands for an event that
changed nothing, so the events whose records say yes, applied on their own at the times
the log gives them, lead to the same index (`auditLog_explains`).
-/

namespace KvIndexer.KvEvents

open Residency

section Records

variable (rt : Runtime)

/-- The record of an event by what it did. -/
def Outcome.record (out : Outcome) (l : Listener) (batch : Batch) (observedAt : Int) (ns : String)
    (ev : Event) : KVEventRecord :=
  recordEvent l batch observedAt ev ns out.tier out.requestKeys out.indexed out.skipReason

@[simp] theorem Outcome.indexed_record (out : Outcome) (l : Listener) (batch : Batch)
    (observedAt : Int) (ns : String) (ev : Event) :
    (out.record l batch observedAt ns ev).indexed = out.indexed := rfl

/-- The records of a resolved batch, from event number `i` on. -/
def eventRecords (l : Listener) (res : Resolved) (batch : Batch) (clock : Clock) :
    Nat → Index → List Event → List KVEventRecord
  | _, _, [] => []
  | i, ix, ev :: events =>
      let out := ingestEvent rt l.engineID res batch.dpRank (clock.stamp i) ix ev
      out.record l batch (clock.observed i) res.ns ev ::
        eventRecords l res batch clock (i + 1) out.ix events

theorem ingestLoop_sink (l : Listener) (res : Resolved) (batch : Batch) (clock : Clock) (i : Nat)
    (acc : Index × Nat × List KVEventRecord) (events : List Event) :
    (ingestLoop rt l res batch clock i acc events).2.2 =
      acc.2.2 ++ eventRecords rt l res batch clock i acc.1 events := by
  induction events generalizing i acc with
  | nil => exact (List.append_nil _).symm
  | cons ev events ih =>
      rw [ingestLoop, ih, eventRecords, List.append_assoc]
      rfl

theorem ingest_sink {m : Moment} {res : Resolved} (resolved : m.resolved = some res) (s : State)
    (batch : Batch) :
    (ingest rt m s batch).sink = s.sink ++
      eventRecords rt s.listener res batch m.clock 0 (s.indexes.index res.ns) batch.events := by
  simp only [ingest, resolved]
  exact ingestLoop_sink rt s.listener res batch m.clock 0
    (s.indexes.index res.ns, s.listener.skipped, s.sink) batch.events

theorem length_eventRecords (l : Listener) (res : Resolved) (batch : Batch) (clock : Clock)
    (i : Nat) (ix : Index) (events : List Event) :
    (eventRecords rt l res batch clock i ix events).length = events.length := by
  induction events generalizing i ix with
  | nil => rfl
  | cons ev events ih => rw [eventRecords, List.length_cons, ih, List.length_cons]

/-- The record of event number `i + j` is of what it did at the index it came to. -/
theorem getElem?_eventRecords (l : Listener) (res : Resolved) (batch : Batch) (clock : Clock)
    (i j : Nat) (ix : Index) (events : List Event) :
    (eventRecords rt l res batch clock i ix events)[j]? =
      events[j]?.map fun ev =>
        (ingestEvent rt l.engineID res batch.dpRank (clock.stamp (i + j))
          (applyEvents rt l.engineID res batch.dpRank clock.stamp i ix (events.take j)) ev).record
          l batch (clock.observed (i + j)) res.ns ev := by
  induction events generalizing i j ix with
  | nil => rfl
  | cons ev events ih =>
      cases j with
      | zero => rfl
      | succ j =>
          rw [eventRecords, List.getElem?_cons_succ, ih, List.getElem?_cons_succ,
            Nat.add_right_comm]
          rfl

end Records

/-! ### The index along the batch -/

section Along

variable {rt : Runtime} {engineID : String} {res : Resolved} {dpRank : Int} {stamp : Nat → Int}

/-- One more event. -/
theorem applyEvents_take_succ {ix : Index} {i j : Nat} {events : List Event} {ev : Event}
    (next : events[j]? = some ev) :
    applyEvents rt engineID res dpRank stamp i ix (events.take (j + 1)) =
      (ingestEvent rt engineID res dpRank (stamp (i + j))
        (applyEvents rt engineID res dpRank stamp i ix (events.take j)) ev).ix := by
  induction events generalizing i j ix with
  | nil => cases next
  | cons first events ih =>
      cases j with
      | zero =>
          cases next
          rfl
      | succ j =>
          rw [List.take_succ_cons, applyEvents, ih next, List.take_succ_cons, applyEvents,
            Nat.add_right_comm, Nat.add_assoc]

/-- An event, with its number, applied at the time the clock has for that number. -/
def applyNumbered (rt : Runtime) (engineID : String) (res : Resolved) (dpRank : Int)
    (stamp : Nat → Int) (ix : Index) (entry : Event × Nat) : Index :=
  (ingestEvent rt engineID res dpRank (stamp entry.2) ix entry.1).ix

theorem applyEvents_eq_run (i : Nat) (ix : Index) (events : List Event) :
    applyEvents rt engineID res dpRank stamp i ix events =
      Run.run (applyNumbered rt engineID res dpRank stamp) ix (events.zipIdx i) := by
  induction events generalizing i ix with
  | nil => rfl
  | cons ev events ih =>
      rw [applyEvents, ih, List.zipIdx_cons, Run.run_cons]
      rfl

/-- Numbered events, renumbered from `i` by a clock that reads their old times. -/
theorem applyEvents_renumbered {stamp' : Nat → Int} (entries : List (Event × Nat)) (i : Nat)
    (ix : Index) (times : ∀ j, stamp' (i + j) = stamp ((entries.map Prod.snd).getD j 0)) :
    applyEvents rt engineID res dpRank stamp' i ix (entries.map Prod.fst) =
      Run.run (applyNumbered rt engineID res dpRank stamp) ix entries := by
  induction entries generalizing i ix with
  | nil => rfl
  | cons entry entries ih =>
      have first : stamp' i = stamp entry.2 := times 0
      have rest : ∀ j, stamp' (i + 1 + j) = stamp ((entries.map Prod.snd).getD j 0) := by
        intro j
        rw [Nat.add_assoc, Nat.add_comm 1 j]
        exact times (j + 1)
      rw [List.map_cons, applyEvents, first, ih _ _ rest, Run.run_cons]
      rfl

end Along

/-! ### The indexed events -/

/-- The events, with their numbers from `i` on, whose records say that they were indexed. -/
def indexedEvents (i : Nat) (events : List Event) (records : List KVEventRecord) :
    List (Event × Nat) :=
  ((events.zipIdx i).zip records).filterMap fun entry =>
    if entry.2.indexed then some entry.1 else none

theorem indexedEvents_cons (i : Nat) (ev : Event) (events : List Event) (record : KVEventRecord)
    (records : List KVEventRecord) :
    indexedEvents i (ev :: events) (record :: records) =
      if record.indexed then (ev, i) :: indexedEvents (i + 1) events records
      else indexedEvents (i + 1) events records := by
  rw [indexedEvents, List.zipIdx_cons, List.zip_cons_cons]
  cases indexed : record.indexed with
  | true => exact List.filterMap_cons_some (by simp [indexed])
  | false => exact List.filterMap_cons_none (by simp [indexed])

/-- Dropping the events that were not indexed changes nothing. -/
theorem run_indexedEvents (rt : Runtime) (l : Listener) (res : Resolved) (batch : Batch)
    (clock : Clock) (i : Nat) (ix : Index) (events : List Event) :
    Run.run (applyNumbered rt l.engineID res batch.dpRank clock.stamp) ix
        (indexedEvents i events (eventRecords rt l res batch clock i ix events)) =
      Run.run (applyNumbered rt l.engineID res batch.dpRank clock.stamp) ix
        (events.zipIdx i) := by
  induction events generalizing i ix with
  | nil => rfl
  | cons ev events ih =>
      rw [eventRecords, indexedEvents_cons, Outcome.indexed_record, List.zipIdx_cons, Run.run_cons]
      cases recorded :
        (ingestEvent rt l.engineID res batch.dpRank (clock.stamp i) ix ev).indexed with
      | true =>
          rw [if_pos rfl, Run.run_cons]
          exact ih (i + 1) _
      | false =>
          have kept := ingestEvent_unindexed rt recorded
          have skip : applyNumbered rt l.engineID res batch.dpRank clock.stamp ix (ev, i) = ix :=
            kept
          rw [if_neg nofun, skip, kept]
          exact ih (i + 1) ix

/-! ### The log and the index -/

/-- The first events of a batch. -/
def Batch.upTo (batch : Batch) (n : Nat) : Batch := { batch with events := batch.events.take n }

/-- The events of a batch whose records say that they were indexed. -/
def Batch.indexedOnly (batch : Batch) (records : List KVEventRecord) : Batch :=
  { batch with events := (indexedEvents 0 batch.events records).map Prod.fst }

/-- The clock readings that those events had in the whole batch. -/
def Moment.indexedOnly (m : Moment) (batch : Batch) (records : List KVEventRecord) : Moment :=
  let numbers := (indexedEvents 0 batch.events records).map Prod.snd
  { m with clock := { m.clock with stamp := fun j => m.clock.stamp (numbers.getD j 0) } }

/-- The records that ingesting a batch emits explain what it did to the index. -/
structure Explains (rt : Runtime) (m : Moment) (res : Resolved) (s : State) (batch : Batch)
    (records : List KVEventRecord) : Prop where
  emitted : (ingest rt m s batch).sink = s.sink ++ records
  one : records.length = batch.events.length
  /-- Record number `i` is of event number `i`, at the index the events before it lead to. -/
  each : ∀ i ev, batch.events[i]? = some ev →
    records[i]? = some
      ((ingestEvent rt s.listener.engineID res batch.dpRank (m.clock.stamp i)
        ((ingest rt m s (batch.upTo i)).indexes.index res.ns) ev).record s.listener batch
        (m.clock.observed i) res.ns ev)
  unindexed : ∀ i record, records[i]? = some record → record.indexed = false →
    (ingest rt m s (batch.upTo (i + 1))).indexes = (ingest rt m s (batch.upTo i)).indexes
  indexedOnly : (ingest rt (m.indexedOnly batch records) s (batch.indexedOnly records)).indexes =
    (ingest rt m s batch).indexes
  counted : (ingest rt m s batch).listener.events = s.listener.events + batch.events.length

/-- Every resolved batch leaves a log that explains the index. -/
theorem auditLog_explains (rt : Runtime) {m : Moment} {res : Resolved}
    (resolved : m.resolved = some res) (s : State) (batch : Batch) :
    ∃ records, Explains rt m res s batch records := by
  set ix := s.indexes.index res.ns with start
  set records := eventRecords rt s.listener res batch m.clock 0 ix batch.events with log
  have upTo : ∀ i, (ingest rt m s (batch.upTo i)).indexes = s.indexes.insert res.ns
      (applyEvents rt s.listener.engineID res batch.dpRank m.clock.stamp 0 ix
        (batch.events.take i)) :=
    fun i => ingest_indexes resolved s (batch.upTo i)
  have each : ∀ i ev, batch.events[i]? = some ev →
      records[i]? = some
        ((ingestEvent rt s.listener.engineID res batch.dpRank (m.clock.stamp i)
          ((ingest rt m s (batch.upTo i)).indexes.index res.ns) ev).record s.listener batch
          (m.clock.observed i) res.ns ev) := by
    intro i ev present
    rw [log, getElem?_eventRecords, present, Option.map_some, Nat.zero_add, upTo,
      Manager.index_insert, if_pos rfl]
  refine ⟨records, ⟨ingest_sink rt resolved s batch, length_eventRecords _ _ _ _ _ _ _ _, each,
    fun i record found unindexed => ?_, ?_, ?_⟩⟩
  · have inRange : i < batch.events.length := by
      rw [← length_eventRecords rt s.listener res batch m.clock 0 ix]
      exact (List.getElem?_eq_some_iff.mp found).1
    have present : batch.events[i]? = some batch.events[i] := List.getElem?_eq_getElem inRange
    have recorded := Option.some.inj (found.symm.trans (each i _ present))
    rw [recorded, Outcome.indexed_record, upTo, Manager.index_insert, if_pos rfl] at unindexed
    rw [upTo, upTo, applyEvents_take_succ present, Nat.zero_add, ingestEvent_unindexed rt unindexed]
  · have resolved' : (m.indexedOnly batch records).resolved = some res := resolved
    rw [ingest_indexes resolved', ingest_indexes resolved]
    congr 1
    refine (applyEvents_renumbered (indexedEvents 0 batch.events records) 0 ix fun j => ?_).trans
      ((run_indexedEvents rt s.listener res batch m.clock 0 ix batch.events).trans
        (applyEvents_eq_run 0 ix batch.events).symm)
    rw [Nat.zero_add]
    rfl
  · rw [ingest_listener]

/-- A batch with an event that is skipped. -/
theorem auditLog_explains_skipped :
    ∃ records, Explains (tableRuntime []) (stillMoment ⟨"ns", 0, 2⟩) ⟨"ns", 0, 2⟩
      ⟨⟨"w", "m", "", true, 0, false, 0, 0, 0, 0, 0, ""⟩, ∅, []⟩
      { seq := 1, events := [{ kind := .blockStored, blockHashes := [7], hasExtraKeys := true },
        { kind := .blockRemoved, blockHashes := [7] }] }
      records :=
  auditLog_explains (tableRuntime []) rfl _ _

end KvIndexer.KvEvents
