import KvIndexer.KvEvents.Ingest
import KvIndexer.Lib.Channel
import KvIndexer.Lib.Guarded

/-!
The writer of the event log (`internal/mongostore/store.go`).

`RecordKVEvent` queues an event without waiting, and drops it when the queue is full. One
goroutine takes events off the queue into a batch and inserts the batch when it is large
enough, at every tick, and when the store is closed. An insertion can fail: then the log has
a first part of the batch, and the rest is given up.

`written_in_order` is about any interleaving of recording, ticks and failures: the log has
events that were recorded, in order and each at most once, and what it lacks was dropped,
given up, or is still on the way. After `Close` nothing that was queued before is on the way.
-/

namespace KvIndexer.HttpApi

open KvEvents

def eventBufferSize : Nat := 8192

def eventFlushBatchSize : Nat := 256

/-- Where `eventLoop` stands. -/
inductive WriterPlace where
  | loop
  /-- the context is cancelled: the queue is emptied -/
  | draining
  | done
deriving DecidableEq, Repr

structure EventWriter where
  events : Channel KVEventRecord := {}
  batch : List KVEventRecord := []
  place : WriterPlace := .loop
  cancelled : Bool := false
  /-- the collection `prefix_cache_events` -/
  docs : List KVEventRecord := []
  /-- what was given up when an insertion failed -/
  lost : List KVEventRecord := []
  /-- what has left the batch -/
  flushed : List KVEventRecord := []

/-- A step of a recorder, of `Close` or of `eventLoop`. An insertion comes as far as the first
`inserted` documents. -/
inductive WriterStep where
  | record (rec : KVEventRecord)
  | cancel
  | receive (inserted : Nat)
  | tick (inserted : Nat)
  | stop
  | drain
  | finish (inserted : Nat)

namespace EventWriter

/-- `flush`: nothing is inserted when the batch is empty. -/
def flush (w : EventWriter) (inserted : Nat) : EventWriter :=
  if w.batch.length = 0 then w
  else
    { w with
      batch := []
      docs := w.docs ++ w.batch.take inserted
      lost := w.lost ++ w.batch.drop inserted
      flushed := w.flushed ++ w.batch }

def step (w : EventWriter) : WriterStep → Option EventWriter
  | .record rec => some { w with events := w.events.trySend eventBufferSize rec }
  | .cancel => some { w with cancelled := true }
  | .receive inserted =>
      match w.place, w.events.recv with
      | .loop, some (rec, events) =>
          let w := { w with events, batch := w.batch ++ [rec] }
          some (if eventFlushBatchSize ≤ w.batch.length then w.flush inserted else w)
      | _, _ => none
  | .tick inserted => if w.place = .loop then some (w.flush inserted) else none
  | .stop =>
      if w.place = .loop ∧ w.cancelled = true then some { w with place := .draining } else none
  | .drain =>
      match w.place, w.events.recv with
      | .draining, some (rec, events) => some { w with events, batch := w.batch ++ [rec] }
      | _, _ => none
  | .finish inserted =>
      match w.place, w.events.buffer with
      | .draining, [] => some { w.flush inserted with place := .done }
      | _, _ => none

/-! ### Accounting -/

/-- Everything received from the queue has been flushed or waits in the batch, and everything
flushed was inserted or lost. -/
structure Accounted (w : EventWriter) : Prop where
  queue : w.events.Consistent eventBufferSize
  received : w.events.received = w.flushed ++ w.batch
  inserted : w.docs.Sublist w.flushed
  count : w.docs.length + w.lost.length = w.flushed.length
  small : w.place = .loop → w.batch.length < eventFlushBatchSize
  written : w.place = .done → w.batch = []

variable {w w' : EventWriter}

theorem accounted_new : Accounted {} where
  queue := Channel.consistent_new
  received := rfl
  inserted := List.Sublist.refl []
  count := rfl
  small _ := by decide
  written _ := rfl

theorem batch_flush (w : EventWriter) (inserted : Nat) : (w.flush inserted).batch = [] := by
  unfold flush
  split
  · rename_i empty
    exact List.length_eq_zero_iff.mp empty
  · rfl

/-- What does not change when the batch is flushed. -/
theorem flush_frame (w : EventWriter) (inserted : Nat) :
    (w.flush inserted).events = w.events ∧ (w.flush inserted).place = w.place := by
  unfold flush
  split
  · exact ⟨rfl, rfl⟩
  · exact ⟨rfl, rfl⟩

/-- A flush moves the batch on, whatever becomes of the insertion. -/
theorem flush_moves (w : EventWriter) (n : Nat) (inserted : w.docs.Sublist w.flushed)
    (count : w.docs.length + w.lost.length = w.flushed.length) :
    (w.flush n).flushed = w.flushed ++ w.batch ∧
      (w.flush n).docs.Sublist (w.flush n).flushed ∧
      (w.flush n).docs.length + (w.flush n).lost.length = (w.flush n).flushed.length := by
  unfold flush
  split
  · rename_i empty
    rw [List.length_eq_zero_iff.mp empty, List.append_nil]
    exact ⟨rfl, inserted, count⟩
  · refine ⟨rfl, inserted.append (List.take_sublist _ _), ?_⟩
    simp only [List.length_append, List.length_take, List.length_drop]
    omega

/-- Flushing keeps the account, however large the batch has become. -/
theorem Accounted.flush (queue : w.events.Consistent eventBufferSize)
    (received : w.events.received = w.flushed ++ w.batch) (inserted : w.docs.Sublist w.flushed)
    (count : w.docs.length + w.lost.length = w.flushed.length) (n : Nat) :
    Accounted (w.flush n) := by
  obtain ⟨flushed, docs, total⟩ := flush_moves w n inserted count
  obtain ⟨events, place⟩ := flush_frame w n
  refine ⟨?_, ?_, docs, total, fun _ => ?_, fun _ => batch_flush w n⟩
  · rw [events]
    exact queue
  · rw [events, flushed, batch_flush, List.append_nil]
    exact received
  · rw [batch_flush]
    decide

/-- An event goes from the queue to the batch. -/
theorem Accounted.receive (accounted : Accounted w) {rec : KVEventRecord}
    {events : Channel KVEventRecord} (taken : w.events.recv = some (rec, events)) :
    events.Consistent eventBufferSize ∧ events.received = w.flushed ++ (w.batch ++ [rec]) := by
  obtain ⟨-, received, -, -⟩ := Channel.recv_eq_some taken
  refine ⟨accounted.queue.recv taken, ?_⟩
  rw [received, accounted.received, List.append_assoc]

theorem Accounted.step (accounted : Accounted w) {act : WriterStep}
    (enabled : w.step act = some w') : Accounted w' := by
  cases act with
  | record rec =>
      cases enabled
      have received : (w.events.trySend eventBufferSize rec).received = w.events.received := by
        unfold Channel.trySend
        split <;> rfl
      exact { accounted with
        queue := accounted.queue.trySend rec
        received := received.trans accounted.received }
  | cancel =>
      cases enabled
      exact { accounted with }
  | receive inserted =>
      dsimp only [EventWriter.step] at enabled
      split at enabled
      · rename_i rec events here taken
        obtain ⟨queue, received⟩ := accounted.receive taken
        cases enabled
        by_cases full : eventFlushBatchSize ≤ (w.batch ++ [rec]).length
        · rw [if_pos full]
          exact @Accounted.flush { w with events, batch := w.batch ++ [rec] } queue received
            accounted.inserted accounted.count inserted
        · rw [if_neg full]
          refine ⟨queue, received, accounted.inserted, accounted.count, fun _ => ?_, fun done => ?_⟩
          · exact Nat.lt_of_not_le full
          · rw [here] at done
            cases done
      · cases enabled
  | tick inserted =>
      dsimp only [EventWriter.step] at enabled
      split at enabled
      · cases enabled
        exact Accounted.flush accounted.queue accounted.received accounted.inserted
          accounted.count inserted
      · cases enabled
  | stop =>
      dsimp only [EventWriter.step] at enabled
      split at enabled
      · cases enabled
        exact { accounted with small := nofun, written := nofun }
      · cases enabled
  | drain =>
      dsimp only [EventWriter.step] at enabled
      split at enabled
      · rename_i rec events here taken
        obtain ⟨queue, received⟩ := accounted.receive taken
        cases enabled
        refine ⟨queue, received, accounted.inserted, accounted.count, fun loop => ?_,
          fun done => ?_⟩
        · rw [here] at loop
          cases loop
        · rw [here] at done
          cases done
      · cases enabled
  | finish inserted =>
      dsimp only [EventWriter.step] at enabled
      split at enabled
      · cases enabled
        have flushed := Accounted.flush accounted.queue accounted.received accounted.inserted
          accounted.count inserted
        exact { flushed with small := nofun, written := fun _ => batch_flush w inserted }
      · cases enabled

/-- The event a step records. -/
def recordedBy : WriterStep → Option KVEventRecord
  | .record rec => some rec
  | _ => none

theorem offered_flush (w : EventWriter) (n : Nat) :
    (w.flush n).events.offered = w.events.offered := by
  rw [(flush_frame w n).1]

theorem offered_exec {acts : List WriterStep} (run : Guarded.exec step w acts = some w') :
    w'.events.offered = w.events.offered ++ acts.filterMap recordedBy := by
  induction acts generalizing w with
  | nil =>
      cases run
      simp
  | cons act acts ih =>
      obtain ⟨next, now, later⟩ := Guarded.exec_cons_eq_some.mp run
      rw [ih later, List.filterMap_cons]
      cases act with
      | record rec =>
          cases now
          rw [Channel.offered_trySend, List.append_assoc]
          rfl
      | cancel =>
          cases now
          rfl
      | receive inserted =>
          dsimp only [step] at now
          split at now
          · rename_i rec events here taken
            obtain ⟨-, -, offered, -⟩ := Channel.recv_eq_some taken
            cases now
            split
            · rw [offered_flush]
              exact congrArg (· ++ acts.filterMap recordedBy) offered
            · exact congrArg (· ++ acts.filterMap recordedBy) offered
          · cases now
      | tick inserted =>
          dsimp only [step] at now
          split at now
          · cases now
            rw [offered_flush]
            rfl
          · cases now
      | stop =>
          dsimp only [step] at now
          split at now
          · cases now
            rfl
          · cases now
      | drain =>
          dsimp only [step] at now
          split at now
          · rename_i rec events here taken
            obtain ⟨-, -, offered, -⟩ := Channel.recv_eq_some taken
            cases now
            exact congrArg (· ++ acts.filterMap recordedBy) offered
          · cases now
      | finish inserted =>
          dsimp only [step] at now
          split at now
          · cases now
            exact congrArg (· ++ acts.filterMap recordedBy) (offered_flush w inserted)
          · cases now

/-- The documents, the batch and the queue, in this order, are a sublist of what was recorded,
and all of it exactly when the queue refused nothing and no insertion failed. -/
theorem Accounted.ordered (accounted : Accounted w) :
    (w.docs ++ w.batch ++ w.events.buffer).Sublist w.events.offered ∧
      (w.docs ++ w.batch ++ w.events.buffer = w.events.offered ↔
        w.events.refused = [] ∧ w.lost = []) := by
  have accepted : w.events.accepted = w.flushed ++ w.batch ++ w.events.buffer := by
    rw [Channel.accepted, accounted.received]
  have whole : (w.docs ++ w.batch ++ w.events.buffer).Sublist w.events.accepted := by
    rw [accepted]
    exact (accounted.inserted.append_right w.batch).append_right w.events.buffer
  have lengths := congrArg List.length accepted
  have count := accounted.count
  have queue := accounted.queue.count
  simp only [List.length_append] at lengths
  refine ⟨whole.trans accounted.queue.accepted, fun all => ?_, ?_⟩
  · have total := congrArg List.length all
    simp only [List.length_append] at total
    exact ⟨List.length_eq_zero_iff.mp (by omega), List.length_eq_zero_iff.mp (by omega)⟩
  · rintro ⟨refused, lost⟩
    rw [lost, List.length_nil, Nat.add_zero] at count
    rw [accounted.inserted.eq_of_length count, ← accepted]
    exact accounted.queue.accepted_eq_offered_iff.mpr refused

/-- Whatever the interleaving of recording, ticks and failed insertions, the log and what is on
its way to it are what was recorded, in order, without what was dropped or lost. The batch is
flushed before it has grown to 256, until the store is closed; when the writer returns,
everything that got into the queue has been flushed. -/
theorem written_in_order {acts : List WriterStep} {w : EventWriter}
    (run : Guarded.exec step {} acts = some w) :
    (w.docs ++ w.batch ++ w.events.buffer).Sublist (acts.filterMap recordedBy) ∧
      (w.docs ++ w.batch ++ w.events.buffer = acts.filterMap recordedBy ↔
        w.events.refused = [] ∧ w.lost = []) ∧
      w.events.buffer.length ≤ eventBufferSize ∧
      (w.place = .loop → w.batch.length < eventFlushBatchSize) ∧
      ∀ n w', w.step (.finish n) = some w' → w'.flushed = w'.events.accepted := by
  have accounted : Accounted w :=
    Guarded.exec_invariant (fun _ _ _ kept enabled => Accounted.step kept enabled) accounted_new run
  have offered : w.events.offered = acts.filterMap recordedBy := offered_exec run
  obtain ⟨ordered, complete⟩ := accounted.ordered
  rw [offered] at ordered complete
  refine ⟨ordered, complete, accounted.queue.bounded, accounted.small, fun n w' enabled => ?_⟩
  have after := accounted.step enabled
  dsimp only [step] at enabled
  split at enabled
  · rename_i here empty
    cases enabled
    have written : (w.flush n).batch = [] := batch_flush w n
    have buffer : (w.flush n).events.buffer = [] := by rw [(flush_frame w n).1, empty]
    have received := after.received
    dsimp only at received ⊢
    rw [Channel.accepted, received, written, buffer, List.append_nil, List.append_nil]
  · cases enabled

/-! Two events are queued, and the store is closed; of the last batch one gets through. -/

def someRecord (seq : UInt64) : KVEventRecord :=
  recordEvent { engineID := "e", model := "m", replayEndpoint := "" } { seq } 0
    { kind := .allBlocksCleared } "ns" "" [] true ""

def closedEarly : List WriterStep :=
  [.record (someRecord 1), .receive 0, .record (someRecord 2), .cancel, .stop, .drain, .finish 1]

theorem closedEarly_written : ∃ w, Guarded.exec step {} closedEarly = some w ∧
    w.docs = [someRecord 1] ∧
      (w.docs ++ w.batch ++ w.events.buffer).Sublist [someRecord 1, someRecord 2] := by
  refine ⟨_, rfl, rfl, ?_⟩
  exact (@written_in_order closedEarly _ rfl).1

end EventWriter

end KvIndexer.HttpApi
