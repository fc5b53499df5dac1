import KvIndexer.KvEvents.Listener
import KvIndexer.Residency.Settled

/-!
Delivering a batch again.

Delivery is at least once: a replay after a reconnect can bring batches the live
subscription has already brought. `trackSeq` ignores a number it has seen, but both
paths ingest the batch all the same, so a redelivered batch acts on the index as it
is now. `redelivery_iff` says when that is harmless: when each event of the batch is
settled in the index it meets.
-/

namespace KvIndexer.KvEvents

open Residency

/-- Every index of the manager satisfies the representation invariant. -/
def ManagerSound (indexes : Manager) : Prop := ∀ ns, (indexes.index ns).Sound

section Sound

variable {rt : Runtime}

theorem sound_applyEvents {engineID : String} {res : Resolved} {dpRank : Int} {stamp : Nat → Int}
    {i : Nat} {ix : Index} (sound : ix.Sound) (events : List Event) :
    (applyEvents rt engineID res dpRank stamp i ix events).Sound := by
  induction events generalizing i ix with
  | nil => exact sound
  | cons ev events ih =>
      refine ih ?_
      rw [ingestEvent_ix]
      cases called : eventOp rt engineID res dpRank (stamp i) ix ev with
      | none => exact sound
      | some op => exact sound.apply (eventOp_own rt called).2

theorem sound_ingest {m : Moment} {s : State} (sound : ManagerSound s.indexes) (batch : Batch) :
    ManagerSound (ingest rt m s batch).indexes := by
  cases resolved : m.resolved with
  | none =>
      rw [ingest_indexes_unresolved resolved]
      exact sound
  | some res =>
      intro ns
      rw [ingest_indexes resolved, Manager.index_insert]
      split
      · exact sound_applyEvents (sound res.ns) batch.events
      · exact sound ns

theorem Handled.sound {m : Moment} {s s' : State} {found : Option Batch}
    (handled : Handled rt m s found s') (sound : ManagerSound s.indexes) :
    ManagerSound s'.indexes := by
  rcases handled with ⟨batch, -, rfl⟩ | ⟨-, lastErr, rfl⟩
  · have tracked : ManagerSound
        ({ s with listener := s.listener.trackSeq (int64 batch.seq) } : State).indexes := sound
    exact sound_ingest tracked batch
  · exact sound

theorem sound_handleAll {s s' : State} (sound : ManagerSound s.indexes)
    {msgs : List (Moment × List (List UInt8))} (handled : handleAll rt s msgs = .ok s') :
    ManagerSound s'.indexes := by
  induction msgs generalizing s with
  | nil =>
      cases handled
      exact sound
  | cons msg msgs ih =>
      rw [handleAll] at handled
      cases first : handleFrames rt msg.1 s msg.2 with
      | error panic =>
          rw [first] at handled
          cases handled
      | ok s₁ =>
          rw [first] at handled
          exact ih ((handled_handleFrames first).sound sound) handled

end Sound

/-! ### Settled events -/

/-- The operation with another clock reading. -/
def restamp (ts : Int) : Op → Op
  | .storeEvent e dp tier eks rks _ => .storeEvent e dp tier eks rks ts
  | .storeEventByEngineKeys e dp tier eks _ => .storeEventByEngineKeys e dp tier eks ts
  | .removeEvent e dp tier eks => .removeEvent e dp tier eks
  | .clearEngine e tier => .clearEngine e tier

/-- Whether an operation is settled does not depend on its clock reading. -/
theorem settled_restamp {ix : Index} {ts : Int} {op : Op} :
    (restamp ts op).Settled ix ↔ op.Settled ix := by
  cases op with
  | storeEvent e dp tier eks rks _ => exact Iff.rfl
  | storeEventByEngineKeys e dp tier eks _ => exact Iff.rfl
  | removeEvent e dp tier eks => exact Iff.rfl
  | clearEngine e tier => exact Iff.rfl

section Settled

variable (rt : Runtime) (engineID : String) (res : Resolved) (dpRank : Int)

/-- The operation the event calls, if it calls one, leaves the residency as it is. -/
def eventSettled (ix : Index) (ev : Event) : Prop :=
  ∀ op, eventOp rt engineID res dpRank 0 ix ev = some op → op.Settled ix

/-- The clock reading goes into the operation and nowhere else. -/
theorem eventOp_restamp (ts ts' : Int) (ix : Index) (ev : Event) :
    eventOp rt engineID res dpRank ts' ix ev =
      (eventOp rt engineID res dpRank ts ix ev).map (restamp ts') := by
  unfold eventOp
  cases ev.kind with
  | blockStored =>
      dsimp only
      split
      · rfl
      · split
        · rfl
        · rw [Option.map_map]
          rfl
  | blockRemoved => rfl
  | allBlocksCleared => rfl

/-- The operation depends on the bridge only. -/
theorem eventOp_congr {ix ix' : Index} (same : Index.SameResidency ix ix') (ts : Int) (ev : Event) :
    eventOp rt engineID res dpRank ts ix ev = eventOp rt engineID res dpRank ts ix' ev := by
  unfold eventOp requestKeysForEvent
  rw [same.lookupBridge_eq]

variable {rt engineID res dpRank}

theorem eventSettled_congr {ix ix' : Index} (same : Index.SameResidency ix ix') (ev : Event) :
    eventSettled rt engineID res dpRank ix ev ↔ eventSettled rt engineID res dpRank ix' ev := by
  unfold eventSettled
  simp only [eventOp_congr rt engineID res dpRank same, Index.settled_congr same]

/-- One event leaves the residency as it is exactly when it is settled. -/
theorem ingestEvent_same_iff {ix : Index} (sound : ix.Sound) (ts : Int) (ev : Event) :
    Index.SameResidency (ingestEvent rt engineID res dpRank ts ix ev).ix ix ↔
      eventSettled rt engineID res dpRank ix ev := by
  rw [ingestEvent_ix, eventOp_restamp rt engineID res dpRank 0 ts, eventSettled]
  cases called : eventOp rt engineID res dpRank 0 ix ev with
  | none => exact iff_of_true (.refl ix) fun op found => by cases found
  | some op =>
      have own := (eventOp_own rt called).2
      have whole : (restamp ts op).wholeClear := by
        cases op with
        | clearEngine e tier => exact own
        | _ => trivial
      rw [Option.map_some, Index.settled_iff sound whole, settled_restamp]
      constructor
      · intro settled op' found
        exact Option.some.inj found ▸ settled
      · exact fun settled => settled op rfl

/-- Ingesting events leaves the residency as it is at every point exactly when each of
them is settled at the start. -/
theorem applyEvents_same_iff {ix : Index} (sound : ix.Sound) (stamp : Nat → Int) (i : Nat)
    (events : List Event) :
    (∀ k, Index.SameResidency
        (applyEvents rt engineID res dpRank stamp i ix (events.take k)) ix) ↔
      ∀ ev ∈ events, eventSettled rt engineID res dpRank ix ev := by
  induction events generalizing i ix with
  | nil => simpa [applyEvents] using Index.SameResidency.refl ix
  | cons ev events ih =>
      set next := (ingestEvent rt engineID res dpRank (stamp i) ix ev).ix with nextDef
      have soundNext : next.Sound := @sound_applyEvents rt engineID res dpRank stamp i ix sound [ev]
      rw [List.forall_mem_cons, ← ingestEvent_same_iff sound (stamp i), ← nextDef]
      constructor
      · intro same
        have first : Index.SameResidency next ix := same 1
        refine ⟨first, ?_⟩
        simp only [← eventSettled_congr first]
        exact (ih soundNext (i + 1)).mp fun k => (same (k + 1)).trans first.symm
      · rintro ⟨first, rest⟩ k
        cases k with
        | zero => exact .refl ix
        | succ k =>
            simp only [← eventSettled_congr first] at rest
            exact ((ih soundNext (i + 1)).mpr rest k).trans first

end Settled

/-! ### Batches -/

/-- The same residency in every namespace. -/
def SameIndexes (indexes indexes' : Manager) : Prop :=
  ∀ ns, Index.SameResidency (indexes.index ns) (indexes'.index ns)

theorem SameIndexes.refl (indexes : Manager) : SameIndexes indexes indexes := fun _ => .refl _

theorem sameIndexes_insert {indexes : Manager} {ns : String} {ix : Index} :
    SameIndexes (indexes.insert ns ix) indexes ↔ Index.SameResidency ix (indexes.index ns) := by
  simp only [SameIndexes, Manager.index_insert]
  constructor
  · intro same
    have here := same ns
    rwa [if_pos rfl] at here
  · intro same ns'
    split
    · rename_i here
      rw [here]
      exact same
    · exact .refl _

section Batches

variable (rt : Runtime)

/-- Each event of the payload's batch is settled in the index the batch is for. -/
def BatchSettled (m : Moment) (s : State) (payload : List UInt8) : Prop :=
  ∀ res fields batch, m.resolved = some res → rt.unmarshal payload = .ok fields →
    decodeBatch rt.sprint 0 fields = .ok batch →
    ∀ ev ∈ batch.events,
      eventSettled rt s.listener.engineID res batch.dpRank (s.indexes.index res.ns) ev

/-- `applyPayload`, stopped after `k` events of the batch. -/
def applyFirst (k : Nat) (m : Moment) (s : State) (seq : UInt64) (payload : List UInt8) : State :=
  match rt.unmarshal payload with
  | .error err => { s with listener := s.listener.decodeError.setErr err }
  | .ok fields =>
      match decodeBatch rt.sprint seq fields with
      | .error err => { s with listener := s.listener.decodeError.setErr err }
      | .ok batch =>
          ingest rt m { s with listener := s.listener.trackSeq (int64 seq) }
            { batch with events := batch.events.take k }

variable {rt}

theorem exists_applyFirst_eq (m : Moment) (s : State) (seq : UInt64) (payload : List UInt8) :
    ∃ k, applyPayload rt m s seq payload = applyFirst rt k m s seq payload := by
  unfold applyPayload applyFirst
  cases unpacked : rt.unmarshal payload with
  | error err => exact ⟨0, rfl⟩
  | ok fields =>
      cases decoded : decodeBatch rt.sprint seq fields with
      | error err => exact ⟨0, by simp only [decoded]⟩
      | ok batch => exact ⟨batch.events.length, by simp only [decoded, List.take_length]⟩

/-- Ingesting a payload leaves every index as it is, at every point between two events,
exactly when its batch is settled. -/
theorem applyFirst_same_iff {s : State} (sound : ManagerSound s.indexes) (m : Moment)
    (seq : UInt64) (payload : List UInt8) :
    (∀ k, SameIndexes (applyFirst rt k m s seq payload).indexes s.indexes) ↔
      BatchSettled rt m s payload := by
  have untouched : (∀ k, (applyFirst rt k m s seq payload).indexes = s.indexes) →
      ∀ k, SameIndexes (applyFirst rt k m s seq payload).indexes s.indexes := by
    intro same k
    rw [same k]
    exact .refl _
  cases unpacked : rt.unmarshal payload with
  | error err =>
      refine iff_of_true (untouched fun k => ?_) fun _ _ _ _ found => ?_
      · simp only [applyFirst, unpacked]
      · rw [unpacked] at found
        cases found
  | ok fields =>
      cases decoded : decodeBatch rt.sprint 0 fields with
      | error err =>
          refine iff_of_true (untouched fun k => ?_) fun _ _ _ _ found decoded' => ?_
          · simp only [applyFirst, unpacked, decodeBatch_seq seq, decoded, Except.map]
          · rw [unpacked] at found
            cases found
            rw [decoded] at decoded'
            cases decoded'
      | ok batch =>
          cases resolved : m.resolved with
          | none =>
              refine iff_of_true (untouched fun k => ?_) fun _ _ _ found => ?_
              · simp only [applyFirst, unpacked, decodeBatch_seq seq, decoded, Except.map]
                exact ingest_indexes_unresolved resolved _ _
              · rw [resolved] at found
                cases found
          | some res =>
              have ingested : ∀ k, (applyFirst rt k m s seq payload).indexes =
                  s.indexes.insert res.ns (applyEvents rt s.listener.engineID res batch.dpRank
                    m.clock.stamp 0 (s.indexes.index res.ns) (batch.events.take k)) := by
                intro k
                simp only [applyFirst, unpacked, decodeBatch_seq seq, decoded, Except.map]
                rw [ingest_indexes resolved, Listener.engineID_trackSeq]
              simp only [ingested, sameIndexes_insert]
              rw [applyEvents_same_iff (sound res.ns)]
              constructor
              · intro settled res' fields' batch' found found' decoded'
                rw [resolved] at found
                cases found
                rw [unpacked] at found'
                cases found'
                rw [decoded] at decoded'
                cases decoded'
                exact settled
              · exact fun settled => settled res fields batch resolved unpacked decoded

/-- A settled payload changes nothing in the end. -/
theorem applyPayload_of_settled {s : State} (sound : ManagerSound s.indexes) {m : Moment}
    {payload : List UInt8} (settled : BatchSettled rt m s payload) (seq : UInt64) :
    SameIndexes (applyPayload rt m s seq payload).indexes s.indexes := by
  obtain ⟨k, same⟩ := exists_applyFirst_eq m s seq payload
  rw [same]
  exact (applyFirst_same_iff sound m seq payload).mpr settled k

/-- A replay that brings one settled batch changes nothing. -/
theorem replayLoop_of_settled {s : State} (sound : ManagerSound s.indexes) {m : Moment}
    {payload : List UInt8} (settled : BatchSettled rt m s payload) (seq : UInt64) (recvErr : String)
    {rest : List (List (List UInt8))}
    (ended : ∀ frames ∈ rest, isReplayEnd (frames.headD []) = true) :
    SameIndexes (replayLoop rt (fun _ => m) recvErr 0 s
      ([bigEndianPutUint64 seq, payload] :: rest)).indexes s.indexes := by
  rw [replayLoop]
  split
  · exact .refl _
  · have message : replayMessage rt m s [bigEndianPutUint64 seq, payload] =
        applyPayload rt m s seq payload := by
      simp [replayMessage]
    have same := applyPayload_of_settled sound settled seq
    rw [message]
    cases rest with
    | nil => exact same
    | cons frames rest =>
        rw [replayLoop, if_pos (ended frames List.mem_cons_self)]
        exact same

end Batches

/-! ### A stream, and one of its batches again -/

section Stream

variable {rt : Runtime}

/-- Every index is the result of some history of whole-engine operations. -/
def Reached (indexes : Manager) : Prop :=
  ∀ ns, ∃ ops : List Op, (∀ op ∈ ops, op.wholeClear) ∧ indexes.index ns = Index.after ops

theorem Reached.sound {indexes : Manager} (reached : Reached indexes) : ManagerSound indexes := by
  intro ns
  obtain ⟨ops, whole, result⟩ := reached ns
  rw [result]
  exact Index.sound_after whole

theorem reached_empty : Reached ∅ := fun _ => ⟨[], by simp, rfl⟩

/-- The stream's batches in order, each once. -/
def liveStream (topic : List UInt8) (stream : List (Moment × List UInt8)) :
    List (Moment × List (List UInt8)) :=
  stream.mapIdx fun n d => (d.1, liveFrames topic n d.2)

/-- Every message of the stream is handled. -/
theorem handleAll_liveStream (topic : List UInt8) (stream : List (Moment × List UInt8))
    (s : State) : ∃ s', handleAll rt s (liveStream topic stream) = .ok s' := by
  have handled : ∀ (stream : List (Moment × List UInt8)) (i : Nat) (s : State),
      ∃ s', handleAll rt s (stream.mapIdx fun n d => (d.1, liveFrames topic (n + i) d.2)) =
        .ok s' := by
    intro stream
    induction stream with
    | nil => exact fun _ s => ⟨s, rfl⟩
    | cons d stream ih =>
        intro i s
        simp only [List.mapIdx_cons, handleAll, handleFrames_live]
        simpa only [Nat.add_assoc, Nat.add_comm 1 i] using ih (i + 1) _
  exact handled stream 0 s

/-- After a stream was delivered once in order, one of its batches is delivered again, at
any moment. If it is settled then, neither path changes an index; and it is settled
exactly when the live path changes none at any point between two of its events. -/
theorem redelivery_iff {s₀ : State} (reached : Reached s₀.indexes) (topic : List UInt8)
    (stream : List (Moment × List UInt8)) :
    ∃ s, handleAll rt s₀ (liveStream topic stream) = .ok s ∧
      ∀ (n : Nat) (d : Moment × List UInt8), stream[n]? = some d → ∀ m : Moment,
        (BatchSettled rt m s d.2 →
          (∃ s', handleFrames rt m s (liveFrames topic n d.2) = .ok s' ∧
            SameIndexes s'.indexes s.indexes) ∧
          ∀ (recvErr : String) (rest : List (List (List UInt8))),
            (∀ frames ∈ rest, isReplayEnd (frames.headD []) = true) →
            SameIndexes (replayLoop rt (fun _ => m) recvErr 0 s
              ((liveFrames topic n d.2).tail :: rest)).indexes s.indexes) ∧
        ((∀ k, SameIndexes (applyFirst rt k m s (UInt64.ofNat n) d.2).indexes s.indexes) ↔
          BatchSettled rt m s d.2) := by
  obtain ⟨s, delivered⟩ := @handleAll_liveStream rt topic stream s₀
  have sound := sound_handleAll reached.sound delivered
  refine ⟨s, delivered, fun n d _ m => ⟨fun settled => ⟨?_, fun recvErr rest ended => ?_⟩, ?_⟩⟩
  · exact ⟨_, handleFrames_live topic n d.2 m s, applyPayload_of_settled sound settled _⟩
  · exact replayLoop_of_settled sound settled _ recvErr ended
  · exact applyFirst_same_iff sound m _ d.2

end Stream

/-! Two batches of one engine: the first stores a block, the second removes it. -/

/-- `[0.0, [["BlockStored", [1], nil, [5], 1]]]` -/
def storePayload : List UInt8 :=
  [0x92, 0xcb, 0, 0, 0, 0, 0, 0, 0, 0, 0x91, 0x95, 0xab, 0x42, 0x6c, 0x6f, 0x63, 0x6b, 0x53, 0x74,
    0x6f, 0x72, 0x65, 0x64, 0x91, 0x01, 0xc0, 0x91, 0x05, 0x01]

/-- `[0.0, [["BlockRemoved", [1]]]]` -/
def removePayload : List UInt8 :=
  [0x92, 0xcb, 0, 0, 0, 0, 0, 0, 0, 0, 0x91, 0x92, 0xac, 0x42, 0x6c, 0x6f, 0x63, 0x6b, 0x52, 0x65,
    0x6d, 0x6f, 0x76, 0x65, 0x64, 0x91, 0x01]

/-- A codec that knows these two payloads. -/
def twoBatchRuntime : Runtime :=
  tableRuntime
    [(storePayload, [.float64 0, .array [.array
        [.string "BlockStored", .array [.int8 1], .nil, .array [.int8 5], .int8 1]]]),
     (removePayload, [.float64 0, .array [.array [.string "BlockRemoved", .array [.int8 1]]]])]

def engineState : State :=
  ⟨{ engineID := "a", model := "m", replayEndpoint := "tcp://a:5558" }, ∅, []⟩

def resolvedMoment : Moment := stillMoment ⟨"m/1", 9, 16⟩

/-- Delivered again, the store brings the removed block back. -/
theorem not_redelivery_harmless :
    ¬ ∀ (rt : Runtime) (topic : List UInt8) (stream : List (Moment × List UInt8)) (s : State),
      handleAll rt engineState (liveStream topic stream) = .ok s →
      ∀ (n : Nat) (d : Moment × List UInt8), stream[n]? = some d → ∀ m : Moment,
        (∀ s', handleFrames rt m s (liveFrames topic n d.2) = .ok s' →
          SameIndexes s'.indexes s.indexes) ∧
        ∀ recvErr : String, SameIndexes (replayLoop rt (fun _ => m) recvErr 0 s
          [(liveFrames topic n d.2).tail]).indexes s.indexes := by
  intro harmless
  have same := (harmless twoBatchRuntime []
    [(resolvedMoment, storePayload), (resolvedMoment, removePayload)] _ rfl 0 _ rfl
    resolvedMoment).1 _ rfl
  have atHash := congrFun ((same "m/1").lookupBridge_eq "a") 1
  revert atHash
  decide

/-- Before the removal it can be delivered again. -/
theorem store_redelivered :
    ∃ s, handleAll twoBatchRuntime engineState
        (liveStream [] [(resolvedMoment, storePayload)]) = .ok s ∧
      ∃ s', handleFrames twoBatchRuntime resolvedMoment s (liveFrames [] 0 storePayload) = .ok s' ∧
        SameIndexes s'.indexes s.indexes := by
  obtain ⟨s, delivered, again⟩ :=
    @redelivery_iff twoBatchRuntime engineState reached_empty [] [(resolvedMoment, storePayload)]
  refine ⟨s, delivered, ((again 0 _ rfl resolvedMoment).1 ?_).1⟩
  cases delivered
  intro res fields batch resolved unpacked decoded ev member op called
  cases resolved
  cases unpacked
  cases decoded
  obtain rfl := List.mem_singleton.mp member
  cases called
  -- the index is the empty one after this very operation
  have own : (Op.storeEvent "a" 0 tierGPU [1] (requestKeysFromTokens 9 [5] 1) 0).wholeClear :=
    trivial
  exact Index.settled_apply Index.sound_newIndex own

end KvIndexer.KvEvents
