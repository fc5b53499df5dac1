import KvIndexer.HttpApi.Service
import KvIndexer.Lib.Run

/-!
What a fresh stream has delivered.

One life of a publisher, one listener and the network between them. Batches are
numbered from 0; while the listener is subscribed they travel to it in order, and
what is on the way when the connection breaks is lost. A replay after a (re)connect
can bring lost batches back, as far as the publisher still holds them and the replay
gets through.

Admission trusts a stream that is connected and has counted no gap.
`freshComplete_iff` says for which runs such a stream has missed nothing: those in
which every connection without a gap so far starts with a replay that covers all that
was published before and not applied.
-/

namespace KvIndexer.HttpApi

open Residency KvEvents Config

/-- What a publisher sends as a batch: a payload that decodes. -/
abbrev Payload (rt : Runtime) := { bytes : List UInt8 // Decodes rt bytes }

/-- A publisher's life, its listener and the network between them. -/
structure Stream (rt : Runtime) where
  /-- batch number `n` is element `n` -/
  published : List (Payload rt) := []
  receiver : State
  /-- the messages of the running replay still to come, and the error it ends with when
  it does not end with the marker -/
  replay : Option (List Nat × Option String) := none
  /-- live messages on the way to the listener or in its apply queue -/
  inFlight : List Nat := []
  /-- the batches ingested so far, with their numbers -/
  applied : List (Nat × Clock × Batch) := []

inductive Action (rt : Runtime) where
  | publish (payload : Payload rt)
  /-- the next live message is handled -/
  | deliver (clock : Clock)
  /-- subscribe, and ask for a replay; the publisher still holds its last `held` batches,
  and `cut` messages of the replay get through -/
  | connect (held cut : Nat) (fault : Option String)
  /-- the replay loop receives once -/
  | replayRecv (clock : Clock)
  /-- the connection breaks; what the queue still held was delivered before -/
  | disconnect (err : String)

namespace Stream

section Steps

variable {rt : Runtime} (res : Resolved) (topic : List UInt8)

/-- The listener as `NewListener` makes it, over the indexes it finds. -/
def start (rt : Runtime) (engineID model replayEndpoint : String) (indexes : Manager) :
    Stream rt where
  receiver := ⟨{ engineID, model, replayEndpoint }, indexes, []⟩

def payload (p : Stream rt) (n : Nat) : List UInt8 :=
  match p.published[n]? with
  | some batch => batch.val
  | none => []

/-- Note batch `n` as ingested if its payload decodes. -/
def note (p : Stream rt) (clock : Clock) (n : Nat) : List (Nat × Clock × Batch) :=
  match payloadBatch rt (UInt64.ofNat n) (p.payload n) with
  | some batch => p.applied ++ [(n, clock, batch)]
  | none => p.applied

/-- What the replay brings: of the batches from the requested number on those that the
publisher still holds, cut short where the replay breaks. -/
def replayed (p : Stream rt) (held cut : Nat) : List Nat :=
  if p.receiver.listener.replayEndpoint = "" then []
  else
    ((List.range p.published.length).filter fun n : Nat =>
      int64 (bigEndianUint64 p.receiver.listener.replayRequest) ≤ n ∧
        p.published.length ≤ n + held).take cut

/-- One step; an action that is not possible does nothing. Numbers are signed 64-bit on
the wire, so a life ends at `2 ^ 63` batches. -/
def step (p : Stream rt) : Action rt → Stream rt
  | .publish payload =>
      if p.published.length < 2 ^ 63 then
        { p with
          published := p.published ++ [payload]
          inFlight :=
            if p.receiver.listener.connected then p.inFlight ++ [p.published.length]
            else p.inFlight }
      else p
  | .deliver clock =>
      match p.replay, p.inFlight with
      | none, n :: inFlight =>
          match handleFrames rt ⟨some res, clock⟩ p.receiver (liveFrames topic n (p.payload n)) with
          | .error _ => p
          | .ok receiver => { p with receiver, inFlight, applied := p.note clock n }
      | _, _ => p
  | .connect held cut fault =>
      if p.receiver.listener.connected then p
      else
        { p with
          receiver := { p.receiver with listener := p.receiver.listener.connect }
          replay :=
            if p.receiver.listener.replayEndpoint = "" then none
            else some (p.replayed held cut, fault) }
  | .replayRecv clock =>
      match p.replay with
      | none => p
      | some ([], none) => { p with replay := none }
      | some ([], some err) =>
          { p with
            receiver := { p.receiver with listener := p.receiver.listener.setErr err }
            replay := none }
      | some (n :: rest, fault) =>
          let frames := replayFrames n (p.payload n)
          if isReplayEnd (frames.headD []) then { p with replay := none }
          else
            { p with
              receiver := replayMessage rt ⟨some res, clock⟩ p.receiver frames
              replay := some (rest, fault)
              applied := p.note clock n }
  | .disconnect err =>
      if p.receiver.listener.connected ∧ p.replay = none then
        { p with
          receiver := { p.receiver with listener := p.receiver.listener.disconnect err }
          inFlight := [] }
      else p

end Steps

/-! ### What is accounted for -/

section Accounting

variable {rt : Runtime} {res : Resolved} {topic : List UInt8} {p : Stream rt}

/-- The messages of the running replay. -/
def pending (p : Stream rt) : List Nat :=
  match p.replay with
  | some (msgs, _) => msgs
  | none => []

/-- Batch `n` was applied, or is on the way. -/
def Accounted (p : Stream rt) (n : Nat) : Prop :=
  n ∈ p.applied.map Prod.fst ∨ n ∈ p.pending ∨ n ∈ p.inFlight

instance (p : Stream rt) (n : Nat) : Decidable (p.Accounted n) :=
  inferInstanceAs (Decidable (_ ∨ _ ∨ _))

/-- The service's freshness check for the listener's engine. -/
def fresh (p : Stream rt) : Bool :=
  let l := p.receiver.listener
  streamFreshForEngines (Finmap.singleton l.engineID l) [{ engineID := l.engineID }]

theorem fresh_iff : p.fresh = true ↔ p.receiver.listener.trusted = true := by
  rw [fresh, streamFreshForEngines_singleton, Finmap.lookup_singleton_eq]
  simp

/-- A fresh stream has missed nothing. -/
def FreshComplete (p : Stream rt) : Prop :=
  p.fresh = true → ∀ n < p.published.length, p.Accounted n

/-- Numbers stay in range, what is on the way was published, and nothing is on the way
to a listener that is not connected. -/
structure WellFormed (p : Stream rt) : Prop where
  bounded : p.published.length ≤ 2 ^ 63
  known : ∀ n, n ∈ p.pending ∨ n ∈ p.inFlight → n < p.published.length
  idle : p.receiver.listener.connected = false → p.replay = none ∧ p.inFlight = []

/-- Every published payload decodes, so handling it is noted. -/
theorem mem_note {n : Nat} (inRange : n < p.published.length) (clock : Clock) (k : Nat) :
    k ∈ (p.note clock n).map Prod.fst ↔ k ∈ p.applied.map Prod.fst ∨ k = n := by
  have found : p.payload n = p.published[n].val := by
    rw [payload, List.getElem?_eq_getElem inRange]
  obtain ⟨batch, holds⟩ := exists_payloadBatch p.published[n].property (UInt64.ofNat n)
  rw [note, found, holds]
  simp

theorem not_isReplayEnd {n : Nat} (small : n < 2 ^ 63) (payload : List UInt8) :
    isReplayEnd ((replayFrames n payload).headD []) = false := by
  have number : int64 (UInt64.ofNat n) = n := int64_ofNat_of_lt small
  have differs : (n : Int) ≠ -1 := by omega
  simp [replayFrames, isReplayEnd, number, differs]

theorem wellFormed_start (engineID model replayEndpoint : String) (indexes : Manager) :
    WellFormed (start rt engineID model replayEndpoint indexes) where
  bounded := Nat.zero_le _
  known n onWay := by
    rcases onWay with member | member
    · cases member
    · cases member
  idle _ := ⟨rfl, rfl⟩

/-! ### One step -/

variable (res topic) in
/-- A delivery hands over the first live message, unless a replay is running. -/
theorem step_deliver (wf : WellFormed p) (clock : Clock) :
    (∃ n inFlight, p.replay = none ∧ p.inFlight = n :: inFlight ∧ n < p.published.length ∧
        p.step res topic (.deliver clock) =
          { p with
            receiver := applyPayload rt ⟨some res, clock⟩ p.receiver (UInt64.ofNat n) (p.payload n)
            inFlight
            applied := p.note clock n }) ∨
      p.step res topic (.deliver clock) = p := by
  cases replaying : p.replay with
  | some run => exact Or.inr (by simp only [step, replaying])
  | none =>
      cases onWay : p.inFlight with
      | nil => exact Or.inr (by simp only [step, replaying, onWay])
      | cons n inFlight =>
          have inRange : n < p.published.length := wf.known n (Or.inr (by simp [onWay]))
          exact Or.inl ⟨n, inFlight, rfl, rfl, inRange, by
            simp only [step, replaying, onWay, handleFrames_live]⟩

variable (res topic) in
/-- The replay loop takes a message, or the end of the replay. -/
theorem step_replayRecv (wf : WellFormed p) (clock : Clock) :
    (∃ n rest fault, p.replay = some (n :: rest, fault) ∧ n < p.published.length ∧
        p.step res topic (.replayRecv clock) =
          { p with
            receiver := applyPayload rt ⟨some res, clock⟩ p.receiver (UInt64.ofNat n) (p.payload n)
            replay := some (rest, fault)
            applied := p.note clock n }) ∨
      (∃ fault, p.replay = some ([], fault) ∧ p.step res topic (.replayRecv clock) =
        { p with
          receiver :=
            { p.receiver with
              listener := match fault with
                | none => p.receiver.listener
                | some err => p.receiver.listener.setErr err }
          replay := none }) ∨
      p.step res topic (.replayRecv clock) = p := by
  cases replaying : p.replay with
  | none => exact Or.inr (Or.inr (by simp only [step, replaying]))
  | some run =>
      obtain ⟨msgs, fault⟩ := run
      cases msgs with
      | nil =>
          refine Or.inr (Or.inl ⟨fault, rfl, ?_⟩)
          cases fault with
          | none => simp only [step, replaying]
          | some err => simp only [step, replaying]
      | cons n rest =>
          have inRange : n < p.published.length :=
            wf.known n (Or.inl (by simp [pending, replaying]))
          have small : n < 2 ^ 63 := lt_of_lt_of_le inRange wf.bounded
          refine Or.inl ⟨n, rest, fault, rfl, inRange, ?_⟩
          simp only [step, replaying, not_isReplayEnd small, Bool.false_eq_true, if_false,
            replayMessage_replayFrames]

theorem mem_replayed {held cut n : Nat} (brought : n ∈ p.replayed held cut) :
    n < p.published.length := by
  unfold replayed at brought
  split at brought
  · cases brought
  · exact List.mem_range.mp (List.mem_of_mem_filter (List.mem_of_mem_take brought))

variable (res topic) in
/-- Connecting starts the replay and touches nothing else but the listener. -/
theorem step_connect (held cut : Nat) (fault : Option String)
    (down : p.receiver.listener.connected = false) :
    ∃ replay, pending { p with replay } = p.replayed held cut ∧
      p.step res topic (.connect held cut fault) =
        { p with
          receiver := { p.receiver with listener := p.receiver.listener.connect }
          replay } := by
  rw [step, if_neg (by simp [down])]
  refine ⟨_, ?_, rfl⟩
  rw [pending, replayed]
  by_cases noEndpoint : p.receiver.listener.replayEndpoint = ""
  · simp only [if_pos noEndpoint]
  · simp only [if_neg noEndpoint]

/-! ### What each action keeps -/

theorem WellFormed.publish (wf : WellFormed p) (payload : Payload rt) :
    WellFormed (p.step res topic (.publish payload)) := by
  rw [step]
  split
  · rename_i room
    refine ⟨?_, fun n onWay => ?_, fun down => ?_⟩
    · simp only [List.length_append, List.length_singleton]
      omega
    · simp only [List.length_append, List.length_singleton]
      rcases onWay with inReplay | live
      · exact Nat.lt_succ_of_lt (wf.known n (Or.inl inReplay))
      · split at live
        · rcases List.mem_append.mp live with before | last
          · exact Nat.lt_succ_of_lt (wf.known n (Or.inr before))
          · rw [List.mem_singleton.mp last]
            exact Nat.lt_succ_self _
        · exact Nat.lt_succ_of_lt (wf.known n (Or.inr live))
    · have wasDown : p.receiver.listener.connected = false := down
      rw [if_neg (by simp [wasDown])]
      exact wf.idle wasDown
  · exact wf

theorem WellFormed.deliver (wf : WellFormed p) (clock : Clock) :
    WellFormed (p.step res topic (.deliver clock)) := by
  rcases step_deliver res topic wf clock with
    ⟨n, inFlight, noReplay, onWay, -, result⟩ | same
  · rw [result]
    refine ⟨wf.bounded, fun k later => wf.known k ?_, fun down => ?_⟩
    · rcases later with inReplay | live
      · exact Or.inl inReplay
      · exact Or.inr (by rw [onWay]; exact List.mem_cons_of_mem n live)
    · rw [(handled_applyPayload _ _ _ _).connected_eq] at down
      rw [(wf.idle down).2] at onWay
      cases onWay
  · rw [same]
    exact wf

theorem WellFormed.connect (wf : WellFormed p) (held cut : Nat) (fault : Option String) :
    WellFormed (p.step res topic (.connect held cut fault)) := by
  cases up : p.receiver.listener.connected with
  | true =>
      rw [step, if_pos up]
      exact wf
  | false =>
      obtain ⟨replay, brings, result⟩ := step_connect res topic held cut fault up
      rw [result]
      refine ⟨wf.bounded, fun n onWay => ?_, fun down => by cases down⟩
      rcases onWay with inReplay | live
      · have brought : n ∈ p.replayed held cut := brings ▸ inReplay
        exact mem_replayed brought
      · exact wf.known n (Or.inr live)

theorem WellFormed.replayRecv (wf : WellFormed p) (clock : Clock) :
    WellFormed (p.step res topic (.replayRecv clock)) := by
  rcases step_replayRecv res topic wf clock with
    ⟨n, rest, fault, replaying, -, result⟩ | ⟨fault, replaying, result⟩ | same
  · rw [result]
    refine ⟨wf.bounded, fun k later => wf.known k ?_, fun down => ?_⟩
    · rcases later with inReplay | live
      · exact Or.inl (by rw [pending, replaying]; exact List.mem_cons_of_mem n inReplay)
      · exact Or.inr live
    · rw [(handled_applyPayload _ _ _ _).connected_eq] at down
      rw [(wf.idle down).1] at replaying
      cases replaying
  · rw [result]
    refine ⟨wf.bounded, fun k later => wf.known k ?_, fun down => ⟨rfl, ?_⟩⟩
    · rcases later with inReplay | live
      · cases inReplay
      · exact Or.inr live
    · refine (wf.idle ?_).2
      cases fault with
      | none => exact down
      | some err => exact down
  · rw [same]
    exact wf

theorem WellFormed.disconnect (wf : WellFormed p) (err : String) :
    WellFormed (p.step res topic (.disconnect err)) := by
  rw [step]
  split
  · rename_i possible
    refine ⟨wf.bounded, fun n onWay => ?_, fun _ => ⟨possible.2, rfl⟩⟩
    rcases onWay with inReplay | live
    · exact wf.known n (Or.inl inReplay)
    · cases live
  · exact wf

theorem wellFormed_step (wf : WellFormed p) (a : Action rt) : WellFormed (p.step res topic a) := by
  cases a with
  | publish payload => exact wf.publish payload
  | deliver clock => exact wf.deliver clock
  | connect held cut fault => exact wf.connect held cut fault
  | replayRecv clock => exact wf.replayRecv clock
  | disconnect err => exact wf.disconnect err

/-- A connection without a gap so far starts with a replay that covers what was
published and not applied. -/
def Covers (p : Stream rt) : Action rt → Prop
  | .connect held cut _ =>
      p.receiver.listener.connected = false → p.receiver.listener.gaps = 0 →
        ∀ n < p.published.length, n ∈ p.applied.map Prod.fst ∨ n ∈ p.replayed held cut
  | _ => True

/-- A step that publishes nothing keeps a fresh stream complete if it makes none fresh and
loses nothing. -/
theorem FreshComplete.of_kept {p' : Stream rt} (complete : FreshComplete p)
    (published : p'.published = p.published)
    (trusted : p'.receiver.listener.trusted = true → p.receiver.listener.trusted = true)
    (kept : ∀ n, p.Accounted n → p'.Accounted n) : FreshComplete p' := by
  intro isFresh n inRange
  rw [published] at inRange
  exact kept n (complete (fresh_iff.mpr (trusted (fresh_iff.mp isFresh))) n inRange)

/-- A published batch is on the way to a fresh stream, which is connected. -/
theorem FreshComplete.publish (complete : FreshComplete p) (payload : Payload rt) :
    FreshComplete (p.step res topic (.publish payload)) := by
  rw [step]
  split
  · intro isFresh n inRange
    rw [List.length_append, List.length_singleton] at inRange
    have up : p.receiver.listener.connected = true :=
      (Listener.trusted_iff.mp (fresh_iff.mp isFresh)).1
    by_cases last : n = p.published.length
    · exact Or.inr (Or.inr (by simp [up, last]))
    · rcases complete isFresh n (by omega) with done | inReplay | live
      · exact Or.inl done
      · exact Or.inr (Or.inl inReplay)
      · exact Or.inr (Or.inr (by simp [up, live]))
  · exact complete

/-- A delivered batch is applied. -/
theorem FreshComplete.deliver (complete : FreshComplete p) (wf : WellFormed p) (clock : Clock) :
    FreshComplete (p.step res topic (.deliver clock)) := by
  rcases step_deliver res topic wf clock with
    ⟨n, inFlight, noReplay, onWay, inRange, result⟩ | same
  · rw [result]
    refine complete.of_kept rfl (fun isTrusted => ?_) fun k accounted => ?_
    · exact ((handled_applyPayload _ _ _ _).trusted_iff.mp isTrusted).1
    · rcases accounted with done | inReplay | live
      · exact Or.inl ((mem_note inRange clock k).mpr (Or.inl done))
      · exact Or.inr (Or.inl inReplay)
      · rw [onWay] at live
        rcases List.mem_cons.mp live with here | later
        · exact Or.inl ((mem_note inRange clock k).mpr (Or.inr here))
        · exact Or.inr (Or.inr later)
  · rw [same]
    exact complete

/-- Connecting is the one step that can make a stream fresh: all that was published has been
applied then, or is in the replay. -/
theorem freshComplete_connect_iff (wf : WellFormed p) (complete : FreshComplete p)
    (held cut : Nat) (fault : Option String) :
    FreshComplete (p.step res topic (.connect held cut fault)) ↔
      Covers p (.connect held cut fault) := by
  cases up : p.receiver.listener.connected with
  | true =>
      refine iff_of_true ?_ fun down => ?_
      · rw [step, if_pos up]
        exact complete
      · rw [up] at down
        cases down
  | false =>
      obtain ⟨replay, brings, result⟩ := step_connect res topic held cut fault up
      have trusted : (p.step res topic (.connect held cut fault)).fresh = true ↔
          p.receiver.listener.gaps = 0 := by
        rw [result, fresh_iff, Listener.trusted_iff]
        exact and_iff_right rfl
      have accounted : ∀ n, (p.step res topic (.connect held cut fault)).Accounted n ↔
          n ∈ p.applied.map Prod.fst ∨ n ∈ p.replayed held cut := by
        intro n
        have quiet : n ∉ p.inFlight := by simp [(wf.idle up).2]
        rw [result, ← brings]
        exact or_congr_right (or_iff_left quiet)
      have published :
          (p.step res topic (.connect held cut fault)).published = p.published := by
        rw [result]
      rw [FreshComplete, trusted, published]
      simp only [accounted]
      exact ⟨fun covered _ => covered, fun covers => covers up⟩

theorem FreshComplete.replayRecv (complete : FreshComplete p) (wf : WellFormed p) (clock : Clock) :
    FreshComplete (p.step res topic (.replayRecv clock)) := by
  rcases step_replayRecv res topic wf clock with
    ⟨n, rest, fault, replaying, inRange, result⟩ | ⟨fault, replaying, result⟩ | same
  · rw [result]
    refine complete.of_kept rfl (fun isTrusted => ?_) fun k accounted => ?_
    · exact ((handled_applyPayload _ _ _ _).trusted_iff.mp isTrusted).1
    · rcases accounted with done | inReplay | live
      · exact Or.inl ((mem_note inRange clock k).mpr (Or.inl done))
      · rw [pending, replaying] at inReplay
        rcases List.mem_cons.mp inReplay with here | later
        · exact Or.inl ((mem_note inRange clock k).mpr (Or.inr here))
        · exact Or.inr (Or.inl later)
      · exact Or.inr (Or.inr live)
  · rw [result]
    refine complete.of_kept rfl (fun isTrusted => ?_) fun k accounted => ?_
    · cases fault with
      | none => exact isTrusted
      | some err => exact isTrusted
    · rcases accounted with done | inReplay | live
      · exact Or.inl done
      · rw [pending, replaying] at inReplay
        cases inReplay
      · exact Or.inr (Or.inr live)
  · rw [same]
    exact complete

/-- A stream that is not connected is not fresh. -/
theorem FreshComplete.disconnect (complete : FreshComplete p) (err : String) :
    FreshComplete (p.step res topic (.disconnect err)) := by
  rw [step]
  split
  · intro isFresh
    have up := (Listener.trusted_iff.mp (fresh_iff.mp isFresh)).1
    cases up
  · exact complete

theorem freshComplete_step_iff (wf : WellFormed p) (complete : FreshComplete p) (a : Action rt) :
    FreshComplete (p.step res topic a) ↔ Covers p a := by
  cases a with
  | publish payload => exact iff_of_true (complete.publish payload) trivial
  | deliver clock => exact iff_of_true (complete.deliver wf clock) trivial
  | connect held cut fault => exact freshComplete_connect_iff wf complete held cut fault
  | replayRecv clock => exact iff_of_true (complete.replayRecv wf clock) trivial
  | disconnect err => exact iff_of_true (complete.disconnect err) trivial

/-! ### What the ghost state means -/

/-- Ingest a noted batch into the indexes. -/
def ingestNoted (rt : Runtime) (res : Resolved) (engineID : String) (indexes : Manager)
    (entry : Nat × Clock × Batch) : Manager :=
  indexes.insert res.ns (applyEvents rt engineID res entry.2.2.dpRank entry.2.1.stamp 0
    (indexes.index res.ns) entry.2.2.events)

/-- The listener is the engine's, and the indexes are what the noted batches make of the
ones at the start. -/
structure Noted (res : Resolved) (engineID : String) (indexes : Manager) (p : Stream rt) :
    Prop where
  engine : p.receiver.listener.engineID = engineID
  indexes : p.receiver.indexes = Run.run (ingestNoted rt res engineID) indexes p.applied

theorem Noted.applyPayload {engineID : String} {indexes : Manager}
    (noted : Noted res engineID indexes p) (clock : Clock) (n : Nat) (p' : Stream rt)
    (receiver : p'.receiver =
      applyPayload rt ⟨some res, clock⟩ p.receiver (UInt64.ofNat n) (p.payload n))
    (applied : p'.applied = p.note clock n) : Noted res engineID indexes p' := by
  have handled : Handled rt ⟨some res, clock⟩ p.receiver
      (payloadBatch rt (UInt64.ofNat n) (p.payload n)) p'.receiver := by
    rw [receiver]
    exact handled_applyPayload _ _ _ _
  refine ⟨handled.engineID_eq.trans noted.engine, ?_⟩
  rcases handled with ⟨batch, holds, result⟩ | ⟨none, err, result⟩
  · rw [result, ingest_indexes rfl, applied, note, holds]
    dsimp only
    rw [Run.run_concat, ← noted.indexes, ingestNoted, Listener.engineID_trackSeq, noted.engine]
  · rw [result, applied, note, none]
    exact noted.indexes

/-- In every state reached, the index holds the batches noted as applied, in that order. -/
theorem noted_run (engineID model replayEndpoint : String) (indexes : Manager)
    (actions : List (Action rt)) :
    Noted res engineID indexes
      (Run.run (step res topic) (start rt engineID model replayEndpoint indexes) actions) := by
  have kept : ∀ (p : Stream rt) (a : Action rt), True →
      WellFormed p ∧ Noted res engineID indexes p →
      WellFormed (p.step res topic a) ∧ Noted res engineID indexes (p.step res topic a) := by
    rintro p a - ⟨wf, noted⟩
    refine ⟨wellFormed_step wf a, ?_⟩
    cases a with
    | publish payload =>
        rw [step]
        split
        · exact ⟨noted.engine, noted.indexes⟩
        · exact noted
    | deliver clock =>
        rcases step_deliver res topic wf clock with
          ⟨n, inFlight, -, -, -, result⟩ | same
        · rw [result]
          exact noted.applyPayload clock n _ rfl rfl
        · rw [same]
          exact noted
    | connect held cut fault =>
        rw [step]
        split
        · exact noted
        · exact ⟨noted.engine, noted.indexes⟩
    | replayRecv clock =>
        rcases step_replayRecv res topic wf clock with
          ⟨n, rest, fault, -, -, result⟩ | ⟨fault, -, result⟩ | same
        · rw [result]
          exact noted.applyPayload clock n _ rfl rfl
        · rw [result]
          cases fault with
          | none => exact ⟨noted.engine, noted.indexes⟩
          | some err => exact ⟨noted.engine, noted.indexes⟩
        · rw [same]
          exact noted
    | disconnect err =>
        rw [step]
        split
        · exact ⟨noted.engine, noted.indexes⟩
        · exact noted
  exact (Run.run_invariant kept ⟨wellFormed_start engineID model replayEndpoint indexes, rfl, rfl⟩
    (Run.eachStep_forall.mpr fun _ _ => trivial)).2

/-- The frames of the end marker. -/
def endFrames : List (List UInt8) := [bigEndianPutUint64 (UInt64.ofInt (-1)), []]

/-- Receiving the messages of a replay one by one, and then its end, is `replayLoop`. -/
theorem replayRecv_run (clock : Nat → Clock) (recvErr : String) (msgs : List Nat)
    (fault : Option String) (i : Nat) (tail : List (List (List UInt8)))
    (ends : (fault = none ∧ tail = [endFrames]) ∨
      (fault = some ("replay recv: " ++ recvErr) ∧ tail = []))
    (wf : WellFormed p) (replaying : p.replay = some (msgs, fault)) :
    (Run.run (step res topic) p
        ((List.range' i (msgs.length + 1)).map fun j => .replayRecv (clock j))).receiver =
      replayLoop rt (fun j => ⟨some res, clock j⟩) recvErr i p.receiver
        (msgs.map (fun n => replayFrames n (p.payload n)) ++ tail) := by
  induction msgs generalizing p i with
  | nil =>
      rw [List.length_nil, List.range'_one, List.map_singleton, Run.run_cons, Run.run_nil]
      rcases ends with ⟨rfl, rfl⟩ | ⟨rfl, rfl⟩
      · have marker : isReplayEnd (endFrames.headD []) = true := by decide
        simp only [step, replaying, List.map_nil, List.nil_append, replayLoop, marker, if_true]
      · simp only [step, replaying, List.map_nil, List.nil_append, replayLoop]
  | cons n msgs ih =>
      have inRange : n < p.published.length := wf.known n (Or.inl (by simp [pending, replaying]))
      have small : n < 2 ^ 63 := lt_of_lt_of_le inRange wf.bounded
      rw [List.length_cons, List.range'_succ, List.map_cons, Run.run_cons, ih (i + 1)
        (wellFormed_step wf _) (by
          simp only [step, replaying, not_isReplayEnd small, Bool.false_eq_true, if_false])]
      rw [List.map_cons, List.cons_append, replayLoop, not_isReplayEnd small,
        if_neg Bool.false_ne_true]
      simp only [step, replaying, not_isReplayEnd small, Bool.false_eq_true, if_false, payload]

/-! ### Runs -/

/-- A fresh stream has missed nothing at any time of a run exactly when each connection
without a gap so far starts with a replay that covers what was missed before. -/
theorem freshComplete_iff (engineID model replayEndpoint : String) (indexes : Manager)
    (actions : List (Action rt)) :
    (∀ pre post, actions = pre ++ post →
        FreshComplete
          (Run.run (step res topic) (start rt engineID model replayEndpoint indexes) pre)) ↔
      Run.EachStep (step res topic) Covers
        (start rt engineID model replayEndpoint indexes) actions := by
  have nothing : FreshComplete (start rt engineID model replayEndpoint indexes) :=
    fun _ n inRange => absurd inRange (Nat.not_lt_zero n)
  have kept : ∀ (p : Stream rt) (a : Action rt), WellFormed p → WellFormed (p.step res topic a) :=
    fun _ a wf => wellFormed_step wf a
  have exactly : ∀ (p : Stream rt) (a : Action rt), WellFormed p → FreshComplete p →
      (FreshComplete (p.step res topic a) ↔ Covers p a) :=
    fun _ a wf complete => freshComplete_step_iff wf complete a
  exact Run.always_iff_eachStep kept exactly
    (wellFormed_start engineID model replayEndpoint indexes) nothing actions

end Accounting

/-! A batch is published while the listener is away, and the replay cannot be dialled. -/

def emptyBatch : Payload emptyBatchRuntime := ⟨[0x92, 0xc0, 0x90], decodes_emptyBatch⟩

def failedReplay : List (Action emptyBatchRuntime) :=
  [.connect 0 0 none, .replayRecv ⟨0, fun _ => 0, fun _ => 0⟩, .publish emptyBatch,
    .deliver ⟨0, fun _ => 0, fun _ => 0⟩, .disconnect "EOF", .publish emptyBatch,
    .connect 1 0 (some "replay dial: connection refused")]

/-- The listener after that, of an engine with a replay endpoint. -/
def afterFailedReplay : Stream emptyBatchRuntime :=
  Run.run (step ⟨"m/1", 9, 16⟩ []) (start emptyBatchRuntime "a" "m" "tcp://a:5558" ∅) failedReplay

/-- The stream is fresh, and batch 1 is neither applied nor on its way. -/
theorem not_freshComplete :
    ¬ ∀ (rt : Runtime) (res : Resolved) (topic : List UInt8)
        (engineID model replayEndpoint : String) (indexes : Manager) (actions : List (Action rt)),
      FreshComplete
        (Run.run (step res topic) (start rt engineID model replayEndpoint indexes) actions) := by
  intro complete
  have isFresh : afterFailedReplay.fresh = true := by decide +kernel
  have inRange : 1 < afterFailedReplay.published.length := by decide +kernel
  have missing : ¬ afterFailedReplay.Accounted 1 := by decide +kernel
  exact missing (complete emptyBatchRuntime ⟨"m/1", 9, 16⟩ [] "a" "m" "tcp://a:5558" ∅ failedReplay
    isFresh 1 inRange)

end Stream

end KvIndexer.HttpApi
