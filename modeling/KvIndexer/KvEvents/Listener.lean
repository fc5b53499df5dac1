import KvIndexer.KvEvents.Ingest

/-!
The listener's two delivery paths (`internal/kvevents/listener.go`).

Live messages arrive as three frames and go through `handleFrames`; a replay after
a (re)connect goes through `replayBuffered`, whose messages have two frames and end
with a marker. Both decode the payload, track the sequence number and ingest, in
`applyPayload`. Neither looks at the sequence number before ingesting.
-/

namespace KvIndexer.KvEvents

open Residency

/-! ### Sequence numbers -/

/-- `int64(x)` -/
def int64 (x : UInt64) : Int := x.toInt64.toInt

/-- `trackSeq`: a number that is not above the last one is ignored, one that skips
numbers counts as a gap. -/
def Listener.trackSeq (l : Listener) (seq : Int) : Listener :=
  if l.hasSeq ∧ seq ≤ l.lastSeq then l
  else
    { l with
      gaps := if l.hasSeq ∧ seq > l.lastSeq + 1 then l.gaps + 1 else l.gaps
      lastSeq := seq
      hasSeq := true }

/-- `lastSeq + 1` in 64 bits, or 0 before the first batch. -/
def Listener.nextReplaySeq (l : Listener) : Int :=
  if !l.hasSeq then 0 else int64 (UInt64.ofInt (l.lastSeq + 1))

/-- `binary.BigEndian.Uint64`: the first eight bytes. -/
def bigEndianUint64 (frame : List UInt8) : UInt64 :=
  (frame.take 8).foldl (fun x b => (x <<< 8) ||| b.toUInt64) 0

/-- `binary.BigEndian.PutUint64` -/
def bigEndianPutUint64 (x : UInt64) : List UInt8 :=
  (List.range 8).map fun i => (x >>> (8 * (7 - i)).toUInt64).toUInt8

@[simp] theorem length_bigEndianPutUint64 (x : UInt64) : (bigEndianPutUint64 x).length = 8 := rfl

/-- A sequence number is read back from its frame. -/
@[simp] theorem bigEndianUint64_put (x : UInt64) : bigEndianUint64 (bigEndianPutUint64 x) = x := by
  simp only [bigEndianUint64, bigEndianPutUint64, List.range, List.range.loop, List.map, List.take,
    List.foldl]
  refine UInt64.toBitVec_inj.mp (BitVec.eq_of_getElem_eq fun i inRange => ?_)
  simp only [UInt64.toBitVec_or, UInt64.toBitVec_shiftLeft, UInt8.toBitVec_toUInt64,
    UInt64.toBitVec_toUInt8, UInt64.toBitVec_shiftRight]
  simp only [UInt64.toBitVec_ofNat, BitVec.ofNat_eq_ofNat, BitVec.reduceMod, BitVec.shiftLeft_eq',
    BitVec.toNat_ofNat, Nat.reducePow, Nat.reduceMod, BitVec.zero_shiftLeft, tsub_zero,
    Nat.reduceMul, Nat.toUInt64_eq, UInt64.reduceOfNat, BitVec.ushiftRight_eq', BitVec.zero_or,
    Nat.add_one_sub_one, Nat.reduceSub, mul_one, tsub_self, mul_zero, BitVec.zero_umod,
    Nat.zero_mod, BitVec.ushiftRight_zero, BitVec.getElem_or, BitVec.getElem_shiftLeft,
    BitVec.getElem_setWidth, BitVec.getLsbD_setWidth, BitVec.getLsbD_ushiftRight]
  grind

theorem int64_ofNat (n : Nat) : int64 (UInt64.ofNat n) = (n : Int).bmod (2 ^ 64) := by
  have same : (UInt64.ofNat n).toInt64 = Int64.ofNat n := rfl
  rw [int64, same, Int64.toInt_ofNat']
  rfl

theorem int64_ofNat_of_lt {n : Nat} (small : n < 2 ^ 63) : int64 (UInt64.ofNat n) = n := by
  rw [int64_ofNat]
  exact Int.bmod_eq_of_le (by omega) (by omega)

/-- Converting to `uint64` takes `int64` back. -/
theorem ofInt_int64 (x : UInt64) : UInt64.ofInt (int64 x) = x := by
  have bits : int64 x = (x.toNat : Int).bmod (2 ^ 64 : Nat) := BitVec.toInt_eq_toNat_bmod _
  have residue : (x.toNat : Int).bmod (2 ^ 64 : Nat) % (2 ^ 64 : Nat) = x.toNat := by
    rw [Int.bmod_emod]
    exact Int.emod_eq_of_lt (by omega) (by exact_mod_cast x.toNat_lt)
  have unsigned : UInt64.ofInt (int64 x) = UInt64.ofNat (int64 x % (2 ^ 64 : Nat)).toNat := rfl
  rw [unsigned, bits, residue, Int.toNat_natCast, UInt64.ofNat_toNat]

def isReplayEnd (frame : List UInt8) : Bool :=
  frame.length = 8 && int64 (bigEndianUint64 frame) = -1

/-! ### Delivery -/

/-- `decErrs.Add(1)` -/
def Listener.decodeError (l : Listener) : Listener := { l with decErrs := l.decErrs + 1 }

def Listener.setErr (l : Listener) (err : String) : Listener := { l with lastErr := err }

/-- A run-time panic of the program. -/
inductive Panic where
  | indexOutOfRange
deriving DecidableEq, Repr

section Delivery

variable (rt : Runtime)

/-- The end of both delivery paths: decode the payload, then track and ingest the
batch. -/
def applyPayload (m : Moment) (s : State) (seq : UInt64)
    (payload : List UInt8) : State :=
  match rt.unmarshal payload with
  | .error err => { s with listener := s.listener.decodeError.setErr err }
  | .ok fields =>
      match decodeBatch rt.sprint seq fields with
      | .error err => { s with listener := s.listener.decodeError.setErr err }
      | .ok batch =>
          ingest rt m { s with listener := s.listener.trackSeq (int64 seq) } batch

/-- A live message `[topic, seq, payload]`. A sequence frame of fewer than eight
bytes makes `BigEndian.Uint64` panic. -/
def handleFrames (m : Moment) (s : State)
    (frames : List (List UInt8)) : Except Panic State :=
  match frames with
  | [_topic, seqFrame, payload] =>
      if seqFrame.length < 8 then .error .indexOutOfRange
      else .ok (applyPayload rt m s (bigEndianUint64 seqFrame) payload)
  | _ => .ok { s with listener := s.listener.decodeError }

/-- Live messages, one after another. -/
def handleAll : State → List (Moment × List (List UInt8)) → Except Panic State
  | s, [] => .ok s
  | s, (m, frames) :: msgs =>
      match handleFrames rt m s frames with
      | .error panic => .error panic
      | .ok s => handleAll s msgs

/-- One message of a replay that is not the end marker. -/
def replayMessage (m : Moment) (s : State)
    (frames : List (List UInt8)) : State :=
  match frames with
  | seqFrame :: payload :: _ =>
      if seqFrame.length ≠ 8 then { s with listener := s.listener.decodeError }
      else applyPayload rt m s (bigEndianUint64 seqFrame) payload
  | _ => { s with listener := s.listener.decodeError }

/-- The receive loop of a replay: the messages that arrive, then an error, unless
the end marker comes first. Message number `i` is applied at moment `m i`. -/
def replayLoop (m : Nat → Moment) (recvErr : String) :
    Nat → State → List (List (List UInt8)) → State
  | _, s, [] => { s with listener := s.listener.setErr ("replay recv: " ++ recvErr) }
  | i, s, frames :: msgs =>
      if isReplayEnd (frames.headD []) then s
      else replayLoop m recvErr (i + 1) (replayMessage rt (m i) s frames) msgs

/-- What the replay socket does: dialling or sending fails, or messages arrive and
then receiving fails (a time-out, a lost connection). -/
inductive Replay where
  | dial (err : String)
  | request (err : String)
  | received (msgs : List (List (List UInt8))) (recvErr : String)
deriving DecidableEq, Repr

/-- Without a replay endpoint nothing is asked for. -/
def replayBuffered (m : Nat → Moment) (s : State) (reply : Replay) : State :=
  if s.listener.replayEndpoint = "" then s
  else
    match reply with
    | .dial err => { s with listener := s.listener.setErr ("replay dial: " ++ err) }
    | .request err => { s with listener := s.listener.setErr ("replay request: " ++ err) }
    | .received msgs recvErr => replayLoop rt m recvErr 0 s msgs

/-- The request frame of a replay. -/
def Listener.replayRequest (l : Listener) : List UInt8 :=
  bigEndianPutUint64 (UInt64.ofInt l.nextReplaySeq)

/-- The publisher reads the number that was asked for. -/
theorem Listener.int64_replayRequest (l : Listener) :
    int64 (bigEndianUint64 l.replayRequest) = l.nextReplaySeq := by
  rw [replayRequest, bigEndianUint64_put, nextReplaySeq]
  split
  · rfl
  · rw [ofInt_int64]

/-- The dial and subscribe part of `subscribeLoop`. -/
def Listener.connect (l : Listener) : Listener := { l with connected := true, lastErr := "" }

/-- `subscribeLoop` has returned an error. -/
def Listener.disconnect (l : Listener) (err : String) : Listener :=
  { l.setErr err with connected := false }

end Delivery

/-! ### What a delivery does to the listener -/

/-- What `trackSeq` reads and writes. -/
def Listener.seqState (l : Listener) : Bool × Int × Nat := (l.hasSeq, l.lastSeq, l.gaps)

@[simp] theorem Listener.engineID_trackSeq (l : Listener) (seq : Int) :
    (l.trackSeq seq).engineID = l.engineID := by
  unfold trackSeq
  split
  · rfl
  · rfl

theorem Listener.seqState_trackSeq_congr {l l' : Listener} (same : l.seqState = l'.seqState)
    (seq : Int) : (l.trackSeq seq).seqState = (l'.trackSeq seq).seqState := by
  simp only [seqState, Prod.mk.injEq] at same
  obtain ⟨has, last, gaps⟩ := same
  unfold trackSeq
  rw [has, last, gaps]
  by_cases old : l'.hasSeq = true ∧ seq ≤ l'.lastSeq
  · rw [if_pos old, if_pos old, seqState, seqState, has, last, gaps]
  · rw [if_neg old, if_neg old]
    rfl

section Tracking

variable {rt : Runtime}

@[simp] theorem seqState_ingest (m : Moment) (s : State) (batch : Batch) :
    (ingest rt m s batch).listener.seqState = s.listener.seqState := by
  rw [ingest_listener]
  rfl

/-- The payload decodes, whatever sequence number it comes with. -/
def Decodes (rt : Runtime) (payload : List UInt8) : Prop :=
  ∃ fields batch, rt.unmarshal payload = .ok fields ∧ decodeBatch rt.sprint 0 fields = .ok batch

/-- Both paths treat a well-formed message alike. -/
theorem replayMessage_eq_handleFrames (m : Moment) (s : State) (topic seqFrame payload : List UInt8)
    (full : seqFrame.length = 8) :
    handleFrames rt m s [topic, seqFrame, payload] =
      .ok (replayMessage rt m s [seqFrame, payload]) := by
  simp [handleFrames, replayMessage, full]

/-- The batch a payload holds, if it decodes. -/
def payloadBatch (rt : Runtime) (seq : UInt64) (payload : List UInt8) : Option Batch :=
  match rt.unmarshal payload with
  | .error _ => none
  | .ok fields => (decodeBatch rt.sprint seq fields).toOption

theorem seq_of_payloadBatch {seq : UInt64} {payload : List UInt8} {batch : Batch}
    (holds : payloadBatch rt seq payload = some batch) : batch.seq = seq := by
  unfold payloadBatch at holds
  split at holds
  · cases holds
  · rename_i fields unpacked
    cases decoded : decodeBatch rt.sprint seq fields with
    | error err =>
        rw [decoded] at holds
        cases holds
    | ok found =>
        rw [decoded] at holds
        cases holds
        exact seq_of_decodeBatch decoded

theorem exists_payloadBatch {payload : List UInt8} (decodes : Decodes rt payload) (seq : UInt64) :
    ∃ batch, payloadBatch rt seq payload = some batch := by
  obtain ⟨fields, batch, unpacked, decoded⟩ := decodes
  refine ⟨{ batch with seq }, ?_⟩
  simp only [payloadBatch, unpacked, decodeBatch_seq seq fields, decoded, Except.map]
  rfl

/-- What a message does: the batch it holds is tracked and ingested or, when it holds none,
an error is counted. -/
def Handled (rt : Runtime) (m : Moment) (s : State) (found : Option Batch) (s' : State) : Prop :=
  (∃ batch, found = some batch ∧
      s' = ingest rt m { s with listener := s.listener.trackSeq (int64 batch.seq) } batch) ∨
    (found = none ∧ ∃ lastErr, s' = { s with listener := { s.listener.decodeError with lastErr } })

theorem handled_applyPayload (m : Moment) (s : State) (seq : UInt64) (payload : List UInt8) :
    Handled rt m s (payloadBatch rt seq payload) (applyPayload rt m s seq payload) := by
  unfold applyPayload payloadBatch
  cases rt.unmarshal payload with
  | error err => exact Or.inr ⟨rfl, err, rfl⟩
  | ok fields =>
      dsimp only
      cases decoded : decodeBatch rt.sprint seq fields with
      | error err => exact Or.inr ⟨rfl, err, rfl⟩
      | ok batch => exact Or.inl ⟨batch, rfl, by rw [seq_of_decodeBatch decoded]⟩

/-- The number of a payload that decodes is tracked. -/
theorem seqState_applyPayload {payload : List UInt8} (decodes : Decodes rt payload) (m : Moment)
    (s : State) (seq : UInt64) :
    (applyPayload rt m s seq payload).listener.seqState =
      (s.listener.trackSeq (int64 seq)).seqState := by
  obtain ⟨batch, holds⟩ := exists_payloadBatch decodes seq
  rcases handled_applyPayload m s seq payload with ⟨batch', found, result⟩ | ⟨none, -⟩
  · rw [result, seqState_ingest, seq_of_payloadBatch found]
  · rw [none] at holds
    cases holds

/-- The batch of a live message. -/
def liveBatch (rt : Runtime) (frames : List (List UInt8)) : Option Batch :=
  match frames with
  | [_topic, seqFrame, payload] =>
      if seqFrame.length < 8 then none else payloadBatch rt (bigEndianUint64 seqFrame) payload
  | _ => none

/-- What a live message of three frames does: it makes the program panic, or its payload is
applied. Any other message is counted. -/
theorem handleFrames_cases (m : Moment) (s : State) (frames : List (List UInt8)) :
    (∃ topic seqFrame payload, frames = [topic, seqFrame, payload] ∧
      (seqFrame.length < 8 ∧ liveBatch rt frames = none ∧
          handleFrames rt m s frames = .error .indexOutOfRange ∨
        8 ≤ seqFrame.length ∧
          liveBatch rt frames = payloadBatch rt (bigEndianUint64 seqFrame) payload ∧
          handleFrames rt m s frames =
            .ok (applyPayload rt m s (bigEndianUint64 seqFrame) payload))) ∨
      frames.length ≠ 3 ∧ liveBatch rt frames = none ∧
        handleFrames rt m s frames = .ok { s with listener := s.listener.decodeError } := by
  unfold handleFrames liveBatch
  split
  · rename_i topic seqFrame payload
    refine Or.inl ⟨topic, seqFrame, payload, rfl, ?_⟩
    by_cases short : seqFrame.length < 8
    · exact Or.inl ⟨short, if_pos short, if_pos short⟩
    · exact Or.inr ⟨Nat.le_of_not_lt short, if_neg short, if_neg short⟩
  · rename_i other
    refine Or.inr ⟨fun three => ?_, rfl, rfl⟩
    obtain ⟨topic, seqFrame, payload, split⟩ := List.length_eq_three.mp three
    exact other topic seqFrame payload split

/-- A live message that does not make the program panic is handled. -/
theorem handled_handleFrames {m : Moment} {s s' : State} {frames : List (List UInt8)}
    (result : handleFrames rt m s frames = .ok s') : Handled rt m s (liveBatch rt frames) s' := by
  rcases @handleFrames_cases rt m s frames with
    ⟨topic, seqFrame, payload, -, ⟨-, -, panics⟩ | ⟨-, batch, applied⟩⟩ | ⟨-, batch, counted⟩
  · cases panics.symm.trans result
  · cases applied.symm.trans result
    rw [batch]
    exact handled_applyPayload m s _ _
  · cases counted.symm.trans result
    exact Or.inr ⟨batch, s.listener.lastErr, rfl⟩

/-- A message that makes the program panic holds no batch. -/
theorem liveBatch_of_panic {m : Moment} {s : State} {frames : List (List UInt8)} {panic : Panic}
    (result : handleFrames rt m s frames = .error panic) : liveBatch rt frames = none := by
  rcases @handleFrames_cases rt m s frames with
    ⟨topic, seqFrame, payload, -, ⟨-, batch, -⟩ | ⟨-, -, applied⟩⟩ | ⟨-, batch, -⟩
  · exact batch
  · cases applied.symm.trans result
  · exact batch

/-- The batch of a replay message. -/
def replayBatch (rt : Runtime) (frames : List (List UInt8)) : Option Batch :=
  match frames with
  | seqFrame :: payload :: _ =>
      if seqFrame.length ≠ 8 then none else payloadBatch rt (bigEndianUint64 seqFrame) payload
  | _ => none

theorem handled_replayMessage (m : Moment) (s : State) (frames : List (List UInt8)) :
    Handled rt m s (replayBatch rt frames) (replayMessage rt m s frames) := by
  unfold replayMessage replayBatch
  split
  · rename_i seqFrame payload rest
    by_cases misfit : seqFrame.length ≠ 8
    · rw [if_pos misfit, if_pos misfit]
      exact Or.inr ⟨rfl, s.listener.lastErr, rfl⟩
    · rw [if_neg misfit, if_neg misfit]
      exact handled_applyPayload m s _ _
  · exact Or.inr ⟨rfl, s.listener.lastErr, rfl⟩

/-- The live message of batch number `n`. -/
def liveFrames (topic : List UInt8) (n : Nat) (payload : List UInt8) : List (List UInt8) :=
  [topic, bigEndianPutUint64 (UInt64.ofNat n), payload]

theorem handleFrames_live (topic : List UInt8) (n : Nat) (payload : List UInt8) (m : Moment)
    (s : State) :
    handleFrames rt m s (liveFrames topic n payload) =
      .ok (applyPayload rt m s (UInt64.ofNat n) payload) := by
  simp [handleFrames, liveFrames]

/-- The replay message of batch number `n`. -/
def replayFrames (n : Nat) (payload : List UInt8) : List (List UInt8) :=
  [bigEndianPutUint64 (UInt64.ofNat n), payload]

theorem replayMessage_replayFrames (n : Nat) (payload : List UInt8) (m : Moment) (s : State) :
    replayMessage rt m s (replayFrames n payload) =
      applyPayload rt m s (UInt64.ofNat n) payload := by
  simp [replayMessage, replayFrames]

/-! ### Rejected or applied -/

/-- The sequence frame of a message of three frames is long enough. -/
def SeqFrameFits (frames : List (List UInt8)) : Prop :=
  frames.length = 3 → 8 ≤ (frames.getD 1 []).length

/-- A message counts as one decode error and changes neither the sequence state nor an
index, or the one batch it decodes to is tracked and ingested. -/
def RejectedOrApplied (rt : Runtime) (m : Moment) (s : State) (frames : List (List UInt8))
    (s' : State) : Prop :=
  (s'.listener.decErrs = s.listener.decErrs + 1 ∧ s'.listener.seqState = s.listener.seqState ∧
      s'.indexes = s.indexes) ∨
    ∃ topic seqFrame payload fields batch, frames = [topic, seqFrame, payload] ∧
      rt.unmarshal payload = .ok fields ∧
      decodeBatch rt.sprint (bigEndianUint64 seqFrame) fields = .ok batch ∧
      s' = ingest rt m
        { s with listener := s.listener.trackSeq (int64 (bigEndianUint64 seqFrame)) } batch

/-- The program panics on a sequence frame that is too short, and on nothing else. -/
theorem handleFrames_ok_iff {m : Moment} {s : State} {frames : List (List UInt8)} :
    (∃ s', handleFrames rt m s frames = .ok s') ↔ SeqFrameFits frames := by
  rcases @handleFrames_cases rt m s frames with
    ⟨topic, seqFrame, payload, rfl, ⟨short, -, panics⟩ | ⟨full, -, applied⟩⟩ | ⟨other, -, counted⟩
  · rw [panics]
    exact iff_of_false nofun fun fits => absurd (fits rfl) (Nat.not_le_of_lt short)
  · exact iff_of_true ⟨_, applied⟩ fun _ => full
  · exact iff_of_true ⟨_, counted⟩ fun three => absurd three other

theorem rejectedOrApplied_applyPayload (m : Moment) (s : State)
    (topic seqFrame payload : List UInt8) :
    RejectedOrApplied rt m s [topic, seqFrame, payload]
      (applyPayload rt m s (bigEndianUint64 seqFrame) payload) := by
  unfold applyPayload
  cases unpacked : rt.unmarshal payload with
  | error err => exact Or.inl ⟨rfl, rfl, rfl⟩
  | ok fields =>
      dsimp only
      cases decoded : decodeBatch rt.sprint (bigEndianUint64 seqFrame) fields with
      | error err => exact Or.inl ⟨rfl, rfl, rfl⟩
      | ok batch =>
          exact Or.inr ⟨topic, seqFrame, payload, fields, batch, rfl, unpacked, decoded, rfl⟩

/-- A live message is rejected or applied exactly when its sequence frame, if it has
one, is long enough. -/
theorem rejectedOrApplied_iff (rt : Runtime) (m : Moment) (s : State)
    (frames : List (List UInt8)) :
    (∃ s', handleFrames rt m s frames = .ok s' ∧ RejectedOrApplied rt m s frames s') ↔
      SeqFrameFits frames := by
  rw [← @handleFrames_ok_iff rt m s]
  constructor
  · rintro ⟨s', result, -⟩
    exact ⟨s', result⟩
  · rintro ⟨s', result⟩
    refine ⟨s', result, ?_⟩
    rcases @handleFrames_cases rt m s frames with
      ⟨topic, seqFrame, payload, rfl, ⟨-, -, panics⟩ | ⟨-, -, applied⟩⟩ | ⟨-, -, counted⟩
    · cases panics.symm.trans result
    · cases applied.symm.trans result
      exact rejectedOrApplied_applyPayload m s topic seqFrame payload
    · cases counted.symm.trans result
      exact Or.inl ⟨rfl, rfl, rfl⟩

/-- Three empty frames make the program panic. -/
theorem not_rejectedOrApplied :
    ¬ ∀ (rt : Runtime) (m : Moment) (s : State) (frames : List (List UInt8)),
      ∃ s', handleFrames rt m s frames = .ok s' ∧ RejectedOrApplied rt m s frames s' := by
  intro always
  obtain ⟨s', result, -⟩ := always (tableRuntime []) ⟨none, 0, fun _ => 0, fun _ => 0⟩
    ⟨⟨"w", "m", "", false, 0, false, 0, 0, 0, 0, 0, ""⟩, ∅, []⟩ [[], [], []]
  cases result

/-- A queue of messages is worked off exactly when every one of them fits. -/
theorem handleAll_ok_iff {s : State} {msgs : List (Moment × List (List UInt8))} :
    (∃ s', handleAll rt s msgs = .ok s') ↔ ∀ msg ∈ msgs, SeqFrameFits msg.2 := by
  induction msgs generalizing s with
  | nil => exact iff_of_true ⟨s, rfl⟩ nofun
  | cons msg msgs ih =>
      obtain ⟨m, frames⟩ := msg
      rw [List.forall_mem_cons, ← @handleFrames_ok_iff rt m s, handleAll]
      cases result : handleFrames rt m s frames with
      | error panic => simp
      | ok s₁ =>
          simp only [Except.ok.injEq, exists_eq', true_and]
          exact ih

end Tracking

/-! ### Health -/

section Health

variable {rt : Runtime}

/-- `h.Connected && h.GapsTotal == 0` on the health snapshot -/
def Listener.trusted (l : Listener) : Bool := l.connected && l.gaps = 0

theorem Listener.trusted_iff {l : Listener} :
    l.trusted = true ↔ l.connected = true ∧ l.gaps = 0 := by
  simp [trusted]

@[simp] theorem Listener.connected_trackSeq (l : Listener) (seq : Int) :
    (l.trackSeq seq).connected = l.connected := by
  unfold trackSeq
  split
  · rfl
  · rfl

@[simp] theorem Listener.model_trackSeq (l : Listener) (seq : Int) :
    (l.trackSeq seq).model = l.model := by
  unfold trackSeq
  split
  · rfl
  · rfl

/-- A batch of this number opens no gap. -/
def Listener.continues (l : Listener) (seq : Int) : Prop := l.hasSeq = true → seq ≤ l.lastSeq + 1

/-- A gap is opened by the number of a batch and never closed by one. -/
theorem Listener.gaps_trackSeq_iff {l : Listener} {seq : Int} :
    (l.trackSeq seq).gaps = 0 ↔ l.gaps = 0 ∧ l.continues seq := by
  unfold trackSeq continues
  split
  · rename_i old
    exact (and_iff_left fun _ => by omega).symm
  · dsimp only
    split
    · rename_i skips
      refine iff_of_false (Nat.succ_ne_zero _) fun ⟨_, continues⟩ => ?_
      have := continues skips.1
      omega
    · rename_i follows
      refine (and_iff_left fun has => ?_).symm
      have := not_and.mp follows has
      omega

namespace Handled

variable {m : Moment} {s s' : State} {found : Option Batch}

theorem engineID_eq (handled : Handled rt m s found s') :
    s'.listener.engineID = s.listener.engineID := by
  rcases handled with ⟨batch, -, rfl⟩ | ⟨-, lastErr, rfl⟩
  · rw [ingest_listener]
    exact Listener.engineID_trackSeq _ _
  · rfl

theorem model_eq (handled : Handled rt m s found s') : s'.listener.model = s.listener.model := by
  rcases handled with ⟨batch, -, rfl⟩ | ⟨-, lastErr, rfl⟩
  · rw [ingest_listener]
    exact Listener.model_trackSeq _ _
  · rfl

theorem connected_eq (handled : Handled rt m s found s') :
    s'.listener.connected = s.listener.connected := by
  rcases handled with ⟨batch, -, rfl⟩ | ⟨-, lastErr, rfl⟩
  · rw [ingest_listener]
    exact Listener.connected_trackSeq _ _
  · rfl

/-- A stream stays without gaps unless the number of the batch opens one. -/
theorem gaps_iff (handled : Handled rt m s found s') :
    s'.listener.gaps = 0 ↔ s.listener.gaps = 0 ∧
      ∀ batch, found = some batch → s.listener.continues (int64 batch.seq) := by
  rcases handled with ⟨batch, rfl, rfl⟩ | ⟨rfl, lastErr, rfl⟩
  · rw [ingest_listener]
    refine Listener.gaps_trackSeq_iff.trans (and_congr_right fun _ => ?_)
    constructor
    · rintro continues batch' same
      cases same
      exact continues
    · exact fun continues => continues batch rfl
  · exact (and_iff_left nofun).symm

/-- So it stays trusted. -/
theorem trusted_iff (handled : Handled rt m s found s') :
    s'.listener.trusted = true ↔ s.listener.trusted = true ∧
      ∀ batch, found = some batch → s.listener.continues (int64 batch.seq) := by
  rw [Listener.trusted_iff, Listener.trusted_iff, handled.connected_eq, handled.gaps_iff, and_assoc]

end Handled

end Health

/-- A codec that knows the batch without events. -/
def emptyBatchRuntime : Runtime := tableRuntime [([0x92, 0xc0, 0x90], [.nil, .array []])]

theorem decodes_emptyBatch : Decodes emptyBatchRuntime [0x92, 0xc0, 0x90] :=
  ⟨[.nil, .array []], { seq := 0 }, rfl, rfl⟩

end KvIndexer.KvEvents
