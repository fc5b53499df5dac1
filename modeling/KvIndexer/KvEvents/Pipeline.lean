import KvIndexer.KvEvents.Listener
import KvIndexer.Lib.Guarded
import KvIndexer.Lib.Run

/-!
The goroutines of a listener (`internal/kvevents/listener.go`).

`run` subscribes again and again until the context is cancelled. A subscription has two
goroutines with a bounded queue between them: one receives from the socket, the other
decodes and applies. `Pipeline.step` takes one step of either, at the grain of the
operations they synchronise on, and refuses a step that would block. What the socket, the
clock, the caller of `Stop` and other listeners do is part of the action.

The pipeline refines a listener that handles each message on receipt: its state is the run
of its `history`, and the messages of the history followed by those in flight are the
messages received, in order (`pipeline_in_order`). Nothing is in flight outside a
subscription, so a replay asks for what follows everything received before. After
`Stop` the goroutines halt whatever the schedule (`stop_halts`).
-/

namespace KvIndexer.KvEvents

open Residency

/-- The frames of one message. -/
abbrev Frames := List (List UInt8)

def applyQueueSize : Nat := 8192

/-- Where the receiving goroutine stands, in `run` and in `subscribeLoop`. -/
inductive Receiver where
  /-- at the top of the loop of `run` -/
  | attempt
  /-- about to dial and subscribe -/
  | dial
  /-- subscribed, about to replay -/
  | replay
  /-- at the top of the receive loop -/
  | loop
  /-- in `sub.Recv` -/
  | recv
  /-- has counted the message and is sending it to the queue -/
  | send (frames : Frames)
  /-- has closed the queue and waits for the applier; `subscribeLoop` then returns -/
  | drain (result : Option String)
  /-- waits for the backoff -/
  | sleep
  | done
deriving DecidableEq, Repr

/-- Where the applying goroutine stands. -/
inductive Applier where
  /-- not started, or finished -/
  | idle
  /-- at the top of its loop over the queue -/
  | ready
  /-- has taken the message from the queue -/
  | taken (frames : Frames)
  /-- has taken it off the queue's count too -/
  | counted (frames : Frames)
deriving DecidableEq, Repr

/-- What changes the state of the listener. -/
inductive Happening where
  | connected
  | replayed (m : Nat → Moment) (reply : Replay)
  | message (m : Moment) (frames : Frames)
  | disconnected (err : String)
  /-- other listeners have written the indexes -/
  | others (indexes : Manager)

structure Pipeline where
  state : State
  receiver : Receiver := .attempt
  applier : Applier := .idle
  queue : List Frames := []
  queueLen : Int := 0
  /-- in milliseconds -/
  backoff : Nat := 500
  cancelled : Bool := false
  /-- a message made the program panic -/
  crashed : Bool := false
  /-- all that changed the state so far -/
  history : List Happening := []
  /-- the messages received so far -/
  received : List Frames := []
  /-- the messages given up when the context was cancelled -/
  abandoned : List Frames := []

/-- One step of a goroutine, with what it finds outside. -/
inductive PipelineStep where
  /-- the caller cancels the context -/
  | cancel
  | others (indexes : Manager)
  /-- the receiving goroutine -/
  | attempt
  | dialed (err : Option String)
  | replayed (m : Nat → Moment) (reply : Replay)
  | next
  | received (result : Except String Frames)
  | enqueue
  | abandon
  | drained
  | wake
  | stopSleeping
  /-- the applying goroutine -/
  | take
  | count
  | handle (m : Moment)
  | finish

/-- The message of a happening. -/
def Happening.frames : Happening → Option Frames
  | .message _ frames => some frames
  | _ => none

/-- The message the goroutine holds. -/
def Receiver.held : Receiver → List Frames
  | .send frames => [frames]
  | _ => []

/-- The goroutine is in the receive loop. -/
def Receiver.receiving : Receiver → Bool
  | .loop => true
  | .recv => true
  | .send _ => true
  | _ => false

/-- The goroutine has a queue. -/
def Receiver.subscribed : Receiver → Bool
  | .loop => true
  | .recv => true
  | .send _ => true
  | .drain _ => true
  | _ => false

def Applier.held : Applier → List Frames
  | .taken frames => [frames]
  | .counted frames => [frames]
  | _ => []

/-- What the count of the queue still includes. -/
def Applier.uncounted : Applier → Nat
  | .taken _ => 1
  | _ => 0

/-- The message a step receives. -/
def PipelineStep.message : PipelineStep → Option Frames
  | .received (.ok frames) => some frames
  | _ => none

/-- The step is one of the two goroutines. -/
def PipelineStep.own : PipelineStep → Bool
  | .cancel => false
  | .others _ => false
  | _ => true

/-! The steps left until a halt, once the context is cancelled. -/

def Receiver.stepsLeft : Receiver → Nat
  | .attempt => 1
  | .dial => 6
  | .replay => 5
  | .loop => 4
  | .recv => 6
  | .send _ => 5
  | .drain _ => 3
  | .sleep => 2
  | .done => 0

def Applier.stepsLeft : Applier → Nat
  | .idle => 0
  | .ready => 1
  | .taken _ => 3
  | .counted _ => 2

namespace Pipeline

section Steps

variable (rt : Runtime)

/-- The effect of a happening. A message that makes the program panic has none. -/
def perform (s : State) : Happening → State
  | .connected => { s with listener := s.listener.connect }
  | .replayed m reply => replayBuffered rt m s reply
  | .message m frames => (handleFrames rt m s frames).toOption.getD s
  | .disconnected err => { s with listener := s.listener.disconnect err }
  | .others indexes => { s with indexes }

/-- Something happens to the state. -/
def happen (p : Pipeline) (what : Happening) : Pipeline :=
  { p with state := perform rt p.state what, history := p.history ++ [what] }

/-- One step; `none` where the goroutine is elsewhere or would block. -/
def step (p : Pipeline) (act : PipelineStep) : Option Pipeline :=
  if p.crashed then none
  else
    match act with
    | .cancel => some { p with cancelled := true }
    | .others indexes => some (p.happen rt (.others indexes))
    | .attempt =>
        match p.receiver with
        | .attempt => some { p with receiver := if p.cancelled then .done else .dial }
        | _ => none
    | .dialed err =>
        match p.receiver, err with
        | .dial, none => some { p.happen rt .connected with receiver := .replay }
        | .dial, some err => some { p.happen rt (.disconnected err) with receiver := .sleep }
        | _, _ => none
    | .replayed m reply =>
        match p.receiver with
        | .replay =>
            some { p.happen rt (.replayed m reply) with receiver := .loop, applier := .ready }
        | _ => none
    | .next =>
        match p.receiver with
        | .loop => some { p with receiver := if p.cancelled then .drain none else .recv }
        | _ => none
    | .received result =>
        match p.receiver, result with
        | .recv, .ok frames =>
            some { p with
              receiver := .send frames
              queueLen := p.queueLen + 1
              received := p.received ++ [frames] }
        | .recv, .error err => some { p with receiver := .drain (some err) }
        | _, _ => none
    | .enqueue =>
        match p.receiver with
        | .send frames =>
            if p.queue.length < applyQueueSize then
              some { p with receiver := .loop, queue := p.queue ++ [frames] }
            else none
        | _ => none
    | .abandon =>
        match p.receiver with
        | .send frames =>
            if p.cancelled then
              some { p with
                receiver := .drain none
                queueLen := p.queueLen - 1
                abandoned := p.abandoned ++ [frames] }
            else none
        | _ => none
    | .drained =>
        match p.receiver, p.applier with
        | .drain none, .idle => some { p with receiver := .done, queueLen := 0 }
        | .drain (some err), .idle =>
            some { p.happen rt (.disconnected err) with receiver := .sleep, queueLen := 0 }
        | _, _ => none
    | .wake =>
        match p.receiver with
        | .sleep =>
            some { p with
              receiver := .attempt
              backoff := if p.backoff < 5000 then p.backoff * 2 else p.backoff }
        | _ => none
    | .stopSleeping =>
        match p.receiver with
        | .sleep => if p.cancelled then some { p with receiver := .done } else none
        | _ => none
    | .take =>
        match p.applier, p.queue with
        | .ready, frames :: queue => some { p with applier := .taken frames, queue }
        | _, _ => none
    | .count =>
        match p.applier with
        | .taken frames => some { p with applier := .counted frames, queueLen := p.queueLen - 1 }
        | _ => none
    | .handle m =>
        match p.applier with
        | .counted frames =>
            match handleFrames rt m p.state frames with
            | .error _ => some { p with crashed := true }
            | .ok _ => some { p.happen rt (.message m frames) with applier := .ready }
        | _ => none
    | .finish =>
        match p.applier, p.queue, p.receiver with
        | .ready, [], .drain _ => some { p with applier := .idle }
        | _, _, _ => none

/-- A new listener, over the state it finds. -/
def start (s : State) : Pipeline := { state := s }

end Steps

/-! ### What a step can do -/

/-- The enabled steps, one by one. -/
inductive Moves (rt : Runtime) (p : Pipeline) : PipelineStep → Pipeline → Prop where
  | cancel : Moves rt p .cancel { p with cancelled := true }
  | others (indexes : Manager) : Moves rt p (.others indexes) (p.happen rt (.others indexes))
  | leave (here : p.receiver = .attempt) (cancelled : p.cancelled = true) :
      Moves rt p .attempt { p with receiver := .done }
  | attempt (here : p.receiver = .attempt) (running : p.cancelled = false) :
      Moves rt p .attempt { p with receiver := .dial }
  | connect (here : p.receiver = .dial) :
      Moves rt p (.dialed none) { p.happen rt .connected with receiver := .replay }
  | fail (here : p.receiver = .dial) (err : String) :
      Moves rt p (.dialed (some err)) { p.happen rt (.disconnected err) with receiver := .sleep }
  | replayed (here : p.receiver = .replay) (m : Nat → Moment) (reply : Replay) :
      Moves rt p (.replayed m reply)
        { p.happen rt (.replayed m reply) with receiver := .loop, applier := .ready }
  | close (here : p.receiver = .loop) (cancelled : p.cancelled = true) :
      Moves rt p .next { p with receiver := .drain none }
  | next (here : p.receiver = .loop) (running : p.cancelled = false) :
      Moves rt p .next { p with receiver := .recv }
  | received (here : p.receiver = .recv) (frames : Frames) :
      Moves rt p (.received (.ok frames))
        { p with receiver := .send frames, queueLen := p.queueLen + 1,
                 received := p.received ++ [frames] }
  | lost (here : p.receiver = .recv) (err : String) :
      Moves rt p (.received (.error err)) { p with receiver := .drain (some err) }
  | enqueue {frames : Frames} (here : p.receiver = .send frames)
      (room : p.queue.length < applyQueueSize) :
      Moves rt p .enqueue { p with receiver := .loop, queue := p.queue ++ [frames] }
  | abandon {frames : Frames} (here : p.receiver = .send frames) (cancelled : p.cancelled = true) :
      Moves rt p .abandon
        { p with receiver := .drain none, queueLen := p.queueLen - 1,
                 abandoned := p.abandoned ++ [frames] }
  | finished (here : p.receiver = .drain none) (idle : p.applier = .idle) :
      Moves rt p .drained { p with receiver := .done, queueLen := 0 }
  | disconnected {err : String} (here : p.receiver = .drain (some err)) (idle : p.applier = .idle) :
      Moves rt p .drained
        { p.happen rt (.disconnected err) with receiver := .sleep, queueLen := 0 }
  | wake (here : p.receiver = .sleep) (backoff : Nat) :
      Moves rt p .wake { p with receiver := .attempt, backoff }
  | stopSleeping (here : p.receiver = .sleep) (cancelled : p.cancelled = true) :
      Moves rt p .stopSleeping { p with receiver := .done }
  | take (here : p.applier = .ready) {frames : Frames} {queue : List Frames}
      (first : p.queue = frames :: queue) :
      Moves rt p .take { p with applier := .taken frames, queue }
  | count {frames : Frames} (here : p.applier = .taken frames) :
      Moves rt p .count { p with applier := .counted frames, queueLen := p.queueLen - 1 }
  | crash {frames : Frames} (here : p.applier = .counted frames) (m : Moment) :
      Moves rt p (.handle m) { p with crashed := true }
  | handle {frames : Frames} (here : p.applier = .counted frames) (m : Moment) :
      Moves rt p (.handle m) { p.happen rt (.message m frames) with applier := .ready }
  | finish {result : Option String} (here : p.applier = .ready) (empty : p.queue = [])
      (closed : p.receiver = .drain result) : Moves rt p .finish { p with applier := .idle }

theorem moves_of_step {rt : Runtime} {p p' : Pipeline} {act : PipelineStep}
    (enabled : p.step rt act = some p') : p.crashed = false ∧ Moves rt p act p' := by
  unfold step at enabled
  split at enabled
  · cases enabled
  · rename_i running
    refine ⟨by simpa using running, ?_⟩
    cases act with
    | cancel =>
        cases enabled
        exact .cancel
    | others indexes =>
        cases enabled
        exact .others indexes
    | attempt =>
        dsimp only at enabled
        split at enabled
        · rename_i here
          by_cases cancelled : p.cancelled = true
          · rw [if_pos cancelled] at enabled
            cases enabled
            exact .leave here cancelled
          · rw [if_neg cancelled] at enabled
            cases enabled
            exact .attempt here (Bool.eq_false_iff.mpr cancelled)
        · cases enabled
    | dialed err =>
        dsimp only at enabled
        split at enabled
        · rename_i here
          cases enabled
          exact .connect here
        · rename_i err here
          cases enabled
          exact .fail here err
        · cases enabled
    | replayed m reply =>
        dsimp only at enabled
        split at enabled
        · rename_i here
          cases enabled
          exact .replayed here m reply
        · cases enabled
    | next =>
        dsimp only at enabled
        split at enabled
        · rename_i here
          by_cases cancelled : p.cancelled = true
          · rw [if_pos cancelled] at enabled
            cases enabled
            exact .close here cancelled
          · rw [if_neg cancelled] at enabled
            cases enabled
            exact .next here (Bool.eq_false_iff.mpr cancelled)
        · cases enabled
    | received result =>
        dsimp only at enabled
        split at enabled
        · rename_i frames here
          cases enabled
          exact .received here frames
        · rename_i err here
          cases enabled
          exact .lost here err
        · cases enabled
    | enqueue =>
        dsimp only at enabled
        split at enabled
        · rename_i frames here
          split at enabled
          · rename_i room
            cases enabled
            exact .enqueue here room
          · cases enabled
        · cases enabled
    | abandon =>
        dsimp only at enabled
        split at enabled
        · rename_i frames here
          split at enabled
          · rename_i cancelled
            cases enabled
            exact .abandon here cancelled
          · cases enabled
        · cases enabled
    | drained =>
        dsimp only at enabled
        split at enabled
        · rename_i here idle
          cases enabled
          exact .finished here idle
        · rename_i err here idle
          cases enabled
          exact .disconnected here idle
        · cases enabled
    | wake =>
        dsimp only at enabled
        split at enabled
        · rename_i here
          cases enabled
          exact .wake here _
        · cases enabled
    | stopSleeping =>
        dsimp only at enabled
        split at enabled
        · rename_i here
          split at enabled
          · rename_i cancelled
            cases enabled
            exact .stopSleeping here cancelled
          · cases enabled
        · cases enabled
    | take =>
        dsimp only at enabled
        split at enabled
        · rename_i frames queue here first
          cases enabled
          exact .take here first
        · cases enabled
    | count =>
        dsimp only at enabled
        split at enabled
        · rename_i frames here
          cases enabled
          exact .count here
        · cases enabled
    | handle m =>
        dsimp only at enabled
        split at enabled
        · rename_i frames here
          split at enabled
          · cases enabled
            exact .crash here m
          · cases enabled
            exact .handle here m
        · cases enabled
    | finish =>
        dsimp only at enabled
        split at enabled
        · rename_i result here empty closed
          cases enabled
          exact .finish here empty closed
        · cases enabled

/-! ### Accounting -/

/-- The messages received and neither handled nor given up, oldest first. -/
def inFlight (p : Pipeline) : List Frames := p.applier.held ++ p.queue ++ p.receiver.held

/-- The messages handled so far. -/
def handled (p : Pipeline) : List Frames := p.history.filterMap Happening.frames

/-- Every message received is handled, in flight or given up, in this order. The count of
the queue includes the messages on their way in and out of it. -/
structure Accounted (rt : Runtime) (s : State) (p : Pipeline) : Prop where
  state : p.state = Run.run (perform rt) s p.history
  messages : p.received = p.handled ++ p.inFlight ++ p.abandoned
  bounded : p.queue.length ≤ applyQueueSize
  depth : p.queueLen = p.queue.length + p.receiver.held.length + p.applier.uncounted
  /-- There is an applier while messages are received, and none outside a subscription. -/
  active : p.receiver.receiving = true → p.applier ≠ .idle
  quiet : p.receiver.subscribed = false → p.applier = .idle
  drained : p.applier = .idle → p.queue = []
  /-- One message is given up at most, by a receiver that then returns. -/
  given_up : p.abandoned = [] ∨
    (p.abandoned.length = 1 ∧ (p.receiver = .drain none ∨ p.receiver = .done))
  cancelled : p.receiver = .drain none ∨ p.receiver = .done → p.cancelled = true

namespace Accounted

variable {rt : Runtime} {s : State} {p p' : Pipeline} {act : PipelineStep}

theorem start (rt : Runtime) (s : State) : Accounted rt s (Pipeline.start s) where
  state := rfl
  messages := rfl
  bounded := Nat.zero_le _
  depth := rfl
  active receiving := by cases receiving
  quiet _ := rfl
  drained _ := rfl
  given_up := Or.inl rfl
  cancelled returned := by
    rcases returned with draining | done
    · cases draining
    · cases done

/-- What happens is recorded. -/
theorem happen_state (accounted : Accounted rt s p) (what : Happening) :
    (p.happen rt what).state = Run.run (perform rt) s (p.happen rt what).history := by
  rw [happen, Run.run_concat, ← accounted.state]

theorem happen_handled (p : Pipeline) {what : Happening} (other : what.frames = none) :
    (p.happen rt what).handled = p.handled := by
  simp [handled, happen, other]

/-- An applier that is idle holds nothing, so outside a subscription nothing is in flight. -/
theorem inFlight_eq_nil (accounted : Accounted rt s p) (outside : p.receiver.subscribed = false) :
    p.inFlight = [] := by
  have idle := accounted.quiet outside
  rw [inFlight, accounted.drained idle, idle]
  cases here : p.receiver with
  | send frames =>
      rw [here] at outside
      cases outside
  | attempt => rfl
  | dial => rfl
  | replay => rfl
  | loop => rfl
  | recv => rfl
  | drain result => rfl
  | sleep => rfl
  | done => rfl

/-- Nothing is given up before the receiver returns. -/
theorem abandoned_eq_nil (accounted : Accounted rt s p)
    (stays : ¬ (p.receiver = .drain none ∨ p.receiver = .done)) : p.abandoned = [] :=
  accounted.given_up.resolve_right fun both => stays both.2

/-- Something other than a message happens. -/
theorem happens (accounted : Accounted rt s p) {what : Happening} (other : what.frames = none) :
    Accounted rt s (p.happen rt what) where
  state := accounted.happen_state what
  messages := by
    rw [happen_handled p other]
    exact accounted.messages
  bounded := accounted.bounded
  depth := accounted.depth
  active := accounted.active
  quiet := accounted.quiet
  drained := accounted.drained
  given_up := accounted.given_up
  cancelled := accounted.cancelled

/-- The receiver moves on without a message in its hands. -/
theorem relocate (accounted : Accounted rt s p) {receiver : Receiver} {queueLen : Int}
    (backoff : Nat) (before : p.receiver.held = []) (after : receiver.held = [])
    (same : queueLen = p.queueLen) (active : receiver.receiving = true → p.applier ≠ .idle)
    (quiet : receiver.subscribed = false → p.applier = .idle)
    (given_up : p.abandoned = [] ∨
      (p.abandoned.length = 1 ∧ (receiver = .drain none ∨ receiver = .done)))
    (cancelled : receiver = .drain none ∨ receiver = .done → p.cancelled = true) :
    Accounted rt s { p with receiver, queueLen, backoff } where
  state := accounted.state
  messages := by
    have messages := accounted.messages
    rw [inFlight, before] at messages
    rw [messages]
    simp only [inFlight, after]
    rfl
  bounded := accounted.bounded
  depth := by
    have depth := accounted.depth
    rw [before] at depth
    simp only [same, depth, after]
  active := active
  quiet := quiet
  drained := accounted.drained
  given_up := given_up
  cancelled := cancelled

/-- The applier moves on with the messages it has; those it holds uncounted make up for
what the queue lost. -/
theorem reapply (accounted : Accounted rt s p) {applier : Applier} {queue : List Frames}
    {queueLen : Int} (before : p.applier ≠ .idle) (after : applier ≠ .idle)
    (same : applier.held ++ queue = p.applier.held ++ p.queue)
    (shorter : queue.length ≤ p.queue.length)
    (counts : queueLen + p.queue.length + p.applier.uncounted =
      p.queueLen + queue.length + applier.uncounted) :
    Accounted rt s { p with applier, queue, queueLen } where
  state := accounted.state
  messages := by
    have messages := accounted.messages
    rw [inFlight, ← same] at messages
    exact messages
  bounded := shorter.trans accounted.bounded
  depth := by
    have depth := accounted.depth
    dsimp only
    omega
  active _ := after
  quiet outside := absurd (accounted.quiet outside) before
  drained idle := absurd idle after
  given_up := accounted.given_up
  cancelled := accounted.cancelled

/-- Once the applier has finished, the count of the queue is zero. -/
theorem queueLen_eq_zero (accounted : Accounted rt s p) (idle : p.applier = .idle)
    (held : p.receiver.held = []) : p.queueLen = 0 := by
  rw [accounted.depth, accounted.drained idle, idle, held]
  rfl

theorem step (accounted : Accounted rt s p) (moves : Moves rt p act p') : Accounted rt s p' := by
  cases moves with
  | cancel =>
      exact { accounted with cancelled := fun _ => rfl }
  | others indexes => exact accounted.happens rfl
  | leave here cancelled =>
      have idle := accounted.quiet (by rw [here]; rfl)
      exact accounted.relocate p.backoff (by rw [here]; rfl) rfl rfl (by simp [Receiver.receiving])
        (fun _ => idle) (Or.inl (accounted.abandoned_eq_nil (by simp [here]))) fun _ => cancelled
  | attempt here running =>
      have idle := accounted.quiet (by rw [here]; rfl)
      exact accounted.relocate p.backoff (by rw [here]; rfl) rfl rfl (by simp [Receiver.receiving])
        (fun _ => idle) (Or.inl (accounted.abandoned_eq_nil (by simp [here]))) (by simp)
  | connect here =>
      have idle := accounted.quiet (by rw [here]; rfl)
      have kept := accounted.abandoned_eq_nil (by simp [here])
      exact (accounted.happens rfl).relocate p.backoff (congrArg Receiver.held here) rfl rfl
        (by simp [Receiver.receiving]) (fun _ => idle) (Or.inl kept) (by simp)
  | fail here err =>
      have idle := accounted.quiet (by rw [here]; rfl)
      have kept := accounted.abandoned_eq_nil (by simp [here])
      exact (accounted.happens rfl).relocate p.backoff (congrArg Receiver.held here) rfl rfl
        (by simp [Receiver.receiving]) (fun _ => idle) (Or.inl kept) (by simp)
  | replayed here m reply =>
      have idle := accounted.quiet (by rw [here]; rfl)
      have empty := accounted.drained idle
      have after : Accounted rt s (p.happen rt (.replayed m reply)) := accounted.happens rfl
      have depth := accounted.queueLen_eq_zero idle (congrArg Receiver.held here)
      refine { after with messages := ?_, depth := ?_, active := ?_, quiet := ?_, drained := ?_,
                          given_up := ?_, cancelled := ?_ }
      · exact after.messages.trans (by simp only [inFlight, happen, idle, here]; rfl)
      · simp only [happen, depth, empty]
        rfl
      · exact fun _ => by simp
      · simp [Receiver.subscribed]
      · simp
      · exact Or.inl (accounted.abandoned_eq_nil (by simp [here]))
      · simp
  | close here cancelled =>
      have busy := accounted.active (by rw [here]; rfl)
      exact accounted.relocate p.backoff (by rw [here]; rfl) rfl rfl (by simp [Receiver.receiving])
        (by simp [Receiver.subscribed]) (Or.inl (accounted.abandoned_eq_nil (by simp [here])))
        fun _ => cancelled
  | next here running =>
      have busy := accounted.active (by rw [here]; rfl)
      exact accounted.relocate p.backoff (by rw [here]; rfl) rfl rfl (fun _ => busy)
        (by simp [Receiver.subscribed]) (Or.inl (accounted.abandoned_eq_nil (by simp [here])))
        (by simp)
  | received here frames =>
      have kept := accounted.abandoned_eq_nil (by simp [here])
      have busy := accounted.active (by rw [here]; rfl)
      refine { accounted with messages := ?_, depth := ?_, active := fun _ => busy, quiet := ?_,
                              given_up := Or.inl kept, cancelled := ?_ }
      · have messages := accounted.messages
        rw [kept, List.append_nil, inFlight, here] at messages
        simp only [messages, kept, inFlight, Receiver.held, List.append_nil, List.append_assoc]
        rfl
      · have depth := accounted.depth
        rw [here] at depth
        simp only [depth, Receiver.held, List.length_cons, List.length_nil]
        push_cast
        ring
      · simp [Receiver.subscribed]
      · simp
  | lost here err =>
      have busy := accounted.active (by rw [here]; rfl)
      exact accounted.relocate p.backoff (by rw [here]; rfl) rfl rfl (by simp [Receiver.receiving])
        (by simp [Receiver.subscribed]) (Or.inl (accounted.abandoned_eq_nil (by simp [here])))
        (by simp)
  | @enqueue frames here room =>
      have kept := accounted.abandoned_eq_nil (by simp [here])
      have busy := accounted.active (by rw [here]; rfl)
      refine { accounted with messages := ?_, bounded := ?_, depth := ?_, active := fun _ => busy,
                              quiet := ?_, drained := fun idle => absurd idle busy,
                              given_up := Or.inl kept, cancelled := ?_ }
      · have messages := accounted.messages
        rw [inFlight, here] at messages
        simp only [messages, inFlight, Receiver.held, List.append_nil, List.append_assoc]
        rfl
      · rw [List.length_append, List.length_singleton]
        exact room
      · have depth := accounted.depth
        rw [here] at depth
        simp only [depth, Receiver.held, List.length_cons, List.length_nil, List.length_append]
        push_cast
        ring
      · simp [Receiver.subscribed]
      · simp
  | @abandon frames here cancelled =>
      have kept := accounted.abandoned_eq_nil (by simp [here])
      refine { accounted with messages := ?_, depth := ?_, active := ?_, quiet := ?_,
                              given_up := ?_, cancelled := fun _ => cancelled }
      · have messages := accounted.messages
        rw [kept, List.append_nil, inFlight, here] at messages
        simp only [messages, kept, inFlight, Receiver.held, List.append_nil, List.append_assoc]
        rfl
      · have depth := accounted.depth
        rw [here] at depth
        simp only [depth, Receiver.held, List.length_cons, List.length_nil]
        push_cast
        ring
      · simp [Receiver.receiving]
      · simp [Receiver.subscribed]
      · exact Or.inr ⟨by simp [kept], Or.inl rfl⟩
  | finished here idle =>
      have held : p.receiver.held = [] := by rw [here]; rfl
      exact accounted.relocate p.backoff held rfl (accounted.queueLen_eq_zero idle held).symm
        (by simp [Receiver.receiving]) (fun _ => idle)
        (accounted.given_up.imp_right fun both => ⟨both.1, Or.inr rfl⟩)
        fun _ => accounted.cancelled (Or.inl here)
  | disconnected here idle =>
      have held : p.receiver.held = [] := by rw [here]; rfl
      have kept := accounted.abandoned_eq_nil (by simp [here])
      exact (accounted.happens rfl).relocate p.backoff held rfl
        (accounted.queueLen_eq_zero idle held).symm (by simp [Receiver.receiving]) (fun _ => idle)
        (Or.inl kept) (by simp)
  | wake here backoff =>
      have idle := accounted.quiet (by rw [here]; rfl)
      exact accounted.relocate backoff (by rw [here]; rfl) rfl rfl (by simp [Receiver.receiving])
        (fun _ => idle) (Or.inl (accounted.abandoned_eq_nil (by simp [here]))) (by simp)
  | stopSleeping here cancelled =>
      have idle := accounted.quiet (by rw [here]; rfl)
      exact accounted.relocate p.backoff (by rw [here]; rfl) rfl rfl (by simp [Receiver.receiving])
        (fun _ => idle) (Or.inl (accounted.abandoned_eq_nil (by simp [here]))) fun _ => cancelled
  | @take here frames queue first =>
      refine accounted.reapply (by simp [here]) (by simp) ?_ ?_ ?_
      · rw [here, first]
        rfl
      · rw [first]
        exact Nat.le_succ _
      · rw [here, first, List.length_cons]
        simp only [Applier.uncounted]
        push_cast
        ring
  | @count frames here =>
      refine accounted.reapply (by simp [here]) (by simp) ?_ le_rfl ?_
      · rw [here]
        rfl
      · rw [here]
        simp only [Applier.uncounted]
        push_cast
        ring
  | crash here m => exact { accounted with }
  | @handle frames here m =>
      have busy : p.applier ≠ .idle := by simp [here]
      refine { accounted with
        state := accounted.happen_state (.message m frames)
        messages := ?_
        depth := ?_
        active := fun _ => by simp
        quiet := fun outside => absurd (accounted.quiet outside) busy
        drained := by simp }
      · have messages := accounted.messages
        rw [inFlight, here] at messages
        simpa [inFlight, handled, happen, Applier.held, Happening.frames] using messages
      · have depth := accounted.depth
        rw [here] at depth
        exact depth
  | @finish result here empty closed =>
      refine { accounted with messages := ?_, depth := ?_, active := ?_, quiet := fun _ => rfl,
                              drained := fun _ => empty }
      · have messages := accounted.messages
        rw [inFlight, here] at messages
        exact messages
      · have depth := accounted.depth
        rw [here] at depth
        exact depth
      · intro receiving
        rw [closed] at receiving
        cases receiving

/-- Whatever the schedule, every message is accounted for. -/
theorem of_exec {acts : List PipelineStep}
    (run : Guarded.exec (Pipeline.step rt) (Pipeline.start s) acts = some p) : Accounted rt s p :=
  Guarded.exec_invariant (fun _ _ _ accounted enabled => step accounted (moves_of_step enabled).2)
    (start rt s) run

end Accounted

theorem received_exec {rt : Runtime} {p p' : Pipeline} {acts : List PipelineStep}
    (run : Guarded.exec (Pipeline.step rt) p acts = some p') :
    p'.received = p.received ++ acts.filterMap PipelineStep.message := by
  induction acts generalizing p with
  | nil =>
      cases run
      simp
  | cons act acts ih =>
      obtain ⟨next, now, later⟩ := Guarded.exec_cons_eq_some.mp run
      have moves := (moves_of_step now).2
      have first : next.received = p.received ++ act.message.toList := by
        cases moves <;> simp [PipelineStep.message, happen]
      rw [ih later, first, List.filterMap_cons, List.append_assoc]
      cases act.message <;> rfl

/-- The pipeline handles what it receives, in order, and loses nothing: after every schedule
its state is that of a listener to which the history happened, and the messages received are
those of the history, then those in flight, then at most one that was given up when the
context was cancelled. Outside a subscription nothing is in flight. The reported depth
exceeds the capacity of the queue by two at most. -/
theorem pipeline_in_order (rt : Runtime) (s : State) {acts : List PipelineStep} {p : Pipeline}
    (run : Guarded.exec (Pipeline.step rt) (start s) acts = some p) :
    p.state = Run.run (perform rt) s p.history ∧
      acts.filterMap PipelineStep.message = p.handled ++ p.inFlight ++ p.abandoned ∧
      p.abandoned.length ≤ 1 ∧ (p.abandoned ≠ [] → p.cancelled = true) ∧
      (p.receiver.subscribed = false → p.inFlight = []) ∧
      p.queueLen = p.queue.length + p.receiver.held.length + p.applier.uncounted ∧
      p.queueLen ≤ applyQueueSize + 2 := by
  have accounted := Accounted.of_exec run
  have received := received_exec run
  have atMost : p.receiver.held.length ≤ 1 ∧ p.applier.uncounted ≤ 1 := by
    constructor
    · cases p.receiver <;> simp [Receiver.held]
    · cases p.applier <;> simp [Applier.uncounted]
  refine ⟨accounted.state, ?_, ?_, fun some => ?_, accounted.inFlight_eq_nil, accounted.depth, ?_⟩
  · rw [← accounted.messages, received]
    rfl
  · rcases accounted.given_up with none | ⟨one, -⟩
    · simp [none]
    · exact one.le
  · exact accounted.cancelled (accounted.given_up.resolve_left some).2
  · have bounded := accounted.bounded
    rw [accounted.depth]
    omega

/-! A listener that is stopped while one message is in the queue and the next on its way. -/

def newState : State := ⟨{ engineID := "w", model := "m", replayEndpoint := "" }, ∅, []⟩

def untilStop : List PipelineStep :=
  let still : Moment := ⟨none, 0, fun _ => 0, fun _ => 0⟩
  [.attempt, .dialed none, .replayed (fun _ => still) (.dial ""), .next, .received (.ok [[1]]),
    .enqueue, .next, .received (.ok [[2]]), .cancel]

def afterStop : List PipelineStep :=
  [.take, .abandon, .count, .handle ⟨none, 0, fun _ => 0, fun _ => 0⟩, .finish, .drained]

/-- The first message is handled, the second given up. -/
theorem stopped_in_order : ∃ p,
    Guarded.exec (step (tableRuntime [])) (start newState) (untilStop ++ afterStop) = some p ∧
      p.handled = [[[1]]] ∧ [[[1]], [[2]]] = p.handled ++ p.inFlight ++ p.abandoned := by
  refine ⟨_, rfl, rfl, ?_⟩
  exact (@pipeline_in_order (tableRuntime []) newState (untilStop ++ afterStop) _ rfl).2.1

/-! ### Stopping -/

/-- `run` has returned, or the program has panicked. -/
def Halted (p : Pipeline) : Prop := p.crashed = true ∨ p.receiver = .done

/-- How far the goroutines are from halting, once the context is cancelled. -/
def stepsLeft (p : Pipeline) : Nat :=
  if p.crashed then 0
  else 10 * p.receiver.stepsLeft + 4 * p.receiver.held.length + 3 * p.queue.length +
    p.applier.stepsLeft

theorem stepsLeft_step {rt : Runtime} {p p' : Pipeline} {act : PipelineStep}
    (cancelled : p.cancelled = true) (enabled : p.step rt act = some p') :
    p'.stepsLeft + (if act.own then 1 else 0) ≤ p.stepsLeft := by
  obtain ⟨running, moves⟩ := moves_of_step enabled
  unfold stepsLeft
  rw [running]
  cases moves
  -- neither loop goes round again
  case attempt here notCancelled =>
      rw [cancelled] at notCancelled
      cases notCancelled
  case next here notCancelled =>
      rw [cancelled] at notCancelled
      cases notCancelled
  -- the message moves on
  case received here frames =>
      simp only [here, running, Receiver.stepsLeft, Receiver.held, List.length_cons,
        List.length_nil, PipelineStep.own,
        Bool.false_eq_true, if_false, if_true]
      omega
  case enqueue frames here room =>
      simp only [here, running, Receiver.stepsLeft, Receiver.held, List.length_append,
        List.length_cons, List.length_nil, PipelineStep.own,
        Bool.false_eq_true, if_false, if_true]
      omega
  case take here frames queue first =>
      simp only [here, first, running, Applier.stepsLeft, List.length_cons, PipelineStep.own,
        Bool.false_eq_true, if_false, if_true]
      omega
  -- a goroutine is somewhere else
  all_goals
    simp_all [PipelineStep.own, happen, Receiver.stepsLeft, Receiver.held, Applier.stepsLeft]
  all_goals omega

/-- Until the goroutines have halted, one of them can move, if what it asks of the network
returns: the queue is full only while the applier works it off, and the receiver waits for
the applier only as long as it runs. -/
theorem exists_own_step {rt : Runtime} {s : State} {p : Pipeline} (accounted : Accounted rt s p)
    (runs : ¬ p.Halted) : ∃ act, PipelineStep.own act = true ∧ (p.step rt act).isSome := by
  have running : p.crashed = false := by
    cases crashed : p.crashed with
    | true => exact absurd (Or.inl crashed) runs
    | false => rfl
  have moment : Moment := ⟨none, 0, fun _ => 0, fun _ => 0⟩
  -- an applier that is not idle can move, unless it waits for a message
  have apply : p.applier ≠ .idle → (p.applier = .ready → p.queue ≠ []) →
      ∃ act, PipelineStep.own act = true ∧ (p.step rt act).isSome := by
    intro busy fed
    cases here : p.applier with
    | idle => exact absurd here busy
    | ready =>
        obtain ⟨frames, queue, first⟩ := List.exists_cons_of_ne_nil (fed here)
        exact ⟨.take, rfl, by simp [step, running, here, first]⟩
    | taken frames => exact ⟨.count, rfl, by simp [step, running, here]⟩
    | counted frames =>
        refine ⟨.handle moment, rfl, ?_⟩
        simp only [step, running, here]
        cases handleFrames rt moment p.state frames <;> simp
  cases here : p.receiver with
  | attempt => exact ⟨.attempt, rfl, by simp [step, running, here]⟩
  | dial => exact ⟨.dialed none, rfl, by simp [step, running, here]⟩
  | replay => exact ⟨.replayed (fun _ => moment) (.dial ""), rfl, by simp [step, running, here]⟩
  | loop => exact ⟨.next, rfl, by simp [step, running, here]⟩
  | recv => exact ⟨.received (.error ""), rfl, by simp [step, running, here]⟩
  | send frames =>
      by_cases room : p.queue.length < applyQueueSize
      · exact ⟨.enqueue, rfl, by simp [step, running, here, room]⟩
      · refine apply (accounted.active (by rw [here]; rfl)) fun _ empty => room ?_
        rw [empty]
        exact Nat.zero_lt_succ _
  | drain result =>
      by_cases idle : p.applier = .idle
      · cases result with
        | none => exact ⟨.drained, rfl, by simp [step, running, here, idle]⟩
        | some err => exact ⟨.drained, rfl, by simp [step, running, here, idle]⟩
      · by_cases waits : p.applier = .ready ∧ p.queue = []
        · exact ⟨.finish, rfl, by simp [step, running, here, waits.1, waits.2]⟩
        · exact apply idle fun ready empty => waits ⟨ready, empty⟩
  | sleep => exact ⟨.wake, rfl, by simp [step, running, here]⟩
  | done => exact absurd (Or.inr here) runs

/-- After `Stop` the goroutines halt: whatever the schedule and whatever the socket returns,
they take a bounded number of steps, and can take one until `run` has returned. By then every
message received was handled, but for the one that may have been given up. -/
theorem stop_halts (rt : Runtime) (s : State) {acts : List PipelineStep} {p : Pipeline}
    (run : Guarded.exec (Pipeline.step rt) (start s) acts = some p) (cancelled : p.cancelled = true)
    {later : List PipelineStep} {p' : Pipeline}
    (continued : Guarded.exec (Pipeline.step rt) p later = some p') :
    later.countP PipelineStep.own ≤ p.stepsLeft ∧
      (¬ p'.Halted → ∃ act, PipelineStep.own act = true ∧ (p'.step rt act).isSome) ∧
      (p'.receiver = .done → p'.received = p'.handled ++ p'.abandoned ∧
        p'.abandoned.length ≤ 1 ∧ p'.queueLen = 0) := by
  have whole : Guarded.exec (Pipeline.step rt) (start s) (acts ++ later) = some p' :=
    Guarded.exec_append_eq_some.mpr ⟨p, run, continued⟩
  have accounted := Accounted.of_exec whole
  have stays : ∀ (q : Pipeline) act q', q.cancelled = true → q.step rt act = some q' →
      q'.cancelled = true := by
    intro q act q' cancelled enabled
    cases (moves_of_step enabled).2 <;> first | exact cancelled | rfl
  have bound : later.countP PipelineStep.own + p'.stepsLeft ≤ p.stepsLeft :=
    Guarded.countP_le_of_variant stays
      (fun q act q' cancelled enabled => stepsLeft_step cancelled enabled) cancelled continued
  refine ⟨by omega, exists_own_step accounted, fun done => ?_⟩
  have outside : p'.receiver.subscribed = false := by rw [done]; rfl
  have held : p'.receiver.held = [] := by rw [done]; rfl
  refine ⟨?_, (pipeline_in_order rt s whole).2.2.1,
    accounted.queueLen_eq_zero (accounted.quiet outside) held⟩
  rw [accounted.messages, accounted.inFlight_eq_nil outside, List.append_nil]

/-- The listener as it is when the context is cancelled. -/
def cancelledListener : Pipeline :=
  (Guarded.exec (step (tableRuntime [])) (start newState) untilStop).getD (start newState)

theorem stopped_halts : ∃ p,
    Guarded.exec (step (tableRuntime [])) cancelledListener afterStop = some p ∧
      afterStop.countP PipelineStep.own ≤ cancelledListener.stepsLeft ∧
      p.received = p.handled ++ p.abandoned := by
  have run : Guarded.exec (step (tableRuntime [])) (start newState) untilStop =
      some cancelledListener := rfl
  have halts := fun p (continued : Guarded.exec (step (tableRuntime [])) cancelledListener
    afterStop = some p) => stop_halts (tableRuntime []) newState run rfl continued
  exact ⟨_, rfl, (halts _ rfl).1, ((halts _ rfl).2.2 rfl).1⟩

end Pipeline

end KvIndexer.KvEvents
