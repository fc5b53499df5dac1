import KvIndexer.HttpApi.RecentEvents
import KvIndexer.Lib.Channel
import KvIndexer.Lib.Guarded
import KvIndexer.Lib.Recent

/-!
The live event stream (`internal/httpapi/service.go`, `internal/httpapi/kv_event_handlers.go`).

`RecordKVEvent` keeps an event in the ring and offers it to every subscriber, both under one
lock; a subscriber whose channel is full misses it. Each subscriber has a
handler that writes what it receives to its response. `subscribers_in_order` is about any
interleaving of the listeners that record and the handlers that come, write and go: a
response has the events recorded since the handler subscribed, in order, each at most once,
and all of them unless the handler once had 256 waiting.
-/

namespace KvIndexer.HttpApi

open KvEvents

/-- The capacity of a subscriber's channel. -/
def kvSubCap : Nat := 256

/-- One event of the stream; `encode` is the JSON of the event. -/
def streamFrame (encode : RecordedEvent → String) (ev : RecordedEvent) : String :=
  "data: " ++ encode ev ++ "\n" ++ "\n"

/-- A subscriber: its channel, and the response its handler writes. -/
structure Subscriber where
  channel : Channel RecordedEvent := {}
  body : String := "retry: 2000\n\n"
  /-- how many events had been recorded when it subscribed -/
  since : Nat

/-- What `RecordKVEvent` shares with the handlers. A channel is a number. -/
structure Hub where
  kvEvents : List RecordedEvent := []
  kvSubs : GoMap Nat Subscriber := ∅
  /-- the subscribers whose channels are closed, and how many events had been recorded then -/
  closed : GoMap Nat (Subscriber × Nat) := ∅
  /-- the events recorded, in the order in which they got the lock -/
  recorded : List RecordedEvent := []

inductive HubStep where
  | record (rec : RecordedEvent)
  /-- a handler subscribes with a new channel -/
  | subscribe (ch : Nat)
  /-- a handler receives an event and writes it -/
  | write (ch : Nat)
  /-- a handler returns: its request is over, or writing failed -/
  | unsubscribe (ch : Nat)

namespace Hub

section Steps

variable (encode : RecordedEvent → String)

/-- `RecordKVEvent` -/
def record (hub : Hub) (rec : RecordedEvent) : Hub :=
  { hub with
    kvEvents := recordKVEvent hub.kvEvents rec
    kvSubs := GoMap.updateEach hub.kvSubs.keys
      (fun _ sub => sub.map fun sub => { sub with channel := sub.channel.trySend kvSubCap rec })
      hub.kvSubs
    recorded := hub.recorded ++ [rec] }

def step (hub : Hub) : HubStep → Option Hub
  | .record rec => some (hub.record rec)
  | .subscribe ch =>
      if ch ∈ hub.kvSubs ∨ ch ∈ hub.closed then none
      else some { hub with kvSubs := hub.kvSubs.insert ch { since := hub.recorded.length } }
  | .write ch =>
      match hub.kvSubs.lookup ch with
      | none => none
      | some sub =>
          sub.channel.recv.map fun taken =>
            { hub with
              kvSubs := hub.kvSubs.insert ch
                { sub with
                  channel := taken.2
                  body := sub.body ++ streamFrame encode taken.1 } }
  | .unsubscribe ch =>
      (hub.kvSubs.lookup ch).map fun sub =>
        { hub with
          kvSubs := hub.kvSubs.erase ch
          closed := hub.closed.insert ch (sub, hub.recorded.length) }

end Steps

theorem recorded_record (hub : Hub) (rec : RecordedEvent) :
    (hub.record rec).recorded = hub.recorded ++ [rec] := by
  simp only [Hub.record]

theorem kvEvents_recorded (hub : Hub) (rec : RecordedEvent) :
    (hub.record rec).kvEvents = recordKVEvent hub.kvEvents rec := by
  simp only [Hub.record]

theorem closed_record (hub : Hub) (rec : RecordedEvent) : (hub.record rec).closed = hub.closed := by
  simp only [Hub.record]

theorem length_recorded_le (hub : Hub) (rec : RecordedEvent) :
    hub.recorded.length ≤ (hub.record rec).recorded.length := by
  rw [recorded_record, List.length_append]
  exact Nat.le_add_right _ _

theorem lookup_record (hub : Hub) (rec : RecordedEvent) (ch : Nat) :
    (hub.record rec).kvSubs.lookup ch =
      (hub.kvSubs.lookup ch).map fun sub =>
        { sub with channel := sub.channel.trySend kvSubCap rec } := by
  rw [record, GoMap.lookup_updateEach]
  split
  · rfl
  · rename_i absent
    rw [Finmap.lookup_eq_none.mpr (mt Finmap.mem_keys.mpr absent)]
    rfl

/-! ### What a subscriber has seen -/

/-- The subscriber was offered the events `window`, and its response has what it received. -/
structure Sees (encode : RecordedEvent → String) (sub : Subscriber)
    (window : List RecordedEvent) : Prop where
  consistent : sub.channel.Consistent kvSubCap
  offered : sub.channel.offered = window
  body : sub.body =
    "retry: 2000\n\n" ++ String.join (sub.channel.received.map (streamFrame encode))

/-- The ring holds the last events, and every subscriber was offered what was recorded while
it was subscribed. A closed channel is never sent to. -/
structure Faithful (encode : RecordedEvent → String) (hub : Hub) : Prop where
  ring : hub.kvEvents = hub.recorded.rtake kvCap
  subscribed : ∀ ch sub, hub.kvSubs.lookup ch = some sub →
    Sees encode sub (hub.recorded.drop sub.since) ∧ sub.since ≤ hub.recorded.length
  closed : ∀ ch sub n, hub.closed.lookup ch = some (sub, n) →
    Sees encode sub ((hub.recorded.take n).drop sub.since) ∧ n ≤ hub.recorded.length
  apart : ∀ ch, ch ∈ hub.kvSubs → ch ∉ hub.closed

variable {encode : RecordedEvent → String} {hub hub' : Hub}

theorem Sees.record {sub : Subscriber} {window : List RecordedEvent} (sees : Sees encode sub window)
    (rec : RecordedEvent) :
    Sees encode { sub with channel := sub.channel.trySend kvSubCap rec } (window ++ [rec]) where
  consistent := sees.consistent.trySend rec
  offered := by rw [Channel.offered_trySend, sees.offered]
  body := by
    have received : (sub.channel.trySend kvSubCap rec).received = sub.channel.received := by
      unfold Channel.trySend
      split <;> rfl
    rw [received]
    exact sees.body

theorem Sees.write {sub : Subscriber} {window : List RecordedEvent} (sees : Sees encode sub window)
    {ev : RecordedEvent} {channel : Channel RecordedEvent}
    (taken : sub.channel.recv = some (ev, channel)) :
    Sees encode { sub with channel, body := sub.body ++ streamFrame encode ev } window := by
  obtain ⟨-, received, offered, -⟩ := Channel.recv_eq_some taken
  refine ⟨sees.consistent.recv taken, offered.trans sees.offered, ?_⟩
  rw [received, sees.body, List.map_append, List.map_singleton, String.join_append,
    ← String.append_assoc]
  simp

theorem Faithful.start (encode : RecordedEvent → String) : Faithful encode {} where
  ring := rfl
  subscribed ch sub found := by simp at found
  closed ch sub n found := by simp at found
  apart ch member := absurd member Finmap.notMem_empty

theorem Faithful.record (faithful : Faithful encode hub) (rec : RecordedEvent) :
    Faithful encode (hub.record rec) where
  ring := by
    rw [recorded_record, kvEvents_recorded, faithful.ring]
    exact keepLast_rtake kvCap hub.recorded rec
  subscribed ch sub found := by
    rw [lookup_record] at found
    obtain ⟨before, here, rfl⟩ := Option.map_eq_some_iff.mp found
    obtain ⟨sees, early⟩ := faithful.subscribed ch before here
    refine ⟨?_, Nat.le_trans early (hub.length_recorded_le rec)⟩
    have window : (hub.record rec).recorded.drop before.since =
        hub.recorded.drop before.since ++ [rec] := by
      rw [recorded_record, List.drop_append_of_le_length early]
    rw [window]
    exact sees.record rec
  closed ch sub n found := by
    rw [closed_record] at found
    obtain ⟨sees, early⟩ := faithful.closed ch sub n found
    refine ⟨?_, Nat.le_trans early (hub.length_recorded_le rec)⟩
    rw [recorded_record, List.take_append_of_le_length early]
    exact sees
  apart ch member := by
    rw [closed_record]
    refine faithful.apart ch (Finmap.lookup_isSome.mp ?_)
    have present := Finmap.lookup_isSome.mpr member
    rwa [lookup_record, Option.isSome_map] at present

/-- The subscriber of one channel changes, and no channel is closed. -/
theorem Faithful.insert (faithful : Faithful encode hub) {ch : Nat} {sub : Subscriber}
    (sees : Sees encode sub (hub.recorded.drop sub.since)) (early : sub.since ≤ hub.recorded.length)
    (opened : ch ∉ hub.closed) :
    Faithful encode { hub with kvSubs := hub.kvSubs.insert ch sub } where
  ring := faithful.ring
  subscribed ch' sub' found := by
    rw [GoMap.lookup_insert_eq] at found
    split at found
    · cases found
      exact ⟨sees, early⟩
    · exact faithful.subscribed ch' sub' found
  closed := faithful.closed
  apart ch' member := by
    rcases Finmap.mem_insert.mp member with rfl | before
    · exact opened
    · exact faithful.apart ch' before

theorem Faithful.step (faithful : Faithful encode hub) {act : HubStep}
    (enabled : hub.step encode act = some hub') : Faithful encode hub' := by
  cases act with
  | record rec =>
      obtain rfl := Option.some.inj enabled
      exact faithful.record rec
  | subscribe ch =>
      dsimp only [Hub.step] at enabled
      split at enabled
      · cases enabled
      · rename_i fresh
        cases enabled
        refine faithful.insert ⟨Channel.consistent_new, ?_, rfl⟩ (Nat.le_refl _)
          fun closed => fresh (Or.inr closed)
        exact List.drop_length.symm
  | write ch =>
      dsimp only [Hub.step] at enabled
      cases found : hub.kvSubs.lookup ch with
      | none =>
          rw [found] at enabled
          cases enabled
      | some sub =>
          rw [found] at enabled
          obtain ⟨⟨ev, channel⟩, taken, rfl⟩ := Option.map_eq_some_iff.mp enabled
          obtain ⟨sees, early⟩ := faithful.subscribed ch sub found
          have present : ch ∈ hub.kvSubs := Finmap.mem_of_lookup_eq_some found
          exact faithful.insert (sees.write taken) early (faithful.apart ch present)
  | unsubscribe ch =>
      obtain ⟨sub, found, rfl⟩ := Option.map_eq_some_iff.mp enabled
      obtain ⟨sees, early⟩ := faithful.subscribed ch sub found
      refine ⟨faithful.ring, fun ch' sub' found' => ?_, fun ch' sub' n found' => ?_,
        fun ch' member => ?_⟩
      · rw [GoMap.lookup_erase_eq] at found'
        split at found'
        · cases found'
        · exact faithful.subscribed ch' sub' found'
      · rw [GoMap.lookup_insert_eq] at found'
        split at found'
        · cases found'
          rw [List.take_length]
          exact ⟨sees, Nat.le_refl _⟩
        · exact faithful.closed ch' sub' n found'
      · obtain ⟨other, before⟩ := Finmap.mem_erase.mp member
        rw [Finmap.mem_insert]
        rintro (same | closed)
        · exact other same
        · exact faithful.apart ch' before closed

/-- Of the events in the window the subscriber has received or still has waiting some, in
order, and all of them exactly when its channel was never full; its response has those it
received. -/
structure Delivers (encode : RecordedEvent → String) (sub : Subscriber)
    (window : List RecordedEvent) : Prop where
  ordered : (sub.channel.received ++ sub.channel.buffer).Sublist window
  complete : sub.channel.received ++ sub.channel.buffer = window ↔ sub.channel.refused = []
  count : sub.channel.received.length + sub.channel.buffer.length + sub.channel.refused.length =
    window.length
  pending : sub.channel.buffer.length ≤ kvSubCap
  body : sub.body =
    "retry: 2000\n\n" ++ String.join (sub.channel.received.map (streamFrame encode))

theorem Sees.delivers {sub : Subscriber} {window : List RecordedEvent}
    (sees : Sees encode sub window) : Delivers encode sub window := by
  have count := sees.consistent.count
  have ordered := sees.consistent.accepted
  have complete := sees.consistent.accepted_eq_offered_iff
  rw [sees.offered] at count ordered complete
  rw [Channel.accepted, List.length_append] at count
  exact ⟨ordered, complete, count, sees.consistent.bounded, sees.body⟩

/-- The event a step records. -/
def recordedBy : HubStep → Option RecordedEvent
  | .record rec => some rec
  | _ => none

theorem recorded_exec {acts : List HubStep}
    (run : Guarded.exec (Hub.step encode) hub acts = some hub') :
    hub'.recorded = hub.recorded ++ acts.filterMap recordedBy := by
  induction acts generalizing hub with
  | nil =>
      cases run
      simp
  | cons act acts ih =>
      obtain ⟨next, now, later⟩ := Guarded.exec_cons_eq_some.mp run
      rw [ih later, List.filterMap_cons]
      cases act with
      | record rec =>
          obtain rfl := Option.some.inj now
          rw [recorded_record, List.append_assoc]
          rfl
      | subscribe ch =>
          dsimp only [Hub.step] at now
          split at now
          · cases now
          · cases now
            rfl
      | write ch =>
          dsimp only [Hub.step] at now
          split at now
          · cases now
          · obtain ⟨taken, -, rfl⟩ := Option.map_eq_some_iff.mp now
            rfl
      | unsubscribe ch =>
          obtain ⟨sub, -, rfl⟩ := Option.map_eq_some_iff.mp now
          rfl

/-- Whatever the interleaving of listeners and handlers, each subscriber was delivered the
events recorded while it was subscribed, the ring holds the last events, and no event is sent
to a closed channel. -/
theorem subscribers_in_order (encode : RecordedEvent → String) {acts : List HubStep} {hub : Hub}
    (run : Guarded.exec (Hub.step encode) {} acts = some hub) :
    hub.recorded = acts.filterMap recordedBy ∧ hub.kvEvents = hub.recorded.rtake kvCap ∧
      (∀ ch sub, hub.kvSubs.lookup ch = some sub →
        ch ∉ hub.closed ∧ Delivers encode sub (hub.recorded.drop sub.since)) ∧
      ∀ ch sub n, hub.closed.lookup ch = some (sub, n) →
        Delivers encode sub ((hub.recorded.take n).drop sub.since) := by
  have faithful : Faithful encode hub :=
    Guarded.exec_invariant (fun _ _ _ kept enabled => Faithful.step kept enabled)
      (Faithful.start encode) run
  refine ⟨recorded_exec run, faithful.ring, fun ch sub found => ?_, fun ch sub n found => ?_⟩
  · exact ⟨faithful.apart ch (Finmap.mem_of_lookup_eq_some found),
      (faithful.subscribed ch sub found).1.delivers⟩
  · exact (faithful.closed ch sub n found).1.delivers

/-! A handler that comes after the first event, and goes after it has written the second. -/

def briefHandler : List HubStep :=
  [.record ⟨0, clearedEvent⟩, .subscribe 0, .record ⟨1, clearedEvent⟩, .write 0, .unsubscribe 0,
    .record ⟨2, clearedEvent⟩]

theorem brief_delivered : ∃ hub sub,
    Guarded.exec (Hub.step fun _ => "1") {} briefHandler = some hub ∧
      hub.closed.lookup 0 = some (sub, 2) ∧
      sub.channel.received.length + sub.channel.buffer.length + sub.channel.refused.length = 1 := by
  have closed : ((Guarded.exec (Hub.step fun _ => "1") {} briefHandler).bind fun hub =>
      (hub.closed.lookup 0).map fun entry => (entry.1.since, entry.2)) = some (1, 2) := by
    decide +kernel
  obtain ⟨hub, run, found⟩ := Option.bind_eq_some_iff.mp closed
  obtain ⟨⟨sub, n⟩, here, times⟩ := Option.map_eq_some_iff.mp found
  obtain ⟨since, rfl⟩ := Prod.mk.inj times
  obtain ⟨recorded, -, -, delivered⟩ := subscribers_in_order (fun _ => "1") run
  refine ⟨hub, sub, run, here, ?_⟩
  rw [(delivered 0 sub 2 here).count, recorded, since]
  rfl

end Hub

end KvIndexer.HttpApi
