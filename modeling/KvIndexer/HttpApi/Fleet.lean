import KvIndexer.HttpApi.Delivery
import KvIndexer.HttpApi.Mirrored
import KvIndexer.KvEvents.Changes
import KvIndexer.KvEvents.Redelivery

/-!
From the engines over the network into the index.

Every engine changes its cache, and publishes what it changed in numbered batches. A listener
of its own receives them, with broken connections and replays in between (`Stream`). The
listeners share the index and lock it for one event at a time, so that their events interleave
(`EventStep`).

A stream whose reconnects are all covered applies the batches in order, each once
(`Stream.InOrder`). So the index has every engine as its cache was after some of its changes,
and as it is once the stream is fresh and has caught up (`fleet_in_step`): an engine is never
seen in a state that it was not in, whatever the others do.
-/

namespace KvIndexer.HttpApi

open Residency KvEvents Config Interleave

namespace Stream

variable {rt : Runtime} {res : Resolved} {topic : List UInt8} {p : Stream rt} {k : ℕ}

/-! ### Batches in order -/

/-- The listener has tracked batches `0` to `k - 1`, and no gap. -/
structure Numbered (l : Listener) (k : ℕ) : Prop where
  noGaps : l.gaps = 0
  hasSeq : l.hasSeq = decide (0 < k)
  lastSeq : 0 < k → l.lastSeq = k - 1

theorem Numbered.congr {l l' : Listener} (numbered : Numbered l k)
    (same : l'.seqState = l.seqState) : Numbered l' k := by
  simp only [Listener.seqState, Prod.mk.injEq] at same
  obtain ⟨has, last, gaps⟩ := same
  exact ⟨gaps.trans numbered.noGaps, has.trans numbered.hasSeq, fun some_ =>
    last.trans (numbered.lastSeq some_)⟩

theorem Numbered.trackSeq {l : Listener} (numbered : Numbered l k) :
    Numbered (l.trackSeq k) (k + 1) := by
  have new : ¬ (l.hasSeq = true ∧ (k : Int) ≤ l.lastSeq) := by
    rintro ⟨has, old⟩
    rw [numbered.hasSeq, decide_eq_true_eq] at has
    have last := numbered.lastSeq has
    omega
  have next : ¬ (l.hasSeq = true ∧ (k : Int) > l.lastSeq + 1) := by
    rintro ⟨has, skips⟩
    rw [numbered.hasSeq, decide_eq_true_eq] at has
    have last := numbered.lastSeq has
    omega
  rw [Listener.trackSeq, if_neg new, if_neg next]
  exact ⟨numbered.noGaps, (decide_eq_true (Nat.succ_pos k)).symm, fun _ => by push_cast; omega⟩

/-- What is asked for is the next batch. -/
theorem Numbered.nextReplaySeq {l : Listener} (numbered : Numbered l k) (small : k < 2 ^ 63) :
    l.nextReplaySeq = k := by
  rw [Listener.nextReplaySeq, numbered.hasSeq]
  by_cases some_ : 0 < k
  · have last := numbered.lastSeq some_
    have number : UInt64.ofInt (l.lastSeq + 1) = UInt64.ofNat k := by
      have unsigned : UInt64.ofInt k = UInt64.ofNat ((k : Int) % (2 ^ 64 : ℕ)).toNat := rfl
      rw [last, sub_add_cancel, unsigned, Int.emod_eq_of_lt (by omega) (by omega),
        Int.toNat_natCast]
    rw [decide_eq_true some_, number, int64_ofNat_of_lt small]
    rfl
  · obtain rfl := Nat.eq_zero_of_not_pos some_
    rfl

/-- The batches `0` to `k - 1` are applied, and those published since are on the way, in order,
if the listener is connected. -/
structure InOrder (p : Stream rt) (k : ℕ) : Prop where
  known : k ≤ p.published.length
  numbers : p.applied.map Prod.fst = List.range k
  batches : ∀ entry ∈ p.applied,
    payloadBatch rt (UInt64.ofNat entry.1) (p.payload entry.1) = some entry.2.2
  numbered : Numbered p.receiver.listener k
  onWay : p.receiver.listener.connected = true →
    p.pending ++ p.inFlight = List.range' k (p.published.length - k)

theorem inOrder_start (engineID model replayEndpoint : String) (indexes : Manager) :
    InOrder (start rt engineID model replayEndpoint indexes) 0 where
  known := Nat.zero_le _
  numbers := rfl
  batches entry member := absurd member List.not_mem_nil
  numbered := ⟨rfl, rfl, fun some_ => absurd some_ (lt_irrefl 0)⟩
  onWay up := by cases up

namespace InOrder

/-- The next batch is applied. -/
theorem apply (inOrder : InOrder p k) (wf : WellFormed p) (inRange : k < p.published.length)
    (clock : Clock) {p' : Stream rt} (published : p'.published = p.published)
    (receiver : p'.receiver =
      applyPayload rt ⟨some res, clock⟩ p.receiver (UInt64.ofNat k) (p.payload k))
    (applied : p'.applied = p.note clock k)
    (onWay : p'.receiver.listener.connected = true →
      p'.pending ++ p'.inFlight = List.range' (k + 1) (p.published.length - (k + 1))) :
    InOrder p' (k + 1) := by
  have found : p.payload k = p.published[k].val := by
    rw [payload, List.getElem?_eq_getElem inRange]
  have same : ∀ n, p'.payload n = p.payload n := fun n => by rw [payload, payload, published]
  have decodes := p.published[k].property
  obtain ⟨batch, holds⟩ := exists_payloadBatch decodes (UInt64.ofNat k)
  have noted : p'.applied = p.applied ++ [(k, clock, batch)] := by
    rw [applied, note, found, holds]
  refine ⟨published ▸ inRange, ?_, ?_, ?_, ?_⟩
  · rw [noted, List.map_append, inOrder.numbers, List.range_succ]
    rfl
  · intro entry member
    rw [same]
    rw [noted] at member
    rcases List.mem_append.mp member with before | now
    · exact inOrder.batches entry before
    · obtain rfl := List.mem_singleton.mp now
      rw [found]
      exact holds
  · refine inOrder.numbered.trackSeq.congr ?_
    have small : k < 2 ^ 63 := lt_of_lt_of_le inRange wf.bounded
    rw [receiver, found, seqState_applyPayload decodes, int64_ofNat_of_lt small]
  · rw [published]
    exact onWay

theorem publish (inOrder : InOrder p k) (payload : Payload rt) :
    InOrder (p.step res topic (.publish payload)) k := by
  have known := inOrder.known
  rw [step]
  split
  · refine ⟨?_, inOrder.numbers, fun entry member => ?_, inOrder.numbered, fun up => ?_⟩
    · rw [List.length_append]
      exact Nat.le_add_right_of_le known
    · have old : entry.1 < p.published.length := by
        have number : entry.1 ∈ p.applied.map Prod.fst := List.mem_map_of_mem member
        rw [inOrder.numbers, List.mem_range] at number
        exact lt_of_lt_of_le number known
      rw [← inOrder.batches entry member]
      simp only [Stream.payload, List.getElem?_append_left old]
    · dsimp only at up ⊢
      have rest : p.published.length + 1 - k = (p.published.length - k) + 1 := by omega
      have last : k + (p.published.length - k) = p.published.length := by omega
      rw [if_pos up, List.length_append, List.length_singleton, rest, List.range'_concat, one_mul,
        last, ← inOrder.onWay up, List.append_assoc]
      rfl
  · exact inOrder

/-- The first batch on the way is the next one. -/
theorem next (inOrder : InOrder p k) (wf : WellFormed p) {n : ℕ} {rest : List ℕ}
    (first : p.pending ++ p.inFlight = n :: rest) :
    n = k ∧ rest = List.range' (k + 1) (p.published.length - (k + 1)) := by
  have up : p.receiver.listener.connected = true := by
    by_contra down
    obtain ⟨noReplay, quiet⟩ := wf.idle (Bool.eq_false_of_not_eq_true down)
    rw [pending, noReplay, quiet] at first
    cases first
  rw [inOrder.onWay up] at first
  obtain ⟨m, many⟩ : ∃ m, p.published.length - k = m + 1 := by
    refine Nat.exists_eq_add_one.mpr (Nat.pos_of_ne_zero fun none_ => ?_)
    rw [none_] at first
    cases first
  rw [many, List.range'_succ] at first
  obtain ⟨here, later⟩ := List.cons.inj first
  refine ⟨here.symm, later.symm.trans ?_⟩
  congr 1
  omega

theorem deliver (inOrder : InOrder p k) (wf : WellFormed p) (clock : Clock) :
    ∃ k', InOrder (p.step res topic (.deliver clock)) k' := by
  rcases step_deliver res topic wf clock with
    ⟨n, inFlight, noReplay, onWay, inRange, result⟩ | same
  · have first : p.pending ++ p.inFlight = n :: inFlight := by
      rw [pending, noReplay, onWay]
      rfl
    obtain ⟨rfl, rest⟩ := inOrder.next wf first
    rw [result]
    refine ⟨n + 1, inOrder.apply wf inRange clock rfl rfl rfl fun _ => ?_⟩
    rw [pending, noReplay]
    exact rest
  · rw [same]
    exact ⟨k, inOrder⟩

theorem replayRecv (inOrder : InOrder p k) (wf : WellFormed p) (clock : Clock) :
    ∃ k', InOrder (p.step res topic (.replayRecv clock)) k' := by
  rcases step_replayRecv res topic wf clock with
    ⟨n, rest, fault, replaying, inRange, result⟩ | ⟨fault, replaying, result⟩ | same
  · have first : p.pending ++ p.inFlight = n :: (rest ++ p.inFlight) := by
      rw [pending, replaying]
      rfl
    obtain ⟨rfl, later⟩ := inOrder.next wf first
    rw [result]
    exact ⟨n + 1, inOrder.apply wf inRange clock rfl rfl rfl fun _ => later⟩
  · rw [result]
    refine ⟨k, inOrder.known, inOrder.numbers, inOrder.batches, ?_, fun up => ?_⟩
    · cases fault with
      | none => exact inOrder.numbered
      | some err => exact inOrder.numbered.congr rfl
    · have before : p.receiver.listener.connected = true := by
        cases fault with
        | none => exact up
        | some err => exact up
      have order := inOrder.onWay before
      rw [pending, replaying] at order
      exact order
  · rw [same]
    exact ⟨k, inOrder⟩

theorem disconnect (inOrder : InOrder p k) (err : String) :
    InOrder (p.step res topic (.disconnect err)) k := by
  rw [step]
  split
  · exact ⟨inOrder.known, inOrder.numbers, inOrder.batches, inOrder.numbered.congr rfl,
      fun up => by cases up⟩
  · exact inOrder

/-- A replay that covers what was missed brings just that. -/
theorem replayed_eq (inOrder : InOrder p k) (bounded : p.published.length < 2 ^ 63) {held cut : ℕ}
    (covered : ∀ n < p.published.length, n ∈ p.applied.map Prod.fst ∨ n ∈ p.replayed held cut) :
    p.replayed held cut = List.range' k (p.published.length - k) := by
  have known := inOrder.known
  have asked : int64 (bigEndianUint64 p.receiver.listener.replayRequest) = k := by
    rw [Listener.int64_replayRequest,
      inOrder.numbered.nextReplaySeq (lt_of_le_of_lt known bounded)]
  have part : (p.replayed held cut).Sublist ((List.range p.published.length).filter
      fun n => decide (k ≤ n)) := by
    rw [replayed]
    split
    · exact List.nil_sublist _
    · refine (List.take_sublist _ _).trans (List.monotone_filter_right _ fun n keeps => ?_)
      rw [decide_eq_true_eq, asked] at keeps
      rw [decide_eq_true_eq]
      exact_mod_cast keeps.1
  have sorted : (p.replayed held cut).Pairwise (· < ·) :=
    (List.pairwise_lt_range.sublist List.filter_sublist).sublist part
  have same : ∀ n, n ∈ p.replayed held cut ↔ n ∈ List.range' k (p.published.length - k) := by
    intro n
    rw [List.mem_range'_1]
    constructor
    · intro brought
      obtain ⟨inRange, low⟩ := List.mem_filter.mp (part.subset brought)
      rw [List.mem_range] at inRange
      rw [decide_eq_true_eq] at low
      omega
    · rintro ⟨low, high⟩
      refine (covered n (by omega)).resolve_left fun done => ?_
      rw [inOrder.numbers, List.mem_range] at done
      omega
  have perm := (List.perm_ext_iff_of_nodup sorted.nodup List.nodup_range').mpr same
  refine perm.eq_of_pairwise (fun n m _ _ low high => ?_) sorted List.pairwise_lt_range'
  exact absurd low (lt_asymm high)

theorem connect (inOrder : InOrder p k) (wf : WellFormed p)
    (bounded : p.published.length < 2 ^ 63) {held cut : ℕ} {fault : Option String}
    (covers : Covers p (.connect held cut fault)) :
    InOrder (p.step res topic (.connect held cut fault)) k := by
  cases up : p.receiver.listener.connected with
  | true =>
      rw [step, if_pos up]
      exact inOrder
  | false =>
      obtain ⟨replay, brings, result⟩ := step_connect res topic held cut fault up
      rw [result]
      refine ⟨inOrder.known, inOrder.numbers, inOrder.batches, inOrder.numbered.congr rfl,
        fun _ => ?_⟩
      show pending { p with replay } ++ p.inFlight = _
      rw [brings, (wf.idle up).2, List.append_nil]
      exact inOrder.replayed_eq bounded (covers up inOrder.numbered.noGaps)

end InOrder

/-- A connection brings back what was missed, and the numbers are not used up. -/
def Steady (p : Stream rt) (a : Action rt) : Prop :=
  Covers p a ∧ p.published.length < 2 ^ 63

/-- In a steady run every stream state has its batches in order. -/
theorem inOrder_run {engineID model replayEndpoint : String} {indexes : Manager}
    {actions : List (Action rt)}
    (steady : Run.EachStep (step res topic) Steady
      (start rt engineID model replayEndpoint indexes) actions) :
    let p := Run.run (step res topic) (start rt engineID model replayEndpoint indexes) actions
    WellFormed p ∧ ∃ k, InOrder p k := by
  have kept : ∀ (p : Stream rt) (a : Action rt), Steady p a → (WellFormed p ∧ ∃ k, InOrder p k) →
      WellFormed (p.step res topic a) ∧ ∃ k, InOrder (p.step res topic a) k := by
    rintro p a ⟨covers, bounded⟩ ⟨wf, k, inOrder⟩
    refine ⟨wellFormed_step wf a, ?_⟩
    cases a with
    | publish payload => exact ⟨k, inOrder.publish payload⟩
    | deliver clock => exact inOrder.deliver wf clock
    | connect held cut fault => exact ⟨k, inOrder.connect wf bounded covers⟩
    | replayRecv clock => exact inOrder.replayRecv wf clock
    | disconnect err => exact ⟨k, inOrder.disconnect err⟩
  exact Run.run_invariant kept ⟨wellFormed_start engineID model replayEndpoint indexes, 0,
    inOrder_start engineID model replayEndpoint indexes⟩ steady

/-! ### What was applied -/

/-- The events of a payload, each with the dp rank of the batch. -/
def told (rt : Runtime) (payload : List UInt8) : List (Int × Event) :=
  match payloadBatch rt 0 payload with
  | some batch => batch.events.map (Prod.mk batch.dpRank)
  | none => []

/-- The number of a batch does not change its events. -/
theorem told_eq {seq : UInt64} {payload : List UInt8} {batch : Batch}
    (holds : payloadBatch rt seq payload = some batch) :
    told rt payload = batch.events.map (Prod.mk batch.dpRank) := by
  unfold payloadBatch at holds
  cases unpacked : rt.unmarshal payload with
  | error err =>
      rw [unpacked] at holds
      cases holds
  | ok fields =>
      rw [unpacked] at holds
      dsimp only at holds
      rw [decodeBatch_seq seq] at holds
      rw [told, payloadBatch, unpacked]
      dsimp only
      cases decoded : decodeBatch rt.sprint 0 fields with
      | error err =>
          rw [decoded] at holds
          cases holds
      | ok first =>
          rw [decoded] at holds
          obtain rfl := Option.some.inj holds
          rfl

/-- The passes of the `ingest` loop for the applied batches. -/
def passes (e : String) (res : Resolved) (p : Stream rt) : List EventStep :=
  p.applied.flatMap fun entry =>
    eventSteps e res entry.2.2.dpRank entry.2.1.stamp 0 entry.2.2.events

theorem map_eventSteps (e : String) (res : Resolved) (dpRank : Int) (stamp : Nat → Int) (i : Nat)
    (events : List Event) :
    (eventSteps e res dpRank stamp i events).map EventStep.told =
      events.map (Prod.mk dpRank) := by
  induction events generalizing i with
  | nil => rfl
  | cons ev events ih =>
      rw [eventSteps, List.map_cons, ih, List.map_cons]
      rfl

theorem of_mem_eventSteps {e : String} {res : Resolved} {dpRank : Int} {stamp : Nat → Int}
    {i : Nat} {events : List Event} {pass : EventStep}
    (member : pass ∈ eventSteps e res dpRank stamp i events) :
    pass.engineID = e ∧ pass.res = res := by
  induction events generalizing i with
  | nil => cases member
  | cons ev events ih =>
      rcases List.mem_cons.mp member with rfl | later
      · exact ⟨rfl, rfl⟩
      · exact ih later

theorem of_mem_passes {e : String} {pass : EventStep} (member : pass ∈ p.passes e res) :
    pass.engineID = e ∧ pass.res = res := by
  obtain ⟨entry, -, inBatch⟩ := List.mem_flatMap.mp member
  exact of_mem_eventSteps inBatch

/-- The passes are about the events of the first batches. -/
theorem InOrder.map_passes (inOrder : InOrder p k) (e : String) (res : Resolved) :
    (p.passes e res).map EventStep.told =
      (p.published.take k).flatMap fun payload => told rt payload.val := by
  have batch : ∀ entry ∈ p.applied, (eventSteps e res entry.2.2.dpRank entry.2.1.stamp 0
      entry.2.2.events).map EventStep.told = told rt (p.payload entry.1) := by
    intro entry member
    rw [map_eventSteps, told_eq (inOrder.batches entry member)]
  have first : (p.published.take k).map Subtype.val = (List.range k).map p.payload := by
    refine List.ext_getElem ?_ fun n low _ => ?_
    · rw [List.length_map, List.length_map, List.length_range, List.length_take,
        min_eq_left inOrder.known]
    · have inRange : n < p.published.length := by
        rw [List.length_map, List.length_take] at low
        exact lt_of_lt_of_le low (min_le_right _ _)
      rw [List.getElem_map, List.getElem_map, List.getElem_range, List.getElem_take, payload,
        List.getElem?_eq_getElem inRange]
  have applied : p.applied.map (fun entry => told rt (p.payload entry.1)) =
      (List.range k).map fun n => told rt (p.payload n) := by
    rw [← inOrder.numbers, List.map_map]
    rfl
  rw [passes, List.map_flatMap, List.flatMap_def, List.map_congr_left batch, applied,
    List.flatMap_def]
  have published := congrArg (List.map (told rt)) first
  rw [List.map_map, List.map_map] at published
  exact congrArg List.flatten published.symm

/-- For a listener alone, the passes are what happened to the indexes. -/
theorem index_passes {e : String} {indexes : Manager} (noted : Noted res e indexes p)
    (ns : String) :
    p.receiver.indexes.index ns =
      (Run.run (EventStep.perform rt) indexes (p.passes e res)).index ns := by
  have alike : ∀ (pass : EventStep) (a b : Manager), (∀ ns, a.index ns = b.index ns) →
      ∀ ns, (pass.perform rt a).index ns = (pass.perform rt b).index ns := by
    intro pass a b same ns
    rw [EventStep.perform, EventStep.perform, Manager.index_insert, Manager.index_insert, same,
      same]
  have alikeRun : ∀ (schedule : List EventStep) (a b : Manager), (∀ ns, a.index ns = b.index ns) →
      ∀ ns, (Run.run (EventStep.perform rt) a schedule).index ns =
        (Run.run (EventStep.perform rt) b schedule).index ns := by
    intro schedule
    induction schedule with
    | nil => exact fun a b same => same
    | cons pass schedule ih => exact fun a b same => ih _ _ (alike pass a b same)
  have batches : ∀ (entries : List (Nat × Clock × Batch)) (indexes : Manager) (ns : String),
      (Run.run (ingestNoted rt res e) indexes entries).index ns =
        (Run.run (EventStep.perform rt) indexes (entries.flatMap fun entry =>
          eventSteps e res entry.2.2.dpRank entry.2.1.stamp 0 entry.2.2.events)).index ns := by
    intro entries
    induction entries with
    | nil => exact fun indexes ns => rfl
    | cons entry entries ih =>
        intro indexes ns
        -- one batch is one call of `ingest`, whose passes `index_ingest` knows
        have call : ∀ ns, (ingestNoted rt res e indexes entry).index ns =
            (Run.run (EventStep.perform rt) indexes
              (eventSteps e res entry.2.2.dpRank entry.2.1.stamp 0 entry.2.2.events)).index ns := by
          intro ns
          have loop := @index_ingest rt ⟨some res, entry.2.1⟩ res rfl
            ⟨{ engineID := e, model := "", replayEndpoint := "" }, indexes, []⟩ entry.2.2 ns
          rw [ingest_indexes rfl] at loop
          exact loop
        rw [Run.run_cons, ih, List.flatMap_cons, Run.run_append]
        exact alikeRun _ _ _ call ns
  rw [noted.indexes]
  exact batches p.applied indexes ns

end Stream

/-! ### Engines -/

/-- What an engine's cache gives a prompt depends on that cache alone. -/
theorem hitOfCaches_of (s : Caches) (blockSize : Int) (prompt : List Path) (e : String) :
    hitOfCaches (s.of e) blockSize prompt e = hitOfCaches s blockSize prompt e := by
  unfold hitOfCaches
  simp only [Caches.run_of, Caches.hasIn_of]

/-- An engine's life: what happened on its stream, and to its cache. -/
structure Life (rt : Runtime) where
  res : Resolved
  model : String
  replayEndpoint : String
  topic : List UInt8
  actions : List (Action rt)
  changes : List Change

namespace Life

variable {rt : Runtime}

/-- The stream after the actions. -/
def stream (life : Life rt) (e : String) : Stream rt :=
  Run.run (Stream.step life.res life.topic)
    (Stream.start rt e life.model life.replayEndpoint ∅) life.actions

/-- The cache after the first `n` changes. -/
def cacheAfter (life : Life rt) (e : String) (n : ℕ) : Caches :=
  Run.run (Change.perform rt e) ∅ (life.changes.take n)

/-- With the indexes to itself, the listener has made the passes of its stream. -/
theorem index_stream (life : Life rt) (e ns : String) :
    (life.stream e).receiver.indexes.index ns =
      (Run.run (EventStep.perform rt) ∅ ((life.stream e).passes e life.res)).index ns :=
  Stream.index_passes (Stream.noted_run e life.model life.replayEndpoint ∅ life.actions) ns

/-- Reconnects bring back what was missed. What an engine of the namespace publishes are its
changes, in order, and they are truthful. -/
structure Honest (life : Life rt) (h : Hashing) (e : String) : Prop where
  steady : Run.EachStep (Stream.step life.res life.topic) Stream.Steady
    (Stream.start rt e life.model life.replayEndpoint ∅) life.actions
  told : life.res.ns = h.ns → life.changes.map Change.told =
    (life.stream e).published.flatMap fun payload => Stream.told rt payload.val
  seed : life.res.ns = h.ns → life.res.seed = h.seed
  truthful : life.res.ns = h.ns →
    Run.EachStep (Change.perform rt e) (Change.Truthful rt h e life.res) ∅ life.changes

theorem Honest.inOrder {life : Life rt} {h : Hashing} {e : String} (honest : life.Honest h e) :
    ∃ k, (life.stream e).InOrder k :=
  (Stream.inOrder_run honest.steady).2

/-- What was applied are the first changes. -/
theorem Honest.prefix_told {life : Life rt} {h : Hashing} {e : String} (honest : life.Honest h e)
    (here : life.res.ns = h.ns) :
    ((life.stream e).passes e life.res).map EventStep.told <+: life.changes.map Change.told := by
  obtain ⟨k, inOrder⟩ := honest.inOrder
  have passes := inOrder.map_passes e life.res
  rw [honest.told here]
  refine passes ▸ ?_
  exact (List.take_prefix k _).flatMap _

/-- A fresh stream with nothing on the way has applied them all. -/
theorem Honest.map_told {life : Life rt} {h : Hashing} {e : String} (honest : life.Honest h e)
    (here : life.res.ns = h.ns) (isFresh : (life.stream e).fresh = true)
    (noReplay : (life.stream e).pending = []) (quiet : (life.stream e).inFlight = []) :
    ((life.stream e).passes e life.res).map EventStep.told = life.changes.map Change.told := by
  obtain ⟨k, inOrder⟩ := honest.inOrder
  have up := (Listener.trusted_iff.mp (Stream.fresh_iff.mp isFresh)).1
  have rest := inOrder.onWay up
  rw [noReplay, quiet, List.append_nil, eq_comm, List.range'_eq_nil_iff] at rest
  rw [inOrder.map_passes, honest.told here, List.take_of_length_le (by omega)]

end Life

def storedHashing : Hashing where
  ns := "m/1"
  seed := 9
  blockSize := 1
  positive := by decide
  hash _ p := UInt64.ofNat p.length
  inPlay := {[[5]]}
  hash_injOn _ := Set.injOn_singleton _ _
  key_injOn := Set.injOn_singleton _ _

def storedAway : Payload twoBatchRuntime := ⟨storePayload, _, _, rfl, rfl⟩

def stillClock : Clock := ⟨0, fun _ => 0, fun _ => 0⟩

def storedLife : Life twoBatchRuntime where
  res := ⟨"m/1", 9, 16⟩
  model := "m"
  replayEndpoint := "tcp://a:5558"
  topic := []
  actions := [.publish storedAway, .connect 1 1 none, .replayRecv stillClock,
    .replayRecv stillClock]
  changes := [⟨0, { kind := .blockStored, blockHashes := [1], tokenIDs := [5], blockSize := 1 },
    .store [] [[5]]⟩]

/-- An engine of another namespace, of which nothing has been heard. -/
def silentLife (rt : Runtime) : Life rt where
  res := ⟨"", 0, 1⟩
  model := ""
  replayEndpoint := ""
  topic := []
  actions := []
  changes := []

def storedFleet (e : String) : Life twoBatchRuntime :=
  if e = "a" then storedLife else silentLife twoBatchRuntime

theorem honest_storedLife : Life.Honest storedLife storedHashing "a" where
  steady := by
    refine ⟨⟨trivial, by decide +kernel⟩, ⟨fun _ _ n inRange => Or.inr ?_, by decide +kernel⟩,
      ⟨trivial, by decide +kernel⟩, ⟨trivial, by decide +kernel⟩, trivial⟩
    have first : n = 0 := Nat.lt_one_iff.mp inRange
    rw [first]
    decide +kernel
  told _ := by
    decide +kernel
  seed _ := rfl
  truthful _ := ⟨⟨by decide, ⟨⟨rfl, by decide, rfl, rfl⟩, by decide, by decide, rfl, rfl,
    fun other => absurd rfl other⟩, by
      have named : ∀ p ∈ CacheOp.named (.store [] [[5]]), p = [[5]] := by decide
      exact named⟩, trivial⟩

theorem honest_storedFleet (e : String) : (storedFleet e).Honest storedHashing e := by
  by_cases same : e = "a"
  · subst same
    exact honest_storedLife
  · rw [storedFleet, if_neg same]
    have elsewhere : (silentLife twoBatchRuntime).res.ns ≠ storedHashing.ns := by decide
    exact ⟨trivial, fun here => absurd here elsewhere, fun here => absurd here elsewhere,
      fun here => absurd here elsewhere⟩

end KvIndexer.HttpApi
