import KvIndexer.KvEvents.Decode
import KvIndexer.Residency.History

/-!
Applying a decoded batch to the residency index (`Listener.ingest`,
`internal/kvevents/listener.go`).

`ingestEvent` is the loop body: what one event does to the index, and what is
recorded about it. The resolver's answer is an argument, since the profile store
decides it at the moment of the call, and so are the clock readings. `Runtime`
stands for what the listener takes from its libraries: the msgpack codec, the
default print format and the case tables of Unicode.
-/

namespace KvIndexer.KvEvents

open Residency

/-- Library functions the listener calls. -/
structure Runtime where
  /-- `msgpack.Unmarshal` into `[]any` -/
  unmarshal : List UInt8 → Except String (List Any)
  /-- `fmt.Sprint` -/
  sprint : Any → String
  /-- `unicode.ToLower` -/
  lower : Char → Char
  /-- `unicode.ToUpper` -/
  upper : Char → Char

/-- A runtime for payloads listed in a table, with the case mapping of ASCII. -/
def tableRuntime (payloads : List (List UInt8 × List Any)) : Runtime where
  unmarshal bytes :=
    match payloads.lookup bytes with
    | some fields => .ok fields
    | none => .error "msgpack: unknown payload"
  sprint _ := ""
  lower := Char.toLower
  upper := Char.toUpper

/-- What `ResolveIngest` reports when the model resolves to a profile. -/
structure Resolved where
  ns : String
  seed : UInt64
  blockSize : Int
deriving DecidableEq, Repr

/-- Clock readings of one `ingest` call: the one at its start, the ones the index
takes for event `i`, and the ones the event records take. -/
structure Clock where
  nano : Int
  stamp : Nat → Int
  observed : Nat → Int

/-- What an `ingest` call reads from outside: the resolver's answer and the clock. -/
structure Moment where
  resolved : Option Resolved
  clock : Clock

/-- A moment at which the resolver answers `res` and the clock stands still. -/
def stillMoment (res : Resolved) : Moment := ⟨some res, ⟨0, fun _ => 0, fun _ => 0⟩⟩

/-- The persistence shape of a received event. An unset optional is `none`; hashes
are printed in decimal. -/
structure KVEventRecord where
  observedAt : Int
  engineID : String
  model : String
  ns : String
  seq : String
  batchTS : UInt64
  dpRank : Int
  kind : String
  blockHashes : List String
  parentHash : String
  tokenIDs : List Int32
  nestedTokenIDs : Bool
  blockSize : Int
  medium : String
  tier : String
  loraID : Option Int
  loraName : String
  extraKeys : List String
  extraKeyCount : Nat
  groupIdx : Int
  specKind : String
  slidingWindow : Int
  requestKeys : List String
  indexed : Bool
  skipReason : String
deriving DecidableEq, Repr

/-- Listener of one engine's event stream. Counters are unbounded. -/
structure Listener where
  engineID : String
  model : String
  replayEndpoint : String
  connected : Bool := false
  lastSeq : Int := 0
  hasSeq : Bool := false
  lastEvent : Int := 0
  events : Nat := 0
  gaps : Nat := 0
  decErrs : Nat := 0
  skipped : Nat := 0
  lastErr : String := ""
deriving DecidableEq, Repr

/-! ### One event -/

section Event

variable (rt : Runtime)

/-- `strings.ToLower` -/
def Runtime.toLower (s : String) : String := String.ofList (s.toList.map rt.lower)

/-- `strings.ToUpper` -/
def Runtime.toUpper (s : String) : String := String.ofList (s.toList.map rt.upper)

/-- The group kind has per-block prefix-cacheable attention KV. -/
def ingestableSpecKind (kind : String) : Bool :=
  rt.toLower kind ∉ ["mamba", "mamba2", "linear_attention", "short_conv"]

def mediumToTier (medium : String) : String :=
  let m := rt.toUpper medium
  if m = "" ∨ m = "GPU" then tierGPU
  else if m = "CPU" ∨ m = "CPU_PINNED" then tierCPU
  else if m = "DISK" ∨ m = "EXTERNAL" then tierDisk
  else rt.toLower medium

def hasUnsupportedFeatureKeys (ev : Event) : Bool :=
  ev.hasExtraKeys || ev.hasLoraID || ev.loraName ≠ ""

/-- The request keys of the event's tokens, chained from the parent block's request
key or, without a parent, from the namespace seed. `none`: the parent is declared
but not known. -/
def requestKeysForEvent (ix : Index) (engineID : String) (seed : UInt64) (blockSize : Int)
    (ev : Event) : Option (List RequestKey) :=
  if ev.hasParent then
    match ix.lookupBridge engineID ev.parentHash with
    | none => none
    | some rk => some (requestKeysFromTokens rk ev.tokenIDs blockSize)
  else some (requestKeysFromTokens seed ev.tokenIDs blockSize)

/-- What one event did: the index after it, whether it counts as skipped, and what
its record says. -/
structure Outcome where
  ix : Index
  skipped : Bool := false
  tier : String := ""
  requestKeys : List RequestKey := []
  indexed : Bool
  skipReason : String := ""
deriving DecidableEq

/-- The loop body of `ingest`. -/
def ingestEvent (engineID : String) (res : Resolved) (dpRank : Int) (ts : Int) (ix : Index)
    (ev : Event) : Outcome :=
  match ev.kind with
  | .blockStored =>
      if !ingestableSpecKind rt ev.specKind then
        { ix, indexed := false, skipReason := "non_ingestable_spec_kind" }
      else if ev.hasNestedTokenIDs then
        { ix, indexed := false, skipReason := "unsupported_nested_token_ids" }
      else if hasUnsupportedFeatureKeys ev then
        { ix, indexed := false, skipReason := "unsupported_hash_extra_keys" }
      else
        let tier := mediumToTier rt ev.medium
        if ev.tokenIDs.length = 0 ∧ 0 < ev.blockHashes.length then
          match ix.storeEventByEngineKeys engineID dpRank tier ev.blockHashes ts with
          | (ix, none) =>
              { ix, skipped := true, tier, indexed := false, skipReason := "unresolved_engine_key" }
          | (ix, some requestKeys) => { ix, tier, requestKeys, indexed := true }
        else
          let bs := if ev.blockSize ≤ 0 then res.blockSize else ev.blockSize
          match requestKeysForEvent ix engineID res.seed bs ev with
          | none =>
              { ix, skipped := true, tier, indexed := false, skipReason := "unresolved_parent" }
          | some requestKeys =>
              if requestKeys.length = 0 then
                { ix, skipped := true, tier, indexed := false, skipReason := "no_full_token_block" }
              else
                { ix := ix.storeEvent engineID dpRank tier ev.blockHashes requestKeys ts
                  tier, requestKeys, indexed := true }
  | .blockRemoved =>
      let tier := mediumToTier rt ev.medium
      { ix := ix.removeEvent engineID dpRank tier ev.blockHashes, tier, indexed := true }
  | .allBlocksCleared => { ix := ix.clearEngine engineID "", indexed := true }

/-! ### One batch -/

/-- `strconv.FormatUint(v, 10)` -/
def formatUint (v : UInt64) : String := Nat.repr v.toNat

/-- The record of an event; `ns`, `tier`, `requestKeys`, `indexed` and `skipReason`
are what the branch that handled it reports. -/
def recordEvent (l : Listener) (batch : Batch) (observedAt : Int) (ev : Event) (ns tier : String)
    (requestKeys : List RequestKey) (indexed : Bool) (skipReason : String) : KVEventRecord where
  observedAt := observedAt
  engineID := l.engineID
  model := l.model
  ns := ns
  seq := formatUint batch.seq
  batchTS := batch.ts
  dpRank := batch.dpRank
  kind := ev.kind.tag
  blockHashes := ev.blockHashes.map formatUint
  parentHash := if ev.hasParent then formatUint ev.parentHash else ""
  tokenIDs := ev.tokenIDs
  nestedTokenIDs := ev.hasNestedTokenIDs
  blockSize := ev.blockSize
  medium := ev.medium
  tier := tier
  loraID := if ev.hasLoraID then some ev.loraID else none
  loraName := ev.loraName
  extraKeys := ev.extraKeys
  extraKeyCount := ev.extraKeyCount
  groupIdx := ev.groupIdx
  specKind := ev.specKind
  slidingWindow := if ev.hasSlidingWindow then ev.slidingWindow else 0
  requestKeys := requestKeys.map formatUint
  indexed := indexed
  skipReason := skipReason

/-- What a listener reads and writes: itself, the indexes and the event sink. -/
structure State where
  listener : Listener
  indexes : Manager
  sink : List KVEventRecord := []

/-- The loop of `ingest`, from event number `i` on. -/
def ingestLoop (l : Listener) (res : Resolved) (batch : Batch) (clock : Clock) :
    Nat → Index × Nat × List KVEventRecord → List Event → Index × Nat × List KVEventRecord
  | _, acc, [] => acc
  | i, (ix, skipped, sink), ev :: events =>
      let out := ingestEvent rt l.engineID res batch.dpRank (clock.stamp i) ix ev
      let record := recordEvent l batch (clock.observed i) ev res.ns out.tier out.requestKeys
        out.indexed out.skipReason
      ingestLoop l res batch clock (i + 1)
        (out.ix, if out.skipped then skipped + 1 else skipped, sink ++ [record]) events

/-- Apply a batch to the index the resolver names. Without an index the events are
recorded and dropped. -/
def ingest (m : Moment) (s : State) (batch : Batch) : State :=
  let l := s.listener
  match m.resolved with
  | none =>
      let records := batch.events.mapIdx fun i ev =>
        recordEvent l batch (m.clock.observed i) ev "" "" [] false "no_resolver"
      { s with
        listener := { l with events := l.events + batch.events.length, lastEvent := m.clock.nano }
        sink := s.sink ++ records }
  | some res =>
      let (ix, skipped, sink) :=
        ingestLoop rt l res batch m.clock 0 (s.indexes.index res.ns, l.skipped, s.sink) batch.events
      { listener :=
          { l with events := l.events + batch.events.length, lastEvent := m.clock.nano, skipped }
        indexes := s.indexes.insert res.ns ix
        sink }

/-! ### The index alone -/

/-- The operation an event calls on the index, if it calls one. -/
def eventOp (engineID : String) (res : Resolved) (dpRank : Int) (ts : Int) (ix : Index)
    (ev : Event) : Option Op :=
  match ev.kind with
  | .blockStored =>
      if !ingestableSpecKind rt ev.specKind || ev.hasNestedTokenIDs || hasUnsupportedFeatureKeys ev
      then none
      else
        let tier := mediumToTier rt ev.medium
        if ev.tokenIDs.length = 0 ∧ 0 < ev.blockHashes.length then
          some (.storeEventByEngineKeys engineID dpRank tier ev.blockHashes ts)
        else
          let bs := if ev.blockSize ≤ 0 then res.blockSize else ev.blockSize
          (requestKeysForEvent ix engineID res.seed bs ev).map fun requestKeys =>
            .storeEvent engineID dpRank tier ev.blockHashes requestKeys ts
  | .blockRemoved =>
      some (.removeEvent engineID dpRank (mediumToTier rt ev.medium) ev.blockHashes)
  | .allBlocksCleared => some (.clearEngine engineID "")

/-- Every operation an event calls is its engine's own, and clears are whole. -/
theorem eventOp_own {engineID : String} {res : Resolved} {dpRank ts : Int} {ix : Index} {ev : Event}
    {op : Op} (called : eventOp rt engineID res dpRank ts ix ev = some op) :
    op.engineID = engineID ∧ op.wholeClear := by
  unfold eventOp at called
  cases kind : ev.kind with
  | blockStored =>
      simp only [kind] at called
      split at called
      · cases called
      · split at called
        · cases called
          exact ⟨rfl, trivial⟩
        · obtain ⟨rks, -, rfl⟩ := Option.map_eq_some_iff.mp called
          exact ⟨rfl, trivial⟩
  | blockRemoved =>
      simp only [kind] at called
      cases called
      exact ⟨rfl, trivial⟩
  | allBlocksCleared =>
      simp only [kind] at called
      cases called
      exact ⟨rfl, rfl⟩

/-- The index after an event is the index after the operation it calls. -/
theorem ingestEvent_ix (engineID : String) (res : Resolved) (dpRank ts : Int) (ix : Index)
    (ev : Event) :
    (ingestEvent rt engineID res dpRank ts ix ev).ix =
      match eventOp rt engineID res dpRank ts ix ev with
      | none => ix
      | some op => ix.apply op := by
  unfold ingestEvent eventOp
  cases kind : ev.kind with
  | blockRemoved => rfl
  | allBlocksCleared => rfl
  | blockStored =>
      dsimp only
      cases ingestable : ingestableSpecKind rt ev.specKind with
      | false => simp
      | true =>
          cases nested : ev.hasNestedTokenIDs with
          | true => simp
          | false =>
              cases features : hasUnsupportedFeatureKeys ev with
              | true => simp
              | false =>
                  simp only [Bool.not_true, Bool.or_false, Bool.false_eq_true, if_false]
                  split
                  · -- without tokens
                    dsimp only [Index.apply]
                    rcases Index.storeEventByEngineKeys_cases ix engineID dpRank
                      (mediumToTier rt ev.medium) ev.blockHashes ts with
                      ⟨rks, -, -, result⟩ | ⟨-, result⟩
                    · rw [result]
                    · rw [result]
                  · cases requestKeysForEvent ix engineID res.seed
                      (if ev.blockSize ≤ 0 then res.blockSize else ev.blockSize) ev with
                    | none => rfl
                    | some rks =>
                        dsimp only [Option.map_some, Index.apply]
                        split
                        · rename_i empty
                          simp [Index.storeEvent, empty]
                        · rfl

/-- The event is recorded as not indexed, and the index is as it was. -/
def Outcome.Unindexed (ix : Index) (out : Outcome) : Prop := out.indexed = false ∧ out.ix = ix

/-- The event names blocks and no tokens. -/
def Event.Tokenless (ev : Event) : Prop := ev.tokenIDs.length = 0 ∧ 0 < ev.blockHashes.length

/-- The block size of the event, or the profile's when it gives none. -/
def Event.effectiveBlockSize (res : Resolved) (ev : Event) : Int :=
  if ev.blockSize ≤ 0 then res.blockSize else ev.blockSize

/-- What became of a stored event: it is not indexed, or it has no unsupported feature and
its blocks are stored under the keys their hashes are bridged to, when it names no tokens,
or else under the keys of its tokens. -/
theorem ingestEvent_stored (engineID : String) (res : Resolved) (dpRank ts : Int) (ix : Index)
    {ev : Event} (stored : ev.kind = .blockStored) :
    (ingestEvent rt engineID res dpRank ts ix ev).Unindexed ix ∨
      (hasUnsupportedFeatureKeys ev = false ∧
        (ingestEvent rt engineID res dpRank ts ix ev).indexed = true ∧
        ((ev.Tokenless ∧ ∃ requestKeys,
            ix.storeEventByEngineKeys engineID dpRank (mediumToTier rt ev.medium) ev.blockHashes
              ts = ((ingestEvent rt engineID res dpRank ts ix ev).ix, some requestKeys)) ∨
          (¬ ev.Tokenless ∧ ∃ requestKeys,
            requestKeysForEvent ix engineID res.seed (ev.effectiveBlockSize res) ev =
              some requestKeys ∧
            (ingestEvent rt engineID res dpRank ts ix ev).ix =
              ix.storeEvent engineID dpRank (mediumToTier rt ev.medium) ev.blockHashes
                requestKeys ts))) := by
  unfold ingestEvent Event.effectiveBlockSize Event.Tokenless
  simp only [stored]
  cases ingestableSpecKind rt ev.specKind with
  | false => exact Or.inl ⟨rfl, rfl⟩
  | true =>
      cases ev.hasNestedTokenIDs with
      | true => exact Or.inl ⟨rfl, rfl⟩
      | false =>
          cases features : hasUnsupportedFeatureKeys ev with
          | true => exact Or.inl ⟨rfl, rfl⟩
          | false =>
              simp only [Bool.not_true, Bool.false_eq_true, if_false]
              by_cases tokenless : ev.tokenIDs.length = 0 ∧ 0 < ev.blockHashes.length
              · rw [if_pos tokenless]
                rcases Index.storeEventByEngineKeys_cases ix engineID dpRank
                  (mediumToTier rt ev.medium) ev.blockHashes ts with
                  ⟨rks, -, -, result⟩ | ⟨-, result⟩
                · rw [result]
                  exact Or.inr ⟨trivial, rfl, Or.inl ⟨tokenless, rks, rfl⟩⟩
                · rw [result]
                  exact Or.inl ⟨rfl, rfl⟩
              · rw [if_neg tokenless]
                cases keys : requestKeysForEvent ix engineID res.seed
                  (if ev.blockSize ≤ 0 then res.blockSize else ev.blockSize) ev with
                | none => exact Or.inl ⟨rfl, rfl⟩
                | some rks =>
                    dsimp only
                    split
                    · exact Or.inl ⟨rfl, rfl⟩
                    · exact Or.inr ⟨trivial, rfl, Or.inr ⟨tokenless, rks, rfl, rfl⟩⟩

/-- An event that is recorded as not indexed changed nothing. -/
theorem ingestEvent_unindexed {engineID : String} {res : Resolved} {dpRank ts : Int} {ix : Index}
    {ev : Event} (recorded : (ingestEvent rt engineID res dpRank ts ix ev).indexed = false) :
    (ingestEvent rt engineID res dpRank ts ix ev).ix = ix := by
  cases kind : ev.kind with
  | blockStored =>
      rcases ingestEvent_stored rt engineID res dpRank ts ix kind with ⟨-, kept⟩ | ⟨-, indexed, -⟩
      · exact kept
      · rw [indexed] at recorded
        cases recorded
  | blockRemoved => simp [ingestEvent, kind] at recorded
  | allBlocksCleared => simp [ingestEvent, kind] at recorded

/-- The part of the loop that touches the index. -/
def applyEvents (engineID : String) (res : Resolved) (dpRank : Int) (stamp : Nat → Int) :
    Nat → Index → List Event → Index
  | _, ix, [] => ix
  | i, ix, ev :: events =>
      applyEvents engineID res dpRank stamp (i + 1)
        (ingestEvent rt engineID res dpRank (stamp i) ix ev).ix events

theorem ingestLoop_index (l : Listener) (res : Resolved) (batch : Batch) (clock : Clock) (i : Nat)
    (acc : Index × Nat × List KVEventRecord) (events : List Event) :
    (ingestLoop rt l res batch clock i acc events).1 =
      applyEvents rt l.engineID res batch.dpRank clock.stamp i acc.1 events := by
  induction events generalizing i acc with
  | nil => rfl
  | cons ev events ih =>
      rw [ingestLoop, ih]
      rfl

variable {rt}

theorem ingest_indexes {m : Moment} {res : Resolved} (resolved : m.resolved = some res) (s : State)
    (batch : Batch) :
    (ingest rt m s batch).indexes =
      s.indexes.insert res.ns (applyEvents rt s.listener.engineID res batch.dpRank m.clock.stamp 0
        (s.indexes.index res.ns) batch.events) := by
  simp only [ingest, resolved]
  rw [← ingestLoop_index rt s.listener res batch m.clock 0
    (s.indexes.index res.ns, s.listener.skipped, s.sink)]

/-- Without an index to write to, a batch changes none. -/
theorem ingest_indexes_unresolved {m : Moment} (unresolved : m.resolved = none) (s : State)
    (batch : Batch) : (ingest rt m s batch).indexes = s.indexes := by
  simp only [ingest, unresolved]

/-- Ingesting a batch leaves the sequence state and the error counter alone. -/
theorem ingest_listener (m : Moment) (s : State) (batch : Batch) :
    (ingest rt m s batch).listener =
      { s.listener with
        events := s.listener.events + batch.events.length
        lastEvent := m.clock.nano
        skipped := (ingest rt m s batch).listener.skipped } := by
  unfold ingest
  cases m.resolved with
  | none => rfl
  | some res => rfl

end Event

end KvIndexer.KvEvents
