import KvIndexer.KvEvents.Ingest
import KvIndexer.Residency.Isolation

/-!
Ingest and query derive the same keys.

A query hashes a whole prompt from the namespace seed. Ingest sees the prompt in
pieces: each event carries the tokens of some blocks and continues from the request
key its parent hash is bridged to. `Ingested` is the invariant that ties the two
together while an engine's events arrive between those of other engines: the blocks
so far are held under the keys of the whole-prompt chain, and the last hash is
bridged to the end of that chain. `query_of_ingested_chain` concludes that the
query finds every full block.
-/

namespace KvIndexer.KvEvents

open Residency

/-! ### Events of several listeners -/

/-- One pass of the `ingest` loop: the event, and what the call it belongs to has
resolved. The index is locked for one operation at a time, so the passes of several
listeners interleave. -/
structure EventStep where
  engineID : String
  res : Resolved
  dpRank : Int
  ts : Int
  ev : Event

/-- The effect of a pass on the indexes, which the listeners share. -/
def EventStep.perform (rt : Runtime) (indexes : Manager) (step : EventStep) : Manager :=
  indexes.insert step.res.ns
    (ingestEvent rt step.engineID step.res step.dpRank step.ts (indexes.index step.res.ns)
      step.ev).ix

/-- The passes of one `ingest` call, from event number `i` on. -/
def eventSteps (engineID : String) (res : Resolved) (dpRank : Int) (stamp : Nat → Int) :
    Nat → List Event → List EventStep
  | _, [] => []
  | i, ev :: events =>
      ⟨engineID, res, dpRank, stamp i, ev⟩ :: eventSteps engineID res dpRank stamp (i + 1) events

section Frame

variable {rt : Runtime}

/-- An `ingest` call is the run of its passes. -/
theorem index_ingest {m : Moment} {res : Resolved} (resolved : m.resolved = some res) (s : State)
    (batch : Batch) (ns : String) :
    (ingest rt m s batch).indexes.index ns =
      (Run.run (EventStep.perform rt) s.indexes
        (eventSteps s.listener.engineID res batch.dpRank m.clock.stamp 0 batch.events)).index
          ns := by
  have loop : ∀ (events : List Event) (i : Nat) (indexes : Manager),
      (Run.run (EventStep.perform rt) indexes
        (eventSteps s.listener.engineID res batch.dpRank m.clock.stamp i events)).index ns =
      if ns = res.ns then
        applyEvents rt s.listener.engineID res batch.dpRank m.clock.stamp i (indexes.index res.ns)
          events
      else indexes.index ns := by
    intro events
    induction events with
    | nil =>
        intro i indexes
        by_cases here : ns = res.ns
        · rw [if_pos here, here]
          rfl
        · rw [if_neg here]
          rfl
    | cons ev events ih =>
        intro i indexes
        rw [eventSteps, Run.run_cons, ih, EventStep.perform, Manager.index_insert,
          Manager.index_insert, if_pos rfl]
        by_cases here : ns = res.ns
        · rw [if_pos here, if_pos here]
          rfl
        · rw [if_neg here, if_neg here, if_neg here]
  rw [ingest_indexes resolved, Manager.index_insert, loop]

/-- The events of another engine are not seen. -/
theorem sameFor_perform_other {e : String} {step : EventStep} (other : step.engineID ≠ e)
    (indexes : Manager) (ns : String) :
    Index.SameFor e ((step.perform rt indexes).index ns) (indexes.index ns) := by
  rw [EventStep.perform, Manager.index_insert]
  split
  · rename_i here
    rw [here, ingestEvent_ix]
    cases called : eventOp rt step.engineID step.res step.dpRank step.ts
      (indexes.index step.res.ns) step.ev with
    | none => exact .refl e _
    | some op =>
        obtain ⟨owner, whole⟩ := eventOp_own rt called
        exact Index.sameFor_apply_other whole (owner ▸ other)
  · exact .refl e _

end Frame

/-! ### A prompt in events -/

/-- Some consecutive full blocks of a prompt, with the engine's hash of each. -/
structure Part where
  blocks : List (List Int32)
  hashes : List UInt64
  nonempty : blocks ≠ []
  aligned : hashes.length = blocks.length

/-- The event stores the blocks of the part after the block hashed `parent`. -/
structure StoresPart (rt : Runtime) (blockSize : Int) (parent : Option UInt64) (p : Part)
    (ev : Event) : Prop where
  stored : ev.kind = .blockStored
  hashes : ev.blockHashes = p.hashes
  tokens : ev.tokenIDs = p.blocks.flatten
  size : ev.blockSize = blockSize
  hasParent : ev.hasParent = parent.isSome
  parentHash : ∀ h, parent = some h → ev.parentHash = h
  ingestable : ingestableSpecKind rt ev.specKind = true
  flat : ev.hasNestedTokenIDs = false
  plain : hasUnsupportedFeatureKeys ev = false

/-- The events store the parts one after another, each naming the last hash of the
one before it as its parent. -/
inductive StoresParts (rt : Runtime) (blockSize : Int) :
    Option UInt64 → List Part → List Event → Prop where
  | nil {parent : Option UInt64} : StoresParts rt blockSize parent [] []
  | cons {parent : Option UInt64} {p : Part} {parts : List Part} {ev : Event}
      {events : List Event} :
      StoresPart rt blockSize parent p ev →
      StoresParts rt blockSize p.hashes.getLast? parts events →
      StoresParts rt blockSize parent (p :: parts) (ev :: events)

/-- Engine `e` has the blocks `done` under the keys of their chain, in a tier that
meets `T`, and the hash of the last of them is bridged to the end of the chain. -/
structure Ingested (T : String → Prop) (e : String) (seed : UInt64) (done : List (List Int32))
    (last : Option UInt64) (ix : Index) : Prop where
  held : ∀ rk ∈ chain seed done, ∃ r, ix.Holds r rk ∧ r.engineID = e ∧ T r.tier
  bridged : ∀ h, last = some h → ix.lookupBridge e h = some (chainEnd seed done)
  start : last = none → done = []

theorem Ingested.of_sameFor {T : String → Prop} {e : String} {seed : UInt64}
    {done : List (List Int32)} {last : Option UInt64} {ix ix' : Index}
    (same : Index.SameFor e ix' ix) (ingested : Ingested T e seed done last ix) :
    Ingested T e seed done last ix' where
  held rk member := by
    obtain ⟨r, holds, owner, inTier⟩ := ingested.held rk member
    exact ⟨r, (same.holds_iff owner rk).mpr holds, owner, inTier⟩
  bridged h isLast := by
    rw [same.bridges]
    exact ingested.bridged h isLast
  start := ingested.start

/-- The last pair of a store decides what the last hash is bridged to. -/
theorem lookup_reverse_zip {hashes : List UInt64} {keys : List RequestKey}
    (same : hashes.length = keys.length) {h : UInt64} (isLast : hashes.getLast? = some h) :
    (hashes.zip keys).reverse.lookup h = keys.getLast? := by
  rcases List.eq_nil_or_concat hashes with rfl | ⟨hs, h', rfl⟩
  · cases isLast
  · rcases List.eq_nil_or_concat keys with rfl | ⟨ks, rk, rfl⟩
    · simp at same
    · have fronts : hs.length = ks.length := by simpa using same
      obtain rfl : h' = h := by simpa using isLast
      rw [List.concat_eq_append, List.concat_eq_append, List.zip_append fronts]
      simp

section Step

variable {rt : Runtime} {T : String → Prop} {e : String} {res : Resolved} {blockSize : Int}
  {done : List (List Int32)} {last : Option UInt64} {ix : Index}

/-- One event of the prompt: its keys continue the chain. -/
theorem Ingested.event (ingested : Ingested T e res.seed done last ix) (positive : 0 < blockSize)
    {p : Part} {ev : Event} (stores : StoresPart rt blockSize last p ev)
    (full : ∀ b ∈ p.blocks, b.length = blockSize.toNat)
    (inTier : T (mediumToTier rt ev.medium)) (dpRank ts : Int) :
    Ingested T e res.seed (done ++ p.blocks) p.hashes.getLast?
      (ingestEvent rt e res dpRank ts ix ev).ix := by
  have keys : requestKeysForEvent ix e res.seed blockSize ev =
      some (chain (chainEnd res.seed done) p.blocks) := by
    have cut := requestKeysFromTokens_flatten positive
    cases isLast : last with
    | none =>
        have first : ev.hasParent = false := by rw [stores.hasParent, isLast]; rfl
        rw [requestKeysForEvent, first, stores.tokens, cut _ _ full, ingested.start isLast]
        rfl
    | some h =>
        have later : ev.hasParent = true := by rw [stores.hasParent, isLast]; rfl
        rw [requestKeysForEvent, if_pos later, stores.parentHash h isLast,
          ingested.bridged h isLast]
        simp only [stores.tokens, cut _ _ full]
  set rks := chain (chainEnd res.seed done) p.blocks with rksDef
  have called : eventOp rt e res dpRank ts ix ev =
      some (.storeEvent e dpRank (mediumToTier rt ev.medium) p.hashes rks ts) := by
    have withTokens : ¬ (ev.tokenIDs.length = 0 ∧ 0 < p.hashes.length) := by
      rintro ⟨empty, -⟩
      obtain ⟨b, rest, shape⟩ := List.exists_cons_of_ne_nil p.nonempty
      have width := full b (by simp [shape])
      rw [stores.tokens, shape, List.flatten_cons, List.length_append] at empty
      omega
    have size : ¬ blockSize ≤ 0 := by omega
    simp only [eventOp, stores.stored, stores.ingestable, stores.flat, stores.plain, stores.size,
      stores.hashes, Bool.not_true, Bool.or_false, Bool.false_eq_true, if_false, if_neg withTokens,
      if_neg size, keys, Option.map_some]
  rw [ingestEvent_ix, called]
  have same : p.hashes.length = rks.length := by rw [p.aligned, length_chain]
  refine ⟨fun rk member => ?_, fun h isLast => ?_, fun empty => ?_⟩
  · rw [chain_append] at member
    rcases List.mem_append.mp member with before | now
    · obtain ⟨r, holds, owner, tier⟩ := ingested.held rk before
      exact ⟨r, Index.holds_storeEvent.mpr (Or.inr holds), owner, tier⟩
    · exact ⟨_, Index.holds_storeEvent.mpr (Or.inl ⟨rfl, now⟩), rfl, inTier⟩
  · have chained : rks.getLast? = some (chainEnd res.seed (done ++ p.blocks)) := by
      rw [chainEnd_append]
      exact getLast?_chain p.nonempty
    dsimp only [Index.apply]
    rw [Index.lookupBridge, Index.lookup_bridge_storeEvent, if_pos rfl,
      Index.tailAligned_of_length_eq same, lookup_reverse_zip same isLast, chained, Option.some_or]
  · have hashed : p.hashes = [] := List.getLast?_eq_none_iff.mp empty
    have none : p.blocks = [] := by
      have width := p.aligned
      rw [hashed] at width
      exact List.length_eq_zero_iff.mp width.symm
    exact absurd none p.nonempty

end Step

/-! ### Whole schedules -/

/-- The events of engine `e`, in order. -/
def ownEvents (e : String) (schedule : List EventStep) : List Event :=
  (schedule.filter fun step => step.engineID = e).map EventStep.ev

section Run

variable {rt : Runtime} {T : String → Prop} {e : String} {res : Resolved} {blockSize : Int}

/-- Any interleaving with other engines' events. -/
theorem Ingested.run (positive : 0 < blockSize) {schedule : List EventStep}
    (resolved : ∀ step ∈ schedule, step.engineID = e → step.res = res)
    {parts : List Part} (full : ∀ p ∈ parts, ∀ b ∈ p.blocks, b.length = blockSize.toNat)
    (inTier : ∀ ev ∈ ownEvents e schedule, T (mediumToTier rt ev.medium))
    {done : List (List Int32)} {last : Option UInt64} {indexes : Manager}
    (ingested : Ingested T e res.seed done last (indexes.index res.ns))
    (stores : StoresParts rt blockSize last parts (ownEvents e schedule)) :
    ∃ last', Ingested T e res.seed (done ++ parts.flatMap Part.blocks) last'
      ((Run.run (EventStep.perform rt) indexes schedule).index res.ns) := by
  induction schedule generalizing parts done last indexes with
  | nil =>
      cases stores with
      | nil => exact ⟨last, by simpa using ingested⟩
  | cons step schedule ih =>
      have later : ∀ step ∈ schedule, step.engineID = e → step.res = res :=
        fun step member => resolved step (List.mem_cons_of_mem _ member)
      rw [Run.run_cons]
      by_cases mine : step.engineID = e
      · have events : ownEvents e (step :: schedule) = step.ev :: ownEvents e schedule := by
          simp [ownEvents, mine]
        rw [events] at stores inTier
        cases stores with
        | @cons _ p parts _ _ first next =>
            have ready := ingested.event positive first (full p List.mem_cons_self)
              (inTier step.ev List.mem_cons_self) step.dpRank step.ts
            have here : (step.perform rt indexes).index res.ns =
                (ingestEvent rt e res step.dpRank step.ts (indexes.index res.ns) step.ev).ix := by
              rw [EventStep.perform, resolved step List.mem_cons_self mine, mine,
                Manager.index_insert, if_pos rfl]
            rw [← here] at ready
            rw [List.flatMap_cons, ← List.append_assoc]
            exact ih later (fun q member => full q (List.mem_cons_of_mem _ member))
              (fun ev member => inTier ev (List.mem_cons_of_mem _ member)) ready next
      · have events : ownEvents e (step :: schedule) = ownEvents e schedule := by
          simp [ownEvents, mine]
        rw [events] at stores inTier
        exact ih later full inTier
          (ingested.of_sameFor (sameFor_perform_other mine indexes res.ns)) stores

/-- A prompt whose full blocks were ingested in pieces, between the events of other
engines, is found by a query: the engine matches every full block, and does so on
the device tier if the blocks were stored there. The counts are within the prompt, so they do
not wrap unless its length does. -/
theorem query_of_ingested_chain (positive : 0 < blockSize) (tokens : List Int32)
    {parts : List Part} (covers : parts.flatMap Part.blocks = chunkTokens tokens blockSize)
    {schedule : List EventStep}
    (resolved : ∀ step ∈ schedule, step.engineID = e → step.res = res)
    (stores : StoresParts rt blockSize none parts (ownEvents e schedule)) (indexes : Manager) :
    let ix := (Run.run (EventStep.perform rt) indexes schedule).index res.ns
    let hit :=
      ((ix.query (requestKeysFromTokens res.seed tokens blockSize)
        (.ofInt blockSize)).instances.lookup e).getD InstanceHit.zero
    hit.longestMatched = Int64.ofInt (blockSize * (tokens.length / blockSize.toNat : Nat)) ∧
      ((∀ ev ∈ ownEvents e schedule, mediumToTier rt ev.medium = tierGPU) →
        hit.gpu = Int64.ofInt (blockSize * (tokens.length / blockSize.toNat : Nat))) ∧
      (tokens.length < 2 ^ 63 →
        hit.longestMatched.toInt = blockSize * (tokens.length / blockSize.toNat : Nat)) := by
  intro ix hit
  have full : ∀ p ∈ parts, ∀ b ∈ p.blocks, b.length = blockSize.toNat := by
    intro p member b inPart
    have inChunks : b ∈ chunkTokens tokens blockSize :=
      covers ▸ List.mem_flatMap.mpr ⟨p, member, inPart⟩
    exact mem_chunkTokens_length inChunks
  have heldIn : ∀ T : String → Prop,
      (∀ ev ∈ ownEvents e schedule, T (mediumToTier rt ev.medium)) →
      ∀ rk ∈ requestKeysFromTokens res.seed tokens blockSize,
        ∃ r, ix.Holds r rk ∧ r.engineID = e ∧ T r.tier := by
    intro T inTier
    have start : Ingested T e res.seed [] none (indexes.index res.ns) := by
      refine ⟨fun rk member => ?_, fun h isLast => ?_, fun _ => rfl⟩
      · cases member
      · cases isLast
    obtain ⟨last, ingested⟩ := start.run positive resolved full inTier stores
    rw [List.nil_append, covers] at ingested
    exact ingested.held
  have count := length_requestKeysFromTokens positive res.seed tokens
  have within := blockSize_mul_length_le positive res.seed tokens
  have counts : hit.longestMatched =
        Int64.ofInt (blockSize * (requestKeysFromTokens res.seed tokens blockSize).length) ∧
      ((∀ ev ∈ ownEvents e schedule, mediumToTier rt ev.medium = tierGPU) →
        hit.gpu =
          Int64.ofInt (blockSize * (requestKeysFromTokens res.seed tokens blockSize).length)) := by
    rw [← Counter.nsmul_ofInt]
    by_cases empty : requestKeysFromTokens res.seed tokens blockSize = []
    · have none : hit = .zero := by simp [hit, empty, Index.lookup_query, hitFrom]
      rw [none, empty]
      simp [InstanceHit.zero]
    · obtain ⟨found, here, longest, onGPU⟩ := Index.lookup_query_of_held ix e
        (Int64.ofInt blockSize) empty fun rk member =>
          (heldIn (fun _ => True) (fun _ _ => trivial) rk member).imp
            fun r holds => ⟨holds.1, holds.2.1⟩
      have same : hit = found := by simp only [hit, here, Option.getD_some]
      rw [same]
      exact ⟨longest, fun inTier => onGPU fun rk member => heldIn (· = tierGPU) inTier rk member⟩
  rw [← count]
  refine ⟨counts.1, counts.2, fun short => ?_⟩
  have above : 0 ≤ blockSize * (requestKeysFromTokens res.seed tokens blockSize).length :=
    Int.mul_nonneg (by omega) (Int.natCast_nonneg _)
  rw [counts.1]
  exact Int64.toInt_ofInt_of_le (by omega) (by omega)

end Run

/-! A prompt of five tokens in two events, with another engine's reset in between. -/

def promptParts : List Part :=
  [⟨[[1, 2]], [101], by decide, rfl⟩, ⟨[[3, 4]], [102], by decide, rfl⟩]

def promptEvent (hashes : List UInt64) (parent : Option UInt64) (tokens : List Int32) : Event where
  kind := .blockStored
  blockHashes := hashes
  parentHash := parent.getD 0
  hasParent := parent.isSome
  tokenIDs := tokens
  blockSize := 2
  medium := "GPU"

def promptSchedule : List EventStep :=
  let res : Resolved := ⟨"ns", 9, 16⟩
  [⟨"a", res, 0, 1, promptEvent [101] none [1, 2]⟩, ⟨"b", res, 0, 2, { kind := .allBlocksCleared }⟩,
    ⟨"a", res, 1, 3, promptEvent [102] (some 101) [3, 4]⟩]

theorem prompt_found :
    let ix := (Run.run (EventStep.perform (tableRuntime [])) ∅ promptSchedule).index "ns"
    (((ix.query (requestKeysFromTokens 9 [1, 2, 3, 4, 5] 2)
      (.ofInt 2)).instances.lookup "a").getD InstanceHit.zero).longestMatched =
        Int64.ofInt (2 * (5 / 2 : Nat)) := by
  have stores : StoresParts (tableRuntime []) 2 none promptParts (ownEvents "a" promptSchedule) :=
    .cons ⟨rfl, rfl, rfl, rfl, rfl, nofun, by decide, rfl, rfl⟩
      (.cons ⟨rfl, rfl, rfl, rfl, rfl, fun h same => by cases same; rfl, by decide, rfl, rfl⟩ .nil)
  have resolved : ∀ step ∈ promptSchedule, step.engineID = "a" → step.res = ⟨"ns", 9, 16⟩ := by
    intro step member
    simp only [promptSchedule, List.mem_cons, List.not_mem_nil, or_false] at member
    rcases member with rfl | rfl | rfl <;> exact fun _ => rfl
  exact (query_of_ingested_chain (by decide) [1, 2, 3, 4, 5] (by decide) resolved stores ∅).1

end KvIndexer.KvEvents
