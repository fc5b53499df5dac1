import KvIndexer.Lib.Counter
import KvIndexer.Lib.GoMap
import KvIndexer.Itoa
import KvIndexer.Residency.Keys
import Mathlib.Data.Finset.Image

/-!
The residency index of one profile namespace (`internal/residency/index.go`).

Three maps are kept together: the holders of each request key, the bridge from an
engine's own block hashes to request keys, and the set of request keys each engine
holds. Every operation is one critical section of the index mutex, so an
interleaving of engines is a list of operations. Clock readings are arguments: a
store takes the `ts` it stamps its holders with.

A Go map of sets is a `GoMap` to `Finset`; a nil entry pointer is an absent key. The token
counts of a query are Go's `int`, so `Int64`, unless a `Counter` of another kind is named.
-/

namespace KvIndexer.Residency

/-- Which (engine, dp rank, tier) holds a request key. -/
structure Resident where
  engineID : String
  dpRank : Int
  tier : String
deriving DecidableEq, Repr

/-- `residencyEntry.holders`: resident to last-seen unix-nano. -/
abbrev ResidencyEntry := GoMap Resident Int

structure EngineBridgeKey where
  engineID : String
  engineKey : EngineKey
deriving DecidableEq, Repr

structure Index where
  /-- request_key -> residency -/
  byRequestKey : GoMap RequestKey ResidencyEntry
  /-- (engine_id, engine_key) -> request_key, for removal and parent lookup -/
  bridge : GoMap EngineBridgeKey RequestKey
  /-- engine_id -> request keys it holds, for AllBlocksCleared -/
  byEngine : GoMap String (Finset RequestKey)
deriving DecidableEq

def newIndex : Index := ⟨∅, ∅, ∅⟩

namespace Index

/-! ### Stores -/

/-- The loop body of `storeRequestKeysLocked`: `r` holds `rk` since `ts`. -/
def storeKey (r : Resident) (ts : Int) (ix : Index) (rk : RequestKey) : Index :=
  let e := (ix.byRequestKey.lookup rk).getD ∅
  let eng := (ix.byEngine.lookup r.engineID).getD ∅
  { ix with
    byRequestKey := ix.byRequestKey.insert rk (e.insert r ts)
    byEngine := ix.byEngine.insert r.engineID (insert rk eng) }

def storeRequestKeysLocked (ix : Index) (engineID : String) (dpRank : Int) (tier : String)
    (requestKeys : List RequestKey) (ts : Int) : Index :=
  let eng := (ix.byEngine.lookup engineID).getD ∅
  requestKeys.foldl (storeKey ⟨engineID, dpRank, tier⟩ ts)
    { ix with byEngine := ix.byEngine.insert engineID eng }

/-- The (engine key, request key) pairs of a store, aligned at the end of both
lists: the last engine key belongs to the last request key. -/
def tailAligned (engineKeys : List EngineKey) (requestKeys : List RequestKey) :
    List (EngineKey × RequestKey) :=
  let nEng := engineKeys.length
  let nReq := requestKeys.length
  let k := min nEng nReq
  (engineKeys.drop (nEng - k)).zip (requestKeys.drop (nReq - k))

def bridgeKey (engineID : String) (ix : Index) (pair : EngineKey × RequestKey) : Index :=
  { ix with bridge := ix.bridge.insert ⟨engineID, pair.1⟩ pair.2 }

/-- A BlockStored event: residency for every request key, and a bridge entry for
every engine key received. -/
def storeEvent (ix : Index) (engineID : String) (dpRank : Int) (tier : String)
    (engineKeys : List EngineKey) (requestKeys : List RequestKey) (ts : Int) : Index :=
  if requestKeys.length = 0 then ix
  else
    (tailAligned engineKeys requestKeys).foldl (bridgeKey engineID)
      (ix.storeRequestKeysLocked engineID dpRank tier requestKeys ts)

/-- Resolve an engine block hash to its request key, if known. -/
def lookupBridge (ix : Index) (engineID : String) (ek : EngineKey) : Option RequestKey :=
  ix.bridge.lookup ⟨engineID, ek⟩

/-- A BlockStored event without tokens: every engine key is resolved through the
bridge, or nothing is changed and the result is `none`. -/
def storeEventByEngineKeys (ix : Index) (engineID : String) (dpRank : Int) (tier : String)
    (engineKeys : List EngineKey) (ts : Int) : Index × Option (List RequestKey) :=
  if engineKeys.length = 0 then (ix, none)
  else
    match engineKeys.mapM (ix.lookupBridge engineID) with
    | none => (ix, none)
    | some requestKeys =>
        (ix.storeRequestKeysLocked engineID dpRank tier requestKeys ts, some requestKeys)

/-! ### Removal -/

/-- Some holder of the entry belongs to the engine. -/
def hasEngine (e : ResidencyEntry) (engineID : String) : Bool :=
  decide (∃ r ∈ e.keys, r.engineID = engineID)

/-- `if eng := ix.byEngine[engineID]; eng != nil { delete(eng, rk) }` -/
def dropFromEngine (ix : Index) (engineID : String) (rk : RequestKey) : Index :=
  { ix with byEngine := GoMap.alter engineID (Option.map fun eng => eng.erase rk) ix.byEngine }

/-- The first half of the loop body of `removeEvent`: drop the hold of `r` on the
bridged key. The bridge goes with the engine's last hold, but only when there was
an entry to drop it from. -/
def dropHold (ix : Index) (r : Resident) (bk : EngineBridgeKey) (rk : RequestKey) : Index :=
  match ix.byRequestKey.lookup rk with
  | none => ix
  | some e =>
      let holders := e.erase r
      if GoMap.len holders = 0 then
        { ix with byRequestKey := ix.byRequestKey.erase rk, bridge := ix.bridge.erase bk }
      else
        let ix := { ix with byRequestKey := ix.byRequestKey.insert rk holders }
        if hasEngine holders r.engineID then ix
        else dropFromEngine { ix with bridge := ix.bridge.erase bk } r.engineID rk

/-- The loop body of `removeEvent`. -/
def removeKey (r : Resident) (ix : Index) (ek : EngineKey) : Index :=
  let bk : EngineBridgeKey := ⟨r.engineID, ek⟩
  match ix.bridge.lookup bk with
  | none => ix
  | some rk =>
      let ix := ix.dropHold r bk rk
      match ix.byRequestKey.lookup rk with
      | none => dropFromEngine ix r.engineID rk
      | some e => if hasEngine e r.engineID then ix else dropFromEngine ix r.engineID rk

/-- A BlockRemoved event. -/
def removeEvent (ix : Index) (engineID : String) (dpRank : Int) (tier : String)
    (engineKeys : List EngineKey) : Index :=
  engineKeys.foldl (removeKey ⟨engineID, dpRank, tier⟩) ix

/-! ### Clearing an engine -/

/-- The holders of a cleared engine are deleted: all of them, or those of `tier`
when it is non-empty. -/
def clearedHolder (engineID tier : String) (r : Resident) : Bool :=
  r.engineID = engineID ∧ (tier = "" ∨ r.tier = tier)

/-- The loop body of `clearEngine` on one entry; an emptied entry is deleted. -/
def clearEntry (engineID tier : String) (e : Option ResidencyEntry) : Option ResidencyEntry :=
  match e with
  | none => none
  | some e =>
      let holders := GoMap.filterKeys (fun r => !clearedHolder engineID tier r) e
      if GoMap.len holders = 0 then none else some holders

/-- AllBlocksCleared. A non-empty tier clears only that tier's holds, and leaves
the bridge and the engine's key set alone. -/
def clearEngine (ix : Index) (engineID tier : String) : Index :=
  match ix.byEngine.lookup engineID with
  | none => ix
  | some eng =>
      let ix := { ix with
        byRequestKey := GoMap.updateEach eng (fun _ => clearEntry engineID tier) ix.byRequestKey }
      if tier = "" then
        { ix with
          bridge := GoMap.filterKeys (fun bk => bk.engineID ≠ engineID) ix.bridge
          byEngine := ix.byEngine.erase engineID }
      else ix

end Index

/-! ### Queries -/

def tierGPU : String := "gpu"
def tierCPU : String := "cpu"
def tierDisk : String := "disk"

/-- The per-instance prefix hit: token counts, cumulative by tier. -/
structure InstanceHit (ν : Type := Int64) where
  longestMatched : ν
  gpu : ν
  cpu : ν
  disk : ν
  dp : GoMap String ν
deriving DecidableEq

structure QueryResult (ν : Type := Int64) where
  instances : GoMap String (InstanceHit ν)
  /-- Newest holder timestamp that contributed, 0 if none. -/
  lastSeenNano : Int
deriving DecidableEq

/-- What one engine contributes to one block. -/
structure BlockInfo (ν : Type := Int64) where
  tiers : Finset String
  dp : GoMap String ν

section Counting

variable {ν : Type} [Counter ν]

def InstanceHit.zero : InstanceHit ν := ⟨0, 0, 0, 0, ∅⟩

/-- `m[k] += n` on a map of counters. -/
def addTokens (m : GoMap String ν) (k : String) (n : ν) : GoMap String ν :=
  m.insert k ((m.lookup k).getD 0 + n)

theorem lookup_addTokens (m : GoMap String ν) (k k' : String) (n : ν) :
    (addTokens m k n).lookup k' = if k' = k then some ((m.lookup k).getD 0 + n) else m.lookup k' :=
  GoMap.lookup_insert_eq k k' _ m

theorem addTokens_comm (m : GoMap String ν) (k₁ k₂ : String) (n₁ n₂ : ν) :
    addTokens (addTokens m k₁ n₁) k₂ n₂ = addTokens (addTokens m k₂ n₂) k₁ n₁ := by
  refine Finmap.ext_lookup fun k => ?_
  simp only [lookup_addTokens]
  by_cases same : k₁ = k₂
  · subst same
    by_cases here : k = k₁
    · simp only [here, if_true, Option.getD_some]
      rw [add_right_comm]
    · simp only [if_neg here]
  · have same' : k₂ ≠ k₁ := Ne.symm same
    by_cases first : k = k₁
    · simp [first, same]
    · simp [first, same']

/-- Add one holder of the block to the information about its engine. -/
def addHolder (blockSize : ν) (bi : Option (BlockInfo ν)) (r : Resident) (_ts : Int) :
    BlockInfo ν :=
  let bi := bi.getD ⟨∅, ∅⟩
  { tiers := insert r.tier bi.tiers, dp := addTokens bi.dp (itoa r.dpRank) blockSize }

theorem addHolder_comm (blockSize : ν) (bi : Option (BlockInfo ν)) (r₁ : Resident) (t₁ : Int)
    (r₂ : Resident) (t₂ : Int) :
    addHolder blockSize (some (addHolder blockSize bi r₁ t₁)) r₂ t₂ =
      addHolder blockSize (some (addHolder blockSize bi r₂ t₂)) r₁ t₁ := by
  simp only [addHolder, Option.getD_some]
  rw [Finset.insert_comm, addTokens_comm]

/-- The holders of a block by engine. -/
def blockHolders (blockSize : ν) (entry : ResidencyEntry) : GoMap String (BlockInfo ν) :=
  GoMap.groupFold Resident.engineID (addHolder blockSize) (addHolder_comm blockSize) entry

/-- The newest timestamp of the entry and `last`. -/
def newestSeen (last : Int) (entry : ResidencyEntry) : Int :=
  entry.foldl (fun last _ ts => if ts > last then ts else last)
    (fun last _ t₁ _ t₂ => by grind) last

/-- One matched block of an engine, added to its hit. Any residency counts toward
disk. -/
def addBlock (blockSize : ν) (bi : BlockInfo ν) (ih : InstanceHit ν) : InstanceHit ν :=
  { longestMatched := ih.longestMatched + blockSize
    gpu := if tierGPU ∈ bi.tiers then ih.gpu + blockSize else ih.gpu
    cpu := if tierGPU ∈ bi.tiers ∨ tierCPU ∈ bi.tiers then ih.cpu + blockSize else ih.cpu
    disk := ih.disk + blockSize
    dp := bi.dp.foldl addTokens (fun m _ _ _ _ => addTokens_comm m _ _ _ _) ih.dp }

namespace Index

/-- The body of the loop over active engines. An active engine holds the current
block, so the first case does not arise. -/
def accumulate (blockSize : ν) (holders : GoMap String (BlockInfo ν)) (eng : String)
    (ih : Option (InstanceHit ν)) : Option (InstanceHit ν) :=
  match holders.lookup eng with
  | none => ih
  | some bi => some (addBlock blockSize bi (ih.getD InstanceHit.zero))

/-- The engines still on a contiguous run: seeded from the holders of block 0,
then those that hold the current block too. -/
def stillActive (holders : GoMap String (BlockInfo ν)) : Option (Finset String) → Finset String
  | none => holders.keys
  | some active => active.filter (· ∈ holders)

/-- The loop over the request keys. `active` is nil before block 0. -/
def queryLoop (ix : Index) (blockSize : ν) :
    Option (Finset String) → List RequestKey → QueryResult ν → QueryResult ν
  | _, [], res => res
  | active, rk :: requestKeys, res =>
      let entry := (ix.byRequestKey.lookup rk).getD ∅
      let holders := blockHolders blockSize entry
      let res := { res with lastSeenNano := newestSeen res.lastSeenNano entry }
      let active := stillActive holders active
      if active = ∅ then res
      else
        queryLoop ix blockSize (some active) requestKeys
          { res with
            instances := GoMap.updateEach active (accumulate blockSize holders) res.instances }

/-- The contiguous prefix hit of every engine that holds block 0. -/
def query (ix : Index) (requestKeys : List RequestKey) (blockSize : ν) : QueryResult ν :=
  queryLoop ix blockSize none requestKeys ⟨∅, 0⟩

end Index

end Counting

namespace Index

/-- Basic index sizes: request keys, bridge entries, engines. -/
def stats (ix : Index) : Nat × Nat × Nat :=
  (GoMap.len ix.byRequestKey, GoMap.len ix.bridge, GoMap.len ix.byEngine)

end Index

/-! ### The manager (`internal/residency/manager.go`) -/

/-- One index per profile namespace. -/
abbrev Manager := GoMap String Index

/-- The index of a namespace. It is created on first use, so an absent one reads as
the empty index. -/
def Manager.index (m : Manager) (ns : String) : Index := (m.lookup ns).getD newIndex

theorem Manager.index_insert (indexes : Manager) (ns ns' : String) (ix : Index) :
    Manager.index (indexes.insert ns ix) ns' = if ns' = ns then ix else indexes.index ns' := by
  unfold Manager.index
  rw [GoMap.lookup_insert_eq]
  split <;> rfl

end KvIndexer.Residency
