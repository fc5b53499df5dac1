import KvIndexer.Residency.Views

/-!
One engine's hit in a query.

`query` advances all engines together, block by block. `lookup_query` separates
them: the hit of engine `e` is a walk (`hitFrom`) over what `e` itself contributes
to each block, and stops at the first block it does not hold. So a hit depends
only on the engine's own holds (`lookup_query_congr`), and over blocks that are all
held the match is the block count times the block size
(`lookup_query_of_held`).
-/

namespace KvIndexer.Residency

variable {ν : Type} [Counter ν]

/-- The walk of one engine over its block information, from the hit so far. -/
def hitFrom (blockSize : ν) :
    Option (InstanceHit ν) → List (Option (BlockInfo ν)) → Option (InstanceHit ν)
  | ih, [] => ih
  | ih, none :: _ => ih
  | ih, some bi :: blocks => hitFrom blockSize (some (addBlock blockSize bi (ih.getD .zero))) blocks

/-- A hit that starts from nothing starts from the zero hit. -/
theorem hitFrom_zero {blockSize : ν} {blocks : List (Option (BlockInfo ν))} {hit : InstanceHit ν}
    (walk : hitFrom blockSize none blocks = some hit) :
    hitFrom blockSize (some .zero) blocks = some hit := by
  cases blocks with
  | nil => cases walk
  | cons b blocks =>
      cases b with
      | none => cases walk
      | some bi => exact walk

/-- What engine `e` contributes to the block `rk`. -/
def Index.blockInfo (ix : Index) (blockSize : ν) (e : String) (rk : RequestKey) :
    Option (BlockInfo ν) :=
  (blockHolders blockSize (ix.entryOf rk)).lookup e

namespace Index

/-- Before block 0 every engine may still join. -/
def isActive (e : String) : Option (Finset String) → Prop
  | none => True
  | some active => e ∈ active

omit [Counter ν] in
theorem mem_stillActive {holders : GoMap String (BlockInfo ν)} {active : Option (Finset String)}
    {e : String} : e ∈ stillActive holders active ↔ isActive e active ∧ e ∈ holders := by
  cases active with
  | none => simp [stillActive, isActive, Finmap.mem_keys]
  | some active => simp [stillActive, isActive]

theorem lookup_queryLoop (ix : Index) (blockSize : ν) (e : String) (requestKeys : List RequestKey)
    (active : Option (Finset String)) (res : QueryResult ν) :
    (isActive e active →
      (queryLoop ix blockSize active requestKeys res).instances.lookup e =
        hitFrom blockSize (res.instances.lookup e) (requestKeys.map (ix.blockInfo blockSize e))) ∧
    (¬ isActive e active →
      (queryLoop ix blockSize active requestKeys res).instances.lookup e =
        res.instances.lookup e) := by
  induction requestKeys generalizing active res with
  | nil => exact ⟨fun _ => rfl, fun _ => rfl⟩
  | cons rk requestKeys ih =>
      set holders := blockHolders blockSize (ix.entryOf rk) with holdersDef
      have info : ix.blockInfo blockSize e rk = holders.lookup e := rfl
      have next := ih (some (stillActive holders active))
        { res with
          lastSeenNano := newestSeen res.lastSeenNano (ix.entryOf rk)
          instances := GoMap.updateEach (stillActive holders active)
            (accumulate blockSize holders) res.instances }
      have unfolded : queryLoop ix blockSize active (rk :: requestKeys) res =
          if stillActive holders active = ∅ then
            { res with lastSeenNano := newestSeen res.lastSeenNano (ix.entryOf rk) }
          else queryLoop ix blockSize (some (stillActive holders active)) requestKeys
            { res with
              lastSeenNano := newestSeen res.lastSeenNano (ix.entryOf rk)
              instances := GoMap.updateEach (stillActive holders active)
                (accumulate blockSize holders) res.instances } := rfl
      rw [unfolded, List.map_cons, info]
      by_cases joins : e ∈ stillActive holders active
      · -- still active: its information for this block is added
        obtain ⟨bi, found⟩ := Finmap.mem_iff.mp (mem_stillActive.mp joins).2
        have some_active : stillActive holders active ≠ ∅ := fun none => by simp [none] at joins
        rw [if_neg some_active, next.1 joins, GoMap.lookup_updateEach, if_pos joins, found]
        refine ⟨fun _ => ?_, fun inactive => absurd (mem_stillActive.mp joins).1 inactive⟩
        simp only [accumulate, found, hitFrom]
      · -- dropped here, or never active: the hit stays as it is
        have kept : (if stillActive holders active = ∅ then
            { res with lastSeenNano := newestSeen res.lastSeenNano (ix.entryOf rk) }
          else queryLoop ix blockSize (some (stillActive holders active)) requestKeys
            { res with
              lastSeenNano := newestSeen res.lastSeenNano (ix.entryOf rk)
              instances := GoMap.updateEach (stillActive holders active)
                (accumulate blockSize holders) res.instances }).instances.lookup e =
            res.instances.lookup e := by
          split
          · rfl
          · rw [next.2 joins, GoMap.lookup_updateEach, if_neg joins]
        rw [kept]
        refine ⟨fun was => ?_, fun _ => rfl⟩
        have absent : holders.lookup e = none :=
          Finmap.lookup_eq_none.mpr fun present => joins (mem_stillActive.mpr ⟨was, present⟩)
        rw [absent, hitFrom]

/-- The hit of one engine, by itself. -/
theorem lookup_query (ix : Index) (requestKeys : List RequestKey) (blockSize : ν) (e : String) :
    (ix.query requestKeys blockSize).instances.lookup e =
      hitFrom blockSize none (requestKeys.map (ix.blockInfo blockSize e)) :=
  (lookup_queryLoop ix blockSize e requestKeys none ⟨∅, 0⟩).1 trivial

theorem blockInfo_congr {ix ix' : Index} {e : String} {rk : RequestKey}
    (same : ∀ r : Resident, r.engineID = e →
      (ix.entryOf rk).lookup r = (ix'.entryOf rk).lookup r) (blockSize : ν) :
    ix.blockInfo blockSize e rk = ix'.blockInfo blockSize e rk :=
  GoMap.lookup_groupFold_congr _ _ _ same

/-- Two indexes with the same holds of an engine give it the same hit. -/
theorem lookup_query_congr {ix ix' : Index} {e : String}
    (same : ∀ (rk : RequestKey) (r : Resident), r.engineID = e →
      (ix.entryOf rk).lookup r = (ix'.entryOf rk).lookup r)
    (requestKeys : List RequestKey) (blockSize : ν) :
    (ix.query requestKeys blockSize).instances.lookup e =
      (ix'.query requestKeys blockSize).instances.lookup e := by
  rw [lookup_query, lookup_query]
  congr 1
  exact List.map_congr_left fun rk _ => blockInfo_congr (same rk) blockSize

/-- What an engine contributes to a block depends on who holds it, not since when. -/
theorem blockInfo_congr_holds {ix ix' : Index} {e : String} {rk : RequestKey}
    (same : ∀ r : Resident, r.engineID = e → (ix.Holds r rk ↔ ix'.Holds r rk)) (blockSize : ν) :
    ix.blockInfo blockSize e rk = ix'.blockInfo blockSize e rk := by
  refine GoMap.lookup_groupFold_congr_keys _ _ _ (fun _ _ _ _ => rfl) fun r owner => ?_
  rw [Finmap.lookup_isSome, Finmap.lookup_isSome]
  exact same r owner

/-- Two indexes with the same holders give the same hits. -/
theorem instances_query_congr {ix ix' : Index}
    (same : ∀ (r : Resident) (rk : RequestKey), ix.Holds r rk ↔ ix'.Holds r rk)
    (requestKeys : List RequestKey) (blockSize : ν) :
    (ix.query requestKeys blockSize).instances = (ix'.query requestKeys blockSize).instances := by
  refine Finmap.ext_lookup fun e => ?_
  rw [lookup_query, lookup_query]
  congr 1
  exact List.map_congr_left fun rk _ => blockInfo_congr_holds (fun r _ => same r rk) blockSize

/-! ### Blocks that are all held -/

theorem blockInfo_isSome_iff {ix : Index} {blockSize : ν} {e : String} {rk : RequestKey} :
    (ix.blockInfo blockSize e rk).isSome ↔ ix.EngineHolds e rk :=
  GoMap.lookup_groupFold_isSome _ _ _

/-- The tiers recorded for a block are those of the engine's holds. -/
theorem mem_tiers_blockInfo {ix : Index} {blockSize : ν} {e : String} {rk : RequestKey}
    {bi : BlockInfo ν} (info : ix.blockInfo blockSize e rk = some bi) (tier : String) :
    tier ∈ bi.tiers ↔ ∃ r, ix.Holds r rk ∧ r.engineID = e ∧ r.tier = tier := by
  have members := GoMap.groupFold_induction Resident.engineID (addHolder blockSize)
    (addHolder_comm blockSize)
    (motive := fun s d => tier ∈ (d.getD ⟨∅, ∅⟩).tiers ↔ ∃ x ∈ s, x.1.tier = tier)
    (ix.entryOf rk) e (by simp)
    (fun s d r ts holds => by
      simp only [Option.getD_some, addHolder, Finset.mem_insert, holds, Multiset.mem_cons,
        exists_eq_or_imp]
      exact or_congr_left eq_comm)
  have reading : (GoMap.groupFold Resident.engineID (addHolder blockSize)
    (addHolder_comm blockSize) (ix.entryOf rk)).lookup e = some bi := info
  rw [reading, Option.getD_some] at members
  rw [members]
  constructor
  · rintro ⟨⟨r, ts⟩, member, here⟩
    obtain ⟨found, owner⟩ := (GoMap.mem_groupEntries _).mp member
    exact ⟨r, Finmap.mem_of_lookup_eq_some found, owner, here⟩
  · rintro ⟨r, holds, owner, here⟩
    obtain ⟨ts, found⟩ := holds_iff.mp holds
    exact ⟨⟨r, ts⟩, (GoMap.mem_groupEntries _).mpr ⟨found, owner⟩, here⟩

end Index

/-- The walk over blocks that all contribute. -/
theorem hitFrom_of_isSome {blockSize : ν} {blocks : List (Option (BlockInfo ν))}
    (held : ∀ b ∈ blocks, b.isSome) (ih : InstanceHit ν) :
    ∃ hit, hitFrom blockSize (some ih) blocks = some hit ∧
      hit.longestMatched = ih.longestMatched + blocks.length • blockSize ∧
      ((∀ bi, some bi ∈ blocks → tierGPU ∈ bi.tiers) →
        hit.gpu = ih.gpu + blocks.length • blockSize) := by
  induction blocks generalizing ih with
  | nil => exact ⟨ih, rfl, by simp, by simp⟩
  | cons b blocks rest =>
      obtain ⟨bi, rfl⟩ := Option.isSome_iff_exists.mp (held b List.mem_cons_self)
      obtain ⟨hit, walk, longest, gpu⟩ :=
        rest (fun b hb => held b (List.mem_cons_of_mem _ hb)) (addBlock blockSize bi ih)
      have grown : ∀ n : ν, n + (some bi :: blocks).length • blockSize =
          n + blockSize + blocks.length • blockSize := by
        intro n
        rw [List.length_cons, succ_nsmul', add_assoc]
      refine ⟨hit, walk, ?_, fun onGPU => ?_⟩
      · rw [longest, grown]
        rfl
      · have first : tierGPU ∈ bi.tiers := onGPU bi List.mem_cons_self
        rw [gpu fun bi' member => onGPU bi' (List.mem_cons_of_mem _ member), grown]
        simp only [addBlock, if_pos first]

/-- An engine that holds every block of a non-empty key list matches all of it,
and matches it on the device tier when it holds every block there. -/
theorem Index.lookup_query_of_held (ix : Index) (e : String) (blockSize : ν)
    {requestKeys : List RequestKey} (nonempty : requestKeys ≠ [])
    (held : ∀ rk ∈ requestKeys, ix.EngineHolds e rk) :
    ∃ hit, (ix.query requestKeys blockSize).instances.lookup e = some hit ∧
      hit.longestMatched = requestKeys.length • blockSize ∧
      ((∀ rk ∈ requestKeys, ∃ r, ix.Holds r rk ∧ r.engineID = e ∧ r.tier = tierGPU) →
        hit.gpu = requestKeys.length • blockSize) := by
  have first : hitFrom blockSize none (requestKeys.map (ix.blockInfo blockSize e)) =
      hitFrom blockSize (some .zero) (requestKeys.map (ix.blockInfo blockSize e)) := by
    cases requestKeys with
    | nil => exact absurd rfl nonempty
    | cons rk rest =>
        have contributes : (ix.blockInfo blockSize e rk).isSome :=
          blockInfo_isSome_iff.mpr (held rk List.mem_cons_self)
        obtain ⟨bi, info⟩ := Option.isSome_iff_exists.mp contributes
        simp only [List.map_cons, info, hitFrom, Option.getD_none, Option.getD_some]
  have contributes : ∀ b ∈ requestKeys.map (ix.blockInfo blockSize e), b.isSome := by
    intro b member
    obtain ⟨rk, inKeys, rfl⟩ := List.mem_map.mp member
    exact blockInfo_isSome_iff.mpr (held rk inKeys)
  obtain ⟨hit, walk, longest, gpu⟩ := hitFrom_of_isSome contributes .zero
  refine ⟨hit, by rw [lookup_query, first, walk], by simpa [InstanceHit.zero] using longest, ?_⟩
  intro onGPU
  refine (gpu fun bi member => ?_).trans (by simp [InstanceHit.zero])
  obtain ⟨rk, inKeys, info⟩ := List.mem_map.mp member
  exact (mem_tiers_blockInfo info tierGPU).mpr (onGPU rk inKeys)

end KvIndexer.Residency
