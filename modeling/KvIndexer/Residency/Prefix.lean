import KvIndexer.Residency.Hit
import Mathlib.Data.List.TakeWhile
import Mathlib.Order.Bounds.Defs

/-!
The full specification of a query.

An engine's match is its run of held blocks from the front (`heldRun`), and each
count of its hit is the block size times a count over that run
(`hitFrom_heldRun`). The run is as long as it can be (`isGreatest_heldRun`), so
`query_spec` reads without it: the match is the greatest prefix held in some dp rank
and tier, and the counts are those of its blocks in the device tier, in the device
or host tier, and in any tier.

A count wraps in a Go `int`. Nothing wraps as long as the block size times the number of
keys fits (`toInt_query`), and that is so for the keys of a prompt
(`blockSize_mul_length_le`). Beyond it the counts are off: two blocks of `2^62` tokens count
as `-2^63`.
-/

namespace KvIndexer.Residency

/-- A first run of elements with a property is as long as such a run can be. -/
theorem isGreatest_length_takeWhile {α : Type} {p : α → Bool} (xs : List α) :
    IsGreatest {k | k ≤ xs.length ∧ ∀ x ∈ xs.take k, p x = true} (xs.takeWhile p).length := by
  constructor
  · refine ⟨(List.takeWhile_prefix p).length_le, fun x member => ?_⟩
    rw [← List.prefix_iff_eq_take.mp (List.takeWhile_prefix p)] at member
    exact List.mem_takeWhile_imp member
  · rintro k ⟨inside, all⟩
    have run : (xs.take k ++ xs.drop k).takeWhile p =
        xs.take k ++ (xs.drop k).takeWhile p := List.takeWhile_append_of_pos all
    rw [List.take_append_drop] at run
    rw [run, List.length_append, List.length_take, Nat.min_eq_left inside]
    exact Nat.le_add_right k _

namespace Index

/-- The engine holds `rk` in the tier, in some dp rank. -/
def TierHolds (ix : Index) (engineID tier : String) (rk : RequestKey) : Prop :=
  ∃ r, ix.Holds r rk ∧ r.engineID = engineID ∧ r.tier = tier

instance (ix : Index) (engineID tier : String) (rk : RequestKey) :
    Decidable (ix.TierHolds engineID tier rk) :=
  decidable_of_iff (∃ r ∈ (ix.entryOf rk).keys, r.engineID = engineID ∧ r.tier = tier) <|
    exists_congr fun _ => and_congr_left' Finmap.mem_keys

/-- The blocks the engine holds contiguously from the front. -/
def heldRun (ix : Index) (engineID : String) (requestKeys : List RequestKey) : List RequestKey :=
  requestKeys.takeWhile fun rk => ix.EngineHolds engineID rk

/-- How many of the blocks the engine holds in one of the tiers. -/
def countInTiers (ix : Index) (engineID : String) (tiers : List String)
    (requestKeys : List RequestKey) : Nat :=
  requestKeys.countP fun rk => ∃ tier ∈ tiers, ix.TierHolds engineID tier rk

variable {ν : Type} [Counter ν] {ix : Index} {e : String} {blockSize : ν}

theorem heldRun_cons (rk : RequestKey) (requestKeys : List RequestKey) :
    ix.heldRun e (rk :: requestKeys) =
      if ix.EngineHolds e rk then rk :: ix.heldRun e requestKeys else [] := by
  simp only [heldRun, List.takeWhile_cons, decide_eq_true_eq]

theorem heldRun_cons_none {rk : RequestKey} (info : ix.blockInfo blockSize e rk = none)
    (requestKeys : List RequestKey) : ix.heldRun e (rk :: requestKeys) = [] := by
  have missing : ¬ ix.EngineHolds e rk := by
    rw [← @blockInfo_isSome_iff ν _ ix blockSize e rk, info]
    simp
  rw [heldRun_cons, if_neg missing]

theorem heldRun_cons_some {rk : RequestKey} {bi : BlockInfo ν}
    (info : ix.blockInfo blockSize e rk = some bi) (requestKeys : List RequestKey) :
    ix.heldRun e (rk :: requestKeys) = rk :: ix.heldRun e requestKeys := by
  have held : ix.EngineHolds e rk := by
    rw [← @blockInfo_isSome_iff ν _ ix blockSize e rk, info]
    rfl
  rw [heldRun_cons, if_pos held]

theorem engineHolds_of_mem_heldRun {rk : RequestKey} {requestKeys : List RequestKey}
    (member : rk ∈ ix.heldRun e requestKeys) : ix.EngineHolds e rk := by
  have holds := List.mem_takeWhile_imp member
  simpa only [decide_eq_true_eq] using holds

theorem isGreatest_heldRun (requestKeys : List RequestKey) :
    IsGreatest {k | k ≤ requestKeys.length ∧ ∀ rk ∈ requestKeys.take k, ix.EngineHolds e rk}
      (ix.heldRun e requestKeys).length := by
  have greatest := @isGreatest_length_takeWhile _ (fun rk => ix.EngineHolds e rk) requestKeys
  simp only [decide_eq_true_eq] at greatest
  exact greatest

theorem take_length_heldRun (requestKeys : List RequestKey) :
    requestKeys.take (ix.heldRun e requestKeys).length = ix.heldRun e requestKeys :=
  (List.prefix_iff_eq_take.mp (List.takeWhile_prefix _)).symm

theorem countInTiers_le_length (tiers : List String) (requestKeys : List RequestKey) :
    ix.countInTiers e tiers requestKeys ≤ requestKeys.length :=
  List.countP_le_length

/-- More tiers count more blocks. -/
theorem countInTiers_mono {tiers tiers' : List String} (sub : tiers ⊆ tiers')
    (requestKeys : List RequestKey) :
    ix.countInTiers e tiers requestKeys ≤ ix.countInTiers e tiers' requestKeys := by
  refine List.countP_mono_left fun rk _ counted => ?_
  obtain ⟨tier, member, holds⟩ := of_decide_eq_true counted
  exact decide_eq_true ⟨tier, sub member, holds⟩

/-- One block counts when the engine holds it in one of the tiers. -/
theorem countInTiers_cons (tiers : List String) (rk : RequestKey) (requestKeys : List RequestKey) :
    ix.countInTiers e tiers (rk :: requestKeys) =
      ix.countInTiers e tiers requestKeys +
        if ∃ tier ∈ tiers, ix.TierHolds e tier rk then 1 else 0 := by
  simp only [countInTiers, List.countP_cons, decide_eq_true_eq]

end Index

/-! ### The walk of one engine -/

section Walk

variable {ν : Type} [Counter ν]

/-- Each count of a hit grows by the block size for every block of the run that has it. -/
theorem hitFrom_heldRun (ix : Index) (e : String) (blockSize : ν) (requestKeys : List RequestKey)
    (ih : InstanceHit ν) :
    ∃ hit, hitFrom blockSize (some ih) (requestKeys.map (ix.blockInfo blockSize e)) = some hit ∧
      hit.longestMatched = ih.longestMatched + (ix.heldRun e requestKeys).length • blockSize ∧
      hit.gpu = ih.gpu +
        ix.countInTiers e [tierGPU] (ix.heldRun e requestKeys) • blockSize ∧
      hit.cpu = ih.cpu +
        ix.countInTiers e [tierGPU, tierCPU] (ix.heldRun e requestKeys) • blockSize ∧
      hit.disk = ih.disk + (ix.heldRun e requestKeys).length • blockSize := by
  have grown : ∀ (count : ν) (n : Nat), count + blockSize + n • blockSize =
      count + (n + 1) • blockSize := by
    intro count n
    rw [succ_nsmul', add_assoc]
  induction requestKeys generalizing ih with
  | nil => exact ⟨ih, rfl, by simp [Index.heldRun, Index.countInTiers]⟩
  | cons rk requestKeys rest =>
      rw [List.map_cons]
      cases info : ix.blockInfo blockSize e rk with
      | none =>
          rw [Index.heldRun_cons_none info]
          exact ⟨ih, rfl, by simp [Index.countInTiers]⟩
      | some bi =>
          have tiers : ∀ tier, tier ∈ bi.tiers ↔ ix.TierHolds e tier rk :=
            Index.mem_tiers_blockInfo info
          rw [Index.heldRun_cons_some info]
          obtain ⟨hit, walk, longest, gpu, cpu, disk⟩ := rest (addBlock blockSize bi ih)
          refine ⟨hit, walk, ?_, ?_, ?_, ?_⟩
          · rw [longest, List.length_cons]
            exact grown ih.longestMatched _
          · rw [gpu, Index.countInTiers_cons]
            simp only [addBlock, tiers, List.mem_singleton, exists_eq_left]
            split
            · exact grown ih.gpu _
            · rw [Nat.add_zero]
          · rw [cpu, Index.countInTiers_cons]
            simp only [addBlock, tiers, List.mem_cons, List.not_mem_nil, or_false,
              exists_eq_or_imp, exists_eq_left]
            split
            · exact grown ih.cpu _
            · rw [Nat.add_zero]
          · rw [disk, List.length_cons]
            exact grown ih.disk _

namespace Index

/-- An engine is in the answer exactly when it holds block 0. -/
theorem lookup_query_isSome (ix : Index) (rk : RequestKey) (requestKeys : List RequestKey)
    (blockSize : ν) (e : String) :
    ((ix.query (rk :: requestKeys) blockSize).instances.lookup e).isSome ↔
      ix.EngineHolds e rk := by
  rw [lookup_query, List.map_cons, ← @blockInfo_isSome_iff ν _ ix blockSize e rk]
  cases info : ix.blockInfo blockSize e rk with
  | none => simp [hitFrom]
  | some bi =>
      obtain ⟨hit, walk, -⟩ :=
        hitFrom_heldRun ix e blockSize requestKeys (addBlock blockSize bi .zero)
      rw [hitFrom, Option.getD_none, walk]
      simp

/-- An engine is in the answer exactly when it holds the first block. -/
theorem mem_query (ix : Index) {requestKeys : List RequestKey} (nonempty : requestKeys ≠ [])
    (blockSize : ν) (e : String) :
    e ∈ (ix.query requestKeys blockSize).instances ↔
      ix.EngineHolds e (requestKeys.head nonempty) := by
  cases requestKeys with
  | nil => exact absurd rfl nonempty
  | cons rk rest =>
      rw [List.head_cons, ← lookup_query_isSome ix rk rest blockSize e, Finmap.lookup_isSome]

/-- The hit of an engine, counted over its run. -/
theorem lookup_query_heldRun (ix : Index) (requestKeys : List RequestKey) (blockSize : ν)
    (e : String) {hit : InstanceHit ν}
    (found : (ix.query requestKeys blockSize).instances.lookup e = some hit) :
    hit.longestMatched = (ix.heldRun e requestKeys).length • blockSize ∧
      hit.gpu = ix.countInTiers e [tierGPU] (ix.heldRun e requestKeys) • blockSize ∧
      hit.cpu = ix.countInTiers e [tierGPU, tierCPU] (ix.heldRun e requestKeys) • blockSize ∧
      hit.disk = (ix.heldRun e requestKeys).length • blockSize := by
  rw [lookup_query] at found
  obtain ⟨hit', walk, counts⟩ := hitFrom_heldRun ix e blockSize requestKeys .zero
  rw [hitFrom_zero found] at walk
  obtain rfl := Option.some.inj walk
  simpa only [InstanceHit.zero, zero_add] using counts

end Index

end Walk

/-! ### Counts that fit -/

namespace Index

section Fits

open Counter

variable {ν : Type} [Counter ν] (ix : Index) (requestKeys : List RequestKey) {blockSize : ν}
  (nonneg : 0 ≤ toInt blockSize) (fits : Fits ν (toInt blockSize * requestKeys.length))
  (e : String) {hit : InstanceHit ν}
  (found : (ix.query requestKeys blockSize).instances.lookup e = some hit)

theorem length_heldRun_le : (ix.heldRun e requestKeys).length ≤ requestKeys.length :=
  (isGreatest_heldRun requestKeys).1.1

include nonneg fits

/-- A number of blocks within those asked for is counted without wrapping. -/
theorem toInt_nsmul_of_le {n : Nat} (le : n ≤ requestKeys.length) :
    toInt (n • blockSize) = toInt blockSize * n :=
  toInt_nsmul nonneg (fits_mul_of_le nonneg le fits)

include found

/-- The numbers of a hit, when those of all the blocks asked for fit. -/
theorem toInt_query :
    toInt hit.longestMatched = toInt blockSize * (ix.heldRun e requestKeys).length ∧
      toInt hit.gpu =
        toInt blockSize * ix.countInTiers e [tierGPU] (ix.heldRun e requestKeys) ∧
      toInt hit.cpu =
        toInt blockSize * ix.countInTiers e [tierGPU, tierCPU] (ix.heldRun e requestKeys) ∧
      toInt hit.disk = toInt blockSize * (ix.heldRun e requestKeys).length := by
  obtain ⟨longest, gpu, cpu, disk⟩ := lookup_query_heldRun ix requestKeys blockSize e found
  have whole := length_heldRun_le ix requestKeys e
  have counted : ∀ tiers, ix.countInTiers e tiers (ix.heldRun e requestKeys) ≤
      requestKeys.length := fun tiers => (countInTiers_le_length tiers _).trans whole
  rw [longest, gpu, cpu, disk]
  exact ⟨toInt_nsmul_of_le requestKeys nonneg fits whole,
    toInt_nsmul_of_le requestKeys nonneg fits (counted _),
    toInt_nsmul_of_le requestKeys nonneg fits (counted _),
    toInt_nsmul_of_le requestKeys nonneg fits whole⟩

/-- The tier counts of a hit are cumulative. -/
theorem tiers_cumulative :
    toInt hit.gpu ≤ toInt hit.cpu ∧ toInt hit.cpu ≤ toInt hit.disk := by
  obtain ⟨-, gpu, cpu, disk⟩ := toInt_query ix requestKeys nonneg fits e found
  have gpuCPU := @countInTiers_mono ix e _ _
    (List.cons_subset_cons tierGPU (List.nil_subset [tierCPU])) (ix.heldRun e requestKeys)
  have cpuDisk := @countInTiers_le_length ix e [tierGPU, tierCPU] (ix.heldRun e requestKeys)
  constructor
  · rw [gpu, cpu]
    exact Int.mul_le_mul_of_nonneg_left (Int.ofNat_le.mpr gpuCPU) nonneg
  · rw [cpu, disk]
    exact Int.mul_le_mul_of_nonneg_left (Int.ofNat_le.mpr cpuDisk) nonneg

theorem toInt_gpu_nonneg : 0 ≤ toInt hit.gpu := by
  rw [(toInt_query ix requestKeys nonneg fits e found).2.1]
  exact Int.mul_nonneg nonneg (Int.natCast_nonneg _)

/-- A match is at most all the blocks asked for. -/
theorem longestMatched_le : toInt hit.longestMatched ≤ toInt blockSize * requestKeys.length := by
  rw [(toInt_query ix requestKeys nonneg fits e found).1]
  exact Int.mul_le_mul_of_nonneg_left (Int.ofNat_le.mpr (length_heldRun_le ix requestKeys e)) nonneg

end Fits

/-- What a query answers for one engine whose counts fit: it is present exactly when it holds
block 0, its match is its greatest held prefix, and each tier count is over that prefix. -/
theorem query_spec (ix : Index) (requestKeys : List RequestKey) (nonempty : requestKeys ≠ [])
    (blockSize : Int64) (positive : 0 < blockSize.toInt)
    (fits : blockSize.toInt * requestKeys.length < 2 ^ 63) (e : String) :
    (e ∈ (ix.query requestKeys blockSize).instances ↔
      ix.EngineHolds e (requestKeys.head nonempty)) ∧
    ∀ hit, (ix.query requestKeys blockSize).instances.lookup e = some hit →
      ∃ k, IsGreatest {k | k ≤ requestKeys.length ∧
            ∀ rk ∈ requestKeys.take k, ix.EngineHolds e rk} k ∧
        hit.longestMatched.toInt = blockSize.toInt * k ∧
        hit.gpu.toInt = blockSize.toInt * (requestKeys.take k).countP (ix.TierHolds e tierGPU ·) ∧
        hit.cpu.toInt = blockSize.toInt * (requestKeys.take k).countP
          (fun rk => ix.TierHolds e tierGPU rk ∨ ix.TierHolds e tierCPU rk) ∧
        hit.disk.toInt = blockSize.toInt * (requestKeys.take k).countP (ix.EngineHolds e ·) ∧
        hit.gpu ≤ hit.cpu ∧ hit.cpu ≤ hit.disk ∧ hit.disk = hit.longestMatched := by
  constructor
  · exact ix.mem_query nonempty blockSize e
  · intro hit found
    obtain ⟨longest, gpu, cpu, disk⟩ := toInt_query ix requestKeys positive.le fits e found
    obtain ⟨longest', -, -, disk'⟩ := lookup_query_heldRun ix requestKeys blockSize e found
    have allHeld : (ix.heldRun e requestKeys).countP (ix.EngineHolds e ·) =
        (ix.heldRun e requestKeys).length :=
      List.countP_eq_length.mpr fun rk member => decide_eq_true (engineHolds_of_mem_heldRun member)
    obtain ⟨gpuCPU, cpuDisk⟩ := tiers_cumulative ix requestKeys positive.le fits e found
    refine ⟨(ix.heldRun e requestKeys).length, isGreatest_heldRun requestKeys, longest, ?_, ?_, ?_,
      Int64.le_iff_toInt_le.mpr gpuCPU, Int64.le_iff_toInt_le.mpr cpuDisk,
      disk'.trans longest'.symm⟩
    · have gpu : hit.gpu.toInt = blockSize.toInt * _ := gpu
      simpa [take_length_heldRun, countInTiers] using gpu
    · have cpu : hit.cpu.toInt = blockSize.toInt * _ := cpu
      simpa [take_length_heldRun, countInTiers] using cpu
    · rw [take_length_heldRun, allHeld]
      exact disk

/-- One engine with a block on the device and one on the host. -/
def tieredBlocks : Index :=
  (newIndex.storeEvent "a" 0 tierGPU [] [7] 1).storeEvent "a" 1 tierCPU [] [8] 2

theorem tieredBlocks_hit :
    ∃ hit k, (tieredBlocks.query [7, 8, 7, 9] (16 : Int64)).instances.lookup "a" = some hit ∧
      hit.longestMatched.toInt = 16 * (k : Nat) ∧
      hit.gpu ≤ hit.cpu ∧ hit.cpu ≤ hit.disk ∧ hit.disk = hit.longestMatched := by
  obtain ⟨present, counts⟩ := query_spec tieredBlocks [7, 8, 7, 9] (by decide) 16 (by decide)
    (by decide) "a"
  have held : tieredBlocks.EngineHolds "a" 7 := ⟨⟨"a", 0, tierGPU⟩, by decide, rfl⟩
  obtain ⟨hit, found⟩ := Finmap.mem_iff.mp (present.mpr held)
  obtain ⟨k, -, longest, -, -, -, tiers⟩ := counts hit found
  exact ⟨hit, k, found, longest, tiers⟩

example : (((tieredBlocks.query [7, 8, 7, 9] (16 : Int64)).instances.lookup "a").map fun hit =>
    (hit.longestMatched, hit.gpu, hit.cpu, hit.disk)) = some (48, 32, 48, 48) := by
  decide +kernel

/-- Two held blocks of `2^62` tokens wrap. -/
theorem not_query_spec : ¬ ∀ (ix : Index) (requestKeys : List RequestKey) (blockSize : Int64),
    requestKeys ≠ [] → 0 < blockSize.toInt → ∀ e hit,
      (ix.query requestKeys blockSize).instances.lookup e = some hit →
        ∃ k, IsGreatest {k | k ≤ requestKeys.length ∧
            ∀ rk ∈ requestKeys.take k, ix.EngineHolds e rk} k ∧
          hit.longestMatched.toInt = blockSize.toInt * k := by
  intro always
  have wrapped :
      ((tieredBlocks.query [7, 8] (4611686018427387904 : Int64)).instances.lookup "a").map
        (·.longestMatched.toInt) = some (-9223372036854775808) := by decide +kernel
  obtain ⟨hit, found, negative⟩ := Option.map_eq_some_iff.mp wrapped
  obtain ⟨k, -, longest⟩ := always tieredBlocks [7, 8] 4611686018427387904 (by decide) (by decide)
    "a" hit found
  have size : (4611686018427387904 : Int64).toInt = 4611686018427387904 := by decide
  rw [negative, size] at longest
  omega

end Index

end KvIndexer.Residency
