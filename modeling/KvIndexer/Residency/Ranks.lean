import KvIndexer.Residency.History
import KvIndexer.Residency.Prefix
import Mathlib.Algebra.BigOperators.Group.Finset.Basic

/-!
Hits per dp rank.

A block counts for a rank once for every tier in which the rank holds it, since the
count grows with every holder of the block and not with the block (`rankTokens_query`).
The match counts each block once. So a rank's count is that of its blocks exactly when it
holds no matched block in two tiers (`rankHits_iff`); a block that was offloaded and is
still on the device counts twice. That is as long as the counts do not wrap, which they do
once the blocks or the holders times the block size reach `2^63`.
-/

namespace KvIndexer.Residency

/-- `ih.DP[r]`, zero when there is no entry. -/
def InstanceHit.rankTokens {ν : Type} [Counter ν] (hit : InstanceHit ν) (dpRank : Int) : ν :=
  (hit.dp.lookup (itoa dpRank)).getD 0

namespace Index

/-- The holders of `rk` that belong to the rank of the engine: one for each tier. -/
def rankHolders (ix : Index) (engineID : String) (dpRank : Int) (rk : RequestKey) :
    Finset Resident :=
  (ix.entryOf rk).keys.filter fun r => r.engineID = engineID ∧ r.dpRank = dpRank

/-- The rank of the engine holds `rk` in some tier. -/
def RankHolds (ix : Index) (engineID : String) (dpRank : Int) (rk : RequestKey) : Prop :=
  ∃ tier, ix.Holds ⟨engineID, dpRank, tier⟩ rk

variable {ix : Index} {e : String} {dpRank : Int} {rk : RequestKey}

theorem mem_rankHolders {r : Resident} :
    r ∈ ix.rankHolders e dpRank rk ↔ ix.Holds r rk ∧ r.engineID = e ∧ r.dpRank = dpRank := by
  rw [rankHolders, Finset.mem_filter, Finmap.mem_keys]
  rfl

theorem rankHolds_iff : ix.RankHolds e dpRank rk ↔ 0 < (ix.rankHolders e dpRank rk).card := by
  rw [Finset.card_pos]
  constructor
  · rintro ⟨tier, holds⟩
    exact ⟨_, mem_rankHolders.mpr ⟨holds, rfl, rfl⟩⟩
  · rintro ⟨⟨engine, rank, tier⟩, member⟩
    obtain ⟨holds, rfl, rfl⟩ := mem_rankHolders.mp member
    exact ⟨tier, holds⟩

instance (ix : Index) (e : String) (dpRank : Int) (rk : RequestKey) :
    Decidable (ix.RankHolds e dpRank rk) :=
  decidable_of_iff _ rankHolds_iff.symm

/-- The rank holds `rk` in one tier at most. -/
def InOneTier (ix : Index) (engineID : String) (dpRank : Int) (rk : RequestKey) : Prop :=
  ∀ tier tier', ix.Holds ⟨engineID, dpRank, tier⟩ rk → ix.Holds ⟨engineID, dpRank, tier'⟩ rk →
    tier = tier'

theorem inOneTier_iff :
    ix.InOneTier e dpRank rk ↔ (ix.rankHolders e dpRank rk).card ≤ 1 := by
  rw [Finset.card_le_one]
  constructor
  · rintro single ⟨engine, rank, tier⟩ first ⟨engine', rank', tier'⟩ second
    obtain ⟨holds, rfl, rfl⟩ := mem_rankHolders.mp first
    obtain ⟨holds', sameEngine, sameRank⟩ := mem_rankHolders.mp second
    dsimp only at sameEngine sameRank
    subst sameEngine sameRank
    rw [single tier tier' holds holds']
  · intro single tier tier' holds holds'
    have same := single _ (mem_rankHolders.mpr ⟨holds, rfl, rfl⟩) _
      (mem_rankHolders.mpr ⟨holds', rfl, rfl⟩)
    exact congrArg Resident.tier same

end Index

section Counting

variable {ν : Type} [Counter ν]

/-! ### One block -/

theorem lookup_addTokens_getD (m : GoMap String ν) (k k' : String) (n : ν) :
    ((addTokens m k n).lookup k').getD 0 = (m.lookup k').getD 0 + if k' = k then n else 0 := by
  rw [lookup_addTokens]
  split
  · rename_i here
    rw [here, Option.getD_some]
  · rw [add_zero]

/-- A map of counters is added key by key. -/
theorem lookup_foldl_addTokens (dp m : GoMap String ν) (k : String) :
    ((dp.foldl addTokens (fun m _ _ _ _ => addTokens_comm m _ _ _ _) m).lookup k).getD 0 =
      (m.lookup k).getD 0 + (dp.lookup k).getD 0 := by
  obtain ⟨⟨entries⟩, distinct⟩ := dp
  have loop : ∀ (entries : List (Sigma fun _ : String => ν)) (m : GoMap String ν),
      entries.NodupKeys →
      ((entries.foldl (fun m s => addTokens m s.1 s.2) m).lookup k).getD 0 =
        (m.lookup k).getD 0 + (entries.dlookup k).getD 0 := by
    intro entries
    induction entries with
    | nil => exact fun m _ => (add_zero _).symm
    | cons entry entries ih =>
        intro m distinct
        obtain ⟨fresh, rest⟩ := List.nodupKeys_cons.mp distinct
        rw [List.foldl_cons, ih _ rest, lookup_addTokens_getD]
        by_cases here : k = entry.1
        · subst here
          have absent : entries.dlookup entry.1 = none := List.dlookup_eq_none.mpr fresh
          rw [if_pos rfl, absent, List.dlookup_cons_eq, Option.getD_none, Option.getD_some,
            add_zero]
        · rw [if_neg here, List.dlookup_cons_ne _ _ here, add_zero]
  exact loop entries m distinct

namespace Index

variable {ix : Index} {e : String} {blockSize : ν} {rk : RequestKey}

/-- The count of one block: the block size for every holder of the rank. -/
theorem dp_blockInfo {bi : BlockInfo ν} (info : ix.blockInfo blockSize e rk = some bi)
    (dpRank : Int) :
    (bi.dp.lookup (itoa dpRank)).getD 0 = (ix.rankHolders e dpRank rk).card • blockSize := by
  have counted := GoMap.groupFold_induction Resident.engineID (addHolder blockSize)
    (addHolder_comm blockSize)
    (motive := fun s d => ((d.getD ⟨∅, ∅⟩).dp.lookup (itoa dpRank)).getD 0 =
      (s.countP fun x => x.1.dpRank = dpRank) • blockSize)
    (ix.entryOf rk) e (by simp)
    (fun s d r ts holds => by
      rw [Option.getD_some, addHolder, lookup_addTokens_getD, holds, Multiset.countP_cons]
      by_cases here : r.dpRank = dpRank
      · rw [if_pos (by rw [here]), if_pos here, succ_nsmul]
      · rw [if_neg fun same => here (itoa_injective same).symm, if_neg here, add_zero,
          Nat.add_zero])
  have reading : (GoMap.groupFold Resident.engineID (addHolder blockSize)
    (addHolder_comm blockSize) (ix.entryOf rk)).lookup e = some bi := info
  rw [reading, Option.getD_some] at counted
  rw [counted]
  congr 1
  -- the holders of the rank are the keys of these entries
  rw [GoMap.groupEntries, Multiset.countP_filter, Multiset.countP_eq_card_filter, rankHolders,
    Finset.card_def, Finset.filter_val]
  have keys : (ix.entryOf rk).keys.val = (ix.entryOf rk).entries.map Sigma.fst := rfl
  rw [keys, Multiset.filter_map, Multiset.card_map]
  refine congrArg Multiset.card (Multiset.filter_congr fun x _ => ?_)
  exact and_comm

/-- The holds of the rank on the blocks. -/
def countHolders (ix : Index) (engineID : String) (dpRank : Int)
    (requestKeys : List RequestKey) : Nat :=
  (requestKeys.map fun rk => (ix.rankHolders engineID dpRank rk).card).sum

end Index

/-! ### The walk of one engine -/

theorem rankTokens_addBlock (blockSize : ν) (bi : BlockInfo ν) (ih : InstanceHit ν)
    (dpRank : Int) :
    (addBlock blockSize bi ih).rankTokens dpRank =
      ih.rankTokens dpRank + (bi.dp.lookup (itoa dpRank)).getD 0 :=
  lookup_foldl_addTokens bi.dp ih.dp (itoa dpRank)

/-- The count of a rank grows by the block size for every holder of a matched block. -/
theorem rankTokens_hitFrom (ix : Index) (e : String) (blockSize : ν) (dpRank : Int)
    (requestKeys : List RequestKey) (ih : InstanceHit ν) {hit : InstanceHit ν}
    (walk : hitFrom blockSize (some ih) (requestKeys.map (ix.blockInfo blockSize e)) = some hit) :
    hit.rankTokens dpRank = ih.rankTokens dpRank +
      ix.countHolders e dpRank (ix.heldRun e requestKeys) • blockSize := by
  induction requestKeys generalizing ih with
  | nil =>
      obtain rfl : ih = hit := Option.some.inj walk
      simp [Index.heldRun, Index.countHolders]
  | cons rk requestKeys rest =>
      rw [List.map_cons] at walk
      cases info : ix.blockInfo blockSize e rk with
      | none =>
          rw [info] at walk
          obtain rfl : ih = hit := Option.some.inj walk
          rw [Index.heldRun_cons_none info]
          simp [Index.countHolders]
      | some bi =>
          rw [info, hitFrom, Option.getD_some] at walk
          rw [rest _ walk, rankTokens_addBlock, Index.dp_blockInfo info,
            Index.heldRun_cons_some info, add_assoc, ← add_nsmul]
          rfl

namespace Index

/-- The count of a rank in an answer, over the matched blocks. -/
theorem rankTokens_query (ix : Index) (requestKeys : List RequestKey) (blockSize : ν)
    (e : String) {hit : InstanceHit ν}
    (found : (ix.query requestKeys blockSize).instances.lookup e = some hit) (dpRank : Int) :
    hit.rankTokens dpRank =
      ix.countHolders e dpRank (ix.heldRun e requestKeys) • blockSize := by
  rw [lookup_query] at found
  rw [rankTokens_hitFrom ix e blockSize dpRank requestKeys .zero (hitFrom_zero found)]
  exact zero_add _

end Index

end Counting

/-- Counts add up to at least the number of elements that count. -/
theorem countP_le_sum_map {α : Type} (f : α → Nat) (xs : List α) :
    xs.countP (0 < f ·) ≤ (xs.map f).sum := by
  induction xs with
  | nil => exact Nat.le_refl 0
  | cons x xs ih =>
      rw [List.countP_cons, List.map_cons, List.sum_cons]
      split
      · rename_i counts
        have := of_decide_eq_true counts
        omega
      · omega

/-- They add up to that number exactly when each element counts once at most. -/
theorem sum_map_eq_countP_iff {α : Type} (f : α → Nat) (xs : List α) :
    (xs.map f).sum = xs.countP (0 < f ·) ↔ ∀ x ∈ xs, f x ≤ 1 := by
  induction xs with
  | nil => simp
  | cons x xs ih =>
      have rest := countP_le_sum_map f xs
      rw [List.forall_mem_cons, List.map_cons, List.sum_cons, List.countP_cons, ← ih]
      by_cases counts : 0 < f x
      · rw [if_pos (decide_eq_true counts)]
        omega
      · rw [if_neg (by simpa using counts)]
        omega

namespace Index

/-- A rank's count is that of its matched blocks, and so within the match. -/
def RankHitsBounded (ix : Index) (requestKeys : List RequestKey) (blockSize : Int64) (e : String)
    (hit : InstanceHit) (dpRank : Int) : Prop :=
  (hit.rankTokens dpRank).toInt =
      blockSize.toInt * (ix.heldRun e requestKeys).countP (ix.RankHolds e dpRank ·) ∧
    hit.rankTokens dpRank ≤ hit.longestMatched

/-- The tokens of the matched blocks fit a Go `int`, and so do those of the rank's holds on
them. -/
structure CountsFit (ix : Index) (requestKeys : List RequestKey) (blockSize : Int64) (e : String)
    (dpRank : Int) : Prop where
  matched : blockSize.toInt * (ix.heldRun e requestKeys).length < 2 ^ 63
  holders : blockSize.toInt * ix.countHolders e dpRank (ix.heldRun e requestKeys) < 2 ^ 63

instance (ix : Index) (requestKeys : List RequestKey) (blockSize : Int64) (e : String)
    (dpRank : Int) : Decidable (ix.CountsFit requestKeys blockSize e dpRank) :=
  decidable_of_iff (_ ∧ _) ⟨fun fit => ⟨fit.1, fit.2⟩, fun fit => ⟨fit.matched, fit.holders⟩⟩

/-- Where the counts fit, a rank's count is that of its matched blocks exactly when it holds none
of them in two tiers. -/
theorem rankHits_iff (ix : Index) (requestKeys : List RequestKey) {blockSize : Int64}
    (positive : 0 < blockSize.toInt) (e : String) {hit : InstanceHit}
    (found : (ix.query requestKeys blockSize).instances.lookup e = some hit) (dpRank : Int)
    (fit : ix.CountsFit requestKeys blockSize e dpRank) :
    RankHitsBounded ix requestKeys blockSize e hit dpRank ↔
      ∀ rk ∈ ix.heldRun e requestKeys, ix.InOneTier e dpRank rk := by
  have counted : (hit.rankTokens dpRank).toInt =
      blockSize.toInt * ix.countHolders e dpRank (ix.heldRun e requestKeys) := by
    rw [rankTokens_query ix requestKeys blockSize e found dpRank]
    exact Counter.toInt_nsmul_int64 positive.le fit.holders
  have longest : hit.longestMatched.toInt =
      blockSize.toInt * (ix.heldRun e requestKeys).length := by
    rw [(lookup_query_heldRun ix requestKeys blockSize e found).1]
    exact Counter.toInt_nsmul_int64 positive.le fit.matched
  have blocks : (ix.heldRun e requestKeys).countP (ix.RankHolds e dpRank ·) =
      (ix.heldRun e requestKeys).countP (fun rk => 0 < (ix.rankHolders e dpRank rk).card) := by
    refine List.countP_congr fun rk _ => ?_
    rw [decide_eq_true_eq, decide_eq_true_eq, rankHolds_iff]
  simp only [inOneTier_iff]
  rw [← sum_map_eq_countP_iff, RankHitsBounded, Int64.le_iff_toInt_le, blocks, counted, longest]
  constructor
  · rintro ⟨equal, -⟩
    exact Int.ofNat_inj.mp (Int.eq_of_mul_eq_mul_left positive.ne' equal)
  · intro equal
    rw [countHolders, equal]
    exact ⟨rfl, Int.mul_le_mul_of_nonneg_left (Int.ofNat_le.mpr List.countP_le_length) positive.le⟩

/-- A block on the device is offloaded to the host and kept. -/
def offloaded : List Op :=
  [.storeEvent "a" 0 tierGPU [1] [7] 1, .storeEventByEngineKeys "a" 0 tierCPU [1] 2]

/-- The rank holds one block, and it counts twice. -/
theorem not_rankHitsBounded : ¬ ∀ (ops : List Op) (requestKeys : List RequestKey)
    (blockSize : Int64), 0 < blockSize.toInt → ∀ e hit,
      ((after ops).query requestKeys blockSize).instances.lookup e = some hit → ∀ dpRank,
        RankHitsBounded (after ops) requestKeys blockSize e hit dpRank := by
  intro always
  have present : (((after offloaded).query [7] (16 : Int64)).instances.lookup "a").isSome := by
    decide +kernel
  obtain ⟨hit, found⟩ := Option.isSome_iff_exists.mp present
  have equal := (always offloaded [7] 16 (by decide) "a" hit found 0).1
  rw [rankTokens_query _ _ _ _ found] at equal
  revert equal
  decide +kernel

/-- Before the block is offloaded it counts once. -/
theorem rankHitsBounded_device :
    ∃ hit, RankHitsBounded (after (offloaded.take 1)) [7] 16 "a" hit 0 := by
  have present :
      (((after (offloaded.take 1)).query [7] (16 : Int64)).instances.lookup "a").isSome := by
    decide +kernel
  obtain ⟨hit, found⟩ := Option.isSome_iff_exists.mp present
  refine ⟨hit, (rankHits_iff _ [7] (by decide) "a" found 0 (by decide +kernel)).mpr ?_⟩
  intro rk member
  have run : (after (offloaded.take 1)).heldRun "a" [7] = [7] := by decide +kernel
  rw [run] at member
  obtain rfl := List.mem_singleton.mp member
  exact inOneTier_iff.mpr (by decide +kernel)

end Index

end KvIndexer.Residency
