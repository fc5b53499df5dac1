import KvIndexer.Admission.Exact
import KvIndexer.Residency.Prefix

/-!
The range of a hit.

A query's tier counts are cumulative and within its match, so the weighted credit of an
instance lies between zero and the match (`Counted.effectiveTokens_le`). Every
score is then above the threshold of `bestHit`, the range over the instances ends in a
true maximum, and what it writes down is in range (`bestHit_inRange`). The counts are Go
`int`s and must fit: beyond `2^63` tokens the match is negative (`not_inRange`).
-/

namespace KvIndexer.Admission.Exact

open Residency Counter

section Fits

variable {ν : Type} [Counter ν] {ix : Index} {requestKeys : List RequestKey} {blockSize : ν}

/-! ### One instance -/

/-- What a query answers for one instance. -/
structure Counted (keys : List RequestKey) (blockSize : ν) (inst : InstanceHit ν) : Prop where
  nonneg : 0 ≤ toInt inst.gpu
  gpu_le_cpu : toInt inst.gpu ≤ toInt inst.cpu
  cpu_le_disk : toInt inst.cpu ≤ toInt inst.disk
  disk_eq : inst.disk = inst.longestMatched
  within : toInt inst.longestMatched ≤ toInt blockSize * keys.length

theorem counted_query (nonneg : 0 ≤ toInt blockSize)
    (fits : Fits ν (toInt blockSize * requestKeys.length)) {e : String} {inst : InstanceHit ν}
    (found : (ix.query requestKeys blockSize).instances.lookup e = some inst) :
    Counted requestKeys blockSize inst := by
  obtain ⟨longest, -, -, disk⟩ := Index.lookup_query_heldRun ix requestKeys blockSize e found
  obtain ⟨gpuCPU, cpuDisk⟩ := Index.tiers_cumulative ix requestKeys nonneg fits e found
  exact ⟨Index.toInt_gpu_nonneg ix requestKeys nonneg fits e found, gpuCPU, cpuDisk,
    disk.trans longest.symm, Index.longestMatched_le ix requestKeys nonneg fits e found⟩

theorem Counted.effectiveTokens_nonneg {inst : InstanceHit ν}
    (counted : Counted requestKeys blockSize inst) : 0 ≤ effectiveTokens inst := by
  have gpu : (0 : ℚ) ≤ toInt inst.gpu := by exact_mod_cast counted.nonneg
  have cpu : (toInt inst.gpu : ℚ) ≤ toInt inst.cpu := by exact_mod_cast counted.gpu_le_cpu
  have disk : (toInt inst.cpu : ℚ) ≤ toInt inst.disk := by exact_mod_cast counted.cpu_le_disk
  rw [effectiveTokens_cumulative counted.nonneg counted.gpu_le_cpu counted.cpu_le_disk]
  linarith

/-- No tier weighs more than one. -/
theorem Counted.effectiveTokens_le {inst : InstanceHit ν}
    (counted : Counted requestKeys blockSize inst) :
    effectiveTokens inst ≤ toInt inst.longestMatched := by
  have cpu : (toInt inst.gpu : ℚ) ≤ toInt inst.cpu := by exact_mod_cast counted.gpu_le_cpu
  have disk : (toInt inst.cpu : ℚ) ≤ toInt inst.disk := by exact_mod_cast counted.cpu_le_disk
  rw [effectiveTokens_cumulative counted.nonneg counted.gpu_le_cpu counted.cpu_le_disk,
    ← counted.disk_eq]
  linarith

theorem truncate_le {q : ℚ} {n : Int} (nonneg : 0 ≤ q) (le : q ≤ n) : truncate q ≤ n := by
  rw [truncate, if_pos nonneg]
  exact_mod_cast (Int.floor_le q).trans le

/-! ### The best hit -/

/-- The hit reports an instance of the query, and none has a higher score. -/
def Hit.Attains (query : QueryResult ν) (hit : Hit) : Prop :=
  ∃ inst, query.instances.lookup hit.instanceID = some inst ∧
    hit.bestHitTokens = toInt inst.longestMatched ∧ hit.gpuTokens = toInt inst.gpu ∧
    hit.cpuTokens = toInt inst.cpu ∧ hit.diskTokens = toInt inst.disk ∧
    hit.effectiveCachedTokens = truncate (effectiveTokens inst) ∧
    ∀ id other, query.instances.lookup id = some other →
      effectiveTokens other ≤ effectiveTokens inst

/-- The numbers of a hit are in range, and the instance it reports is on top. -/
structure Hit.InRange (query : QueryResult ν) (asked : Int) (hit : Hit) : Prop where
  hitRatio_nonneg : 0 ≤ hit.hitRatio
  hitRatio_le_one : hit.hitRatio ≤ 1
  effective_nonneg : 0 ≤ hit.effectiveCachedTokens
  effective_le_best : hit.effectiveCachedTokens ≤ hit.bestHitTokens
  best_le : hit.bestHitTokens ≤ asked
  gpu_le_cpu : hit.gpuTokens ≤ hit.cpuTokens
  cpu_le_disk : hit.cpuTokens ≤ hit.diskTokens
  attains : query.instances ≠ ∅ → hit.Attains query

/-- A ratio of a credit that is not negative. -/
theorem hitRatio_withRatio_mem (inputTokens : Int) {hi : Hit} (unset : hi.hitRatio = 0)
    (nonneg : 0 ≤ hi.effectiveCachedTokens) :
    0 ≤ (hi.withRatio inputTokens).hitRatio ∧ (hi.withRatio inputTokens).hitRatio ≤ 1 := by
  rw [hitRatio_withRatio inputTokens unset]
  split
  · rename_i positive
    have denominator : (0 : ℚ) < inputTokens := by exact_mod_cast positive
    have covered : (0 : ℚ) ≤ (min hi.effectiveCachedTokens inputTokens : Int) := by
      exact_mod_cast le_min nonneg positive.le
    have part : ((min hi.effectiveCachedTokens inputTokens : Int) : ℚ) ≤ inputTokens := by
      exact_mod_cast min_le_right hi.effectiveCachedTokens inputTokens
    exact ⟨div_nonneg covered denominator.le, (div_le_one denominator).mpr part⟩
  · exact ⟨le_refl 0, zero_le_one⟩

/-- The ratio is all that is written last. -/
theorem withRatio_eq (inputTokens : Int) (hi : Hit) :
    hi.withRatio inputTokens = { hi with hitRatio := (hi.withRatio inputTokens).hitRatio } := by
  unfold Hit.withRatio
  split <;> rfl

section Query

variable (nonneg : 0 ≤ toInt blockSize) (fits : Fits ν (toInt blockSize * requestKeys.length))
  (order : InstanceOrder ν)

include nonneg fits

/-- Every range over the instances of a query ends in a hit in range. -/
theorem inRange_bestHitOf (inputTokens : Int) :
    (bestHitOf inputTokens (order (ix.query requestKeys blockSize).instances).entries).InRange
      (ix.query requestKeys blockSize) (toInt blockSize * requestKeys.length) := by
  rw [bestHitOf_eq]
  have chosen := scan_chosen (order (ix.query requestKeys blockSize).instances).entries
  generalize FirstBest.scan (· < ·) score bestEffStart
    (order (ix.query requestKeys blockSize).instances).entries = best at chosen
  cases chosen with
  | nothing low =>
      have ratio := @hitRatio_withRatio_mem inputTokens { inputTokens := inputTokens } rfl
        (Int.le_refl 0)
      rw [withRatio_eq]
      refine ⟨ratio.1, ratio.2, Int.le_refl 0, Int.le_refl 0, ?_, Int.le_refl 0, Int.le_refl 0, ?_⟩
      · exact Int.mul_nonneg nonneg (Int.natCast_nonneg _)
      · -- a score is never below the threshold, so there was no instance to visit
        intro present
        refine absurd (Finmap.ext_lookup fun id => ?_) present
        rw [Finmap.lookup_empty]
        refine Option.eq_none_iff_forall_not_mem.mpr fun inst found => ?_
        have credit := (counted_query nonneg fits found).effectiveTokens_nonneg
        refine low ⟨id, inst⟩ ((order _).mem_entries.mpr found) ?_
        exact lt_of_lt_of_le (by norm_num [bestEffStart]) credit
  | @first pre inst post split leads earlier =>
      have member : inst ∈ (order (ix.query requestKeys blockSize).instances).entries :=
        split ▸ List.mem_append_right pre List.mem_cons_self
      have found := (order (ix.query requestKeys blockSize).instances).mem_entries.mp member
      have counted := counted_query nonneg fits found
      have credit : 0 ≤ truncate (score inst) := truncate_nonneg leads.1
      have ratio := @hitRatio_withRatio_mem inputTokens
        (Hit.ofInstance { inputTokens := inputTokens } inst) rfl credit
      rw [withRatio_eq]
      refine ⟨ratio.1, ratio.2, credit, ?_, counted.within, counted.gpu_le_cpu,
        counted.cpu_le_disk, ?_⟩
      · exact truncate_le counted.effectiveTokens_nonneg counted.effectiveTokens_le
      · intro _
        refine ⟨inst.2, found, rfl, rfl, rfl, rfl, rfl, fun id other found' => ?_⟩
        exact not_lt.mp (leads.2 ⟨id, other⟩ ((order _).mem_entries.mpr found'))

end Query

end Fits

/-- The best hit of a query whose counts fit is in range, whatever the order of the range. -/
theorem bestHit_inRange (ix : Index) (requestKeys : List RequestKey) {blockSize : Int64}
    (positive : 0 < blockSize.toInt) (fits : blockSize.toInt * requestKeys.length < 2 ^ 63)
    (value : Float → ℚ) (order : InstanceOrder) (input : Input)
    (live : input.hitOverride = none) :
    (bestHit value order { input with query := some (ix.query requestKeys blockSize) }).InRange
      (ix.query requestKeys blockSize) (blockSize.toInt * requestKeys.length) := by
  unfold bestHit
  dsimp only
  rw [live]
  exact inRange_bestHitOf (le_of_lt positive) fits order input.inputTokens.toInt

/-- One of two blocks asked for is resident. -/
theorem bestHit_inRange_firstBlock :
    let query := (newIndex.storeEvent "a" 0 tierGPU [1] [7] 1).query [7, 8] (16 : Int64)
    (bestHit (fun _ => 0) default { openInput Int64 with query := some query }).InRange query 32 :=
  bestHit_inRange (newIndex.storeEvent "a" 0 tierGPU [1] [7] 1) [7, 8]
    (show 0 < (16 : Int64).toInt by decide) (by decide) (fun _ => 0) default (openInput Int64) rfl

/-- A block on the device and one on disk. -/
def spilledBlocks : Index :=
  (newIndex.storeEvent "a" 0 tierGPU [1] [7] 1).storeEvent "a" 0 tierDisk [2] [8] 2

/-- With blocks of `2^62` tokens the match is negative, and the credit is above it. -/
theorem not_inRange : ¬ ∀ (ix : Index) (requestKeys : List RequestKey) (blockSize : Int64),
    0 < blockSize.toInt → ∀ (value : Float → ℚ) (order : InstanceOrder) (input : Input),
      input.hitOverride = none →
        (bestHit value order { input with query := some (ix.query requestKeys blockSize) }).InRange
          (ix.query requestKeys blockSize) (blockSize.toInt * requestKeys.length) := by
  intro always
  have inRange := always spilledBlocks [7, 8] 4611686018427387904 (by decide) (fun _ => 0) default
    (openInput Int64) rfl
  have answer : (spilledBlocks.query [7, 8] (4611686018427387904 : Int64)).instances =
      Finmap.singleton "a"
        ⟨-9223372036854775808, 4611686018427387904, 4611686018427387904, -9223372036854775808,
          Finmap.singleton "0" (-9223372036854775808)⟩ := by decide +kernel
  obtain ⟨inst, found, best, -⟩ := inRange.attains (by rw [answer]; decide +kernel)
  rw [answer] at found
  have only : inst.longestMatched.toInt = -9223372036854775808 := by
    have key := Finmap.mem_of_lookup_eq_some found
    rw [Finmap.mem_singleton] at key
    rw [key, Finmap.lookup_singleton_eq] at found
    obtain rfl := Option.some.inj found
    decide
  have nonneg := inRange.effective_nonneg.trans inRange.effective_le_best
  rw [best] at nonneg
  exact absurd (nonneg.trans_eq only) (by decide)

end KvIndexer.Admission.Exact
