import KvIndexer.Residency.Prefix

/-!
More residency, more hits.

An index that holds at least what another one holds answers every query with at least the
other's hits: an engine's run of held blocks starts with the run it had, and every block
of it counts in the tiers it counted in (`query_mono`). A store only adds holds.
-/

namespace KvIndexer.Residency

/-- A weaker property has a longer first run. -/
theorem takeWhile_prefix_takeWhile {α : Type} {p q : α → Bool} (xs : List α)
    (weaker : ∀ x ∈ xs, p x = true → q x = true) : xs.takeWhile p <+: xs.takeWhile q := by
  induction xs with
  | nil => exact List.prefix_rfl
  | cons x xs ih =>
      obtain ⟨first, rest⟩ := List.forall_mem_cons.mp weaker
      rw [List.takeWhile_cons, List.takeWhile_cons]
      split
      · rename_i holds
        rw [if_pos (first holds)]
        exact (List.prefix_cons_inj x).mpr (ih rest)
      · exact List.nil_prefix

namespace Index

/-- Every hold of `ix` is a hold of `ix'`. -/
def HeldBy (ix ix' : Index) : Prop := ∀ r rk, ix.Holds r rk → ix'.Holds r rk

theorem heldBy_storeEvent (ix : Index) (e : String) (dp : Int) (tier : String)
    (eks : List EngineKey) (rks : List RequestKey) (ts : Int) :
    ix.HeldBy (ix.storeEvent e dp tier eks rks ts) :=
  fun _ _ holds => holds_storeEvent.mpr (Or.inr holds)

variable {ν : Type} [Counter ν] {ix ix' : Index} {e : String}

theorem HeldBy.engineHolds (more : ix.HeldBy ix') {rk : RequestKey}
    (holds : ix.EngineHolds e rk) : ix'.EngineHolds e rk := by
  obtain ⟨r, holds, owner⟩ := holds
  exact ⟨r, more r rk holds, owner⟩

theorem HeldBy.heldRun (more : ix.HeldBy ix') (requestKeys : List RequestKey) :
    ix.heldRun e requestKeys <+: ix'.heldRun e requestKeys :=
  takeWhile_prefix_takeWhile requestKeys fun _ _ holds =>
    decide_eq_true (more.engineHolds (of_decide_eq_true holds))

theorem HeldBy.countInTiers (more : ix.HeldBy ix') (tiers : List String)
    (requestKeys : List RequestKey) :
    ix.countInTiers e tiers (ix.heldRun e requestKeys) ≤
      ix'.countInTiers e tiers (ix'.heldRun e requestKeys) := by
  refine le_trans (List.countP_mono_left fun rk _ counted => ?_)
    ((more.heldRun requestKeys).sublist.countP_le)
  obtain ⟨tier, member, r, holds, owner⟩ := of_decide_eq_true counted
  exact decide_eq_true ⟨tier, member, r, more r rk holds, owner⟩

/-- An engine in an answer holds block 0, and is in the answer of every index with more. -/
theorem HeldBy.lookup_query_isSome (more : ix.HeldBy ix') {requestKeys : List RequestKey}
    {blockSize : ν} (present : ((ix.query requestKeys blockSize).instances.lookup e).isSome) :
    ((ix'.query requestKeys blockSize).instances.lookup e).isSome := by
  cases requestKeys with
  | nil =>
      rw [lookup_query] at present
      cases present
  | cons rk requestKeys =>
      rw [Index.lookup_query_isSome] at present ⊢
      exact more.engineHolds present

open Counter

/-- More holds give every engine at least its hit. -/
theorem query_mono (more : ix.HeldBy ix') (requestKeys : List RequestKey) {blockSize : ν}
    (nonneg : 0 ≤ toInt blockSize) (fits : Fits ν (toInt blockSize * requestKeys.length))
    {hit : InstanceHit ν} (found : (ix.query requestKeys blockSize).instances.lookup e = some hit) :
    ∃ hit', (ix'.query requestKeys blockSize).instances.lookup e = some hit' ∧
      toInt hit.longestMatched ≤ toInt hit'.longestMatched ∧ toInt hit.gpu ≤ toInt hit'.gpu ∧
      toInt hit.cpu ≤ toInt hit'.cpu ∧ toInt hit.disk ≤ toInt hit'.disk := by
  obtain ⟨hit', found'⟩ := Option.isSome_iff_exists.mp
    (more.lookup_query_isSome (Option.isSome_of_mem found))
  obtain ⟨longest, gpu, cpu, disk⟩ := toInt_query ix requestKeys nonneg fits e found
  obtain ⟨longest', gpu', cpu', disk'⟩ := toInt_query ix' requestKeys nonneg fits e found'
  have scaled : ∀ {m n : Nat}, m ≤ n → toInt blockSize * (m : Int) ≤ toInt blockSize * n :=
    fun le => Int.mul_le_mul_of_nonneg_left (Int.ofNat_le.mpr le) nonneg
  have run := (@HeldBy.heldRun ix ix' e more requestKeys).length_le
  refine ⟨hit', found', ?_, ?_, ?_, ?_⟩
  · rw [longest, longest']
    exact scaled run
  · rw [gpu, gpu']
    exact scaled (more.countInTiers _ requestKeys)
  · rw [cpu, cpu']
    exact scaled (more.countInTiers _ requestKeys)
  · rw [disk, disk']
    exact scaled run

end Index

end KvIndexer.Residency
