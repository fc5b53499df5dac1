import KvIndexer.Residency.Reclamation

/-!
Clearing one tier of an engine, and removing the engine's blocks from that tier one by
one.

The two agree about the holders: a removal finds its block as long as the engine holds
it, because the bridge entry is dropped with the engine's last hold and not before
(`Pinned`). They part over what is left behind. A removal drops the bridge
entry and the engine's key with the last hold, and a clear of one tier leaves both.
`tierClear_iff` says when there is nothing to leave.
-/

namespace KvIndexer.Residency

namespace Index

/-- The holders, the bridge and the key sets read the same. -/
structure SameContents (ix ix' : Index) : Prop where
  holders : ∀ rk, ix.byRequestKey.lookup rk = ix'.byRequestKey.lookup rk
  bridge : ∀ bk, ix.bridge.lookup bk = ix'.bridge.lookup bk
  byEngine : ∀ e, ix.keysOf e = ix'.keysOf e

/-- One removal for each call, a dp rank and an engine key. -/
def removeBlocks (ix : Index) (e tier : String) (calls : List (Int × EngineKey)) : Index :=
  Run.run (fun ix call => ix.removeEvent e call.1 tier [call.2]) ix calls

/-- The calls name every bridged engine key of the engine with every dp rank, in some
order: `ranks` are the dp ranks, among them those that hold a block in the tier. -/
structure EveryBlock (ix : Index) (e tier : String) (ranks : Finset Int)
    (calls : List (Int × EngineKey)) : Prop where
  nonempty : ranks.Nonempty
  ranked : ∀ dp rk, ix.Holds ⟨e, dp, tier⟩ rk → dp ∈ ranks
  each : ∀ dp ek, (dp, ek) ∈ calls ↔ dp ∈ ranks ∧ (ix.lookupBridge e ek).isSome

/-- Every block the engine holds in the tier it holds in another tier too, and no bridge
entry of the engine leads to a block that only others hold. -/
structure NothingToLeave (ix : Index) (e tier : String) : Prop where
  elsewhere : ∀ dp rk, ix.Holds ⟨e, dp, tier⟩ rk →
    ∃ r, ix.Holds r rk ∧ r.engineID = e ∧ r.tier ≠ tier
  bridged : ∀ ek rk, ix.lookupBridge e ek = some rk → (∃ r, ix.Holds r rk) → ix.EngineHolds e rk

section Calls

variable {ix ix' : Index} {e tier : String} {calls : List (Int × EngineKey)}

theorem removeEvent_single (ix : Index) (e : String) (dp : Int) (tier : String) (ek : EngineKey) :
    ix.removeEvent e dp tier [ek] = removeKey ⟨e, dp, tier⟩ ix ek := rfl

theorem sound_removeBlocks (sound : Sound ix) : Sound (ix.removeBlocks e tier calls) := by
  have kept : ∀ (ix : Index) (call : Int × EngineKey), True → Sound ix →
      Sound (ix.removeEvent e call.1 tier [call.2]) :=
    fun _ call _ sound => sound.removeEvent e call.1 tier [call.2]
  exact Run.run_invariant kept sound (Run.eachStep_forall.mpr fun _ _ => trivial)

/-- Removals leave every entry alone but for the residents they name. -/
theorem lookup_entryOf_removeBlocks {r : Resident} (other : ¬ (r.engineID = e ∧ r.tier = tier))
    (rk : RequestKey) :
    ((ix.removeBlocks e tier calls).entryOf rk).lookup r = (ix.entryOf rk).lookup r := by
  have kept : ∀ (ix₁ : Index) (call : Int × EngineKey), True →
      (ix₁.entryOf rk).lookup r = (ix.entryOf rk).lookup r →
      ((ix₁.removeEvent e call.1 tier [call.2]).entryOf rk).lookup r =
        (ix.entryOf rk).lookup r := by
    intro ix₁ call _ same
    rw [removeEvent_single, lookup_entryOf_removeKey, if_neg, same]
    rintro ⟨-, rfl⟩
    exact other ⟨rfl, rfl⟩
  exact Run.run_invariant kept rfl (Run.eachStep_forall.mpr fun _ _ => trivial)

/-! ### The holders agree -/

/-- A bridge entry of `ix` is in place as long as the engine holds its block. -/
def Pinned (ix : Index) (e : String) (ix' : Index) : Prop :=
  ∀ ek rk, ix.lookupBridge e ek = some rk → ix'.EngineHolds e rk → ix'.lookupBridge e ek = some rk

theorem Pinned.removeKey (pinned : Pinned ix e ix') (dp : Int) (ek' : EngineKey) :
    Pinned ix e (removeKey ⟨e, dp, tier⟩ ix' ek') := by
  rintro ek rk bridged ⟨r, holds, owner⟩
  obtain ⟨before, apart⟩ := holds_removeKey.mp holds
  have still := pinned ek rk bridged ⟨r, before, owner⟩
  rw [lookupBridge] at still ⊢
  rw [lookup_bridge_removeKey, if_neg, still]
  rintro ⟨same, released⟩
  obtain rfl : ek = ek' := (EngineBridgeKey.mk.inj same).2
  obtain ⟨rk', bridged', -, unkept⟩ := releases_iff.mp released
  obtain rfl : rk = rk' := Option.some.inj (still.symm.trans bridged')
  have kept : ix'.keepsHold ⟨e, dp, tier⟩ rk = true :=
    keepsHold_iff.mpr ⟨r, before, fun same => apart ⟨still, same⟩, owner⟩
  rw [kept] at unkept
  cases unkept

/-- The resident does not hold the block once it was asked to let go of it. -/
theorem not_holds_removeBlocks {dp : Int} {ek : EngineKey} {rk : RequestKey}
    (called : (dp, ek) ∈ calls) (bridged : ix.lookupBridge e ek = some rk) :
    ¬ (ix.removeBlocks e tier calls).Holds ⟨e, dp, tier⟩ rk := by
  obtain ⟨front, back, rfl⟩ := List.append_of_mem called
  have pinned : Pinned ix e (ix.removeBlocks e tier front) := by
    have kept : ∀ (ix₁ : Index) (call : Int × EngineKey), True → Pinned ix e ix₁ →
        Pinned ix e (ix₁.removeEvent e call.1 tier [call.2]) :=
      fun _ call _ pinned => pinned.removeKey call.1 call.2
    exact Run.run_invariant kept (fun _ _ bridged _ => bridged)
      (Run.eachStep_forall.mpr fun _ _ => trivial)
  have gone : ∀ (ix₁ : Index) (call : Int × EngineKey), True →
      ¬ ix₁.Holds ⟨e, dp, tier⟩ rk →
      ¬ (ix₁.removeEvent e call.1 tier [call.2]).Holds ⟨e, dp, tier⟩ rk :=
    fun _ _ _ unheld holds => unheld (holds_removeKey.mp holds).1
  rw [removeBlocks, Run.run_append, Run.run_cons]
  refine Run.run_invariant gone (fun holds => ?_) (Run.eachStep_forall.mpr fun _ _ => trivial)
  rw [removeEvent_single, holds_removeKey] at holds
  exact holds.2 ⟨pinned ek rk bridged ⟨_, holds.1, rfl⟩, rfl⟩

theorem holds_of_removeBlocks {r : Resident} {rk : RequestKey}
    (holds : (ix.removeBlocks e tier calls).Holds r rk) : ix.Holds r rk := by
  have shrinks : ∀ (ix₁ : Index) (call : Int × EngineKey), True →
      (ix₁.Holds r rk → ix.Holds r rk) →
      (ix₁.removeEvent e call.1 tier [call.2]).Holds r rk → ix.Holds r rk :=
    fun _ _ _ within holds => within (holds_removeKey.mp holds).1
  exact Run.run_invariant shrinks id (Run.eachStep_forall.mpr fun _ _ => trivial) holds

/-- The removals take exactly the engine's holds in the tier. -/
theorem lookup_entryOf_removeEvery {ranks : Finset Int} (every : EveryBlock ix e tier ranks calls)
    (bridged : ∀ rk, ix.EngineHolds e rk → ∃ ek, ix.lookupBridge e ek = some rk) (rk : RequestKey)
    (r : Resident) :
    ((ix.removeBlocks e tier calls).entryOf rk).lookup r =
      if r.engineID = e ∧ r.tier = tier then none else (ix.entryOf rk).lookup r := by
  split
  · rename_i taken
    obtain ⟨e', dp, tier'⟩ := r
    obtain ⟨rfl, rfl⟩ := taken
    by_contra held
    have holds := holds_iff.mpr (Option.ne_none_iff_exists'.mp held)
    have before := holds_of_removeBlocks holds
    obtain ⟨ek, leads⟩ := bridged rk ⟨_, before, rfl⟩
    have called := (every.each dp ek).mpr ⟨every.ranked dp rk before, by rw [leads]; rfl⟩
    exact not_holds_removeBlocks called leads holds
  · rename_i other
    exact lookup_entryOf_removeBlocks other rk

/-- So does the clear. -/
theorem lookup_entryOf_clearTier (sound : Sound ix) (partly : tier ≠ "") (rk : RequestKey)
    (r : Resident) :
    ((ix.clearEngine e tier).entryOf rk).lookup r =
      if r.engineID = e ∧ r.tier = tier then none else (ix.entryOf rk).lookup r := by
  have cleared : clearedHolder e tier r = true ↔ r.engineID = e ∧ r.tier = tier := by
    simp [clearedHolder, partly]
  rw [lookup_entryOf_clearEngine]
  by_cases taken : r.engineID = e ∧ r.tier = tier
  · rw [if_pos taken]
    by_cases tracked : rk ∈ ix.keysOf e
    · rw [if_pos ⟨tracked, cleared.mpr taken⟩]
    · rw [if_neg fun both => tracked both.1]
      by_contra held
      have holds := holds_iff.mpr (Option.ne_none_iff_exists'.mp held)
      exact tracked ((sound.tracked e rk).mpr ⟨r, holds, taken.1⟩)
  · rw [if_neg taken, if_neg fun both => taken (cleared.mp both.2)]

/-- Entries without an empty one among them are read off their holders. -/
theorem lookup_eq_of_entryOf {ix₁ ix₂ : Index}
    (occupied₁ : ∀ rk e, ix₁.byRequestKey.lookup rk = some e → ∃ r, r ∈ e)
    (occupied₂ : ∀ rk e, ix₂.byRequestKey.lookup rk = some e → ∃ r, r ∈ e) {rk : RequestKey}
    (same : ix₁.entryOf rk = ix₂.entryOf rk) :
    ix₁.byRequestKey.lookup rk = ix₂.byRequestKey.lookup rk := by
  rw [entryOf, entryOf] at same
  cases found₁ : ix₁.byRequestKey.lookup rk with
  | none =>
      cases found₂ : ix₂.byRequestKey.lookup rk with
      | none => rfl
      | some entry =>
          obtain ⟨r, member⟩ := occupied₂ rk entry found₂
          rw [found₁, found₂, Option.getD_none, Option.getD_some] at same
          exact absurd (same ▸ member) Finmap.notMem_empty
  | some entry =>
      cases found₂ : ix₂.byRequestKey.lookup rk with
      | none =>
          obtain ⟨r, member⟩ := occupied₁ rk entry found₁
          rw [found₁, found₂, Option.getD_none, Option.getD_some] at same
          exact absurd (same ▸ member) Finmap.notMem_empty
      | some entry' =>
          rw [found₁, found₂, Option.getD_some, Option.getD_some] at same
          rw [same]

/-- Clearing a tier and removing its blocks leave the same holders. -/
theorem sameHolders (sound : Sound ix) (partly : tier ≠ "") {ranks : Finset Int}
    (every : EveryBlock ix e tier ranks calls)
    (bridged : ∀ rk, ix.EngineHolds e rk → ∃ ek, ix.lookupBridge e ek = some rk)
    (rk : RequestKey) :
    (ix.clearEngine e tier).byRequestKey.lookup rk =
      (ix.removeBlocks e tier calls).byRequestKey.lookup rk := by
  refine lookup_eq_of_entryOf (fun rk entry found => ?_) (sound_removeBlocks sound).occupied
    (Finmap.ext_lookup fun r => ?_)
  · rw [lookup_byRequestKey_clearEngine] at found
    split at found
    · exact occupied_clearEntry found
    · exact sound.occupied rk entry found
  · rw [lookup_entryOf_clearTier sound partly, lookup_entryOf_removeEvery every bridged]

/-! ### What is left behind -/

/-- A clear of one tier leaves the key sets alone. -/
theorem keysOf_clearTier (partly : tier ≠ "") (e' : String) :
    (ix.clearEngine e tier).keysOf e' = ix.keysOf e' := by
  unfold clearEngine keysOf
  cases ix.byEngine.lookup e with
  | none => rfl
  | some eng =>
      dsimp only
      rw [if_neg partly]

/-- In the middle of the removals: other tiers and the bridge are as they were. -/
structure Spared (ix : Index) (e tier : String) (ix' : Index) : Prop where
  sound : Sound ix'
  within : ∀ r rk, ix'.Holds r rk → ix.Holds r rk
  others : ∀ r rk, ix.Holds r rk → r.tier ≠ tier → ix'.Holds r rk
  bridge : ∀ bk, ix'.bridge.lookup bk = ix.bridge.lookup bk

/-- The engine still holds, in another tier, whatever it has bridged and anyone holds. -/
theorem Spared.keepsHold (spared : Spared ix e tier ix') (leaves : NothingToLeave ix e tier)
    {dp : Int} {ek : EngineKey} {rk : RequestKey} (leads : ix'.lookupBridge e ek = some rk)
    (held : ∃ r, ix'.Holds r rk) : ix'.keepsHold ⟨e, dp, tier⟩ rk = true := by
  obtain ⟨r, holds⟩ := held
  have before := (spared.bridge ⟨e, ek⟩).symm.trans leads
  obtain ⟨⟨e₁, dp₁, tier₁⟩, mine, owner⟩ :=
    leaves.bridged ek rk before ⟨r, spared.within r rk holds⟩
  obtain rfl : e₁ = e := owner
  have elsewhere : ∃ r', ix.Holds r' rk ∧ r'.engineID = e₁ ∧ r'.tier ≠ tier := by
    by_cases here : tier₁ = tier
    · exact leaves.elsewhere dp₁ rk (here ▸ mine)
    · exact ⟨_, mine, rfl, here⟩
  obtain ⟨r', mine', owner', other⟩ := elsewhere
  exact keepsHold_iff.mpr
    ⟨r', spared.others r' rk mine' other, fun same => other (by rw [same]), owner'⟩

theorem Spared.removeEvent (spared : Spared ix e tier ix') (leaves : NothingToLeave ix e tier)
    (dp : Int) (ek : EngineKey) : Spared ix e tier (ix'.removeEvent e dp tier [ek]) where
  sound := spared.sound.removeEvent e dp tier [ek]
  within r rk holds := spared.within r rk (holds_removeKey.mp holds).1
  others r rk holds other := by
    refine holds_removeKey.mpr ⟨spared.others r rk holds other, ?_⟩
    rintro ⟨-, rfl⟩
    exact other rfl
  bridge bk := by
    rw [removeEvent_single, lookup_bridge_removeKey, if_neg, spared.bridge]
    rintro ⟨-, released⟩
    obtain ⟨rk, leads, present, unkept⟩ := releases_iff.mp released
    rw [spared.keepsHold leaves leads (spared.sound.isSome_iff.mp present)] at unkept
    cases unkept

/-- Where there is nothing to leave, the removals leave the bridge alone. -/
theorem spared_removeBlocks (sound : Sound ix) (leaves : NothingToLeave ix e tier) :
    Spared ix e tier (ix.removeBlocks e tier calls) := by
  have kept : ∀ (ix₁ : Index) (call : Int × EngineKey), True → Spared ix e tier ix₁ →
      Spared ix e tier (ix₁.removeEvent e call.1 tier [call.2]) :=
    fun _ call _ spared => spared.removeEvent leaves call.1 call.2
  have start : Spared ix e tier ix :=
    ⟨sound, fun _ _ => id, fun _ _ holds _ => holds, fun _ => rfl⟩
  exact Run.run_invariant kept start (Run.eachStep_forall.mpr fun _ _ => trivial)

/-- Removals drop bridge entries or keep them. -/
theorem lookupBridge_removeBlocks (ix : Index) (calls : List (Int × EngineKey)) (ek : EngineKey) :
    (ix.removeBlocks e tier calls).lookupBridge e ek = none ∨
      (ix.removeBlocks e tier calls).lookupBridge e ek = ix.lookupBridge e ek := by
  have kept : ∀ (ix₁ : Index) (call : Int × EngineKey), True →
      (ix₁.lookupBridge e ek = none ∨ ix₁.lookupBridge e ek = ix.lookupBridge e ek) →
      ((ix₁.removeEvent e call.1 tier [call.2]).lookupBridge e ek = none ∨
        (ix₁.removeEvent e call.1 tier [call.2]).lookupBridge e ek = ix.lookupBridge e ek) := by
    intro ix₁ call _ before
    rcases lookup_bridge_removeKeys ⟨e, call.1, tier⟩ ix₁ [call.2] ⟨e, ek⟩ with dropped | same
    · exact Or.inl dropped
    · exact before.imp same.trans same.trans
  exact Run.run_invariant kept (Or.inr rfl) (Run.eachStep_forall.mpr fun _ _ => trivial)

/-- A bridge entry to a block that only others hold goes with a removal that names it. -/
theorem lookupBridge_removeBlocks_stale {dp : Int} {ek : EngineKey} {rk : RequestKey}
    (called : (dp, ek) ∈ calls) (sound : Sound ix) (leads : ix.lookupBridge e ek = some rk)
    {r : Resident} (holds : ix.Holds r rk) (unheld : ¬ ix.EngineHolds e rk) :
    (ix.removeBlocks e tier calls).lookupBridge e ek = none := by
  obtain ⟨front, back, rfl⟩ := List.append_of_mem called
  have dropped :
      ((ix.removeBlocks e tier front).removeEvent e dp tier [ek]).lookupBridge e ek = none := by
    rw [removeEvent_single, lookupBridge_removeKey_self _ ⟨e, dp, tier⟩ ek]
    split
    · rfl
    · rename_i unreleased
      rcases lookupBridge_removeBlocks ix front ek with gone | still
      · exact gone
      · -- the others' hold keeps the entry, and the engine has none on it
        have foreign : r.engineID ≠ e := fun owner => unheld ⟨r, holds, owner⟩
        have present : (ix.removeBlocks e tier front).Holds r rk := by
          obtain ⟨ts, found⟩ := holds_iff.mp holds
          refine holds_iff.mpr ⟨ts, ?_⟩
          rw [lookup_entryOf_removeBlocks fun both => foreign both.1, found]
        have unkept : (ix.removeBlocks e tier front).keepsHold ⟨e, dp, tier⟩ rk = false := by
          rw [Bool.eq_false_iff, Ne, keepsHold_iff]
          rintro ⟨r', mine, -, owner⟩
          exact unheld ⟨r', holds_of_removeBlocks mine, owner⟩
        have isSome := (sound_removeBlocks sound).isSome_iff.mpr ⟨r, present⟩
        have released : (ix.removeBlocks e tier front).releases ⟨e, dp, tier⟩ ek = true :=
          releases_iff.mpr ⟨rk, still.trans leads, isSome, unkept⟩
        exact absurd released unreleased
  have split : ix.removeBlocks e tier (front ++ (dp, ek) :: back) =
      ((ix.removeBlocks e tier front).removeEvent e dp tier [ek]).removeBlocks e tier back := by
    rw [removeBlocks, Run.run_append, Run.run_cons]
    rfl
  rw [split]
  rcases lookupBridge_removeBlocks
    ((ix.removeBlocks e tier front).removeEvent e dp tier [ek]) back ek with gone | same
  · exact gone
  · rw [same, dropped]

end Calls

/-- A clear of one tier agrees with the removals of its blocks exactly when there is
nothing to leave. -/
theorem tierClear_iff {ops : List Op} (quiet : ∀ op ∈ ops, op.noClear) {e tier : String}
    (partly : tier ≠ "")
    (bridged : ∀ rk, (after ops).EngineHolds e rk →
      ∃ ek, (after ops).lookupBridge e ek = some rk)
    {ranks : Finset Int} {calls : List (Int × EngineKey)}
    (every : EveryBlock (after ops) e tier ranks calls) :
    SameContents ((after ops).clearEngine e tier) ((after ops).removeBlocks e tier calls) ↔
      NothingToLeave (after ops) e tier := by
  have sound := sound_after fun op member => (quiet op member).wholeClear
  have removed : Sound ((after ops).removeBlocks e tier calls) := sound_removeBlocks sound
  have taken := lookup_entryOf_removeEvery every bridged
  constructor
  · intro same
    have elsewhere : ∀ dp rk, (after ops).Holds ⟨e, dp, tier⟩ rk →
        ∃ r, (after ops).Holds r rk ∧ r.engineID = e ∧ r.tier ≠ tier := by
      intro dp rk holds
      -- the clear keeps the key in the engine's set, so the removals do
      have kept : rk ∈ ((after ops).removeBlocks e tier calls).keysOf e := by
        rw [← same.byEngine, keysOf_clearTier partly]
        exact (sound.tracked e rk).mpr ⟨_, holds, rfl⟩
      obtain ⟨r, mine, owner⟩ := (removed.tracked e rk).mp kept
      refine ⟨r, holds_of_removeBlocks mine, owner, fun here => ?_⟩
      obtain ⟨ts, found⟩ := holds_iff.mp mine
      rw [taken, if_pos ⟨owner, here⟩] at found
      cases found
    refine ⟨elsewhere, fun ek rk leads held => ?_⟩
    obtain ⟨r, holds⟩ := held
    by_contra unheld
    obtain ⟨dp, ranked⟩ := every.nonempty
    have called := (every.each dp ek).mpr ⟨ranked, by rw [leads]; rfl⟩
    have dropped : ((after ops).removeBlocks e tier calls).lookupBridge e ek = none :=
      lookupBridge_removeBlocks_stale called sound leads holds unheld
    have still := same.bridge ⟨e, ek⟩
    rw [bridge_clearEngine_tier partly] at still
    rw [lookupBridge] at leads dropped
    rw [leads, dropped] at still
    cases still
  · intro leaves
    have spared : Spared (after ops) e tier ((after ops).removeBlocks e tier calls) :=
      spared_removeBlocks sound leaves
    refine ⟨sameHolders sound partly every bridged, fun bk => ?_, fun e' => ?_⟩
    · rw [bridge_clearEngine_tier partly, spared.bridge]
    · rw [keysOf_clearTier partly]
      refine Finset.ext fun rk => ?_
      rw [sound.tracked, removed.tracked]
      constructor
      · rintro ⟨r, holds, owner⟩
        by_cases cleared : r.engineID = e ∧ r.tier = tier
        · obtain ⟨e₁, dp, tier₁⟩ := r
          obtain ⟨rfl, rfl⟩ := cleared
          obtain ⟨r', mine, owner', other⟩ := leaves.elsewhere dp rk holds
          exact ⟨r', spared.others r' rk mine other, owner'.trans owner⟩
        · obtain ⟨ts, found⟩ := holds_iff.mp holds
          refine ⟨r, holds_iff.mpr ⟨ts, ?_⟩, owner⟩
          rw [lookup_entryOf_removeBlocks cleared, found]
      · rintro ⟨r, holds, owner⟩
        exact ⟨r, spared.within r rk holds, owner⟩

/-- One block of one engine, stored twice. -/
def oneBlockHistory (second : String) : List Op :=
  [.storeEvent "a" 0 "gpu" [1] [7] 10, .storeEvent "a" 0 second [1] [7] 11]

section OneBlock

variable {second : String}

theorem noClear_oneBlock (second : String) : ∀ op ∈ oneBlockHistory second, op.noClear := by
  simp [oneBlockHistory, Op.noClear]

theorem holds_oneBlock {r : Resident} {rk : RequestKey} :
    (after (oneBlockHistory second)).Holds r rk ↔
      (r = ⟨"a", 0, second⟩ ∨ r = ⟨"a", 0, "gpu"⟩) ∧ rk = 7 := by
  have stored : after (oneBlockHistory second) =
      (newIndex.storeEvent "a" 0 "gpu" [1] [7] 10).storeEvent "a" 0 second [1] [7] 11 := rfl
  have nothing : ¬ newIndex.Holds r rk := Finmap.notMem_empty
  rw [stored, holds_storeEvent, holds_storeEvent, List.mem_singleton, or_and_right]
  simp only [nothing, or_false]

theorem lookupBridge_oneBlock (ek : EngineKey) :
    (after (oneBlockHistory second)).lookupBridge "a" ek = if ek = 1 then some 7 else none := by
  have stored : after (oneBlockHistory second) =
      (newIndex.storeEvent "a" 0 "gpu" [1] [7] 10).storeEvent "a" 0 second [1] [7] 11 := rfl
  have aligned : tailAligned [1] [7] = [(1, 7)] := rfl
  rw [stored, lookupBridge, lookup_bridge_storeEvent, lookup_bridge_storeEvent, aligned]
  by_cases here : ek = 1
  · simp [here]
  · simp [here, newIndex]

theorem everyBlock_oneBlock (second : String) :
    EveryBlock (after (oneBlockHistory second)) "a" "gpu" {0} [(0, 1)] where
  nonempty := ⟨0, Finset.mem_singleton_self 0⟩
  ranked dp rk holds := by
    rcases (holds_oneBlock.mp holds).1 with same | same <;> simp [(Resident.mk.inj same).2.1]
  each dp ek := by
    rw [lookupBridge_oneBlock]
    by_cases here : ek = 1 <;> simp [here]

theorem bridged_oneBlock (rk : RequestKey)
    (held : (after (oneBlockHistory second)).EngineHolds "a" rk) :
    ∃ ek, (after (oneBlockHistory second)).lookupBridge "a" ek = some rk := by
  obtain ⟨r, holds, -⟩ := held
  exact ⟨1, by rw [lookupBridge_oneBlock, if_pos rfl, (holds_oneBlock.mp holds).2]⟩

end OneBlock

/-- The block is in the cpu tier too, and a clear of the gpu tier agrees. -/
theorem tierClear_iff_cpu :
    "gpu" ≠ "" ∧
      (SameContents ((after (oneBlockHistory "cpu")).clearEngine "a" "gpu")
          ((after (oneBlockHistory "cpu")).removeBlocks "a" "gpu" [(0, 1)]) ↔
        NothingToLeave (after (oneBlockHistory "cpu")) "a" "gpu") :=
  ⟨by decide, tierClear_iff (noClear_oneBlock "cpu") (by decide) bridged_oneBlock
    (everyBlock_oneBlock "cpu")⟩

/-- The block is in the gpu tier only. The clear leaves its bridge entry and its key, and the
removal does not. -/
theorem not_tierClear :
    ¬ ∀ ops : List Op, (∀ op ∈ ops, op.noClear) → ∀ e tier : String, tier ≠ "" →
      (∀ rk, (after ops).EngineHolds e rk → ∃ ek, (after ops).lookupBridge e ek = some rk) →
      ∀ (ranks : Finset Int) (calls : List (Int × EngineKey)),
        EveryBlock (after ops) e tier ranks calls →
        SameContents ((after ops).clearEngine e tier)
          ((after ops).removeBlocks e tier calls) := by
  intro agrees
  have same := agrees (oneBlockHistory "gpu") (noClear_oneBlock "gpu") "a" "gpu" (by decide)
    bridged_oneBlock {0} [(0, 1)] (everyBlock_oneBlock "gpu")
  have left := same.bridge ⟨"a", 1⟩
  revert left
  decide

end Index

end KvIndexer.Residency
