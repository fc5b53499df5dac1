import KvIndexer.Residency.History

/-!
Operations that change nothing.

`SameResidency` compares two indexes up to the last-seen times of their holders.
`Op.Settled` says of each operation when the index already is as the operation
would leave it, in terms of holds and bridge entries only, and `settled_iff` is the
proof that it says so exactly. A settled operation can be repeated any number of
times.
-/

namespace KvIndexer.Residency

namespace Index

/-- The same holders, bridge and key sets; last-seen times may differ. -/
structure SameResidency (ix ix' : Index) : Prop where
  holders : ∀ r rk, ix.Holds r rk ↔ ix'.Holds r rk
  bridge : ix.bridge = ix'.bridge
  byEngine : ix.byEngine = ix'.byEngine

namespace SameResidency

variable {ix ix' ix'' : Index}

theorem refl (ix : Index) : SameResidency ix ix := ⟨fun _ _ => Iff.rfl, rfl, rfl⟩

theorem symm (same : SameResidency ix ix') : SameResidency ix' ix :=
  ⟨fun r rk => (same.holders r rk).symm, same.bridge.symm, same.byEngine.symm⟩

theorem trans (first : SameResidency ix ix') (second : SameResidency ix' ix'') :
    SameResidency ix ix'' :=
  ⟨fun r rk => (first.holders r rk).trans (second.holders r rk), first.bridge.trans second.bridge,
    first.byEngine.trans second.byEngine⟩

theorem lookupBridge_eq (same : SameResidency ix ix') (e : String) :
    ix.lookupBridge e = ix'.lookupBridge e := by
  funext ek
  rw [lookupBridge, lookupBridge, same.bridge]

theorem engineHolds_iff (same : SameResidency ix ix') (e : String) (rk : RequestKey) :
    ix.EngineHolds e rk ↔ ix'.EngineHolds e rk :=
  exists_congr fun r => and_congr_left fun _ => same.holders r rk

end SameResidency

/-- Removing `ek` from `r` finds nothing to do: the key is not bridged, or to a
block that `r` does not hold, while the engine holds it elsewhere or nobody does. -/
def Untouched (ix : Index) (r : Resident) (ek : EngineKey) : Prop :=
  ∀ rk, ix.lookupBridge r.engineID ek = some rk →
    ¬ ix.Holds r rk ∧ (ix.EngineHolds r.engineID rk ∨ ∀ r', ¬ ix.Holds r' rk)

instance (ix : Index) (r : Resident) (ek : EngineKey) : Decidable (Untouched ix r ek) :=
  match bridged : ix.lookupBridge r.engineID ek with
  | none => .isTrue fun rk found => by rw [bridged] at found; cases found
  | some rk =>
      decidable_of_iff
        (¬ ix.Holds r rk ∧ (ix.EngineHolds r.engineID rk ∨ ¬ ∃ r', ix.Holds r' rk)) <| by
        simp [Untouched, bridged]

section Remove

variable {ix : Index} {r : Resident}

theorem removeKey_of_untouched (sound : Sound ix) {ek : EngineKey} (untouched : Untouched ix r ek) :
    removeKey r ix ek = ix := by
  cases bridged : ix.bridge.lookup ⟨r.engineID, ek⟩ with
  | none => exact removeKey_miss bridged
  | some rk =>
      obtain ⟨noHold, others⟩ := untouched rk bridged
      cases found : ix.byRequestKey.lookup rk with
      | none =>
          -- nobody holds the block, so it is not in the engine's set either
          have untracked : rk ∉ ix.keysOf r.engineID := by
            rw [sound.tracked]
            rintro ⟨r', holds, -⟩
            have present := sound.isSome_iff.mpr ⟨r', holds⟩
            rw [found] at present
            cases present
          rw [removeKey_dangling bridged found, dropFromEngine_of_untracked untracked]
      | some entry =>
          have here : ix.entryOf rk = entry := by simp [entryOf, found]
          have absent : r ∉ entry := by rwa [Holds, here] at noHold
          obtain ⟨r', holds⟩ := sound.isSome_iff.mp (by rw [found]; rfl)
          have mine : ix.EngineHolds r.engineID rk := by
            rcases others with mine | none
            · exact mine
            · exact absurd holds (none r')
          have has : hasEngine entry r.engineID = true := by
            rw [← here]
            exact engineHolds_iff_hasEngine.mp mine
          have present : GoMap.len entry ≠ 0 := by
            rw [GoMap.len_ne_zero_iff, ← here]
            exact ⟨r', holds⟩
          rw [removeKey_hit bridged found, GoMap.erase_of_notMem absent, if_neg present,
            GoMap.insert_of_lookup found, if_pos has, if_pos has]

theorem removeEvent_of_untouched (sound : Sound ix) {e : String} {dp : Int} {tier : String}
    {eks : List EngineKey} (untouched : ∀ ek ∈ eks, Untouched ix ⟨e, dp, tier⟩ ek) :
    ix.removeEvent e dp tier eks = ix := by
  rw [removeEvent_eq_run]
  induction eks with
  | nil => rfl
  | cons ek eks ih =>
      rw [Run.run_cons, removeKey_of_untouched sound (untouched ek List.mem_cons_self)]
      exact ih fun ek' member => untouched ek' (List.mem_cons_of_mem _ member)

/-- A removal leaves nothing to do for its keys. -/
theorem untouched_removeKeys (sound : Sound ix) {eks : List EngineKey} {ek : EngineKey}
    (member : ek ∈ eks) : Untouched (Run.run (removeKey r) ix eks) r ek := by
  intro rk bridged
  -- split at a removal of the key; its bridge entry has been there until then
  obtain ⟨ks, ks', rfl⟩ := List.append_of_mem member
  rw [Run.run_append, Run.run_cons] at bridged ⊢
  set before := Run.run (removeKey r) ix ks with beforeDef
  set cut := removeKey r before ek with cutDef
  have soundBefore : Sound before := sound.removeKeys r ks
  have still : cut.lookupBridge r.engineID ek = some rk := by
    rcases lookup_bridge_removeKeys r cut ks' ⟨r.engineID, ek⟩ with gone | kept
    · rw [lookupBridge, gone] at bridged
      cases bridged
    · rwa [lookupBridge, kept] at bridged
  rw [lookupBridge, cutDef, lookup_bridge_removeKey] at still
  split at still
  · cases still
  · rename_i unreleased
    constructor
    · intro holds
      exact (holds_removeKey.mp (holds_of_removeKeys holds)).2 ⟨still, rfl⟩
    · by_contra fails
      obtain ⟨notMine, someone⟩ := not_or.mp fails
      obtain ⟨r', holds⟩ := not_forall_not.mp someone
      refine unreleased ⟨rfl, releases_iff.mpr ⟨rk, still, ?_, ?_⟩⟩
      · exact soundBefore.isSome_iff.mpr ⟨r', (holds_removeKey.mp (holds_of_removeKeys holds)).1⟩
      · rw [Bool.eq_false_iff, Ne, keepsHold_iff]
        rintro ⟨r'', holds'', other, owner⟩
        refine notMine ⟨r'', holds_removeKeys_other other ?_, owner⟩
        exact holds_removeKey.mpr ⟨holds'', fun both => other both.2⟩

theorem Untouched.congr {ix' : Index} (same : SameResidency ix ix') (r : Resident)
    (ek : EngineKey) : Untouched ix r ek ↔ Untouched ix' r ek := by
  simp only [Untouched, same.lookupBridge_eq, same.holders, same.engineHolds_iff]

/-- A removal changes nothing exactly when it finds nothing to do for each key. -/
theorem removeEvent_same_iff (sound : Sound ix) (e : String) (dp : Int) (tier : String)
    (eks : List EngineKey) :
    SameResidency (ix.removeEvent e dp tier eks) ix ↔
      ∀ ek ∈ eks, Untouched ix ⟨e, dp, tier⟩ ek := by
  constructor
  · intro same ek member
    rw [removeEvent_eq_run] at same
    exact (Untouched.congr same _ ek).mp (untouched_removeKeys sound member)
  · intro untouched
    rw [removeEvent_of_untouched sound untouched]
    exact .refl ix

end Remove

end Index

/-! ### Every operation -/

/-- The index is as the operation would leave it. -/
def Op.Settled (ix : Index) : Op → Prop
  | .storeEvent e dp tier eks rks _ =>
      rks ≠ [] → (∀ rk ∈ rks, ix.Holds ⟨e, dp, tier⟩ rk) ∧
        ∀ ek rk, (Index.tailAligned eks rks).reverse.lookup ek = some rk →
          ix.lookupBridge e ek = some rk
  | .storeEventByEngineKeys e dp tier eks _ =>
      (∀ ek ∈ eks, (ix.lookupBridge e ek).isSome) →
        ∀ ek ∈ eks, ∀ rk, ix.lookupBridge e ek = some rk → ix.Holds ⟨e, dp, tier⟩ rk
  | .removeEvent e dp tier eks => ∀ ek ∈ eks, ix.Untouched ⟨e, dp, tier⟩ ek
  | .clearEngine e _ => ix.byEngine.lookup e = none

namespace Index

section Settle

variable {ix ix' : Index}

/-- What is settled does not depend on last-seen times. -/
theorem settled_congr (same : SameResidency ix ix') (op : Op) : op.Settled ix ↔ op.Settled ix' := by
  cases op with
  | storeEvent e dp tier eks rks ts => simp only [Op.Settled, same.holders, same.lookupBridge_eq]
  | storeEventByEngineKeys e dp tier eks ts =>
      simp only [Op.Settled, same.holders, same.lookupBridge_eq]
  | removeEvent e dp tier eks => simp only [Op.Settled, Untouched.congr same]
  | clearEngine e tier => simp only [Op.Settled, same.byEngine]

/-- The key set of a holder already contains what it holds. -/
theorem lookup_byEngine_of_holds (sound : Sound ix) {e : String} {rks : List RequestKey}
    (nonempty : rks ≠ []) (held : ∀ rk ∈ rks, ix.EngineHolds e rk) :
    some (ix.keysOf e ∪ rks.toFinset) = ix.byEngine.lookup e := by
  obtain ⟨rk, member⟩ := List.exists_mem_of_ne_nil rks nonempty
  obtain ⟨s, recorded⟩ := Option.isSome_iff_exists.mp (sound.isSome_byEngine (held rk member))
  have keys : ix.keysOf e = s := by simp [keysOf, recorded]
  have covered : rks.toFinset ⊆ s := by
    intro rk inKeys
    rw [← keys, sound.tracked]
    exact held rk (List.mem_toFinset.mp inKeys)
  rw [recorded, keys, Finset.union_eq_left.mpr covered]

theorem storeEvent_same_iff (sound : Sound ix) (e : String) (dp : Int) (tier : String)
    (eks : List EngineKey) (rks : List RequestKey) (ts : Int) :
    SameResidency (ix.storeEvent e dp tier eks rks ts) ix ↔
      (Op.storeEvent e dp tier eks rks ts).Settled ix := by
  constructor
  · intro same nonempty
    refine ⟨fun rk stored => ?_, fun ek rk binds => ?_⟩
    · exact (same.holders _ rk).mp (holds_storeEvent.mpr (Or.inl ⟨rfl, stored⟩))
    · rw [lookupBridge, ← same.bridge, lookup_bridge_storeEvent, if_pos rfl, binds, Option.some_or]
  · intro settled
    by_cases empty : rks = []
    · have unchanged : ix.storeEvent e dp tier eks rks ts = ix := by simp [storeEvent, empty]
      rw [unchanged]
      exact .refl ix
    · obtain ⟨held, bound⟩ := settled empty
      refine ⟨fun r rk => ?_, Finmap.ext_lookup fun bk => ?_, Finmap.ext_lookup fun e' => ?_⟩
      · rw [holds_storeEvent, or_iff_right_of_imp]
        rintro ⟨rfl, stored⟩
        exact held rk stored
      · rw [lookup_bridge_storeEvent]
        split
        · rename_i owner
          cases binds : (tailAligned eks rks).reverse.lookup bk.engineKey with
          | none => rfl
          | some rk =>
              have before := bound bk.engineKey rk binds
              rw [lookupBridge, ← owner] at before
              rw [Option.some_or, ← before]
        · rfl
      · rw [lookup_byEngine_storeEvent]
        split
        · rename_i here
          rw [here.1]
          exact lookup_byEngine_of_holds sound empty fun rk stored => ⟨_, held rk stored, rfl⟩
        · rfl

theorem storeEventByEngineKeys_same_iff (sound : Sound ix) (e : String) (dp : Int) (tier : String)
    (eks : List EngineKey) (ts : Int) :
    SameResidency (ix.storeEventByEngineKeys e dp tier eks ts).1 ix ↔
      (Op.storeEventByEngineKeys e dp tier eks ts).Settled ix := by
  constructor
  · intro same bridged ek member rk found
    refine (same.holders _ rk).mp
      (holds_storeEventByEngineKeys.mpr (Or.inl ⟨?_, rfl, ek, member, found⟩))
    exact isSome_storeEventByEngineKeys.mpr ⟨List.ne_nil_of_mem member, bridged⟩
  · intro settled
    rcases storeEventByEngineKeys_cases ix e dp tier eks ts with
      ⟨rks, nonempty, resolved, result⟩ | ⟨-, result⟩
    · have held : ∀ rk ∈ rks, ix.Holds ⟨e, dp, tier⟩ rk := by
        intro rk stored
        obtain ⟨ek, member, found⟩ := (mem_of_mapM_eq_some resolved).mp stored
        exact settled (isSome_mapM_iff.mp (by rw [resolved]; rfl)) ek member rk found
      have stored : rks ≠ [] := by
        obtain ⟨ek, member⟩ := List.exists_mem_of_ne_nil eks nonempty
        have bridged := isSome_mapM_iff.mp (by rw [resolved]; rfl) ek member
        obtain ⟨rk, found⟩ := Option.isSome_iff_exists.mp bridged
        exact List.ne_nil_of_mem ((mem_of_mapM_eq_some resolved).mpr ⟨ek, member, found⟩)
      rw [result]
      refine ⟨fun r rk => ?_, bridge_storeRequestKeysLocked, Finmap.ext_lookup fun e' => ?_⟩
      · rw [holds_storeRequestKeysLocked, or_iff_right_of_imp]
        rintro ⟨rfl, inKeys⟩
        exact held rk inKeys
      · rw [lookup_byEngine_storeRequestKeysLocked]
        split
        · rename_i owner
          rw [owner]
          exact lookup_byEngine_of_holds sound stored fun rk inKeys => ⟨_, held rk inKeys, rfl⟩
        · rfl
    · rw [result]
      exact .refl ix

/-- An operation leaves the residency as it is exactly when it is settled. -/
theorem settled_iff (sound : Sound ix) {op : Op} (whole : op.wholeClear) :
    SameResidency (ix.apply op) ix ↔ op.Settled ix := by
  cases op with
  | storeEvent e dp tier eks rks ts => exact storeEvent_same_iff sound e dp tier eks rks ts
  | storeEventByEngineKeys e dp tier eks ts =>
      exact storeEventByEngineKeys_same_iff sound e dp tier eks ts
  | removeEvent e dp tier eks => exact removeEvent_same_iff sound e dp tier eks
  | clearEngine e tier =>
      obtain rfl : tier = "" := whole
      constructor
      · intro same
        have cleared : (ix.clearEngine e "").byEngine.lookup e = none := by
          rw [lookup_byEngine_clearEngine, if_pos rfl]
        rw [Op.Settled, ← same.byEngine]
        exact cleared
      · intro unrecorded
        have unchanged : ix.apply (.clearEngine e "") = ix := by
          rw [Op.Settled] at unrecorded
          simp only [apply, clearEngine, unrecorded]
        rw [unchanged]
        exact .refl ix

/-- An operation has settled itself: repeating it at once changes nothing. -/
theorem settled_apply (sound : Sound ix) {op : Op} (whole : op.wholeClear) :
    op.Settled (ix.apply op) := by
  cases op with
  | storeEvent e dp tier eks rks ts =>
      intro nonempty
      refine ⟨fun rk stored => holds_storeEvent.mpr (Or.inl ⟨rfl, stored⟩), fun ek rk binds => ?_⟩
      rw [apply, lookupBridge, lookup_bridge_storeEvent, if_pos rfl, binds, Option.some_or]
  | storeEventByEngineKeys e dp tier eks ts =>
      have bridge :
          (ix.storeEventByEngineKeys e dp tier eks ts).1.lookupBridge = ix.lookupBridge := by
        funext e' ek
        rw [lookupBridge, lookupBridge, bridge_storeEventByEngineKeys]
      simp only [Op.Settled, apply, bridge]
      intro bridged ek member rk found
      refine holds_storeEventByEngineKeys.mpr (Or.inl ⟨?_, rfl, ek, member, found⟩)
      exact isSome_storeEventByEngineKeys.mpr ⟨List.ne_nil_of_mem member, bridged⟩
  | removeEvent e dp tier eks =>
      intro ek member
      rw [apply, removeEvent_eq_run]
      exact untouched_removeKeys sound member
  | clearEngine e tier =>
      obtain rfl : tier = "" := whole
      rw [Op.Settled, apply, lookup_byEngine_clearEngine, if_pos rfl]

end Settle

end Index

end KvIndexer.Residency
