import KvIndexer.Residency.History
import KvIndexer.Residency.Hit

/-!
Engines sharing one index.

`SameFor e` relates two indexes that look alike to engine `e`: its holds, with
their timestamps, and its bridge. An operation of another engine never changes
that view (`sameFor_apply_other`). An operation of `e` itself changes it in the
same way in both indexes, with one exception: when `e` removes a key whose block
it no longer holds, the bridge entry is dropped if the entry is kept alive by
another engine, and stays if it is not. `isolated_iff` shows that this is the only
way in which engines interfere.
-/

namespace KvIndexer.Residency

namespace Index

/-- The two indexes look alike to engine `e`. -/
structure SameFor (e : String) (ix ix' : Index) : Prop where
  entries : ∀ (rk : RequestKey) (r : Resident), r.engineID = e →
    (ix.entryOf rk).lookup r = (ix'.entryOf rk).lookup r
  bridges : ∀ ek, ix.lookupBridge e ek = ix'.lookupBridge e ek

namespace SameFor

variable {e : String} {ix ix' ix'' : Index}

theorem refl (e : String) (ix : Index) : SameFor e ix ix := ⟨fun _ _ _ => rfl, fun _ => rfl⟩

theorem trans (first : SameFor e ix ix') (second : SameFor e ix' ix'') : SameFor e ix ix'' where
  entries rk r owner := (first.entries rk r owner).trans (second.entries rk r owner)
  bridges ek := (first.bridges ek).trans (second.bridges ek)

theorem holds_iff (same : SameFor e ix ix') {r : Resident} (owner : r.engineID = e)
    (rk : RequestKey) : ix.Holds r rk ↔ ix'.Holds r rk := by
  simp only [Holds, ← Finmap.lookup_isSome, same.entries rk r owner]

theorem engineHolds_iff (same : SameFor e ix ix') (rk : RequestKey) :
    ix.EngineHolds e rk ↔ ix'.EngineHolds e rk :=
  exists_congr fun _ => and_congr_left fun owner => same.holds_iff owner rk

theorem lookupBridge_eq (same : SameFor e ix ix') : ix.lookupBridge e = ix'.lookupBridge e :=
  funext same.bridges

end SameFor

/-! ### What an engine sees of its own and of others' operations -/

section Frame

variable {e : String} {ix : Index}

theorem sameFor_removeKey_other (r : Resident) (other : r.engineID ≠ e) (ek : EngineKey) :
    SameFor e (removeKey r ix ek) ix where
  entries rk r' owner := by
    have differs : r' ≠ r := fun same => other (same ▸ owner)
    rw [lookup_entryOf_removeKey, if_neg fun both => differs both.2]
  bridges ek' := by
    have differs : (⟨e, ek'⟩ : EngineBridgeKey) ≠ ⟨r.engineID, ek⟩ := fun same =>
      other (EngineBridgeKey.mk.inj same).1.symm
    rw [lookupBridge, lookup_bridge_removeKey, if_neg fun both => differs both.1]
    rfl

/-- An operation of another engine is not seen. -/
theorem sameFor_apply_other {op : Op} (whole : op.wholeClear) (other : op.engineID ≠ e) :
    SameFor e (ix.apply op) ix := by
  cases op with
  | storeEvent e' dp tier eks rks ts =>
      refine ⟨fun rk r owner => ?_, fun ek => ?_⟩
      · have differs : r ≠ ⟨e', dp, tier⟩ := fun same => other (by rw [← owner, same]; rfl)
        rw [apply, lookup_entryOf_storeEvent, if_neg fun both => differs both.1]
      · have differs : e ≠ e' := Ne.symm other
        rw [apply, lookupBridge, lookup_bridge_storeEvent, if_neg differs]
        rfl
  | storeEventByEngineKeys e' dp tier eks ts =>
      rcases storeEventByEngineKeys_cases ix e' dp tier eks ts with
        ⟨rks, -, -, result⟩ | ⟨-, result⟩
      · refine ⟨fun rk r owner => ?_, fun ek => ?_⟩
        · have differs : r ≠ ⟨e', dp, tier⟩ := fun same => other (by rw [← owner, same]; rfl)
          rw [apply, result, lookup_entryOf_storeRequestKeysLocked,
            if_neg fun both => differs both.1]
        · rw [apply, result, lookupBridge, bridge_storeRequestKeysLocked]
          rfl
      · rw [apply, result]
        exact SameFor.refl e ix
  | removeEvent e' dp tier eks =>
      rw [apply, removeEvent_eq_run]
      have kept : ∀ (ix' : Index) (ek : EngineKey), True → SameFor e ix' ix →
          SameFor e (removeKey ⟨e', dp, tier⟩ ix' ek) ix :=
        fun _ ek _ same => (sameFor_removeKey_other ⟨e', dp, tier⟩ other ek).trans same
      exact Run.run_invariant kept (SameFor.refl e ix) (Run.eachStep_forall.mpr fun _ _ => trivial)
  | clearEngine e' tier =>
      obtain rfl : tier = "" := whole
      refine ⟨fun rk r owner => ?_, fun ek => ?_⟩
      · rw [apply, lookup_entryOf_clearEngine, if_neg]
        rintro ⟨-, cleared⟩
        have mine := (of_decide_eq_true cleared).1
        exact other (mine ▸ owner)
      · rw [apply, lookupBridge, lookup_bridge_clearEngine, if_neg fun both => other both.1.symm]
        rfl

/-- Only engine `e` holds anything. -/
def OnlyOwner (e : String) (ix : Index) : Prop := ∀ r rk, ix.Holds r rk → r.engineID = e

theorem onlyOwner_apply {op : Op} (only : OnlyOwner e ix) (own : op.engineID = e)
    (whole : op.wholeClear) : OnlyOwner e (ix.apply op) := by
  intro r rk holds
  cases op with
  | storeEvent e' dp tier eks rks ts =>
      rcases holds_storeEvent.mp holds with ⟨rfl, -⟩ | before
      · exact own
      · exact only r rk before
  | storeEventByEngineKeys e' dp tier eks ts =>
      rcases holds_storeEventByEngineKeys.mp holds with ⟨-, rfl, -⟩ | before
      · exact own
      · exact only r rk before
  | removeEvent e' dp tier eks =>
      have kept : ∀ (ix : Index) (ek : EngineKey), True → OnlyOwner e ix →
          OnlyOwner e (removeKey ⟨e', dp, tier⟩ ix ek) :=
        fun _ _ _ only r rk holds => only r rk (holds_removeKey.mp holds).1
      exact Run.run_invariant kept only (Run.eachStep_forall.mpr fun _ _ => trivial) r rk holds
  | clearEngine e' tier => exact only r rk (holds_clearEngine.mp holds).1

end Frame

/-! ### One operation in two indexes -/

/-- Engine `e` removes a key bridged to a block that only other engines hold. -/
def foreignEntry (e : String) (ix : Index) (ek : EngineKey) : Prop :=
  ∃ rk, ix.lookupBridge e ek = some rk ∧ ¬ ix.EngineHolds e rk ∧ ∃ r, ix.Holds r rk

instance (e : String) (ix : Index) (ek : EngineKey) : Decidable (foreignEntry e ix ek) :=
  match bridged : ix.lookupBridge e ek with
  | none => .isFalse fun ⟨rk, found, _⟩ => by rw [bridged] at found; cases found
  | some rk =>
      decidable_of_iff (¬ ix.EngineHolds e rk ∧ ∃ r, ix.Holds r rk) <| by
        rw [foreignEntry, bridged]
        simp

section Own

variable {e : String} {ix ix' : Index}

theorem keepsHold_congr (same : SameFor e ix ix') {r : Resident} (owner : r.engineID = e)
    (rk : RequestKey) : ix.keepsHold r rk = ix'.keepsHold r rk := by
  rw [Bool.eq_iff_iff, keepsHold_iff, keepsHold_iff]
  refine exists_congr fun r' => ?_
  constructor
  · rintro ⟨holds, other, mine⟩
    exact ⟨(same.holds_iff (mine.trans owner) rk).mp holds, other, mine⟩
  · rintro ⟨holds, other, mine⟩
    exact ⟨(same.holds_iff (mine.trans owner) rk).mpr holds, other, mine⟩

/-- The bridge entry goes in both indexes or in neither, unless the block is held
by other engines only. -/
theorem releases_congr (same : SameFor e ix ix') (sound : Sound ix) (sound' : Sound ix')
    (only : OnlyOwner e ix') {r : Resident} (owner : r.engineID = e) {ek : EngineKey}
    (own : ¬ foreignEntry e ix ek) : ix.releases r ek = ix'.releases r ek := by
  have reading : ix.bridge.lookup ⟨r.engineID, ek⟩ = ix'.bridge.lookup ⟨r.engineID, ek⟩ := by
    rw [owner]
    exact same.bridges ek
  unfold releases
  rw [← reading]
  cases bridged : ix.bridge.lookup ⟨r.engineID, ek⟩ with
  | none => rfl
  | some rk =>
      have entries : (ix.byRequestKey.lookup rk).isSome = (ix'.byRequestKey.lookup rk).isSome := by
        rw [Bool.eq_iff_iff, sound.isSome_iff, sound'.isSome_iff]
        constructor
        · rintro ⟨r', holds⟩
          have mine : ix.EngineHolds e rk := by
            by_contra foreign
            exact own ⟨rk, by rwa [owner] at bridged, foreign, r', holds⟩
          obtain ⟨r'', holds', -⟩ := (same.engineHolds_iff rk).mp mine
          exact ⟨r'', holds'⟩
        · rintro ⟨r', holds⟩
          exact ⟨r', (same.holds_iff (only r' rk holds) rk).mpr holds⟩
      dsimp only
      rw [entries, keepsHold_congr same owner]

theorem sameFor_removeKey (same : SameFor e ix ix') (sound : Sound ix) (sound' : Sound ix')
    (only : OnlyOwner e ix') {r : Resident} (owner : r.engineID = e) {ek : EngineKey}
    (own : ¬ foreignEntry e ix ek) : SameFor e (removeKey r ix ek) (removeKey r ix' ek) where
  entries rk r' mine := by
    have reading : ix.bridge.lookup ⟨r.engineID, ek⟩ = ix'.bridge.lookup ⟨r.engineID, ek⟩ := by
      rw [owner]
      exact same.bridges ek
    rw [lookup_entryOf_removeKey, lookup_entryOf_removeKey, reading, same.entries rk r' mine]
  bridges ek' := by
    have before := same.bridges ek'
    rw [lookupBridge, lookupBridge] at before ⊢
    rw [lookup_bridge_removeKey, lookup_bridge_removeKey, before,
      releases_congr same sound sound' only owner own]

/-- What relates the shared index to the one engine `e` would have alone. -/
structure Twin (e : String) (ix ix' : Index) : Prop where
  same : SameFor e ix ix'
  sound : Sound ix
  sound' : Sound ix'
  only : OnlyOwner e ix'

theorem Twin.removeKeys {dp : Int} {tier : String} {eks : List EngineKey} (twin : Twin e ix ix')
    (own : Run.EachStep (removeKey ⟨e, dp, tier⟩) (fun ix ek => ¬ foreignEntry e ix ek) ix eks) :
    Twin e (Run.run (removeKey ⟨e, dp, tier⟩) ix eks)
      (Run.run (removeKey ⟨e, dp, tier⟩) ix' eks) := by
  induction eks generalizing ix ix' with
  | nil => exact twin
  | cons ek eks ih =>
      refine ih ⟨sameFor_removeKey twin.same twin.sound twin.sound' twin.only rfl own.1,
        twin.sound.removeKey _ ek, twin.sound'.removeKey _ ek, ?_⟩ own.2
      exact fun r rk holds => twin.only r rk (holds_removeKey.mp holds).1

/-- The removals of the operation find no block of `e` that only others hold. -/
def removesOwn (e : String) (ix : Index) : Op → Prop
  | .removeEvent e' dp tier eks =>
      e' = e → Run.EachStep (removeKey ⟨e, dp, tier⟩) (fun ix ek => ¬ foreignEntry e ix ek) ix eks
  | .storeEvent .. => True
  | .storeEventByEngineKeys .. => True
  | .clearEngine .. => True

instance (e : String) (ix : Index) : DecidablePred (removesOwn e ix)
  | .removeEvent e' dp tier eks =>
      inferInstanceAs (Decidable (e' = e →
        Run.EachStep (removeKey ⟨e, dp, tier⟩) (fun ix ek => ¬ foreignEntry e ix ek) ix eks))
  | .storeEvent .. => .isTrue trivial
  | .storeEventByEngineKeys .. => .isTrue trivial
  | .clearEngine .. => .isTrue trivial

theorem Twin.apply_own (twin : Twin e ix ix') {op : Op} (own : op.engineID = e)
    (whole : op.wholeClear) (removes : removesOwn e ix op) :
    Twin e (ix.apply op) (ix'.apply op) := by
  refine ⟨?_, twin.sound.apply whole, twin.sound'.apply whole, onlyOwner_apply twin.only own whole⟩
  cases op with
  | storeEvent e' dp tier eks rks ts =>
      refine ⟨fun rk r owner => ?_, fun ek => ?_⟩
      · rw [apply, apply, lookup_entryOf_storeEvent, lookup_entryOf_storeEvent,
          twin.same.entries rk r owner]
      · have before := twin.same.bridges ek
        rw [lookupBridge, lookupBridge] at before ⊢
        rw [apply, apply, lookup_bridge_storeEvent, lookup_bridge_storeEvent, before]
  | storeEventByEngineKeys e' dp tier eks ts =>
      obtain rfl : e' = e := own
      rcases storeEventByEngineKeys_cases ix e' dp tier eks ts with
        ⟨rks, nonempty, resolved, result⟩ | ⟨failed, result⟩
      · have result' : ix'.storeEventByEngineKeys e' dp tier eks ts =
            (ix'.storeRequestKeysLocked e' dp tier rks ts, some rks) := by
          rw [twin.same.lookupBridge_eq] at resolved
          rw [storeEventByEngineKeys, if_neg (by simpa using nonempty), resolved]
        rw [apply, apply, result, result']
        refine ⟨fun rk r owner => ?_, fun ek => ?_⟩
        · rw [lookup_entryOf_storeRequestKeysLocked, lookup_entryOf_storeRequestKeysLocked,
            twin.same.entries rk r owner]
        · rw [lookupBridge, lookupBridge, bridge_storeRequestKeysLocked,
            bridge_storeRequestKeysLocked]
          exact twin.same.bridges ek
      · have result' : ix'.storeEventByEngineKeys e' dp tier eks ts = (ix', none) := by
          rw [twin.same.lookupBridge_eq] at failed
          rcases storeEventByEngineKeys_cases ix' e' dp tier eks ts with
            ⟨rks, nonempty, resolved, -⟩ | ⟨-, unchanged⟩
          · rcases failed with empty | unresolved
            · exact absurd empty nonempty
            · rw [resolved] at unresolved
              cases unresolved
          · exact unchanged
        rw [apply, apply, result, result']
        exact twin.same
  | removeEvent e' dp tier eks =>
      obtain rfl : e' = e := own
      exact (twin.removeKeys (removes rfl)).same
  | clearEngine e' tier =>
      obtain rfl : e' = e := own
      obtain rfl : tier = "" := whole
      refine ⟨fun rk r owner => ?_, fun ek => ?_⟩
      · have cleared : ∀ ix : Index, Sound ix →
            ((ix.clearEngine e' "").entryOf rk).lookup r = none := by
          intro ix sound
          rw [← Option.not_isSome_iff_eq_none, Finmap.lookup_isSome]
          exact fun holds => (sound.holds_clearEngine_iff.mp holds).2 owner
        rw [apply, apply, cleared ix twin.sound, cleared ix' twin.sound']
      · rw [apply, apply, lookupBridge, lookupBridge, twin.sound.lookup_bridge_clearEngine_iff,
          twin.sound'.lookup_bridge_clearEngine_iff, if_pos rfl, if_pos rfl]

end Own

/-! ### Whole histories -/

/-- The operations of engine `e`, in order. -/
def own (e : String) (ops : List Op) : List Op := ops.filter fun op => op.engineID = e

/-- Engine `e` gets the same results from the two indexes: its bridge lookups, its
tokenless stores and its hit in every query. -/
structure SameResults (e : String) (ix ix' : Index) : Prop where
  lookups : ∀ ek, ix.lookupBridge e ek = ix'.lookupBridge e ek
  tokenless : ∀ dp tier eks ts, (ix.storeEventByEngineKeys e dp tier eks ts).2 =
    (ix'.storeEventByEngineKeys e dp tier eks ts).2
  hits : ∀ rks (blockSize : Int64), (ix.query rks blockSize).instances.lookup e =
    (ix'.query rks blockSize).instances.lookup e

/-- At every point of the history engine `e` sees what it would see alone. -/
def Isolated (e : String) (ops : List Op) : Prop :=
  ∀ pre post, ops = pre ++ post → SameResults e (after pre) (after (own e pre))

theorem SameFor.results {e : String} {ix ix' : Index} (same : SameFor e ix ix') :
    SameResults e ix ix' where
  lookups := same.bridges
  tokenless dp tier eks ts := by
    unfold storeEventByEngineKeys
    rw [same.lookupBridge_eq]
    split
    · rfl
    · cases eks.mapM (ix'.lookupBridge e) <;> rfl
  hits := lookup_query_congr same.entries

theorem twin_after {e : String} {ops : List Op} (whole : ∀ op ∈ ops, op.wholeClear)
    (removes : Run.EachStep apply (removesOwn e) newIndex ops) :
    Twin e (after ops) (after (own e ops)) := by
  have each : Run.EachStep apply (fun ix op => op.wholeClear ∧ removesOwn e ix op) newIndex ops :=
    Run.eachStep_iff.mpr fun pre op post split =>
      ⟨whole op (by simp [split]), Run.eachStep_iff.mp removes pre op post split⟩
  refine Run.run_simulation (R := Twin e) ?_ ?_ ?_ each
  · intro ix ix' op mine holds twin
    exact twin.apply_own (of_decide_eq_true mine) holds.1 holds.2
  · intro ix ix' op others holds twin
    exact ⟨(sameFor_apply_other holds.1 (of_decide_eq_false others)).trans twin.same,
      twin.sound.apply holds.1, twin.sound', twin.only⟩
  · exact ⟨SameFor.refl e newIndex, sound_newIndex, sound_newIndex,
      fun r rk holds => absurd holds Finmap.notMem_empty⟩

/-- A bridge entry to a block without any holder survives removals. -/
theorem lookup_bridge_removeKeys_dangling {r : Resident} {ix : Index} (sound : Sound ix)
    {bk : EngineBridgeKey} {rk : RequestKey} (bridged : ix.bridge.lookup bk = some rk)
    (unheld : ∀ r, ¬ ix.Holds r rk) (eks : List EngineKey) :
    (Run.run (removeKey r) ix eks).bridge.lookup bk = some rk := by
  have kept : ∀ (ix : Index) (ek : EngineKey), True →
      (Sound ix ∧ ix.bridge.lookup bk = some rk ∧ ∀ r, ¬ ix.Holds r rk) →
      (Sound (removeKey r ix ek) ∧ (removeKey r ix ek).bridge.lookup bk = some rk ∧
        ∀ r', ¬ (removeKey r ix ek).Holds r' rk) := by
    rintro ix ek - ⟨sound, bridged, unheld⟩
    refine ⟨sound.removeKey r ek, ?_, fun r' holds => unheld r' (holds_removeKey.mp holds).1⟩
    rw [lookup_bridge_removeKey, if_neg, bridged]
    rintro ⟨rfl, released⟩
    obtain ⟨rk', bridged', present, -⟩ := releases_iff.mp released
    obtain rfl : rk = rk' := Option.some.inj (bridged.symm.trans bridged')
    obtain ⟨r', holds⟩ := sound.isSome_iff.mp present
    exact unheld r' holds
  exact (Run.run_invariant kept ⟨sound, bridged, unheld⟩
    (Run.eachStep_forall.mpr fun _ _ => trivial)).2.1

/-- Engine `e` sees at every point of a history what it would see alone exactly
when none of its removals finds a block that only other engines hold. -/
theorem isolated_iff {ops : List Op} (whole : ∀ op ∈ ops, op.wholeClear) (e : String) :
    Isolated e ops ↔ Run.EachStep apply (removesOwn e) newIndex ops := by
  constructor
  · intro isolated
    by_contra fails
    obtain ⟨pre, op, post, rfl, before, breaks⟩ := Run.exists_first_failure fails
    have twin := twin_after (fun op member => whole op (by simp [member])) before
    cases op with
    | storeEvent => exact breaks trivial
    | storeEventByEngineKeys => exact breaks trivial
    | clearEngine => exact breaks trivial
    | removeEvent e' dp tier eks =>
        obtain ⟨rfl, fails⟩ := Classical.not_imp.mp breaks
        obtain ⟨ks, ek, ks', rfl, ownBefore, foreign⟩ := Run.exists_first_failure fails
        obtain ⟨rk, bridged, notMine, r, holds⟩ := not_not.mp foreign
        have at_key := twin.removeKeys ownBefore
        set ix := Run.run (removeKey ⟨e', dp, tier⟩) (after pre) ks with ixDef
        set ix' := Run.run (removeKey ⟨e', dp, tier⟩) (after (own e' pre)) ks with ixDef'
        -- the shared index drops the bridge entry here, the engine's own keeps it
        have dropped : (removeKey ⟨e', dp, tier⟩ ix ek).bridge.lookup ⟨e', ek⟩ = none := by
          have unkept : ix.keepsHold ⟨e', dp, tier⟩ rk = false := by
            rw [Bool.eq_false_iff, Ne, keepsHold_iff]
            rintro ⟨r', holds', -, mine⟩
            exact notMine ⟨r', holds', mine⟩
          have released : ix.releases ⟨e', dp, tier⟩ ek = true :=
            releases_iff.mpr ⟨rk, bridged, at_key.sound.isSome_iff.mpr ⟨r, holds⟩, unkept⟩
          rw [lookup_bridge_removeKey, if_pos ⟨rfl, released⟩]
        have kept : (Run.run (removeKey ⟨e', dp, tier⟩) ix' (ek :: ks')).bridge.lookup ⟨e', ek⟩ =
            some rk := by
          refine lookup_bridge_removeKeys_dangling at_key.sound' ?_ (fun r' holds' => ?_) _
          · exact (at_key.same.bridges ek).symm.trans bridged
          · have mine := at_key.only r' rk holds'
            exact notMine ⟨r', (at_key.same.holds_iff mine rk).mpr holds', mine⟩
        have dropped' : (Run.run (removeKey ⟨e', dp, tier⟩) ix (ek :: ks')).bridge.lookup ⟨e', ek⟩ =
            none := by
          rw [Run.run_cons]
          rcases lookup_bridge_removeKeys ⟨e', dp, tier⟩ (removeKey ⟨e', dp, tier⟩ ix ek) ks'
            ⟨e', ek⟩ with gone | same
          · exact gone
          · rw [same, dropped]
        have results := isolated (pre ++ [.removeEvent e' dp tier (ks ++ ek :: ks')]) post (by simp)
        have reading := results.lookups ek
        have mine : own e' (pre ++ [.removeEvent e' dp tier (ks ++ ek :: ks')]) =
            own e' pre ++ [.removeEvent e' dp tier (ks ++ ek :: ks')] := by
          simp [own, Op.engineID]
        rw [mine, after_concat, after_concat, apply, apply, removeEvent_eq_run, removeEvent_eq_run,
          Run.run_append, Run.run_append, ← ixDef, ← ixDef', lookupBridge, lookupBridge, kept,
          dropped'] at reading
        cases reading
  · rintro removes pre post rfl
    exact (twin_after (fun op member => whole op (by simp [member]))
      (Run.eachStep_append.mp removes).1).same.results

/-- A history in which engine `a` stores block 7 under two of its keys. -/
def aliasedHistory : List Op :=
  [.storeEvent "a" 0 "gpu" [1] [7] 10, .storeEvent "a" 0 "gpu" [2] [7] 11,
    .storeEvent "b" 0 "gpu" [9] [7] 12, .removeEvent "a" 0 "gpu" [1], .removeEvent "a" 0 "gpu" [2]]

/-- Engines do interfere: alone, engine `a` would still have key 2 bridged. -/
theorem not_isolated :
    ¬ ∀ ops : List Op, (∀ op ∈ ops, op.wholeClear) → ∀ e, Isolated e ops := by
  intro isolated
  have whole : ∀ op ∈ aliasedHistory, op.wholeClear := by decide
  have results := isolated aliasedHistory whole "a" aliasedHistory [] (List.append_nil _).symm
  have reading := results.lookups 2
  revert reading
  decide

/-- Up to its last removal the same history is isolated for engine `a`, although
engine `b` shares the block. -/
theorem aliased_isolated_before_last : Isolated "a" (aliasedHistory.take 4) :=
  (isolated_iff (by decide) "a").mpr (by decide)

end Index

end KvIndexer.Residency
