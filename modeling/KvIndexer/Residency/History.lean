import KvIndexer.Lib.Run
import KvIndexer.Residency.Views

/-!
Histories of one index, and its representation invariant.

An `Op` is one call of a mutating operation, with all its arguments; a history is
a list of them, whatever engines they come from. `Sound` ties the three maps
together: no entry without a holder, an engine's key set is what it holds, and an
engine with a bridge entry has a record, so that clearing it finds the bridge.
`sound_run` keeps it over every history whose clears are whole-engine clears; a
clear of one tier leaves stale keys in the engine's record and is not covered.
-/

namespace KvIndexer.Residency

/-- One call of an index operation. -/
inductive Op where
  | storeEvent (engineID : String) (dpRank : Int) (tier : String)
      (engineKeys : List EngineKey) (requestKeys : List RequestKey) (ts : Int)
  | storeEventByEngineKeys (engineID : String) (dpRank : Int) (tier : String)
      (engineKeys : List EngineKey) (ts : Int)
  | removeEvent (engineID : String) (dpRank : Int) (tier : String) (engineKeys : List EngineKey)
  | clearEngine (engineID : String) (tier : String)
deriving DecidableEq, Repr

/-- The engine the call is made for. -/
def Op.engineID : Op → String
  | .storeEvent e _ _ _ _ _ => e
  | .storeEventByEngineKeys e _ _ _ _ => e
  | .removeEvent e _ _ _ => e
  | .clearEngine e _ => e

/-- Clears, if it is a clear at all, the whole engine. -/
def Op.wholeClear : Op → Prop
  | .storeEvent .. => True
  | .storeEventByEngineKeys .. => True
  | .removeEvent .. => True
  | .clearEngine _ tier => tier = ""

instance : DecidablePred Op.wholeClear
  | .storeEvent .. => .isTrue trivial
  | .storeEventByEngineKeys .. => .isTrue trivial
  | .removeEvent .. => .isTrue trivial
  | .clearEngine _ tier => inferInstanceAs (Decidable (tier = ""))

namespace Index

def apply (ix : Index) : Op → Index
  | .storeEvent e dp tier eks rks ts => ix.storeEvent e dp tier eks rks ts
  | .storeEventByEngineKeys e dp tier eks ts => (ix.storeEventByEngineKeys e dp tier eks ts).1
  | .removeEvent e dp tier eks => ix.removeEvent e dp tier eks
  | .clearEngine e tier => ix.clearEngine e tier

/-- The index after a history, from the empty index. -/
def after (ops : List Op) : Index := Run.run apply newIndex ops

theorem after_append (pre post : List Op) : after (pre ++ post) = Run.run apply (after pre) post :=
  Run.run_append apply newIndex pre post

@[simp] theorem after_concat (ops : List Op) (op : Op) :
    after (ops ++ [op]) = (after ops).apply op :=
  Run.run_concat apply newIndex ops op

/-- A removal is a run of single-block removals. -/
theorem removeEvent_eq_run (ix : Index) (e : String) (dp : Int) (tier : String)
    (eks : List EngineKey) :
    ix.removeEvent e dp tier eks = Run.run (removeKey ⟨e, dp, tier⟩) ix eks := rfl

/-- Removals drop bridge entries or keep them, and never write one. -/
theorem lookup_bridge_removeKeys (r : Resident) (ix : Index) (eks : List EngineKey)
    (bk : EngineBridgeKey) :
    (Run.run (removeKey r) ix eks).bridge.lookup bk = none ∨
      (Run.run (removeKey r) ix eks).bridge.lookup bk = ix.bridge.lookup bk := by
  induction eks generalizing ix with
  | nil => exact Or.inr rfl
  | cons ek eks ih =>
      rw [Run.run_cons]
      rcases ih (removeKey r ix ek) with dropped | kept
      · exact Or.inl dropped
      · rw [kept, lookup_bridge_removeKey]
        split
        · exact Or.inl rfl
        · exact Or.inr rfl

/-- Removing another key leaves a bridge entry alone. -/
theorem lookupBridge_removeKeys_other {ix : Index} {r : Resident} {eks : List EngineKey}
    {e : String} {ek : EngineKey} (other : ¬ (r.engineID = e ∧ ek ∈ eks)) :
    (Run.run (removeKey r) ix eks).lookupBridge e ek = ix.lookupBridge e ek := by
  induction eks generalizing ix with
  | nil => rfl
  | cons ek' eks ih =>
      have differs : (⟨e, ek⟩ : EngineBridgeKey) ≠ ⟨r.engineID, ek'⟩ := by
        intro same
        obtain ⟨rfl, rfl⟩ := EngineBridgeKey.mk.inj same
        exact other ⟨rfl, List.mem_cons_self⟩
      rw [Run.run_cons, ih fun both => other ⟨both.1, List.mem_cons_of_mem _ both.2⟩, lookupBridge,
        lookup_bridge_removeKey, if_neg fun both => differs both.1]
      rfl

/-- Removals add no hold. -/
theorem holds_of_removeKeys {r r' : Resident} {ix : Index} {eks : List EngineKey} {rk : RequestKey}
    (holds : (Run.run (removeKey r) ix eks).Holds r' rk) : ix.Holds r' rk := by
  induction eks generalizing ix with
  | nil => exact holds
  | cons ek eks ih => exact (holds_removeKey.mp (ih holds)).1

/-- Removals take no hold of another resident. -/
theorem holds_removeKeys_other {r r' : Resident} {ix : Index} {eks : List EngineKey}
    {rk : RequestKey} (other : r' ≠ r) (holds : ix.Holds r' rk) :
    (Run.run (removeKey r) ix eks).Holds r' rk := by
  induction eks generalizing ix with
  | nil => exact holds
  | cons ek eks ih => exact ih (holds_removeKey.mpr ⟨holds, fun both => other both.2⟩)

/-- The representation invariant. -/
structure Sound (ix : Index) : Prop where
  /-- No entry is empty. -/
  occupied : ∀ rk e, ix.byRequestKey.lookup rk = some e → ∃ r, r ∈ e
  /-- An engine's key set is the set of keys it holds. -/
  tracked : ∀ e rk, rk ∈ ix.keysOf e ↔ ix.EngineHolds e rk
  /-- An engine with a bridge entry has a record. -/
  recorded : ∀ bk rk, ix.bridge.lookup bk = some rk → (ix.byEngine.lookup bk.engineID).isSome

theorem sound_newIndex : Sound newIndex where
  occupied _ _ found := by simp [newIndex] at found
  tracked e rk := by
    constructor
    · intro member
      simp [newIndex, keysOf] at member
    · rintro ⟨r, holds, -⟩
      exact absurd holds Finmap.notMem_empty
  recorded _ _ found := by simp [newIndex] at found

namespace Sound

variable {ix : Index}

/-- An entry is present exactly when the key has a holder. -/
theorem isSome_iff (sound : Sound ix) {rk : RequestKey} :
    (ix.byRequestKey.lookup rk).isSome ↔ ∃ r, ix.Holds r rk := by
  rw [Option.isSome_iff_exists]
  constructor
  · rintro ⟨e, found⟩
    obtain ⟨r, present⟩ := sound.occupied rk e found
    exact ⟨r, by simpa [Holds, entryOf, found] using present⟩
  · rintro ⟨r, holds⟩
    cases found : ix.byRequestKey.lookup rk with
    | none =>
        simp only [Holds, entryOf, found, Option.getD_none] at holds
        exact absurd holds Finmap.notMem_empty
    | some e => exact ⟨e, rfl⟩

/-- An engine that holds a key has a record. -/
theorem isSome_byEngine (sound : Sound ix) {e : String} {rk : RequestKey}
    (holds : ix.EngineHolds e rk) : (ix.byEngine.lookup e).isSome := by
  have member := (sound.tracked e rk).mpr holds
  cases recorded : ix.byEngine.lookup e with
  | none => simp [keysOf, recorded] at member
  | some s => rfl

theorem storeRequestKeysLocked (sound : Sound ix) (e : String) (dp : Int) (tier : String)
    (rks : List RequestKey) (ts : Int) : Sound (ix.storeRequestKeysLocked e dp tier rks ts) where
  occupied rk entry found := by
    have present :
        ((ix.storeRequestKeysLocked e dp tier rks ts).byRequestKey.lookup rk).isSome := by
      rw [found]; rfl
    have holder : ∃ r, (ix.storeRequestKeysLocked e dp tier rks ts).Holds r rk := by
      rcases (isSome_storeRequestKeysLocked rk).mp present with stored | before
      · exact ⟨_, holds_storeRequestKeysLocked.mpr (Or.inl ⟨rfl, stored⟩)⟩
      · obtain ⟨r, holds⟩ := sound.isSome_iff.mp before
        exact ⟨r, holds_storeRequestKeysLocked.mpr (Or.inr holds)⟩
    obtain ⟨r, holds⟩ := holder
    exact ⟨r, by simpa [Holds, entryOf, found] using holds⟩
  tracked e' rk := by
    have keys : rk ∈ (ix.storeRequestKeysLocked e dp tier rks ts).keysOf e' ↔
        (e' = e ∧ rk ∈ rks) ∨ rk ∈ ix.keysOf e' := by
      rw [keysOf, lookup_byEngine_storeRequestKeysLocked]
      by_cases same : e' = e
      · simp [same, or_comm]
      · simp [same, keysOf]
    rw [keys, sound.tracked]
    simp only [EngineHolds, holds_storeRequestKeysLocked]
    constructor
    · rintro (⟨rfl, stored⟩ | ⟨r, holds, owner⟩)
      · exact ⟨_, Or.inl ⟨rfl, stored⟩, rfl⟩
      · exact ⟨r, Or.inr holds, owner⟩
    · rintro ⟨r, ⟨rfl, stored⟩ | holds, owner⟩
      · exact Or.inl ⟨owner.symm, stored⟩
      · exact Or.inr ⟨r, holds, owner⟩
  recorded bk rk found := by
    rw [bridge_storeRequestKeysLocked] at found
    rw [lookup_byEngine_storeRequestKeysLocked]
    split
    · rfl
    · exact sound.recorded bk rk found

theorem storeEvent (sound : Sound ix) (e : String) (dp : Int) (tier : String)
    (eks : List EngineKey) (rks : List RequestKey) (ts : Int) :
    Sound (ix.storeEvent e dp tier eks rks ts) := by
  unfold Index.storeEvent
  split
  · exact sound
  · rename_i nonempty
    have stored := sound.storeRequestKeysLocked e dp tier rks ts
    refine ⟨fun rk entry found => ?_, fun e' rk => ?_, fun bk rk found => ?_⟩
    · rw [bridgeKeys_byRequestKey] at found
      exact stored.occupied rk entry found
    · simp only [keysOf, EngineHolds, Holds, entryOf, bridgeKeys_byRequestKey, bridgeKeys_byEngine]
      exact stored.tracked e' rk
    · rw [bridgeKeys_byEngine]
      rw [lookup_bridgeKeys] at found
      by_cases owner : bk.engineID = e
      · rw [owner, lookup_byEngine_storeRequestKeysLocked, if_pos rfl]
        rfl
      · rw [if_neg owner] at found
        exact stored.recorded bk rk found

theorem removeKey (sound : Sound ix) (r : Resident) (ek : EngineKey) :
    Sound (removeKey r ix ek) where
  occupied _ _ found := occupied_removeKey sound.occupied found
  tracked e rk := by
    rw [mem_keysOf_removeKey, sound.tracked]
    simp only [EngineHolds, holds_removeKey]
    constructor
    · rintro ⟨⟨r', holds, owner⟩, kept⟩
      by_cases hit : e = r.engineID ∧ ix.bridge.lookup ⟨r.engineID, ek⟩ = some rk
      · -- the engine's own key: the hold that remains is another resident's
        have still : ix.keepsHold r rk = true := by
          by_contra noHold
          exact kept ⟨hit.1, hit.2, by simpa using noHold⟩
        obtain ⟨r'', holds', other, owner'⟩ := keepsHold_iff.mp still
        exact ⟨r'', ⟨holds', fun same => other same.2⟩, by rw [owner', hit.1]⟩
      · refine ⟨r', ⟨holds, fun same => hit ⟨?_, same.1⟩⟩, owner⟩
        rw [← owner, same.2]
    · rintro ⟨r', ⟨holds, untouched⟩, owner⟩
      refine ⟨⟨r', holds, owner⟩, ?_⟩
      rintro ⟨mine, bridged, noHold⟩
      have still : ix.keepsHold r rk = true :=
        keepsHold_iff.mpr ⟨r', holds, fun same => untouched ⟨bridged, same⟩, by rw [owner, mine]⟩
      rw [still] at noHold
      cases noHold
  recorded bk rk found := by
    rw [lookup_bridge_removeKey] at found
    split at found
    · cases found
    · rw [isSome_byEngine_removeKey]
      exact sound.recorded bk rk found

theorem removeKeys (sound : Sound ix) (r : Resident) (eks : List EngineKey) :
    Sound (Run.run (Index.removeKey r) ix eks) := by
  have kept : ∀ (ix : Index) (ek : EngineKey), True → Sound ix → Sound (Index.removeKey r ix ek) :=
    fun _ ek _ sound => sound.removeKey r ek
  exact Run.run_invariant kept sound (Run.eachStep_forall.mpr fun _ _ => trivial)

theorem removeEvent (sound : Sound ix) (e : String) (dp : Int) (tier : String)
    (eks : List EngineKey) : Sound (ix.removeEvent e dp tier eks) := by
  rw [removeEvent_eq_run]
  exact sound.removeKeys ⟨e, dp, tier⟩ eks

/-- After a whole-engine clear the engine's holds are gone and the others' are as
they were. -/
theorem holds_clearEngine_iff (sound : Sound ix) {e : String} {r : Resident} {rk : RequestKey} :
    (ix.clearEngine e "").Holds r rk ↔ ix.Holds r rk ∧ r.engineID ≠ e := by
  rw [holds_clearEngine]
  refine and_congr_right fun holds => not_congr ?_
  simp only [clearedHolder, decide_eq_true_eq, true_or, and_true]
  exact ⟨fun both => both.2, fun owner => ⟨(sound.tracked e rk).mpr ⟨r, holds, owner⟩, owner⟩⟩

/-- After a whole-engine clear no bridge entry is left to the engine. -/
theorem lookup_bridge_clearEngine_iff (sound : Sound ix) {e : String} (bk : EngineBridgeKey) :
    (ix.clearEngine e "").bridge.lookup bk =
      if bk.engineID = e then none else ix.bridge.lookup bk := by
  rw [lookup_bridge_clearEngine]
  by_cases owner : bk.engineID = e
  · rw [if_pos owner]
    by_cases recorded : (ix.byEngine.lookup e).isSome
    · rw [if_pos ⟨owner, recorded⟩]
    · rw [if_neg fun both => recorded both.2]
      cases found : ix.bridge.lookup bk with
      | none => rfl
      | some rk => exact absurd (owner ▸ sound.recorded bk rk found) recorded
  · rw [if_neg owner, if_neg fun both => owner both.1]

theorem clearEngine (sound : Sound ix) (e : String) : Sound (ix.clearEngine e "") where
  occupied rk entry found := by
    rw [lookup_byRequestKey_clearEngine] at found
    split at found
    · exact occupied_clearEntry found
    · exact sound.occupied rk entry found
  tracked e' rk := by
    have keys : rk ∈ (ix.clearEngine e "").keysOf e' ↔ rk ∈ ix.keysOf e' ∧ e' ≠ e := by
      rw [keysOf, lookup_byEngine_clearEngine]
      by_cases same : e' = e
      · simp [same]
      · simp [same, keysOf]
    rw [keys, sound.tracked]
    simp only [EngineHolds, sound.holds_clearEngine_iff]
    constructor
    · rintro ⟨⟨r, holds, owner⟩, other⟩
      exact ⟨r, ⟨holds, owner ▸ other⟩, owner⟩
    · rintro ⟨r, ⟨holds, other⟩, owner⟩
      exact ⟨⟨r, holds, owner⟩, owner ▸ other⟩
  recorded bk rk found := by
    rw [sound.lookup_bridge_clearEngine_iff] at found
    split at found
    · cases found
    · rename_i other
      rw [lookup_byEngine_clearEngine, if_neg other]
      exact sound.recorded bk rk found

/-- Every operation keeps the invariant. -/
theorem apply (sound : Sound ix) {op : Op} (whole : op.wholeClear) : Sound (ix.apply op) := by
  cases op with
  | storeEvent e dp tier eks rks ts => exact sound.storeEvent e dp tier eks rks ts
  | storeEventByEngineKeys e dp tier eks ts =>
      rcases storeEventByEngineKeys_cases ix e dp tier eks ts with ⟨rks, -, -, result⟩ | ⟨-, result⟩
      · rw [Index.apply, result]
        exact sound.storeRequestKeysLocked e dp tier rks ts
      · rw [Index.apply, result]
        exact sound
  | removeEvent e dp tier eks => exact sound.removeEvent e dp tier eks
  | clearEngine e tier =>
      obtain rfl : tier = "" := whole
      exact sound.clearEngine e

end Sound

theorem sound_run {ix : Index} (sound : Sound ix) {ops : List Op}
    (whole : ∀ op ∈ ops, op.wholeClear) : Sound (Run.run apply ix ops) := by
  have kept : ∀ (ix : Index) (op : Op), op.wholeClear → Sound ix → Sound (ix.apply op) :=
    fun _ _ clears sound => sound.apply clears
  exact Run.run_invariant kept sound (Run.eachStep_forall.mpr whole)

theorem sound_after {ops : List Op} (whole : ∀ op ∈ ops, op.wholeClear) : Sound (after ops) :=
  sound_run sound_newIndex whole

/-- `Sound`, read off the maps themselves, and a tokenless store that fails leaves them
as they are. -/
structure Representation (ix : Index) : Prop where
  occupied : ∀ rk e, ix.byRequestKey.lookup rk = some e → GoMap.len e ≠ 0
  tracked : ∀ e rk, (∃ eng, ix.byEngine.lookup e = some eng ∧ rk ∈ eng) ↔
    ∃ entry, ix.byRequestKey.lookup rk = some entry ∧ ∃ r ∈ entry, r.engineID = e
  recorded : ∀ bk rk, ix.bridge.lookup bk = some rk → (ix.byEngine.lookup bk.engineID).isSome
  failed : ∀ e dp tier eks ts, (ix.storeEventByEngineKeys e dp tier eks ts).2 = none →
    (ix.storeEventByEngineKeys e dp tier eks ts).1 = ix

/-- The maps agree after every history without a clear of one tier. -/
theorem representation_after {ops : List Op} (whole : ∀ op ∈ ops, op.wholeClear) :
    Representation (after ops) := by
  have sound := sound_after whole
  refine ⟨fun rk e found => ?_, fun e rk => ?_, sound.recorded, fun e dp tier eks ts fails => ?_⟩
  · exact GoMap.len_ne_zero_iff.mpr (sound.occupied rk e found)
  · have member : (∃ eng, (after ops).byEngine.lookup e = some eng ∧ rk ∈ eng) ↔
        rk ∈ (after ops).keysOf e := by
      rw [keysOf]
      cases (after ops).byEngine.lookup e with
      | none => simp
      | some eng => simp
    rw [member, sound.tracked, EngineHolds]
    simp only [Holds, entryOf]
    cases (after ops).byRequestKey.lookup rk with
    | none => simp [Finmap.notMem_empty]
    | some entry => simp
  · rcases storeEventByEngineKeys_cases (after ops) e dp tier eks ts with
      ⟨rks, -, -, result⟩ | ⟨-, result⟩
    · rw [result] at fails
      cases fails
    · rw [result]

/-- A remapped key, an offload, a removal and a clear. -/
theorem representation_remapped :
    Representation (after [.storeEvent "a" 0 "gpu" [1, 2] [7, 8] 1,
      .storeEvent "b" 1 "cpu" [1] [7] 2, .storeEvent "a" 0 "gpu" [1] [9] 3,
      .storeEventByEngineKeys "a" 0 "cpu" [1, 2] 4, .removeEvent "a" 0 "gpu" [2, 1],
      .clearEngine "b" ""]) :=
  representation_after (by decide)

end Index

end KvIndexer.Residency
