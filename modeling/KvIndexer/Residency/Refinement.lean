import KvIndexer.Residency.History

/-!
The index as a set of residencies.

What the index is for is one set: which resident holds which request key. The
bridge is derived data, needed because an engine names blocks by its own hashes.
`ResidencySet.apply` is that abstract machine; it takes the meaning of engine keys
from a relation `den` and keeps no bridge of its own. `Refines.apply` is the
simulation: as long as engine keys mean one block each, and different keys of an
engine different blocks, the faithful index follows the abstract machine, and its
bridge holds exactly the keys of the blocks the engine still has somewhere.
-/

namespace KvIndexer.Residency

/-- What the engine keys of an engine stand for. -/
abbrev Denotation := String → EngineKey → RequestKey → Prop

/-! ### The abstract machine -/

/-- Who holds what. -/
abbrev ResidencySet := Set (Resident × RequestKey)

namespace ResidencySet

/-- The engine has the block in some dp rank and tier. -/
def ownedBy (s : ResidencySet) (e : String) (rk : RequestKey) : Prop :=
  ∃ r, (r, rk) ∈ s ∧ r.engineID = e

/-- A tokenless store can be applied: the engine has every block it names. -/
def resolves (den : Denotation) (s : ResidencySet) (e : String) (eks : List EngineKey) : Prop :=
  eks ≠ [] ∧ ∀ ek ∈ eks, ∃ rk, den e ek rk ∧ s.ownedBy e rk

def apply (den : Denotation) (s : ResidencySet) : Op → ResidencySet
  | .storeEvent e dp tier _ rks _ => {p | p ∈ s ∨ (p.1 = ⟨e, dp, tier⟩ ∧ p.2 ∈ rks)}
  | .storeEventByEngineKeys e dp tier eks _ =>
      {p | p ∈ s ∨ (s.resolves den e eks ∧ p.1 = ⟨e, dp, tier⟩ ∧ ∃ ek ∈ eks, den e ek p.2)}
  | .removeEvent e dp tier eks =>
      {p | p ∈ s ∧ ¬ (p.1 = ⟨e, dp, tier⟩ ∧ ∃ ek ∈ eks, den e ek p.2)}
  | .clearEngine e _ => {p | p ∈ s ∧ p.1.engineID ≠ e}

end ResidencySet

/-! ### Well-keyed histories -/

/-- The engine keys an operation binds, each with its engine and request key. -/
def Op.pairs : Op → List (String × EngineKey × RequestKey)
  | .storeEvent e _ _ eks rks _ => (eks.zip rks).map fun pair => (e, pair)
  | .storeEventByEngineKeys .. => []
  | .removeEvent .. => []
  | .clearEngine .. => []

/-- A store carries one engine key a request key. -/
def Op.aligned : Op → Prop
  | .storeEvent _ _ _ eks rks _ => eks.length = rks.length
  | .storeEventByEngineKeys .. => True
  | .removeEvent .. => True
  | .clearEngine .. => True

instance : DecidablePred Op.aligned
  | .storeEvent _ _ _ eks rks _ => inferInstanceAs (Decidable (eks.length = rks.length))
  | .storeEventByEngineKeys .. => .isTrue trivial
  | .removeEvent .. => .isTrue trivial
  | .clearEngine .. => .isTrue trivial

/-- What the stores of a history say an engine key stands for. -/
def Denotes (ops : List Op) : Denotation := fun e ek rk => (e, ek, rk) ∈ ops.flatMap Op.pairs

instance (ops : List Op) (e : String) (ek : EngineKey) (rk : RequestKey) :
    Decidable (Denotes ops e ek rk) :=
  inferInstanceAs (Decidable ((e, ek, rk) ∈ ops.flatMap Op.pairs))

/-- Each engine key stands for one block. -/
def Denotation.Functional (den : Denotation) : Prop :=
  ∀ e ek rk rk', den e ek rk → den e ek rk' → rk = rk'

/-- Different keys of an engine stand for different blocks. -/
def Denotation.Injective (den : Denotation) : Prop :=
  ∀ e ek ek' rk, den e ek rk → den e ek' rk → ek = ek'

instance (ops : List Op) : Decidable (Denotes ops).Functional :=
  decidable_of_iff (∀ p ∈ ops.flatMap Op.pairs, ∀ q ∈ ops.flatMap Op.pairs,
      p.1 = q.1 → p.2.1 = q.2.1 → p.2.2 = q.2.2) <| by
    constructor
    · intro all e ek rk rk' first second
      exact all _ first _ second rfl rfl
    · rintro functional ⟨e, ek, rk⟩ first ⟨_, _, rk'⟩ second rfl rfl
      exact functional e ek rk rk' first second

instance (ops : List Op) : Decidable (Denotes ops).Injective :=
  decidable_of_iff (∀ p ∈ ops.flatMap Op.pairs, ∀ q ∈ ops.flatMap Op.pairs,
      p.1 = q.1 → p.2.2 = q.2.2 → p.2.1 = q.2.1) <| by
    constructor
    · intro all e ek ek' rk first second
      exact all _ first _ second rfl rfl
    · rintro injective ⟨e, ek, rk⟩ first ⟨_, ek', _⟩ second rfl rfl
      exact injective e ek ek' rk first second

/-- A history in which engine keys and blocks correspond one to one within each
engine, and every clear takes a whole engine. -/
structure WellKeyed (ops : List Op) : Prop where
  aligned : ∀ op ∈ ops, op.aligned
  functional : (Denotes ops).Functional
  injective : (Denotes ops).Injective
  whole : ∀ op ∈ ops, op.wholeClear

/-- An operation that `den` describes: a store binds keys as `den` does, and a
clear takes a whole engine. -/
structure Op.Agrees (den : Denotation) (op : Op) : Prop where
  aligned : op.aligned
  binds : ∀ e ek rk, (e, ek, rk) ∈ op.pairs → den e ek rk
  whole : op.wholeClear

theorem agrees_denotes {ops : List Op} (aligned : ∀ op ∈ ops, op.aligned)
    (whole : ∀ op ∈ ops, op.wholeClear) : ∀ op ∈ ops, op.Agrees (Denotes ops) := by
  intro op member
  refine ⟨aligned op member, fun e ek rk pair => ?_, whole op member⟩
  exact List.mem_flatMap.mpr ⟨op, member, pair⟩

theorem mem_pairs_storeEvent {e e' : String} {dp : Int} {tier : String} {eks : List EngineKey}
    {rks : List RequestKey} {ts : Int} {ek : EngineKey} {rk : RequestKey} :
    (e', ek, rk) ∈ (Op.storeEvent e dp tier eks rks ts).pairs ↔
      e' = e ∧ (ek, rk) ∈ eks.zip rks := by
  simp only [Op.pairs, List.mem_map, Prod.mk.injEq]
  constructor
  · rintro ⟨pair, member, rfl, rfl⟩
    exact ⟨rfl, member⟩
  · rintro ⟨rfl, member⟩
    exact ⟨(ek, rk), member, rfl, rfl⟩

/-- With lists of one length, every stored block is named by a key of the event. -/
theorem exists_pair_of_mem {eks : List EngineKey} {rks : List RequestKey}
    (same : eks.length = rks.length) {rk : RequestKey} (stored : rk ∈ rks) :
    ∃ ek, (ek, rk) ∈ eks.zip rks := by
  obtain ⟨i, inRange, rfl⟩ := List.getElem_of_mem stored
  have inKeys : i < eks.length := same ▸ inRange
  refine ⟨eks[i], List.mem_iff_getElem.mpr ⟨i, ?_, ?_⟩⟩
  · rw [List.length_zip]
    omega
  · rw [List.getElem_zip]

namespace Index

/-! ### The simulation -/

/-- The index represents the residency set `s`. -/
structure Refines (den : Denotation) (ix : Index) (s : ResidencySet) : Prop where
  sound : ix.Sound
  holders : ∀ r rk, ix.Holds r rk ↔ (r, rk) ∈ s
  bridged : ∀ e ek rk, ix.lookupBridge e ek = some rk ↔ den e ek rk ∧ s.ownedBy e rk

namespace Refines

variable {den : Denotation} {ix : Index} {s : ResidencySet}

theorem start (den : Denotation) : Refines den newIndex ∅ where
  sound := sound_newIndex
  holders r rk := by
    constructor
    · intro holds
      exact absurd holds Finmap.notMem_empty
    · intro member
      cases member
  bridged e ek rk := by
    constructor
    · intro found
      simp [lookupBridge, newIndex] at found
    · rintro ⟨-, r, member, -⟩
      cases member

theorem engineHolds_iff (refines : Refines den ix s) {e : String} {rk : RequestKey} :
    ix.EngineHolds e rk ↔ s.ownedBy e rk :=
  exists_congr fun r => and_congr_left fun _ => refines.holders r rk

/-- A tokenless store succeeds exactly when the engine has every block it names. -/
theorem isSome_storeEventByEngineKeys (refines : Refines den ix s) (e : String) (dp : Int)
    (tier : String) (eks : List EngineKey) (ts : Int) :
    (ix.storeEventByEngineKeys e dp tier eks ts).2.isSome ↔ s.resolves den e eks := by
  rw [Index.isSome_storeEventByEngineKeys, ResidencySet.resolves]
  refine and_congr_right fun _ => forall₂_congr fun ek _ => ?_
  rw [Option.isSome_iff_exists]
  exact exists_congr fun rk => refines.bridged e ek rk

theorem storeEvent (refines : Refines den ix s) (functional : den.Functional)
    (injective : den.Injective) (e : String) (dp : Int) (tier : String) (eks : List EngineKey)
    (rks : List RequestKey) (ts : Int)
    (agrees : (Op.storeEvent e dp tier eks rks ts).Agrees den) :
    Refines den (ix.storeEvent e dp tier eks rks ts)
      (s.apply den (.storeEvent e dp tier eks rks ts)) := by
  have same : eks.length = rks.length := agrees.aligned
  have pairs : ∀ ek rk, (ek, rk) ∈ eks.zip rks → den e ek rk := fun ek rk pair =>
    agrees.binds e ek rk (mem_pairs_storeEvent.mpr ⟨rfl, pair⟩)
  refine ⟨refines.sound.storeEvent .., fun r rk => ?_, fun e' ek rk => ?_⟩
  · rw [holds_storeEvent, refines.holders, or_comm]
    rfl
  · rw [lookupBridge, lookup_bridge_storeEvent, tailAligned_of_length_eq same]
    by_cases owner : e' = e
    · subst owner
      rw [if_pos rfl]
      constructor
      · intro reading
        rcases lookup_reverse_or reading with ⟨rk', pair, found⟩ | ⟨-, kept⟩
        · obtain rfl : rk = rk' := Option.some.inj found
          exact ⟨pairs ek rk pair, ⟨e', dp, tier⟩, Or.inr ⟨rfl, (List.of_mem_zip pair).2⟩, rfl⟩
        · obtain ⟨means, r, member, mine⟩ := (refines.bridged e' ek rk).mp kept.symm
          exact ⟨means, r, Or.inl member, mine⟩
      · rintro ⟨means, r, member, mine⟩
        rcases lookup_reverse_or rfl with ⟨rk', pair, found⟩ | ⟨unpaired, kept⟩
        · rw [found, functional _ _ _ _ (pairs ek rk' pair) means]
        · rw [kept]
          rcases member with before | ⟨-, stored⟩
          · exact (refines.bridged e' ek rk).mpr ⟨means, r, before, mine⟩
          · -- stored now, so some key of the event names it, and that key is `ek`
            obtain ⟨ek', pair⟩ := exists_pair_of_mem same stored
            obtain rfl : ek' = ek := injective _ _ _ _ (pairs ek' rk pair) means
            exact absurd pair (unpaired rk)
    · rw [if_neg owner]
      refine (refines.bridged e' ek rk).trans (and_congr_right fun _ => ?_)
      constructor
      · rintro ⟨r, member, mine⟩
        exact ⟨r, Or.inl member, mine⟩
      · rintro ⟨r, member | ⟨same, -⟩, mine⟩
        · exact ⟨r, member, mine⟩
        · obtain rfl : r = ⟨e, dp, tier⟩ := same
          exact absurd mine.symm owner

theorem storeEventByEngineKeys (refines : Refines den ix s) (functional : den.Functional)
    (e : String) (dp : Int) (tier : String) (eks : List EngineKey) (ts : Int) :
    Refines den (ix.storeEventByEngineKeys e dp tier eks ts).1
      (s.apply den (.storeEventByEngineKeys e dp tier eks ts)) := by
  have success := refines.isSome_storeEventByEngineKeys e dp tier eks ts
  have sound : (ix.apply (.storeEventByEngineKeys e dp tier eks ts)).Sound :=
    refines.sound.apply trivial
  refine ⟨sound, fun r rk => ?_, fun e' ek rk => ?_⟩
  · rw [holds_storeEventByEngineKeys, success, refines.holders, or_comm]
    refine or_congr_right (and_congr_right fun resolved => and_congr_right fun _ =>
      exists_congr fun ek => and_congr_right fun member => ?_)
    rw [refines.bridged]
    refine and_iff_left_of_imp fun means => ?_
    obtain ⟨rk', means', owned⟩ := resolved.2 ek member
    rwa [functional _ _ _ _ means means']
  · rw [lookupBridge, bridge_storeEventByEngineKeys]
    refine (refines.bridged e' ek rk).trans (and_congr_right fun means => ?_)
    constructor
    · rintro ⟨r, member, mine⟩
      exact ⟨r, Or.inl member, mine⟩
    · rintro ⟨r, member | ⟨resolved, same, ek', inKeys, means'⟩, mine⟩
      · exact ⟨r, member, mine⟩
      · -- the block was resolved, so the engine had it already
        obtain ⟨rk', means'', owned⟩ := resolved.2 ek' inKeys
        obtain rfl : rk = rk' := functional _ _ _ _ means' means''
        obtain rfl : r = ⟨e, dp, tier⟩ := same
        exact mine ▸ owned

/-- The residencies without those of `r` in the block that `ek` stands for. -/
theorem holders_removeKey (refines : Refines den ix s) (r : Resident) (ek : EngineKey)
    (r' : Resident) (rk : RequestKey) :
    (Index.removeKey r ix ek).Holds r' rk ↔
      (r', rk) ∈ s ∧ ¬ (r' = r ∧ den r.engineID ek rk) := by
  rw [holds_removeKey, refines.holders]
  refine and_congr_right fun member => not_congr ?_
  have reading := refines.bridged r.engineID ek rk
  rw [lookupBridge] at reading
  rw [reading]
  constructor
  · rintro ⟨⟨means, -⟩, same⟩
    exact ⟨same, means⟩
  · rintro ⟨same, means⟩
    exact ⟨⟨means, r', member, by rw [same]⟩, same⟩

/-- Another resident of the engine holds the block exactly when the engine still owns it. -/
theorem keepsHold_iff_owned (refines : Refines den ix s) {r : Resident} {ek : EngineKey}
    {rk : RequestKey} (means : den r.engineID ek rk) :
    ix.keepsHold r rk = true ↔
      ResidencySet.ownedBy {p | p ∈ s ∧ ¬ (p.1 = r ∧ den r.engineID ek p.2)} r.engineID rk := by
  rw [keepsHold_iff]
  refine exists_congr fun r' => ?_
  rw [refines.holders]
  constructor
  · rintro ⟨member, other, mine⟩
    exact ⟨⟨member, fun same => other same.1⟩, mine⟩
  · rintro ⟨⟨member, untouched⟩, mine⟩
    exact ⟨member, fun same => untouched ⟨same, means⟩, mine⟩

/-- The bridge entry of the removed key stays as long as the engine owns its block. -/
theorem bridged_removeKey_self (refines : Refines den ix s) (r : Resident) (ek : EngineKey)
    (rk : RequestKey) :
    (if ix.releases r ek = true then none else ix.bridge.lookup ⟨r.engineID, ek⟩) = some rk ↔
      den r.engineID ek rk ∧
        ResidencySet.ownedBy {p | p ∈ s ∧ ¬ (p.1 = r ∧ den r.engineID ek p.2)} r.engineID rk := by
  have before := refines.bridged r.engineID ek rk
  rw [lookupBridge] at before
  cases bridged : ix.bridge.lookup ⟨r.engineID, ek⟩ with
  | none =>
      -- the key is not bridged, so its block is not owned, before or after
      rw [bridged] at before
      constructor
      · intro found
        split at found <;> cases found
      · rintro ⟨means, r', ⟨member, -⟩, mine⟩
        exact absurd (before.mpr ⟨means, r', member, mine⟩) (by simp)
  | some rk₀ =>
      obtain ⟨means₀, owned₀⟩ := (refines.bridged r.engineID ek rk₀).mp bridged
      have entry : (ix.byRequestKey.lookup rk₀).isSome :=
        refines.sound.isSome_iff.mpr ((refines.engineHolds_iff.mpr owned₀).imp fun _ => And.left)
      have kept := refines.keepsHold_iff_owned means₀
      rw [bridged] at before
      simp only [releases, bridged, entry, Bool.true_and, Bool.not_eq_true']
      constructor
      · intro found
        split at found
        · cases found
        · rename_i stays
          obtain rfl : rk₀ = rk := Option.some.inj found
          exact ⟨means₀, kept.mp (by simpa using stays)⟩
      · rintro ⟨means, owned⟩
        have same : some rk₀ = some rk :=
          before.mpr ⟨means, owned.imp fun _ both => ⟨both.1.1, both.2⟩⟩
        obtain rfl : rk₀ = rk := Option.some.inj same
        rw [if_neg (by simp [kept.mpr owned])]

/-- One removed key takes the resident off the block it stands for. -/
theorem removeKey (refines : Refines den ix s) (injective : den.Injective) (r : Resident)
    (ek : EngineKey) :
    Refines den (removeKey r ix ek) {p | p ∈ s ∧ ¬ (p.1 = r ∧ den r.engineID ek p.2)} := by
  refine ⟨refines.sound.removeKey r ek, refines.holders_removeKey r ek, fun e' ek' rk => ?_⟩
  rw [lookupBridge, lookup_bridge_removeKey]
  by_cases here : (⟨e', ek'⟩ : EngineBridgeKey) = ⟨r.engineID, ek⟩
  · obtain ⟨rfl, rfl⟩ := EngineBridgeKey.mk.inj here
    simp only [true_and]
    exact refines.bridged_removeKey_self r ek' rk
  · have before := refines.bridged e' ek' rk
    rw [lookupBridge] at before
    rw [if_neg fun both => here both.1, before]
    refine and_congr_right fun means => exists_congr fun r' => and_congr_left fun mine => ?_
    refine (and_iff_left ?_).symm
    rintro ⟨same, means'⟩
    -- the removed key stands for the same block, so it is this key
    obtain rfl : r' = r := same
    obtain rfl : r'.engineID = e' := mine
    exact here (by rw [injective _ _ _ _ means means'])

theorem removeEvent (refines : Refines den ix s) (injective : den.Injective) (e : String)
    (dp : Int) (tier : String) (eks : List EngineKey) :
    Refines den (ix.removeEvent e dp tier eks) (s.apply den (.removeEvent e dp tier eks)) := by
  rw [removeEvent_eq_run]
  induction eks generalizing ix s with
  | nil => simpa [ResidencySet.apply] using refines
  | cons ek eks ih =>
      have next := ih (refines.removeKey injective ⟨e, dp, tier⟩ ek)
      have same : ResidencySet.apply den {p | p ∈ s ∧ ¬ (p.1 = ⟨e, dp, tier⟩ ∧ den e ek p.2)}
          (.removeEvent e dp tier eks) = s.apply den (.removeEvent e dp tier (ek :: eks)) := by
        ext p
        simp only [ResidencySet.apply, Set.mem_ofPred_eq, List.exists_mem_cons_iff]
        grind
      rwa [same] at next

theorem clearEngine (refines : Refines den ix s) (e : String) :
    Refines den (ix.clearEngine e "") (s.apply den (.clearEngine e "")) := by
  refine ⟨refines.sound.clearEngine e, fun r rk => ?_, fun e' ek rk => ?_⟩
  · rw [refines.sound.holds_clearEngine_iff, refines.holders]
    rfl
  · rw [lookupBridge, refines.sound.lookup_bridge_clearEngine_iff]
    by_cases owner : e' = e
    · rw [if_pos owner]
      constructor
      · intro found
        cases found
      · rintro ⟨-, r, ⟨-, other⟩, mine⟩
        exact absurd (mine.trans owner) other
    · rw [if_neg owner]
      refine (refines.bridged e' ek rk).trans (and_congr_right fun _ => exists_congr fun r =>
        and_congr_left fun mine => ?_)
      exact (and_iff_left fun same => owner (mine ▸ same)).symm

/-- Every operation that agrees with `den` is followed by the abstract machine. -/
theorem apply (refines : Refines den ix s) (functional : den.Functional)
    (injective : den.Injective) {op : Op} (agrees : op.Agrees den) :
    Refines den (ix.apply op) (s.apply den op) := by
  cases op with
  | storeEvent e dp tier eks rks ts =>
      exact refines.storeEvent functional injective e dp tier eks rks ts agrees
  | storeEventByEngineKeys e dp tier eks ts =>
      exact refines.storeEventByEngineKeys functional e dp tier eks ts
  | removeEvent e dp tier eks => exact refines.removeEvent injective e dp tier eks
  | clearEngine e tier =>
      obtain rfl : tier = "" := agrees.whole
      exact refines.clearEngine e

end Refines

/-- The index follows the abstract machine over every history that agrees with
`den`. -/
theorem refines_after {den : Denotation} {ops : List Op} (functional : den.Functional)
    (injective : den.Injective) (agrees : ∀ op ∈ ops, op.Agrees den) :
    Refines den (after ops) (Run.run (ResidencySet.apply den) ∅ ops) := by
  induction ops using List.reverseRecOn with
  | nil => exact Refines.start den
  | append_singleton ops op ih =>
      have before := ih fun op' member => agrees op' (List.mem_append_left _ member)
      rw [after_concat, Run.run_concat]
      exact before.apply functional injective (agrees op (by simp))

end Index

/-! ### What the history did to one block -/

/-- The operation, called on `ix`, stores block `rk` at `r`: with its tokens, or
without them when the call succeeds. -/
def Op.stores (den : Denotation) (ix : Index) (r : Resident) (rk : RequestKey) : Op → Prop
  | .storeEvent e dp tier _ rks _ => r = ⟨e, dp, tier⟩ ∧ rk ∈ rks
  | .storeEventByEngineKeys e dp tier eks ts =>
      (ix.storeEventByEngineKeys e dp tier eks ts).2.isSome ∧
        r = ⟨e, dp, tier⟩ ∧ ∃ ek ∈ eks, den e ek rk
  | .removeEvent .. => False
  | .clearEngine .. => False

/-- The operation takes block `rk` away from `r`: a removal there that names it, or
a clear of the engine. -/
def Op.erases (den : Denotation) (r : Resident) (rk : RequestKey) : Op → Prop
  | .storeEvent .. => False
  | .storeEventByEngineKeys .. => False
  | .removeEvent e dp tier eks => r = ⟨e, dp, tier⟩ ∧ ∃ ek ∈ eks, den e ek rk
  | .clearEngine e _ => r.engineID = e

namespace Index

/-- One operation sets or keeps a hold. -/
theorem Refines.holds_apply {den : Denotation} {ix : Index} {s : ResidencySet}
    (refines : Refines den ix s) (functional : den.Functional) (injective : den.Injective)
    {op : Op} (agrees : op.Agrees den) (r : Resident) (rk : RequestKey) :
    (ix.apply op).Holds r rk ↔ op.stores den ix r rk ∨ (ix.Holds r rk ∧ ¬ op.erases den r rk) := by
  rw [(refines.apply functional injective agrees).holders, refines.holders]
  cases op with
  | storeEvent e dp tier eks rks ts => simp [ResidencySet.apply, Op.stores, Op.erases, or_comm]
  | storeEventByEngineKeys e dp tier eks ts =>
      simp [ResidencySet.apply, Op.stores, Op.erases, or_comm,
        refines.isSome_storeEventByEngineKeys]
  | removeEvent e dp tier eks => simp [ResidencySet.apply, Op.stores, Op.erases]
  | clearEngine e tier => simp [ResidencySet.apply, Op.stores, Op.erases]

/-- A resident holds a block exactly when the history stored it there and has not
taken it away since. -/
theorem holds_after_iff {den : Denotation} {ops : List Op} (functional : den.Functional)
    (injective : den.Injective) (agrees : ∀ op ∈ ops, op.Agrees den) (r : Resident)
    (rk : RequestKey) :
    (after ops).Holds r rk ↔
      ∃ pre op post, ops = pre ++ op :: post ∧ op.stores den (after pre) r rk ∧
        ∀ later ∈ post, ¬ later.erases den r rk := by
  have start : ¬ newIndex.Holds r rk := fun holds => Finmap.notMem_empty holds
  have each : Run.EachStep apply (fun ix op => (ix.apply op).Holds r rk ↔
      op.stores den ix r rk ∨ (ix.Holds r rk ∧ ¬ op.erases den r rk)) newIndex ops := by
    refine Run.eachStep_iff.mpr fun pre op post split => ?_
    have before : ∀ op ∈ pre, op.Agrees den := fun op' member =>
      agrees op' (by simp [split, member])
    exact (refines_after functional injective before).holds_apply functional injective
      (agrees op (by simp [split])) r rk
  have whole := Run.lastWrite (fun ix : Index => ix.Holds r rk) start each
  simp only [Run.eachStep_forall] at whole
  exact whole

/-- The index refines the residency set of its history: its holders, its bridge
and the result of a tokenless store are what the history says. -/
theorem index_refines_history {ops : List Op} (keyed : WellKeyed ops) :
    (∀ r rk, (after ops).Holds r rk ↔
      ∃ pre op post, ops = pre ++ op :: post ∧ op.stores (Denotes ops) (after pre) r rk ∧
        ∀ later ∈ post, ¬ later.erases (Denotes ops) r rk) ∧
    (∀ e ek rk, (after ops).lookupBridge e ek = some rk ↔
      Denotes ops e ek rk ∧ (after ops).EngineHolds e rk) ∧
    (∀ e dp tier eks ts, ((after ops).storeEventByEngineKeys e dp tier eks ts).2.isSome ↔
      eks ≠ [] ∧ ∀ ek ∈ eks, ∃ rk, Denotes ops e ek rk ∧ (after ops).EngineHolds e rk) := by
  have agrees := agrees_denotes keyed.aligned keyed.whole
  have refines := refines_after keyed.functional keyed.injective agrees
  refine ⟨holds_after_iff keyed.functional keyed.injective agrees, fun e ek rk => ?_,
    fun e dp tier eks ts => ?_⟩
  · rw [refines.engineHolds_iff]
    exact refines.bridged e ek rk
  · rw [refines.isSome_storeEventByEngineKeys, ResidencySet.resolves]
    simp only [refines.engineHolds_iff]

/-- Two engines sharing block 7; engine `a` copies it to another tier without
tokens and drops the first copy. -/
def sharedBlockHistory : List Op :=
  [.storeEvent "a" 0 "gpu" [1, 2] [7, 8] 10, .storeEvent "b" 0 "gpu" [5] [7] 11,
    .storeEventByEngineKeys "a" 1 "cpu" [1] 12, .removeEvent "a" 0 "gpu" [1]]

/-- In that history engine `a` still has block 7, under its key 1. -/
theorem sharedBlock_refines : (after sharedBlockHistory).lookupBridge "a" 1 = some 7 :=
  have keyed : WellKeyed sharedBlockHistory := ⟨by decide, by decide, by decide, by decide⟩
  ((index_refines_history keyed).2.1 "a" 1 7).mpr ⟨by decide, by decide⟩

end Index

end KvIndexer.Residency
