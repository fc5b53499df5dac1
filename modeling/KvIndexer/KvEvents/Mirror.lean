import KvIndexer.KvEvents.Agreement
import KvIndexer.Residency.Ranks
import KvIndexer.Residency.Refinement

/-!
The index mirrors the prefix caches of the engines.

To an engine a block is its tokens together with everything before it (`Path`), and its
cache says which dp rank has which block in which tier (`Caches`). Four operations change
a cache, and each is reported by an event in which blocks are named by the engine's own
hashes (`CacheOp.Reported`). The index never sees a path. It recomputes keys of its own
from the tokens and learns the engine's hashes on the way.

`Mirrors` ties the two together and `Mirrors.report` keeps it, for events of several
engines in any order. The only assumption is that neither hash collides on the blocks in
play, which `Hashing` carries. `Mirrors.query` reads a query off the caches alone.
-/

namespace KvIndexer.KvEvents

open Residency

/-! ### Engine caches -/

/-- A block, as prefix caching has it: the blocks up to it and itself. -/
abbrev Path := List (List Int32)

/-- The blocks `new` after `parent`, each with everything before it. -/
def extensions (parent : Path) : List (List Int32) → List Path
  | [] => []
  | b :: new => (parent ++ [b]) :: extensions (parent ++ [b]) new

/-- The keys of the blocks continue the chain of the parent. -/
theorem map_chainEnd_extensions (seed : UInt64) (parent : Path) (new : List (List Int32)) :
    (extensions parent new).map (chainEnd seed) = chain (chainEnd seed parent) new := by
  induction new generalizing parent with
  | nil => rfl
  | cons b new ih =>
      have here : chainEnd seed (parent ++ [b]) = hashBlock (chainEnd seed parent) b := by
        rw [chainEnd_append, chainEnd_cons]
        rfl
      rw [extensions, List.map_cons, ih, here, chain]

theorem extensions_eq_nil_iff {parent : Path} {new : List (List Int32)} :
    extensions parent new = [] ↔ new = [] := by
  cases new with
  | nil => exact iff_of_true rfl rfl
  | cons b new => exact iff_of_false (List.cons_ne_nil _ _) (List.cons_ne_nil _ _)

/-- Who has which block. -/
abbrev Caches := Finset (Resident × Path)

/-- What can happen to the cache of a dp rank in a tier. -/
inductive CacheOp where
  /-- The blocks `new` are computed after `parent`. -/
  | store (parent : Path) (new : List (List Int32))
  /-- Blocks of the engine are copied here from another tier or rank. -/
  | copy (blocks : List Path)
  | evict (blocks : List Path)
  /-- The whole engine is reset. -/
  | reset
  /-- Something is stored that the index does not follow. -/
  | aside
deriving DecidableEq, Repr

/-- The blocks an operation names. -/
def CacheOp.named : CacheOp → List Path
  | .store parent new => extensions parent new ++ if parent = [] then [] else [parent]
  | .copy blocks => blocks
  | .evict blocks => blocks
  | .reset => []
  | .aside => []

namespace Caches

/-- The engine has the block, in some dp rank and tier. -/
def Has (s : Caches) (e : String) (p : Path) : Prop := ∃ held ∈ s, held.1.engineID = e ∧ held.2 = p

instance (s : Caches) (e : String) (p : Path) : Decidable (s.Has e p) :=
  inferInstanceAs (Decidable (∃ held ∈ s, held.1.engineID = e ∧ held.2 = p))

/-- The engine has the block in one of the tiers. -/
def HasIn (s : Caches) (e : String) (tiers : List String) (p : Path) : Prop :=
  ∃ held ∈ s, held.1.engineID = e ∧ held.1.tier ∈ tiers ∧ held.2 = p

instance (s : Caches) (e : String) (tiers : List String) (p : Path) :
    Decidable (s.HasIn e tiers p) :=
  inferInstanceAs (Decidable (∃ held ∈ s, held.1.engineID = e ∧ held.1.tier ∈ tiers ∧ held.2 = p))

/-- The copies of a block that a dp rank has: one for each tier. -/
def copies (s : Caches) (e : String) (dpRank : Int) (p : Path) : Finset (Resident × Path) :=
  s.filter fun held => held.1.engineID = e ∧ held.1.dpRank = dpRank ∧ held.2 = p

/-- The blocks the engine has contiguously from the front. -/
def run (s : Caches) (e : String) (blocks : List Path) : List Path :=
  blocks.takeWhile fun p => s.Has e p

def apply (s : Caches) (r : Resident) : CacheOp → Caches
  | .store parent new => s ∪ (extensions parent new).toFinset.image (Prod.mk r)
  | .copy blocks => s ∪ blocks.toFinset.image (Prod.mk r)
  | .evict blocks => s.filter fun held => ¬ (held.1 = r ∧ held.2 ∈ blocks)
  | .reset => s.filter fun held => held.1.engineID ≠ r.engineID
  | .aside => s

/-- The operation can happen: new blocks extend a block the engine has, and what is copied
is there. -/
def Possible (blockSize : Int) (s : Caches) (e : String) : CacheOp → Prop
  | .store parent new =>
      new ≠ [] ∧ (∀ b ∈ new, b.length = blockSize.toNat) ∧ (parent = [] ∨ s.Has e parent)
  | .copy blocks => blocks ≠ [] ∧ ∀ p ∈ blocks, s.Has e p
  | .evict _ => True
  | .reset => True
  | .aside => True

instance (blockSize : Int) (s : Caches) (e : String) (op : CacheOp) :
    Decidable (Possible blockSize s e op) := by
  cases op <;> unfold Possible <;> infer_instance

end Caches

/-! ### Reports -/

/-- How the blocks of one namespace are named: by the engines, and by the index. Neither
name collides on the blocks in play. -/
structure Hashing where
  ns : String
  seed : UInt64
  blockSize : Int
  positive : 0 < blockSize
  /-- the block hash of each engine -/
  hash : String → Path → UInt64
  inPlay : Set Path
  hash_injOn : ∀ e, Set.InjOn (hash e) inPlay
  key_injOn : Set.InjOn (chainEnd seed) inPlay

/-- The key of a block. -/
def Hashing.key (h : Hashing) (p : Path) : RequestKey := chainEnd h.seed p

/-- The store is of attention KV, without features that enter the engine's hash. -/
structure Indexable (rt : Runtime) (ev : Event) : Prop where
  stored : ev.kind = .blockStored
  ingestable : ingestableSpecKind rt ev.specKind = true
  flat : ev.hasNestedTokenIDs = false
  plain : hasUnsupportedFeatureKeys ev = false

/-- The event reports the operation, naming blocks as engine `e` does. -/
def CacheOp.Reported (rt : Runtime) (h : Hashing) (e : String) (res : Resolved) (ev : Event) :
    CacheOp → Prop
  | .store parent new =>
      Indexable rt ev ∧ ev.blockHashes = (extensions parent new).map (h.hash e) ∧
        ev.tokenIDs = new.flatten ∧ ev.effectiveBlockSize res = h.blockSize ∧
        ev.hasParent = decide (parent ≠ []) ∧ (parent ≠ [] → ev.parentHash = h.hash e parent)
  | .copy blocks =>
      Indexable rt ev ∧ ev.blockHashes = blocks.map (h.hash e) ∧ ev.tokenIDs = []
  | .evict blocks => ev.kind = .blockRemoved ∧ ev.blockHashes = blocks.map (h.hash e)
  | .reset => ev.kind = .allBlocksCleared
  | .aside => ev.kind = .blockStored ∧ (ingestableSpecKind rt ev.specKind = false ∨
      ev.hasNestedTokenIDs = true ∨ hasUnsupportedFeatureKeys ev = true)

/-- A pass of the loop, and the operation its event reports. -/
structure Report where
  step : EventStep
  op : CacheOp

/-- Where the operation takes place. -/
def EventStep.resident (rt : Runtime) (step : EventStep) : Resident :=
  ⟨step.engineID, step.dpRank, mediumToTier rt step.ev.medium⟩

/-- The caches after the reported operation. Reports of another namespace are about other
caches. -/
def Report.perform (rt : Runtime) (ns : String) (s : Caches) (report : Report) : Caches :=
  if report.step.res.ns = ns then s.apply (report.step.resident rt) report.op else s

/-- The operation could happen to the caches, and the event reports it. -/
structure Report.Truthful (rt : Runtime) (h : Hashing) (s : Caches) (report : Report) : Prop where
  seed : report.step.res.seed = h.seed
  possible : s.Possible h.blockSize report.step.engineID report.op
  reported : report.op.Reported rt h report.step.engineID report.step.res report.step.ev
  inPlay : ∀ p ∈ report.op.named, p ∈ h.inPlay

/-! ### The simulation -/

/-- What an engine's hashes stand for: the keys of the blocks they name. -/
def Hashing.den (h : Hashing) : Denotation := fun e ek rk =>
  ∃ p ∈ h.inPlay, h.hash e p = ek ∧ h.key p = rk

/-- The residencies of the caches, by key. -/
def Hashing.residencies (h : Hashing) (s : Caches) : ResidencySet :=
  {held | ∃ p, (held.1, p) ∈ s ∧ h.key p = held.2}

/-- The index holds what the caches hold. -/
structure Mirrors (h : Hashing) (ix : Index) (s : Caches) : Prop where
  refines : Index.Refines h.den ix (h.residencies s)
  inPlay : ∀ held ∈ s, held.2 ∈ h.inPlay

namespace Hashing

variable {h : Hashing} {e : String}

theorem functional_den (h : Hashing) : h.den.Functional := by
  rintro e ek rk rk' ⟨p, inPlay, rfl, rfl⟩ ⟨p', inPlay', same, rfl⟩
  rw [h.hash_injOn e inPlay' inPlay same]

theorem injective_den (h : Hashing) : h.den.Injective := by
  rintro e ek ek' rk ⟨p, inPlay, rfl, rfl⟩ ⟨p', inPlay', rfl, same⟩
  rw [h.key_injOn inPlay' inPlay same]

/-- A hash stands for the key of a block in play exactly when it is that block's hash. -/
theorem den_hash_key_iff {p q : Path} (p_inPlay : p ∈ h.inPlay) (q_inPlay : q ∈ h.inPlay) :
    h.den e (h.hash e p) (h.key q) ↔ p = q := by
  constructor
  · rintro ⟨p', inPlay, hashed, keyed⟩
    obtain rfl := h.hash_injOn e inPlay p_inPlay hashed
    exact h.key_injOn inPlay q_inPlay keyed
  · rintro rfl
    exact ⟨p, p_inPlay, rfl, rfl⟩

/-- Some hash of the list stands for the block exactly when the block is named. -/
theorem exists_hash_iff {blocks : List Path} (named : ∀ p ∈ blocks, p ∈ h.inPlay) {q : Path}
    (inPlay : q ∈ h.inPlay) :
    (∃ ek ∈ blocks.map (h.hash e), h.den e ek (h.key q)) ↔ q ∈ blocks := by
  constructor
  · rintro ⟨ek, member, means⟩
    obtain ⟨p, named_p, rfl⟩ := List.mem_map.mp member
    rwa [← (den_hash_key_iff (named p named_p) inPlay).mp means]
  · intro member
    exact ⟨_, List.mem_map_of_mem member, (den_hash_key_iff inPlay inPlay).mpr rfl⟩

theorem mem_residencies {s : Caches} {r : Resident} {rk : RequestKey} :
    (r, rk) ∈ h.residencies s ↔ ∃ p, (r, p) ∈ s ∧ h.key p = rk := Iff.rfl

/-- The engine owns a key exactly when it has a block of that key. -/
theorem ownedBy_residencies {s : Caches} {rk : RequestKey} :
    (h.residencies s).ownedBy e rk ↔ ∃ p, s.Has e p ∧ h.key p = rk := by
  constructor
  · rintro ⟨r, ⟨p, member, keyed⟩, owner⟩
    exact ⟨p, ⟨(r, p), member, owner, rfl⟩, keyed⟩
  · rintro ⟨p, ⟨⟨r, p'⟩, member, owner, rfl⟩, keyed⟩
    exact ⟨r, ⟨p', member, keyed⟩, owner⟩

end Hashing

/-- The operation on the index that says the same, in hashes and keys. -/
def CacheOp.indexOp (h : Hashing) (r : Resident) (ts : Int) : CacheOp → Option Op
  | .store parent new => some (.storeEvent r.engineID r.dpRank r.tier
      ((extensions parent new).map (h.hash r.engineID)) ((extensions parent new).map h.key) ts)
  | .copy blocks => some (.storeEventByEngineKeys r.engineID r.dpRank r.tier
      (blocks.map (h.hash r.engineID)) ts)
  | .evict blocks =>
      some (.removeEvent r.engineID r.dpRank r.tier (blocks.map (h.hash r.engineID)))
  | .reset => some (.clearEngine r.engineID "")
  | .aside => none

/-- It binds hashes to the keys they stand for. -/
theorem CacheOp.agrees_indexOp {h : Hashing} {r : Resident} {ts : Int} {op : CacheOp} {called : Op}
    (inPlay : ∀ p ∈ op.named, p ∈ h.inPlay) (calls : op.indexOp h r ts = some called) :
    called.Agrees h.den := by
  cases op with
  | store parent new =>
      cases calls
      refine ⟨by simp [Op.aligned], fun e ek rk pair => ?_, trivial⟩
      obtain ⟨rfl, member⟩ := mem_pairs_storeEvent.mp pair
      rw [List.zip_map'] at member
      obtain ⟨p, stored, same⟩ := List.mem_map.mp member
      obtain ⟨rfl, rfl⟩ := Prod.mk.inj same
      exact ⟨p, inPlay p (List.mem_append_left _ stored), rfl, rfl⟩
  | copy blocks =>
      cases calls
      exact ⟨trivial, by simp [Op.pairs], trivial⟩
  | evict blocks =>
      cases calls
      exact ⟨trivial, by simp [Op.pairs], trivial⟩
  | reset =>
      cases calls
      exact ⟨trivial, by simp [Op.pairs], rfl⟩
  | aside => cases calls

namespace Mirrors

variable {rt : Runtime} {h : Hashing} {ix : Index} {s : Caches}

theorem start (h : Hashing) : Mirrors h newIndex ∅ where
  refines := by
    have empty : h.residencies ∅ = ∅ := by
      ext held
      simp [Hashing.residencies]
    rw [empty]
    exact Index.Refines.start h.den
  inPlay := by simp

/-- A resident holds the key of a block in play exactly when it has the block. -/
theorem holds_iff (mirrors : Mirrors h ix s) {r : Resident} {p : Path} (inPlay : p ∈ h.inPlay) :
    ix.Holds r (h.key p) ↔ (r, p) ∈ s := by
  rw [mirrors.refines.holders, Hashing.mem_residencies]
  constructor
  · rintro ⟨p', member, keyed⟩
    rwa [← h.key_injOn (mirrors.inPlay _ member) inPlay keyed]
  · intro member
    exact ⟨p, member, rfl⟩

theorem engineHolds_iff (mirrors : Mirrors h ix s) {e : String} {p : Path}
    (inPlay : p ∈ h.inPlay) : ix.EngineHolds e (h.key p) ↔ s.Has e p := by
  constructor
  · rintro ⟨r, holds, owner⟩
    exact ⟨(r, p), (mirrors.holds_iff inPlay).mp holds, owner, rfl⟩
  · rintro ⟨⟨r, p'⟩, member, owner, rfl⟩
    exact ⟨r, (mirrors.holds_iff inPlay).mpr member, owner⟩

/-- The hash of a block the engine has is bridged to the block's key. -/
theorem lookupBridge_hash (mirrors : Mirrors h ix s) {e : String} {p : Path} (has : s.Has e p) :
    ix.lookupBridge e (h.hash e p) = some (h.key p) := by
  obtain ⟨held, member, owner, rfl⟩ := has
  have inPlay := mirrors.inPlay held member
  refine (mirrors.refines.bridged e _ _).mpr ⟨(Hashing.den_hash_key_iff inPlay inPlay).mpr rfl, ?_⟩
  exact Hashing.ownedBy_residencies.mpr ⟨held.2, ⟨held, member, owner, rfl⟩, rfl⟩

section Step

variable {step : EventStep}

/-- The keys an event is stored under are those of its blocks. -/
theorem requestKeysForEvent_store (mirrors : Mirrors h ix s) (seed : step.res.seed = h.seed)
    {parent : Path} {new : List (List Int32)}
    (possible : s.Possible h.blockSize step.engineID (.store parent new))
    (reported : CacheOp.Reported rt h step.engineID step.res step.ev (.store parent new)) :
    requestKeysForEvent ix step.engineID step.res.seed h.blockSize step.ev =
      some ((extensions parent new).map h.key) := by
  obtain ⟨-, full, known⟩ := possible
  obtain ⟨-, -, tokens, -, hasParent, parentHash⟩ := reported
  have cut : ∀ from_ : UInt64, requestKeysFromTokens from_ step.ev.tokenIDs h.blockSize =
      chain from_ new := by
    intro from_
    rw [tokens]
    exact requestKeysFromTokens_flatten h.positive from_ new full
  have keys : (extensions parent new).map h.key = chain (chainEnd h.seed parent) new :=
    map_chainEnd_extensions h.seed parent new
  rw [requestKeysForEvent, hasParent, keys]
  by_cases root : parent = []
  · rw [if_neg (by simp [root]), seed, cut, root]
    rfl
  · have has := known.resolve_left root
    rw [if_pos (by simp [root]), parentHash root, mirrors.lookupBridge_hash has]
    simp only [cut, Hashing.key]

/-- A report calls the operation on the index that says the same. -/
theorem eventOp_report (mirrors : Mirrors h ix s) {report : Report}
    (truthful : report.Truthful rt h s) :
    eventOp rt report.step.engineID report.step.res report.step.dpRank report.step.ts ix
        report.step.ev =
      report.op.indexOp h (report.step.resident rt) report.step.ts := by
  obtain ⟨step, op⟩ := report
  obtain ⟨seed, possible, reported, -⟩ := truthful
  dsimp only [EventStep.resident] at seed possible reported ⊢
  unfold eventOp CacheOp.indexOp
  cases op with
  | store parent new =>
      have keys := mirrors.requestKeysForEvent_store seed possible reported
      obtain ⟨nonempty, full, -⟩ := possible
      obtain ⟨indexable, hashes, tokens, size, -, -⟩ := reported
      have withTokens : ¬ (step.ev.tokenIDs.length = 0 ∧
          0 < ((extensions parent new).map (h.hash step.engineID)).length) := by
        rintro ⟨empty, -⟩
        obtain ⟨b, rest, rfl⟩ := List.exists_cons_of_ne_nil nonempty
        have width := full b List.mem_cons_self
        have positive := h.positive
        rw [tokens, List.flatten_cons, List.length_append] at empty
        omega
      rw [Event.effectiveBlockSize] at size
      simp only [indexable.stored, indexable.ingestable, indexable.flat, indexable.plain,
        Bool.not_true, Bool.or_false, Bool.false_eq_true, if_false, hashes, if_neg withTokens, size,
        keys, Option.map_some]
  | copy blocks =>
      obtain ⟨indexable, hashes, tokens⟩ := reported
      have tokenless : step.ev.tokenIDs.length = 0 ∧
          0 < (blocks.map (h.hash step.engineID)).length := by
        refine ⟨by rw [tokens]; rfl, ?_⟩
        rw [List.length_map]
        exact List.length_pos_iff.mpr possible.1
      simp only [indexable.stored, indexable.ingestable, indexable.flat, indexable.plain,
        Bool.not_true, Bool.or_false, Bool.false_eq_true, if_false, hashes, if_pos tokenless]
  | evict blocks =>
      obtain ⟨removed, hashes⟩ := reported
      simp only [removed, hashes]
  | reset =>
      have cleared : step.ev.kind = .allBlocksCleared := reported
      simp only [cleared]
  | aside =>
      obtain ⟨stored, unfollowed⟩ := reported
      have skipped : (!ingestableSpecKind rt step.ev.specKind || step.ev.hasNestedTokenIDs ||
          hasUnsupportedFeatureKeys step.ev) = true := by
        rcases unfollowed with other | nested | features
        · simp [other]
        · simp [nested]
        · simp [features]
      simp only [stored, skipped, if_true]

end Step

/-! ### What an operation does to the residencies -/

section Effect

variable {r : Resident}

/-- Blocks that arrive somewhere add their keys there. -/
theorem residencies_arrive (h : Hashing) (s : Caches) (r : Resident) (blocks : List Path) :
    h.residencies (s ∪ blocks.toFinset.image (Prod.mk r)) =
      {held | held ∈ h.residencies s ∨ (held.1 = r ∧ held.2 ∈ blocks.map h.key)} := by
  ext ⟨r', rk⟩
  simp only [Hashing.residencies, Set.mem_ofPred_eq, Finset.mem_union, Finset.mem_image,
    List.mem_toFinset, Prod.mk.injEq, List.mem_map]
  constructor
  · rintro ⟨p, before | ⟨p', member, rfl, rfl⟩, keyed⟩
    · exact Or.inl ⟨p, before, keyed⟩
    · exact Or.inr ⟨rfl, p', member, keyed⟩
  · rintro (⟨p, before, keyed⟩ | ⟨rfl, p, member, keyed⟩)
    · exact ⟨p, Or.inl before, keyed⟩
    · exact ⟨p, Or.inr ⟨p, member, rfl, rfl⟩, keyed⟩

/-- What is copied can be resolved: the engine has it. -/
theorem resolves_copy (mirrors : Mirrors h ix s) {e : String} {blocks : List Path}
    (nonempty : blocks ≠ []) (has : ∀ p ∈ blocks, s.Has e p) :
    (h.residencies s).resolves h.den e (blocks.map (h.hash e)) := by
  refine ⟨by simpa using nonempty, fun ek member => ?_⟩
  obtain ⟨p, named, rfl⟩ := List.mem_map.mp member
  obtain ⟨held, here, owner, rfl⟩ := has p named
  have inPlay := mirrors.inPlay held here
  exact ⟨h.key held.2, (Hashing.den_hash_key_iff inPlay inPlay).mpr rfl,
    Hashing.ownedBy_residencies.mpr ⟨held.2, ⟨held, here, owner, rfl⟩, rfl⟩⟩

/-- The caches after an operation have the residencies that the abstract index has. -/
theorem residencies_apply (mirrors : Mirrors h ix s) {op : CacheOp}
    (possible : s.Possible h.blockSize r.engineID op) (inPlay : ∀ p ∈ op.named, p ∈ h.inPlay)
    (ts : Int) :
    h.residencies (s.apply r op) =
      match op.indexOp h r ts with
      | none => h.residencies s
      | some called => (h.residencies s).apply h.den called := by
  cases op with
  | store parent new => exact residencies_arrive h s r (extensions parent new)
  | copy blocks =>
      have resolved := mirrors.resolves_copy possible.1 possible.2
      refine (residencies_arrive h s r blocks).trans ?_
      ext ⟨r', rk⟩
      simp only [ResidencySet.apply, Set.mem_ofPred_eq]
      refine or_congr_right (Iff.trans (and_congr_right fun _ => ?_) (and_iff_right resolved).symm)
      constructor
      · intro member
        obtain ⟨p, named, rfl⟩ := List.mem_map.mp member
        exact (Hashing.exists_hash_iff inPlay (inPlay p named)).mpr named
      · rintro ⟨ek, member, p, inPlay_p, hashed, rfl⟩
        have means : h.den r.engineID ek (h.key p) := ⟨p, inPlay_p, hashed, rfl⟩
        exact List.mem_map_of_mem
          ((Hashing.exists_hash_iff inPlay inPlay_p).mp ⟨ek, member, means⟩)
  | evict blocks =>
      ext ⟨r', rk⟩
      simp only [ResidencySet.apply, Hashing.residencies, Caches.apply, Set.mem_ofPred_eq,
        Finset.mem_filter]
      constructor
      · rintro ⟨p, ⟨member, stays⟩, rfl⟩
        refine ⟨⟨p, member, rfl⟩, ?_⟩
        rintro ⟨same, gone⟩
        exact stays ⟨same, (Hashing.exists_hash_iff inPlay (mirrors.inPlay _ member)).mp gone⟩
      · rintro ⟨⟨p, member, rfl⟩, stays⟩
        refine ⟨p, ⟨member, ?_⟩, rfl⟩
        rintro ⟨same, named⟩
        exact stays ⟨same, (Hashing.exists_hash_iff inPlay (mirrors.inPlay _ member)).mpr named⟩
  | reset =>
      ext ⟨r', rk⟩
      simp only [ResidencySet.apply, Hashing.residencies, Caches.apply, Set.mem_ofPred_eq,
        Finset.mem_filter]
      constructor
      · rintro ⟨p, ⟨member, other⟩, keyed⟩
        exact ⟨⟨p, member, keyed⟩, other⟩
      · rintro ⟨⟨p, member, keyed⟩, other⟩
        exact ⟨p, ⟨member, other⟩, keyed⟩
  | aside => rfl

/-- What is in the caches afterwards was there, or the operation named it. -/
theorem mem_apply {op : CacheOp} {held : Resident × Path} (member : held ∈ s.apply r op) :
    held ∈ s ∨ held.2 ∈ op.named := by
  cases op with
  | store parent new =>
      rcases Finset.mem_union.mp member with before | now
      · exact Or.inl before
      · obtain ⟨p, new, rfl⟩ := Finset.mem_image.mp now
        exact Or.inr (List.mem_append_left _ (List.mem_toFinset.mp new))
  | copy blocks =>
      rcases Finset.mem_union.mp member with before | now
      · exact Or.inl before
      · obtain ⟨p, new, rfl⟩ := Finset.mem_image.mp now
        exact Or.inr (List.mem_toFinset.mp new)
  | evict blocks => exact Or.inl (Finset.mem_filter.mp member).1
  | reset => exact Or.inl (Finset.mem_filter.mp member).1
  | aside => exact Or.inl member

end Effect

/-- A truthful report keeps index and caches together. -/
theorem report (mirrors : Mirrors h ix s) {report : Report} (truthful : report.Truthful rt h s) :
    Mirrors h
      (ingestEvent rt report.step.engineID report.step.res report.step.dpRank report.step.ts ix
        report.step.ev).ix
      (s.apply (report.step.resident rt) report.op) := by
  have effect := mirrors.residencies_apply (r := report.step.resident rt) truthful.possible
    truthful.inPlay report.step.ts
  refine ⟨?_, fun held member => ?_⟩
  · rw [ingestEvent_ix, mirrors.eventOp_report truthful, effect]
    cases calls : report.op.indexOp h (report.step.resident rt) report.step.ts with
    | none => exact mirrors.refines
    | some called =>
        exact mirrors.refines.apply h.functional_den h.injective_den
          (CacheOp.agrees_indexOp truthful.inPlay calls)
  · rcases mem_apply member with before | named
    · exact mirrors.inPlay held before
    · exact truthful.inPlay _ named

/-- Reports of the namespace are truthful; any others may come in between. -/
theorem run {indexes : Manager} (mirrors : Mirrors h (indexes.index h.ns) s)
    {reports : List Report}
    (truthful : Run.EachStep (Report.perform rt h.ns)
      (fun s report => report.step.res.ns = h.ns → report.Truthful rt h s) s reports) :
    Mirrors h
      ((Run.run (EventStep.perform rt) indexes (reports.map Report.step)).index h.ns)
      (Run.run (Report.perform rt h.ns) s reports) := by
  induction reports generalizing indexes s with
  | nil => exact mirrors
  | cons report reports ih =>
      obtain ⟨now, later⟩ := truthful
      rw [List.map_cons, Run.run_cons, Run.run_cons]
      refine ih ?_ later
      rw [EventStep.perform, Manager.index_insert, Report.perform]
      by_cases here : report.step.res.ns = h.ns
      · rw [if_pos here.symm, if_pos here, here]
        exact mirrors.report (now here)
      · rw [if_neg fun same => here same.symm, if_neg here]
        exact mirrors

/-! ### Queries -/

/-- The keys of a prompt are those of its blocks. -/
theorem map_key_prompt (h : Hashing) (tokens : List Int32) :
    (extensions [] (chunkTokens tokens h.blockSize)).map h.key =
      requestKeysFromTokens h.seed tokens h.blockSize :=
  map_chainEnd_extensions h.seed [] _

section Query

variable {e : String}

theorem heldRun_map_key (mirrors : Mirrors h ix s) {blocks : List Path}
    (inPlay : ∀ p ∈ blocks, p ∈ h.inPlay) :
    ix.heldRun e (blocks.map h.key) = (s.run e blocks).map h.key := by
  induction blocks with
  | nil => rfl
  | cons p blocks ih =>
      obtain ⟨first, rest⟩ := List.forall_mem_cons.mp inPlay
      have same := @engineHolds_iff h ix s mirrors e p first
      rw [List.map_cons, Index.heldRun_cons, ih rest, Caches.run, Caches.run, List.takeWhile_cons]
      by_cases has : s.Has e p
      · rw [if_pos (same.mpr has), if_pos (decide_eq_true has), List.map_cons]
      · rw [if_neg fun holds => has (same.mp holds), if_neg (by simpa using has), List.map_nil]

theorem countInTiers_map_key (mirrors : Mirrors h ix s) (tiers : List String) {blocks : List Path}
    (inPlay : ∀ p ∈ blocks, p ∈ h.inPlay) :
    ix.countInTiers e tiers (blocks.map h.key) = blocks.countP fun p => s.HasIn e tiers p := by
  rw [Index.countInTiers, List.countP_map]
  refine List.countP_congr fun p member => ?_
  simp only [Function.comp, decide_eq_true_eq]
  constructor
  · rintro ⟨tier, listed, r, holds, owner, rfl⟩
    exact ⟨(r, p), (mirrors.holds_iff (inPlay p member)).mp holds, owner, listed, rfl⟩
  · rintro ⟨⟨r, p'⟩, here, owner, listed, rfl⟩
    exact ⟨r.tier, listed, r, (mirrors.holds_iff (inPlay _ member)).mpr here, owner, rfl⟩

/-- A rank holds a block once for each copy. -/
theorem card_rankHolders_key (mirrors : Mirrors h ix s) (dpRank : Int) {p : Path}
    (inPlay : p ∈ h.inPlay) :
    (ix.rankHolders e dpRank (h.key p)).card = (s.copies e dpRank p).card := by
  refine Finset.card_bij (fun r _ => (r, p)) (fun r member => ?_) (fun r _ r' _ same => ?_)
    (fun held member => ?_)
  · obtain ⟨holds, owner, rank⟩ := Index.mem_rankHolders.mp member
    exact Finset.mem_filter.mpr ⟨(mirrors.holds_iff inPlay).mp holds, owner, rank, rfl⟩
  · exact (Prod.mk.inj same).1
  · obtain ⟨here, owner, rank, rfl⟩ := Finset.mem_filter.mp member
    have holds := (mirrors.holds_iff inPlay).mpr here
    exact ⟨held.1, Index.mem_rankHolders.mpr ⟨holds, owner, rank⟩, rfl⟩

/-- An engine is in the answer exactly when it has the first block. -/
theorem query_isSome (mirrors : Mirrors h ix s) (tokens : List Int32)
    (inPlay : ∀ p ∈ extensions [] (chunkTokens tokens h.blockSize), p ∈ h.inPlay) (e : String) :
    ((ix.query (requestKeysFromTokens h.seed tokens h.blockSize)
        (Int64.ofInt h.blockSize)).instances.lookup e).isSome ↔
      s.run e (extensions [] (chunkTokens tokens h.blockSize)) ≠ [] := by
  rw [← map_key_prompt]
  cases prompt : extensions [] (chunkTokens tokens h.blockSize) with
  | nil => simp [Index.lookup_query, hitFrom, Caches.run]
  | cons p blocks =>
      have same := @engineHolds_iff h ix s mirrors e p (inPlay p (by simp [prompt]))
      rw [List.map_cons, Index.lookup_query_isSome, same, Caches.run, List.takeWhile_cons]
      by_cases has : s.Has e p
      · simp [has]
      · simp [has]

/-- A query, read off the caches. -/
theorem query (mirrors : Mirrors h ix s) (tokens : List Int32)
    (inPlay : ∀ p ∈ extensions [] (chunkTokens tokens h.blockSize), p ∈ h.inPlay) (e : String) :
    let run := s.run e (extensions [] (chunkTokens tokens h.blockSize))
    let answer := (ix.query (requestKeysFromTokens h.seed tokens h.blockSize)
      (Int64.ofInt h.blockSize)).instances.lookup e
    (answer.isSome ↔ run ≠ []) ∧
    ∀ hit, answer = some hit →
      hit.longestMatched = .ofInt (h.blockSize * run.length) ∧
      hit.gpu = .ofInt (h.blockSize * run.countP (fun p => s.HasIn e [tierGPU] p)) ∧
      hit.cpu = .ofInt (h.blockSize * run.countP (fun p => s.HasIn e [tierGPU, tierCPU] p)) ∧
      hit.disk = .ofInt (h.blockSize * run.length) ∧
      ∀ dpRank, hit.rankTokens dpRank =
        .ofInt (h.blockSize * ((run.map fun p => (s.copies e dpRank p).card).sum : Nat)) := by
  intro run answer
  have runInPlay : ∀ p ∈ run, p ∈ h.inPlay :=
    fun p member => inPlay p ((List.takeWhile_sublist _).subset member)
  have held : ix.heldRun e (requestKeysFromTokens h.seed tokens h.blockSize) = run.map h.key := by
    rw [← map_key_prompt]
    exact mirrors.heldRun_map_key inPlay
  refine ⟨?_, fun hit found => ?_⟩
  · exact mirrors.query_isSome tokens inPlay e
  · obtain ⟨longest, gpu, cpu, disk⟩ :=
      Index.lookup_query_heldRun ix _ (Int64.ofInt h.blockSize) e found
    rw [held, List.length_map, Counter.nsmul_ofInt] at longest disk
    rw [held, mirrors.countInTiers_map_key _ runInPlay, Counter.nsmul_ofInt] at gpu cpu
    refine ⟨longest, gpu, cpu, disk, fun dpRank => ?_⟩
    rw [Index.rankTokens_query ix _ (Int64.ofInt h.blockSize) e found dpRank, held,
      Counter.nsmul_ofInt, Index.countHolders, List.map_map]
    refine congrArg (fun n : Nat => Int64.ofInt (h.blockSize * n)) (congrArg List.sum ?_)
    exact List.map_congr_left fun p member =>
      mirrors.card_rankHolders_key dpRank (runInPlay p member)

end Query

end Mirrors

def promptBlocks : List Path := [[[1, 2]], [[1, 2], [3, 4]]]

def promptHashing : Hashing where
  ns := "ns"
  seed := 9
  blockSize := 2
  positive := by decide
  hash e p := (if e = "a" then 100 else 200) + UInt64.ofNat p.length
  inPlay := {p | p ∈ promptBlocks}
  hash_injOn e := by
    intro p member q member' same
    have apart : ∀ p ∈ promptBlocks, ∀ q ∈ promptBlocks,
        UInt64.ofNat p.length = UInt64.ofNat q.length → p = q := by decide
    exact apart p member q member' ((UInt64.add_right_inj _).mp same)
  key_injOn := by
    have apart : ∀ p ∈ promptBlocks, ∀ q ∈ promptBlocks, chainEnd 9 p = chainEnd 9 q → p = q := by
      decide +kernel
    exact fun p member q member' => apart p member q member'

def promptReport (engineID : String) (op : CacheOp) (ev : Event) : Report :=
  ⟨⟨engineID, ⟨"ns", 9, 16⟩, 0, 1, ev⟩, op⟩

def promptReports : List Report :=
  [promptReport "a" (.store [] [[1, 2], [3, 4]])
      { kind := .blockStored, blockHashes := [101, 102], tokenIDs := [1, 2, 3, 4], blockSize := 2,
        medium := "GPU" },
    promptReport "b" (.store [] [[1, 2]])
      { kind := .blockStored, blockHashes := [201], tokenIDs := [1, 2], blockSize := 2 },
    promptReport "a" (.copy [[[1, 2]]])
      { kind := .blockStored, blockHashes := [101], medium := "CPU" },
    promptReport "a" (.evict [[[1, 2], [3, 4]]])
      { kind := .blockRemoved, blockHashes := [102], medium := "GPU" },
    promptReport "b" .reset { kind := .allBlocksCleared }]

theorem truthful_promptReports :
    Run.EachStep (Report.perform (tableRuntime []) promptHashing.ns)
      (fun s report => report.step.res.ns = promptHashing.ns →
        report.Truthful (tableRuntime []) promptHashing s) ∅ promptReports := by
  have named : ∀ op : CacheOp, (∀ p ∈ op.named, p ∈ promptBlocks) →
      ∀ p ∈ op.named, p ∈ promptHashing.inPlay := fun op all => all
  exact ⟨fun _ => ⟨rfl, by decide, ⟨⟨rfl, by decide, rfl, rfl⟩, by decide, by decide, rfl, rfl,
      fun other => absurd rfl other⟩, named _ (by decide)⟩,
    fun _ => ⟨rfl, by decide, ⟨⟨rfl, by decide, rfl, rfl⟩, by decide, by decide, rfl, rfl,
      fun other => absurd rfl other⟩, named _ (by decide)⟩,
    fun _ => ⟨rfl, by decide, ⟨⟨rfl, by decide, rfl, rfl⟩, by decide, rfl⟩, named _ (by decide)⟩,
    fun _ => ⟨rfl, trivial, ⟨rfl, by decide⟩, named _ (by decide)⟩,
    fun _ => ⟨rfl, trivial, rfl, named _ (by decide)⟩, trivial⟩

/-- The engines with a record after the reported operation: a store makes one, and only a
reset takes it away. -/
def Report.record (ns : String) (engines : Finset String) (report : Report) :
    Finset String :=
  if report.step.res.ns = ns then
    match report.op with
    | .store _ _ => insert report.step.engineID engines
    | .copy _ => engines
    | .evict _ => engines
    | .reset => engines.erase report.step.engineID
    | .aside => engines
  else engines

namespace Mirrors

variable {rt : Runtime} {h : Hashing} {ix : Index} {s : Caches}

/-- An engine that has a block has a record. -/
theorem isSome_byEngine (mirrors : Mirrors h ix s) {e : String} {p : Path} (has : s.Has e p) :
    (ix.byEngine.lookup e).isSome := by
  obtain ⟨held, member, owner, rfl⟩ := has
  have inPlay := mirrors.inPlay held member
  exact mirrors.refines.sound.isSome_byEngine
    ((mirrors.engineHolds_iff inPlay).mpr ⟨held, member, owner, rfl⟩)

/-- The records after a report. -/
theorem isSome_byEngine_report (mirrors : Mirrors h ix s) {report : Report}
    (truthful : report.Truthful rt h s) (here : report.step.res.ns = h.ns)
    {engines : Finset String} (recorded : ∀ e, (ix.byEngine.lookup e).isSome ↔ e ∈ engines)
    (e : String) :
    ((ingestEvent rt report.step.engineID report.step.res report.step.dpRank report.step.ts ix
        report.step.ev).ix.byEngine.lookup e).isSome ↔ e ∈ report.record h.ns engines := by
  rw [ingestEvent_ix, mirrors.eventOp_report truthful, Report.record, if_pos here]
  obtain ⟨step, op⟩ := report
  have possible := truthful.possible
  cases op with
  | store parent new =>
      have keyed : (extensions parent new).map h.key ≠ [] := by
        rw [Ne, List.map_eq_nil_iff, extensions_eq_nil_iff]
        exact possible.1
      simp only [CacheOp.indexOp, Index.apply, EventStep.resident]
      rw [Index.lookup_byEngine_storeEvent, Finset.mem_insert]
      by_cases mine : e = step.engineID
      · rw [if_pos ⟨mine, keyed⟩]
        exact iff_of_true rfl (Or.inl mine)
      · rw [if_neg fun both => mine both.1, recorded, or_iff_right mine]
  | copy blocks =>
      simp only [CacheOp.indexOp, Index.apply, EventStep.resident]
      rcases Index.storeEventByEngineKeys_cases ix step.engineID step.dpRank
        (mediumToTier rt step.ev.medium) (blocks.map (h.hash step.engineID)) step.ts with
        ⟨rks, -, -, result⟩ | ⟨-, result⟩
      · rw [result, Index.lookup_byEngine_storeRequestKeysLocked]
        split
        · rename_i mine
          obtain ⟨p, named⟩ := List.exists_mem_of_ne_nil _ possible.1
          have had := mirrors.isSome_byEngine (possible.2 p named)
          rw [mine]
          exact iff_of_true rfl ((recorded _).mp had)
        · exact recorded e
      · rw [result]
        exact recorded e
  | evict blocks =>
      have kept : ∀ (r : Resident) (eks : List EngineKey) (ix : Index),
          ((Run.run (Index.removeKey r) ix eks).byEngine.lookup e).isSome =
            (ix.byEngine.lookup e).isSome := by
        intro r eks
        induction eks with
        | nil => exact fun ix => rfl
        | cons ek eks ih =>
            intro ix
            rw [Run.run_cons, ih, Index.isSome_byEngine_removeKey]
      simp only [CacheOp.indexOp, Index.apply, Index.removeEvent_eq_run, kept]
      exact recorded e
  | reset =>
      simp only [CacheOp.indexOp, Index.apply, EventStep.resident]
      rw [Index.lookup_byEngine_clearEngine, Finset.mem_erase]
      by_cases mine : e = step.engineID
      · rw [if_pos mine]
        exact iff_of_false (by simp) fun both => both.1 mine
      · rw [if_neg mine, recorded, and_iff_right mine]
  | aside => exact recorded e

/-- The records after a run. -/
theorem isSome_byEngine_run {reports : List Report}
    (truthful : Run.EachStep (Report.perform rt h.ns)
      (fun s report => report.step.res.ns = h.ns → report.Truthful rt h s) ∅ reports) (e : String) :
    (((Run.run (EventStep.perform rt) ∅ (reports.map Report.step)).index h.ns).byEngine.lookup
        e).isSome ↔ e ∈ Run.run (Report.record h.ns) ∅ reports := by
  induction reports using List.reverseRecOn generalizing e with
  | nil => simp [Manager.index, newIndex]
  | append_singleton reports report ih =>
      obtain ⟨before, now⟩ := Run.eachStep_concat.mp truthful
      have start : Mirrors h (Manager.index ∅ h.ns) ∅ := Mirrors.start h
      have mirrors := start.run before
      rw [List.map_append, List.map_singleton, Run.run_concat, Run.run_concat, EventStep.perform,
        Manager.index_insert]
      by_cases here : report.step.res.ns = h.ns
      · rw [if_pos here.symm, here]
        exact mirrors.isSome_byEngine_report (now here) here (ih before) e
      · rw [if_neg fun same => here same.symm, Report.record, if_neg here]
        exact ih before e

/-- There are as many request keys as different blocks. -/
theorem len_byRequestKey (mirrors : Mirrors h ix s) :
    GoMap.len ix.byRequestKey = (s.image Prod.snd).card := by
  have keys : GoMap.len ix.byRequestKey = ((s.image Prod.snd).image h.key).card := by
    refine GoMap.len_eq_card fun rk => ?_
    rw [mirrors.refines.sound.isSome_iff]
    simp only [mirrors.refines.holders, Hashing.mem_residencies, Finset.mem_image]
    constructor
    · rintro ⟨r, p, member, keyed⟩
      exact ⟨p, ⟨(r, p), member, rfl⟩, keyed⟩
    · rintro ⟨p, ⟨held, member, rfl⟩, keyed⟩
      exact ⟨held.1, held.2, member, keyed⟩
  rw [keys]
  refine Finset.card_image_of_injOn (h.key_injOn.mono fun p member => ?_)
  obtain ⟨held, here, rfl⟩ := Finset.mem_image.mp member
  exact mirrors.inPlay held here

/-- There are as many bridge entries as blocks, counted once for each engine that has them. -/
theorem len_bridge (mirrors : Mirrors h ix s) :
    GoMap.len ix.bridge = (s.image fun held => (held.1.engineID, held.2)).card := by
  have keys : GoMap.len ix.bridge =
      ((s.image fun held => (held.1.engineID, held.2)).image fun owned =>
        (⟨owned.1, h.hash owned.1 owned.2⟩ : EngineBridgeKey)).card := by
    refine GoMap.len_eq_card fun bk => ?_
    rw [Option.isSome_iff_exists]
    constructor
    · rintro ⟨rk, found⟩
      obtain ⟨⟨p, inPlay, hashed, rfl⟩, owned⟩ := (mirrors.refines.bridged _ _ rk).mp found
      obtain ⟨p', ⟨held, member, owner, rfl⟩, keyed⟩ := Hashing.ownedBy_residencies.mp owned
      obtain rfl := h.key_injOn (mirrors.inPlay held member) inPlay keyed
      refine Finset.mem_image.mpr ⟨(bk.engineID, held.2), ?_, by rw [hashed]⟩
      exact Finset.mem_image.mpr ⟨held, member, by rw [owner]⟩
    · intro member
      obtain ⟨owned, inOwned, rfl⟩ := Finset.mem_image.mp member
      obtain ⟨held, here, rfl⟩ := Finset.mem_image.mp inOwned
      exact ⟨_, mirrors.lookupBridge_hash ⟨held, here, rfl, rfl⟩⟩
  rw [keys]
  refine Finset.card_image_of_injOn fun owned member owned' member' same => ?_
  obtain ⟨held, here, rfl⟩ := Finset.mem_image.mp member
  obtain ⟨held', here', rfl⟩ := Finset.mem_image.mp member'
  obtain ⟨owner, hashed⟩ := EngineBridgeKey.mk.inj same
  dsimp only at owner hashed
  rw [owner] at hashed
  exact Prod.ext owner
    (h.hash_injOn held'.1.engineID (mirrors.inPlay _ here) (mirrors.inPlay _ here') hashed)

end Mirrors

end KvIndexer.KvEvents
