import KvIndexer.Residency.History

/-!
The bridge of a store whose engine omitted blocks.

A BlockStored event names the blocks of a prompt twice: by the request keys of all of
them, and by the engine's own hashes of those the engine has. The store pairs the two
lists from their ends, so a reported block is paired with the block as many places
further on as blocks are omitted after it (`lookupBridge_storeEvent_blocks`). Its bridge
entry is right exactly when that is the same block (`bridgesOwn_iff`): a prefix may be
omitted, an interior block may not.
-/

namespace KvIndexer.Residency

/-- One block of a store: the engine's hash of it, none if the engine omitted it, and
its request key. -/
structure Block where
  engineKey : Option EngineKey
  requestKey : RequestKey
deriving DecidableEq

namespace Block

/-- The engine keys of the event. -/
def reported (blocks : List Block) : List EngineKey := blocks.filterMap engineKey

/-- The request keys of the event. -/
def requestKeys (blocks : List Block) : List RequestKey := blocks.map requestKey

/-- How many blocks the engine omitted. -/
def omitted (blocks : List Block) : Nat := blocks.countP fun b => b.engineKey.isNone

theorem length_requestKeys (blocks : List Block) : (requestKeys blocks).length = blocks.length :=
  List.length_map _

theorem length_reported (blocks : List Block) :
    (reported blocks).length + omitted blocks = blocks.length := by
  rw [reported, List.length_filterMap_eq_countP, omitted,
    List.length_eq_countP_add_countP fun b : Block => b.engineKey.isSome]
  congr 2
  funext b
  cases b.engineKey <;> rfl

theorem reported_split {pre post : List Block} {b : Block} {ek : EngineKey}
    (key : b.engineKey = some ek) :
    reported (pre ++ b :: post) = reported pre ++ ek :: reported post := by
  rw [reported, List.filterMap_append, List.filterMap_cons_some key]
  rfl

/-- There is a block as many places after a block as are omitted after it. -/
theorem paired_lt {blocks pre post : List Block} {b : Block} (split : blocks = pre ++ b :: post) :
    pre.length + omitted post < (requestKeys blocks).length := by
  have after := length_reported post
  rw [length_requestKeys, split, List.length_append, List.length_cons]
  omega

/-- Each reported block with an omitted block after it has the request key of the block
it is paired with. -/
def Aligned (blocks : List Block) : Prop :=
  ∀ pre b post, blocks = pre ++ b :: post → b.engineKey.isSome →
    omitted post = 0 ∨ (requestKeys blocks)[pre.length + omitted post]? = some b.requestKey

/-- Where request keys are distinct, a block is omitted only before all reported ones. -/
theorem aligned_iff_of_nodup {blocks : List Block} (distinct : (requestKeys blocks).Nodup) :
    Aligned blocks ↔
      ∀ pre b post, blocks = pre ++ b :: post → b.engineKey.isSome → omitted post = 0 := by
  constructor
  · intro aligned pre b post split given
    rcases aligned pre b post split given with none | same
    · exact none
    · have own : (requestKeys blocks)[pre.length]? = some b.requestKey := by
        rw [requestKeys, split]
        simp
      have inRange : pre.length < (requestKeys blocks).length := by
        rw [length_requestKeys, split]
        simp
      have := (List.getElem?_inj inRange distinct).mp (own.trans same.symm)
      omega
  · intro trailing pre b post split given
    exact Or.inl (trailing pre b post split given)

/-- The engine may omit a prefix. -/
theorem aligned_append {front back : List Block} (skipped : ∀ b ∈ front, b.engineKey = none)
    (given : ∀ b ∈ back, b.engineKey.isSome) : Aligned (front ++ back) := by
  intro pre b post split reportedHere
  have inBack : ∀ b' ∈ post, b' ∈ back := by
    intro b' later
    rcases List.append_eq_append_iff.mp split with ⟨gap, -, rest⟩ | ⟨gap, inFront, rest⟩
    · rw [rest]
      exact List.mem_append_right _ (List.mem_cons_of_mem _ later)
    · cases gap with
      | nil =>
          rw [← show b :: post = back from rest]
          exact List.mem_cons_of_mem _ later
      | cons b₀ gap =>
          obtain ⟨rfl, -⟩ := List.cons.inj rest
          rw [skipped b (inFront ▸ by simp)] at reportedHere
          cases reportedHere
  refine Or.inl (List.countP_eq_zero.mpr fun b' later => ?_)
  rw [Bool.not_eq_true, Option.isNone_eq_false_iff]
  exact given b' (inBack b' later)

/-- All engine keys are paired, and as many request keys at the front as blocks are omitted
are not. -/
theorem tailAligned_blocks (blocks : List Block) :
    Index.tailAligned (reported blocks) (requestKeys blocks) =
      (reported blocks).zip
        ((requestKeys blocks).drop (blocks.length - (reported blocks).length)) := by
  have lengths := length_reported blocks
  have fewer : (reported blocks).length ≤ blocks.length := by omega
  rw [Index.tailAligned, length_requestKeys, Nat.min_eq_left fewer, Nat.sub_self, List.drop_zero]

/-- The place a reported block is paired with, counted from the first paired one. -/
theorem paired_place {blocks pre post : List Block} {b : Block} {ek : EngineKey}
    (split : blocks = pre ++ b :: post) (key : b.engineKey = some ek) :
    blocks.length - (reported blocks).length + (reported pre).length =
      pre.length + omitted post := by
  have before := length_reported pre
  have after := length_reported post
  have whole : (reported blocks).length = (reported pre).length + (reported post).length + 1 := by
    rw [split, reported_split key, List.length_append, List.length_cons, Nat.add_assoc]
  have total : blocks.length = pre.length + post.length + 1 := by
    rw [split, List.length_append, List.length_cons, Nat.add_assoc]
  omega

/-- A reported block is paired with the one as many places further on as blocks are
omitted after it. -/
theorem mem_tailAligned {blocks pre post : List Block} {b : Block} {ek : EngineKey}
    (distinct : (reported blocks).Nodup) (split : blocks = pre ++ b :: post)
    (key : b.engineKey = some ek) (rk : RequestKey) :
    (ek, rk) ∈ Index.tailAligned (reported blocks) (requestKeys blocks) ↔
      (requestKeys blocks)[pre.length + omitted post]? = some rk := by
  have here : (reported blocks)[(reported pre).length]? = some ek := by
    rw [split, reported_split key]
    simp
  rw [tailAligned_blocks, ← paired_place split key, List.mem_iff_getElem?]
  constructor
  · rintro ⟨i, found⟩
    obtain ⟨keyAt, requestAt⟩ := List.getElem?_zip_eq_some.mp found
    have inRange : i < (reported blocks).length := (List.getElem?_eq_some_iff.mp keyAt).1
    obtain rfl : i = (reported pre).length :=
      (List.getElem?_inj inRange distinct).mp (keyAt.trans here.symm)
    rwa [List.getElem?_drop] at requestAt
  · intro found
    refine ⟨(reported pre).length, List.getElem?_zip_eq_some.mpr ⟨here, ?_⟩⟩
    rwa [List.getElem?_drop]

end Block

/-- The operation binds engine key `ek` of engine `e`. -/
def Op.binds (e : String) (ek : EngineKey) : Op → Prop
  | .storeEvent e' _ _ eks _ _ => e' = e ∧ ek ∈ eks
  | .storeEventByEngineKeys .. => False
  | .removeEvent .. => False
  | .clearEngine .. => False

namespace Index

open Block (reported requestKeys omitted Aligned)

variable {ix : Index} {e : String} {ek : EngineKey}

/-- An operation that does not bind an engine key drops its bridge entry or keeps it. -/
theorem lookupBridge_apply_of_not_binds {op : Op} (quiet : ¬ op.binds e ek) :
    (ix.apply op).lookupBridge e ek = none ∨
      (ix.apply op).lookupBridge e ek = ix.lookupBridge e ek := by
  cases op with
  | storeEvent e' dp tier eks rks ts =>
      refine Or.inr ?_
      rw [Index.apply, lookupBridge, lookup_bridge_storeEvent]
      split
      · rename_i owner
        rcases lookup_reverse_or (rfl : ((tailAligned eks rks).reverse.lookup ek).or _ = _) with
          ⟨rk, pair, -⟩ | ⟨-, kept⟩
        · have named : ek ∈ eks := List.mem_of_mem_drop (List.of_mem_zip pair).1
          exact absurd ⟨owner.symm, named⟩ quiet
        · exact kept
      · rfl
  | storeEventByEngineKeys e' dp tier eks ts =>
      rw [Index.apply, lookupBridge, bridge_storeEventByEngineKeys]
      exact Or.inr rfl
  | removeEvent e' dp tier eks => exact lookup_bridge_removeKeys ⟨e', dp, tier⟩ ix eks ⟨e, ek⟩
  | clearEngine e' tier =>
      rw [Index.apply, lookupBridge]
      by_cases whole : tier = ""
      · rw [whole, lookup_bridge_clearEngine]
        split
        · exact Or.inl rfl
        · exact Or.inr rfl
      · rw [bridge_clearEngine_tier whole]
        exact Or.inr rfl

theorem lookupBridge_run_of_not_binds {ops : List Op} (quiet : ∀ op ∈ ops, ¬ op.binds e ek) :
    (Run.run apply ix ops).lookupBridge e ek = none ∨
      (Run.run apply ix ops).lookupBridge e ek = ix.lookupBridge e ek := by
  induction ops generalizing ix with
  | nil => exact Or.inr rfl
  | cons op ops ih =>
      obtain ⟨first, rest⟩ := List.forall_mem_cons.mp quiet
      rw [Run.run_cons]
      rcases ih rest with dropped | kept
      · exact Or.inl dropped
      · rw [kept]
        exact lookupBridge_apply_of_not_binds first

/-- The bridge of a reported block after the store. -/
theorem lookupBridge_storeEvent_blocks {blocks pre post : List Block} {b : Block}
    (distinct : (reported blocks).Nodup) (split : blocks = pre ++ b :: post)
    (key : b.engineKey = some ek) (dpRank : Int) (tier : String) (ts : Int) :
    (ix.storeEvent e dpRank tier (reported blocks) (requestKeys blocks) ts).lookupBridge e ek =
      (requestKeys blocks)[pre.length + omitted post]? := by
  have pair := (Block.mem_tailAligned distinct split key _).mpr
    (List.getElem?_eq_getElem (Block.paired_lt split))
  rw [lookupBridge, lookup_bridge_storeEvent, if_pos rfl]
  rcases lookup_reverse_or rfl with ⟨rk, found, reading⟩ | ⟨unpaired, -⟩
  · rw [reading]
    exact ((Block.mem_tailAligned distinct split key rk).mp found).symm
  · exact absurd pair (unpaired _)

/-- Every reported block is bridged to its own request key or not at all, and a removal
by an engine key that no later operation has bound again takes no hold of another block. -/
structure BridgesOwn (e : String) (blocks : List Block) (ix : Index) : Prop where
  bridged : ∀ b ∈ blocks, ∀ ek, b.engineKey = some ek →
    ∀ rk, ix.lookupBridge e ek = some rk → rk = b.requestKey
  removed : ∀ b ∈ blocks, ∀ ek, b.engineKey = some ek →
    ∀ ops : List Op, (∀ op ∈ ops, ¬ op.binds e ek) →
      ∀ dpRank tier r rk, (Run.run apply ix ops).Holds r rk →
        ¬ ((Run.run apply ix ops).removeEvent e dpRank tier [ek]).Holds r rk → rk = b.requestKey

/-- What is bridged right is removed right. -/
theorem bridgesOwn_of_bridged {blocks : List Block}
    (bridged : ∀ b ∈ blocks, ∀ ek, b.engineKey = some ek →
      ∀ rk, ix.lookupBridge e ek = some rk → rk = b.requestKey) :
    BridgesOwn e blocks ix := by
  refine ⟨bridged, fun b member ek key ops quiet dpRank tier r rk holds dropped => ?_⟩
  rw [removeEvent_eq_run, Run.run_cons, Run.run_nil, holds_removeKey, not_and_not_right] at dropped
  obtain ⟨found, -⟩ := dropped holds
  refine bridged b member ek key rk ?_
  rcases @lookupBridge_run_of_not_binds ix e ek ops quiet with gone | kept
  · rw [lookupBridge, found] at gone
    cases gone
  · rw [← kept]
    exact found

/-- A store bridges the blocks it reports to themselves exactly when they are aligned. -/
theorem bridgesOwn_iff (ix : Index) (e : String) (dpRank : Int) (tier : String) (ts : Int)
    {blocks : List Block} (distinct : (reported blocks).Nodup) :
    BridgesOwn e blocks
        (ix.storeEvent e dpRank tier (reported blocks) (requestKeys blocks) ts) ↔
      Aligned blocks := by
  constructor
  · rintro ⟨bridged, -⟩ pre b post split given
    obtain ⟨ek, key⟩ := Option.isSome_iff_exists.mp given
    have reading :
        (ix.storeEvent e dpRank tier (reported blocks) (requestKeys blocks) ts).lookupBridge e ek =
          (requestKeys blocks)[pre.length + omitted post]? :=
      lookupBridge_storeEvent_blocks distinct split key dpRank tier ts
    rw [List.getElem?_eq_getElem (Block.paired_lt split)] at reading ⊢
    have member : b ∈ blocks := split ▸ by simp
    exact Or.inr (congrArg some (bridged b member ek key _ reading))
  · intro aligned
    refine bridgesOwn_of_bridged fun b member ek key rk found => ?_
    obtain ⟨pre, post, split⟩ := List.append_of_mem member
    rw [lookupBridge_storeEvent_blocks distinct split key] at found
    rcases aligned pre b post split (by rw [key]; rfl) with none | same
    · rw [none, Nat.add_zero, requestKeys, split] at found
      simpa using found.symm
    · exact Option.some.inj (found.symm.trans same)

/-- The engine reports the first and the last of three blocks. -/
def interiorOmitted : List Block := [⟨some 100, 7⟩, ⟨none, 8⟩, ⟨some 102, 9⟩]

/-- The first block is bridged to the second. -/
theorem not_bridgesOwn : ¬ ∀ (ix : Index) (e : String) (dpRank : Int) (tier : String) (ts : Int)
    (blocks : List Block), (∃ b ∈ blocks.getLast?, b.engineKey.isSome) →
      (reported blocks).Nodup → BridgesOwn e blocks
        (ix.storeEvent e dpRank tier (reported blocks) (requestKeys blocks) ts) := by
  intro always
  have own := (always newIndex "w" 0 tierGPU 1 interiorOmitted (by decide) (by decide)).bridged
    ⟨some 100, 7⟩ (by decide) 100 rfl
  have bridged : (newIndex.storeEvent "w" 0 tierGPU (reported interiorOmitted)
      (requestKeys interiorOmitted) 1).lookupBridge "w" 100 = some 8 := by
    decide +kernel
  exact absurd (own 8 bridged) (by decide)

/-- Omitting the first block does no harm. -/
theorem bridgesOwn_prefixOmitted :
    BridgesOwn "w" [⟨none, 7⟩, ⟨some 101, 8⟩, ⟨some 102, 9⟩]
      (newIndex.storeEvent "w" 0 tierGPU [101, 102] [7, 8, 9] 1) := by
  have distinct : (reported [⟨none, 7⟩, ⟨some 101, 8⟩, ⟨some 102, 9⟩]).Nodup := by decide
  refine (bridgesOwn_iff newIndex "w" 0 tierGPU 1 distinct).mpr ?_
  exact @Block.aligned_append [⟨none, 7⟩] [⟨some 101, 8⟩, ⟨some 102, 9⟩] (by decide) (by decide)

end Index

end KvIndexer.Residency
