import KvIndexer.KvEvents.Elements

/-!
The context of a stored block: its parent and its features.

A block is hashed from its parent, and a text-only profile cannot hash a LoRA or an extra
key, so an event that carries either must not be indexed as if it did not. Each of the
four fields is read by type, and what counts as absent is more than null: a list of null
extra keys, an empty LoRA name, and the parent of an event without tokens, whose blocks
are found by their own hashes. `context_kept` is what holds of fields of their documented
types.
-/

namespace KvIndexer.KvEvents

open Residency

/-! ### The fields on the wire -/

def parentField (fields : List Any) : Any := fieldAt fields 2

def loraIDField (fields : List Any) : Any := fieldAt fields 5

def loraNameField (fields : List Any) : Any := fieldAt fields 7

def extraKeysField (fields : List Any) : Any := fieldAt fields 8

/-- Neither null nor an empty list. -/
def Any.nonEmpty : Any → Prop
  | .nil => False
  | .array xs => xs ≠ []
  | _ => True

/-- A LoRA id, a LoRA name or extra keys are given. -/
def GivesFeature (fields : List Any) : Prop :=
  (loraIDField fields).isNil = false ∨ (loraNameField fields).isNil = false ∨
    (extraKeysField fields).nonEmpty

/-- A LoRA id, a LoRA name that is not empty or an extra key that is not null is given. -/
def HasFeature (fields : List Any) : Prop :=
  (loraIDField fields).isNil = false ∨ stringOf (loraNameField fields) ≠ "" ∨
    hasNonNilExtraKeys (extraKeysField fields) = true

/-- The four fields have their documented types: a hash, an integer, a string and a list,
or null. -/
structure ContextTyped (fields : List Any) : Prop where
  parent : (parentField fields).isNil = true ∨ (parentField fields).hashValue.isSome
  loraID : (loraIDField fields).isNil = true ∨ (loraIDField fields).intValue.isSome
  loraName : loraNameField fields = .nil ∨ ∃ s, loraNameField fields = .string s
  extraKeys : extraKeysField fields = .nil ∨ ∃ xs, extraKeysField fields = .array xs

/-! ### What becomes of the event -/

section Outcome

variable (rt : Runtime) (engineID : String) (res : Resolved) (dpRank ts : Int) (ix : Index)

/-- The blocks are stored under keys chained from the request key the parent is bridged
to. -/
def ChainedFrom (parent : Any) (ev : Event) (out : Outcome) : Prop :=
  ∃ hash rk, toUint64 parent = some hash ∧ ix.lookupBridge engineID hash = some rk ∧
    out.ix = ix.storeEvent engineID dpRank (mediumToTier rt ev.medium) ev.blockHashes
      (requestKeysFromTokens rk ev.tokenIDs (ev.effectiveBlockSize res)) ts

/-- The event names no tokens, and its blocks are stored under the keys their own hashes
are bridged to. -/
def FoundByHashes (ev : Event) (out : Outcome) : Prop :=
  ev.Tokenless ∧ ∃ requestKeys, ix.storeEventByEngineKeys engineID dpRank
    (mediumToTier rt ev.medium) ev.blockHashes ts = (out.ix, some requestKeys)

/-- An event with a parent or a feature is skipped, or has no feature and is chained from
that parent. -/
def ContextKept (fields : List Any) : Prop :=
  ∀ ev, decodeEvent rt.sprint EventKind.blockStored.tag fields = some ev →
    (parentField fields).isNil = false ∨ GivesFeature fields →
      let out := ingestEvent rt engineID res dpRank ts ix ev
      out.Unindexed ix ∨
        (¬ GivesFeature fields ∧
          ChainedFrom rt engineID res dpRank ts ix (parentField fields) ev out)

/-- What the code does with an event that has a parent or a feature: it is skipped, or it
has no feature and is chained from that parent or, without tokens, found by its own
hashes. -/
def KeepsContext (fields : List Any) (ev : Event) : Prop :=
  let out := ingestEvent rt engineID res dpRank ts ix ev
  out.Unindexed ix ∨
    (¬ HasFeature fields ∧
      (ChainedFrom rt engineID res dpRank ts ix (parentField fields) ev out ∨
        FoundByHashes rt engineID dpRank ts ix ev out))

end Outcome

variable {rt : Runtime} {engineID : String} {res : Resolved} {dpRank ts : Int} {ix : Index}
  {fields : List Any} {ev : Event}

theorem isSome_toUint64 {x : Any} : (toUint64 x).isSome = x.hashValue.isSome := by
  cases x <;> rfl

theorem isSome_toInt {x : Any} (integer : x.intValue.isSome) : (toInt x).isSome := by
  obtain ⟨v, carries⟩ := Option.isSome_iff_exists.mp integer
  rw [toInt_of_intValue carries]
  rfl

/-- A feature in a field of its documented type is noticed. -/
theorem unsupported_of_hasFeature (typed : ContextTyped fields) (read : ReadsStored fields ev)
    (feature : HasFeature fields) : hasUnsupportedFeatureKeys ev = true := by
  unfold hasUnsupportedFeatureKeys
  rcases feature with given | name | keys
  · have integer : (loraIDField fields).intValue.isSome := by
      rcases typed.loraID with absent | integer
      · rw [absent] at given
        cases given
      · exact integer
    have noticed : ev.hasLoraID = true := read.hasLoraID.trans (isSome_toInt integer)
    simp [noticed]
  · have noticed : ev.loraName ≠ "" := by
      rw [read.loraName]
      exact name
    simp [noticed]
  · have noticed : ev.hasExtraKeys = true := read.hasExtraKeys.trans keys
    simp [noticed]

/-- With a parent that coerces, the request keys are chained from its bridge entry. -/
theorem exists_parent_of_requestKeys (read : ReadsStored fields ev)
    (coerces : (toUint64 (parentField fields)).isSome) {seed : UInt64} {blockSize : Int}
    {requestKeys : List RequestKey}
    (keys : requestKeysForEvent ix engineID seed blockSize ev = some requestKeys) :
    ∃ hash rk, toUint64 (parentField fields) = some hash ∧
      ix.lookupBridge engineID hash = some rk ∧
      requestKeys = requestKeysFromTokens rk ev.tokenIDs blockSize := by
  obtain ⟨hash, parent⟩ := Option.isSome_iff_exists.mp coerces
  have hasParent : ev.hasParent = true := read.hasParent.trans coerces
  have parentHash : ev.parentHash = hash := by
    rw [read.parentHash]
    exact congrArg (Option.getD · 0) parent
  rw [requestKeysForEvent, if_pos hasParent, parentHash] at keys
  cases bridged : ix.lookupBridge engineID hash with
  | none =>
      rw [bridged] at keys
      cases keys
  | some rk =>
      rw [bridged] at keys
      exact ⟨hash, rk, parent, bridged, (Option.some.inj keys).symm⟩

/-- A parent of its documented type coerces. -/
theorem coerces_of_typed (typed : ContextTyped fields)
    (given : (parentField fields).isNil = false) : (toUint64 (parentField fields)).isSome := by
  rcases typed.parent with absent | hash
  · rw [absent] at given
    cases given
  · rwa [isSome_toUint64]

/-- The context of a stored event is kept when its fields have their documented types. -/
theorem context_kept (typed : ContextTyped fields)
    (decoded : decodeEvent rt.sprint EventKind.blockStored.tag fields = some ev)
    (context : (parentField fields).isNil = false ∨ HasFeature fields) :
    KeepsContext rt engineID res dpRank ts ix fields ev := by
  have read := readsStored_of_decodeEvent decoded
  rcases ingestEvent_stored rt engineID res dpRank ts ix read.kind with
    skipped | ⟨plain, -, stored⟩
  · exact Or.inl skipped
  · have noFeature : ¬ HasFeature fields := by
      intro feature
      rw [unsupported_of_hasFeature typed read feature] at plain
      cases plain
    have given : (parentField fields).isNil = false := context.resolve_right noFeature
    refine Or.inr ⟨noFeature, ?_⟩
    rcases stored with ⟨tokenless, requestKeys, result⟩ | ⟨-, requestKeys, keys, result⟩
    · exact Or.inr ⟨tokenless, requestKeys, result⟩
    · obtain ⟨hash, rk, parent, bridged, rfl⟩ :=
        exists_parent_of_requestKeys read (coerces_of_typed typed given) keys
      exact Or.inl ⟨hash, rk, parent, bridged, result⟩

/-- A list of null extra keys. -/
def nullExtraKeys : List Any :=
  storedFields [.uint8 1, .uint8 2] ++ [.nil, .nil, .nil, .array [.nil]]

/-- An empty LoRA name. -/
def emptyLoraName : List Any :=
  storedFields [.uint8 1, .uint8 2] ++ [.nil, .nil, .string ""]

/-- A parent that is not known, and no tokens. -/
def offloadedFields : List Any :=
  [.string "BlockStored", .array [.uint64 7], .uint64 5, .array [], .uint64 2]

def offloadedEvent : Event :=
  { kind := .blockStored, blockHashes := [7], parentHash := 5, hasParent := true, blockSize := 2 }

def bridgedIndex : Index := newIndex.storeEvent "w" 0 tierGPU [7] [9] 0

/-- Null extra keys and an empty name do not stop an event from being indexed, and without
tokens the parent is not asked for. -/
theorem not_contextKept :
    ¬ ContextKept (tableRuntime []) "w" ⟨"ns", 0, 2⟩ 0 0 newIndex nullExtraKeys ∧
      ¬ ContextKept (tableRuntime []) "w" ⟨"ns", 0, 2⟩ 0 0 newIndex emptyLoraName ∧
      ¬ ContextKept (tableRuntime []) "w" ⟨"ns", 0, 2⟩ 0 0 bridgedIndex offloadedFields := by
  have indexed := (indexed_storedFields [.uint8 1, .uint8 2] rfl).indexed
  refine ⟨fun kept => ?_, fun kept => ?_, fun kept => ?_⟩
  · have feature : GivesFeature nullExtraKeys := Or.inr (Or.inr (List.cons_ne_nil _ _))
    rcases kept twoTokens rfl (Or.inr feature) with ⟨unindexed, -⟩ | ⟨plain, -⟩
    · rw [indexed] at unindexed
      cases unindexed
    · exact plain feature
  · have feature : GivesFeature emptyLoraName := Or.inr (Or.inl rfl)
    rcases kept twoTokens rfl (Or.inr feature) with ⟨unindexed, -⟩ | ⟨plain, -⟩
    · rw [indexed] at unindexed
      cases unindexed
    · exact plain feature
  · rcases kept offloadedEvent rfl (Or.inl rfl) with
      ⟨unindexed, -⟩ | ⟨-, hash, rk, coerces, bridged, -⟩
    · revert unindexed
      decide +kernel
    · obtain rfl : 5 = hash := Option.some.inj coerces
      revert bridged
      have unknown : bridgedIndex.lookupBridge "w" 5 = none := by decide +kernel
      rw [unknown]
      nofun

/-- A parent that is known. -/
theorem context_kept_parent :
    KeepsContext (tableRuntime []) "w" ⟨"ns", 0, 2⟩ 0 0 bridgedIndex
      [.string "BlockStored", .array [.uint64 8], .uint64 7, .array [.uint8 1, .uint8 2], .uint64 2]
      { kind := .blockStored, blockHashes := [8], parentHash := 7, hasParent := true,
        tokenIDs := [1, 2], blockSize := 2 } :=
  context_kept ⟨Or.inr rfl, Or.inl rfl, Or.inl rfl, Or.inl rfl⟩ rfl (Or.inl rfl)

end KvIndexer.KvEvents
