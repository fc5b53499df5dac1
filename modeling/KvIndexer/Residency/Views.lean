import KvIndexer.Residency.Index

/-!
What each index operation does, in terms of three views of the index.

`entryOf` reads the holders of a request key, `lookupBridge` the bridge, and
`keysOf` an engine's key set. Each operation has one lemma a view, and the later
modules use these lemmas only: none of them unfolds an operation again.
`removeKey_hit` is the exact effect of removing one bridged block, with the three
branches of the source merged: the bridge entry and the engine's key go exactly
when no holder of the entry is left to the engine.
-/

namespace KvIndexer.Residency

namespace Index

/-- The holders of a request key; empty when there is no entry. -/
def entryOf (ix : Index) (rk : RequestKey) : ResidencyEntry := (ix.byRequestKey.lookup rk).getD ∅

/-- The request keys recorded for an engine; empty when there is no record. -/
def keysOf (ix : Index) (engineID : String) : Finset RequestKey :=
  (ix.byEngine.lookup engineID).getD ∅

/-- `r` is a holder of `rk`. -/
def Holds (ix : Index) (r : Resident) (rk : RequestKey) : Prop := r ∈ ix.entryOf rk

/-- The engine holds `rk` in some dp rank and tier. -/
def EngineHolds (ix : Index) (engineID : String) (rk : RequestKey) : Prop :=
  ∃ r, ix.Holds r rk ∧ r.engineID = engineID

instance (ix : Index) (r : Resident) (rk : RequestKey) : Decidable (ix.Holds r rk) :=
  inferInstanceAs (Decidable (r ∈ ix.entryOf rk))

theorem holds_iff {ix : Index} {r : Resident} {rk : RequestKey} :
    ix.Holds r rk ↔ ∃ ts, (ix.entryOf rk).lookup r = some ts :=
  Finmap.mem_iff

theorem engineHolds_iff_hasEngine {ix : Index} {engineID : String} {rk : RequestKey} :
    ix.EngineHolds engineID rk ↔ hasEngine (ix.entryOf rk) engineID = true := by
  simp only [EngineHolds, Holds, hasEngine, decide_eq_true_eq, Finmap.mem_keys]

instance (ix : Index) (engineID : String) (rk : RequestKey) :
    Decidable (ix.EngineHolds engineID rk) :=
  decidable_of_iff _ engineHolds_iff_hasEngine.symm

instance (ix : Index) (rk : RequestKey) : Decidable (∃ r, ix.Holds r rk) :=
  decidable_of_iff ((ix.entryOf rk).keys ≠ ∅) <| by
    rw [← Finset.nonempty_iff_ne_empty, Finset.Nonempty]
    exact exists_congr fun r => Finmap.mem_keys

/-- An index in which every reading agrees is the same index. -/
theorem ext_lookups {ix ix' : Index}
    (entries : ∀ rk, ix.byRequestKey.lookup rk = ix'.byRequestKey.lookup rk)
    (bridges : ∀ bk, ix.bridge.lookup bk = ix'.bridge.lookup bk)
    (engines : ∀ e, ix.byEngine.lookup e = ix'.byEngine.lookup e) : ix = ix' := by
  obtain ⟨a, b, c⟩ := ix
  obtain ⟨a', b', c'⟩ := ix'
  congr
  · exact Finmap.ext_lookup entries
  · exact Finmap.ext_lookup bridges
  · exact Finmap.ext_lookup engines

/-! ### Stores -/

section Store

variable {ix : Index} {engineID : String} {dpRank : Int} {tier : String} {ts : Int}

@[simp] theorem bridge_storeKey (r : Resident) (rk : RequestKey) :
    (storeKey r ts ix rk).bridge = ix.bridge := rfl

theorem lookup_storeKey (r : Resident) (rk rk' : RequestKey) :
    (storeKey r ts ix rk).byRequestKey.lookup rk' =
      if rk' = rk then some ((ix.entryOf rk).insert r ts) else ix.byRequestKey.lookup rk' :=
  GoMap.lookup_insert_eq rk rk' _ _

theorem entryOf_storeKey (r : Resident) (rk rk' : RequestKey) :
    (storeKey r ts ix rk).entryOf rk' =
      if rk' = rk then (ix.entryOf rk).insert r ts else ix.entryOf rk' := by
  unfold entryOf
  rw [lookup_storeKey]
  split <;> rfl

private theorem storeKeys_bridge (r : Resident) (requestKeys : List RequestKey) (ix : Index) :
    (requestKeys.foldl (storeKey r ts) ix).bridge = ix.bridge := by
  induction requestKeys generalizing ix with
  | nil => rfl
  | cons rk requestKeys ih => rw [List.foldl_cons, ih, bridge_storeKey]

private theorem storeKeys_isSome (r : Resident) (requestKeys : List RequestKey) (ix : Index)
    (rk : RequestKey) :
    ((requestKeys.foldl (storeKey r ts) ix).byRequestKey.lookup rk).isSome ↔
      rk ∈ requestKeys ∨ (ix.byRequestKey.lookup rk).isSome := by
  induction requestKeys generalizing ix with
  | nil => simp
  | cons rk₀ requestKeys ih =>
      rw [List.foldl_cons, ih, lookup_storeKey, List.mem_cons]
      by_cases same : rk = rk₀ <;> simp [same]

private theorem storeKeys_entryOf (r r' : Resident) (requestKeys : List RequestKey) (ix : Index)
    (rk : RequestKey) :
    ((requestKeys.foldl (storeKey r ts) ix).entryOf rk).lookup r' =
      if r' = r ∧ rk ∈ requestKeys then some ts else (ix.entryOf rk).lookup r' := by
  induction requestKeys generalizing ix with
  | nil => simp
  | cons rk₀ requestKeys ih =>
      rw [List.foldl_cons, ih, entryOf_storeKey]
      simp only [List.mem_cons]
      by_cases later : rk ∈ requestKeys
      · by_cases owner : r' = r
        · simp [later, owner]
        · by_cases same : rk = rk₀
          · simp [owner, same, Finmap.lookup_insert_of_ne _ owner]
          · simp [owner, same]
      · by_cases same : rk = rk₀
        · subst same
          simp [later, GoMap.lookup_insert_eq]
        · simp [later, same]

private theorem storeKeys_byEngine (r : Resident) (requestKeys : List RequestKey) (ix : Index)
    (recorded : (ix.byEngine.lookup r.engineID).isSome) (e : String) :
    (requestKeys.foldl (storeKey r ts) ix).byEngine.lookup e =
      if e = r.engineID then some (ix.keysOf e ∪ requestKeys.toFinset)
      else ix.byEngine.lookup e := by
  induction requestKeys generalizing ix with
  | nil =>
      by_cases same : e = r.engineID
      · subst same
        obtain ⟨s, found⟩ := Option.isSome_iff_exists.mp recorded
        simp [keysOf, found]
      · simp [same]
  | cons rk requestKeys ih =>
      have step : (storeKey r ts ix rk).byEngine =
          ix.byEngine.insert r.engineID (insert rk (ix.keysOf r.engineID)) := rfl
      rw [List.foldl_cons, ih _ (by rw [step, Finmap.lookup_insert]; rfl), step]
      by_cases same : e = r.engineID
      · subst same
        simp [keysOf, step]
      · rw [if_neg same, if_neg same, Finmap.lookup_insert_of_ne _ same]

variable {requestKeys : List RequestKey}

@[simp] theorem bridge_storeRequestKeysLocked :
    (ix.storeRequestKeysLocked engineID dpRank tier requestKeys ts).bridge = ix.bridge :=
  storeKeys_bridge _ _ _

theorem isSome_storeRequestKeysLocked (rk : RequestKey) :
    ((ix.storeRequestKeysLocked engineID dpRank tier requestKeys ts).byRequestKey.lookup
      rk).isSome ↔
      rk ∈ requestKeys ∨ (ix.byRequestKey.lookup rk).isSome :=
  storeKeys_isSome _ _ _ _

/-- Holders after a store: the storing resident on the stored keys, stamped `ts`. -/
theorem lookup_entryOf_storeRequestKeysLocked (r : Resident) (rk : RequestKey) :
    ((ix.storeRequestKeysLocked engineID dpRank tier requestKeys ts).entryOf rk).lookup r =
      if r = ⟨engineID, dpRank, tier⟩ ∧ rk ∈ requestKeys then some ts
      else (ix.entryOf rk).lookup r :=
  storeKeys_entryOf _ _ _ _ _

theorem lookup_byEngine_storeRequestKeysLocked (e : String) :
    (ix.storeRequestKeysLocked engineID dpRank tier requestKeys ts).byEngine.lookup e =
      if e = engineID then some (ix.keysOf e ∪ requestKeys.toFinset)
      else ix.byEngine.lookup e := by
  unfold storeRequestKeysLocked
  rw [storeKeys_byEngine _ _ _ (by simp)]
  by_cases same : e = engineID
  · subst same
    simp [keysOf]
  · simp [same, Finmap.lookup_insert_of_ne _ same]

theorem holds_storeRequestKeysLocked {r : Resident} {rk : RequestKey} :
    (ix.storeRequestKeysLocked engineID dpRank tier requestKeys ts).Holds r rk ↔
      (r = ⟨engineID, dpRank, tier⟩ ∧ rk ∈ requestKeys) ∨ ix.Holds r rk := by
  simp only [Holds, ← Finmap.lookup_isSome, lookup_entryOf_storeRequestKeysLocked]
  split <;> simp_all

end Store

/-! ### The bridge of a store -/

section Bridge

variable (engineID : String) (pairs : List (EngineKey × RequestKey)) (ix : Index)

theorem bridgeKeys_byRequestKey :
    (pairs.foldl (bridgeKey engineID) ix).byRequestKey = ix.byRequestKey := by
  induction pairs generalizing ix with
  | nil => rfl
  | cons pair pairs ih => exact ih _

theorem bridgeKeys_byEngine :
    (pairs.foldl (bridgeKey engineID) ix).byEngine = ix.byEngine := by
  induction pairs generalizing ix with
  | nil => rfl
  | cons pair pairs ih => exact ih _

/-- A later pair overwrites an earlier one with the same engine key. -/
theorem lookup_bridgeKeys (bk : EngineBridgeKey) :
    (pairs.foldl (bridgeKey engineID) ix).bridge.lookup bk =
      if bk.engineID = engineID then (pairs.reverse.lookup bk.engineKey).or (ix.bridge.lookup bk)
      else ix.bridge.lookup bk := by
  induction pairs generalizing ix with
  | nil => simp
  | cons pair pairs ih =>
      have step : (bridgeKey engineID ix pair).bridge =
          ix.bridge.insert ⟨engineID, pair.1⟩ pair.2 := rfl
      rw [List.foldl_cons, ih, step, GoMap.lookup_insert_eq, List.reverse_cons]
      by_cases owner : bk.engineID = engineID
      · have same : (bk = ⟨engineID, pair.1⟩) ↔ bk.engineKey = pair.1 := by
          cases bk
          simp_all
        simp only [if_pos owner, same, List.lookup_append, Option.or_assoc]
        congr 1
        rw [List.lookup_singleton]
        by_cases key : bk.engineKey = pair.1
        · simp [key]
        · simp [key]
      · have differs : bk ≠ ⟨engineID, pair.1⟩ := fun same => owner (by rw [same])
        simp [owner, differs]

end Bridge

/-- The bridge reading `new` after storing `pairs`, from the reading `old` before:
the last pair with the engine key, or nothing changed. -/
theorem lookup_reverse_or {pairs : List (EngineKey × RequestKey)} {ek : EngineKey}
    {old new : Option RequestKey} (reading : (pairs.reverse.lookup ek).or old = new) :
    (∃ rk, (ek, rk) ∈ pairs ∧ new = some rk) ∨ ((∀ rk, (ek, rk) ∉ pairs) ∧ new = old) := by
  cases found : pairs.reverse.lookup ek with
  | some rk =>
      refine Or.inl ⟨rk, ?_, ?_⟩
      · obtain ⟨front, back, split, -⟩ := List.lookup_eq_some_iff.mp found
        exact List.mem_reverse.mp (split ▸ by simp)
      · rw [← reading, found, Option.some_or]
  | none =>
      refine Or.inr ⟨fun rk member => ?_, ?_⟩
      · have := List.lookup_eq_none_iff.mp found (ek, rk) (List.mem_reverse.mpr member)
        simp at this
      · rw [← reading, found, Option.none_or]

/-! ### Store events -/

section Resolve

variable {α β : Type} {f : α → Option β}

theorem isSome_mapM_iff {xs : List α} : (xs.mapM f).isSome ↔ ∀ x ∈ xs, (f x).isSome := by
  induction xs with
  | nil => simp
  | cons x xs ih =>
      rw [List.mapM_cons, List.forall_mem_cons, ← ih]
      cases f x with
      | none => simp
      | some y => cases xs.mapM f <;> simp

theorem mem_of_mapM_eq_some {xs : List α} {ys : List β} (resolved : xs.mapM f = some ys) {y : β} :
    y ∈ ys ↔ ∃ x ∈ xs, f x = some y := by
  induction xs generalizing ys with
  | nil =>
      obtain rfl : [] = ys := Option.some.inj resolved
      simp
  | cons x xs ih =>
      rw [List.mapM_cons] at resolved
      cases first : f x with
      | none => simp [first] at resolved
      | some y₀ =>
          cases rest : xs.mapM f with
          | none => simp [first, rest] at resolved
          | some ys₀ =>
              obtain rfl : y₀ :: ys₀ = ys := by simpa [first, rest] using resolved
              rw [List.mem_cons, ih rest, List.exists_mem_cons_iff, first, Option.some.injEq,
                eq_comm]

end Resolve

section StoreEvent

variable {ix : Index} {engineID : String} {dpRank : Int} {tier : String} {ts : Int}
  {engineKeys : List EngineKey} {requestKeys : List RequestKey}

theorem lookup_entryOf_storeEvent (r : Resident) (rk : RequestKey) :
    ((ix.storeEvent engineID dpRank tier engineKeys requestKeys ts).entryOf rk).lookup r =
      if r = ⟨engineID, dpRank, tier⟩ ∧ rk ∈ requestKeys then some ts
      else (ix.entryOf rk).lookup r := by
  unfold storeEvent
  split
  · rename_i empty
    simp [List.length_eq_zero_iff.mp empty]
  · rw [← lookup_entryOf_storeRequestKeysLocked, entryOf, bridgeKeys_byRequestKey]
    rfl

theorem holds_storeEvent {r : Resident} {rk : RequestKey} :
    (ix.storeEvent engineID dpRank tier engineKeys requestKeys ts).Holds r rk ↔
      (r = ⟨engineID, dpRank, tier⟩ ∧ rk ∈ requestKeys) ∨ ix.Holds r rk := by
  simp only [Holds, ← Finmap.lookup_isSome, lookup_entryOf_storeEvent]
  split <;> simp_all

theorem lookup_byEngine_storeEvent (e : String) :
    (ix.storeEvent engineID dpRank tier engineKeys requestKeys ts).byEngine.lookup e =
      if e = engineID ∧ requestKeys ≠ [] then some (ix.keysOf e ∪ requestKeys.toFinset)
      else ix.byEngine.lookup e := by
  unfold storeEvent
  split
  · rename_i empty
    simp [List.length_eq_zero_iff.mp empty]
  · rename_i nonempty
    have stored : requestKeys ≠ [] := fun empty => nonempty (by simp [empty])
    simp [bridgeKeys_byEngine, lookup_byEngine_storeRequestKeysLocked, stored]

theorem tailAligned_nil (engineKeys : List EngineKey) : tailAligned engineKeys [] = [] := by
  simp [tailAligned]

/-- Lists of one length are paired in order. -/
theorem tailAligned_of_length_eq (same : engineKeys.length = requestKeys.length) :
    tailAligned engineKeys requestKeys = engineKeys.zip requestKeys := by
  simp [tailAligned, same]

theorem lookup_bridge_storeEvent (bk : EngineBridgeKey) :
    (ix.storeEvent engineID dpRank tier engineKeys requestKeys ts).bridge.lookup bk =
      if bk.engineID = engineID then
        ((tailAligned engineKeys requestKeys).reverse.lookup bk.engineKey).or (ix.bridge.lookup bk)
      else ix.bridge.lookup bk := by
  unfold storeEvent
  split
  · rename_i empty
    simp [List.length_eq_zero_iff.mp empty, tailAligned_nil]
  · rw [lookup_bridgeKeys, bridge_storeRequestKeysLocked]

/-- The keys of a tokenless store resolve exactly when the result is given, and
the index is then the store of the resolved keys. -/
theorem storeEventByEngineKeys_cases (ix : Index) (engineID : String) (dpRank : Int) (tier : String)
    (engineKeys : List EngineKey) (ts : Int) :
    (∃ requestKeys, engineKeys ≠ [] ∧
      engineKeys.mapM (ix.lookupBridge engineID) = some requestKeys ∧
      ix.storeEventByEngineKeys engineID dpRank tier engineKeys ts =
        (ix.storeRequestKeysLocked engineID dpRank tier requestKeys ts, some requestKeys)) ∨
    ((engineKeys = [] ∨ engineKeys.mapM (ix.lookupBridge engineID) = none) ∧
      ix.storeEventByEngineKeys engineID dpRank tier engineKeys ts = (ix, none)) := by
  unfold storeEventByEngineKeys
  by_cases empty : engineKeys.length = 0
  · exact Or.inr ⟨Or.inl (List.length_eq_zero_iff.mp empty), by rw [if_pos empty]⟩
  · rw [if_neg empty]
    cases resolved : engineKeys.mapM (ix.lookupBridge engineID) with
    | none => exact Or.inr ⟨Or.inr rfl, rfl⟩
    | some requestKeys =>
        exact Or.inl ⟨requestKeys, fun nil => empty (by simp [nil]), rfl, rfl⟩

/-- A tokenless store succeeds exactly when every key of a non-empty list is
bridged. -/
theorem isSome_storeEventByEngineKeys :
    (ix.storeEventByEngineKeys engineID dpRank tier engineKeys ts).2.isSome ↔
      engineKeys ≠ [] ∧ ∀ ek ∈ engineKeys, (ix.lookupBridge engineID ek).isSome := by
  rw [← isSome_mapM_iff]
  rcases storeEventByEngineKeys_cases ix engineID dpRank tier engineKeys ts with
    ⟨requestKeys, nonempty, resolved, result⟩ | ⟨failed, result⟩
  · simp [result, resolved, nonempty]
  · rw [result]
    rcases failed with rfl | unresolved
    · simp
    · simp [unresolved]

/-- Holders after a tokenless store: a successful one adds the storing resident to
the keys the bridge resolves. -/
theorem holds_storeEventByEngineKeys {r : Resident} {rk : RequestKey} :
    (ix.storeEventByEngineKeys engineID dpRank tier engineKeys ts).1.Holds r rk ↔
      ((ix.storeEventByEngineKeys engineID dpRank tier engineKeys ts).2.isSome ∧
        r = ⟨engineID, dpRank, tier⟩ ∧
        ∃ ek ∈ engineKeys, ix.lookupBridge engineID ek = some rk) ∨ ix.Holds r rk := by
  rcases storeEventByEngineKeys_cases ix engineID dpRank tier engineKeys ts with
    ⟨requestKeys, -, resolved, result⟩ | ⟨-, result⟩
  · rw [result, holds_storeRequestKeysLocked, mem_of_mapM_eq_some resolved]
    simp
  · rw [result]
    simp

@[simp] theorem bridge_storeEventByEngineKeys :
    (ix.storeEventByEngineKeys engineID dpRank tier engineKeys ts).1.bridge = ix.bridge := by
  rcases storeEventByEngineKeys_cases ix engineID dpRank tier engineKeys ts with
    ⟨requestKeys, -, -, result⟩ | ⟨-, result⟩
  · rw [result, bridge_storeRequestKeysLocked]
  · rw [result]

end StoreEvent

/-! ### Removal -/

section Remove

variable {ix : Index} {r : Resident} {ek : EngineKey} {rk : RequestKey}

theorem lookup_dropFromEngine (engineID e : String) (rk : RequestKey) :
    (ix.dropFromEngine engineID rk).byEngine.lookup e =
      if e = engineID then (ix.byEngine.lookup e).map (fun eng => eng.erase rk)
      else ix.byEngine.lookup e := by
  rw [dropFromEngine, GoMap.lookup_alter]
  split
  · rename_i same
    rw [same]
  · rfl

theorem dropFromEngine_twice (engineID : String) (rk : RequestKey) :
    (ix.dropFromEngine engineID rk).dropFromEngine engineID rk = ix.dropFromEngine engineID rk := by
  refine ext_lookups (fun _ => rfl) (fun _ => rfl) fun e => ?_
  simp only [lookup_dropFromEngine]
  by_cases same : e = engineID
  · simp only [if_pos same, Option.map_map]
    congr 1
    funext eng
    exact Finset.erase_idem
  · simp only [if_neg same]

/-- A key that the engine's set does not have is not dropped from it. -/
theorem dropFromEngine_of_untracked {engineID : String} {rk : RequestKey}
    (untracked : rk ∉ ix.keysOf engineID) : ix.dropFromEngine engineID rk = ix := by
  refine ext_lookups (fun _ => rfl) (fun _ => rfl) fun e => ?_
  rw [lookup_dropFromEngine]
  split
  · rename_i owner
    rw [owner]
    cases recorded : ix.byEngine.lookup engineID with
    | none => rfl
    | some eng =>
        have absent : rk ∉ eng := by simpa [keysOf, recorded] using untracked
        rw [Option.map_some, Finset.erase_eq_of_notMem absent]
  · rfl

/-- An engine key that is not bridged removes nothing. -/
theorem removeKey_miss (miss : ix.bridge.lookup ⟨r.engineID, ek⟩ = none) :
    removeKey r ix ek = ix := by
  simp [removeKey, miss]

/-- A bridged key whose entry is gone: the bridge entry stays. -/
theorem removeKey_dangling (bridged : ix.bridge.lookup ⟨r.engineID, ek⟩ = some rk)
    (gone : ix.byRequestKey.lookup rk = none) :
    removeKey r ix ek = ix.dropFromEngine r.engineID rk := by
  simp [removeKey, bridged, dropHold, gone]

/-- A bridged key with an entry. -/
theorem removeKey_hit {e : ResidencyEntry}
    (bridged : ix.bridge.lookup ⟨r.engineID, ek⟩ = some rk)
    (found : ix.byRequestKey.lookup rk = some e) :
    removeKey r ix ek =
      { byRequestKey :=
          if GoMap.len (e.erase r) = 0 then ix.byRequestKey.erase rk
          else ix.byRequestKey.insert rk (e.erase r)
        bridge :=
          if hasEngine (e.erase r) r.engineID then ix.bridge
          else ix.bridge.erase ⟨r.engineID, ek⟩
        byEngine :=
          if hasEngine (e.erase r) r.engineID then ix.byEngine
          else (ix.dropFromEngine r.engineID rk).byEngine } := by
  by_cases empty : GoMap.len (e.erase r) = 0
  · have noEngine : hasEngine (e.erase r) r.engineID = false := by
      rw [Bool.eq_false_iff]
      intro has
      obtain ⟨r', present, -⟩ := of_decide_eq_true has
      exact (GoMap.len_ne_zero_iff.mpr ⟨r', Finmap.mem_keys.mp present⟩) empty
    simp [removeKey, bridged, dropHold, found, empty, noEngine, dropFromEngine]
  · by_cases has : hasEngine (e.erase r) r.engineID = true
    · simp [removeKey, bridged, dropHold, found, empty, has]
    · have twice : (ix.dropFromEngine r.engineID rk).dropFromEngine r.engineID rk =
          ix.dropFromEngine r.engineID rk := dropFromEngine_twice r.engineID rk
      simp only [dropFromEngine, Index.mk.injEq, true_and] at twice
      simp [removeKey, bridged, dropHold, found, empty, has, dropFromEngine, twice]

/-- Removing a block takes one resident off the bridged key, and touches no other
hold. -/
theorem lookup_entryOf_removeKey (rk' : RequestKey) (r' : Resident) :
    ((removeKey r ix ek).entryOf rk').lookup r' =
      if ix.bridge.lookup ⟨r.engineID, ek⟩ = some rk' ∧ r' = r then none
      else (ix.entryOf rk').lookup r' := by
  cases bridged : ix.bridge.lookup ⟨r.engineID, ek⟩ with
  | none => simp [removeKey_miss bridged]
  | some rk =>
      cases found : ix.byRequestKey.lookup rk with
      | none =>
          rw [removeKey_dangling bridged found]
          by_cases same : rk = rk'
          · subst same
            simp [entryOf, dropFromEngine, found]
          · simp [entryOf, dropFromEngine, same]
      | some e =>
          rw [removeKey_hit bridged found, entryOf]
          by_cases same : rk' = rk
          · subst same
            by_cases empty : GoMap.len (e.erase r) = 0
            · have absent := GoMap.len_eq_zero_iff.mp empty r'
              rw [GoMap.lookup_erase_eq] at absent
              simp only [if_pos empty, Finmap.lookup_erase, entryOf, found]
              by_cases owner : r' = r
              · simp [owner]
              · rw [if_neg owner] at absent
                simp [owner, absent]
            · simp only [if_neg empty, Finmap.lookup_insert, entryOf, found]
              by_cases owner : r' = r <;> simp [GoMap.lookup_erase_eq, owner]
          · have other : ¬ (some rk = some rk' ∧ r' = r) := fun both =>
              same (Option.some.inj both.1).symm
            rw [if_neg other]
            split
            · rw [GoMap.lookup_erase_eq, if_neg same, entryOf]
            · rw [GoMap.lookup_insert_eq, if_neg same, entryOf]

theorem holds_removeKey {rk' : RequestKey} {r' : Resident} :
    (removeKey r ix ek).Holds r' rk' ↔
      ix.Holds r' rk' ∧ ¬ (ix.bridge.lookup ⟨r.engineID, ek⟩ = some rk' ∧ r' = r) := by
  simp only [Holds, ← Finmap.lookup_isSome, lookup_entryOf_removeKey]
  split <;> simp_all

/-- With `r` off the entry, the engine of `r` still holds the key. -/
def keepsHold (ix : Index) (r : Resident) (rk : RequestKey) : Bool :=
  hasEngine ((ix.entryOf rk).erase r) r.engineID

theorem keepsHold_iff :
    ix.keepsHold r rk = true ↔ ∃ r', ix.Holds r' rk ∧ r' ≠ r ∧ r'.engineID = r.engineID := by
  simp only [keepsHold, hasEngine, decide_eq_true_eq, Finmap.mem_keys, Finmap.mem_erase, Holds]
  exact exists_congr fun r' => by rw [and_comm (a := r' ≠ r), and_assoc]

/-- Removing engine key `ek` drops its bridge entry: the bridged key has an entry
and no hold on it is left to the engine. -/
def releases (ix : Index) (r : Resident) (ek : EngineKey) : Bool :=
  match ix.bridge.lookup ⟨r.engineID, ek⟩ with
  | none => false
  | some rk => (ix.byRequestKey.lookup rk).isSome && !ix.keepsHold r rk

theorem releases_iff :
    ix.releases r ek = true ↔ ∃ rk, ix.bridge.lookup ⟨r.engineID, ek⟩ = some rk ∧
      (ix.byRequestKey.lookup rk).isSome ∧ ix.keepsHold r rk = false := by
  unfold releases
  cases ix.bridge.lookup ⟨r.engineID, ek⟩ with
  | none => simp
  | some rk => simp

theorem lookup_bridge_removeKey (bk : EngineBridgeKey) :
    (removeKey r ix ek).bridge.lookup bk =
      if bk = ⟨r.engineID, ek⟩ ∧ ix.releases r ek = true then none else ix.bridge.lookup bk := by
  cases bridged : ix.bridge.lookup ⟨r.engineID, ek⟩ with
  | none => simp [removeKey_miss bridged, releases, bridged]
  | some rk =>
      cases found : ix.byRequestKey.lookup rk with
      | none =>
          rw [removeKey_dangling bridged found]
          simp [dropFromEngine, releases, bridged, found]
      | some e =>
          have entry : ix.entryOf rk = e := by simp [entryOf, found]
          rw [removeKey_hit bridged found]
          simp only [releases, bridged, found, keepsHold, entry]
          by_cases has : hasEngine (e.erase r) r.engineID = true
          · simp [has]
          · simp [has, GoMap.lookup_erase_eq]

theorem lookup_byEngine_removeKey (e : String) :
    (removeKey r ix ek).byEngine.lookup e =
      match ix.bridge.lookup ⟨r.engineID, ek⟩ with
      | none => ix.byEngine.lookup e
      | some rk =>
          if e = r.engineID ∧ ix.keepsHold r rk = false then
            (ix.byEngine.lookup e).map fun eng => eng.erase rk
          else ix.byEngine.lookup e := by
  cases bridged : ix.bridge.lookup ⟨r.engineID, ek⟩ with
  | none => rw [removeKey_miss bridged]
  | some rk =>
      cases found : ix.byRequestKey.lookup rk with
      | none =>
          have noHold : ix.keepsHold r rk = false := by
            rw [Bool.eq_false_iff, Ne, keepsHold_iff]
            rintro ⟨r', holds, -⟩
            simp only [Holds, entryOf, found, Option.getD_none] at holds
            exact Finmap.notMem_empty holds
          rw [removeKey_dangling bridged found, lookup_dropFromEngine]
          simp [noHold]
      | some entry =>
          have here : ix.entryOf rk = entry := by simp [entryOf, found]
          rw [removeKey_hit bridged found]
          simp only [keepsHold, here]
          by_cases has : hasEngine (entry.erase r) r.engineID = true
          · simp [has]
          · simp [has, lookup_dropFromEngine]

theorem isSome_byEngine_removeKey (e : String) :
    ((removeKey r ix ek).byEngine.lookup e).isSome = (ix.byEngine.lookup e).isSome := by
  rw [lookup_byEngine_removeKey]
  split
  · rfl
  · split
    · rw [Option.isSome_map]
    · rfl

/-- The engine's key set loses the bridged key with the engine's last hold. -/
theorem mem_keysOf_removeKey {e : String} {rk' : RequestKey} :
    rk' ∈ (removeKey r ix ek).keysOf e ↔
      rk' ∈ ix.keysOf e ∧
        ¬ (e = r.engineID ∧ ix.bridge.lookup ⟨r.engineID, ek⟩ = some rk' ∧
          ix.keepsHold r rk' = false) := by
  rw [keysOf, keysOf, lookup_byEngine_removeKey]
  cases bridged : ix.bridge.lookup ⟨r.engineID, ek⟩ with
  | none => simp
  | some rk =>
      dsimp only
      by_cases dropped : e = r.engineID ∧ ix.keepsHold r rk = false
      · rw [if_pos dropped]
        cases ix.byEngine.lookup e with
        | none => simp
        | some eng =>
            simp only [Option.map_some, Option.getD_some, Finset.mem_erase, Option.some.injEq]
            constructor
            · rintro ⟨other, member⟩
              exact ⟨member, fun same => other same.2.1.symm⟩
            · rintro ⟨member, other⟩
              exact ⟨fun same => other ⟨dropped.1, same.symm, same ▸ dropped.2⟩, member⟩
      · rw [if_neg dropped]
        refine (and_iff_left ?_).symm
        rintro ⟨owner, same, noHold⟩
        exact dropped ⟨owner, Option.some.inj same ▸ noHold⟩

/-- An entry after a removal has a holder, if every entry had one before. -/
theorem occupied_removeKey
    (occupied : ∀ rk e, ix.byRequestKey.lookup rk = some e → ∃ r, r ∈ e)
    {e : ResidencyEntry} (found : (removeKey r ix ek).byRequestKey.lookup rk = some e) :
    ∃ r, r ∈ e := by
  cases bridged : ix.bridge.lookup ⟨r.engineID, ek⟩ with
  | none => exact occupied rk e (by rwa [removeKey_miss bridged] at found)
  | some rk₀ =>
      cases before : ix.byRequestKey.lookup rk₀ with
      | none =>
          rw [removeKey_dangling bridged before] at found
          exact occupied rk e found
      | some e₀ =>
          rw [removeKey_hit bridged before] at found
          by_cases empty : GoMap.len (e₀.erase r) = 0
          · simp only [if_pos empty, GoMap.lookup_erase_eq] at found
            split at found
            · cases found
            · exact occupied rk e found
          · simp only [if_neg empty, GoMap.lookup_insert_eq] at found
            split at found
            · cases found
              exact GoMap.len_ne_zero_iff.mp empty
            · exact occupied rk e found

end Remove

/-! ### Clearing -/

section Clear

variable {ix : Index} {engineID tier : String}

theorem lookup_clearEntry (e : Option ResidencyEntry) (r : Resident) :
    ((clearEntry engineID tier e).getD ∅).lookup r =
      if clearedHolder engineID tier r then none else (e.getD ∅).lookup r := by
  cases e with
  | none => simp [clearEntry]
  | some e =>
      have kept := GoMap.lookup_filterKeys (fun r => !clearedHolder engineID tier r) e r
      by_cases empty : GoMap.len (GoMap.filterKeys (fun r => !clearedHolder engineID tier r) e) = 0
      · rw [GoMap.len_eq_zero_iff.mp empty r] at kept
        simp only [clearEntry, if_pos empty, Option.getD_none, Option.getD_some]
        cases cleared : clearedHolder engineID tier r with
        | true => rfl
        | false => simpa [cleared] using kept
      · simp only [clearEntry, if_neg empty, Option.getD_some, kept]
        cases clearedHolder engineID tier r <;> rfl

theorem occupied_clearEntry {e : Option ResidencyEntry} {e' : ResidencyEntry}
    (cleared : clearEntry engineID tier e = some e') : ∃ r, r ∈ e' := by
  cases e with
  | none => cases cleared
  | some e =>
      by_cases empty : GoMap.len (GoMap.filterKeys (fun r => !clearedHolder engineID tier r) e) = 0
      · simp [clearEntry, empty] at cleared
      · simp only [clearEntry, if_neg empty, Option.some.injEq] at cleared
        exact cleared ▸ GoMap.len_ne_zero_iff.mp empty

theorem lookup_byRequestKey_clearEngine (rk : RequestKey) :
    (ix.clearEngine engineID tier).byRequestKey.lookup rk =
      if rk ∈ ix.keysOf engineID then clearEntry engineID tier (ix.byRequestKey.lookup rk)
      else ix.byRequestKey.lookup rk := by
  unfold clearEngine
  cases recorded : ix.byEngine.lookup engineID with
  | none => simp [keysOf, recorded]
  | some eng =>
      have keys : ix.keysOf engineID = eng := by simp [keysOf, recorded]
      rw [keys, ← GoMap.lookup_updateEach eng (fun _ => clearEntry engineID tier)]
      dsimp only
      split <;> rfl

theorem lookup_entryOf_clearEngine (rk : RequestKey) (r : Resident) :
    ((ix.clearEngine engineID tier).entryOf rk).lookup r =
      if rk ∈ ix.keysOf engineID ∧ clearedHolder engineID tier r then none
      else (ix.entryOf rk).lookup r := by
  rw [entryOf, lookup_byRequestKey_clearEngine]
  by_cases member : rk ∈ ix.keysOf engineID
  · simp [member, lookup_clearEntry, entryOf]
  · simp [member, entryOf]

theorem holds_clearEngine {r : Resident} {rk : RequestKey} :
    (ix.clearEngine engineID tier).Holds r rk ↔
      ix.Holds r rk ∧ ¬ (rk ∈ ix.keysOf engineID ∧ clearedHolder engineID tier r = true) := by
  simp only [Holds, ← Finmap.lookup_isSome, lookup_entryOf_clearEngine]
  split <;> simp_all

theorem lookup_bridge_clearEngine (bk : EngineBridgeKey) :
    (ix.clearEngine engineID "").bridge.lookup bk =
      if bk.engineID = engineID ∧ (ix.byEngine.lookup engineID).isSome then none
      else ix.bridge.lookup bk := by
  unfold clearEngine
  cases recorded : ix.byEngine.lookup engineID with
  | none => simp
  | some eng =>
      simp only [GoMap.lookup_filterKeys, if_true]
      by_cases owner : bk.engineID = engineID <;> simp [owner]

/-- Clearing one tier leaves the bridge alone. -/
theorem bridge_clearEngine_tier (partly : tier ≠ "") :
    (ix.clearEngine engineID tier).bridge = ix.bridge := by
  unfold clearEngine
  cases ix.byEngine.lookup engineID with
  | none => rfl
  | some eng =>
      dsimp only
      rw [if_neg partly]

theorem lookup_byEngine_clearEngine (e : String) :
    (ix.clearEngine engineID "").byEngine.lookup e =
      if e = engineID then none else ix.byEngine.lookup e := by
  unfold clearEngine
  cases recorded : ix.byEngine.lookup engineID with
  | none =>
      by_cases same : e = engineID
      · rw [if_pos same, same, recorded]
      · rw [if_neg same]
  | some eng => simp [GoMap.lookup_erase_eq]

end Clear

end Index

end KvIndexer.Residency
