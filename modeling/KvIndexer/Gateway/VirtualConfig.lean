import KvIndexer.Config.Persistence
import KvIndexer.Gateway.Connection
import KvIndexer.Lib.ReadModifyWrite

/-!
The configs of virtual clusters (`internal/gateway/store.go`).

A mutation reads the stored document, changes the snapshot in it through a configuration
store and replaces the document. On MongoDB the read and the replacement are two steps.
What a mutation makes of a snapshot is `VirtualMutation.next`; it appends one audit entry
(`audit_next`), and after it everything is listed as before except the entry it removes
(`listedIn_next`).
-/

namespace KvIndexer.Gateway

open Config

/-- A document of the collection `virtual_configs`, without its `_id`. -/
structure VirtualDocument where
  snapshot : Snapshot := {}
  updatedAt : Int := 0

structure VirtualConfig extends VirtualDocument where
  /-- the `_id` of the document -/
  backendID : String := ""

/-- The clock readings of one mutation, and the orders in which its snapshot is taken. -/
structure Moment where
  bumpedAt : Int
  updatedAt : Int
  orders : MapOrders

def snapshotHasData (snap : Snapshot) : Bool :=
  snap.version ≠ 0 || !snap.clusters.isEmpty || !snap.engines.isEmpty ||
    !snap.profiles.isEmpty || !snap.policies.isEmpty || !snap.audit.isEmpty

def virtualStoreFromSnapshot (snap : Snapshot) : FullStore :=
  load (if snapshotHasData snap then some snap else none)

/-- Change the snapshot by a call of the configuration store; none if the call reports that
it found nothing. -/
def VirtualConfig.rewrite (now : Moment) (vc : VirtualConfig) (call : StoreCall) :
    Option VirtualConfig :=
  let (st, ok) := (virtualStoreFromSnapshot vc.snapshot).mutate now.bumpedAt call
  if ok then some { vc with snapshot := st.snapshot now.orders, updatedAt := now.updatedAt }
  else none

/-- The cluster of a virtual connection. -/
def virtualCluster (c : Connection) : Cluster where
  clusterID := c.cluster
  displayName := if c.displayName = "" then c.cluster else c.displayName
  region := c.region
  environment := c.environment
  enabled := c.enabled
  maintenanceMode := false

def upsertVirtualCluster (now : Moment) (vc : VirtualConfig) (c : Connection) : VirtualConfig :=
  let st := (virtualStoreFromSnapshot vc.snapshot).upsertCluster now.bumpedAt (virtualCluster c)
  { backendID := c.id, snapshot := st.snapshot now.orders, updatedAt := now.updatedAt }

/-- The fields of a stored rule that a patch replaces. -/
def patchVirtualPolicy (patch dst : Policy) : Policy :=
  { dst with
    name := patch.name
    priority := patch.priority
    conditions := patch.conditions
    action := patch.action
    enabled := patch.enabled }

/-- A mutation of the config of one virtual connection. -/
inductive VirtualMutation
  | upsertVirtualModelProfile (backendID : String) (prof : ModelProfile)
  | removeVirtualModelProfile (backendID modelID : String)
  | upsertVirtualPolicy (backendID : String) (policy : Policy)
  | patchVirtualPolicy (backendID ruleID : String) (patch : Policy)
  | removeVirtualPolicy (backendID ruleID : String)
  | ensureVirtualConfig (c : Connection)

namespace VirtualMutation

def backendID : VirtualMutation → String
  | upsertVirtualModelProfile id _ => id
  | removeVirtualModelProfile id _ => id
  | upsertVirtualPolicy id _ => id
  | patchVirtualPolicy id _ _ => id
  | removeVirtualPolicy id _ => id
  | ensureVirtualConfig c => c.id

/-- What the mutation writes after it found a config or none. Only `ensureVirtualConfig`
goes on without one. -/
def written (now : Moment) (found : Option VirtualConfig) :
    VirtualMutation → Option VirtualConfig
  | upsertVirtualModelProfile _ prof =>
      found.bind fun vc => vc.rewrite now (.upsertModelProfile prof)
  | removeVirtualModelProfile _ modelID =>
      found.bind fun vc => vc.rewrite now (.removeModelProfile modelID)
  | upsertVirtualPolicy _ policy => found.bind fun vc => vc.rewrite now (.upsertPolicy policy)
  | patchVirtualPolicy _ ruleID patch =>
      found.bind fun vc => vc.rewrite now (.patchPolicy ruleID (Gateway.patchVirtualPolicy patch))
  | removeVirtualPolicy _ ruleID => found.bind fun vc => vc.rewrite now (.removePolicy ruleID)
  | ensureVirtualConfig c => some (upsertVirtualCluster now (found.getD {}) c)

end VirtualMutation

/-! ### The collection -/

/-- The collection `virtual_configs`, keyed by `_id`. -/
abbrev VirtualConfigs := GoMap String VirtualDocument

/-- The `FindOne` of `getVirtualConfig` -/
def getVirtualConfig (db : VirtualConfigs) (backendID : String) : Option VirtualConfig :=
  (db.lookup backendID).map fun doc => { doc with backendID := backendID }

/-- The `ReplaceOne` of `putVirtualConfig` -/
def putVirtualConfig (db : VirtualConfigs) (vc : VirtualConfig) : VirtualConfigs :=
  db.insert vc.backendID vc.toVirtualDocument

/-- A mutation on MongoDB: the find, and the replacement if there is something to write. -/
def VirtualMutation.transaction (m : VirtualMutation) (now : Moment) :
    ReadModifyWrite.Transaction VirtualConfigs (Option VirtualConfig) where
  read db := getVirtualConfig db m.backendID
  write found db :=
    match m.written now found with
    | none => db
    | some vc => putVirtualConfig db vc

/-- The snapshot stored for a connection. -/
def storedSnapshot (db : VirtualConfigs) (backendID : String) : Option Snapshot :=
  (db.lookup backendID).map VirtualDocument.snapshot

/-! ### Entries -/

/-- What a mutation can find or miss in a config. -/
inductive Entry
  | profile (modelID : String)
  | policy (ruleID : String)
deriving DecidableEq

/-- The snapshot lists the entry. A rule without an id counts as absent. -/
def Entry.ListedIn (snap : Snapshot) : Entry → Prop
  | profile modelID => ∃ p ∈ snap.profiles, p.modelID = modelID
  | policy ruleID => ruleID ≠ "" ∧ ∃ p ∈ snap.policies, p.ruleID = ruleID

/-- The store holds the entry. -/
def Entry.HeldBy (st : FullStore) : Entry → Prop
  | profile modelID => ∃ p, st.profiles.lookup modelID = some p
  | policy ruleID => ∃ p, st.policies.lookup ruleID = some p

namespace VirtualMutation

/-- The entry that must be there already. -/
def needs : VirtualMutation → Option Entry
  | removeVirtualModelProfile _ modelID => some (.profile modelID)
  | patchVirtualPolicy _ ruleID _ => some (.policy ruleID)
  | removeVirtualPolicy _ ruleID => some (.policy ruleID)
  | _ => none

/-- The entry that is gone afterwards. -/
def drops : VirtualMutation → Option Entry
  | removeVirtualModelProfile _ modelID => some (.profile modelID)
  | removeVirtualPolicy _ ruleID => some (.policy ruleID)
  | _ => none

/-- The call that the mutation makes on the configuration store. -/
def call : VirtualMutation → StoreCall
  | upsertVirtualModelProfile _ prof => .upsertModelProfile prof
  | removeVirtualModelProfile _ modelID => .removeModelProfile modelID
  | upsertVirtualPolicy _ policy => .upsertPolicy policy
  | patchVirtualPolicy _ ruleID patch => .patchPolicy ruleID (Gateway.patchVirtualPolicy patch)
  | removeVirtualPolicy _ ruleID => .removePolicy ruleID
  | ensureVirtualConfig c => .upsertCluster (virtualCluster c)

/-- Action, entity and entity id of the audit entry. -/
def audited : VirtualMutation → String × String × String
  | upsertVirtualModelProfile _ prof => ("upsert", "model_profile", prof.modelID)
  | removeVirtualModelProfile _ modelID => ("remove", "model_profile", modelID)
  | upsertVirtualPolicy _ policy => ("upsert", "policy", policy.ruleID)
  | patchVirtualPolicy _ ruleID _ => ("patch", "policy", ruleID)
  | removeVirtualPolicy _ ruleID => ("remove", "policy", ruleID)
  | ensureVirtualConfig c => ("upsert", "cluster", c.cluster)

/-- A removal needs what it drops. -/
theorem needs_of_drops {m : VirtualMutation} {e : Entry} (drops : m.drops = some e) :
    m.needs = some e := by
  cases m with
  | removeVirtualModelProfile _ _ => exact drops
  | removeVirtualPolicy _ _ => exact drops
  | upsertVirtualModelProfile _ _ => cases drops
  | upsertVirtualPolicy _ _ => cases drops
  | patchVirtualPolicy _ _ _ => cases drops
  | ensureVirtualConfig _ => cases drops

/-- The audit entry of a removal tells what was dropped. -/
theorem drops_eq_of_audited {m m' : VirtualMutation} {e : Entry} (drops : m.drops = some e)
    (same : m'.audited = m.audited) : m'.drops = some e := by
  cases m with
  | removeVirtualModelProfile id modelID =>
      cases m' <;> simp_all [audited, VirtualMutation.drops]
  | removeVirtualPolicy id ruleID =>
      cases m' <;> simp_all [audited, VirtualMutation.drops]
  | upsertVirtualModelProfile _ _ => cases drops
  | upsertVirtualPolicy _ _ => cases drops
  | patchVirtualPolicy _ _ _ => cases drops
  | ensureVirtualConfig _ => cases drops

theorem keepsID_call (m : VirtualMutation) : m.call.KeepsID := by
  cases m with
  | patchVirtualPolicy _ _ _ => exact fun _ => rfl
  | upsertVirtualModelProfile _ _ => trivial
  | removeVirtualModelProfile _ _ => trivial
  | upsertVirtualPolicy _ _ => trivial
  | removeVirtualPolicy _ _ => trivial
  | ensureVirtualConfig _ => trivial

end VirtualMutation

/-! ### One call -/

section Call

variable (now : Int) (st : FullStore) (m : VirtualMutation)

/-- The call succeeds exactly when the store holds what the mutation needs. -/
theorem mutate_call_found :
    (st.mutate now m.call).2 = true ↔ ∀ e, m.needs = some e → e.HeldBy st := by
  cases m with
  | upsertVirtualModelProfile _ _ =>
      simp [VirtualMutation.call, VirtualMutation.needs, FullStore.mutate]
  | upsertVirtualPolicy _ _ => simp [VirtualMutation.call, VirtualMutation.needs, FullStore.mutate]
  | ensureVirtualConfig _ => simp [VirtualMutation.call, VirtualMutation.needs, FullStore.mutate]
  | removeVirtualModelProfile _ modelID =>
      simp only [VirtualMutation.call, VirtualMutation.needs, FullStore.mutate,
        FullStore.removeModelProfile, Store.removeModelProfile, Option.some.injEq, forall_eq',
        Entry.HeldBy]
      cases st.profiles.lookup modelID with
      | none => simp
      | some p => simp
  | removeVirtualPolicy _ ruleID =>
      simp only [VirtualMutation.call, VirtualMutation.needs, FullStore.mutate,
        FullStore.removePolicy, Option.some.injEq, forall_eq', Entry.HeldBy]
      cases st.policies.lookup ruleID with
      | none => simp
      | some p => simp
  | patchVirtualPolicy _ ruleID patch =>
      simp only [VirtualMutation.call, VirtualMutation.needs, FullStore.mutate,
        FullStore.patchPolicy, Option.some.injEq, forall_eq', Entry.HeldBy]
      cases st.policies.lookup ruleID with
      | none => simp
      | some p => simp

/-- What is stored stays stored when one key is written. -/
theorem exists_eq_some_ite {α : Type} (c : Prop) [Decidable c] {o : Option α}
    (held : ∃ v, o = some v) (a : α) : ∃ v, (if c then some a else o) = some v := by
  split
  · exact ⟨a, rfl⟩
  · exact held

/-- What is stored stays stored when one key is erased, unless it stands under that key. -/
theorem exists_eq_some_ite_none {α : Type} {c : Prop} [Decidable c] {o : Option α}
    (held : ∃ v, o = some v) : (∃ v, (if c then none else o) = some v) ↔ ¬c := by
  split
  · rename_i erased
    exact iff_of_false (fun ⟨_, found⟩ => nomatch found) (not_not_intro erased)
  · rename_i other
    exact iff_of_true held other

/-- What the store holds stays, except what the mutation drops. -/
theorem heldBy_mutate_call {e : Entry} (held : e.HeldBy st) :
    e.HeldBy (st.mutate now m.call).1 ↔ m.drops ≠ some e := by
  cases m with
  | upsertVirtualModelProfile _ prof =>
      refine iff_of_true ?_ (by simp [VirtualMutation.drops])
      cases e with
      | policy ruleID => exact held
      | profile modelID =>
          obtain ⟨p, found⟩ := exists_eq_some_ite (modelID = prof.modelID) held
            (storedProfile (st.profiles.lookup prof.modelID) prof)
          exact ⟨p, (st.toStore.lookup_upsertModelProfile now prof modelID).trans found⟩
  | upsertVirtualPolicy _ policy =>
      refine iff_of_true ?_ (by simp [VirtualMutation.drops])
      cases e with
      | profile modelID => exact held
      | policy ruleID =>
          obtain ⟨p, found⟩ := exists_eq_some_ite (ruleID = policy.ruleID) held policy
          exact ⟨p, (GoMap.lookup_insert_eq policy.ruleID ruleID policy st.policies).trans found⟩
  | ensureVirtualConfig c =>
      refine iff_of_true ?_ (by simp [VirtualMutation.drops])
      cases e with
      | profile modelID => exact held
      | policy ruleID => exact held
  | removeVirtualModelProfile _ modelID =>
      cases e with
      | policy ruleID =>
          refine iff_of_true ?_ (by simp [VirtualMutation.drops])
          simp only [VirtualMutation.call, FullStore.mutate, FullStore.removeModelProfile,
            Store.removeModelProfile]
          cases st.profiles.lookup modelID with
          | none => exact held
          | some p => exact held
      | profile modelID' =>
          have lookup := st.toStore.lookup_removeModelProfile now modelID modelID'
          have kept : Entry.HeldBy (st.mutate now (.removeModelProfile modelID)).1
              (.profile modelID') ↔ ¬modelID' = modelID :=
            (exists_congr fun p => by rw [← lookup]; rfl).trans (exists_eq_some_ite_none held)
          rw [VirtualMutation.call, kept]
          simp [VirtualMutation.drops, eq_comm]
  | removeVirtualPolicy _ ruleID =>
      cases e with
      | profile modelID =>
          refine iff_of_true ?_ (by simp [VirtualMutation.drops])
          simp only [VirtualMutation.call, FullStore.mutate, FullStore.removePolicy]
          cases st.policies.lookup ruleID with
          | none => exact held
          | some p => exact held
      | policy ruleID' =>
          have lookup := st.lookup_removePolicy now ruleID ruleID'
          have kept : Entry.HeldBy (st.mutate now (.removePolicy ruleID)).1
              (.policy ruleID') ↔ ¬ruleID' = ruleID :=
            (exists_congr fun p => by rw [← lookup]; rfl).trans (exists_eq_some_ite_none held)
          rw [VirtualMutation.call, kept]
          simp [VirtualMutation.drops, eq_comm]
  | patchVirtualPolicy _ ruleID patch =>
      refine iff_of_true ?_ (by simp [VirtualMutation.drops])
      simp only [VirtualMutation.call, FullStore.mutate, FullStore.patchPolicy]
      cases st.policies.lookup ruleID with
      | none => exact held
      | some q =>
          cases e with
          | profile modelID => exact held
          | policy ruleID' =>
              obtain ⟨p, found⟩ := exists_eq_some_ite (ruleID' = ruleID) held
                (Gateway.patchVirtualPolicy patch q)
              exact ⟨p, (GoMap.lookup_insert_eq ruleID ruleID' _ st.policies).trans found⟩

/-- A successful call appends one audit entry, which tells what was called. -/
theorem audit_mutate_call (found : (st.mutate now m.call).2 = true) :
    ∃ a : AuditEntry, (st.mutate now m.call).1.audit = st.audit ++ [a] ∧
      (a.action, a.entity, a.entityID) = m.audited := by
  cases m with
  | upsertVirtualModelProfile _ prof =>
      have entity : (st.toStore.upsertModelProfile now prof).2.modelID = prof.modelID := by
        rw [Store.upsertModelProfile_snd, modelID_storedProfile]
      exact ⟨_, rfl, congrArg (fun id => ("upsert", "model_profile", id)) entity⟩
  | upsertVirtualPolicy _ _ => exact ⟨_, rfl, rfl⟩
  | ensureVirtualConfig _ => exact ⟨_, rfl, rfl⟩
  | removeVirtualModelProfile _ modelID =>
      simp only [VirtualMutation.call, FullStore.mutate, FullStore.removeModelProfile,
        Store.removeModelProfile] at found ⊢
      cases old : st.profiles.lookup modelID with
      | none => simp [old] at found
      | some p => exact ⟨_, rfl, rfl⟩
  | removeVirtualPolicy _ ruleID =>
      simp only [VirtualMutation.call, FullStore.mutate, FullStore.removePolicy] at found ⊢
      cases old : st.policies.lookup ruleID with
      | none => simp [old] at found
      | some p => exact ⟨_, rfl, rfl⟩
  | patchVirtualPolicy _ ruleID _ =>
      simp only [VirtualMutation.call, FullStore.mutate, FullStore.patchPolicy] at found ⊢
      cases old : st.policies.lookup ruleID with
      | none => simp [old] at found
      | some p => exact ⟨_, rfl, rfl⟩

end Call

/-! ### Snapshots -/

theorem virtualStoreFromSnapshot_eq (snap : Snapshot) :
    virtualStoreFromSnapshot snap = applySnapshot snap := by
  unfold virtualStoreFromSnapshot
  cases data : snapshotHasData snap with
  | true => rfl
  | false =>
      obtain ⟨version, clusters, engines, profiles, policies, audit⟩ := snap
      simp [snapshotHasData] at data
      obtain ⟨⟨⟨⟨⟨rfl, rfl⟩, rfl⟩, rfl⟩, rfl⟩, rfl⟩ := data
      rfl

/-- The store read from a snapshot holds what the snapshot lists. -/
theorem heldBy_applySnapshot {snap : Snapshot} {e : Entry} :
    e.HeldBy (applySnapshot snap) ↔ e.ListedIn snap := by
  cases e with
  | profile modelID =>
      simp only [Entry.HeldBy, Entry.ListedIn, applySnapshot, GoMap.exists_lookup_ofValues,
        List.mem_map, exists_exists_and_eq_and, modelID_normalizeModelProfile]
  | policy ruleID =>
      simp only [Entry.HeldBy, Entry.ListedIn, applySnapshot, GoMap.exists_lookup_ofValues,
        List.mem_filter]
      constructor
      · rintro ⟨p, ⟨member, named⟩, rfl⟩
        exact ⟨by simpa using named, p, member, rfl⟩
      · rintro ⟨named, p, member, rfl⟩
        exact ⟨p, ⟨member, by simpa using named⟩, rfl⟩

/-- What a consistent store holds under a name, its snapshot lists. -/
theorem listedIn_snapshot {st : FullStore} (consistent : st.Consistent) (orders : MapOrders)
    {e : Entry} (named : e ≠ .policy "") : e.ListedIn (st.snapshot orders) ↔ e.HeldBy st := by
  rw [← heldBy_applySnapshot, FullStore.applySnapshot_snapshot consistent]
  cases e with
  | profile modelID => exact Iff.rfl
  | policy ruleID =>
      have kept : ruleID ≠ "" := fun same => named (congrArg Entry.policy same)
      simp only [Entry.HeldBy, GoMap.lookup_filterKeys, ne_eq, kept, not_false_eq_true,
        decide_true, if_true]

namespace VirtualMutation

/-- What the mutation makes of the stored snapshot, if it writes. -/
def next (now : Moment) (m : VirtualMutation) (stored : Option Snapshot) : Option Snapshot :=
  (m.written now (stored.map fun snap => { snapshot := snap, backendID := m.backendID })).map
    fun vc => vc.snapshot

/-- The mutation writes: it finds a config, and in it the entry it needs. -/
def Applies (m : VirtualMutation) (stored : Option Snapshot) : Prop :=
  (∃ c, m = ensureVirtualConfig c) ∨
    ∃ snap, stored = some snap ∧ ∀ e, m.needs = some e → e.ListedIn snap

variable {now : Moment} {m : VirtualMutation} {stored : Option Snapshot}

/-- A mutation that finds a config rewrites it by its call. -/
theorem written_some (vc : VirtualConfig) :
    ((m.written now (some vc)).map fun vc => vc.snapshot) =
      let st := (applySnapshot vc.snapshot).mutate now.bumpedAt m.call
      if st.2 then some (st.1.snapshot now.orders) else none := by
  have rewritten : ((m.written now (some vc)).map fun vc => vc.snapshot) =
      (vc.rewrite now m.call).map fun vc => vc.snapshot := by
    cases m <;> rfl
  rw [rewritten, VirtualConfig.rewrite, virtualStoreFromSnapshot_eq]
  cases ok : ((applySnapshot vc.snapshot).mutate now.bumpedAt m.call).2 with
  | true => simp [ok]
  | false => simp [ok]

theorem next_some (snap : Snapshot) :
    m.next now (some snap) =
      let st := (applySnapshot snap).mutate now.bumpedAt m.call
      if st.2 then some (st.1.snapshot now.orders) else none :=
  written_some _

/-- What is written depends on the snapshot found only. -/
theorem snapshot_written (found : Option VirtualConfig) :
    ((m.written now found).map fun vc => vc.snapshot) =
      m.next now (found.map fun vc => vc.snapshot) := by
  cases found with
  | none => rfl
  | some vc => rw [written_some, Option.map_some, next_some]

/-- It goes to the connection of the mutation. -/
theorem backendID_written {found : Option VirtualConfig} {vc : VirtualConfig}
    (own : ∀ vc, found = some vc → vc.backendID = m.backendID)
    (written : m.written now found = some vc) : vc.backendID = m.backendID := by
  have kept : ∀ {call : StoreCall}, (found.bind fun vc => vc.rewrite now call) = some vc →
      vc.backendID = m.backendID := by
    intro call rewritten
    obtain ⟨vc₀, here, rewritten⟩ := Option.bind_eq_some_iff.mp rewritten
    unfold VirtualConfig.rewrite at rewritten
    dsimp only at rewritten
    split at rewritten
    · obtain rfl := Option.some.inj rewritten
      exact own vc₀ here
    · cases rewritten
  cases m with
  | ensureVirtualConfig c =>
      obtain rfl := Option.some.inj written
      rfl
  | upsertVirtualModelProfile _ _ => exact kept written
  | removeVirtualModelProfile _ _ => exact kept written
  | upsertVirtualPolicy _ _ => exact kept written
  | patchVirtualPolicy _ _ _ => exact kept written
  | removeVirtualPolicy _ _ => exact kept written

/-- The snapshot stored after the second step of a mutation. -/
theorem storedSnapshot_write (m : VirtualMutation) (now : Moment) (db db' : VirtualConfigs) :
    storedSnapshot ((m.transaction now).write ((m.transaction now).read db) db') m.backendID =
      (m.next now (storedSnapshot db m.backendID)).or (storedSnapshot db' m.backendID) := by
  have found : storedSnapshot db m.backendID =
      (getVirtualConfig db m.backendID).map fun vc => vc.snapshot := by
    unfold storedSnapshot getVirtualConfig
    rw [Option.map_map]
    rfl
  have own : ∀ vc, getVirtualConfig db m.backendID = some vc → vc.backendID = m.backendID := by
    intro vc here
    obtain ⟨doc, -, rfl⟩ := Option.map_eq_some_iff.mp here
    rfl
  rw [found, ← snapshot_written]
  unfold transaction
  dsimp only
  cases written : m.written now (getVirtualConfig db m.backendID) with
  | none => rfl
  | some vc =>
      unfold storedSnapshot putVirtualConfig
      dsimp only
      rw [backendID_written own written, Finmap.lookup_insert]
      rfl

/-- A mutation that misses what it needs writes nothing. -/
theorem next_of_not_applies (misses : ¬ m.Applies stored) : m.next now stored = none := by
  cases stored with
  | some snap =>
      rw [next_some]
      refine if_neg fun found => misses (Or.inr ⟨snap, rfl, fun e needed => ?_⟩)
      exact heldBy_applySnapshot.mp ((mutate_call_found _ _ m).mp found e needed)
  | none =>
      cases m with
      | ensureVirtualConfig c => exact absurd (Or.inl ⟨c, rfl⟩) misses
      | upsertVirtualModelProfile _ _ => rfl
      | removeVirtualModelProfile _ _ => rfl
      | upsertVirtualPolicy _ _ => rfl
      | patchVirtualPolicy _ _ _ => rfl
      | removeVirtualPolicy _ _ => rfl

/-- A mutation that applies writes the snapshot of the store after its call. -/
theorem next_of_applies (applies : m.Applies stored) :
    let st := applySnapshot (stored.getD {})
    (st.mutate now.bumpedAt m.call).2 = true ∧
      m.next now stored = some ((st.mutate now.bumpedAt m.call).1.snapshot now.orders) := by
  cases stored with
  | some snap =>
      have found : ((applySnapshot snap).mutate now.bumpedAt m.call).2 = true := by
        rw [mutate_call_found]
        rcases applies with ⟨c, rfl⟩ | ⟨_, here, listed⟩
        · intro e needed
          cases needed
        · obtain rfl := Option.some.inj here
          exact fun e needed => heldBy_applySnapshot.mpr (listed e needed)
      refine ⟨found, ?_⟩
      rw [next_some]
      exact if_pos found
  | none =>
      rcases applies with ⟨c, rfl⟩ | ⟨_, here, -⟩
      · exact ⟨rfl, rfl⟩
      · cases here

/-- A written snapshot has one audit entry more than the one before, which tells what was
done. -/
theorem audit_next {snap : Snapshot} (written : m.next now stored = some snap) :
    ∃ a : AuditEntry, snap.audit = (stored.getD {}).audit ++ [a] ∧
      (a.action, a.entity, a.entityID) = m.audited := by
  have applies : m.Applies stored := by
    by_contra misses
    rw [next_of_not_applies misses] at written
    cases written
  obtain ⟨found, here⟩ := @next_of_applies now m stored applies
  obtain rfl := Option.some.inj (here.symm.trans written)
  exact audit_mutate_call _ _ m found

/-- What was listed before stays listed, except what the mutation drops. -/
theorem listedIn_next {snap : Snapshot} (written : m.next now stored = some snap) {e : Entry}
    (listed : e.ListedIn (stored.getD {})) : e.ListedIn snap ↔ m.drops ≠ some e := by
  have applies : m.Applies stored := by
    by_contra misses
    rw [next_of_not_applies misses] at written
    cases written
  obtain ⟨-, here⟩ := @next_of_applies now m stored applies
  obtain rfl := Option.some.inj (here.symm.trans written)
  have named : e ≠ .policy "" := by
    rintro rfl
    exact listed.1 rfl
  have consistent := (consistent_applySnapshot (stored.getD {})).mutate now.bumpedAt
    m.keepsID_call
  rw [listedIn_snapshot consistent _ named]
  exact heldBy_mutate_call _ _ m (heldBy_applySnapshot.mpr listed)

end VirtualMutation

end KvIndexer.Gateway
