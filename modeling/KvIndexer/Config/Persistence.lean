import KvIndexer.Config.Tables
import KvIndexer.Lib.Run
import Mathlib.Data.List.Range

/-!
The history of the configuration store and its persistence.

Every mutator that succeeds bumps the version once and appends one audit entry under the
new version; one that does not find its entity changes nothing (`mutate_cases`). Along a
run the version is therefore the number of successes and the audit entries number them
(`Recorded`). Every table stays keyed by the ids of its entries (`Consistent`), so the
snapshot given to the persister reads back to a store that no reader tells from the one
it was taken from (`history_persisted`).
-/

namespace KvIndexer.Config

/-- A call of one mutator. A patch is the function it applies. -/
inductive StoreCall
  | upsertCluster (c : Cluster)
  | patchCluster (id : String) (fn : Cluster → Cluster)
  | upsertEngine (e : Engine)
  | removeEngine (id : String)
  | patchEngine (id : String) (fn : Engine → Engine)
  | upsertModelProfile (p : ModelProfile)
  | removeModelProfile (id : String)
  | upsertPolicy (p : Policy)
  | removePolicy (id : String)
  | patchPolicy (id : String) (fn : Policy → Policy)

/-- The patches of the handlers leave the id of an entity alone. -/
def StoreCall.KeepsID : StoreCall → Prop
  | patchCluster _ fn => ∀ c, (fn c).clusterID = c.clusterID
  | patchEngine _ fn => ∀ e, (fn e).engineID = e.engineID
  | patchPolicy _ fn => ∀ p, (fn p).ruleID = p.ruleID
  | _ => True

/-- Perform the call at time `now`; the second component is the success it reports. -/
def FullStore.mutate (now : Int) (s : FullStore) : StoreCall → FullStore × Bool
  | .upsertCluster c => (s.upsertCluster now c, true)
  | .patchCluster id fn => s.patchCluster now id fn
  | .upsertEngine e => (s.upsertEngine now e, true)
  | .removeEngine id => s.removeEngine now id
  | .patchEngine id fn => s.patchEngine now id fn
  | .upsertModelProfile p => (s.upsertModelProfile now p, true)
  | .removeModelProfile id => s.removeModelProfile now id
  | .upsertPolicy p => (s.upsertPolicy now p, true)
  | .removePolicy id => s.removePolicy now id
  | .patchPolicy id fn => s.patchPolicy now id fn

/-- Every table is keyed by the ids of its entries, and stored profiles are normal. -/
structure FullStore.Consistent (s : FullStore) : Prop where
  clusters : s.clusters.Keyed Cluster.clusterID
  engines : s.engines.Keyed Engine.engineID
  profiles : s.profiles.Keyed ModelProfile.modelID
  policies : s.policies.Keyed Policy.ruleID
  normal : ∀ id p, s.profiles.lookup id = some p → normalizeModelProfile p = p

/-! ### Normal profiles -/

theorem normalizeModelProfile_idem (p : ModelProfile) :
    normalizeModelProfile (normalizeModelProfile p) = normalizeModelProfile p := by
  unfold normalizeModelProfile
  by_cases here : p.tokenizerMode = TokenizerModeLocal
  · simp only [if_pos here]
  · have remote : ¬ TokenizerModeRemote = TokenizerModeLocal := by decide
    simp only [if_neg here, if_neg remote]

theorem normalizeModelProfile_version (p : ModelProfile) (v : Int64) :
    normalizeModelProfile { p with version := v } =
      { normalizeModelProfile p with version := v } := by
  unfold normalizeModelProfile
  split
  · rfl
  · rfl

theorem normal_storedProfile (old : Option ModelProfile) (p : ModelProfile) :
    normalizeModelProfile (storedProfile old p) = storedProfile old p := by
  obtain ⟨v, same⟩ := applyVersionRule_eq old (normalizeModelProfile p)
  rw [storedProfile, same, normalizeModelProfile_version, normalizeModelProfile_idem]

/-! ### One call -/

/-- Whatever a snapshot lists, the store read from it is consistent. -/
theorem consistent_applySnapshot (snap : Snapshot) : (applySnapshot snap).Consistent where
  clusters := GoMap.ofValues_keyed _
  engines := GoMap.ofValues_keyed _
  profiles := GoMap.ofValues_keyed _
  policies := GoMap.ofValues_keyed _
  normal id p found := by
    obtain ⟨q, -, rfl⟩ := List.mem_map.mp (GoMap.mem_of_lookup_ofValues found)
    exact normalizeModelProfile_idem q

namespace FullStore

/-- One bump: the next version, and one audit entry under it. -/
def Bumped (s s' : FullStore) : Prop :=
  s'.version = s.version + 1 ∧ ∃ a : AuditEntry, a.version = s'.version ∧ s'.audit = s.audit ++ [a]

theorem bumped_bump (now : Int) {s t : FullStore} (a : AuditEntry)
    (version : t.version = s.version) (audit : t.audit = s.audit) : s.Bumped (t.bump now a) := by
  refine ⟨?_, { a with version := t.version + 1, timestamp := now }, rfl, ?_⟩
  · rw [← version]
    rfl
  · rw [← audit]
    rfl

/-- What a call can do: nothing, reported as not found, or one bump. -/
theorem mutate_cases (now : Int) (s : FullStore) (m : StoreCall) :
    s.mutate now m = (s, false) ∨
      (s.mutate now m).2 = true ∧ s.Bumped (s.mutate now m).1 := by
  cases m with
  | upsertCluster c => exact Or.inr ⟨rfl, bumped_bump now _ rfl rfl⟩
  | upsertEngine e => exact Or.inr ⟨rfl, bumped_bump now _ rfl rfl⟩
  | upsertModelProfile p => exact Or.inr ⟨rfl, rfl, _, rfl, rfl⟩
  | upsertPolicy p => exact Or.inr ⟨rfl, bumped_bump now _ rfl rfl⟩
  | patchCluster id fn =>
      simp only [mutate, patchCluster]
      cases s.clusters.lookup id with
      | none => exact Or.inl rfl
      | some c => exact Or.inr ⟨rfl, bumped_bump now _ rfl rfl⟩
  | removeEngine id =>
      simp only [mutate, removeEngine]
      cases s.engines.lookup id with
      | none => exact Or.inl rfl
      | some e => exact Or.inr ⟨rfl, bumped_bump now _ rfl rfl⟩
  | patchEngine id fn =>
      simp only [mutate, patchEngine]
      cases s.engines.lookup id with
      | none => exact Or.inl rfl
      | some e => exact Or.inr ⟨rfl, bumped_bump now _ rfl rfl⟩
  | removeModelProfile id =>
      simp only [mutate, removeModelProfile, Store.removeModelProfile]
      cases s.profiles.lookup id with
      | none => exact Or.inl rfl
      | some p => exact Or.inr ⟨rfl, rfl, _, rfl, rfl⟩
  | removePolicy id =>
      simp only [mutate, removePolicy]
      cases s.policies.lookup id with
      | none => exact Or.inl rfl
      | some p => exact Or.inr ⟨rfl, bumped_bump now _ rfl rfl⟩
  | patchPolicy id fn =>
      simp only [mutate, patchPolicy]
      cases s.policies.lookup id with
      | none => exact Or.inl rfl
      | some p => exact Or.inr ⟨rfl, bumped_bump now _ rfl rfl⟩

/-- A call that reports not found leaves the store as it was. -/
theorem mutate_notFound {now : Int} {s : FullStore} {m : StoreCall}
    (notFound : (s.mutate now m).2 = false) : (s.mutate now m).1 = s := by
  rcases s.mutate_cases now m with same | ⟨found, -⟩
  · rw [same]
  · rw [found] at notFound
    cases notFound

theorem Consistent.empty : Consistent {} :=
  ⟨GoMap.Keyed.empty, GoMap.Keyed.empty, GoMap.Keyed.empty, GoMap.Keyed.empty,
    fun id p found => by
      rw [Finmap.lookup_empty] at found
      cases found⟩

/-- Every call that keeps ids keeps the tables keyed. -/
theorem Consistent.mutate {s : FullStore} (consistent : s.Consistent) (now : Int) {m : StoreCall}
    (keeps : m.KeepsID) : (s.mutate now m).1.Consistent := by
  cases m with
  | upsertCluster c => exact { consistent with clusters := consistent.clusters.insert rfl }
  | upsertEngine e => exact { consistent with engines := consistent.engines.insert rfl }
  | upsertPolicy p => exact { consistent with policies := consistent.policies.insert rfl }
  | upsertModelProfile p =>
      have profiles : (s.upsertModelProfile now p).profiles =
          s.profiles.insert p.modelID (storedProfile (s.profiles.lookup p.modelID) p) :=
        s.toStore.profiles_upsertModelProfile now p
      refine { consistent with profiles := ?_, normal := fun id q found => ?_ }
      · show GoMap.Keyed _ (s.upsertModelProfile now p).profiles
        rw [profiles]
        exact consistent.profiles.insert (modelID_storedProfile _ _)
      · have found : (s.upsertModelProfile now p).profiles.lookup id = some q := found
        rw [profiles, GoMap.lookup_insert_eq] at found
        split at found
        · obtain rfl := Option.some.inj found
          exact normal_storedProfile _ _
        · exact consistent.normal id q found
  | patchCluster id fn =>
      simp only [FullStore.mutate, patchCluster]
      cases found : s.clusters.lookup id with
      | none => exact consistent
      | some c =>
          have same : (fn c).clusterID = id := (keeps c).trans (consistent.clusters id c found)
          exact { consistent with clusters := consistent.clusters.insert same }
  | removeEngine id =>
      simp only [FullStore.mutate, removeEngine]
      cases s.engines.lookup id with
      | none => exact consistent
      | some e => exact { consistent with engines := consistent.engines.erase id }
  | patchEngine id fn =>
      simp only [FullStore.mutate, patchEngine]
      cases found : s.engines.lookup id with
      | none => exact consistent
      | some e =>
          have same : (fn e).engineID = id := (keeps e).trans (consistent.engines id e found)
          exact { consistent with engines := consistent.engines.insert same }
  | removeModelProfile id =>
      simp only [FullStore.mutate, removeModelProfile, Store.removeModelProfile]
      cases s.profiles.lookup id with
      | none => exact consistent
      | some p =>
          refine { consistent with profiles := consistent.profiles.erase id, normal := ?_ }
          intro id' q found
          have found : (s.profiles.erase id).lookup id' = some q := found
          rw [GoMap.lookup_erase_eq] at found
          split at found
          · cases found
          · exact consistent.normal id' q found
  | removePolicy id =>
      simp only [FullStore.mutate, removePolicy]
      cases s.policies.lookup id with
      | none => exact consistent
      | some p => exact { consistent with policies := consistent.policies.erase id }
  | patchPolicy id fn =>
      simp only [FullStore.mutate, patchPolicy]
      cases found : s.policies.lookup id with
      | none => exact consistent
      | some p =>
          have same : (fn p).ruleID = id := (keeps p).trans (consistent.policies id p found)
          exact { consistent with policies := consistent.policies.insert same }

end FullStore

/-! ### Reading back -/

namespace FullStore

/-- No reader tells the two stores apart, whatever the orders of the ranges. -/
structure SameView (s s' : FullStore) : Prop where
  version : s'.version = s.version
  audit : s'.audit = s.audit
  listClusters : ∀ orders orders', s'.listClusters orders' = s.listClusters orders
  listEngines : ∀ orders orders', s'.listEngines orders' = s.listEngines orders
  getEngine : ∀ id, s'.getEngine id = s.getEngine id
  listModelProfiles : ∀ orders orders', s'.listModelProfiles orders' = s.listModelProfiles orders
  resolves : ∀ model p, s'.Resolves model p ↔ s.Resolves model p
  listPolicies : ∀ orders orders', s'.listPolicies orders' = s.listPolicies orders

variable {s : FullStore}

/-- The tables read back from a snapshot are as they were, but for rules without an id. -/
theorem applySnapshot_snapshot (consistent : s.Consistent) (orders : MapOrders) :
    applySnapshot (s.snapshot orders) =
      { s with policies := GoMap.filterKeys (· ≠ "") s.policies } := by
  have normal : (orders.profiles s.profiles).values.map normalizeModelProfile =
      (orders.profiles s.profiles).values := by
    have same : ∀ p ∈ (orders.profiles s.profiles).values, normalizeModelProfile p = id p := by
      intro p member
      obtain ⟨id, found⟩ := (orders.profiles s.profiles).mem_values.mp member
      exact consistent.normal id p found
    rw [List.map_congr_left same, List.map_id]
  have profiles := GoMap.ofValues_values consistent.profiles (orders.profiles s.profiles)
  have clusters := GoMap.ofValues_values consistent.clusters (orders.clusters s.clusters)
  have engines := GoMap.ofValues_values consistent.engines (orders.engines s.engines)
  have policies := GoMap.ofValues_filter_values consistent.policies (orders.policies s.policies)
    (· ≠ "")
  unfold applySnapshot snapshot
  dsimp only
  rw [normal, profiles, clusters, engines, policies]

/-- Dropping the rules without an id changes no reading. -/
theorem sameView_filterKeys (consistent : s.Consistent) :
    s.SameView { s with policies := GoMap.filterKeys (· ≠ "") s.policies } where
  version := rfl
  audit := rfl
  getEngine _ := rfl
  resolves _ _ := Iff.rfl
  listClusters orders orders' := GoMap.sort_all_values_eq (fun _ _ => rfl) _ (fun _ _ same => same)
    consistent.clusters _ _
  listEngines orders orders' := GoMap.sort_all_values_eq (fun _ _ => rfl) _ (fun _ _ same => same)
    consistent.engines _ _
  listModelProfiles orders orders' := GoMap.sort_all_values_eq (fun _ _ => rfl) _
    (fun _ _ same => same) consistent.profiles _ _
  listPolicies orders orders' := by
    refine GoMap.sort_values_eq policyLess_eq policySort
      (fun p q same => (Prod.ext_iff.mp (toLex.injective same)).2)
      (consistent.policies.filterKeys _) consistent.policies _ _ fun p named => ?_
    constructor
    · rintro ⟨id, found⟩
      rw [GoMap.lookup_filterKeys] at found
      split at found
      · exact ⟨id, found⟩
      · cases found
    · rintro ⟨id, found⟩
      refine ⟨id, ?_⟩
      rw [GoMap.lookup_filterKeys, ← consistent.policies id p found, if_pos named,
        consistent.policies id p found, found]

end FullStore

/-! ### Runs -/

/-- One call with the time of its bump and the orders in which its snapshot is taken. -/
structure TimedCall where
  now : Int
  orders : MapOrders
  call : StoreCall

/-- A store, the last snapshot given to its persister, and the successes it reported. -/
structure Persisted where
  store : FullStore := {}
  saved : Option Snapshot := none
  returned : List Bool := []

/-- One critical section: the call and, if it succeeds, `persistLocked`. -/
def Persisted.step (st : Persisted) (op : TimedCall) : Persisted :=
  let (store, found) := st.store.mutate op.now op.call
  { store := store
    saved := if found then some (store.snapshot op.orders) else st.saved
    returned := st.returned ++ [found] }

/-- How many calls succeeded. -/
def Persisted.successes (st : Persisted) : Nat := st.returned.count true

/-- What holds along a run: the version and the audit log count the successes, the tables
are keyed, and the saved snapshot is of the store as it is. -/
structure Persisted.Recorded (st : Persisted) : Prop where
  version : st.store.version = .ofNat st.successes
  audit : st.store.audit.map AuditEntry.version =
    (List.range st.successes).map fun i => Int64.ofNat (i + 1)
  consistent : st.store.Consistent
  saved : load st.saved = { st.store with policies := GoMap.filterKeys (· ≠ "") st.store.policies }

theorem Persisted.Recorded.start : Persisted.Recorded {} where
  version := rfl
  audit := rfl
  consistent := FullStore.Consistent.empty
  saved := by
    have empty : GoMap.filterKeys (· ≠ "") (∅ : GoMap String Policy) = ∅ := by
      refine Finmap.ext_lookup fun id => ?_
      rw [GoMap.lookup_filterKeys, Finmap.lookup_empty, ite_self]
    unfold load
    rw [empty]

theorem Persisted.Recorded.step {st : Persisted} (recorded : st.Recorded) {op : TimedCall}
    (keeps : op.call.KeepsID) : (st.step op).Recorded := by
  have consistent := recorded.consistent.mutate op.now keeps
  rcases st.store.mutate_cases op.now op.call with same | ⟨found, version, a, stamped, audit⟩
  · have count : (st.step op).successes = st.successes := by
      simp [Persisted.step, successes, same]
    have store : (st.step op).store = st.store := by simp [Persisted.step, same]
    have saved : (st.step op).saved = st.saved := by simp [Persisted.step, same]
    exact ⟨by rw [count, store, recorded.version], by rw [count, store, recorded.audit],
      by rw [store]; exact recorded.consistent, by rw [saved, store, recorded.saved]⟩
  · have count : (st.step op).successes = st.successes + 1 := by
      simp [Persisted.step, successes, found]
    have store : (st.step op).store = (st.store.mutate op.now op.call).1 := rfl
    have next : (Int64.ofNat (st.successes + 1)) = Int64.ofNat st.successes + 1 :=
      Int64.ofNat_add _ _
    refine ⟨?_, ?_, ?_, ?_⟩
    · rw [count, store, version, recorded.version, next]
    · rw [count, store, audit, List.map_append, recorded.audit, List.range_succ, List.map_append,
        List.map_singleton, List.map_singleton, stamped, version, recorded.version, next]
    · rw [store]
      exact consistent
    · have saved : (st.step op).saved = some ((st.step op).store.snapshot op.orders) := by
        simp [Persisted.step, found]
      rw [saved]
      exact FullStore.applySnapshot_snapshot consistent op.orders

theorem Persisted.Recorded.run {ops : List TimedCall} (keeps : ∀ op ∈ ops, op.call.KeepsID) :
    (Run.run Persisted.step {} ops).Recorded := by
  have each : Run.EachStep Persisted.step (fun _ op => op.call.KeepsID) {} ops :=
    Run.eachStep_forall.mpr keeps
  have kept : ∀ st op, op.call.KeepsID → Persisted.Recorded st → (st.step op).Recorded :=
    fun _ _ keeps recorded => recorded.step keeps
  exact Run.run_invariant kept Persisted.Recorded.start each

/-- Along every run from an empty store: the version counts the calls that succeeded, the
audit entries number them, a call that reports not found changes nothing, and a fresh store
loaded from the last snapshot reads the same. -/
theorem history_persisted (ops : List TimedCall) (keeps : ∀ op ∈ ops, op.call.KeepsID) :
    let st := Run.run Persisted.step {} ops
    st.store.version = .ofNat st.successes ∧
      st.store.audit.map AuditEntry.version =
        (List.range st.successes).map (fun i => Int64.ofNat (i + 1)) ∧
      (∀ now call, (st.store.mutate now call).2 = false →
        (st.store.mutate now call).1 = st.store) ∧
      st.store.SameView (load st.saved) := by
  have recorded := Persisted.Recorded.run keeps
  refine ⟨recorded.version, recorded.audit, fun now call => FullStore.mutate_notFound, ?_⟩
  rw [recorded.saved]
  exact FullStore.sameView_filterKeys recorded.consistent

/-- A cluster is stored and patched, a missing engine is removed in between, and a rule without
an id is stored last. -/
def clusterCalls : List StoreCall :=
  [.upsertCluster { clusterID := "c" }, .removeEngine "e",
    .patchCluster "c" fun c => { c with maintenanceMode := true }, .upsertPolicy { ruleID := "" }]

theorem clusterCalls_persisted :
    let st := Run.run Persisted.step {} (clusterCalls.map fun call => ⟨0, default, call⟩)
    st.store.version = .ofNat st.successes ∧
      st.store.audit.map AuditEntry.version =
        (List.range st.successes).map (fun i => Int64.ofNat (i + 1)) ∧
      (∀ now call, (st.store.mutate now call).2 = false →
        (st.store.mutate now call).1 = st.store) ∧
      st.store.SameView (load st.saved) := by
  refine history_persisted (clusterCalls.map fun call => ⟨0, default, call⟩) fun op member => ?_
  obtain ⟨call, inCalls, rfl⟩ := List.mem_map.mp member
  simp only [clusterCalls, List.mem_cons, List.not_mem_nil, or_false] at inCalls
  rcases inCalls with rfl | rfl | rfl | rfl
  · trivial
  · trivial
  · exact fun _ => rfl
  · trivial

end KvIndexer.Config
