import KvIndexer.Config.Policy
import KvIndexer.Config.Store
import KvIndexer.Lib.Keyed

/-!
The whole configuration store (`internal/config/store.go`): the model profiles with the
clusters, engines and policies.

Each mutator is one critical section of the store's mutex. A successful one changes one
table, bumps the version and hands a snapshot to the persister; the snapshot lists the
tables in the order of the ranges over them. `applySnapshot` reads the tables back.
-/

namespace KvIndexer.Config

/-- A placement boundary. Labels are left out. -/
structure Cluster where
  clusterID : String
  displayName : String := ""
  region : String := ""
  environment : String := ""
  enabled : Bool := false
  maintenanceMode : Bool := false
deriving DecidableEq, Repr

/-- The in-memory store with all its tables. -/
structure FullStore extends Store where
  clusters : GoMap String Cluster := ∅
  engines : GoMap String Engine := ∅
  policies : GoMap String Policy := ∅

namespace FullStore

/-- `bump` at time `now` -/
def bump (now : Int) (s : FullStore) (a : AuditEntry) : FullStore :=
  { s with toStore := s.toStore.bump now a }

/-! ### Mutators -/

def upsertCluster (now : Int) (s : FullStore) (c : Cluster) : FullStore :=
  { s with clusters := s.clusters.insert c.clusterID c }.bump now
    { action := "upsert", entity := "cluster", entityID := c.clusterID }

/-- Apply `fn` to a stored cluster. False if there is none. -/
def patchCluster (now : Int) (s : FullStore) (id : String) (fn : Cluster → Cluster) :
    FullStore × Bool :=
  match s.clusters.lookup id with
  | none => (s, false)
  | some c =>
      ({ s with clusters := s.clusters.insert id (fn c) }.bump now
        { action := "patch", entity := "cluster", entityID := id }, true)

def upsertEngine (now : Int) (s : FullStore) (e : Engine) : FullStore :=
  { s with engines := s.engines.insert e.engineID e }.bump now
    { action := "upsert", entity := "engine", entityID := e.engineID }

def removeEngine (now : Int) (s : FullStore) (id : String) : FullStore × Bool :=
  match s.engines.lookup id with
  | none => (s, false)
  | some _ =>
      ({ s with engines := s.engines.erase id }.bump now
        { action := "remove", entity := "engine", entityID := id }, true)

def patchEngine (now : Int) (s : FullStore) (id : String) (fn : Engine → Engine) :
    FullStore × Bool :=
  match s.engines.lookup id with
  | none => (s, false)
  | some e =>
      ({ s with engines := s.engines.insert id (fn e) }.bump now
        { action := "patch", entity := "engine", entityID := id }, true)

def upsertModelProfile (now : Int) (s : FullStore) (p : ModelProfile) : FullStore :=
  { s with toStore := (s.toStore.upsertModelProfile now p).1 }

def removeModelProfile (now : Int) (s : FullStore) (id : String) : FullStore × Bool :=
  ({ s with toStore := (s.toStore.removeModelProfile now id).1 },
    (s.toStore.removeModelProfile now id).2)

def upsertPolicy (now : Int) (s : FullStore) (p : Policy) : FullStore :=
  { s with policies := s.policies.insert p.ruleID p }.bump now
    { action := "upsert", entity := "policy", entityID := p.ruleID }

def removePolicy (now : Int) (s : FullStore) (id : String) : FullStore × Bool :=
  match s.policies.lookup id with
  | none => (s, false)
  | some _ =>
      ({ s with policies := s.policies.erase id }.bump now
        { action := "remove", entity := "policy", entityID := id }, true)

def patchPolicy (now : Int) (s : FullStore) (id : String) (fn : Policy → Policy) :
    FullStore × Bool :=
  match s.policies.lookup id with
  | none => (s, false)
  | some p =>
      ({ s with policies := s.policies.insert id (fn p) }.bump now
        { action := "patch", entity := "policy", entityID := id }, true)

theorem lookup_removePolicy (now : Int) (s : FullStore) (id id' : String) :
    (s.removePolicy now id).1.policies.lookup id' =
      if id' = id then none else s.policies.lookup id' := by
  unfold removePolicy
  cases found : s.policies.lookup id with
  | none =>
      dsimp only
      split
      · rename_i same
        rw [same, found]
      · rfl
  | some p =>
      dsimp only [bump]
      rw [GoMap.lookup_erase_eq]

end FullStore

/-! ### Reading -/

/-- The sort of the lists, by the id of their entries. -/
def sortByID {α : Type} (id : α → String) : SortSlice fun a b => decide (id a < id b) :=
  @SortSlice.byKey α String _ _ id fun _ _ => rfl

/-- Orders of the ranges over the tables, one for each table. -/
structure MapOrders where
  clusters : GoMap.Orders String Cluster
  engines : GoMap.Orders String Engine
  profiles : GoMap.Orders String ModelProfile
  policies : GoMap.Orders String Policy

noncomputable instance : Inhabited MapOrders := ⟨⟨default, default, default, default⟩⟩

namespace FullStore

variable (orders : MapOrders) (s : FullStore)

def listClusters : List Cluster :=
  (sortByID Cluster.clusterID).sort (orders.clusters s.clusters).values

def listEngines : List Engine :=
  (sortByID Engine.engineID).sort (orders.engines s.engines).values

def getEngine (id : String) : Option Engine := s.engines.lookup id

/-- Enabled and not draining, in a cluster that is enabled and not in maintenance. -/
def eligible (e : Engine) : Bool :=
  e.enabled && !e.draining &&
    match s.clusters.lookup e.clusterID with
    | some c => c.enabled && !c.maintenanceMode
    | none => true

/-- The eligible engines that serve the model. -/
def enginesForModel (model : String) : List Engine :=
  (sortByID Engine.engineID).sort <|
    (orders.engines s.engines).values.filter fun e => s.eligible e && model ∈ e.servedModels

def listModelProfiles : List ModelProfile :=
  (sortByID ModelProfile.modelID).sort (orders.profiles s.profiles).values

/-- Rules without an id are not listed. -/
def listPolicies : List Policy :=
  policySort.sort ((orders.policies s.policies).values.filter fun p => p.ruleID ≠ "")

theorem listPolicies_empty {s : FullStore} (none : s.policies = ∅) :
    s.listPolicies orders = [] := by
  unfold listPolicies
  rw [none, GoMap.values_empty]
  exact policySort.sort_nil

theorem listPolicies_singleton {s : FullStore} {id : String} {rule : Policy}
    (one : s.policies = Finmap.singleton id rule) (named : rule.ruleID ≠ "") :
    s.listPolicies orders = [rule] := by
  unfold listPolicies
  rw [one, GoMap.values_singleton, List.filter_singleton, decide_eq_true named]
  exact policySort.sort_singleton rule

theorem enginesForModel_empty {s : FullStore} (none : s.engines = ∅) (model : String) :
    s.enginesForModel orders model = [] := by
  unfold enginesForModel
  rw [none, GoMap.values_empty]
  exact (sortByID Engine.engineID).sort_nil

/-- Of one engine, it selects that one or none. -/
theorem enginesForModel_singleton {s : FullStore} {id model : String} {e : Engine}
    (one : s.engines = Finmap.singleton id e) :
    s.enginesForModel orders model =
      if s.eligible e && model ∈ e.servedModels then [e] else [] := by
  unfold enginesForModel
  rw [one, GoMap.values_singleton, List.filter_singleton]
  cases s.eligible e && decide (model ∈ e.servedModels) with
  | true => exact (sortByID Engine.engineID).sort_singleton e
  | false => exact (sortByID Engine.engineID).sort_nil

/-- The listed rules have distinct ids. -/
theorem distinct_listPolicies {s : FullStore} (keyed : s.policies.Keyed Policy.ruleID) :
    ((s.listPolicies orders).map Policy.ruleID).Nodup := by
  refine ((policySort.perm _).map Policy.ruleID).nodup_iff.mpr ?_
  exact (keyed.nodup_keys (orders.policies s.policies)).sublist
    (List.filter_sublist.map Policy.ruleID)

end FullStore

/-! ### Persistence -/

/-- The full serializable configuration. -/
structure Snapshot where
  version : Int64 := 0
  clusters : List Cluster := []
  engines : List Engine := []
  profiles : List ModelProfile := []
  policies : List Policy := []
  audit : List AuditEntry := []

/-- `snapshotLocked` -/
def FullStore.snapshot (orders : MapOrders) (s : FullStore) : Snapshot where
  version := s.version
  clusters := (orders.clusters s.clusters).values
  engines := (orders.engines s.engines).values
  profiles := (orders.profiles s.profiles).values
  policies := (orders.policies s.policies).values
  audit := s.audit

/-- The store a snapshot stands for. -/
def applySnapshot (snap : Snapshot) : FullStore where
  version := snap.version
  audit := snap.audit
  clusters := GoMap.ofValues Cluster.clusterID snap.clusters
  engines := GoMap.ofValues Engine.engineID snap.engines
  profiles := GoMap.ofValues ModelProfile.modelID (snap.profiles.map normalizeModelProfile)
  policies := GoMap.ofValues Policy.ruleID (snap.policies.filter fun p => p.ruleID ≠ "")

/-- `Load` into an empty store. -/
def load : Option Snapshot → FullStore
  | none => {}
  | some snap => applySnapshot snap

end KvIndexer.Config
