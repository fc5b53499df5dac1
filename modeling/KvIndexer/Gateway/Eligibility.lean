import KvIndexer.Config.Persistence
import KvIndexer.Gateway.Aliases

/-!
The engines the gateway takes for eligible.

For a request it tokenizes itself the gateway selects engines from the lists of the
backend, by the requested name or the model id of the resolved profile
(`enginesForProfile`). The backend asks for the requested name alone, and for an open
cluster. `sameEngines_iff` says for which stores the two selections are one.
-/

namespace KvIndexer.Gateway

open Config

/-- `enginesForProfile`, over the listed engines -/
def enginesForProfile (engines : List Engine) (requestModel : String) (prof : ModelProfile) :
    List Engine :=
  engines.filter fun e =>
    e.enabled && !e.draining &&
      e.servedModels.any fun m => decide (m = requestModel) || decide (m = prof.modelID)

/-- The engine's cluster is enabled and not in maintenance, or not known. -/
def InOpenCluster (s : FullStore) (e : Engine) : Prop :=
  ∀ c, s.clusters.lookup e.clusterID = some c → c.enabled = true ∧ c.maintenanceMode = false

/-- The store tells the gateway what it uses itself: an engine that can serve the name is in
an open cluster, and one that serves the profile's model id serves the requested name. -/
def TellsAll (s : FullStore) (model : String) (prof : ModelProfile) : Prop :=
  ∀ id e, s.engines.lookup id = some e → e.enabled = true → e.draining = false →
    (model ∈ e.servedModels → InOpenCluster s e) ∧
      (prof.modelID ∈ e.servedModels → model ∈ e.servedModels)

section Store

variable {s : FullStore} {model : String} {prof : ModelProfile}

theorem eligible_iff {e : Engine} :
    s.eligible e = true ↔ e.enabled = true ∧ e.draining = false ∧ InOpenCluster s e := by
  unfold FullStore.eligible InOpenCluster
  cases s.clusters.lookup e.clusterID with
  | none => simp
  | some c => simp [and_assoc]

/-- What the backend selects. -/
theorem mem_enginesForModel {orders : MapOrders} {e : Engine} :
    e ∈ s.enginesForModel orders model ↔
      (∃ id, s.engines.lookup id = some e) ∧
        e.enabled = true ∧ e.draining = false ∧ InOpenCluster s e ∧ model ∈ e.servedModels := by
  rw [FullStore.enginesForModel, SortSlice.mem_sort, List.mem_filter, GoMap.Order.mem_values,
    Bool.and_eq_true, eligible_iff, decide_eq_true_eq, and_assoc, and_assoc]

/-- What the gateway selects. -/
theorem mem_enginesForProfile {orders : MapOrders} {e : Engine} :
    e ∈ enginesForProfile (s.listEngines orders) model prof ↔
      (∃ id, s.engines.lookup id = some e) ∧
        e.enabled = true ∧ e.draining = false ∧
          (model ∈ e.servedModels ∨ prof.modelID ∈ e.servedModels) := by
  rw [enginesForProfile, List.mem_filter, FullStore.listEngines, SortSlice.mem_sort,
    GoMap.Order.mem_values]
  simp only [Bool.and_eq_true, Bool.not_eq_true', List.any_eq_true, Bool.or_eq_true,
    decide_eq_true_eq, and_assoc, and_or_left, exists_or, exists_eq_right]

/-- Both lists are in the order of the engine ids, so their members tell them apart. -/
theorem sameEngines_of_mem (consistent : s.Consistent) {orders orders' : MapOrders}
    (members : ∀ e, e ∈ enginesForProfile (s.listEngines orders) model prof ↔
      e ∈ s.enginesForModel orders' model) :
    enginesForProfile (s.listEngines orders) model prof = s.enginesForModel orders' model := by
  have keyed := consistent.engines
  refine SortSlice.eq_of_mem_iff (fun _ _ => rfl)
    (((sortByID Engine.engineID).sorted _).filter _) ((sortByID Engine.engineID).sorted _)
    ?_ ?_ ?_ members
  · refine List.Nodup.filter _ (List.Perm.nodup_iff ((sortByID Engine.engineID).perm _) |>.mpr ?_)
    exact keyed.nodup_values (orders.engines s.engines)
  · refine List.Perm.nodup_iff ((sortByID Engine.engineID).perm _) |>.mpr ?_
    exact (keyed.nodup_values (orders'.engines s.engines)).filter _
  · intro e inList e' inList' same
    obtain ⟨⟨id, found⟩, -⟩ := mem_enginesForProfile.mp inList
    obtain ⟨⟨id', found'⟩, -⟩ := mem_enginesForProfile.mp inList'
    have one : id = id' := by rw [← keyed id e found, ← keyed id' e' found', same]
    exact Option.some.inj ((one ▸ found).symm.trans found')

/-- The gateway and the backend select the same engines exactly when what the gateway is
told decides. -/
theorem sameEngines_iff (consistent : s.Consistent) (orders orders' : MapOrders) :
    enginesForProfile (s.listEngines orders) model prof = s.enginesForModel orders' model ↔
      TellsAll s model prof := by
  constructor
  · intro same id e stored enabled active
    have selected : e ∈ enginesForProfile (s.listEngines orders) model prof ↔
        e ∈ s.enginesForModel orders' model := by rw [same]
    rw [mem_enginesForProfile, mem_enginesForModel] at selected
    have eligible (serves : model ∈ e.servedModels ∨ prof.modelID ∈ e.servedModels) :=
      (selected.mp ⟨⟨id, stored⟩, enabled, active, serves⟩).2.2.2
    exact ⟨fun serves => (eligible (Or.inl serves)).1, fun serves => (eligible (Or.inr serves)).2⟩
  · intro tells
    refine sameEngines_of_mem consistent fun e => ?_
    rw [mem_enginesForProfile, mem_enginesForModel]
    refine and_congr_right fun ⟨id, stored⟩ => and_congr_right fun enabled =>
      and_congr_right fun active => ?_
    obtain ⟨inOpen, byName⟩ := tells id e stored enabled active
    constructor
    · intro serves
      have asked : model ∈ e.servedModels := serves.elim (fun named => named) byName
      exact ⟨inOpen asked, asked⟩
    · exact fun serves => Or.inl serves.2

end Store

/-- The selection of the gateway from the lists of a backend, if it finds a profile. -/
def gatewayEngines (orders : MapOrders) (s : FullStore) (model : String) : Option (List Engine) :=
  (resolveProfile (s.listModelProfiles orders) model).map
    (enginesForProfile (s.listEngines orders) model)

/-- Wherever the gateway selects engines at all. -/
theorem gatewayEngines_iff (s : FullStore) (consistent : s.Consistent)
    (orders orders' : MapOrders) (model : String) :
    (∀ engines ∈ gatewayEngines orders s model, engines = s.enginesForModel orders' model) ↔
      ∀ prof, resolveProfile (s.listModelProfiles orders) model = some prof →
        TellsAll s model prof := by
  unfold gatewayEngines
  cases resolveProfile (s.listModelProfiles orders) model with
  | none => simp
  | some found =>
      simp only [Option.map_some, Option.mem_def, Option.some.injEq, forall_eq']
      exact sameEngines_iff consistent orders orders'

/-- A cluster with one engine, in service or not. -/
def oneEngine : Engine :=
  { engineID := "e", clusterID := "c", servedModels := ["m"], enabled := true }

def oneEngineStore (enabled : Bool) : FullStore :=
  ((({} : FullStore).upsertCluster 0 { clusterID := "c", enabled := enabled }).upsertEngine 1
    oneEngine).upsertModelProfile 2 { modelID := "m" }

theorem oneEngineStore_consistent (enabled : Bool) : (oneEngineStore enabled).Consistent := by
  have cluster : StoreCall.KeepsID (.upsertCluster { clusterID := "c", enabled := enabled }) :=
    trivial
  have engine : StoreCall.KeepsID (.upsertEngine oneEngine) := trivial
  have profile : StoreCall.KeepsID (.upsertModelProfile { modelID := "m" }) := trivial
  exact ((FullStore.Consistent.empty.mutate 0 cluster).mutate 1 engine).mutate 2 profile

theorem oneEngineStore_tells (prof : ModelProfile) : TellsAll (oneEngineStore true) "m" prof := by
  intro id e stored _ _
  have only : (oneEngineStore true).engines.lookup id = if id = "e" then some oneEngine else none :=
    GoMap.lookup_insert_eq "e" id oneEngine ∅
  rw [only] at stored
  split at stored
  · cases stored
    refine ⟨fun _ c known => ?_, fun _ => List.mem_singleton_self "m"⟩
    cases known
    exact ⟨rfl, rfl⟩
  · cases stored

theorem gatewayEngines_oneEngineStore (enabled : Bool) :
    gatewayEngines default (oneEngineStore enabled) "m" =
      some (enginesForProfile ((oneEngineStore enabled).listEngines default) "m"
        (storedProfile none { modelID := "m" })) := by
  have resolved : resolveProfile ((oneEngineStore enabled).listModelProfiles default) "m" =
      some (storedProfile none { modelID := "m" }) :=
    resolveProfile_of_modelID (oneEngineStore_consistent enabled).profiles default rfl
  rw [gatewayEngines, resolved]
  rfl

/-- In service, it is the selection of both. -/
theorem gatewayEngines_open :
    gatewayEngines default (oneEngineStore true) "m" =
      some ((oneEngineStore true).enginesForModel default "m") := by
  have same := (gatewayEngines_iff _ (oneEngineStore_consistent true) default default "m").mpr
    fun prof _ => oneEngineStore_tells prof
  have selected := gatewayEngines_oneEngineStore true
  rw [selected, same _ selected]

/-- Taken out of service, it is still a selection of the gateway. -/
theorem not_gatewayEngines : ¬ ∀ s orders orders' model, s.Consistent →
    ∀ engines ∈ gatewayEngines orders s model, engines = s.enginesForModel orders' model := by
  intro same
  have consistent := oneEngineStore_consistent false
  have engines := same (oneEngineStore false) default default "m" consistent _
    (gatewayEngines_oneEngineStore false)
  have tells := (sameEngines_iff consistent default default).mp engines
  have inService := (tells "e" oneEngine rfl rfl rfl).1 (List.mem_singleton_self "m")
  exact nomatch (inService { clusterID := "c", enabled := false } rfl).1

end KvIndexer.Gateway
