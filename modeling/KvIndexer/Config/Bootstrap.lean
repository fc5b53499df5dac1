import KvIndexer.Admission.Rules
import KvIndexer.Config.Persistence

/-!
The bootstrap document (`internal/config/bootstrap.go`).

`flattenNested` moves what the clusters nest into the flat lists, so that a model keeps no
trace of its cluster. Seeding a store for one cluster then selects the profiles again by
the models that its engines serve and upserts them in order: the last definition of a model
id in the whole document is the one stored (`settings_seed`), whichever cluster it is from.
`faithful_iff` says when that is the cluster's own.
-/

namespace KvIndexer.Config

open Admission (Platform sprint)

structure BootstrapEngine where
  engineID : String
  clusterID : String := ""
  framework : String := ""
  apiEndpoint : String := ""
  tokenizerEndpoint : String := ""
  kvEventEndpoint : String := ""
  replayEndpoint : String := ""
  topic : String := ""
  servedModels : List String := []
  dpRanks : Int64 := 0
  maxNumSeqs : Int64 := 0
  maxModelLen : Int64 := 0

structure BootstrapProfile where
  modelID : String
  framework : String := ""
  hashProfile : String := ""
  blockSize : Int64 := 0
  hashSeed : String := ""
  tokenizerEndpoint : String := ""
  tokenizerMode : String := ""
  chatTemplateSHA256 : String := ""

structure BootstrapPolicy where
  ruleID : String
  name : String := ""
  priority : Int64 := 0
  conditions : List RuleCondition := []
  action : RuleAction := {}
  enabled : Option Bool := none

/-- A cluster with the engines and models nested in it. The gateway's backends are left
out. -/
structure BootstrapCluster where
  clusterID : String := ""
  displayName : String := ""
  region : String := ""
  environment : String := ""
  enabled : Option Bool := none
  framework : String := ""
  engines : List BootstrapEngine := []
  models : List BootstrapProfile := []

structure Bootstrap where
  /-- the legacy form of a single cluster -/
  cluster : BootstrapCluster := {}
  clusters : List BootstrapCluster := []
  engines : List BootstrapEngine := []
  profiles : List BootstrapProfile := []
  policies : List BootstrapPolicy := []

/-! ### Flattening -/

/-- An engine nested in the cluster, with what it inherits. -/
def BootstrapCluster.inheritEngine (c : BootstrapCluster) (e : BootstrapEngine) :
    BootstrapEngine :=
  { e with
    clusterID := if e.clusterID = "" then c.clusterID else e.clusterID
    framework := if e.framework = "" then c.framework else e.framework }

/-- A model nested in the cluster, with what it inherits. -/
def BootstrapCluster.inheritModel (c : BootstrapCluster) (m : BootstrapProfile) :
    BootstrapProfile :=
  let m := if m.framework = "" then { m with framework := c.framework } else m
  if m.hashProfile = "" ∧ m.framework ≠ "" then
    { m with hashProfile := m.framework ++ "-v1-text" }
  else m

/-- The clusters in the order in which they are flattened. -/
def Bootstrap.nesting (bs : Bootstrap) : List BootstrapCluster := bs.clusters ++ [bs.cluster]

/-- `flattenNested` -/
def Bootstrap.flattenNested (bs : Bootstrap) : Bootstrap where
  cluster := { bs.cluster with engines := [], models := [] }
  clusters := bs.clusters.map fun c => { c with engines := [], models := [] }
  engines := bs.engines ++ bs.nesting.flatMap fun c => c.engines.map c.inheritEngine
  profiles := bs.profiles ++ bs.nesting.flatMap fun c => c.models.map c.inheritModel
  policies := bs.policies

/-- The clusters with an id, each id once. -/
def distinctClusters (seen : List String) : List BootstrapCluster → List BootstrapCluster
  | [] => []
  | c :: cs =>
      if c.clusterID = "" ∨ c.clusterID ∈ seen then distinctClusters seen cs
      else c :: distinctClusters (c.clusterID :: seen) cs

/-- `AllClusters` -/
def Bootstrap.allClusters (bs : Bootstrap) : List BootstrapCluster :=
  let out := distinctClusters [] bs.clusters
  if bs.cluster.clusterID ≠ "" ∧ bs.cluster.clusterID ∉ out.map BootstrapCluster.clusterID then
    out ++ [bs.cluster]
  else out

/-! ### Scoping of policies -/

section Scope

variable (platform : Platform)

def valueList : Value → List Value
  | .list values => values
  | v => [v]

def conditionExcludesString (c : RuleCondition) (value : String) : Bool :=
  if c.op = ConditionOpEq then sprint platform c.value ≠ value
  else if c.op = ConditionOpIn then
    !(valueList c.value).any fun v => sprint platform v = value
  else false

def conditionExcludesServedModel (c : RuleCondition) (servedModels : List String) : Bool :=
  if c.op = ConditionOpEq then sprint platform c.value ∉ servedModels
  else if c.op = ConditionOpIn then
    !(valueList c.value).any fun v => sprint platform v ∈ servedModels
  else false

def policyInScope (p : BootstrapPolicy) (clusterID : String) (servedModels : List String) : Bool :=
  p.conditions.all fun c =>
    if c.field = ConditionFieldClusterID then !conditionExcludesString platform c clusterID
    else if c.field = ConditionFieldModelID then
      !conditionExcludesServedModel platform c servedModels
    else true

end Scope

/-! ### Seeding -/

def BootstrapCluster.toCluster (c : BootstrapCluster) : Cluster where
  clusterID := c.clusterID
  displayName := c.displayName
  region := c.region
  environment := c.environment
  enabled := c.enabled.getD true

def BootstrapEngine.toEngine (e : BootstrapEngine) : Engine where
  engineID := e.engineID
  clusterID := e.clusterID
  framework := e.framework
  apiEndpoint := e.apiEndpoint
  tokenizerEndpoint := e.tokenizerEndpoint
  kvEventEndpoint := e.kvEventEndpoint
  replayEndpoint := e.replayEndpoint
  topic := e.topic
  servedModels := e.servedModels
  dpRanks := e.dpRanks
  maxNumSeqs := e.maxNumSeqs
  maxModelLen := e.maxModelLen
  healthy := true
  enabled := true

def BootstrapProfile.toModelProfile (p : BootstrapProfile) : ModelProfile where
  modelID := p.modelID
  framework := p.framework
  hashProfile := p.hashProfile
  blockSize := p.blockSize
  hashSeed := p.hashSeed
  tokenizerEndpoint := p.tokenizerEndpoint
  tokenizerMode := p.tokenizerMode
  chatTemplateSHA256 := p.chatTemplateSHA256

def BootstrapPolicy.toPolicy (p : BootstrapPolicy) : Policy where
  ruleID := p.ruleID
  name := p.name
  priority := p.priority
  conditions := p.conditions
  action := p.action
  enabled := p.enabled

namespace Bootstrap

variable (platform : Platform) (bs : Bootstrap) (clusterID : String)

/-- The engines to seed; all of them without a scope. -/
def scopedEngines : List BootstrapEngine :=
  bs.engines.filter fun e => clusterID = "" || e.clusterID = clusterID

/-- The models they serve. -/
def servedModels : List String :=
  (bs.scopedEngines clusterID).flatMap BootstrapEngine.servedModels

def scopedProfiles : List BootstrapProfile :=
  bs.profiles.filter fun p => clusterID = "" || p.modelID ∈ bs.servedModels clusterID

/-- The upserts that seed a store, in order. -/
def seedCalls : List StoreCall :=
  ((bs.allClusters.filter fun c => clusterID = "" || c.clusterID = clusterID).map fun c =>
      .upsertCluster c.toCluster) ++
    (bs.scopedEngines clusterID).map (fun e => .upsertEngine e.toEngine) ++
    (bs.scopedProfiles clusterID).map (fun p => .upsertModelProfile p.toModelProfile) ++
    (bs.policies.filter fun p =>
        clusterID = "" || policyInScope platform p clusterID (bs.servedModels clusterID)).map
      fun p => .upsertPolicy p.toPolicy

end Bootstrap

/-- Calls one after the other; `clock` gives the time of each. -/
def FullStore.seed (clock : Nat → Int) : List StoreCall → FullStore → FullStore
  | [], s => s
  | call :: calls, s => FullStore.seed (fun i => clock (i + 1)) calls (s.mutate (clock 0) call).1

/-- `ApplyBootstrapForCluster`; false if the store is not empty. -/
def FullStore.applyBootstrapForCluster (platform : Platform) (clock : Nat → Int) (s : FullStore)
    (bs : Bootstrap) (clusterID : String) : FullStore × Bool :=
  if s.version ≠ 0 then (s, false)
  else (s.seed clock (bs.seedCalls platform clusterID), true)

/-! ### What is stored -/

/-- Framework, block size, hash profile and seed. -/
abbrev Settings := Framework × Int64 × String × String

def ModelProfile.settings (p : ModelProfile) : Settings :=
  (p.framework, p.blockSize, p.hashProfile, p.hashSeed)

def BootstrapProfile.settings (p : BootstrapProfile) : Settings :=
  (p.framework, p.blockSize, p.hashProfile, p.hashSeed)

theorem settings_storedProfile (old : Option ModelProfile) (p : ModelProfile) :
    (storedProfile old p).settings = p.settings := by
  obtain ⟨v, same⟩ := applyVersionRule_eq old (normalizeModelProfile p)
  rw [storedProfile, same]
  unfold normalizeModelProfile
  split
  · rfl
  · rfl

/-- The profile a call upserts. -/
def StoreCall.profile? : StoreCall → Option ModelProfile
  | upsertModelProfile p => some p
  | _ => none

/-- The calls that seeding makes. -/
def StoreCall.Upserts : StoreCall → Prop
  | upsertCluster _ => True
  | upsertEngine _ => True
  | upsertModelProfile _ => True
  | upsertPolicy _ => True
  | _ => False

/-- The settings one upsert leaves under a model id. -/
theorem settings_mutate (now : Int) (s : FullStore) {call : StoreCall} (upserts : call.Upserts)
    (id : String) :
    ((s.mutate now call).1.profiles.lookup id).map ModelProfile.settings =
      ((call.profile?.toList.find? fun p => p.modelID = id).or (s.profiles.lookup id)).map
        ModelProfile.settings := by
  cases call with
  | upsertModelProfile p =>
      have stored : (s.mutate now (.upsertModelProfile p)).1.profiles.lookup id =
          if id = p.modelID then some (storedProfile (s.profiles.lookup p.modelID) p)
          else s.profiles.lookup id := s.toStore.lookup_upsertModelProfile now p id
      rw [stored, StoreCall.profile?, Option.toList_some]
      by_cases same : id = p.modelID
      · rw [if_pos same, List.find?_cons_of_pos (by simp [same]), Option.some_or, Option.map_some,
          Option.map_some, settings_storedProfile]
      · rw [if_neg same, List.find?_cons_of_neg (by simp [Ne.symm same]), List.find?_nil,
          Option.none_or]
  | upsertCluster _ => rfl
  | upsertEngine _ => rfl
  | upsertPolicy _ => rfl
  | patchCluster _ _ => exact upserts.elim
  | removeEngine _ => exact upserts.elim
  | patchEngine _ _ => exact upserts.elim
  | removeModelProfile _ => exact upserts.elim
  | removePolicy _ => exact upserts.elim
  | patchPolicy _ _ => exact upserts.elim

/-- After seeding, a model has the settings of its last upsert. -/
theorem settings_seed {calls : List StoreCall} (upserts : ∀ call ∈ calls, call.Upserts)
    (clock : Nat → Int) (s : FullStore) (id : String) :
    ((s.seed clock calls).profiles.lookup id).map ModelProfile.settings =
      (((calls.filterMap StoreCall.profile?).reverse.find? fun p => p.modelID = id).or
        (s.profiles.lookup id)).map ModelProfile.settings := by
  induction calls generalizing clock s with
  | nil => rfl
  | cons call calls ih =>
      have first := settings_mutate (clock 0) s (upserts call List.mem_cons_self) id
      have rest := ih (fun c member => upserts c (List.mem_cons_of_mem call member))
        (fun i => clock (i + 1)) (s.mutate (clock 0) call).1
      have split : (call :: calls).filterMap StoreCall.profile? =
          call.profile?.toList ++ calls.filterMap StoreCall.profile? := by
        rw [List.filterMap_cons]
        cases call.profile? with
        | none => rfl
        | some p => rfl
      rw [split, List.reverse_append, List.find?_append, Option.or_assoc, FullStore.seed, rest]
      cases (calls.filterMap StoreCall.profile?).reverse.find? fun p => decide (p.modelID = id) with
      | some p => rfl
      | none =>
          have alone : call.profile?.toList.reverse = call.profile?.toList := by
            cases call.profile? with
            | none => rfl
            | some p => rfl
          rw [Option.none_or, Option.none_or, first, alone]

namespace Bootstrap

variable (platform : Platform) (bs : Bootstrap) (clusterID : String)

theorem upserts_seedCalls : ∀ call ∈ bs.seedCalls platform clusterID, call.Upserts := by
  intro call member
  simp only [seedCalls, List.mem_append, List.mem_map] at member
  rcases member with ((⟨_, -, rfl⟩ | ⟨_, -, rfl⟩) | ⟨_, -, rfl⟩) | ⟨_, -, rfl⟩
  · trivial
  · trivial
  · trivial
  · trivial

/-- Seeding upserts the profiles in scope, in order. -/
theorem profiles_seedCalls :
    (bs.seedCalls platform clusterID).filterMap StoreCall.profile? =
      (bs.scopedProfiles clusterID).map BootstrapProfile.toModelProfile := by
  have none : ∀ {α : Type} (f : α → StoreCall) (xs : List α), (∀ x, (f x).profile? = none) →
      (xs.map f).filterMap StoreCall.profile? = [] := by
    intro α f xs never
    rw [List.filterMap_map]
    exact List.filterMap_eq_nil_iff.mpr fun x _ => never x
  have clusters := none fun c : BootstrapCluster => .upsertCluster c.toCluster
  have engines := none fun e : BootstrapEngine => .upsertEngine e.toEngine
  have policies := none fun p : BootstrapPolicy => .upsertPolicy p.toPolicy
  have profiles : ∀ ps : List BootstrapProfile,
      (ps.map fun p => StoreCall.upsertModelProfile p.toModelProfile).filterMap
        StoreCall.profile? = ps.map BootstrapProfile.toModelProfile := by
    intro ps
    rw [List.filterMap_map, ← List.filterMap_eq_map]
    rfl
  unfold seedCalls
  rw [List.filterMap_append, List.filterMap_append, List.filterMap_append,
    clusters _ fun _ => rfl, engines _ fun _ => rfl, policies _ fun _ => rfl, profiles,
    List.append_nil, List.nil_append, List.nil_append]

/-- The last definition of a model in the document. -/
def lastDefinition (id : String) : Option BootstrapProfile :=
  bs.profiles.reverse.find? fun p => p.modelID = id

/-- Seeding stores the settings of the last definition of a model that the cluster serves. -/
theorem settings_applyBootstrapForCluster (clock : Nat → Int) {id : String}
    (served : id ∈ bs.servedModels clusterID) :
    (((({} : FullStore).applyBootstrapForCluster platform clock bs clusterID).1.profiles.lookup
        id).map ModelProfile.settings) =
      (bs.lastDefinition id).map BootstrapProfile.settings := by
  have inScope : ∀ p : BootstrapProfile,
      decide ((clusterID = "" || p.modelID ∈ bs.servedModels clusterID : Bool) = true ∧
        decide (p.modelID = id) = true) = decide (p.modelID = id) := by
    intro p
    by_cases same : p.modelID = id
    · simp [same, served]
    · simp [same]
  have seeded := settings_seed (bs.upserts_seedCalls platform clusterID) clock {} id
  rw [profiles_seedCalls, ← List.map_reverse, List.find?_map, Finmap.lookup_empty, Option.or_none,
    scopedProfiles, ← List.filter_reverse, List.find?_filter, Option.map_map] at seeded
  refine Eq.trans seeded ?_
  unfold lastDefinition
  congr 2
  exact funext inScope

end Bootstrap

/-! ### Faithful seeding -/

section Faithful

variable (platform : Platform) (clock : Nat → Int) (doc : Bootstrap) (c : BootstrapCluster)

/-- An engine of the cluster serves the model. -/
def ServedIn (id : String) : Prop :=
  ∃ e ∈ doc.flattenNested.engines, e.clusterID = c.clusterID ∧ id ∈ e.servedModels

/-- A store seeded for the cluster has the cluster's own settings for every model that is
nested in it and that its engines serve. -/
def Faithful : Prop :=
  ∀ m ∈ c.models, ServedIn doc c m.modelID →
    ∃ p, (({} : FullStore).applyBootstrapForCluster platform clock doc.flattenNested
        c.clusterID).1.profiles.lookup m.modelID = some p ∧
      p.settings = (c.inheritModel m).settings

/-- Seeding is faithful to a cluster exactly when the last definition in the document of
each such model has the settings of the cluster's own. -/
theorem faithful_iff :
    Faithful platform clock doc c ↔
      ∀ m ∈ c.models, ServedIn doc c m.modelID →
        ∃ last, doc.flattenNested.lastDefinition m.modelID = some last ∧
          last.settings = (c.inheritModel m).settings := by
  refine forall₃_congr fun m _ served => ?_
  have inScope : m.modelID ∈ doc.flattenNested.servedModels c.clusterID := by
    obtain ⟨e, member, same, serves⟩ := served
    refine List.mem_flatMap.mpr ⟨e, List.mem_filter.mpr ⟨member, ?_⟩, serves⟩
    rw [decide_eq_true same, Bool.or_true]
  have seeded := doc.flattenNested.settings_applyBootstrapForCluster platform c.clusterID clock
    inScope
  have same : ∀ {α : Type} (found : Option α) (settings : α → Settings),
      (∃ p, found = some p ∧ settings p = (c.inheritModel m).settings) ↔
        found.map settings = some (c.inheritModel m).settings := by
    intro α found settings
    rw [Option.map_eq_some_iff]
  rw [same, same, seeded]

end Faithful

/-! Two clusters serve one model with settings of their own. -/

def firstCluster : BootstrapCluster where
  clusterID := "a"
  framework := "sglang"
  engines := [{ engineID := "e0", servedModels := ["m"] }]
  models := [{ modelID := "m", blockSize := 1 }]

def secondCluster : BootstrapCluster where
  clusterID := "b"
  framework := "vllm"
  engines := [{ engineID := "e1", servedModels := ["m"] }]
  models := [{ modelID := "m", blockSize := 16 }]

def sharedModel : Bootstrap where
  clusters := [firstCluster, secondCluster]

/-- A store seeded for the first has the settings of the second. -/
theorem not_faithful :
    ¬ ∀ platform clock (doc : Bootstrap), ∀ c ∈ doc.nesting, Faithful platform clock doc c := by
  intro always
  have served : ServedIn sharedModel firstCluster "m" := by
    refine ⟨firstCluster.inheritEngine { engineID := "e0", servedModels := ["m"] }, ?_, rfl, ?_⟩
    · exact List.mem_cons_self
    · exact List.mem_singleton_self _
  obtain ⟨p, found, same⟩ := always .plain (fun _ => 0) sharedModel firstCluster
    List.mem_cons_self { modelID := "m", blockSize := 1 } List.mem_cons_self served
  have own : p.blockSize = 1 := congrArg (fun settings => settings.2.1) same
  have stored : ((({} : FullStore).applyBootstrapForCluster .plain (fun _ => 0)
      sharedModel.flattenNested "a").1.profiles.lookup "m").map ModelProfile.blockSize =
      some 16 := by
    decide +kernel
  have found : (({} : FullStore).applyBootstrapForCluster .plain (fun _ => 0)
      sharedModel.flattenNested "a").1.profiles.lookup "m" = some p := found
  rw [found, Option.map_some, own] at stored
  revert stored
  decide

end KvIndexer.Config
