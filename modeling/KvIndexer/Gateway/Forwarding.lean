import KvIndexer.Gateway.Session
import KvIndexer.Lib.Run

/-!
The connection that a request acts on.

`always_onResolved_iff` says when it is the one the request resolved: a request that is
forwarded must find the backend it resolved as it was, if the filters leave a single backend
then, and the connection of a virtual config must still be in the same cluster when the
config is written.
-/

namespace KvIndexer.Gateway

open Config

/-! ### The connection acted on -/

/-- A connection to the same kvindexer, for the same cluster. -/
def Backend.SameConnection (b b' : Backend) : Prop :=
  b.id = b'.id ∧ b.cluster = b'.cluster ∧ b.url = b'.url

/-- The action is on the connection that is the target. -/
def Action.On (target : Target) : Action → Prop
  | forwarded b _ => ∃ b', target = .real b' ∧ b.SameConnection b'
  | changed backendID registered =>
      ∃ c, target = .virtual c ∧ backendID = c.id ∧
        ∀ c', registered = some c' → c'.cluster = c.cluster

/-- The action is on a connection of the cluster. -/
def Action.In (cluster : String) : Action → Prop
  | forwarded b _ => b.cluster = cluster
  | changed _ registered => ∀ c, registered = some c → c.cluster = cluster

namespace Session

variable (env : GatewayEnv) (req : Request) (s : Session)

/-- The request acts on the target that it resolved, in the cluster for which it stored an
asset, if it stored one. -/
def OnResolved : Prop :=
  ∀ target action, s.phase = .acted target action →
    action.On target ∧ ∀ cluster, s.assetCluster = some cluster → action.In cluster

/-- The filters leave no single backend, or the backend is registered as it was. -/
def StillSelected (b : Backend) : Prop :=
  (s.registry.selected env.toRegistryEnv req.sel).length = 1 →
    ∃ c, s.registry.conns.lookup b.id = some c ∧ c.enabled = true ∧
      c.kindOrDefault = ConnectionKindBackend ∧ c.cluster = b.cluster ∧ c.url = b.url

/-- The target is as it was when it was resolved, if it is about to be acted on. -/
def Stable (s : Session) : Step → Prop
  | .edit _ => True
  | .advance now =>
      match s.phase with
      | .resolved target =>
          ∀ b body, target = .real b →
            req.call.treat env s.registry.virtualConfigs target = .proxyOneBody body →
              s.StillSelected env req b
      | .uploaded target _ => ∀ b, target = .real b → s.StillSelected env req b
      | .changing target m found =>
          m.written now found ≠ none →
            ∀ c, s.registry.conns.lookup target.id = some c → c.cluster = target.cluster
      | _ => True

/-- A target passes the filters. -/
def Passes (sel : Selector) (target : Target) : Prop :=
  ∀ b, target = .real b → sel.keeps b.id b.cluster = true

/-- What each phase knows. -/
def Fits : Prop :=
  match s.phase with
  | .received => s.assetCluster = none
  | .listed backends =>
      req.call ≠ .proxyOne ∧ s.assetCluster = none ∧
        ∀ b ∈ backends, req.sel.keeps b.id b.cluster = true
  | .resolved target => req.call ≠ .proxyOne ∧ s.assetCluster = none ∧ Passes req.sel target
  | .uploaded target _ => s.assetCluster = some target.cluster ∧ Passes req.sel target
  | .changing target m found =>
      (∃ c, target = .virtual c ∧ m.backendID = c.id) ∧
        (∀ vc, found = some vc → vc.backendID = m.backendID) ∧
        ∀ cluster, s.assetCluster = some cluster → target.cluster = cluster
  | _ => True

/-- What holds in every run. -/
structure Sound : Prop where
  keyed : s.registry.Keyed
  fits : s.Fits req

end Session

/-! ### What the handlers decide -/

/-- Only a backend is forwarded to, and only the resolved connection's config is changed. -/
def Treatment.Suits (target : Target) : Treatment → Prop
  | proxyOneBody _ => ∃ b, target = .real b
  | change m => ∃ c, target = .virtual c ∧ m.backendID = c.id
  | _ => True

section Decisions

variable {env : GatewayEnv} {configs : VirtualConfigs} {target : Target}

theorem suits_storeProfile (prof : ModelProfile) : (storeProfile prof target).Suits target := by
  cases target with
  | real b => exact ⟨b, rfl⟩
  | virtual c => exact ⟨c, rfl, rfl⟩

theorem suits_handleRealLocal (b : Backend) (model : String) :
    (handleRealLocal env b model).Suits (.real b) := by
  unfold handleRealLocal
  split
  · trivial
  · exact ⟨b, rfl⟩
  · split
    · exact ⟨b, rfl⟩
    · split
      · trivial
      · trivial

theorem suits_handleVirtualLocal (required : String) (c : Connection) (model : String) :
    (handleVirtualLocal env configs required c model).Suits (.virtual c) := by
  unfold handleVirtualLocal
  split
  · trivial
  · split
    · trivial
    · split
      · trivial
      · split
        · trivial
        · split
          · trivial
          · trivial

theorem suits_handleModelProfileUpsert (decoded : Except String ModelProfile) :
    (handleModelProfileUpsert env decoded target).Suits target := by
  unfold handleModelProfileUpsert
  split
  · trivial
  · split
    · trivial
    · split
      · split
        · trivial
        · trivial
      · split
        · trivial
        · exact suits_storeProfile _

theorem suits_handleQueryPrefix (decoded : Except String String) (b : Backend) :
    (handleQueryPrefix env decoded (.real b)).Suits (.real b) := by
  unfold handleQueryPrefix
  dsimp only
  split
  · exact ⟨b, rfl⟩
  · split
    · exact ⟨b, rfl⟩
    · split
      · trivial
      · exact ⟨b, rfl⟩
      · split
        · trivial
        · exact ⟨b, rfl⟩

/-- Every handler treats its target as a target of its kind. -/
theorem suits_treat {call : Call} (handled : call ≠ .proxyOne) :
    (call.treat env configs target).Suits target := by
  cases call with
  | proxyOne => exact absurd rfl handled
  | effectivePolicyPreview decoded =>
      cases target with
      | real b => exact ⟨b, rfl⟩
      | virtual c =>
          cases decoded with
          | error e => trivial
          | ok a =>
              unfold Call.treat handleEffectivePolicyPreview
              dsimp only
              split
              · trivial
              · trivial
  | modelProfileUpsert decoded => exact suits_handleModelProfileUpsert decoded
  | modelProfileDelete modelID =>
      cases target with
      | real b => exact ⟨b, rfl⟩
      | virtual c => exact ⟨c, rfl, rfl⟩
  | policyUpsert decoded =>
      cases target with
      | real b => exact ⟨b, rfl⟩
      | virtual c =>
          cases decoded with
          | error e => trivial
          | ok policy =>
              unfold Call.treat handlePolicyUpsert
              dsimp only
              split
              · trivial
              · exact ⟨c, rfl, rfl⟩
  | policyPatch ruleID decoded =>
      cases target with
      | real b => exact ⟨b, rfl⟩
      | virtual c =>
          cases decoded with
          | error e => trivial
          | ok patch => exact ⟨c, rfl, rfl⟩
  | policyDelete ruleID =>
      cases target with
      | real b => exact ⟨b, rfl⟩
      | virtual c => exact ⟨c, rfl, rfl⟩
  | admission model =>
      cases target with
      | real b =>
          unfold Call.treat handleAdmission
          dsimp only
          split
          · exact ⟨b, rfl⟩
          · exact suits_handleRealLocal b model
      | virtual c => exact suits_handleVirtualLocal _ c model
  | queryPrefix decoded =>
      cases target with
      | real b => exact suits_handleQueryPrefix decoded b
      | virtual c => trivial
  | tokenizePreview decoded =>
      cases decoded with
      | error e => trivial
      | ok model =>
          cases target with
          | real b => exact suits_handleRealLocal b model
          | virtual c => exact suits_handleVirtualLocal _ c model

end Decisions

namespace Session

variable {env : GatewayEnv} {req : Request} {s : Session}

/-! ### Forwarding -/

/-- A session that has not acted is on its target. -/
theorem onResolved_of_not_acted (waits : ∀ target action, s.phase ≠ .acted target action) :
    s.OnResolved :=
  fun target action acted => absurd acted (waits target action)

/-- A request is forwarded to the backend it resolved exactly when the filters still select
it, or select no single one. -/
theorem onResolved_proxyOneBody (keyed : s.registry.Keyed) {b : Backend}
    (passes : req.sel.keeps b.id b.cluster = true)
    (own : ∀ cluster, s.assetCluster = some cluster → b.cluster = cluster)
    (body : Option ModelProfile) :
    OnResolved { s with phase := s.proxyOneBody env req (.real b) body } ↔
      s.StillSelected env req b := by
  have same : ∀ b', (s.registry.selected env.toRegistryEnv req.sel) = [b'] →
      (OnResolved { s with phase := .acted (.real b) (.forwarded b' body) } ↔
        s.StillSelected env req b) := by
    intro b' single
    have chosen : b' ∈ s.registry.selected env.toRegistryEnv req.sel :=
      single ▸ List.mem_singleton_self b'
    obtain ⟨-, c', found', enabled', kind', rfl⟩ := (Registry.mem_selected keyed).mp chosen
    constructor
    · intro on _
      obtain ⟨⟨b', sameTarget, id, cluster, url⟩, -⟩ := on _ _ rfl
      obtain rfl := Target.real.inj sameTarget
      exact ⟨c', id ▸ found', enabled', kind', cluster, url⟩
    · intro still
      obtain ⟨c, found, enabled, kind, cluster, url⟩ :=
        still (by rw [single, List.length_singleton])
      have underID : c.backend.id = b.id := keyed b.id c found
      have inCluster : c.backend.cluster = b.cluster := cluster
      have selected : c.backend ∈ s.registry.selected env.toRegistryEnv req.sel := by
        rw [Registry.mem_selected keyed, underID, inCluster]
        exact ⟨passes, c, found, enabled, kind, rfl⟩
      rw [single, List.mem_singleton] at selected
      rintro _ _ ⟨⟩
      rw [← selected]
      refine ⟨⟨b, rfl, underID, cluster, url⟩, fun cluster' stored => ?_⟩
      exact cluster.trans (own cluster' stored)
  unfold proxyOneBody
  cases selection : selectOne Backend.id (s.registry.selected env.toRegistryEnv req.sel) with
  | error f =>
      refine iff_of_true (onResolved_of_not_acted fun _ _ => nofun) fun single => ?_
      obtain ⟨b', alone⟩ := List.length_eq_one_iff.mp single
      cases (selectOne_eq_ok.mpr alone).symm.trans selection
  | ok b' => exact same b' (selectOne_eq_ok.mp selection)

section Follow

variable {target : Target} {treatment : Treatment}

theorem onResolved_follow (keyed : s.registry.Keyed) (passes : Passes req.sel target)
    (own : ∀ cluster, s.assetCluster = some cluster → target.cluster = cluster)
    (suits : treatment.Suits target) :
    (s.follow env req target treatment).OnResolved ↔
      ∀ b body, target = .real b → treatment = .proxyOneBody body → s.StillSelected env req b := by
  cases treatment with
  | proxyOneBody body =>
      obtain ⟨b, rfl⟩ := suits
      unfold follow
      rw [onResolved_proxyOneBody keyed (passes b rfl) own body]
      constructor
      · rintro still _ _ ⟨⟩ _
        exact still
      · intro still
        exact still b body rfl rfl
  | answer => exact iff_of_true (onResolved_of_not_acted fun _ _ => nofun) fun _ _ _ => nofun
  | fail f => exact iff_of_true (onResolved_of_not_acted fun _ _ => nofun) fun _ _ _ => nofun
  | change m => exact iff_of_true (onResolved_of_not_acted fun _ _ => nofun) fun _ _ _ => nofun
  | upload prof =>
      refine iff_of_true (onResolved_of_not_acted fun _ _ => ?_) fun _ _ _ => nofun
      unfold follow
      dsimp only
      split
      · nofun
      · nofun

theorem fits_follow (passes : Passes req.sel target)
    (own : ∀ cluster, s.assetCluster = some cluster → target.cluster = cluster)
    (suits : treatment.Suits target) : (s.follow env req target treatment).Fits req := by
  cases treatment with
  | proxyOneBody body =>
      unfold follow proxyOneBody
      dsimp only
      split
      · trivial
      · trivial
  | answer => trivial
  | fail f => trivial
  | change m =>
      refine ⟨suits, fun vc found => ?_, own⟩
      obtain ⟨doc, -, rfl⟩ := Option.map_eq_some_iff.mp found
      rfl
  | upload prof =>
      unfold follow
      dsimp only
      split
      · trivial
      · exact ⟨rfl, passes⟩

theorem registry_follow : (s.follow env req target treatment).registry = s.registry := by
  cases treatment with
  | upload prof =>
      unfold follow
      dsimp only
      split
      · rfl
      · rfl
  | proxyOneBody body => rfl
  | answer => rfl
  | fail f => rfl
  | change m => rfl

end Follow

/-! ### One step -/

/-- What the phase at hand knows. -/
theorem Fits.here (fits : s.Fits req) {phase : Phase} (here : s.phase = phase) :
    Fits req { s with phase := phase } :=
  here ▸ fits

/-- The config that a change writes is that of the connection resolved. -/
theorem backendID_written_changing {target : Target} {m : VirtualMutation}
    {found : Option VirtualConfig} (changing : s.phase = .changing target m found)
    (fits : s.Fits req) {now : Moment} {vc : VirtualConfig}
    (written : m.written now found = some vc) :
    ∃ c, target = .virtual c ∧ vc.backendID = c.id := by
  obtain ⟨⟨c, sameTarget, id⟩, own, -⟩ := fits.here changing
  exact ⟨c, sameTarget, (VirtualMutation.backendID_written own written).trans id⟩

theorem Sound.advance (sound : s.Sound req) (now : Moment) : (s.advance env req now).Sound req := by
  obtain ⟨keyed, fits⟩ := sound
  unfold Session.advance
  cases phase : s.phase with
  | received =>
      have unstored : s.assetCluster = none := fits.here phase
      have filtered : ∀ b ∈ s.registry.selected env.toRegistryEnv req.sel,
          req.sel.keeps b.id b.cluster = true := fun b member =>
        ((Registry.mem_selected keyed).mp member).1
      dsimp only
      split
      · split
        · exact ⟨keyed, trivial⟩
        · exact ⟨keyed, trivial⟩
      · rename_i handled
        exact ⟨keyed, handled, unstored, filtered⟩
  | listed backends =>
      obtain ⟨handled, unstored, filtered⟩ := fits.here phase
      dsimp only
      cases selection : s.selectedOneTarget env req backends with
      | error f => exact ⟨keyed, trivial⟩
      | ok target =>
          refine ⟨keyed, handled, unstored, ?_⟩
          rintro b rfl
          have single := selectOne_eq_ok.mp selection
          have member : Target.real b ∈ backends.map .real ++
              (s.registry.selectedVirtual env.toRegistryEnv req.sel).map .virtual :=
            single ▸ List.mem_singleton_self _
          rcases List.mem_append.mp member with here | here
          · obtain ⟨b', among, same⟩ := List.mem_map.mp here
            obtain rfl := Target.real.inj same
            exact filtered b' among
          · obtain ⟨c, -, same⟩ := List.mem_map.mp here
            cases same
  | resolved target =>
      obtain ⟨handled, unstored, passes⟩ := fits.here phase
      refine ⟨by rw [registry_follow]; exact keyed, fits_follow passes ?_ (suits_treat handled)⟩
      intro cluster stored
      cases unstored.symm.trans stored
  | uploaded target prof =>
      obtain ⟨stored, passes⟩ := fits.here phase
      refine ⟨by rw [registry_follow]; exact keyed, fits_follow passes ?_ (suits_storeProfile prof)⟩
      intro cluster here
      exact Option.some.inj (stored.symm.trans here)
  | changing target m found =>
      dsimp only
      cases m.written now found with
      | none => exact ⟨keyed, trivial⟩
      | some vc => exact ⟨keyed, trivial⟩
  | answered => exact ⟨keyed, fits⟩
  | failed f => exact ⟨keyed, fits⟩
  | acted target action => exact ⟨keyed, fits⟩

theorem Sound.step (sound : s.Sound req) (op : Step) : (s.step env req op).Sound req := by
  cases op with
  | edit e => exact ⟨sound.keyed.edit e, sound.fits⟩
  | advance now => exact sound.advance now

theorem onResolved_advance_iff (sound : s.Sound req) (on : s.OnResolved) (now : Moment) :
    (s.advance env req now).OnResolved ↔ s.Stable env req (.advance now) := by
  obtain ⟨keyed, fits⟩ := sound
  unfold Session.advance Stable
  cases phase : s.phase with
  | received =>
      refine iff_of_true ?_ trivial
      have unstored : s.assetCluster = none := fits.here phase
      dsimp only
      split
      · split
        · exact onResolved_of_not_acted fun _ _ => nofun
        · -- the backend is resolved as the request is forwarded
          rename_i b _
          rintro _ _ ⟨⟩
          refine ⟨⟨b, rfl, rfl, rfl, rfl⟩, fun cluster stored => ?_⟩
          cases unstored.symm.trans stored
      · exact onResolved_of_not_acted fun _ _ => nofun
  | listed backends =>
      refine iff_of_true ?_ trivial
      dsimp only
      split
      · exact onResolved_of_not_acted fun _ _ => nofun
      · exact onResolved_of_not_acted fun _ _ => nofun
  | resolved target =>
      obtain ⟨handled, unstored, passes⟩ := fits.here phase
      refine onResolved_follow keyed passes ?_ (suits_treat handled)
      intro cluster stored
      cases unstored.symm.trans stored
  | uploaded target prof =>
      obtain ⟨stored, passes⟩ := fits.here phase
      have own : ∀ cluster, s.assetCluster = some cluster → target.cluster = cluster :=
        fun cluster here => Option.some.inj (stored.symm.trans here)
      rw [onResolved_follow keyed passes own (suits_storeProfile prof)]
      constructor
      · rintro still b rfl
        exact still b (some prof) rfl rfl
      · intro still b _ real _
        exact still b real
  | changing target m found =>
      obtain ⟨-, -, stored⟩ := fits.here phase
      dsimp only
      cases written : m.written now found with
      | none => exact iff_of_true (onResolved_of_not_acted fun _ _ => nofun) (absurd rfl)
      | some vc =>
          obtain ⟨c, rfl, id⟩ := backendID_written_changing phase fits written
          constructor
          · intro on' _
            obtain ⟨⟨_, ⟨⟩, -, inCluster⟩, -⟩ := on' _ _ rfl
            rw [id] at inCluster
            exact inCluster
          · intro stable
            have inCluster : ∀ c', s.registry.conns.lookup c.id = some c' →
                c'.cluster = c.cluster := stable nofun
            rw [← id] at inCluster
            rintro _ _ ⟨⟩
            refine ⟨⟨c, rfl, id, inCluster⟩, fun cluster here c' registered => ?_⟩
            exact (inCluster c' registered).trans (stored cluster here)
  | answered => exact iff_of_true on trivial
  | failed f => exact iff_of_true on trivial
  | acted target action => exact iff_of_true on trivial

theorem onResolved_step_iff (sound : s.Sound req) (on : s.OnResolved) (op : Step) :
    (s.step env req op).OnResolved ↔ s.Stable env req op := by
  cases op with
  | edit e => exact iff_of_true on trivial
  | advance now => exact onResolved_advance_iff sound on now

/-! ### Runs -/

theorem Sound.start : Sound req {} := ⟨GoMap.Keyed.empty, rfl⟩

/-- Whatever edits come in between, a request acts on the connection that it resolved exactly
when its target is as it was when it is acted on. -/
theorem always_onResolved_iff (env : GatewayEnv) (req : Request) (ops : List Step) :
    (∀ pre post, ops = pre ++ post → (Run.run (step env req) {} pre).OnResolved) ↔
      Run.EachStep (step env req) (Stable env req) {} ops :=
  @Run.always_iff_eachStep _ _ (step env req) (Stable env req) (Sound req) OnResolved
    (fun _ op sound => sound.step op) (fun _ op sound on => onResolved_step_iff sound on op) {}
    Sound.start (onResolved_of_not_acted fun _ _ => nofun) ops

/-! ### An edit between the selections -/

/-- A request with a single backend to choose from resolves it. -/
theorem step_listed_single {b : Backend} (listed : s.phase = .listed [b])
    (noVirtual : s.registry.selectedVirtual env.toRegistryEnv req.sel = []) (now : Moment) :
    s.step env req (.advance now) = { s with phase := .resolved (.real b) } := by
  show s.advance env req now = _
  have chosen : s.selectedOneTarget env req [b] = .ok (.real b) := by
    rw [selectedOneTarget, noVirtual]
    rfl
  rw [Session.advance, listed]
  dsimp only
  rw [chosen]

/-- An uploaded profile goes to the single backend that is selected then. -/
theorem step_uploaded_single {b b' : Backend} {prof : ModelProfile}
    (uploaded : s.phase = .uploaded (.real b) prof)
    (single : s.registry.selected env.toRegistryEnv req.sel = [b']) (now : Moment) :
    s.step env req (.advance now) =
      { s with phase := .acted (.real b) (.forwarded b' (some prof)) } := by
  show s.advance env req now = _
  have forwarded : s.proxyOneBody env req (.real b) (some prof) =
      .acted (.real b) (.forwarded b' (some prof)) := by
    rw [proxyOneBody, single]
    rfl
  rw [Session.advance, uploaded]
  dsimp only [storeProfile, follow]
  rw [forwarded]

def connectionA : Connection where
  id := "one"
  kind := ConnectionKindBackend
  cluster := "a"
  url := "http://one"
  enabled := true

def connectionB : Connection where
  id := "two"
  kind := ConnectionKindBackend
  cluster := "b"
  url := "http://two"
  enabled := true

/-- A gateway with a tokenizer that accepts every upload. -/
def uploadingEnv (order : GoMap.Orders String Connection) : GatewayEnv where
  parseURL url :=
    if url = "http://one" then some ⟨"http", "one"⟩
    else if url = "http://two" then some ⟨"http", "two"⟩
    else none
  quote url := url
  order := order
  localTokenizerURL := "http://tokenizer"
  fetchProfiles _ := .ok []
  putTokenizer _ _ := .ok ""

def uploadRequest : Request where
  sel := {}
  call := .modelProfileUpsert (.ok { modelID := "m", tokenizerMode := TokenizerModeLocal })

/-- After the asset is stored, the one backend of the registry is replaced by another. -/
def replacedBackend (now : Moment) : List Step :=
  [.edit (.replaceConnection connectionA), .advance now, .advance now, .advance now,
    .edit (.deleteConnection "one"), .edit (.replaceConnection connectionB), .advance now]

/-- The asset is stored for one cluster and the profile goes to another. -/
theorem not_always_onResolved :
    ¬ ∃ order : GoMap.Orders String Connection,
      ∀ req ops, (Run.run (step (uploadingEnv order) req) {} ops).OnResolved := by
  rintro ⟨order, always⟩
  set now : Moment := ⟨0, 0, default⟩
  set env := uploadingEnv order
  set first : Registry := { conns := Finmap.insert "one" connectionA ∅ }
  set second : Registry :=
    { conns := Finmap.insert "two" connectionB (Finmap.erase "one" first.conns) }
  have keyed : first.Keyed := GoMap.Keyed.insert GoMap.Keyed.empty rfl
  have keyed' : second.Keyed := GoMap.Keyed.insert (GoMap.Keyed.erase keyed "one") rfl
  have single : ∀ id, second.conns.lookup id =
      if id = connectionB.id then some connectionB else none := by
    intro id
    have gone : (Finmap.erase "one" first.conns).lookup id = none := by
      rw [GoMap.lookup_erase_eq, GoMap.lookup_insert_eq, Finmap.lookup_empty]
      simp
    rw [GoMap.lookup_insert_eq, gone]
    rfl
  obtain ⟨real, virtual⟩ := @Registry.selected_single env.toRegistryEnv first keyed connectionA
    (fun id => GoMap.lookup_insert_eq _ _ _ _) {} rfl rfl rfl
  obtain ⟨real', -⟩ := @Registry.selected_single env.toRegistryEnv second keyed' connectionB single
    {} rfl rfl rfl
  set uploaded : Phase := .uploaded (.real connectionA.backend)
    (uploadedProfile { modelID := "m", tokenizerMode := TokenizerModeLocal } "")
  have listed : Run.run (step env uploadRequest) {}
      [.edit (.replaceConnection connectionA), .advance now] =
        { registry := first, phase := .listed [connectionA.backend] } := by
    rw [← real]
    rfl
  have resolved := @step_listed_single env uploadRequest
    { registry := first, phase := .listed [connectionA.backend] } _ rfl virtual now
  have stored : Run.run (step env uploadRequest)
      { registry := first, phase := .resolved (.real connectionA.backend) }
      [.advance now, .edit (.deleteConnection "one"), .edit (.replaceConnection connectionB)] =
        { registry := second, phase := uploaded, assetCluster := some "a" } := rfl
  have forwarded := @step_uploaded_single env uploadRequest
    { registry := second, phase := uploaded, assetCluster := some "a" } _ _ _ rfl real' now
  have on := always uploadRequest (replacedBackend now)
  have parts : replacedBackend now =
      [.edit (.replaceConnection connectionA), .advance now] ++ .advance now ::
        ([.advance now, .edit (.deleteConnection "one"), .edit (.replaceConnection connectionB)] ++
          [.advance now]) := rfl
  rw [parts, Run.run_append, listed, Run.run_cons, resolved, Run.run_append, stored, Run.run_cons,
    forwarded] at on
  obtain ⟨-, inCluster⟩ := on _ _ rfl
  have same : "b" = "a" := inCluster "a" rfl
  simp at same

end Session

end KvIndexer.Gateway
