import KvIndexer.Gateway.Forwarding

/-!
The connection that a write goes to (`internal/gateway/gateway.go`).

Some of the write routes resolve their target among the backends and the virtual connections
together, the others only forward and look at the backends alone. `unambiguous_iff` says for
which registries and selectors this makes no difference.
-/

namespace KvIndexer.Gateway

open Config

/-- The routes that write to one target. -/
def Call.Writes : Call → Prop
  | proxyOne => True
  | modelProfileUpsert _ => True
  | modelProfileDelete _ => True
  | policyUpsert _ => True
  | policyPatch _ _ => True
  | policyDelete _ => True
  | _ => False

def Connection.target (c : Connection) : Target :=
  if c.kindOrDefault = ConnectionKindVirtual then .virtual c else .real c.backend

theorem Connection.eq_of_target_virtual {c c' : Connection} (virtual : c.target = .virtual c') :
    c' = c := by
  unfold Connection.target at virtual
  split at virtual
  · exact (Target.virtual.inj virtual).symm
  · cases virtual

/-- The action is on the connection. -/
def Action.Lands (c : Connection) : Action → Prop
  | forwarded b _ => c.target = .real b
  | changed backendID _ => c.target = .virtual c ∧ backendID = c.id

/-! ### What matches -/

theorem filter_map_backend (sel : Selector) (cs : List Connection) :
    ((cs.map Connection.backend).filter fun b => sel.keeps b.id b.cluster) =
      (cs.filter fun c => sel.keeps c.id c.cluster).map Connection.backend := by
  rw [List.filter_map]
  rfl

namespace Registry

variable (env : RegistryEnv) (s : Registry) (sel : Selector)

/-- The enabled connections of both kinds that the selector matches. -/
def matching : List Connection :=
  (s.list env).filter fun c =>
    c.enabled && sel.keeps c.id c.cluster &&
      (c.kindOrDefault = ConnectionKindBackend || c.kindOrDefault = ConnectionKindVirtual)

/-- `selectedTargets` -/
def selectedTargets : List Target :=
  (s.selected env sel).map .real ++ (s.selectedVirtual env sel).map .virtual

/-- Of each kind they are those that the gateway selects. -/
theorem selected_eq_matching :
    s.selected env sel =
      ((s.matching env sel).filter fun c => c.kindOrDefault = ConnectionKindBackend).map
        Connection.backend := by
  unfold selected backends matching
  rw [filter_map_backend, List.filter_filter, List.filter_filter]
  refine congrArg _ (List.filter_congr fun c _ => ?_)
  by_cases backend : c.kindOrDefault = ConnectionKindBackend
  · simp [backend, Bool.and_comm]
  · simp [backend]

theorem selectedVirtual_eq_matching :
    s.selectedVirtual env sel =
      (s.matching env sel).filter fun c => c.kindOrDefault = ConnectionKindVirtual := by
  unfold selectedVirtual virtualConnections matching
  rw [List.filter_filter, List.filter_filter]
  refine List.filter_congr fun c _ => ?_
  by_cases virtual : c.kindOrDefault = ConnectionKindVirtual
  · simp [virtual, Bool.and_comm]
  · simp [virtual]

variable {env} {s} {sel}

theorem kind_of_matching {c : Connection} (member : c ∈ s.matching env sel) :
    decide (c.kindOrDefault = ConnectionKindVirtual) =
      !decide (c.kindOrDefault = ConnectionKindBackend) := by
  have otherKind : ConnectionKindBackend ≠ ConnectionKindVirtual := by decide
  have kind := (List.mem_filter.mp member).2
  simp only [Bool.and_eq_true, Bool.or_eq_true, decide_eq_true_eq] at kind
  rcases kind.2 with backend | virtual
  · simp [backend, otherKind]
  · simp [virtual, otherKind.symm]

/-- As many targets are selected as connections match. -/
theorem length_selectedTargets :
    (s.selectedTargets env sel).length = (s.matching env sel).length := by
  unfold selectedTargets
  rw [selected_eq_matching, selectedVirtual_eq_matching, List.length_append, List.length_map,
    List.length_map, List.length_map,
    List.filter_congr fun c member => @kind_of_matching env s sel c member]
  exact List.length_eq_length_filter_add _ |>.symm

theorem selectedTargets_of_matching {c : Connection} (single : s.matching env sel = [c]) :
    s.selectedTargets env sel = [c.target] := by
  have kind := @kind_of_matching env s sel c (single ▸ List.mem_singleton_self c)
  unfold selectedTargets Connection.target
  rw [selected_eq_matching, selectedVirtual_eq_matching, single, List.filter_singleton,
    List.filter_singleton, kind]
  by_cases backend : c.kindOrDefault = ConnectionKindBackend
  · have other : c.kindOrDefault ≠ ConnectionKindVirtual := by
      rw [backend]
      decide
    rw [decide_eq_true backend, if_neg other]
    rfl
  · have virtual : c.kindOrDefault = ConnectionKindVirtual := by
      simpa [backend] using kind
    rw [decide_eq_false backend, if_pos virtual]
    rfl

/-- One target is selected when one connection matches. -/
theorem selectedTargets_eq_singleton {target : Target} :
    s.selectedTargets env sel = [target] ↔ ∃ c, s.matching env sel = [c] ∧ c.target = target := by
  constructor
  · intro single
    have length := @length_selectedTargets env s sel
    rw [single] at length
    obtain ⟨c, one⟩ := List.length_eq_one_iff.mp length.symm
    have same := selectedTargets_of_matching one
    rw [single] at same
    exact ⟨c, one, (List.singleton_inj.mp same).symm⟩
  · rintro ⟨c, one, rfl⟩
    exact selectedTargets_of_matching one

/-- Where a connection is the only match and a backend, it is the backend selected. -/
theorem selected_of_matching {c : Connection} {b : Backend} (single : s.matching env sel = [c])
    (real : c.target = .real b) : s.selected env sel = [b] ∧ s.selectedVirtual env sel = [] := by
  have targets := selectedTargets_of_matching single
  rw [real] at targets
  unfold selectedTargets at targets
  rcases List.append_eq_singleton_iff.mp targets with ⟨none, one⟩ | ⟨one, none⟩
  · obtain ⟨c', -, same⟩ := List.map_eq_singleton_iff.mp one
    cases same
  · obtain ⟨b', only, same⟩ := List.map_eq_singleton_iff.mp one
    cases same
    exact ⟨only, List.map_eq_nil_iff.mp none⟩

end Registry

/-! ### A write on a registry that nobody edits -/

section Handled

variable (env : GatewayEnv) (s : Registry)

/-- A request after some of its steps. -/
def handled (req : Request) (moments : List Moment) : Session :=
  Run.run (Session.step env req) { registry := s } (moments.map .advance)

/-- The request has acted on the target. -/
def ActsOn (req : Request) (target : Target) (action : Action) : Prop :=
  ∃ moments, (handled env s req moments).phase = .acted target action

/-- A write with the selector. -/
def WritesWith (sel : Selector) (req : Request) : Prop := req.sel = sel ∧ req.call.Writes

/-- A write acts only if exactly one enabled connection matches its selector, and on that
connection; all writes that act do so on the same one; and if not one connection matches,
nothing changes. -/
structure Unambiguous (sel : Selector) : Prop where
  only : ∀ req, WritesWith sel req → ∀ target action, ActsOn env s req target action →
    ∃ c, s.matching env.toRegistryEnv sel = [c] ∧ target = c.target ∧ action.Lands c
  same : ∀ req req', WritesWith sel req → WritesWith sel req' →
    ∀ target action target' action', ActsOn env s req target action →
      ActsOn env s req' target' action' → target = target'
  unchanged : (∀ c, s.matching env.toRegistryEnv sel ≠ [c]) → ∀ req, WritesWith sel req →
    ∀ moments, (handled env s req moments).registry = s ∧
      (handled env s req moments).assetCluster = none

end Handled

namespace Session

variable (env : GatewayEnv) (s : Registry) (req : Request)

/-- The target is the only connection that matches. -/
def Matched (target : Target) : Prop :=
  ∃ c, s.matching env.toRegistryEnv req.sel = [c] ∧ target = c.target

/-- What each phase of a request knows on a registry `s` that nobody edits. -/
def Bound (st : Session) : Prop :=
  match st.phase with
  | .received => st.registry = s ∧ st.assetCluster = none
  | .listed backends =>
      req.call ≠ .proxyOne ∧ st.registry = s ∧ st.assetCluster = none ∧
        backends = s.selected env.toRegistryEnv req.sel
  | .resolved target => req.call ≠ .proxyOne ∧ st.registry = s ∧ Matched env s req target
  | .uploaded target _ => st.registry = s ∧ Matched env s req target
  | .changing target m found =>
      Matched env s req target ∧ (∃ c, target = .virtual c ∧ m.backendID = c.id) ∧
        ∀ vc, found = some vc → vc.backendID = m.backendID
  | .acted target action =>
      ∃ c, s.matching env.toRegistryEnv req.sel = [c] ∧ target = c.target ∧ action.Lands c
  | .answered => (st.registry = s ∧ st.assetCluster = none) ∨ ∃ target, Matched env s req target
  | .failed _ => (st.registry = s ∧ st.assetCluster = none) ∨ ∃ target, Matched env s req target

variable {env} {s} {req} {st : Session}

theorem Bound.here (bound : st.Bound env s req) {phase : Phase} (here : st.phase = phase) :
    Bound env s req { st with phase := phase } :=
  here ▸ bound

theorem bound_proxyOneBody {target : Target} (registry : st.registry = s)
    (matched : Matched env s req target) {b : Backend} (real : target = .real b)
    (body : Option ModelProfile) :
    Bound env s req { st with phase := st.proxyOneBody env req target body } := by
  obtain ⟨c, single, rfl⟩ := matched
  obtain ⟨selected, -⟩ := Registry.selected_of_matching single real
  unfold proxyOneBody
  rw [registry, selected]
  exact ⟨c, single, rfl, real⟩

/-- A handler that resolved the only match goes on with it. -/
theorem bound_follow {target : Target} {treatment : Treatment} (registry : st.registry = s)
    (matched : Matched env s req target) (suits : treatment.Suits target) :
    (st.follow env req target treatment).Bound env s req := by
  cases treatment with
  | answer => exact Or.inr ⟨target, matched⟩
  | fail f => exact Or.inr ⟨target, matched⟩
  | proxyOneBody body =>
      obtain ⟨b, real⟩ := suits
      exact bound_proxyOneBody registry matched real body
  | change m =>
      refine ⟨matched, suits, fun vc found => ?_⟩
      obtain ⟨doc, -, rfl⟩ := Option.map_eq_some_iff.mp found
      rfl
  | upload prof =>
      unfold follow
      dsimp only
      split
      · exact Or.inr ⟨target, matched⟩
      · exact ⟨registry, matched⟩

/-- One backend and no virtual connection match, or the route looks at both. -/
def Safe (env : GatewayEnv) (s : Registry) (req : Request) : Prop :=
  req.call = .proxyOne → ∀ b, s.selected env.toRegistryEnv req.sel = [b] →
    s.selectedVirtual env.toRegistryEnv req.sel = []

theorem Bound.advance (safe : Safe env s req) (bound : st.Bound env s req) (now : Moment) :
    (st.advance env req now).Bound env s req := by
  unfold Session.advance
  cases phase : st.phase with
  | received =>
      obtain ⟨registry, unstored⟩ := bound.here phase
      dsimp only
      split
      · rename_i forwards
        cases selection : selectOne Backend.id
            (st.registry.selected env.toRegistryEnv req.sel) with
        | error f => exact Or.inl ⟨registry, unstored⟩
        | ok b =>
            have selected := selectOne_eq_ok.mp selection
            rw [registry] at selected
            have alone := safe forwards b selected
            have targets : s.selectedTargets env.toRegistryEnv req.sel = [.real b] := by
              unfold Registry.selectedTargets
              rw [selected, alone]
              rfl
            obtain ⟨c, single, real⟩ := Registry.selectedTargets_eq_singleton.mp targets
            exact ⟨c, single, real.symm, real⟩
      · rename_i looks
        exact ⟨looks, registry, unstored, by rw [registry]⟩
  | listed backends =>
      obtain ⟨looks, registry, unstored, same⟩ := bound.here phase
      dsimp only
      cases selection : st.selectedOneTarget env req backends with
      | error f => exact Or.inl ⟨registry, unstored⟩
      | ok target =>
          have targets := selectOne_eq_ok.mp selection
          rw [registry, same] at targets
          obtain ⟨c, single, rfl⟩ := Registry.selectedTargets_eq_singleton.mp targets
          exact ⟨looks, registry, c, single, rfl⟩
  | resolved target =>
      obtain ⟨looks, registry, matched⟩ := bound.here phase
      exact bound_follow registry matched (suits_treat looks)
  | uploaded target prof =>
      obtain ⟨registry, matched⟩ := bound.here phase
      exact bound_follow registry matched (suits_storeProfile prof)
  | changing target m found =>
      obtain ⟨matched, ⟨c, virtual, id⟩, own⟩ := bound.here phase
      dsimp only
      cases written : m.written now found with
      | none => exact Or.inr ⟨target, matched⟩
      | some vc =>
          obtain ⟨c', single, same⟩ := matched
          have itself := same.symm.trans virtual
          obtain rfl := Connection.eq_of_target_virtual itself
          exact ⟨c, single, same, itself, (VirtualMutation.backendID_written own written).trans id⟩
  | answered => exact bound
  | failed f => exact bound
  | acted target action => exact bound

/-- If not one connection matches, nothing has changed. -/
theorem Bound.unchanged (bound : st.Bound env s req)
    (unmatched : ∀ c, s.matching env.toRegistryEnv req.sel ≠ [c]) :
    st.registry = s ∧ st.assetCluster = none := by
  have never : ∀ target, ¬ Matched env s req target := by
    rintro target ⟨c, single, -⟩
    exact unmatched c single
  cases phase : st.phase with
  | received => exact bound.here phase
  | listed backends => exact ⟨(bound.here phase).2.1, (bound.here phase).2.2.1⟩
  | resolved target => exact absurd (bound.here phase).2.2 (never target)
  | uploaded target prof => exact absurd (bound.here phase).2 (never target)
  | changing target m found => exact absurd (bound.here phase).1 (never target)
  | answered =>
      rcases bound.here phase with unchanged | ⟨target, matched⟩
      · exact unchanged
      · exact absurd matched (never target)
  | failed f =>
      rcases bound.here phase with unchanged | ⟨target, matched⟩
      · exact unchanged
      · exact absurd matched (never target)
  | acted target action =>
      obtain ⟨c, single, -⟩ := bound.here phase
      exact absurd single (unmatched c)

end Session

section Handled

variable (env : GatewayEnv) (s : Registry)

theorem bound_handled {req : Request} (safe : Session.Safe env s req) (moments : List Moment) :
    (handled env s req moments).Bound env s req := by
  unfold handled
  have start : Session.Bound env s req { registry := s } := ⟨rfl, rfl⟩
  refine Run.run_invariant (C := fun _ op => ∃ now, op = Session.Step.advance now)
    (fun st op advances bound => ?_) start (Run.eachStep_forall.mpr fun op member => ?_)
  · obtain ⟨now, rfl⟩ := advances
    exact bound.advance safe now
  · obtain ⟨now, -, rfl⟩ := List.mem_map.mp member
    exact ⟨now, rfl⟩

/-- A route that only forwards takes the one backend, whatever else matches. -/
theorem not_unambiguous_of_single {sel : Selector} {b : Backend}
    (selected : s.selected env.toRegistryEnv sel = [b])
    (several : s.selectedVirtual env.toRegistryEnv sel ≠ []) : ¬ Unambiguous env s sel := by
  intro unambiguous
  set now : Moment := ⟨0, 0, default⟩
  have acted : (handled env s ⟨sel, .proxyOne⟩ [now]).phase =
      .acted (.real b) (.forwarded b none) := by
    show (Session.advance env ⟨sel, .proxyOne⟩ { registry := s } now).phase = _
    unfold Session.advance
    dsimp only
    rw [selectOne_eq_ok.mpr selected]
  obtain ⟨c, single, real, -⟩ :=
    unambiguous.only ⟨sel, .proxyOne⟩ ⟨rfl, trivial⟩ _ _ ⟨[now], acted⟩
  exact several (Registry.selected_of_matching single real.symm).2

/-- Writes are unambiguous exactly where it is not the case that one backend and besides it a
virtual connection match. -/
theorem unambiguous_iff (sel : Selector) :
    Unambiguous env s sel ↔
      ¬ ((s.selected env.toRegistryEnv sel).length = 1 ∧
        s.selectedVirtual env.toRegistryEnv sel ≠ []) := by
  constructor
  · rintro unambiguous ⟨one, several⟩
    obtain ⟨b, selected⟩ := List.length_eq_one_iff.mp one
    exact not_unambiguous_of_single env s selected several unambiguous
  · intro clear
    have safe : ∀ req, req.sel = sel → Session.Safe env s req := by
      rintro req rfl _ b selected
      by_contra several
      exact clear ⟨by rw [selected]; rfl, several⟩
    have only : ∀ req, WritesWith sel req → ∀ target action, ActsOn env s req target action →
        ∃ c, s.matching env.toRegistryEnv sel = [c] ∧ target = c.target ∧ action.Lands c := by
      rintro req ⟨rfl, -⟩ target action ⟨moments, acted⟩
      exact (bound_handled env s (safe req rfl) moments).here acted
    refine ⟨only, fun req req' writes writes' target action target' action' acts acts' => ?_,
      fun unmatched req writes moments => ?_⟩
    · obtain ⟨c, single, here, -⟩ := only req writes target action acts
      obtain ⟨c', single', here', -⟩ := only req' writes' target' action' acts'
      rw [single] at single'
      rw [here, here', List.singleton_inj.mp single']
    · obtain ⟨rfl, -⟩ := writes
      exact (bound_handled env s (safe req rfl) moments).unchanged unmatched

end Handled

/-! One cluster has a kvindexer and a virtual connection. -/

def realConnection : Connection where
  id := "a"
  kind := "backend"
  cluster := "c"
  url := "http://a:8080"
  enabled := true

def virtualConnection : Connection where
  id := "v"
  kind := "virtual"
  cluster := "c"
  enabled := true

def bothKinds : Registry where
  conns := (Finmap.singleton "a" realConnection).insert "v" virtualConnection

def sharedCluster : Selector where
  cluster := "c"

theorem keyed_bothKinds : bothKinds.Keyed := by
  have first : GoMap.Keyed Connection.id (Finmap.singleton "a" realConnection) :=
    GoMap.Keyed.insert GoMap.Keyed.empty rfl
  exact first.insert rfl

theorem list_bothKinds (env : RegistryEnv) :
    (bothKinds.list env).Perm [realConnection, virtualConnection] := by
  have distinct : (bothKinds.list env).Nodup :=
    (connectionSort.perm _).nodup_iff.mpr (GoMap.Keyed.nodup_values keyed_bothKinds _)
  refine (List.perm_ext_iff_of_nodup distinct (by decide)).mpr fun c => ?_
  rw [Registry.mem_list keyed_bothKinds]
  simp only [List.mem_cons, List.not_mem_nil, or_false]
  constructor
  · intro found
    unfold bothKinds at found
    dsimp only at found
    rw [GoMap.lookup_insert_eq] at found
    split at found
    · exact Or.inr (Option.some.inj found).symm
    · have here : c.id = "a" :=
        Finmap.mem_singleton _ _ _ |>.mp (Finmap.mem_of_lookup_eq_some found)
      rw [here, Finmap.lookup_singleton_eq] at found
      exact Or.inl (Option.some.inj found).symm
  · rintro (rfl | rfl)
    · decide +kernel
    · decide +kernel

/-- A request that only forwards goes to the kvindexer. -/
theorem not_unambiguous : ¬ ∀ env s sel, Unambiguous env s sel := by
  intro always
  have listed := list_bothKinds (Session.uploadingEnv default).toRegistryEnv
  have matching :
      (bothKinds.matching (Session.uploadingEnv default).toRegistryEnv sharedCluster).Perm
        [realConnection, virtualConnection] := listed.filter _
  have selected : bothKinds.selected (Session.uploadingEnv default).toRegistryEnv sharedCluster =
      [realConnection.backend] := by
    rw [Registry.selected_eq_matching]
    exact List.perm_singleton.mp ((matching.filter _).map _)
  refine not_unambiguous_of_single (Session.uploadingEnv default) bothKinds selected
    (fun none => ?_) (always _ _ sharedCluster)
  rw [Registry.selectedVirtual_eq_matching] at none
  have virtual := matching.filter fun c => c.kindOrDefault = ConnectionKindVirtual
  rw [none] at virtual
  exact absurd virtual.nil_eq (by decide)

end KvIndexer.Gateway
