import KvIndexer.Gateway.Registry
import KvIndexer.Gateway.Timeline
import KvIndexer.Lib.Gather
import KvIndexer.Lib.Grouped

/-!
Answers merged from all backends (`internal/gateway/gateway.go`).

A fan-out takes the selected backends from the registry, asks them at once and waits for all.
The virtual connections are taken from the registry afterwards, and then their configurations
one by one; connections and configurations may be edited before each of these reads. `Fanout`
is the handler among the edits: `fanoutList_partitions` and `handleClustersHealth_groups` say
of any interleaving what the response is.
-/

namespace KvIndexer.Gateway

open Config

/-! ### One backend -/

/-- What a request to a backend comes back with. -/
inductive Reply
  | failed (err : String)
  | answered (status : Int) (body : String)

/-- A record of a snapshot. -/
inductive Row
  | cluster (c : Cluster)
  | profile (p : ModelProfile)
  | policy (p : Policy)

/-- The backends, as they reply to the request and to the probe, and `encoding/json`. A null
among the items is the nil map. -/
structure FanoutEnv (α : Type) extends RegistryEnv where
  reply : Backend → Reply
  healthz : Backend → Reply
  unmarshalList : String → Option (List (Option (Item α)))
  structToMap : Row → Option (Item α)
  ofBool : Bool → α

variable {α : Type} (env : FanoutEnv α)

/-- `getList`; none on an error. -/
def getList (b : Backend) : Option (List (Option (Item α))) :=
  match env.reply b with
  | .failed _ => none
  | .answered status body =>
      if status ≠ 200 then none
      else if body = "" ∨ body = "null" then some []
      else env.unmarshalList body

def tagItem (cluster backendID : String) (it : Item α) : Item α :=
  (it.insert "_cluster" (.string cluster)).insert "_backend" (.string backendID)

/-- The loop that tags the items. Writing to the nil map panics. -/
def tagItems (cluster backendID : String) : List (Option (Item α)) → Outcome (List (Item α))
  | [] => .wrote []
  | none :: _ => .panicked
  | some it :: items =>
      match tagItems cluster backendID items with
      | .wrote tagged => .wrote (tagItem cluster backendID it :: tagged)
      | .left => .left
      | .panicked => .panicked

/-- The goroutine of a backend in `fanoutList`. -/
def listPart (b : Backend) : Outcome (List (Item α)) :=
  match getList env b with
  | none => .left
  | some items => tagItems b.cluster b.id items

structure BackendHealth where
  id : String
  url : String := ""
  healthy : Bool := false
  error : String := ""
  virtual : Bool := false
deriving DecidableEq

/-- `probe`: the error, if there is one. -/
def probe (b : Backend) : Option String :=
  match env.healthz b with
  | .failed err => some err
  | .answered status _ => if status ≠ 200 then some ("healthz " ++ itoa status) else none

def backendHealth (b : Backend) : BackendHealth :=
  match probe env b with
  | some err => { id := b.id, url := b.url, error := err }
  | none => { id := b.id, url := b.url, healthy := true }

/-- The goroutine of a backend in `handleClustersHealth`. -/
def healthPart (b : Backend) : Outcome (String × BackendHealth) :=
  .wrote (b.cluster, backendHealth env b)

/-! ### The virtual connections -/

def snapshotRows (path : String) (snap : Snapshot) : List Row :=
  if path = "/clusters" then snap.clusters.map .cluster
  else if path = "/model-profiles" then snap.profiles.map .profile
  else if path = "/policies" then snap.policies.map .policy
  else []

def virtualRows (path : String) (db : VirtualConfigs) (c : Connection) : List (Item α) :=
  match getVirtualConfig db c.id with
  | none => []
  | some vc =>
      (snapshotRows path vc.snapshot).filterMap fun row =>
        (env.structToMap row).map fun it =>
          (tagItem c.cluster c.id it).insert "_virtual" (.other (env.ofBool true))

/-- Each selected connection comes with the configurations as they are when it has its turn. -/
def virtualList (path : String) (reads : List (Connection × VirtualConfigs)) : List (Item α) :=
  reads.flatMap fun read => virtualRows env path read.2 read.1

def virtualHealth (c : Connection) : String × BackendHealth :=
  (c.cluster, { id := c.id, healthy := true, virtual := true })

/-! ### The handler among the edits -/

/-- The registry, and the goroutines the handler waits for. -/
structure Fanout (β : Type) where
  registry : Registry
  gather : Gather β

inductive FanoutStep
  | edit (e : Edit)
  /-- a mutation that found `found` earlier writes a virtual configuration -/
  | mutate (m : VirtualMutation) (now : Moment) (found : Option VirtualConfig)
  | finish (i : ℕ)

def FanoutStep.finished : FanoutStep → Option ℕ
  | edit _ => none
  | mutate _ _ _ => none
  | finish i => some i

/-- The registry after a step. -/
def FanoutStep.registry (renv : RegistryEnv) (s : Registry) : FanoutStep → Registry
  | edit e => s.edit renv e
  | mutate m now found =>
      { s with virtualConfigs := (m.transaction now).write found s.virtualConfigs }
  | finish _ => s

namespace Fanout

variable {β : Type} (renv : RegistryEnv) (part : Backend → Outcome β) (zero : β)

/-- How goroutine `i` ends. -/
def outcomeAt (backends : List Backend) (i : ℕ) : Outcome β :=
  (backends[i]?.map part).getD .left

def start (s : Registry) (backends : List Backend) : Fanout β where
  registry := s
  gather := .start zero backends.length

def step (backends : List Backend) (f : Fanout β) (st : FanoutStep) : Fanout β where
  registry := st.registry renv f.registry
  gather :=
    match st.finished with
    | none => f.gather
    | some i => f.gather.finish (outcomeAt part backends) i

/-- The state of the handler after an interleaving. -/
def after (s : Registry) (backends : List Backend) (steps : List FanoutStep) : Fanout β :=
  Run.run (step renv part backends) (start zero s backends) steps

/-- The virtual connections that the handler selects, and what is stored when it reads the
configuration of each. The steps `between i` come right before the read of number `i`. -/
def reads (backends : List Backend) (sel : Selector) (between : ℕ → List FanoutStep)
    (f : Fanout β) : List (Connection × VirtualConfigs) :=
  (f.registry.selectedVirtual renv sel).mapIdx fun i c =>
    (c, (Run.run (step renv part backends) f
      ((List.range (i + 1)).flatMap between)).registry.virtualConfigs)

/-- Every goroutine has come to its end. -/
def Waited (backends : List Backend) (steps : List FanoutStep) : Prop :=
  ∀ i < backends.length, .finish i ∈ steps

end Fanout

open Fanout

/-- `fanoutList`, with what `Wait` left in the slots and the reads after it. -/
def fanoutList (path : String) (postMerge : List (Item α) → List (Item α))
    (parts : List (List (Item α))) (reads : List (Connection × VirtualConfigs)) : List (Item α) :=
  postMerge (parts.flatten ++ virtualList env path reads)

structure ClusterInfo where
  cluster : String
  backends : List BackendHealth
deriving DecidableEq

/-- `handleClustersHealth`, once `Wait` has returned. -/
def handleClustersHealth (f : Fanout (String × BackendHealth)) : List ClusterInfo :=
  (grouped (f.gather.slots ++
    (f.registry.virtualConnections env.toRegistryEnv).map virtualHealth)).map fun group =>
      ⟨group.1, group.2⟩

/-! ### Any interleaving -/

namespace Fanout

variable {β : Type} {renv : RegistryEnv} {part : Backend → Outcome β} {zero : β}
  {s : Registry} {backends : List Backend} {steps : List FanoutStep}

/-- The goroutines do not see the edits, nor the registry the goroutines. -/
theorem after_eq :
    after renv part zero s backends steps =
      { registry := Run.run (FanoutStep.registry renv) s steps
        gather := Run.run (Gather.finish (outcomeAt part backends)) (.start zero backends.length)
          (steps.filterMap FanoutStep.finished) } := by
  unfold after start
  generalize Gather.start zero backends.length = g
  induction steps generalizing s g with
  | nil => rfl
  | cons st steps ih =>
      cases st with
      | edit e => exact ih _
      | mutate m now found => exact ih _
      | finish i => exact ih _

/-- Edits and mutations keep every connection under its id. -/
theorem keyed_after (keyed : s.Keyed) :
    (after renv part zero s backends steps).registry.Keyed := by
  rw [after_eq]
  refine Run.run_invariant (C := fun _ _ => True) (fun s st _ keyed => ?_) keyed
    (Run.eachStep_forall.mpr fun _ _ => trivial)
  cases st with
  | edit e => exact Registry.Keyed.edit keyed e
  | mutate m now found => exact keyed
  | finish i => exact keyed

/-- `Wait` returns once all have come to their end, unless one panics, and then every slot is
as its backend's goroutine leaves it. -/
theorem slots_after (waited : Waited backends steps)
    (sound : ∀ b ∈ backends, part b ≠ .panicked) :
    (after renv part zero s backends steps).gather.Joined ∧
      (after renv part zero s backends steps).gather.slots =
        backends.map fun b => (part b).getD zero := by
  have each : ∀ i (lt : i < backends.length), outcomeAt part backends i = part backends[i] := by
    intro i lt
    rw [outcomeAt, List.getElem?_eq_getElem lt, Option.map_some, Option.getD_some]
  have all : ∀ i < backends.length, i ∈ steps.filterMap FanoutStep.finished :=
    fun i lt => List.mem_filterMap.mpr ⟨.finish i, waited i lt, rfl⟩
  have joined := @Gather.joined_run β zero (outcomeAt part backends) backends.length
    (fun i lt => by
      rw [each i lt]
      exact sound _ (List.getElem_mem lt)) (steps.filterMap FanoutStep.finished) all
  rw [after_eq]
  refine ⟨joined, ?_⟩
  obtain ⟨-, slots⟩ := Gather.slots_of_joined (Gather.Filled.start.run _) joined
  refine slots.trans (List.ext_getElem (by simp) fun i lt lt' => ?_)
  rw [List.length_map] at lt'
  rw [List.getElem_map, List.getElem_map, List.getElem_range, each i lt']

end Fanout

/-! ### Lists -/

section Lists

variable {env}

/-- What a backend contributes. -/
def listed (env : FanoutEnv α) (b : Backend) : List (Item α) := (listPart env b).getD []

theorem backend_tagItem (cluster backendID : String) (it : Item α) :
    fieldText "_backend" (tagItem cluster backendID it) = backendID := by
  rw [fieldText, tagItem, Finmap.lookup_insert]
  rfl

/-- What goes under a tag is found under it, whatever the backend wrote there. -/
theorem backend_of_tagItems {cluster backendID : String} {items : List (Option (Item α))}
    {it : Item α} (member : it ∈ (tagItems cluster backendID items).getD []) :
    fieldText "_backend" it = backendID := by
  induction items with
  | nil => exact absurd member List.not_mem_nil
  | cons item items ih =>
      cases item with
      | none => exact absurd member List.not_mem_nil
      | some item =>
          rw [tagItems] at member
          cases tagged : tagItems cluster backendID items with
          | wrote rest =>
              rw [tagged] at member ih
              rcases List.mem_cons.mp member with rfl | later
              · exact backend_tagItem cluster backendID item
              · exact ih later
          | left =>
              rw [tagged] at member
              exact absurd member List.not_mem_nil
          | panicked =>
              rw [tagged] at member
              exact absurd member List.not_mem_nil

theorem backend_of_listed {b : Backend} {it : Item α} (member : it ∈ listed env b) :
    fieldText "_backend" it = b.id := by
  unfold listed listPart at member
  cases got : getList env b with
  | none =>
      rw [got] at member
      exact absurd member List.not_mem_nil
  | some items =>
      rw [got] at member
      exact backend_of_tagItems member

theorem backend_of_virtualRows {path : String} {db : VirtualConfigs} {c : Connection}
    {it : Item α} (member : it ∈ virtualRows env path db c) :
    fieldText "_backend" it = c.id := by
  unfold virtualRows at member
  split at member
  · exact absurd member List.not_mem_nil
  · obtain ⟨row, -, mapped⟩ := List.mem_filterMap.mp member
    obtain ⟨bare, -, rfl⟩ := Option.map_eq_some_iff.mp mapped
    have other : ("_backend" : String) ≠ "_virtual" := by decide
    rw [fieldText, Finmap.lookup_insert_of_ne _ other]
    exact backend_tagItem c.cluster c.id bare

/-- A tag finds nothing where it was not given. -/
theorem filter_flatMap_tag_eq_nil {γ : Type} {tag : γ → String} {xs : List γ}
    {list : γ → List (Item α)}
    (tagged : ∀ x ∈ xs, ∀ it ∈ list x, fieldText "_backend" it = tag x) {id : String}
    (absent : ∀ x ∈ xs, tag x ≠ id) :
    (xs.flatMap list).filter (fun it => fieldText "_backend" it = id) = [] := by
  rw [List.filter_eq_nil_iff]
  intro it inList
  obtain ⟨x, here, inX⟩ := List.mem_flatMap.mp inList
  rw [tagged x here it inX, decide_eq_true_eq]
  exact absent x here

/-- Of lists under different tags, a tag finds its own. -/
theorem filter_flatMap_tag {γ : Type} {tag : γ → String} {xs : List γ} {list : γ → List (Item α)}
    (once : (xs.map tag).Nodup)
    (tagged : ∀ x ∈ xs, ∀ it ∈ list x, fieldText "_backend" it = tag x) (id : String) :
    (xs.flatMap list).filter (fun it => fieldText "_backend" it = id) =
      (xs.find? fun x => tag x = id).elim [] list := by
  cases found : xs.find? fun x => tag x = id with
  | none =>
      refine filter_flatMap_tag_eq_nil tagged fun x member => ?_
      simpa using List.find?_eq_none.mp found x member
  | some x =>
      obtain ⟨mine, pre, post, rfl, before⟩ := List.find?_eq_some_iff_append.mp found
      obtain rfl := of_decide_eq_true mine
      rw [List.map_append, List.map_cons, List.nodup_append, List.nodup_cons] at once
      have own : (list x).filter (fun it => fieldText "_backend" it = tag x) = list x := by
        refine List.filter_eq_self.mpr fun it inX => decide_eq_true ?_
        exact tagged x (List.mem_append_right _ List.mem_cons_self) it inX
      have nothing (ys : List γ) (among : ∀ y ∈ ys, y ∈ pre ++ x :: post)
          (other : ∀ y ∈ ys, tag y ≠ tag x) :
          (ys.flatMap list).filter (fun it => fieldText "_backend" it = tag x) = [] :=
        filter_flatMap_tag_eq_nil (fun y here => tagged y (among y here)) other
      have front := nothing pre (fun y here => List.mem_append_left _ here)
        fun y here => by simpa using before y here
      have back := nothing post
        (fun y here => List.mem_append_right _ (List.mem_cons_of_mem x here))
        fun y here same => once.2.1.1 (same ▸ List.mem_map_of_mem here)
      rw [List.flatMap_append, List.flatMap_cons, List.filter_append, List.filter_append, front,
        own, back, List.nil_append, List.append_nil]
      rfl

/-! Connections have different ids. -/

variable {renv : RegistryEnv} {s : Registry}

theorem nodup_ids_list (keyed : s.Keyed) : ((s.list renv).map Connection.id).Nodup :=
  (Registry.nodup_list keyed).map_on fun _ left _ right => Registry.eq_of_mem_list keyed left right

theorem nodup_ids_selected (keyed : s.Keyed) (sel : Selector) :
    ((s.selected renv sel).map Backend.id).Nodup := by
  refine (@nodup_ids_list renv s keyed).sublist ?_
  have some_ : ((s.selected renv sel).map Backend.id).Sublist
      ((s.backends renv).map Backend.id) := List.filter_sublist.map _
  refine some_.trans ?_
  rw [Registry.backends, List.map_map]
  exact List.filter_sublist.map _

theorem nodup_ids_selectedVirtual (keyed : s.Keyed) (sel : Selector) :
    ((s.selectedVirtual renv sel).map Connection.id).Nodup :=
  (@nodup_ids_list renv s keyed).sublist
    ((List.filter_sublist.trans List.filter_sublist).map _)

end Lists

/-- Whatever the order in which the backends answer, and whatever is edited before `Wait` returns
and between the reads after it: the list has the answers of the backends selected at first, in
the order of the registry, and then the rows of the virtual connections selected at last, each
as its configuration is when it has its turn. Under an id it has what the backend of that id
answered and the rows of the virtual connection of that id, and nothing else. -/
theorem fanoutList_partitions {s : Registry} (keyed : s.Keyed) (sel : Selector) (path : String)
    (postMerge : List (Item α) → List (Item α)) {waiting later : List FanoutStep}
    (between : ℕ → List FanoutStep)
    (waited : Waited (s.selected env.toRegistryEnv sel) waiting)
    (sound : ∀ b ∈ s.selected env.toRegistryEnv sel, listPart env b ≠ .panicked) :
    let backends := s.selected env.toRegistryEnv sel
    let after := after env.toRegistryEnv (listPart env) [] s backends
    let reads := reads env.toRegistryEnv (listPart env) backends sel between
      (after (waiting ++ later))
    let rows := fun read : Connection × VirtualConfigs => virtualRows env path read.2 read.1
    let items := backends.flatMap (listed env) ++ reads.flatMap rows
    (after waiting).gather.Joined ∧
      fanoutList env path postMerge (after waiting).gather.slots reads = postMerge items ∧
      ∀ id, items.filter (fun it => fieldText "_backend" it = id) =
        (backends.find? fun b => b.id = id).elim [] (listed env) ++
          (reads.find? fun read => read.1.id = id).elim [] rows := by
  intro backends after reads rows items
  obtain ⟨joined, slots⟩ := @slots_after (List (Item α)) env.toRegistryEnv (listPart env) [] s
    backends waiting waited sound
  have onceVirtual : (reads.map fun read => read.1.id).Nodup := by
    have ids : reads.map (fun read => read.1.id) =
        ((after (waiting ++ later)).registry.selectedVirtual env.toRegistryEnv sel).map
          Connection.id := by
      dsimp only [reads, Fanout.reads]
      rw [List.mapIdx_eq_zipIdx_map, List.map_map]
      refine Eq.trans ?_ (congrArg (List.map Connection.id) (List.zipIdx_map_fst 0 _))
      rw [List.map_map]
      rfl
    rw [ids]
    exact nodup_ids_selectedVirtual (keyed_after keyed) sel
  refine ⟨joined, ?_, fun id => ?_⟩
  · rw [fanoutList, slots, ← List.flatMap_def]
    rfl
  · rw [List.filter_append, filter_flatMap_tag (nodup_ids_selected keyed sel)
        fun _ _ _ member => backend_of_listed member,
      filter_flatMap_tag onceVirtual fun _ _ _ member => backend_of_virtualRows member]

/-! Of two backends of two clusters the second one answers first, and the connection of the
first one is deleted before it answers. A virtual cluster gets a rule in the meantime. -/

def askedConnection : Connection :=
  { id := "a", cluster := "c", url := "http://a", enabled := true }

def secondConnection : Connection :=
  { id := "b", cluster := "d", url := "http://b", enabled := true }

def askedVirtual : Connection :=
  { id := "v", cluster := "c", kind := ConnectionKindVirtual, enabled := true }

def askedRegistry : Registry where
  conns := GoMap.ofValues Connection.id [askedConnection, askedVirtual, secondConnection]
  virtualConfigs := Finmap.singleton "v" {}

def answeringEnv (order : GoMap.Orders String Connection) : FanoutEnv Bool where
  parseURL _ := some ⟨"http", "a"⟩
  quote s := s
  order := order
  reply _ := .answered 200 "[\x7b\x7d]"
  healthz _ := .answered 200 "ok"
  unmarshalList _ := some [some ∅]
  structToMap _ := some ∅
  ofBool b := b

def deletedMeanwhile : List FanoutStep :=
  [.finish 1, .edit (.deleteConnection "a"), .finish 0]

def addedRule : Policy := { ruleID := "r" }

/-- The rule is added to the configuration as it was at first. -/
def addRule (now : Moment) : FanoutStep :=
  .mutate (.upsertVirtualPolicy "v" addedRule) now
    (getVirtualConfig askedRegistry.virtualConfigs "v")

theorem keyed_asked : askedRegistry.Keyed := GoMap.ofValues_keyed _

section Deleted

variable {renv : RegistryEnv}

theorem list_asked :
    askedRegistry.list renv = [askedConnection, askedVirtual, secondConnection] :=
  Registry.list_eq_of_lookup keyed_asked (by decide) (by decide)
    fun _ => GoMap.lookup_ofValues_key (by decide)

theorem list_deleted {s : Registry} (gone : s.conns = askedRegistry.conns.erase "a") :
    s.list renv = [askedVirtual, secondConnection] := by
  have keyed : s.Keyed := by
    unfold Registry.Keyed
    rw [gone]
    exact GoMap.Keyed.erase keyed_asked "a"
  refine Registry.list_eq_of_lookup keyed (by decide) (by decide) fun c => ?_
  have found : askedRegistry.conns.lookup c.id = some c ↔
      c ∈ [askedConnection, askedVirtual, secondConnection] :=
    GoMap.lookup_ofValues_key (by decide)
  rw [gone, GoMap.lookup_erase_eq]
  by_cases same : c.id = "a"
  · rw [if_pos same]
    refine iff_of_false (fun found => by cases found) fun member => ?_
    rcases List.mem_pair.mp member with rfl | rfl <;> exact absurd same (by decide)
  · have other : c ≠ askedConnection := fun asked => same (asked ▸ rfl)
    rw [if_neg same, found, List.mem_cons, or_iff_right other]

theorem backends_asked :
    askedRegistry.backends renv = [askedConnection.backend, secondConnection.backend] := by
  rw [Registry.backends, list_asked]
  rfl

theorem selected_asked :
    askedRegistry.selected renv {} = [askedConnection.backend, secondConnection.backend] := by
  rw [Registry.selected, backends_asked]
  rfl

theorem selectedVirtual_asked :
    askedRegistry.selectedVirtual renv {} = [askedVirtual] := by
  rw [Registry.selectedVirtual, Registry.virtualConnections, list_asked]
  rfl

/-- The virtual connection is still there at the end. -/
theorem virtual_deleted {s : Registry} (gone : s.conns = askedRegistry.conns.erase "a") :
    s.virtualConnections renv = [askedVirtual] ∧
      s.selectedVirtual renv {} = [askedVirtual] := by
  have listed : s.virtualConnections renv = [askedVirtual] := by
    rw [Registry.virtualConnections, list_deleted gone]
    rfl
  refine ⟨listed, ?_⟩
  rw [Registry.selectedVirtual, listed]
  rfl

theorem waited_deleted {backends : List Backend} (two : backends.length = 2) :
    Waited backends deletedMeanwhile := by
  intro i lt
  rw [two] at lt
  obtain rfl | rfl : i = 0 ∨ i = 1 := by omega
  · exact List.mem_cons_of_mem _ (List.mem_cons_of_mem _ List.mem_cons_self)
  · exact List.mem_cons_self

/-- The virtual cluster has one rule then. -/
theorem snapshot_addRule (now : Moment) (s : Registry) :
    ∃ vc, getVirtualConfig ((addRule now).registry renv s).virtualConfigs "v" = some vc ∧
      vc.snapshot.policies = [addedRule] := by
  have found : getVirtualConfig askedRegistry.virtualConfigs "v" =
      some { backendID := "v" } := by
    rw [getVirtualConfig, askedRegistry, Finmap.lookup_singleton_eq]
    rfl
  let st := FullStore.upsertPolicy now.bumpedAt {} addedRule
  have written : (VirtualMutation.upsertVirtualPolicy "v" addedRule).written now
      (some { backendID := "v" }) =
        some ⟨⟨st.snapshot now.orders, now.updatedAt⟩, "v"⟩ := rfl
  have db : ((addRule now).registry renv s).virtualConfigs =
      s.virtualConfigs.insert "v" ⟨st.snapshot now.orders, now.updatedAt⟩ := by
    simp only [addRule, FanoutStep.registry, VirtualMutation.transaction, found, written]
    rfl
  refine ⟨⟨⟨st.snapshot now.orders, now.updatedAt⟩, "v"⟩, ?_, ?_⟩
  · rw [getVirtualConfig, db, Finmap.lookup_insert]
    rfl
  · exact GoMap.values_singleton (now.orders.policies _)

end Deleted

/-- The answers of both are in the list, and the rule. -/
theorem deleted_listed :
    let env := answeringEnv default
    let backends := askedRegistry.selected env.toRegistryEnv {}
    let after := after env.toRegistryEnv (listPart env) [] askedRegistry backends
    let now : Moment := ⟨0, 0, default⟩
    fanoutList env "/policies" id (after deletedMeanwhile).gather.slots
        (reads env.toRegistryEnv (listPart env) backends {} (fun _ => [addRule now])
          (after deletedMeanwhile)) =
      [tagItem "c" "a" ∅, tagItem "d" "b" ∅,
        (tagItem "c" "v" ∅).insert "_virtual" (.other true)] := by
  intro env backends after now
  have two : backends = [askedConnection.backend, secondConnection.backend] := selected_asked
  obtain ⟨-, whole, -⟩ := @fanoutList_partitions Bool env askedRegistry keyed_asked {} "/policies"
    id deletedMeanwhile [] (fun _ => [addRule now]) (waited_deleted (congrArg List.length two))
    fun b _ panics => by cases panics
  have answers : backends.flatMap (listed env) = [tagItem "c" "a" ∅, tagItem "d" "b" ∅] := by
    rw [two]
    rfl
  have last : reads env.toRegistryEnv (listPart env) backends {} (fun _ => [addRule now])
      (after deletedMeanwhile) = [(askedVirtual, ((addRule now).registry env.toRegistryEnv
        (after deletedMeanwhile).registry).virtualConfigs)] := by
    rw [reads, (virtual_deleted rfl).2]
    rfl
  obtain ⟨vc, stored, rule⟩ :=
    @snapshot_addRule env.toRegistryEnv now (after deletedMeanwhile).registry
  have rows : virtualRows env "/policies" ((addRule now).registry env.toRegistryEnv
      (after deletedMeanwhile).registry).virtualConfigs askedVirtual =
        [(tagItem "c" "v" ∅).insert "_virtual" (.other true)] := by
    rw [virtualRows, show askedVirtual.id = "v" from rfl, stored]
    dsimp only
    rw [snapshotRows, if_neg (by decide), if_neg (by decide), if_pos rfl, rule]
    rfl
  refine whole.trans ?_
  rw [List.append_nil]
  change backends.flatMap (listed env) ++
    (reads env.toRegistryEnv (listPart env) backends {} (fun _ => [addRule now])
      (after deletedMeanwhile)).flatMap
        (fun read => virtualRows env "/policies" read.2 read.1) = _
  rw [answers, last, List.flatMap_singleton, rows]
  rfl

/-! ### Health -/

/-- Whatever the order in which the probes come back, and whatever edits come in between: the
clusters stand in the order of their first connection, each once, and every backend known at
first and every virtual connection known at last has one row, under its cluster. -/
theorem handleClustersHealth_groups (s : Registry) {steps : List FanoutStep}
    (waited : Waited (s.backends env.toRegistryEnv) steps) :
    let backends := s.backends env.toRegistryEnv
    let f := after env.toRegistryEnv (healthPart env) ("", { id := "" }) s backends steps
    let rows := backends.map (fun b => (b.cluster, backendHealth env b)) ++
      (f.registry.virtualConnections env.toRegistryEnv).map virtualHealth
    let clusters := firstSeen id ∅ (rows.map Prod.fst)
    let out := handleClustersHealth env f
    f.gather.Joined ∧ clusters.Nodup ∧
      out = clusters.map (fun cluster => ⟨cluster, rowsOf rows cluster⟩) ∧
      (out.flatMap ClusterInfo.backends).Perm (rows.map Prod.snd) := by
  intro backends f rows clusters out
  obtain ⟨joined, slots⟩ := @slots_after (String × BackendHealth) env.toRegistryEnv
    (healthPart env) ("", { id := "" }) s backends steps waited fun b _ panics => by cases panics
  have once : clusters.Nodup := by
    have distinct := @nodup_firstSeen String String _ id ∅ (rows.map Prod.fst)
    rwa [List.map_id] at distinct
  have grouped_ : out = clusters.map (fun cluster => ⟨cluster, rowsOf rows cluster⟩) := by
    dsimp only [out]
    rw [handleClustersHealth, slots]
    have all : backends.map (fun b => (healthPart env b).getD ("", { id := "" })) ++
        (f.registry.virtualConnections env.toRegistryEnv).map virtualHealth = rows := rfl
    rw [all, grouped_eq, List.map_map]
    rfl
  refine ⟨joined, once, grouped_, ?_⟩
  have each : out.flatMap ClusterInfo.backends = clusters.flatMap (rowsOf rows) := by
    rw [grouped_, List.flatMap_map]
  rw [each]
  exact flatMap_rowsOf_perm once fun row member =>
    mem_firstSeen_id.mpr (List.mem_map_of_mem member)

/-- The backend is listed, and all are healthy. -/
theorem deleted_healthy :
    let env := answeringEnv default
    handleClustersHealth env
        (after env.toRegistryEnv (healthPart env) ("", { id := "" }) askedRegistry
          (askedRegistry.backends env.toRegistryEnv) deletedMeanwhile) =
      [⟨"c", [{ id := "a", url := "http://a", healthy := true },
          { id := "v", healthy := true, virtual := true }]⟩,
        ⟨"d", [{ id := "b", url := "http://b", healthy := true }]⟩] := by
  intro env
  have two : askedRegistry.backends env.toRegistryEnv =
      [askedConnection.backend, secondConnection.backend] := backends_asked
  obtain ⟨-, -, groups, -⟩ := handleClustersHealth_groups env askedRegistry
    (waited_deleted (congrArg List.length two))
  rw [groups, (virtual_deleted rfl).1, two]
  decide +kernel

end KvIndexer.Gateway
