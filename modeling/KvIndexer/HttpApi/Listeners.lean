import KvIndexer.Config.Seeding

/-!
Reconciling the running listeners with the configured engines
(`internal/httpapi/service.go`, `internal/httpapi/config_handlers.go`).

`syncListeners` stops the listeners of engines that are gone and starts those that are
missing; it looks at the id of a running listener only (`lookup_syncListeners`). An engine
registered again with another stream keeps the listener it had: `always_tracks_iff`.
-/

namespace KvIndexer.HttpApi

open Config
open Admission (Platform)

/-- What a listener is started with. The state it builds up is `KvEvents.Listener`. -/
structure Subscription where
  engineID : String
  model : String
  endpoint : String
  topic : String
  replayEndpoint : String := ""
deriving DecidableEq, Repr

def newListener (engineID model endpoint topic : String) : Subscription :=
  { engineID, model, endpoint, topic }

def Subscription.setReplayEndpoint (l : Subscription) (endpoint : String) : Subscription :=
  { l with replayEndpoint := endpoint }

/-- The listener started for an engine. -/
def startListener (e : Engine) : Subscription :=
  let model := e.servedModels.headD ""
  (newListener e.engineID model e.kvEventEndpoint e.topic).setReplayEndpoint e.replayEndpoint

/-- The engines that publish events, by id. -/
def wantedEngines (orders : MapOrders) (store : FullStore) : GoMap String Engine :=
  GoMap.ofValues Engine.engineID
    ((store.listEngines orders).filter fun e => e.kvEventEndpoint ≠ "")

/-- `SyncListeners` -/
def syncListeners (orders : MapOrders) (store : FullStore) (listeners : GoMap String Subscription) :
    GoMap String Subscription :=
  let want := wantedEngines orders store
  -- stop listeners no longer wanted
  let kept := GoMap.filterKeys (· ∈ want) listeners
  -- start listeners for new engines
  GoMap.updateEach want.keys
    (fun id running => running.or ((want.lookup id).map startListener)) kept

/-- The store with the running listeners, by engine id. -/
structure Listening where
  store : FullStore
  listeners : GoMap String Subscription := ∅

def Listening.sync (orders : MapOrders) (st : Listening) : Listening :=
  { st with listeners := syncListeners orders st.store st.listeners }

/-! ### Handlers -/

/-- The fields a patch sets. Labels are left out. -/
structure EnginePatch where
  healthy : Option Bool := none
  draining : Option Bool := none
  enabled : Option Bool := none
  queueDepth : Option Int64 := none
  maxNumSeqs : Option Int64 := none

def EnginePatch.apply (p : EnginePatch) (e : Engine) : Engine :=
  { e with
    healthy := p.healthy.getD e.healthy
    draining := p.draining.getD e.draining
    enabled := p.enabled.getD e.enabled
    queueDepth := p.queueDepth.getD e.queueDepth
    maxNumSeqs := p.maxNumSeqs.getD e.maxNumSeqs }

section Handlers

variable (now : Int) (orders : MapOrders) (st : Listening)

/-- The engine as it is registered. -/
def registered (e : Engine) : Engine := if e.topic = "" then { e with topic := "kv-events" } else e

/-- An engine without an id is answered with an error. -/
def handleRegisterEngine (e : Engine) : Listening :=
  if e.engineID = "" then st
  else { st with store := st.store.upsertEngine now (registered e) }.sync orders

/-- An unknown engine is answered with an error. -/
def handleUnregisterEngine (id : String) : Listening :=
  match st.store.removeEngine now id with
  | (_, false) => st
  | (store, true) => { st with store := store }.sync orders

def handlePatchEngine (id : String) (p : EnginePatch) : Listening :=
  { st with store := (st.store.patchEngine now id p.apply).1 }

end Handlers

inductive EngineRequest
  | register (e : Engine)
  | unregister (id : String)
  | patch (id : String) (p : EnginePatch)

def Listening.handle (now : Int) (orders : MapOrders) (st : Listening) : EngineRequest → Listening
  | .register e => handleRegisterEngine now orders st e
  | .unregister id => handleUnregisterEngine now orders st id
  | .patch id p => handlePatchEngine now st id p

/-- A request with the time at which it is handled and the orders of the ranges. -/
structure TimedRequest where
  now : Int
  orders : MapOrders
  request : EngineRequest

/-- A request, followed by a sync. -/
def Listening.step (st : Listening) (op : TimedRequest) : Listening :=
  (st.handle op.now op.orders op.request).sync op.orders

/-- The listeners right after startup. -/
def Listening.start (orders : MapOrders) (store : FullStore) : Listening :=
  Listening.sync orders { store }

/-! ### What a sync does -/

/-- The engine stored under the id, if it publishes events. -/
def publisher (store : FullStore) (id : String) : Option Engine :=
  (store.engines.lookup id).filter fun e => e.kvEventEndpoint ≠ ""

/-- There is one listener for each engine that publishes events, started with what the
engine has now. -/
def Listening.Tracks (st : Listening) : Prop :=
  ∀ id, st.listeners.lookup id = (publisher st.store id).map startListener

section Sync

variable {store : FullStore} (keyed : store.engines.Keyed Engine.engineID) (orders : MapOrders)
include keyed

theorem publisher_of_wantedEngines {id : String} {e : Engine}
    (found : (wantedEngines orders store).lookup id = some e) : publisher store id = some e := by
  obtain ⟨listed, publishes⟩ := List.mem_filter.mp (GoMap.mem_of_lookup_ofValues found)
  have underKey : e.engineID = id := GoMap.ofValues_keyed _ id e found
  obtain ⟨id', stored⟩ :=
    (orders.engines store.engines).mem_values.mp ((sortByID Engine.engineID).mem_sort.mp listed)
  rw [← keyed id' e stored, underKey] at stored
  exact Option.filter_eq_some_iff.mpr ⟨stored, publishes⟩

theorem lookup_wantedEngines (id : String) :
    (wantedEngines orders store).lookup id = publisher store id := by
  cases found : (wantedEngines orders store).lookup id with
  | some e => exact (publisher_of_wantedEngines keyed orders found).symm
  | none =>
      cases publishes : publisher store id with
      | none => rfl
      | some e =>
          obtain ⟨stored, endpoint⟩ := Option.filter_eq_some_iff.mp publishes
          have listed : e ∈ store.listEngines orders := (sortByID Engine.engineID).mem_sort.mpr
            ((orders.engines store.engines).mem_values.mpr ⟨id, stored⟩)
          obtain ⟨e', present⟩ := GoMap.exists_lookup_ofValues.mpr
            ⟨e, (List.mem_filter (p := fun e => decide (e.kvEventEndpoint ≠ ""))).mpr
              ⟨listed, endpoint⟩, keyed id e stored⟩
          have present : (wantedEngines orders store).lookup id = some e' := present
          rw [found] at present
          cases present

/-- A sync keeps the listener of a wanted engine as it is, if it has one. -/
theorem lookup_syncListeners (listeners : GoMap String Subscription) (id : String) :
    (syncListeners orders store listeners).lookup id =
      (publisher store id).map fun e => (listeners.lookup id).getD (startListener e) := by
  have wanted := lookup_wantedEngines keyed orders id
  have member : id ∈ wantedEngines orders store ↔ (publisher store id).isSome := by
    rw [← Finmap.lookup_isSome, wanted]
  unfold syncListeners
  simp only [GoMap.lookup_updateEach, GoMap.lookup_filterKeys, Finmap.mem_keys, member, wanted]
  cases publisher store id with
  | none => rfl
  | some e =>
      cases listeners.lookup id with
      | none => rfl
      | some l => rfl

/-- One more sync changes nothing. -/
theorem syncListeners_idem (orders' : MapOrders) (listeners : GoMap String Subscription) :
    syncListeners orders' store (syncListeners orders store listeners) =
      syncListeners orders store listeners := by
  refine Finmap.ext_lookup fun id => ?_
  rw [lookup_syncListeners keyed, lookup_syncListeners keyed]
  cases publisher store id with
  | none => rfl
  | some e => rfl

/-- Right after startup the listeners are those of the stored engines. -/
theorem Listening.Tracks.start : (Listening.start orders store).Tracks := by
  intro id
  show (syncListeners orders store ∅).lookup id = _
  rw [lookup_syncListeners keyed]
  rfl

end Sync

/-! ### Runs -/

/-- The listeners of the two engines are started alike. -/
structure SameStream (old new : Engine) : Prop where
  endpoint : old.kvEventEndpoint = new.kvEventEndpoint
  replayEndpoint : old.replayEndpoint = new.replayEndpoint
  topic : old.topic = new.topic
  model : old.servedModels.headD "" = new.servedModels.headD ""

/-- A registration that replaces an engine publishing events by one publishing events
changes nothing about its stream. -/
def KeepsStream (st : Listening) (op : TimedRequest) : Prop :=
  ∀ e, op.request = .register e → e.engineID ≠ "" → e.kvEventEndpoint ≠ "" →
    ∀ old, publisher st.store e.engineID = some old → SameStream old (registered e)

theorem startListener_eq_iff {old new : Engine} (same : old.engineID = new.engineID) :
    startListener old = startListener new ↔ SameStream old new := by
  constructor
  · intro started
    have fields := Subscription.mk.inj started
    exact ⟨fields.2.2.1, fields.2.2.2.2, fields.2.2.2.1, fields.2.1⟩
  · rintro ⟨endpoint, replayEndpoint, topic, model⟩
    unfold startListener
    rw [same, endpoint, replayEndpoint, topic, model]

@[simp] theorem engineID_registered (e : Engine) : (registered e).engineID = e.engineID := by
  unfold registered
  split
  · rfl
  · rfl

@[simp] theorem kvEventEndpoint_registered (e : Engine) :
    (registered e).kvEventEndpoint = e.kvEventEndpoint := by
  unfold registered
  split
  · rfl
  · rfl

/-- The store a request leaves. -/
def EngineRequest.store (now : Int) (store : FullStore) : EngineRequest → FullStore
  | .register e => if e.engineID = "" then store else store.upsertEngine now (registered e)
  | .unregister id => (store.removeEngine now id).1
  | .patch id p => (store.patchEngine now id p.apply).1

section Request

variable {now : Int} {store : FullStore} {request : EngineRequest}

theorem consistent_store (consistent : store.Consistent) :
    (request.store now store).Consistent := by
  cases request with
  | register e =>
      simp only [EngineRequest.store]
      split
      · exact consistent
      · exact consistent.mutate now (m := .upsertEngine (registered e)) trivial
  | unregister id => exact consistent.mutate now (m := .removeEngine id) trivial
  | patch id p => exact consistent.mutate now (m := .patchEngine id p.apply) fun _ => rfl

/-- Where an engine comes from that publishes events after a request: it was registered by
it, or it was there with the same stream. -/
theorem publisher_store {id : String} {e : Engine}
    (publishes : publisher (request.store now store) id = some e) :
    (∃ new, request = .register new ∧ new.engineID ≠ "" ∧ id = new.engineID ∧ e = registered new) ∨
      ∃ old, publisher store id = some old ∧ startListener old = startListener e := by
  obtain ⟨stored, endpoint⟩ := Option.filter_eq_some_iff.mp publishes
  have unchanged : ∀ {old}, store.engines.lookup id = some old →
      startListener old = startListener e → old.kvEventEndpoint = e.kvEventEndpoint →
      ∃ old, publisher store id = some old ∧ startListener old = startListener e := by
    intro old found started same
    refine ⟨old, Option.filter_eq_some_iff.mpr ⟨found, ?_⟩, started⟩
    rw [same]
    exact endpoint
  cases request with
  | register new =>
      simp only [EngineRequest.store] at stored
      split at stored
      · exact Or.inr (unchanged stored rfl rfl)
      · rename_i named
        have stored : (store.engines.insert (registered new).engineID (registered new)).lookup id =
          some e := stored
        rw [GoMap.lookup_insert_eq] at stored
        split at stored
        · rename_i here
          rw [engineID_registered] at here
          exact Or.inl ⟨new, rfl, named, here, (Option.some.inj stored).symm⟩
        · exact Or.inr (unchanged stored rfl rfl)
  | unregister id' =>
      simp only [EngineRequest.store, FullStore.removeEngine] at stored
      cases found : store.engines.lookup id' with
      | none =>
          rw [found] at stored
          exact Or.inr (unchanged stored rfl rfl)
      | some _ =>
          rw [found] at stored
          have stored : (store.engines.erase id').lookup id = some e := stored
          rw [GoMap.lookup_erase_eq] at stored
          split at stored
          · cases stored
          · exact Or.inr (unchanged stored rfl rfl)
  | patch id' p =>
      simp only [EngineRequest.store, FullStore.patchEngine] at stored
      cases found : store.engines.lookup id' with
      | none =>
          rw [found] at stored
          exact Or.inr (unchanged stored rfl rfl)
      | some old =>
          rw [found] at stored
          have stored : (store.engines.insert id' (p.apply old)).lookup id = some e := stored
          rw [GoMap.lookup_insert_eq] at stored
          split at stored
          · rename_i here
            obtain rfl := Option.some.inj stored
            rw [← here] at found
            exact Or.inr (unchanged found rfl rfl)
          · exact Or.inr (unchanged stored rfl rfl)

end Request

/-- A request and a sync: the store changes, then the listeners follow it. -/
theorem Listening.step_eq {st : Listening} (consistent : st.store.Consistent) (op : TimedRequest) :
    st.step op =
      { store := op.request.store op.now st.store
        listeners := syncListeners op.orders (op.request.store op.now st.store) st.listeners } := by
  have keyed := (@consistent_store op.now _ op.request consistent).engines
  obtain ⟨now, orders, request⟩ := op
  cases request with
  | register e =>
      simp only [Listening.step, Listening.handle, handleRegisterEngine, EngineRequest.store]
      split
      · rfl
      · rename_i named
        simp only [EngineRequest.store, if_neg named] at keyed
        exact congrArg (Listening.mk _) (syncListeners_idem keyed orders orders st.listeners)
  | unregister id =>
      simp only [Listening.step, Listening.handle, handleUnregisterEngine, EngineRequest.store]
      split
      · rename_i store missing
        have same := FullStore.mutate_notFound (m := .removeEngine id) (congrArg Prod.snd missing)
        rw [show (st.store.removeEngine now id).1 = st.store from same]
        rfl
      · rename_i store found
        simp only [EngineRequest.store, found] at keyed
        rw [found]
        exact congrArg (Listening.mk _) (syncListeners_idem keyed orders orders st.listeners)
  | patch id p => rfl

/-- A step keeps the listeners true to the engines exactly when it does not replace a stream
by another one. -/
theorem tracks_step_iff {st : Listening} {op : TimedRequest} (consistent : st.store.Consistent)
    (tracks : st.Tracks) : (st.step op).Tracks ↔ KeepsStream st op := by
  have consistent' := @consistent_store op.now _ op.request consistent
  have reads : ∀ id, (st.step op).listeners.lookup id =
      (publisher (op.request.store op.now st.store) id).map fun e =>
        ((publisher st.store id).map startListener).getD (startListener e) := by
    intro id
    rw [Listening.step_eq consistent]
    show (syncListeners _ _ _).lookup id = _
    rw [lookup_syncListeners consistent'.engines, tracks id]
  have stored : (st.step op).store = op.request.store op.now st.store := by
    rw [Listening.step_eq consistent]
  unfold Listening.Tracks
  simp only [reads, stored]
  constructor
  · intro same new registers named endpoint old publishes
    have now' : publisher (op.request.store op.now st.store) new.engineID =
        some (registered new) := by
      refine Option.filter_eq_some_iff.mpr ⟨?_, by simpa using endpoint⟩
      rw [registers]
      simp only [EngineRequest.store, if_neg named, FullStore.upsertEngine]
      show (st.store.engines.insert (registered new).engineID (registered new)).lookup _ = _
      rw [engineID_registered, Finmap.lookup_insert]
    have here := same new.engineID
    rw [now', publishes] at here
    have underKey := consistent.engines _ old (Option.filter_eq_some_iff.mp publishes).1
    exact (startListener_eq_iff (underKey.trans (engineID_registered new).symm)).mp
      (Option.some.inj here)
  · intro keeps id
    cases publishes : publisher (op.request.store op.now st.store) id with
    | none => rfl
    | some e =>
        refine congrArg some ?_
        cases before : publisher st.store id with
        | none => rfl
        | some old =>
            show startListener old = startListener e
            rcases publisher_store publishes with
              ⟨new, registers, named, rfl, rfl⟩ | ⟨old', same, started⟩
            · have endpoint := (Option.filter_eq_some_iff.mp publishes).2
              have underKey := consistent.engines _ old (Option.filter_eq_some_iff.mp before).1
              refine (startListener_eq_iff (underKey.trans (engineID_registered new).symm)).mpr ?_
              exact keeps new registers named (by simpa using endpoint) old before
            · rw [before] at same
              obtain rfl := Option.some.inj same
              exact started

/-- From startup on, the listeners are those of the configured engines in every state exactly
when no registration replaces the stream of an engine by another one. -/
theorem always_tracks_iff (platform : Platform) (clock : Nat → Int) (saved : Option Snapshot)
    (boot : Option Bootstrap) (clusterID : String) (orders : MapOrders) (ops : List TimedRequest) :
    let start := Listening.start orders (startup platform clock saved boot clusterID)
    (∀ pre post, ops = pre ++ post → (Run.run Listening.step start pre).Tracks) ↔
      Run.EachStep Listening.step KeepsStream start ops := by
  have consistent := FullStore.Consistent.startup platform clock saved boot clusterID
  refine @Run.always_iff_eachStep _ _ _ _ (fun st : Listening => st.store.Consistent) _
    (fun st op good => ?_) (fun st op good tracks => tracks_step_iff good tracks) _ ?_
    (Listening.Tracks.start consistent.engines orders) ops
  · rw [Listening.step_eq good]
    exact consistent_store good
  · exact consistent

/-! An engine moves to another endpoint. -/

def firstEndpoint : Engine where
  engineID := "e"
  kvEventEndpoint := "tcp://a:5557"

def secondEndpoint : Engine := { firstEndpoint with kvEventEndpoint := "tcp://b:5557" }

noncomputable def moves : List TimedRequest :=
  [⟨0, default, .register firstEndpoint⟩, ⟨1, default, .register secondEndpoint⟩]

/-- Its listener still reads from the first. -/
theorem not_always_tracks :
    ¬ ∀ platform clock saved boot clusterID orders ops pre post, ops = pre ++ post →
      (Run.run Listening.step
        (Listening.start orders (startup platform clock saved boot clusterID)) pre).Tracks := by
  intro always
  set start := Listening.start default (startup .plain (fun _ => 0) none none "") with startIs
  set st := start.step ⟨0, default, .register firstEndpoint⟩ with stIs
  have before : st.Tracks := always .plain (fun _ => 0) none none "" default moves
    [⟨0, default, .register firstEndpoint⟩] [⟨1, default, .register secondEndpoint⟩] rfl
  have after : (st.step ⟨1, default, .register secondEndpoint⟩).Tracks :=
    always .plain (fun _ => 0) none none "" default moves moves [] rfl
  have empty : start.store.Consistent := FullStore.Consistent.empty
  have stored : st.store = (EngineRequest.register firstEndpoint).store 0 start.store := by
    rw [stIs, Listening.step_eq empty]
  have consistent : st.store.Consistent := by
    rw [stored]
    exact consistent_store empty
  have registeredFirst : publisher st.store "e" = some (registered firstEndpoint) := by
    rw [stored]
    decide +kernel
  have same := (tracks_step_iff consistent before).mp after secondEndpoint rfl (by decide)
    (by decide) (registered firstEndpoint) registeredFirst
  exact absurd same.endpoint (by decide)

end KvIndexer.HttpApi
