import KvIndexer.Config.Freshness
import KvIndexer.HttpApi.Service

/-!
Which index a fresh stream speaks for.

Each batch goes to the index of the namespace its model resolves to when it is
ingested; admission reads the index of the namespace the model resolves to when it is
asked. In between the profiles can change, and the freshness check looks at neither.

`KeepsTarget` says of each delivery and each profile mutation whether it leaves a stream
without gaps where it was: in the fields of the mutation, the profiles it meets and the log of
the batches. In a run of such steps the index that admission reads has been given every batch
that a fresh listener has tracked (`freshRefers_run`). Streams that are not connected now count
as well there, since they may come back without a gap; for all streams without gaps the
condition is exact (`gaplessRefers_iff`).
-/

namespace KvIndexer.HttpApi

open Residency KvEvents Config

/-- One step of the service: a message of a stream, a change of a connection, or a
profile mutation. Each call of the resolver ranges over the profiles in its own order. -/
inductive Turn where
  | live (engineID : String) (clock : Clock) (order : RangeOrder) (frames : List (List UInt8))
  | replayed (engineID : String) (clock : Clock) (order : RangeOrder) (frames : List (List UInt8))
  | connect (engineID : String)
  | disconnect (engineID : String) (err : String)
  | mutate (m : Mutation)

/-- A batch a listener has tracked: its engine, and what `ingest` was given with it. -/
structure Tracked where
  engineID : String
  moment : Moment
  batch : Batch

/-- The namespace whose index was given the batch, if one was. -/
def Tracked.ns (t : Tracked) : Option String := t.moment.resolved.map Resolved.ns

/-- The service, and the batches tracked so far (ghost). -/
structure Watched where
  service : Service
  tracked : List Tracked := []

namespace Watched

section Steps

variable (rt : Runtime)

/-- What `ingest` reads when the listener calls it. -/
def momentOf (s : Service) (order : RangeOrder) (clock : Clock) (l : Listener) : Moment :=
  ⟨resolveIngest s order l.model l.engineID, clock⟩

/-- What the listener works on. -/
def stateOf (s : Service) (l : Listener) : State := ⟨l, s.index, s.kvEvents⟩

def putState (s : Service) (engineID : String) (st : State) : Service :=
  { s with
    listeners := s.listeners.insert engineID st.listener
    index := st.indexes
    kvEvents := st.sink }

/-- One step; a message to an engine without a listener is not received. -/
def step (w : Watched) : Turn → Watched
  | .live engineID clock order frames =>
      match w.service.listeners.lookup engineID with
      | none => w
      | some l =>
          let m := momentOf w.service order clock l
          match handleFrames rt m (stateOf w.service l) frames with
          | .error _ => w
          | .ok st =>
              { service := putState w.service engineID st
                tracked := w.tracked ++
                  (liveBatch rt frames).toList.map fun batch => ⟨engineID, m, batch⟩ }
  | .replayed engineID clock order frames =>
      match w.service.listeners.lookup engineID with
      | none => w
      | some l =>
          let m := momentOf w.service order clock l
          { service := putState w.service engineID (replayMessage rt m (stateOf w.service l) frames)
            tracked := w.tracked ++
              (replayBatch rt frames).toList.map fun batch => ⟨engineID, m, batch⟩ }
  | .connect engineID =>
      match w.service.listeners.lookup engineID with
      | none => w
      | some l =>
          { w with
            service :=
              { w.service with listeners := w.service.listeners.insert engineID l.connect } }
  | .disconnect engineID err =>
      match w.service.listeners.lookup engineID with
      | none => w
      | some l =>
          { w with
            service :=
              { w.service with
                listeners := w.service.listeners.insert engineID (l.disconnect err) } }
  | .mutate m => { w with service := { w.service with store := w.service.store.mutate m } }

end Steps

/-! ### The property -/

/-- All tracked batches of the engine went to the index of the namespace. -/
def WentTo (tracked : List Tracked) (engineID ns : String) : Prop :=
  ∀ t ∈ tracked, t.engineID = engineID → t.ns = some ns

/-- Whatever profile `model` may resolve to, its namespace is the one all tracked batches
of the engine went to. -/
def Refers (store : Store) (model engineID : String) (tracked : List Tracked) : Prop :=
  ∀ p, store.Resolves model p → WentTo tracked engineID p.namespace

/-- A fresh stream speaks for the index admission reads. -/
def FreshRefers (w : Watched) : Prop :=
  ∀ e : Engine, streamFreshForEngines w.service.listeners [e] = true →
    ∀ l, w.service.listeners.lookup e.engineID = some l →
      Refers w.service.store l.model e.engineID w.tracked

/-- So does any stream without gaps, connected or not. -/
def GaplessRefers (w : Watched) : Prop :=
  ∀ engineID l, w.service.listeners.lookup engineID = some l → l.gaps = 0 →
    Refers w.service.store l.model engineID w.tracked

theorem GaplessRefers.fresh {w : Watched} (refers : GaplessRefers w) : FreshRefers w := by
  intro e isFresh l found
  obtain ⟨l', found', trusted⟩ := streamFreshForEngines_singleton.mp isFresh
  obtain rfl := Option.some.inj (found.symm.trans found')
  exact refers e.engineID l found (Listener.trusted_iff.mp trusted).2

/-! ### The condition -/

/-- A batch that opens no gap in a stream without gaps arrives while all profiles its model can
resolve to have the namespace of the one it does resolve to. -/
def KeepsBatch (w : Watched) (engineID : String) (order : RangeOrder) (found : Option Batch) :
    Prop :=
  ∀ l batch, w.service.listeners.lookup engineID = some l → found = some batch →
    l.gaps = 0 → l.continues (int64 batch.seq) →
    ∀ p q, w.service.store.Resolves l.model p →
      w.service.store.resolveProfile (order w.service.store.profiles) l.model = some q →
      q.namespace = p.namespace

section Mutations

variable (store : Store) (model engineID : String) (tracked : List Tracked)

/-- An upsert of a profile that the model has for its id, or lists as an alias while there is
no profile of that id. If the model resolved to the profile that is replaced, no batch has been
tracked yet, or the hash-affecting fields and the version stay. Otherwise all batches went to
the namespace of these fields with the version the profile gets. -/
def KeepsUpsert (p : ModelProfile) : Prop :=
  (model = p.modelID ∨ store.profiles.lookup model = none ∧ model ∈ p.aliases) →
    match store.profiles.lookup p.modelID with
    | some old =>
        let affects := affectsHashNamespace old (normalizeModelProfile p)
        if model = p.modelID ∨ model ∈ old.aliases then
          (∀ t ∈ tracked, t.engineID ≠ engineID) ∨
            affects = false ∧ (p.version = 0 ∨ p.version = old.version)
        else
          let version :=
            if affects then old.version + 1
            else if p.version = 0 then old.version
            else p.version
          WentTo tracked engineID { p with version := version }.namespace
    | none => WentTo tracked engineID { p with version := firstVersion p }.namespace

/-- A removal of the model's own profile, when it has one. All batches went to the namespaces of
the other profiles that list the model. -/
def KeepsRemove (id : String) : Prop :=
  model = id → (store.profiles.lookup id).isSome →
    ∀ id' p, id' ≠ id → store.profiles.lookup id' = some p → id ∈ p.aliases →
      WentTo tracked engineID p.namespace

end Mutations

/-- The step leaves every stream without gaps speaking for the index admission reads. A
connection changes neither the profiles nor the log. -/
def KeepsTarget (rt : Runtime) (w : Watched) : Turn → Prop
  | .live engineID _ order frames => KeepsBatch w engineID order (liveBatch rt frames)
  | .replayed engineID _ order frames => KeepsBatch w engineID order (replayBatch rt frames)
  | .connect _ => True
  | .disconnect _ _ => True
  | .mutate (.upsert _ p) =>
      ∀ engineID l, w.service.listeners.lookup engineID = some l → l.gaps = 0 →
        KeepsUpsert w.service.store l.model engineID w.tracked p
  | .mutate (.remove _ id) =>
      ∀ engineID l, w.service.listeners.lookup engineID = some l → l.gaps = 0 →
        KeepsRemove w.service.store l.model engineID w.tracked id

/-! ### Mutations of the profiles -/

section Mutations

variable {store : Store} {model engineID : String} {tracked : List Tracked}

theorem WentTo.of_eq {ns ns' : String} (went : WentTo tracked engineID ns) (same : ns = ns') :
    WentTo tracked engineID ns' := same ▸ went

/-- A batch went to one index only. -/
theorem WentTo.unique {ns ns' : String} {t : Tracked} (went : WentTo tracked engineID ns)
    (went' : WentTo tracked engineID ns') (member : t ∈ tracked) (mine : t.engineID = engineID) :
    ns = ns' :=
  Option.some.inj ((went t member mine).symm.trans (went' t member mine))

/-- The namespace of a stored profile, from the fields given and the version. -/
theorem namespace_storedProfile (old : Option ModelProfile) (p : ModelProfile) :
    (storedProfile old p).namespace =
      { p with version := (storedProfile old p).version }.namespace := by
  obtain ⟨hashProfile, blockSize⟩ :=
    ModelProfile.blockSize_of_hashFields (hashFields_storedProfile old p)
  obtain ⟨hashProfile', blockSize'⟩ := hashProfile_normalizeModelProfile p
  exact ModelProfile.namespace_congr (modelID_storedProfile old p) rfl
    (hashProfile.trans hashProfile') (blockSize.trans blockSize')

/-- The stored profile has the namespace of the one it replaces exactly when the hash-affecting
fields and the version stay. -/
theorem namespace_storedProfile_eq_iff {old p : ModelProfile} (model : old.modelID = p.modelID) :
    (storedProfile (some old) p).namespace = old.namespace ↔
      affectsHashNamespace old (normalizeModelProfile p) = false ∧
        (p.version = 0 ∨ p.version = old.version) := by
  have id : (storedProfile (some old) p).modelID = old.modelID :=
    (modelID_storedProfile _ p).trans model.symm
  constructor
  · intro same
    have version := (ModelProfile.namespace_inj id same).1
    rw [version_storedProfile_some] at version
    split at version
    · exact absurd (add_eq_left.mp version) (by decide)
    · rename_i unchanged
      refine ⟨Bool.eq_false_iff.mpr unchanged, ?_⟩
      split at version
      · exact Or.inl ‹_›
      · exact Or.inr version
  · rintro ⟨unchanged, version⟩
    have fields : (storedProfile (some old) p).hashFields = old.hashFields :=
      (hashFields_storedProfile _ p).trans (affectsHashNamespace_eq_false_iff.mp unchanged).symm
    obtain ⟨hashProfile, blockSize⟩ := ModelProfile.blockSize_of_hashFields fields
    refine ModelProfile.namespace_congr id ?_ hashProfile blockSize
    rw [version_storedProfile_some, if_neg (by rw [unchanged]; decide)]
    split
    · rfl
    · exact version.resolve_left ‹_›

/-- What an upsert must keep, when the model resolves to the stored profile after it. -/
theorem keepsUpsert_iff_wentTo (keyed : store.profiles.Keyed ModelProfile.modelID)
    (before : Refers store model engineID tracked) {p : ModelProfile}
    (named : model = p.modelID ∨ store.profiles.lookup model = none ∧ model ∈ p.aliases) :
    KeepsUpsert store model engineID tracked p ↔
      WentTo tracked engineID (storedProfile (store.profiles.lookup p.modelID) p).namespace := by
  unfold KeepsUpsert
  rw [forall_prop_of_true named]
  cases found : store.profiles.lookup p.modelID with
  | none =>
      dsimp only
      rw [namespace_storedProfile, version_storedProfile_none]
  | some old =>
      dsimp only
      split
      · rename_i resolved
        -- the batches so far went to the namespace of the replaced profile
        have was : WentTo tracked engineID old.namespace := by
          refine before old ?_
          by_cases own : model = p.modelID
          · exact Or.inl (own ▸ found)
          · exact Or.inr ⟨(named.resolve_left own).1, p.modelID, found, resolved.resolve_left own⟩
        rw [← namespace_storedProfile_eq_iff (keyed _ _ found)]
        constructor
        · rintro (none_ | same)
          · exact fun t member mine => absurd mine (none_ t member)
          · exact was.of_eq same.symm
        · intro went
          refine or_iff_not_imp_left.mpr fun some_ => ?_
          obtain ⟨t, member, mine⟩ : ∃ t ∈ tracked, t.engineID = engineID := by
            simpa only [ne_eq, not_forall, not_not, exists_prop] using some_
          exact went.unique was member mine
      · rw [namespace_storedProfile, version_storedProfile_some]

theorem refers_upsert_iff (keyed : store.profiles.Keyed ModelProfile.modelID)
    (before : Refers store model engineID tracked) (now : Int) (p : ModelProfile) :
    Refers (store.upsertModelProfile now p).1 model engineID tracked ↔
      KeepsUpsert store model engineID tracked p := by
  constructor
  · intro after named
    exact (keepsUpsert_iff_wentTo keyed before named).mpr
      (after _ (Store.resolves_upsert now store named)) named
  · intro keeps q resolves
    rcases Store.resolves_of_upsert store resolves with ⟨named, rfl⟩ | was
    · exact (keepsUpsert_iff_wentTo keyed before named).mp keeps
    · exact before q was

theorem refers_remove_iff (before : Refers store model engineID tracked) (now : Int)
    (id : String) :
    Refers (store.removeModelProfile now id).1 model engineID tracked ↔
      KeepsRemove store model engineID tracked id := by
  unfold Refers KeepsRemove
  simp only [Store.resolves_removeModelProfile]
  constructor
  · rintro after own - id' p other found listed
    exact after p (Or.inr ⟨own, id', other, found, own ▸ listed⟩)
  · rintro keeps p (⟨other, found | ⟨absent, id', -, found, listed⟩⟩ |
      ⟨own, id', other, found, listed⟩)
    · exact before p (Or.inl found)
    · exact before p (Or.inr ⟨absent, id', found, listed⟩)
    · cases had : store.profiles.lookup id with
      | none => exact before p (Or.inr ⟨own ▸ had, id', found, listed⟩)
      | some q => exact keeps own (by rw [had]; rfl) id' p other found (own ▸ listed)

end Mutations

/-! ### Messages -/

section Keeping

variable {rt : Runtime} {w w' : Watched} {engineID : String} {l l' : Listener}

theorem refers_append {store : Store} {model : String} {front back : List Tracked} :
    Refers store model engineID (front ++ back) ↔
      Refers store model engineID front ∧ Refers store model engineID back := by
  simp only [Refers, WentTo, List.mem_append, or_imp, forall_and]

/-- The step puts listener `l'` in the place of `l` and adds `entries` to the log, and it
does nothing else the property looks at. -/
structure Replaces (w w' : Watched) (engineID : String) (l l' : Listener)
    (entries : List Tracked) : Prop where
  found : w.service.listeners.lookup engineID = some l
  store : w'.service.store = w.service.store
  listeners : w'.service.listeners = w.service.listeners.insert engineID l'
  tracked : w'.tracked = w.tracked ++ entries
  model : l'.model = l.model
  own : ∀ t ∈ entries, t.engineID = engineID

/-- Then the property depends on the replaced listener alone. -/
theorem Replaces.property_iff {entries : List Tracked}
    (replaces : Replaces w w' engineID l l' entries) (before : GaplessRefers w) :
    GaplessRefers w' ↔
      (l'.gaps = 0 → Refers w.service.store l.model engineID (w.tracked ++ entries)) := by
  unfold GaplessRefers
  rw [replaces.store, replaces.listeners, replaces.tracked]
  constructor
  · intro after gapless
    rw [← replaces.model]
    exact after engineID l' (by rw [GoMap.lookup_insert_eq, if_pos rfl]) gapless
  · intro here other k found gapless
    rw [GoMap.lookup_insert_eq] at found
    split at found
    · rename_i same
      cases found
      rw [same, replaces.model]
      exact here gapless
    · rename_i differs
      refine refers_append.mpr ⟨before other k found gapless, fun p _ t member mine => ?_⟩
      exact absurd (mine.symm.trans (replaces.own t member)) differs

/-- A step that adds nothing to the log and leaves the gaps keeps the property. -/
theorem Replaces.keeps (replaces : Replaces w w' engineID l l' []) (gaps : l'.gaps = l.gaps)
    (before : GaplessRefers w) : GaplessRefers w' := by
  refine (replaces.property_iff before).mpr fun gapless => ?_
  rw [List.append_nil]
  exact before engineID l replaces.found (gaps.symm.trans gapless)

/-- A message keeps the property exactly when it holds no batch, or one that goes where
its model resolves to. -/
theorem keeps_message_iff (before : GaplessRefers w)
    (lookup : w.service.listeners.lookup engineID = some l) {order : RangeOrder} {clock : Clock}
    {st : State} {found : Option Batch}
    (handled : Handled rt (momentOf w.service order clock l) (stateOf w.service l) found st) :
    GaplessRefers
        { service := putState w.service engineID st
          tracked := w.tracked ++ found.toList.map fun batch =>
            ⟨engineID, momentOf w.service order clock l, batch⟩ } ↔
      KeepsBatch w engineID order found := by
  set w' : Watched :=
    { service := putState w.service engineID st
      tracked := w.tracked ++ found.toList.map fun batch =>
        ⟨engineID, momentOf w.service order clock l, batch⟩ } with wDef
  have own : ∀ t ∈ found.toList.map fun batch =>
      (⟨engineID, momentOf w.service order clock l, batch⟩ : Tracked), t.engineID = engineID := by
    intro t member
    obtain ⟨batch, -, rfl⟩ := List.mem_map.mp member
    rfl
  have replaces : Replaces w w' engineID l st.listener _ :=
    ⟨lookup, rfl, rfl, rfl, handled.model_eq, own⟩
  -- the namespace a batch goes to, in terms of the store
  have target : ∀ batch, (⟨engineID, momentOf w.service order clock l, batch⟩ : Tracked).ns =
      (w.service.store.resolveProfile (order w.service.store.profiles) l.model).map
        ModelProfile.namespace := fun _ => ns_resolveIngest w.service order l.model l.engineID
  rw [replaces.property_iff before, handled.gaps_iff]
  constructor
  · intro after k batch atKey holds gapless continues p q resolves resolved
    obtain rfl : l = k := Option.some.inj (lookup.symm.trans atKey)
    have follows : ∀ b, found = some b → l.continues (int64 b.seq) := by
      intro b same
      obtain rfl : batch = b := Option.some.inj (holds.symm.trans same)
      exact continues
    have here := after ⟨gapless, follows⟩ p resolves
      ⟨engineID, momentOf w.service order clock l, batch⟩ (by simp [holds]) rfl
    rw [target, resolved] at here
    exact Option.some.inj here
  · rintro keeps ⟨gapless, follows⟩
    refine refers_append.mpr ⟨?_, fun p resolves t member _ => ?_⟩
    · exact before engineID l lookup gapless
    · obtain ⟨batch, holds, rfl⟩ := List.mem_map.mp member
      have same : found = some batch := Option.mem_toList.mp holds
      rw [target]
      cases resolved : w.service.store.resolveProfile (order w.service.store.profiles) l.model with
      | none => exact absurd resolves (Store.resolveProfile_eq_none w.service.store resolved p)
      | some q =>
          have goes := keeps l batch lookup same gapless (follows batch same) p q resolves resolved
          exact congrArg some goes

/-- What a message does: the engine's listener handles it or, when there is no listener or
the program panics, nothing happens. -/
def Received (rt : Runtime) (w : Watched) (engineID : String) (clock : Clock) (order : RangeOrder)
    (found : Option Batch) (w' : Watched) : Prop :=
  (∃ l st, w.service.listeners.lookup engineID = some l ∧
      Handled rt (momentOf w.service order clock l) (stateOf w.service l) found st ∧
      w' =
        { service := putState w.service engineID st
          tracked := w.tracked ++ found.toList.map fun batch =>
            ⟨engineID, momentOf w.service order clock l, batch⟩ }) ∨
    ((∀ l, w.service.listeners.lookup engineID = some l → found = none) ∧ w' = w)

theorem received_live (rt : Runtime) (w : Watched) (engineID : String) (clock : Clock)
    (order : RangeOrder) (frames : List (List UInt8)) :
    Received rt w engineID clock order (liveBatch rt frames)
      (w.step rt (.live engineID clock order frames)) := by
  cases lookup : w.service.listeners.lookup engineID with
  | none =>
      simp only [step, lookup]
      refine Or.inr ⟨fun l found => ?_, rfl⟩
      cases lookup.symm.trans found
  | some l =>
      cases result : handleFrames rt (momentOf w.service order clock l) (stateOf w.service l)
        frames with
      | error panic =>
          simp only [step, lookup, result]
          exact Or.inr ⟨fun _ _ => liveBatch_of_panic result, rfl⟩
      | ok st =>
          simp only [step, lookup, result]
          exact Or.inl ⟨l, st, lookup, handled_handleFrames result, rfl⟩

theorem received_replayed (rt : Runtime) (w : Watched) (engineID : String) (clock : Clock)
    (order : RangeOrder) (frames : List (List UInt8)) :
    Received rt w engineID clock order (replayBatch rt frames)
      (w.step rt (.replayed engineID clock order frames)) := by
  cases lookup : w.service.listeners.lookup engineID with
  | none =>
      simp only [step, lookup]
      refine Or.inr ⟨fun l found => ?_, rfl⟩
      cases lookup.symm.trans found
  | some l =>
      simp only [step, lookup]
      exact Or.inl ⟨l, _, lookup, handled_replayMessage _ _ frames, rfl⟩

/-- A message keeps the property exactly when its batch goes where its model resolves to. -/
theorem Received.property_iff {order : RangeOrder} {clock : Clock} {found : Option Batch}
    (received : Received rt w engineID clock order found w') (before : GaplessRefers w) :
    GaplessRefers w' ↔ KeepsBatch w engineID order found := by
  rcases received with ⟨l, st, lookup, handled, result⟩ | ⟨nothing, result⟩
  · rw [result]
    exact keeps_message_iff before lookup handled
  · rw [result]
    refine iff_of_true before fun l batch atKey holds => ?_
    cases (nothing l atKey).symm.trans holds

/-- A change of the connection keeps it. -/
theorem GaplessRefers.reconnected (before : GaplessRefers w)
    (lookup : w.service.listeners.lookup engineID = some l) (gaps : l'.gaps = l.gaps)
    (model : l'.model = l.model) :
    GaplessRefers
      { w with
        service := { w.service with listeners := w.service.listeners.insert engineID l' } } := by
  have replaces : Replaces w
      { w with
        service := { w.service with listeners := w.service.listeners.insert engineID l' } }
      engineID l l' [] :=
    ⟨lookup, rfl, rfl, (List.append_nil _).symm, model,
      fun t member => absurd member List.not_mem_nil⟩
  exact replaces.keeps gaps before

/-- One step keeps the property exactly when it meets the condition. -/
theorem gaplessRefers_step_iff (keyed : w.service.store.profiles.Keyed ModelProfile.modelID)
    (before : GaplessRefers w) (turn : Turn) :
    GaplessRefers (w.step rt turn) ↔ KeepsTarget rt w turn := by
  cases turn with
  | live engineID clock order frames =>
      exact (received_live rt w engineID clock order frames).property_iff before
  | replayed engineID clock order frames =>
      exact (received_replayed rt w engineID clock order frames).property_iff before
  | connect engineID =>
      refine iff_of_true ?_ trivial
      cases lookup : w.service.listeners.lookup engineID with
      | none =>
          simp only [step, lookup]
          exact before
      | some l =>
          simp only [step, lookup]
          exact before.reconnected lookup rfl rfl
  | disconnect engineID err =>
      refine iff_of_true ?_ trivial
      cases lookup : w.service.listeners.lookup engineID with
      | none =>
          simp only [step, lookup]
          exact before
      | some l =>
          simp only [step, lookup]
          exact before.reconnected lookup rfl rfl
  | mutate m =>
      cases m with
      | upsert now p =>
          exact forall₄_congr fun engineID l found gapless =>
            refers_upsert_iff keyed (before engineID l found gapless) now p
      | remove now id =>
          exact forall₄_congr fun engineID l found gapless =>
            refers_remove_iff (before engineID l found gapless) now id

end Keeping

/-! ### What the ghost state means -/

section Ghost

variable (rt : Runtime)

/-- Give a tracked batch to the index its namespace names. -/
def ingestTracked (indexes : Manager) (t : Tracked) : Manager :=
  match t.moment.resolved with
  | none => indexes
  | some res =>
      indexes.insert res.ns (applyEvents rt t.engineID res t.batch.dpRank t.moment.clock.stamp 0
        (indexes.index res.ns) t.batch.events)

/-- Listeners are kept under their engine's id, and the indexes are what the tracked
batches make of the ones at the start. -/
structure Given (indexes : Manager) (w : Watched) : Prop where
  keyed : ∀ engineID l, w.service.listeners.lookup engineID = some l → l.engineID = engineID
  index : w.service.index = Run.run (ingestTracked rt) indexes w.tracked

variable {rt} {indexes : Manager} {w : Watched} {engineID : String} {l : Listener}

theorem Given.insert (given : Given rt indexes w) {l' : Listener} (mine : l'.engineID = engineID)
    (other : String) (k : Listener)
    (found : (w.service.listeners.insert engineID l').lookup other = some k) :
    k.engineID = other := by
  rw [GoMap.lookup_insert_eq] at found
  split at found
  · rename_i same
    cases found
    rw [mine, same]
  · exact given.keyed other k found

theorem Given.message (given : Given rt indexes w)
    (lookup : w.service.listeners.lookup engineID = some l) {order : RangeOrder} {clock : Clock}
    {st : State} {found : Option Batch}
    (handled : Handled rt (momentOf w.service order clock l) (stateOf w.service l) found st) :
    Given rt indexes
      { service := putState w.service engineID st
        tracked := w.tracked ++ found.toList.map fun batch =>
          ⟨engineID, momentOf w.service order clock l, batch⟩ } := by
  have mine : (stateOf w.service l).listener.engineID = engineID := given.keyed engineID l lookup
  refine ⟨given.insert (handled.engineID_eq.trans mine), ?_⟩
  rcases handled with ⟨batch, rfl, rfl⟩ | ⟨rfl, lastErr, rfl⟩
  · simp only [putState, Option.toList_some, List.map_singleton]
    rw [Run.run_concat, ← given.index, ingestTracked]
    cases resolved : (momentOf w.service order clock l).resolved with
    | none => exact ingest_indexes_unresolved resolved _ batch
    | some res =>
        rw [ingest_indexes resolved, Listener.engineID_trackSeq, mine]
        rfl
  · simp only [putState, Option.toList_none, List.map_nil, List.append_nil]
    exact given.index

theorem Given.received (given : Given rt indexes w) {w' : Watched} {order : RangeOrder}
    {clock : Clock} {found : Option Batch}
    (received : Received rt w engineID clock order found w') : Given rt indexes w' := by
  rcases received with ⟨l, st, lookup, handled, result⟩ | ⟨-, result⟩
  · rw [result]
    exact given.message lookup handled
  · rw [result]
    exact given

/-- In every state reached, the indexes are what the tracked batches make of those at the
start, each ingested where its entry says. -/
theorem given_run {s : Service}
    (keyed : ∀ engineID l, s.listeners.lookup engineID = some l → l.engineID = engineID)
    (turns : List Turn) : Given rt s.index (Run.run (step rt) ⟨s, []⟩ turns) := by
  have kept : ∀ (w : Watched) (turn : Turn), True → Given rt s.index w →
      Given rt s.index (w.step rt turn) := by
    rintro w turn - given
    cases turn with
    | live engineID clock order frames =>
        exact given.received (received_live rt w engineID clock order frames)
    | replayed engineID clock order frames =>
        exact given.received (received_replayed rt w engineID clock order frames)
    | connect engineID =>
        cases lookup : w.service.listeners.lookup engineID with
        | none =>
            simp only [step, lookup]
            exact given
        | some l =>
            simp only [step, lookup]
            have mine : l.connect.engineID = engineID := given.keyed engineID l lookup
            exact ⟨given.insert mine, given.index⟩
    | disconnect engineID err =>
        cases lookup : w.service.listeners.lookup engineID with
        | none =>
            simp only [step, lookup]
            exact given
        | some l =>
            simp only [step, lookup]
            have mine : (l.disconnect err).engineID = engineID := given.keyed engineID l lookup
            exact ⟨given.insert mine, given.index⟩
    | mutate m => exact ⟨given.keyed, given.index⟩
  exact Run.run_invariant kept ⟨keyed, rfl⟩ (Run.eachStep_forall.mpr fun _ _ => trivial)

end Ghost

/-! ### Runs -/

section Runs

variable {rt : Runtime} {s : Service} (keyed : s.store.profiles.Keyed ModelProfile.modelID)
  {turns : List Turn}

theorem keyed_step {w : Watched} (keyed : w.service.store.profiles.Keyed ModelProfile.modelID)
    (turn : Turn) : (w.step rt turn).service.store.profiles.Keyed ModelProfile.modelID := by
  cases turn with
  | live engineID clock order frames =>
      simp only [step]
      split
      · exact keyed
      · split <;> exact keyed
  | replayed engineID clock order frames =>
      simp only [step]
      split <;> exact keyed
  | connect engineID =>
      simp only [step]
      split <;> exact keyed
  | disconnect engineID err =>
      simp only [step]
      split <;> exact keyed
  | mutate m => exact keyed_mutate keyed m

include keyed

/-- In every state of a run each stream without gaps speaks for the index admission reads
exactly when each step meets the condition. -/
theorem gaplessRefers_iff :
    (∀ pre post, turns = pre ++ post → GaplessRefers (Run.run (step rt) ⟨s, []⟩ pre)) ↔
      Run.EachStep (step rt) (KeepsTarget rt) ⟨s, []⟩ turns := by
  have nothing : GaplessRefers ⟨s, []⟩ :=
    fun _ _ _ _ _ _ t member => absurd member List.not_mem_nil
  exact @Run.always_iff_eachStep Watched Turn (step rt) (KeepsTarget rt)
    (fun w => w.service.store.profiles.Keyed ModelProfile.modelID) GaplessRefers
    (fun _ turn keyed => keyed_step keyed turn)
    (fun _ turn keyed before => gaplessRefers_step_iff keyed before turn) ⟨s, []⟩ keyed nothing
    turns

/-- In every state of a run whose steps meet the condition, each fresh stream speaks for the
index admission reads. -/
theorem freshRefers_run (each : Run.EachStep (step rt) (KeepsTarget rt) ⟨s, []⟩ turns) :
    ∀ pre post, turns = pre ++ post → FreshRefers (Run.run (step rt) ⟨s, []⟩ pre) :=
  fun pre post split => ((gaplessRefers_iff keyed).mpr each pre post split).fresh

end Runs

/-- A model with a profile of its own resolves to one profile only. -/
theorem keepsBatch_of_profile {w : Watched} {engineID : String}
    (own : ∀ l, w.service.listeners.lookup engineID = some l →
      (w.service.store.profiles.lookup l.model).isSome) (order : RangeOrder)
    (found : Option Batch) : KeepsBatch w engineID order found := by
  rintro l batch lookup - - - p q resolves resolved
  obtain ⟨stored, here⟩ := Option.isSome_iff_exists.mp (own l lookup)
  have first : p = stored := by
    rcases resolves with found | ⟨absent, -⟩
    · exact Option.some.inj (found.symm.trans here)
    · cases absent.symm.trans here
  have second : q = stored := by
    unfold Store.resolveProfile at resolved
    rw [here] at resolved
    exact (Option.some.inj resolved).symm
  rw [first, second]

/-! A profile is edited after the first batch of its model. -/

def oneListener : Service :=
  { store := newStore
    index := ∅
    listeners := Finmap.singleton "a" { engineID := "a", model := "m", replayEndpoint := "" } }

/-- The first batch, and an edit of the profile after it. -/
noncomputable def editedProfile (edited : ModelProfile) : List Turn :=
  [.mutate (.upsert 0 { modelID := "m", hashSeed := "a" }), .connect "a",
    .live "a" ⟨0, fun _ => 0, fun _ => 0⟩ default (liveFrames [] 0 [0x92, 0xc0, 0x90]),
    .mutate (.upsert 1 edited)]

/-- The stream is fresh, and its batch went to the index of the first version. -/
theorem not_freshRefers :
    ¬ ∀ (rt : Runtime) (s : Service), s.store.profiles.Keyed ModelProfile.modelID →
      ∀ turns : List Turn, FreshRefers (Run.run (step rt) ⟨s, []⟩ turns) := by
  intro refers
  set w := Run.run (step emptyBatchRuntime) ⟨oneListener, []⟩
    (editedProfile { modelID := "m", hashSeed := "b" }) with wDef
  have isFresh : streamFreshForEngines w.service.listeners [{ engineID := "a" }] = true := by
    decide +kernel
  have model : (w.service.listeners.lookup "a").map Listener.model = some "m" := by decide +kernel
  obtain ⟨l, found, name⟩ := Option.map_eq_some_iff.mp model
  have resolves : w.service.store.Resolves l.model
      { modelID := "m", version := 2, tokenizerMode := TokenizerModeRemote, hashSeed := "b" } := by
    rw [name]
    exact Or.inl (by decide +kernel)
  have given : ∃ t ∈ w.tracked, t.engineID = "a" ∧ t.ns = some "m/v1//0" := by decide +kernel
  obtain ⟨t, member, mine, ns⟩ := given
  have current := refers emptyBatchRuntime oneListener GoMap.Keyed.empty
    (editedProfile { modelID := "m", hashSeed := "b" }) { engineID := "a" } isFresh l found _
    resolves t member mine
  rw [ns] at current
  revert current
  decide +kernel

/-- An edit that leaves the hash-affecting fields and the version alone is no such edit. -/
theorem freshRefers_aliasAdded :
    FreshRefers (Run.run (step emptyBatchRuntime) ⟨oneListener, []⟩
      (editedProfile { modelID := "m", hashSeed := "a", aliases := ["n"] })) := by
  set turns := editedProfile { modelID := "m", hashSeed := "a", aliases := ["n"] } with turnsDef
  let state (n : Nat) := Run.run (step emptyBatchRuntime) ⟨oneListener, []⟩ (turns.take n)
  have each : Run.EachStep (step emptyBatchRuntime) (KeepsTarget emptyBatchRuntime)
      ⟨oneListener, []⟩ turns := by
    refine ⟨fun engineID l _ _ _ t member => absurd member List.not_mem_nil, trivial,
      keepsBatch_of_profile (fun l found => ?_) _ _, fun engineID l _ _ => ?_, trivial⟩
    · have model : ((state 2).service.listeners.lookup "a").map Listener.model = some "m" := by
        decide +kernel
      have found : (state 2).service.listeners.lookup "a" = some l := found
      rw [found] at model
      rw [show l.model = "m" from Option.some.inj model]
      decide +kernel
    · have stored : (state 3).service.store.profiles.lookup "m" =
          some { modelID := "m", version := 1, tokenizerMode := TokenizerModeRemote,
                 hashSeed := "a" } := by
        decide +kernel
      have went : ∀ t ∈ (state 3).tracked, t.ns = some "m/v1//0" := by decide +kernel
      show KeepsUpsert (state 3).service.store l.model engineID (state 3).tracked _
      unfold KeepsUpsert
      dsimp only
      rw [stored]
      intro named
      dsimp only
      split
      · exact Or.inr ⟨by decide, Or.inl rfl⟩
      · exact fun t member _ => went t member
  exact freshRefers_run GoMap.Keyed.empty each turns [] (List.append_nil _).symm

end Watched

end KvIndexer.HttpApi
