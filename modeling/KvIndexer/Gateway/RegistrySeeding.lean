import KvIndexer.Gateway.MemoryStore

/-!
Seeding the registry (`internal/gateway/store.go`), in memory and on MongoDB.

Both stores insert the entries of the seed list one after another and stop at the first
that fails, without taking back those before it. The registry is then no longer empty and
is not seeded again. `allOrNothing_iff` says for which lists, and on MongoDB for which
failures, a seeding is all or nothing.
-/

namespace KvIndexer.Gateway

/-! ### MongoDB -/

/-- How a write of the database ends. One that fails may have been applied. -/
inductive WriteOutcome
  | done
  | failed (err : String) (applied : Bool)

/-- How the operations of one upsert end; a find or a reload fails with an error or not. -/
structure UpsertOutcome where
  replaceConnection : WriteOutcome := .done
  findVirtualConfig : Option String := none
  putVirtualConfig : WriteOutcome := .done

/-- The state of a `ConnStore`: the collections, and the connections as last read. -/
structure ConnStore where
  registry : Registry := {}
  cache : List Connection := []

/-- `upsertNoReload`; the second component is the error. -/
def Registry.upsertNoReload (env : RegistryEnv) (now : Moment) (outcome : UpsertOutcome)
    (c : Connection) (s : Registry) : Registry × Option String :=
  let c := normalizeConnection c
  match validateConnection env c with
  | some err => (s, some err)
  | none =>
      let replaced := { s with conns := s.conns.insert c.id c }
      match outcome.replaceConnection with
      | .failed err applied => (if applied then replaced else s, some err)
      | .done =>
          if c.Virtual then
            match outcome.findVirtualConfig with
            | some err => (replaced, some err)
            | none =>
                match outcome.putVirtualConfig with
                | .failed err applied => (if applied then s.put now c else replaced, some err)
                | .done => (s.put now c, none)
          else (replaced, none)

namespace ConnStore

variable (env : RegistryEnv)

/-- `reload`, which fails with an error or not. -/
def reload (failure : Option String) (s : ConnStore) : ConnStore :=
  match failure with
  | some _ => s
  | none => { s with cache := s.registry.list env }

/-- How the operations of a seeding end. -/
structure SeedOutcome where
  count : Option String := none
  upserts : Nat → UpsertOutcome := fun _ => {}
  reload : Option String := none

/-- `ConnStore.SeedIfEmpty`: whether it seeded, and the error. -/
def seedIfEmpty (now : Nat → Moment) (outcome : SeedOutcome) (conns : List Connection)
    (s : ConnStore) : ConnStore × Bool × Option String :=
  let s := s.reload env outcome.count
  if s.cache.length > 0 ∨ conns = [] then (s, false, none)
  else
    match upsertEach (fun i => Registry.upsertNoReload env (now i) (outcome.upserts i)) conns
        s.registry with
    | (registry, some err) => ({ s with registry := registry }, false, some err)
    | (registry, none) =>
        (({ s with registry := registry } : ConnStore).reload env outcome.reload, true,
          outcome.reload)

end ConnStore

/-! ### Both stores store alike -/

/-- All operations of the upsert succeed. -/
def UpsertOutcome.Succeeds (outcome : UpsertOutcome) (c : Connection) : Prop :=
  outcome.replaceConnection = .done ∧
    (c.Virtual → outcome.findVirtualConfig = none ∧ outcome.putVirtualConfig = .done)

section Stores

variable {env : RegistryEnv}

theorem stores_upsert (now : Nat → Moment) :
    Stores (fun i => Registry.upsert env (now i)) fun _ c => Accepted env c := by
  refine ⟨fun i c s => ?_, fun i c s accepted => ?_, fun i c s => ?_⟩
  · by_cases accepted : Accepted env c
    · exact iff_of_true (congrArg Prod.snd (Registry.upsert_of_accepted accepted s (now i)))
        accepted
    · obtain ⟨err, refused⟩ := Registry.upsert_of_refused accepted s (now i)
      exact iff_of_false (by rw [refused]; nofun) accepted
  · rw [Registry.upsert_of_accepted accepted]
    simp only [Registry.put, id_normalizeConnection]
  · by_cases accepted : Accepted env c
    · rw [Registry.upsert_of_accepted accepted]
      exact Or.inr (by simp only [Registry.put, id_normalizeConnection])
    · obtain ⟨err, refused⟩ := Registry.upsert_of_refused accepted s (now i)
      exact Or.inl (congrArg Prod.fst refused)

/-- How an upsert of an accepted connection ends: all is written, nothing is because the
replacement failed, or it fails with the connection written. -/
theorem upsertNoReload_cases (now : Moment) (outcome : UpsertOutcome) {c : Connection}
    (accepted : Accepted env c) (s : Registry) :
    (outcome.Succeeds c ∧
        s.upsertNoReload env now outcome c = (s.put now (normalizeConnection c), none)) ∨
      (¬ outcome.Succeeds c ∧ ∃ err, outcome.replaceConnection = .failed err false ∧
        s.upsertNoReload env now outcome c = (s, some err)) ∨
      (¬ outcome.Succeeds c ∧ (∀ err, outcome.replaceConnection ≠ .failed err false) ∧
        ∃ after err, s.upsertNoReload env now outcome c = (after, some err) ∧
          after.conns = s.conns.insert c.id (normalizeConnection c)) := by
  unfold Accepted at accepted
  unfold Registry.upsertNoReload UpsertOutcome.Succeeds
  simp only [accepted, virtual_normalizeConnection, id_normalizeConnection]
  cases outcome.replaceConnection with
  | failed err applied =>
      cases applied with
      | false =>
          refine Or.inr (Or.inl ⟨fun succeeds => ?_, err, rfl, rfl⟩)
          cases succeeds.1
      | true =>
          refine Or.inr (Or.inr ⟨fun succeeds => ?_, fun _ same => ?_, _, err, rfl, rfl⟩)
          · cases succeeds.1
          · cases same
  | done =>
      by_cases virtual : c.Virtual
      · simp only [virtual, true_implies, true_and]
        cases outcome.findVirtualConfig with
        | some err =>
            refine Or.inr (Or.inr ⟨fun succeeds => ?_, fun _ same => ?_, _, err, rfl, rfl⟩)
            · cases succeeds.1
            · cases same
        | none =>
            cases outcome.putVirtualConfig with
            | done => exact Or.inl ⟨⟨rfl, rfl⟩, rfl⟩
            | failed err applied =>
                refine Or.inr (Or.inr ⟨fun succeeds => ?_, fun _ same => ?_, _, err, rfl, ?_⟩)
                · cases succeeds.2
                · cases same
                · cases applied with
                  | false => rfl
                  | true => simp only [if_true, Registry.put, id_normalizeConnection]
      · have backend : ¬ (normalizeConnection c).Virtual := by
          rwa [virtual_normalizeConnection]
        simp only [virtual, false_implies, and_true, true_and]
        refine Or.inl ?_
        unfold Registry.put
        rw [if_neg backend, id_normalizeConnection]
        rfl

/-- A refused connection is answered with an error and changes nothing. -/
theorem refuses_upsertNoReload (now : Moment) (outcome : UpsertOutcome) {c : Connection}
    (refused : ¬ Accepted env c) (s : Registry) :
    ∃ err, s.upsertNoReload env now outcome c = (s, some err) := by
  unfold Registry.upsertNoReload
  unfold Accepted at refused
  obtain ⟨err, here⟩ := Option.ne_none_iff_exists'.mp refused
  exact ⟨err, by simp only [here]⟩

theorem stores_upsertNoReload (now : Nat → Moment) (outcomes : Nat → UpsertOutcome) :
    Stores (fun i => Registry.upsertNoReload env (now i) (outcomes i))
      fun i c => Accepted env c ∧ (outcomes i).Succeeds c := by
  refine ⟨fun i c s => ?_, fun i c s ok => ?_, fun i c s => ?_⟩
  · by_cases accepted : Accepted env c
    · rcases upsertNoReload_cases (now i) (outcomes i) accepted s with
        ⟨succeeds, here⟩ | ⟨fails, err, -, here⟩ | ⟨fails, -, after, err, here, -⟩
      · exact iff_of_true (congrArg Prod.snd here) ⟨accepted, succeeds⟩
      · exact iff_of_false (by rw [here]; nofun) fun ok => fails ok.2
      · exact iff_of_false (by rw [here]; nofun) fun ok => fails ok.2
    · obtain ⟨err, here⟩ := refuses_upsertNoReload (now i) (outcomes i) accepted s
      exact iff_of_false (by rw [here]; nofun) fun ok => accepted ok.1
  · rcases upsertNoReload_cases (now i) (outcomes i) ok.1 s with
      ⟨-, here⟩ | ⟨fails, -⟩ | ⟨fails, -⟩
    · rw [here]
      simp only [Registry.put, id_normalizeConnection]
    · exact absurd ok.2 fails
    · exact absurd ok.2 fails
  · by_cases accepted : Accepted env c
    · rcases upsertNoReload_cases (now i) (outcomes i) accepted s with
        ⟨-, here⟩ | ⟨-, err, -, here⟩ | ⟨-, -, after, err, here, stored⟩
      · rw [here]
        exact Or.inr (by simp only [Registry.put, id_normalizeConnection])
      · exact Or.inl (congrArg Prod.fst here)
      · rw [here]
        exact Or.inr stored
    · obtain ⟨err, here⟩ := refuses_upsertNoReload (now i) (outcomes i) accepted s
      exact Or.inl (congrArg Prod.fst here)

end Stores

/-! ### All or nothing -/

/-- A seeding that reports an error changed nothing, and one that reports success left exactly
the listed connections, the last one of each id. -/
structure AllOrNothing (conns : List Connection) (before after : Registry)
    (result : Bool × Option String) : Prop where
  nothing : result.2 ≠ none → after = before
  all : result.1 = true →
    after.conns = GoMap.ofValues Connection.id (conns.map normalizeConnection)

section Seeding

variable {upsert : Nat → Connection → Registry → Registry × Option String}
  {ok : Nat → Connection → Prop}

/-- Once the first of them is stored, the registry is not empty any more. -/
theorem upsertEach_nonempty (stores : Stores upsert ok) {first : Connection}
    {rest : List Connection} {s : Registry} (first_ok : ok 0 first) :
    (upsertEach upsert (first :: rest) s).1.conns ≠ ∅ := by
  have succeeds := (stores.succeeds 0 first s).mpr first_ok
  have stored := stores.stored 0 first s first_ok
  unfold upsertEach
  split
  · rename_i s' err failed
    rw [failed] at succeeds
    cases succeeds
  · rename_i s' done
    rw [done] at stored
    refine nonempty_upsertEach stores.tail ?_
    rw [stored]
    exact GoMap.insert_ne_empty _ _ _

/-- A row of upserts into an empty registry that fails has written nothing exactly when the
first of them fails and writes nothing. -/
theorem upsertEach_unchanged_iff (stores : Stores upsert ok) {first : Connection}
    {rest : List Connection} {s : Registry} (empty : s.conns = ∅) :
    (upsertEach upsert (first :: rest) s).1 = s ↔ (upsert 0 first s).1 = s ∧ ¬ ok 0 first := by
  by_cases first_ok : ok 0 first
  · refine iff_of_false (fun same => ?_) fun refused => refused.2 first_ok
    have kept := @upsertEach_nonempty _ _ stores _ rest s first_ok
    rw [same] at kept
    exact kept empty
  · have fails := fun here => first_ok ((stores.succeeds 0 first s).mp here)
    rw [and_iff_left first_ok]
    unfold upsertEach
    split
    · rename_i s' err failed
      rw [failed]
    · rename_i s' done
      rw [done] at fails
      exact absurd rfl fails

/-- So it is all or nothing exactly when no upsert fails, or the first one fails and writes
nothing. -/
theorem upsertEach_nothing_iff (stores : Stores upsert ok) {first : Connection}
    {rest : List Connection} {s : Registry} (empty : s.conns = ∅) :
    ((upsertEach upsert (first :: rest) s).2 ≠ none →
        (upsertEach upsert (first :: rest) s).1 = s) ↔
      (∀ i c, (first :: rest)[i]? = some c → ok i c) ∨
        ((upsert 0 first s).1 = s ∧ ¬ ok 0 first) := by
  rw [← succeeds_upsertEach stores (s := s)]
  by_cases succeeds : (upsertEach upsert (first :: rest) s).2 = none
  · exact iff_of_true (fun fails => absurd succeeds fails) (Or.inl succeeds)
  · rw [or_iff_right succeeds, ← upsertEach_unchanged_iff stores empty]
    exact forall_prop_of_true succeeds

end Seeding

section Empty

variable (env : RegistryEnv) (now : Nat → Moment)

/-- A registry without connections. -/
def emptyRegistry (virtualConfigs : VirtualConfigs) : Registry := { virtualConfigs }

theorem list_emptyRegistry (virtualConfigs : VirtualConfigs) :
    (emptyRegistry virtualConfigs).list env = [] := by
  have none : (env.order (emptyRegistry virtualConfigs).conns).values = [] := GoMap.values_empty _
  unfold Registry.list
  rw [none]
  exact connectionSort.sort_nil

/-- Every entry is accepted, or already the first is refused. -/
def SeedsOrRefuses (conns : List Connection) : Prop :=
  (∀ c ∈ conns, Accepted env c) ∨ ∃ first ∈ conns.head?, ¬ Accepted env first

/-- Nothing is seeded because the last reading of the registry found connections, or every
operation succeeds, or the first entry is refused or its connection not written. -/
def SeedsOrFailsFirst (outcome : ConnStore.SeedOutcome) (cache conns : List Connection) : Prop :=
  conns = [] ∨ (outcome.count ≠ none ∧ cache ≠ []) ∨
    ((∀ i c, conns[i]? = some c → Accepted env c ∧ (outcome.upserts i).Succeeds c) ∧
      outcome.reload = none) ∨
    ∃ first ∈ conns.head?, ¬ Accepted env first ∨
      ∃ err, (outcome.upserts 0).replaceConnection = .failed err false

variable (virtualConfigs : VirtualConfigs) {conns : List Connection}

/-- On an empty registry a seeding is its row of upserts. -/
theorem seedIfEmpty_memory (listed : conns ≠ []) :
    let upserts := upsertEach (fun i => Registry.upsert env (now i)) conns
      (emptyRegistry virtualConfigs)
    (emptyRegistry virtualConfigs).seedIfEmpty env now conns =
      (upserts.1, upserts.2.isNone, upserts.2) := by
  unfold Registry.seedIfEmpty
  have empty : ¬ ((emptyRegistry virtualConfigs).conns.len > 0 ∨ conns = []) :=
    not_or.mpr ⟨Nat.lt_irrefl 0, listed⟩
  rw [if_neg empty]
  rcases upsertEach _ conns (emptyRegistry virtualConfigs) with ⟨s, _ | err⟩
  · rfl
  · rfl

theorem seedIfEmpty_mongo (outcome : ConnStore.SeedOutcome) {cache : List Connection}
    (listed : conns ≠ []) (unread : ¬ (outcome.count ≠ none ∧ cache ≠ [])) :
    let upserts := upsertEach
      (fun i => Registry.upsertNoReload env (now i) (outcome.upserts i)) conns
      (emptyRegistry virtualConfigs)
    let after := ConnStore.seedIfEmpty env now outcome conns
      { registry := emptyRegistry virtualConfigs, cache }
    after.1.registry = upserts.1 ∧
      after.2 = (upserts.2.isNone, upserts.2.or outcome.reload) := by
  have read : (ConnStore.reload env outcome.count
      { registry := emptyRegistry virtualConfigs, cache }).cache = [] ∧
      (ConnStore.reload env outcome.count
        { registry := emptyRegistry virtualConfigs, cache }).registry =
        emptyRegistry virtualConfigs := by
    unfold ConnStore.reload
    cases counted : outcome.count with
    | none => exact ⟨list_emptyRegistry env virtualConfigs, rfl⟩
    | some err =>
        refine ⟨?_, rfl⟩
        by_contra some
        exact unread ⟨by rw [counted]; nofun, some⟩
  unfold ConnStore.seedIfEmpty
  dsimp only
  have empty : ¬ ((ConnStore.reload env outcome.count
      { registry := emptyRegistry virtualConfigs, cache }).cache.length > 0 ∨ conns = []) := by
    rw [read.1]
    exact not_or.mpr ⟨Nat.lt_irrefl 0, listed⟩
  rw [if_neg empty, read.2]
  rcases upsertEach _ conns (emptyRegistry virtualConfigs) with ⟨s, _ | err⟩
  · refine ⟨?_, rfl⟩
    unfold ConnStore.reload
    cases outcome.reload with
    | none => rfl
    | some err => rfl
  · exact ⟨rfl, rfl⟩

/-- A store that finds connections, or is given none, is left as it is. -/
theorem seedIfEmpty_skips (outcome : ConnStore.SeedOutcome) (s : ConnStore)
    {conns : List Connection} (skips : conns = [] ∨ (outcome.count ≠ none ∧ s.cache ≠ [])) :
    (s.seedIfEmpty env now outcome conns).1.registry = s.registry ∧
      (s.seedIfEmpty env now outcome conns).2 = (false, none) := by
  have kept : (s.reload env outcome.count).registry = s.registry := by
    unfold ConnStore.reload
    cases outcome.count with
    | none => rfl
    | some err => rfl
  have found : (s.reload env outcome.count).cache.length > 0 ∨ conns = [] := by
    rcases skips with none | ⟨failed, cached⟩
    · exact Or.inr none
    · obtain ⟨err, counted⟩ := Option.ne_none_iff_exists'.mp failed
      rw [counted]
      exact Or.inl (List.length_pos_iff.mpr cached)
  unfold ConnStore.seedIfEmpty
  dsimp only
  rw [if_pos found]
  exact ⟨kept, rfl⟩

theorem refuses_upsert_iff (first : Connection) (s : Registry) :
    ((s.upsert env (now 0) first).1 = s ∧ ¬ Accepted env first) ↔ ¬ Accepted env first := by
  refine and_iff_right_of_imp fun refused => ?_
  obtain ⟨err, here⟩ := Registry.upsert_of_refused refused s (now 0)
  exact congrArg Prod.fst here

/-- In memory a seeding is all or nothing exactly when no entry is refused but the first. -/
theorem allOrNothing_memory_iff (conns : List Connection) :
    let before := emptyRegistry virtualConfigs
    let after := before.seedIfEmpty env now conns
    AllOrNothing conns before after.1 after.2 ↔ SeedsOrRefuses env conns := by
  intro before after
  cases conns with
  | nil =>
      have skipped : after = (before, false, none) := if_pos (Or.inr rfl)
      rw [skipped]
      exact iff_of_true ⟨fun fails => absurd rfl fails, nofun⟩ (Or.inl nofun)
  | cons first rest =>
      have stores := @stores_upsert env now
      have nothing := @upsertEach_nothing_iff _ _ stores first rest before rfl
      rw [refuses_upsert_iff] at nothing
      have seeded := seedIfEmpty_memory env now virtualConfigs (List.cons_ne_nil first rest)
      have split : AllOrNothing (first :: rest) before after.1 after.2 ↔
          (after.2.2 ≠ none → after.1 = before) := by
        refine ⟨AllOrNothing.nothing, fun nothing => ⟨nothing, fun succeeds => ?_⟩⟩
        rw [show after = _ from seeded] at succeeds ⊢
        exact conns_upsertEach stores (Option.isNone_iff_eq_none.mp succeeds)
      rw [split, show after = _ from seeded]
      refine nothing.trans (or_congr ?_ ?_)
      · rw [forall_comm]
        refine forall_congr' fun c => ?_
        rw [List.mem_iff_getElem?, forall_exists_index]
      · simp

theorem refuses_upsertNoReload_iff (now : Moment) (outcome : UpsertOutcome) (first : Connection)
    {s : Registry} (empty : s.conns = ∅) :
    ((s.upsertNoReload env now outcome first).1 = s ∧
        ¬ (Accepted env first ∧ outcome.Succeeds first)) ↔
      ¬ Accepted env first ∨ ∃ err, outcome.replaceConnection = .failed err false := by
  by_cases accepted : Accepted env first
  · have changed : s.conns ≠ s.conns.insert first.id (normalizeConnection first) := by
      rw [empty]
      exact (GoMap.insert_ne_empty _ _ _).symm
    rw [or_iff_right (not_not_intro accepted)]
    rcases upsertNoReload_cases now outcome accepted s with
      ⟨succeeds, here⟩ | ⟨fails, err, unwritten, here⟩ | ⟨fails, written, after, err, here, stored⟩
    · refine iff_of_false (fun nothing => nothing.2 ⟨accepted, succeeds⟩) ?_
      rintro ⟨err, unwritten⟩
      rw [succeeds.1] at unwritten
      cases unwritten
    · exact iff_of_true ⟨congrArg Prod.fst here, fun ok => fails ok.2⟩ ⟨err, unwritten⟩
    · refine iff_of_false (fun nothing => ?_) fun ⟨err, unwritten⟩ => written err unwritten
      have same := nothing.1
      rw [here] at same
      exact changed ((congrArg Registry.conns same).symm.trans stored)
  · obtain ⟨err, refused⟩ := refuses_upsertNoReload now outcome accepted s
    exact iff_of_true ⟨congrArg Prod.fst refused, fun ok => accepted ok.1⟩ (Or.inl accepted)

/-- On MongoDB the operations of the database must do their part as well. -/
theorem allOrNothing_mongo_iff (outcome : ConnStore.SeedOutcome) (cache conns : List Connection) :
    let before : ConnStore := { registry := emptyRegistry virtualConfigs, cache }
    let after := ConnStore.seedIfEmpty env now outcome conns before
    AllOrNothing conns before.registry after.1.registry after.2 ↔
      SeedsOrFailsFirst env outcome cache conns := by
  intro before after
  unfold SeedsOrFailsFirst
  by_cases skips : conns = [] ∨ (outcome.count ≠ none ∧ cache ≠ [])
  · have skipped := seedIfEmpty_skips env now outcome before skips
    rw [skipped.1, skipped.2]
    refine iff_of_true ⟨fun fails => absurd rfl fails, nofun⟩ ?_
    rcases skips with empty | read
    · exact Or.inl empty
    · exact Or.inr (Or.inl read)
  · obtain ⟨listed, unread⟩ := not_or.mp skips
    rw [or_iff_right listed, or_iff_right unread]
    obtain ⟨first, rest, rfl⟩ := List.exists_cons_of_ne_nil listed
    have stores := @stores_upsertNoReload env now outcome.upserts
    have nothing := @upsertEach_nothing_iff _ _ stores first rest before.registry rfl
    rw [refuses_upsertNoReload_iff env (now 0) (outcome.upserts 0) first rfl] at nothing
    obtain ⟨registry, result⟩ := seedIfEmpty_mongo env now virtualConfigs outcome listed unread
    have split : AllOrNothing (first :: rest) before.registry after.1.registry after.2 ↔
        (after.2.2 ≠ none → after.1.registry = before.registry) := by
      refine ⟨AllOrNothing.nothing, fun nothing => ⟨nothing, fun succeeds => ?_⟩⟩
      rw [show after.2 = _ from result] at succeeds
      rw [show after.1.registry = _ from registry]
      exact conns_upsertEach stores (Option.isNone_iff_eq_none.mp succeeds)
    rw [split, show after.2 = _ from result, show after.1.registry = _ from registry]
    set upserts := upsertEach
      (fun i => Registry.upsertNoReload env (now i) (outcome.upserts i)) (first :: rest)
      (emptyRegistry virtualConfigs) with upsertsIs
    have atFirst : (∃ c ∈ (first :: rest).head?, ¬ Accepted env c ∨
        ∃ err, (outcome.upserts 0).replaceConnection = .failed err false) ↔
      ¬ Accepted env first ∨
        ∃ err, (outcome.upserts 0).replaceConnection = .failed err false := by simp
    rw [atFirst]
    have each := @succeeds_upsertEach _ _ stores (first :: rest) before.registry
    by_cases succeeds : upserts.2 = none
    · -- every entry is written, so only the reading back can still fail
      have ok := each.mp succeeds
      have changed : upserts.1 ≠ before.registry := by
        intro same
        have kept := @upsertEach_nonempty _ _ stores _ rest before.registry (ok 0 first rfl)
        exact kept (congrArg Registry.conns same)
      have firstOk : ¬ (¬ Accepted env first ∨
          ∃ err, (outcome.upserts 0).replaceConnection = .failed err false) := by
        rintro (refused | ⟨err, failed⟩)
        · exact refused (ok 0 first rfl).1
        · have written := (ok 0 first rfl).2.1
          rw [failed] at written
          cases written
      rw [succeeds, Option.none_or, or_iff_left firstOk, and_iff_right ok]
      constructor
      · intro nothing
        by_contra failed
        exact changed (nothing failed)
      · exact fun done failed => absurd done failed
    · have fails : upserts.2.or outcome.reload ≠ none := fun none =>
        succeeds (Option.or_eq_none_iff.mp none).1
      rw [or_iff_right fun whole => succeeds (each.mpr whole.1)]
      rw [or_iff_right fun whole => succeeds (each.mpr whole),
        forall_prop_of_true succeeds] at nothing
      rw [forall_prop_of_true fails]
      exact nothing

/-- An empty registry is seeded completely by a list of accepted connections. -/
theorem seedIfEmpty_accepted (listed : conns ≠ []) (accepted : ∀ c ∈ conns, Accepted env c) :
    let after := (emptyRegistry virtualConfigs).seedIfEmpty env now conns
    after.2 = (true, none) ∧
      after.1.conns = GoMap.ofValues Connection.id (conns.map normalizeConnection) := by
  have stores := @stores_upsert env now
  have succeeds := (succeeds_upsertEach stores (s := emptyRegistry virtualConfigs)).mpr
    fun _ c here => accepted c (List.mem_of_getElem? here)
  rw [seedIfEmpty_memory env now virtualConfigs listed]
  dsimp only
  rw [succeeds]
  exact ⟨rfl, conns_upsertEach stores succeeds⟩

/-- In memory and on MongoDB. -/
theorem allOrNothing_iff :
    (∀ conns : List Connection,
      let before := emptyRegistry virtualConfigs
      let after := before.seedIfEmpty env now conns
      AllOrNothing conns before after.1 after.2 ↔ SeedsOrRefuses env conns) ∧
    ∀ outcome cache, ∀ conns : List Connection,
      let before : ConnStore := { registry := emptyRegistry virtualConfigs, cache }
      let after := ConnStore.seedIfEmpty env now outcome conns before
      AllOrNothing conns before.registry after.1.registry after.2 ↔
        SeedsOrFailsFirst env outcome cache conns :=
  ⟨allOrNothing_memory_iff env now virtualConfigs, allOrNothing_mongo_iff env now virtualConfigs⟩

end Empty

/-! The second entry lacks its URL. -/

def missingURL : List Connection :=
  [{ id := "a", cluster := "c", url := "http://a:8080" }, { id := "b", cluster := "c" }]

/-- The first stays, and a later call finds a registry that is not empty. -/
theorem not_allOrNothing :
    ¬ ∀ env now virtualConfigs conns,
      let before := emptyRegistry virtualConfigs
      let after := before.seedIfEmpty env now conns
      AllOrNothing conns before after.1 after.2 := by
  intro always
  have same := (always anyURL (fun _ => ⟨0, 0, default⟩) ∅ missingURL).nothing nofun
  have found := congrArg (fun s : Registry => (s.conns.lookup "a").isSome) same
  revert found
  decide +kernel

end KvIndexer.Gateway
