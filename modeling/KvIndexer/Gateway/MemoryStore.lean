import KvIndexer.Gateway.Registry

/-!
The registry in memory (`internal/gateway/store.go`).

Every call of `MemoryStore` is one critical section, so an upsert writes the connection and
the cluster of its virtual config at once.
-/

namespace KvIndexer.Gateway

/-- The connection is stored, once normalized. -/
def Accepted (env : RegistryEnv) (c : Connection) : Prop :=
  validateConnection env (normalizeConnection c) = none

instance (env : RegistryEnv) (c : Connection) : Decidable (Accepted env c) :=
  inferInstanceAs (Decidable (_ = none))

def Connection.Virtual (c : Connection) : Prop := c.kindOrDefault = ConnectionKindVirtual

instance (c : Connection) : Decidable c.Virtual := inferInstanceAs (Decidable (_ = _))

/-- Upserts one after the other, up to the first that fails. -/
def upsertEach (upsert : Nat → Connection → Registry → Registry × Option String) :
    List Connection → Registry → Registry × Option String
  | [], s => (s, none)
  | c :: cs, s =>
      match upsert 0 c s with
      | (s, some err) => (s, some err)
      | (s, none) => upsertEach (fun i => upsert (i + 1)) cs s

namespace Registry

/-- The writes of a connection that is accepted and normal. -/
def put (now : Moment) (c : Connection) (s : Registry) : Registry where
  conns := s.conns.insert c.id c
  virtualConfigs :=
    if c.Virtual then ((VirtualMutation.ensureVirtualConfig c).transaction now).run s.virtualConfigs
    else s.virtualConfigs

/-- `MemoryStore.Upsert`; the second component is the error. -/
def upsert (env : RegistryEnv) (now : Moment) (c : Connection) (s : Registry) :
    Registry × Option String :=
  let c := normalizeConnection c
  match validateConnection env c with
  | some err => (s, some err)
  | none => (s.put now c, none)

/-- `MemoryStore.SeedIfEmpty`: whether it seeded, and the error. -/
def seedIfEmpty (env : RegistryEnv) (now : Nat → Moment) (conns : List Connection) (s : Registry) :
    Registry × Bool × Option String :=
  if s.conns.len > 0 ∨ conns = [] then (s, false, none)
  else
    match upsertEach (fun i => Registry.upsert env (now i)) conns s with
    | (s, some err) => (s, false, some err)
    | (s, none) => (s, true, none)

/-- `MemoryStore.Delete` -/
def delete (id : String) (s : Registry) : Registry where
  conns := s.conns.erase id
  virtualConfigs := s.virtualConfigs.erase id

/-- A mutation of a virtual config in one critical section. -/
def mutateVirtual (now : Moment) (m : VirtualMutation) (s : Registry) : Registry :=
  { s with virtualConfigs := (m.transaction now).run s.virtualConfigs }

variable {env : RegistryEnv} {c : Connection}

theorem upsert_of_accepted (accepted : Accepted env c) (s : Registry) (now : Moment) :
    s.upsert env now c = (s.put now (normalizeConnection c), none) := by
  unfold Accepted at accepted
  simp only [upsert, accepted]

theorem upsert_of_refused (refused : ¬ Accepted env c) (s : Registry) (now : Moment) :
    ∃ err, s.upsert env now c = (s, some err) := by
  unfold Accepted at refused
  obtain ⟨err, here⟩ := Option.ne_none_iff_exists'.mp refused
  exact ⟨err, by simp only [upsert, here]⟩

end Registry

/-- A parser to which every URL is one of a host. -/
noncomputable def anyURL : RegistryEnv where
  parseURL _ := some ⟨"http", "host"⟩
  quote := id
  order := default

/-! ### Normal connections -/

/-- What normalizing writes. -/
theorem normalizeConnection_eq (c : Connection) :
    normalizeConnection c =
      { c with
        kind := c.kindOrDefault
        url := if c.Virtual then "" else c.url
        token := if c.Virtual then "" else c.token } := by
  unfold normalizeConnection Connection.Virtual Connection.kindOrDefault
  have otherKind : ConnectionKindBackend ≠ ConnectionKindVirtual := by decide
  by_cases unset : c.kind = ""
  · simp only [if_pos unset, if_neg otherKind]
  · simp only [if_neg unset]
    split
    · rfl
    · rfl

section Normal

variable (c : Connection)

@[simp] theorem id_normalizeConnection : (normalizeConnection c).id = c.id := by
  rw [normalizeConnection_eq]

@[simp] theorem cluster_normalizeConnection : (normalizeConnection c).cluster = c.cluster := by
  rw [normalizeConnection_eq]

theorem kindOrDefault_ne_empty : c.kindOrDefault ≠ "" := by
  unfold Connection.kindOrDefault
  split
  · decide
  · assumption

@[simp] theorem virtual_normalizeConnection : (normalizeConnection c).Virtual ↔ c.Virtual := by
  have same : (normalizeConnection c).kindOrDefault = c.kindOrDefault := by
    rw [normalizeConnection_eq]
    exact if_neg (kindOrDefault_ne_empty c)
  unfold Connection.Virtual
  rw [same]

end Normal

/-! ### Upserts in a row -/

section Upserts

variable {upsert : Nat → Connection → Registry → Registry × Option String}
  {ok : Nat → Connection → Prop}

/-- What an upsert does with the connections: it stores the connection where `ok` says so;
where not it may have stored it nevertheless. -/
structure Stores (upsert : Nat → Connection → Registry → Registry × Option String)
    (ok : Nat → Connection → Prop) : Prop where
  succeeds : ∀ i c s, (upsert i c s).2 = none ↔ ok i c
  stored : ∀ i c s, ok i c →
    (upsert i c s).1.conns = s.conns.insert c.id (normalizeConnection c)
  failed : ∀ i c s, (upsert i c s).1 = s ∨
    (upsert i c s).1.conns = s.conns.insert c.id (normalizeConnection c)

theorem Stores.tail (stores : Stores upsert ok) :
    Stores (fun i => upsert (i + 1)) fun i => ok (i + 1) :=
  ⟨fun i => stores.succeeds (i + 1), fun i => stores.stored (i + 1),
    fun i => stores.failed (i + 1)⟩

theorem succeeds_upsertEach (stores : Stores upsert ok) {conns : List Connection} {s : Registry} :
    (upsertEach upsert conns s).2 = none ↔ ∀ i c, conns[i]? = some c → ok i c := by
  induction conns generalizing s upsert ok with
  | nil => simp [upsertEach]
  | cons c conns ih =>
      have first := stores.succeeds 0 c s
      unfold upsertEach
      split
      · rename_i s' err failed
        rw [failed] at first
        refine iff_of_false (by simp) fun each => ?_
        have none := first.mpr (each 0 c rfl)
        cases none
      · rename_i s' succeeded
        rw [succeeded] at first
        rw [ih stores.tail]
        constructor
        · intro each i c' here
          cases i with
          | zero =>
              obtain rfl := Option.some.inj here
              exact first.mp rfl
          | succ i => exact each i c' here
        · intro each i c' here
          exact each (i + 1) c' here

/-- A row of upserts that succeeds stores every connection in turn. -/
theorem conns_upsertEach (stores : Stores upsert ok) {conns : List Connection} {s : Registry}
    (succeeded : (upsertEach upsert conns s).2 = none) :
    (upsertEach upsert conns s).1.conns =
      (conns.map normalizeConnection).foldl (fun m c => m.insert c.id c) s.conns := by
  induction conns generalizing s upsert ok with
  | nil => rfl
  | cons c conns ih =>
      have each := (succeeds_upsertEach stores).mp succeeded
      have first := (stores.succeeds 0 c s).mpr (each 0 c rfl)
      have stored := stores.stored 0 c s (each 0 c rfl)
      unfold upsertEach at succeeded ⊢
      split
      · rename_i s' err failed
        rw [failed] at first
        cases first
      · rename_i s' done
        rw [done] at stored succeeded
        rw [ih stores.tail succeeded, stored, List.map_cons, List.foldl_cons,
          id_normalizeConnection]

/-- A registry with connections keeps some. -/
theorem nonempty_upsertEach (stores : Stores upsert ok) {conns : List Connection} {s : Registry}
    (some : s.conns ≠ ∅) : (upsertEach upsert conns s).1.conns ≠ ∅ := by
  induction conns generalizing s upsert ok with
  | nil => exact some
  | cons c conns ih =>
      have kept : (upsert 0 c s).1.conns ≠ ∅ := by
        rcases stores.failed 0 c s with same | stored
        · rw [same]
          exact some
        · rw [stored]
          exact GoMap.insert_ne_empty _ _ _
      unfold upsertEach
      split
      · rename_i s' err failed
        rw [failed] at kept
        exact kept
      · rename_i s' done
        rw [done] at kept
        exact ih stores.tail kept

end Upserts

/-! ### What the calls keep -/

section Keeps

variable {P : Registry → Prop}

theorem upsertEach_keeps {upsert : Nat → Connection → Registry → Registry × Option String}
    (keeps : ∀ i c s, P s → P (upsert i c s).1) {conns : List Connection} {s : Registry}
    (holds : P s) : P (upsertEach upsert conns s).1 := by
  induction conns generalizing s upsert with
  | nil => exact holds
  | cons c conns ih =>
      have first := keeps 0 c s holds
      unfold upsertEach
      split
      · rename_i s' err failed
        rw [failed] at first
        exact first
      · rename_i s' done
        rw [done] at first
        exact ih (fun i => keeps (i + 1)) first

variable {env : RegistryEnv} {s : Registry}

theorem Registry.upsert_keeps {now : Moment} {c : Connection}
    (put : Accepted env c → P (s.put now (normalizeConnection c))) (holds : P s) :
    P (s.upsert env now c).1 := by
  by_cases accepted : Accepted env c
  · rw [upsert_of_accepted accepted]
    exact put accepted
  · obtain ⟨err, refused⟩ := upsert_of_refused accepted s now
    rw [refused]
    exact holds

theorem Registry.seedIfEmpty_keeps {now : Nat → Moment}
    (put : ∀ i c s, Accepted env c → P s → P (s.put (now i) (normalizeConnection c)))
    (conns : List Connection) (holds : P s) : P (s.seedIfEmpty env now conns).1 := by
  have row : P (upsertEach (fun i => Registry.upsert env (now i)) conns s).1 :=
    upsertEach_keeps
      (fun i c s holds => upsert_keeps (fun accepted => put i c s accepted holds) holds) holds
  unfold seedIfEmpty
  split
  · exact holds
  · split
    · rename_i s' err failed
      rw [failed] at row
      exact row
    · rename_i s' done
      rw [done] at row
      exact row

end Keeps

end KvIndexer.Gateway
