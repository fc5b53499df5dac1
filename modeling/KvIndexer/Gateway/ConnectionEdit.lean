import KvIndexer.Gateway.MemoryStore
import KvIndexer.Lib.Run

/-!
Listing and posting connections (`internal/gateway/gateway.go`).

The list leaves the token out, and a post takes the fields it leaves out from the connection
with its id. So a row of the list can be posted as it is, or in part (`lossless_run`). The
reason is that what is stored is normal and was accepted.
-/

namespace KvIndexer.Gateway

/-- A connection as it is listed or posted; a field that is left out is `none`. Whether there
is a token is only listed, the token is only posted. -/
structure ConnectionJSON where
  id : Option String := none
  kind : Option String := none
  cluster : Option String := none
  displayName : Option String := none
  region : Option String := none
  environment : Option String := none
  labels : Option (GoMap String String) := none
  url : Option String := none
  hasToken : Option Bool := none
  token : Option String := none
  enabled : Option Bool := none

/-- The tag `omitempty` of a string. -/
def omitEmpty (s : String) : Option String := if s = "" then none else some s

def Connection.view (c : Connection) : ConnectionJSON where
  id := some c.id
  kind := some c.kindOrDefault
  cluster := some c.cluster
  displayName := omitEmpty c.displayName
  region := omitEmpty c.region
  environment := omitEmpty c.environment
  labels := if c.labels = ∅ then none else some c.labels
  url := some c.url
  hasToken := some (c.token ≠ "")
  enabled := some c.enabled

def handleListConnections (env : RegistryEnv) (s : Registry) : List ConnectionJSON :=
  (s.list env).map Connection.view

def orIfEmpty (s fallback : String) : String := if s = "" then fallback else s

/-- The connection that is posted, with what it leaves out from the one there is. -/
def ConnectionJSON.connection (body : ConnectionJSON) (existing : Option Connection) :
    Connection :=
  let c : Connection :=
    { id := body.id.getD ""
      kind := body.kind.getD ""
      cluster := body.cluster.getD ""
      displayName := body.displayName.getD ""
      region := body.region.getD ""
      environment := body.environment.getD ""
      labels := body.labels.getD ∅
      url := body.url.getD "" }
  match existing with
  | none => { c with token := body.token.getD "", enabled := body.enabled.getD true }
  | some e =>
      { id := c.id
        kind := orIfEmpty c.kind e.kind
        cluster := orIfEmpty c.cluster e.cluster
        url := orIfEmpty c.url e.url
        displayName := orIfEmpty c.displayName e.displayName
        region := orIfEmpty c.region e.region
        environment := orIfEmpty c.environment e.environment
        labels := body.labels.getD e.labels
        token := body.token.getD e.token
        enabled := body.enabled.getD e.enabled }

/-- The second component is the error. -/
def handleUpsertConnection (env : RegistryEnv) (now : Moment) (body : ConnectionJSON)
    (s : Registry) : Registry × Option String :=
  let existing := (s.list env).find? fun c => c.id = body.id.getD ""
  s.upsert env now (body.connection existing)

inductive ConnectionRequest
  | seedIfEmpty (now : Nat → Moment) (conns : List Connection)
  | upsert (now : Moment) (body : ConnectionJSON)
  | delete (id : String)

def Registry.serve (env : RegistryEnv) (s : Registry) : ConnectionRequest → Registry
  | .seedIfEmpty now conns => (s.seedIfEmpty env now conns).1
  | .upsert now body => (handleUpsertConnection env now body s).1
  | .delete id => s.delete id

/-! ### What is stored -/

/-- The connections of the table stand under their ids, are normal and would be accepted
again. -/
structure Registry.Settled (env : RegistryEnv) (s : Registry) : Prop where
  keyed : s.Keyed
  normal : ∀ id c, s.conns.lookup id = some c → normalizeConnection c = c
  accepted : ∀ id c, s.conns.lookup id = some c → Accepted env c

@[simp] theorem normalizeConnection_idem (c : Connection) :
    normalizeConnection (normalizeConnection c) = normalizeConnection c := by
  have kind : (normalizeConnection c).kindOrDefault = (normalizeConnection c).kind := by
    rw [normalizeConnection_eq]
    exact if_neg (kindOrDefault_ne_empty c)
  rw [normalizeConnection_eq (normalizeConnection c)]
  simp only [virtual_normalizeConnection, kind]
  rw [normalizeConnection_eq]
  by_cases virtual : c.Virtual
  · simp only [if_pos virtual]
  · simp only [if_neg virtual]

namespace Registry

variable {env : RegistryEnv} {s : Registry}

theorem Settled.put (settled : s.Settled env) (now : Moment) {c : Connection}
    (accepted : Accepted env c) : (s.put now (normalizeConnection c)).Settled env := by
  have stored : ∀ id c', (s.put now (normalizeConnection c)).conns.lookup id = some c' →
      c' = normalizeConnection c ∨ s.conns.lookup id = some c' := by
    intro id c' found
    have found : (s.conns.insert (normalizeConnection c).id (normalizeConnection c)).lookup id =
      some c' := found
    rw [GoMap.lookup_insert_eq] at found
    split at found
    · exact Or.inl (Option.some.inj found).symm
    · exact Or.inr found
  refine ⟨GoMap.Keyed.insert settled.keyed rfl, fun id c' found => ?_, fun id c' found => ?_⟩
  · rcases stored id c' found with rfl | before
    · exact normalizeConnection_idem c
    · exact settled.normal id c' before
  · rcases stored id c' found with rfl | before
    · unfold Accepted
      rw [normalizeConnection_idem]
      exact accepted
    · exact settled.accepted id c' before

theorem Settled.delete (settled : s.Settled env) (id : String) : (s.delete id).Settled env := by
  have stored : ∀ id' c, (s.delete id).conns.lookup id' = some c → s.conns.lookup id' = some c := by
    intro id' c found
    have found : (s.conns.erase id).lookup id' = some c := found
    rw [GoMap.lookup_erase_eq] at found
    split at found
    · cases found
    · exact found
  exact ⟨GoMap.Keyed.erase settled.keyed id,
    fun id' c found => settled.normal id' c (stored id' c found),
    fun id' c found => settled.accepted id' c (stored id' c found)⟩

theorem Settled.serve (settled : s.Settled env) (r : ConnectionRequest) :
    (s.serve env r).Settled env := by
  cases r with
  | seedIfEmpty now conns =>
      exact seedIfEmpty_keeps (fun i c s accepted settled => settled.put (now i) accepted) conns
        settled
  | upsert now body => exact upsert_keeps (fun accepted => settled.put now accepted) settled
  | delete id => exact settled.delete id

end Registry

/-! ### What a post changes -/

/-- The body repeats fields of a listed row, its id among them. -/
structure Repeats (body row : ConnectionJSON) : Prop where
  id : body.id = row.id
  kind : body.kind = none ∨ body.kind = row.kind
  cluster : body.cluster = none ∨ body.cluster = row.cluster
  displayName : body.displayName = none ∨ body.displayName = row.displayName
  region : body.region = none ∨ body.region = row.region
  environment : body.environment = none ∨ body.environment = row.environment
  labels : body.labels = none ∨ body.labels = row.labels
  url : body.url = none ∨ body.url = row.url
  hasToken : body.hasToken = none ∨ body.hasToken = row.hasToken
  token : body.token = none ∨ body.token = row.token
  enabled : body.enabled = none ∨ body.enabled = row.enabled

/-- The connection keeps its kind and every field that the body does not supply. -/
structure KeepsOmitted (body : ConnectionJSON) (old new : Connection) : Prop where
  id : new.id = old.id
  kind : new.kind = old.kind
  cluster : body.cluster.getD "" = "" → new.cluster = old.cluster
  displayName : body.displayName.getD "" = "" → new.displayName = old.displayName
  region : body.region.getD "" = "" → new.region = old.region
  environment : body.environment.getD "" = "" → new.environment = old.environment
  labels : body.labels = none → new.labels = old.labels
  url : body.url.getD "" = "" → new.url = old.url
  token : body.token = none → new.token = old.token
  enabled : body.enabled = none → new.enabled = old.enabled

/-- Posting a row of the list again, or part of it, changes no connection; a post that
succeeds and does not change the kind changes nothing of its connection that it leaves out,
and no other connection. -/
structure Lossless (env : RegistryEnv) (s : Registry) : Prop where
  repeated : ∀ row ∈ handleListConnections env s, ∀ body, Repeats body row → ∀ now,
    (handleUpsertConnection env now body s).2 = none ∧
      (handleUpsertConnection env now body s).1.conns = s.conns
  edited : ∀ id old, s.conns.lookup id = some old → ∀ body, body.id = some id →
    body.kind.getD "" = "" ∨ body.kind = some old.kind → ∀ now,
    (handleUpsertConnection env now body s).2 = none →
      (∃ new, (handleUpsertConnection env now body s).1.conns = s.conns.insert id new ∧
        KeepsOmitted body old new)

@[simp] theorem orIfEmpty_empty (fallback : String) : orIfEmpty "" fallback = fallback := if_pos rfl

@[simp] theorem orIfEmpty_self (s : String) : orIfEmpty s s = s := by
  unfold orIfEmpty
  split
  · rfl
  · rfl

theorem orIfEmpty_repeated {field : Option String} {s : String}
    (repeats : field = none ∨ field = some s) : orIfEmpty (field.getD "") s = s := by
  rcases repeats with rfl | rfl
  · exact orIfEmpty_empty s
  · exact orIfEmpty_self s

theorem orIfEmpty_omitted {field : Option String} {s : String}
    (repeats : field = none ∨ field = omitEmpty s) : orIfEmpty (field.getD "") s = s := by
  refine orIfEmpty_repeated ?_
  unfold omitEmpty at repeats
  split at repeats
  · exact Or.inl (or_self_iff.mp repeats)
  · exact repeats

/-- A row that is repeated says what is stored. -/
theorem connection_of_repeats {c : Connection} (kind : c.kindOrDefault = c.kind)
    {body : ConnectionJSON} (repeats : Repeats body c.view) : body.connection (some c) = c := by
  have labels : body.labels.getD c.labels = c.labels := by
    rcases repeats.labels with none | same
    · rw [none]
      rfl
    · rw [same]
      unfold Connection.view
      dsimp only
      split
      · rfl
      · rfl
  have token : body.token.getD c.token = c.token := by
    rw [or_self_iff.mp repeats.token]
    rfl
  have enabled : body.enabled.getD c.enabled = c.enabled := by
    rcases repeats.enabled with none | same
    · rw [none]
      rfl
    · rw [same]
      rfl
  have id : body.id.getD "" = c.id := by
    rw [repeats.id]
    rfl
  have kind : orIfEmpty (body.kind.getD "") c.kind = c.kind := by
    refine orIfEmpty_repeated ?_
    rw [← kind]
    exact repeats.kind
  unfold ConnectionJSON.connection
  dsimp only
  rw [labels, token, enabled, id, kind, orIfEmpty_repeated repeats.cluster,
    orIfEmpty_repeated repeats.url, orIfEmpty_omitted repeats.displayName,
    orIfEmpty_omitted repeats.region, orIfEmpty_omitted repeats.environment]

/-- What a post that leaves the kind alone makes of a stored connection. -/
theorem keepsOmitted_connection {old : Connection} (normal : normalizeConnection old = old)
    {body : ConnectionJSON} (id : body.id = some old.id)
    (kind : body.kind.getD "" = "" ∨ body.kind = some old.kind) :
    KeepsOmitted body old (normalizeConnection (body.connection (some old))) := by
  have fields := normalizeConnection_eq old
  rw [normal] at fields
  have oldKind : old.kindOrDefault = old.kind := (congrArg Connection.kind fields).symm
  have sameKind : (body.connection (some old)).kind = old.kind := by
    show orIfEmpty (body.kind.getD "") old.kind = old.kind
    rcases kind with omitted | same
    · rw [omitted, orIfEmpty_empty]
    · rw [same]
      exact orIfEmpty_self _
  have postedKind : (body.connection (some old)).kindOrDefault = old.kind := by
    unfold Connection.kindOrDefault
    rw [sameKind]
    exact oldKind
  have virtual : (body.connection (some old)).Virtual ↔ old.Virtual := by
    unfold Connection.Virtual
    rw [postedKind, oldKind]
  rw [normalizeConnection_eq]
  simp only [virtual, postedKind]
  refine ⟨?_, rfl, fun omitted => ?_, fun omitted => ?_, fun omitted => ?_, fun omitted => ?_,
    fun omitted => ?_, fun omitted => ?_, fun omitted => ?_, fun omitted => ?_⟩
  · simp only [ConnectionJSON.connection, id, Option.getD_some]
  · simp only [ConnectionJSON.connection, omitted, orIfEmpty_empty]
  · simp only [ConnectionJSON.connection, omitted, orIfEmpty_empty]
  · simp only [ConnectionJSON.connection, omitted, orIfEmpty_empty]
  · simp only [ConnectionJSON.connection, omitted, orIfEmpty_empty]
  · simp only [ConnectionJSON.connection, omitted, Option.getD_none]
  · simp only [ConnectionJSON.connection, omitted, orIfEmpty_empty]
    exact (congrArg Connection.url fields).symm
  · simp only [ConnectionJSON.connection, omitted, Option.getD_none]
    exact (congrArg Connection.token fields).symm
  · simp only [ConnectionJSON.connection, omitted, Option.getD_none]

section Settled

variable {env : RegistryEnv} {s : Registry} (settled : s.Settled env)
include settled

theorem find?_list {id : String} {c : Connection} (stored : s.conns.lookup id = some c) :
    (s.list env).find? (fun c => c.id = id) = some c := by
  have underKey := settled.keyed id c stored
  have listed : c ∈ s.list env := by
    rw [Registry.mem_list settled.keyed, underKey]
    exact stored
  obtain ⟨found, here⟩ := Option.isSome_iff_exists.mp
    (List.find?_isSome (p := fun c : Connection => decide (c.id = id)) |>.mpr
      ⟨c, listed, decide_eq_true underKey⟩)
  have named := List.find?_some here
  have member := (Registry.mem_list settled.keyed).mp (List.mem_of_find?_eq_some here)
  rw [of_decide_eq_true named, stored] at member
  rw [here, Option.some.inj member]

/-- A table whose connections are normal and acceptable is edited without a loss. -/
theorem Registry.Settled.lossless : Lossless env s := by
  refine ⟨fun row member body repeats now => ?_,
    fun id old stored body named kind now succeeded => ?_⟩
  · obtain ⟨c, listed, rfl⟩ := List.mem_map.mp member
    have stored := (Registry.mem_list settled.keyed).mp listed
    have normal := settled.normal c.id c stored
    have kind : c.kindOrDefault = c.kind := by
      have fields := normalizeConnection_eq c
      rw [normal] at fields
      exact (congrArg Connection.kind fields).symm
    have named : body.id.getD "" = c.id := by
      rw [repeats.id]
      rfl
    unfold handleUpsertConnection
    dsimp only
    rw [named, find?_list settled stored, connection_of_repeats kind repeats,
      Registry.upsert_of_accepted (settled.accepted c.id c stored), normal]
    exact ⟨rfl, GoMap.insert_of_lookup stored⟩
  · have underKey := settled.keyed id old stored
    obtain rfl := underKey
    have keeps := keepsOmitted_connection (settled.normal old.id old stored) named kind
    unfold handleUpsertConnection at succeeded ⊢
    dsimp only at succeeded ⊢
    have here : body.id.getD "" = old.id := by
      rw [named]
      rfl
    rw [here, find?_list settled stored] at succeeded ⊢
    by_cases accepted : Accepted env (body.connection (some old))
    · rw [Registry.upsert_of_accepted accepted]
      refine ⟨_, ?_, keeps⟩
      rw [← keeps.id]
      rfl
    · obtain ⟨err, refused⟩ := Registry.upsert_of_refused accepted s now
      rw [refused] at succeeded
      cases succeeded

end Settled

/-- Whatever connections are seeded, posted and deleted, the table can be edited without a
loss. -/
theorem lossless_run (env : RegistryEnv) (requests : List ConnectionRequest) :
    Lossless env (Run.run (Registry.serve env) {} requests) := by
  refine Registry.Settled.lossless ?_
  have empty : Registry.Settled env {} := by
    refine ⟨GoMap.Keyed.empty, fun id c found => ?_, fun id c found => ?_⟩
    · rw [Finmap.lookup_empty] at found
      cases found
    · rw [Finmap.lookup_empty] at found
      cases found
  exact Run.run_invariant (C := fun _ _ => True) (fun s r _ settled => settled.serve r) empty
    (Run.eachStep_forall.mpr fun _ _ => trivial)

end KvIndexer.Gateway
