import KvIndexer.Gateway.VirtualConfig

/-!
The live registry (`internal/gateway/store.go`) and what a request selects from it
(`internal/gateway/gateway.go`).

On MongoDB an edit of the registry writes the connection first and the virtual config after
it, so these are steps of their own. The registry is read sorted by cluster and id.
-/

namespace KvIndexer.Gateway

/-- What `url.Parse` reads. -/
structure ParsedURL where
  scheme : String
  host : String
deriving DecidableEq

/-- `url.Parse`, `strconv.Quote` and the order in which the store hands out connections. -/
structure RegistryEnv where
  parseURL : String → Option ParsedURL
  quote : String → String
  order : GoMap.Orders String Connection

/-! ### Connections -/

def normalizeConnection (c : Connection) : Connection :=
  let c := if c.kind = "" then { c with kind := ConnectionKindBackend } else c
  if c.kind = ConnectionKindVirtual then { c with url := "", token := "" } else c

/-- The error of a connection that is refused. -/
def validateConnection (env : RegistryEnv) (c : Connection) : Option String :=
  if c.id = "" ∨ c.cluster = "" then some "connection requires id and cluster"
  else if c.kindOrDefault = ConnectionKindBackend then
    if c.url = "" then some "backend connection requires url"
    else
      match env.parseURL c.url with
      | some u =>
          if (u.scheme = "http" ∨ u.scheme = "https") ∧ u.host ≠ "" then none
          else some ("connection url must be an absolute http(s) URL, got " ++ env.quote c.url)
      | none => some ("connection url must be an absolute http(s) URL, got " ++ env.quote c.url)
  else if c.kindOrDefault = ConnectionKindVirtual then none
  else some "connection kind must be \"backend\" or \"virtual\""

/-- The collections `connections` and `virtual_configs`. -/
structure Registry where
  conns : GoMap String Connection := ∅
  virtualConfigs : VirtualConfigs := ∅

/-- The steps of `Upsert` (the first two) and of `Delete`. -/
inductive Edit
  | replaceConnection (c : Connection)
  | ensureVirtualConfig (now : Moment) (c : Connection)
  | deleteConnection (id : String)
  | deleteVirtualConfig (id : String)

/-- A connection that is refused changes nothing. -/
def Registry.edit (env : RegistryEnv) (s : Registry) : Edit → Registry
  | .replaceConnection c =>
      let c := normalizeConnection c
      match validateConnection env c with
      | some _ => s
      | none => { s with conns := s.conns.insert c.id c }
  | .ensureVirtualConfig now c =>
      let c := normalizeConnection c
      match validateConnection env c with
      | some _ => s
      | none =>
          if c.kindOrDefault = ConnectionKindVirtual then
            let ensure := (VirtualMutation.ensureVirtualConfig c).transaction now
            { s with
              virtualConfigs := ensure.write (ensure.read s.virtualConfigs) s.virtualConfigs }
          else s
  | .deleteConnection id => { s with conns := s.conns.erase id }
  | .deleteVirtualConfig id => { s with virtualConfigs := s.virtualConfigs.erase id }

/-! ### Reading -/

/-- The sort of `reload`. -/
def connectionLess (a b : Connection) : Bool :=
  if a.cluster ≠ b.cluster then a.cluster < b.cluster else a.id < b.id

/-- What the sort looks at. -/
def connectionKey (c : Connection) : String ×ₗ String := toLex (c.cluster, c.id)

theorem connectionLess_eq (a b : Connection) :
    connectionLess a b = decide (connectionKey a < connectionKey b) := by
  rw [Bool.eq_iff_iff, decide_eq_true_eq, connectionKey, connectionKey, Prod.Lex.toLex_lt_toLex]
  unfold connectionLess
  by_cases same : a.cluster = b.cluster
  · simp [same]
  · simp [same]

def connectionSort : SortSlice connectionLess := .byKey connectionLess_eq

/-- One kvindexer, with the cluster it serves. -/
structure Backend where
  id : String
  cluster : String
  url : String
  token : String := ""
deriving DecidableEq

def Connection.backend (c : Connection) : Backend := ⟨c.id, c.cluster, c.url, c.token⟩

/-- The filters `?cluster=` and `?backend=` of a request. -/
structure Selector where
  cluster : String := ""
  backend : String := ""

def Selector.keeps (sel : Selector) (id cluster : String) : Bool :=
  (sel.backend = "" || id = sel.backend) &&
    (sel.cluster = "" || sel.cluster = "all" || cluster = sel.cluster)

namespace Registry

variable (env : RegistryEnv) (s : Registry)

def list : List Connection := connectionSort.sort (env.order s.conns).values

/-- The enabled connections to kvindexers. -/
def backends : List Backend :=
  ((s.list env).filter fun c => c.enabled && c.kindOrDefault = ConnectionKindBackend).map
    Connection.backend

def virtualConnections : List Connection :=
  (s.list env).filter fun c => c.enabled && c.kindOrDefault = ConnectionKindVirtual

def selected (sel : Selector) : List Backend :=
  (s.backends env).filter fun b => sel.keeps b.id b.cluster

def selectedVirtual (sel : Selector) : List Connection :=
  (s.virtualConnections env).filter fun c => sel.keeps c.id c.cluster

/-- Every connection stands under its id. -/
def Keyed : Prop := GoMap.Keyed Connection.id s.conns

variable {env} {s}

theorem mem_list (keyed : s.Keyed) {c : Connection} :
    c ∈ s.list env ↔ s.conns.lookup c.id = some c := by
  rw [list, SortSlice.mem_sort, GoMap.Order.mem_values]
  constructor
  · rintro ⟨id, found⟩
    rw [keyed id c found]
    exact found
  · intro found
    exact ⟨c.id, found⟩

theorem nodup_list (keyed : s.Keyed) : (s.list env).Nodup :=
  (connectionSort.perm _).nodup_iff.mpr (GoMap.Keyed.nodup_values keyed _)

/-- Connections of one id are one. -/
theorem eq_of_mem_list (keyed : s.Keyed) {a b : Connection} (left : a ∈ s.list env)
    (right : b ∈ s.list env) (same : a.id = b.id) : a = b := by
  have here := (mem_list keyed).mp left
  rw [same, (mem_list keyed).mp right] at here
  exact (Option.some.inj here).symm

/-- The connections of a registry, in order. -/
theorem list_eq_of_lookup (keyed : s.Keyed) {conns : List Connection}
    (inOrder : conns.Pairwise fun a b => connectionLess b a = false) (once : conns.Nodup)
    (members : ∀ c, s.conns.lookup c.id = some c ↔ c ∈ conns) : s.list env = conns :=
  SortSlice.eq_of_mem_iff connectionLess_eq (connectionSort.sorted _) inOrder (nodup_list keyed)
    once (fun _ left _ right same =>
      eq_of_mem_list keyed left right (congrArg Prod.snd (toLex.injective same)))
    fun c => (mem_list keyed).trans (members c)

/-- A backend is selected when it is the backend of an enabled connection and passes the
filters. -/
theorem mem_selected (keyed : s.Keyed) {sel : Selector} {b : Backend} :
    b ∈ s.selected env sel ↔
      sel.keeps b.id b.cluster = true ∧ ∃ c, s.conns.lookup b.id = some c ∧ c.enabled = true ∧
        c.kindOrDefault = ConnectionKindBackend ∧ c.backend = b := by
  unfold selected backends
  rw [List.mem_filter, List.mem_map, and_comm]
  refine and_congr_right fun _ => ?_
  constructor
  · rintro ⟨c, member, rfl⟩
    rw [List.mem_filter, mem_list keyed, Bool.and_eq_true, decide_eq_true_eq] at member
    exact ⟨c, member.1, member.2.1, member.2.2, rfl⟩
  · rintro ⟨c, found, enabled, kind, rfl⟩
    refine ⟨c, ?_, rfl⟩
    rw [List.mem_filter, mem_list keyed, Bool.and_eq_true, decide_eq_true_eq]
    exact ⟨found, enabled, kind⟩

/-- What is selected of a registry with one connection. -/
theorem selected_single (keyed : s.Keyed) {c : Connection}
    (single : ∀ id, s.conns.lookup id = if id = c.id then some c else none) {sel : Selector}
    (enabled : c.enabled = true) (kind : c.kindOrDefault = ConnectionKindBackend)
    (keeps : sel.keeps c.id c.cluster = true) :
    s.selected env sel = [c.backend] ∧ s.selectedVirtual env sel = [] := by
  have all : s.list env = [c] := by
    refine list_eq_of_lookup keyed (List.pairwise_singleton _ c) (List.nodup_singleton c)
      fun c' => ?_
    rw [single, List.mem_singleton]
    constructor
    · intro found
      split at found
      · exact (Option.some.inj found).symm
      · cases found
    · rintro rfl
      rw [if_pos rfl]
  have otherKind : ConnectionKindBackend ≠ ConnectionKindVirtual := by decide
  unfold selected selectedVirtual backends virtualConnections
  rw [all]
  simp [enabled, kind, otherKind, Connection.backend, keeps]

/-- Edits keep every connection under its id. -/
theorem Keyed.edit (keyed : s.Keyed) (e : Edit) : (s.edit env e).Keyed := by
  cases e with
  | replaceConnection c =>
      unfold Registry.edit
      dsimp only
      split
      · exact keyed
      · exact GoMap.Keyed.insert keyed rfl
  | ensureVirtualConfig now c =>
      unfold Registry.edit
      dsimp only
      split
      · exact keyed
      · split
        · exact keyed
        · exact keyed
  | deleteConnection id => exact GoMap.Keyed.erase keyed id
  | deleteVirtualConfig id => exact keyed

end Registry

end KvIndexer.Gateway
