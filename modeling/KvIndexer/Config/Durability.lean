import KvIndexer.Config.Persistence
import KvIndexer.Lib.Durable
import KvIndexer.Lib.Float64

/-!
The configuration store over a persister that can fail (`internal/config/store.go`,
`internal/config/file_persister.go`).

A `Persister` saves and loads snapshots. A save that fails is logged and the mutation stands
in memory alone; a process that starts again has what the persister loads. `Persister.Atomic`
is what the backends promise: a save that fails leaves what was saved before, and what was
saved reads back, up to what the document format keeps of it. From this, whatever fails and
whenever the process dies, a restarted store is the store as of the last save that was
taken (`Persister.Atomic.sound`).

The file backend writes a second file and renames it; a process can die in between.
-/

namespace KvIndexer.Config

/-! ### Documents -/

mutual

/-- A value of a rule after it went through JSON: every number is a float. -/
def Value.reread : Value → Value
  | .nil => .nil
  | .bool b => .bool b
  | .int n => .float (float64 n)
  | .uint n => .float (float64OfUint n)
  | .float f => .float f
  | .string s => .string s
  | .list values => .list (Value.rereadAll values)
  | .map entries => .map (Value.rereadEntries entries)

def Value.rereadAll : List Value → List Value
  | [] => []
  | v :: values => Value.reread v :: Value.rereadAll values

def Value.rereadEntries : List (String × Value) → List (String × Value)
  | [] => []
  | (k, v) :: entries => (k, Value.reread v) :: Value.rereadEntries entries

end

mutual

theorem Value.reread_reread : ∀ v : Value, v.reread.reread = v.reread
  | .nil | .bool _ | .int _ | .uint _ | .float _ | .string _ => by simp only [Value.reread]
  | .list values => by
      simp only [Value.reread]
      rw [Value.rereadAll_rereadAll values]
  | .map entries => by
      simp only [Value.reread]
      rw [Value.rereadEntries_rereadEntries entries]

theorem Value.rereadAll_rereadAll : ∀ values : List Value,
    Value.rereadAll (Value.rereadAll values) = Value.rereadAll values
  | [] => rfl
  | v :: values => by
      simp only [Value.rereadAll]
      rw [Value.reread_reread v, Value.rereadAll_rereadAll values]

theorem Value.rereadEntries_rereadEntries : ∀ entries : List (String × Value),
    Value.rereadEntries (Value.rereadEntries entries) = Value.rereadEntries entries
  | [] => rfl
  | (k, v) :: entries => by
      simp only [Value.rereadEntries]
      rw [Value.reread_reread v, Value.rereadEntries_rereadEntries entries]

end

/-- A rule after it went through JSON. -/
def Policy.reread (p : Policy) : Policy :=
  { p with conditions := p.conditions.map fun c => { c with value := c.value.reread } }

theorem Policy.reread_reread (p : Policy) : p.reread.reread = p.reread := by
  simp only [Policy.reread, List.map_map]
  congr 1
  refine List.map_congr_left fun c _ => ?_
  simp only [Function.comp_apply, Value.reread_reread]

/-- Writing and reading documents of one type. A value can be one that has no document, such
as a number that is not finite; one that was written reads back as `reread` says. -/
structure Codec (α Doc : Type) (reread : α → α) where
  marshal : α → Option Doc
  unmarshal : Doc → Option α
  unmarshal_marshal : ∀ {a doc}, marshal a = some doc → unmarshal doc = some (reread a)

/-- The codec in as far as it is about one value. -/
def Codec.single {α : Type} [DecidableEq α] (a : α) (doc : String) : Codec α String id where
  marshal b := if b = a then some doc else none
  unmarshal text := if text = doc then some a else none
  unmarshal_marshal := by
    intro b text written
    split at written
    · rename_i same
      rw [if_pos (Option.some.inj written).symm, same]
      rfl
    · cases written

/-- Two codecs of different documents as one. -/
def Codec.either {α Doc : Type} {reread : α → α} (fst snd : Codec α Doc reread)
    (apart : ∀ {a doc}, snd.marshal a = some doc → fst.unmarshal doc = none) :
    Codec α Doc reread where
  marshal a := (fst.marshal a).or (snd.marshal a)
  unmarshal doc := (fst.unmarshal doc).or (snd.unmarshal doc)
  unmarshal_marshal := by
    intro a doc written
    rcases Option.or_eq_some_iff.mp written with first | ⟨-, second⟩
    · rw [fst.unmarshal_marshal first, Option.some_or]
    · rw [apart second, Option.none_or, snd.unmarshal_marshal second]

/-- Documents read one by one give what was written, reread. -/
theorem Codec.mapM_unmarshal {α Doc ρ : Type} {reread : α → α} (codec : Codec α Doc reread)
    {doc : ρ → Doc} {values : List α} {rows : List ρ}
    (written : List.Forall₂ (fun a row => codec.marshal a = some (doc row)) values rows) :
    rows.mapM (fun row => codec.unmarshal (doc row)) = some (values.map reread) := by
  induction written with
  | nil => rfl
  | cons here _ ih =>
      rw [List.mapM_cons, codec.unmarshal_marshal here, ih]
      rfl

/-- A snapshot after it went through JSON. -/
def Snapshot.reread (snap : Snapshot) : Snapshot :=
  { snap with policies := snap.policies.map Policy.reread }

/-- A store after it went through JSON: rules without an id are not taken over. -/
def FullStore.reread (s : FullStore) : FullStore :=
  { s with policies := GoMap.filterKeys (· ≠ "") (GoMap.mapValues Policy.reread s.policies) }

namespace FullStore

variable {s : FullStore}

theorem lookup_reread (s : FullStore) (id : String) :
    s.reread.policies.lookup id =
      if id ≠ "" then (s.policies.lookup id).map Policy.reread else none := by
  unfold reread
  dsimp only
  rw [GoMap.lookup_filterKeys, GoMap.lookup_mapValues]
  simp

theorem reread_reread (s : FullStore) : s.reread.reread = s.reread := by
  have same : s.reread.reread.policies = s.reread.policies := by
    refine Finmap.ext_lookup fun id => ?_
    rw [lookup_reread, lookup_reread]
    cases s.policies.lookup id with
    | none => simp
    | some p => by_cases named : id = "" <;> simp [named, Policy.reread_reread]
  exact congrArg (fun policies => { s with policies }) same

theorem reread_empty : reread {} = {} := by
  have same : (reread {}).policies = ∅ := by
    refine Finmap.ext_lookup fun id => ?_
    rw [lookup_reread, Finmap.lookup_empty, Option.map_none, ite_self]
  exact congrArg (fun policies => { ({} : FullStore) with policies }) same

theorem Consistent.reread (consistent : s.Consistent) : s.reread.Consistent := by
  refine { consistent with policies := fun id p found => ?_ }
  rw [lookup_reread] at found
  split at found
  · obtain ⟨q, kept, rfl⟩ := Option.map_eq_some_iff.mp found
    exact consistent.policies id q kept
  · cases found

end FullStore

/-- The tables of two snapshots list the same entries. -/
structure Snapshot.Rearranged (snap snap' : Snapshot) : Prop where
  clusters : snap.clusters.Perm snap'.clusters
  engines : snap.engines.Perm snap'.engines
  profiles : snap.profiles.Perm snap'.profiles
  policies : snap.policies.Perm snap'.policies
  audit : snap.audit = snap'.audit

/-- A snapshot that lists the tables in any order reads back, with its own version. -/
theorem applySnapshot_reread {s : FullStore} (consistent : s.Consistent) (orders : MapOrders)
    {snap : Snapshot} (rearranged : snap.Rearranged (s.snapshot orders)) :
    applySnapshot snap.reread = { s.reread with version := snap.version } := by
  have normal : snap.profiles.map normalizeModelProfile = snap.profiles := by
    have unchanged : ∀ p ∈ snap.profiles, normalizeModelProfile p = id p := by
      intro p member
      obtain ⟨id, found⟩ :=
        (orders.profiles s.profiles).mem_values.mp (rearranged.profiles.mem_iff.mp member)
      exact consistent.normal id p found
    rw [List.map_congr_left unchanged, List.map_id]
  have clusters := GoMap.ofValues_perm consistent.clusters _ rearranged.clusters
  have engines := GoMap.ofValues_perm consistent.engines _ rearranged.engines
  have profiles := GoMap.ofValues_perm consistent.profiles _ rearranged.profiles
  have policies := GoMap.ofValues_perm consistent.policies _ rearranged.policies
  have rules := GoMap.ofValues_filter Policy.ruleID (snap.policies.map Policy.reread) (· ≠ "")
  have changed : GoMap.ofValues Policy.ruleID (snap.policies.map Policy.reread) =
      GoMap.mapValues Policy.reread (GoMap.ofValues Policy.ruleID snap.policies) :=
    GoMap.ofValues_map snap.policies fun _ => rfl
  rw [changed, policies] at rules
  unfold applySnapshot Snapshot.reread FullStore.reread
  dsimp only
  rw [normal, clusters, engines, profiles, rules, rearranged.audit]
  rfl

/-! ### Persisters -/

/-- `Persister`: where the snapshot lives. A save returns whether it took the snapshot; a load
is none on an error, and otherwise finds a snapshot or that nothing is stored yet. -/
structure Persister (Disk Fault Scan : Type) where
  save : Fault → Snapshot → Disk → Disk × Bool
  load : Scan → Disk → Option (Option Snapshot)

section Persister

variable {Disk Fault Scan : Type} (p : Persister Disk Fault Scan)

/-- `Load` into the empty store of a process that starts. -/
def Persister.restored (scan : Scan) (disk : Disk) : Option FullStore :=
  (p.load scan disk).map Config.load

/-- The store over a persister: `persistLocked` after every mutator that succeeds, `Load` when
the process starts. It starts empty if the load fails. -/
def Persister.machine : Durable.Machine FullStore TimedCall Disk Fault Scan where
  initial := {}
  step s op := s.mutate op.now op.call
  save fault op s disk := p.save fault (s.snapshot op.orders) disk
  load := p.restored

/-- A save is all or nothing, and what was saved reads back as `image` says. -/
structure Persister.Atomic (image : FullStore → FullStore) : Prop where
  taken : ∀ {fault s orders disk}, FullStore.Consistent s →
    (p.save fault (s.snapshot orders) disk).2 = true →
    ∀ scan, p.restored scan (p.save fault (s.snapshot orders) disk).1 = some (image s)
  refused : ∀ {fault snap disk}, (p.save fault snap disk).2 = false →
    ∀ scan, p.load scan (p.save fault snap disk).1 = p.load scan disk
  consistent : ∀ {s}, FullStore.Consistent s → (image s).Consistent
  image_image : ∀ {s}, FullStore.Consistent s → image (image s) = image s

variable {p} {image : FullStore → FullStore}

theorem Persister.Atomic.sound (atomic : p.Atomic image) :
    p.machine.Sound FullStore.Consistent (fun op => op.call.KeepsID)
      (fun disk s => ∀ scan, p.restored scan disk = some (image s)) image where
  initial := FullStore.Consistent.empty
  step consistent keeps := consistent.mutate _ keeps
  unchanged notFound := FullStore.mutate_notFound notFound
  taken consistent taken := atomic.taken consistent taken
  refused holds refused scan := by
    rw [← holds scan]
    exact congrArg (Option.map Config.load) (atomic.refused refused scan)
  load holds := holds _
  image_valid := atomic.consistent
  image_image := atomic.image_image

/-- The store of a process that starts on a disk with nothing stored. -/
def freshProcess (disk : Disk) : Durable.Running FullStore Disk := ⟨{}, disk, {}⟩

/-- Whatever fails and whenever the process dies, what it loads is the store as of the last save
that was taken; and as long as no save is refused and no load fails, which `C` is enough
for, that is the store as it is. -/
theorem Persister.Atomic.durable (atomic : p.Atomic image) {disk : Disk}
    (fresh : ∀ scan, p.load scan disk = some none) (empty : image {} = {})
    {C : Durable.Running FullStore Disk → Durable.Event TimedCall Fault Scan → Prop}
    (enough : ∀ st op fault, (st.live.mutate op.now op.call).1.Consistent → C st (.act op fault) →
      (p.save fault ((st.live.mutate op.now op.call).1.snapshot op.orders) st.disk).2 = true)
    (reads : ∀ st scan, C st (.restart scan) → scan.isSome)
    {events : List (Durable.Event TimedCall Fault Scan)}
    (keeps : ∀ event ∈ events, event.Allowed fun op => op.call.KeepsID) :
    let st := Run.run p.machine.happen (freshProcess disk) events
    (∀ scan, p.restored scan st.disk = some (image st.committed)) ∧
      (Run.EachStep p.machine.happen C (freshProcess disk) events →
        image st.live = image st.committed) := by
  have start : Durable.Kept FullStore.Consistent
      (fun disk s => ∀ scan, p.restored scan disk = some (image s)) (freshProcess disk) := by
    refine ⟨FullStore.Consistent.empty, FullStore.Consistent.empty, fun scan => ?_⟩
    show (p.load scan disk).map Config.load = some (image {})
    rw [fresh scan, empty]
    rfl
  refine ⟨Durable.Sound.load_run atomic.sound start keeps,
    Durable.Sound.run_current atomic.sound ?_ start rfl keeps⟩
  intro st event kept allowed holds
  cases event with
  | act op fault => exact fun _ => enough st op fault (kept.live.mutate _ allowed) holds
  | restart scan => exact reads st scan holds

end Persister

/-! A cluster is stored, a patch of it is not saved, and the process starts again. -/

def storedCluster : Cluster := { clusterID := "c", displayName := "", enabled := true }

def storedAudit : AuditEntry :=
  { version := 1, action := "upsert", entity := "cluster", entityID := "c" }

def patchedCluster : Cluster := { storedCluster with maintenanceMode := true }

def patchedAudit : AuditEntry :=
  { version := 2, action := "patch", entity := "cluster", entityID := "c" }

/-- The calls on the cluster. -/
noncomputable def clusterEvents {Fault Scan : Type} (fine broken : Fault) (scan : Scan) :
    List (Durable.Event TimedCall Fault Scan) :=
  [.act ⟨0, default, .upsertCluster storedCluster⟩ fine,
    .act ⟨0, default, .patchCluster "c" fun c => { c with maintenanceMode := true }⟩ broken,
    .restart (some scan)]

theorem clusterEvents_keepID {Fault Scan : Type} (fine broken : Fault) (scan : Scan) :
    ∀ event ∈ clusterEvents fine broken scan, event.Allowed fun op => op.call.KeepsID := by
  intro event member
  simp only [clusterEvents, List.mem_cons, List.not_mem_nil, or_false] at member
  rcases member with rfl | rfl | rfl
  · trivial
  · exact fun _ => rfl
  · trivial

/-! ### The file backend -/

namespace FilePersister

/-- The file and the temporary file next to it. -/
structure Files where
  file : Option String := none
  tmp : Option String := none

/-- What goes wrong in a save. The process may also die there. -/
structure Fault where
  /-- the temporary file is not written whole, and this is left of it -/
  written : Option (Option String) := none
  /-- it is not renamed -/
  notRenamed : Bool := false

variable (json : Codec Snapshot String Snapshot.reread)

def save (fault : Fault) (snap : Snapshot) (files : Files) : Files × Bool :=
  match json.marshal snap with
  | none => (files, false)
  | some b =>
      match fault.written with
      | some left => ({ files with tmp := left }, false)
      | none =>
          if fault.notRenamed then ({ files with tmp := some b }, false)
          else ({ file := some b, tmp := none }, true)

def load (files : Files) : Option (Option Snapshot) :=
  match files.file with
  | none => some none
  | some b => (json.unmarshal b).map some

def persister : Persister Files Fault Unit where
  save := save json
  load _ := load json

/-- What a save can do: replace the file, or leave it. -/
theorem save_cases (fault : Fault) (snap : Snapshot) (files : Files) :
    (∃ b, json.marshal snap = some b ∧
        save json fault snap files = ({ file := some b, tmp := none }, true)) ∨
      (save json fault snap files).2 = false ∧
        (save json fault snap files).1.file = files.file := by
  unfold save
  cases json.marshal snap with
  | none => exact Or.inr ⟨rfl, rfl⟩
  | some b =>
      cases fault.written with
      | some left => exact Or.inr ⟨rfl, rfl⟩
      | none =>
          cases fault.notRenamed with
          | true => exact Or.inr ⟨rfl, rfl⟩
          | false => exact Or.inl ⟨b, rfl, rfl⟩

theorem persister_atomic : (persister json).Atomic FullStore.reread where
  taken := by
    intro fault s orders files consistent taken scan
    rcases save_cases json fault (s.snapshot orders) files with ⟨b, written, saved⟩ | ⟨refused, -⟩
    · have loaded : load json { file := some b, tmp := none } =
          some (some (s.snapshot orders).reread) := by
        show (json.unmarshal b).map some = _
        rw [json.unmarshal_marshal written, Option.map_some]
      show (load json (save json fault (s.snapshot orders) files).1).map Config.load = _
      rw [saved, loaded]
      exact congrArg some (applySnapshot_reread consistent orders ⟨.rfl, .rfl, .rfl, .rfl, rfl⟩)
    · exact absurd taken (by simp [persister, refused])
  refused := by
    intro fault snap files refused scan
    rcases save_cases json fault snap files with ⟨b, -, saved⟩ | ⟨-, kept⟩
    · exact absurd refused (by simp [persister, saved])
    · show load json (save json fault snap files).1 = load json files
      rw [load, load, kept]
  consistent := FullStore.Consistent.reread
  image_image _ := FullStore.reread_reread _

/-- Nothing disturbs the event: the snapshot has a document, which is written and renamed; or the
load of the restart succeeds. -/
def Undisturbed (st : Durable.Running FullStore Files) :
    Durable.Event TimedCall Fault Unit → Prop
  | .act op fault =>
      (json.marshal ((st.live.mutate op.now op.call).1.snapshot op.orders)).isSome ∧
        fault.written = none ∧ fault.notRenamed = false
  | .restart scan => scan.isSome

/-- Whichever writes and renames fail and whenever the process dies, a restarted store is the
store as of the last save that was renamed; and as long as nothing disturbs the saves, it
is the store as it was. -/
theorem file_durable {events : List (Durable.Event TimedCall Fault Unit)}
    (keeps : ∀ event ∈ events, event.Allowed fun op => op.call.KeepsID) :
    let st := Run.run (persister json).machine.happen (freshProcess {}) events
    (∀ scan, (persister json).restored scan st.disk = some st.committed.reread) ∧
      (Run.EachStep (persister json).machine.happen (Undisturbed json) (freshProcess {}) events →
        st.live.reread = st.committed.reread) := by
  refine Persister.Atomic.durable (persister_atomic json) (fun _ => rfl) FullStore.reread_empty ?_
    (fun _ _ reads => reads) keeps
  intro st op fault _ undisturbed
  obtain ⟨document, written, renamed⟩ := undisturbed
  obtain ⟨b, marshalled⟩ := Option.isSome_iff_exists.mp document
  show (save json fault _ st.disk).2 = true
  rw [save, marshalled, written, renamed]
  rfl

/-- The file of version `version`, with the cluster as it is and the last changes. -/
def storedText (version maintenance changes : String) : String :=
  "\x7b\n  \"version\": " ++ version ++ ",\n  \"clusters\": [\n    \x7b\n" ++
  "      \"cluster_id\": \"c\",\n      \"display_name\": \"\",\n" ++
  "      \"enabled\": true,\n      \"maintenance_mode\": " ++ maintenance ++ "\n    \x7d\n  ],\n" ++
  "  \"engines\": null,\n  \"profiles\": null,\n  \"policies\": null,\n" ++
  "  \"audit\": [\n" ++ changes ++ "  ]\n\x7d"

def changeText (version action : String) : String :=
  "    \x7b\n      \"version\": " ++ version ++ ",\n" ++
  "      \"timestamp\": \"1970-01-01T00:00:00Z\",\n      \"action\": \"" ++ action ++ "\",\n" ++
  "      \"entity\": \"cluster\",\n      \"entity_id\": \"c\",\n" ++
  "      \"version_bump\": false\n    \x7d"

/-- The file after the upsert. -/
def upsertText : String := storedText "1" "false" (changeText "1" "upsert" ++ "\n")

/-- The file that the patch would have left. -/
def patchText : String :=
  storedText "2" "true" (changeText "1" "upsert" ++ ",\n" ++ changeText "2" "patch" ++ "\n")

/-- The codec in as far as it is about one snapshot, of a cluster. -/
def clusterCodec (version : Int64) (c : Cluster) (audit : List AuditEntry) (text : String) :
    Codec Snapshot String Snapshot.reread where
  marshal snap :=
    if snap.version = version ∧ snap.clusters = [c] ∧ snap.engines = [] ∧ snap.profiles = [] ∧
        snap.policies.isEmpty ∧ snap.audit = audit then some text
    else none
  unmarshal doc := if doc = text then some { version, clusters := [c], audit } else none
  unmarshal_marshal := by
    intro snap doc written
    split at written
    · rename_i here
      obtain ⟨rfl, clusters, engines, profiles, policies, rfl⟩ := here
      rw [if_pos (Option.some.inj written).symm]
      cases snap
      obtain rfl := List.isEmpty_iff.mp policies
      dsimp only at clusters engines profiles
      rw [clusters, engines, profiles]
      rfl
    · cases written

def upsertCodec : Codec Snapshot String Snapshot.reread :=
  clusterCodec 1 storedCluster [storedAudit] upsertText

def patchCodec : Codec Snapshot String Snapshot.reread :=
  clusterCodec 2 patchedCluster [storedAudit, patchedAudit] patchText

theorem upsertCodec_apart {snap : Snapshot} {doc : String}
    (written : patchCodec.marshal snap = some doc) : upsertCodec.unmarshal doc = none := by
  obtain rfl := Option.some.inj (Option.ite_none_right_eq_some.mp written).2
  decide +kernel

/-- The codec in as far as it is about the two snapshots. -/
def storedCodec : Codec Snapshot String Snapshot.reread :=
  upsertCodec.either patchCodec upsertCodec_apart

def unrenamed : Fault := { notRenamed := true }

/-- A store with nothing but a cluster. -/
theorem snapshot_cluster {s : FullStore} (orders : MapOrders) {c : Cluster}
    (clusters : s.clusters = Finmap.singleton c.clusterID c) (engines : s.engines = ∅)
    (profiles : s.profiles = ∅) (policies : s.policies = ∅) :
    s.snapshot orders = { version := s.version, clusters := [c], audit := s.audit } := by
  unfold FullStore.snapshot GoMap.Order.values
  rw [clusters, engines, profiles, policies, GoMap.entries_singleton, GoMap.entries_empty,
    GoMap.entries_empty, GoMap.entries_empty]
  rfl

def upserted : FullStore :=
  { version := 1, clusters := Finmap.singleton "c" storedCluster, audit := [storedAudit] }

def patched : FullStore :=
  { version := 2, clusters := Finmap.singleton "c" patchedCluster,
    audit := [storedAudit, patchedAudit] }

theorem patchCluster_stored :
    upserted.patchCluster 0 "c" (fun c => { c with maintenanceMode := true }) =
      (patched, true) := by
  unfold FullStore.patchCluster upserted
  rw [Finmap.lookup_singleton_eq]
  simp only [Finmap.insert_singleton_eq]
  rfl

theorem save_upserted (orders : MapOrders) :
    save storedCodec {} (upserted.snapshot orders) {} = ({ file := some upsertText }, true) := by
  have document : storedCodec.marshal (upserted.snapshot orders) = some upsertText := by
    rw [@snapshot_cluster upserted orders storedCluster rfl rfl rfl rfl]
    rfl
  rw [save, document]
  rfl

theorem save_patched (orders : MapOrders) (files : Files) :
    save storedCodec unrenamed (patched.snapshot orders) files =
      ({ files with tmp := some patchText }, false) := by
  have document : storedCodec.marshal (patched.snapshot orders) = some patchText := by
    rw [@snapshot_cluster patched orders patchedCluster rfl rfl rfl rfl]
    rfl
  rw [save, document]
  rfl

/-- The patch is left in the temporary file. -/
theorem disk_unrenamed :
    (Run.run (persister storedCodec).machine.happen (freshProcess {})
      (clusterEvents {} unrenamed ())).disk =
      { file := some upsertText, tmp := some patchText } := by
  have upsert : (persister storedCodec).machine.happen (freshProcess {})
      (.act ⟨0, default, .upsertCluster storedCluster⟩ {}) =
      ⟨upserted, { file := some upsertText }, upserted⟩ :=
    (Durable.Machine.happen_act rfl (save_upserted default)).trans rfl
  have patch : (persister storedCodec).machine.happen
      ⟨upserted, { file := some upsertText }, upserted⟩
      (.act ⟨0, default, .patchCluster "c" fun c => { c with maintenanceMode := true }⟩ unrenamed) =
      ⟨patched, { file := some upsertText, tmp := some patchText }, upserted⟩ :=
    (Durable.Machine.happen_act patchCluster_stored (save_patched default _)).trans rfl
  rw [clusterEvents, Run.run_cons, upsert, Run.run_cons, patch]
  rfl

theorem unrenamed_durable :
    let st := Run.run (persister storedCodec).machine.happen (freshProcess {})
      (clusterEvents {} unrenamed ())
    st.disk = { file := some upsertText, tmp := some patchText } ∧
      (∀ scan, (persister storedCodec).restored scan st.disk = some st.committed.reread) ∧
      (Run.EachStep (persister storedCodec).machine.happen (Undisturbed storedCodec)
        (freshProcess {}) (clusterEvents {} unrenamed ()) →
        st.live.reread = st.committed.reread) :=
  ⟨disk_unrenamed, file_durable storedCodec (clusterEvents_keepID {} unrenamed ())⟩

end FilePersister

end KvIndexer.Config
