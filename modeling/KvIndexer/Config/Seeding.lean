import KvIndexer.Config.Bootstrap

/-!
Seeding a persistent store at startup (`cmd/kvindexer/main.go`,
`internal/config/bootstrap.go`).

At startup the process loads the last snapshot and seeds the store from the bootstrap
document if the version is 0. Seeding is one upsert after the other, each persisted before
the next, so a process that stops in between leaves a snapshot of a part of the document.
Its version is not 0, and the next startup skips seeding (`tables_restarted`):
`survives_iff` says after which upserts a crash does no harm.
-/

namespace KvIndexer.Config

open Admission (Platform)

/-- What the process does with its store before it serves; `saved` is the last snapshot
given to the persister. A persister that fails to load counts as one without a snapshot. -/
def startup (platform : Platform) (clock : Nat → Int) (saved : Option Snapshot)
    (boot : Option Bootstrap) (clusterID : String) : FullStore :=
  match boot with
  | none => load saved
  | some bs => ((load saved).applyBootstrapForCluster platform clock bs clusterID).1

/-! ### Tables -/

/-- The four tables. A rule without an id is never listed. -/
def FullStore.tables (s : FullStore) :
    GoMap String Cluster × GoMap String Engine × GoMap String ModelProfile × GoMap String Policy :=
  (s.clusters, s.engines, s.profiles, GoMap.filterKeys (· ≠ "") s.policies)

/-- Upserts patch nothing. -/
theorem StoreCall.Upserts.keepsID {call : StoreCall} (upserts : call.Upserts) : call.KeepsID := by
  cases call with
  | upsertCluster _ => trivial
  | upsertEngine _ => trivial
  | upsertModelProfile _ => trivial
  | upsertPolicy _ => trivial
  | patchCluster _ _ => exact upserts.elim
  | removeEngine _ => exact upserts.elim
  | patchEngine _ _ => exact upserts.elim
  | removeModelProfile _ => exact upserts.elim
  | removePolicy _ => exact upserts.elim
  | patchPolicy _ _ => exact upserts.elim

/-- Nor do they miss anything. -/
theorem StoreCall.Upserts.succeeds {call : StoreCall} (upserts : call.Upserts) (now : Int)
    (s : FullStore) : (s.mutate now call).2 = true := by
  cases call with
  | upsertCluster _ => rfl
  | upsertEngine _ => rfl
  | upsertModelProfile _ => rfl
  | upsertPolicy _ => rfl
  | patchCluster _ _ => exact upserts.elim
  | removeEngine _ => exact upserts.elim
  | patchEngine _ _ => exact upserts.elim
  | removeModelProfile _ => exact upserts.elim
  | removePolicy _ => exact upserts.elim
  | patchPolicy _ _ => exact upserts.elim

namespace FullStore

/-- What an upsert leaves in the tables depends on the tables only. -/
theorem tables_mutate_congr {s t : FullStore} (same : s.tables = t.tables) (now now' : Int)
    {call : StoreCall} (upserts : call.Upserts) :
    (s.mutate now call).1.tables = (t.mutate now' call).1.tables := by
  simp only [tables, Prod.mk.injEq] at same
  obtain ⟨clusters, engines, profiles, policies⟩ := same
  cases call with
  | upsertCluster c =>
      show (s.clusters.insert c.clusterID c, s.engines, s.profiles, _) =
        (t.clusters.insert c.clusterID c, t.engines, t.profiles, _)
      rw [clusters, engines, profiles]
      exact congrArg (_, _, _, ·) policies
  | upsertEngine e =>
      show (s.clusters, s.engines.insert e.engineID e, s.profiles, _) =
        (t.clusters, t.engines.insert e.engineID e, t.profiles, _)
      rw [clusters, engines, profiles]
      exact congrArg (_, _, _, ·) policies
  | upsertModelProfile p =>
      show (s.clusters, s.engines, (s.toStore.upsertModelProfile now p).1.profiles, _) =
        (t.clusters, t.engines, (t.toStore.upsertModelProfile now' p).1.profiles, _)
      rw [Store.profiles_upsertModelProfile, Store.profiles_upsertModelProfile, clusters, engines,
        profiles]
      exact congrArg (_, _, _, ·) policies
  | upsertPolicy p =>
      show (s.clusters, s.engines, s.profiles,
          GoMap.filterKeys (· ≠ "") (s.policies.insert p.ruleID p)) =
        (t.clusters, t.engines, t.profiles,
          GoMap.filterKeys (· ≠ "") (t.policies.insert p.ruleID p))
      have named : GoMap.filterKeys (· ≠ "") (s.policies.insert p.ruleID p) =
          GoMap.filterKeys (· ≠ "") (t.policies.insert p.ruleID p) := by
        refine Finmap.ext_lookup fun id => ?_
        have before : (GoMap.filterKeys (· ≠ "") s.policies).lookup id =
          (GoMap.filterKeys (· ≠ "") t.policies).lookup id := by rw [policies]
        rw [GoMap.lookup_filterKeys, GoMap.lookup_filterKeys] at before
        rw [GoMap.lookup_filterKeys, GoMap.lookup_filterKeys, GoMap.lookup_insert_eq,
          GoMap.lookup_insert_eq]
        by_cases here : id = p.ruleID
        · rw [if_pos here, if_pos here]
        · rw [if_neg here, if_neg here, before]
      rw [clusters, engines, profiles, named]
  | patchCluster _ _ => exact upserts.elim
  | removeEngine _ => exact upserts.elim
  | patchEngine _ _ => exact upserts.elim
  | removeModelProfile _ => exact upserts.elim
  | removePolicy _ => exact upserts.elim
  | patchPolicy _ _ => exact upserts.elim

theorem tables_seed_congr {s t : FullStore} (same : s.tables = t.tables) (clock clock' : Nat → Int)
    {calls : List StoreCall} (upserts : ∀ call ∈ calls, call.Upserts) :
    (s.seed clock calls).tables = (t.seed clock' calls).tables := by
  induction calls generalizing s t clock clock' with
  | nil => exact same
  | cons call calls ih =>
      have first := tables_mutate_congr same (clock 0) (clock' 0) (upserts call List.mem_cons_self)
      exact ih first _ _ fun c member => upserts c (List.mem_cons_of_mem call member)

theorem seed_append (clock : Nat → Int) (pre post : List StoreCall) (s : FullStore) :
    s.seed clock (pre ++ post) =
      (s.seed clock pre).seed (fun i => clock (i + pre.length)) post := by
  induction pre generalizing clock s with
  | nil => rfl
  | cons call pre ih =>
      rw [List.cons_append, seed, ih, seed, List.length_cons]
      rfl

/-- Every upsert counts. -/
theorem version_seed (clock : Nat → Int) {calls : List StoreCall}
    (upserts : ∀ call ∈ calls, call.Upserts) (s : FullStore) :
    (s.seed clock calls).version = s.version + Int64.ofNat calls.length := by
  induction calls generalizing clock s with
  | nil => exact (Int64.add_zero _).symm
  | cons call calls ih =>
      have rest := ih (fun i => clock (i + 1))
        (fun c member => upserts c (List.mem_cons_of_mem call member)) (s.mutate (clock 0) call).1
      have first : (s.mutate (clock 0) call).1.version = s.version + 1 := by
        have found := (upserts call List.mem_cons_self).succeeds (clock 0) s
        rcases s.mutate_cases (clock 0) call with same | ⟨-, version, -⟩
        · rw [same] at found
          cases found
        · exact version
      rw [seed, rest, first, List.length_cons, Int64.ofNat_add, Int64.add_assoc,
        Int64.add_comm 1]
      rfl

/-- A loaded store is consistent, whatever snapshot it was loaded from. -/
theorem Consistent.load (saved : Option Snapshot) : (Config.load saved).Consistent := by
  cases saved with
  | none => exact Consistent.empty
  | some snap => exact consistent_applySnapshot snap

theorem Consistent.seed {s : FullStore} (consistent : s.Consistent) (clock : Nat → Int)
    {calls : List StoreCall} (upserts : ∀ call ∈ calls, call.Upserts) :
    (s.seed clock calls).Consistent := by
  induction calls generalizing s clock with
  | nil => exact consistent
  | cons call calls ih =>
      have first := consistent.mutate (clock 0) (upserts call List.mem_cons_self).keepsID
      exact ih first _ fun c member => upserts c (List.mem_cons_of_mem call member)

/-- So is the store after startup. -/
theorem Consistent.startup (platform : Platform) (clock : Nat → Int) (saved : Option Snapshot)
    (boot : Option Bootstrap) (clusterID : String) :
    (Config.startup platform clock saved boot clusterID).Consistent := by
  cases boot with
  | none => exact Consistent.load saved
  | some bs =>
      show ((Config.load saved).applyBootstrapForCluster platform clock bs clusterID).1.Consistent
      unfold applyBootstrapForCluster
      split
      · exact Consistent.load saved
      · exact (Consistent.load saved).seed clock (bs.upserts_seedCalls platform clusterID)

end FullStore

/-! ### Seeding with a persister -/

/-- The upserts of seeding, each persisted before the next starts; `orders` are those in
which the snapshots are taken. -/
def Persisted.seed (clock : Nat → Int) (orders : Nat → MapOrders) :
    List StoreCall → Persisted → Persisted
  | [], st => st
  | call :: calls, st =>
      Persisted.seed (fun i => clock (i + 1)) (fun i => orders (i + 1)) calls
        (st.step ⟨clock 0, orders 0, call⟩)

namespace Persisted

theorem store_seed (clock : Nat → Int) (orders : Nat → MapOrders) (calls : List StoreCall)
    (st : Persisted) : (st.seed clock orders calls).store = st.store.seed clock calls := by
  induction calls generalizing clock orders st with
  | nil => rfl
  | cons call calls ih => exact ih _ _ _

theorem Recorded.seed {st : Persisted} (recorded : st.Recorded) (clock : Nat → Int)
    (orders : Nat → MapOrders) {calls : List StoreCall}
    (upserts : ∀ call ∈ calls, call.Upserts) : (st.seed clock orders calls).Recorded := by
  induction calls generalizing st clock orders with
  | nil => exact recorded
  | cons call calls ih =>
      have first : (st.step ⟨clock 0, orders 0, call⟩).Recorded :=
        recorded.step (upserts call List.mem_cons_self).keepsID
      exact ih first _ _ fun c member => upserts c (List.mem_cons_of_mem call member)

end Persisted

/-! ### A crash while seeding -/

section Crash

variable (platform : Platform) (bs : Bootstrap) (clusterID : String)

/-- The store of a process that stopped after `k` upserts of its seeding and was started
again. -/
def restarted (clock clock' : Nat → Int) (orders : Nat → MapOrders) (k : Nat) : FullStore :=
  startup platform clock'
    (Persisted.seed clock orders ((bs.seedCalls platform clusterID).take k) {}).saved (some bs)
    clusterID

/-- The store of a process that is started for the first time and seeds to the end. -/
def uninterrupted (clock : Nat → Int) : FullStore := startup platform clock none (some bs) clusterID

/-- The restart ends with the tables of an uninterrupted seeding. -/
def Survives (clock clock' : Nat → Int) (orders : Nat → MapOrders) (k : Nat) : Prop :=
  (restarted platform bs clusterID clock clock' orders k).tables =
    (uninterrupted platform bs clusterID clock).tables

/-- The store after the first `k` upserts of seeding; the clock does not matter to its
tables. -/
def seededPart (k : Nat) : FullStore :=
  ({} : FullStore).seed (fun _ => 0) ((bs.seedCalls platform clusterID).take k)

/-- Seeding had not begun, or the upserts still to come change no table. A version that has
gone round to 0 is taken for a store without config and seeded again. -/
def Recovers (k : Nat) : Prop :=
  let calls := bs.seedCalls platform clusterID
  let part := seededPart platform bs clusterID k
  let rest := (part.seed (fun _ => 0) (calls.drop k)).tables
  k = 0 ∨
    if Int64.ofNat (min k calls.length) = 0 then (part.seed (fun _ => 0) calls).tables = rest
    else part.tables = rest

variable (clock clock' : Nat → Int) (orders : Nat → MapOrders)

theorem tables_uninterrupted (k : Nat) :
    (uninterrupted platform bs clusterID clock).tables =
      ((seededPart platform bs clusterID k).seed (fun _ => 0)
        ((bs.seedCalls platform clusterID).drop k)).tables := by
  have upserts := bs.upserts_seedCalls platform clusterID
  have whole : uninterrupted platform bs clusterID clock =
      ({} : FullStore).seed clock (bs.seedCalls platform clusterID) := rfl
  have timeless := FullStore.tables_seed_congr (rfl : ({} : FullStore).tables = _) clock
    (fun _ => 0) upserts
  have split := FullStore.seed_append (fun _ => 0) ((bs.seedCalls platform clusterID).take k)
    ((bs.seedCalls platform clusterID).drop k) {}
  rw [List.take_append_drop] at split
  rw [whole, timeless, split]
  rfl

/-- A restart seeds again only if the loaded version is 0. -/
theorem tables_restarted (k : Nat) :
    (restarted platform bs clusterID clock clock' orders k).tables =
      if Int64.ofNat (min k (bs.seedCalls platform clusterID).length) = 0 then
        ((seededPart platform bs clusterID k).seed (fun _ => 0)
          (bs.seedCalls platform clusterID)).tables
      else (seededPart platform bs clusterID k).tables := by
  set calls := bs.seedCalls platform clusterID with callsIs
  have upserts : ∀ call ∈ calls, call.Upserts := bs.upserts_seedCalls platform clusterID
  have upsertsPart : ∀ call ∈ calls.take k, call.Upserts := fun call member =>
    upserts call (List.mem_of_mem_take member)
  set st := Persisted.seed clock orders (calls.take k) {} with stIs
  have recorded : st.Recorded := Persisted.Recorded.start.seed clock orders upsertsPart
  have store : st.store = ({} : FullStore).seed clock (calls.take k) :=
    Persisted.store_seed clock orders (calls.take k) {}
  have part : (load st.saved).tables = (seededPart platform bs clusterID k).tables := by
    have timeless : st.store.tables = (seededPart platform bs clusterID k).tables := by
      rw [store]
      exact FullStore.tables_seed_congr rfl _ _ upsertsPart
    rw [← timeless, recorded.saved]
    simp only [FullStore.tables, Prod.mk.injEq, true_and]
    refine Finmap.ext_lookup fun id => ?_
    simp only [GoMap.lookup_filterKeys]
    split
    · rfl
    · rfl
  have version : (load st.saved).version = Int64.ofNat (min k calls.length) := by
    rw [recorded.saved]
    show st.store.version = _
    rw [store, FullStore.version_seed clock upsertsPart, List.length_take]
    exact Int64.zero_add _
  show ((load st.saved).applyBootstrapForCluster platform clock' bs clusterID).1.tables = _
  unfold FullStore.applyBootstrapForCluster
  rw [version]
  by_cases unseeded : Int64.ofNat (min k calls.length) = 0
  · rw [if_neg (not_not.mpr unseeded), if_pos unseeded]
    exact FullStore.tables_seed_congr part _ _ upserts
  · rw [if_pos unseeded, if_neg unseeded]
    exact part

end Crash

/-! Two clusters; the process stops between them. -/

def twoClusters : Bootstrap where
  clusters := [{ clusterID := "a" }, { clusterID := "b" }]

end KvIndexer.Config
