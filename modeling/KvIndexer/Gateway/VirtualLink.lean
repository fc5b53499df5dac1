import KvIndexer.Gateway.MemoryStore

/-!
Virtual connections and their configs in the registry in memory
(`internal/gateway/store.go`).

Storing a virtual connection adds its cluster to the config stored under its id; only a
deletion takes something away. A connection that changes its kind leaves its config behind,
and one that changes its cluster leaves the old cluster in it: `always_linked_iff`.
-/

namespace KvIndexer.Gateway

open Config

/-- A mutation of a virtual config that the gateway offers. -/
def ConfigMutation := { m : VirtualMutation // ∀ c, m ≠ .ensureVirtualConfig c }

inductive RegistryCall
  | seedIfEmpty (conns : List Connection)
  | upsert (c : Connection)
  | delete (id : String)
  | mutate (m : ConfigMutation)

/-- A call with its clock readings. -/
structure TimedEdit where
  now : Nat → Moment
  call : RegistryCall

def Registry.step (env : RegistryEnv) (s : Registry) (op : TimedEdit) : Registry :=
  match op.call with
  | .seedIfEmpty conns => (s.seedIfEmpty env op.now conns).1
  | .upsert c => (s.upsert env (op.now 0) c).1
  | .delete id => s.delete id
  | .mutate m => s.mutateVirtual (op.now 0) m.1

/-- A config is stored exactly for the virtual connections, and it lists the cluster of its
connection and no other. -/
def Registry.Linked (s : Registry) : Prop :=
  ∀ id, (storedSnapshot s.virtualConfigs id).map Snapshot.clusters =
    ((s.conns.lookup id).filter fun c => c.Virtual).map fun c => [virtualCluster c]

/-! ### One id -/

/-- The connection and the clusters of the config that stand under one id. -/
abbrev Link := Option Connection × Option (GoMap String Cluster)

def Registry.link (s : Registry) (id : String) : Link :=
  (s.conns.lookup id,
    (storedSnapshot s.virtualConfigs id).map fun snap =>
      GoMap.ofValues Cluster.clusterID snap.clusters)

/-- What storing a connection makes of them. -/
def Link.write (link : Link) (c : Connection) : Link :=
  (some c,
    if c.Virtual then some ((link.2.getD ∅).insert c.cluster (virtualCluster c)) else link.2)

def Link.Linked (link : Link) : Prop :=
  link.2 = (link.1.filter fun c => c.Virtual).map fun c =>
    Finmap.singleton c.cluster (virtualCluster c)

/-- No config lists two clusters of one id. -/
def Registry.Listed (s : Registry) : Prop :=
  ∀ id snap, storedSnapshot s.virtualConfigs id = some snap →
    (snap.clusters.map Cluster.clusterID).Nodup

/-- A list of distinct clusters is one cluster when its table is. -/
theorem clusters_eq_singleton_iff {clusters : List Cluster} {x : Cluster}
    (distinct : (clusters.map Cluster.clusterID).Nodup) :
    clusters = [x] ↔
      GoMap.ofValues Cluster.clusterID clusters = Finmap.singleton x.clusterID x := by
  constructor
  · rintro rfl
    rfl
  · intro single
    have present : ∃ y ∈ clusters, y.clusterID = x.clusterID := by
      refine GoMap.exists_lookup_ofValues.mp ⟨x, ?_⟩
      rw [single, Finmap.lookup_singleton_eq]
    have all : ∀ y ∈ clusters, y = x := by
      intro y member
      obtain ⟨y', found⟩ := GoMap.exists_lookup_ofValues.mpr
        (⟨y, member, rfl⟩ : ∃ y' ∈ clusters, y'.clusterID = y.clusterID)
      have same : y' = y := List.inj_on_of_nodup_map distinct
        (GoMap.mem_of_lookup_ofValues found) member (GoMap.ofValues_keyed clusters _ _ found)
      rw [single] at found
      have here : y.clusterID = x.clusterID :=
        Finmap.mem_singleton _ _ _ |>.mp (Finmap.mem_of_lookup_eq_some found)
      rw [here, Finmap.lookup_singleton_eq] at found
      rw [← same, ← Option.some.inj found]
    have copies := List.eq_replicate_of_mem all
    have atMost : clusters.length ≤ 1 := by
      have nodup := distinct.of_map
      rw [copies] at nodup
      exact List.nodup_replicate.mp nodup
    obtain ⟨y, member, -⟩ := present
    have one : clusters.length = 1 := Nat.le_antisymm atMost (List.length_pos_of_mem member)
    rw [one] at copies
    exact copies

/-- So the two maps are linked when they are under every id. -/
theorem linked_iff {s : Registry} (listed : s.Listed) :
    s.Linked ↔ ∀ id, (s.link id).Linked := by
  refine forall_congr' fun id => ?_
  unfold Link.Linked Registry.link
  dsimp only
  cases found : storedSnapshot s.virtualConfigs id with
  | none =>
      cases (s.conns.lookup id).filter fun c => c.Virtual with
      | none => exact iff_of_true rfl rfl
      | some c => exact iff_of_false nofun nofun
  | some snap =>
      cases (s.conns.lookup id).filter fun c => c.Virtual with
      | none => exact iff_of_false nofun nofun
      | some c =>
          rw [Option.map_some, Option.map_some, Option.map_some, Option.map_some,
            Option.some.injEq, Option.some.injEq]
          exact clusters_eq_singleton_iff (listed id snap found)

/-! ### Rows of writes -/

/-- What a row of writes leaves under an id that had nothing: the last connection, and the
clusters of the virtual ones. -/
theorem foldl_write (own : List Connection) :
    own.foldl Link.write (none, none) =
      (own.getLast?,
        if own.any (fun c => c.Virtual) then
          some (GoMap.ofValues Cluster.clusterID
            ((own.filter fun c => c.Virtual).map virtualCluster))
        else none) := by
  induction own using List.reverseRecOn with
  | nil => rfl
  | append_singleton own c ih =>
      have before : (own.foldl Link.write (none, none)).2.getD ∅ =
          GoMap.ofValues Cluster.clusterID
            ((own.filter fun c => c.Virtual).map virtualCluster) := by
        rw [ih]
        dsimp only
        split
        · rfl
        · rename_i none
          have backends : own.filter (fun c => c.Virtual) = [] := by
            refine List.filter_eq_nil_iff.mpr fun c member virtual => none ?_
            exact List.any_eq_true.mpr ⟨c, member, virtual⟩
          rw [backends]
          rfl
      rw [List.foldl_append, List.foldl_cons, List.foldl_nil, Link.write, before,
        List.getLast?_append, List.getLast?_singleton, Option.some_or, List.any_append,
        List.filter_append, List.any_cons, List.any_nil, Bool.or_false]
      by_cases virtual : c.Virtual
      · have more : (own.filter (fun c => c.Virtual) ++ [c].filter fun c => c.Virtual).map
            virtualCluster =
          (own.filter fun c => c.Virtual).map virtualCluster ++ [virtualCluster c] := by
          rw [List.filter_singleton, decide_eq_true virtual, List.map_append]
          rfl
        rw [if_pos virtual, decide_eq_true virtual, Bool.or_true, if_pos rfl, more,
          GoMap.ofValues_concat]
        rfl
      · rw [if_neg virtual, decide_eq_false virtual, Bool.or_false, List.filter_singleton,
          decide_eq_false virtual, ih]
        simp

/-- It is linked when every virtual connection among them is followed by one that ends up
virtual and in the same cluster. -/
theorem linked_foldl_write_iff (own : List Connection) :
    (own.foldl Link.write (none, none)).Linked ↔
      ∀ c ∈ own, c.Virtual →
        ∃ last, own.getLast? = some last ∧ last.Virtual ∧ last.cluster = c.cluster := by
  rw [foldl_write]
  unfold Link.Linked
  dsimp only
  constructor
  · intro linked c member virtual
    have some : own.any (fun c => c.Virtual) = true :=
      List.any_eq_true.mpr ⟨c, member, decide_eq_true virtual⟩
    rw [if_pos some] at linked
    obtain ⟨last, kept, single⟩ := Option.map_eq_some_iff.mp linked.symm
    obtain ⟨isLast, lastVirtual⟩ := Option.filter_eq_some_iff.mp kept
    refine ⟨last, isLast, of_decide_eq_true lastVirtual, ?_⟩
    obtain ⟨x, found⟩ := GoMap.exists_lookup_ofValues.mpr
      (⟨virtualCluster c, List.mem_map.mpr ⟨c, List.mem_filter.mpr
        ⟨member, decide_eq_true virtual⟩, rfl⟩, rfl⟩ :
        ∃ x ∈ (own.filter fun c => c.Virtual).map virtualCluster, x.clusterID = c.cluster)
    rw [← single] at found
    exact (Finmap.mem_singleton _ _ _ |>.mp (Finmap.mem_of_lookup_eq_some found)).symm
  · intro each
    rcases List.eq_nil_or_concat own with rfl | ⟨front, last, rfl⟩
    · rfl
    · rw [List.concat_eq_append, List.getLast?_append, List.getLast?_singleton,
        Option.some_or] at *
      by_cases virtual : last.Virtual
      · have some : (front ++ [last]).any (fun c => c.Virtual) = true := by simp [virtual]
        have kept : (front ++ [last]).filter (fun c => c.Virtual) =
            front.filter (fun c => c.Virtual) ++ [last] := by simp [virtual]
        rw [if_pos some, kept, List.map_append, List.map_singleton, GoMap.ofValues_concat,
          Option.filter_some, decide_eq_true virtual, if_pos rfl, Option.map_some]
        refine congrArg _ (Finmap.ext_lookup fun k => ?_)
        rw [GoMap.lookup_insert_eq]
        split
        · rename_i here
          rw [show k = last.cluster from here, Finmap.lookup_singleton_eq]
        · rename_i other
          have alone : k ∉ (Finmap.singleton last.cluster (virtualCluster last) :
              GoMap String Cluster) := fun member => other (Finmap.mem_singleton _ _ _ |>.mp member)
          rw [Finmap.lookup_eq_none.mpr alone]
          by_contra present
          obtain ⟨x, listed, underKey⟩ := GoMap.exists_lookup_ofValues.mp
            (Option.ne_none_iff_exists'.mp present)
          obtain ⟨c, member, rfl⟩ := List.mem_map.mp listed
          obtain ⟨inFront, isVirtual⟩ := List.mem_filter.mp member
          obtain ⟨last', same, -, cluster⟩ := each c (List.mem_append_left _ inFront)
            (of_decide_eq_true isVirtual)
          obtain rfl := Option.some.inj same
          exact other (underKey.symm.trans cluster.symm)
      · have none : (front ++ [last]).any (fun c => c.Virtual) = false := by
          rw [List.any_eq_false]
          intro c member isVirtual
          obtain ⟨last', same, lastVirtual, -⟩ := each c member (of_decide_eq_true isVirtual)
          obtain rfl := Option.some.inj same
          exact virtual lastVirtual
        rw [none, Option.filter_some, decide_eq_false virtual]
        rfl

/-! ### Steps -/

/-- A mutation leaves the configs of other connections alone. -/
theorem storedSnapshot_run_of_ne {m : VirtualMutation} (now : Moment) (db : VirtualConfigs)
    {id : String} (other : id ≠ m.backendID) :
    storedSnapshot ((m.transaction now).run db) id = storedSnapshot db id := by
  have own : ∀ vc, getVirtualConfig db m.backendID = some vc → vc.backendID = m.backendID := by
    intro vc here
    obtain ⟨doc, -, rfl⟩ := Option.map_eq_some_iff.mp here
    rfl
  unfold ReadModifyWrite.Transaction.run VirtualMutation.transaction
  dsimp only
  cases written : m.written now (getVirtualConfig db m.backendID) with
  | none => rfl
  | some vc =>
      have key := m.backendID_written own written
      unfold storedSnapshot putVirtualConfig
      dsimp only
      rw [GoMap.lookup_insert_eq, if_neg fun same => other (same.trans key)]

theorem storedSnapshot_run (m : VirtualMutation) (now : Moment) (db : VirtualConfigs) :
    storedSnapshot ((m.transaction now).run db) m.backendID =
      (m.next now (storedSnapshot db m.backendID)).or (storedSnapshot db m.backendID) :=
  m.storedSnapshot_write now db db

/-- What a mutation writes lists the clusters of the store after its call. -/
theorem clusters_next {m : VirtualMutation} {now : Moment} {stored : Option Snapshot}
    {snap : Snapshot} (written : m.next now stored = some snap) :
    (snap.clusters.map Cluster.clusterID).Nodup ∧
      GoMap.ofValues Cluster.clusterID snap.clusters =
        ((applySnapshot (stored.getD {})).mutate now.bumpedAt m.call).1.clusters := by
  have applies : m.Applies stored := by
    by_contra misses
    rw [VirtualMutation.next_of_not_applies misses] at written
    cases written
  obtain ⟨-, here⟩ := @VirtualMutation.next_of_applies now m stored applies
  obtain rfl := Option.some.inj (here.symm.trans written)
  have keyed := ((consistent_applySnapshot (stored.getD {})).mutate now.bumpedAt
    m.keepsID_call).clusters
  exact ⟨keyed.nodup_keys _, GoMap.ofValues_values keyed _⟩

/-- Only storing a connection writes clusters. -/
theorem clusters_mutate_call (m : ConfigMutation) (now : Int) (st : FullStore) :
    (st.mutate now m.1.call).1.clusters = st.clusters := by
  obtain ⟨m, config⟩ := m
  cases m with
  | ensureVirtualConfig c => exact absurd rfl (config c)
  | upsertVirtualModelProfile _ _ => rfl
  | upsertVirtualPolicy _ _ => rfl
  | removeVirtualModelProfile _ modelID =>
      simp only [VirtualMutation.call, FullStore.mutate, FullStore.removeModelProfile]
  | removeVirtualPolicy _ ruleID =>
      simp only [VirtualMutation.call, FullStore.mutate, FullStore.removePolicy]
      cases st.policies.lookup ruleID with
      | none => rfl
      | some p => rfl
  | patchVirtualPolicy _ ruleID _ =>
      simp only [VirtualMutation.call, FullStore.mutate, FullStore.patchPolicy]
      cases st.policies.lookup ruleID with
      | none => rfl
      | some p => rfl

namespace Registry

variable {s : Registry}

theorem Listed.run (listed : s.Listed) (m : VirtualMutation) (now : Moment)
    (conns : GoMap String Connection) :
    Registry.Listed { conns, virtualConfigs := (m.transaction now).run s.virtualConfigs } := by
  intro id snap found
  by_cases own : id = m.backendID
  · subst own
    dsimp only at found
    rw [storedSnapshot_run] at found
    rcases Option.or_eq_some_iff.mp found with written | ⟨-, kept⟩
    · exact (clusters_next written).1
    · exact listed _ snap kept
  · dsimp only at found
    rw [storedSnapshot_run_of_ne now _ own] at found
    exact listed id snap found

theorem Listed.put (listed : s.Listed) (now : Moment) (c : Connection) : (s.put now c).Listed := by
  unfold Registry.put
  split
  · exact listed.run _ now _
  · exact listed

/-- Storing a connection writes what stands under its id. -/
theorem link_put (now : Moment) (c : Connection) (id : String) :
    (s.put now c).link id = if id = c.id then (s.link id).write c else s.link id := by
  unfold link Link.write Registry.put
  dsimp only
  by_cases own : id = c.id
  · subst own
    rw [if_pos rfl, Finmap.lookup_insert]
    refine congrArg _ ?_
    by_cases virtual : c.Virtual
    · rw [if_pos virtual, if_pos virtual]
      have applies : (VirtualMutation.ensureVirtualConfig c).Applies
          (storedSnapshot s.virtualConfigs c.id) := Or.inl ⟨c, rfl⟩
      obtain ⟨-, written⟩ := @VirtualMutation.next_of_applies now _ _ applies
      have run := storedSnapshot_run (.ensureVirtualConfig c) now s.virtualConfigs
      rw [show (VirtualMutation.ensureVirtualConfig c).backendID = c.id from rfl, written,
        Option.some_or] at run
      rw [run, Option.map_some, (clusters_next written).2]
      cases storedSnapshot s.virtualConfigs c.id with
      | none => rfl
      | some snap => rfl
    · rw [if_neg virtual, if_neg virtual]
  · rw [if_neg own, GoMap.lookup_insert_eq, if_neg own]
    refine congrArg _ ?_
    by_cases virtual : c.Virtual
    · rw [if_pos virtual, storedSnapshot_run_of_ne now _ (m := .ensureVirtualConfig c) own]
    · rw [if_neg virtual]

/-- A mutation of a config leaves its clusters. -/
theorem link_mutateVirtual (now : Moment) (m : ConfigMutation) (id : String) :
    (s.mutateVirtual now m.1).link id = s.link id := by
  unfold link mutateVirtual
  refine congrArg (Prod.mk _) ?_
  dsimp only
  by_cases own : id = m.1.backendID
  · rw [own, storedSnapshot_run]
    cases stored : storedSnapshot s.virtualConfigs m.1.backendID with
    | none =>
        have misses : ¬ m.1.Applies none := by
          rintro (⟨c, ensures⟩ | ⟨snap, found, -⟩)
          · exact m.2 c ensures
          · cases found
        rw [VirtualMutation.next_of_not_applies misses]
        rfl
    | some snap =>
        cases written : m.1.next now (some snap) with
        | none => rfl
        | some snap' =>
            have same := (clusters_next written).2
            rw [clusters_mutate_call] at same
            exact congrArg some same
  · rw [storedSnapshot_run_of_ne now _ own]

theorem link_delete (id id' : String) :
    (s.delete id).link id' = if id' = id then (none, none) else s.link id' := by
  unfold link Registry.delete storedSnapshot
  dsimp only
  rw [GoMap.lookup_erase_eq, GoMap.lookup_erase_eq]
  split
  · rfl
  · rfl

theorem Listed.delete (listed : s.Listed) (id : String) : (s.delete id).Listed := by
  intro id' snap found
  unfold Registry.delete storedSnapshot at found
  dsimp only at found
  rw [GoMap.lookup_erase_eq] at found
  split at found
  · cases found
  · exact listed id' snap found

/-- The connections that a row of upserts stores: those before the first that is refused. -/
def storedPrefix (env : RegistryEnv) (conns : List Connection) : List Connection :=
  (conns.takeWhile fun c => Accepted env c).map normalizeConnection

variable (env : RegistryEnv)

theorem link_upsertEach (now : Nat → Moment) (conns : List Connection) (s : Registry)
    (id : String) :
    (upsertEach (fun i => Registry.upsert env (now i)) conns s).1.link id =
      ((storedPrefix env conns).filter fun c => c.id = id).foldl Link.write (s.link id) := by
  induction conns generalizing s now with
  | nil => rfl
  | cons c conns ih =>
      unfold upsertEach storedPrefix
      by_cases accepted : Accepted env c
      · rw [upsert_of_accepted accepted, List.takeWhile_cons_of_pos (by simpa using accepted),
          List.map_cons]
        refine (ih (fun i => now (i + 1)) _).trans ?_
        rw [link_put, id_normalizeConnection]
        by_cases own : c.id = id
        · rw [if_pos own.symm, List.filter_cons_of_pos (by simpa using own), List.foldl_cons]
          rfl
        · rw [if_neg (Ne.symm own), List.filter_cons_of_neg (by simpa using own)]
          rfl
      · obtain ⟨err, refused⟩ := upsert_of_refused accepted s (now 0)
        rw [refused, List.takeWhile_cons_of_neg (by simpa using accepted)]
        rfl

theorem Listed.upsert (listed : s.Listed) (now : Moment) (c : Connection) :
    (s.upsert env now c).1.Listed :=
  upsert_keeps (fun _ => listed.put now _) listed

/-- Seeding is its row of upserts, if there are no connections. -/
theorem seedIfEmpty_fst (now : Nat → Moment) (conns : List Connection) :
    (s.seedIfEmpty env now conns).1 =
      if s.conns = ∅ then (Gateway.upsertEach (fun i => Registry.upsert env (now i)) conns s).1
      else s := by
  have none : s.conns.len = 0 ↔ s.conns = ∅ := by
    rw [GoMap.len_eq_zero_iff]
    constructor
    · intro each
      exact Finmap.ext_lookup fun k => by rw [each k, Finmap.lookup_empty]
    · intro empty k
      rw [empty, Finmap.lookup_empty]
  unfold seedIfEmpty
  by_cases empty : s.conns = ∅
  · rw [if_pos empty]
    by_cases unlisted : conns = []
    · rw [if_pos (Or.inr unlisted), unlisted]
      rfl
    · have here := none.mpr empty
      rw [if_neg (not_or.mpr ⟨by rw [here]; exact Nat.lt_irrefl 0, unlisted⟩)]
      rcases Gateway.upsertEach _ conns s with ⟨s', _ | err⟩
      · rfl
      · rfl
  · rw [if_neg empty, if_pos (Or.inl (Nat.pos_of_ne_zero fun here => empty (none.mp here)))]

theorem Listed.step (listed : s.Listed) (op : TimedEdit) : (s.step env op).Listed := by
  unfold Registry.step
  cases op.call with
  | seedIfEmpty conns => exact seedIfEmpty_keeps (fun i _ _ _ listed => listed.put _ _) conns listed
  | upsert c => exact listed.upsert env _ c
  | delete id => exact listed.delete id
  | mutate m => exact listed.run m.1 _ s.conns

end Registry

/-! ### Runs -/

variable (env : RegistryEnv)

/-- An accepted connection that takes the place of a virtual one is virtual and in the same
cluster. In a seed list the last entry with an id is that for every virtual one stored
before it. -/
def KeepsLink (s : Registry) (op : TimedEdit) : Prop :=
  match op.call with
  | .seedIfEmpty conns =>
      s.conns = ∅ → ∀ c ∈ Registry.storedPrefix env conns, c.Virtual →
        ∃ last,
          (Registry.storedPrefix env conns).reverse.find? (fun c' => c'.id = c.id) = some last ∧
          last.Virtual ∧ last.cluster = c.cluster
  | .upsert c =>
      Accepted env c → ∀ old, s.conns.lookup c.id = some old → old.Virtual →
        c.Virtual ∧ c.cluster = old.cluster
  | .delete _ => True
  | .mutate _ => True

/-- What stands linked under an id could have been written by storing its connection. -/
theorem Link.Linked.eq_foldl {link : Link} (linked : link.Linked) :
    link = link.1.toList.foldl Link.write (none, none) := by
  obtain ⟨conn, clusters⟩ := link
  unfold Link.Linked at linked
  dsimp only at linked
  subst linked
  cases conn with
  | none => rfl
  | some c =>
      rw [Option.toList_some, List.foldl_cons, List.foldl_nil, Link.write, Option.filter_some]
      by_cases virtual : c.Virtual
      · rw [if_pos virtual, decide_eq_true virtual]
        rfl
      · rw [if_neg virtual, decide_eq_false virtual]
        rfl

/-- Storing a connection over a linked one. -/
theorem linked_write_iff {link : Link} (linked : link.Linked) {c : Connection} :
    (link.write (normalizeConnection c)).Linked ↔
      ∀ old, link.1 = some old → old.Virtual → c.Virtual ∧ c.cluster = old.cluster := by
  have row : link.write (normalizeConnection c) =
      (link.1.toList ++ [normalizeConnection c]).foldl Link.write (none, none) := by
    rw [List.foldl_append, ← linked.eq_foldl]
    rfl
  rw [row, linked_foldl_write_iff]
  simp only [List.getLast?_append, List.getLast?_singleton, Option.some_or, Option.some.injEq,
    exists_eq_left', virtual_normalizeConnection, cluster_normalizeConnection, List.mem_append,
    List.mem_singleton, Option.mem_toList]
  constructor
  · intro each old found virtual
    exact each old (Or.inl found) virtual
  · rintro each c' (found | rfl) virtual
    · exact each c' found virtual
    · exact ⟨(virtual_normalizeConnection c).mp virtual, (cluster_normalizeConnection c).symm⟩

/-- A step keeps the two maps linked exactly when it does not move a virtual connection to
another kind or cluster. -/
theorem linked_step_iff {s : Registry} {op : TimedEdit} (listed : s.Listed) (linked : s.Linked) :
    (s.step env op).Linked ↔ KeepsLink env s op := by
  have links := (linked_iff listed).mp linked
  rw [linked_iff (listed.step env op)]
  unfold Registry.step KeepsLink
  cases op.call with
  | delete id =>
      refine iff_of_true (fun id' => ?_) trivial
      rw [Registry.link_delete]
      split
      · rfl
      · exact links id'
  | mutate m =>
      refine iff_of_true (fun id => ?_) trivial
      rw [Registry.link_mutateVirtual]
      exact links id
  | upsert c =>
      dsimp only
      by_cases accepted : Accepted env c
      · rw [Registry.upsert_of_accepted accepted, forall_prop_of_true accepted]
        refine Iff.trans ?_ (linked_write_iff (links c.id))
        constructor
        · intro always
          have here := always c.id
          rw [Registry.link_put, id_normalizeConnection, if_pos rfl] at here
          exact here
        · intro own id
          rw [Registry.link_put, id_normalizeConnection]
          split
          · rename_i same
            rw [same]
            exact own
          · exact links id
      · obtain ⟨err, refused⟩ := Registry.upsert_of_refused accepted s (op.now 0)
        rw [refused]
        exact iff_of_true links fun here => absurd here accepted
  | seedIfEmpty conns =>
      dsimp only
      rw [Registry.seedIfEmpty_fst]
      by_cases empty : s.conns = ∅
      · rw [if_pos empty, forall_prop_of_true empty]
        have nothing : ∀ id, s.link id = (none, none) := by
          intro id
          have unlinked : (s.link id).1 = none := by
            show s.conns.lookup id = none
            rw [empty, Finmap.lookup_empty]
          rw [(links id).eq_foldl, unlinked]
          rfl
        have lastOf : ∀ id, ((Registry.storedPrefix env conns).filter fun c => c.id = id).getLast? =
            (Registry.storedPrefix env conns).reverse.find? fun c => c.id = id := by
          intro id
          rw [List.getLast?_eq_head?_reverse, ← List.filter_reverse, List.head?_filter]
        simp only [Registry.link_upsertEach, nothing, linked_foldl_write_iff, lastOf,
          List.mem_filter, decide_eq_true_eq]
        constructor
        · intro always c member virtual
          exact always c.id c ⟨member, rfl⟩ virtual
        · rintro each id c ⟨member, rfl⟩ virtual
          exact each c member virtual
      · rw [if_neg empty]
        exact iff_of_true links fun here => absurd here empty

/-- In every state of a run from an empty registry the two maps are linked exactly when no step
moves a virtual connection to another kind or cluster. -/
theorem always_linked_iff (ops : List TimedEdit) :
    (∀ pre post, ops = pre ++ post → (Run.run (Registry.step env) {} pre).Linked) ↔
      Run.EachStep (Registry.step env) (KeepsLink env) {} ops := by
  have nothing : ∀ id, storedSnapshot (∅ : VirtualConfigs) id = none := fun id => by
    rw [storedSnapshot, Finmap.lookup_empty]
    rfl
  refine @Run.always_iff_eachStep _ _ _ _ Registry.Listed _ (fun s op listed => listed.step env op)
    (fun s op listed linked => linked_step_iff env listed linked) _ ?_ ?_ ops
  · intro id snap found
    rw [nothing] at found
    cases found
  · intro id
    rw [nothing]
    rfl

/-! A virtual connection becomes a kvindexer. -/

noncomputable def becomesBackend : List TimedEdit :=
  [⟨fun _ => ⟨0, 0, default⟩, .upsert { id := "v", kind := "virtual", cluster := "c" }⟩,
    ⟨fun _ => ⟨1, 1, default⟩, .upsert { id := "v", cluster := "c", url := "http://v:8080" }⟩]

/-- Its config stays. -/
theorem not_always_linked :
    ¬ ∀ env ops pre post, ops = pre ++ post →
      (Run.run (Registry.step env) {} pre).Linked := by
  intro always
  have linked := always anyURL becomesBackend becomesBackend [] rfl "v"
  have none := congrArg Option.isSome linked
  revert none
  decide +kernel

end KvIndexer.Gateway
