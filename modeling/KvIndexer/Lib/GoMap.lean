import Mathlib.Data.Finmap
import Mathlib.Data.Finset.Card

/-!
Built-in maps of the source language, over Mathlib's `Finmap`.

`Finmap` supplies the extensional map with `lookup`, `insert` and `erase`. This
module adds what a `range` loop over a map needs: reading and rewriting one key
(`alter`), rewriting every key of a set (`updateEach`), deleting keys by a test
(`filterKeys`), and folding the entries into groups (`groupFold`). The iteration
order of a map is unspecified, so each loop is a fold over an unordered
collection: the commutation proof it carries is the proof that the order does not
matter. A loop that stops early does depend on the order; it takes an `Order`.
-/

namespace KvIndexer

/-- A map value: finitely many keys, each with one value, no order. -/
abbrev GoMap (κ ν : Type) := Finmap fun _ : κ => ν

namespace GoMap

variable {κ ν : Type} [DecidableEq κ]

/-- The number of keys. -/
def len (m : GoMap κ ν) : Nat := m.keys.card

theorem len_eq_zero_iff {m : GoMap κ ν} : len m = 0 ↔ ∀ k, m.lookup k = none := by
  simp only [len, Finset.card_eq_zero, Finset.eq_empty_iff_forall_notMem, Finmap.mem_keys,
    Finmap.lookup_eq_none]

theorem len_ne_zero_iff {m : GoMap κ ν} : len m ≠ 0 ↔ ∃ k, k ∈ m := by
  rw [Ne, len_eq_zero_iff]
  simp only [Finmap.lookup_eq_none, not_forall, not_not]

/-- A map is as large as the set of its keys. -/
theorem len_eq_card {m : GoMap κ ν} {keys : Finset κ}
    (same : ∀ k, (m.lookup k).isSome ↔ k ∈ keys) : len m = keys.card := by
  refine congrArg Finset.card (Finset.ext fun k => ?_)
  rw [Finmap.mem_keys, ← Finmap.lookup_isSome, same]

theorem lookup_insert_eq (k k' : κ) (v : ν) (m : GoMap κ ν) :
    (m.insert k v).lookup k' = if k' = k then some v else m.lookup k' := by
  by_cases same : k' = k
  · subst same
    rw [if_pos rfl, Finmap.lookup_insert]
  · rw [if_neg same, Finmap.lookup_insert_of_ne m same]

theorem lookup_erase_eq (k k' : κ) (m : GoMap κ ν) :
    (m.erase k).lookup k' = if k' = k then none else m.lookup k' := by
  by_cases same : k' = k
  · subst same
    rw [if_pos rfl, Finmap.lookup_erase]
  · rw [if_neg same, Finmap.lookup_erase_ne same]

/-- A key that is absent need not be erased. -/
theorem erase_of_notMem {k : κ} {m : GoMap κ ν} (absent : k ∉ m) : m.erase k = m := by
  refine Finmap.ext_lookup fun k' => ?_
  rw [lookup_erase_eq]
  split
  · rename_i same
    rw [same, Finmap.lookup_eq_none.mpr absent]
  · rfl

/-- Nor need an entry be written again. -/
theorem insert_of_lookup {k : κ} {v : ν} {m : GoMap κ ν} (found : m.lookup k = some v) :
    m.insert k v = m := by
  refine Finmap.ext_lookup fun k' => ?_
  rw [lookup_insert_eq]
  split
  · rename_i same
    rw [same, found]
  · rfl

theorem insert_ne_empty (k : κ) (v : ν) (m : GoMap κ ν) : m.insert k v ≠ ∅ := by
  intro empty
  have found : (m.insert k v).lookup k = some v := Finmap.lookup_insert m
  rw [empty, Finmap.lookup_empty] at found
  cases found

/-! ### Rewriting keys -/

/-- Read key `k`, transform the reading, write the result back. An absent key
reads as `none`, and writing `none` deletes. -/
def alter (k : κ) (f : Option ν → Option ν) (m : GoMap κ ν) : GoMap κ ν :=
  match f (m.lookup k) with
  | some v => m.insert k v
  | none => m.erase k

theorem lookup_alter (k k' : κ) (f : Option ν → Option ν) (m : GoMap κ ν) :
    (alter k f m).lookup k' = if k' = k then f (m.lookup k) else m.lookup k' := by
  unfold alter
  cases result : f (m.lookup k) with
  | none => rw [lookup_erase_eq]
  | some v => rw [lookup_insert_eq]

/-- Rewrites of two keys commute; at one key they are the same rewrite. -/
theorem alter_comm (f : κ → Option ν → Option ν) (m : GoMap κ ν) (k₁ k₂ : κ) :
    alter k₂ (f k₂) (alter k₁ (f k₁) m) = alter k₁ (f k₁) (alter k₂ (f k₂) m) := by
  by_cases same : k₁ = k₂
  · rw [same]
  · refine Finmap.ext_lookup fun k => ?_
    simp only [lookup_alter, if_neg same, if_neg (Ne.symm same)]
    by_cases first : k = k₁
    · have second : k ≠ k₂ := first ▸ same
      simp [first, same]
    · simp [first]

/-- A `range` loop over the keys `s` whose body rewrites the current key. -/
def updateEach (s : Finset κ) (f : κ → Option ν → Option ν) (m : GoMap κ ν) : GoMap κ ν :=
  letI : RightCommutative fun (m : GoMap κ ν) k => alter k (f k) m := ⟨alter_comm f⟩
  s.val.foldl (fun m k => alter k (f k) m) m

private theorem lookup_foldl_alter (f : κ → Option ν → Option ν) (k : κ) (ks : List κ)
    (distinct : ks.Nodup) (m : GoMap κ ν) :
    (ks.foldl (fun m k => alter k (f k) m) m).lookup k =
      if k ∈ ks then f k (m.lookup k) else m.lookup k := by
  induction ks generalizing m with
  | nil => simp
  | cons k₀ ks ih =>
      obtain ⟨fresh, rest⟩ := List.nodup_cons.mp distinct
      rw [List.foldl_cons, ih rest, lookup_alter]
      by_cases same : k = k₀
      · subst same
        simp [fresh]
      · simp [same]

/-- Each key of the set is rewritten once, from the map as it was. -/
theorem lookup_updateEach (s : Finset κ) (f : κ → Option ν → Option ν) (m : GoMap κ ν) (k : κ) :
    (updateEach s f m).lookup k = if k ∈ s then f k (m.lookup k) else m.lookup k := by
  obtain ⟨⟨ks⟩, distinct⟩ := s
  exact lookup_foldl_alter f k ks distinct m

/-- A `range` loop that deletes the keys failing `keep`. -/
def filterKeys (keep : κ → Bool) (m : GoMap κ ν) : GoMap κ ν :=
  updateEach m.keys (fun k v => if keep k then v else none) m

theorem lookup_filterKeys (keep : κ → Bool) (m : GoMap κ ν) (k : κ) :
    (filterKeys keep m).lookup k = if keep k then m.lookup k else none := by
  rw [filterKeys, lookup_updateEach]
  by_cases present : k ∈ m.keys
  · rw [if_pos present]
  · have absent : m.lookup k = none := Finmap.lookup_eq_none.mpr (mt Finmap.mem_keys.mpr present)
    simp [present, absent]

/-- A `range` loop that rewrites every value. -/
def mapValues (f : ν → ν) (m : GoMap κ ν) : GoMap κ ν :=
  updateEach m.keys (fun _ v => v.map f) m

theorem lookup_mapValues (f : ν → ν) (m : GoMap κ ν) (k : κ) :
    (mapValues f m).lookup k = (m.lookup k).map f := by
  rw [mapValues, lookup_updateEach]
  by_cases present : k ∈ m.keys
  · rw [if_pos present]
  · have absent : m.lookup k = none := Finmap.lookup_eq_none.mpr (mt Finmap.mem_keys.mpr present)
    rw [if_neg present, absent, Option.map_none]

/-! ### Folding the entries into groups -/

section Groups

variable {γ δ : Type} [DecidableEq γ] (group : κ → γ) (step : Option δ → κ → ν → δ)
  (comm : ∀ d k₁ v₁ k₂ v₂,
    step (some (step d k₁ v₁)) k₂ v₂ = step (some (step d k₂ v₂)) k₁ v₁)

/-- Add one entry to the accumulator of its group. -/
def groupStep (acc : GoMap γ δ) (k : κ) (v : ν) : GoMap γ δ :=
  acc.insert (group k) (step (acc.lookup (group k)) k v)

omit [DecidableEq κ] in
include comm in
theorem groupStep_comm (acc : GoMap γ δ) (k₁ : κ) (v₁ : ν) (k₂ : κ) (v₂ : ν) :
    groupStep group step (groupStep group step acc k₁ v₁) k₂ v₂ =
      groupStep group step (groupStep group step acc k₂ v₂) k₁ v₁ := by
  refine Finmap.ext_lookup fun g => ?_
  simp only [groupStep, lookup_insert_eq]
  by_cases same : group k₁ = group k₂
  · rw [same, if_pos rfl, if_pos rfl, comm]
    by_cases here : g = group k₂
    · rw [if_pos here, if_pos here]
    · simp only [if_neg here]
  · have same' : group k₂ ≠ group k₁ := Ne.symm same
    by_cases first : g = group k₁
    · simp [first, same]
    · simp [first, same']

/-- A `range` loop that accumulates every entry into the group of its key: the
group's accumulator starts absent and is rewritten by `step`. -/
def groupFold (m : GoMap κ ν) : GoMap γ δ :=
  m.foldl (groupStep group step) (groupStep_comm group step comm) ∅

omit [DecidableEq κ] in
private theorem lookup_foldl_groupStep (g : γ) (entries : List (Sigma fun _ : κ => ν))
    (acc : GoMap γ δ) :
    (entries.foldl (fun acc s => groupStep group step acc s.1 s.2) acc).lookup g =
      (entries.filter fun s => group s.1 = g).foldl (fun d s => some (step d s.1 s.2))
        (acc.lookup g) := by
  induction entries generalizing acc with
  | nil => rfl
  | cons s entries ih =>
      rw [List.foldl_cons, ih]
      by_cases member : group s.1 = g
      · subst member
        simp [groupStep]
      · have other : g ≠ group s.1 := Ne.symm member
        simp [groupStep, member, Finmap.lookup_insert_of_ne _ other]

/-- The entries of the map that fall into group `g`. -/
def groupEntries (m : GoMap κ ν) (g : γ) : Multiset (Sigma fun _ : κ => ν) :=
  m.entries.filter fun s => group s.1 = g

theorem mem_groupEntries {m : GoMap κ ν} {g : γ} {s : Sigma fun _ : κ => ν} :
    s ∈ groupEntries group m g ↔ m.lookup s.1 = some s.2 ∧ group s.1 = g := by
  rw [groupEntries, Multiset.mem_filter, ← Finmap.mem_lookup_iff]
  rfl

/-- Two maps that read alike on the keys of a group have the same group. -/
theorem groupEntries_congr {m m' : GoMap κ ν} {g : γ}
    (same : ∀ k, group k = g → m.lookup k = m'.lookup k) :
    groupEntries group m g = groupEntries group m' g := by
  have distinct : ∀ m : GoMap κ ν, (groupEntries group m g).Nodup := fun m =>
    m.nodupKeys.nodup.filter _
  refine (Multiset.Nodup.ext (distinct m) (distinct m')).mpr fun s => ?_
  rw [mem_groupEntries, mem_groupEntries]
  constructor
  · rintro ⟨found, member⟩
    exact ⟨same s.1 member ▸ found, member⟩
  · rintro ⟨found, member⟩
    exact ⟨(same s.1 member).symm ▸ found, member⟩

omit [DecidableEq κ] in
/-- Induction over the group: the accumulator of `g` is built from its entries. -/
theorem groupFold_induction {motive : Multiset (Sigma fun _ : κ => ν) → Option δ → Prop}
    (m : GoMap κ ν) (g : γ) (empty : motive 0 none)
    (entry : ∀ s d (k : κ) (v : ν), motive s d → motive (⟨k, v⟩ ::ₘ s) (some (step d k v))) :
    motive (groupEntries group m g) ((groupFold group step comm m).lookup g) := by
  obtain ⟨⟨l⟩, distinct⟩ := m
  have reading : (groupFold group step comm ⟨⟦l⟧, distinct⟩).lookup g =
      (l.filter fun s => group s.1 = g).foldl (fun d s => some (step d s.1 s.2)) none :=
    lookup_foldl_groupStep group step g l ∅
  have build : ∀ (l done : List (Sigma fun _ : κ => ν)) (d : Option δ),
      motive (done : Multiset _) d →
      motive ((done ++ l : List _) : Multiset _)
        (l.foldl (fun d s => some (step d s.1 s.2)) d) := by
    intro l
    induction l with
    | nil => exact fun done d holds => by simpa using holds
    | cons s l ih =>
        intro done d holds
        have next := ih (done ++ [s]) _ (by
          have := entry _ d s.1 s.2 holds
          rwa [show ((done ++ [s] : List _) : Multiset _) = s ::ₘ (done : Multiset _) from
            Quotient.sound (List.perm_append_singleton s done)])
        simpa using next
  have whole := build (l.filter fun s => group s.1 = g) [] none empty
  rw [List.nil_append, ← reading] at whole
  exact whole

/-- The accumulator of a group depends only on the entries of that group. -/
theorem lookup_groupFold_congr {m m' : GoMap κ ν} {g : γ}
    (same : ∀ k, group k = g → m.lookup k = m'.lookup k) :
    (groupFold group step comm m).lookup g = (groupFold group step comm m').lookup g := by
  let : RightCommutative fun (d : Option δ) (s : Sigma fun _ : κ => ν) =>
    some (step d s.1 s.2) := ⟨fun d s s' => congrArg some (comm d s.1 s.2 s'.1 s'.2)⟩
  have reading : ∀ m : GoMap κ ν, (groupFold group step comm m).lookup g =
      (groupEntries group m g).foldl (fun d s => some (step d s.1 s.2)) none := by
    rintro ⟨⟨l⟩, distinct⟩
    exact lookup_foldl_groupStep group step g l ∅
  rw [reading, reading, groupEntries_congr group same]

/-- The keys that fall into group `g`. -/
def groupKeys (m : GoMap κ ν) (g : γ) : Multiset κ := (groupEntries group m g).map Sigma.fst

theorem mem_groupKeys {m : GoMap κ ν} {g : γ} {k : κ} :
    k ∈ groupKeys group m g ↔ (m.lookup k).isSome ∧ group k = g := by
  rw [groupKeys, Multiset.mem_map, Option.isSome_iff_exists]
  constructor
  · rintro ⟨⟨k, v⟩, member, rfl⟩
    obtain ⟨found, here⟩ := (mem_groupEntries group).mp member
    exact ⟨⟨v, found⟩, here⟩
  · rintro ⟨⟨v, found⟩, here⟩
    exact ⟨⟨k, v⟩, (mem_groupEntries group).mpr ⟨found, here⟩, rfl⟩

theorem nodup_groupKeys (m : GoMap κ ν) (g : γ) : (groupKeys group m g).Nodup := by
  refine (m.nodupKeys.nodup.filter _).map_on ?_
  rintro ⟨k, v⟩ left ⟨k', v'⟩ right same
  obtain rfl : k = k' := same
  have found := ((mem_groupEntries group).mp left).1
  have found' := ((mem_groupEntries group).mp right).1
  dsimp only at found found'
  rw [found] at found'
  rw [Option.some.inj found']

/-- If the step does not read the values, only the keys that fall into the group matter. -/
theorem lookup_groupFold_congr_keys (blind : ∀ d k v v', step d k v = step d k v')
    {m m' : GoMap κ ν} {g : γ}
    (same : ∀ k, group k = g → ((m.lookup k).isSome ↔ (m'.lookup k).isSome)) :
    (groupFold group step comm m).lookup g = (groupFold group step comm m').lookup g := by
  have keys : groupKeys group m g = groupKeys group m' g := by
    refine (Multiset.Nodup.ext (nodup_groupKeys group m g) (nodup_groupKeys group m' g)).mpr
      fun k => ?_
    rw [mem_groupKeys, mem_groupKeys]
    exact and_congr_left (same k)
  -- any value will do for the step
  let keyStep (any : Nonempty ν) (d : Option δ) (k : κ) : Option δ := some (step d k any.some)
  have commutes : ∀ any, RightCommutative (keyStep any) :=
    fun any => ⟨fun d k k' => congrArg some (comm d k any.some k' any.some)⟩
  have asKeys : ∀ (any : Nonempty ν) (l : List (Sigma fun _ : κ => ν)),
      l.foldl (fun d s => some (step d s.1 s.2)) none =
        (l.map Sigma.fst).foldl (keyStep any) none := by
    intro any l
    rw [List.foldl_map]
    refine List.foldl_ext _ _ _ fun d s _ => ?_
    exact congrArg some (blind d s.1 s.2 any.some)
  have listed : ∀ (m : GoMap κ ν), ∃ l : List (Sigma fun _ : κ => ν),
      ((l.map Sigma.fst : List κ) : Multiset κ) = groupKeys group m g ∧
        (groupFold group step comm m).lookup g =
          l.foldl (fun d s => some (step d s.1 s.2)) none := by
    rintro ⟨⟨l⟩, distinct⟩
    exact ⟨l.filter fun s => group s.1 = g, rfl, lookup_foldl_groupStep group step g l ∅⟩
  obtain ⟨l, ofL, reads⟩ := listed m
  obtain ⟨l', ofL', reads'⟩ := listed m'
  have rearranged : (l.map Sigma.fst).Perm (l'.map Sigma.fst) :=
    Multiset.coe_eq_coe.mp (ofL.trans (keys.trans ofL'.symm))
  rw [reads, reads']
  by_cases any : Nonempty ν
  · have := commutes any
    rw [asKeys any, asKeys any, rearranged.foldl_eq]
  · have none : ∀ l : List (Sigma fun _ : κ => ν), l = [] := fun l =>
      List.eq_nil_iff_forall_not_mem.mpr fun s _ => any ⟨s.2⟩
    rw [none l, none l']

/-- A group has an accumulator exactly when some key falls into it. -/
theorem lookup_groupFold_isSome {m : GoMap κ ν} {g : γ} :
    ((groupFold group step comm m).lookup g).isSome ↔ ∃ k ∈ m, group k = g := by
  have members := groupFold_induction group step comm
    (motive := fun s d => (d.isSome ↔ ∃ x, x ∈ s)) m g (by simp) (by simp)
  rw [members]
  constructor
  · rintro ⟨s, member⟩
    obtain ⟨found, here⟩ := (mem_groupEntries group).mp member
    exact ⟨s.1, Finmap.mem_of_lookup_eq_some found, here⟩
  · rintro ⟨k, present, here⟩
    obtain ⟨v, found⟩ := Finmap.mem_iff.mp present
    exact ⟨⟨k, v⟩, (mem_groupEntries group).mpr ⟨found, here⟩⟩

end Groups

/-! ### Orders -/

/-- An order in which a `range` loop can visit the entries. -/
structure Order (m : GoMap κ ν) where
  entries : List (Sigma fun _ : κ => ν)
  all : (entries : Multiset (Sigma fun _ : κ => ν)) = m.entries

theorem Order.mem_entries {m : GoMap κ ν} (order : Order m) {k : κ} {v : ν} :
    ⟨k, v⟩ ∈ order.entries ↔ m.lookup k = some v := by
  rw [Finmap.lookup_eq_some_iff, ← order.all, Multiset.mem_coe]

omit [DecidableEq κ] in
theorem entries_empty (order : Order (∅ : GoMap κ ν)) : order.entries = [] :=
  Multiset.coe_eq_zero _ |>.mp order.all

omit [DecidableEq κ] in
/-- A map of one entry has one order. -/
theorem entries_singleton {k : κ} {v : ν} (order : Order (Finmap.singleton k v : GoMap κ ν)) :
    order.entries = [⟨k, v⟩] :=
  Multiset.coe_eq_singleton.mp order.all

/-- Every entry comes first in some order. -/
theorem exists_order_head {m : GoMap κ ν} {k : κ} {v : ν} (found : m.lookup k = some v) :
    ∃ (order : Order m) (rest : List (Sigma fun _ : κ => ν)), order.entries = ⟨k, v⟩ :: rest := by
  obtain ⟨rest, split⟩ := Multiset.exists_cons_of_mem (Finmap.lookup_eq_some_iff.mp found)
  obtain ⟨list, rfl⟩ := Quot.exists_rep rest
  exact ⟨⟨⟨k, v⟩ :: list, split.symm⟩, list, rfl⟩

noncomputable instance (m : GoMap κ ν) : Inhabited (Order m) :=
  ⟨⟨m.entries.toList, Multiset.coe_toList _⟩⟩

/-- One order for each map. -/
abbrev Orders (κ ν : Type) := ∀ m : GoMap κ ν, m.Order

/-- Every order of one map is that of some choice of orders. -/
theorem exists_orders {m : GoMap κ ν} (order : Order m) :
    ∃ orders : Orders κ ν, orders m = order := by
  classical
  exact ⟨Function.update default m order, Function.update_self m order default⟩

end GoMap

end KvIndexer
