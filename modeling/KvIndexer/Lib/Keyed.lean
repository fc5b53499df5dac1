import KvIndexer.Lib.GoMap
import KvIndexer.Lib.SortSlice

/-!
Tables: maps whose keys are read off their values.

A table can be written out as the list of its values, in any order, and read back
(`ofValues_values`). Listing its values sorted by their keys does not depend on the order
of the range (`sort_values_eq`).
-/

namespace KvIndexer.GoMap

variable {κ ν : Type} [DecidableEq κ]

/-- Every value stands under its own key. -/
def Keyed (key : ν → κ) (m : GoMap κ ν) : Prop := ∀ k v, m.lookup k = some v → key v = k

/-- The values, in the order of a range. -/
def Order.values {m : GoMap κ ν} (order : m.Order) : List ν := order.entries.map Sigma.snd

omit [DecidableEq κ] in
theorem values_empty (order : Order (∅ : GoMap κ ν)) : order.values = [] := by
  unfold Order.values
  rw [entries_empty]
  rfl

omit [DecidableEq κ] in
theorem values_singleton {k : κ} {v : ν} (order : Order (Finmap.singleton k v : GoMap κ ν)) :
    order.values = [v] := by
  unfold Order.values
  rw [entries_singleton]
  rfl

/-- Put every value under its own key; a later value replaces an earlier one. -/
def ofValues (key : ν → κ) (values : List ν) : GoMap κ ν :=
  values.foldl (fun m v => m.insert (key v) v) ∅

theorem Order.mem_values {m : GoMap κ ν} (order : m.Order) {v : ν} :
    v ∈ order.values ↔ ∃ k, m.lookup k = some v := by
  constructor
  · intro member
    obtain ⟨⟨k, v⟩, inEntries, rfl⟩ := List.mem_map.mp member
    exact ⟨k, order.mem_entries.mp inEntries⟩
  · rintro ⟨k, found⟩
    exact List.mem_map.mpr ⟨⟨k, v⟩, order.mem_entries.mpr found, rfl⟩

/-! ### Keyed maps -/

section Keyed

variable {key : ν → κ} {m : GoMap κ ν}

theorem Keyed.empty : Keyed key (∅ : GoMap κ ν) := by
  intro k v found
  rw [Finmap.lookup_empty] at found
  cases found

theorem Keyed.insert (keyed : Keyed key m) {k : κ} {v : ν} (same : key v = k) :
    Keyed key (m.insert k v) := by
  intro k' v' found
  rw [lookup_insert_eq] at found
  split at found
  · rename_i here
    obtain rfl := Option.some.inj found
    rw [here, same]
  · exact keyed k' v' found

theorem Keyed.erase (keyed : Keyed key m) (k : κ) : Keyed key (m.erase k) := by
  intro k' v' found
  rw [lookup_erase_eq] at found
  split at found
  · cases found
  · exact keyed k' v' found

theorem ofValues_concat (key : ν → κ) (values : List ν) (v : ν) :
    ofValues key (values ++ [v]) = (ofValues key values).insert (key v) v := by
  rw [ofValues, List.foldl_append]
  rfl

/-- Reading back a table: the last value with the key. -/
theorem lookup_ofValues (key : ν → κ) (values : List ν) (k : κ) :
    (ofValues key values).lookup k = values.reverse.find? fun v => key v = k := by
  induction values using List.reverseRecOn with
  | nil => rfl
  | append_singleton values v ih =>
      rw [ofValues_concat, lookup_insert_eq, ih, List.reverse_concat, List.find?_cons]
      by_cases here : key v = k
      · rw [if_pos here.symm, decide_eq_true here]
      · rw [if_neg (Ne.symm here), decide_eq_false here]

theorem mem_of_lookup_ofValues {values : List ν} {k : κ} {v : ν}
    (found : (ofValues key values).lookup k = some v) : v ∈ values := by
  rw [lookup_ofValues] at found
  exact List.mem_reverse.mp (List.mem_of_find?_eq_some found)

/-- The keys of a table read back are those of the values. -/
theorem exists_lookup_ofValues {values : List ν} {k : κ} :
    (∃ v, (ofValues key values).lookup k = some v) ↔ ∃ v ∈ values, key v = k := by
  rw [← Option.isSome_iff_exists, lookup_ofValues, List.find?_isSome]
  simp only [List.mem_reverse, decide_eq_true_eq]

theorem ofValues_keyed (values : List ν) : Keyed key (ofValues key values) := by
  intro k v found
  rw [lookup_ofValues] at found
  simpa using List.find?_some found

/-- Values with different keys are all found. -/
theorem lookup_ofValues_key {values : List ν} (once : (values.map key).Nodup) {v : ν} :
    (ofValues key values).lookup (key v) = some v ↔ v ∈ values := by
  refine ⟨mem_of_lookup_ofValues, fun member => ?_⟩
  have present : ∃ v', (ofValues key values).lookup (key v) = some v' :=
    exists_lookup_ofValues.mpr ⟨v, member, rfl⟩
  obtain ⟨v', found⟩ := present
  have same : key v' = key v := ofValues_keyed values _ _ found
  rw [found, List.inj_on_of_nodup_map once (mem_of_lookup_ofValues found) member same]

/-- A table that has exactly the listed values, each under its key, is the one read back. -/
theorem ofValues_eq {values : List ν}
    (reads : ∀ k v, m.lookup k = some v ↔ v ∈ values ∧ key v = k) : ofValues key values = m := by
  refine Finmap.ext_lookup fun k => ?_
  rw [lookup_ofValues]
  cases found : m.lookup k with
  | none =>
      refine List.find?_eq_none.mpr fun v member here => ?_
      have present := (reads k v).mpr ⟨List.mem_reverse.mp member, of_decide_eq_true here⟩
      rw [found] at present
      cases present
  | some v =>
      obtain ⟨member, underKey⟩ := (reads k v).mp found
      have listed : (values.reverse.find? fun v => decide (key v = k)).isSome :=
        List.find?_isSome.mpr ⟨v, List.mem_reverse.mpr member, decide_eq_true underKey⟩
      obtain ⟨v', here⟩ := Option.isSome_iff_exists.mp listed
      have underKey' : key v' = k := by simpa using List.find?_some here
      have found' := (reads k v').mpr
        ⟨List.mem_reverse.mp (List.mem_of_find?_eq_some here), underKey'⟩
      rw [here, ← found', found]

/-- A table written out in any order reads back as it was. -/
theorem ofValues_values (keyed : Keyed key m) (order : m.Order) :
    ofValues key order.values = m := by
  refine ofValues_eq fun k v => ?_
  rw [order.mem_values]
  constructor
  · intro found
    exact ⟨⟨k, found⟩, keyed k v found⟩
  · rintro ⟨⟨k', found⟩, rfl⟩
    rwa [keyed k' v found]

/-- Without the values whose key fails the test, it reads back without these keys. -/
theorem ofValues_filter_values (keyed : Keyed key m) (order : m.Order) (keep : κ → Bool) :
    ofValues key (order.values.filter fun v => keep (key v)) = filterKeys keep m := by
  refine ofValues_eq fun k v => ?_
  rw [List.mem_filter, order.mem_values, lookup_filterKeys]
  constructor
  · intro found
    cases kept : keep k with
    | false => simp [kept] at found
    | true =>
        rw [kept, if_pos rfl] at found
        have underKey := keyed k v found
        exact ⟨⟨⟨k, found⟩, by rw [underKey, kept]⟩, underKey⟩
  · rintro ⟨⟨⟨k', found⟩, kept⟩, rfl⟩
    rw [if_pos kept, keyed k' v found, found]

/-- Any list of the values will do. -/
theorem ofValues_perm (keyed : Keyed key m) (order : m.Order) {values : List ν}
    (rearranged : values.Perm order.values) : ofValues key values = m := by
  refine ofValues_eq fun k v => ?_
  rw [rearranged.mem_iff, order.mem_values]
  constructor
  · intro found
    exact ⟨⟨k, found⟩, keyed k v found⟩
  · rintro ⟨⟨k', found⟩, rfl⟩
    rwa [keyed k' v found]

theorem ofValues_map (values : List ν) {f : ν → ν} (sameKey : ∀ v, key (f v) = key v) :
    ofValues key (values.map f) = mapValues f (ofValues key values) := by
  refine Finmap.ext_lookup fun k => ?_
  rw [lookup_mapValues, lookup_ofValues, lookup_ofValues, ← List.map_reverse, List.find?_map]
  simp only [Function.comp_def, sameKey]

theorem ofValues_filter (key : ν → κ) (values : List ν) (keep : κ → Bool) :
    ofValues key (values.filter fun v => keep (key v)) = filterKeys keep (ofValues key values) := by
  refine Finmap.ext_lookup fun k => ?_
  have test : (fun v => decide (keep (key v) = true ∧ decide (key v = k) = true)) =
      fun v => keep k && decide (key v = k) := by
    funext v
    by_cases here : key v = k
    · simp [here]
    · simp [here]
  rw [lookup_filterKeys, lookup_ofValues, lookup_ofValues, ← List.filter_reverse,
    List.find?_filter, test]
  cases keep k with
  | true => simp
  | false => simp

theorem Keyed.filterKeys (keyed : Keyed key m) (keep : κ → Bool) :
    Keyed key (filterKeys keep m) := by
  intro k v found
  rw [lookup_filterKeys] at found
  split at found
  · exact keyed k v found
  · cases found

theorem Keyed.nodup_values (keyed : Keyed key m) (order : m.Order) : order.values.Nodup := by
  have entries : order.entries.Nodup := by
    have distinct := m.nodupKeys.nodup
    rw [← order.all] at distinct
    exact Multiset.coe_nodup.mp distinct
  refine entries.map_on ?_
  rintro ⟨k, v⟩ inEntries ⟨k', v'⟩ inEntries' same
  obtain rfl : v = v' := same
  obtain rfl := keyed k v (order.mem_entries.mp inEntries)
  obtain rfl := keyed k' v (order.mem_entries.mp inEntries')
  rfl

/-- No two values of a table have one key. -/
theorem Keyed.nodup_keys (keyed : Keyed key m) (order : m.Order) :
    (order.values.map key).Nodup := by
  refine (keyed.nodup_values order).map_on fun v member v' member' same => ?_
  obtain ⟨k, found⟩ := order.mem_values.mp member
  obtain ⟨k', found'⟩ := order.mem_values.mp member'
  have one : k = k' := by rw [← keyed k v found, ← keyed k' v' found', same]
  exact Option.some.inj ((one ▸ found).symm.trans found')

/-- The values that pass a test, sorted by a key that tells them apart, depend neither on
the order of the range nor on what else the table holds. -/
theorem sort_values_eq {κ' : Type} [LinearOrder κ'] {less : ν → ν → Bool} {sortKey : ν → κ'}
    (keyedLess : ∀ a b, less a b = decide (sortKey a < sortKey b)) (s : SortSlice less)
    (distinct : ∀ a b, sortKey a = sortKey b → key a = key b) {m' : GoMap κ ν}
    (keyed : Keyed key m) (keyed' : Keyed key m') (order : m.Order) (order' : m'.Order)
    {keep : ν → Bool}
    (same : ∀ v, keep v = true → ((∃ k, m.lookup k = some v) ↔ ∃ k, m'.lookup k = some v)) :
    s.sort (order.values.filter keep) = s.sort (order'.values.filter keep) := by
  have rearranged : (order.values.filter keep).Perm (order'.values.filter keep) := by
    refine (List.perm_ext_iff_of_nodup ((keyed.nodup_values order).filter _)
      ((keyed'.nodup_values order').filter _)).mpr fun v => ?_
    rw [List.mem_filter, List.mem_filter, order.mem_values, order'.mem_values]
    exact and_congr_left (same v)
  refine SortSlice.sort_eq keyedLess s s rearranged fun a inA b inB equal => ?_
  obtain ⟨k, foundA⟩ := order.mem_values.mp (List.mem_filter.mp inA).1
  obtain ⟨k', foundB⟩ := order.mem_values.mp (List.mem_filter.mp inB).1
  have sameKey : k = k' := by
    rw [← keyed k a foundA, ← keyed k' b foundB, distinct a b equal]
  rw [← sameKey, foundA] at foundB
  exact Option.some.inj foundB

/-- So does the list of all values of one table. -/
theorem sort_all_values_eq {κ' : Type} [LinearOrder κ'] {less : ν → ν → Bool} {sortKey : ν → κ'}
    (keyedLess : ∀ a b, less a b = decide (sortKey a < sortKey b)) (s : SortSlice less)
    (distinct : ∀ a b, sortKey a = sortKey b → key a = key b) (keyed : Keyed key m)
    (order order' : m.Order) : s.sort order.values = s.sort order'.values := by
  have same := sort_values_eq keyedLess s distinct keyed keyed order order'
    (fun v _ => Iff.rfl : ∀ v, (fun _ => true) v = true → _)
  rwa [List.filter_true, List.filter_true] at same

end Keyed

end KvIndexer.GoMap
