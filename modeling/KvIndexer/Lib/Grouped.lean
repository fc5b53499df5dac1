import KvIndexer.Lib.FirstSeen
import KvIndexer.Lib.GoMap

/-!
Grouping by key with a map and a list of the keys.

The loop of `grouped` appends a row to the group of its key; a key without a group gets one
and is noted. So the groups stand in the order in which their keys come first, and each has the
rows of its key in their order (`grouped_eq`).
-/

namespace KvIndexer

section FirstSeen

variable {α κ : Type} [DecidableEq κ] {key : α → κ}

/-- The last element is kept if its key is new. -/
theorem firstSeen_concat (seen : Finset κ) (xs : List α) (x : α) :
    firstSeen key seen (xs ++ [x]) =
      firstSeen key seen xs ++ if key x ∈ seen ∨ key x ∈ xs.map key then [] else [x] := by
  induction xs generalizing seen with
  | nil => simp [firstSeen]
  | cons y xs ih =>
      rw [List.cons_append, firstSeen, firstSeen, ih, ih]
      split
      · rename_i old
        have same : (key x ∈ seen ∨ key x ∈ xs.map key) ↔
            (key x ∈ seen ∨ key x ∈ (y :: xs).map key) := by
          rw [List.map_cons, List.mem_cons]
          constructor
          · exact Or.imp_right Or.inr
          · rintro (before | here | later)
            · exact Or.inl before
            · exact Or.inl (here ▸ old)
            · exact Or.inr later
        simp only [same]
      · have same : (key x ∈ insert (key y) seen ∨ key x ∈ xs.map key) ↔
            (key x ∈ seen ∨ key x ∈ (y :: xs).map key) := by
          rw [List.map_cons, List.mem_cons, Finset.mem_insert]
          tauto
        rw [List.cons_append]
        simp only [same]

theorem mem_firstSeen_id {keys : List κ} {k : κ} : k ∈ firstSeen id ∅ keys ↔ k ∈ keys := by
  constructor
  · intro kept
    exact (mem_of_mem_firstSeen kept).1
  · intro member
    obtain ⟨k', kept, rfl⟩ := @exists_firstSeen κ κ _ id ∅ keys k member (by simp)
    exact kept

end FirstSeen

section Grouped

variable {κ β : Type} [DecidableEq κ]

/-- The keys that have a group, and the groups. -/
abbrev Groups (κ β : Type) := List κ × GoMap κ (List β)

/-- Append a row to the group of its key. -/
def Groups.add (groups : Groups κ β) (row : κ × β) : Groups κ β :=
  match groups.2.lookup row.1 with
  | none => (groups.1 ++ [row.1], groups.2.insert row.1 [row.2])
  | some rows => (groups.1, groups.2.insert row.1 (rows ++ [row.2]))

def groupRows (rows : List (κ × β)) : Groups κ β := rows.foldl Groups.add ([], ∅)

/-- The groups in the order of the keys. -/
def grouped (rows : List (κ × β)) : List (κ × List β) :=
  (groupRows rows).1.map fun k => (k, ((groupRows rows).2.lookup k).getD [])

/-- The rows of a key. -/
def rowsOf (rows : List (κ × β)) (k : κ) : List β :=
  (rows.filter fun row => row.1 = k).map Prod.snd

theorem rowsOf_concat (rows : List (κ × β)) (row : κ × β) (k : κ) :
    rowsOf (rows ++ [row]) k = rowsOf rows k ++ if row.1 = k then [row.2] else [] := by
  unfold rowsOf
  rw [List.filter_append, List.map_append, List.filter_singleton]
  by_cases same : row.1 = k
  · simp [same]
  · simp [same]

/-- The loop, read off the rows. -/
theorem groupRows_spec (rows : List (κ × β)) :
    (groupRows rows).1 = firstSeen id ∅ (rows.map Prod.fst) ∧
      ∀ k, (groupRows rows).2.lookup k =
        if k ∈ rows.map Prod.fst then some (rowsOf rows k) else none := by
  induction rows using List.reverseRecOn with
  | nil => exact ⟨rfl, fun k => by simp [groupRows]⟩
  | append_singleton rows row ih =>
      obtain ⟨keys, groups⟩ := ih
      have step : groupRows (rows ++ [row]) = (groupRows rows).add row := by
        unfold groupRows
        rw [List.foldl_concat]
      have known := groups row.1
      have others : ∀ k, row.1 ≠ k →
          (k ∈ rows.map Prod.fst ++ [row.1] ↔ k ∈ rows.map Prod.fst) := fun k other => by
        rw [List.mem_append, List.mem_singleton, or_iff_left other.symm]
      rw [step, List.map_append, List.map_singleton, firstSeen_concat, ← keys]
      simp only [id, Finset.notMem_empty, false_or, List.map_id_fun]
      unfold Groups.add
      by_cases old : row.1 ∈ rows.map Prod.fst
      · rw [if_pos old] at known
        rw [known, if_pos old]
        refine ⟨(List.append_nil _).symm, fun k => ?_⟩
        dsimp only
        rw [rowsOf_concat, GoMap.lookup_insert_eq, groups k]
        by_cases same : row.1 = k
        · subst same
          simp
        · simp only [others k same, if_neg same, if_neg (Ne.symm same), List.append_nil]
      · rw [if_neg old] at known
        rw [known, if_neg old]
        refine ⟨rfl, fun k => ?_⟩
        dsimp only
        rw [rowsOf_concat, GoMap.lookup_insert_eq, groups k]
        by_cases same : row.1 = k
        · subst same
          have nothing : rowsOf rows row.1 = [] := by
            rw [rowsOf, List.map_eq_nil_iff, List.filter_eq_nil_iff]
            intro other member
            rw [decide_eq_true_eq]
            intro same
            exact old (same ▸ List.mem_map_of_mem member)
          simp [nothing]
        · simp only [others k same, if_neg same, if_neg (Ne.symm same), List.append_nil]

/-- One group for each key, in the order in which the keys come first, with the rows of the
key. -/
theorem grouped_eq (rows : List (κ × β)) :
    grouped rows = (firstSeen id ∅ (rows.map Prod.fst)).map fun k => (k, rowsOf rows k) := by
  obtain ⟨keys, groups⟩ := groupRows_spec rows
  unfold grouped
  rw [keys]
  refine List.map_congr_left fun k member => ?_
  rw [groups, if_pos (mem_firstSeen_id.mp member), Option.getD_some]

/-- Every row is in one group, once. -/
theorem flatMap_rowsOf_perm {rows : List (κ × β)} {keys : List κ} (once : keys.Nodup)
    (all : ∀ row ∈ rows, row.1 ∈ keys) : (keys.flatMap (rowsOf rows)).Perm (rows.map Prod.snd) := by
  induction rows with
  | nil => simp [rowsOf]
  | cons row rows ih =>
      obtain ⟨here, later⟩ := List.forall_mem_cons.mp all
      obtain ⟨pre, post, rfl⟩ := List.append_of_mem here
      rw [List.nodup_append, List.nodup_cons] at once
      obtain ⟨-, ⟨notPost, -⟩, apart⟩ := once
      have others : ∀ k, k ≠ row.1 → rowsOf (row :: rows) k = rowsOf rows k := by
        intro k other
        unfold rowsOf
        rw [List.filter_cons_of_neg (by simpa using other.symm)]
      have mine : rowsOf (row :: rows) row.1 = row.2 :: rowsOf rows row.1 := by
        unfold rowsOf
        rw [List.filter_cons_of_pos (by simp), List.map_cons]
      have front : pre.flatMap (rowsOf (row :: rows)) = pre.flatMap (rowsOf rows) :=
        List.flatMap_congr fun k member =>
          others k (apart k member row.1 List.mem_cons_self)
      have back : post.flatMap (rowsOf (row :: rows)) = post.flatMap (rowsOf rows) :=
        List.flatMap_congr fun k member => others k fun same => notPost (same ▸ member)
      have rest := ih later
      rw [List.flatMap_append, List.flatMap_cons] at rest ⊢
      rw [front, back, mine, List.map_cons, List.cons_append]
      exact List.perm_middle.trans (rest.cons row.2)

end Grouped

end KvIndexer
