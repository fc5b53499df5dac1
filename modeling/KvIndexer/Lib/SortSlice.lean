import Mathlib.Data.List.DropRight
import Mathlib.Data.List.Perm.Basic
import Mathlib.Order.Lattice

/-!
`sort.Slice`: an unstable sort by a comparison.

The standard library promises a sorted rearrangement and nothing about elements that
compare equal, so a sort is any function with these two properties. A comparison by a
key into a linear order has one (`SortSlice.byKey`), and on elements told apart by their
keys every sort of every rearrangement gives the same list (`SortSlice.sort_eq`).

A loop that stops at the first match of a sorted list finds a least match
(`SortSlice.find?_sort`), and has passed what is not greater than it
(`SortSlice.mem_through_sort`), but for elements that compare equal to it. A cut at either
end keeps extreme elements (`SortSlice.le_of_notMem_take`, `SortSlice.le_of_notMem_rtake`).
-/

namespace KvIndexer

/-- The elements up to the first match, with it. -/
def through {α : Type} (p : α → Bool) : List α → List α
  | [] => []
  | x :: xs => if p x then [x] else x :: through p xs

section Through

variable {α : Type} {p : α → Bool} {xs : List α} {x : α}

theorem through_isPrefix : through p xs <+: xs := by
  induction xs with
  | nil => exact List.nil_prefix
  | cons x xs ih =>
      rw [through]
      split
      · exact ⟨xs, rfl⟩
      · exact (List.prefix_cons_inj x).mpr ih

/-- A match ends the walk. -/
theorem through_of_find? (found : xs.find? p = some x) :
    ∃ front back, xs = front ++ x :: back ∧ through p xs = front ++ [x] := by
  induction xs with
  | nil => cases found
  | cons y xs ih =>
      rw [List.find?_cons] at found
      cases holds : p y with
      | true =>
          rw [holds] at found
          obtain rfl : y = x := Option.some.inj found
          exact ⟨[], xs, rfl, by simp [through, holds]⟩
      | false =>
          rw [holds] at found
          obtain ⟨front, back, split, walked⟩ := ih found
          refine ⟨y :: front, back, by rw [split, List.cons_append], ?_⟩
          rw [through, holds, if_neg nofun, walked, List.cons_append]

/-- Without a match everything is passed. -/
theorem through_of_find?_eq_none (none : xs.find? p = none) : through p xs = xs := by
  induction xs with
  | nil => rfl
  | cons y xs ih =>
      rw [List.find?_cons] at none
      cases holds : p y with
      | true =>
          rw [holds] at none
          cases none
      | false =>
          rw [holds] at none
          rw [through, holds, if_neg nofun, ih none]

end Through

/-- Two tests have the same first match exactly when the first element that passes one of them
passes both. -/
theorem find?_eq_find?_iff {α : Type} {p q : α → Bool} {xs : List α} :
    xs.find? p = xs.find? q ↔
      ∀ x, xs.find? (fun y => p y || q y) = some x → p x = true ∧ q x = true := by
  induction xs with
  | nil => simp
  | cons x xs ih =>
      simp only [List.find?_cons]
      cases left : p x with
      | true =>
          cases right : q x with
          | true => simp [left, right]
          | false =>
              -- only the first test stops here
              simp only [Bool.true_or, Option.some.injEq, forall_eq', left, right]
              refine iff_of_false (fun same => ?_) (by simp)
              have holds := List.find?_some same.symm
              rw [right] at holds
              cases holds
      | false =>
          cases right : q x with
          | true =>
              simp only [Bool.or_true, Option.some.injEq, forall_eq', left, right]
              refine iff_of_false (fun same => ?_) (by simp)
              have holds := List.find?_some same
              rw [left] at holds
              cases holds
          | false => simpa using ih

/-- A sort by `less`. -/
structure SortSlice {α : Type} (less : α → α → Bool) where
  sort : List α → List α
  perm : ∀ xs, (sort xs).Perm xs
  sorted : ∀ xs, (sort xs).Pairwise fun a b => less b a = false

namespace SortSlice

variable {α κ : Type} [LinearOrder κ] {less : α → α → Bool}

theorem mem_sort (s : SortSlice less) {xs : List α} {a : α} : a ∈ s.sort xs ↔ a ∈ xs :=
  (s.perm xs).mem_iff

theorem sort_nil (s : SortSlice less) : s.sort [] = [] := (s.perm []).eq_nil

theorem sort_singleton (s : SortSlice less) (a : α) : s.sort [a] = [a] :=
  List.perm_singleton.mp (s.perm [a])

variable {key : α → κ} (keyed : ∀ a b, less a b = decide (key a < key b))

/-- The stable sort by a key. -/
def byKey : SortSlice less where
  sort xs := xs.mergeSort fun a b => key a ≤ key b
  perm xs := List.mergeSort_perm xs _
  sorted xs := by
    have ordered := @List.pairwise_mergeSort _ (fun a b => decide (key a ≤ key b))
      (fun a b c ab bc => by
        rw [decide_eq_true_eq] at ab bc ⊢
        exact le_trans ab bc)
      (fun a b => by simpa using le_total (key a) (key b)) xs
    refine ordered.imp fun {a b} le => ?_
    rw [keyed]
    simpa using le

include keyed

/-- Sorting does not depend on the sort or on the order before it when the keys tell
different elements apart. -/
theorem sort_eq (s s' : SortSlice less) {xs ys : List α} (same : xs.Perm ys)
    (distinct : ∀ a ∈ xs, ∀ b ∈ xs, key a = key b → a = b) : s.sort xs = s'.sort ys := by
  refine List.Perm.eq_of_pairwise (fun a b inXs inYs ab ba => ?_) (s.sorted xs) (s'.sorted ys)
    ((s.perm xs).trans (same.trans (s'.perm ys).symm))
  rw [keyed, decide_eq_false_iff_not, not_lt] at ab ba
  exact distinct a (s.mem_sort.mp inXs) b (same.mem_iff.mpr (s'.mem_sort.mp inYs))
    (le_antisymm ab ba)

/-- Elements can be replaced before or after sorting, if the replacements keep the keys. -/
theorem sort_map (s : SortSlice less) {xs : List α} {f : α → α}
    (kept : ∀ a ∈ xs, key (f a) = key a)
    (distinct : ∀ a ∈ xs.map f, ∀ b ∈ xs.map f, key a = key b → a = b) :
    s.sort (xs.map f) = (s.sort xs).map f := by
  have same : (s.sort (xs.map f)).Perm ((s.sort xs).map f) :=
    (s.perm _).trans ((s.perm xs).symm.map f)
  have inOrder : ((s.sort xs).map f).Pairwise fun a b => less b a = false := by
    refine List.pairwise_map.mpr ((s.sorted xs).imp_of_mem fun {a b} inXs inXs' notAfter => ?_)
    rw [keyed] at notAfter ⊢
    rwa [kept a (s.mem_sort.mp inXs), kept b (s.mem_sort.mp inXs')]
  refine List.Perm.eq_of_pairwise (fun a b mem mem' ab ba => ?_) (s.sorted _) inOrder same
  rw [keyed, decide_eq_false_iff_not, not_lt] at ab ba
  exact distinct a (s.mem_sort.mp mem) b (s.mem_sort.mp (same.mem_iff.mpr mem'))
    (le_antisymm ab ba)

/-- Elements can be left out before or after sorting. -/
theorem sort_filter (s : SortSlice less) {xs : List α} (keep : α → Bool)
    (distinct : ∀ a ∈ xs, ∀ b ∈ xs, key a = key b → a = b) :
    s.sort (xs.filter keep) = (s.sort xs).filter keep := by
  have same : (s.sort (xs.filter keep)).Perm ((s.sort xs).filter keep) :=
    (s.perm _).trans ((s.perm xs).symm.filter keep)
  refine List.Perm.eq_of_pairwise (fun a b mem mem' ab ba => ?_) (s.sorted _)
    ((s.sorted xs).filter keep) same
  rw [keyed, decide_eq_false_iff_not, not_lt] at ab ba
  exact distinct a (List.mem_of_mem_filter (s.mem_sort.mp mem)) b
    (s.mem_sort.mp (List.mem_of_mem_filter mem')) (le_antisymm ab ba)

theorem pairwise_sort (s : SortSlice less) (xs : List α) :
    (s.sort xs).Pairwise fun a b => key a ≤ key b := by
  refine (s.sorted xs).imp fun {a b} notAfter => ?_
  rw [keyed, decide_eq_false_iff_not, not_lt] at notAfter
  exact notAfter

/-- Two lists in order with the same members are one, if no element comes twice and the keys
tell different elements apart. -/
theorem eq_of_mem_iff {xs ys : List α} (inOrder : xs.Pairwise fun a b => less b a = false)
    (inOrder' : ys.Pairwise fun a b => less b a = false) (once : xs.Nodup) (once' : ys.Nodup)
    (distinct : ∀ a ∈ xs, ∀ b ∈ xs, key a = key b → a = b) (members : ∀ a, a ∈ xs ↔ a ∈ ys) :
    xs = ys := by
  have same := (List.perm_ext_iff_of_nodup once once').mpr members
  refine List.Perm.eq_of_pairwise (fun a b inXs inYs ab ba => ?_) inOrder inOrder' same
  rw [keyed, decide_eq_false_iff_not, not_lt] at ab ba
  exact distinct a inXs b ((members b).mpr inYs) (le_antisymm ab ba)

variable {s : SortSlice less} {p : α → Bool} {xs : List α} {x : α}

/-- The first match of a sorted list is a least one. -/
theorem find?_sort (found : (s.sort xs).find? p = some x) :
    x ∈ xs ∧ p x = true ∧ ∀ y ∈ xs, p y = true → less y x = false := by
  obtain ⟨holds, front, back, split, earlier⟩ := List.find?_eq_some_iff_append.mp found
  have ordered := s.sorted xs
  rw [split, List.pairwise_append, List.pairwise_cons] at ordered
  refine ⟨s.mem_sort.mp (List.mem_of_find?_eq_some found), holds, fun y member matches' => ?_⟩
  have place := s.mem_sort.mpr member
  rw [split, List.mem_append, List.mem_cons] at place
  rcases place with inFront | rfl | inBack
  · have := earlier y inFront
    rw [matches'] at this
    cases this
  · rw [keyed, decide_eq_false_iff_not]
    exact lt_irrefl _
  · exact ordered.2.1.1 y inBack

/-- Where the keys tell different elements apart, a least match is the first one. -/
theorem find?_sort_iff (distinct : ∀ a ∈ xs, ∀ b ∈ xs, key a = key b → a = b) :
    (s.sort xs).find? p = some x ↔
      x ∈ xs ∧ p x = true ∧ ∀ y ∈ xs, p y = true → less y x = false := by
  refine ⟨find?_sort keyed, fun ⟨member, holds, least⟩ => ?_⟩
  cases found : (s.sort xs).find? p with
  | none => exact absurd holds (List.find?_eq_none.mp found x (s.mem_sort.mpr member))
  | some y =>
      obtain ⟨member', holds', least'⟩ := find?_sort keyed found
      have notAfter := least y member' holds'
      have notBefore := least' x member holds
      rw [keyed, decide_eq_false_iff_not, not_lt] at notAfter notBefore
      rw [distinct x member y member' (le_antisymm notAfter notBefore)]

/-- What is passed is not greater than the match, and what is not greater is passed or
compares equal to it. -/
theorem mem_through_sort (found : (s.sort xs).find? p = some x) {y : α} :
    (y ∈ through p (s.sort xs) → y ∈ xs ∧ less x y = false) ∧
      (y ∈ xs → less x y = false → y ∈ through p (s.sort xs) ∨ key y = key x) := by
  obtain ⟨front, back, split, walked⟩ := through_of_find? found
  have ordered := s.sorted xs
  rw [split, List.pairwise_append, List.pairwise_cons] at ordered
  have listed : y ∈ xs ↔ y ∈ front ++ x :: back := by
    rw [← split, s.mem_sort]
  rw [walked, listed]
  simp only [List.mem_append, List.mem_cons, List.not_mem_nil, or_false]
  constructor
  · rintro (inFront | rfl)
    · exact ⟨Or.inl inFront, ordered.2.2 y inFront x List.mem_cons_self⟩
    · refine ⟨Or.inr (Or.inl rfl), ?_⟩
      rw [keyed, decide_eq_false_iff_not]
      exact lt_irrefl _
  · rintro (inFront | rfl | inBack) notAfter
    · exact Or.inl (Or.inl inFront)
    · exact Or.inl (Or.inr rfl)
    · have later := ordered.2.1.1 y inBack
      rw [keyed, decide_eq_false_iff_not, not_lt] at later notAfter
      exact Or.inr (le_antisymm notAfter later)

/-! ### The ends of a sorted list -/

/-- An element that is not among the first ones is not less than any of them. -/
theorem le_of_notMem_take {n : Nat} (member : x ∈ xs) (left : x ∉ (s.sort xs).take n) :
    n ≤ xs.length ∧ ∀ y ∈ (s.sort xs).take n, key y ≤ key x := by
  have split := List.take_append_drop n (s.sort xs)
  have later : x ∈ (s.sort xs).drop n := by
    rw [← s.mem_sort, ← split] at member
    exact (List.mem_append.mp member).resolve_left left
  refine ⟨?_, fun y taken => ?_⟩
  · have length := (s.perm xs).length_eq
    have := List.length_pos_of_mem later
    rw [List.length_drop] at this
    omega
  · have ordered := pairwise_sort keyed s xs
    rw [← split, List.pairwise_append] at ordered
    exact ordered.2.2 y taken x later

/-- Fewer than `n` elements are less than one of the first `n`. -/
theorem countP_lt_of_mem_take {n : Nat} (first : x ∈ (s.sort xs).take n) :
    xs.countP (fun y => decide (key y < key x)) < n := by
  obtain ⟨front, back, split⟩ := List.append_of_mem first
  have whole := List.take_append_drop n (s.sort xs)
  rw [split, List.append_assoc, List.cons_append] at whole
  have ordered := pairwise_sort keyed s xs
  rw [← whole, List.pairwise_append, List.pairwise_cons] at ordered
  have later : ∀ y ∈ x :: (back ++ (s.sort xs).drop n), ¬ decide (key y < key x) = true := by
    intro y member
    rw [decide_eq_true_eq, not_lt]
    rcases List.mem_cons.mp member with rfl | inRest
    · exact le_rfl
    · exact ordered.2.1.1 y inRest
  rw [← (s.perm xs).countP_eq, ← whole, List.countP_append, List.countP_eq_zero.mpr later,
    Nat.add_zero]
  have bound := List.length_take_le n (s.sort xs)
  rw [split, List.length_append, List.length_cons] at bound
  exact Nat.lt_of_le_of_lt List.countP_le_length (by omega)

/-- An element that is not among the last ones is not greater than any of them. -/
theorem le_of_notMem_rtake {n : Nat} (member : x ∈ xs) (left : x ∉ (s.sort xs).rtake n) :
    n ≤ xs.length ∧ ∀ y ∈ (s.sort xs).rtake n, key x ≤ key y := by
  have split := List.take_append_drop ((s.sort xs).length - n) (s.sort xs)
  have earlier : x ∈ (s.sort xs).take ((s.sort xs).length - n) := by
    rw [← s.mem_sort, ← split] at member
    exact (List.mem_append.mp member).resolve_right left
  refine ⟨?_, fun y taken => ?_⟩
  · have length := (s.perm xs).length_eq
    have := List.length_pos_of_mem earlier
    rw [List.length_take] at this
    omega
  · have ordered := pairwise_sort keyed s xs
    rw [← split, List.pairwise_append] at ordered
    exact ordered.2.2 x earlier y taken

/-- If `n` elements are not below a bound, none of the last `n` is. -/
theorem le_of_mem_rtake {n : Nat} {bound : κ} (many : n ≤ xs.countP fun x => decide (bound ≤ key x))
    {y : α} (member : y ∈ (s.sort xs).rtake n) : bound ≤ key y := by
  by_contra below
  obtain ⟨front, back, split⟩ := List.append_of_mem member
  have whole := List.take_append_drop ((s.sort xs).length - n) (s.sort xs)
  have length : ((s.sort xs).rtake n).length ≤ n := by
    unfold List.rtake
    rw [List.length_drop]
    omega
  unfold List.rtake at split length
  rw [split, ← List.append_assoc] at whole
  have ordered := pairwise_sort keyed s xs
  rw [← whole, List.pairwise_append] at ordered
  -- up to `y` the elements are not above it
  have none : ∀ z ∈ (s.sort xs).take ((s.sort xs).length - n) ++ front,
      ¬ decide (bound ≤ key z) = true := by
    intro z earlier reaches
    exact below (le_trans (of_decide_eq_true reaches)
      (ordered.2.2 z earlier y List.mem_cons_self))
  rw [← (s.perm xs).countP_eq, ← whole, List.countP_append, List.countP_eq_zero.mpr none,
    List.countP_cons_of_neg (by simpa using below)] at many
  have fewer := List.countP_le_length (p := fun x => decide (bound ≤ key x)) (l := back)
  rw [split, List.length_append, List.length_cons] at length
  omega

end SortSlice

end KvIndexer
