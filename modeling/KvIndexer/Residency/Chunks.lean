import KvIndexer.Residency.Keys

/-!
The laws of chunking and chaining (`ChunkTokens`, `RequestKeysFromTokens`,
`internal/residency/index.go`).

The full blocks of a prompt, put together again, are the prompt without its partial
block. A prompt cut at a block boundary has the blocks of its two parts, and the
keys of the second part continue from the last key of the first
(`requestKeysFromTokens_append`). Two prompts share the keys of the blocks they
agree on.
-/

namespace KvIndexer.Residency

/-! ### Slice expressions -/

/-- `tokens[low:high]`. `none` is the panic of an index out of range. -/
def sliceTokens (tokens : List Int32) (low high : Int) : Option (List Int32) :=
  if 0 ≤ low ∧ low ≤ high ∧ high ≤ tokens.length then
    some ((tokens.drop low.toNat).take (high - low).toNat)
  else none

/-- `ChunkTokens` with its slice expressions checked. -/
def sliceChunks (tokens : List Int32) (blockSize : Int) : Option (List (List Int32)) :=
  if blockSize ≤ 0 then some []
  else
    (List.range (tokens.length / blockSize.toNat)).mapM fun i : Nat =>
      sliceTokens tokens (i * blockSize) ((i + 1) * blockSize)

theorem mapM_eq_some_map {α β : Type} {f : α → Option β} {g : α → β} {xs : List α}
    (each : ∀ x ∈ xs, f x = some (g x)) : xs.mapM f = some (xs.map g) := by
  induction xs with
  | nil => rfl
  | cons x xs ih =>
      obtain ⟨first, rest⟩ := List.forall_mem_cons.mp each
      rw [List.mapM_cons, first, ih rest]
      rfl

/-- No slice expression of the loop is out of range. -/
theorem sliceChunks_eq (tokens : List Int32) (blockSize : Int) :
    sliceChunks tokens blockSize = some (chunkTokens tokens blockSize) := by
  unfold sliceChunks chunkTokens
  by_cases notPositive : blockSize ≤ 0
  · rw [if_pos notPositive, if_pos notPositive]
  · rw [if_neg notPositive, if_neg notPositive]
    refine mapM_eq_some_map fun i inRange => ?_
    have block : (blockSize.toNat : Int) = blockSize := Int.toNat_of_nonneg (by omega)
    have full : (i + 1) * blockSize.toNat ≤ tokens.length :=
      Nat.le_trans (Nat.mul_le_mul_right _ (List.mem_range.mp inRange)) (Nat.div_mul_le_self _ _)
    have low : (i * blockSize : Int) = ((i * blockSize.toNat : Nat) : Int) := by
      rw [Int.natCast_mul, block]
    have high : ((i + 1) * blockSize : Int) =
        ((i * blockSize.toNat + blockSize.toNat : Nat) : Int) := by
      rw [Int.natCast_add, Int.natCast_mul, block, Int.add_mul, Int.one_mul]
    rw [Nat.add_mul, Nat.one_mul] at full
    rw [sliceTokens, low, high, if_pos (by omega)]
    congr 2
    omega

/-! ### Blocks -/

section Blocks

variable {blockSize : Int}

/-- The full blocks hold the tokens up to the last block boundary. -/
theorem flatten_chunkTokens (positive : 0 < blockSize) (tokens : List Int32) :
    (chunkTokens tokens blockSize).flatten =
      tokens.take (blockSize.toNat * (tokens.length / blockSize.toNat)) := by
  rw [chunkTokens, if_neg (by omega)]
  induction tokens.length / blockSize.toNat with
  | zero => simp
  | succ n ih =>
      rw [List.range_succ, List.map_append, List.flatten_append, ih, Nat.mul_succ, List.take_add,
        Nat.mul_comm]
      simp

/-- A block boundary inside a prompt cuts its list of blocks in two. -/
theorem chunkTokens_append (positive : 0 < blockSize) {xs : List Int32}
    (whole : blockSize.toNat ∣ xs.length) (ys : List Int32) :
    chunkTokens (xs ++ ys) blockSize = chunkTokens xs blockSize ++ chunkTokens ys blockSize := by
  have size : 0 < blockSize.toNat := by omega
  have front : (chunkTokens xs blockSize).flatten = xs := by
    rw [flatten_chunkTokens positive, Nat.mul_div_cancel' whole, List.take_length]
  have back : (chunkTokens ys blockSize).flatten ++
      ys.drop (blockSize.toNat * (ys.length / blockSize.toNat)) = ys := by
    rw [flatten_chunkTokens positive, List.take_append_drop]
  have joined : xs ++ ys = (chunkTokens xs blockSize ++ chunkTokens ys blockSize).flatten ++
      ys.drop (blockSize.toNat * (ys.length / blockSize.toNat)) := by
    rw [List.flatten_append, front, List.append_assoc, back]
  rw [joined]
  refine chunkTokens_flatten positive _ _ ?_ ?_
  · intro b member
    rcases List.mem_append.mp member with inFront | inBack
    · exact mem_chunkTokens_length inFront
    · exact mem_chunkTokens_length inBack
  · rw [List.length_drop]
    have split := Nat.div_add_mod ys.length blockSize.toNat
    have short := Nat.mod_lt ys.length size
    omega

/-- The keys of the second part are chained from the last key of the first. -/
theorem requestKeysFromTokens_append (positive : 0 < blockSize) (seed : UInt64) {xs : List Int32}
    (whole : blockSize.toNat ∣ xs.length) (ys : List Int32) :
    requestKeysFromTokens seed (xs ++ ys) blockSize =
      requestKeysFromTokens seed xs blockSize ++
        requestKeysFromTokens ((requestKeysFromTokens seed xs blockSize).getLast?.getD seed) ys
          blockSize := by
  rw [requestKeysFromTokens, chunkTokens_append positive whole, chain_append]
  rfl

/-- The first keys of a prompt are the keys of its first blocks. -/
theorem take_requestKeysFromTokens (positive : 0 < blockSize) (seed : UInt64) {tokens : List Int32}
    {k : Nat} (long : blockSize.toNat * k ≤ tokens.length) :
    (requestKeysFromTokens seed tokens blockSize).take k =
      requestKeysFromTokens seed (tokens.take (blockSize.toNat * k)) blockSize := by
  have length : (tokens.take (blockSize.toNat * k)).length = blockSize.toNat * k := by
    rw [List.length_take, Nat.min_eq_left long]
  have count : (requestKeysFromTokens seed (tokens.take (blockSize.toNat * k)) blockSize).length
      = k := by
    rw [length_requestKeysFromTokens positive, length, Nat.mul_div_cancel_left _ (by omega)]
  have cut := requestKeysFromTokens_append positive seed ⟨k, length⟩
    (tokens.drop (blockSize.toNat * k))
  rw [List.take_append_drop] at cut
  rw [cut, List.take_left' count]

/-- Prompts that agree on their first `m` tokens share the keys of the full blocks among
them. -/
theorem requestKeysFromTokens_prefix (positive : 0 < blockSize) (seed : UInt64)
    {p q : List Int32} {m : Nat} (inP : m ≤ p.length) (inQ : m ≤ q.length)
    (agree : p.take m = q.take m) :
    (requestKeysFromTokens seed p blockSize).take (m / blockSize.toNat) =
      (requestKeysFromTokens seed q blockSize).take (m / blockSize.toNat) := by
  have within : blockSize.toNat * (m / blockSize.toNat) ≤ m := Nat.mul_div_le m _
  rw [take_requestKeysFromTokens positive seed (Nat.le_trans within inP),
    take_requestKeysFromTokens positive seed (Nat.le_trans within inQ)]
  have same := congrArg (List.take (blockSize.toNat * (m / blockSize.toNat))) agree
  rw [List.take_take, List.take_take, Nat.min_eq_left within] at same
  rw [same]

end Blocks

/-- Chunking and chaining respect concatenation, prefixes and the bounds of the token
list, whatever the block size is. -/
theorem chunking_and_chaining (seed : UInt64) (blockSize : Int) :
    (0 < blockSize →
      (∀ tokens : List Int32,
        (chunkTokens tokens blockSize).flatten =
            tokens.take (blockSize.toNat * (tokens.length / blockSize.toNat)) ∧
          ∀ b ∈ chunkTokens tokens blockSize, (b.length : Int) = blockSize) ∧
      (∀ xs ys : List Int32, blockSize ∣ xs.length →
        requestKeysFromTokens seed (xs ++ ys) blockSize =
          requestKeysFromTokens seed xs blockSize ++
            requestKeysFromTokens ((requestKeysFromTokens seed xs blockSize).getLast?.getD seed) ys
              blockSize) ∧
      ∀ (p q : List Int32) (m : Nat), m ≤ p.length → m ≤ q.length → p.take m = q.take m →
        m / blockSize.toNat ≤ (requestKeysFromTokens seed p blockSize).length ∧
        m / blockSize.toNat ≤ (requestKeysFromTokens seed q blockSize).length ∧
        (requestKeysFromTokens seed p blockSize).take (m / blockSize.toNat) =
          (requestKeysFromTokens seed q blockSize).take (m / blockSize.toNat)) ∧
    (blockSize ≤ 0 → ∀ tokens : List Int32, requestKeysFromTokens seed tokens blockSize = []) ∧
    ∀ tokens : List Int32, sliceChunks tokens blockSize = some (chunkTokens tokens blockSize) := by
  refine ⟨fun positive => ⟨fun tokens => ⟨flatten_chunkTokens positive tokens, ?_⟩, ?_, ?_⟩, ?_,
    fun tokens => sliceChunks_eq tokens blockSize⟩
  · intro b member
    rw [mem_chunkTokens_length member, Int.toNat_of_nonneg (by omega)]
  · intro xs ys whole
    refine requestKeysFromTokens_append positive seed ?_ ys
    rw [← Int.natCast_dvd_natCast, Int.toNat_of_nonneg (by omega)]
    exact whole
  · intro p q m inP inQ agree
    rw [length_requestKeysFromTokens positive, length_requestKeysFromTokens positive]
    exact ⟨Nat.div_le_div_right inP, Nat.div_le_div_right inQ,
      requestKeysFromTokens_prefix positive seed inP inQ agree⟩
  · intro notPositive tokens
    rw [requestKeysFromTokens, chunkTokens, if_pos notPositive]
    rfl

end KvIndexer.Residency
