import Mathlib.Data.List.Basic

/-!
Request keys: the chained block hash of a token sequence
(`internal/residency/index.go`).

A request key is FNV-64a over the parent key and the tokens of one full block, so
the keys of a prompt depend on the namespace seed and on every token before the
block. `requestKeysFromTokens_flatten` reduces the chunk loop to a chain over the
list of full blocks, and `chain_append` is the law both ingest and query rest on:
a chain continues from the last key of its first part.
-/

namespace KvIndexer.Residency

/-- A deterministic prefix-block hash in our own namespace. -/
abbrev RequestKey := UInt64

/-- The engine-reported block hash. -/
abbrev EngineKey := UInt64

/-! ### FNV-64a -/

def fnvOffset : UInt64 := 14695981039346656037

def fnvPrime : UInt64 := 1099511628211

/-- `h.Write(bytes)` on a running FNV-64a state. -/
def fnvWrite (h : UInt64) (bytes : List UInt8) : UInt64 :=
  bytes.foldl (fun h b => (h ^^^ b.toUInt64) * fnvPrime) h

/-- `binary.LittleEndian.PutUint64`. -/
def putUint64LE (x : UInt64) : List UInt8 :=
  (List.range 8).map fun i => (x >>> (8 * i).toUInt64).toUInt8

/-- `binary.LittleEndian.PutUint32`. -/
def putUint32LE (x : UInt32) : List UInt8 :=
  (List.range 4).map fun i => (x >>> (8 * i).toUInt32).toUInt8

/-- The chain seed of a profile namespace string. -/
def seedNamespace (namespaceKey : String) : UInt64 :=
  fnvWrite fnvOffset namespaceKey.toUTF8.toList

/-- Chain `parent` with a token chunk. -/
def hashBlock (parent : UInt64) (chunk : List Int32) : UInt64 :=
  chunk.foldl (fun h t => fnvWrite h (putUint32LE t.toUInt32))
    (fnvWrite fnvOffset (putUint64LE parent))

/-! ### Chunks and keys -/

/-- Full blocks of the token list; a partial trailing block is dropped, and a
block size that is not positive yields no block. -/
def chunkTokens (tokens : List Int32) (blockSize : Int) : List (List Int32) :=
  if blockSize ≤ 0 then []
  else
    (List.range (tokens.length / blockSize.toNat)).map fun i =>
      (tokens.drop (i * blockSize.toNat)).take blockSize.toNat

/-- The keys of consecutive blocks, each chained from the one before it. -/
def chain : UInt64 → List (List Int32) → List RequestKey
  | _, [] => []
  | parent, c :: chunks => hashBlock parent c :: chain (hashBlock parent c) chunks

/-- One key per full block, in prefix order. The seed is the namespace seed, or a
parent block's request key when an event continues a chain. -/
def requestKeysFromTokens (seed : UInt64) (tokens : List Int32) (blockSize : Int) :
    List RequestKey :=
  chain seed (chunkTokens tokens blockSize)

@[simp] theorem length_chain (parent : UInt64) (chunks : List (List Int32)) :
    (chain parent chunks).length = chunks.length := by
  induction chunks generalizing parent with
  | nil => rfl
  | cons c chunks ih => simp [chain, ih]

/-- The seed from which a chain continues: its last key, or its own seed when it
has no key. -/
def chainEnd (parent : UInt64) (chunks : List (List Int32)) : UInt64 :=
  (chain parent chunks).getLast?.getD parent

theorem chainEnd_cons (parent : UInt64) (c : List Int32) (chunks : List (List Int32)) :
    chainEnd parent (c :: chunks) = chainEnd (hashBlock parent c) chunks := by
  unfold chainEnd
  rw [chain, List.getLast?_cons]
  rfl

/-- A chain continues from the last key of its first part. -/
theorem chain_append (parent : UInt64) (xs ys : List (List Int32)) :
    chain parent (xs ++ ys) = chain parent xs ++ chain (chainEnd parent xs) ys := by
  induction xs generalizing parent with
  | nil => rfl
  | cons c xs ih => rw [List.cons_append, chain, ih, chain, chainEnd_cons, List.cons_append]

/-- The end of a non-empty chain is its last key. -/
theorem getLast?_chain {parent : UInt64} {chunks : List (List Int32)} (nonempty : chunks ≠ []) :
    (chain parent chunks).getLast? = some (chainEnd parent chunks) := by
  unfold chainEnd
  cases last : (chain parent chunks).getLast? with
  | none =>
      have empty := congrArg List.length (List.getLast?_eq_none_iff.mp last)
      rw [length_chain, List.length_nil, List.length_eq_zero_iff] at empty
      exact absurd empty nonempty
  | some rk => rfl

theorem chainEnd_append (parent : UInt64) (xs ys : List (List Int32)) :
    chainEnd parent (xs ++ ys) = chainEnd (chainEnd parent xs) ys := by
  induction xs generalizing parent with
  | nil => rfl
  | cons c xs ih => rw [List.cons_append, chainEnd_cons, ih, chainEnd_cons]

section Blocks

variable {blockSize : Int}

/-- Cutting a list of full blocks gives the blocks back, whatever shorter tail
follows them. -/
theorem chunkTokens_flatten (positive : 0 < blockSize) (blocks : List (List Int32))
    (tail : List Int32) (full : ∀ b ∈ blocks, b.length = blockSize.toNat)
    (short : tail.length < blockSize.toNat) :
    chunkTokens (blocks.flatten ++ tail) blockSize = blocks := by
  have size : 0 < blockSize.toNat := by omega
  rw [chunkTokens, if_neg (by omega)]
  induction blocks with
  | nil => simp [Nat.div_eq_of_lt short]
  | cons b blocks ih =>
      have width : b.length = blockSize.toNat := full b List.mem_cons_self
      have rest := ih fun c hc => full c (List.mem_cons_of_mem _ hc)
      have count : ((b :: blocks).flatten ++ tail).length / blockSize.toNat =
          (blocks.flatten ++ tail).length / blockSize.toNat + 1 := by
        simp only [List.flatten_cons, List.append_assoc, List.length_append, width]
        rw [Nat.add_comm, Nat.add_div_right _ size]
      rw [count, List.range_succ_eq_map, List.map_cons, List.map_map]
      refine congrArg₂ List.cons ?_ ?_
      · simp [width]
      · refine Eq.trans (List.map_congr_left fun i _ => ?_) rest
        have shift : (i + 1) * blockSize.toNat = b.length + i * blockSize.toNat := by
          rw [width, Nat.add_mul, Nat.one_mul, Nat.add_comm]
        simp only [Function.comp, Nat.succ_eq_add_one, shift, List.flatten_cons, List.append_assoc,
          List.drop_length_add_append]

theorem mem_chunkTokens_length {tokens : List Int32} {b : List Int32}
    (member : b ∈ chunkTokens tokens blockSize) : b.length = blockSize.toNat := by
  unfold chunkTokens at member
  split at member
  · simp at member
  · obtain ⟨i, inRange, rfl⟩ := List.mem_map.mp member
    have bound : (i + 1) * blockSize.toNat ≤ tokens.length :=
      Nat.le_trans (Nat.mul_le_mul_right _ (List.mem_range.mp inRange)) (Nat.div_mul_le_self _ _)
    rw [Nat.add_mul, Nat.one_mul] at bound
    rw [List.length_take, List.length_drop]
    omega

theorem length_chunkTokens (positive : 0 < blockSize) (tokens : List Int32) :
    (chunkTokens tokens blockSize).length = tokens.length / blockSize.toNat := by
  rw [chunkTokens, if_neg (by omega), List.length_map, List.length_range]

theorem length_requestKeysFromTokens (positive : 0 < blockSize) (seed : UInt64)
    (tokens : List Int32) :
    (requestKeysFromTokens seed tokens blockSize).length = tokens.length / blockSize.toNat := by
  rw [requestKeysFromTokens, length_chain, length_chunkTokens positive]

/-- All the blocks of a prompt are within the prompt. -/
theorem blockSize_mul_length_le (positive : 0 < blockSize) (seed : UInt64) (tokens : List Int32) :
    blockSize * (requestKeysFromTokens seed tokens blockSize).length ≤ tokens.length := by
  have size : (blockSize.toNat : Int) = blockSize := by omega
  have whole := Int.ofNat_le.mpr (Nat.mul_div_le tokens.length blockSize.toNat)
  rwa [Int.natCast_mul, size, ← length_requestKeysFromTokens positive seed] at whole

/-- An event that carries exactly the tokens of some full blocks has the keys of
the chain over these blocks. -/
theorem requestKeysFromTokens_flatten (positive : 0 < blockSize) (seed : UInt64)
    (blocks : List (List Int32)) (full : ∀ b ∈ blocks, b.length = blockSize.toNat) :
    requestKeysFromTokens seed blocks.flatten blockSize = chain seed blocks := by
  have cut := chunkTokens_flatten positive blocks [] full (by simpa using positive)
  rw [List.append_nil] at cut
  rw [requestKeysFromTokens, cut]

end Blocks

end KvIndexer.Residency
