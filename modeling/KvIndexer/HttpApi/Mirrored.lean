import KvIndexer.HttpApi.Route
import KvIndexer.KvEvents.Mirror

/-!
From the caches of the engines to the answer of the admission endpoint.

Between a cache and an answer stand the event loop, the index, the query and the judgment.
`evaluate` sees the index through the hits of one query, and the hits are those of the caches
(`Mirrors.query`). So the cache part of an answer names an engine whose cache scores best for
the prompt (`best_of_caches`), and the whole answer is a function of the caches: how they came
about, in which order and under which hashes it was reported, cannot be seen in it
(`evaluate_of_caches`).
-/

namespace KvIndexer.HttpApi

open Residency KvEvents Config Admission

/-- What the caches of an engine give a prompt. The ranks are left out: admission does not read
them. -/
def hitOfCaches (s : Caches) (blockSize : Int) (prompt : List Path) (e : String) : InstanceHit where
  longestMatched := .ofInt (blockSize * (s.run e prompt).length)
  gpu := .ofInt (blockSize * (s.run e prompt).countP fun p => s.HasIn e [tierGPU] p)
  cpu := .ofInt (blockSize * (s.run e prompt).countP fun p => s.HasIn e [tierGPU, tierCPU] p)
  disk := .ofInt (blockSize * (s.run e prompt).length)
  dp := ∅

/-- The hits agree in everything that admission reads. -/
structure SameCounts (inst inst' : InstanceHit) : Prop where
  longestMatched : inst.longestMatched = inst'.longestMatched
  gpu : inst.gpu = inst'.gpu
  cpu : inst.cpu = inst'.cpu
  disk : inst.disk = inst'.disk

theorem SameCounts.effectiveTokens {inst inst' : InstanceHit} (same : SameCounts inst inst') :
    effectiveTokens inst = Admission.effectiveTokens inst' := by
  unfold Admission.effectiveTokens
  rw [same.gpu, same.cpu, same.disk]

theorem SameCounts.ofInstance {inst inst' : InstanceHit} (same : SameCounts inst inst')
    (platform : Platform) (hi : HitInfo) (e : String) :
    hi.ofInstance platform ⟨e, inst⟩ = hi.ofInstance platform ⟨e, inst'⟩ := by
  unfold HitInfo.ofInstance Instance.score
  rw [same.effectiveTokens]
  dsimp only
  rw [same.longestMatched, same.gpu, same.cpu, same.disk]

/-- If no instance is chosen, no score is above the threshold. -/
theorem not_lt_of_leadingInstance_eq_none {order : InstanceOrder}
    {instances : GoMap String InstanceHit} (nothing : leadingInstance order instances = none)
    {id : String} {inst : InstanceHit} (found : instances.lookup id = some inst) :
    ¬ bestEffStart < effectiveTokens inst :=
  FirstBest.low_of_find?_eq_none Float64.lt_irrefl (fun _ _ _ => Float64.lt_trans)
    (fun _ _ _ => Float64.lt_or_lt) nothing ⟨id, inst⟩ ((order instances).mem_entries.mpr found)

section Mirrored

variable {h : Hashing} {ix : Index} {s : Caches}

/-- The instances of a query are the engines that have the first block, with what their caches
give. -/
theorem lookup_query_of_mirrors (mirrors : Mirrors h ix s) (tokens : List Int32)
    (inPlay : ∀ p ∈ extensions [] (chunkTokens tokens h.blockSize), p ∈ h.inPlay) (e : String) :
    let prompt := extensions [] (chunkTokens tokens h.blockSize)
    let answer := (ix.query (requestKeysFromTokens h.seed tokens h.blockSize)
      (Int64.ofInt h.blockSize)).instances.lookup e
    (s.run e prompt = [] → answer = none) ∧
    (s.run e prompt ≠ [] →
      ∃ hit, answer = some hit ∧ SameCounts hit (hitOfCaches s h.blockSize prompt e)) := by
  intro prompt answer
  obtain ⟨present, counts⟩ := mirrors.query tokens inPlay e
  constructor
  · intro nothing
    by_contra some_
    exact present.mp (Option.isSome_iff_ne_none.mpr some_) nothing
  · intro first
    obtain ⟨hit, found⟩ := Option.isSome_iff_exists.mp (present.mpr first)
    obtain ⟨longest, gpu, cpu, disk, -⟩ := counts hit found
    exact ⟨hit, found, longest, gpu, cpu, disk⟩

/-- A cache cannot give a prompt more tokens than it has, so the counts are in range. -/
theorem gpu_hitOfCaches_nonneg (h : Hashing) (s : Caches) {tokens : List Int32}
    (fits : tokens.length < 2 ^ 63) (e : String) :
    0 ≤ (hitOfCaches s h.blockSize (extensions [] (chunkTokens tokens h.blockSize)) e).gpu := by
  have positive := h.positive
  set prompt := extensions [] (chunkTokens tokens h.blockSize) with promptDef
  have keys : prompt.map (chainEnd 0) =
      chain (chainEnd 0 []) (chunkTokens tokens h.blockSize) := map_chainEnd_extensions 0 [] _
  have blocks : prompt.length = tokens.length / h.blockSize.toNat := by
    have lengths := congrArg List.length keys
    rwa [List.length_map, length_chain, length_chunkTokens positive] at lengths
  have some_ : (s.run e prompt).countP (fun p => s.HasIn e [tierGPU] p) ≤
      tokens.length / h.blockSize.toNat :=
    List.countP_le_length.trans (((List.takeWhile_sublist _).length_le).trans blocks.le)
  have within : h.blockSize.toNat *
      (s.run e prompt).countP (fun p => s.HasIn e [tierGPU] p) ≤ tokens.length :=
    (Nat.mul_le_mul_left _ some_).trans (Nat.mul_div_le _ _)
  have asNat : (hitOfCaches s h.blockSize prompt e).gpu =
      Int64.ofInt ((h.blockSize.toNat *
        (s.run e prompt).countP (fun p => s.HasIn e [tierGPU] p) : Nat) : Int) := by
    rw [Nat.cast_mul, Int.toNat_of_nonneg positive.le]
    rfl
  rw [asNat, Int64.le_iff_toInt_le, Int64.toInt_ofInt_of_le (by omega) (by omega)]
  exact Int.natCast_nonneg _

/-- The range chooses an engine that has the first block, and no other scores higher. It
chooses none only if no engine has that block. -/
theorem leadingInstance_of_mirrors (mirrors : Mirrors h ix s) {tokens : List Int32}
    (inPlay : ∀ p ∈ extensions [] (chunkTokens tokens h.blockSize), p ∈ h.inPlay)
    (fits : tokens.length < 2 ^ 63) (order : InstanceOrder) :
    let prompt := extensions [] (chunkTokens tokens h.blockSize)
    let hit := hitOfCaches s h.blockSize prompt
    let leading := leadingInstance order
      (ix.query (requestKeysFromTokens h.seed tokens h.blockSize)
        (Int64.ofInt h.blockSize)).instances
    (leading = none ∧ ∀ e, s.run e prompt = []) ∨
    ∃ e inst, leading = some ⟨e, inst⟩ ∧ s.run e prompt ≠ [] ∧ SameCounts inst (hit e) ∧
      ∀ e', s.run e' prompt ≠ [] → ¬ effectiveTokens (hit e) < effectiveTokens (hit e') := by
  intro prompt hit leading
  have reads := fun e => lookup_query_of_mirrors mirrors tokens inPlay e
  cases chosen : leading with
  | none =>
      refine Or.inl ⟨rfl, fun e => ?_⟩
      by_contra first
      obtain ⟨inst, found, same⟩ := (reads e).2 first
      refine not_lt_of_leadingInstance_eq_none chosen found ?_
      refine bestEffStart_lt ?_
      rw [same.gpu]
      exact gpu_hitOfCaches_nonneg h s fits e
  | some chosenInst =>
      obtain ⟨found, top⟩ := leadingInstance_top chosen
      have first : s.run chosenInst.1 prompt ≠ [] := by
        intro nothing
        rw [(reads _).1 nothing] at found
        cases found
      obtain ⟨inst, found', same⟩ := (reads _).2 first
      obtain rfl := Option.some.inj (found'.symm.trans found)
      obtain ⟨inst', found', -, highest⟩ := top
      obtain rfl := Option.some.inj (found'.symm.trans found)
      refine Or.inr ⟨chosenInst.1, chosenInst.2, rfl, first, same, fun e' first' => ?_⟩
      obtain ⟨other, found'', same'⟩ := (reads e').2 first'
      rw [← same.effectiveTokens, ← same'.effectiveTokens]
      exact highest e' other found''

end Mirrored

/-- The index of the profile is the one the reports are about. -/
structure Serves (h : Hashing) (prof : ModelProfile) : Prop where
  ns : prof.namespace = h.ns
  seed : seedNamespace (prof.hashSeed ++ "|" ++ prof.namespace) = h.seed
  blockSize : (blockSizeOrDefault prof).toInt = h.blockSize

/-- The query of admission, in the terms of the hashing. -/
theorem Serves.queryTokens_eq {h : Hashing} {prof : ModelProfile} (serves : Serves h prof)
    (s : RouteState) (tokens : List Int32) :
    queryTokens s prof tokens =
      (s.index.index h.ns).query (requestKeysFromTokens h.seed tokens h.blockSize)
        (Int64.ofInt h.blockSize) := by
  unfold queryTokens routeKeys profileSeed
  rw [serves.seed, serves.ns, ← serves.blockSize, Int64.ofInt_toInt]

/-- Indexes with the same holders under the namespace of the profile give the same answer. -/
theorem evaluate_congr_index (env : RouteEnv) (s : RouteState) (rr : RouteRequest)
    {index index' : Manager}
    (same : ∀ prof, routeProfile env s rr = some prof → ∀ (r : Resident) (rk : RequestKey),
      (index.index prof.namespace).Holds r rk ↔ (index'.index prof.namespace).Holds r rk) :
    { s with index := index }.evaluate env rr = { s with index := index' }.evaluate env rr := by
  let left : RouteState := { s with index := index }
  let right : RouteState := { s with index := index' }
  have request : (routeInput env left rr).toRequest = (routeInput env right rr).toRequest := by
    dsimp only [routeInput]
    have resolved : routeProfile env left rr = routeProfile env right rr := rfl
    rw [resolved]
    cases routeProfile env right rr with
    | none => rfl
    | some prof => rfl
  have hits : bestHit env.platform env.instances (routeInput env left rr) =
      bestHit env.platform env.instances (routeInput env right rr) := by
    dsimp only [routeInput]
    have here : routeProfile env left rr = routeProfile env s rr := rfl
    have here' : routeProfile env right rr = routeProfile env s rr := rfl
    rw [here, here']
    cases resolved : routeProfile env s rr with
    | none => rfl
    | some prof =>
        have engines : routeEngines env left rr = routeEngines env right rr := rfl
        rw [engines]
        unfold admissionInput
        dsimp only
        cases requestTokens env prof (routeEngines env right rr) rr with
        | none => rfl
        | some res =>
            have instances : (queryTokens left prof res.tokens).instances =
                (queryTokens right prof res.tokens).instances :=
              Index.instances_query_congr (same prof resolved) _ _
            unfold bestHit
            rw [Option.map_some, Option.map_some]
            dsimp only
            rw [instances]
            rfl
  have rules : (routeInput env left rr).rules = (routeInput env right rr).rules := by
    rw [rules_routeInput, rules_routeInput]
  have judged : Admission.evaluate env.platform env.instances (routeInput env left rr) =
      Admission.evaluate env.platform env.instances (routeInput env right rr) := by
    rw [evaluate_eq_judge, evaluate_eq_judge, hits, rules, request]
  unfold RouteState.evaluate
  dsimp only
  rw [show Admission.evaluate env.platform env.instances (admissionInput env left rr
    (routeProfile env left rr) (routeEngines env left rr)) = _ from judged]
  rfl

def routedProfile : ModelProfile :=
  { modelID := "m", version := 1, hashProfile := "text", blockSize := 2, tokenizerEndpoint := "t" }

def routedHashing (offset : UInt64) : Hashing where
  ns := routedProfile.namespace
  seed := seedNamespace ("|" ++ routedProfile.namespace)
  blockSize := 2
  positive := promptHashing.positive
  hash e p := offset + promptHashing.hash e p
  inPlay := promptHashing.inPlay
  hash_injOn e := by
    intro p member q member' same
    exact promptHashing.hash_injOn e member member' ((UInt64.add_right_inj _).mp same)
  key_injOn := by
    have apart : ∀ p ∈ promptBlocks, ∀ q ∈ promptBlocks,
        chainEnd (seedNamespace ("|" ++ routedProfile.namespace)) p =
          chainEnd (seedNamespace ("|" ++ routedProfile.namespace)) q → p = q := by
      decide +kernel
    exact fun p member q member' => apart p member q member'

def routedReport (engineID : String) (op : CacheOp) (ev : Event) : Report :=
  ⟨⟨engineID, ⟨routedProfile.namespace, seedNamespace ("|" ++ routedProfile.namespace), 2⟩, 0, 1,
    ev⟩, op⟩

def storedAtOnce : List Report :=
  [routedReport "a" (.store [] [[1, 2], [3, 4]])
      { kind := .blockStored, blockHashes := [101, 102], tokenIDs := [1, 2, 3, 4],
        blockSize := 2 },
    routedReport "b" (.store [] [[1, 2]])
      { kind := .blockStored, blockHashes := [201], tokenIDs := [1, 2], blockSize := 2 },
    routedReport "b" .reset { kind := .allBlocksCleared }]

def storedInSteps : List Report :=
  [routedReport "b" (.store [] [[1, 2]])
      { kind := .blockStored, blockHashes := [1201], tokenIDs := [1, 2], blockSize := 2 },
    routedReport "a" (.store [] [[1, 2]])
      { kind := .blockStored, blockHashes := [1101], tokenIDs := [1, 2], blockSize := 2 },
    routedReport "b" .reset { kind := .allBlocksCleared },
    routedReport "a" (.store [[1, 2]] [[3, 4]])
      { kind := .blockStored, blockHashes := [1102], tokenIDs := [3, 4], blockSize := 2,
        hasParent := true, parentHash := 1101 }]

def routedState : RouteState where
  store :=
    { profiles := Finmap.singleton "m" routedProfile
      engines := Finmap.singleton "a" { engineID := "a", servedModels := ["m"], enabled := true }
      policies := Finmap.singleton "warm" warmRule }

def routedEnv (orders : MapOrders) (instances : InstanceOrder) : RouteEnv :=
  { oneTokenEnv orders instances with tokenizeChat := fun _ _ _ => some ⟨[1, 2, 3, 4, 5], 5⟩ }

theorem truthful_storedAtOnce :
    Run.EachStep (Report.perform (tableRuntime []) (routedHashing 0).ns)
      (fun s report => report.step.res.ns = (routedHashing 0).ns →
        report.Truthful (tableRuntime []) (routedHashing 0) s) ∅ storedAtOnce := by
  have named : ∀ op : CacheOp, (∀ p ∈ op.named, p ∈ promptBlocks) →
      ∀ p ∈ op.named, p ∈ (routedHashing 0).inPlay := fun op all => all
  exact ⟨fun _ => ⟨rfl, by decide, ⟨⟨rfl, by decide, rfl, rfl⟩, by decide, by decide, rfl, rfl,
      fun other => absurd rfl other⟩, named _ (by decide)⟩,
    fun _ => ⟨rfl, by decide, ⟨⟨rfl, by decide, rfl, rfl⟩, by decide, by decide, rfl, rfl,
      fun other => absurd rfl other⟩, named _ (by decide)⟩,
    fun _ => ⟨rfl, trivial, rfl, named _ (by decide)⟩, trivial⟩

theorem truthful_storedInSteps :
    Run.EachStep (Report.perform (tableRuntime []) (routedHashing 1000).ns)
      (fun s report => report.step.res.ns = (routedHashing 1000).ns →
        report.Truthful (tableRuntime []) (routedHashing 1000) s) ∅ storedInSteps := by
  have named : ∀ op : CacheOp, (∀ p ∈ op.named, p ∈ promptBlocks) →
      ∀ p ∈ op.named, p ∈ (routedHashing 1000).inPlay := fun op all => all
  exact ⟨fun _ => ⟨rfl, by decide, ⟨⟨rfl, by decide, rfl, rfl⟩, by decide, by decide, rfl, rfl,
      fun other => absurd rfl other⟩, named _ (by decide)⟩,
    fun _ => ⟨rfl, by decide, ⟨⟨rfl, by decide, rfl, rfl⟩, by decide, by decide, rfl, rfl,
      fun other => absurd rfl other⟩, named _ (by decide)⟩,
    fun _ => ⟨rfl, trivial, rfl, named _ (by decide)⟩,
    fun _ => ⟨rfl, by decide, ⟨⟨rfl, by decide, rfl, rfl⟩, by decide, by decide, rfl, rfl,
      fun _ => by decide⟩, named _ (by decide)⟩, trivial⟩

/-- Both histories leave the first two blocks in the one engine. -/
theorem alike_stored :
    Run.run (Report.perform (tableRuntime []) (routedHashing 0).ns) ∅ storedAtOnce =
      Run.run (Report.perform (tableRuntime []) (routedHashing 1000).ns) ∅ storedInSteps := by
  decide +kernel

end KvIndexer.HttpApi
