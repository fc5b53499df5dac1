import KvIndexer.Config.Store
import KvIndexer.Lib.Keyed
import KvIndexer.Lib.Run

/-!
Whether a new meaning gets a new namespace.

Over a run of upserts and removals, the profiles stored for one model id should have
different namespaces when they hash differently, and versions that only go up. The
version rule sees the profile an upsert replaces, not those before it, and a version
the caller supplies is taken as it is. `namespacesFresh_iff` says for which runs it
works out all the same.
-/

namespace KvIndexer.Config

/-! ### Hash-affecting fields -/

/-- The fields `affectsHashNamespace` compares. -/
def ModelProfile.hashFields (p : ModelProfile) :=
  (p.framework, p.tokenizerEndpoint, p.tokenizerMode, p.chatTemplateSHA256, p.hashProfile,
    p.blockSize, p.hashSeed, p.supportsLoRA, p.supportsMultimodal, p.supportsCacheSalt)

theorem affectsHashNamespace_iff {old neu : ModelProfile} :
    affectsHashNamespace old neu = true ↔ old.hashFields ≠ neu.hashFields := by
  simp only [affectsHashNamespace, ModelProfile.hashFields, ne_eq, Prod.mk.injEq, decide_not,
    Bool.or_eq_true, Bool.not_eq_true', decide_eq_false_iff_not, not_and_or, or_assoc]

theorem affectsHashNamespace_eq_false_iff {old neu : ModelProfile} :
    affectsHashNamespace old neu = false ↔ old.hashFields = neu.hashFields := by
  rw [← Bool.not_eq_true, affectsHashNamespace_iff, not_not]

theorem ModelProfile.blockSize_of_hashFields {p q : ModelProfile}
    (same : p.hashFields = q.hashFields) :
    p.hashProfile = q.hashProfile ∧ p.blockSize = q.blockSize := by
  simp only [hashFields, Prod.mk.injEq] at same
  exact ⟨same.2.2.2.2.1, same.2.2.2.2.2.1⟩

/-- The version rule touches no hash-affecting field. -/
theorem hashFields_storedProfile (old : Option ModelProfile) (p : ModelProfile) :
    (storedProfile old p).hashFields = (normalizeModelProfile p).hashFields := by
  obtain ⟨v, same⟩ := applyVersionRule_eq old (normalizeModelProfile p)
  rw [storedProfile, same]
  rfl

theorem lt_add_one_of_ne_max {v : Int64} (notMax : v ≠ Int64.maxValue) : v < v + 1 := by
  have differs : v.toInt ≠ Int64.maxValue.toInt := fun same => notMax (Int64.toInt_inj.mp same)
  have max : Int64.maxValue.toInt = 2 ^ 63 - 1 := by decide
  have one : (1 : Int64).toInt = 1 := by decide
  have low := Int64.le_toInt v
  have high := Int64.toInt_lt v
  rw [Int64.lt_iff_toInt_lt, Int64.toInt_add, one, Int.bmod_eq_of_le (by omega) (by omega)]
  omega

/-! ### Runs of the store -/

/-- A profile mutation, at a time. -/
inductive Mutation where
  | upsert (now : Int) (p : ModelProfile)
  | remove (now : Int) (id : String)
deriving DecidableEq, Repr

def Store.mutate (s : Store) : Mutation → Store
  | .upsert now p => (s.upsertModelProfile now p).1
  | .remove now id => (s.removeModelProfile now id).1

/-- A mutation keeps profiles under their model id. -/
theorem keyed_mutate {s : Store} (keyed : s.profiles.Keyed ModelProfile.modelID) (m : Mutation) :
    (s.mutate m).profiles.Keyed ModelProfile.modelID := by
  cases m with
  | upsert now p =>
      rw [Store.mutate, Store.profiles_upsertModelProfile]
      exact keyed.insert (modelID_storedProfile _ p)
  | remove now id =>
      intro id' p found
      rw [Store.mutate, Store.lookup_removeModelProfile] at found
      split at found
      · cases found
      · exact keyed id' p found

/-- The store after a run from the empty one. -/
def afterMutations (ms : List Mutation) : Store := Run.run Store.mutate newStore ms

theorem afterMutations_concat (ms : List Mutation) (m : Mutation) :
    afterMutations (ms ++ [m]) = (afterMutations ms).mutate m :=
  Run.run_concat _ _ _ _

theorem modelID_of_lookup {ms : List Mutation} {id : String} {p : ModelProfile}
    (found : (afterMutations ms).profiles.lookup id = some p) : p.modelID = id := by
  have kept : ∀ (s : Store) (m : Mutation), True → s.profiles.Keyed ModelProfile.modelID →
      (s.mutate m).profiles.Keyed ModelProfile.modelID := fun _ m _ keyed => keyed_mutate keyed m
  have keyed : (afterMutations ms).profiles.Keyed ModelProfile.modelID :=
    Run.run_invariant kept GoMap.Keyed.empty (Run.eachStep_forall.mpr fun _ _ => trivial)
  exact keyed id p found

/-- `p` was stored for `id` at some time of the run. -/
def EverStored (ms : List Mutation) (id : String) (p : ModelProfile) : Prop :=
  ∃ pre post, ms = pre ++ post ∧ (afterMutations pre).profiles.lookup id = some p

theorem everStored_of_lookup {ms : List Mutation} {id : String} {p : ModelProfile}
    (found : (afterMutations ms).profiles.lookup id = some p) : EverStored ms id p :=
  ⟨ms, [], by simp, found⟩

theorem EverStored.modelID {ms : List Mutation} {id : String} {p : ModelProfile}
    (stored : EverStored ms id p) : p.modelID = id := by
  obtain ⟨pre, _, -, found⟩ := stored
  exact modelID_of_lookup found

theorem everStored_concat {ms : List Mutation} {m : Mutation} {id : String} {p : ModelProfile} :
    EverStored (ms ++ [m]) id p ↔
      EverStored ms id p ∨ (afterMutations (ms ++ [m])).profiles.lookup id = some p := by
  constructor
  · rintro ⟨pre, post, split, found⟩
    rcases Run.prefix_concat split with rfl | ⟨front, rfl⟩
    · exact Or.inr found
    · exact Or.inl ⟨pre, front, rfl, found⟩
  · rintro (⟨pre, post, rfl, found⟩ | found)
    · exact ⟨pre, post ++ [m], by simp, found⟩
    · exact everStored_of_lookup found

/-! ### Freshness -/

/-- A later profile of the model is told apart from an earlier one, and is of no lower
version. -/
def Succeeds (p q : ModelProfile) : Prop :=
  (affectsHashNamespace p q = true → p.namespace ≠ q.namespace) ∧ p.version ≤ q.version

/-- Each profile stored now succeeds all that were stored for its id before. -/
def FreshAt (ms : List Mutation) : Prop :=
  ∀ id q, (afterMutations ms).profiles.lookup id = some q →
    ∀ p, EverStored ms id p → Succeeds p q

/-- Of any two times of the run, the later profile of an id succeeds the earlier. -/
def NamespacesFresh (ms : List Mutation) : Prop := ∀ pre post, ms = pre ++ post → FreshAt pre

/-- The version an upsert of `p` stores when the id is free. -/
def firstVersion (p : ModelProfile) : Int64 := if p.version = 0 then 1 else p.version

/-- An upsert that keeps the namespaces of its id apart. A replacement with other
hash-affecting fields needs a next version; one with the same fields must not bring a
lower version; a re-creation must not go below the versions the id has had, nor repeat
one with other hash-affecting fields unless hash profile or block size differ. -/
def KeepsFresh (ms : List Mutation) : Mutation → Prop
  | .remove _ _ => True
  | .upsert _ p =>
      match (afterMutations ms).profiles.lookup p.modelID with
      | some old =>
          if affectsHashNamespace old (normalizeModelProfile p) then old.version ≠ Int64.maxValue
          else p.version = 0 ∨ old.version ≤ p.version
      | none =>
          ∀ q, EverStored ms p.modelID q →
            q.version ≤ firstVersion p ∧
              (q.version = firstVersion p →
                affectsHashNamespace q (normalizeModelProfile p) = true →
                q.hashProfile ≠ p.hashProfile ∨ q.blockSize ≠ p.blockSize)

/-! ### What an upsert stores -/

theorem version_normalizeModelProfile (p : ModelProfile) :
    (normalizeModelProfile p).version = p.version := by
  unfold normalizeModelProfile
  split
  · rfl
  · rfl

theorem hashProfile_normalizeModelProfile (p : ModelProfile) :
    (normalizeModelProfile p).hashProfile = p.hashProfile ∧
      (normalizeModelProfile p).blockSize = p.blockSize := by
  unfold normalizeModelProfile
  split
  · exact ⟨rfl, rfl⟩
  · exact ⟨rfl, rfl⟩

theorem version_storedProfile_none (p : ModelProfile) :
    (storedProfile none p).version = firstVersion p := by
  rw [storedProfile, applyVersionRule, firstVersion, ← version_normalizeModelProfile p]
  split
  · rfl
  · rfl

theorem version_storedProfile_some (old p : ModelProfile) :
    (storedProfile (some old) p).version =
      if affectsHashNamespace old (normalizeModelProfile p) then old.version + 1
      else if p.version = 0 then old.version else p.version := by
  rw [storedProfile, applyVersionRule, ← version_normalizeModelProfile p]
  split
  · rfl
  · split
    · rfl
    · rfl

/-! ### Succession -/

namespace Succeeds

variable {p q q' : ModelProfile}

theorem refl (p : ModelProfile) : Succeeds p p := by
  refine ⟨fun differs => ?_, Int64.le_refl _⟩
  rw [affectsHashNamespace_iff] at differs
  exact absurd rfl differs

/-- A higher version is enough. -/
theorem of_lt (model : p.modelID = q.modelID) (higher : p.version < q.version) : Succeeds p q := by
  refine ⟨fun _ same => ?_, Int64.le_of_lt higher⟩
  rw [(ModelProfile.namespace_inj model same).1] at higher
  exact Int64.lt_irrefl higher

/-- Succession does not depend on the other fields. -/
theorem congr (succeeds : Succeeds p q) (model : q.modelID = q'.modelID)
    (version : q.version = q'.version) (fields : q.hashFields = q'.hashFields) : Succeeds p q' := by
  obtain ⟨profile, size⟩ := ModelProfile.blockSize_of_hashFields fields
  refine ⟨fun differs => ?_, version ▸ succeeds.2⟩
  rw [← ModelProfile.namespace_congr model version profile size]
  refine succeeds.1 ?_
  rwa [affectsHashNamespace_iff, fields, ← affectsHashNamespace_iff]

end Succeeds

section Step

variable {ms : List Mutation}

/-- A profile created under a free id succeeds one that was stored there before, unless it
goes below its version or repeats it with other hash-affecting fields. -/
theorem succeeds_created_iff {p q : ModelProfile} (model : q.modelID = p.modelID) :
    Succeeds q (storedProfile none p) ↔
      q.version ≤ firstVersion p ∧
        (q.version = firstVersion p → affectsHashNamespace q (normalizeModelProfile p) = true →
          q.hashProfile ≠ p.hashProfile ∨ q.blockSize ≠ p.blockSize) := by
  obtain ⟨profile, size⟩ := hashProfile_normalizeModelProfile p
  have version := version_storedProfile_none p
  have fields := hashFields_storedProfile none p
  obtain ⟨profile', size'⟩ := ModelProfile.blockSize_of_hashFields fields
  have model' : q.modelID = (storedProfile none p).modelID := by
    rw [model, modelID_storedProfile]
  have differs : affectsHashNamespace q (storedProfile none p) =
      affectsHashNamespace q (normalizeModelProfile p) := by
    rw [Bool.eq_iff_iff, affectsHashNamespace_iff, affectsHashNamespace_iff, fields]
  rw [Succeeds, differs, version]
  constructor
  · rintro ⟨distinct, le⟩
    refine ⟨le, fun same affects => ?_⟩
    by_contra equal
    obtain ⟨sameProfile, sameSize⟩ := not_or.mp equal
    refine distinct affects (ModelProfile.namespace_congr model' (same.trans version.symm) ?_ ?_)
    · rw [profile', profile, not_not.mp sameProfile]
    · rw [size', size, not_not.mp sameSize]
  · rintro ⟨le, distinct⟩
    refine ⟨fun affects same => ?_, le⟩
    obtain ⟨sameVersion, sameProfile, sameSize⟩ := ModelProfile.namespace_inj model' same
    rcases distinct (sameVersion.trans version) affects with other | other
    · exact other (by rw [sameProfile, profile', profile])
    · exact other (by rw [sameSize, size', size])

section Replacement

variable {old p : ModelProfile}

/-- A replacement of a higher version succeeds all that was stored. -/
theorem succeeds_replaced_of_lt (fresh : FreshAt ms)
    (current : (afterMutations ms).profiles.lookup p.modelID = some old)
    (higher : old.version < (storedProfile (some old) p).version) :
    ∀ q, EverStored ms p.modelID q → Succeeds q (storedProfile (some old) p) := by
  intro q stored
  have model : q.modelID = (storedProfile (some old) p).modelID := by
    rw [stored.modelID, modelID_storedProfile]
  exact .of_lt model (Int64.lt_of_le_of_lt (fresh p.modelID old current q stored).2 higher)

/-- With other hash-affecting fields it needs a next version. -/
theorem succeeds_bumped_iff (fresh : FreshAt ms)
    (current : (afterMutations ms).profiles.lookup p.modelID = some old)
    (affects : affectsHashNamespace old (normalizeModelProfile p) = true) :
    (∀ q, EverStored ms p.modelID q → Succeeds q (storedProfile (some old) p)) ↔
      old.version ≠ Int64.maxValue := by
  have version := version_storedProfile_some old p
  rw [if_pos affects] at version
  constructor
  · intro succeeds isMax
    have le := (succeeds old (everStored_of_lookup current)).2
    rw [version, isMax] at le
    revert le
    decide
  · intro notMax
    exact succeeds_replaced_of_lt fresh current (version ▸ lt_add_one_of_ne_max notMax)

/-- With the same hash-affecting fields it must not bring a lower version. -/
theorem succeeds_kept_iff (fresh : FreshAt ms)
    (current : (afterMutations ms).profiles.lookup p.modelID = some old)
    (keeps : affectsHashNamespace old (normalizeModelProfile p) = false) :
    (∀ q, EverStored ms p.modelID q → Succeeds q (storedProfile (some old) p)) ↔
      p.version = 0 ∨ old.version ≤ p.version := by
  have version := version_storedProfile_some old p
  rw [if_neg (by rw [keeps]; exact Bool.false_ne_true)] at version
  constructor
  · intro succeeds
    refine or_iff_not_imp_left.mpr fun nonzero => ?_
    have le := (succeeds old (everStored_of_lookup current)).2
    rwa [version, if_neg nonzero] at le
  · intro le q stored
    by_cases kept : old.version = (storedProfile (some old) p).version
    · have model : old.modelID = (storedProfile (some old) p).modelID := by
        rw [(everStored_of_lookup current).modelID, modelID_storedProfile]
      have fields : old.hashFields = (storedProfile (some old) p).hashFields := by
        rw [hashFields_storedProfile]
        exact affectsHashNamespace_eq_false_iff.mp keeps
      exact (fresh p.modelID old current q stored).congr model kept fields
    · refine succeeds_replaced_of_lt fresh current ?_ q stored
      by_cases zero : p.version = 0
      · rw [if_pos zero] at version
        exact absurd version.symm kept
      · rw [if_neg zero] at version
        rw [version] at kept ⊢
        exact Int64.lt_of_le_of_ne (le.resolve_left zero) kept

end Replacement

/-- While the run is fresh, an upsert keeps it so exactly when what it stores succeeds
all that was stored for its id. -/
theorem keepsFresh_upsert_iff (fresh : FreshAt ms) (now : Int) (p : ModelProfile) :
    KeepsFresh ms (.upsert now p) ↔
      ∀ q, EverStored ms p.modelID q →
        Succeeds q (storedProfile ((afterMutations ms).profiles.lookup p.modelID) p) := by
  rw [KeepsFresh]
  cases current : (afterMutations ms).profiles.lookup p.modelID with
  | none =>
      refine forall_congr' fun q => forall_congr' fun stored => ?_
      exact (succeeds_created_iff stored.modelID).symm
  | some old =>
      dsimp only
      cases affects : affectsHashNamespace old (normalizeModelProfile p) with
      | true =>
          rw [if_pos rfl]
          exact (succeeds_bumped_iff fresh current affects).symm
      | false =>
          rw [if_neg Bool.false_ne_true]
          exact (succeeds_kept_iff fresh current affects).symm

/-- One mutation keeps a fresh run fresh exactly when it meets the condition. -/
theorem freshAt_concat_iff (fresh : FreshAt ms) (m : Mutation) :
    FreshAt (ms ++ [m]) ↔ KeepsFresh ms m := by
  -- a profile that the mutation leaves in place succeeds the others as before
  have unchanged : ∀ {id q}, (afterMutations (ms ++ [m])).profiles.lookup id = some q →
      (afterMutations ms).profiles.lookup id = some q →
      ∀ p, EverStored (ms ++ [m]) id p → Succeeds p q := by
    intro id q found before p stored
    rcases everStored_concat.mp stored with early | now
    · exact fresh id q before p early
    · obtain rfl : p = q := Option.some.inj (now.symm.trans found)
      exact .refl p
  cases m with
  | remove now id' =>
      refine iff_of_true (fun id q found => unchanged found ?_) trivial
      rw [afterMutations_concat, Store.mutate, Store.lookup_removeModelProfile] at found
      split at found
      · cases found
      · exact found
  | upsert now p₀ =>
      have reading : ∀ id, (afterMutations (ms ++ [.upsert now p₀])).profiles.lookup id =
          if id = p₀.modelID then
            some (storedProfile ((afterMutations ms).profiles.lookup p₀.modelID) p₀)
          else (afterMutations ms).profiles.lookup id := fun id => by
        rw [afterMutations_concat, Store.mutate, Store.lookup_upsertModelProfile]
      rw [keepsFresh_upsert_iff fresh]
      constructor
      · intro after q stored
        refine after p₀.modelID _ ?_ q (everStored_concat.mpr (Or.inl stored))
        rw [reading, if_pos rfl]
      · intro succeeds id q found p stored
        by_cases here : id = p₀.modelID
        · subst here
          rw [reading, if_pos rfl] at found
          obtain rfl := Option.some.inj found
          rcases everStored_concat.mp stored with early | last
          · exact succeeds p early
          · rw [reading, if_pos rfl] at last
            obtain rfl := Option.some.inj last
            exact .refl _
        · refine unchanged found ?_ p stored
          rwa [reading, if_neg here] at found

end Step

/-- A run keeps the namespaces of every id apart, and its versions from falling, exactly
when each of its mutations meets the condition. -/
theorem namespacesFresh_iff (ms : List Mutation) :
    NamespacesFresh ms ↔ ∀ pre m post, ms = pre ++ m :: post → KeepsFresh pre m := by
  constructor
  · rintro fresh pre m post rfl
    have before : FreshAt pre := fresh pre (m :: post) rfl
    exact (freshAt_concat_iff before m).mp (fresh (pre ++ [m]) post (by simp))
  · intro keeps pre
    induction pre using List.reverseRecOn with
    | nil =>
        intro post _ id q found
        cases found
    | append_singleton pre m ih =>
        rintro post rfl
        have before : FreshAt pre := ih (m :: post) (by simp)
        exact (freshAt_concat_iff before m).mpr (keeps pre m post (by simp))

/-- Profile `m`, removed and created again with another hash seed. -/
def reseeded : List Mutation :=
  [.upsert 0 { modelID := "m", hashSeed := "a" }, .remove 1 "m",
    .upsert 2 { modelID := "m", hashSeed := "b" }]

/-- The profile as stored under either seed. -/
def seededProfile (seed : String) : ModelProfile :=
  { modelID := "m", version := 1, tokenizerMode := TokenizerModeRemote, hashSeed := seed }

/-- Both stay at version 1 and share the namespace. -/
theorem not_namespacesFresh : ¬ ∀ ms, NamespacesFresh ms := by
  intro fresh
  have first : EverStored reseeded "m" (seededProfile "a") :=
    ⟨reseeded.take 1, reseeded.drop 1, rfl, by decide⟩
  have last : (afterMutations reseeded).profiles.lookup "m" = some (seededProfile "b") := by decide
  have succeeds : Succeeds (seededProfile "a") (seededProfile "b") :=
    fresh reseeded reseeded [] (List.append_nil _).symm "m" _ last _ first
  exact succeeds.1 (by decide) (by decide)

end KvIndexer.Config
