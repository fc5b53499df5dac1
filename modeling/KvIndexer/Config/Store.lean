import KvIndexer.Config.Model
import KvIndexer.Lib.GoMap

/-!
The configuration store (`internal/config/store.go`), as far as model profiles go.

Every mutation bumps the store's version and appends an audit entry. Persisting is
left out: it does not feed back into the store. `resolveProfile` falls back to the
aliases by ranging over a map, so it takes the order of the range; `Resolves` is
what it can answer over all orders.
-/

namespace KvIndexer.Config

/-- The in-memory store. -/
structure Store where
  /-- keyed by model id: the current profile -/
  profiles : GoMap String ModelProfile := ∅
  version : Int64 := 0
  audit : List AuditEntry := []
deriving DecidableEq

/-- `NewStore` without persistence -/
def newStore : Store := {}

/-- `bump` at time `now` -/
def Store.bump (now : Int) (s : Store) (a : AuditEntry) : Store :=
  { s with
    version := s.version + 1
    audit := s.audit ++ [{ a with version := s.version + 1, timestamp := now }] }

/-- The profiles differ in a token/hash-affecting field. -/
def affectsHashNamespace (old neu : ModelProfile) : Bool :=
  old.framework ≠ neu.framework ||
    old.tokenizerEndpoint ≠ neu.tokenizerEndpoint ||
    old.tokenizerMode ≠ neu.tokenizerMode ||
    old.chatTemplateSHA256 ≠ neu.chatTemplateSHA256 ||
    old.hashProfile ≠ neu.hashProfile ||
    old.blockSize ≠ neu.blockSize ||
    old.hashSeed ≠ neu.hashSeed ||
    old.supportsLoRA ≠ neu.supportsLoRA ||
    old.supportsMultimodal ≠ neu.supportsMultimodal ||
    old.supportsCacheSalt ≠ neu.supportsCacheSalt

def normalizeModelProfile (p : ModelProfile) : ModelProfile :=
  if p.tokenizerMode = TokenizerModeLocal then { p with tokenizerEndpoint := "" }
  else { p with tokenizerMode := TokenizerModeRemote, chatTemplateSHA256 := "" }

/-- The version rule of an upsert: a profile that replaces one differing in a
hash-affecting field gets the successor of its version, and the flag; otherwise version
0 stands for the old version, or for 1. -/
def applyVersionRule (old : Option ModelProfile) (p : ModelProfile) : ModelProfile × Bool :=
  match old with
  | some old =>
      if affectsHashNamespace old p then ({ p with version := old.version + 1 }, true)
      else if p.version = 0 then ({ p with version := old.version }, false)
      else (p, false)
  | none => if p.version = 0 then ({ p with version := 1 }, false) else (p, false)

/-- Store a profile; the second component is the profile as stored. -/
def Store.upsertModelProfile (now : Int) (s : Store) (p : ModelProfile) : Store × ModelProfile :=
  let p := normalizeModelProfile p
  let (p, bump) := applyVersionRule (s.profiles.lookup p.modelID) p
  let s := { s with profiles := s.profiles.insert p.modelID p }
  (s.bump now
    { action := "upsert", entity := "model_profile", entityID := p.modelID, versionBump := bump
      detail := "version=" ++ toString p.version.toInt }, p)

def Store.removeModelProfile (now : Int) (s : Store) (id : String) : Store × Bool :=
  match s.profiles.lookup id with
  | none => (s, false)
  | some _ =>
      ({ s with profiles := s.profiles.erase id }.bump now
        { action := "remove", entity := "model_profile", entityID := id }, true)

/-- Find a profile by model id or, in the order of the range, by alias. -/
def Store.resolveProfile (s : Store) (order : s.profiles.Order) (model : String) :
    Option ModelProfile :=
  match s.profiles.lookup model with
  | some p => some p
  | none => (order.entries.map Sigma.snd).find? fun p => model ∈ p.aliases

/-! ### What they read and write -/

@[simp] theorem modelID_normalizeModelProfile (p : ModelProfile) :
    (normalizeModelProfile p).modelID = p.modelID := by
  unfold normalizeModelProfile
  split
  · rfl
  · rfl

/-- The version rule writes the version only. -/
theorem applyVersionRule_eq (old : Option ModelProfile) (p : ModelProfile) :
    ∃ v, (applyVersionRule old p).1 = { p with version := v } := by
  unfold applyVersionRule
  cases old with
  | none =>
      dsimp only
      split
      · exact ⟨1, rfl⟩
      · exact ⟨p.version, rfl⟩
  | some old =>
      dsimp only
      split
      · exact ⟨old.version + 1, rfl⟩
      · split
        · exact ⟨old.version, rfl⟩
        · exact ⟨p.version, rfl⟩

@[simp] theorem modelID_applyVersionRule (old : Option ModelProfile) (p : ModelProfile) :
    (applyVersionRule old p).1.modelID = p.modelID := by
  obtain ⟨v, same⟩ := applyVersionRule_eq old p
  rw [same]

/-- The profile an upsert of `p` puts in the place of `old`. -/
def storedProfile (old : Option ModelProfile) (p : ModelProfile) : ModelProfile :=
  (applyVersionRule old (normalizeModelProfile p)).1

@[simp] theorem modelID_storedProfile (old : Option ModelProfile) (p : ModelProfile) :
    (storedProfile old p).modelID = p.modelID := by
  rw [storedProfile, modelID_applyVersionRule, modelID_normalizeModelProfile]

@[simp] theorem aliases_normalizeModelProfile (p : ModelProfile) :
    (normalizeModelProfile p).aliases = p.aliases := by
  unfold normalizeModelProfile
  split
  · rfl
  · rfl

@[simp] theorem aliases_storedProfile (old : Option ModelProfile) (p : ModelProfile) :
    (storedProfile old p).aliases = p.aliases := by
  obtain ⟨v, same⟩ := applyVersionRule_eq old (normalizeModelProfile p)
  rw [storedProfile, same]
  exact aliases_normalizeModelProfile p

namespace Store

variable (now : Int) (s : Store)

theorem upsertModelProfile_snd (p : ModelProfile) :
    (s.upsertModelProfile now p).2 = storedProfile (s.profiles.lookup p.modelID) p := by
  rw [storedProfile, ← modelID_normalizeModelProfile p]
  rfl

theorem profiles_upsertModelProfile (p : ModelProfile) :
    (s.upsertModelProfile now p).1.profiles =
      s.profiles.insert p.modelID (storedProfile (s.profiles.lookup p.modelID) p) := by
  have inserted : (s.upsertModelProfile now p).1.profiles =
      s.profiles.insert (s.upsertModelProfile now p).2.modelID (s.upsertModelProfile now p).2 := rfl
  rw [inserted, upsertModelProfile_snd, modelID_storedProfile]

theorem lookup_upsertModelProfile (p : ModelProfile) (id : String) :
    (s.upsertModelProfile now p).1.profiles.lookup id =
      if id = p.modelID then some (storedProfile (s.profiles.lookup p.modelID) p)
      else s.profiles.lookup id := by
  rw [profiles_upsertModelProfile, GoMap.lookup_insert_eq]

theorem lookup_removeModelProfile (id id' : String) :
    (s.removeModelProfile now id).1.profiles.lookup id' =
      if id' = id then none else s.profiles.lookup id' := by
  unfold removeModelProfile
  cases found : s.profiles.lookup id with
  | none =>
      dsimp only
      split
      · rename_i same
        rw [same, found]
      · rfl
  | some p =>
      dsimp only [bump]
      rw [GoMap.lookup_erase_eq]

/-! ### Resolution -/

/-- `p` is a possible answer for `model`: its profile or, when there is none, one that
lists it as an alias. -/
def Resolves (model : String) (p : ModelProfile) : Prop :=
  s.profiles.lookup model = some p ∨
    (s.profiles.lookup model = none ∧ ∃ id, s.profiles.lookup id = some p ∧ model ∈ p.aliases)

/-- The possible answers are what some order of the range gives. -/
theorem resolves_iff {model : String} {p : ModelProfile} :
    s.Resolves model p ↔ ∃ order, s.resolveProfile order model = some p := by
  unfold Resolves resolveProfile
  cases found : s.profiles.lookup model with
  | some q =>
      simp only [reduceCtorEq, false_and, or_false]
      refine ⟨fun same => ?_, fun ⟨_, same⟩ => same⟩
      obtain ⟨order, -⟩ := GoMap.exists_order_head found
      exact ⟨order, same⟩
  | none =>
      simp only [reduceCtorEq, true_and, false_or]
      constructor
      · rintro ⟨id, here, listed⟩
        obtain ⟨order, rest, first⟩ := GoMap.exists_order_head here
        refine ⟨order, ?_⟩
        rw [first, List.map_cons, List.find?_cons_of_pos (by simpa using listed)]
      · rintro ⟨order, first⟩
        obtain ⟨⟨id, q⟩, member, rfl⟩ := List.mem_map.mp (List.mem_of_find?_eq_some first)
        exact ⟨id, order.mem_entries.mp member, by simpa using List.find?_some first⟩

/-- Without an answer in one order there is none in another. -/
theorem resolveProfile_eq_none {model : String} {order : s.profiles.Order}
    (unresolved : s.resolveProfile order model = none) (p : ModelProfile) :
    ¬ s.Resolves model p := by
  unfold resolveProfile at unresolved
  rintro (found | ⟨absent, id, found, listed⟩)
  · rw [found] at unresolved
    cases unresolved
  · rw [absent] at unresolved
    have none := List.find?_eq_none.mp unresolved p
      (List.mem_map.mpr ⟨⟨id, p⟩, order.mem_entries.mpr found, rfl⟩)
    exact none (by simpa using listed)

/-- After an upsert a model resolves to the stored profile, when it has its id or is without a
profile of its own and among its aliases, or to what it resolved to. -/
theorem resolves_of_upsert {now : Int} {p q : ModelProfile} {model : String}
    (resolves : (s.upsertModelProfile now p).1.Resolves model q) :
    ((model = p.modelID ∨ s.profiles.lookup model = none ∧ model ∈ p.aliases) ∧
        q = storedProfile (s.profiles.lookup p.modelID) p) ∨ s.Resolves model q := by
  unfold Resolves at resolves
  simp only [lookup_upsertModelProfile] at resolves
  rcases resolves with found | ⟨absent, id, found, listed⟩
  · split at found
    · rename_i own
      exact Or.inl ⟨Or.inl own, (Option.some.inj found).symm⟩
    · exact Or.inr (Or.inl found)
  · split at absent
    · cases absent
    · split at found
      · obtain rfl := Option.some.inj found
        rw [aliases_storedProfile] at listed
        exact Or.inl ⟨Or.inr ⟨absent, listed⟩, rfl⟩
      · exact Or.inr (Or.inr ⟨absent, id, found, listed⟩)

/-- The stored profile is what such a model resolves to. -/
theorem resolves_upsert {p : ModelProfile} {model : String}
    (named : model = p.modelID ∨ s.profiles.lookup model = none ∧ model ∈ p.aliases) :
    (s.upsertModelProfile now p).1.Resolves model
      (storedProfile (s.profiles.lookup p.modelID) p) := by
  have stored : (s.upsertModelProfile now p).1.profiles.lookup p.modelID =
      some (storedProfile (s.profiles.lookup p.modelID) p) := by
    rw [lookup_upsertModelProfile, if_pos rfl]
  by_cases own : model = p.modelID
  · exact Or.inl (own ▸ stored)
  · obtain ⟨absent, listed⟩ := named.resolve_left own
    refine Or.inr ⟨?_, p.modelID, stored, ?_⟩
    · rw [lookup_upsertModelProfile, if_neg own, absent]
    · rwa [aliases_storedProfile]

/-- After a removal a model resolves to what it resolved to or, when its own profile is the one
removed, to one that lists it. -/
theorem resolves_removeModelProfile {now : Int} {q : ModelProfile} {id model : String} :
    (s.removeModelProfile now id).1.Resolves model q ↔
      (model ≠ id ∧ (s.profiles.lookup model = some q ∨
          s.profiles.lookup model = none ∧
            ∃ id', id' ≠ id ∧ s.profiles.lookup id' = some q ∧ model ∈ q.aliases)) ∨
        (model = id ∧ ∃ id', id' ≠ id ∧ s.profiles.lookup id' = some q ∧ model ∈ q.aliases) := by
  unfold Resolves
  simp only [lookup_removeModelProfile]
  by_cases own : model = id
  · simp [own, ← and_assoc]
  · simp [own, ← and_assoc]

end Store

end KvIndexer.Config
