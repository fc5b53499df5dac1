import KvIndexer.Config.Freshness
import KvIndexer.Gateway.Target
import Mathlib.Data.List.Find

/-!
Resolving a model name in the store and in the gateway.

The store looks a name up as a model id and then ranges over a map for a profile that
lists it as an alias; the gateway searches the listed profiles, which are sorted. The two
agree, over every order of the range, exactly when a name that is no model id is an alias
of one profile at most (`agreed_iff`). Over runs of upserts and removals that is a
condition on each call (`agreed_run_iff`).
-/

namespace KvIndexer.Gateway

open Config

/-- The profiles a store with these tables lists. -/
def listedProfiles (orders : MapOrders) (s : Store) : List ModelProfile :=
  FullStore.listModelProfiles orders { toStore := s }

/-- The store answers one profile in every order of the range, and the gateway answers it
over the list. -/
structure Agreed (s : Store) (model : String) : Prop where
  deterministic : ∀ order order' : s.profiles.Order,
    s.resolveProfile order model = s.resolveProfile order' model
  shared : ∀ (order : s.profiles.Order) (orders : MapOrders),
    resolveProfile (listedProfiles orders s) model = s.resolveProfile order model

/-- A stored profile lists the name as an alias. -/
def Holds (s : Store) (model id : String) : Prop :=
  ∃ p, s.profiles.lookup id = some p ∧ model ∈ p.aliases

/-- The name is a model id, or an alias of one profile at most. -/
def OneMeaning (s : Store) (model : String) : Prop :=
  (∃ p, s.profiles.lookup model = some p) ∨
    ∀ id id', Holds s model id → Holds s model id' → id = id'

/-! ### One store -/

section Store

variable {s : Store} (keyed : s.profiles.Keyed ModelProfile.modelID) {model : String}

theorem mem_listedProfiles {orders : MapOrders} {p : ModelProfile} :
    p ∈ listedProfiles orders s ↔ ∃ id, s.profiles.lookup id = some p := by
  rw [listedProfiles, FullStore.listModelProfiles, SortSlice.mem_sort, GoMap.Order.mem_values]

/-- Two ranges visit the same profiles. -/
theorem values_perm (order order' : s.profiles.Order) : order.values.Perm order'.values := by
  have same : order.entries.Perm order'.entries :=
    Multiset.coe_eq_coe.mp (order.all.trans order'.all.symm)
  exact same.map Sigma.snd

/-- The list is the range, rearranged. -/
theorem listedProfiles_perm (orders : MapOrders) (order : s.profiles.Order) :
    (listedProfiles orders s).Perm order.values :=
  ((sortByID ModelProfile.modelID).perm _).trans (values_perm (orders.profiles s.profiles) order)

include keyed

/-- The gateway finds a stored model id. -/
theorem resolveProfile_of_modelID (orders : MapOrders) {p : ModelProfile}
    (found : s.profiles.lookup model = some p) :
    resolveProfile (listedProfiles orders s) model = some p := by
  have present : ((listedProfiles orders s).find? fun p => p.modelID = model).isSome := by
    refine List.find?_isSome.mpr ⟨p, mem_listedProfiles.mpr ⟨model, found⟩, ?_⟩
    exact decide_eq_true (keyed model p found)
  obtain ⟨q, here⟩ := Option.isSome_iff_exists.mp present
  obtain ⟨id, stored⟩ := mem_listedProfiles.mp (List.mem_of_find?_eq_some here)
  have named : q.modelID = model := by simpa using List.find?_some here
  rw [keyed id q stored] at named
  rw [named, found] at stored
  rw [resolveProfile, here, stored, Option.some_or]

theorem agreed_of_modelID {p : ModelProfile} (found : s.profiles.lookup model = some p) :
    Agreed s model := by
  have resolved (order : s.profiles.Order) : s.resolveProfile order model = some p := by
    rw [Store.resolveProfile, found]
  refine ⟨fun order order' => (resolved order).trans (resolved order').symm, ?_⟩
  exact fun order orders =>
    (resolveProfile_of_modelID keyed orders found).trans (resolved order).symm

/-- Of a name that is no model id, the answer is a profile that lists it. -/
theorem agreed_of_unique (absent : s.profiles.lookup model = none)
    (unique : ∀ id id', Holds s model id → Holds s model id' → id = id') : Agreed s model := by
  have one : {p ∈ {p | ∃ id, s.profiles.lookup id = some p} | model ∈ p.aliases}.Subsingleton := by
    rintro p ⟨⟨id, here⟩, listed⟩ q ⟨⟨id', here'⟩, listed'⟩
    obtain rfl := unique id id' ⟨p, here, listed⟩ ⟨q, here', listed'⟩
    exact Option.some.inj (here.symm.trans here')
  have resolved (order : s.profiles.Order) (profiles : List ModelProfile)
      (same : profiles.Perm order.values) :
      (profiles.find? fun p => model ∈ p.aliases) = s.resolveProfile order model := by
    rw [Store.resolveProfile, absent]
    refine List.find?_eq_find?_of_perm same (one.anti fun p => ?_)
    rintro ⟨member, listed⟩
    exact ⟨order.mem_values.mp (same.mem_iff.mp member), of_decide_eq_true listed⟩
  refine ⟨fun order order' => ?_, fun order orders => ?_⟩
  · rw [← resolved order _ (List.Perm.refl _), resolved order' _ (values_perm order order')]
  · have unnamed : (listedProfiles orders s).find? (fun p => p.modelID = model) = none := by
      refine List.find?_eq_none.mpr fun p member named => ?_
      obtain ⟨id, stored⟩ := mem_listedProfiles.mp member
      rw [← keyed id p stored, of_decide_eq_true named, absent] at stored
      cases stored
    rw [resolveProfile, unnamed, Option.none_or]
    exact resolved order _ (listedProfiles_perm orders order)

/-- Store and gateway agree on a name exactly when it means one profile. -/
theorem agreed_iff : Agreed s model ↔ OneMeaning s model := by
  constructor
  · intro agreed
    cases found : s.profiles.lookup model with
    | some p => exact Or.inl ⟨p, found⟩
    | none =>
        refine Or.inr fun id id' ⟨p, here, listed⟩ ⟨q, here', listed'⟩ => ?_
        obtain ⟨order, first⟩ := s.resolves_iff.mp (Or.inr ⟨found, id, here, listed⟩)
        obtain ⟨order', first'⟩ := s.resolves_iff.mp (Or.inr ⟨found, id', here', listed'⟩)
        have same := agreed.deterministic order order'
        rw [first, first'] at same
        rw [← keyed id p here, ← keyed id' q here', Option.some.inj same]
  · rintro (⟨p, found⟩ | unique)
    · exact agreed_of_modelID keyed found
    · cases found : s.profiles.lookup model with
      | some p => exact agreed_of_modelID keyed found
      | none => exact agreed_of_unique keyed found unique

end Store

/-! ### Runs of upserts and removals -/

/-- The call leaves every name with one meaning: an upsert lists, besides model ids, only
names that no other profile lists, and a removal takes no model id away that more than one
other profile lists. -/
def KeepsMeaning (s : Store) : Mutation → Prop
  | .upsert _ p => ∀ model ∈ p.aliases, model = p.modelID ∨ s.profiles.lookup model ≠ none ∨
      ∀ id, Holds s model id → id = p.modelID
  | .remove _ id => s.profiles.lookup id = none ∨
      ∀ id₁ id₂, id₁ ≠ id → id₂ ≠ id → Holds s id id₁ → Holds s id id₂ → id₁ = id₂

section Run

variable {s : Store}

theorem holds_upsert (now : Int) (p : ModelProfile) {model id : String} :
    Holds (s.mutate (.upsert now p)) model id ↔
      if id = p.modelID then model ∈ p.aliases else Holds s model id := by
  unfold Holds
  rw [Store.mutate, Store.lookup_upsertModelProfile]
  split
  · simp only [Option.some.injEq, exists_eq_left', aliases_storedProfile]
  · rfl

theorem holds_remove (now : Int) (removed : String) {model id : String} :
    Holds (s.mutate (.remove now removed)) model id ↔ id ≠ removed ∧ Holds s model id := by
  unfold Holds
  rw [Store.mutate, Store.lookup_removeModelProfile]
  split
  · rename_i same
    simp [same]
  · rename_i other
    simp [other]

/-- An upsert keeps one meaning for every name exactly when its aliases are new. -/
theorem oneMeaning_upsert (now : Int) (p : ModelProfile) (before : ∀ model, OneMeaning s model) :
    (∀ model, OneMeaning (s.mutate (.upsert now p)) model) ↔ KeepsMeaning s (.upsert now p) := by
  constructor
  · intro after model listed
    by_cases own : model = p.modelID
    · exact Or.inl own
    · refine Or.inr ?_
      by_contra! shared
      obtain ⟨absent, id, holds, other⟩ := shared
      rcases after model with ⟨q, found⟩ | unique
      · rw [Store.mutate, Store.lookup_upsertModelProfile, if_neg own, absent] at found
        cases found
      · refine other (unique id p.modelID (holds_upsert now p |>.mpr ?_)
          (holds_upsert now p |>.mpr ?_))
        · rwa [if_neg other]
        · rwa [if_pos rfl]
  · intro keeps model
    by_cases known : model = p.modelID ∨ ∃ q, s.profiles.lookup model = some q
    · refine Or.inl ?_
      rw [Store.mutate, Store.lookup_upsertModelProfile]
      split
      · exact ⟨_, rfl⟩
      · rename_i other
        exact known.resolve_left other
    · obtain ⟨other, absent⟩ := not_or.mp known
      have unique := (before model).resolve_left absent
      -- a profile that lists the name is the one upserted, or no other one lists it
      have only (listed : model ∈ p.aliases) (id : String) (holds : Holds s model id) :
          id = p.modelID := by
        rcases keeps model listed with own | stored | alone
        · exact absurd own other
        · exact absurd (Option.ne_none_iff_exists'.mp stored) absent
        · exact alone id holds
      refine Or.inr fun id id' holds holds' => ?_
      rw [holds_upsert] at holds holds'
      split at holds
      · rename_i here
        split at holds'
        · rename_i here'
          rw [here, here']
        · rw [here, only holds id' holds']
      · split at holds'
        · rename_i here'
          rw [here', only holds' id holds]
        · exact unique id id' holds holds'

/-- A removal does exactly when it uncovers no name that several profiles list. -/
theorem oneMeaning_remove (now : Int) (removed : String) (before : ∀ model, OneMeaning s model) :
    (∀ model, OneMeaning (s.mutate (.remove now removed)) model) ↔
      KeepsMeaning s (.remove now removed) := by
  constructor
  · intro after
    refine Or.inr fun id id' other other' holds holds' => ?_
    rcases after removed with ⟨q, found⟩ | unique
    · rw [Store.mutate, Store.lookup_removeModelProfile, if_pos rfl] at found
      cases found
    · exact unique id id' ((holds_remove now removed).mpr ⟨other, holds⟩)
        ((holds_remove now removed).mpr ⟨other', holds'⟩)
  · intro keeps model
    by_cases here : model = removed
    · subst here
      refine Or.inr fun id id' holds holds' => ?_
      obtain ⟨other, holds⟩ := (holds_remove now model).mp holds
      obtain ⟨other', holds'⟩ := (holds_remove now model).mp holds'
      rcases keeps with absent | unique
      · have one := (before model).resolve_left (by simp [absent])
        exact one id id' holds holds'
      · exact unique id id' other other' holds holds'
    · rcases before model with ⟨q, found⟩ | unique
      · refine Or.inl ⟨q, ?_⟩
        rw [Store.mutate, Store.lookup_removeModelProfile, if_neg here, found]
      · refine Or.inr fun id id' holds holds' => ?_
        exact unique id id' ((holds_remove now removed).mp holds).2
          ((holds_remove now removed).mp holds').2

/-- Store and gateway agree on every name throughout a run exactly when each call keeps one
meaning for every name. -/
theorem agreed_run_iff (ms : List Mutation) :
    (∀ pre post, ms = pre ++ post → ∀ model, Agreed (afterMutations pre) model) ↔
      Run.EachStep Store.mutate KeepsMeaning newStore ms := by
  have start : newStore.profiles.Keyed ModelProfile.modelID := GoMap.Keyed.empty
  have empty : ∀ model, OneMeaning newStore model := by
    refine fun model => Or.inr fun id _ holds => ?_
    obtain ⟨p, found, -⟩ := holds
    cases found
  have step (s : Store) (m : Mutation) (_ : s.profiles.Keyed ModelProfile.modelID)
      (before : ∀ model, OneMeaning s model) :
      (∀ model, OneMeaning (s.mutate m) model) ↔ KeepsMeaning s m := by
    cases m with
    | upsert now p => exact oneMeaning_upsert now p before
    | remove now id => exact oneMeaning_remove now id before
  rw [← Run.always_iff_eachStep (fun s m keyed => keyed_mutate keyed m) step start empty ms]
  refine forall₃_congr fun pre post _ => forall_congr' fun model => ?_
  exact agreed_iff fun id p found => modelID_of_lookup found

end Run

/-- Two profiles that list one alias. -/
def sharedAlias : List Mutation :=
  [.upsert 0 { modelID := "m", aliases := ["a"] }, .upsert 1 { modelID := "n", aliases := ["a"] }]

theorem not_agreed : ¬ ∀ ms model, Agreed (afterMutations ms) model := by
  intro always
  have keyed : (afterMutations sharedAlias).profiles.Keyed ModelProfile.modelID :=
    fun id p found => modelID_of_lookup found
  have absent : (afterMutations sharedAlias).profiles.lookup "a" = none := by decide
  have holds (id : String) (stored : ((afterMutations sharedAlias).profiles.lookup id).any
      (fun p => "a" ∈ p.aliases) = true) : Holds (afterMutations sharedAlias) "a" id := by
    obtain ⟨p, found, listed⟩ := (Option.any_eq_true _ _).mp stored
    exact ⟨p, found, of_decide_eq_true listed⟩
  rcases (agreed_iff keyed).mp (always sharedAlias "a") with ⟨p, found⟩ | unique
  · exact nomatch absent.symm.trans found
  · exact absurd (unique "m" "n" (holds "m" (by decide)) (holds "n" (by decide))) (by decide)

end KvIndexer.Gateway
