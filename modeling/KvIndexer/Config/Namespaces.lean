import KvIndexer.Config.Model
import KvIndexer.Residency.Keys

/-!
What a namespace string tells apart (`ModelProfile.Namespace`,
`internal/config/model.go`).

The string puts the model id, the version, the hash profile and the block size next
to each other with slashes between them, and the chain seed comes from that string
after the hash seed and a bar. Nothing is escaped. The block size can be read off the
end, but a model id may go on with what looks like a version and a hash profile, and
a hash seed with a bar. `toldApart_iff` says which pairs of profiles clash for that
reason.
-/

namespace KvIndexer.Config

namespace ModelProfile

/-- The version as the namespace writes it. -/
def versionTag (p : ModelProfile) : String := "/v" ++ itoa p.version.toInt

/-- What the namespace starts with, in the string the chain seed comes from. -/
def seededID (p : ModelProfile) : String := p.hashSeed ++ "|" ++ p.modelID

/-- The string the chain seed comes from. -/
def seedKey (p : ModelProfile) : String := p.hashSeed ++ "|" ++ p.namespace

end ModelProfile

/-! ### Two readings of one string -/

section Readings

variable {α : Type} {x : α} {front front' tag tag' rest rest' : List α}

/-- A tag is the separator and what follows it up to the next one. A front that goes on past
another front goes on past the whole tag after it. -/
theorem tag_prefix_of_longer {more : List α} (single : x ∉ tag) (longer : more ≠ [])
    (same : x :: tag ++ x :: rest = more ++ (x :: tag' ++ x :: rest')) :
    ∃ gap, more = x :: tag ++ gap ∧ x :: rest = gap ++ (x :: tag' ++ x :: rest') := by
  rcases List.append_eq_append_iff.mp same with ⟨gap, past, after⟩ | ⟨inside, within, after⟩
  · exact ⟨gap, past, after⟩
  · cases inside with
    | nil => exact ⟨[], by simpa using within.symm, by simpa using after.symm⟩
    | cons y inside =>
        obtain ⟨c, cs, rfl⟩ := List.exists_cons_of_ne_nil longer
        obtain rfl : x = y := (List.cons.inj after).1
        have inTag : tag = cs ++ x :: inside := (List.cons.inj within).2
        exact absurd (inTag ▸ List.mem_append_right cs List.mem_cons_self) single

/-- Two readings of one string agree, unless the front of one contains the tag of the
other. -/
theorem append_tag_eq_iff (single : x ∉ tag) (single' : x ∉ tag') :
    front ++ (x :: tag ++ x :: rest) = front' ++ (x :: tag' ++ x :: rest') ↔
      (front = front' ∧ tag = tag' ∧ rest = rest') ∨
      (∃ gap, front' = front ++ (x :: tag ++ gap) ∧
        x :: rest = gap ++ (x :: tag' ++ x :: rest')) ∨
      ∃ gap, front = front' ++ (x :: tag' ++ gap) ∧
        x :: rest' = gap ++ (x :: tag ++ x :: rest) := by
  constructor
  · intro same
    rcases List.append_eq_append_iff.mp same with ⟨more, past, after⟩ | ⟨more, past, after⟩
    · by_cases equal : more = []
      · subst equal
        rw [List.append_nil] at past
        obtain ⟨tags, rests⟩ :=
          append_cons_inj_of_first single single' (List.cons.inj after).2
        exact Or.inl ⟨past.symm, tags, rests⟩
      · obtain ⟨gap, rfl, split⟩ := tag_prefix_of_longer single equal after
        exact Or.inr (Or.inl ⟨gap, past, split⟩)
    · by_cases equal : more = []
      · subst equal
        rw [List.append_nil] at past
        obtain ⟨tags, rests⟩ :=
          append_cons_inj_of_first single' single (List.cons.inj after).2
        exact Or.inl ⟨past, tags.symm, rests.symm⟩
      · obtain ⟨gap, rfl, split⟩ := tag_prefix_of_longer single' equal after
        exact Or.inr (Or.inr ⟨gap, past, split⟩)
  · rintro (⟨rfl, rfl, rfl⟩ | ⟨gap, rfl, split⟩ | ⟨gap, rfl, split⟩)
    · rfl
    · rw [split]
      simp only [List.append_assoc, List.cons_append]
    · rw [split]
      simp only [List.append_assoc, List.cons_append]

/-- With one separator, two readings agree unless one front contains a separator. -/
theorem append_cons_eq_iff :
    front ++ x :: rest = front' ++ x :: rest' ↔
      (front = front' ∧ rest = rest') ∨
      (∃ gap, front' = front ++ x :: gap ∧ rest = gap ++ x :: rest') ∨
      ∃ gap, front = front' ++ x :: gap ∧ rest' = gap ++ x :: rest := by
  constructor
  · intro same
    rcases List.append_eq_append_iff.mp same with ⟨more, past, after⟩ | ⟨more, past, after⟩
    · cases more with
      | nil => exact Or.inl ⟨by simpa using past.symm, (List.cons.inj after).2⟩
      | cons y gap =>
          obtain ⟨rfl, split⟩ := List.cons.inj after
          exact Or.inr (Or.inl ⟨gap, past, split⟩)
    · cases more with
      | nil => exact Or.inl ⟨by simpa using past, (List.cons.inj after).2.symm⟩
      | cons y gap =>
          obtain ⟨rfl, split⟩ := List.cons.inj after
          exact Or.inr (Or.inr ⟨gap, past, split⟩)
  · rintro (⟨rfl, rfl⟩ | ⟨gap, rfl, rfl⟩ | ⟨gap, rfl, rfl⟩)
    · rfl
    · simp only [List.append_assoc, List.cons_append]
    · simp only [List.append_assoc, List.cons_append]

end Readings

/-! ### Profiles that clash -/

section Pair

variable (front : ModelProfile → String) (p q : ModelProfile)

/-- Where `p` has its version, `q` is still in its model id, and the hash profile of `p` holds
what `q` has from there on. -/
def Absorbs : Prop :=
  ∃ gap : String, front q = front p ++ p.versionTag ++ gap ∧
    "/" ++ p.hashProfile = gap ++ q.versionTag ++ "/" ++ q.hashProfile

/-- Where `p` has the bar, `q` is still in its hash seed, and the model id of `p` holds what
`q` has from there on. -/
def Shifts : Prop :=
  ∃ gap : String, q.hashSeed = p.hashSeed ++ "|" ++ gap ∧ p.modelID = gap ++ "|" ++ q.modelID

/-- The profiles differ in what the namespace is made of. -/
def NamespaceDiffers : Prop :=
  p.modelID ≠ q.modelID ∨ p.version ≠ q.version ∨ p.hashProfile ≠ q.hashProfile ∨
    p.blockSize ≠ q.blockSize

/-- Profiles that differ in the hash seed or in what the namespace is made of have different
seeds, and in the latter case different indexes. -/
def ToldApart : Prop :=
  (p.hashSeed ≠ q.hashSeed ∨ NamespaceDiffers p q → p.seedKey ≠ q.seedKey) ∧
    (NamespaceDiffers p q → p.namespace ≠ q.namespace)

/-- No model id, with or without its seed, contains the version of the other profile before
what its hash profile ends with, and no hash seed the bar of the other. -/
def Separable : Prop :=
  p.blockSize = q.blockSize →
    (¬ Absorbs ModelProfile.modelID p q ∧ ¬ Absorbs ModelProfile.modelID q p) ∧
    (¬ Absorbs ModelProfile.seededID p q ∧ ¬ Absorbs ModelProfile.seededID q p) ∧
    (p.version = q.version → p.hashProfile = q.hashProfile → ¬ Shifts p q ∧ ¬ Shifts q p)

end Pair

variable {p q : ModelProfile}

/-- Either string, front first. -/
def withFront (front : ModelProfile → String) (p : ModelProfile) : String :=
  front p ++ p.versionTag ++ "/" ++ p.hashProfile ++ "/" ++ itoa p.blockSize.toInt

theorem namespace_eq_withFront (p : ModelProfile) :
    p.namespace = withFront ModelProfile.modelID p := by
  simp only [ModelProfile.namespace, withFront, ModelProfile.versionTag, String.append_assoc]

theorem seedKey_eq_withFront (p : ModelProfile) :
    p.seedKey = withFront ModelProfile.seededID p := by
  simp only [ModelProfile.seedKey, ModelProfile.namespace, withFront, ModelProfile.versionTag,
    ModelProfile.seededID, String.append_assoc]

theorem toList_versionTag (p : ModelProfile) :
    p.versionTag.toList = '/' :: 'v' :: (itoa p.version.toInt).toList := by
  rw [ModelProfile.versionTag, String.toList_append]
  rfl

theorem slash_notMem_tag (p : ModelProfile) : '/' ∉ 'v' :: (itoa p.version.toInt).toList := by
  rintro (_ | ⟨_, inVersion⟩)
  exact slash_notMem_itoa _ inVersion

theorem absorbs_iff (front : ModelProfile → String) : Absorbs front p q ↔
    ∃ gap : List Char, (front q).toList = (front p).toList ++
        ('/' :: 'v' :: (itoa p.version.toInt).toList ++ gap) ∧
      '/' :: p.hashProfile.toList =
        gap ++ ('/' :: 'v' :: (itoa q.version.toInt).toList ++ '/' :: q.hashProfile.toList) := by
  have slash : "/".toList = ['/'] := rfl
  simp only [Absorbs, ← String.toList_inj, String.toList_append, toList_versionTag, slash,
    List.append_assoc, List.cons_append, List.nil_append]
  constructor
  · rintro ⟨gap, past, split⟩
    exact ⟨gap.toList, past, split⟩
  · rintro ⟨gap, past, split⟩
    refine ⟨String.ofList gap, ?_, ?_⟩
    · rw [String.toList_ofList]
      exact past
    · rw [String.toList_ofList]
      exact split

theorem shifts_iff : Shifts p q ↔
    ∃ gap : List Char, q.hashSeed.toList = p.hashSeed.toList ++ '|' :: gap ∧
      p.modelID.toList = gap ++ '|' :: q.modelID.toList := by
  have bar : "|".toList = ['|'] := rfl
  simp only [Shifts, ← String.toList_inj, String.toList_append, bar, List.append_assoc,
    List.cons_append, List.nil_append]
  constructor
  · rintro ⟨gap, past, split⟩
    exact ⟨gap.toList, past, split⟩
  · rintro ⟨gap, past, split⟩
    exact ⟨String.ofList gap, by rw [String.toList_ofList]; exact past,
      by rw [String.toList_ofList]; exact split⟩

/-- The strings of two profiles are equal exactly when the block sizes are and the profiles
agree in the rest or one absorbs the other. -/
theorem withFront_eq_iff (front : ModelProfile → String) :
    withFront front p = withFront front q ↔
      p.blockSize = q.blockSize ∧
        ((front p = front q ∧ p.version = q.version ∧ p.hashProfile = q.hashProfile) ∨
          Absorbs front p q ∨ Absorbs front q p) := by
  have chars : ∀ r : ModelProfile, (withFront front r).toList =
      ((front r).toList ++ ('/' :: 'v' :: (itoa r.version.toInt).toList ++
        '/' :: r.hashProfile.toList)) ++ '/' :: (itoa r.blockSize.toInt).toList := by
    intro r
    have slash : "/".toList = ['/'] := rfl
    simp only [withFront, String.toList_append, toList_versionTag, slash, List.append_assoc,
      List.cons_append, List.nil_append]
  have sizes : (itoa p.blockSize.toInt).toList = (itoa q.blockSize.toInt).toList ↔
      p.blockSize = q.blockSize := by
    rw [String.toList_inj]
    exact ⟨fun same => Int64.toInt_inj.mp (itoa_injective same), fun same => by rw [same]⟩
  have versions : 'v' :: (itoa p.version.toInt).toList = 'v' :: (itoa q.version.toInt).toList ↔
      p.version = q.version := by
    rw [List.cons_inj_right, String.toList_inj]
    exact ⟨fun same => Int64.toInt_inj.mp (itoa_injective same), fun same => by rw [same]⟩
  have last : (withFront front p).toList = (withFront front q).toList ↔
      (front p).toList ++ ('/' :: 'v' :: (itoa p.version.toInt).toList ++
          '/' :: p.hashProfile.toList) =
        (front q).toList ++ ('/' :: 'v' :: (itoa q.version.toInt).toList ++
          '/' :: q.hashProfile.toList) ∧ p.blockSize = q.blockSize := by
    rw [chars, chars, ← sizes]
    constructor
    · exact append_cons_inj_of_last (slash_notMem_itoa _) (slash_notMem_itoa _)
    · rintro ⟨fronts, backs⟩
      rw [fronts, backs]
  rw [← String.toList_inj, last, append_tag_eq_iff (slash_notMem_tag p) (slash_notMem_tag q),
    absorbs_iff, absorbs_iff, versions, String.toList_inj, String.toList_inj, and_comm]

/-- The seeded ids of two profiles are equal exactly when seeds and ids are, or one seed
shifts into the other's id. -/
theorem seededID_eq_iff : p.seededID = q.seededID ↔
    (p.hashSeed = q.hashSeed ∧ p.modelID = q.modelID) ∨ Shifts p q ∨ Shifts q p := by
  have bar : "|".toList = ['|'] := rfl
  rw [shifts_iff, shifts_iff, ← String.toList_inj]
  simp only [ModelProfile.seededID, String.toList_append, bar, List.append_assoc,
    List.cons_append, List.nil_append]
  rw [append_cons_eq_iff, String.toList_inj, String.toList_inj]

/-- A front that absorbs another profile's is longer. -/
theorem Absorbs.front_ne {front : ModelProfile → String} (absorbs : Absorbs front p q) :
    front p ≠ front q := by
  obtain ⟨gap, past, -⟩ := (absorbs_iff front).mp absorbs
  intro same
  have lengths := congrArg List.length past
  rw [same] at lengths
  simp at lengths

theorem Shifts.hashSeed_ne (shifts : Shifts p q) : p.hashSeed ≠ q.hashSeed := by
  obtain ⟨gap, past, -⟩ := shifts_iff.mp shifts
  intro same
  have lengths := congrArg List.length past
  rw [same] at lengths
  simp at lengths

/-- An absorbed profile differs in its front, so in the seed or the id. -/
theorem differs_of_seededID_ne (differ : p.seededID ≠ q.seededID) :
    p.hashSeed ≠ q.hashSeed ∨ NamespaceDiffers p q := by
  by_contra agree
  obtain ⟨seeds, rest⟩ := not_or.mp agree
  refine differ ?_
  rw [ModelProfile.seededID, ModelProfile.seededID, not_not.mp seeds,
    not_not.mp (not_or.mp rest).1]

/-- Two profiles are told apart by their strings exactly when neither absorbs nor shifts into
the other. -/
theorem toldApart_iff (p q : ModelProfile) : ToldApart p q ↔ Separable p q := by
  have sameNamespace := @withFront_eq_iff p q ModelProfile.modelID
  have sameSeed := @withFront_eq_iff p q ModelProfile.seededID
  rw [← namespace_eq_withFront, ← namespace_eq_withFront] at sameNamespace
  rw [← seedKey_eq_withFront, ← seedKey_eq_withFront, seededID_eq_iff] at sameSeed
  simp only [ToldApart, Separable, ne_eq, sameSeed, sameNamespace]
  constructor
  · rintro ⟨seeds, indexes⟩ size
    refine ⟨⟨fun absorbs => ?_, fun absorbs => ?_⟩, ⟨fun absorbs => ?_, fun absorbs => ?_⟩,
      fun version profile => ⟨fun shifts => ?_, fun shifts => ?_⟩⟩
    · exact indexes (Or.inl absorbs.front_ne) ⟨size, Or.inr (Or.inl absorbs)⟩
    · exact indexes (Or.inl absorbs.front_ne.symm) ⟨size, Or.inr (Or.inr absorbs)⟩
    · exact seeds (differs_of_seededID_ne absorbs.front_ne) ⟨size, Or.inr (Or.inl absorbs)⟩
    · exact seeds (differs_of_seededID_ne absorbs.front_ne.symm) ⟨size, Or.inr (Or.inr absorbs)⟩
    · exact seeds (Or.inl shifts.hashSeed_ne)
        ⟨size, Or.inl ⟨Or.inr (Or.inl shifts), version, profile⟩⟩
    · exact seeds (Or.inl shifts.hashSeed_ne.symm)
        ⟨size, Or.inl ⟨Or.inr (Or.inr shifts), version, profile⟩⟩
  · intro separable
    constructor
    · rintro differ ⟨size, same⟩
      obtain ⟨-, ⟨notLeft, notRight⟩, notShifted⟩ := separable size
      rcases same with ⟨ids, version, profile⟩ | absorbs | absorbs
      · obtain ⟨notLeft, notRight⟩ := notShifted version profile
        rcases ids with ⟨seed, model⟩ | shifts | shifts
        · rcases differ with other | other | other | other | other
          · exact other seed
          · exact other model
          · exact other version
          · exact other profile
          · exact other size
        · exact notLeft shifts
        · exact notRight shifts
      · exact notLeft absorbs
      · exact notRight absorbs
    · rintro differ ⟨size, same⟩
      obtain ⟨⟨notLeft, notRight⟩, -⟩ := separable size
      rcases same with ⟨model, version, profile⟩ | absorbs | absorbs
      · rcases differ with other | other | other | other
        · exact other model
        · exact other version
        · exact other profile
        · exact other size
      · exact notLeft absorbs
      · exact notRight absorbs

/-- `team/model` at version 1 with the hash profile `a/v2/text`, and `team/model/v1/a` at
version 2 with the hash profile `text`. -/
theorem not_toldApart : ¬ ∀ p q : ModelProfile, ToldApart p q := by
  intro apart
  have clash := (apart
    { modelID := "team/model", version := 1, hashProfile := "a/v2/text", blockSize := 16 }
    { modelID := "team/model/v1/a", version := 2, hashProfile := "text", blockSize := 16 }).2
  exact clash (Or.inl (by decide)) (by decide)

end KvIndexer.Config
