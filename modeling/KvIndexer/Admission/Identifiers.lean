import KvIndexer.Admission.Rules

/-!
Conditions on identifiers.

`valuesEqual` reads both sides as numbers, then as truth values, and compares texts last.
Two texts that differ are therefore equal when they read alike (`readAlike`), and a text
that spells a NaN is not equal to itself. A condition on the cluster, the model or the
tenant compares identifiers exactly when neither happens to the values it names
(`identifier_iff`).
-/

namespace KvIndexer.Admission

open Config

/-- The condition holds of the request and its hit. -/
def conditionHolds (platform : Platform) (r : Request) (hit : HitInfo) (cond : RuleCondition) :
    Bool :=
  match conditionValue r hit cond.field with
  | some actual => matchesCondition platform actual cond
  | none => false

theorem matchesRule_eq_all (platform : Platform) (r : Request) (hit : HitInfo) (rule : Policy) :
    matchesRule platform r hit rule = rule.conditions.all (conditionHolds platform r hit) := rfl

section Equality

variable (platform : Platform)

/-- The text and the value are one number or, if one of them is no number, one truth value. -/
def readAlike (s : String) (v : Value) : Bool :=
  match platform.parseFloat s, toFloat platform v with
  | some x, some y => x == y
  | _, _ =>
      match parseBool s, toBool v with
      | some p, some q => p == q
      | _, _ => false

/-- The text is a number that is not equal to itself. -/
def SpellsNaN (s : String) : Prop := ∃ x, platform.parseFloat s = some x ∧ (x == x) = false

variable {platform} {s : String} {v : Value}

/-- Of another text only what it reads as is compared. -/
theorem valuesEqual_of_ne (other : sprint platform v ≠ s) :
    valuesEqual platform (.string s) v = readAlike platform s v := by
  have texts : (sprint platform (.string s) == sprint platform v) = false :=
    beq_eq_false_iff_ne.mpr other.symm
  unfold valuesEqual readAlike
  rw [texts]
  rfl

/-- A text is equal to itself unless it spells a NaN. -/
theorem valuesEqual_self : valuesEqual platform (.string s) (.string s) = true ↔
    ¬ SpellsNaN platform s := by
  have number : toFloat platform (.string s) = platform.parseFloat s := rfl
  unfold valuesEqual SpellsNaN
  rw [number]
  cases platform.parseFloat s with
  | some x => simp
  | none =>
      cases toBool (.string s) with
      | some b => simp
      | none => simp

end Equality

/-! ### The conditions -/

/-- The fields that hold an identifier. -/
inductive IdentifierField
  | clusterID
  | modelID
  | tenantID

namespace IdentifierField

def field : IdentifierField → String
  | clusterID => ConditionFieldClusterID
  | modelID => ConditionFieldModelID
  | tenantID => ConditionFieldTenantID

def read (r : Request) : IdentifierField → String
  | clusterID => r.clusterID
  | modelID => r.modelID
  | tenantID => r.tenantID

theorem conditionValue_field (r : Request) (hit : HitInfo) (which : IdentifierField) :
    conditionValue r hit which.field = some (.string (which.read r)) := by
  cases which <;> rfl

end IdentifierField

/-- A comparison with the texts of a condition. -/
inductive IdentifierTest
  | eq (b : String)
  | neq (b : String)
  | isIn (bs : List String)
  | notIn (bs : List String)

namespace IdentifierTest

/-- The condition on a field that asks for the test. -/
def condition (field : String) : IdentifierTest → RuleCondition
  | eq b => ⟨field, ConditionOpEq, .string b⟩
  | neq b => ⟨field, ConditionOpNeq, .string b⟩
  | isIn bs => ⟨field, ConditionOpIn, .list (bs.map .string)⟩
  | notIn bs => ⟨field, ConditionOpNotIn, .list (bs.map .string)⟩

/-- What the test says of an identifier. -/
def Holds (a : String) : IdentifierTest → Prop
  | eq b => a = b
  | neq b => a ≠ b
  | isIn bs => a ∈ bs
  | notIn bs => a ∉ bs

/-- The texts the test names. -/
def names : IdentifierTest → List String
  | eq b | neq b => [b]
  | isIn bs | notIn bs => bs

end IdentifierTest

/-- Nothing hides whether `a` is among the names: if it is, it does not spell a NaN or
another name reads like it, and if it is not, no name reads like it. -/
def Unambiguous (platform : Platform) (a : String) (names : List String) : Prop :=
  (a ∈ names → SpellsNaN platform a → ∃ b ∈ names, b ≠ a ∧ readAlike platform a (.string b)) ∧
    (a ∉ names → ∀ b ∈ names, ¬ readAlike platform a (.string b))

section Tests

variable {platform : Platform} {a : String} {names : List String}

/-- Whether one of the names is equal to `a`, for the evaluation. -/
def amongNames (platform : Platform) (a : String) (names : List String) : Bool :=
  names.any fun b => valuesEqual platform (.string a) (.string b)

theorem amongNames_iff : amongNames platform a names = true ↔
    (a ∈ names ∧ ¬ SpellsNaN platform a) ∨
      ∃ b ∈ names, b ≠ a ∧ readAlike platform a (.string b) := by
  rw [amongNames, List.any_eq_true]
  constructor
  · rintro ⟨b, named, equal⟩
    by_cases same : b = a
    · subst same
      exact Or.inl ⟨named, valuesEqual_self.mp equal⟩
    · rw [valuesEqual_of_ne (v := .string b) same] at equal
      exact Or.inr ⟨b, named, same, equal⟩
  · rintro (⟨named, number⟩ | ⟨b, named, other, alike⟩)
    · exact ⟨a, named, valuesEqual_self.mpr number⟩
    · refine ⟨b, named, ?_⟩
      rw [valuesEqual_of_ne (v := .string b) other]
      exact alike

/-- The evaluation finds `a` exactly when it is named, if nothing hides it. -/
theorem amongNames_faithful :
    (amongNames platform a names = true ↔ a ∈ names) ↔ Unambiguous platform a names := by
  rw [amongNames_iff]
  constructor
  · intro faithful
    refine ⟨fun named spells => ?_, fun absent b named alike => ?_⟩
    · rcases faithful.mpr named with ⟨-, number⟩ | found
      · exact absurd spells number
      · exact found
    · have other : b ≠ a := by
        rintro rfl
        exact absent named
      exact absent (faithful.mp (Or.inr ⟨b, named, other, alike⟩))
  · rintro ⟨present, absent⟩
    constructor
    · rintro (⟨named, -⟩ | ⟨b, named, -, alike⟩)
      · exact named
      · by_contra missing
        exact absent missing b named alike
    · intro named
      by_cases spells : SpellsNaN platform a
      · exact Or.inr (present named spells)
      · exact Or.inl ⟨named, spells⟩

/-- Each test asks whether the identifier is among the names, or whether it is not. -/
theorem matchesCondition_test (field : String) (test : IdentifierTest) :
    matchesCondition platform (.string a) (test.condition field) =
      match test with
      | .eq b => amongNames platform a [b]
      | .neq b => !amongNames platform a [b]
      | .isIn bs => amongNames platform a bs
      | .notIn bs => !amongNames platform a bs := by
  have listed (bs : List String) : listContains platform (.list (bs.map .string)) (.string a) =
      amongNames platform a bs := by
    rw [listContains, List.any_map]
    rfl
  have single (b : String) : amongNames platform a [b] =
      valuesEqual platform (.string a) (.string b) := Bool.or_false _
  cases test with
  | eq b => exact (single b).symm
  | neq b => exact congrArg (!·) (single b).symm
  | isIn bs => exact listed bs
  | notIn bs => exact congrArg (!·) (listed bs)

/-- A condition on an identifier says what it means exactly when nothing hides whether the
identifier is among the names it gives. -/
theorem identifier_iff (platform : Platform) (r : Request) (hit : HitInfo)
    (which : IdentifierField) (test : IdentifierTest) :
    (conditionHolds platform r hit (test.condition which.field) = true ↔
        test.Holds (which.read r)) ↔
      Unambiguous platform (which.read r) test.names := by
  have holds : conditionHolds platform r hit (test.condition which.field) =
      matchesCondition platform (.string (which.read r)) (test.condition which.field) := by
    have field : (test.condition which.field).field = which.field := by
      cases test <;> rfl
    rw [conditionHolds, field, which.conditionValue_field]
  rw [holds, matchesCondition_test, ← amongNames_faithful]
  cases test with
  | eq b => simp only [IdentifierTest.Holds, IdentifierTest.names, List.mem_singleton]
  | neq b =>
      simp only [IdentifierTest.Holds, IdentifierTest.names, List.mem_singleton,
        Bool.not_eq_true', ← Bool.not_eq_true]
      exact not_iff_not
  | isIn bs => rfl
  | notIn bs =>
      simp only [IdentifierTest.Holds, IdentifierTest.names, Bool.not_eq_true',
        ← Bool.not_eq_true]
      exact not_iff_not

end Tests

/-- The tenants "t" and "T" are one to a condition, both being spellings of true. -/
theorem not_identifier : ¬ ∀ platform r hit (which : IdentifierField) (test : IdentifierTest),
    conditionHolds platform r hit (test.condition which.field) = true ↔
      test.Holds (which.read r) := by
  intro always
  have same : "t" = "T" :=
    (always .plain { tenantID := "t" } {} .tenantID (.eq "T")).mp (by decide)
  exact absurd same (by decide)

end KvIndexer.Admission
