import KvIndexer.Admission.Replacement
import KvIndexer.Web.FormValues

/-!
Policies after they were opened in the editor and saved as they were.

`Editable` says what the form can hold of a policy, and `edited_policy_unchanged` that such
a policy evaluates as before. What it cannot hold is the absence of a part: a list without
conditions is opened with a condition of the form's own, so that a rule for every request
loses the short ones (`catchAll_changed`).
-/

namespace KvIndexer.Web

open Config Admission

/-! ### The list of conditions -/

/-- What is trimmed stays as it is. -/
theorem trim_trim (text : String) : trim (trim text) = trim text := by
  have inner (chars : List Char) :
      ((chars.dropWhile isSpace).rdropWhile isSpace).dropWhile isSpace =
        (chars.dropWhile isSpace).rdropWhile isSpace := by
    cases front : (chars.dropWhile isSpace).rdropWhile isSpace with
    | nil => rfl
    | cons c rest =>
        have shorter := List.rdropWhile_prefix isSpace (l := chars.dropWhile isSpace)
        rw [front] at shorter
        obtain ⟨back, whole⟩ := shorter
        have first : ¬ isSpace c = true := by
          have := List.head?_dropWhile_not isSpace chars
          rw [← whole] at this
          simpa using this
        rw [List.dropWhile_cons_of_neg first]
  show String.ofList (((String.ofList ((text.toList.dropWhile isSpace).rdropWhile
    isSpace)).toList.dropWhile isSpace).rdropWhile isSpace) = _
  rw [String.toList_ofList, inner, List.rdropWhile_idempotent]
  rfl

section Conditions

variable (platform : Platform) (browser : Browser)

/-- The form takes the condition for the policy's cluster, if it is the first such one. -/
def namesScope (c : RuleCondition) : Bool := isScope (draft browser (conditionJson c))

/-- The conditions of a policy after it was in the form. -/
def editedConditions (conditions : List RuleCondition) : List RuleCondition :=
  match conditions.find? (namesScope browser) with
  | none => conditions.map (edited browser)
  | some c =>
    ⟨"cluster_id", "eq", .string (trim (shown browser c))⟩ ::
      (conditions.eraseP (namesScope browser)).map (edited browser)

variable {platform browser} {r : Request} {hit : HitInfo} {conditions : List RuleCondition}

/-- Every condition that has a field is sent back. -/
theorem map_conditionFromDraft {drafts : List ConditionDraft}
    (source : drafts = conditions.map fun c => draft browser (conditionJson c))
    (named : ∀ c ∈ conditions, c.field ≠ "") :
    ((drafts.filter fun condition => condition.field ≠ "" && condition.op ≠ "").map
        (conditionFromDraft browser)).map conditionOfJson = conditions.map (edited browser) := by
  have sent : ∀ d ∈ drafts, (d.field ≠ "" && d.op ≠ "") = true := by
    intro d mem
    rw [source] at mem
    obtain ⟨c, listed, rfl⟩ := List.mem_map.mp mem
    rw [Bool.and_eq_true, decide_eq_true_eq, decide_eq_true_eq]
    exact ⟨named c listed, formOp_ne_empty c.op⟩
  rw [List.filter_eq_self.mpr sent, source, List.map_map, List.map_map]
  rfl

/-- The conditions that the API is sent. -/
theorem conditions_saved {f : PolicyFormState}
    (source : (f.scopeCluster, f.conditions) =
      extractScopeCluster (conditions.map fun c => draft browser (conditionJson c)))
    (named : ∀ c ∈ conditions, c.field ≠ "") :
    (conditionsFromForm browser f).map conditionOfJson = editedConditions browser conditions := by
  have first : (conditions.map fun c => draft browser (conditionJson c)).find? isScope =
      (conditions.find? (namesScope browser)).map fun c => draft browser (conditionJson c) :=
    List.find?_map
  have others : (conditions.map fun c => draft browser (conditionJson c)).eraseP isScope =
      (conditions.eraseP (namesScope browser)).map fun c => draft browser (conditionJson c) :=
    List.eraseP_map
  unfold extractScopeCluster at source
  unfold editedConditions conditionsFromForm
  rw [first] at source
  cases found : conditions.find? (namesScope browser) with
  | none =>
      rw [found] at source
      obtain ⟨cluster, drafts⟩ := Prod.mk.inj source
      rw [cluster, if_neg (by decide)]
      exact map_conditionFromDraft drafts named
  | some c =>
      rw [found, others] at source
      obtain ⟨cluster, drafts⟩ := Prod.mk.inj source
      have kept : ∀ c' ∈ conditions.eraseP (namesScope browser), c'.field ≠ "" := fun c' mem =>
        named c' (List.mem_of_mem_eraseP mem)
      have blank : trim (shown browser c) ≠ "" := by
        have holds := List.find?_some found
        simp only [namesScope, isScope, Bool.and_eq_true, decide_eq_true_eq] at holds
        exact holds.2
      have trimmed : trim f.scopeCluster = trim (shown browser c) := by
        rw [cluster]
        exact trim_trim _
      rw [trimmed, if_pos blank, List.map_cons, map_conditionFromDraft drafts kept]
      rfl

/-- The condition that the form takes for the cluster compares one cluster. -/
theorem of_namesScope {c : RuleCondition} (names : namesScope browser c = true) :
    c.field = ConditionFieldClusterID ∧ (c.op = "" ∨ c.op = ConditionOpEq) := by
  simp only [namesScope, isScope, Bool.and_eq_true, Bool.or_eq_true, decide_eq_true_eq] at names
  obtain ⟨⟨cluster, op⟩, -⟩ := names
  refine ⟨cluster, ?_⟩
  change formOp c.op = "" ∨ formOp c.op = "eq" at op
  unfold formOp at op
  split at op
  · exact Or.inl ‹_›
  · exact Or.inr (op.resolve_left ‹_›)

/-- It holds as before when the text without blanks reads as its value. -/
theorem holds_scope {c : RuleCondition} (names : namesScope browser c = true) {text : String}
    (reads : Reads platform browser ConditionFieldClusterID c.value text) :
    holds platform r hit ⟨"cluster_id", "eq", .string text⟩ = holds platform r hit c := by
  obtain ⟨field, op, v⟩ := c
  obtain ⟨rfl, equal⟩ := of_namesScope names
  have compares : matchesCondition platform (.string r.clusterID)
      ⟨ConditionFieldClusterID, op, v⟩ = valuesEqual platform (.string r.clusterID) v :=
    if_pos equal
  have same := @valuesEqual_reads platform browser r hit ConditionFieldClusterID text v
    (.string r.clusterID) reads rfl
  exact same.trans compares.symm

theorem all_edited {kept : List RuleCondition} (survive : ∀ c ∈ kept, Survives platform browser c) :
    (kept.map (edited browser)).all (holds platform r hit) = kept.all (holds platform r hit) := by
  induction kept with
  | nil => rfl
  | cons c kept ih =>
      rw [List.map_cons, List.all_cons, List.all_cons, holds_edited (survive c List.mem_cons_self),
        ih fun c' later => survive c' (List.mem_cons_of_mem c later)]

/-- The edited conditions hold together where the conditions do. -/
theorem all_editedConditions
    (scope : ∀ c, conditions.find? (namesScope browser) = some c →
      Reads platform browser ConditionFieldClusterID c.value (trim (shown browser c)))
    (survive : ∀ c ∈ conditions.eraseP (namesScope browser), Survives platform browser c) :
    (editedConditions browser conditions).all (holds platform r hit) =
      conditions.all (holds platform r hit) := by
  unfold editedConditions
  cases found : conditions.find? (namesScope browser) with
  | none =>
      rw [List.eraseP_of_forall_not (List.find?_eq_none.mp found)] at survive
      exact all_edited survive
  | some c =>
      obtain ⟨c', front, back, before, names, whole, erased⟩ :=
        List.exists_of_eraseP (List.mem_of_find?_eq_some found) (List.find?_some found)
      have first : conditions.find? (namesScope browser) = some c' := by
        rw [whole, List.find?_append, List.find?_eq_none.mpr before, List.find?_cons_of_pos names]
        rfl
      obtain rfl := Option.some.inj (found.symm.trans first)
      dsimp only
      rw [List.all_cons, all_edited survive, holds_scope names (scope c found), erased, whole,
        List.all_append, List.all_append, List.all_cons, Bool.and_left_comm]

end Conditions

/-! ### The action -/

section Action

variable (browser : Browser)

/-- The API reads back the integer that the page shows. -/
def Exact (n : Int64) : Prop := decodeInt (browser.ofNumber (float64 n)) = some n

instance (n : Int64) : Decidable (Exact browser n) := inferInstanceAs (Decidable (_ = _))

/-- The status that the form shows. -/
def formStatus (a : RuleAction) : Int64 := if a.rejectStatus = 0 then 429 else a.rejectStatus

/-- The page sends a status with the two types that it knows to read one. -/
def SendsStatus (a : RuleAction) : Prop := a.type = ActionRequireCacheHit ∨ a.type = ActionReject

/-- The action does not depend on the absence of a threshold, nor on a status that is not
sent. -/
structure KeepsAction (a : RuleAction) : Prop where
  threshold : a.type = ActionRequireCacheHit →
    ∃ ratio, a.minHitRatio = some ratio ∧ jsonNumber ratio = some ratio
  status : ¬ SendsStatus a → a.type ≠ "" → a.type ≠ ActionAccept → a.rejectStatusOrDefault = 429

variable {browser} {a : RuleAction}

theorem rejectStatus_of_json (a : RuleAction) :
    (actionJson a).rejectStatus.getD 429 = float64 (formStatus a) := by
  unfold actionJson formStatus
  dsimp only
  split
  · rfl
  · rfl

theorem rejectStatusOrDefault_formStatus (a : RuleAction) :
    (if formStatus a > 0 then formStatus a else 429) = a.rejectStatusOrDefault := by
  unfold formStatus RuleAction.rejectStatusOrDefault
  by_cases zero : a.rejectStatus = 0
  · rw [if_pos zero, zero]
    decide
  · rw [if_neg zero]

theorem getD_nonempty (text other : String) :
    (nonempty text).getD other = if text = "" then other else text := by
  unfold nonempty
  split <;> rfl

/-- Actions act alike when what they read is alike. -/
theorem applyAction_congr_fields {b : RuleAction} (type : b.typeOrDefault = a.typeOrDefault)
    (status : b.rejectStatusOrDefault = a.rejectStatusOrDefault)
    (ratio : b.minHitRatioOrDefault = a.minHitRatioOrDefault)
    (low : b.onLowHitOrDefault = a.onLowHitOrDefault)
    (uncertain : b.onUncertainOrDefault = a.onUncertainOrDefault) (r : Request) (res : Result) :
    applyAction r res b = applyAction r res a := by
  unfold applyAction
  rw [type, status, ratio, low, uncertain]

theorem applyAction_of_reject (rejects : a.type = ActionReject) (r : Request) (res : Result) :
    applyAction r res a = Admission.reject res .ruleRejected a.rejectStatusOrDefault := by
  have type : a.typeOrDefault = ActionReject := by
    rw [RuleAction.typeOrDefault, rejects]
    rfl
  rw [applyAction, type, if_neg actions_distinct.1, if_pos rfl]

/-- Of the other types only the status is read, and only of one that is not known. -/
theorem applyAction_of_other (notRequire : a.type ≠ ActionRequireCacheHit)
    (notReject : a.type ≠ ActionReject) (r : Request) (res : Result) :
    applyAction r res a =
      if a.type = "" ∨ a.type = ActionAccept then Admission.accept res .ruleAccepted false
      else Admission.reject res .unknownAction a.rejectStatusOrDefault := by
  unfold applyAction RuleAction.typeOrDefault
  by_cases missing : a.type = ""
  · rw [if_pos missing, if_pos rfl, if_pos (Or.inl missing)]
  · rw [if_neg missing, if_neg notReject, if_neg notRequire]
    by_cases accepts : a.type = ActionAccept
    · rw [if_pos accepts, if_pos (Or.inr accepts)]
    · rw [if_neg accepts, if_neg (not_or.mpr ⟨missing, accepts⟩)]

/-- The form holds the action, with a value for everything that is missing. -/
structure HoldsAction (f : PolicyFormState) (a : RuleAction) : Prop where
  type : f.actionType = a.type
  ratio : f.minHitRatio = a.minHitRatio.getD 0.5
  low : f.onLowHit = if a.onLowHit = "" then "reject" else a.onLowHit
  uncertain : f.onUncertain = if a.onUncertain = "" then "fallback_accept" else a.onUncertain
  status : f.rejectStatus = float64 (formStatus a)

/-- The action is saved if its status is, and if it is kept it acts as before. -/
theorem action_saved {f : PolicyFormState} (form : HoldsAction f a)
    (sent : SendsStatus a → Exact browser (formStatus a)) :
    ∃ b, actionOfJson browser (actionFromForm f) = some b ∧
      (KeepsAction a → ∀ r res, applyAction r res b = applyAction r res a) := by
  have status (sends : SendsStatus a) :
      intOfJson browser (some f.rejectStatus) = some (formStatus a) := by
    rw [form.status]
    exact sent sends
  by_cases requires : a.type = ActionRequireCacheHit
  · have payload : actionFromForm f =
        ⟨f.actionType, some f.minHitRatio, some f.onLowHit, some f.onUncertain,
          some f.rejectStatus⟩ := if_pos (form.type.trans requires)
    refine ⟨⟨f.actionType, jsonNumber f.minHitRatio, f.onLowHit, f.onUncertain, formStatus a⟩, ?_,
      fun kept => ?_⟩
    · rw [payload]
      simp only [actionOfJson, status (Or.inl requires), Option.bind_some, Option.bind_eq_bind,
        Option.getD_some]
      rfl
    · obtain ⟨ratio, given, number⟩ := kept.threshold requires
      have threshold : f.minHitRatio = ratio := by rw [form.ratio, given, Option.getD_some]
      refine applyAction_congr_fields ?_ (rejectStatusOrDefault_formStatus a) ?_ ?_ ?_
      · simp only [RuleAction.typeOrDefault, form.type]
      · simp only [RuleAction.minHitRatioOrDefault, threshold, number, given]
      · simp only [RuleAction.onLowHitOrDefault, form.low, RuleOutcomeReject]
        split_ifs <;> simp_all
      · simp only [RuleAction.onUncertainOrDefault, form.uncertain, RuleOutcomeFallbackAccept]
        split_ifs <;> simp_all
  by_cases rejects : a.type = ActionReject
  · have payload : actionFromForm f = ⟨f.actionType, none, none, none, some f.rejectStatus⟩ :=
      (if_neg fun same => requires (form.type.symm.trans same)).trans
        (if_pos (form.type.trans rejects))
    refine ⟨⟨f.actionType, none, "", "", formStatus a⟩, ?_, fun _ r res => ?_⟩
    · rw [payload]
      simp only [actionOfJson, status (Or.inr rejects), Option.bind_none, Option.getD_none,
        Option.bind_eq_bind, Option.bind_some]
      rfl
    · rw [applyAction_of_reject (form.type.trans rejects), applyAction_of_reject rejects]
      exact congrArg (Admission.reject res .ruleRejected) (rejectStatusOrDefault_formStatus a)
  · have payload : actionFromForm f = ⟨f.actionType, none, none, none, none⟩ :=
      (if_neg fun same => requires (form.type.symm.trans same)).trans
        (if_neg fun same => rejects (form.type.symm.trans same))
    refine ⟨⟨f.actionType, none, "", "", 0⟩, ?_, fun kept r res => ?_⟩
    · rw [payload]
      rfl
    · have same := form.type
      rw [applyAction_of_other (by rwa [same]) (by rwa [same]),
        applyAction_of_other requires rejects, same]
      by_cases accepts : a.type = "" ∨ a.type = ActionAccept
      · rw [if_pos accepts, if_pos accepts]
      · obtain ⟨given, notAccept⟩ := not_or.mp accepts
        rw [if_neg accepts, if_neg accepts,
          kept.status (not_or.mpr ⟨requires, rejects⟩) given notAccept]
        rfl

end Action

/-! ### The policy -/

section Policies

variable (platform : Platform) (browser : Browser)

/-- The rule decides nothing, in the form as before: it is skipped, or one of its conditions
holds of no request. -/
def Dormant (p : Policy) : Prop :=
  Skipped p ∨ ∃ c ∈ p.conditions, c.field ≠ "" ∧ Dead c.field c.op

/-- The rule has conditions, all of which name a field and survive the form, and its action is
kept. -/
structure KeepsRule (p : Policy) : Prop where
  conditions : p.conditions ≠ []
  named : ∀ c ∈ p.conditions, c.field ≠ ""
  scope : ∀ c, p.conditions.find? (namesScope browser) = some c →
    Reads platform browser ConditionFieldClusterID c.value (trim (shown browser c))
  survive : ∀ c ∈ p.conditions.eraseP (namesScope browser), Survives platform browser c
  action : KeepsAction p.action

/-- The form holds the policy: its integers, and its rule if that can decide anything. -/
structure Editable (p : Policy) : Prop where
  priority : Exact browser p.priority
  status : SendsStatus p.action → Exact browser (formStatus p.action)
  rule : Dormant p ∨ KeepsRule platform browser p

/-- What is sure of a policy that is saved. -/
structure SavedAs (cluster : String) (p q : Policy) : Prop where
  ruleID : q.ruleID = p.ruleID
  priority : q.priority = p.priority
  displayName : q.displayName = p.displayName
  isEnabled : q.isEnabled = p.isEnabled
  conditions : q.conditions = (conditionsFromForm browser
    (formStateFromPolicy browser (some (policyJson p)) cluster)).map conditionOfJson
  action : KeepsAction p.action → ∀ r res, applyAction r res q.action = applyAction r res p.action

variable {platform browser} {p : Policy} {cluster : String}

/-- The page can save a policy whose integers it shows. -/
theorem exists_saved (exactPriority : Exact browser p.priority)
    (exactStatus : SendsStatus p.action → Exact browser (formStatus p.action)) (cluster : String) :
    ∃ q, saved browser cluster p = some q ∧ SavedAs browser cluster p q := by
  generalize form : formStateFromPolicy browser (some (policyJson p)) cluster = f
  have holdsAction : HoldsAction f p.action := by
    rw [← form]
    exact ⟨rfl, rfl, getD_nonempty _ _, getD_nonempty _ _, rejectStatus_of_json _⟩
  obtain ⟨b, action, acts⟩ := action_saved holdsAction exactStatus
  have name : f.name = p.name := by
    rw [← form]
    exact (getD_nonempty p.name "").trans (by split <;> simp_all)
  have sentName : (nonempty f.name).getD "" = f.name := by
    rw [getD_nonempty]
    split <;> simp_all
  have priority : intOfJson browser (some f.priority) = some p.priority := by
    rw [← form]
    exact exactPriority
  have same : f.ruleID = p.ruleID ∧ f.enabled = p.isEnabled := by
    rw [← form]
    refine ⟨rfl, ?_⟩
    show decide (p.enabled ≠ some false) = p.enabled.getD true
    rcases p.enabled with _ | _ | _ <;> rfl
  refine ⟨⟨f.ruleID, f.name, p.priority, (conditionsFromForm browser f).map conditionOfJson, b,
    some f.enabled⟩, ?_, same.1, rfl, ?_, same.2, by rw [form], acts⟩
  · rw [saved, form]
    simp only [policyOfJson, payloadFromForm, priority, action, Option.bind_eq_bind,
      Option.bind_some, Option.getD_some, sentName]
    rfl
  · rw [Policy.displayName, Policy.displayName, name, same.1]

/-- What the form lists with a field is sent. -/
theorem mem_conditionsFromForm {f : PolicyFormState} {d : ConditionDraft}
    (listed : d ∈ f.conditions) (named : (d.field ≠ "" && d.op ≠ "") = true) :
    conditionFromDraft browser d ∈ conditionsFromForm browser f := by
  have kept : conditionFromDraft browser d ∈
      (f.conditions.filter fun condition => condition.field ≠ "" && condition.op ≠ "").map
        (conditionFromDraft browser) :=
    List.mem_map_of_mem (List.mem_filter.mpr ⟨listed, named⟩)
  unfold conditionsFromForm
  dsimp only
  split
  · exact List.mem_cons_of_mem _ kept
  · exact kept

/-- Only a condition on one cluster leaves the list of the form. -/
theorem mem_extractScopeCluster {drafts : List ConditionDraft} {d : ConditionDraft}
    (mem : d ∈ drafts) (other : ¬ isScope d = true) : d ∈ (extractScopeCluster drafts).2 := by
  unfold extractScopeCluster
  split
  · exact mem
  · exact (List.mem_eraseP_of_neg other).mpr mem

/-- The list of a policy with conditions. -/
theorem form_of_conditions (some_ : p.conditions ≠ []) :
    ((formStateFromPolicy browser (some (policyJson p)) cluster).scopeCluster,
        (formStateFromPolicy browser (some (policyJson p)) cluster).conditions) =
      extractScopeCluster (p.conditions.map fun c => draft browser (conditionJson c)) := by
  have source : (policyJson p).conditions = some (p.conditions.map conditionJson) := if_neg some_
  simp only [formStateFromPolicy, Option.bind_some, source, List.map_map]
  rfl

/-- A condition that holds of no request is sent back as one. -/
theorem dead_saved {c : RuleCondition} (listed : c ∈ p.conditions) (named : c.field ≠ "")
    (dead : Dead c.field c.op) {r : Request} {hit : HitInfo} {q : Policy}
    (save : SavedAs browser cluster p q) : matchesRule platform r hit q = false := by
  have notScope : ¬ isScope (draft browser (conditionJson c)) = true := by
    intro names
    obtain ⟨field, op⟩ := @of_namesScope browser c names
    rw [field] at dead
    rcases dead with unknown | unknown | ⟨boolean, -⟩
    · exact unknown (by decide)
    · rcases op with missing | equal
      · exact unknown (missing ▸ by decide)
      · exact unknown (equal ▸ by decide)
    · exact absurd boolean (by decide)
  have drafts : (formStateFromPolicy browser (some (policyJson p)) cluster).conditions =
      (extractScopeCluster (p.conditions.map fun c => draft browser (conditionJson c))).2 :=
    congrArg Prod.snd (form_of_conditions (List.ne_nil_of_mem listed))
  have held : draft browser (conditionJson c) ∈
      (formStateFromPolicy browser (some (policyJson p)) cluster).conditions := by
    rw [drafts]
    exact mem_extractScopeCluster (List.mem_map_of_mem listed) notScope
  have sent : edited browser c ∈ q.conditions := by
    rw [save.conditions]
    refine List.mem_map_of_mem (mem_conditionsFromForm held ?_)
    rw [Bool.and_eq_true, decide_eq_true_eq, decide_eq_true_eq]
    exact ⟨named, formOp_ne_empty c.op⟩
  refine List.all_eq_false.mpr ⟨_, sent, ?_⟩
  show ¬ holds platform r hit ⟨c.field, formOp c.op, _⟩ = true
  rw [holds_dead (dead_formOp dead)]
  decide

/-- A policy that the form holds is saved as one that evaluates alike. -/
theorem saved_interchangeable (editable : Editable platform browser p) (cluster : String) :
    ∃ q, saved browser cluster p = some q ∧ Interchangeable platform p q := by
  obtain ⟨q, save, same⟩ := exists_saved editable.priority editable.status cluster
  refine ⟨q, save, same.ruleID, same.priority, same.displayName, same.isEnabled, ?_, ?_⟩
  · intro live r hit
    rcases editable.rule with (skipped | ⟨c, listed, named, dead⟩) | keeps
    · exact absurd skipped live
    · rw [dead_saved listed named dead same]
      refine (List.all_eq_false.mpr ⟨c, listed, ?_⟩).symm
      show ¬ holds platform r hit ⟨c.field, c.op, c.value⟩ = true
      rw [holds_dead dead]
      decide
    · show q.conditions.all (holds platform r hit) = p.conditions.all (holds platform r hit)
      rw [same.conditions, conditions_saved (form_of_conditions keeps.conditions) keeps.named]
      exact all_editedConditions keeps.scope keeps.survive
  · intro live r hit matching res
    rcases editable.rule with (skipped | ⟨c, listed, -, dead⟩) | keeps
    · exact absurd skipped live
    · have all := List.all_eq_true.mp matching c listed
      change holds platform r hit ⟨c.field, c.op, c.value⟩ = true at all
      rw [holds_dead dead] at all
      cases all
    · exact same.action keeps.action r res

/-- A policy that the form holds, saved as it was opened, evaluates as before. -/
theorem edited_policy_unchanged (editable : Editable platform browser p) (cluster : String) :
    ∃ q, saved browser cluster p = some q ∧ SameResults platform p q := by
  obtain ⟨q, save, alike⟩ := saved_interchangeable editable cluster
  exact ⟨q, save, sameResults_of_interchangeable alike⟩

/-! ### A rule for every request -/

/-- A policy without conditions is saved with the one that the form starts with. -/
theorem defaultCondition_saved {q : Policy} (catchAll : p.conditions = [])
    (save : saved browser cluster p = some q) :
    conditionOfJson (conditionFromDraft browser defaultCondition) ∈ q.conditions := by
  have omitted : (policyJson p).conditions = none := if_pos catchAll
  generalize form : formStateFromPolicy browser (some (policyJson p)) cluster = f
  have listed : defaultCondition ∈ f.conditions := by
    have starts : f.conditions = (extractScopeCluster (defaultConditions cluster)).2 := by
      rw [← form]
      simp only [formStateFromPolicy, Option.bind_some, omitted]
    have among : defaultCondition ∈ defaultConditions cluster := by
      unfold defaultConditions
      split <;> simp
    rw [starts]
    exact mem_extractScopeCluster among (by decide)
  have sent : conditionFromDraft browser defaultCondition ∈ conditionsFromForm browser f :=
    mem_conditionsFromForm listed (by decide)
  rw [saved, form] at save
  simp only [policyOfJson, payloadFromForm, Option.getD_some, Option.bind_eq_bind,
    Option.bind_eq_some_iff] at save
  obtain ⟨priority, -, action, -, result⟩ := save
  obtain rfl := Option.some.inj result
  dsimp only
  exact List.mem_map_of_mem sent

/-- A rule that decided every request no longer decides the short ones. -/
theorem catchAll_changed {q : Policy} (catchAll : p.conditions = []) (enabled : p.isEnabled = true)
    (named : p.ruleID ≠ "") (reads : jsonNumber (browser.toNumber "256") = some 256)
    (save : saved browser cluster p = some q) : ¬ SameResults platform p q := by
  intro same
  have added := defaultCondition_saved catchAll save
  have value : conditionOfJson (conditionFromDraft browser defaultCondition) =
      ⟨ConditionFieldInputTokens, ConditionOpGTE, .float 256⟩ := by
    show (⟨_, _, toValue (parseSingleValue browser "input_tokens" "256")⟩ : RuleCondition) = _
    rw [toValue_parseSingleValue_numeric (by decide), reads]
    rfl
  rw [value] at added
  -- a request of no tokens
  have before : matchesRule platform {} {} p = true := by
    rw [matchesRule, catchAll]
    rfl
  have after : matchesRule platform {} {} q = false := by
    refine List.all_eq_false.mpr ⟨_, added, ?_⟩
    show ¬ decide (float64 0 ≥ 256) = true
    decide +kernel
  have results := congrArg Result.matched (same default {} [] [] (by simp))
  simp only [List.nil_append, evaluate_eq_judge, matched_judge, SortSlice.sort_singleton] at results
  have decides : decidingRule platform {} {} [p] = some p := by
    rw [decidingRule_cons, if_pos (qualifies_iff.mpr ⟨enabled, named, before⟩)]
  have undecided : decidingRule platform {} {} [q] = none := by
    rw [decidingRule_cons, if_neg fun ready => ?_]
    · rfl
    · have holds := (qualifies_iff.mp ready).holds
      rw [after] at holds
      cases holds
  change (decidingRule platform {} {} [q]).elim _ _ = (decidingRule platform {} {} [p]).elim _ _
    at results
  rw [decides, undecided] at results
  exact named (congrArg Prod.fst results).symm

end Policies

section Example

/-- A browser, for the numbers of the examples. -/
def sampleBrowser : Browser where
  ofNumber x := if x = 256 then "256" else if x = 100 then "100" else "429"
  toNumber text := if text = "256" then 256 else 0 / 0

/-- A rule that rejects every request. -/
def maintenance : Policy where
  ruleID := "maintenance"
  priority := 100
  action := { type := ActionReject }

/-- Saved as it was opened, the rule no longer rejects the requests of fewer tokens. -/
theorem maintenance_changed :
    (saved sampleBrowser "all" maintenance).isSome = true ∧
      ¬ ∃ q, saved sampleBrowser "all" maintenance = some q ∧
        SameResults .plain maintenance q := by
  refine ⟨by decide +kernel, ?_⟩
  rintro ⟨q, save, same⟩
  exact catchAll_changed rfl rfl (by decide) (by decide +kernel) save same

/-- A rule for long prompts of two models on one cluster. -/
def longPrompts : Policy where
  ruleID := "long-prompts"
  priority := 100
  conditions := [⟨ConditionFieldModelID, ConditionOpIn, .list [.string "qwen", .string "glm"]⟩,
    ⟨ConditionFieldClusterID, "", .string "local-vllm"⟩,
    ⟨ConditionFieldInputTokens, ConditionOpGTE, .float 256⟩,
    ⟨ConditionFieldTokenized, ConditionOpEq, .bool true⟩]
  action := { type := ActionRequireCacheHit, minHitRatio := some 0.5 }

theorem longPrompts_editable : Editable .plain sampleBrowser longPrompts := by
  have first : longPrompts.conditions.find? (namesScope sampleBrowser) =
      some ⟨ConditionFieldClusterID, "", .string "local-vllm"⟩ :=
    (List.find?_cons_of_neg (by decide)).trans (List.find?_cons_of_pos (by decide))
  have others : longPrompts.conditions.eraseP (namesScope sampleBrowser) =
      [⟨ConditionFieldModelID, ConditionOpIn, .list [.string "qwen", .string "glm"]⟩,
        ⟨ConditionFieldInputTokens, ConditionOpGTE, .float 256⟩,
        ⟨ConditionFieldTokenized, ConditionOpEq, .bool true⟩] :=
    (List.eraseP_cons_of_neg (by decide)).trans
      (congrArg _ (List.eraseP_cons_of_pos (by decide)))
  refine ⟨by decide +kernel, fun _ => by decide +kernel, Or.inr ⟨by simp [longPrompts],
    by simp [longPrompts]; decide, fun c found => ?_, ?_, fun _ => ⟨0.5, rfl, by decide +kernel⟩,
    fun unsent => absurd (Or.inl rfl) unsent⟩⟩
  · obtain rfl := Option.some.inj (first.symm.trans found)
    exact ⟨rfl, rfl, by decide⟩
  · rw [others]
    intro c mem
    simp only [List.mem_cons, List.not_mem_nil, or_false] at mem
    rcases mem with rfl | rfl | rfl
    · refine Or.inr ?_
      have parts : listParts ConditionFieldModelID (shown sampleBrowser
          ⟨ConditionFieldModelID, ConditionOpIn, .list [.string "qwen", .string "glm"]⟩) =
          ["qwen", "glm"] := by decide
      rw [if_pos (by decide), parts]
      exact .cons ⟨rfl, rfl, by decide⟩ (.cons ⟨rfl, rfl, by decide⟩ .nil)
    · refine Or.inr ?_
      rw [if_neg (by decide), if_pos (by decide), ReadsNumber, if_pos (by decide)]
      decide +kernel
    · refine Or.inr ?_
      rw [if_neg (by decide), if_neg (by decide), if_neg (by decide), Reads, if_neg (by decide),
        if_pos (by decide)]
      decide

theorem longPrompts_unchanged :
    ∃ q, saved sampleBrowser "all" longPrompts = some q ∧ SameResults .plain longPrompts q :=
  edited_policy_unchanged longPrompts_editable "all"

end Example

end KvIndexer.Web
