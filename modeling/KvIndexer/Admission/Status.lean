import KvIndexer.Admission.Exact
import KvIndexer.Admission.FirstMatch

/-!
The status of a verdict.

An accepted request is answered with 200. A rejected one is answered with the status its
rule is configured with, and the configuration takes any number: `reject` and
`rejectStatusOrDefault` replace those that are not positive and no others. So decision and
status agree exactly when a rule that decides and rejects has no status of its own or an
error status (`statusAgrees_iff`).
-/

namespace KvIndexer.Admission

open Config

/-- `toHTTPStatus`: the status line of the response that carries the result -/
def Result.toHTTPStatus (res : Result) : Int64 := if res.httpStatus > 0 then res.httpStatus else 200

/-- 200 for an accepted request and no other, an error status for a rejected one; and the
response is sent with that status. -/
structure Result.StatusAgrees (res : Result) : Prop where
  accept_iff : res.decision = .accept ↔ res.httpStatus = 200
  reject_error : res.decision = .reject → 400 ≤ res.httpStatus ∧ res.httpStatus ≤ 599
  sent : res.toHTTPStatus = res.httpStatus

/-! ### The actions that reject -/

/-- The ways an action rejects. -/
inductive Rejects (r : Request) (hit : HitInfo) (action : RuleAction) : Prop
  | always : action.typeOrDefault = ActionReject → Rejects r hit action
  | unknown : action.typeOrDefault ∉ [ActionAccept, ActionReject, ActionRequireCacheHit] →
      Rejects r hit action
  | uncertain {reason : Reason} : action.typeOrDefault = ActionRequireCacheHit →
      uncertaintyReason r = some reason → action.onUncertainOrDefault = RuleOutcomeReject →
      Rejects r hit action
  | low : action.typeOrDefault = ActionRequireCacheHit → uncertaintyReason r = none →
      hit.hitRatio < action.minHitRatioOrDefault →
      action.onLowHitOrDefault ∉ [RuleOutcomeAccept, RuleOutcomeFallbackAccept] →
      Rejects r hit action

theorem outcomeDecision_uncertain {outcome : String} :
    outcomeDecision outcome true = .reject ↔ outcome = RuleOutcomeReject := by
  have other : RuleOutcomeReject ≠ RuleOutcomeAccept ∧
      RuleOutcomeReject ≠ RuleOutcomeFallbackAccept := by decide
  unfold outcomeDecision
  by_cases rejects : outcome = RuleOutcomeReject
  · simp [rejects, other]
  · simp [rejects]

theorem outcomeDecision_certain {outcome : String} :
    outcomeDecision outcome false = .reject ↔
      outcome ∉ [RuleOutcomeAccept, RuleOutcomeFallbackAccept] := by
  unfold outcomeDecision
  by_cases accepts : outcome = RuleOutcomeAccept
  · simp [accepts]
  · by_cases falls : outcome = RuleOutcomeFallbackAccept
    · simp [falls]
    · simp [accepts, falls]

section Rejects

variable {r : Request} {hit : HitInfo} {action : RuleAction}

theorem not_rejects_accept (accepts : action.typeOrDefault = ActionAccept) :
    ¬ Rejects r hit action := by
  obtain ⟨rejectAccept, hitAccept, -⟩ := actions_distinct
  intro rejects
  cases rejects with
  | always type => exact rejectAccept (type.symm.trans accepts)
  | unknown other => exact other (by simp [accepts])
  | uncertain type => exact hitAccept (type.symm.trans accepts)
  | low type => exact hitAccept (type.symm.trans accepts)

/-- A required hit under an uncertain signal. -/
theorem rejects_uncertain (requires : action.typeOrDefault = ActionRequireCacheHit)
    {reason : Reason} (uncertain : uncertaintyReason r = some reason) :
    Rejects r hit action ↔ action.onUncertainOrDefault = RuleOutcomeReject := by
  obtain ⟨-, -, hitReject⟩ := actions_distinct
  refine ⟨fun rejects => ?_, .uncertain requires uncertain⟩
  cases rejects with
  | always type => exact absurd (requires.symm.trans type) hitReject
  | unknown other => exact absurd (by simp [requires]) other
  | uncertain _ _ outcome => exact outcome
  | low _ certain => exact nomatch uncertain.symm.trans certain

/-- A required hit under a trusted signal. -/
theorem rejects_certain (requires : action.typeOrDefault = ActionRequireCacheHit)
    (certain : uncertaintyReason r = none) :
    Rejects r hit action ↔ hit.hitRatio < action.minHitRatioOrDefault ∧
      action.onLowHitOrDefault ∉ [RuleOutcomeAccept, RuleOutcomeFallbackAccept] := by
  obtain ⟨-, -, hitReject⟩ := actions_distinct
  refine ⟨fun rejects => ?_, fun ⟨less, outcome⟩ => .low requires certain less outcome⟩
  cases rejects with
  | always type => exact absurd (requires.symm.trans type) hitReject
  | unknown other => exact absurd (by simp [requires]) other
  | uncertain _ uncertain => exact nomatch certain.symm.trans uncertain
  | low _ _ less outcome => exact ⟨less, outcome⟩

theorem actionDecision_reject :
    actionDecision r action (decide (hit.hitRatio < action.minHitRatioOrDefault)) = .reject ↔
      Rejects r hit action := by
  unfold actionDecision
  by_cases accepts : action.typeOrDefault = ActionAccept
  · rw [if_pos accepts]
    exact iff_of_false nofun (not_rejects_accept accepts)
  · by_cases rejects : action.typeOrDefault = ActionReject
    · rw [if_neg accepts, if_pos rejects]
      exact iff_of_true rfl (.always rejects)
    · by_cases requires : action.typeOrDefault = ActionRequireCacheHit
      · rw [if_neg accepts, if_neg rejects, if_pos requires]
        cases certain : uncertaintyReason r with
        | some reason =>
            rw [rejects_uncertain requires certain]
            exact outcomeDecision_uncertain
        | none =>
            rw [rejects_certain requires certain]
            by_cases low : hit.hitRatio < action.minHitRatioOrDefault
            · rw [decide_eq_true low, and_iff_right low]
              exact outcomeDecision_certain
            · rw [decide_eq_false low]
              exact iff_of_false nofun fun rejected => low rejected.1
      · rw [if_neg accepts, if_neg rejects, if_neg requires]
        exact iff_of_true rfl (.unknown (by simp [accepts, rejects, requires]))

end Rejects

/-! ### The status -/

/-- An accepted result has the status 200, a rejected one has `status`. -/
def Result.AnsweredWith (status : Int64) (res : Result) : Prop :=
  res.httpStatus = if res.decision = .reject then status else 200

theorem answeredWith_accept (res : Result) (reason : Reason) (fallback : Bool) (status : Int64) :
    (accept res reason fallback).AnsweredWith status := rfl

theorem answeredWith_reject (res : Result) (reason : Reason) {status : Int64}
    (positive : 0 < status) : (reject res reason status).AnsweredWith status :=
  have kept : (reject res reason status).httpStatus = status :=
    congrArg (fun verdict => verdict.2.2) (verdict_reject res reason positive)
  kept

/-- Every branch answers with 200 or with the status of the rule. -/
theorem answeredWith_applyAction (r : Request) (res : Result) (action : RuleAction) :
    (applyAction r res action).AnsweredWith action.rejectStatusOrDefault := by
  refine applyAction_cases
    (motive := fun out => out.AnsweredWith action.rejectStatusOrDefault) ?_ ?_
  · intro ratio reason fallback
    exact answeredWith_accept _ _ _ _
  · intro ratio reason
    exact answeredWith_reject _ _ action.rejectStatusOrDefault_pos

/-- The rule has no status of its own, or one that tells of an error. -/
def ErrorStatus (action : RuleAction) : Prop :=
  action.rejectStatus ≤ 0 ∨ 400 ≤ action.rejectStatus ∧ action.rejectStatus ≤ 599

theorem errorStatus_iff {action : RuleAction} : ErrorStatus action ↔
    400 ≤ action.rejectStatusOrDefault ∧ action.rejectStatusOrDefault ≤ 599 := by
  unfold ErrorStatus RuleAction.rejectStatusOrDefault
  by_cases positive : action.rejectStatus > 0
  · rw [if_pos positive, or_iff_right (Int64.not_le.mpr positive)]
  · rw [if_neg positive]
    exact iff_of_true (Or.inl (Int64.not_lt.mp positive)) (by decide)

theorem sent_of_answeredWith {res : Result} {status : Int64} (positive : 0 < status)
    (answered : res.AnsweredWith status) : res.toHTTPStatus = res.httpStatus := by
  have sent : res.httpStatus > 0 := by
    rw [answered]
    split
    · exact positive
    · decide
  exact if_pos sent

/-- What a status is for the rule that leads to it. -/
theorem statusAgrees_of_answeredWith {res : Result} {action : RuleAction}
    (answered : res.AnsweredWith action.rejectStatusOrDefault) :
    res.StatusAgrees ↔ (res.decision = .reject → ErrorStatus action) := by
  have sent := sent_of_answeredWith action.rejectStatusOrDefault_pos answered
  unfold Result.AnsweredWith at answered
  cases decision : res.decision with
  | accept =>
      rw [decision] at answered
      refine iff_of_true ⟨iff_of_true decision answered, ?_, sent⟩ nofun
      rw [decision]
      exact nofun
  | reject =>
      rw [decision, if_pos rfl] at answered
      rw [errorStatus_iff]
      constructor
      · intro agrees _
        rw [← answered]
        exact agrees.reject_error decision
      · intro error
        refine ⟨?_, fun _ => answered ▸ error rfl, sent⟩
        rw [decision, answered]
        refine iff_of_false nofun fun ok => ?_
        have low := (error rfl).1
        rw [ok] at low
        exact absurd low (by decide)

/-! ### The evaluation -/

/-- Decision and status agree exactly when the rule that decides, if it rejects, has no
status of its own or an error status. -/
theorem statusAgrees_iff (platform : Platform) (order : InstanceOrder) (input : Input)
    (distinct : (input.rules.map Policy.ruleID).Nodup) :
    (evaluate platform order input).StatusAgrees ↔
      ∀ rule, Decides platform input.toRequest input.rules (bestHit platform order input) rule →
        Rejects input.toRequest (bestHit platform order input) rule.action →
          ErrorStatus rule.action := by
  rw [evaluate_eq_judge]
  generalize bestHit platform order input = hit
  have matched := judge_firstMatch platform input.toRequest input.rules hit
  generalize judge platform input.toRequest input.rules hit = res at matched ⊢
  cases matched with
  | @decided rule ids decides lists =>
      rw [statusAgrees_of_answeredWith (answeredWith_applyAction _ _ _), decision_applyAction,
        actionDecision_reject]
      constructor
      · intro error other decides' rejects
        obtain rfl := decides.unique distinct decides'
        exact error rejects
      · exact fun error => error rule decides
  | undecided nothing lists =>
      refine iff_of_true ⟨iff_of_true rfl rfl, nofun, rfl⟩ fun rule decides => ?_
      exact absurd decides.qualifies (nothing rule decides.member)

/-- One rule rejects everything with the status of a success. -/
def successPolicy : Policy where
  ruleID := "closed"
  action := { type := ActionReject, rejectStatus := 200 }

theorem not_statusAgrees : ¬ ∀ platform order input,
    (input.rules.map Policy.ruleID).Nodup → (∀ rule ∈ input.rules, rule.ruleID ≠ "") →
      (evaluate platform order input).StatusAgrees := by
  intro always
  have named : ∀ rule ∈ [successPolicy], rule.ruleID ≠ "" := by
    intro rule member
    rw [List.mem_singleton.mp member]
    decide
  have agrees := always .plain default { rules := [successPolicy] } (by decide) named
  have ok : (evaluate .plain default { rules := [successPolicy] }).httpStatus = 200 := by
    decide +kernel
  have rejected : (evaluate .plain default { rules := [successPolicy] }).decision = .reject := by
    decide +kernel
  exact nomatch rejected.symm.trans (agrees.accept_iff.mpr ok)

/-- Without a status of its own the rule rejects with 429. -/
theorem statusAgrees_default :
    (evaluate .plain default
      { rules := [{ ruleID := "closed", action := { type := ActionReject } }] }).StatusAgrees := by
  refine (statusAgrees_iff .plain default _ (by decide)).mpr fun rule decides _ => ?_
  obtain rfl := List.mem_singleton.mp decides.member
  exact Or.inl (by decide)

end KvIndexer.Admission
