import KvIndexer.Admission.FirstMatch

/-!
One rule in the place of another.

Two rules are interchangeable when the loop of `Evaluate` reads the same of both; then the
result is the same with either among the rules (`sameResults_of_interchangeable`). The ids
of a rule list are distinct, so the sort has no ties to break, and it puts the one rule
where it put the other.
-/

namespace KvIndexer.Admission

open Config

/-- A rule that the loop passes over. -/
def Skipped (rule : Policy) : Prop := rule.isEnabled = false ∨ rule.ruleID = ""

/-- Nothing that `Evaluate` reads tells the policies apart: the rest is not read of a rule that
is skipped, nor the action of one that does not match. -/
structure Interchangeable (platform : Platform) (p q : Policy) : Prop where
  ruleID : q.ruleID = p.ruleID
  priority : q.priority = p.priority
  displayName : q.displayName = p.displayName
  isEnabled : q.isEnabled = p.isEnabled
  matching : ¬ Skipped p → ∀ r hit, matchesRule platform r hit q = matchesRule platform r hit p
  action : ¬ Skipped p → ∀ r hit, matchesRule platform r hit p = true →
    ∀ res, applyAction r res q.action = applyAction r res p.action

/-- `Evaluate` returns the same with either policy among its rules, on every input. -/
def SameResults (platform : Platform) (p q : Policy) : Prop :=
  ∀ (order : InstanceOrder) (input : Input) (front back : List Policy),
    ((front ++ p :: back).map Policy.ruleID).Nodup →
      evaluate platform order { input with rules := front ++ q :: back } =
        evaluate platform order { input with rules := front ++ p :: back }

section Replacing

variable {platform : Platform} {p q : Policy}

/-- The loop over the rules does not see that some are replaced. -/
theorem evaluateRules_map {r : Request} {hit : HitInfo} {f : Policy → Policy} {rules : List Policy}
    (alike : ∀ rule ∈ rules, Interchangeable platform rule (f rule)) (res : Result) :
    evaluateRules platform r hit (rules.map f) res = evaluateRules platform r hit rules res := by
  induction rules generalizing res with
  | nil => rfl
  | cons rule rules ih =>
      have here := alike rule List.mem_cons_self
      have rest := ih fun other later => alike other (List.mem_cons_of_mem rule later)
      simp only [List.map_cons, evaluateRules, here.ruleID, here.priority, here.displayName,
        here.isEnabled, rest]
      by_cases skipped : (!rule.isEnabled || rule.ruleID = "") = true
      · rw [if_pos skipped, if_pos skipped]
      have live : ¬ Skipped rule := by simpa [Skipped] using skipped
      rw [if_neg skipped, if_neg skipped, here.matching live]
      by_cases fails : (!matchesRule platform r hit rule) = true
      · rw [if_pos fails, if_pos fails]
      rw [if_neg fails, if_neg fails]
      exact here.action live r hit (by simpa using fails) _

/-- The policy put in the place of another of its id. -/
def replace (q rule : Policy) : Policy := if rule.ruleID = q.ruleID then q else rule

theorem map_replace_of_ne {rules : List Policy} (others : ∀ rule ∈ rules, rule.ruleID ≠ q.ruleID) :
    rules.map (replace q) = rules := by
  refine (List.map_congr_left fun rule mem => ?_).trans (List.map_id rules)
  exact if_neg (others rule mem)

theorem map_replace (same : q.ruleID = p.ruleID) {front back : List Policy}
    (distinct : ((front ++ p :: back).map Policy.ruleID).Nodup) :
    (front ++ p :: back).map (replace q) = front ++ q :: back := by
  have elsewhere : ∀ rule, rule ∈ front ∨ rule ∈ back → rule.ruleID ≠ q.ruleID := by
    intro rule mem clash
    rw [List.map_append, List.map_cons, List.nodup_append, List.nodup_cons] at distinct
    obtain ⟨-, ⟨notInBack, -⟩, apart⟩ := distinct
    rcases mem with inFront | inBack
    · exact apart _ (List.mem_map_of_mem inFront) _ List.mem_cons_self (clash.trans same)
    · exact notInBack ((clash.trans same) ▸ List.mem_map_of_mem inBack)
  have here : replace q p = q := if_pos same.symm
  rw [List.map_append, List.map_cons, here,
    map_replace_of_ne fun rule mem => elsewhere rule (Or.inl mem),
    map_replace_of_ne fun rule mem => elsewhere rule (Or.inr mem)]

theorem interchangeable_refl (rule : Policy) : Interchangeable platform rule rule :=
  ⟨rfl, rfl, rfl, rfl, fun _ _ _ => rfl, fun _ _ _ _ _ => rfl⟩

theorem sameResults_of_interchangeable (alike : Interchangeable platform p q) :
    SameResults platform p q := by
  intro order input front back distinct
  have replaced := map_replace alike.ruleID distinct
  have each : ∀ rule ∈ front ++ p :: back, Interchangeable platform rule (replace q rule) := by
    intro rule mem
    by_cases here : rule.ruleID = q.ruleID
    · have found : rule = p := by
        refine List.inj_on_of_nodup_map distinct mem ?_ (here.trans alike.ruleID)
        exact List.mem_append_right front List.mem_cons_self
      rw [found, replace, if_pos alike.ruleID.symm]
      exact alike
    · rw [replace, if_neg here]
      exact interchangeable_refl rule
  have ids : (front ++ q :: back).map Policy.ruleID = (front ++ p :: back).map Policy.ruleID := by
    rw [List.map_append, List.map_append, List.map_cons, List.map_cons, alike.ruleID]
  have sorted : platform.sortRules.sort (front ++ q :: back) =
      (platform.sortRules.sort (front ++ p :: back)).map (replace q) := by
    rw [← replaced]
    refine SortSlice.sort_map policyLess_eq _ (fun rule mem => ?_) ?_
    · rw [policyKey, policyKey, (each rule mem).ruleID, (each rule mem).priority]
    · rw [replaced]
      exact eq_of_policyKey (ids ▸ distinct)
  show evaluateRules platform input.toRequest (bestHit platform order input)
    (platform.sortRules.sort (front ++ q :: back)) _ = _
  rw [sorted]
  exact evaluateRules_map
    (fun rule mem => each rule (platform.sortRules.mem_sort.mp mem)) _

end Replacing

end KvIndexer.Admission
