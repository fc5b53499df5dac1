import KvIndexer.Gateway.Fanout
import KvIndexer.Gateway.Target
import KvIndexer.HttpApi.Route
import KvIndexer.Lib.Recent

/-!
The decisions page (`internal/gateway/gateway.go`, `internal/gateway/local_tokenizer.go`).

A backend keeps the decisions it made. Those that the gateway makes itself, with its own
tokenizer, are kept in a ring of the gateway, each under the connection it was made for.
`handleDecisions` merges both. While it waits and reads, other handlers make decisions and
connections are edited: `handleDecisions_timeline` says of any interleaving what the page
lists under which connection.
-/

namespace KvIndexer.Gateway

open Config Admission RFC3339
open HttpApi (RouteRequest RouteResponse)

/-! ### Decisions of the gateway -/

/-- The text of a decision. -/
def decisionText : Decision → String
  | .accept => "accept"
  | .reject => "reject"

/-- The text of a reason. -/
def reasonText : Reason → String
  | .noMatchingRule => "no_matching_policy_rule"
  | .ruleAccepted => "policy_rule_accept"
  | .ruleRejected => "policy_rule_reject"
  | .cacheHitRequirement => "kv_cache_hit_requirement_met"
  | .cacheHitTooLow => "kv_cache_hit_requirement_failed"
  | .fallbackStale => "fallback_stale_events"
  | .fallbackUnavailable => "fallback_tokenization_unavailable"
  | .fallbackHashMismatch => "fallback_hash_feature_unsupported"
  | .noCandidates => "no_eligible_candidates"
  | .unknownAction => "unknown_policy_action"

structure LocalDecisionRecord where
  timestamp : Timestamp
  protocol : String
  model : String
  tenantID : String
  decision : Decision
  reason : Reason
  httpStatus : Int64
  inputTokens : Int64
  hitRatio : Float
  bestHit : Int64
  targetEngine : String := ""
  fallback : Bool
  configVer : Int64
  ns : String
  cluster : String
  backend : String
  source : String

/-- The record of a response, for a connection. -/
def localDecisionRecord (now : Timestamp) (cluster backend source : String) (rr : RouteRequest)
    (resp : RouteResponse) : LocalDecisionRecord where
  timestamp := now
  protocol := rr.protocol
  model := rr.model
  tenantID := if rr.tenantID = "" then "default" else rr.tenantID
  decision := resp.decision
  reason := resp.reason
  httpStatus := resp.httpStatus
  inputTokens := resp.cache.inputTokens
  hitRatio := resp.cache.hitRatio
  bestHit := resp.cache.bestHitTokens
  fallback := resp.fallback
  configVer := resp.config.configVersion
  ns := resp.config.ns
  cluster := cluster
  backend := backend
  source := source

def decCap : Nat := 200

/-- The ring with one more decision. -/
def recordLocalDecision (decisions : List LocalDecisionRecord) (rec : LocalDecisionRecord) :
    List LocalDecisionRecord :=
  keepLast decCap decisions rec

/-- The record that `recordAdmissionDecision` makes. -/
def admissionDecision (now : Timestamp) (b : Backend) (rr : RouteRequest) (resp : RouteResponse) :
    LocalDecisionRecord :=
  { localDecisionRecord now b.cluster b.id "gateway_local_tokenizer" rr resp with
    targetEngine := match resp.target with
      | some target => target.engineID
      | none => "" }

def recordAdmissionDecision (now : Timestamp) (b : Backend) (rr : RouteRequest)
    (resp : RouteResponse) (decisions : List LocalDecisionRecord) : List LocalDecisionRecord :=
  recordLocalDecision decisions (admissionDecision now b rr resp)

/-- The record that `recordVirtualDecision` makes. -/
def virtualDecision (now : Timestamp) (c : Connection) (rr : RouteRequest) (resp : RouteResponse) :
    LocalDecisionRecord :=
  localDecisionRecord now c.cluster c.id "gateway_virtual_tokenizer" rr resp

def recordVirtualDecision (now : Timestamp) (c : Connection) (rr : RouteRequest)
    (resp : RouteResponse) (decisions : List LocalDecisionRecord) : List LocalDecisionRecord :=
  recordLocalDecision decisions (virtualDecision now c rr resp)

/-! ### The handler -/

/-- Numbers as JSON values. -/
structure DecisionEnv (α : Type) extends FanoutEnv α where
  ofInt : Int64 → α
  ofFloat : Float → α

variable {α : Type} (env : DecisionEnv α)

/-- The entries of a record, and its target if it has one. -/
def LocalDecisionRecord.entries (rec : LocalDecisionRecord) : List (String × JSONValue α) :=
  [("timestamp", .string rec.timestamp.format), ("protocol", .string rec.protocol),
    ("model", .string rec.model), ("tenant_id", .string rec.tenantID),
    ("decision", .string (decisionText rec.decision)),
    ("reason", .string (reasonText rec.reason)),
    ("http_status", .other (env.ofInt rec.httpStatus)),
    ("input_tokens", .other (env.ofInt rec.inputTokens)),
    ("hit_ratio", .other (env.ofFloat rec.hitRatio)),
    ("best_hit_tokens", .other (env.ofInt rec.bestHit)),
    ("fallback", .other (env.ofBool rec.fallback)),
    ("config_version", .other (env.ofInt rec.configVer)), ("namespace", .string rec.ns),
    ("_cluster", .string rec.cluster), ("_backend", .string rec.backend),
    ("source", .string rec.source)] ++
    if rec.targetEngine = "" then [] else [("target_engine", .string rec.targetEngine)]

def LocalDecisionRecord.item (rec : LocalDecisionRecord) : Item α :=
  (rec.entries env).foldl (fun item entry => item.insert entry.1 entry.2) ∅

def localDecisionsForTargets (targets : List Target) (decisions : List LocalDecisionRecord) :
    List (Item α) :=
  if targets.length = 0 then []
  else
    (decisions.filter fun rec => rec.backend ∈ targets.map Target.id).map fun rec => rec.item env

/-- The list before it is sorted. -/
def mergedDecisions (parts : List (List (Item α))) (targets : List Target)
    (decisions : List LocalDecisionRecord) : List (Item α) :=
  parts.flatten ++ localDecisionsForTargets env targets decisions

/-- `handleDecisions`, once `Wait` has returned and the targets have been selected. -/
def handleDecisions (parts : List (List (Item α))) (targets : List Target)
    (decisions : List LocalDecisionRecord) : List (Item α) :=
  sortByTimestampAsc (mergedDecisions env parts targets decisions)

/-! ### The handler among edits and decisions -/

/-- The handler's fan-out, and the ring. -/
structure DecisionRun (α : Type) where
  fanout : Fanout (List (Item α))
  decisions : List LocalDecisionRecord

inductive DecisionStep
  | fan (st : FanoutStep)
  /-- the gateway decides about a request to a backend -/
  | admission (now : Timestamp) (b : Backend) (rr : RouteRequest) (resp : RouteResponse)
  | virtual (now : Timestamp) (c : Connection) (rr : RouteRequest) (resp : RouteResponse)

def DecisionStep.fanned : DecisionStep → Option FanoutStep
  | fan st => some st
  | admission _ _ _ _ => none
  | virtual _ _ _ _ => none

def DecisionStep.decided : DecisionStep → Option LocalDecisionRecord
  | fan _ => none
  | admission now b rr resp => some (admissionDecision now b rr resp)
  | virtual now c rr resp => some (virtualDecision now c rr resp)

namespace DecisionRun

/-- The handler has taken `backends` from registry `s` and starts, after the decisions `before`. -/
def start (s : Registry) (backends : List Backend) (before : List LocalDecisionRecord) :
    DecisionRun α where
  fanout := Fanout.start [] s backends
  decisions := before.rtake decCap

def step (backends : List Backend) (run : DecisionRun α) : DecisionStep → DecisionRun α
  | .fan st =>
      { run with
        fanout := Fanout.step env.toRegistryEnv (listPart env.toFanoutEnv) backends run.fanout st }
  | .admission now b rr resp =>
      { run with decisions := recordAdmissionDecision now b rr resp run.decisions }
  | .virtual now c rr resp =>
      { run with decisions := recordVirtualDecision now c rr resp run.decisions }

def after (s : Registry) (backends : List Backend) (before : List LocalDecisionRecord)
    (steps : List DecisionStep) : DecisionRun α :=
  Run.run (step env backends) (start s backends before) steps

variable {env} {s : Registry} {backends : List Backend} {before : List LocalDecisionRecord}
  {steps : List DecisionStep}

/-- Edits and answers do not touch the ring, nor decisions the rest. -/
theorem run_step (f : Fanout (List (Item α))) (ring : List LocalDecisionRecord) :
    Run.run (step env backends) ⟨f, ring⟩ steps =
      { fanout := Run.run (Fanout.step env.toRegistryEnv (listPart env.toFanoutEnv) backends) f
          (steps.filterMap DecisionStep.fanned)
        decisions := Run.run (keepLast decCap) ring (steps.filterMap DecisionStep.decided) } := by
  induction steps generalizing f ring with
  | nil => rfl
  | cons st steps ih =>
      cases st with
      | fan st =>
          rw [Run.run_cons, step, ih]
          rfl
      | admission now b rr resp =>
          have later : (DecisionStep.admission now b rr resp :: steps).filterMap
              DecisionStep.decided = admissionDecision now b rr resp ::
                steps.filterMap DecisionStep.decided := rfl
          rw [Run.run_cons, step, ih, later, Run.run_cons, recordAdmissionDecision,
            recordLocalDecision]
          rfl
      | virtual now c rr resp =>
          have later : (DecisionStep.virtual now c rr resp :: steps).filterMap
              DecisionStep.decided = virtualDecision now c rr resp ::
                steps.filterMap DecisionStep.decided := rfl
          rw [Run.run_cons, step, ih, later, Run.run_cons, recordVirtualDecision,
            recordLocalDecision]
          rfl

theorem after_eq :
    after env s backends before steps =
      { fanout := Fanout.after env.toRegistryEnv (listPart env.toFanoutEnv) [] s backends
          (steps.filterMap DecisionStep.fanned)
        decisions := (before ++ steps.filterMap DecisionStep.decided).rtake decCap } := by
  rw [← run_keepLast, Fanout.after, after, start, run_step]

end DecisionRun

section Page

variable {env}

/-- What the gateway decided for a connection, of the decisions kept. -/
def decidedFor (env : DecisionEnv α) (id : String) (decisions : List LocalDecisionRecord) :
    List (Item α) :=
  (decisions.filter fun rec => rec.backend = id).map fun rec => rec.item env

/-- A record is found under its connection. -/
theorem backend_item (rec : LocalDecisionRecord) :
    fieldText "_backend" (rec.item env) = rec.backend := by
  have found : (rec.item env).lookup "_backend" = some (.string rec.backend) := by
    unfold LocalDecisionRecord.item LocalDecisionRecord.entries
    rw [List.foldl_append]
    split
    · simp [Finmap.lookup_insert_of_ne]
    · simp [Finmap.lookup_insert_of_ne]
  rw [fieldText, found]
  rfl

/-- Those made for connections that are not selected are not listed; of a selected one, all. -/
theorem filter_localDecisionsForTargets (targets : List Target)
    (decisions : List LocalDecisionRecord) (id : String) :
    (localDecisionsForTargets env targets decisions).filter
        (fun it => fieldText "_backend" it = id) =
      if id ∈ targets.map Target.id then decidedFor env id decisions else [] := by
  have listed : localDecisionsForTargets env targets decisions =
      (decisions.filter fun rec => rec.backend ∈ targets.map Target.id).map
        fun rec => rec.item env := by
    unfold localDecisionsForTargets
    split
    · rename_i nothing
      rw [List.eq_nil_of_length_eq_zero nothing]
      simp
    · rfl
  rw [listed, List.filter_map, List.filter_filter, decidedFor]
  split
  · rename_i selected
    refine congrArg _ (List.filter_congr fun rec _ => ?_)
    simp only [Function.comp, backend_item]
    by_cases mine : rec.backend = id
    · simp [mine, selected]
    · simp [mine]
  · rename_i unselected
    refine List.map_eq_nil_iff.mpr (List.filter_eq_nil_iff.mpr fun rec _ => ?_)
    simp only [Function.comp, backend_item]
    by_cases mine : rec.backend = id
    · simp [mine, unselected]
    · simp [mine]

/-- Of what the backends answered, a tag finds the answer of its own. -/
theorem filter_flatMap_listed (backends : List Backend) (id : String) :
    (backends.flatMap (listed env.toFanoutEnv)).filter (fun it => fieldText "_backend" it = id) =
      (backends.filter fun b => b.id = id).flatMap (listed env.toFanoutEnv) := by
  induction backends with
  | nil => rfl
  | cons b backends ih =>
      rw [List.flatMap_cons, List.filter_append, ih, List.filter_cons]
      by_cases mine : b.id = id
      · rw [if_pos (decide_eq_true mine), List.flatMap_cons]
        refine congrArg (· ++ _) (List.filter_eq_self.mpr fun it member => ?_)
        exact decide_eq_true ((backend_of_listed member).trans mine)
      · rw [if_neg (by simpa using mine)]
        have others : (listed env.toFanoutEnv b).filter (fun it => fieldText "_backend" it = id) =
            [] := by
          refine List.filter_eq_nil_iff.mpr fun it member same => mine ?_
          exact (backend_of_listed member).symm.trans (of_decide_eq_true same)
        rw [others, List.nil_append]

end Page

/-- Whatever the order in which the backends answer, whatever edits and decisions come before
`Wait` returns and between the reads after it: the page is in the order of the texts of the
timestamps, and lists under an id what the backend selected at first answered and, if the id is
selected still when the targets are read, what the gateway has decided for it among its last
200 decisions; and nothing else. -/
theorem handleDecisions_timeline (s : Registry) (sel : Selector)
    (before : List LocalDecisionRecord) {waiting first second third : List DecisionStep}
    (waited : Fanout.Waited (s.selected env.toRegistryEnv sel)
      (waiting.filterMap DecisionStep.fanned))
    (sound : ∀ b ∈ s.selected env.toRegistryEnv sel, listPart env.toFanoutEnv b ≠ .panicked) :
    let backends := s.selected env.toRegistryEnv sel
    let after := DecisionRun.after env s backends before
    let real := (after (waiting ++ first)).fanout.registry.selected env.toRegistryEnv sel
    let virtual := (after (waiting ++ first ++ second)).fanout.registry.selectedVirtual
      env.toRegistryEnv sel
    let targets := real.map .real ++ virtual.map .virtual
    let steps := waiting ++ first ++ second ++ third
    let page := handleDecisions env (after waiting).fanout.gather.slots targets
      (after steps).decisions
    let decided := (before ++ steps.filterMap DecisionStep.decided).rtake decCap
    (after waiting).fanout.gather.Joined ∧
      page.Pairwise (fun a b => textLess "timestamp" b a = false) ∧
      ∀ id, (page.filter fun it => fieldText "_backend" it = id).Perm
        ((backends.filter fun b => b.id = id).flatMap (listed env.toFanoutEnv) ++
          if id ∈ targets.map Target.id then decidedFor env id decided else []) := by
  intro backends after real virtual targets steps page decided
  have joined := @Fanout.slots_after (List (Item α)) env.toRegistryEnv (listPart env.toFanoutEnv) []
    s backends (waiting.filterMap DecisionStep.fanned) waited sound
  have run : ∀ steps, after steps = _ := fun steps => DecisionRun.after_eq
  have ring : (after steps).decisions = decided := by rw [run]
  have parts : (after waiting).fanout.gather.slots = backends.map (listed env.toFanoutEnv) := by
    rw [run]
    exact joined.2
  refine ⟨by rw [run]; exact joined.1, (@sortByText α "timestamp").sorted _, fun id => ?_⟩
  have perm : page.Perm (mergedDecisions env (after waiting).fanout.gather.slots targets
      (after steps).decisions) := (@sortByText α "timestamp").perm _
  refine (perm.filter _).trans (List.Perm.of_eq ?_)
  rw [mergedDecisions, parts, ring, ← List.flatMap_def, List.filter_append, filter_flatMap_listed,
    filter_localDecisionsForTargets]

/-! While the backends are asked, the gateway decides for the first one, for a virtual cluster
and for a connection that is not selected. The second one answers first. -/

def decidingEnv (order : GoMap.Orders String Connection) : DecisionEnv Bool :=
  { answeringEnv order with
    ofInt := fun _ => false
    ofFloat := fun _ => false }

def acceptedResponse : RouteResponse where
  decision := .accept
  reason := .ruleAccepted
  httpStatus := 200
  target := none
  config := {}
  cache := {}
  fallback := false
  protocol := ""
  error := none

def decidedMeanwhile : List DecisionStep :=
  [.fan (.finish 1),
    .admission wholeSecond askedConnection.backend { model := "m" } acceptedResponse,
    .virtual wholeSecond askedVirtual { model := "m" } acceptedResponse, .fan (.finish 0),
    .virtual wholeSecond { id := "w", cluster := "c" } { model := "m" } acceptedResponse]

/-- The page lists what each answered, and the decisions made for the selected ones. -/
theorem decided_listed :
    let env := decidingEnv default
    let backends := askedRegistry.selected env.toRegistryEnv {}
    let after := DecisionRun.after env askedRegistry backends [] decidedMeanwhile
    let virtual := after.fanout.registry.selectedVirtual env.toRegistryEnv {}
    let page := handleDecisions env after.fanout.gather.slots
      (backends.map .real ++ virtual.map .virtual) after.decisions
    (page.filter fun it => fieldText "_backend" it = "a").Perm
        [tagItem "c" "a" ∅, (admissionDecision wholeSecond askedConnection.backend { model := "m" }
          acceptedResponse).item env] ∧
      page.filter (fun it => fieldText "_backend" it = "b") = [tagItem "d" "b" ∅] ∧
      page.filter (fun it => fieldText "_backend" it = "v") =
        [(virtualDecision wholeSecond askedVirtual { model := "m" } acceptedResponse).item
          env] ∧
      page.filter (fun it => fieldText "_backend" it = "w") = [] := by
  intro env backends after virtual page
  have two : backends = [askedConnection.backend, secondConnection.backend] := selected_asked
  have one : virtual = [askedVirtual] := selectedVirtual_asked
  have waited : Fanout.Waited backends (decidedMeanwhile.filterMap DecisionStep.fanned) := by
    rw [two]
    intro i lt
    obtain rfl | rfl : i = 0 ∨ i = 1 := by
      simp only [List.length_cons, List.length_nil] at lt
      omega
    · exact List.mem_cons_of_mem _ List.mem_cons_self
    · exact List.mem_cons_self
  obtain ⟨-, -, lists⟩ := @handleDecisions_timeline Bool env askedRegistry {} []
    decidedMeanwhile [] [] [] waited (fun b _ panics => by cases panics)
  have kept : (decidedMeanwhile.filterMap DecisionStep.decided).rtake decCap =
      [admissionDecision wholeSecond askedConnection.backend { model := "m" } acceptedResponse,
        virtualDecision wholeSecond askedVirtual { model := "m" } acceptedResponse,
        virtualDecision wholeSecond { id := "w", cluster := "c" } { model := "m" }
          acceptedResponse] := rfl
  have listed (id : String) : (page.filter fun it => fieldText "_backend" it = id).Perm
      ((backends.filter fun b => b.id = id).flatMap (listed env.toFanoutEnv) ++
        if id ∈ (backends.map Target.real ++ virtual.map Target.virtual).map Target.id then
          decidedFor env id ((decidedMeanwhile.filterMap DecisionStep.decided).rtake decCap)
        else []) := lists id
  rw [two, one, kept] at listed
  refine ⟨(listed "a").trans (List.Perm.of_eq ?_), List.perm_singleton.mp ((listed "b").trans ?_),
    List.perm_singleton.mp ((listed "v").trans ?_), List.perm_nil.mp ((listed "w").trans ?_)⟩
  · rw [if_pos (by decide)]
    rfl
  · rw [if_pos (by decide)]
    rfl
  · rw [if_pos (by decide)]
    rfl
  · rw [if_neg (by decide)]
    rfl

end KvIndexer.Gateway
