import KvIndexer.Config.Policy
import KvIndexer.Lib.Float64
import KvIndexer.Lib.SortSlice

/-!
Matching a request against a rule (`internal/admission/admission.go`).

A condition reads one field of the request or of its cache hit and compares it with the
value of the document. What the language and its library leave open here, the integer
part of a float out of range and the text form of a float, is a parameter (`Platform`);
so is the order in which an unstable sort leaves rules that compare equal.
-/

namespace KvIndexer.Admission

open Config

/-- What Go leaves to the platform, and the text forms of numbers. -/
structure Platform where
  /-- `int(f)`; the language fixes it for values in range only -/
  int : Float → Int64
  int_of_range : ∀ f : Float, -9223372036854775808 ≤ f → f < 9223372036854775808 →
    int f = f.toModel.toInt64
  /-- `strconv.ParseFloat` -/
  parseFloat : String → Option Float
  /-- `fmt.Sprint` of a float -/
  formatFloat : Float → String
  /-- the sort of `Evaluate` -/
  sortRules : SortSlice policyLess

/-- Saturating integer parts, and no text that reads as a number. -/
def Platform.plain : Platform where
  int f := f.toModel.toInt64
  int_of_range _ _ _ := rfl
  parseFloat _ := none
  formatFloat _ := ""
  sortRules := policySort

/-- Summary of the best instance's cache hit. -/
structure HitInfo where
  instanceID : String := ""
  inputTokens : Int64 := 0
  bestHitTokens : Int64 := 0
  hitRatio : Float := 0
  gpuTokens : Int64 := 0
  cpuTokens : Int64 := 0
  diskTokens : Int64 := 0
  /-- tier-weighted credit used for the ratio -/
  effectiveCachedTokens : Int64 := 0
deriving DecidableEq

/-- The part of the request that conditions read beside the hit. -/
structure Request where
  clusterID : String := ""
  modelID : String := ""
  tenantID : String := ""
  inputTokens : Int64 := 0
  /-- events for the matched residency are trustworthy -/
  fresh : Bool := false
  /-- tokenization succeeded -/
  tokenized : Bool := false
  /-- the active hash profile supports the request's features -/
  hashSupported : Bool := false
  /-- an eligible engine serves the model -/
  hasCandidates : Bool := false
deriving DecidableEq

/-! ### Values -/

section Values

variable (platform : Platform)

mutual

/-- `fmt.Sprint` -/
def sprint : Value → String
  | .nil => "<nil>"
  | .bool b => if b then "true" else "false"
  | .int n => toString n.toInt
  | .uint n => toString n.toNat
  | .float f => platform.formatFloat f
  | .string s => s
  | .list values => "[" ++ " ".intercalate (sprintAll values) ++ "]"
  | .map entries => "map[" ++ " ".intercalate (sprintEntries entries) ++ "]"

def sprintAll : List Value → List String
  | [] => []
  | v :: values => sprint v :: sprintAll values

def sprintEntries : List (String × Value) → List String
  | [] => []
  | (k, v) :: entries => (k ++ ":" ++ sprint v) :: sprintEntries entries

end

def toFloat : Value → Option Float
  | .int n => some (float64 n)
  | .uint n => some (float64OfUint n)
  | .float f => some f
  | .string s => platform.parseFloat s
  | _ => none

/-- `strconv.ParseBool` -/
def parseBool (s : String) : Option Bool :=
  if s ∈ ["1", "t", "T", "true", "TRUE", "True"] then some true
  else if s ∈ ["0", "f", "F", "false", "FALSE", "False"] then some false
  else none

def toBool : Value → Option Bool
  | .bool b => some b
  | .string s => parseBool s
  | _ => none

def valuesEqual (a b : Value) : Bool :=
  match toFloat platform a, toFloat platform b with
  | some af, some bf => af == bf
  | _, _ =>
      match toBool a, toBool b with
      | some ab, some bb => ab == bb
      | _, _ => sprint platform a == sprint platform b

def compareNumeric (actual expected : Value) (op : String) : Bool :=
  match toFloat platform actual, toFloat platform expected with
  | some a, some b =>
      if op = ConditionOpGT then a > b
      else if op = ConditionOpGTE then a ≥ b
      else if op = ConditionOpLT then a < b
      else if op = ConditionOpLTE then a ≤ b
      else false
  | _, _ => false

def listContains (list actual : Value) : Bool :=
  match list with
  | .list values => values.any (valuesEqual platform actual)
  | v => valuesEqual platform actual v

/-- `strings.Contains` -/
def contains (s substr : String) : Bool := decide (substr.toList <:+: s.toList)

def matchesCondition (actual : Value) (cond : RuleCondition) : Bool :=
  if cond.op = "" ∨ cond.op = ConditionOpEq then valuesEqual platform actual cond.value
  else if cond.op = ConditionOpNeq then !valuesEqual platform actual cond.value
  else if cond.op = ConditionOpIn then listContains platform cond.value actual
  else if cond.op = ConditionOpNotIn then !listContains platform cond.value actual
  else if cond.op ∈ [ConditionOpGT, ConditionOpGTE, ConditionOpLT, ConditionOpLTE] then
    compareNumeric platform actual cond.value cond.op
  else if cond.op = ConditionOpContains then
    contains (sprint platform actual) (sprint platform cond.value)
  else false

end Values

/-! ### Rules -/

/-- The value of a field, none for a field that is not known. -/
def conditionValue (r : Request) (hit : HitInfo) (field : String) : Option Value :=
  if field = ConditionFieldClusterID then some (.string r.clusterID)
  else if field = ConditionFieldModelID then some (.string r.modelID)
  else if field = ConditionFieldTenantID then some (.string r.tenantID)
  else if field = ConditionFieldInputTokens then some (.int r.inputTokens)
  else if field = ConditionFieldHitRatio then some (.float hit.hitRatio)
  else if field = ConditionFieldBestHitTokens then some (.int hit.bestHitTokens)
  else if field = ConditionFieldEffectiveCachedTokens then some (.int hit.effectiveCachedTokens)
  else if field = ConditionFieldKVEventState then
    some (.string (if r.fresh then KVEventStateAvailable else KVEventStateStale))
  else if field = ConditionFieldTokenized then some (.bool r.tokenized)
  else if field = ConditionFieldHashSupported then some (.bool r.hashSupported)
  else if field = ConditionFieldHasCandidates then some (.bool r.hasCandidates)
  else none

/-- Every condition of the rule holds. -/
def matchesRule (platform : Platform) (r : Request) (hit : HitInfo) (rule : Policy) : Bool :=
  rule.conditions.all fun cond =>
    match conditionValue r hit cond.field with
    | some actual => matchesCondition platform actual cond
    | none => false

/-- The fields that residency decides. -/
def hitFields : List String :=
  [ConditionFieldHitRatio, ConditionFieldBestHitTokens, ConditionFieldEffectiveCachedTokens]

/-- The other fields read the same under every hit. -/
theorem conditionValue_congr (r : Request) (hit hit' : HitInfo) {field : String}
    (other : field ∉ hitFields) : conditionValue r hit field = conditionValue r hit' field := by
  simp only [hitFields, List.mem_cons, List.not_mem_nil, or_false, not_or] at other
  obtain ⟨ratio, best, effective⟩ := other
  simp only [conditionValue, if_neg ratio, if_neg best, if_neg effective]

/-- A rule matches alike wherever its conditions read alike. -/
theorem matchesRule_congr {platform : Platform} {r r' : Request} {hit hit' : HitInfo}
    {rule : Policy}
    (values : ∀ cond ∈ rule.conditions,
      conditionValue r hit cond.field = conditionValue r' hit' cond.field) :
    matchesRule platform r hit rule = matchesRule platform r' hit' rule := by
  rw [matchesRule, matchesRule, Bool.eq_iff_iff, List.all_eq_true, List.all_eq_true]
  refine forall₂_congr fun cond member => ?_
  rw [values cond member]

end KvIndexer.Admission
