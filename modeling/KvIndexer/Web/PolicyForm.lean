import KvIndexer.Admission.Rules
import Mathlib.Data.List.DropRight

/-!
The policy editor of the web pages (`web/app/policies/page.tsx`).

A policy comes from the API as JSON, is taken apart into a form of texts and numbers, and
is put together again when the form is saved. `saved` is the whole way, from the policy
the API has to the one it is given back: `policyJson` and `policyOfJson` are the two ends
of the encoding (`internal/config/model.go`), `formStateFromPolicy` and `payloadFromForm`
the page's part between them.

A number has one value on both sides, so JSON carries it, but for what JSON has no number
for: the page sends a NaN or an infinity as null, and a negative zero as zero. Whole
numbers that the API reads into an integer go by their digits.
-/

namespace KvIndexer.Web

open Config

/-! ### Values of the page -/

/-- A value of the script. -/
inductive Js where
  | undefined
  | null
  | bool (b : Bool)
  | number (x : Float)
  | string (s : String)
  | array (items : List Js)
  | object (entries : List (String × Js))

/-- What the script has from the browser. -/
structure Browser where
  /-- `String(x)` of a number, which is also how JSON shows it -/
  ofNumber : Float → String
  /-- `Number(text)` -/
  toNumber : String → Float

mutual

/-- A value of the API as the page gets it. -/
def ofValue : Value → Js
  | .nil => .null
  | .bool b => .bool b
  | .int n => .number (float64 n)
  | .uint n => .number (float64OfUint n)
  | .float f => .number f
  | .string s => .string s
  | .list values => .array (ofValues values)
  | .map entries => .object (ofEntries entries)

def ofValues : List Value → List Js
  | [] => []
  | v :: values => ofValue v :: ofValues values

def ofEntries : List (String × Value) → List (String × Js)
  | [] => []
  | (key, v) :: entries => (key, ofValue v) :: ofEntries entries

end

/-- A number of the page as JSON carries it, none for null. -/
def jsonNumber (x : Float) : Option Float :=
  if x.isFinite then some (if x == 0 then 0 else x) else none

mutual

/-- A value of the page as the API reads it. -/
def toValue : Js → Value
  | .undefined => .nil
  | .null => .nil
  | .bool b => .bool b
  | .number x => (jsonNumber x).elim .nil .float
  | .string s => .string s
  | .array items => .list (toValues items)
  | .object entries => .map (toEntries entries)

def toValues : List Js → List Value
  | [] => []
  | item :: items => toValue item :: toValues items

def toEntries : List (String × Js) → List (String × Value)
  | [] => []
  | (key, item) :: entries => (key, toValue item) :: toEntries entries

end

/-- `strconv.ParseInt` of the digits of a JSON number, as the API reads it into an `int`. -/
def decodeInt (text : String) : Option Int64 :=
  match text.toList with
  | '-' :: digits => (natOf digits).bind fun n => if n ≤ 2 ^ 63 then some (.ofInt (-n)) else none
  | digits => (natOf digits).bind fun n => if n < 2 ^ 63 then some (.ofInt n) else none
where
  natOf (digits : List Char) : Option Nat :=
    if digits ≠ [] ∧ digits.all Char.isDigit then some (Nat.ofDigitChars 10 digits 0) else none

/-! ### The policy as JSON -/

structure ConditionJson where
  field : String
  op : String
  value : Js

structure ActionJson where
  type : String
  minHitRatio : Option Float := none
  onLowHit : Option String := none
  onUncertain : Option String := none
  rejectStatus : Option Float := none

structure PolicyJson where
  ruleID : String
  name : Option String
  priority : Float
  conditions : Option (List ConditionJson)
  action : ActionJson
  enabled : Option Bool

/-- `omitempty` of a text. -/
def nonempty (text : String) : Option String := if text = "" then none else some text

def conditionJson (c : RuleCondition) : ConditionJson where
  field := c.field
  op := c.op
  value :=
    match c.value with
    | .nil => .undefined
    | v => ofValue v

def actionJson (a : RuleAction) : ActionJson where
  type := a.type
  minHitRatio := a.minHitRatio
  onLowHit := nonempty a.onLowHit
  onUncertain := nonempty a.onUncertain
  rejectStatus := if a.rejectStatus = 0 then none else some (float64 a.rejectStatus)

/-- A policy as the API returns it. -/
def policyJson (p : Policy) : PolicyJson where
  ruleID := p.ruleID
  name := nonempty p.name
  priority := float64 p.priority
  conditions := if p.conditions = [] then none else some (p.conditions.map conditionJson)
  action := actionJson p.action
  enabled := p.enabled

/-! ### Texts of values -/

/-- The white space and line ends of the script. -/
def isSpace (c : Char) : Bool :=
  (9 ≤ c.toNat && c.toNat ≤ 13) || c.toNat == 32 || c.toNat == 0xa0 || c.toNat == 0x1680 ||
    (0x2000 ≤ c.toNat && c.toNat ≤ 0x200a) || c.toNat == 0x2028 || c.toNat == 0x2029 ||
    c.toNat == 0x202f || c.toNat == 0x205f || c.toNat == 0x3000 || c.toNat == 0xfeff

/-- `text.trim()` -/
def trim (text : String) : String :=
  String.ofList ((text.toList.dropWhile isSpace).reverse.dropWhile isSpace).reverse

/-- `text.split(",")` -/
def splitComma (text : String) : List String := (text.toList.splitOn ',').map String.ofList

section Texts

variable (browser : Browser)

mutual

/-- `String(value)` -/
def toText : Js → String
  | .undefined => "undefined"
  | .null => "null"
  | .bool b => if b then "true" else "false"
  | .number x => browser.ofNumber x
  | .string s => s
  | .array items => ",".intercalate (elementTexts items)
  | .object _ => "[object Object]"

/-- The texts that `join` puts together. -/
def elementTexts : List Js → List String
  | [] => []
  | .undefined :: items => "" :: elementTexts items
  | .null :: items => "" :: elementTexts items
  | item :: items => toText item :: elementTexts items

end

def valueToInput : Js → String
  | .array items => ", ".intercalate (elementTexts browser items)
  | .undefined => ""
  | .null => ""
  | value => toText browser value

def numericField (field : String) : Bool :=
  field ∈ ["input_tokens", "hit_ratio", "best_hit_tokens", "effective_cached_tokens"]

def booleanField (field : String) : Bool :=
  field ∈ ["tokenized", "hash_supported", "has_candidates"]

def parseSingleValue (field raw : String) : Js :=
  if numericField field then .number (browser.toNumber raw)
  else if booleanField field then .bool (raw == "true")
  else .string raw

/-- `part !== ""` -/
def notEmptyText : Js → Bool
  | .string s => s ≠ ""
  | _ => true

def parseConditionValue (field op raw : String) : Js :=
  if op = "in" ∨ op = "not_in" then
    .array (((splitComma raw).map fun part => parseSingleValue browser field (trim part)).filter
      notEmptyText)
  else parseSingleValue browser field raw

end Texts

/-! ### The form -/

structure ConditionDraft where
  field : String
  op : String
  value : String

structure PolicyFormState where
  ruleID : String
  name : String
  priority : Float
  scopeCluster : String
  conditions : List ConditionDraft
  actionType : String
  minHitRatio : Float
  onLowHit : String
  onUncertain : String
  rejectStatus : Float
  enabled : Bool

def defaultCondition : ConditionDraft := ⟨"input_tokens", "gte", "256"⟩

def defaultConditions (cluster : String) : List ConditionDraft :=
  if cluster ≠ "all" then [⟨"cluster_id", "eq", cluster⟩, defaultCondition] else [defaultCondition]

/-- The form shows this condition as the policy's cluster. -/
def isScope (condition : ConditionDraft) : Bool :=
  condition.field = "cluster_id" && (condition.op = "" || condition.op = "eq") &&
    trim condition.value ≠ ""

/-- The first condition on one cluster is taken out of the list. -/
def extractScopeCluster (conditions : List ConditionDraft) : String × List ConditionDraft :=
  match conditions.find? isScope with
  | none => ("", conditions)
  | some condition => (trim condition.value, conditions.eraseP isScope)

section Form

variable (browser : Browser)

/-- A condition as the form holds it. -/
def draft (condition : ConditionJson) : ConditionDraft where
  field := condition.field
  op := if condition.op = "" then "eq" else condition.op
  value := valueToInput browser condition.value

def formStateFromPolicy (initial : Option PolicyJson) (cluster : String) : PolicyFormState :=
  let sourceConditions :=
    match initial.bind PolicyJson.conditions with
    | some conditions => conditions.map (draft browser)
    | none => defaultConditions cluster
  let scope := extractScopeCluster sourceConditions
  let action := initial.map PolicyJson.action
  { ruleID := (initial.map PolicyJson.ruleID).getD ""
    name := (initial.bind PolicyJson.name).getD ""
    priority := (initial.map PolicyJson.priority).getD 100
    scopeCluster := scope.1
    conditions := scope.2
    actionType := (action.map ActionJson.type).getD "require_cache_hit"
    minHitRatio := (action.bind ActionJson.minHitRatio).getD 0.5
    onLowHit := (action.bind ActionJson.onLowHit).getD "reject"
    onUncertain := (action.bind ActionJson.onUncertain).getD "fallback_accept"
    rejectStatus := (action.bind ActionJson.rejectStatus).getD 429
    enabled := initial.bind PolicyJson.enabled ≠ some false }

/-- The action of the payload: only the fields of its type are sent. -/
def actionFromForm (f : PolicyFormState) : ActionJson :=
  if f.actionType = "require_cache_hit" then
    { type := f.actionType
      minHitRatio := some f.minHitRatio
      onLowHit := some f.onLowHit
      onUncertain := some f.onUncertain
      rejectStatus := some f.rejectStatus }
  else if f.actionType = "reject" then
    { type := f.actionType, rejectStatus := some f.rejectStatus }
  else { type := f.actionType }

def conditionFromDraft (condition : ConditionDraft) : ConditionJson where
  field := condition.field
  op := condition.op
  value := parseConditionValue browser condition.field condition.op condition.value

/-- The conditions of the payload. A condition without a field or an operator is dropped. -/
def conditionsFromForm (f : PolicyFormState) : List ConditionJson :=
  let conditions :=
    (f.conditions.filter fun condition => condition.field ≠ "" && condition.op ≠ "").map
      (conditionFromDraft browser)
  if trim f.scopeCluster ≠ "" then
    ⟨"cluster_id", "eq", .string (trim f.scopeCluster)⟩ :: conditions
  else conditions

def payloadFromForm (f : PolicyFormState) : PolicyJson where
  ruleID := f.ruleID
  name := nonempty f.name
  priority := f.priority
  conditions := some (conditionsFromForm browser f)
  action := actionFromForm f
  enabled := some f.enabled

/-! ### The policy the API is given -/

def conditionOfJson (condition : ConditionJson) : RuleCondition where
  field := condition.field
  op := condition.op
  value := toValue condition.value

/-- A number that the API reads into an `int`, zero if it is not sent. -/
def intOfJson : Option Float → Option Int64
  | none => some 0
  | some x => decodeInt (browser.ofNumber x)

def actionOfJson (action : ActionJson) : Option RuleAction := do
  let rejectStatus ← intOfJson browser action.rejectStatus
  return {
    type := action.type
    minHitRatio := action.minHitRatio.bind jsonNumber
    onLowHit := action.onLowHit.getD ""
    onUncertain := action.onUncertain.getD ""
    rejectStatus := rejectStatus }

/-- The payload as the API reads it, none if an integer does not fit. -/
def policyOfJson (payload : PolicyJson) : Option Policy := do
  let priority ← intOfJson browser (some payload.priority)
  let action ← actionOfJson browser payload.action
  return {
    ruleID := payload.ruleID
    name := payload.name.getD ""
    priority := priority
    conditions := (payload.conditions.getD []).map conditionOfJson
    action := action
    enabled := payload.enabled }

/-- A policy that is opened in the form and saved as it is. -/
def saved (cluster : String) (p : Policy) : Option Policy :=
  policyOfJson browser (payloadFromForm browser (formStateFromPolicy browser (some (policyJson p))
    cluster))

end Form

end KvIndexer.Web
