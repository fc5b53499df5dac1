import KvIndexer.HttpApi.Route
import KvIndexer.Lib.EncodingJson

/-!
The common request form and the two OpenAI protocols (`internal/normalize/normalize.go`,
`internal/types/types.go`).

A body is a JSON document; one nested too deep for `encoding/json` is refused like a text
that is none, and left out. Values that the code keeps as `any` are decoded to `Value`,
where a number is a float; whether its literal is in range is `strconv.ParseFloat`'s to say,
which is a parameter.
-/

namespace KvIndexer.Normalize

open Config

/-! ### The common form -/

structure ToolCallFunction where
  name : String := ""
  arguments : String := ""
deriving DecidableEq, Repr

structure ToolCall where
  id : String := ""
  type : String := ""
  function : ToolCallFunction := {}
deriving DecidableEq, Repr

/-- A message for the engine's chat template. Content is text, a list of parts or nil. -/
structure ChatMessage where
  role : String := ""
  content : Value := .nil
  toolCalls : List ToolCall := []
  toolCallID : String := ""
  name : String := ""
  reasoning : String := ""

/-- A tool as the client sent it, or the function tool that is built from a flat one. -/
inductive Tool where
  | verbatim (tool : Value)
  | function (name description : String) (parameters : Option Json) (deferLoading : Option Bool)

def ProtocolOpenAIChat : String := "openai.chat"
def ProtocolOpenAIResponses : String := "openai.responses"
def ProtocolAnthropic : String := "anthropic.messages"

structure Turn where
  role : String
  text : String
deriving DecidableEq, Repr

/-- The normalized request. The request id is set later. -/
structure RouteRequest where
  protocol : String
  tenantID : String := ""
  model : String
  messages : List ChatMessage := []
  tools : List Tool := []
  maxTokens : Int64 := 0
  stream : Bool := false
  turns : List Turn := []

/-- `HasMultimodalContent` -/
def RouteRequest.hasMultimodalContent (rr : RouteRequest) : Bool :=
  rr.messages.any fun m => HttpApi.isMultimodalContent m.content

/-! ### Shared helpers -/

def firstNonEmpty (a b : String) : String := if a ≠ "" then a else b

def firstNonNil : Option Int64 → Option Int64 → Int64
  | some a, _ => a
  | none, some b => b
  | none, none => 0

/-- A JSON value as the arguments text of a tool call. -/
def jsonString : Option Json → String
  | none => "\x7b\x7d"
  | some j => j.compact

/-- `tool_choice` is the string "none". -/
def isToolChoiceNone (raw : Option Json) : Bool :=
  Json.unmarshal Json.decodeString "" raw == some "none"

/-- The text of one part. -/
def partText : Value → String
  | .map entries =>
      match entries.lookup "text" with
      | some (.string t) => t
      | _ => ""
  | _ => ""

def contentToText : Value → String
  | .string s => s
  | .list parts => String.join (parts.map partText)
  | _ => ""

def turnsFromMessages (msgs : List ChatMessage) : List Turn :=
  msgs.map fun m => ⟨m.role, contentToText m.content⟩

/-! ### Values kept as `any` -/

/-- `m[k] = v`, with the entries in key order. -/
def insertEntry (k : String) (v : Value) : List (String × Value) → List (String × Value)
  | [] => [(k, v)]
  | (k', v') :: entries =>
      if k = k' then (k, v) :: entries
      else if k < k' then (k, v) :: (k', v') :: entries
      else (k', v') :: insertEntry k v entries

section Any

variable (parseFloat : String → Option Float)

mutual

/-- A document decoded into an `any`; a number out of range stays nil. -/
def toAny : Json → Value
  | .null => .nil
  | .bool b => .bool b
  | .number literal => (parseFloat literal).elim .nil .float
  | .string s => .string s.text
  | .array elements => .list (toAnyAll elements)
  | .object members => .map (toEntries [] members)

def toAnyAll : List Json → List Value
  | [] => []
  | j :: js => toAny j :: toAnyAll js

def toEntries : List (String × Value) → Json.Members → List (String × Value)
  | entries, [] => entries
  | entries, (name, j) :: members => toEntries (insertEntry name.text (toAny j) entries) members

end

mutual

/-- Every number is one. -/
def inRange : Json → Bool
  | .null => true
  | .bool _ => true
  | .number literal => (parseFloat literal).isSome
  | .string _ => true
  | .array elements => inRangeAll elements
  | .object members => inRangeMembers members

def inRangeAll : List Json → Bool
  | [] => true
  | j :: js => inRange j && inRangeAll js

def inRangeMembers : Json.Members → Bool
  | [] => true
  | (_, j) :: members => inRange j && inRangeMembers members

end

/-- An `any`, without an error. -/
def decodeAny : Json.Decoder Value := fun _ j =>
  if inRange parseFloat j then some (toAny parseFloat j) else none

/-- A `map[string]any` -/
def decodeMap : Json.Decoder (List (String × Value))
  | _, .null => some []
  | old, .object members =>
      if inRangeMembers parseFloat members then some (toEntries parseFloat old members) else none
  | _, _ => none

end Any

end KvIndexer.Normalize
