import KvIndexer.Itoa
import KvIndexer.Normalize.Request

/-!
OpenAI chat completions and responses (`internal/normalize/normalize.go`).

Chat messages are handed on as they are. Responses items become messages one by one; a
function call goes to the assistant message before it, if the last message is one.
-/

namespace KvIndexer.Normalize

open Config Json

/-! ### Chat -/

def toolCallFunctionFields : List (StructField ToolCallFunction) :=
  [.of "name" decodeString (·.name) fun s x => { s with name := x },
    .of "arguments" decodeString (·.arguments) fun s x => { s with arguments := x }]

def decodeToolCallFunction : Decoder ToolCallFunction := decodeStruct toolCallFunctionFields

def toolCallFields : List (StructField ToolCall) :=
  [.of "id" decodeString (·.id) fun s x => { s with id := x },
    .of "type" decodeString (·.type) fun s x => { s with type := x },
    .of "function" decodeToolCallFunction (·.function) fun s x => { s with function := x }]

def decodeToolCall : Decoder ToolCall := decodeStruct toolCallFields

section

variable (parseFloat : String → Option Float)

def chatMessageFields : List (StructField ChatMessage) :=
  [.of "role" decodeString (·.role) fun s x => { s with role := x },
    .of "content" (decodeAny parseFloat) (·.content) fun s x => { s with content := x },
    .of "tool_calls" (decodeSlice decodeToolCall {}) (·.toolCalls)
      fun s x => { s with toolCalls := x },
    .of "tool_call_id" decodeString (·.toolCallID) fun s x => { s with toolCallID := x },
    .of "name" decodeString (·.name) fun s x => { s with name := x },
    .of "reasoning" decodeString (·.reasoning) fun s x => { s with reasoning := x }]

def decodeChatMessage : Decoder ChatMessage := decodeStruct (chatMessageFields parseFloat)

structure ChatBody where
  model : String := ""
  messages : List ChatMessage := []
  tools : List Value := []
  toolChoice : Option Json := none
  maxTokens : Option Int64 := none
  maxCompletionTokens : Option Int64 := none
  stream : Bool := false
  user : String := ""

def chatBodyFields : List (StructField ChatBody) :=
  [.of "model" decodeString (·.model) fun s x => { s with model := x },
    .of "messages" (decodeSlice (decodeChatMessage parseFloat) {}) (·.messages)
      fun s x => { s with messages := x },
    .of "tools" (decodeSlice (decodeAny parseFloat) .nil) (·.tools)
      fun s x => { s with tools := x },
    .of "tool_choice" decodeRaw (·.toolChoice) fun s x => { s with toolChoice := x },
    .of "max_tokens" (decodePointer decodeInt 0) (·.maxTokens) fun s x => { s with maxTokens := x },
    .of "max_completion_tokens" (decodePointer decodeInt 0) (·.maxCompletionTokens)
      fun s x => { s with maxCompletionTokens := x },
    .of "stream" decodeBool (·.stream) fun s x => { s with stream := x },
    .of "user" decodeString (·.user) fun s x => { s with user := x }]

def decodeChatBody : Decoder ChatBody := decodeStruct (chatBodyFields parseFloat)

/-- `FromOpenAIChat`. The text of a parse error ends with `encoding/json`'s own. -/
def fromOpenAIChat (raw : Json) : Except String RouteRequest :=
  match decodeChatBody parseFloat {} raw with
  | none => .error "parse chat request"
  | some body =>
      if body.model = "" then .error "missing model"
      else
        .ok
          { protocol := ProtocolOpenAIChat
            model := body.model
            messages := body.messages
            tools := if isToolChoiceNone body.toolChoice then [] else body.tools.map .verbatim
            stream := body.stream
            tenantID := body.user
            maxTokens := firstNonNil body.maxCompletionTokens body.maxTokens
            turns := turnsFromMessages body.messages }

end

/-! ### Responses -/

/-- What is read of one input item. -/
structure ResponsesItem where
  type : String := ""
  role : String := ""
  content : Option Json := none
  callID : String := ""
  name : String := ""
  arguments : String := ""
  output : Option Json := none

def responsesItemFields : List (StructField ResponsesItem) :=
  [.of "type" decodeString (·.type) fun s x => { s with type := x },
    .of "role" decodeString (·.role) fun s x => { s with role := x },
    .of "content" decodeRaw (·.content) fun s x => { s with content := x },
    .of "call_id" decodeString (·.callID) fun s x => { s with callID := x },
    .of "name" decodeString (·.name) fun s x => { s with name := x },
    .of "arguments" decodeString (·.arguments) fun s x => { s with arguments := x },
    .of "output" decodeRaw (·.output) fun s x => { s with output := x }]

def decodeResponsesItem : Decoder ResponsesItem := decodeStruct responsesItemFields

/-- The string a part has under a name. -/
def partString (p : List (String × Value)) (name : String) : Option String :=
  match p.lookup name with
  | some (.string s) => some s
  | _ => none

def textPart (text : Value) : Value := .map [("text", text), ("type", .string "text")]

def imagePart (url : String) : Value :=
  .map [("image_url", .map [("url", .string url)]), ("type", .string "image_url")]

/-- The loop body of `convertResponsesContent`. A part of another type is kept as it is. -/
def convertResponsesPart (p : List (String × Value)) : Value :=
  let t := (partString p "type").getD ""
  if t ∈ ["input_text", "output_text", "text"] then textPart ((p.lookup "text").getD .nil)
  else if t = "input_image" then
    imagePart (((partString p "image_url").or (partString p "url")).getD "")
  else .map p

/-- The text of a part that is a text part. -/
def soleText : Value → Option Value
  | .map entries =>
      if partString entries "type" = some "text" then some ((entries.lookup "text").getD .nil)
      else none
  | _ => none

section

variable (parseFloat : String → Option Float)

def convertResponsesContent (raw : Option Json) : Value :=
  match raw with
  | none => .string ""
  | some raw =>
      match decodeString "" raw with
      | some s => .string s
      | none =>
          match decodeSlice (decodeMap parseFloat) [] [] raw with
          | none => .string ""
          | some parts =>
              match parts.map convertResponsesPart with
              | [] => .string ""
              | [part] => (soleText part).getD (.list [part])
              | out => .list out

/-- The id of the call that comes `counter` calls after the first. -/
def nextID (counter : Nat) : String := "function_call_" ++ itoa counter

/-- Attach a call to the last message if it is the assistant's, else to a new one. -/
def appendCall (msgs : List ChatMessage) (tc : ToolCall) : List ChatMessage :=
  match msgs.getLast? with
  | some last =>
      if last.role = "assistant" then
        msgs.dropLast ++ [{ last with toolCalls := last.toolCalls ++ [tc] }]
      else msgs ++ [{ role := "assistant", toolCalls := [tc] }]
  | none => [{ role := "assistant", toolCalls := [tc] }]

/-- The messages so far, and the number of ids handed out. -/
abbrev Progress := List ChatMessage × Nat

/-- The message of an item that is neither a call, nor an output, nor reasoning. -/
def messageOf (item : ResponsesItem) : ChatMessage :=
  { role :=
      if item.role ≠ "" then item.role
      else if item.type = "output_message" then "assistant" else "user"
    content := convertResponsesContent parseFloat item.content }

/-- The decoded output; what is wrong in it is nil. -/
def outputOf (item : ResponsesItem) : ChatMessage :=
  { role := "tool"
    toolCallID := item.callID
    content := (item.output.map (toAny parseFloat)).getD .nil }

def callOf (item : ResponsesItem) (counter : Nat) : ToolCall :=
  { id := firstNonEmpty item.callID (nextID counter)
    type := "function"
    function := ⟨item.name, item.arguments⟩ }

/-- The switch over the type of an item. -/
def appendItem (progress : Progress) (item : ResponsesItem) : Progress :=
  if item.type = "function_call" then
    (appendCall progress.1 (callOf item progress.2), progress.2 + 1)
  else if item.type = "function_call_output" then
    (progress.1 ++ [outputOf parseFloat item], progress.2)
  else if item.type = "reasoning" then progress
  else (progress.1 ++ [messageOf parseFloat item], progress.2)

/-- An item that cannot be decoded is skipped. -/
def appendResponsesItem (progress : Progress) (raw : Json) : Progress :=
  match decodeResponsesItem {} raw with
  | none => progress
  | some item => appendItem parseFloat progress item

structure ResponsesTool where
  type : String := ""
  name : String := ""
  description : String := ""
  parameters : Option Json := none

def responsesToolFields : List (StructField ResponsesTool) :=
  [.of "type" decodeString (·.type) fun s x => { s with type := x },
    .of "name" decodeString (·.name) fun s x => { s with name := x },
    .of "description" decodeString (·.description) fun s x => { s with description := x },
    .of "parameters" decodeRaw (·.parameters) fun s x => { s with parameters := x }]

def decodeResponsesTool : Decoder ResponsesTool := decodeStruct responsesToolFields

def convertResponsesTools (tools : List ResponsesTool) : List Tool :=
  tools.map fun t => .function t.name t.description t.parameters none

structure ResponsesBody where
  model : String := ""
  input : Option Json := none
  instructions : String := ""
  tools : List ResponsesTool := []
  toolChoice : Option Json := none
  maxOutputTokens : Option Int64 := none
  stream : Bool := false
  user : String := ""

abbrev inputField : StructField ResponsesBody :=
  .of "input" decodeRaw (·.input) fun s x => { s with input := x }

def responsesBodyFields : List (StructField ResponsesBody) :=
  [.of "model" decodeString (·.model) fun s x => { s with model := x },
    inputField,
    .of "instructions" decodeString (·.instructions) fun s x => { s with instructions := x },
    .of "tools" (decodeSlice decodeResponsesTool {}) (·.tools) fun s x => { s with tools := x },
    .of "tool_choice" decodeRaw (·.toolChoice) fun s x => { s with toolChoice := x },
    .of "max_output_tokens" (decodePointer decodeInt 0) (·.maxOutputTokens)
      fun s x => { s with maxOutputTokens := x },
    .of "stream" decodeBool (·.stream) fun s x => { s with stream := x },
    .of "user" decodeString (·.user) fun s x => { s with user := x }]

def decodeResponsesBody : Decoder ResponsesBody := decodeStruct responsesBodyFields

theorem lawful_responsesBodyFields : LawfulFields responsesBodyFields := by
  simp +decide [responsesBodyFields]

/-- The message of the instructions, if there are any. -/
def instructionMessages (instructions : String) : List ChatMessage :=
  if instructions ≠ "" then [{ role := "system", content := .string instructions }] else []

/-- The messages after those of the instructions; none if the input is neither a string nor
a list. -/
def appendResponsesInput (msgs : List ChatMessage) : Option Json → Option (List ChatMessage)
  | none => some msgs
  | some input =>
      match decodeString "" input with
      | some s => some (msgs ++ [{ role := "user", content := .string s }])
      | none =>
          match decodeSlice (fun _ j => some j) .null [] input with
          | none => none
          | some items => some (items.foldl (appendResponsesItem parseFloat) (msgs, 0)).1

/-- `FromOpenAIResponses` -/
def fromOpenAIResponses (raw : Json) : Except String RouteRequest :=
  match decodeResponsesBody {} raw with
  | none => .error "parse responses request"
  | some body =>
      if body.model = "" then .error "missing model"
      else
        match
          appendResponsesInput parseFloat (instructionMessages body.instructions) body.input with
        | none => .error "parse responses input"
        | some msgs =>
            .ok
              { protocol := ProtocolOpenAIResponses
                model := body.model
                messages := msgs
                tools :=
                  if isToolChoiceNone body.toolChoice then [] else convertResponsesTools body.tools
                stream := body.stream
                tenantID := body.user
                maxTokens := body.maxOutputTokens.getD 0
                turns := turnsFromMessages msgs }

end

end KvIndexer.Normalize
