import KvIndexer.Normalize.OpenAI

/-!
Anthropic messages (`internal/normalize/anthropic.go`, `anthropic_sglang.go`,
`anthropic_vllm.go`).

The two adapters share the envelope, the tools and the way they go through the messages.
Each has its own switch over the blocks of a message, which is the step of a fold here:
`Conversion` collects what the switch collects. The messages split out of a turn come
before the content message on SGLang and after it on vLLM.
-/

namespace KvIndexer.Normalize

open Config Json

structure AnthropicTool where
  name : String := ""
  description : String := ""
  inputSchema : Option Json := none
  deferLoading : Option Bool := none

/-- One content block of a message. -/
structure AnthropicBlock where
  type : String := ""
  text : String := ""
  thinking : String := ""
  source : Option Json := none
  id : String := ""
  toolUseID : String := ""
  name : String := ""
  input : Option Json := none
  content : Option Json := none

structure AnthropicMessage where
  role : String := ""
  content : Option Json := none

structure AnthropicEnvelope where
  model : String := ""
  system : Option Json := none
  messages : List AnthropicMessage := []
  tools : List AnthropicTool := []
  toolChoice : Option Json := none
  maxTokens : Int64 := 0
  stream : Bool := false

def anthropicToolFields : List (StructField AnthropicTool) :=
  [.of "name" decodeString (·.name) fun s x => { s with name := x },
    .of "description" decodeString (·.description) fun s x => { s with description := x },
    .of "input_schema" decodeRaw (·.inputSchema) fun s x => { s with inputSchema := x },
    .of "defer_loading" (decodePointer decodeBool false) (·.deferLoading)
      fun s x => { s with deferLoading := x }]

def decodeAnthropicTool : Decoder AnthropicTool := decodeStruct anthropicToolFields

def anthropicBlockFields : List (StructField AnthropicBlock) :=
  [.of "type" decodeString (·.type) fun s x => { s with type := x },
    .of "text" decodeString (·.text) fun s x => { s with text := x },
    .of "thinking" decodeString (·.thinking) fun s x => { s with thinking := x },
    .of "source" decodeRaw (·.source) fun s x => { s with source := x },
    .of "id" decodeString (·.id) fun s x => { s with id := x },
    .of "tool_use_id" decodeString (·.toolUseID) fun s x => { s with toolUseID := x },
    .of "name" decodeString (·.name) fun s x => { s with name := x },
    .of "input" decodeRaw (·.input) fun s x => { s with input := x },
    .of "content" decodeRaw (·.content) fun s x => { s with content := x }]

def decodeAnthropicBlock : Decoder AnthropicBlock := decodeStruct anthropicBlockFields

def anthropicMessageFields : List (StructField AnthropicMessage) :=
  [.of "role" decodeString (·.role) fun s x => { s with role := x },
    .of "content" decodeRaw (·.content) fun s x => { s with content := x }]

def decodeAnthropicMessage : Decoder AnthropicMessage := decodeStruct anthropicMessageFields

abbrev messagesField : StructField AnthropicEnvelope :=
  .of "messages" (decodeSlice decodeAnthropicMessage {}) (·.messages)
    fun s x => { s with messages := x }

def anthropicEnvelopeFields : List (StructField AnthropicEnvelope) :=
  [.of "model" decodeString (·.model) fun s x => { s with model := x },
    .of "system" decodeRaw (·.system) fun s x => { s with system := x },
    messagesField,
    .of "tools" (decodeSlice decodeAnthropicTool {}) (·.tools) fun s x => { s with tools := x },
    .of "tool_choice" decodeRaw (·.toolChoice) fun s x => { s with toolChoice := x },
    .of "max_tokens" decodeInt (·.maxTokens) fun s x => { s with maxTokens := x },
    .of "stream" decodeBool (·.stream) fun s x => { s with stream := x }]

def decodeAnthropicEnvelope : Decoder AnthropicEnvelope := decodeStruct anthropicEnvelopeFields

theorem lawful_anthropicEnvelopeFields : LawfulFields anthropicEnvelopeFields := by
  simp +decide [anthropicEnvelopeFields]

def parseAnthropicEnvelope (raw : Json) : Except String AnthropicEnvelope :=
  match decodeAnthropicEnvelope {} raw with
  | none => .error "parse anthropic request"
  | some env => if env.model = "" then .error "missing model" else .ok env

def convertAnthropicTools (tools : List AnthropicTool) : List Tool :=
  tools.map fun t => .function t.name t.description t.inputSchema t.deferLoading

structure ToolChoice where
  type : String := ""
deriving DecidableEq

def toolChoiceFields : List (StructField ToolChoice) :=
  [.of "type" decodeString (·.type) fun s x => { s with type := x }]

def decodeToolChoice : Decoder ToolChoice := decodeStruct toolChoiceFields

def anthropicToolChoiceNone (raw : Option Json) : Bool :=
  unmarshal decodeToolChoice {} raw == some { type := "none" }

def buildAnthropicRouteRequest (env : AnthropicEnvelope) (msgs : List ChatMessage) :
    RouteRequest where
  protocol := ProtocolAnthropic
  model := env.model
  messages := msgs
  tools := if anthropicToolChoiceNone env.toolChoice then [] else convertAnthropicTools env.tools
  stream := env.stream
  maxTokens := env.maxTokens
  turns := turnsFromMessages msgs

/-! ### Parts -/

structure ImageSource where
  type : String := ""
  mediaType : String := ""
  data : String := ""
  url : String := ""

def imageSourceFields : List (StructField ImageSource) :=
  [.of "type" decodeString (·.type) fun s x => { s with type := x },
    .of "media_type" decodeString (·.mediaType) fun s x => { s with mediaType := x },
    .of "data" decodeString (·.data) fun s x => { s with data := x },
    .of "url" decodeString (·.url) fun s x => { s with url := x }]

def decodeImageSource : Decoder ImageSource := decodeStruct imageSourceFields

/-- The URL of the image part, none for an invalid or empty source. -/
def anthropicImageURL (raw : Option Json) (defaultMT : String) : Option String :=
  match unmarshal decodeImageSource {} raw with
  | none => none
  | some src =>
      if src.type = "base64" ∧ src.data ≠ "" then
        some ("data:" ++ firstNonEmpty src.mediaType defaultMT ++ ";base64," ++ src.data)
      else if src.url ≠ "" then some src.url
      else none

def anthropicImageToPart (raw : Option Json) (defaultMT : String) : Option Value :=
  (anthropicImageURL raw defaultMT).map imagePart

/-- One text part becomes a text, no part becomes nil. -/
def collapseContentParts : List Value → Value
  | [] => .nil
  | [part] => (soleText part).getD (.list [part])
  | parts => .list parts

/-- One block of an array under `system`. -/
structure SystemBlock where
  type : String := ""
  text : String := ""

def systemBlockFields : List (StructField SystemBlock) :=
  [.of "type" decodeString (·.type) fun s x => { s with type := x },
    .of "text" decodeString (·.text) fun s x => { s with text := x }]

def decodeSystemBlock : Decoder SystemBlock := decodeStruct systemBlockFields

/-- One element of an array under the content of a tool result. -/
structure ToolResultItem where
  type : String := ""
  text : String := ""
  source : Option Json := none
  toolName : String := ""
  name : String := ""

def toolResultItemFields : List (StructField ToolResultItem) :=
  [.of "type" decodeString (·.type) fun s x => { s with type := x },
    .of "text" decodeString (·.text) fun s x => { s with text := x },
    .of "source" decodeRaw (·.source) fun s x => { s with source := x },
    .of "tool_name" decodeString (·.toolName) fun s x => { s with toolName := x },
    .of "name" decodeString (·.name) fun s x => { s with name := x }]

def decodeToolResultItem : Decoder ToolResultItem := decodeStruct toolResultItemFields

/-- The tool that a reference names. -/
def ToolResultItem.ref (it : ToolResultItem) : String := firstNonEmpty it.toolName it.name

def toolReferencePart (ref : String) : Value :=
  .map [("name", .string ref), ("type", .string "tool_reference")]

/-- The id of a generated call. -/
def genID (counter : Nat) : String := "call_" ++ itoa counter

def toolUseCall (b : AnthropicBlock) (counter : Nat) : ToolCall where
  id := firstNonEmpty b.id (genID counter)
  type := "function"
  function := ⟨b.name, jsonString b.input⟩

/-- What the loop over the blocks of a message has collected. -/
structure Conversion where
  contentParts : List Value := []
  toolCalls : List ToolCall := []
  reasoning : String := ""
  /-- tool results and images that become messages of their own -/
  split : List ChatMessage := []
  counter : Nat

namespace Conversion

def addPart (c : Conversion) (part : Value) : Conversion :=
  { c with contentParts := c.contentParts ++ [part] }

def addCall (c : Conversion) (b : AnthropicBlock) : Conversion :=
  { c with toolCalls := c.toolCalls ++ [toolUseCall b c.counter], counter := c.counter + 1 }

def addSplit (c : Conversion) (msgs : List ChatMessage) : Conversion :=
  { c with split := c.split ++ msgs }

end Conversion

/-- `v == nil` -/
def isNil : Value → Bool
  | .nil => true
  | _ => false

/-- What sets an adapter apart: the system text (none for no system message), the switch over
the blocks of a message with its role, and the messages made of what the switch collected. -/
structure AnthropicAdapter where
  system : Option Json → Option String
  block : String → Conversion → AnthropicBlock → Conversion
  messages : String → Conversion → List ChatMessage

namespace AnthropicAdapter

variable (adapter : AnthropicAdapter)

/-- The messages of one message, with `counter` ids handed out before it. Content that is
neither a text nor a list of blocks is skipped. -/
def message (counter : Nat) (m : AnthropicMessage) : Progress :=
  match unmarshal decodeString "" m.content with
  | some s => ([{ role := m.role, content := .string s }], counter)
  | none =>
      match unmarshal (decodeSlice decodeAnthropicBlock {}) [] m.content with
      | none => ([], counter)
      | some blocks =>
          let c := blocks.foldl (adapter.block m.role) { counter }
          (adapter.messages m.role c, c.counter)

def appendMessage (progress : Progress) (m : AnthropicMessage) : Progress :=
  let out := adapter.message progress.2 m
  (progress.1 ++ out.1, out.2)

def systemMessages (system : Option Json) : List ChatMessage :=
  match adapter.system system with
  | some sys => [{ role := "system", content := .string sys }]
  | none => []

/-- The messages of the envelope. -/
def convert (env : AnthropicEnvelope) : List ChatMessage :=
  (env.messages.foldl adapter.appendMessage (adapter.systemMessages env.system, 0)).1

/-- `FromAnthropic` -/
def fromAnthropic (raw : Json) : Except String RouteRequest :=
  match parseAnthropicEnvelope raw with
  | .error e => .error e
  | .ok env => .ok (buildAnthropicRouteRequest env (adapter.convert env))

end AnthropicAdapter

/-! ### SGLang -/

def sglangImageDefaultMediaType : String := "image/png"

/-- The system text; empty for none. -/
def sglangAnthropicSystem (raw : Option Json) : String :=
  match unmarshal decodeString "" raw with
  | some s => s
  | none =>
      match unmarshal (decodeSlice decodeSystemBlock {}) [] raw with
      | none => ""
      | some blocks =>
          "\n".intercalate
            ((blocks.filter fun b => b.type = "text" ∧ b.text ≠ "").map SystemBlock.text)

/-- The part of one element of a tool result. -/
def sglangResultPart (it : ToolResultItem) : Option Value :=
  if it.type = "text" then if it.text ≠ "" then some (textPart (.string it.text)) else none
  else if it.type = "image" then anthropicImageToPart it.source sglangImageDefaultMediaType
  else if it.type = "tool_reference" then
    if it.ref ≠ "" then some (toolReferencePart it.ref) else none
  else none

/-- The content of a tool message, and the text that an assistant's result is inlined as. -/
def sglangToolResultContent (raw : Option Json) : Value × String :=
  match unmarshal decodeString "" raw with
  | some s => (.string s, s)
  | none =>
      match unmarshal (decodeSlice decodeToolResultItem {}) [] raw with
      | none => (.string "", "")
      | some items =>
          let texts :=
            (items.filter fun it => it.type = "text" ∧ it.text ≠ "").map ToolResultItem.text
          let content :=
            match items.filterMap sglangResultPart with
            | [] => .string ""
            | [part] => (soleText part).getD (.list [part])
            | parts => .list parts
          (content, "\n".intercalate texts)

/-- The switch over the type of a block; other types are skipped. -/
def sglangBlock (role : String) (c : Conversion) (b : AnthropicBlock) : Conversion :=
  if b.type = "text" then if b.text ≠ "" then c.addPart (textPart (.string b.text)) else c
  else if b.type = "image" then
    match anthropicImageToPart b.source sglangImageDefaultMediaType with
    | some part => c.addPart part
    | none => c
  else if b.type = "tool_use" then c.addCall b
  else if b.type = "tool_result" then
    let result := sglangToolResultContent b.content
    if role = "user" then
      c.addSplit
        [{ role := "tool", toolCallID := firstNonEmpty b.toolUseID b.id, content := result.1 }]
    else c.addPart (textPart (.string ("Tool result: " ++ result.2)))
  else c

/-- The content message after the others, unless it is empty. -/
def sglangMessages (role : String) (c : Conversion) : List ChatMessage :=
  let content := collapseContentParts c.contentParts
  if isNil content ∧ c.toolCalls = [] then c.split
  else c.split ++ [{ role, content, toolCalls := c.toolCalls }]

/-- A system text that is empty gives no message. -/
def sglangAdapter : AnthropicAdapter where
  system raw := if sglangAnthropicSystem raw ≠ "" then some (sglangAnthropicSystem raw) else none
  block := sglangBlock
  messages := sglangMessages

/-! ### vLLM -/

def vllmImageDefaultMediaType : String := "image/jpeg"

/-- Starts the system blocks that differ from request to request. -/
def billingHeaderPrefix : String := "x-anthropic-billing-header"

/-- The system text; none for no system message. -/
def vllmAnthropicSystem (raw : Option Json) : Option String :=
  match unmarshal decodeString "" raw with
  | some s => some s
  | none =>
      match unmarshal (decodeSlice decodeSystemBlock {}) [] raw with
      | none => none
      | some blocks =>
          some (String.join
            ((blocks.filter fun b => b.type = "text" ∧ b.text ≠ "" ∧
              ¬ billingHeaderPrefix.toList <+: b.text.toList).map SystemBlock.text))

/-- What a user's tool result is split into. -/
structure SplitResult where
  text : String := ""
  imageURLs : List String := []
  toolRefs : List String := []

def vllmSplitToolResultContent (raw : Option Json) : SplitResult :=
  match unmarshal decodeString "" raw with
  | some s => { text := s }
  | none =>
      match unmarshal (decodeSlice decodeToolResultItem {}) [] raw with
      | none => {}
      | some items =>
          { text := "\n".intercalate
              ((items.filter fun it => it.type = "text").map ToolResultItem.text)
            imageURLs := items.filterMap fun it =>
              if it.type = "image" then
                (anthropicImageURL it.source vllmImageDefaultMediaType).filter (· ≠ "")
              else none
            toolRefs := (items.filter fun it => it.type = "tool_reference" ∧ it.ref ≠ "").map
              ToolResultItem.ref }

/-- The messages of a user's tool result. -/
def vllmUserToolResult (b : AnthropicBlock) : List ChatMessage :=
  let result := vllmSplitToolResultContent b.content
  [{ role := "tool", toolCallID := b.toolUseID, content := .string result.text }] ++
    (if result.imageURLs = [] then []
      else [{ role := "user", content := .list (result.imageURLs.map imagePart) }]) ++
    (if result.toolRefs = [] then []
      else
        [{ role := "tool"
           toolCallID := b.toolUseID
           content := .list (result.toolRefs.map toolReferencePart) }])

def anthropicContentToStr : Option Json → String
  | none => ""
  | some raw =>
      match decodeString "" raw with
      | some s => s
      | none => jsonString (some raw)

/-- The switch over the type of a block; other types are skipped. -/
def vllmBlock (role : String) (c : Conversion) (b : AnthropicBlock) : Conversion :=
  if b.type = "text" then if b.text ≠ "" then c.addPart (textPart (.string b.text)) else c
  else if b.type = "image" then
    match anthropicImageToPart b.source vllmImageDefaultMediaType with
    | some part => c.addPart part
    | none => c
  else if b.type = "thinking" then { c with reasoning := c.reasoning ++ b.thinking }
  else if b.type = "tool_use" then c.addCall b
  else if b.type = "tool_result" then
    if role = "user" then c.addSplit (vllmUserToolResult b)
    else c.addPart (textPart (.string ("Tool result: " ++ anthropicContentToStr b.content)))
  else c

/-- The content message before the others, unless it is an empty one of the user. -/
def vllmMessages (role : String) (c : Conversion) : List ChatMessage :=
  let content := collapseContentParts c.contentParts
  let msg : ChatMessage := { role, content, toolCalls := c.toolCalls, reasoning := c.reasoning }
  if ¬ isNil content ∨ c.toolCalls ≠ [] ∨ c.reasoning ≠ "" then msg :: c.split
  else if role ≠ "user" then msg :: c.split
  else c.split

def vllmAdapter : AnthropicAdapter where
  system := vllmAnthropicSystem
  block := vllmBlock
  messages := vllmMessages

end KvIndexer.Normalize
