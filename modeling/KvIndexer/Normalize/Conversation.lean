import KvIndexer.Lib.JsonWriting
import KvIndexer.Normalize.PrefixStable

/-!
One conversation in three protocols.

A conversation is what a client means: a system text, what the user and the assistant said, the
calls of the assistant and what came of them, and the tools on offer (`Conversation`). Each of
the three protocols has its own way to write it. The adapters read the same messages and tools
from all of them (`chat_conversation`, `responses_conversation`, `anthropic_conversation`).
-/

namespace KvIndexer.Normalize

open Config Json

/-! ### Conversations -/

/-- A call of a tool, with the document of its arguments. -/
structure Call where
  id : Quoted
  name : Quoted
  input : Json

/-- What came of a call. -/
structure CallOutput where
  id : Quoted
  text : Quoted

inductive Utterance where
  | user (words : Quoted)
  | assistant (words : Quoted) (calls : List Call)
  | outputs (outs : List CallOutput)

namespace Utterance

def isAssistant : Utterance → Bool
  | user _ => false
  | assistant _ _ => true
  | outputs _ => false

/-- Something is said or called, calls have ids, and outputs are not an empty list. -/
def Sound : Utterance → Prop
  | user _ => True
  | assistant words calls =>
      (words.text ≠ "" ∨ calls ≠ []) ∧ ∀ call ∈ calls, call.id.text ≠ ""
  | outputs outs => outs ≠ []

end Utterance

structure ToolSpec where
  name : Quoted
  description : Quoted
  schema : Json

/-- The assistant does not speak twice in a row: Responses has no way to write that its calls
are not those of its message before. -/
structure Conversation where
  model : Quoted
  system : Quoted
  utterances : List Utterance
  tools : List ToolSpec
  /-- the tool choice is none -/
  toolless : Bool
  /-- the limit on tokens, and its literal -/
  maxTokens : Int64
  literal : String
  stream : Bool
  named : model.text ≠ ""
  sound : ∀ u ∈ utterances, u.Sound
  alternates : utterances.IsChain fun u v => ¬ (u.isAssistant = true ∧ v.isAssistant = true)
  reads : decodeInt 0 (.number literal) = some maxTokens

/-! ### What it means -/

def Call.toolCall (call : Call) : ToolCall where
  id := call.id.text
  type := "function"
  function := ⟨call.name.text, call.input.compact⟩

/-- The text of the assistant, nil if it only calls. -/
def assistantContent (words : Quoted) : Value :=
  if words.text = "" then .nil else .string words.text

namespace Utterance

def messages : Utterance → List ChatMessage
  | user words => [{ role := "user", content := .string words.text }]
  | assistant words calls =>
      [{ role := "assistant"
         content := assistantContent words
         toolCalls := calls.map Call.toolCall }]
  | outputs outs =>
      outs.map fun out =>
        { role := "tool", toolCallID := out.id.text, content := .string out.text.text }

end Utterance

namespace Conversation

def messages (conv : Conversation) : List ChatMessage :=
  instructionMessages conv.system.text ++ conv.utterances.flatMap Utterance.messages

/-- The common form of a conversation. -/
def request (conv : Conversation) (protocol : String) (tools : List Tool) : RouteRequest where
  protocol := protocol
  model := conv.model.text
  messages := conv.messages
  tools := if conv.toolless = true then [] else tools
  maxTokens := conv.maxTokens
  stream := conv.stream
  turns := turnsFromMessages conv.messages

end Conversation

/-- A tool as the engine reads it. -/
def Tool.value (parseFloat : String → Option Float) : Tool → Value
  | .verbatim tool => tool
  | .function name description parameters deferLoading =>
      let fn := [("description", Value.string description), ("name", .string name)]
      let fn := (parameters.map fun j => insertEntry "parameters" (toAny parseFloat j) fn).getD fn
      let tool := [("function", Value.map fn), ("type", .string "function")]
      .map ((deferLoading.map fun b => insertEntry "defer_loading" (.bool b) tool).getD tool)

/-- The function tool of a specification. -/
def ToolSpec.function (t : ToolSpec) : Tool :=
  .function t.name.text t.description.text (some t.schema) none

/-! ### How it is written -/

def toolChoiceText (conv : Conversation) : String := if conv.toolless = true then "none" else "auto"

/-- What the assistant says, if it says something. -/
def said {α : Type} (words : Quoted) (doc : α) : List α := if words.text = "" then [] else [doc]

section Chat

variable (spelling : String → String)

/-- The arguments, as a string in a document. -/
def Call.arguments (call : Call) : Json := .string ⟨call.input.compact, spelling call.input.compact⟩

def Call.chat (call : Call) : Json :=
  .object
    [member "id" (.string call.id),
      member "type" (text "function"),
      member "function"
        (.object [member "name" (.string call.name), member "arguments" (call.arguments spelling)])]

def chatContent (words : Quoted) : Json := if words.text = "" then .null else .string words

def chatOutput (out : CallOutput) : Json :=
  .object
    [member "role" (text "tool"),
      member "tool_call_id" (.string out.id),
      member "content" (.string out.text)]

def Utterance.chat : Utterance → List Json
  | user words => [.object [member "role" (text "user"), member "content" (.string words)]]
  | assistant words calls =>
      [.object
        [member "role" (text "assistant"),
          member "content" (chatContent words),
          member "tool_calls" (.array (calls.map (Call.chat spelling)))]]
  | outputs outs => outs.map chatOutput

def ToolSpec.chat (t : ToolSpec) : Json :=
  .object
    [member "type" (text "function"),
      member "function"
        (.object
          [member "name" (.string t.name),
            member "description" (.string t.description),
            member "parameters" t.schema])]

def chatSystem (system : Quoted) : List Json :=
  said system (.object [member "role" (text "system"), member "content" (.string system)])

/-- The body of a chat completion. -/
def Conversation.chat (conv : Conversation) : Json :=
  .object
    [member "model" (.string conv.model),
      member "messages"
        (.array (chatSystem conv.system ++ conv.utterances.flatMap (Utterance.chat spelling))),
      member "tools" (.array (conv.tools.map ToolSpec.chat)),
      member "tool_choice" (text (toolChoiceText conv)),
      member "max_completion_tokens" (.number conv.literal),
      member "stream" (.bool conv.stream)]

/-! The same in Responses. -/

def Call.item (call : Call) : Json :=
  .object
    [member "type" (text "function_call"),
      member "call_id" (.string call.id),
      member "name" (.string call.name),
      member "arguments" (call.arguments spelling)]

def outputItem (out : CallOutput) : Json :=
  .object
    [member "type" (text "function_call_output"),
      member "call_id" (.string out.id),
      member "output" (.string out.text)]

def messageItem (role : String) (words : Quoted) : Json :=
  .object [member "role" (text role), member "content" (.string words)]

def Utterance.items : Utterance → List Json
  | user words => [messageItem "user" words]
  | assistant words calls =>
      said words (messageItem "assistant" words) ++ calls.map (Call.item spelling)
  | outputs outs => outs.map outputItem

def ToolSpec.flat (t : ToolSpec) : Json :=
  .object
    [member "type" (text "function"),
      member "name" (.string t.name),
      member "description" (.string t.description),
      member "parameters" t.schema]

/-- The body of a response. -/
def Conversation.responses (conv : Conversation) : Json :=
  .object
    [member "model" (.string conv.model),
      member "instructions" (.string conv.system),
      member "input" (.array (conv.utterances.flatMap (Utterance.items spelling))),
      member "tools" (.array (conv.tools.map ToolSpec.flat)),
      member "tool_choice" (text (toolChoiceText conv)),
      member "max_output_tokens" (.number conv.literal),
      member "stream" (.bool conv.stream)]

end Chat

/-! And in Anthropic's messages. -/

def textBlock (words : Quoted) : Json :=
  .object [member "type" (text "text"), member "text" (.string words)]

def Call.toolUse (call : Call) : Json :=
  .object
    [member "type" (text "tool_use"),
      member "id" (.string call.id),
      member "name" (.string call.name),
      member "input" call.input]

def toolResult (out : CallOutput) : Json :=
  .object
    [member "type" (text "tool_result"),
      member "tool_use_id" (.string out.id),
      member "content" (.string out.text)]

/-- The role and the content of the message. -/
def Utterance.anthropic : Utterance → AnthropicMessage
  | user words => { role := "user", content := some (.string words) }
  | assistant words calls =>
      { role := "assistant"
        content := some (.array (said words (textBlock words) ++ calls.map Call.toolUse)) }
  | outputs outs => { role := "user", content := some (.array (outs.map toolResult)) }

def AnthropicMessage.write (m : AnthropicMessage) : Json :=
  .object [member "role" (text m.role), member "content" (m.content.getD .null)]

def ToolSpec.anthropic (t : ToolSpec) : Json :=
  .object
    [member "name" (.string t.name),
      member "description" (.string t.description),
      member "input_schema" t.schema]

/-- The body of a message. -/
def Conversation.anthropic (conv : Conversation) : Json :=
  .object
    ([member "model" (.string conv.model)] ++
      said conv.system (member "system" (.string conv.system)) ++
      [member "messages" (.array (conv.utterances.map fun u => u.anthropic.write)),
        member "tools" (.array (conv.tools.map ToolSpec.anthropic)),
        member "tool_choice" (.object [member "type" (text (toolChoiceText conv))]),
        member "max_tokens" (.number conv.literal),
        member "stream" (.bool conv.stream)])

/-! ### What Chat reads -/

section Chat

variable (parseFloat : String → Option Float) (spelling : String → String)

@[simp] theorem decodeAny_string (old : Value) (s : Quoted) :
    decodeAny parseFloat old (.string s) = some (.string s.text) := rfl

@[simp] theorem decodeAny_null (old : Value) : decodeAny parseFloat old .null = some .nil := rfl

theorem decodeToolCall_chat (call : Call) :
    decodeToolCall {} (call.chat spelling) = some call.toolCall := by
  simp +decide [Call.chat, Call.arguments, Call.toolCall, decodeToolCall, toolCallFields,
    decodeToolCallFunction, toolCallFunctionFields, readMember, StructField.read, StructField.of]

theorem decodeAny_chatContent (words : Quoted) :
    decodeAny parseFloat .nil (chatContent words) = some (assistantContent words) := by
  unfold chatContent assistantContent
  split
  · exact decodeAny_null parseFloat .nil
  · exact decodeAny_string parseFloat .nil words

/-- Every utterance is read as its messages. -/
theorem mapM_chat (u : Utterance) :
    (u.chat spelling).mapM (decodeChatMessage parseFloat {}) = some u.messages := by
  cases u with
  | user words =>
      simp +decide [Utterance.chat, Utterance.messages, decodeChatMessage, chatMessageFields,
        readMember, StructField.read, StructField.of]
  | assistant words calls =>
      have slice : decodeSlice decodeToolCall {} [] (.array (calls.map (Call.chat spelling))) =
          some (calls.map Call.toolCall) := by
        rw [decodeSlice_array]
        exact mapM_map fun call _ => decodeToolCall_chat spelling call
      simp +decide [Utterance.chat, Utterance.messages, decodeChatMessage, chatMessageFields,
        readMember, StructField.read, StructField.of, decodeAny_chatContent, slice]
  | outputs outs =>
      refine mapM_map fun out _ => ?_
      simp +decide [chatOutput, decodeChatMessage, chatMessageFields, readMember,
        StructField.read, StructField.of]

theorem mapM_chatSystem (system : Quoted) :
    (chatSystem system).mapM (decodeChatMessage parseFloat {}) =
      some (instructionMessages system.text) := by
  unfold chatSystem said instructionMessages
  by_cases none_ : system.text = ""
  · rw [if_pos none_, if_neg (not_not.mpr none_)]
    rfl
  · rw [if_neg none_, if_pos none_]
    simp +decide [decodeChatMessage, chatMessageFields, readMember, StructField.read,
      StructField.of]

/-- What Chat makes of the tools. -/
def ToolSpec.verbatim (t : ToolSpec) : Tool := .verbatim (toAny parseFloat t.chat)

/-- It is the function tool of the specification. The order of the members is not seen in a Go
map. -/
theorem value_verbatim (t : ToolSpec) :
    (t.verbatim parseFloat).value parseFloat = t.function.value parseFloat := by
  simp +decide [ToolSpec.verbatim, ToolSpec.function, Tool.value, ToolSpec.chat, toAny, toEntries,
    insertEntry, member, text, Quoted.plain]

theorem decodeAny_chatTool {t : ToolSpec} (range : inRange parseFloat t.schema = true)
    (old : Value) : decodeAny parseFloat old t.chat = some (toAny parseFloat t.chat) := by
  refine if_pos ?_
  simp [ToolSpec.chat, inRange, inRangeMembers, member, text, range]

theorem isToolChoiceNone_text (conv : Conversation) :
    isToolChoiceNone (some (text (toolChoiceText conv))) = conv.toolless := by
  have reads : unmarshal decodeString "" (some (text (toolChoiceText conv))) =
      some (toolChoiceText conv) := rfl
  rw [isToolChoiceNone, reads, toolChoiceText]
  cases conv.toolless with
  | false => decide
  | true => decide

/-- Chat reads the conversation from its body. -/
theorem chat_conversation {conv : Conversation}
    (range : ∀ t ∈ conv.tools, inRange parseFloat t.schema = true) :
    fromOpenAIChat parseFloat (conv.chat spelling) =
      .ok (conv.request ProtocolOpenAIChat (conv.tools.map (ToolSpec.verbatim parseFloat))) := by
  have messages : decodeSlice (decodeChatMessage parseFloat) {} []
      (.array (chatSystem conv.system ++ conv.utterances.flatMap (Utterance.chat spelling))) =
      some conv.messages := by
    rw [decodeSlice_array]
    exact mapM_append (mapM_chatSystem parseFloat conv.system)
      (mapM_flatMap fun u _ => mapM_chat parseFloat spelling u)
  have tools : decodeSlice (decodeAny parseFloat) .nil [] (.array (conv.tools.map ToolSpec.chat)) =
      some (conv.tools.map fun t => toAny parseFloat t.chat) := by
    rw [decodeSlice_array]
    exact mapM_map fun t member => decodeAny_chatTool parseFloat (range t member) .nil
  have limit := @decodePointer_number none conv.literal conv.maxTokens conv.reads
  have body : decodeChatBody parseFloat {} (conv.chat spelling) =
      some
        { model := conv.model.text
          messages := conv.messages
          tools := conv.tools.map fun t => toAny parseFloat t.chat
          toolChoice := some (text (toolChoiceText conv))
          maxCompletionTokens := some conv.maxTokens
          stream := conv.stream } := by
    simp +decide [Conversation.chat, decodeChatBody, chatBodyFields, readMember, StructField.read,
      StructField.of, messages, tools, limit]
  rw [fromOpenAIChat, body]
  dsimp only
  rw [if_neg conv.named, isToolChoiceNone_text, List.map_map]
  rfl

end Chat

/-! ### What Responses reads -/

/-- How many ids are asked for. -/
def Utterance.callCount : Utterance → Nat
  | user _ => 0
  | assistant _ calls => calls.length
  | outputs _ => 0

/-- The last message is not the assistant's. -/
def Closed (msgs : List ChatMessage) : Prop :=
  ∀ last, msgs.getLast? = some last → last.role ≠ "assistant"

section Responses

variable (parseFloat : String → Option Float) (spelling : String → String)

theorem appendResponsesItem_call {call : Call} (named : call.id.text ≠ "") (progress : Progress) :
    appendResponsesItem parseFloat progress (call.item spelling) =
      (appendCall progress.1 call.toolCall, progress.2 + 1) := by
  have reads : decodeResponsesItem {} (call.item spelling) =
      some
        { type := "function_call"
          callID := call.id.text
          name := call.name.text
          arguments := call.input.compact } := by
    simp +decide [Call.item, Call.arguments, decodeResponsesItem, responsesItemFields, readMember,
      StructField.read, StructField.of]
  rw [appendResponsesItem, reads]
  dsimp only
  rw [appendItem, if_pos rfl, callOf, firstNonEmpty, if_pos named]
  rfl

theorem appendResponsesItem_output (out : CallOutput) (progress : Progress) :
    appendResponsesItem parseFloat progress (outputItem out) =
      (progress.1 ++
        [{ role := "tool", toolCallID := out.id.text, content := .string out.text.text }],
        progress.2) := by
  have reads : decodeResponsesItem {} (outputItem out) =
      some
        { type := "function_call_output", callID := out.id.text, output := some (.string out.text) }
      := by
    simp +decide [outputItem, decodeResponsesItem, responsesItemFields, readMember,
      StructField.read, StructField.of]
  have other : "function_call_output" ≠ "function_call" := by decide
  rw [appendResponsesItem, reads]
  dsimp only
  rw [appendItem, if_neg other, if_pos rfl]
  rfl

theorem appendResponsesItem_message {role : String} (given : role ≠ "") (words : Quoted)
    (progress : Progress) :
    appendResponsesItem parseFloat progress (messageItem role words) =
      (progress.1 ++ [{ role := role, content := .string words.text }], progress.2) := by
  have reads : decodeResponsesItem {} (messageItem role words) =
      some { role := role, content := some (.string words) } := by
    simp +decide [messageItem, decodeResponsesItem, responsesItemFields, readMember,
      StructField.read, StructField.of]
  have call : "" ≠ "function_call" := by decide
  have output : "" ≠ "function_call_output" := by decide
  have reasoning : "" ≠ "reasoning" := by decide
  rw [appendResponsesItem, reads]
  dsimp only
  rw [appendItem, if_neg call, if_neg output, if_neg reasoning, messageOf]
  dsimp only
  rw [if_pos given]
  rfl

/-- Calls go to the assistant's message before them. -/
theorem foldl_calls {calls : List Call} (named : ∀ call ∈ calls, call.id.text ≠ "")
    (msgs : List ChatMessage) {m : ChatMessage} (assistant : m.role = "assistant") (n : Nat) :
    (calls.map (Call.item spelling)).foldl (appendResponsesItem parseFloat) (msgs ++ [m], n) =
      (msgs ++ [{ m with toolCalls := m.toolCalls ++ calls.map Call.toolCall }],
        n + calls.length) := by
  induction calls generalizing m n with
  | nil => simp
  | cons call calls ih =>
      obtain ⟨first, rest⟩ := List.forall_mem_cons.mp named
      rw [List.map_cons, List.foldl_cons, appendResponsesItem_call parseFloat spelling first,
        appendCall_concat, if_pos assistant]
      have attached : ({ m with toolCalls := m.toolCalls ++ [call.toolCall] } : ChatMessage).role =
          "assistant" := assistant
      refine (ih rest attached (n + 1)).trans ?_
      simp [Nat.add_assoc, Nat.add_comm 1]

theorem foldl_outputs (outs : List CallOutput) (progress : Progress) :
    (outs.map outputItem).foldl (appendResponsesItem parseFloat) progress =
      (progress.1 ++ (Utterance.outputs outs).messages, progress.2) := by
  induction outs generalizing progress with
  | nil => simp [Utterance.messages]
  | cons out outs ih =>
      rw [List.map_cons, List.foldl_cons, appendResponsesItem_output, ih]
      simp [Utterance.messages]

/-- An utterance is read as its messages, after any that do not take its calls. -/
theorem foldl_items {u : Utterance} (sound : u.Sound) (progress : Progress)
    (closed : u.isAssistant = true → Closed progress.1) :
    (u.items spelling).foldl (appendResponsesItem parseFloat) progress =
      (progress.1 ++ u.messages, progress.2 + u.callCount) := by
  cases u with
  | user words => exact appendResponsesItem_message parseFloat (by decide) words progress
  | assistant words calls =>
      obtain ⟨something, named⟩ := sound
      rw [Utterance.items, Utterance.messages, said, assistantContent]
      by_cases silent : words.text = ""
      · -- the first call starts a message
        have calling := something.resolve_left (not_not.mpr silent)
        obtain ⟨call, others, rfl⟩ := List.exists_cons_of_ne_nil calling
        obtain ⟨first, rest⟩ := List.forall_mem_cons.mp named
        have starts : appendCall progress.1 call.toolCall =
            progress.1 ++ [{ role := "assistant", toolCalls := [call.toolCall] }] := by
          rcases List.eq_nil_or_concat' progress.1 with nothing | ⟨msgs, last, split⟩
          · rw [nothing]
            rfl
          · have other := closed rfl last (by rw [split, List.getLast?_concat])
            rw [split, appendCall_concat, if_neg other]
        rw [if_pos silent, if_pos silent, List.nil_append, List.map_cons, List.foldl_cons,
          appendResponsesItem_call parseFloat spelling first, starts,
          foldl_calls parseFloat spelling rest progress.1 rfl]
        simp [Utterance.callCount, Nat.add_assoc, Nat.add_comm 1]
      · rw [if_neg silent, if_neg silent, List.foldl_append, List.foldl_cons, List.foldl_nil,
          appendResponsesItem_message parseFloat (by decide),
          foldl_calls parseFloat spelling named progress.1 rfl]
        rfl
  | outputs outs => exact foldl_outputs parseFloat outs progress

/-- Where the assistant does not follow itself, a message that it has not left is closed. -/
theorem closed_messages {u : Utterance} (sound : u.Sound) (other : u.isAssistant = false)
    (msgs : List ChatMessage) : Closed (msgs ++ u.messages) := by
  intro last found
  cases u with
  | user words =>
      rw [Utterance.messages, List.getLast?_concat] at found
      rw [← Option.some.inj found]
      show "user" ≠ "assistant"
      decide
  | assistant words calls => cases other
  | outputs outs =>
      have some_ : (Utterance.outputs outs).messages ≠ [] := by
        rw [Utterance.messages, Ne, List.map_eq_nil_iff]
        exact sound
      rw [List.getLast?_append_of_ne_nil _ some_] at found
      obtain ⟨out, -, rfl⟩ := List.mem_map.mp (List.mem_of_getLast? found)
      show "tool" ≠ "assistant"
      decide

/-- The utterances are read one after another. -/
theorem foldl_utterances {us : List Utterance} (sound : ∀ u ∈ us, u.Sound)
    (alternates : us.IsChain fun u v => ¬ (u.isAssistant = true ∧ v.isAssistant = true))
    (progress : Progress)
    (closed : ∀ u, us.head? = some u → u.isAssistant = true → Closed progress.1) :
    ((us.flatMap (Utterance.items spelling)).foldl (appendResponsesItem parseFloat) progress).1 =
      progress.1 ++ us.flatMap Utterance.messages := by
  induction us generalizing progress with
  | nil => simp
  | cons u us ih =>
      obtain ⟨first, rest⟩ := List.forall_mem_cons.mp sound
      rw [List.flatMap_cons, List.foldl_append,
        foldl_items parseFloat spelling first progress (closed u rfl),
        ih rest alternates.tail, List.flatMap_cons, List.append_assoc]
      intro v next speaks
      cases quiet : u.isAssistant with
      | false => exact closed_messages first quiet progress.1
      | true =>
          cases us with
          | nil => cases next
          | cons w us =>
              obtain rfl := Option.some.inj next
              exact absurd ⟨quiet, speaks⟩ (List.isChain_cons_cons.mp alternates).1

/-- Responses reads the conversation from its body. -/
theorem responses_conversation (conv : Conversation) :
    fromOpenAIResponses parseFloat (conv.responses spelling) =
      .ok (conv.request ProtocolOpenAIResponses (conv.tools.map ToolSpec.function)) := by
  have tools : decodeSlice decodeResponsesTool {} [] (.array (conv.tools.map ToolSpec.flat)) =
      some (conv.tools.map fun t => ⟨"function", t.name.text, t.description.text, some t.schema⟩)
      := by
    rw [decodeSlice_array]
    refine mapM_map fun t _ => ?_
    simp +decide [ToolSpec.flat, decodeResponsesTool, responsesToolFields, readMember,
      StructField.read, StructField.of]
  have limit := @decodePointer_number none conv.literal conv.maxTokens conv.reads
  have body : decodeResponsesBody {} (conv.responses spelling) =
      some
        { model := conv.model.text
          instructions := conv.system.text
          input := some (.array (conv.utterances.flatMap (Utterance.items spelling)))
          tools := conv.tools.map fun t =>
            ⟨"function", t.name.text, t.description.text, some t.schema⟩
          toolChoice := some (text (toolChoiceText conv))
          maxOutputTokens := some conv.maxTokens
          stream := conv.stream } := by
    simp +decide [Conversation.responses, decodeResponsesBody, responsesBodyFields, readMember,
      StructField.read, StructField.of, tools, limit]
  have closed : Closed (instructionMessages conv.system.text) := by
    intro last found
    unfold instructionMessages at found
    split at found
    · rw [← Option.some.inj found]
      show "system" ≠ "assistant"
      decide
    · cases found
  have input : appendResponsesInput parseFloat (instructionMessages conv.system.text)
      (some (.array (conv.utterances.flatMap (Utterance.items spelling)))) =
      some conv.messages := by
    have elements : (conv.utterances.flatMap (Utterance.items spelling)).mapM some =
        some (conv.utterances.flatMap (Utterance.items spelling)) := by
      have each := @mapM_map Json Json some id id
        (conv.utterances.flatMap (Utterance.items spelling)) fun _ _ => rfl
      rwa [List.map_id] at each
    have text_ : decodeString "" (.array (conv.utterances.flatMap (Utterance.items spelling))) =
      none := rfl
    rw [appendResponsesInput, text_]
    dsimp only
    rw [decodeSlice_array, elements]
    dsimp only
    rw [foldl_utterances parseFloat spelling conv.sound conv.alternates _ fun _ _ _ => closed]
    rfl
  rw [fromOpenAIResponses, body]
  dsimp only
  rw [if_neg conv.named, input, isToolChoiceNone_text, convertResponsesTools, List.map_map]
  rfl

end Responses

/-! ### What the Anthropic adapters read -/

theorem firstNonEmpty_right (s : String) : firstNonEmpty s "" = s := by
  by_cases given : s ≠ ""
  · exact if_pos given
  · rw [firstNonEmpty, if_neg given, not_not.mp given]

/-- The block of a call. -/
def toolUseBlock (call : Call) : AnthropicBlock where
  type := "tool_use"
  id := call.id.text
  name := call.name.text
  input := some call.input

/-- The block of what came of a call. -/
def toolResultBlock (out : CallOutput) : AnthropicBlock where
  type := "tool_result"
  toolUseID := out.id.text
  content := some (.string out.text)

/-- What the two adapters make alike of the blocks that a conversation is written in. -/
structure ReadsPlain (adapter : AnthropicAdapter) : Prop where
  system : ∀ system : Quoted, adapter.systemMessages (said system (Json.string system)).head? =
    instructionMessages system.text
  text : ∀ role c (words : String), words ≠ "" →
    adapter.block role c { type := "text", text := words } = c.addPart (textPart (.string words))
  call : ∀ role c call,
    adapter.block role c (toolUseBlock call) = c.addCall (toolUseBlock call)
  output : ∀ c out, adapter.block "user" c (toolResultBlock out) =
    c.addSplit [{ role := "tool", toolCallID := out.id.text, content := .string out.text.text }]
  content : ∀ parts calls n, isNil (collapseContentParts parts) = false ∨ calls ≠ [] →
    adapter.messages "assistant" { contentParts := parts, toolCalls := calls, counter := n } =
      [{ role := "assistant", content := collapseContentParts parts, toolCalls := calls }]
  split : ∀ msgs n, adapter.messages "user" { split := msgs, counter := n } = msgs

theorem sglang_readsPlain : ReadsPlain sglangAdapter where
  system system := by
    unfold AnthropicAdapter.systemMessages instructionMessages said
    dsimp only [sglangAdapter]
    by_cases none_ : system.text = ""
    · rw [if_pos none_, if_neg (not_not.mpr none_)]
      rfl
    · have reads : sglangAnthropicSystem (some (.string system)) = system.text := rfl
      rw [if_neg none_, List.head?_cons, reads, if_pos none_, if_pos none_]
  text role c words some_ := by
    dsimp only [sglangAdapter]
    rw [sglangBlock, if_pos rfl, if_pos some_]
  call role c call := by simp [sglangAdapter, sglangBlock, toolUseBlock]
  output c out := by
    have reads : sglangToolResultContent (some (.string out.text)) =
        (.string out.text.text, out.text.text) := rfl
    have text : "tool_result" ≠ "text" := by decide
    have image : "tool_result" ≠ "image" := by decide
    have call : "tool_result" ≠ "tool_use" := by decide
    dsimp only [sglangAdapter, toolResultBlock]
    rw [sglangBlock, if_neg text, if_neg image, if_neg call, if_pos rfl, if_pos rfl, reads,
      firstNonEmpty_right]
  content parts calls n some_ := by
    dsimp only [sglangAdapter]
    rw [sglangMessages, if_neg]
    · rfl
    · rintro ⟨nil, none_⟩
      rcases some_ with content | calls
      · rw [nil] at content
        cases content
      · exact calls none_
  split msgs n := rfl

theorem vllm_readsPlain : ReadsPlain vllmAdapter where
  system system := by
    unfold AnthropicAdapter.systemMessages instructionMessages said
    dsimp only [vllmAdapter]
    by_cases none_ : system.text = ""
    · rw [if_pos none_, if_neg (not_not.mpr none_)]
      rfl
    · have reads : vllmAnthropicSystem (some (.string system)) = some system.text := rfl
      rw [if_neg none_, List.head?_cons, reads, if_pos none_]
  text role c words some_ := by
    dsimp only [vllmAdapter]
    rw [vllmBlock, if_pos rfl, if_pos some_]
  call role c call := by simp [vllmAdapter, vllmBlock, toolUseBlock]
  output c out := by
    have reads : vllmSplitToolResultContent (some (.string out.text)) =
        { text := out.text.text } := rfl
    simp [vllmAdapter, vllmBlock, toolResultBlock, vllmUserToolResult, reads]
  content parts calls n some_ := by
    dsimp only [vllmAdapter]
    rw [vllmMessages, if_pos]
    rcases some_ with content | calls
    · exact Or.inl (by simp [content])
    · exact Or.inr (Or.inl calls)
  split msgs n := rfl

theorem decodeAnthropicMessage_write {m : AnthropicMessage} {content : Json}
    (given : m.content = some content) : decodeAnthropicMessage {} m.write = some m := by
  obtain ⟨role, content'⟩ := m
  obtain rfl : content' = some content := given
  simp +decide [AnthropicMessage.write, decodeAnthropicMessage, anthropicMessageFields,
    readMember, StructField.read, StructField.of]

theorem anthropicToolChoiceNone_type (conv : Conversation) :
    anthropicToolChoiceNone (some (.object [member "type" (text (toolChoiceText conv))])) =
      conv.toolless := by
  have reads : unmarshal decodeToolChoice {}
      (some (.object [member "type" (text (toolChoiceText conv))])) =
      some { type := toolChoiceText conv } := by
    simp +decide [unmarshal, decodeToolChoice, toolChoiceFields, readMember, StructField.read,
      StructField.of]
  rw [anthropicToolChoiceNone, reads, toolChoiceText]
  cases conv.toolless with
  | false => decide
  | true => decide

section Anthropic

variable {adapter : AnthropicAdapter} (plain : ReadsPlain adapter)

include plain

theorem foldl_toolUses (role : String) {calls : List Call}
    (named : ∀ call ∈ calls, call.id.text ≠ "") (parts : List Value) (before : List ToolCall)
    (n : Nat) :
    (calls.map toolUseBlock).foldl (adapter.block role)
        { contentParts := parts, toolCalls := before, counter := n } =
      { contentParts := parts, toolCalls := before ++ calls.map Call.toolCall,
        counter := n + calls.length } := by
  induction calls generalizing before n with
  | nil => simp
  | cons call calls ih =>
      obtain ⟨first, rest⟩ := List.forall_mem_cons.mp named
      have made : toolUseCall (toolUseBlock call) n = call.toolCall := by
        have id : (toolUseBlock call).id ≠ "" := first
        rw [toolUseCall, firstNonEmpty, if_pos id]
        rfl
      rw [List.map_cons, List.foldl_cons, plain.call, Conversion.addCall]
      dsimp only
      rw [made, ih rest]
      simp [Nat.add_assoc, Nat.add_comm 1]

theorem foldl_toolResults (outs : List CallOutput) (before : List ChatMessage) (n : Nat) :
    (outs.map toolResultBlock).foldl (adapter.block "user")
        { split := before, counter := n } =
      { split := before ++ (Utterance.outputs outs).messages, counter := n } := by
  induction outs generalizing before with
  | nil => simp [Utterance.messages]
  | cons out outs ih =>
      rw [List.map_cons, List.foldl_cons, plain.output, Conversion.addSplit]
      dsimp only
      rw [ih]
      simp [Utterance.messages]

/-- What is said and called is read as one content message. -/
theorem message_assistant {words : Quoted} {calls : List Call}
    (sound : (Utterance.assistant words calls).Sound) (n : Nat) :
    adapter.message n (Utterance.assistant words calls).anthropic =
      ((Utterance.assistant words calls).messages, n + calls.length) := by
  obtain ⟨something, named⟩ := sound
  have noText : unmarshal decodeString ""
      (some (.array (said words (textBlock words) ++ calls.map Call.toolUse))) = none := rfl
  have spoken : (said words (textBlock words)).mapM (decodeAnthropicBlock {}) =
      some (said words ({ type := "text", text := words.text } : AnthropicBlock)) := by
    unfold said
    split
    · rfl
    · simp +decide [textBlock, decodeAnthropicBlock, anthropicBlockFields, readMember,
        StructField.read, StructField.of]
  have called : (calls.map Call.toolUse).mapM (decodeAnthropicBlock {}) =
      some (calls.map toolUseBlock) := by
    refine mapM_map fun call _ => ?_
    simp +decide [Call.toolUse, toolUseBlock, decodeAnthropicBlock, anthropicBlockFields,
      readMember, StructField.read, StructField.of]
  have blocks : unmarshal (decodeSlice decodeAnthropicBlock {}) []
      (some (.array (said words (textBlock words) ++ calls.map Call.toolUse))) =
      some (said words { type := "text", text := words.text } ++ calls.map toolUseBlock) := by
    rw [unmarshal, Option.bind_some, decodeSlice_array]
    exact mapM_append spoken called
  rw [AnthropicAdapter.message, Utterance.anthropic, noText]
  dsimp only
  rw [blocks]
  dsimp only
  rw [List.foldl_append, said, Utterance.messages, assistantContent]
  by_cases silent : words.text = ""
  · have calling := something.resolve_left (not_not.mpr silent)
    rw [if_pos silent, if_pos silent, List.foldl_nil, foldl_toolUses plain "assistant" named]
    dsimp only
    rw [plain.content _ _ _ (Or.inr (by simpa using calling))]
    rfl
  · rw [if_neg silent, if_neg silent, List.foldl_cons, List.foldl_nil,
      plain.text _ _ words.text silent, Conversion.addPart, foldl_toolUses plain "assistant" named]
    dsimp only
    rw [plain.content _ _ _ (Or.inl rfl)]
    rfl

theorem message_outputs (outs : List CallOutput) (n : Nat) :
    adapter.message n (Utterance.outputs outs).anthropic =
      ((Utterance.outputs outs).messages, n) := by
  have noText : unmarshal decodeString "" (some (.array (outs.map toolResult))) = none := rfl
  have blocks : unmarshal (decodeSlice decodeAnthropicBlock {}) []
      (some (.array (outs.map toolResult))) = some (outs.map toolResultBlock) := by
    rw [unmarshal, Option.bind_some, decodeSlice_array]
    refine mapM_map fun out _ => ?_
    simp +decide [toolResult, toolResultBlock, decodeAnthropicBlock, anthropicBlockFields,
      readMember, StructField.read, StructField.of]
  rw [AnthropicAdapter.message, Utterance.anthropic, noText]
  dsimp only
  rw [blocks]
  dsimp only
  rw [foldl_toolResults plain, plain.split]
  rfl

/-- An utterance is read as its messages. -/
theorem message_anthropic {u : Utterance} (sound : u.Sound) (n : Nat) :
    adapter.message n u.anthropic = (u.messages, n + u.callCount) := by
  cases u with
  | user words => rfl
  | assistant words calls => exact message_assistant plain sound n
  | outputs outs => exact message_outputs plain outs n

/-- The utterances are read one after another. -/
theorem foldl_anthropic {us : List Utterance} (sound : ∀ u ∈ us, u.Sound) (progress : Progress) :
    ((us.map Utterance.anthropic).foldl adapter.appendMessage progress).1 =
      progress.1 ++ us.flatMap Utterance.messages := by
  induction us generalizing progress with
  | nil => simp
  | cons u us ih =>
      obtain ⟨first, rest⟩ := List.forall_mem_cons.mp sound
      rw [List.map_cons, List.foldl_cons, ih rest, AnthropicAdapter.appendMessage,
        message_anthropic plain first, List.flatMap_cons, List.append_assoc]

/-- Both adapters read the conversation from its body. -/
theorem anthropic_conversation (conv : Conversation) :
    adapter.fromAnthropic conv.anthropic =
      .ok (conv.request ProtocolAnthropic (conv.tools.map ToolSpec.function)) := by
  have messages : decodeSlice decodeAnthropicMessage {} []
      (.array (conv.utterances.map fun u => u.anthropic.write)) =
      some (conv.utterances.map Utterance.anthropic) := by
    rw [decodeSlice_array]
    refine mapM_map fun u _ => ?_
    cases u with
    | user words => exact decodeAnthropicMessage_write rfl
    | assistant words calls => exact decodeAnthropicMessage_write rfl
    | outputs outs => exact decodeAnthropicMessage_write rfl
  have tools : decodeSlice decodeAnthropicTool {} [] (.array (conv.tools.map ToolSpec.anthropic)) =
      some (conv.tools.map fun t =>
        { name := t.name.text, description := t.description.text, inputSchema := some t.schema })
      := by
    rw [decodeSlice_array]
    refine mapM_map fun t _ => ?_
    simp +decide [ToolSpec.anthropic, decodeAnthropicTool, anthropicToolFields, readMember,
      StructField.read, StructField.of]
  have body : decodeAnthropicEnvelope {} conv.anthropic =
      some
        { model := conv.model.text
          system := (said conv.system (Json.string conv.system)).head?
          messages := conv.utterances.map Utterance.anthropic
          tools := conv.tools.map fun t =>
            { name := t.name.text, description := t.description.text, inputSchema := some t.schema }
          toolChoice := some (.object [member "type" (text (toolChoiceText conv))])
          maxTokens := conv.maxTokens
          stream := conv.stream } := by
    unfold Conversation.anthropic said
    by_cases none_ : conv.system.text = ""
    · simp +decide [none_, decodeAnthropicEnvelope, anthropicEnvelopeFields, readMember,
        StructField.read, StructField.of, messages, tools, conv.reads]
    · simp +decide [none_, decodeAnthropicEnvelope, anthropicEnvelopeFields, readMember,
        StructField.read, StructField.of, messages, tools, conv.reads]
  rw [AnthropicAdapter.fromAnthropic, parseAnthropicEnvelope, body]
  dsimp only
  rw [if_neg conv.named]
  dsimp only
  rw [buildAnthropicRouteRequest, AnthropicAdapter.convert]
  dsimp only
  rw [foldl_anthropic plain conv.sound, plain.system, anthropicToolChoiceNone_type,
    convertAnthropicTools, List.map_map]
  rfl

end Anthropic

end KvIndexer.Normalize
