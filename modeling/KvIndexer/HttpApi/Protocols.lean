import KvIndexer.Normalize.Conversation

/-!
The three inbound protocols at the endpoints (`internal/httpapi/route.go`,
`internal/httpapi/query.go`, `internal/normalize/normalize.go`).

The adapter of a request is that of the engine's framework, which is found by the model that
the body names before anything else is read. A conversation arrives as one request whatever it
is written in and whichever engine serves its model (`normalizeRequest_conversation`).
-/

namespace KvIndexer.HttpApi

open Config Json Normalize KvEvents

/-! ### Adapters -/

/-- `unicode.IsSpace` -/
def isSpace (c : Char) : Bool :=
  c ∈ ['\t', '\n', '\x0b', '\x0c', '\r', ' ', '\u0085', '\u00a0', '\u1680', '\u2028', '\u2029',
    '\u202f', '\u205f', '\u3000'] || (0x2000 ≤ c.toNat && c.toNat ≤ 0x200a)

/-- `strings.TrimSpace` -/
def trimSpace (s : String) : String :=
  String.ofList ((s.toList.dropWhile isSpace).rdropWhile isSpace)

/-- `AdapterFor`. What is no known framework gets the adapter of SGLang. -/
def adapterFor (rt : Runtime) (framework : String) : AnthropicAdapter :=
  if rt.toLower (trimSpace framework) = "vllm" then vllmAdapter else sglangAdapter

theorem adapterFor_readsPlain (rt : Runtime) (framework : String) :
    ReadsPlain (adapterFor rt framework) := by
  unfold adapterFor
  split
  · exact vllm_readsPlain
  · exact sglang_readsPlain

/-- What is read of a body before its protocol is known. -/
structure Peek where
  model : String := ""

def peekFields : List (StructField Peek) :=
  [.of "model" decodeString (·.model) fun s x => { s with model := x }]

def decodePeek : Decoder Peek := decodeStruct peekFields

section Handlers

variable (rt : Runtime) (parseFloat : String → Option Float)

def normalizeByProtocol (framework proto : String) (raw : Json) :
    Except String Normalize.RouteRequest :=
  if proto = ProtocolOpenAIResponses then fromOpenAIResponses parseFloat raw
  else if proto = ProtocolAnthropic then (adapterFor rt framework).fromAnthropic raw
  else fromOpenAIChat parseFloat raw

variable (orders : MapOrders) (s : RouteState)

/-- The framework of the profile of the model that the body names. -/
def frameworkForBody (body : Json) : String :=
  match decodePeek {} body with
  | none => ""
  | some peek =>
      if peek.model = "" then ""
      else
        match s.store.resolveProfile (orders.profiles s.store.profiles) peek.model with
        | some prof => prof.framework
        | none => ""

def normalizeRequest (proto : String) (body : Json) : Except String Normalize.RouteRequest :=
  normalizeByProtocol rt parseFloat (frameworkForBody orders s body) proto body

end Handlers

/-! ### A conversation at the endpoints -/

def protocols : List String := [ProtocolOpenAIChat, ProtocolOpenAIResponses, ProtocolAnthropic]

/-- The body of the conversation in a protocol. -/
def body (spelling : String → String) (conv : Conversation) (proto : String) : Json :=
  if proto = ProtocolOpenAIResponses then conv.responses spelling
  else if proto = ProtocolAnthropic then conv.anthropic
  else conv.chat spelling

section Conversation

variable (rt : Runtime) {parseFloat : String → Option Float} (spelling : String → String)
  {conv : Conversation}

/-- Whatever the framework, the protocol shows in the label of the request alone. -/
theorem normalizeByProtocol_conversation
    (range : ∀ t ∈ conv.tools, inRange parseFloat t.schema = true) (framework : String)
    {proto : String} (known : proto ∈ protocols) :
    ∃ tools,
      normalizeByProtocol rt parseFloat framework proto (body spelling conv proto) =
        .ok (conv.request proto tools) ∧
      tools.map (Tool.value parseFloat) =
        conv.tools.map fun t => t.function.value parseFloat := by
  unfold normalizeByProtocol body
  split_ifs with responses anthropic
  · refine ⟨conv.tools.map ToolSpec.function, ?_, List.map_map⟩
    rw [responses]
    exact responses_conversation parseFloat spelling conv
  · refine ⟨conv.tools.map ToolSpec.function, ?_, List.map_map⟩
    rw [anthropic]
    exact anthropic_conversation (adapterFor_readsPlain rt framework) conv
  · have chat : proto = ProtocolOpenAIChat := by
      simpa [protocols, responses, anthropic] using known
    refine ⟨conv.tools.map (ToolSpec.verbatim parseFloat), ?_, ?_⟩
    · rw [chat]
      exact chat_conversation parseFloat spelling range
    · rw [List.map_map]
      exact List.map_congr_left fun t _ => value_verbatim parseFloat t

end Conversation

/-! A tool is called twice, once without a word. -/

def firstCall : Call := ⟨.plain "a", .plain "read", .object [member "path" (text "x")]⟩

def secondCall : Call := ⟨.plain "b", .plain "read", .object []⟩

def filesUtterances : List Utterance :=
  [.user (.plain "What is in x?"),
    .assistant (.plain "") [firstCall],
    .outputs [⟨.plain "a", .plain "one"⟩],
    .assistant (.plain "And in the other?") [secondCall],
    .outputs [⟨.plain "b", .plain "two"⟩]]

theorem sound_filesUtterances : ∀ u ∈ filesUtterances, u.Sound := by
  intro u member
  simp only [filesUtterances, List.mem_cons, List.not_mem_nil, or_false] at member
  obtain rfl | rfl | rfl | rfl | rfl := member
  · trivial
  · exact ⟨Or.inr (List.cons_ne_nil _ _), by simp [firstCall, Quoted.plain]⟩
  · exact List.cons_ne_nil _ _
  · exact ⟨Or.inr (List.cons_ne_nil _ _), by simp [secondCall, Quoted.plain]⟩
  · exact List.cons_ne_nil _ _

theorem decodeInt_256 : decodeInt 0 (number "256") = some 256 := by
  decide +kernel

def filesConversation : Conversation where
  model := .plain "m"
  system := .plain "Read the files."
  utterances := filesUtterances
  tools := [⟨.plain "read", .plain "Reads a file.", .object [member "type" (text "object")]⟩]
  toolless := false
  maxTokens := 256
  literal := "256"
  stream := true
  named := by decide
  sound := sound_filesUtterances
  alternates := by simp [filesUtterances, Utterance.isAssistant]
  reads := decodeInt_256

end KvIndexer.HttpApi
