import KvIndexer.Normalize.Anthropic

/-!
A longer conversation normalizes to more of the same messages.

Each adapter goes through the messages of a request from the left and only adds to what it
has; on Responses a function call may still be added to the last message (`ExtendsLast`).
-/

namespace KvIndexer.Normalize

open Config Json

/-- A list and a longer one. -/
def Extends (v v' : Json) : Prop := ∃ ms more, v = .array ms ∧ v' = .array (ms ++ more)

/-! ### Anthropic -/

section Anthropic

variable {adapter : AnthropicAdapter}

theorem isPrefix_foldl_appendMessage (progress : Progress) (more : List AnthropicMessage) :
    progress.1 <+: (more.foldl adapter.appendMessage progress).1 := by
  induction more generalizing progress with
  | nil => exact List.prefix_rfl
  | cons m more ih => exact (List.prefix_append _ _).trans (ih (adapter.appendMessage progress m))

/-- The envelope of the shorter request has the first of the messages. -/
theorem decodeAnthropicEnvelope_extends {body body' : Json} {env' : AnthropicEnvelope}
    (extends_ : InMember "messages" Extends body body')
    (decodes : decodeAnthropicEnvelope {} body' = some env') :
    ∃ msgs more, env'.messages = msgs ++ more ∧
      decodeAnthropicEnvelope {} body = some { env' with messages := msgs } := by
  obtain ⟨_, _, rest, has, has', ms, more, rfl, rfl⟩ := extends_
  have inFields : messagesField ∈ anthropicEnvelopeFields := by simp [anthropicEnvelopeFields]
  obtain ⟨s, msgs', reads, whole, rfl⟩ :=
    (decodeStruct_eq_some lawful_anthropicEnvelopeFields inFields has').mp decodes
  have elements : (ms ++ more).mapM (decodeAnthropicMessage {}) = some msgs' :=
    (decodeSlice_array _ _ _).symm.trans whole
  rw [List.mapM_append] at elements
  obtain ⟨front, first, rest'⟩ := Option.bind_eq_some_iff.mp elements
  obtain ⟨back, -, joined⟩ := Option.bind_eq_some_iff.mp rest'
  obtain rfl : front ++ back = msgs' := Option.some.inj joined
  refine ⟨front, back, rfl, ?_⟩
  refine (decodeStruct_eq_some lawful_anthropicEnvelopeFields inFields has).mpr
    ⟨s, front, reads, ?_, rfl⟩
  exact (decodeSlice_array _ _ _).trans first

theorem convert_extends (env : AnthropicEnvelope) (msgs more : List AnthropicMessage) :
    adapter.convert { env with messages := msgs } <+:
      adapter.convert { env with messages := msgs ++ more } := by
  rw [AnthropicAdapter.convert, AnthropicAdapter.convert, List.foldl_append]
  exact isPrefix_foldl_appendMessage _ more

theorem fromAnthropic_extends {body body' : Json} {rr' : RouteRequest}
    (extends_ : InMember "messages" Extends body body')
    (normalizes : adapter.fromAnthropic body' = .ok rr') :
    ∃ rr, adapter.fromAnthropic body = .ok rr ∧ rr.messages <+: rr'.messages := by
  unfold AnthropicAdapter.fromAnthropic parseAnthropicEnvelope at normalizes ⊢
  cases decodes : decodeAnthropicEnvelope {} body' with
  | none =>
      rw [decodes] at normalizes
      cases normalizes
  | some env' =>
      rw [decodes] at normalizes
      obtain ⟨msgs, more, split, shorter⟩ := decodeAnthropicEnvelope_extends extends_ decodes
      rw [shorter]
      by_cases nameless : env'.model = ""
      · simp only [nameless, if_true] at normalizes
        cases normalizes
      · simp only [nameless, if_false] at normalizes ⊢
        refine ⟨_, rfl, ?_⟩
        obtain rfl := Except.ok.inj normalizes
        have grows : adapter.convert { env' with messages := msgs } <+:
            adapter.convert { env' with messages := msgs ++ more } := convert_extends env' msgs more
        rw [← split] at grows
        exact grows

end Anthropic

/-! ### Responses -/

/-- All messages but the last are there, and the last with more calls perhaps. -/
def ExtendsLast (msgs msgs' : List ChatMessage) : Prop :=
  msgs = [] ∨ ∃ init last calls rest, msgs = init ++ [last] ∧
    msgs' = init ++ { last with toolCalls := last.toolCalls ++ calls } :: rest

theorem ExtendsLast.refl (msgs : List ChatMessage) : ExtendsLast msgs msgs := by
  rcases List.eq_nil_or_concat' msgs with rfl | ⟨init, last, rfl⟩
  · exact Or.inl rfl
  · exact Or.inr ⟨init, last, [], [], rfl, by rw [List.append_nil]⟩

theorem ExtendsLast.append {msgs msgs' : List ChatMessage} (extends_ : ExtendsLast msgs msgs')
    (more : List ChatMessage) : ExtendsLast msgs (msgs' ++ more) := by
  rcases extends_ with rfl | ⟨init, last, calls, rest, rfl, rfl⟩
  · exact Or.inl rfl
  · exact Or.inr ⟨init, last, calls, rest ++ more, rfl, by rw [List.append_assoc, List.cons_append]⟩

/-- A call is added to the last message or makes one. -/
theorem appendCall_concat (init : List ChatMessage) (last : ChatMessage) (tc : ToolCall) :
    appendCall (init ++ [last]) tc =
      if last.role = "assistant" then
        init ++ [{ last with toolCalls := last.toolCalls ++ [tc] }]
      else init ++ [last] ++ [{ role := "assistant", toolCalls := [tc] }] := by
  rw [appendCall, List.getLast?_concat]
  dsimp only
  rw [List.dropLast_concat]

theorem ExtendsLast.appendCall {msgs msgs' : List ChatMessage} (extends_ : ExtendsLast msgs msgs')
    (tc : ToolCall) : ExtendsLast msgs (appendCall msgs' tc) := by
  rcases extends_ with rfl | ⟨init, last, calls, rest, rfl, rfl⟩
  · exact Or.inl rfl
  · rcases List.eq_nil_or_concat' rest with rfl | ⟨rest, last', rfl⟩
    · rw [appendCall_concat]
      split
      · refine Or.inr ⟨init, last, calls ++ [tc], [], rfl, ?_⟩
        rw [← List.append_assoc]
      · refine Or.inr ⟨init, last, calls, [{ role := "assistant", toolCalls := [tc] }], rfl, ?_⟩
        rw [List.append_assoc, List.singleton_append]
    · have shape : init ++ { last with toolCalls := last.toolCalls ++ calls } :: (rest ++ [last']) =
          (init ++ { last with toolCalls := last.toolCalls ++ calls } :: rest) ++ [last'] := by
        rw [List.append_assoc, List.cons_append]
      rw [shape, appendCall_concat]
      have base : ExtendsLast (init ++ [last])
          (init ++ { last with toolCalls := last.toolCalls ++ calls } :: rest) :=
        Or.inr ⟨init, last, calls, rest, rfl, rfl⟩
      split
      · exact base.append _
      · exact (base.append _).append _

variable {parseFloat : String → Option Float}

theorem extendsLast_appendResponsesItem {msgs : List ChatMessage} {progress : Progress}
    (extends_ : ExtendsLast msgs progress.1) (raw : Json) :
    ExtendsLast msgs (appendResponsesItem parseFloat progress raw).1 := by
  unfold appendResponsesItem appendItem
  split
  · exact extends_
  · split_ifs
    · exact extends_.appendCall _
    · exact extends_.append _
    · exact extends_
    · exact extends_.append _

theorem extendsLast_foldl {msgs : List ChatMessage} {progress : Progress}
    (extends_ : ExtendsLast msgs progress.1) (more : List Json) :
    ExtendsLast msgs (more.foldl (appendResponsesItem parseFloat) progress).1 := by
  induction more generalizing progress with
  | nil => exact extends_
  | cons raw more ih => exact ih (extendsLast_appendResponsesItem extends_ raw)

theorem decodeSlice_items (items : List Json) :
    decodeSlice (fun _ j => some j) .null [] (.array items) = some items := by
  rw [decodeSlice_array]
  induction items with
  | nil => rfl
  | cons item items ih => rw [List.mapM_cons, ih]; rfl

/-- List input is gone through item by item. -/
theorem appendResponsesInput_array (msgs : List ChatMessage) (items : List Json) :
    appendResponsesInput parseFloat msgs (some (.array items)) =
      some (items.foldl (appendResponsesItem parseFloat) (msgs, 0)).1 := by
  have noString : decodeString "" (.array items) = none := rfl
  rw [appendResponsesInput, noString, decodeSlice_items]

/-- A body with list input: what else it says, and the messages of the items. -/
theorem fromOpenAIResponses_array {body : Json} {rest : Members} {items : List Json}
    (has : HasMember "input" (.array items) body rest) {rr : RouteRequest} :
    fromOpenAIResponses parseFloat body = .ok rr ↔
      ∃ s : ResponsesBody, readMembers responsesBodyFields {} rest = some s ∧ s.model ≠ "" ∧
        let msgs := (items.foldl (appendResponsesItem parseFloat)
          (instructionMessages s.instructions, 0)).1
        rr =
          { protocol := ProtocolOpenAIResponses
            model := s.model
            messages := msgs
            tools := if isToolChoiceNone s.toolChoice then [] else convertResponsesTools s.tools
            stream := s.stream
            tenantID := s.user
            maxTokens := s.maxOutputTokens.getD 0
            turns := turnsFromMessages msgs } := by
  have inFields : inputField ∈ responsesBodyFields := by simp [responsesBodyFields]
  rw [fromOpenAIResponses, decodeResponsesBody,
    decodeStruct_of lawful_responsesBodyFields inFields has]
  cases readMembers responsesBodyFields {} rest with
  | none => simp
  | some s =>
      simp only [decodeRaw, Option.bind_some, Option.map_some, Option.some.injEq,
        appendResponsesInput_array]
      by_cases nameless : s.model = ""
      · simp [nameless]
      · rw [if_neg nameless, Except.ok.injEq]
        constructor
        · rintro rfl
          exact ⟨s, rfl, nameless, rfl⟩
        · rintro ⟨_, rfl, -, rfl⟩
          rfl

theorem fromOpenAIResponses_extends {body body' : Json} {rr' : RouteRequest}
    (extends_ : InMember "input" Extends body body')
    (normalizes : fromOpenAIResponses parseFloat body' = .ok rr') :
    ∃ rr, fromOpenAIResponses parseFloat body = .ok rr ∧
      ExtendsLast rr.messages rr'.messages := by
  obtain ⟨_, _, rest, has, has', items, more, rfl, rfl⟩ := extends_
  obtain ⟨s, reads, named_, rfl⟩ := (fromOpenAIResponses_array has').mp normalizes
  refine ⟨_, (fromOpenAIResponses_array has).mpr ⟨s, reads, named_, rfl⟩, ?_⟩
  dsimp only
  rw [List.foldl_append]
  exact extendsLast_foldl (ExtendsLast.refl _) more

/-- For both Anthropic adapters the messages of a conversation come first in those of a longer
one; for Responses with list input so do all but the last, which may gain calls. -/
theorem normalize_extends (parseFloat : String → Option Float) {body body' : Json}
    {rr' : RouteRequest} :
    (∀ adapter ∈ [vllmAdapter, sglangAdapter], InMember "messages" Extends body body' →
        adapter.fromAnthropic body' = .ok rr' →
        ∃ rr, adapter.fromAnthropic body = .ok rr ∧ rr.messages <+: rr'.messages) ∧
      (InMember "input" Extends body body' → fromOpenAIResponses parseFloat body' = .ok rr' →
        ∃ rr, fromOpenAIResponses parseFloat body = .ok rr ∧
          ExtendsLast rr.messages rr'.messages) :=
  ⟨fun _ _ => fromAnthropic_extends, fromOpenAIResponses_extends⟩

/-- A request whose conversation is one message, and more. -/
def conversation (name : String) (more : List Json) : Json :=
  .object [member "model" (.text "m"),
    member name (.array ([.object [member "role" (.text "user"), member "content" (.text "hi")]] ++
      more))]

theorem inMember_conversation {name : String}
    (other : named name (member "model" (.text "m")) = false) (more : List Json) :
    InMember name Extends (conversation name []) (conversation name more) := by
  have key_ (v : Json) : named name (member name v) = true := named_iff.mpr rfl
  have only : ∀ m ∈ [member "model" (.text "m")] ++ [], named name m = false := by
    intro m inside
    rw [List.append_nil, List.mem_singleton] at inside
    rw [inside, other]
  exact ⟨_, _, _, .intro (key_ _) only, .intro (key_ _) only, _, more, by rw [List.append_nil], rfl⟩

/-- A function call, as an item of Responses input. -/
def callItem : Json := .object [member "type" (.text "function_call")]

def answer : Json :=
  .object [member "role" (.text "assistant"), member "content" (.text "hello")]

/-- The longer conversation has an answer, or a call. -/
theorem normalize_extends_conversation :
    (∃ rr rr', vllmAdapter.fromAnthropic (conversation "messages" [answer]) = .ok rr' ∧
        rr'.messages.length = 2 ∧
        vllmAdapter.fromAnthropic (conversation "messages" []) = .ok rr ∧
        rr.messages <+: rr'.messages) ∧
      ∃ rr rr', fromOpenAIResponses (fun _ => none) (conversation "input" [callItem]) = .ok rr' ∧
        rr'.messages.length = 2 ∧
        fromOpenAIResponses (fun _ => none) (conversation "input" []) = .ok rr ∧
        ExtendsLast rr.messages rr'.messages := by
  constructor
  · obtain ⟨rr', normalizes, two⟩ :
        ∃ rr', vllmAdapter.fromAnthropic (conversation "messages" [answer]) = .ok rr' ∧
          rr'.messages.length = 2 := ⟨_, rfl, rfl⟩
    obtain ⟨rr, shorter, extends_⟩ := (normalize_extends fun _ => none).1 vllmAdapter
      List.mem_cons_self (inMember_conversation (by decide) [answer]) normalizes
    exact ⟨rr, rr', normalizes, two, shorter, extends_⟩
  · obtain ⟨rr', normalizes, two⟩ :
        ∃ rr', fromOpenAIResponses (fun _ => none) (conversation "input" [callItem]) = .ok rr' ∧
          rr'.messages.length = 2 := ⟨_, rfl, rfl⟩
    obtain ⟨rr, shorter, extends_⟩ := (normalize_extends fun _ => none).2
      (inMember_conversation (by decide) [callItem]) normalizes
    exact ⟨rr, rr', normalizes, two, shorter, extends_⟩

end KvIndexer.Normalize
