import KvIndexer.Normalize.Multimodal

/-!
Which content of an Anthropic request is lost.

A block of a type that the adapter's switch has no case for is skipped, and so is an element
of a tool result; one that cannot be decoded takes the others of its array with it. Nothing
tells such a request from one that had no such content. Everything else is in the messages, or
is left out as the adapters' comments say.
-/

namespace KvIndexer.Normalize

open Config Json HttpApi

/-! ### Texts -/

/-- The text is a part of the other. -/
def Within (s t : String) : Prop := s.toList <:+: t.toList

theorem Within.refl (s : String) : Within s s := List.infix_rfl

theorem Within.append_left {s t : String} (within : Within s t) (front : String) :
    Within s (front ++ t) := by
  rw [Within, String.toList_append]
  exact List.IsInfix.trans within (List.suffix_append _ _).isInfix

theorem Within.append_right {s t : String} (within : Within s t) (back : String) :
    Within s (t ++ back) := by
  rw [Within, String.toList_append]
  exact List.IsInfix.trans within (List.prefix_append _ _).isInfix

theorem Within.trans {s t u : String} (within : Within s t) (within' : Within t u) : Within s u :=
  List.IsInfix.trans within within'

theorem within_join {s : String} {texts : List String} (inside : s ∈ texts) :
    Within s (String.join texts) := by
  induction texts with
  | nil => cases inside
  | cons t texts ih =>
      rw [String.join_cons]
      rcases List.mem_cons.mp inside with rfl | later
      · exact (Within.refl s).append_right _
      · exact (ih later).append_left _

theorem within_intercalate {s sep : String} {texts : List String} (inside : s ∈ texts) :
    Within s (sep.intercalate texts) := by
  induction texts with
  | nil => cases inside
  | cons t texts ih =>
      cases texts with
      | nil =>
          rw [List.mem_singleton.mp inside, String.intercalate_singleton]
          exact Within.refl t
      | cons u texts =>
          rw [String.intercalate_cons_cons]
          rcases List.mem_cons.mp inside with rfl | later
          · exact ((Within.refl s).append_right _).append_right _
          · exact (ih later).append_left _

/-! ### What is represented -/

/-- The text is in the text of a message. -/
def InText (s : String) (msgs : List ChatMessage) : Prop :=
  ∃ m ∈ msgs, Within s (contentToText m.content)

/-- The part is in the parts of a message. -/
def InParts (part : Value) (msgs : List ChatMessage) : Prop :=
  ∃ m ∈ msgs, ∃ parts, m.content = .list parts ∧ part ∈ parts

/-- How a block shows in the messages: as text, image part, tool call, tool result or reasoning. -/
inductive BlockShown (conventions : Conventions) (role : String) (msgs : List ChatMessage)
    (b : AnthropicBlock) : Prop where
  | text (type : b.type = "text") (text : InText b.text msgs)
  | image (type : b.type = "image") (url : String)
      (found : anthropicImageURL b.source conventions.defaultMT = some url)
      (part : InParts (imagePart url) msgs)
  | call (type : b.type = "tool_use") (tc : ToolCall) (made : tc ∈ calls msgs)
      (id : b.id ≠ "" → tc.id = b.id) (function : tc.function = ⟨b.name, jsonString b.input⟩)
  | result (type : b.type = "tool_result") (m : ChatMessage) (made : m ∈ msgs)
      (tool : m.role = "tool") (id : b.toolUseID ≠ "" → m.toolCallID = b.toolUseID)
      (text : ∀ s, unmarshal decodeString "" b.content = some s → m.content = .string s)
  | inlined (type : b.type = "tool_result") (other : role ≠ "user")
      (text : InText ("Tool result: " ++ conventions.inlined b) msgs)
  | reasoning (type : b.type = "thinking") (keeps : conventions.keepsThinking = true)
      (text : Within b.thinking (String.join (msgs.map ChatMessage.reasoning)))

/-- The drops that the adapters' comments name: empty text, an image with an invalid or empty
source, redacted thinking, and thinking or a reference that stands alone. -/
inductive BlockDropped (conventions : Conventions) (b : AnthropicBlock) : Prop where
  | emptyText (type : b.type = "text") (empty : b.text = "")
  | noSource (type : b.type = "image") (invalid : ¬ ValidSource b.source)
  | redacted (type : b.type = "redacted_thinking")
  | thinking (type : b.type = "thinking") (drops : conventions.keepsThinking = false)
  | reference (type : b.type = "tool_reference") (keeps : conventions.keepsThinking = true)

/-- How an element of a tool result shows in the messages. -/
inductive ElementShown (conventions : Conventions) (role : String) (msgs : List ChatMessage)
    (j : Json) : Prop where
  | text {it : ToolResultItem} (decodes : decodeToolResultItem {} j = some it)
      (type : it.type = "text") (text : InText it.text msgs)
  | image {it : ToolResultItem} (decodes : decodeToolResultItem {} j = some it)
      (type : it.type = "image") (url : String)
      (found : anthropicImageURL it.source conventions.defaultMT = some url)
      (part : InParts (imagePart url) msgs)
  | reference {it : ToolResultItem} (decodes : decodeToolResultItem {} j = some it)
      (type : it.type = "tool_reference") (part : InParts (toolReferencePart it.ref) msgs)
  | inlined (whole : conventions.inlinesJson = true) (other : role ≠ "user")
      (text : InText j.compact msgs)

/-- The documented drops, of an element. -/
inductive ElementDropped (j : Json) : Prop where
  | emptyText {it : ToolResultItem} (decodes : decodeToolResultItem {} j = some it)
      (type : it.type = "text") (empty : it.text = "")
  | noSource {it : ToolResultItem} (decodes : decodeToolResultItem {} j = some it)
      (type : it.type = "image") (invalid : ¬ ValidSource it.source)

/-- The types of the blocks that are shown or dropped as documented. -/
def Conventions.known (conventions : Conventions) : List String :=
  conventions.handled ++
    if conventions.keepsThinking then ["redacted_thinking", "tool_reference"]
    else ["redacted_thinking", "thinking"]

/-- The messages that a request has in place of one of its own. -/
inductive Segment (adapter : AnthropicAdapter) (env : AnthropicEnvelope) (m : AnthropicMessage) :
    List ChatMessage → Prop where
  | intro {front back : List AnthropicMessage} (split : env.messages = front ++ m :: back) :
      Segment adapter env m
        (adapter.message (front.foldl adapter.appendMessage
          (adapter.systemMessages env.system, 0)).2 m).1

/-- Every block is shown, or dropped as documented, or the request is flagged. -/
def BlocksKept (adapter : AnthropicAdapter) (conventions : Conventions) (env : AnthropicEnvelope)
    (rr : RouteRequest) : Prop :=
  ∀ m msgs, Segment adapter env m msgs → ∀ j ∈ elementsOf m.content,
    (∃ b, decodeAnthropicBlock {} j = some b ∧
        (BlockShown conventions m.role msgs b ∨ BlockDropped conventions b)) ∨
      rr.hasMultimodalContent = true

/-- So is every element of a tool result. -/
def ElementsKept (adapter : AnthropicAdapter) (conventions : Conventions) (env : AnthropicEnvelope)
    (rr : RouteRequest) : Prop :=
  ∀ m msgs, Segment adapter env m msgs → ∀ b ∈ m.blocks, b.type = "tool_result" →
    ∀ j ∈ elementsOf b.content,
      (ElementShown conventions m.role msgs j ∨ ElementDropped j) ∨
        rr.hasMultimodalContent = true

/-- Something in the request is seen by `HasMultimodalContent`. -/
def AnthropicEnvelope.Seen (env : AnthropicEnvelope) : Prop :=
  ∃ m ∈ env.messages, ∃ b ∈ m.blocks, b.Seen m.role

/-- Every block is decoded and has a known type. -/
def BlocksKnown (conventions : Conventions) (env : AnthropicEnvelope) : Prop :=
  ∀ m ∈ env.messages, ∀ j ∈ elementsOf m.content,
    ∃ b, decodeAnthropicBlock {} j = some b ∧ b.type ∈ conventions.known

/-- Every element of a tool result that is not inlined whole is a text, or an image that has no
source. -/
def ElementsKnown (conventions : Conventions) (env : AnthropicEnvelope) : Prop :=
  ∀ m ∈ env.messages, ∀ b ∈ m.blocks, b.type = "tool_result" →
    (conventions.inlinesJson = true ∧ m.role ≠ "user") ∨
      ∀ j ∈ elementsOf b.content, ∃ it, decodeToolResultItem {} j = some it ∧
        (it.type = "text" ∨ it.type = "image" ∧ ¬ ValidSource it.source)

/-! ### Nothing collected is lost again -/

/-- A conversion, and a later one. -/
structure Grows (c c' : Conversion) : Prop where
  contentParts : c.contentParts <+: c'.contentParts
  toolCalls : c.toolCalls <+: c'.toolCalls
  split : c.split <+: c'.split
  reasoning : Within c.reasoning c'.reasoning

theorem Grows.refl (c : Conversion) : Grows c c :=
  ⟨List.prefix_rfl, List.prefix_rfl, List.prefix_rfl, .refl _⟩

theorem Grows.trans {c c' c'' : Conversion} (grows : Grows c c') (grows' : Grows c' c'') :
    Grows c c'' :=
  ⟨grows.contentParts.trans grows'.contentParts, grows.toolCalls.trans grows'.toolCalls,
    grows.split.trans grows'.split, grows.reasoning.trans grows'.reasoning⟩

section

variable {adapter : AnthropicAdapter} {conventions : Conventions} {role : String}
  {c c' : Conversion} {b : AnthropicBlock} {msgs : List ChatMessage}

theorem BlockStep.grows (step : BlockStep conventions role c b c') : Grows c c' := by
  cases step with
  | text | image | inlined =>
      exact ⟨List.prefix_append _ _, List.prefix_rfl, List.prefix_rfl, .refl _⟩
  | thinking =>
      exact ⟨List.prefix_rfl, List.prefix_rfl, List.prefix_rfl, (Within.refl _).append_right _⟩
  | call => exact ⟨List.prefix_rfl, List.prefix_append _ _, List.prefix_rfl, .refl _⟩
  | userResult => exact ⟨List.prefix_rfl, List.prefix_rfl, List.prefix_append _ _, .refl _⟩
  | _ => exact .refl c

/-- The step of a block, and all that comes after it. -/
theorem Follows.foldl (follows : Follows adapter conventions) (role : String)
    (blocks : List AnthropicBlock)
    (made : c.Made) :
    (blocks.foldl (adapter.block role) c).Made ∧ Grows c (blocks.foldl (adapter.block role) c) ∧
      ∀ b ∈ blocks, ∃ c₁ c₂, BlockStep conventions role c₁ b c₂ ∧
        Grows c₂ (blocks.foldl (adapter.block role) c) := by
  induction blocks generalizing c with
  | nil => exact ⟨made, .refl c, nofun⟩
  | cons b blocks ih =>
      have step := follows.block role c b
      obtain ⟨made', grows, steps⟩ := ih (step.made made)
      refine ⟨made', step.grows.trans grows, fun b' inside => ?_⟩
      rcases List.mem_cons.mp inside with rfl | later
      · exact ⟨c, _, step, grows⟩
      · exact steps b' later

theorem Assembled.of_split (assembled : Assembled conventions role c msgs) {m : ChatMessage}
    (inside : m ∈ c.split) : m ∈ msgs := by
  cases assembled with
  | before => exact List.mem_cons_of_mem _ inside
  | after => exact List.mem_append_left _ inside
  | nothing => exact inside

theorem Assembled.content (assembled : Assembled conventions role c msgs) :
    (∃ m ∈ msgs, ContentMessage conventions role c m) ∨
      isNil (collapseContentParts c.contentParts) = true ∧ c.toolCalls = [] ∧
        (conventions.keepsThinking = true → c.reasoning = "") := by
  cases assembled with
  | @before m content => exact Or.inl ⟨m, List.mem_cons_self, content⟩
  | @after m content =>
      exact Or.inl ⟨m, List.mem_append_right _ List.mem_cons_self, content⟩
  | nothing nil_ noCalls noReasoning => exact Or.inr ⟨nil_, noCalls, noReasoning⟩

theorem within_collapse {parts : List Value} {s : String} (inside : textPart (.string s) ∈ parts) :
    Within s (contentToText (collapseContentParts parts)) := by
  match parts with
  | [] => cases inside
  | [part] =>
      rw [← List.mem_singleton.mp inside]
      exact Within.refl s
  | first :: second :: rest => exact within_join (List.mem_map.mpr ⟨_, inside, rfl⟩)

/-- Parts that were collected are in a message. -/
theorem Assembled.parts (assembled : Assembled conventions role c msgs) (made : c.Made)
    {part : Value} (inside : part ∈ c.contentParts) :
    ∃ m ∈ msgs, m.content = collapseContentParts c.contentParts := by
  rcases assembled.content with ⟨m, inside', content⟩ | ⟨nil_, -⟩
  · exact ⟨m, inside', content.content⟩
  · rw [parts_of_isNil made nil_] at inside
    cases inside

theorem Assembled.inText (assembled : Assembled conventions role c msgs) (made : c.Made)
    {s : String} (inside : textPart (.string s) ∈ c.contentParts) : InText s msgs := by
  obtain ⟨m, inside', content⟩ := assembled.parts made inside
  exact ⟨m, inside', content ▸ within_collapse inside⟩

theorem Assembled.inParts (assembled : Assembled conventions role c msgs) (made : c.Made)
    {url : String} (inside : imagePart url ∈ c.contentParts) : InParts (imagePart url) msgs := by
  obtain ⟨m, inside', content⟩ := assembled.parts made inside
  refine ⟨m, inside', c.contentParts, ?_, inside⟩
  rw [content]
  generalize c.contentParts = parts at inside
  match parts with
  | [] => cases inside
  | [part] =>
      rw [← List.mem_singleton.mp inside]
      rfl
  | _ :: _ :: _ => rfl

theorem mem_calls {m : ChatMessage} (inside : m ∈ msgs) {tc : ToolCall} (call : tc ∈ m.toolCalls) :
    tc ∈ calls msgs := List.mem_flatMap.mpr ⟨m, inside, call⟩

end

/-- What an adapter keeps of a tool result. -/
structure KeepsResults (conventions : Conventions) : Prop where
  message : ∀ b, ∃ m ∈ conventions.userResult b, m.role = "tool" ∧
    (b.toolUseID ≠ "" → m.toolCallID = b.toolUseID) ∧
      ∀ s, unmarshal decodeString "" b.content = some s → m.content = .string s
  text : ∀ b js items it, b.content = some (.array js) →
    js.mapM (decodeToolResultItem {}) = some items → it ∈ items → it.type = "text" →
      it.text ≠ "" → InText it.text (conventions.userResult b)
  inlined : ∀ b js items it, conventions.inlinesJson = false → b.content = some (.array js) →
    js.mapM (decodeToolResultItem {}) = some items → it ∈ items → it.type = "text" →
      it.text ≠ "" → Within it.text (conventions.inlined b)
  json : ∀ b js j, conventions.inlinesJson = true → b.content = some (.array js) → j ∈ js →
    Within j.compact (conventions.inlined b)

theorem within_compact_array {j : Json} {js : List Json} (inside : j ∈ js) :
    Within j.compact (compact (.array js)) := by
  have elements : j.compact ∈ compactAll js := by
    rw [compactAll_eq_map]
    exact List.mem_map_of_mem inside
  rw [compact]
  exact ((within_intercalate elements).append_left _).append_right _

/-- A list of elements is no text. -/
theorem unmarshal_items {raw : Option Json} {js : List Json} {items : List ToolResultItem}
    (given : raw = some (.array js)) (decodes : js.mapM (decodeToolResultItem {}) = some items) :
    unmarshal decodeString "" raw = none ∧
      unmarshal (decodeSlice decodeToolResultItem {}) [] raw = some items := by
  rw [given]
  exact ⟨rfl, (decodeSlice_array _ _ js).trans decodes⟩

theorem keepsResults_sglang : KeepsResults sglangConventions where
  message b := by
    refine ⟨_, List.mem_cons_self, rfl, fun given => if_pos given, fun s text => ?_⟩
    dsimp only
    rw [sglangToolResultContent, text]
  text b js items it given decodes inside type some_ := by
    obtain ⟨noText, listed⟩ := unmarshal_items given decodes
    have part : textPart (.string it.text) ∈ items.filterMap sglangResultPart :=
      List.mem_filterMap.mpr ⟨it, inside, by simp [sglangResultPart, type, some_]⟩
    refine ⟨_, List.mem_cons_self, ?_⟩
    dsimp only
    rw [sglangToolResultContent_items noText listed, if_neg (List.ne_nil_of_mem part)]
    exact within_collapse part
  inlined b js items it _ given decodes inside type some_ := by
    obtain ⟨noText, listed⟩ := unmarshal_items given decodes
    dsimp only [sglangConventions]
    rw [sglangToolResultContent, noText, listed]
    refine within_intercalate (List.mem_map.mpr ⟨it, List.mem_filter.mpr ⟨inside, ?_⟩, rfl⟩)
    exact decide_eq_true ⟨type, some_⟩
  json b js j whole := nomatch whole

theorem keepsResults_vllm : KeepsResults vllmConventions where
  message b := by
    refine ⟨_, List.mem_cons_self, rfl, fun _ => rfl, fun s text => ?_⟩
    dsimp only
    rw [vllmSplitToolResultContent, text]
  text b js items it given decodes inside type _ := by
    obtain ⟨noText, listed⟩ := unmarshal_items given decodes
    refine ⟨_, List.mem_cons_self, ?_⟩
    dsimp only [contentToText]
    rw [vllmSplitToolResultContent, noText, listed]
    refine within_intercalate (List.mem_map.mpr ⟨it, List.mem_filter.mpr ⟨inside, ?_⟩, rfl⟩)
    exact decide_eq_true type
  inlined b js items it whole := nomatch whole
  json b js j _ given inside := by
    dsimp only [vllmConventions]
    rw [given]
    exact within_compact_array inside

section

variable {conventions : Conventions} {role : String} {c c₁ c₂ : Conversion} {b : AnthropicBlock}
  {msgs : List ChatMessage}

theorem shown_or_dropped (keeps : KeepsResults conventions)
    (step : BlockStep conventions role c₁ b c₂) (grows : Grows c₂ c) (made : c.Made)
    (assembled : Assembled conventions role c msgs) (known : b.type ∈ conventions.known) :
    BlockShown conventions role msgs b ∨ BlockDropped conventions b := by
  cases step with
  | text type =>
      have inside := grows.contentParts.subset (List.mem_append_right _ List.mem_cons_self)
      exact Or.inl (.text type (assembled.inText made inside))
  | emptyText type empty => exact Or.inr (.emptyText type empty)
  | image type url found =>
      have inside := grows.contentParts.subset (List.mem_append_right _ List.mem_cons_self)
      exact Or.inl (.image type url found (assembled.inParts made inside))
  | noImage type none_ =>
      refine Or.inr (.noSource type ?_)
      rw [validSource_iff conventions.defaultMT, none_]
      nofun
  | thinking type thinks =>
      have within : Within b.thinking c.reasoning :=
        ((Within.refl b.thinking).append_left _).trans grows.reasoning
      refine Or.inl (.reasoning type thinks (within.trans ?_))
      rcases assembled.content with ⟨m, inside, content⟩ | ⟨-, -, noReasoning⟩
      · rw [← content.reasoning thinks]
        exact within_join (List.mem_map_of_mem inside)
      · rw [noReasoning thinks]
        exact (List.nil_prefix).isInfix
  | call type =>
      have inside : toolUseCall b c₁.counter ∈ c.toolCalls :=
        grows.toolCalls.subset (List.mem_append_right _ List.mem_cons_self)
      rcases assembled.content with ⟨m, made_, content⟩ | ⟨-, noCalls, -⟩
      · exact Or.inl (.call type _ (mem_calls made_ (content.toolCalls ▸ inside))
          (fun given => if_pos given) rfl)
      · rw [noCalls] at inside
        cases inside
  | userResult type user =>
      obtain ⟨m, inside, tool, id, text⟩ := keeps.message b
      have split := grows.split.subset (List.mem_append_right _ inside)
      exact Or.inl (.result type m (assembled.of_split split) tool id text)
  | inlined type other =>
      have inside := grows.contentParts.subset (List.mem_append_right _ List.mem_cons_self)
      exact Or.inl (.inlined type other (assembled.inText made inside))
  | skipped unhandled =>
      have documented := (List.mem_append.mp known).resolve_left unhandled
      cases thinks : conventions.keepsThinking with
      | true =>
          rw [thinks, if_pos rfl] at documented
          simp only [List.mem_cons, List.not_mem_nil, or_false] at documented
          exact Or.inr (documented.elim .redacted fun type => .reference type thinks)
      | false =>
          rw [thinks, if_neg Bool.false_ne_true] at documented
          simp only [List.mem_cons, List.not_mem_nil, or_false] at documented
          exact Or.inr (documented.elim .redacted fun type => .thinking type thinks)

end

/-! ### Lost and not flagged -/

theorem mem_elementsOf {raw : Option Json} {j : Json} (inside : j ∈ elementsOf raw) :
    ∃ js, raw = some (.array js) ∧ j ∈ js := by
  unfold elementsOf at inside
  split at inside
  · exact ⟨_, rfl, inside⟩
  · cases inside

theorem mem_handled {conventions : Conventions} {type : String}
    (listed : type ∈ ["text", "image", "tool_use", "tool_result"]) : type ∈ conventions.handled :=
  List.mem_append_left _ listed

section

variable {adapter : AnthropicAdapter} {conventions : Conventions}

/-- A message that has a block is made of its blocks. -/
theorem message_of_mem_blocks {m : AnthropicMessage} {b : AnthropicBlock} (inside : b ∈ m.blocks)
    (n : Nat) :
    (adapter.message n m).1 =
      adapter.messages m.role (m.blocks.foldl (adapter.block m.role) { counter := n }) := by
  unfold AnthropicMessage.blocks at inside ⊢
  unfold AnthropicAdapter.message
  cases text : unmarshal decodeString "" m.content with
  | some s =>
      rw [unmarshal_slice_of_text _ _ text] at inside
      cases inside
  | none =>
      cases listed : unmarshal (decodeSlice decodeAnthropicBlock {}) [] m.content with
      | none =>
          rw [listed] at inside
          cases inside
      | some blocks => rfl

theorem BlockShown.known {role : String} {msgs : List ChatMessage} {b : AnthropicBlock}
    (shown : BlockShown conventions role msgs b) : b.type ∈ conventions.known := by
  refine List.mem_append_left _ ?_
  cases shown with
  | reasoning type keeps => simp [Conventions.handled, type, keeps]
  | text type | image type | call type | result type | inlined type =>
      rw [type]
      exact mem_handled (by decide)

theorem BlockDropped.known {b : AnthropicBlock} (dropped : BlockDropped conventions b) :
    b.type ∈ conventions.known := by
  cases dropped with
  | emptyText type | noSource type =>
      rw [type]
      exact List.mem_append_left _ (mem_handled (by decide))
  | redacted type =>
      refine List.mem_append_right _ ?_
      split <;> simp [type]
  | thinking type drops => exact List.mem_append_right _ (by simp [type, drops])
  | reference type keeps => exact List.mem_append_right _ (by simp [type, keeps])

/-- The step of a block of the message, and what became of it. -/
theorem Segment.step (follows : Follows adapter conventions) {env : AnthropicEnvelope}
    {m : AnthropicMessage} {msgs : List ChatMessage} (segment : Segment adapter env m msgs)
    {b : AnthropicBlock} (inside : b ∈ m.blocks) :
    ∃ c₁ c₂ c, BlockStep conventions m.role c₁ b c₂ ∧ Grows c₂ c ∧ c.Made ∧
      Assembled conventions m.role c msgs := by
  obtain ⟨split⟩ := segment
  rename_i front back
  rw [message_of_mem_blocks inside]
  generalize (front.foldl adapter.appendMessage (adapter.systemMessages env.system, 0)).2 = n
  have nothing : ({ counter := n } : Conversion).Made := nofun
  obtain ⟨made, -, steps⟩ := follows.foldl m.role m.blocks nothing
  obtain ⟨c₁, c₂, step, grows⟩ := steps b inside
  exact ⟨c₁, c₂, _, step, grows, made, follows.messages m.role _⟩

/-- What is not seen anywhere has no foreign part in any message. -/
theorem Segment.not_inParts (shows_ : ShowsSeen adapter) {env : AnthropicEnvelope}
    {m : AnthropicMessage} {msgs : List ChatMessage} (segment : Segment adapter env m msgs)
    (unseen : ¬ env.Seen) {part : Value} (foreign_ : isMultimodalPart part = true) :
    ¬ InParts part msgs := by
  rintro ⟨msg, inside, parts, content, part_⟩
  obtain ⟨split⟩ := segment
  have shown : detected (adapter.message _ m).1 = true :=
    List.any_eq_true.mpr ⟨msg, inside, by
      rw [content]
      exact List.any_eq_true.mpr ⟨part, part_, foreign_⟩⟩
  rw [shows_.message] at shown
  refine unseen ⟨m, ?_, shown⟩
  rw [split]
  exact List.mem_append_right _ List.mem_cons_self

theorem Segment.mem {env : AnthropicEnvelope} {m : AnthropicMessage} {msgs : List ChatMessage}
    (segment : Segment adapter env m msgs) : m ∈ env.messages := by
  obtain ⟨split⟩ := segment
  rw [split]
  exact List.mem_append_right _ List.mem_cons_self

theorem exists_segment (adapter : AnthropicAdapter) {env : AnthropicEnvelope}
    {m : AnthropicMessage} (inside : m ∈ env.messages) :
    ∃ msgs, Segment adapter env m msgs := by
  obtain ⟨front, back, split⟩ := List.append_of_mem inside
  exact ⟨_, .intro split⟩

variable {raw : Json} {env : AnthropicEnvelope} {rr : RouteRequest}

theorem blocksKept_iff (follows : Follows adapter conventions) (keeps : KeepsResults conventions)
    (shows_ : ShowsSeen adapter) (parses : parseAnthropicEnvelope raw = .ok env)
    (normalizes : adapter.fromAnthropic raw = .ok rr) :
    BlocksKept adapter conventions env rr ↔ env.Seen ∨ BlocksKnown conventions env := by
  have flagged := shows_.fromAnthropic parses normalizes
  constructor
  · intro kept
    by_cases seen : env.Seen
    · exact Or.inl seen
    · refine Or.inr fun m inside j element => ?_
      obtain ⟨msgs, segment⟩ := exists_segment adapter inside
      rcases kept m msgs segment j element with ⟨b, decodes, shown | dropped⟩ | flag
      · exact ⟨b, decodes, shown.known⟩
      · exact ⟨b, decodes, dropped.known⟩
      · exact absurd (flagged.mp flag) seen
  · rintro (seen | known) m msgs segment j element
    · exact Or.inr (flagged.mpr seen)
    · left
      obtain ⟨js, given, inside⟩ := mem_elementsOf element
      have each : ∀ j ∈ js,
          ∃ b, decodeAnthropicBlock {} j = some b ∧ b.type ∈ conventions.known := by
        have all := known m segment.mem
        rw [given] at all
        exact all
      obtain ⟨blocks, decodes⟩ := exists_mapM fun j inside =>
        let ⟨b, reads, _⟩ := each j inside
        ⟨b, reads⟩
      obtain ⟨b, inBlocks, reads⟩ := mem_of_mapM decodes inside
      obtain ⟨b', reads', type⟩ := each j inside
      obtain rfl : b = b' := Option.some.inj (reads.symm.trans reads')
      have listed : b ∈ m.blocks := by
        rw [AnthropicMessage.blocks, given, unmarshal, Option.bind_some, decodeSlice_array, decodes]
        exact inBlocks
      obtain ⟨c₁, c₂, c, step, grows, made, assembled⟩ := segment.step follows listed
      exact ⟨b, reads, shown_or_dropped keeps step grows made assembled type⟩

/-- An element of a tool result that is a text shows. -/
theorem shown_element (keeps : KeepsResults conventions) {role : String} {c c₁ c₂ : Conversion}
    {b : AnthropicBlock} {msgs : List ChatMessage} (step : BlockStep conventions role c₁ b c₂)
    (grows : Grows c₂ c) (made : c.Made) (assembled : Assembled conventions role c msgs)
    (result : b.type = "tool_result") {js : List Json} (given : b.content = some (.array js))
    {items : List ToolResultItem} (decodes : js.mapM (decodeToolResultItem {}) = some items)
    {it : ToolResultItem} (inside : it ∈ items) (type : it.type = "text") (some_ : it.text ≠ "")
    (split : conventions.inlinesJson = true → role = "user") : InText it.text msgs := by
  cases step with
  | userResult _ user =>
      obtain ⟨m, made_, text⟩ := keeps.text b js items it given decodes inside type some_
      exact ⟨m, assembled.of_split (grows.split.subset (List.mem_append_right _ made_)), text⟩
  | inlined _ other =>
      have texts : conventions.inlinesJson = false := by
        by_contra whole
        exact other (split (Bool.eq_true_of_not_eq_false whole))
      obtain ⟨m, made_, text⟩ := assembled.inText made
        (grows.contentParts.subset (List.mem_append_right _ List.mem_cons_self))
      have within := keeps.inlined b js items it texts given decodes inside type some_
      exact ⟨m, made_, (within.append_left _).trans text⟩
  | skipped unhandled =>
      rw [result] at unhandled
      exact absurd (mem_handled (by decide)) unhandled
  | text other | emptyText other | image other | noImage other | thinking other | call other =>
      rw [result] at other
      exact absurd other (by decide)

/-- So does an element of one that is inlined whole. -/
theorem shown_whole (keeps : KeepsResults conventions) {role : String} {c c₁ c₂ : Conversion}
    {b : AnthropicBlock} {msgs : List ChatMessage} (step : BlockStep conventions role c₁ b c₂)
    (grows : Grows c₂ c) (made : c.Made) (assembled : Assembled conventions role c msgs)
    (result : b.type = "tool_result") {js : List Json} (given : b.content = some (.array js))
    (whole : conventions.inlinesJson = true) (other : role ≠ "user") {j : Json} (inside : j ∈ js) :
    InText j.compact msgs := by
  cases step with
  | inlined =>
      obtain ⟨m, made_, text⟩ := assembled.inText made
        (grows.contentParts.subset (List.mem_append_right _ List.mem_cons_self))
      exact ⟨m, made_, ((keeps.json b js j whole given inside).append_left _).trans text⟩
  | userResult _ user => exact absurd user other
  | skipped unhandled =>
      rw [result] at unhandled
      exact absurd (mem_handled (by decide)) unhandled
  | text type | emptyText type | image type | noImage type | thinking type | call type =>
      rw [result] at type
      exact absurd type (by decide)

theorem elementsKept_iff (follows : Follows adapter conventions) (keeps : KeepsResults conventions)
    (shows_ : ShowsSeen adapter) (parses : parseAnthropicEnvelope raw = .ok env)
    (normalizes : adapter.fromAnthropic raw = .ok rr) :
    ElementsKept adapter conventions env rr ↔ env.Seen ∨ ElementsKnown conventions env := by
  have flagged := shows_.fromAnthropic parses normalizes
  constructor
  · intro kept
    by_cases seen : env.Seen
    · exact Or.inl seen
    · refine Or.inr fun m inside b block result => ?_
      by_cases whole : conventions.inlinesJson = true ∧ m.role ≠ "user"
      · exact Or.inl whole
      · refine Or.inr fun j element => ?_
        obtain ⟨msgs, segment⟩ := exists_segment adapter inside
        rcases kept m msgs segment b block result j element with (shown | dropped) | flag
        · cases shown with
          | @text it decodes type => exact ⟨it, decodes, Or.inl type⟩
          | @image it _ _ url _ part =>
              exact absurd part (segment.not_inParts shows_ seen (isMultimodalPart_imagePart url))
          | @reference it _ _ part =>
              exact absurd part
                (segment.not_inParts shows_ seen (isMultimodalPart_toolReferencePart it.ref))
          | inlined whole' other => exact absurd ⟨whole', other⟩ whole
        · cases dropped with
          | @emptyText it decodes type => exact ⟨it, decodes, Or.inl type⟩
          | @noSource it decodes type invalid => exact ⟨it, decodes, Or.inr ⟨type, invalid⟩⟩
        · exact absurd (flagged.mp flag) seen
  · rintro (seen | known) m msgs segment b block result j element
    · exact Or.inr (flagged.mpr seen)
    · left
      obtain ⟨js, given, inside⟩ := mem_elementsOf element
      obtain ⟨c₁, c₂, c, step, grows, made, assembled⟩ := segment.step follows block
      by_cases whole : conventions.inlinesJson = true ∧ m.role ≠ "user"
      · exact Or.inl (.inlined whole.1 whole.2
          (shown_whole keeps step grows made assembled result given whole.1 whole.2 inside))
      · have each : ∀ j ∈ js, ∃ it, decodeToolResultItem {} j = some it ∧
            (it.type = "text" ∨ it.type = "image" ∧ ¬ ValidSource it.source) := by
          have all := (known m segment.mem b block result).resolve_left whole
          rw [given] at all
          exact all
        obtain ⟨items, decodes⟩ := exists_mapM fun j inside =>
          let ⟨it, reads, _⟩ := each j inside
          ⟨it, reads⟩
        obtain ⟨it, item, reads⟩ := mem_of_mapM decodes inside
        obtain ⟨it', reads', type⟩ := each j inside
        obtain rfl : it = it' := Option.some.inj (reads.symm.trans reads')
        rcases type with type | ⟨type, invalid⟩
        · by_cases empty : it.text = ""
          · exact Or.inr (.emptyText reads type empty)
          · have split : conventions.inlinesJson = true → m.role = "user" := fun inlines =>
              not_not.mp fun other => whole ⟨inlines, other⟩
            exact Or.inl (.text reads type
              (shown_element keeps step grows made assembled result given decodes item type empty
                split))
        · exact Or.inr (.noSource reads type invalid)

end

/-- Content is kept or flagged if and only if something else is flagged, or every block is
decoded and of a known type, and so is every element of a tool result. -/
theorem content_kept_iff {raw : Json} {env : AnthropicEnvelope} {rr : RouteRequest}
    (parses : parseAnthropicEnvelope raw = .ok env) :
    ∀ a ∈ [(vllmAdapter, vllmConventions), (sglangAdapter, sglangConventions)],
      a.1.fromAnthropic raw = .ok rr →
        (BlocksKept a.1 a.2 env rr ↔ env.Seen ∨ BlocksKnown a.2 env) ∧
          (ElementsKept a.1 a.2 env rr ↔ env.Seen ∨ ElementsKnown a.2 env) := by
  intro a member normalizes
  simp only [List.mem_cons, List.not_mem_nil, or_false] at member
  rcases member with rfl | rfl
  · exact ⟨blocksKept_iff vllm_follows keepsResults_vllm showsSeen_vllm parses normalizes,
      elementsKept_iff vllm_follows keepsResults_vllm showsSeen_vllm parses normalizes⟩
  · exact ⟨blocksKept_iff sglang_follows keepsResults_sglang showsSeen_sglang parses normalizes,
      elementsKept_iff sglang_follows keepsResults_sglang showsSeen_sglang parses normalizes⟩

theorem content_kept_iff_image :
    ∃ env rr, parseAnthropicEnvelope (contentBody "messages" [imageBlock]) = .ok env ∧
      vllmAdapter.fromAnthropic (contentBody "messages" [imageBlock]) = .ok rr ∧
      (BlocksKept vllmAdapter vllmConventions env rr ↔
        env.Seen ∨ BlocksKnown vllmConventions env) := by
  obtain ⟨env, parses⟩ :
      ∃ env, parseAnthropicEnvelope (contentBody "messages" [imageBlock]) = .ok env := ⟨_, rfl⟩
  obtain ⟨rr, normalizes⟩ :
      ∃ rr, vllmAdapter.fromAnthropic (contentBody "messages" [imageBlock]) = .ok rr := ⟨_, rfl⟩
  exact ⟨env, rr, parses, normalizes,
    (content_kept_iff parses (vllmAdapter, vllmConventions) List.mem_cons_self normalizes).1⟩

/-- A document of the user's. -/
def documentBlock : Json :=
  .object [member "type" (.text "document"),
    member "source" (.object [member "type" (.text "text"), member "data" (.text "d")])]

/-- The document is skipped and the request is not flagged. -/
theorem document_lost :
    ∀ a ∈ [(vllmAdapter, vllmConventions), (sglangAdapter, sglangConventions)], ∃ env rr,
      parseAnthropicEnvelope (contentBody "messages" [documentBlock]) = .ok env ∧
        a.1.fromAnthropic (contentBody "messages" [documentBlock]) = .ok rr ∧
          ¬ BlocksKept a.1 a.2 env rr := by
  have unknown : ∀ conventions ∈ [vllmConventions, sglangConventions],
      "document" ∉ conventions.known := by decide
  have lost (adapter : AnthropicAdapter) (conventions : Conventions)
      (listed : conventions ∈ [vllmConventions, sglangConventions]) {env : AnthropicEnvelope}
      {rr : RouteRequest} (unflagged : rr.hasMultimodalContent = false) {m : AnthropicMessage}
      (messages : env.messages = [m]) (content : m.content = some (.array [documentBlock])) :
      ¬ BlocksKept adapter conventions env rr := by
    intro kept
    have inside : documentBlock ∈ elementsOf m.content := by
      rw [content]
      exact List.mem_cons_self
    have listed' : m ∈ env.messages := by
      rw [messages]
      exact List.mem_cons_self
    obtain ⟨msgs, segment⟩ := exists_segment adapter listed'
    rcases kept m msgs segment documentBlock inside with ⟨b, decodes, shown⟩ | flag
    · have type : b.type = "document" := by
        rw [← Option.some.inj decodes]
        rfl
      have known : b.type ∈ conventions.known := shown.elim (·.known) (·.known)
      rw [type] at known
      exact unknown conventions listed known
    · rw [unflagged] at flag
      cases flag
  intro a member
  simp only [List.mem_cons, List.not_mem_nil, or_false] at member
  rcases member with rfl | rfl
  · exact ⟨_, _, rfl, rfl, lost _ _ (by simp) rfl rfl rfl⟩
  · exact ⟨_, _, rfl, rfl, lost _ _ (by simp) rfl rfl rfl⟩

/-- So neither adapter keeps it. -/
theorem not_content_kept :
    (∃ env rr, parseAnthropicEnvelope (contentBody "messages" [documentBlock]) = .ok env ∧
      vllmAdapter.fromAnthropic (contentBody "messages" [documentBlock]) = .ok rr ∧
        ¬ BlocksKept vllmAdapter vllmConventions env rr) ∧
    ∃ env rr, parseAnthropicEnvelope (contentBody "messages" [documentBlock]) = .ok env ∧
      sglangAdapter.fromAnthropic (contentBody "messages" [documentBlock]) = .ok rr ∧
        ¬ BlocksKept sglangAdapter sglangConventions env rr :=
  ⟨document_lost _ (.head _), document_lost _ (.tail _ (.head _))⟩

end KvIndexer.Normalize
