import KvIndexer.Normalize.Blocks
import KvIndexer.Normalize.PrefixStable

/-!
The ids of tool calls.

A call without an id gets one made of its position among the calls of the conversation.
No adapter looks at the ids that the client gave, so a generated id may be one of those;
nothing else can make two ids the same.
-/

namespace KvIndexer.Normalize

open Config Json

/-! ### Given and generated ids -/

section Generated

variable {gen : Nat → String}

/-- The ids of calls of which `n` come before: those given, and a generated one for each
call without. -/
def assignIDs (gen : Nat → String) (n : Nat) (given : List String) : List String :=
  given.mapIdx fun k id => firstNonEmpty id (gen (n + k))

/-- The ids that are given. -/
def explicitIDs (given : List String) : List String := given.filter (· ≠ "")

/-- No id given is the one generated for a call without. -/
def NoneGenerated (gen : Nat → String) (given : List String) : Prop :=
  ∀ k, given[k]? = some "" → gen k ∉ given

theorem assignIDs_append (n : Nat) (front back : List String) :
    assignIDs gen n (front ++ back) =
      assignIDs gen n front ++ assignIDs gen (n + front.length) back := by
  rw [assignIDs, List.mapIdx_append]
  have shift (k : Nat) : n + (k + front.length) = n + front.length + k := by omega
  simp only [assignIDs, shift]

theorem assignIDs_singleton (n : Nat) (id : String) :
    assignIDs gen n [id] = [firstNonEmpty id (gen n)] := rfl

theorem firstNonEmpty_of_ne {a : String} (given : a ≠ "") (b : String) :
    firstNonEmpty a b = a := if_pos given

theorem firstNonEmpty_empty (b : String) : firstNonEmpty "" b = b := rfl

theorem getElem?_assignIDs (given : List String) (k : Nat) :
    (assignIDs gen 0 given)[k]? = (given[k]?).map fun id => firstNonEmpty id (gen k) := by
  rw [assignIDs, List.getElem?_mapIdx, Nat.zero_add]

/-- No id is at two places. -/
theorem nodup_iff_places {ids : List String} :
    ids.Nodup ↔ ∀ (i j : Nat) (id : String), ids[i]? = some id → ids[j]? = some id → i = j := by
  rw [List.nodup_iff_getElem?_ne_getElem?]
  constructor
  · intro apart i j id first second
    by_contra other
    rcases Nat.lt_or_gt_of_ne other with before | after
    · exact apart i j before (List.getElem?_eq_some_iff.mp second).1 (first.trans second.symm)
    · exact apart j i after (List.getElem?_eq_some_iff.mp first).1 (second.trans first.symm)
  · intro places i j before inside same
    have second : ids[j]? = some ids[j] := List.getElem?_eq_getElem inside
    exact before.ne (places i j _ (same.trans second) second)

theorem explicitIDs_places {given : List String} (distinct : (explicitIDs given).Nodup)
    {i j : Nat} {id : String} (nonempty : id ≠ "") (first : given[i]? = some id)
    (second : given[j]? = some id) : i = j := by
  rw [explicitIDs, List.Nodup, List.pairwise_filter, List.pairwise_iff_getElem] at distinct
  obtain ⟨inside, at_⟩ := List.getElem?_eq_some_iff.mp first
  obtain ⟨inside', at'⟩ := List.getElem?_eq_some_iff.mp second
  by_contra other
  rcases Nat.lt_or_gt_of_ne other with before | after
  · exact distinct i j inside inside' before (by simp [at_, nonempty]) (by simp [at', nonempty])
      (at_.trans at'.symm)
  · exact distinct j i inside' inside after (by simp [at', nonempty]) (by simp [at_, nonempty])
      (at'.trans at_.symm)

/-- Two given ids are different, and so are two generated ones. What is left is a given and a
generated one. -/
theorem nodup_assignIDs (injective : Function.Injective gen) (nonempty : ∀ k, gen k ≠ "")
    {given : List String} (distinct : (explicitIDs given).Nodup) :
    (assignIDs gen 0 given).Nodup ↔ NoneGenerated gen given := by
  rw [nodup_iff_places]
  simp only [getElem?_assignIDs, Option.map_eq_some_iff]
  constructor
  · intro places k missing collides
    obtain ⟨j, there⟩ := List.mem_iff_getElem?.mp collides
    have same : k = j :=
      places k j (gen k) ⟨"", missing, firstNonEmpty_empty _⟩
        ⟨gen k, there, firstNonEmpty_of_ne (nonempty k) _⟩
    rw [← same, missing] at there
    exact nonempty k (Option.some.inj there).symm
  · rintro fresh i j id ⟨a, first, fills⟩ ⟨b, second, fills'⟩
    by_cases missing : a = "" <;> by_cases missing' : b = ""
    · subst missing missing'
      rw [firstNonEmpty_empty] at fills fills'
      exact injective (fills.trans fills'.symm)
    · subst missing
      rw [firstNonEmpty_empty] at fills
      rw [firstNonEmpty_of_ne missing'] at fills'
      subst fills fills'
      exact absurd (List.mem_of_getElem? second) (fresh i first)
    · subst missing'
      rw [firstNonEmpty_empty] at fills'
      rw [firstNonEmpty_of_ne missing] at fills
      subst fills fills'
      exact absurd (List.mem_of_getElem? first) (fresh j second)
    · rw [firstNonEmpty_of_ne missing] at fills
      rw [firstNonEmpty_of_ne missing'] at fills'
      subst fills fills'
      exact explicitIDs_places distinct missing first second

end Generated

theorem genID_injective : Function.Injective genID := fun _ _ same =>
  Int.ofNat_inj.mp (itoa_injective (String.append_right_inj "call_" |>.mp same))

theorem genID_ne_empty (k : Nat) : genID k ≠ "" := by
  simp [genID]

theorem nextID_injective : Function.Injective nextID := fun _ _ same =>
  Int.ofNat_inj.mp (itoa_injective (String.append_right_inj "function_call_" |>.mp same))

theorem nextID_ne_empty (k : Nat) : nextID k ≠ "" := by
  simp [nextID]

/-! ### The calls of a request -/

/-- All tool calls, in the order of the messages. -/
def calls (msgs : List ChatMessage) : List ToolCall := msgs.flatMap ChatMessage.toolCalls

def callIDs (msgs : List ChatMessage) : List String := (calls msgs).map ToolCall.id

theorem calls_append (front back : List ChatMessage) :
    calls (front ++ back) = calls front ++ calls back := List.flatMap_append

theorem callIDs_append (front back : List ChatMessage) :
    callIDs (front ++ back) = callIDs front ++ callIDs back := by
  rw [callIDs, calls_append, List.map_append]
  rfl

/-- Wherever a call is attached, it is the last one. -/
theorem calls_appendCall (msgs : List ChatMessage) (tc : ToolCall) :
    calls (appendCall msgs tc) = calls msgs ++ [tc] := by
  rcases List.eq_nil_or_concat' msgs with rfl | ⟨init, last, rfl⟩
  · rfl
  · rw [appendCall_concat]
    split <;> simp [calls]

/-! ### Anthropic -/

/-- The content blocks; none if the content is no list of them. -/
def AnthropicMessage.blocks (m : AnthropicMessage) : List AnthropicBlock :=
  (unmarshal (decodeSlice decodeAnthropicBlock {}) [] m.content).getD []

def toolUses (blocks : List AnthropicBlock) : List AnthropicBlock :=
  blocks.filter fun b => b.type = "tool_use"

/-- The ids given to the calls of the conversation; empty for a call without. -/
def AnthropicEnvelope.givenIDs (env : AnthropicEnvelope) : List String :=
  (env.messages.flatMap fun m => toolUses m.blocks).map AnthropicBlock.id

/-- The calls of tool uses that `n` calls come before. -/
def toolUseCalls (n : Nat) (uses : List AnthropicBlock) : List ToolCall :=
  uses.mapIdx fun k b => toolUseCall b (n + k)

theorem toolUseCalls_append (n : Nat) (front back : List AnthropicBlock) :
    toolUseCalls n (front ++ back) =
      toolUseCalls n front ++ toolUseCalls (n + front.length) back := by
  rw [toolUseCalls, List.mapIdx_append]
  have shift (k : Nat) : n + (k + front.length) = n + front.length + k := by omega
  simp only [toolUseCalls, shift]

theorem ids_toolUseCalls (n : Nat) (uses : List AnthropicBlock) :
    (toolUseCalls n uses).map ToolCall.id = assignIDs genID n (uses.map AnthropicBlock.id) := by
  refine List.ext_getElem? fun k => ?_
  rw [toolUseCalls, assignIDs, List.getElem?_map, List.getElem?_mapIdx, List.getElem?_mapIdx,
    List.getElem?_map, Option.map_map, Option.map_map]
  rfl

/-- What the collected calls are: an adapter adds one for each tool use, in order, and keeps
them in one message. -/
structure KeepsCalls (adapter : AnthropicAdapter) : Prop where
  tool_use : ∀ role c b, b.type = "tool_use" → adapter.block role c b = c.addCall b
  other : ∀ role c b, b.type ≠ "tool_use" →
    (adapter.block role c b).toolCalls = c.toolCalls ∧
      (adapter.block role c b).counter = c.counter ∧
        (calls c.split = [] → calls (adapter.block role c b).split = [])
  messages : ∀ role c, calls c.split = [] → calls (adapter.messages role c) = c.toolCalls

theorem KeepsCalls.of_follows {adapter : AnthropicAdapter} {conventions : Conventions}
    (follows : Follows adapter conventions)
    (noCalls : ∀ b, calls (conventions.userResult b) = []) : KeepsCalls adapter where
  tool_use role c b call := by
    have step := follows.block role c b
    generalize adapter.block role c b = c' at step ⊢
    cases step with
    | call => rfl
    | skipped other => exact absurd call fun call => other (by simp [Conventions.handled, call])
    | _ type => exact absurd (type.symm.trans call) (by decide)
  other role c b noCall := by
    have step := follows.block role c b
    generalize adapter.block role c b = c' at step ⊢
    cases step with
    | call call => exact absurd call noCall
    | userResult =>
        refine ⟨rfl, rfl, fun apart => ?_⟩
        rw [Conversion.addSplit, calls_append, apart, noCalls, List.append_nil]
    | _ => exact ⟨rfl, rfl, id⟩
  messages role c apart := by
    have alone {m : ChatMessage} (content : ContentMessage conventions role c m) :
        calls [m] = c.toolCalls := by
      simp [calls, content.toolCalls]
    have assembled := follows.messages role c
    generalize adapter.messages role c = msgs at assembled ⊢
    cases assembled with
    | before content =>
        rw [← List.singleton_append, calls_append, apart, List.append_nil, alone content]
    | after content => rw [calls_append, apart, alone content, List.nil_append]
    | nothing _ none_ => rw [apart, none_]

theorem keepsCalls_sglang : KeepsCalls sglangAdapter := .of_follows sglang_follows fun _ => rfl

theorem keepsCalls_vllm : KeepsCalls vllmAdapter := by
  refine .of_follows vllm_follows fun b => ?_
  dsimp only [vllmConventions, vllmUserToolResult]
  split_ifs <;> rfl

namespace KeepsCalls

variable {adapter : AnthropicAdapter}

theorem foldl (keeps : KeepsCalls adapter) (role : String) (blocks : List AnthropicBlock)
    (c : Conversion) (apart : calls c.split = []) :
    let c' := blocks.foldl (adapter.block role) c
    c'.toolCalls = c.toolCalls ++ toolUseCalls c.counter (toolUses blocks) ∧
      c'.counter = c.counter + (toolUses blocks).length ∧ calls c'.split = [] := by
  induction blocks generalizing c with
  | nil => exact ⟨(List.append_nil _).symm, rfl, apart⟩
  | cons b blocks ih =>
      rw [List.foldl_cons]
      by_cases call : b.type = "tool_use"
      · rw [keeps.tool_use role c b call]
        obtain ⟨toolCalls, counter, apart'⟩ := ih (c.addCall b) apart
        have uses : toolUses (b :: blocks) = [b] ++ toolUses blocks := by
          simp [toolUses, call]
        have one : (c.addCall b).counter = c.counter + 1 := rfl
        rw [uses, toolUseCalls_append]
        refine ⟨?_, ?_, apart'⟩
        · rw [toolCalls, one, Conversion.addCall, List.append_assoc]
          rfl
        · rw [counter, one, List.length_append, List.length_singleton]
          omega
      · obtain ⟨sameCalls, sameCounter, apart'⟩ := keeps.other role c b call
        have uses : toolUses (b :: blocks) = toolUses blocks := by
          simp [toolUses, call]
        have rest := ih (adapter.block role c b) (apart' apart)
        rw [sameCalls, sameCounter] at rest
        rw [uses]
        exact rest

theorem message (keeps : KeepsCalls adapter) (n : Nat) (m : AnthropicMessage) :
    calls (adapter.message n m).1 = toolUseCalls n (toolUses m.blocks) ∧
      (adapter.message n m).2 = n + (toolUses m.blocks).length := by
  unfold AnthropicAdapter.message
  cases text : unmarshal decodeString "" m.content with
  | some s =>
      rw [AnthropicMessage.blocks, unmarshal_slice_of_text _ _ text]
      exact ⟨rfl, rfl⟩
  | none =>
      cases listed : unmarshal (decodeSlice decodeAnthropicBlock {}) [] m.content with
      | none =>
          rw [AnthropicMessage.blocks, listed]
          exact ⟨rfl, rfl⟩
      | some blocks =>
          rw [AnthropicMessage.blocks, listed]
          obtain ⟨toolCalls, counter, apart⟩ := keeps.foldl m.role blocks { counter := n } rfl
          exact ⟨(keeps.messages m.role _ apart).trans toolCalls, counter⟩

theorem foldl_appendMessage (keeps : KeepsCalls adapter) (progress : Progress)
    (msgs : List AnthropicMessage) :
    calls (msgs.foldl adapter.appendMessage progress).1 =
      calls progress.1 ++
        toolUseCalls progress.2 (msgs.flatMap fun m => toolUses m.blocks) := by
  induction msgs generalizing progress with
  | nil => exact (List.append_nil _).symm
  | cons m msgs ih =>
      obtain ⟨toolCalls, counter⟩ := keeps.message progress.2 m
      rw [List.foldl_cons, ih, List.flatMap_cons, toolUseCalls_append,
        AnthropicAdapter.appendMessage, calls_append, toolCalls, counter, List.append_assoc]

/-- The calls of the messages are the tool uses of the conversation. -/
theorem convert (keeps : KeepsCalls adapter) (env : AnthropicEnvelope) :
    calls (adapter.convert env) =
      toolUseCalls 0 (env.messages.flatMap fun m => toolUses m.blocks) := by
  have noCalls : calls (adapter.systemMessages env.system) = [] := by
    unfold AnthropicAdapter.systemMessages
    split <;> rfl
  rw [AnthropicAdapter.convert, keeps.foldl_appendMessage, noCalls, List.nil_append]

end KeepsCalls

/-! ### Responses -/

section Responses

variable {parseFloat : String → Option Float}

/-- The items of list input that can be decoded. -/
def inputItems (input : Option Json) : List ResponsesItem :=
  ((unmarshal (decodeSlice (fun _ j => some j) .null) [] input).getD []).filterMap
    (decodeResponsesItem {})

def functionCalls (items : List ResponsesItem) : List String :=
  (items.filter fun item => item.type = "function_call").map ResponsesItem.callID

/-- The ids given to the calls of the conversation; empty for a call without. -/
def ResponsesBody.givenIDs (body : ResponsesBody) : List String :=
  functionCalls (inputItems body.input)

theorem callIDs_appendItem (parseFloat : String → Option Float) (progress : Progress)
    (item : ResponsesItem) :
    callIDs (appendItem parseFloat progress item).1 =
        callIDs progress.1 ++ assignIDs nextID progress.2 (functionCalls [item]) ∧
      (appendItem parseFloat progress item).2 =
        progress.2 + (functionCalls [item]).length := by
  by_cases call : item.type = "function_call"
  · have one : functionCalls [item] = [item.callID] := by simp [functionCalls, call]
    rw [appendItem, if_pos call, one, assignIDs_singleton]
    refine ⟨?_, rfl⟩
    rw [callIDs, calls_appendCall, List.map_append]
    rfl
  · have none_ : functionCalls [item] = [] := by simp [functionCalls, call]
    rw [appendItem, if_neg call, none_]
    refine ⟨?_, ?_⟩
    · rw [assignIDs, List.mapIdx_nil, List.append_nil]
      split_ifs
      · rw [callIDs_append]
        exact List.append_nil _
      · rfl
      · rw [callIDs_append]
        exact List.append_nil _
    · split_ifs <;> rfl

theorem callIDs_foldl (progress : Progress) (items : List Json) :
    callIDs (items.foldl (appendResponsesItem parseFloat) progress).1 =
      callIDs progress.1 ++
        assignIDs nextID progress.2 (functionCalls (items.filterMap (decodeResponsesItem {}))) := by
  induction items generalizing progress with
  | nil => exact (List.append_nil _).symm
  | cons raw items ih =>
      rw [List.foldl_cons, ih, appendResponsesItem]
      cases decodes : decodeResponsesItem {} raw with
      | none => rw [List.filterMap_cons_none decodes]
      | some item =>
          obtain ⟨ids, counter⟩ := callIDs_appendItem parseFloat progress item
          have more (rest : List ResponsesItem) :
              functionCalls (item :: rest) = functionCalls [item] ++ functionCalls rest := by
            rw [functionCalls, ← List.singleton_append, List.filter_append, List.map_append]
            rfl
          rw [List.filterMap_cons_some decodes, more, assignIDs_append, ids, counter,
            List.append_assoc]

/-- List input is gone through item by item; other input is a text of the user's, or nothing. -/
theorem messages_fromOpenAIResponses {raw : Json} {body : ResponsesBody} {rr : RouteRequest}
    (parses : decodeResponsesBody {} raw = some body)
    (normalizes : fromOpenAIResponses parseFloat raw = .ok rr) :
    (∃ items, body.input = some (.array items) ∧
        rr.messages = (items.foldl (appendResponsesItem parseFloat)
          (instructionMessages body.instructions, 0)).1) ∨
      (∀ items, body.input ≠ some (.array items)) ∧
        ∃ texts : List String, rr.messages = instructionMessages body.instructions ++
          texts.map fun s => { role := "user", content := .string s } := by
  rw [fromOpenAIResponses, parses] at normalizes
  dsimp only at normalizes
  by_cases nameless : body.model = ""
  · rw [if_pos nameless] at normalizes
    cases normalizes
  rw [if_neg nameless] at normalizes
  cases given : body.input with
  | none =>
      rw [given] at normalizes
      obtain rfl := Except.ok.inj normalizes
      exact Or.inr ⟨fun _ isArray => absurd isArray (by simp), [], (List.append_nil _).symm⟩
  | some j =>
      rw [given] at normalizes
      cases j with
      | array items =>
          rw [appendResponsesInput_array] at normalizes
          obtain rfl := Except.ok.inj normalizes
          exact Or.inl ⟨items, rfl, rfl⟩
      | null =>
          obtain rfl := Except.ok.inj normalizes
          exact Or.inr ⟨fun _ isArray => absurd isArray (by simp), [""], rfl⟩
      | string s =>
          obtain rfl := Except.ok.inj normalizes
          exact Or.inr ⟨fun _ isArray => absurd isArray (by simp), [s.text], rfl⟩
      | _ => cases normalizes

theorem inputItems_array (items : List Json) :
    inputItems (some (.array items)) = items.filterMap (decodeResponsesItem {}) := by
  rw [inputItems, unmarshal, Option.bind_some, decodeSlice_items, Option.getD_some]

theorem inputItems_of_not_array {input : Option Json}
    (other : ∀ items, input ≠ some (.array items)) :
    inputItems input = [] := by
  cases input with
  | none => rfl
  | some j =>
      cases j with
      | array items => exact absurd rfl (other items)
      | _ => rfl

theorem callIDs_instructionMessages (instructions : String) :
    callIDs (instructionMessages instructions) = [] := by
  unfold instructionMessages
  split <;> rfl

end Responses

/-! ### Distinct ids -/

theorem callIDs_fromAnthropic {adapter : AnthropicAdapter} (keeps : KeepsCalls adapter) {raw : Json}
    {env : AnthropicEnvelope} {rr : RouteRequest} (parses : parseAnthropicEnvelope raw = .ok env)
    (normalizes : adapter.fromAnthropic raw = .ok rr) :
    callIDs rr.messages = assignIDs genID 0 env.givenIDs := by
  rw [AnthropicAdapter.fromAnthropic, parses] at normalizes
  obtain rfl := Except.ok.inj normalizes
  rw [callIDs, AnthropicEnvelope.givenIDs, ← ids_toolUseCalls, ← keeps.convert env]
  rfl

theorem callIDs_fromOpenAIResponses {parseFloat : String → Option Float} {raw : Json}
    {body : ResponsesBody} {rr : RouteRequest} (parses : decodeResponsesBody {} raw = some body)
    (normalizes : fromOpenAIResponses parseFloat raw = .ok rr) :
    callIDs rr.messages = assignIDs nextID 0 body.givenIDs := by
  rw [ResponsesBody.givenIDs]
  rcases messages_fromOpenAIResponses parses normalizes with
    ⟨items, given, whole⟩ | ⟨other, texts, whole⟩
  · rw [whole, given, inputItems_array, callIDs_foldl, callIDs_instructionMessages,
      List.nil_append]
  · have noCalls : callIDs (texts.map fun s => { role := "user", content := .string s }) = [] := by
      simp [callIDs, calls]
    rw [whole, inputItems_of_not_array other, callIDs_append, noCalls, callIDs_instructionMessages]
    rfl

/-- Where the given ids are distinct, all are if and only if none given is the one generated
for a call without. -/
theorem nodup_callIDs_iff (parseFloat : String → Option Float) {raw : Json} {rr : RouteRequest} :
    (∀ adapter ∈ [vllmAdapter, sglangAdapter], ∀ env, parseAnthropicEnvelope raw = .ok env →
        adapter.fromAnthropic raw = .ok rr → (explicitIDs env.givenIDs).Nodup →
        ((callIDs rr.messages).Nodup ↔ NoneGenerated genID env.givenIDs)) ∧
      ∀ body, decodeResponsesBody {} raw = some body →
        fromOpenAIResponses parseFloat raw = .ok rr → (explicitIDs body.givenIDs).Nodup →
        ((callIDs rr.messages).Nodup ↔ NoneGenerated nextID body.givenIDs) := by
  constructor
  · intro adapter member env parses normalizes distinct
    have keeps : KeepsCalls adapter := by
      simp only [List.mem_cons, List.not_mem_nil, or_false] at member
      rcases member with rfl | rfl
      · exact keepsCalls_vllm
      · exact keepsCalls_sglang
    rw [callIDs_fromAnthropic keeps parses normalizes]
    exact nodup_assignIDs genID_injective genID_ne_empty distinct
  · intro body parses normalizes distinct
    rw [callIDs_fromOpenAIResponses parses normalizes]
    exact nodup_assignIDs nextID_injective nextID_ne_empty distinct

/-- A message of the assistant with a call that has an id and one that has none. -/
def toolUsesBody (id : String) : Json :=
  .object [member "model" (.text "m"),
    member "messages" (.array [.object [member "role" (.text "assistant"),
      member "content" (.array [
        .object [member "type" (.text "tool_use"), member "id" (.text id)],
        .object [member "type" (.text "tool_use")]])]])]

/-- A function call that has an id and one that has none. -/
def functionCallsBody (id : String) : Json :=
  .object [member "model" (.text "m"),
    member "input" (.array [
      .object [member "type" (.text "function_call"), member "call_id" (.text id)],
      .object [member "type" (.text "function_call")]])]

theorem nodup_callIDs_iff_toolUses :
    (∃ env rr, parseAnthropicEnvelope (toolUsesBody "a") = .ok env ∧
        vllmAdapter.fromAnthropic (toolUsesBody "a") = .ok rr ∧
        ((callIDs rr.messages).Nodup ↔ NoneGenerated genID env.givenIDs)) ∧
      ∃ body rr, decodeResponsesBody {} (functionCallsBody "a") = some body ∧
        fromOpenAIResponses (fun _ => none) (functionCallsBody "a") = .ok rr ∧
        ((callIDs rr.messages).Nodup ↔ NoneGenerated nextID body.givenIDs) := by
  constructor
  · obtain ⟨env, parses, given⟩ : ∃ env, parseAnthropicEnvelope (toolUsesBody "a") = .ok env ∧
        env.givenIDs = ["a", ""] := ⟨_, rfl, rfl⟩
    obtain ⟨rr, normalizes⟩ : ∃ rr, vllmAdapter.fromAnthropic (toolUsesBody "a") = .ok rr :=
      ⟨_, rfl⟩
    exact ⟨env, rr, parses, normalizes, (nodup_callIDs_iff fun _ => none).1 vllmAdapter
      List.mem_cons_self env parses normalizes (by rw [given]; decide)⟩
  · obtain ⟨body, parses, given⟩ :
        ∃ body, decodeResponsesBody {} (functionCallsBody "a") = some body ∧
          body.givenIDs = ["a", ""] := ⟨_, rfl, rfl⟩
    obtain ⟨rr, normalizes⟩ :
        ∃ rr, fromOpenAIResponses (fun _ => none) (functionCallsBody "a") = .ok rr := ⟨_, rfl⟩
    exact ⟨body, rr, parses, normalizes, (nodup_callIDs_iff fun _ => none).2 body parses normalizes
      (by rw [given]; decide)⟩

/-- The id given is the one generated for the second call. -/
theorem not_nodup_callIDs :
    (∀ adapter ∈ [vllmAdapter, sglangAdapter], ∃ env rr,
        parseAnthropicEnvelope (toolUsesBody "call_1") = .ok env ∧
        adapter.fromAnthropic (toolUsesBody "call_1") = .ok rr ∧
        (explicitIDs env.givenIDs).Nodup ∧ ¬ (callIDs rr.messages).Nodup) ∧
      ∃ body rr, decodeResponsesBody {} (functionCallsBody "function_call_1") = some body ∧
        fromOpenAIResponses (fun _ => none) (functionCallsBody "function_call_1") = .ok rr ∧
        (explicitIDs body.givenIDs).Nodup ∧ ¬ (callIDs rr.messages).Nodup := by
  constructor
  · intro adapter member
    simp only [List.mem_cons, List.not_mem_nil, or_false] at member
    rcases member with rfl | rfl <;> exact ⟨_, _, rfl, rfl, by decide, by decide⟩
  · exact ⟨_, _, rfl, rfl, by decide, by decide⟩

end KvIndexer.Normalize
