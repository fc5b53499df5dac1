import KvIndexer.Normalize.CallIDs

/-!
Responses input as chat messages, without loss.

A function call goes to the assistant's message before it, if there is one, so that the
messages are no image of the items one by one. They are an image of `Block`s, each a run of
the items: a message with the calls after it, or calls that have no message.
-/

namespace KvIndexer.Normalize

open Config Json

/-! ### Items -/

def isString : Json → Bool
  | .string _ => true
  | _ => false

/-- The members that are read into the field are strings. -/
abbrev StringMember (name : String) (members : Members) : Prop :=
  ∀ m ∈ members, named name m = true → isString m.2 = true

/-- An object whose type, role, call id, name and arguments are strings, where they are given.
A member is the one that `encoding/json` takes it for, whatever the case of its letters. -/
inductive WellTyped : Json → Prop where
  | object {members : Members}
      (strings : ∀ name ∈ ["type", "role", "call_id", "name", "arguments"],
        StringMember name members) : WellTyped (.object members)

/-- What an item is read as. -/
def ResponsesItem.IsMessage (item : ResponsesItem) : Prop :=
  item.type ≠ "function_call" ∧ item.type ≠ "function_call_output" ∧ item.type ≠ "reasoning"

theorem WellTyped.decodes {j : Json} (typed : WellTyped j) :
    ∃ item, decodeResponsesItem {} j = some item := by
  obtain ⟨strings⟩ := typed
  refine exists_readMembers (fun m inside f field names s => ?_) ({} : ResponsesItem)
  have text (name : String) (listed : name ∈ ["type", "role", "call_id", "name", "arguments"])
      (names : named name m = true) (old : String) : ∃ x, decodeString old m.2 = some x := by
    have string := strings name listed m inside names
    cases value : m.2 with
    | string x => exact ⟨x.text, rfl⟩
    | _ =>
        rw [value] at string
        cases string
  have set_ {α : Type} {name : String} {decode : Decoder α} {get : ResponsesItem → α}
      {set : ResponsesItem → α → ResponsesItem} (reads : ∃ x, decode (get s) m.2 = some x) :
      ∃ s', (StructField.of name decode get set).read s m.2 = some s' := by
    obtain ⟨x, decodes⟩ := reads
    exact ⟨set s x, Option.map_eq_some_iff.mpr ⟨x, decodes, rfl⟩⟩
  simp only [responsesItemFields, List.mem_cons, List.not_mem_nil, or_false] at field
  rcases field with rfl | rfl | rfl | rfl | rfl | rfl | rfl
  · exact set_ (text "type" (by decide) names _)
  · exact set_ (text "role" (by decide) names _)
  · exact set_ ⟨_, rfl⟩
  · exact set_ (text "call_id" (by decide) names _)
  · exact set_ (text "name" (by decide) names _)
  · exact set_ (text "arguments" (by decide) names _)
  · exact set_ ⟨_, rfl⟩

/-! ### Entries -/

/-- What an item leaves in the messages: a message of its own, or a call. -/
inductive Entry where
  | message (m : ChatMessage)
  | call (tc : ToolCall)

def Entry.message? : Entry → Option ChatMessage
  | message m => some m
  | call _ => none

def Entry.toolCall? : Entry → Option ToolCall
  | message _ => none
  | call tc => some tc

theorem Entry.filterMap_toolCall? (tcs : List ToolCall) :
    (tcs.map Entry.call).filterMap Entry.toolCall? = tcs := by
  rw [List.filterMap_map]
  exact List.filterMap_some

theorem Entry.filterMap_message? (tcs : List ToolCall) :
    (tcs.map Entry.call).filterMap Entry.message? = [] := by
  rw [List.filterMap_map]
  exact List.filterMap_eq_nil_iff.mpr fun _ _ => rfl

/-- The entries of items that `n` calls come before. -/
def entriesOf (parseFloat : String → Option Float) (n : Nat) : List ResponsesItem → List Entry
  | [] => []
  | item :: items =>
      if item.type = "function_call" then
        .call (callOf item n) :: entriesOf parseFloat (n + 1) items
      else if item.type = "function_call_output" then
        .message (outputOf parseFloat item) :: entriesOf parseFloat n items
      else if item.type = "reasoning" then entriesOf parseFloat n items
      else .message (messageOf parseFloat item) :: entriesOf parseFloat n items

/-- One chat message: a message without calls of its own and the calls after it, if it is the
assistant's, or calls that have no message. -/
inductive Block where
  | message (m : ChatMessage) (own : m.toolCalls = []) (attached : List ToolCall)
      (assistant : attached ≠ [] → m.role = "assistant")
  | calls (first : ToolCall) (others : List ToolCall)

namespace Block

def chatMessage : Block → ChatMessage
  | message m _ attached _ => { m with toolCalls := attached }
  | calls first others => { role := "assistant", toolCalls := first :: others }

def entries : Block → List Entry
  | message m _ attached _ => .message m :: attached.map .call
  | calls first others => (first :: others).map .call

/-- The last call of a block may be followed by one more, if it is the assistant's. -/
theorem attach (b : Block) (assistant : b.chatMessage.role = "assistant") (tc : ToolCall) :
    ∃ b' : Block, b'.entries = b.entries ++ [.call tc] ∧
      b'.chatMessage = { b.chatMessage with toolCalls := b.chatMessage.toolCalls ++ [tc] } := by
  cases b with
  | message m own attached _ =>
      have assistant' : m.role = "assistant" := assistant
      exact ⟨.message m own (attached ++ [tc]) fun _ => assistant', by simp [entries], rfl⟩
  | calls first others => exact ⟨.calls first (others ++ [tc]), by simp [entries], rfl⟩

theorem toolCalls_chatMessage (b : Block) :
    b.chatMessage.toolCalls = b.entries.filterMap Entry.toolCall? := by
  cases b with
  | message m _ attached _ =>
      rw [entries, List.filterMap_cons_none rfl, Entry.filterMap_toolCall?]
      rfl
  | calls first others =>
      rw [entries, Entry.filterMap_toolCall?]
      rfl

/-- A tool's message has no calls, and no call becomes a tool's message. -/
theorem tool_chatMessage (b : Block) :
    [b.chatMessage].filter (fun m => m.role = "tool") =
      (b.entries.filterMap Entry.message?).filter fun m => m.role = "tool" := by
  cases b with
  | message m own attached assistant =>
      have head : (Entry.message m).message? = some m := rfl
      rw [entries, List.filterMap_cons_some head, Entry.filterMap_message?]
      by_cases tool : m.role = "tool"
      · have none_ : attached = [] := by
          by_contra some_
          have role := assistant some_
          rw [tool] at role
          revert role
          decide
        have alone : (Block.message m own attached assistant).chatMessage = m := by
          rw [chatMessage, none_, ← own]
        rw [alone]
      · have other : (Block.message m own attached assistant).chatMessage.role ≠ "tool" := tool
        simp [tool, other]
  | calls first others =>
      rw [entries, Entry.filterMap_message?]
      rfl

end Block

/-- Messages that hold the entries, after those of the instructions. -/
def Holds (front : List ChatMessage) (entries : List Entry) (msgs : List ChatMessage) : Prop :=
  ∃ blocks : List Block, blocks.flatMap Block.entries = entries ∧
    msgs = front ++ blocks.map Block.chatMessage

section

variable {front msgs : List ChatMessage} {entries : List Entry}

theorem Holds.appendBlock (holds : Holds front entries msgs) (b : Block) :
    Holds front (entries ++ b.entries) (msgs ++ [b.chatMessage]) := by
  obtain ⟨blocks, rfl, rfl⟩ := holds
  refine ⟨blocks ++ [b], ?_, ?_⟩
  · rw [List.flatMap_append, List.flatMap_singleton]
  · rw [List.map_append, List.map_singleton, List.append_assoc]

theorem Holds.appendMessage (holds : Holds front entries msgs) {m : ChatMessage}
    (noCalls : m.toolCalls = []) : Holds front (entries ++ [.message m]) (msgs ++ [m]) := by
  have alone : (Block.message m noCalls [] (absurd rfl)).chatMessage = m := by
    rw [Block.chatMessage, ← noCalls]
  have appended := holds.appendBlock (.message m noCalls [] (absurd rfl))
  rw [alone] at appended
  exact appended

/-- A call is attached to the last block, or starts one. -/
theorem Holds.appendCall (holds : Holds front entries msgs)
    (closed : ∀ last, front.getLast? = some last → last.role ≠ "assistant") (tc : ToolCall) :
    Holds front (entries ++ [.call tc]) (appendCall msgs tc) := by
  have fresh := holds.appendBlock (.calls tc [])
  obtain ⟨blocks, rfl, rfl⟩ := holds
  rcases List.eq_nil_or_concat' blocks with rfl | ⟨init, last, rfl⟩
  · rw [List.map_nil, List.append_nil] at fresh ⊢
    rcases List.eq_nil_or_concat' front with rfl | ⟨front, last, rfl⟩
    · exact fresh
    · rw [appendCall_concat, if_neg (closed last List.getLast?_concat)]
      exact fresh
  · rw [List.map_append, List.map_singleton, ← List.append_assoc] at fresh ⊢
    rw [appendCall_concat]
    split
    · rename_i assistant
      obtain ⟨last', more, attached⟩ := last.attach assistant tc
      refine ⟨init ++ [last'], ?_, ?_⟩
      · rw [List.flatMap_append, List.flatMap_append, List.flatMap_singleton,
          List.flatMap_singleton, more, List.append_assoc]
      · rw [List.map_append, List.map_singleton, attached, List.append_assoc]
    · exact fresh

end

section

variable {parseFloat : String → Option Float} {front : List ChatMessage}

theorem entriesOf_append (n : Nat) (items more : List ResponsesItem) :
    entriesOf parseFloat n (items ++ more) =
      entriesOf parseFloat n items ++
        entriesOf parseFloat (n + (functionCalls items).length) more := by
  induction items generalizing n with
  | nil => rfl
  | cons item items ih =>
      rw [List.cons_append, entriesOf, entriesOf, ih, ih]
      by_cases call : item.type = "function_call"
      · have one : n + (functionCalls (item :: items)).length =
            n + 1 + (functionCalls items).length := by
          simp only [functionCalls, List.filter_cons, call, decide_true, if_true, List.map_cons,
            List.length_cons]
          omega
        rw [if_pos call, if_pos call, one, List.cons_append]
      · have none_ : functionCalls (item :: items) = functionCalls items := by
          simp [functionCalls, call]
        rw [if_neg call, if_neg call, none_]
        split_ifs <;> rfl

theorem holds_appendItem (parseFloat : String → Option Float) {progress : Progress}
    {entries : List Entry}
    (closed : ∀ last, front.getLast? = some last → last.role ≠ "assistant")
    (holds : Holds front entries progress.1) (item : ResponsesItem) :
    Holds front (entries ++ entriesOf parseFloat progress.2 [item])
      (appendItem parseFloat progress item).1 := by
  unfold appendItem
  rw [entriesOf, entriesOf, entriesOf]
  split_ifs
  · exact holds.appendCall closed _
  · exact holds.appendMessage rfl
  · rw [List.append_nil]
    exact holds
  · exact holds.appendMessage rfl

theorem holds_foldl (parseFloat : String → Option Float) {progress : Progress}
    {entries : List Entry}
    (closed : ∀ last, front.getLast? = some last → last.role ≠ "assistant")
    (holds : Holds front entries progress.1) (items : List ResponsesItem) :
    Holds front (entries ++ entriesOf parseFloat progress.2 items)
      (items.foldl (appendItem parseFloat) progress).1 := by
  induction items generalizing progress entries with
  | nil =>
      rw [entriesOf, List.append_nil]
      exact holds
  | cons item items ih =>
      have counter := (callIDs_appendItem parseFloat progress item).2
      have next := ih (holds_appendItem parseFloat closed holds item)
      rw [counter, List.append_assoc, ← entriesOf_append] at next
      exact next

/-! ### The parts -/

theorem toolCalls_entriesOf (n : Nat) (items : List ResponsesItem) :
    (entriesOf parseFloat n items).filterMap Entry.toolCall? =
      (items.filter fun item => item.type = "function_call").mapIdx
        fun k item => callOf item (n + k) := by
  induction items generalizing n with
  | nil => rfl
  | cons item items ih =>
      rw [entriesOf]
      by_cases call : item.type = "function_call"
      · have head : (Entry.call (callOf item n)).toolCall? = some (callOf item n) := rfl
        have shift (k : Nat) : n + 1 + k = n + (k + 1) := by omega
        rw [if_pos call, List.filterMap_cons_some head, ih,
          List.filter_cons_of_pos (by simp [call]), List.mapIdx_cons]
        simp only [shift, Nat.add_zero]
      · rw [if_neg call, List.filter_cons_of_neg (by simp [call]), ← ih]
        split_ifs <;> rfl

theorem role_messageOf {item : ResponsesItem} (noTool : item.role ≠ "tool") :
    (messageOf parseFloat item).role ≠ "tool" := by
  dsimp only [messageOf]
  split_ifs
  · exact noTool
  · decide
  · decide

/-- No message is a tool's but the outputs are. -/
theorem tool_entriesOf (n : Nat) {items : List ResponsesItem}
    (noTool : ∀ item ∈ items, item.IsMessage → item.role ≠ "tool") :
    ((entriesOf parseFloat n items).filterMap Entry.message?).filter (fun m => m.role = "tool") =
      (items.filter fun item => item.type = "function_call_output").map (outputOf parseFloat) := by
  induction items generalizing n with
  | nil => rfl
  | cons item items ih =>
      obtain ⟨noTool, others⟩ := List.forall_mem_cons.mp noTool
      rw [entriesOf]
      by_cases output : item.type = "function_call_output"
      · have noCall : item.type ≠ "function_call" := by
          rw [output]
          decide
        have head : (Entry.message (outputOf parseFloat item)).message? =
            some (outputOf parseFloat item) := rfl
        have tool : (outputOf parseFloat item).role = "tool" := rfl
        rw [if_neg noCall, if_pos output, List.filterMap_cons_some head,
          List.filter_cons_of_pos (by simp [tool]), ih n others,
          List.filter_cons_of_pos (by simp [output]), List.map_cons]
      · rw [if_neg output, List.filter_cons_of_neg (by simp [output])]
        split_ifs with call reasoning
        · exact ih (n + 1) others
        · exact ih n others
        · have head : (Entry.message (messageOf parseFloat item)).message? =
              some (messageOf parseFloat item) := rfl
          have role : (messageOf parseFloat item).role ≠ "tool" :=
            role_messageOf (noTool ⟨call, output, reasoning⟩)
          rw [List.filterMap_cons_some head, List.filter_cons_of_neg (by simp [role])]
          exact ih n others

theorem calls_blocks (blocks : List Block) :
    calls (blocks.map Block.chatMessage) =
      (blocks.flatMap Block.entries).filterMap Entry.toolCall? := by
  induction blocks with
  | nil => rfl
  | cons b blocks ih =>
      rw [List.flatMap_cons, List.filterMap_append, ← b.toolCalls_chatMessage, ← ih]
      rfl

theorem tool_blocks (blocks : List Block) :
    (blocks.map Block.chatMessage).filter (fun m => m.role = "tool") =
      ((blocks.flatMap Block.entries).filterMap Entry.message?).filter
        fun m => m.role = "tool" := by
  induction blocks with
  | nil => rfl
  | cons b blocks ih =>
      rw [List.flatMap_cons, List.filterMap_append, List.filter_append, ← b.tool_chatMessage, ← ih,
        ← List.filter_append]
      rfl

theorem closed_instructionMessages (instructions : String) :
    ∀ last, (instructionMessages instructions).getLast? = some last → last.role ≠ "assistant" := by
  intro last found
  unfold instructionMessages at found
  split at found
  · have system : last.role = "system" := by
      rw [← Option.some.inj found]
      rfl
    rw [system]
    decide
  · cases found

/-- No item is skipped. -/
theorem inputItems_of_wellTyped {items : List Json} (typed : ∀ j ∈ items, WellTyped j) :
    items.map (decodeResponsesItem {}) = (inputItems (some (.array items))).map some := by
  rw [inputItems_array]
  induction items with
  | nil => rfl
  | cons j items ih =>
      obtain ⟨typed, others⟩ := List.forall_mem_cons.mp typed
      obtain ⟨item, decodes⟩ := typed.decodes
      rw [List.map_cons, List.filterMap_cons_some decodes, List.map_cons, decodes, ih others]

theorem foldl_appendResponsesItem (progress : Progress) (items : List Json) :
    items.foldl (appendResponsesItem parseFloat) progress =
      (inputItems (some (.array items))).foldl (appendItem parseFloat) progress := by
  rw [inputItems_array]
  induction items generalizing progress with
  | nil => rfl
  | cons raw items ih =>
      rw [List.foldl_cons, ih, appendResponsesItem]
      cases decodes : decodeResponsesItem {} raw with
      | none => rw [List.filterMap_cons_none decodes]
      | some item => rw [List.filterMap_cons_some decodes, List.foldl_cons]

end

/-- A message, a call and its output. -/
def callItems : List Json :=
  [.object [member "role" (.text "user"), member "content" (.text "hi")],
    .object [member "type" (.text "function_call"), member "name" (.text "f")],
    .object [member "type" (.text "function_call_output"), member "output" (.text "ok")]]

def callBody : Json :=
  .object [member "model" (.text "m"), member "input" (.array callItems)]

end KvIndexer.Normalize
