import KvIndexer.Normalize.CallIDs

/-!
What `HasMultimodalContent` sees of a request.

On the Anthropic protocol it sees the images that have a source and the tools that a user's
tool result refers to, whichever the adapter; on Chat every part of a foreign type. On
Responses it sees such a part only where the item and the whole array around it are decoded:
one element that is no object loses the array.
-/

namespace KvIndexer.Normalize

open Config Json HttpApi

/-! ### Parts -/

/-- `HasMultimodalContent`, of some messages. -/
def detected (msgs : List ChatMessage) : Bool := msgs.any fun m => isMultimodalContent m.content

@[simp] theorem detected_nil : detected [] = false := rfl

@[simp] theorem detected_append (front back : List ChatMessage) :
    detected (front ++ back) = (detected front || detected back) := List.any_append

@[simp] theorem detected_cons (m : ChatMessage) (msgs : List ChatMessage) :
    detected (m :: msgs) = (isMultimodalContent m.content || detected msgs) := List.any_cons

@[simp] theorem isMultimodalPart_textPart (text : Value) :
    isMultimodalPart (textPart text) = false := rfl

@[simp] theorem isMultimodalPart_imagePart (url : String) :
    isMultimodalPart (imagePart url) = true := rfl

@[simp] theorem isMultimodalPart_toolReferencePart (ref : String) :
    isMultimodalPart (toolReferencePart ref) = true := rfl

/-- The parts that the Anthropic adapters make. -/
inductive AdapterPart : Value → Prop where
  | text (s : String) : AdapterPart (textPart (.string s))
  | image (url : String) : AdapterPart (imagePart url)
  | reference (ref : String) : AdapterPart (toolReferencePart ref)

/-- One part alone is seen if and only if it is no text. -/
theorem AdapterPart.alone {part : Value} (made : AdapterPart part) :
    isMultimodalContent ((soleText part).getD (.list [part])) = isMultimodalPart part := by
  cases made <;> rfl

theorem isMultimodalContent_collapse {parts : List Value} (made : ∀ p ∈ parts, AdapterPart p) :
    isMultimodalContent (collapseContentParts parts) = parts.any isMultimodalPart := by
  match parts with
  | [] => rfl
  | [part] =>
      rw [collapseContentParts, (made part List.mem_cons_self).alone, List.any_cons, List.any_nil,
        Bool.or_false]
  | _ :: _ :: _ => rfl

/-- The textual types of a part. -/
def textualTypes : List String := ["", "text", "input_text", "output_text"]

/-- The last value that a map decoded from the members has under a name. -/
def lastNamed (name : String) : Members → Option Json
  | [] => none
  | (key, j) :: members => (lastNamed name members).or (if key.text = name then some j else none)

/-- An object whose type is a string, and not a textual one. -/
def Foreign : Json → Prop
  | .object members => ∃ s, lastNamed "type" members = some (.string s) ∧ s.text ∉ textualTypes
  | _ => False

section

variable {parseFloat : String → Option Float}

theorem lookup_cons (k k' : String) (v : Value) (entries : List (String × Value)) :
    ((k, v) :: entries).lookup k' = if k' = k then some v else entries.lookup k' := by
  rw [List.lookup_cons]
  by_cases same : k' = k
  · rw [if_pos same, same, BEq.rfl]
  · rw [if_neg same, beq_false_of_ne same]

theorem lookup_insertEntry (k k' : String) (v : Value) (entries : List (String × Value)) :
    (insertEntry k v entries).lookup k' = if k' = k then some v else entries.lookup k' := by
  induction entries with
  | nil => exact lookup_cons k k' v []
  | cons entry entries ih =>
      obtain ⟨k₁, v₁⟩ := entry
      rw [insertEntry]
      by_cases same : k = k₁
      · rw [if_pos same, lookup_cons, lookup_cons, same]
        by_cases first : k' = k₁
        · rw [if_pos first, if_pos first]
        · rw [if_neg first, if_neg first, if_neg first]
      · rw [if_neg same]
        by_cases before : k < k₁
        · rw [if_pos before]
          exact lookup_cons k k' v _
        · rw [if_neg before, lookup_cons, lookup_cons, ih]
          by_cases first : k' = k₁
          · have other : k' ≠ k := fun second => same (second.symm.trans first)
            rw [if_pos first, if_neg other, if_pos first]
          · rw [if_neg first, if_neg first]

theorem lookup_toEntries (name : String) (entries : List (String × Value)) (members : Members) :
    (toEntries parseFloat entries members).lookup name =
      ((lastNamed name members).map (toAny parseFloat)).or (entries.lookup name) := by
  induction members generalizing entries with
  | nil => simp [toEntries, lastNamed]
  | cons m members ih =>
      obtain ⟨key, j⟩ := m
      rw [toEntries, ih, lookup_insertEntry, lastNamed]
      cases lastNamed name members with
      | some last => rfl
      | none =>
          by_cases same : name = key.text
          · rw [if_pos same, if_pos same.symm]
            rfl
          · rw [if_neg same, if_neg fun same' => same same'.symm]
            rfl

/-- A part decoded from an object is seen if and only if its type is foreign. -/
theorem isMultimodalPart_toEntries (members : Members) :
    isMultimodalPart (.map (toEntries parseFloat [] members)) = true ↔
      Foreign (.object members) := by
  rw [isMultimodalPart, lookup_toEntries, List.lookup_nil, Option.or_none, Foreign]
  cases last : lastNamed "type" members with
  | none => simp
  | some j =>
      cases j with
      | string s => simp [toAny, textualTypes]
      | number literal => cases parsed : parseFloat literal <;> simp [toAny, parsed]
      | _ => simp [toAny]

theorem isMultimodalPart_toAny (j : Json) :
    isMultimodalPart (toAny parseFloat j) = true ↔ Foreign j := by
  cases j with
  | object members => exact isMultimodalPart_toEntries members
  | number literal =>
      cases parsed : parseFloat literal <;> simp [toAny, parsed, isMultimodalPart, Foreign]
  | _ => simp [toAny, isMultimodalPart, Foreign]

theorem toAnyAll_eq_map (js : List Json) : toAnyAll parseFloat js = js.map (toAny parseFloat) := by
  induction js with
  | nil => rfl
  | cons j js ih => rw [toAnyAll, ih, List.map_cons]

theorem isMultimodalContent_toAny (parts : List Json) :
    isMultimodalContent (toAny parseFloat (.array parts)) = true ↔ ∃ p ∈ parts, Foreign p := by
  rw [toAny, isMultimodalContent, toAnyAll_eq_map, List.any_map, List.any_eq_true]
  simp only [Function.comp_apply, isMultimodalPart_toAny]

end

/-! ### Anthropic -/

/-- A source with data, if it is a base64 one, or with a url. -/
def ValidSource (raw : Option Json) : Prop :=
  ∃ src, unmarshal decodeImageSource {} raw = some src ∧
    (src.type = "base64" ∧ src.data ≠ "" ∨ src.url ≠ "")

/-- The url is never empty. -/
theorem anthropicImageURL_of_valid {raw : Option Json} (valid : ValidSource raw)
    (defaultMT : String) : ∃ url, url ≠ "" ∧ anthropicImageURL raw defaultMT = some url := by
  obtain ⟨src, decodes, given⟩ := valid
  rw [anthropicImageURL, decodes]
  dsimp only
  by_cases base64 : src.type = "base64" ∧ src.data ≠ ""
  · rw [if_pos base64]
    exact ⟨_, by simp, rfl⟩
  · have url : src.url ≠ "" := given.resolve_left base64
    rw [if_neg base64, if_pos url]
    exact ⟨_, url, rfl⟩

theorem anthropicImageURL_of_not_valid {raw : Option Json} (invalid : ¬ ValidSource raw)
    (defaultMT : String) : anthropicImageURL raw defaultMT = none := by
  rw [anthropicImageURL]
  cases decodes : unmarshal decodeImageSource {} raw with
  | none => rfl
  | some src =>
      dsimp only
      rw [if_neg fun base64 => invalid ⟨src, decodes, Or.inl base64⟩,
        if_neg fun url => invalid ⟨src, decodes, Or.inr url⟩]

theorem validSource_iff {raw : Option Json} (defaultMT : String) :
    ValidSource raw ↔ ∃ url, anthropicImageURL raw defaultMT = some url := by
  constructor
  · intro valid
    obtain ⟨url, -, found⟩ := anthropicImageURL_of_valid valid defaultMT
    exact ⟨url, found⟩
  · rintro ⟨url, found⟩
    by_contra invalid
    rw [anthropicImageURL_of_not_valid invalid] at found
    cases found

/-- The elements of the content of a tool result; none if it is no list of them. -/
def resultItems (raw : Option Json) : List ToolResultItem :=
  (unmarshal (decodeSlice decodeToolResultItem {}) [] raw).getD []

/-- An image that has a source, or a reference that has a name. -/
def ToolResultItem.Seen (it : ToolResultItem) : Prop :=
  it.type = "image" ∧ ValidSource it.source ∨ it.type = "tool_reference" ∧ it.ref ≠ ""

/-- An image that has a source, or a user's tool result with an element that is seen. -/
def AnthropicBlock.Seen (role : String) (b : AnthropicBlock) : Prop :=
  b.type = "image" ∧ ValidSource b.source ∨
    b.type = "tool_result" ∧ role = "user" ∧ ∃ it ∈ resultItems b.content, it.Seen

/-- What is collected shows a foreign part. -/
def Conversion.Shows (c : Conversion) : Prop :=
  c.contentParts.any isMultimodalPart = true ∨ detected c.split = true

/-- The parts collected are made by the adapter. -/
def Conversion.Made (c : Conversion) : Prop := ∀ p ∈ c.contentParts, AdapterPart p

namespace Conversion

variable {c : Conversion}

theorem Made.addPart (made : c.Made) {part : Value} (part_ : AdapterPart part) :
    (c.addPart part).Made := by
  intro p inside
  rcases List.mem_append.mp inside with before | last
  · exact made p before
  · rw [List.mem_singleton.mp last]
    exact part_

theorem shows_addPart {part : Value} :
    (c.addPart part).Shows ↔ c.Shows ∨ isMultimodalPart part = true := by
  simp only [Shows, Conversion.addPart, List.any_append, List.any_cons, List.any_nil, Bool.or_false,
    Bool.or_eq_true]
  exact or_right_comm

theorem shows_addSplit {msgs : List ChatMessage} :
    (c.addSplit msgs).Shows ↔ c.Shows ∨ detected msgs = true := by
  simp only [Shows, Conversion.addSplit, detected_append, Bool.or_eq_true]
  exact or_assoc.symm

end Conversion

/-- An adapter shows what is seen, and nothing else. -/
structure ShowsSeen (adapter : AnthropicAdapter) : Prop where
  made : ∀ role c b, c.Made → (adapter.block role c b).Made
  block : ∀ role c b, (adapter.block role c b).Shows ↔ c.Shows ∨ b.Seen role
  messages : ∀ role c, c.Made → (detected (adapter.messages role c) = true ↔ c.Shows)

theorem any_anthropicImageToPart (raw : Option Json) (defaultMT : String) :
    (anthropicImageToPart raw defaultMT).any isMultimodalPart = true ↔ ValidSource raw := by
  by_cases valid : ValidSource raw
  · obtain ⟨url, -, found⟩ := anthropicImageURL_of_valid valid defaultMT
    simp [anthropicImageToPart, found, valid]
  · simp [anthropicImageToPart, anthropicImageURL_of_not_valid valid, valid]

/-! ### SGLang -/

theorem made_sglangResultPart {it : ToolResultItem} {part : Value}
    (made : sglangResultPart it = some part) : AdapterPart part := by
  unfold sglangResultPart at made
  split_ifs at made
  · obtain rfl := Option.some.inj made
    exact .text _
  · obtain ⟨url, -, rfl⟩ := Option.map_eq_some_iff.mp made
    exact .image url
  · obtain rfl := Option.some.inj made
    exact .reference _

theorem any_sglangResultPart (it : ToolResultItem) :
    (sglangResultPart it).any isMultimodalPart = true ↔ it.Seen := by
  unfold sglangResultPart ToolResultItem.Seen
  by_cases text : it.type = "text"
  · rw [if_pos text, text]
    split_ifs <;> simp
  · rw [if_neg text]
    by_cases image : it.type = "image"
    · rw [if_pos image, any_anthropicImageToPart, image]
      simp
    · rw [if_neg image]
      by_cases reference : it.type = "tool_reference" <;> by_cases nameless : it.ref = "" <;>
        simp [image, reference, nameless]

theorem sglangToolResultContent_items {raw : Option Json} {items : List ToolResultItem}
    (noText : unmarshal decodeString "" raw = none)
    (listed : unmarshal (decodeSlice decodeToolResultItem {}) [] raw = some items) :
    (sglangToolResultContent raw).1 =
      if items.filterMap sglangResultPart = [] then .string ""
      else collapseContentParts (items.filterMap sglangResultPart) := by
  rw [sglangToolResultContent, noText, listed]
  dsimp only
  generalize items.filterMap sglangResultPart = parts
  rcases parts with _ | ⟨part, _ | ⟨second, parts⟩⟩ <;> rfl

theorem isMultimodalContent_sglangToolResult (raw : Option Json) :
    isMultimodalContent (sglangToolResultContent raw).1 = true ↔
      ∃ it ∈ resultItems raw, it.Seen := by
  unfold resultItems
  cases text : unmarshal decodeString "" raw with
  | some s =>
      rw [unmarshal_slice_of_text _ _ text, sglangToolResultContent, text]
      simp [isMultimodalContent]
  | none =>
      cases listed : unmarshal (decodeSlice decodeToolResultItem {}) [] raw with
      | none =>
          rw [sglangToolResultContent, text, listed]
          simp [isMultimodalContent]
      | some items =>
          have made : ∀ p ∈ items.filterMap sglangResultPart, AdapterPart p := by
            intro part inside
            obtain ⟨it, -, converts⟩ := List.mem_filterMap.mp inside
            exact made_sglangResultPart converts
          have shown : (items.filterMap sglangResultPart).any isMultimodalPart = true ↔
              ∃ it ∈ items, it.Seen := by
            simp only [List.any_eq_true, List.mem_filterMap, ← any_sglangResultPart,
              Option.any_eq_true]
            grind
          rw [sglangToolResultContent_items text listed, Option.getD_some]
          split
          · rename_i none_
            rw [none_] at shown
            exact shown
          · rw [isMultimodalContent_collapse made]
            exact shown

theorem detected_sglangUserResult (b : AnthropicBlock) :
    detected (sglangUserResult b) = true ↔ ∃ it ∈ resultItems b.content, it.Seen := by
  rw [sglangUserResult, detected_cons, detected_nil, Bool.or_false]
  exact isMultimodalContent_sglangToolResult b.content

/-! ### vLLM -/

/-- The url of an element is kept if and only if it is an image with a source. -/
theorem vllmImageURL_eq_none {it : ToolResultItem} :
    (if it.type = "image" then
        (anthropicImageURL it.source vllmImageDefaultMediaType).filter (· ≠ "")
      else none) = none ↔ ¬ (it.type = "image" ∧ ValidSource it.source) := by
  by_cases image : it.type = "image"
  · rw [if_pos image]
    by_cases valid : ValidSource it.source
    · obtain ⟨url, nonempty, found⟩ := anthropicImageURL_of_valid valid vllmImageDefaultMediaType
      simp [found, nonempty, image, valid]
    · simp [anthropicImageURL_of_not_valid valid, valid]
  · simp [image]

theorem detected_vllmUserToolResult (b : AnthropicBlock) :
    detected (vllmUserToolResult b) = true ↔ ∃ it ∈ resultItems b.content, it.Seen := by
  have split : detected (vllmUserToolResult b) = true ↔
      (vllmSplitToolResultContent b.content).imageURLs ≠ [] ∨
        (vllmSplitToolResultContent b.content).toolRefs ≠ [] := by
    unfold vllmUserToolResult
    dsimp only
    generalize vllmSplitToolResultContent b.content = result
    rcases result with ⟨text, _ | ⟨url, urls⟩, _ | ⟨ref, refs⟩⟩ <;>
      simp [isMultimodalContent]
  rw [split]
  unfold resultItems vllmSplitToolResultContent
  cases text : unmarshal decodeString "" b.content with
  | some s =>
      rw [unmarshal_slice_of_text _ _ text]
      simp
  | none =>
      cases listed : unmarshal (decodeSlice decodeToolResultItem {}) [] b.content with
      | none => simp
      | some items =>
          dsimp only
          rw [Option.getD_some, ← not_iff_not, not_or, not_not, not_not, List.filterMap_eq_nil_iff,
            List.map_eq_nil_iff, List.filter_eq_nil_iff]
          simp only [vllmImageURL_eq_none, decide_eq_true_eq, not_exists, not_and,
            ToolResultItem.Seen, not_or, ← forall_and]

/-! ### Both -/

/-- Content that is a nil has no parts. -/
theorem parts_of_isNil {parts : List Value} (made : ∀ p ∈ parts, AdapterPart p)
    (nil_ : isNil (collapseContentParts parts) = true) : parts = [] := by
  match parts with
  | [] => rfl
  | [part] =>
      have part_ := made part List.mem_cons_self
      cases part_ <;> cases nil_
  | _ :: _ :: _ => cases nil_

theorem BlockStep.made {conventions : Conventions} {role : String} {c c' : Conversion}
    {b : AnthropicBlock} (step : BlockStep conventions role c b c') (made : c.Made) : c'.Made := by
  cases step with
  | text => exact made.addPart (.text _)
  | image _ url => exact made.addPart (.image url)
  | inlined => exact made.addPart (.text _)
  | _ => exact made

theorem ShowsSeen.of_follows {adapter : AnthropicAdapter} {conventions : Conventions}
    (follows : Follows adapter conventions)
    (userResult : ∀ b, detected (conventions.userResult b) = true ↔
      ∃ it ∈ resultItems b.content, it.Seen) : ShowsSeen adapter where
  made role c b made := (follows.block role c b).made made
  block role c b := by
    have step := follows.block role c b
    generalize adapter.block role c b = c' at step ⊢
    cases step with
    | text type =>
        rw [Conversion.shows_addPart]
        simp [AnthropicBlock.Seen, type]
    | emptyText type => simp [AnthropicBlock.Seen, type]
    | image type url found =>
        have valid := (validSource_iff conventions.defaultMT).mpr ⟨url, found⟩
        rw [Conversion.shows_addPart]
        simp [AnthropicBlock.Seen, type, valid]
    | noImage type none_ =>
        have invalid : ¬ ValidSource b.source := by
          rw [validSource_iff conventions.defaultMT, none_]
          nofun
        simp [AnthropicBlock.Seen, type, invalid]
    | thinking type =>
        simp only [AnthropicBlock.Seen, type]
        exact (or_iff_left (by simp)).symm
    | call type =>
        simp only [AnthropicBlock.Seen, type]
        exact (or_iff_left (by simp)).symm
    | userResult type user =>
        rw [Conversion.shows_addSplit, userResult]
        simp [AnthropicBlock.Seen, type, user]
    | inlined type other =>
        rw [Conversion.shows_addPart]
        simp [AnthropicBlock.Seen, type, other]
    | skipped type =>
        have unseen : ¬ b.Seen role := by
          rintro (⟨image, -⟩ | ⟨result, -⟩)
          · exact type (by simp [Conventions.handled, image])
          · exact type (by simp [Conventions.handled, result])
        simp [unseen]
  messages role c made := by
    have assembled := follows.messages role c
    generalize adapter.messages role c = msgs at assembled ⊢
    have parts := isMultimodalContent_collapse made
    cases assembled with
    | before content =>
        rw [detected_cons, content.content, parts, Bool.or_eq_true]
        rfl
    | after content =>
        rw [detected_append, detected_cons, content.content, parts]
        simp [Conversion.Shows, or_comm]
    | nothing nil_ =>
        rw [Conversion.Shows, parts_of_isNil made nil_]
        simp

theorem showsSeen_sglang : ShowsSeen sglangAdapter :=
  .of_follows sglang_follows detected_sglangUserResult

theorem showsSeen_vllm : ShowsSeen vllmAdapter :=
  .of_follows vllm_follows detected_vllmUserToolResult

namespace ShowsSeen

variable {adapter : AnthropicAdapter}

theorem foldl (shows_ : ShowsSeen adapter) (role : String) (blocks : List AnthropicBlock)
    (c : Conversion) (made : c.Made) :
    (blocks.foldl (adapter.block role) c).Made ∧
      ((blocks.foldl (adapter.block role) c).Shows ↔ c.Shows ∨ ∃ b ∈ blocks, b.Seen role) := by
  induction blocks generalizing c with
  | nil => exact ⟨made, by simp⟩
  | cons b blocks ih =>
      obtain ⟨made', shown⟩ := ih (adapter.block role c b) (shows_.made role c b made)
      refine ⟨made', shown.trans ?_⟩
      rw [shows_.block]
      simp only [List.mem_cons, exists_eq_or_imp]
      exact or_assoc

theorem message (shows_ : ShowsSeen adapter) (n : Nat) (m : AnthropicMessage) :
    detected (adapter.message n m).1 = true ↔ ∃ b ∈ m.blocks, b.Seen m.role := by
  unfold AnthropicAdapter.message AnthropicMessage.blocks
  cases text : unmarshal decodeString "" m.content with
  | some s =>
      rw [unmarshal_slice_of_text _ _ text]
      simp [isMultimodalContent]
  | none =>
      cases listed : unmarshal (decodeSlice decodeAnthropicBlock {}) [] m.content with
      | none => simp
      | some blocks =>
          obtain ⟨made, shown⟩ := shows_.foldl m.role blocks { counter := n } nofun
          dsimp only
          rw [shows_.messages m.role _ made, shown, Option.getD_some]
          simp [Conversion.Shows]

theorem foldl_appendMessage (shows_ : ShowsSeen adapter) (progress : Progress)
    (msgs : List AnthropicMessage) :
    detected (msgs.foldl adapter.appendMessage progress).1 = true ↔
      detected progress.1 = true ∨ ∃ m ∈ msgs, ∃ b ∈ m.blocks, b.Seen m.role := by
  induction msgs generalizing progress with
  | nil => simp
  | cons m msgs ih =>
      rw [List.foldl_cons, ih, AnthropicAdapter.appendMessage, detected_append, Bool.or_eq_true,
        shows_.message]
      simp only [List.mem_cons, exists_eq_or_imp]
      exact or_assoc

/-- What `HasMultimodalContent` says of an Anthropic request. -/
theorem fromAnthropic (shows_ : ShowsSeen adapter) {raw : Json} {env : AnthropicEnvelope}
    {rr : RouteRequest} (parses : parseAnthropicEnvelope raw = .ok env)
    (normalizes : adapter.fromAnthropic raw = .ok rr) :
    rr.hasMultimodalContent = true ↔ ∃ m ∈ env.messages, ∃ b ∈ m.blocks, b.Seen m.role := by
  rw [AnthropicAdapter.fromAnthropic, parses] at normalizes
  obtain rfl := Except.ok.inj normalizes
  have plain : detected (adapter.systemMessages env.system) = false := by
    unfold AnthropicAdapter.systemMessages
    split <;> rfl
  refine (shows_.foldl_appendMessage (adapter.systemMessages env.system, 0) env.messages).trans ?_
  simp [plain]

end ShowsSeen

/-- An image with a source, at the top level of a message or in a tool result of the user's. -/
inductive HoldsImage (m : AnthropicMessage) : Prop where
  | block {blocks : List AnthropicBlock} {b : AnthropicBlock}
      (listed : unmarshal (decodeSlice decodeAnthropicBlock {}) [] m.content = some blocks)
      (inside : b ∈ blocks) (image : b.type = "image") (valid : ValidSource b.source) : HoldsImage m
  | result {blocks : List AnthropicBlock} {b : AnthropicBlock} {items : List ToolResultItem}
      {it : ToolResultItem}
      (listed : unmarshal (decodeSlice decodeAnthropicBlock {}) [] m.content = some blocks)
      (inside : b ∈ blocks) (result : b.type = "tool_result") (user : m.role = "user")
      (items_ : unmarshal (decodeSlice decodeToolResultItem {}) [] b.content = some items)
      (inside_ : it ∈ items) (image : it.type = "image") (valid : ValidSource it.source) :
      HoldsImage m

theorem HoldsImage.seen {m : AnthropicMessage} (holds : HoldsImage m) :
    ∃ b ∈ m.blocks, b.Seen m.role := by
  cases holds with
  | @block blocks b listed inside image valid =>
      refine ⟨b, ?_, Or.inl ⟨image, valid⟩⟩
      rw [AnthropicMessage.blocks, listed]
      exact inside
  | @result blocks b items it listed inside result user items_ inside_ image valid =>
      refine ⟨b, ?_, Or.inr ⟨result, user, it, ?_, Or.inl ⟨image, valid⟩⟩⟩
      · rw [AnthropicMessage.blocks, listed]
        exact inside
      · rw [resultItems, items_]
        exact inside_

/-! ### Responses -/

section Responses

variable {parseFloat : String → Option Float}

def elementsOf : Option Json → List Json
  | some (.array elements) => elements
  | _ => []

/-- The parts of an input item: of a message its content, of an output the output. -/
def partsOf (item : Json) : List Json :=
  if stringOf "type" item = "function_call" then []
  else if stringOf "type" item = "function_call_output" then elementsOf (fieldOf "output" item)
  else if stringOf "type" item = "reasoning" then []
  else elementsOf (fieldOf "content" item)

/-- The item is decoded and, if it is a message, so is every part. -/
def Readable (parseFloat : String → Option Float) (item : Json) : Prop :=
  (decodeResponsesItem {} item).isSome ∧
    (stringOf "type" item = "function_call_output" ∨
      ∀ p ∈ partsOf item, (decodeMap parseFloat [] p).isSome)

theorem lawful_responsesItemFields : LawfulFields responsesItemFields := by
  simp +decide [responsesItemFields]

theorem type_responsesItem {raw : Json} {item : ResponsesItem}
    (decodes : decodeResponsesItem {} raw = some item) : item.type = stringOf "type" raw :=
  decodeStruct_string lawful_responsesItemFields (.head _) rfl decodes

theorem content_responsesItem {raw : Json} {item : ResponsesItem}
    (decodes : decodeResponsesItem {} raw = some item) : item.content = fieldOf "content" raw :=
  decodeStruct_raw lawful_responsesItemFields (.tail _ (.tail _ (.head _))) rfl decodes

theorem output_responsesItem {raw : Json} {item : ResponsesItem}
    (decodes : decodeResponsesItem {} raw = some item) : item.output = fieldOf "output" raw :=
  decodeStruct_raw lawful_responsesItemFields
    (.tail _ (.tail _ (.tail _ (.tail _ (.tail _ (.tail _ (.head _))))))) rfl decodes

theorem isMultimodalPart_map (entries : List (String × Value)) :
    isMultimodalPart (.map entries) =
      decide ((partString entries "type").getD "" ∉ textualTypes) := by
  unfold isMultimodalPart partString
  dsimp only
  cases entries.lookup "type" with
  | none => rfl
  | some v => cases v <;> rfl

/-- The types of the parts that are converted to texts. -/
def textTypes : List String := ["input_text", "output_text", "text"]

theorem textual_of_textTypes {t : String} (text : t ∈ textTypes) : t ∈ textualTypes := by
  simp only [textTypes, List.mem_cons, List.not_mem_nil, or_false] at text
  rcases text with rfl | rfl | rfl <;> decide

/-- A part that is converted is seen as before. -/
theorem isMultimodalPart_convert (entries : List (String × Value)) :
    isMultimodalPart (convertResponsesPart entries) = isMultimodalPart (.map entries) := by
  unfold convertResponsesPart
  dsimp only
  split_ifs with text image
  · rw [isMultimodalPart_textPart, isMultimodalPart_map]
    simp [textual_of_textTypes text]
  · rw [isMultimodalPart_imagePart, isMultimodalPart_map, image]
    decide
  · rfl

/-- A part alone is seen as before too, but a text alone is what its text is. -/
theorem isMultimodalContent_alone (entries : List (String × Value)) :
    isMultimodalContent ((soleText (convertResponsesPart entries)).getD
        (.list [convertResponsesPart entries])) = true ↔
      isMultimodalPart (.map entries) = true ∨
        (partString entries "type").getD "" ∈ textTypes ∧
          isMultimodalContent ((entries.lookup "text").getD .nil) = true := by
  rw [← isMultimodalPart_convert]
  unfold convertResponsesPart
  dsimp only
  split_ifs with text image
  · rw [isMultimodalPart_textPart]
    simp only [Bool.false_eq_true, false_or]
    exact (and_iff_right text).symm
  · rw [image]
    refine iff_of_true rfl (Or.inl rfl)
  · have noText : soleText (.map entries) = none := by
      have other : partString entries "type" ≠ some "text" := by
        intro type
        rw [type] at text
        exact text (by decide)
      exact if_neg other
    rw [noText, Option.getD_none, isMultimodalContent, List.any_cons, List.any_nil, Bool.or_false]
    exact (or_iff_left fun both => text both.1).symm

/-- A part that is decoded is seen if and only if its type is foreign. -/
theorem isMultimodalPart_decodeMap {p : Json} {entries : List (String × Value)}
    (decodes : decodeMap parseFloat [] p = some entries) :
    isMultimodalPart (convertResponsesPart entries) = true ↔ Foreign p := by
  rw [isMultimodalPart_convert]
  cases p with
  | null =>
      rw [← Option.some.inj decodes]
      simp [isMultimodalPart, Foreign]
  | object members =>
      simp only [decodeMap] at decodes
      split_ifs at decodes
      rw [← Option.some.inj decodes]
      exact isMultimodalPart_toEntries members
  | _ => cases decodes

theorem any_mapM_decodeMap {parts : List Json} {decoded : List (List (String × Value))}
    (decodes : parts.mapM (decodeMap parseFloat []) = some decoded) :
    (decoded.map convertResponsesPart).any isMultimodalPart = true ↔ ∃ p ∈ parts, Foreign p := by
  induction parts generalizing decoded with
  | nil =>
      obtain rfl := Option.some.inj decodes
      simp
  | cons p parts ih =>
      rw [List.mapM_cons] at decodes
      obtain ⟨entries, first, rest⟩ := Option.bind_eq_some_iff.mp decodes
      obtain ⟨others, tail, joined⟩ := Option.bind_eq_some_iff.mp rest
      obtain rfl := Option.some.inj joined
      rw [List.map_cons, List.any_cons, Bool.or_eq_true, isMultimodalPart_decodeMap first, ih tail]
      simp only [List.mem_cons, exists_eq_or_imp]

theorem isSome_mapM_decodeMap {parts : List Json} :
    (parts.mapM (decodeMap parseFloat [])).isSome ↔
      ∀ p ∈ parts, (decodeMap parseFloat [] p).isSome := by
  induction parts with
  | nil => simp
  | cons p parts ih =>
      rw [List.forall_mem_cons, ← ih, List.mapM_cons]
      cases decodeMap parseFloat [] p <;> cases parts.mapM (decodeMap parseFloat []) <;> simp

/-- The only part is a text that is a list with a foreign element, which becomes the content. -/
def NestedText (parts : List Json) : Prop :=
  ∃ members s inner, parts = [.object members] ∧ lastNamed "type" members = some (.string s) ∧
    s.text ∈ textTypes ∧
      lastNamed "text" members = some (.array inner) ∧ ∃ q ∈ inner, Foreign q

/-- A value decoded from a document is seen if and only if it is a list with a foreign part. -/
theorem isMultimodalContent_toAny_iff (j : Json) :
    isMultimodalContent (toAny parseFloat j) = true ↔
      ∃ inner, j = .array inner ∧ ∃ q ∈ inner, Foreign q := by
  cases j with
  | array inner => simp [isMultimodalContent_toAny]
  | number literal =>
      cases parsed : parseFloat literal <;> simp [toAny, parsed, isMultimodalContent]
  | _ => simp [toAny, isMultimodalContent]

theorem partString_toEntries (name : String) (members : Members) :
    partString (toEntries parseFloat [] members) name = (lastNamed name members).bind string? := by
  rw [partString, lookup_toEntries, List.lookup_nil, Option.or_none]
  cases lastNamed name members with
  | none => rfl
  | some j =>
      cases j with
      | number literal => cases parsed : parseFloat literal <;> simp [toAny, parsed, string?]
      | _ => simp [toAny, string?]

theorem nestedText_iff {p : Json} {entries : List (String × Value)}
    (decodes : decodeMap parseFloat [] p = some entries) :
    ((partString entries "type").getD "" ∈ textTypes ∧
        isMultimodalContent ((entries.lookup "text").getD .nil) = true) ↔ NestedText [p] := by
  cases p with
  | null =>
      rw [← Option.some.inj decodes]
      simp [partString, textTypes, NestedText]
  | object members =>
      simp only [decodeMap] at decodes
      split_ifs at decodes
      obtain rfl := Option.some.inj decodes
      have text : (partString (toEntries parseFloat [] members) "type").getD "" ∈ textTypes ↔
          ∃ s, lastNamed "type" members = some (.string s) ∧ s.text ∈ textTypes := by
        rw [partString_toEntries]
        cases lastNamed "type" members with
        | none => simp [textTypes]
        | some j => cases j <;> simp [textTypes, string?]
      have content : isMultimodalContent
            (((toEntries parseFloat [] members).lookup "text").getD .nil) = true ↔
          ∃ inner, lastNamed "text" members = some (.array inner) ∧ ∃ q ∈ inner, Foreign q := by
        rw [lookup_toEntries, List.lookup_nil, Option.or_none]
        cases lastNamed "text" members with
        | none => simp [isMultimodalContent]
        | some j =>
            rw [Option.map_some, Option.getD_some, isMultimodalContent_toAny_iff]
            simp
      rw [text, content, NestedText]
      constructor
      · rintro ⟨⟨s, type, text⟩, inner, found, foreign_⟩
        exact ⟨members, s, inner, rfl, type, text, found, foreign_⟩
      · rintro ⟨_, s, inner, same, type, text, found, foreign_⟩
        obtain rfl := Json.object.inj (List.singleton_inj.mp same)
        exact ⟨⟨s, type, text⟩, inner, found, foreign_⟩
  | _ => cases decodes

theorem isMultimodalContent_convert (raw : Option Json) :
    isMultimodalContent (convertResponsesContent parseFloat raw) = true ↔
      (∀ p ∈ elementsOf raw, (decodeMap parseFloat [] p).isSome) ∧
        ((∃ p ∈ elementsOf raw, Foreign p) ∨ NestedText (elementsOf raw)) := by
  have empty (s : String) : isMultimodalContent (.string s) = true ↔
      (∀ p ∈ ([] : List Json), (decodeMap parseFloat [] p).isSome) ∧
        ((∃ p ∈ ([] : List Json), Foreign p) ∨ NestedText []) := by
    simp [isMultimodalContent, NestedText]
  cases raw with
  | none => exact empty ""
  | some j =>
      cases j with
      | array parts =>
          have noText : decodeString "" (.array parts) = none := rfl
          rw [convertResponsesContent, noText, decodeSlice_array]
          dsimp only [elementsOf]
          rw [← isSome_mapM_decodeMap]
          cases decodes : parts.mapM (decodeMap parseFloat []) with
          | none => simp [isMultimodalContent]
          | some decoded =>
              have seen := any_mapM_decodeMap decodes
              rw [Option.isSome_some]
              simp only [true_and]
              rcases parts with _ | ⟨p, _ | ⟨q, parts⟩⟩
              · obtain rfl := Option.some.inj decodes
                simp [isMultimodalContent, NestedText]
              · rw [List.mapM_cons] at decodes
                obtain ⟨entries, first, rest⟩ := Option.bind_eq_some_iff.mp decodes
                obtain rfl := Option.some.inj rest
                rw [← nestedText_iff first, ← seen]
                refine (isMultimodalContent_alone entries).trans ?_
                simp [isMultimodalPart_convert]
              · rw [List.mapM_cons, List.mapM_cons] at decodes
                obtain ⟨entries, -, rest⟩ := Option.bind_eq_some_iff.mp decodes
                obtain ⟨tail, more, joined⟩ := Option.bind_eq_some_iff.mp rest
                obtain ⟨entries', -, rest'⟩ := Option.bind_eq_some_iff.mp more
                obtain ⟨tail', -, joined'⟩ := Option.bind_eq_some_iff.mp rest'
                obtain rfl := Option.some.inj joined'
                obtain rfl := Option.some.inj joined
                have long : ¬ NestedText (p :: q :: parts) := by
                  rintro ⟨_, _, _, same, -⟩
                  simp at same
                rw [or_iff_left long]
                exact seen
      | null | string => exact empty _
      | bool | number | object => exact empty ""

/-- The item is decoded and shows a foreign part. -/
def ItemSeen (parseFloat : String → Option Float) (item : Json) : Prop :=
  Readable parseFloat item ∧
    ((∃ p ∈ partsOf item, Foreign p) ∨
      stringOf "type" item ≠ "function_call_output" ∧ NestedText (partsOf item))

theorem detected_appendCall (msgs : List ChatMessage) (tc : ToolCall) :
    detected (appendCall msgs tc) = detected msgs := by
  rcases List.eq_nil_or_concat' msgs with rfl | ⟨init, last, rfl⟩
  · rfl
  · rw [appendCall_concat]
    split <;> simp [isMultimodalContent]

theorem isMultimodalContent_output (parseFloat : String → Option Float) (raw : Option Json) :
    isMultimodalContent ((raw.map (toAny parseFloat)).getD .nil) = true ↔
      ∃ p ∈ elementsOf raw, Foreign p := by
  cases raw with
  | none => simp [isMultimodalContent, elementsOf]
  | some j =>
      rw [Option.map_some, Option.getD_some, isMultimodalContent_toAny_iff]
      cases j <;> simp [elementsOf]

theorem detected_appendResponsesItem (progress : Progress) (raw : Json) :
    detected (appendResponsesItem parseFloat progress raw).1 = true ↔
      detected progress.1 = true ∨ ItemSeen parseFloat raw := by
  rw [appendResponsesItem]
  cases decodes : decodeResponsesItem {} raw with
  | none => simp [ItemSeen, Readable, decodes]
  | some item =>
      have type := type_responsesItem decodes
      dsimp only
      rw [appendItem]
      by_cases call : item.type = "function_call"
      · have none_ : partsOf raw = [] := by rw [partsOf, ← type, if_pos call]
        rw [if_pos call, detected_appendCall]
        simp [ItemSeen, none_, NestedText]
      · rw [if_neg call]
        by_cases output : item.type = "function_call_output"
        · have parts : partsOf raw = elementsOf (fieldOf "output" raw) := by
            rw [partsOf, ← type, if_neg call, if_pos output]
          have seen := isMultimodalContent_output parseFloat item.output
          rw [output_responsesItem decodes, ← parts] at seen
          rw [if_pos output, detected_append, detected_cons, detected_nil, Bool.or_false,
            Bool.or_eq_true, outputOf, output_responsesItem decodes, seen]
          simp [ItemSeen, Readable, decodes, ← type, output]
        · rw [if_neg output]
          by_cases reasoning : item.type = "reasoning"
          · have none_ : partsOf raw = [] := by
              rw [partsOf, ← type, if_neg call, if_neg output, if_pos reasoning]
            rw [if_pos reasoning]
            simp [ItemSeen, none_, NestedText]
          · have parts : partsOf raw = elementsOf (fieldOf "content" raw) := by
              rw [partsOf, ← type, if_neg call, if_neg output, if_neg reasoning]
            rw [if_neg reasoning, detected_append, detected_cons, detected_nil, Bool.or_false,
              Bool.or_eq_true, messageOf, content_responsesItem decodes,
              isMultimodalContent_convert, ← parts]
            simp [ItemSeen, Readable, decodes, ← type, output]

theorem detected_foldl (progress : Progress) (items : List Json) :
    detected (items.foldl (appendResponsesItem parseFloat) progress).1 = true ↔
      detected progress.1 = true ∨ ∃ item ∈ items, ItemSeen parseFloat item := by
  induction items generalizing progress with
  | nil => simp
  | cons item items ih =>
      rw [List.foldl_cons, ih, detected_appendResponsesItem]
      simp only [List.mem_cons, exists_eq_or_imp]
      exact or_assoc

/-- What `HasMultimodalContent` says of a Responses request. -/
theorem hasMultimodalContent_fromOpenAIResponses {raw : Json} {body : ResponsesBody}
    {rr : RouteRequest} (parses : decodeResponsesBody {} raw = some body)
    (normalizes : fromOpenAIResponses parseFloat raw = .ok rr) :
    rr.hasMultimodalContent = true ↔
      ∃ item ∈ elementsOf body.input, ItemSeen parseFloat item := by
  have plain : detected (instructionMessages body.instructions) = false := by
    unfold instructionMessages
    split <;> rfl
  change detected rr.messages = true ↔ _
  rcases messages_fromOpenAIResponses parses normalizes with
    ⟨items, given, whole⟩ | ⟨other, texts, whole⟩
  · rw [whole, given, detected_foldl, plain]
    simp [elementsOf]
  · have none_ : elementsOf body.input = [] := by
      unfold elementsOf
      split
      · rename_i given
        exact absurd given (other _)
      · rfl
    rw [whole, none_, detected_append, plain]
    simp [detected, isMultimodalContent]

end Responses

/-! ### Images are detected -/

/-- On Anthropic and on Chat what the request holds is always detected. On Responses it is if and
only if some part of a foreign type is in an item that is decoded, as a whole. -/
theorem images_detected_iff (parseFloat : String → Option Float) {raw : Json} {rr : RouteRequest} :
    (∀ adapter ∈ [vllmAdapter, sglangAdapter], ∀ env, parseAnthropicEnvelope raw = .ok env →
        adapter.fromAnthropic raw = .ok rr →
        ∀ m ∈ env.messages, HoldsImage m → rr.hasMultimodalContent = true) ∧
      (∀ body, decodeChatBody parseFloat {} raw = some body →
        fromOpenAIChat parseFloat raw = .ok rr →
        ∀ m ∈ body.messages, ∀ parts, m.content = toAny parseFloat (.array parts) →
          ∀ p ∈ parts, Foreign p → rr.hasMultimodalContent = true) ∧
      ∀ body, decodeResponsesBody {} raw = some body →
        fromOpenAIResponses parseFloat raw = .ok rr →
        ((∀ item ∈ elementsOf body.input, ∀ p ∈ partsOf item, Foreign p →
            rr.hasMultimodalContent = true) ↔
          ∀ item ∈ elementsOf body.input, ∀ p ∈ partsOf item, Foreign p →
            ∃ item' ∈ elementsOf body.input, ItemSeen parseFloat item') := by
  refine ⟨fun adapter member env parses normalizes m inside holds => ?_,
    fun body parses normalizes m inside parts content p part foreign_ => ?_,
    fun body parses normalizes => ?_⟩
  · have shows_ : ShowsSeen adapter := by
      simp only [List.mem_cons, List.not_mem_nil, or_false] at member
      rcases member with rfl | rfl
      · exact showsSeen_vllm
      · exact showsSeen_sglang
    exact (shows_.fromAnthropic parses normalizes).mpr ⟨m, inside, holds.seen⟩
  · have same : rr.messages = body.messages := by
      rw [fromOpenAIChat, parses] at normalizes
      dsimp only at normalizes
      split at normalizes
      · cases normalizes
      · obtain rfl := Except.ok.inj normalizes
        rfl
    refine List.any_eq_true.mpr ⟨m, same ▸ inside, ?_⟩
    rw [content, isMultimodalContent_toAny]
    exact ⟨p, part, foreign_⟩
  · rw [hasMultimodalContent_fromOpenAIResponses parses normalizes]

/-- A request of one user message with the content. -/
def contentBody (name : String) (content : List Json) : Json :=
  .object [member "model" (.text "m"),
    member name
      (.array [.object [member "role" (.text "user"), member "content" (.array content)]])]

/-- An image of the Anthropic protocol. -/
def imageBlock : Json :=
  .object [member "type" (.text "image"), member "source" (.object [member "url" (.text "u")])]

/-- An image of the Responses protocol. -/
def inputImage : Json :=
  .object [member "type" (.text "input_image"), member "image_url" (.text "u")]

theorem foreign_inputImage : Foreign inputImage := ⟨.plain "input_image", rfl, by decide⟩

theorem images_detected_iff_contentBody :
    (∃ rr, vllmAdapter.fromAnthropic (contentBody "messages" [imageBlock]) = .ok rr ∧
        rr.hasMultimodalContent = true) ∧
      (∃ rr, fromOpenAIChat (fun _ => none) (contentBody "messages" [inputImage]) = .ok rr ∧
        rr.hasMultimodalContent = true) ∧
      ∃ rr, fromOpenAIResponses (fun _ => none) (contentBody "input" [inputImage]) = .ok rr ∧
        rr.hasMultimodalContent = true := by
  refine ⟨?_, ?_, ?_⟩
  · obtain ⟨env, m, parses, messages, content⟩ : ∃ env m,
        parseAnthropicEnvelope (contentBody "messages" [imageBlock]) = .ok env ∧
          env.messages = [m] ∧ m.content = some (.array [imageBlock]) := ⟨_, _, rfl, rfl, rfl⟩
    obtain ⟨rr, normalizes⟩ :
        ∃ rr, vllmAdapter.fromAnthropic (contentBody "messages" [imageBlock]) = .ok rr := ⟨_, rfl⟩
    refine ⟨rr, normalizes, (images_detected_iff fun _ => none).1 vllmAdapter List.mem_cons_self env
      parses normalizes m (by rw [messages]; exact List.mem_cons_self) ?_⟩
    refine .block (by rw [content]; rfl) List.mem_cons_self rfl ⟨_, rfl, Or.inr ?_⟩
    decide
  · obtain ⟨body, m, parses, messages, content⟩ : ∃ body m,
        decodeChatBody (fun _ => none) {} (contentBody "messages" [inputImage]) = some body ∧
          body.messages = [m] ∧ m.content = toAny (fun _ => none) (.array [inputImage]) :=
      ⟨_, _, rfl, rfl, rfl⟩
    obtain ⟨rr, normalizes⟩ :
        ∃ rr, fromOpenAIChat (fun _ => none) (contentBody "messages" [inputImage]) = .ok rr :=
      ⟨_, rfl⟩
    exact ⟨rr, normalizes, (images_detected_iff fun _ => none).2.1 body parses normalizes m
      (by rw [messages]; exact List.mem_cons_self) _ content _ List.mem_cons_self
      foreign_inputImage⟩
  · obtain ⟨body, item, parses, input, parts, reads⟩ : ∃ body item,
        decodeResponsesBody {} (contentBody "input" [inputImage]) = some body ∧
          body.input = some (.array [item]) ∧ partsOf item = [inputImage] ∧
            (decodeResponsesItem {} item).isSome := by
      refine ⟨_, _, rfl, rfl, ?_, rfl⟩
      rfl
    obtain ⟨rr, normalizes⟩ :
        ∃ rr, fromOpenAIResponses (fun _ => none) (contentBody "input" [inputImage]) = .ok rr :=
      ⟨_, rfl⟩
    have inside : item ∈ elementsOf body.input := by
      rw [input]
      exact List.mem_cons_self
    have part : inputImage ∈ partsOf item := by
      rw [parts]
      exact List.mem_cons_self
    refine ⟨rr, normalizes, ((images_detected_iff fun _ => none).2.2 body parses normalizes).mpr
      ?_ item inside inputImage part foreign_inputImage⟩
    intro _ _ _ _ _
    refine ⟨item, inside, ⟨reads, Or.inr ?_⟩, Or.inl ⟨inputImage, part, foreign_inputImage⟩⟩
    rw [parts]
    simp only [List.mem_singleton, forall_eq]
    rfl

/-- A caption that is a plain string loses the image before it. -/
theorem not_images_detected :
    ∃ body rr item, decodeResponsesBody {} (contentBody "input" [inputImage, .text "caption"]) =
        some body ∧
      fromOpenAIResponses (fun _ => none) (contentBody "input" [inputImage, .text "caption"]) =
        .ok rr ∧
      item ∈ elementsOf body.input ∧ inputImage ∈ partsOf item ∧ Foreign inputImage ∧
      rr.hasMultimodalContent = false := by
  refine ⟨_, _, _, rfl, rfl, List.mem_cons_self, ?_, foreign_inputImage, rfl⟩
  exact List.mem_cons_self

end KvIndexer.Normalize
