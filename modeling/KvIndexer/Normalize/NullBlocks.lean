import KvIndexer.Normalize.NullItems

/-!
Fields of an Anthropic message that are null instead of absent.

What shows is a null for its content, one for or inside the input of a tool use, and on vLLM
one inside a tool result that is inlined as JSON.
-/

namespace KvIndexer.Normalize

open Config Json

/-- A null in the input of a tool use, or inside a tool result that is inlined as JSON. -/
inductive BlockShows (conventions : Conventions) (role : String) (j j' : Json) : Prop where
  | input (type : stringOf "type" j = "tool_use") (edit : Touches "input" j j')
  | inlined (type : stringOf "type" j = "tool_result") (other : role ≠ "user")
      (whole : conventions.inlinesJson = true) (edit : InMember "content" AddsNull j j')

inductive MessageShows (conventions : Conventions) (j j' : Json) : Prop where
  | content (edit : Nulls "content" j j')
  | block (edit : InMember "content"
      (InDecoded decodeAnthropicBlock {} (BlockShows conventions (stringOf "role" j))) j j')

/-! ### Sources and elements -/

theorem lawful_imageSourceFields : LawfulFields imageSourceFields := by
  simp +decide [imageSourceFields]

theorem lawful_toolResultItemFields : LawfulFields toolResultItemFields := by
  simp +decide [toolResultItemFields]

theorem lawful_anthropicBlockFields : LawfulFields anthropicBlockFields := by
  simp +decide [anthropicBlockFields]

theorem lawful_anthropicMessageFields : LawfulFields anthropicMessageFields := by
  simp +decide [anthropicMessageFields]

variable {j j' : Json}

/-- Sources that are read alike. -/
def SameURL (raw raw' : Option Json) : Prop :=
  ∀ defaultMT, anthropicImageURL raw defaultMT = anthropicImageURL raw' defaultMT

theorem sameURL_edit {raw raw' : Option Json} (edit : RawEdit raw raw') : SameURL raw raw' := by
  intro defaultMT
  cases edit with
  | null => rfl
  | @inside v v' edit =>
      have same : decodeImageSource {} v = decodeImageSource {} v' := by
        refine ignores_struct lawful_imageSourceFields ?_ v v' edit
        simp only [imageSourceFields, List.forall_mem_cons]
        exact ⟨⟨rfl, ignores_string _⟩, ⟨rfl, ignores_string _⟩, ⟨rfl, ignores_string _⟩,
          ⟨rfl, ignores_string _⟩, nofun⟩
      rw [anthropicImageURL, anthropicImageURL, unmarshal, unmarshal, Option.bind_some,
        Option.bind_some, same]

/-- Elements of a tool result that are read alike. -/
structure ItemAlike (it it' : ToolResultItem) : Prop where
  type : it.type = it'.type
  text : it.text = it'.text
  ref : it.ref = it'.ref
  source : SameURL it.source it'.source

theorem ItemAlike.refl (it : ToolResultItem) : ItemAlike it it := ⟨rfl, rfl, rfl, fun _ => rfl⟩

theorem inToolResultItem (edit : AddsNull j j') :
    decodeToolResultItem {} j = decodeToolResultItem {} j' ∨ Touches "source" j j' := by
  have each : ∀ f ∈ toolResultItemFields, f.name ∈ ["source"] ∨
      Neutral {} f ∧ (f.name ∈ ([] : List String) ∨ Ignores f.decode (f.get {})) := by
    simp only [toolResultItemFields, List.forall_mem_cons]
    exact ⟨.inr ⟨rfl, .inr (ignores_string _)⟩, .inr ⟨rfl, .inr (ignores_string _)⟩,
      .inl (.head _), .inr ⟨rfl, .inr (ignores_string _)⟩, .inr ⟨rfl, .inr (ignores_string _)⟩,
      nofun⟩
  simpa [decodeToolResultItem] using
    edit.inFields lawful_toolResultItemFields ["source"] [] each

/-- A null in an element does not show. -/
theorem rel_item (edit : AddsNull j j') :
    Option.Rel ItemAlike (decodeToolResultItem {} j) (decodeToolResultItem {} j') := by
  rcases inToolResultItem edit with same | source
  · exact rel_of_eq .refl same
  · refine rel_mono ?_
      (rel_raw lawful_toolResultItemFields (.tail _ (.tail _ (.head _))) rfl source)
    rintro _ _ ⟨it, x, x', rfl, rfl, edit⟩
    exact ⟨rfl, rfl, rfl, sameURL_edit edit⟩

/-! ### Contents of tool results -/

/-- Contents of a tool result that are read alike, also where the JSON text is read. -/
inductive ContentAlike (json : Bool) : Option Json → Option Json → Prop where
  | same (raw : Option Json) : ContentAlike json raw raw
  | null : ContentAlike json none (some .null)
  | inside {v v' : Json} (parsed : json = false) (edit : AddsNull v v') :
      ContentAlike json (some v) (some v')

theorem ContentAlike.parsed {json : Bool} {raw raw' : Option Json}
    (alike : ContentAlike json raw raw') : ContentAlike false raw raw' := by
  cases alike with
  | same => exact .same _
  | null => exact .null
  | inside _ edit => exact .inside rfl edit

theorem rel_items (edit : AddsNull j j') :
    Option.Rel (Differ ItemAlike) (decodeSlice decodeToolResultItem {} [] j)
      (decodeSlice decodeToolResultItem {} [] j') :=
  rel_inSlice (fun _ _ => rel_item) edit

theorem sglangResultPart_alike (it it' : ToolResultItem) (alike : ItemAlike it it') :
    sglangResultPart it = sglangResultPart it' := by
  unfold sglangResultPart anthropicImageToPart
  rw [alike.type, alike.text, alike.ref, alike.source]

theorem sglangToolResultContent_alike {raw raw' : Option Json}
    (alike : ContentAlike false raw raw') :
    sglangToolResultContent raw = sglangToolResultContent raw' := by
  cases alike with
  | same => rfl
  | null => rfl
  | @inside v v' _ edit =>
      have related := rel_items edit
      obtain ⟨noText, noText'⟩ := decodeString_of_addsNull edit ""
      unfold sglangToolResultContent
      dsimp only [unmarshal, Option.bind_some]
      rw [noText, noText']
      generalize decodeSlice decodeToolResultItem {} [] v = o,
        decodeSlice decodeToolResultItem {} [] v' = o' at related
      cases related with
      | none => rfl
      | some differ =>
          have texts := differ.map_filter
            (p := fun it => decide (it.type = "text" ∧ it.text ≠ "")) (f := ToolResultItem.text)
            (fun it it' alike => by rw [alike.type, alike.text]) fun it it' alike => alike.text
          dsimp only
          rw [differ.filterMap sglangResultPart_alike, texts]

theorem vllmSplitToolResultContent_alike {raw raw' : Option Json}
    (alike : ContentAlike false raw raw') :
    vllmSplitToolResultContent raw = vllmSplitToolResultContent raw' := by
  cases alike with
  | same => rfl
  | null => rfl
  | @inside v v' _ edit =>
      have related := rel_items edit
      obtain ⟨noText, noText'⟩ := decodeString_of_addsNull edit ""
      unfold vllmSplitToolResultContent
      dsimp only [unmarshal, Option.bind_some]
      rw [noText, noText']
      generalize decodeSlice decodeToolResultItem {} [] v = o,
        decodeSlice decodeToolResultItem {} [] v' = o' at related
      cases related with
      | none => rfl
      | some differ =>
          have texts := differ.map_filter (p := fun it => decide (it.type = "text"))
            (f := ToolResultItem.text) (fun it it' alike => by rw [alike.type])
            fun it it' alike => alike.text
          have refs := differ.map_filter
            (p := fun it => decide (it.type = "tool_reference" ∧ it.ref ≠ ""))
            (f := ToolResultItem.ref) (fun it it' alike => by rw [alike.type, alike.ref])
            fun it it' alike => alike.ref
          dsimp only
          rw [texts, refs, differ.filterMap fun it it' alike => by rw [alike.type, alike.source]]

theorem anthropicContentToStr_alike {raw raw' : Option Json} (alike : ContentAlike true raw raw') :
    anthropicContentToStr raw = anthropicContentToStr raw' := by
  cases alike with
  | same => rfl
  | null => rfl
  | inside parsed => cases parsed

/-! ### Blocks -/

/-- Blocks that are read alike in a message of the role. -/
structure BlockAlike (conventions : Conventions) (role : String) (b b' : AnthropicBlock) :
    Prop where
  type : b.type = b'.type
  text : b.text = b'.text
  thinking : b.thinking = b'.thinking
  id : b.id = b'.id
  toolUseID : b.toolUseID = b'.toolUseID
  name : b.name = b'.name
  source : SameURL b.source b'.source
  input : b.type = "tool_use" → b.input = b'.input
  content : b.type = "tool_result" →
    ContentAlike (conventions.inlinesJson && decide (role ≠ "user")) b.content b'.content

theorem BlockAlike.refl (conventions : Conventions) (role : String) (b : AnthropicBlock) :
    BlockAlike conventions role b b :=
  ⟨rfl, rfl, rfl, rfl, rfl, rfl, fun _ => rfl, fun _ => rfl, fun _ => .same _⟩

theorem BlockAlike.addCall {conventions : Conventions} {role : String} {b b' : AnthropicBlock}
    (alike : BlockAlike conventions role b b') (call : b.type = "tool_use") (c : Conversion) :
    c.addCall b = c.addCall b' := by
  rw [Conversion.addCall, Conversion.addCall, toolUseCall, toolUseCall, alike.id, alike.name,
    alike.input call]

/-- An adapter that makes the same of blocks that are read alike. -/
def ReadsAlike (adapter : AnthropicAdapter) (conventions : Conventions) : Prop :=
  ∀ {role b b'}, BlockAlike conventions role b b' →
    ∀ c, adapter.block role c b = adapter.block role c b'

theorem sglang_readsAlike : ReadsAlike sglangAdapter sglangConventions := by
  intro role b b' alike c
  dsimp only [sglangAdapter]
  unfold sglangBlock anthropicImageToPart
  rw [← alike.type, ← alike.text, ← alike.id, ← alike.toolUseID, ← alike.source]
  split_ifs with text some_ image call result
  · rfl
  · rfl
  · rfl
  · exact alike.addCall call c
  · rw [sglangToolResultContent_alike (alike.content result).parsed]
  · rw [sglangToolResultContent_alike (alike.content result).parsed]
  · rfl

theorem vllmUserToolResult_alike {b b' : AnthropicBlock} (toolUseID : b.toolUseID = b'.toolUseID)
    (content : ContentAlike false b.content b'.content) :
    vllmUserToolResult b = vllmUserToolResult b' := by
  unfold vllmUserToolResult
  rw [toolUseID, vllmSplitToolResultContent_alike content]

theorem vllm_readsAlike : ReadsAlike vllmAdapter vllmConventions := by
  intro role b b' alike c
  dsimp only [vllmAdapter]
  unfold vllmBlock anthropicImageToPart
  rw [← alike.type, ← alike.text, ← alike.thinking, ← alike.source]
  split_ifs with text some_ image thinking call result user
  · rfl
  · rfl
  · rfl
  · rfl
  · exact alike.addCall call c
  · rw [vllmUserToolResult_alike alike.toolUseID (alike.content result).parsed]
  · have content := alike.content result
    rw [decide_eq_true user, Bool.and_true] at content
    rw [anthropicContentToStr_alike content]
  · rfl

theorem inAnthropicBlock (edit : AddsNull j j') :
    decodeAnthropicBlock {} j = decodeAnthropicBlock {} j' ∨
      Touches "source" j j' ∨ Touches "input" j j' ∨ Touches "content" j j' := by
  have each : ∀ f ∈ anthropicBlockFields, f.name ∈ ["source", "input", "content"] ∨
      Neutral {} f ∧ (f.name ∈ ([] : List String) ∨ Ignores f.decode (f.get {})) := by
    simp only [anthropicBlockFields, List.forall_mem_cons]
    exact ⟨.inr ⟨rfl, .inr (ignores_string _)⟩, .inr ⟨rfl, .inr (ignores_string _)⟩,
      .inr ⟨rfl, .inr (ignores_string _)⟩, .inl (.head _), .inr ⟨rfl, .inr (ignores_string _)⟩,
      .inr ⟨rfl, .inr (ignores_string _)⟩, .inr ⟨rfl, .inr (ignores_string _)⟩,
      .inl (.tail _ (.head _)), .inl (.tail _ (.tail _ (.head _))), nofun⟩
  simpa [decodeAnthropicBlock] using
    edit.inFields lawful_anthropicBlockFields ["source", "input", "content"] [] each

theorem type_anthropicBlock {b : AnthropicBlock} (decodes : decodeAnthropicBlock {} j = some b) :
    b.type = stringOf "type" j :=
  decodeStruct_string lawful_anthropicBlockFields (.head _) rfl decodes

/-- A null in a block does not show, or is one of those that do. -/
theorem rel_block (conventions : Conventions) (role : String) (edit : AddsNull j j') :
    Option.Rel (fun b b' => BlockAlike conventions role b b' ∨ BlockShows conventions role j j')
      (decodeAnthropicBlock {} j) (decodeAnthropicBlock {} j') := by
  rcases inAnthropicBlock edit with same | source | input | content
  · exact rel_of_eq (fun b => Or.inl (.refl conventions role b)) same
  · refine rel_mono ?_ (rel_raw lawful_anthropicBlockFields
      (.tail _ (.tail _ (.tail _ (.head _)))) rfl source)
    rintro _ _ ⟨b, x, x', rfl, rfl, edit⟩
    exact Or.inl ⟨rfl, rfl, rfl, rfl, rfl, rfl, sameURL_edit edit, fun _ => rfl, fun _ => .same _⟩
  · refine rel_of_some ?_ (rel_raw lawful_anthropicBlockFields
      (.tail _ (.tail _ (.tail _ (.tail _ (.tail _ (.tail _ (.tail _ (.head _)))))))) rfl input)
    rintro _ _ decodes ⟨b, x, x', rfl, rfl, -⟩
    by_cases call : b.type = "tool_use"
    · exact Or.inr (.input ((type_anthropicBlock decodes).symm.trans call) input)
    · exact Or.inl ⟨rfl, rfl, rfl, rfl, rfl, rfl, fun _ => rfl, fun use => absurd use call,
        fun _ => .same _⟩
  · have inFields : StructField.of "content" decodeRaw AnthropicBlock.content
        (fun s x => { s with content := x }) ∈ anthropicBlockFields := by
      simp [anthropicBlockFields]
    rcases content with nulls | inside
    · refine rel_mono ?_ (rel_nulls lawful_anthropicBlockFields inFields rfl nulls)
      rintro _ _ ⟨b, _, _, rfl, rfl, rfl, rfl⟩
      exact Or.inl ⟨rfl, rfl, rfl, rfl, rfl, rfl, fun _ => rfl, fun _ => rfl, fun _ => .null⟩
    · refine rel_of_some ?_ (rel_inMember (S := ContentAlike false) lawful_anthropicBlockFields
        inFields {} (fun _ _ inner => .some (.inside rfl inner)) inside)
      rintro _ _ decodes ⟨b, x, x', rfl, rfl, alike⟩
      by_cases shown : b.type = "tool_result" ∧
          (conventions.inlinesJson && decide (role ≠ "user")) = true
      · obtain ⟨result, json⟩ := shown
        rw [Bool.and_eq_true, decide_eq_true_eq] at json
        exact Or.inr (.inlined ((type_anthropicBlock decodes).symm.trans result) json.2 json.1
          inside)
      · refine Or.inl ⟨rfl, rfl, rfl, rfl, rfl, rfl, fun _ => rfl, fun _ => rfl, fun result => ?_⟩
        rw [Bool.eq_false_iff.mpr fun json => shown ⟨result, json⟩]
        exact alike

/-! ### Messages -/

section Messages

variable {adapter : AnthropicAdapter} {conventions : Conventions}

/-- Messages that are converted alike. -/
def MessageAlike (adapter : AnthropicAdapter) (m m' : AnthropicMessage) : Prop :=
  ∀ n, adapter.message n m = adapter.message n m'

/-- Messages with as many calls that are not. -/
structure MessageDiffers (adapter : AnthropicAdapter) (m m' : AnthropicMessage) : Prop where
  messages : ∀ n, (adapter.message n m).1 ≠ (adapter.message n m').1
  counter : ∀ n, (adapter.message n m).2 = (adapter.message n m').2

theorem message_of_noText {m : AnthropicMessage} {v : Json} (content : m.content = some v)
    (noText : decodeString "" v = none) (n : Nat) :
    adapter.message n m =
      ((decodeSlice decodeAnthropicBlock {} [] v).map fun blocks =>
        let c := blocks.foldl (adapter.block m.role) { counter := n }
        (adapter.messages m.role c, c.counter)).getD ([], n) := by
  rw [AnthropicAdapter.message, content]
  dsimp only [unmarshal, Option.bind_some]
  rw [noText]
  cases decodeSlice decodeAnthropicBlock {} [] v <;> rfl

theorem rel_blocks (conventions : Conventions) (role : String) (front back : List Json)
    {w w' : Json} (edit : AddsNull w w') :
    Option.Rel (Differ fun b b' => BlockAlike conventions role b b' ∨
        BlockShows conventions role w w')
      (decodeSlice decodeAnthropicBlock {} [] (.array (front ++ w :: back)))
      (decodeSlice decodeAnthropicBlock {} [] (.array (front ++ w' :: back))) :=
  rel_element front back (rel_block conventions role edit)

/-- Messages that differ in their content. -/
theorem rel_content {v v' : Json} {rest : Members} (has : HasMember "content" v j rest)
    (has' : HasMember "content" v' j' rest) :
    Option.Rel (fun m m' => m = { role := stringOf "role" j, content := some v } ∧
        m' = { role := stringOf "role" j, content := some v' })
      (decodeAnthropicMessage {} j) (decodeAnthropicMessage {} j') := by
  refine rel_of_some ?_ (rel_raw_at lawful_anthropicMessageFields (.tail _ (.head _)) {} has has')
  intro m m' decodes differs
  have role : m.role = stringOf "role" j :=
    decodeStruct_string lawful_anthropicMessageFields (.head _) rfl decodes
  obtain ⟨m, _, _, rfl, rfl, rfl, rfl⟩ := differs
  rw [← role]
  exact ⟨rfl, rfl⟩

theorem inAnthropicMessage (edit : AddsNull j j') :
    decodeAnthropicMessage {} j = decodeAnthropicMessage {} j' ∨ Touches "content" j j' := by
  have each : ∀ f ∈ anthropicMessageFields, f.name ∈ ["content"] ∨
      Neutral {} f ∧ (f.name ∈ ([] : List String) ∨ Ignores f.decode (f.get {})) := by
    simp only [anthropicMessageFields, List.forall_mem_cons]
    exact ⟨.inr ⟨rfl, .inr (ignores_string _)⟩, .inl (.head _), nofun⟩
  simpa [decodeAnthropicMessage] using
    edit.inFields lawful_anthropicMessageFields ["content"] [] each

/-- A null in a message does not show, or is one of those that do. -/
theorem rel_message (reads : ReadsAlike adapter conventions) (edit : AddsNull j j') :
    Option.Rel (fun m m' => MessageAlike adapter m m' ∨ MessageShows conventions j j')
      (decodeAnthropicMessage {} j) (decodeAnthropicMessage {} j') := by
  rcases inAnthropicMessage edit with same | nulls | ⟨v, v', rest, has, has', inner⟩
  · exact rel_of_eq (fun _ => Or.inl fun _ => rfl) same
  · exact rel_mono (fun _ _ _ => Or.inr (.content nulls)) (rel_nulls
      lawful_anthropicMessageFields (.tail _ (.head _)) rfl nulls)
  · refine rel_mono ?_ (rel_content has has')
    rintro _ _ ⟨rfl, rfl⟩
    obtain ⟨noText, noText'⟩ := decodeString_of_addsNull inner ""
    rcases inner.inSlice decodeAnthropicBlock {} with ⟨none_, none_'⟩ | inside
    · refine Or.inl fun n => ?_
      rw [message_of_noText rfl noText, message_of_noText rfl noText', none_, none_']
    · obtain ⟨front, w, w', back, rfl, rfl, element⟩ := inside
      have related := rel_blocks conventions (stringOf "role" j) front back element
      by_cases shown : BlockShows conventions (stringOf "role" j) w w' ∧
          (decodeSlice decodeAnthropicBlock {} [] (.array (front ++ w :: back))).isSome
      · obtain ⟨shown, some_⟩ := shown
        obtain ⟨blocks, decoded⟩ := Option.isSome_iff_exists.mp some_
        exact Or.inr (.block ⟨_, _, rest, has, has', front, w, w', back, rfl, rfl,
          isSome_of_decodeSlice decoded, shown⟩)
      · refine Or.inl fun n => ?_
        rw [message_of_noText rfl noText, message_of_noText rfl noText']
        generalize decodeSlice decodeAnthropicBlock {} [] (.array (front ++ w :: back)) = o,
          decodeSlice decodeAnthropicBlock {} [] (.array (front ++ w' :: back)) = o'
          at related shown ⊢
        cases related with
        | none => rfl
        | some differ =>
            obtain ⟨bs, b, b', cs, rfl, rfl, alike | shows_⟩ := differ
            · simp only [Option.map_some, Option.getD_some, List.foldl_append, List.foldl_cons,
                reads alike]
            · exact absurd ⟨shows_, rfl⟩ shown

/-- Calls show the input of a tool use. -/
theorem toolUseCalls_ne (n : Nat) (front back : List AnthropicBlock) {b b' : AnthropicBlock}
    (input : jsonString b.input ≠ jsonString b'.input) :
    toolUseCalls n (front ++ b :: back) ≠ toolUseCalls n (front ++ b' :: back) := by
  intro same
  rw [toolUseCalls_append, toolUseCalls_append] at same
  have heads := List.append_cancel_left same
  rw [toolUseCalls, toolUseCalls, List.mapIdx_cons, List.mapIdx_cons] at heads
  exact input (congrArg (fun tc => tc.function.arguments) (List.cons.inj heads).1)

theorem jsonString_ne {raw raw' : Option Json} (edit : RawEdit raw raw') :
    jsonString raw ≠ jsonString raw' := by
  cases edit with
  | null => decide
  | inside edit => exact edit.compact_ne

theorem toolUses_append_cons (front back : List AnthropicBlock) {b : AnthropicBlock}
    (call : b.type = "tool_use") :
    toolUses (front ++ b :: back) = toolUses front ++ b :: toolUses back := by
  simp [toolUses, call]

/-- Texts that are inlined as JSON show a null inside. -/
def ShowsJson (adapter : AnthropicAdapter) (conventions : Conventions) : Prop :=
  conventions.inlinesJson = true → ∀ {role : String} {b b' : AnthropicBlock} {v v' : Json},
    role ≠ "user" → b.type = "tool_result" → b'.type = "tool_result" →
      b.content = some v → b'.content = some v' → AddsNull v v' →
        ∀ (bs cs : List AnthropicBlock) (c : Conversion),
          adapter.messages role ((bs ++ b :: cs).foldl (adapter.block role) c) ≠
              adapter.messages role ((bs ++ b' :: cs).foldl (adapter.block role) c) ∧
            ((bs ++ b :: cs).foldl (adapter.block role) c).counter =
              ((bs ++ b' :: cs).foldl (adapter.block role) c).counter

theorem sglang_showsJson : ShowsJson sglangAdapter sglangConventions := nofun

/-- Parts that are there already stay in front. -/
theorem vllmBlock_parts (role : String) (parts : List Value) (c : Conversion)
    (b : AnthropicBlock) :
    vllmBlock role { c with contentParts := parts ++ c.contentParts } b =
      { vllmBlock role c b with contentParts := parts ++ (vllmBlock role c b).contentParts } := by
  unfold vllmBlock
  split_ifs with text some_ image thinking call result user
  · simp [Conversion.addPart]
  · rfl
  · cases anthropicImageToPart b.source vllmImageDefaultMediaType with
    | none => rfl
    | some part => simp [Conversion.addPart]
  · rfl
  · rfl
  · rfl
  · simp [Conversion.addPart]
  · rfl

theorem foldl_vllmBlock_parts (role : String) (parts : List Value) (bs : List AnthropicBlock)
    (c : Conversion) :
    bs.foldl (vllmBlock role) { c with contentParts := parts ++ c.contentParts } =
      { bs.foldl (vllmBlock role) c with
        contentParts := parts ++ (bs.foldl (vllmBlock role) c).contentParts } := by
  induction bs generalizing c with
  | nil => rfl
  | cons b bs ih => rw [List.foldl_cons, List.foldl_cons, vllmBlock_parts, ih]

theorem foldl_vllmBlock_addPart (role : String) (bs : List AnthropicBlock) (c : Conversion)
    (part : Value) :
    bs.foldl (vllmBlock role) (c.addPart part) =
      let d := bs.foldl (vllmBlock role) { c with contentParts := [] }
      { d with contentParts := c.contentParts ++ part :: d.contentParts } := by
  have empty : c.addPart part =
      { { c with contentParts := [] } with
        contentParts := (c.contentParts ++ [part]) ++ [] } := by
    rw [List.append_nil]
    rfl
  rw [empty, foldl_vllmBlock_parts role (c.contentParts ++ [part]) bs { c with contentParts := [] }]
  simp

theorem vllm_showsJson : ShowsJson vllmAdapter vllmConventions := by
  intro _ role b b' v v' other type type' content content' edit bs cs c
  obtain ⟨noText, noText'⟩ := decodeString_of_addsNull edit ""
  have user (c : Conversion) : vllmAdapter.messages role c =
      { role, content := collapseContentParts c.contentParts, toolCalls := c.toolCalls,
        reasoning := c.reasoning } :: c.split := by
    dsimp only [vllmAdapter, vllmMessages]
    split_ifs
    · rfl
    · rfl
  have inlined {b : AnthropicBlock} {v : Json} (type : b.type = "tool_result")
      (content : b.content = some v) (noText : decodeString "" v = none) (c : Conversion) :
      vllmAdapter.block role c b =
        c.addPart (textPart (.string ("Tool result: " ++ v.compact))) := by
    have text : anthropicContentToStr (some v) = v.compact := by
      rw [anthropicContentToStr, noText]
      rfl
    dsimp only [vllmAdapter]
    rw [vllmBlock, type, content, text]
    simp [other]
  rw [List.foldl_append, List.foldl_append, List.foldl_cons, List.foldl_cons,
    inlined type content noText, inlined type' content' noText']
  generalize bs.foldl (vllmAdapter.block role) c = d
  have after (part : Value) : cs.foldl (vllmAdapter.block role) (d.addPart part) = _ :=
    foldl_vllmBlock_addPart role cs d part
  have texts : "Tool result: " ++ v.compact ≠ "Tool result: " ++ v'.compact := fun same =>
    edit.compact_ne (String.append_right_inj "Tool result: " |>.mp same)
  rw [after, after, user, user]
  refine ⟨fun same => ?_, rfl⟩
  have contents := congrArg ChatMessage.content (List.cons.inj same).1
  refine collapse_ne ?_ ?_ _ _ contents
  · intro parts
    exact texts (by simpa [textPart] using parts)
  · exact fun alone => texts (Value.string.inj alone)

/-- Blocks that are not read alike. -/
inductive BlockDiffers (conventions : Conventions) (role : String) (b b' : AnthropicBlock) :
    Prop where
  | input (type : b.type = "tool_use") (type' : b'.type = "tool_use")
      (input : jsonString b.input ≠ jsonString b'.input)
  | inlined (type : b.type = "tool_result") (type' : b'.type = "tool_result")
      (other : role ≠ "user") (whole : conventions.inlinesJson = true) {v v' : Json}
      (content : b.content = some v) (content' : b'.content = some v') (edit : AddsNull v v')

theorem BlockShows.differ {role : String} (shows_ : BlockShows conventions role j j') :
    Option.Rel (BlockDiffers conventions role) (decodeAnthropicBlock {} j)
      (decodeAnthropicBlock {} j') := by
  cases shows_ with
  | input type edit =>
      refine rel_of_some ?_ (rel_raw lawful_anthropicBlockFields
        (.tail _ (.tail _ (.tail _ (.tail _ (.tail _ (.tail _ (.tail _ (.head _)))))))) rfl edit)
      intro b b' decodes differ
      have call := (type_anthropicBlock decodes).trans type
      obtain ⟨b, x, x', rfl, rfl, edit⟩ := differ
      exact .input call call (jsonString_ne edit)
  | inlined type other whole edit =>
      have inFields : StructField.of "content" decodeRaw AnthropicBlock.content
          (fun s x => { s with content := x }) ∈ anthropicBlockFields := by
        simp [anthropicBlockFields]
      refine rel_of_some ?_ (rel_inMember (S := fun x x' => ∃ v v', x = some v ∧ x' = some v' ∧
        AddsNull v v') lawful_anthropicBlockFields inFields {}
        (fun v v' inner => .some ⟨v, v', rfl, rfl, inner⟩) edit)
      intro b b' decodes differ
      have result := (type_anthropicBlock decodes).trans type
      obtain ⟨b, _, _, rfl, rfl, v, v', rfl, rfl, edit⟩ := differ
      exact .inlined result result other whole rfl rfl edit

theorem messageDiffers_of_blocks (keeps : KeepsCalls adapter)
    (json : ShowsJson adapter conventions) {role : String} {js js' : List Json}
    {bs bs' : List AnthropicBlock}
    (decodes : decodeSlice decodeAnthropicBlock {} [] (.array js) = some bs)
    (decodes' : decodeSlice decodeAnthropicBlock {} [] (.array js') = some bs')
    (differ : Differ (BlockDiffers conventions role) bs bs') :
    MessageDiffers adapter { role, content := some (.array js) }
      { role, content := some (.array js') } := by
  have blocks : AnthropicMessage.blocks { role, content := some (.array js) } = bs := by
    rw [AnthropicMessage.blocks, unmarshal, Option.bind_some, decodes, Option.getD_some]
  have blocks' : AnthropicMessage.blocks { role, content := some (.array js') } = bs' := by
    rw [AnthropicMessage.blocks, unmarshal, Option.bind_some, decodes', Option.getD_some]
  obtain ⟨front, b, b', back, rfl, rfl, differ⟩ := differ
  cases differ with
  | input type type' input =>
      refine ⟨fun n same => ?_, fun n => ?_⟩
      · have toolCalls := congrArg calls same
        rw [(keeps.message n _).1, (keeps.message n _).1, blocks, blocks',
          toolUses_append_cons front back type, toolUses_append_cons front back type'] at toolCalls
        exact toolUseCalls_ne n (toolUses front) (toolUses back) input toolCalls
      · rw [(keeps.message n _).2, (keeps.message n _).2, blocks, blocks',
          toolUses_append_cons front back type, toolUses_append_cons front back type',
          List.length_append, List.length_append, List.length_cons, List.length_cons]
  | inlined type type' other whole content content' edit =>
      have shows_ (n : Nat) := json whole other type type' content content' edit front back
        { counter := n }
      refine ⟨fun n => ?_, fun n => ?_⟩
      · rw [message_of_noText rfl rfl, message_of_noText rfl rfl, decodes, decodes']
        exact (shows_ n).1
      · rw [message_of_noText rfl rfl, message_of_noText rfl rfl, decodes, decodes']
        exact (shows_ n).2

theorem MessageShows.differ (keeps : KeepsCalls adapter) (json : ShowsJson adapter conventions)
    (shows_ : MessageShows conventions j j') :
    Option.Rel (MessageDiffers adapter) (decodeAnthropicMessage {} j)
      (decodeAnthropicMessage {} j') := by
  cases shows_ with
  | content nulls =>
      refine rel_mono ?_ (rel_nulls lawful_anthropicMessageFields (.tail _ (.head _)) rfl nulls)
      rintro _ _ ⟨m, _, _, rfl, rfl, rfl, rfl⟩
      exact ⟨fun _ => nofun, fun _ => rfl⟩
  | block edit =>
      obtain ⟨_, _, rest, has, has', front, w, w', back, rfl, rfl, all, shows_⟩ := edit
      refine rel_mono ?_ (rel_content has has')
      rintro _ _ ⟨rfl, rfl⟩
      have related : Option.Rel (Differ (BlockDiffers conventions (stringOf "role" j)))
          (decodeSlice decodeAnthropicBlock {} [] (.array (front ++ w :: back)))
          (decodeSlice decodeAnthropicBlock {} [] (.array (front ++ w' :: back))) :=
        rel_element front back shows_.differ
      obtain ⟨bs, decoded⟩ := decodeSlice_of_isSome all
      cases decoded' : decodeSlice decodeAnthropicBlock {} [] (.array (front ++ w' :: back)) with
      | none =>
          rw [decoded, decoded'] at related
          cases related
      | some bs' =>
          rw [decoded, decoded'] at related
          cases related with
          | some differ => exact messageDiffers_of_blocks keeps json decoded decoded' differ

end Messages

end KvIndexer.Normalize
