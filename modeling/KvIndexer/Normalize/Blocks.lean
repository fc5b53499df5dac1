import KvIndexer.Normalize.Anthropic

/-!
What the two Anthropic adapters make of a content block and of a message.

`BlockStep` is the switch over the type of a block, `Assembled` the messages made of what it
collected. They are stated once for both adapters, which differ in their `Conventions`.
-/

namespace KvIndexer.Normalize

open Config Json

/-- Where the adapters differ. -/
structure Conventions where
  defaultMT : String
  /-- the messages of a user's tool result -/
  userResult : AnthropicBlock → List ChatMessage
  /-- the text that another's tool result is inlined as -/
  inlined : AnthropicBlock → String
  keepsThinking : Bool
  /-- that text is the content as JSON -/
  inlinesJson : Bool

def sglangUserResult (b : AnthropicBlock) : List ChatMessage :=
  [{ role := "tool"
     toolCallID := firstNonEmpty b.toolUseID b.id
     content := (sglangToolResultContent b.content).1 }]

def sglangConventions : Conventions where
  defaultMT := sglangImageDefaultMediaType
  userResult := sglangUserResult
  inlined b := (sglangToolResultContent b.content).2
  keepsThinking := false
  inlinesJson := false

def vllmConventions : Conventions where
  defaultMT := vllmImageDefaultMediaType
  userResult := vllmUserToolResult
  inlined b := anthropicContentToStr b.content
  keepsThinking := true
  inlinesJson := true

/-- The types of the blocks that an adapter does not skip. -/
def Conventions.handled (conventions : Conventions) : List String :=
  ["text", "image", "tool_use", "tool_result"] ++
    if conventions.keepsThinking then ["thinking"] else []

/-- What becomes of a conversion by one block. -/
inductive BlockStep (conventions : Conventions) (role : String) (c : Conversion)
    (b : AnthropicBlock) : Conversion → Prop where
  | text (type : b.type = "text") (some_ : b.text ≠ "") :
      BlockStep conventions role c b (c.addPart (textPart (.string b.text)))
  | emptyText (type : b.type = "text") (empty : b.text = "") : BlockStep conventions role c b c
  | image (type : b.type = "image") (url : String)
      (found : anthropicImageURL b.source conventions.defaultMT = some url) :
      BlockStep conventions role c b (c.addPart (imagePart url))
  | noImage (type : b.type = "image")
      (none_ : anthropicImageURL b.source conventions.defaultMT = none) :
      BlockStep conventions role c b c
  | thinking (type : b.type = "thinking") (keeps : conventions.keepsThinking = true) :
      BlockStep conventions role c b { c with reasoning := c.reasoning ++ b.thinking }
  | call (type : b.type = "tool_use") : BlockStep conventions role c b (c.addCall b)
  | userResult (type : b.type = "tool_result") (user : role = "user") :
      BlockStep conventions role c b (c.addSplit (conventions.userResult b))
  | inlined (type : b.type = "tool_result") (other : role ≠ "user") :
      BlockStep conventions role c b
        (c.addPart (textPart (.string ("Tool result: " ++ conventions.inlined b))))
  | skipped (type : b.type ∉ conventions.handled) : BlockStep conventions role c b c

theorem sglangBlock_step (role : String) (c : Conversion) (b : AnthropicBlock) :
    BlockStep sglangConventions role c b (sglangAdapter.block role c b) := by
  dsimp only [sglangAdapter]
  unfold sglangBlock
  split_ifs with text some_ image call result user
  · exact .text text some_
  · exact .emptyText text (not_not.mp some_)
  · rw [anthropicImageToPart]
    cases found : anthropicImageURL b.source sglangImageDefaultMediaType with
    | some url => exact .image image url found
    | none => exact .noImage image found
  · exact .call call
  · exact .userResult result user
  · exact .inlined result user
  · exact .skipped (by simp [Conventions.handled, sglangConventions, *])

theorem vllmBlock_step (role : String) (c : Conversion) (b : AnthropicBlock) :
    BlockStep vllmConventions role c b (vllmAdapter.block role c b) := by
  dsimp only [vllmAdapter]
  unfold vllmBlock
  split_ifs with text some_ image thinking call result user
  · exact .text text some_
  · exact .emptyText text (not_not.mp some_)
  · rw [anthropicImageToPart]
    cases found : anthropicImageURL b.source vllmImageDefaultMediaType with
    | some url => exact .image image url found
    | none => exact .noImage image found
  · exact .thinking thinking rfl
  · exact .call call
  · exact .userResult result user
  · exact .inlined result user
  · exact .skipped (by simp [Conventions.handled, vllmConventions, *])

/-- The content message of a conversion. -/
structure ContentMessage (conventions : Conventions) (role : String) (c : Conversion)
    (m : ChatMessage) : Prop where
  role : m.role = role
  content : m.content = collapseContentParts c.contentParts
  toolCalls : m.toolCalls = c.toolCalls
  reasoning : conventions.keepsThinking = true → m.reasoning = c.reasoning

/-- The messages made of a conversion: those split out and the content message, which is left
out only if nothing was collected for it. -/
inductive Assembled (conventions : Conventions) (role : String) (c : Conversion) :
    List ChatMessage → Prop where
  | before {m : ChatMessage} (content : ContentMessage conventions role c m) :
      Assembled conventions role c (m :: c.split)
  | after {m : ChatMessage} (content : ContentMessage conventions role c m) :
      Assembled conventions role c (c.split ++ [m])
  | nothing (noContent : isNil (collapseContentParts c.contentParts) = true)
      (noCalls : c.toolCalls = [])
      (noReasoning : conventions.keepsThinking = true → c.reasoning = "") :
      Assembled conventions role c c.split

theorem sglangMessages_assembled (role : String) (c : Conversion) :
    Assembled sglangConventions role c (sglangAdapter.messages role c) := by
  dsimp only [sglangAdapter, sglangMessages]
  split_ifs with nothing
  · exact .nothing nothing.1 nothing.2 nofun
  · exact .after ⟨rfl, rfl, rfl, nofun⟩

theorem vllmMessages_assembled (role : String) (c : Conversion) :
    Assembled vllmConventions role c (vllmAdapter.messages role c) := by
  dsimp only [vllmAdapter, vllmMessages]
  split_ifs with something user
  · exact .before ⟨rfl, rfl, rfl, fun _ => rfl⟩
  · exact .before ⟨rfl, rfl, rfl, fun _ => rfl⟩
  · simp only [not_or, not_not] at something
    exact .nothing something.1 something.2.1 fun _ => something.2.2

/-- An adapter that converts block by block. -/
structure Follows (adapter : AnthropicAdapter) (conventions : Conventions) : Prop where
  block : ∀ role c b, BlockStep conventions role c b (adapter.block role c b)
  messages : ∀ role c, Assembled conventions role c (adapter.messages role c)

theorem sglang_follows : Follows sglangAdapter sglangConventions :=
  ⟨sglangBlock_step, sglangMessages_assembled⟩

theorem vllm_follows : Follows vllmAdapter vllmConventions :=
  ⟨vllmBlock_step, vllmMessages_assembled⟩

end KvIndexer.Normalize
