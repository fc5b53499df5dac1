import KvIndexer.Normalize.NullBlocks

/-!
Fields of an Anthropic request that are null instead of absent, and the nulls of all protocols.

Beside those of its messages a request shows a null for or inside the schema of a tool, and on
vLLM one for the system text.
-/

namespace KvIndexer.Normalize

open Config Json

variable {j j' : Json}

/-- A null in an Anthropic request that is accepted. -/
inductive AnthropicShows (adapter : AnthropicAdapter) (conventions : Conventions) (j j' : Json) :
    Prop where
  | system {env : AnthropicEnvelope} (parses : parseAnthropicEnvelope j = .ok env)
      (edit : Nulls "system" j j') (text : (adapter.system (some .null)).isSome = true)
  | message {env : AnthropicEnvelope} (parses : parseAnthropicEnvelope j = .ok env)
      (edit : InMember "messages" (InElement (MessageShows conventions)) j j')
  | schema {env : AnthropicEnvelope} (parses : parseAnthropicEnvelope j = .ok env)
      (edit : InMember "tools" (InElement (Touches "input_schema")) j j')
      (used : anthropicToolChoiceNone env.toolChoice = false)

theorem lawful_anthropicToolFields : LawfulFields anthropicToolFields := by
  simp +decide [anthropicToolFields]

theorem lawful_systemBlockFields : LawfulFields systemBlockFields := by
  simp +decide [systemBlockFields]

theorem lawful_toolChoiceFields : LawfulFields toolChoiceFields := by
  simp +decide [toolChoiceFields]

section Requests

variable {adapter : AnthropicAdapter} {conventions : Conventions}

/-- What `FromAnthropic` makes of an envelope. -/
def AnthropicAdapter.requestOf (adapter : AnthropicAdapter) (env : AnthropicEnvelope) :
    Except String RouteRequest :=
  if env.model = "" then .error "missing model"
  else .ok (buildAnthropicRouteRequest env (adapter.convert env))

theorem fromAnthropic_eq :
    adapter.fromAnthropic j =
      (decodeAnthropicEnvelope {} j).elim (.error "parse anthropic request") adapter.requestOf := by
  unfold AnthropicAdapter.fromAnthropic parseAnthropicEnvelope
  cases decodeAnthropicEnvelope {} j with
  | none => rfl
  | some env =>
      rw [Option.elim_some, AnthropicAdapter.requestOf]
      by_cases nameless : env.model = ""
      · simp only [nameless, if_true]
      · simp only [nameless, if_false]

/-- What is made of the tools. -/
def AnthropicEnvelope.toolsOf (env : AnthropicEnvelope) : List Tool :=
  if anthropicToolChoiceNone env.toolChoice then [] else convertAnthropicTools env.tools

/-- Envelopes that are normalized alike. -/
structure EnvelopeAlike (adapter : AnthropicAdapter) (env env' : AnthropicEnvelope) : Prop where
  model : env.model = env'.model
  maxTokens : env.maxTokens = env'.maxTokens
  stream : env.stream = env'.stream
  tools : env.toolsOf = env'.toolsOf
  messages : adapter.convert env = adapter.convert env'

theorem EnvelopeAlike.requestOf {env env' : AnthropicEnvelope}
    (alike : EnvelopeAlike adapter env env') :
    adapter.requestOf env = adapter.requestOf env' := by
  have tools := alike.tools
  unfold AnthropicEnvelope.toolsOf at tools
  unfold AnthropicAdapter.requestOf buildAnthropicRouteRequest
  rw [alike.model, alike.maxTokens, alike.stream, alike.messages, tools]

/-- A request shows its messages and tools. -/
theorem requestOf_eq {env env' : AnthropicEnvelope} (named_ : env.model ≠ "")
    (same : adapter.requestOf env = adapter.requestOf env') :
    adapter.convert env = adapter.convert env' ∧ env.toolsOf = env'.toolsOf := by
  rw [AnthropicAdapter.requestOf, AnthropicAdapter.requestOf, if_neg named_] at same
  split at same
  · cases same
  · have requests := Except.ok.inj same
    exact ⟨congrArg RouteRequest.messages requests, congrArg RouteRequest.tools requests⟩

/-- The messages so far do not matter to those that are added. -/
theorem foldl_appendMessage_eq (progress : Progress) (ms : List AnthropicMessage) :
    ms.foldl adapter.appendMessage progress =
      (progress.1 ++ (ms.foldl adapter.appendMessage ([], progress.2)).1,
        (ms.foldl adapter.appendMessage ([], progress.2)).2) := by
  induction ms generalizing progress with
  | nil => simp
  | cons m ms ih =>
      rw [List.foldl_cons, List.foldl_cons, ih, ih (adapter.appendMessage ([], progress.2) m)]
      simp [AnthropicAdapter.appendMessage]

theorem convert_eq (env : AnthropicEnvelope) :
    adapter.convert env =
      adapter.systemMessages env.system ++
        (env.messages.foldl adapter.appendMessage ([], 0)).1 := by
  rw [AnthropicAdapter.convert, foldl_appendMessage_eq]

theorem convert_alike {env : AnthropicEnvelope} {front back : List AnthropicMessage}
    {m m' : AnthropicMessage} (alike : MessageAlike adapter m m') :
    adapter.convert { env with messages := front ++ m :: back } =
      adapter.convert { env with messages := front ++ m' :: back } := by
  simp only [AnthropicAdapter.convert, List.foldl_append, List.foldl_cons,
    AnthropicAdapter.appendMessage, alike _]

theorem convert_differs {env : AnthropicEnvelope} {front back : List AnthropicMessage}
    {m m' : AnthropicMessage} (differs : MessageDiffers adapter m m') :
    adapter.convert { env with messages := front ++ m :: back } ≠
      adapter.convert { env with messages := front ++ m' :: back } := by
  intro same
  simp only [AnthropicAdapter.convert, List.foldl_append, List.foldl_cons] at same
  rw [foldl_appendMessage_eq, foldl_appendMessage_eq (adapter.appendMessage _ m')] at same
  simp only [AnthropicAdapter.appendMessage, differs.counter] at same
  exact differs.messages _ (List.append_cancel_left (List.append_cancel_right same))

/-- What an adapter makes of nulls. -/
structure ReadsNulls (adapter : AnthropicAdapter) (conventions : Conventions) : Prop where
  calls : KeepsCalls adapter
  alike : ReadsAlike adapter conventions
  json : ShowsJson adapter conventions
  noSystem : adapter.system none = none
  systemBlocks : ∀ {v v'}, AddsNull v v' → adapter.system (some v) = adapter.system (some v')

theorem ignores_systemBlocks : Ignores (decodeSlice decodeSystemBlock {}) [] := by
  refine ignores_slice (ignores_struct lawful_systemBlockFields ?_)
  simp only [systemBlockFields, List.forall_mem_cons]
  exact ⟨⟨rfl, ignores_string _⟩, ⟨rfl, ignores_string _⟩,
      fun _ mem => absurd mem List.not_mem_nil⟩

theorem sglang_readsNulls : ReadsNulls sglangAdapter sglangConventions where
  calls := keepsCalls_sglang
  alike := sglang_readsAlike
  json := sglang_showsJson
  noSystem := rfl
  systemBlocks {v v'} edit := by
    obtain ⟨noText, noText'⟩ := decodeString_of_addsNull edit ""
    dsimp only [sglangAdapter]
    unfold sglangAnthropicSystem unmarshal
    rw [Option.bind_some, Option.bind_some, Option.bind_some, Option.bind_some, noText, noText',
      ignores_systemBlocks v v' edit]

theorem vllm_readsNulls : ReadsNulls vllmAdapter vllmConventions where
  calls := keepsCalls_vllm
  alike := vllm_readsAlike
  json := vllm_showsJson
  noSystem := rfl
  systemBlocks {v v'} edit := by
    obtain ⟨noText, noText'⟩ := decodeString_of_addsNull edit ""
    dsimp only [vllmAdapter]
    unfold vllmAnthropicSystem unmarshal
    rw [Option.bind_some, Option.bind_some, Option.bind_some, Option.bind_some, noText, noText',
      ignores_systemBlocks v v' edit]

theorem parseAnthropicEnvelope_eq_ok {env : AnthropicEnvelope} :
    parseAnthropicEnvelope j = .ok env ↔
      decodeAnthropicEnvelope {} j = some env ∧ env.model ≠ "" := by
  unfold parseAnthropicEnvelope
  cases decodeAnthropicEnvelope {} j with
  | none => simp
  | some env' =>
      by_cases nameless : env'.model = ""
      · simp only [nameless, if_true, reduceCtorEq, Option.some.injEq, false_iff, not_and, not_not]
        rintro rfl
        exact nameless
      · simp only [nameless, if_false, Except.ok.injEq, Option.some.injEq]
        exact ⟨fun same => ⟨same, same ▸ nameless⟩, And.left⟩

theorem requestOf_nameless {env env' : AnthropicEnvelope} (nameless : env.model = "")
    (same : env.model = env'.model) : adapter.requestOf env = adapter.requestOf env' := by
  rw [AnthropicAdapter.requestOf, AnthropicAdapter.requestOf, ← same, if_pos nameless,
    if_pos nameless]

/-- The schemas differ in a null. -/
abbrev SchemaDiffers (t t' : AnthropicTool) : Prop :=
  Sets (fun s x => { s with inputSchema := x }) RawEdit t t'

theorem convertAnthropicTools_ne {tools tools' : List AnthropicTool}
    (differ : Differ SchemaDiffers tools tools') :
    convertAnthropicTools tools ≠ convertAnthropicTools tools' := by
  refine differ.map_ne ?_
  rintro _ _ ⟨t, x, x', rfl, rfl, edit⟩ same
  exact edit.ne (Tool.function.inj same).2.2.1

theorem rel_schema (edit : InMember "tools" (InElement (Touches "input_schema")) j j') :
    Option.Rel (Sets (fun s x => { s with tools := x }) (Differ SchemaDiffers))
      (decodeAnthropicEnvelope {} j) (decodeAnthropicEnvelope {} j') := by
  refine rel_inMember lawful_anthropicEnvelopeFields
    (.tail _ (.tail _ (.tail _ (.head _)))) {} ?_ edit
  exact fun _ _ => rel_inElement fun _ _ touches =>
    rel_raw lawful_anthropicToolFields (.tail _ (.tail _ (.head _))) rfl touches

/-- Envelopes whose messages differ in one. -/
theorem rel_messages {R : Json → Json → Prop} {S : AnthropicMessage → AnthropicMessage → Prop}
    (related : ∀ v v', R v v' →
      Option.Rel S (decodeAnthropicMessage {} v) (decodeAnthropicMessage {} v'))
    (edit : InMember "messages" (InElement R) j j') :
    Option.Rel (Sets (fun s x => { s with messages := x }) (Differ S))
      (decodeAnthropicEnvelope {} j) (decodeAnthropicEnvelope {} j') := by
  have inFields : messagesField ∈ anthropicEnvelopeFields := by simp [anthropicEnvelopeFields]
  exact rel_inMember lawful_anthropicEnvelopeFields inFields {} (fun _ _ => rel_inElement related)
    edit

theorem AnthropicShows.differ (reads : ReadsNulls adapter conventions)
    (shows_ : AnthropicShows adapter conventions j j') :
    adapter.fromAnthropic j ≠ adapter.fromAnthropic j' := by
  have differ {env : AnthropicEnvelope} (parses : parseAnthropicEnvelope j = .ok env)
      (related : Option.Rel (fun env env' => env.model ≠ "" →
          ¬ (adapter.convert env = adapter.convert env' ∧ env.toolsOf = env'.toolsOf))
        (decodeAnthropicEnvelope {} j) (decodeAnthropicEnvelope {} j')) :
      adapter.fromAnthropic j ≠ adapter.fromAnthropic j' := by
    obtain ⟨decodes, named_⟩ := parseAnthropicEnvelope_eq_ok.mp parses
    rw [fromAnthropic_eq, fromAnthropic_eq]
    exact elim_ne (P := fun env => env.model ≠ "")
      (rel_mono (fun _ _ apart named_ same => apart named_ (requestOf_eq named_ same)) related)
      decodes named_
  cases shows_ with
  | system parses nulls text =>
      refine differ parses (rel_mono ?_ (rel_nulls lawful_anthropicEnvelopeFields
        (.tail _ (.head _)) rfl nulls))
      rintro _ _ ⟨env, _, _, rfl, rfl, rfl, rfl⟩ - ⟨same, -⟩
      obtain ⟨sys, some_⟩ := Option.isSome_iff_exists.mp text
      have lengths := congrArg List.length same
      rw [convert_eq, convert_eq { env with system := some .null }] at lengths
      simp only [AnthropicAdapter.systemMessages, reads.noSystem, some_, List.length_append,
        List.length_nil, List.length_singleton] at lengths
      omega
  | message parses edit =>
      refine differ parses (rel_mono ?_ (rel_messages (fun _ _ shows_ =>
        MessageShows.differ reads.calls reads.json shows_) edit))
      rintro _ _ ⟨env, _, _, rfl, rfl, front, m, m', back, rfl, rfl, differs⟩ - ⟨same, -⟩
      exact convert_differs differs same
  | schema parses edit used =>
      obtain ⟨decodes, named_⟩ := parseAnthropicEnvelope_eq_ok.mp parses
      refine differ parses (rel_of_some ?_ (rel_schema edit))
      intro env₁ _ decodes' differ _ same
      obtain rfl := Option.some.inj (decodes.symm.trans decodes')
      obtain ⟨env, tools, tools', rfl, rfl, differ⟩ := differ
      have converted := same.2
      unfold AnthropicEnvelope.toolsOf at converted
      dsimp only at used converted
      rw [used] at converted
      exact convertAnthropicTools_ne differ converted

theorem EnvelopeAlike.refl (env : AnthropicEnvelope) : EnvelopeAlike adapter env env :=
  ⟨rfl, rfl, rfl, rfl, rfl⟩

theorem anthropicToolChoiceNone_edit {raw raw' : Option Json} (edit : RawEdit raw raw') :
    anthropicToolChoiceNone raw = anthropicToolChoiceNone raw' := by
  cases edit with
  | null => rfl
  | @inside v v' edit =>
      have same : decodeToolChoice {} v = decodeToolChoice {} v' := by
        refine ignores_struct lawful_toolChoiceFields ?_ v v' edit
        simp only [toolChoiceFields, List.forall_mem_cons]
        exact ⟨⟨rfl, ignores_string _⟩,
      fun _ mem => absurd mem List.not_mem_nil⟩
      rw [anthropicToolChoiceNone, anthropicToolChoiceNone, unmarshal, unmarshal, Option.bind_some,
        Option.bind_some, same]

theorem inAnthropicTool (edit : AddsNull j j') :
    decodeAnthropicTool {} j = decodeAnthropicTool {} j' ∨ Touches "input_schema" j j' := by
  have each : ∀ f ∈ anthropicToolFields, f.name ∈ ["input_schema"] ∨
      Neutral {} f ∧ (f.name ∈ ([] : List String) ∨ Ignores f.decode (f.get {})) := by
    simp only [anthropicToolFields, List.forall_mem_cons]
    exact ⟨.inr ⟨rfl, .inr (ignores_string _)⟩, .inr ⟨rfl, .inr (ignores_string _)⟩,
      .inl (.head _), .inr ⟨rfl, .inr (ignores_pointer (ignores_bool _))⟩,
      fun _ mem => absurd mem List.not_mem_nil⟩
  simpa [decodeAnthropicTool] using
    edit.inFields lawful_anthropicToolFields ["input_schema"] [] each

theorem inAnthropicEnvelope (edit : AddsNull j j') :
    decodeAnthropicEnvelope {} j = decodeAnthropicEnvelope {} j' ∨
      (Touches "system" j j' ∨ Touches "tool_choice" j j') ∨
        InMember "messages" AddsNull j j' ∨ InMember "tools" AddsNull j j' := by
  have each : ∀ f ∈ anthropicEnvelopeFields, f.name ∈ ["system", "tool_choice"] ∨
      Neutral {} f ∧ (f.name ∈ ["messages", "tools"] ∨ Ignores f.decode (f.get {})) := by
    simp only [anthropicEnvelopeFields, List.forall_mem_cons]
    exact ⟨.inr ⟨rfl, .inr (ignores_string _)⟩, .inl (.head _), .inr ⟨rfl, .inl (.head _)⟩,
      .inr ⟨rfl, .inl (.tail _ (.head _))⟩, .inl (.tail _ (.head _)),
      .inr ⟨rfl, .inr (ignores_int _)⟩, .inr ⟨rfl, .inr (ignores_bool _)⟩,
      fun _ mem => absurd mem List.not_mem_nil⟩
  simpa [decodeAnthropicEnvelope] using edit.inFields lawful_anthropicEnvelopeFields
    ["system", "tool_choice"] ["messages", "tools"] each

/-- Envelopes that are normalized alike, or whose difference shows if they are accepted. -/
def AlikeOrShows (adapter : AnthropicAdapter) (conventions : Conventions) (j j' : Json)
    (env env' : AnthropicEnvelope) : Prop :=
  EnvelopeAlike adapter env env' ∨
    env.model = env'.model ∧ (env.model ≠ "" → AnthropicShows adapter conventions j j')

theorem rel_system (reads : ReadsNulls adapter conventions) (edit : Touches "system" j j') :
    Option.Rel (AlikeOrShows adapter conventions j j') (decodeAnthropicEnvelope {} j)
      (decodeAnthropicEnvelope {} j') := by
  rcases edit with nulls | inside
  · refine rel_of_some ?_ (rel_nulls lawful_anthropicEnvelopeFields (.tail _ (.head _)) rfl nulls)
    rintro _ _ decodes ⟨env, _, _, rfl, rfl, rfl, rfl⟩
    cases text : adapter.system (some .null) with
    | some sys =>
        refine Or.inr ⟨rfl, fun named_ => ?_⟩
        exact .system (parseAnthropicEnvelope_eq_ok.mpr ⟨decodes, named_⟩) nulls
          (Option.isSome_iff_exists.mpr ⟨sys, text⟩)
    | none =>
        refine Or.inl ⟨rfl, rfl, rfl, rfl, ?_⟩
        rw [convert_eq, convert_eq { env with system := some .null }]
        simp only [AnthropicAdapter.systemMessages, reads.noSystem, text]
  · refine rel_mono ?_ (rel_inMember (S := fun x x' => adapter.system x = adapter.system x')
      lawful_anthropicEnvelopeFields (.tail _ (.head _)) {}
      (fun _ _ inner => .some (reads.systemBlocks inner)) inside)
    rintro _ _ ⟨env, x, x', rfl, rfl, same⟩
    refine Or.inl ⟨rfl, rfl, rfl, rfl, ?_⟩
    rw [convert_eq, convert_eq { env with system := x' }]
    simp only [AnthropicAdapter.systemMessages, same]

theorem rel_toolChoice (edit : Touches "tool_choice" j j') :
    Option.Rel (AlikeOrShows adapter conventions j j') (decodeAnthropicEnvelope {} j)
      (decodeAnthropicEnvelope {} j') := by
  refine rel_mono ?_ (rel_raw lawful_anthropicEnvelopeFields
    (.tail _ (.tail _ (.tail _ (.tail _ (.head _))))) rfl edit)
  rintro _ _ ⟨env, x, x', rfl, rfl, edit⟩
  refine Or.inl ⟨rfl, rfl, rfl, ?_, rfl⟩
  unfold AnthropicEnvelope.toolsOf
  dsimp only
  rw [anthropicToolChoiceNone_edit edit]

theorem rel_envelopeMessages (reads : ReadsNulls adapter conventions)
    (edit : InMember "messages" AddsNull j j') :
    Option.Rel (AlikeOrShows adapter conventions j j') (decodeAnthropicEnvelope {} j)
      (decodeAnthropicEnvelope {} j') := by
  have inFields : messagesField ∈ anthropicEnvelopeFields := by simp [anthropicEnvelopeFields]
  rcases inMember_slice lawful_anthropicEnvelopeFields inFields {} rfl edit with
    same | ⟨_, _, rest, has, has', front, v, v', back, rfl, rfl, inner⟩
  · exact rel_of_eq (fun env => Or.inl (.refl env)) same
  · have edit : InMember "messages" (InElement fun x x' => x = v ∧ x' = v') j j' :=
      ⟨_, _, rest, has, has', front, v, v', back, rfl, rfl, rfl, rfl⟩
    have related (x x' : Json) (at_ : x = v ∧ x' = v') :
        Option.Rel (fun m m' => MessageAlike adapter m m' ∨ MessageShows conventions v v')
          (decodeAnthropicMessage {} x) (decodeAnthropicMessage {} x') := by
      rw [at_.1, at_.2]
      exact rel_message reads.alike inner
    refine rel_of_some ?_ (rel_messages related edit)
    rintro _ _ decodes ⟨env, _, _, rfl, rfl, ms, m, m', more, rfl, rfl, alike | shows_⟩
    · exact Or.inl ⟨rfl, rfl, rfl, rfl, convert_alike alike⟩
    · refine Or.inr ⟨rfl, fun named_ => ?_⟩
      exact .message (parseAnthropicEnvelope_eq_ok.mpr ⟨decodes, named_⟩)
        ⟨_, _, rest, has, has', front, v, v', back, rfl, rfl, shows_⟩

theorem rel_envelopeTools (edit : InMember "tools" AddsNull j j') :
    Option.Rel (AlikeOrShows adapter conventions j j') (decodeAnthropicEnvelope {} j)
      (decodeAnthropicEnvelope {} j') := by
  rcases inMember_slice lawful_anthropicEnvelopeFields (.tail _ (.tail _ (.tail _ (.head _)))) {}
    rfl edit with same | ⟨_, _, rest, has, has', front, v, v', back, rfl, rfl, inner⟩
  · exact rel_of_eq (fun env => Or.inl (.refl env)) same
  · rcases inAnthropicTool inner with same | touches
    · have edit : InMember "tools" (InElement fun v v' =>
          decodeAnthropicTool {} v = decodeAnthropicTool {} v') j j' :=
        ⟨_, _, rest, has, has', front, v, v', back, rfl, rfl, same⟩
      refine rel_mono ?_ (rel_inMember (S := Differ Eq) lawful_anthropicEnvelopeFields
        (.tail _ (.tail _ (.tail _ (.head _)))) {}
        (fun _ _ => rel_inElement fun _ _ same => rel_of_eq (fun _ => rfl) same) edit)
      rintro _ _ ⟨env, _, _, rfl, rfl, front, t, _, back, rfl, rfl, rfl⟩
      exact Or.inl (.refl _)
    · have edit : InMember "tools" (InElement (Touches "input_schema")) j j' :=
        ⟨_, _, rest, has, has', front, v, v', back, rfl, rfl, touches⟩
      refine rel_of_some ?_ (rel_schema edit)
      rintro _ _ decodes ⟨env, tools, tools', rfl, rfl, differ⟩
      cases used : anthropicToolChoiceNone env.toolChoice with
      | true =>
          refine Or.inl ⟨rfl, rfl, rfl, ?_, rfl⟩
          unfold AnthropicEnvelope.toolsOf
          dsimp only
          rw [used]
          rfl
      | false =>
          refine Or.inr ⟨rfl, fun named_ => ?_⟩
          exact .schema (parseAnthropicEnvelope_eq_ok.mpr ⟨decodes, named_⟩) edit used

/-- A null in an Anthropic request shows only where `AnthropicShows` says. -/
theorem fromAnthropic_null_iff (reads : ReadsNulls adapter conventions) (edit : AddsNull j j') :
    adapter.fromAnthropic j = adapter.fromAnthropic j' ↔
      ¬ AnthropicShows adapter conventions j j' := by
  refine ⟨fun same shows_ => shows_.differ reads same, fun hidden => ?_⟩
  have related : Option.Rel (AlikeOrShows adapter conventions j j') (decodeAnthropicEnvelope {} j)
      (decodeAnthropicEnvelope {} j') := by
    rcases inAnthropicEnvelope edit with same | (system | choice) | messages | tools
    · exact rel_of_eq (fun env => Or.inl (.refl env)) same
    · exact rel_system reads system
    · exact rel_toolChoice choice
    · exact rel_envelopeMessages reads messages
    · exact rel_envelopeTools tools
  rw [fromAnthropic_eq, fromAnthropic_eq]
  refine elim_congr (rel_mono ?_ related)
  rintro env env' (alike | ⟨same, shown⟩)
  · exact alike.requestOf
  · exact requestOf_nameless (not_not.mp fun named_ => hidden (shown named_)) same

end Requests

/-- Where a null instead of an absent member shows in the protocols. -/
theorem null_hidden_iff (parseFloat : String → Option Float) {j j' : Json} (edit : AddsNull j j') :
    (fromOpenAIChat parseFloat j = fromOpenAIChat parseFloat j' ↔ ¬ ChatShows parseFloat j j') ∧
      (fromOpenAIResponses parseFloat j = fromOpenAIResponses parseFloat j' ↔
        ¬ ResponsesShows parseFloat j j') ∧
      ∀ a ∈ [(vllmAdapter, vllmConventions), (sglangAdapter, sglangConventions)],
        a.1.fromAnthropic j = a.1.fromAnthropic j' ↔ ¬ AnthropicShows a.1 a.2 j j' := by
  refine ⟨fromOpenAIChat_null_iff edit, fromOpenAIResponses_null_iff edit, fun a member => ?_⟩
  simp only [List.mem_cons, List.not_mem_nil, or_false] at member
  rcases member with rfl | rfl
  · exact fromAnthropic_null_iff vllm_readsNulls edit
  · exact fromAnthropic_null_iff sglang_readsNulls edit

/-- A request of one message of the user. -/
def messageBody (content : Members) : Json :=
  .object [member "model" (.text "m"),
    member "messages" (.array [.object (member "role" (.text "user") :: content)])]

/-- The message has no content, or a null. -/
theorem addsNull_messageBody :
    AddsNull (messageBody []) (messageBody [member "content" .null]) := by
  have message : AddsNull (.object [member "role" (.text "user")])
      (.object [member "role" (.text "user"), member "content" .null]) :=
    @AddsNull.here [_] [] _ (by decide)
  exact @AddsNull.member [_] [] _ _ _ (by decide) (@AddsNull.element [] [] _ _ message)

theorem null_hidden_iff_messageBody :
    (vllmAdapter.fromAnthropic (messageBody []) =
        vllmAdapter.fromAnthropic (messageBody [member "content" .null]) ↔
      ¬ AnthropicShows vllmAdapter vllmConventions (messageBody [])
        (messageBody [member "content" .null])) ∧
    (sglangAdapter.fromAnthropic (messageBody []) =
        sglangAdapter.fromAnthropic (messageBody [member "content" .null]) ↔
      ¬ AnthropicShows sglangAdapter sglangConventions (messageBody [])
        (messageBody [member "content" .null])) :=
  have each := (null_hidden_iff (fun _ => none) addsNull_messageBody).2.2
  ⟨each _ (.head _), each _ (.tail _ (.head _))⟩

/-- The null becomes an empty message. -/
theorem not_null_hidden :
    AddsNull (messageBody []) (messageBody [member "content" .null]) ∧
      ∀ adapter ∈ [vllmAdapter, sglangAdapter],
        adapter.fromAnthropic (messageBody []) ≠
          adapter.fromAnthropic (messageBody [member "content" .null]) := by
  refine ⟨addsNull_messageBody, fun adapter listed same => ?_⟩
  have counts := congrArg (fun result => result.toOption.map fun rr => rr.messages.length) same
  simp only [List.mem_cons, List.not_mem_nil, or_false] at listed
  rcases listed with rfl | rfl <;> exact absurd counts (by decide)

end KvIndexer.Normalize
