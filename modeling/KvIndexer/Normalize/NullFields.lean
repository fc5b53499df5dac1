import KvIndexer.Lib.JsonEdits
import KvIndexer.Normalize.ContentLoss

/-!
Fields of a Chat request that are null instead of absent.

Most fields take a null for their zero value. It shows where a value is handed on as it is:
in the content of a message and in a tool.
-/

namespace KvIndexer.Normalize

open Config Json

variable {parseFloat : String → Option Float} {j j' : Json}

/-! ### Values kept as `any` -/

theorem lastNamed_append (name : String) (front back : Members) :
    lastNamed name (front ++ back) = (lastNamed name back).or (lastNamed name front) := by
  induction front with
  | nil => rw [List.nil_append, lastNamed, Option.or_none]
  | cons m front ih =>
      obtain ⟨key, j⟩ := m
      rw [List.cons_append, lastNamed, lastNamed, ih, Option.or_assoc]

theorem lastNamed_eq_none {name : String} {members : Members}
    (absent : ∀ m ∈ members, m.1.text ≠ name) : lastNamed name members = none := by
  induction members with
  | nil => rfl
  | cons m members ih =>
      obtain ⟨head, tail⟩ := List.forall_mem_cons.mp absent
      rw [lastNamed, ih tail, if_neg head]
      rfl

theorem text_ne_of_named {key : Quoted} {m : Quoted × Json} (other : named key.text m = false) :
    m.1.text ≠ key.text := fun same => by
  rw [named, same, beq_self_eq_true] at other
  cases other

/-- The only member of its name is the last one. -/
theorem lastNamed_only {pre post : Members} {key : Quoted}
    (only : ∀ m ∈ pre ++ post, named key.text m = false) (v : Json) :
    lastNamed key.text (pre ++ (key, v) :: post) = some v := by
  have later : lastNamed key.text post = none := lastNamed_eq_none fun m inside =>
    text_ne_of_named (only m (List.mem_append_right _ inside))
  rw [lastNamed_append, lastNamed, later, if_pos rfl]
  rfl

theorem lastNamed_absent {pre post : Members} {key : Quoted}
    (absent : ∀ m ∈ pre ++ post, named key.text m = false) :
    lastNamed key.text (pre ++ post) = none :=
  lastNamed_eq_none fun m inside => text_ne_of_named (absent m inside)

theorem lastNamed_other {pre post : Members} {key : Quoted} {name : String}
    (ne : name ≠ key.text) (v : Json) :
    lastNamed name (pre ++ (key, v) :: post) = lastNamed name (pre ++ post) := by
  rw [lastNamed_append, lastNamed_append, lastNamed, if_neg ne.symm, Option.or_none]

/-- Under each name a null does not show, or it does as in a raw field. -/
theorem lastNamed_edit {members members' : Members}
    (edit : AddsNull (.object members) (.object members')) (name : String) :
    lastNamed name members = lastNamed name members' ∨
      RawEdit (lastNamed name members) (lastNamed name members') := by
  generalize object : Json.object members = o, object' : Json.object members' = o' at edit
  cases edit with
  | @here pre post key absent =>
      obtain rfl := Json.object.inj object
      obtain rfl := Json.object.inj object'
      by_cases this_ : name = key.text
      · rw [this_, lastNamed_only absent, lastNamed_absent absent]
        exact Or.inr .null
      · exact Or.inl (lastNamed_other this_ .null).symm
  | @member pre post key v v' only inner =>
      obtain rfl := Json.object.inj object
      obtain rfl := Json.object.inj object'
      by_cases this_ : name = key.text
      · rw [this_, lastNamed_only only, lastNamed_only only]
        exact Or.inr (.inside inner)
      · exact Or.inl ((lastNamed_other this_ v).trans (lastNamed_other this_ v').symm)
  | element => cases object

/-- Objects with different values under one name are different. -/
theorem toEntries_ne {members members' : Members} (key : String)
    (shown : (lastNamed key members).map (toAny parseFloat) ≠
      (lastNamed key members').map (toAny parseFloat)) :
    toEntries parseFloat [] members ≠ toEntries parseFloat [] members' := by
  intro same
  have lookups := congrArg (List.lookup key) same
  rw [lookup_toEntries, lookup_toEntries, List.lookup_nil, Option.or_none, Option.or_none]
    at lookups
  exact shown lookups

/-- A null anywhere shows in the value. -/
theorem toAny_ne (edit : AddsNull j j') : toAny parseFloat j ≠ toAny parseFloat j' := by
  induction edit with
  | @here pre post key absent =>
      intro same
      refine toEntries_ne key.text ?_ (Value.map.inj same)
      rw [lastNamed_only absent, lastNamed_absent absent]
      nofun
  | @member pre post key v v' only _ ih =>
      intro same
      refine toEntries_ne key.text ?_ (Value.map.inj same)
      rw [lastNamed_only only, lastNamed_only only]
      exact fun values => ih (Option.some.inj values)
  | @element front back v v' _ ih =>
      intro same
      rw [toAny, toAny, toAnyAll_eq_map, toAnyAll_eq_map, List.map_append, List.map_append,
        List.map_cons, List.map_cons] at same
      exact ih (List.cons.inj (List.append_cancel_left (Value.list.inj same))).1

theorem inRangeMembers_append (front back : Members) :
    inRangeMembers parseFloat (front ++ back) =
      (inRangeMembers parseFloat front && inRangeMembers parseFloat back) := by
  induction front with
  | nil => rfl
  | cons m front ih =>
      obtain ⟨key, j⟩ := m
      rw [List.cons_append, inRangeMembers, inRangeMembers, ih, Bool.and_assoc]

theorem inRangeAll_append (front back : List Json) :
    inRangeAll parseFloat (front ++ back) =
      (inRangeAll parseFloat front && inRangeAll parseFloat back) := by
  induction front with
  | nil => rfl
  | cons j front ih => rw [List.cons_append, inRangeAll, inRangeAll, ih, Bool.and_assoc]

/-- A null is no number. -/
theorem inRange_edit (edit : AddsNull j j') : inRange parseFloat j = inRange parseFloat j' := by
  induction edit with
  | here =>
      rw [inRange, inRange, inRangeMembers_append, inRangeMembers_append, inRangeMembers, inRange,
        Bool.true_and]
  | member _ _ ih =>
      rw [inRange, inRange, inRangeMembers_append, inRangeMembers_append, inRangeMembers,
        inRangeMembers, ih]
  | element _ ih =>
      rw [inRange, inRange, inRangeAll_append, inRangeAll_append, inRangeAll, inRangeAll, ih]

theorem rel_any (edit : AddsNull j j') (old : Value) :
    Option.Rel (· ≠ ·) (decodeAny parseFloat old j) (decodeAny parseFloat old j') := by
  unfold decodeAny
  rw [inRange_edit edit]
  split
  · exact .some (toAny_ne edit)
  · exact .none

/-! ### Chat -/

theorem lawful_toolCallFunctionFields : LawfulFields toolCallFunctionFields := by
  simp +decide [toolCallFunctionFields]

theorem lawful_toolCallFields : LawfulFields toolCallFields := by
  simp +decide [toolCallFields]

theorem lawful_chatMessageFields : LawfulFields (chatMessageFields parseFloat) := by
  simp +decide [chatMessageFields]

theorem lawful_chatBodyFields : LawfulFields (chatBodyFields parseFloat) := by
  simp +decide [chatBodyFields]

/-- A null in a Chat request that is accepted, in a content or a tool. -/
inductive ChatShows (parseFloat : String → Option Float) (j j' : Json) : Prop where
  | content (edit : InMember "messages" (InElement (InMember "content" AddsNull)) j j')
      {rr : RouteRequest} (normalizes : fromOpenAIChat parseFloat j = .ok rr)
  | tool (edit : InMember "tools" AddsNull j j') {body : ChatBody}
      (decodes : decodeChatBody parseFloat {} j = some body)
      (used : isToolChoiceNone body.toolChoice = false)
      {rr : RouteRequest} (normalizes : fromOpenAIChat parseFloat j = .ok rr)

theorem ignores_toolCallFunction : Ignores decodeToolCallFunction {} := by
  refine ignores_struct lawful_toolCallFunctionFields ?_
  simp only [toolCallFunctionFields, List.forall_mem_cons]
  exact ⟨⟨rfl, ignores_string _⟩, ⟨rfl, ignores_string _⟩, nofun⟩

theorem ignores_toolCall : Ignores decodeToolCall {} := by
  refine ignores_struct lawful_toolCallFields ?_
  simp only [toolCallFields, List.forall_mem_cons]
  exact ⟨⟨rfl, ignores_string _⟩, ⟨rfl, ignores_string _⟩, ⟨rfl, ignores_toolCallFunction⟩, nofun⟩

/-- A null in a message shows in its content only. -/
theorem inChatMessage (edit : AddsNull j j') :
    decodeChatMessage parseFloat {} j = decodeChatMessage parseFloat {} j' ∨
      InMember "content" AddsNull j j' := by
  have each : ∀ f ∈ chatMessageFields parseFloat, f.name ∈ ([] : List String) ∨
      Neutral {} f ∧ (f.name ∈ ["content"] ∨ Ignores f.decode (f.get {})) := by
    simp only [chatMessageFields, List.forall_mem_cons]
    exact ⟨.inr ⟨rfl, .inr (ignores_string _)⟩, .inr ⟨rfl, .inl (.head _)⟩,
      .inr ⟨rfl, .inr (ignores_slice ignores_toolCall)⟩, .inr ⟨rfl, .inr (ignores_string _)⟩,
      .inr ⟨rfl, .inr (ignores_string _)⟩, .inr ⟨rfl, .inr (ignores_string _)⟩, nofun⟩
  simpa [decodeChatMessage] using edit.inFields lawful_chatMessageFields [] ["content"] each

theorem inChatBody (edit : AddsNull j j') :
    decodeChatBody parseFloat {} j = decodeChatBody parseFloat {} j' ∨
      Touches "tool_choice" j j' ∨ InMember "messages" AddsNull j j' ∨
        InMember "tools" AddsNull j j' := by
  have each : ∀ f ∈ chatBodyFields parseFloat, f.name ∈ ["tool_choice"] ∨
      Neutral {} f ∧ (f.name ∈ ["messages", "tools"] ∨ Ignores f.decode (f.get {})) := by
    simp only [chatBodyFields, List.forall_mem_cons]
    exact ⟨.inr ⟨rfl, .inr (ignores_string _)⟩, .inr ⟨rfl, .inl (.head _)⟩,
      .inr ⟨rfl, .inl (.tail _ (.head _))⟩, .inl (.head _),
      .inr ⟨rfl, .inr (ignores_pointer (ignores_int _))⟩,
      .inr ⟨rfl, .inr (ignores_pointer (ignores_int _))⟩, .inr ⟨rfl, .inr (ignores_bool _)⟩,
      .inr ⟨rfl, .inr (ignores_string _)⟩, nofun⟩
  simpa [decodeChatBody] using
    edit.inFields lawful_chatBodyFields ["tool_choice"] ["messages", "tools"] each

/-- The contents of the messages differ. -/
abbrev ContentDiffers (m m' : ChatMessage) : Prop := m.content ≠ m'.content

theorem rel_chatMessage (edit : InMember "content" AddsNull j j') :
    Option.Rel ContentDiffers (decodeChatMessage parseFloat {} j)
      (decodeChatMessage parseFloat {} j') := by
  refine rel_mono ?_ (rel_inMember lawful_chatMessageFields (.tail _ (.head _)) {}
    (fun _ _ inner => rel_any inner _) edit)
  rintro _ _ ⟨m, x, x', rfl, rfl, ne⟩
  exact ne

theorem isToolChoiceNone_edit {raw raw' : Option Json} (edit : RawEdit raw raw') :
    isToolChoiceNone raw = isToolChoiceNone raw' := by
  cases edit with
  | null => rfl
  | inside edit =>
      obtain ⟨none_, none_'⟩ := decodeString_of_addsNull edit ""
      rw [isToolChoiceNone, isToolChoiceNone, unmarshal, unmarshal, Option.bind_some,
        Option.bind_some, none_, none_']

/-- What `FromOpenAIChat` makes of a body. -/
def chatOf (body : ChatBody) : Except String RouteRequest :=
  if body.model = "" then .error "missing model"
  else
    .ok
      { protocol := ProtocolOpenAIChat
        model := body.model
        messages := body.messages
        tools := if isToolChoiceNone body.toolChoice then [] else body.tools.map .verbatim
        stream := body.stream
        tenantID := body.user
        maxTokens := firstNonNil body.maxCompletionTokens body.maxTokens
        turns := turnsFromMessages body.messages }

theorem fromOpenAIChat_eq :
    fromOpenAIChat parseFloat j =
      (decodeChatBody parseFloat {} j).elim (.error "parse chat request") chatOf := by
  rw [fromOpenAIChat]
  cases decodeChatBody parseFloat {} j <;> rfl

theorem chatOf_eq {body body' : ChatBody} (named_ : body.model ≠ "")
    (same : chatOf body = chatOf body') :
    body.messages = body'.messages ∧
      (if isToolChoiceNone body.toolChoice then [] else body.tools.map Tool.verbatim) =
        if isToolChoiceNone body'.toolChoice then [] else body'.tools.map Tool.verbatim := by
  unfold chatOf at same
  by_cases nameless : body'.model = ""
  · rw [if_neg named_, if_pos nameless] at same
    cases same
  · rw [if_neg named_, if_neg nameless] at same
    have requests := Except.ok.inj same
    exact ⟨congrArg RouteRequest.messages requests, congrArg RouteRequest.tools requests⟩

/-- The body of a request that is accepted. -/
theorem fromOpenAIChat_eq_ok {rr : RouteRequest}
    (normalizes : fromOpenAIChat parseFloat j = .ok rr) :
    ∃ body, decodeChatBody parseFloat {} j = some body ∧ body.model ≠ "" := by
  rw [fromOpenAIChat_eq] at normalizes
  cases decodes : decodeChatBody parseFloat {} j with
  | none =>
      rw [decodes] at normalizes
      cases normalizes
  | some body =>
      refine ⟨body, rfl, fun nameless => ?_⟩
      rw [decodes, Option.elim_some, chatOf, if_pos nameless] at normalizes
      cases normalizes

/-- Bodies whose messages differ in one. -/
theorem rel_chatMessages {R : Json → Json → Prop} {S : ChatMessage → ChatMessage → Prop}
    (related : ∀ v v', R v v' → Option.Rel S (decodeChatMessage parseFloat {} v)
      (decodeChatMessage parseFloat {} v'))
    (edit : InMember "messages" (InElement R) j j') :
    Option.Rel (Sets (fun s x => { s with messages := x }) (Differ S))
      (decodeChatBody parseFloat {} j) (decodeChatBody parseFloat {} j') :=
  rel_inMember lawful_chatBodyFields (.tail _ (.head _)) {} (fun _ _ => rel_inElement related) edit

theorem rel_chatTools (edit : InMember "tools" AddsNull j j') :
    Option.Rel (Sets (fun s x => { s with tools := x }) (Differ (· ≠ ·)))
      (decodeChatBody parseFloat {} j) (decodeChatBody parseFloat {} j') :=
  rel_inMember lawful_chatBodyFields (.tail _ (.tail _ (.head _))) {}
    (fun _ _ => rel_inSlice fun _ _ inner => rel_any inner _) edit

theorem ChatShows.differ (shows_ : ChatShows parseFloat j j') :
    fromOpenAIChat parseFloat j ≠ fromOpenAIChat parseFloat j' := by
  rw [fromOpenAIChat_eq, fromOpenAIChat_eq]
  cases shows_ with
  | content edit normalizes =>
      obtain ⟨body, decodes, named_⟩ := fromOpenAIChat_eq_ok normalizes
      refine elim_ne (P := fun body => body.model ≠ "") (rel_mono ?_
        (rel_chatMessages (fun _ _ => rel_chatMessage) edit)) decodes named_
      rintro _ _ ⟨body, _, _, rfl, rfl, differ⟩ named_ same
      exact differ.map_ne (fun _ _ ne => ne)
        (congrArg (List.map ChatMessage.content) (chatOf_eq named_ same).1)
  | tool edit decodes used normalizes =>
      obtain ⟨body, decodes', named_⟩ := fromOpenAIChat_eq_ok normalizes
      obtain rfl := Option.some.inj (decodes.symm.trans decodes')
      refine elim_ne (P := fun body => body.model ≠ "" ∧ isToolChoiceNone body.toolChoice = false)
        (rel_mono ?_ (rel_chatTools edit)) decodes ⟨named_, used⟩
      rintro _ _ ⟨body, _, _, rfl, rfl, differ⟩ ⟨named_, used⟩ same
      have tools := (chatOf_eq named_ same).2
      dsimp only at used tools
      rw [used] at tools
      exact differ.map_ne (fun x x' ne same => ne (Tool.verbatim.inj same)) tools

theorem chatOf_nameless {body body' : ChatBody} (nameless : body.model = "")
    (same : body.model = body'.model) : chatOf body = chatOf body' := by
  rw [chatOf, chatOf, ← same, if_pos nameless, if_pos nameless]

theorem fromOpenAIChat_named {body : ChatBody}
    (decodes : decodeChatBody parseFloat {} j = some body)
    (named_ : body.model ≠ "") : ∃ rr, fromOpenAIChat parseFloat j = .ok rr := by
  rw [fromOpenAIChat_eq, decodes, Option.elim_some, chatOf, if_neg named_]
  exact ⟨_, rfl⟩

/-- A null in a Chat request shows only in a content and in a tool. -/
theorem fromOpenAIChat_null_iff (edit : AddsNull j j') :
    fromOpenAIChat parseFloat j = fromOpenAIChat parseFloat j' ↔ ¬ ChatShows parseFloat j j' := by
  refine ⟨fun same shows_ => shows_.differ same, fun hidden => ?_⟩
  rw [fromOpenAIChat_eq, fromOpenAIChat_eq]
  have lawful : LawfulFields (chatBodyFields parseFloat) := lawful_chatBodyFields
  rcases inChatBody edit with same | choice | messages | tools
  · rw [same]
  · refine elim_congr (rel_mono ?_ (rel_raw lawful_chatBodyFields
      (.tail _ (.tail _ (.tail _ (.head _)))) rfl choice))
    rintro _ _ ⟨body, x, x', rfl, rfl, differ⟩
    unfold chatOf
    dsimp only
    rw [isToolChoiceNone_edit differ]
  · rcases inMember_slice lawful (.tail _ (.head _)) {} rfl messages with same | inside
    · exact congrArg (Option.elim · _ _) same
    · obtain ⟨_, _, rest, has, has', front, v, v', back, rfl, rfl, inner⟩ := inside
      rcases inChatMessage inner with same | content
      · refine elim_congr (rel_mono ?_ (rel_chatMessages (S := Eq)
          (fun _ _ same => rel_of_eq (fun _ => rfl) same)
          ⟨_, _, rest, has, has', front, v, v', back, rfl, rfl, same⟩))
        rintro _ _ ⟨body, _, _, rfl, rfl, front, m, _, back, rfl, rfl, rfl⟩
        rfl
      · have edit : InMember "messages" (InElement (InMember "content" AddsNull)) j j' :=
          ⟨_, _, rest, has, has', front, v, v', back, rfl, rfl, content⟩
        refine elim_congr (rel_of_some ?_ (rel_chatMessages (fun _ _ => rel_chatMessage) edit))
        rintro _ _ decodes ⟨body, _, _, rfl, rfl, -⟩
        refine chatOf_nameless (not_not.mp fun named_ => ?_) rfl
        obtain ⟨rr, normalizes⟩ := fromOpenAIChat_named decodes named_
        exact hidden (.content edit normalizes)
  · refine elim_congr (rel_of_some ?_ (rel_chatTools tools))
    rintro _ _ decodes ⟨body, _, _, rfl, rfl, -⟩
    by_cases nameless : body.model = ""
    · exact chatOf_nameless nameless rfl
    · obtain ⟨rr, normalizes⟩ := fromOpenAIChat_named decodes nameless
      have none_ : isToolChoiceNone body.toolChoice = true :=
        Bool.not_eq_false _ ▸ fun used => hidden (.tool tools decodes used normalizes)
      unfold chatOf
      dsimp only
      rw [none_]
      rfl

end KvIndexer.Normalize
