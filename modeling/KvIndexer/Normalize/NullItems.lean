import KvIndexer.Normalize.NullFields

/-!
Fields of a Responses request that are null instead of absent.

The input has no zero value: `len(raw) > 0` takes a null for input, and decoding it into a
string takes it for an empty text. Nor have the parameters of a tool. What an item hands on
as it is shows a null inside: an output, the text of a part, and a part of another type.
-/

namespace KvIndexer.Normalize

open Config Json

variable {parseFloat : String → Option Float} {j j' : Json}

/-! ### Parts -/

/-- The type of a part. -/
def partType (members : Members) : String := ((lastNamed "type" members).bind string?).getD ""

/-- A null in a part that is kept as it is, or in the text of one. -/
inductive PartShows : Json → Json → Prop where
  | kept {members members' : Members} (edit : AddsNull (.object members) (.object members'))
      (noText : partType members ∉ textTypes) (noImage : partType members ≠ "input_image") :
      PartShows (.object members) (.object members')
  | text {members members' : Members} (edit : AddsNull (.object members) (.object members'))
      (type : partType members ∈ textTypes) {v v' : Json}
      (text : lastNamed "text" members = some v) (text' : lastNamed "text" members' = some v')
      (inside : AddsNull v v') : PartShows (.object members) (.object members')

theorem string?_edit {raw raw' : Option Json} (edit : RawEdit raw raw') :
    raw.bind string? = raw'.bind string? := by
  cases edit with
  | null => rfl
  | inside edit => cases edit <;> rfl

/-- A null does not show in a string of a part. -/
theorem partString_edit {members members' : Members}
    (edit : AddsNull (.object members) (.object members')) (name : String) :
    partString (toEntries parseFloat [] members) name =
      partString (toEntries parseFloat [] members') name := by
  rw [partString_toEntries, partString_toEntries]
  rcases lastNamed_edit edit name with same | shown
  · rw [same]
  · exact string?_edit shown

theorem convertResponsesPart_of_text {entries : List (String × Value)}
    (text : (partString entries "type").getD "" ∈ textTypes) :
    convertResponsesPart entries = textPart ((entries.lookup "text").getD .nil) :=
  if_pos text

theorem convertResponsesPart_of_image {entries : List (String × Value)}
    (image : (partString entries "type").getD "" = "input_image") :
    convertResponsesPart entries =
      imagePart (((partString entries "image_url").or (partString entries "url")).getD "") := by
  have noText : "input_image" ∉ ["input_text", "output_text", "text"] := by decide
  rw [convertResponsesPart, image, if_neg noText, if_pos rfl]

theorem convertResponsesPart_of_other {entries : List (String × Value)}
    (noText : (partString entries "type").getD "" ∉ textTypes)
    (noImage : (partString entries "type").getD "" ≠ "input_image") :
    convertResponsesPart entries = .map entries := by
  rw [convertResponsesPart, if_neg noImage]
  exact if_neg noText

theorem type_toEntries (parseFloat : String → Option Float) (members : Members) :
    (partString (toEntries parseFloat [] members) "type").getD "" = partType members := by
  rw [partString_toEntries, partType]

theorem text_toEntries (members : Members) :
    (toEntries parseFloat [] members).lookup "text" =
      (lastNamed "text" members).map (toAny parseFloat) := by
  rw [lookup_toEntries, List.lookup_nil, Option.or_none]

/-- The types of the parts are the same. -/
theorem partType_edit {members members' : Members}
    (edit : AddsNull (.object members) (.object members')) :
    partType members = partType members' := by
  rw [← type_toEntries (fun _ => none), partString_edit edit, type_toEntries]

variable (parseFloat) in
theorem convertResponsesPart_edit {members members' : Members}
    (edit : AddsNull (.object members) (.object members'))
    (hidden : ¬ PartShows (.object members) (.object members')) :
    convertResponsesPart (toEntries parseFloat [] members) =
      convertResponsesPart (toEntries parseFloat [] members') := by
  have type := type_toEntries parseFloat members
  have type' := (type_toEntries parseFloat members').trans (partType_edit edit).symm
  by_cases text : partType members ∈ textTypes
  · rw [convertResponsesPart_of_text (type.symm ▸ text),
      convertResponsesPart_of_text (type'.symm ▸ text), text_toEntries, text_toEntries]
    rcases lastNamed_edit edit "text" with same | shown
    · rw [same]
    · generalize found : lastNamed "text" members = raw,
        found' : lastNamed "text" members' = raw' at shown
      cases shown with
      | null => rfl
      | inside inner => exact absurd (.text edit text found found' inner) hidden
  · by_cases image : partType members = "input_image"
    · rw [convertResponsesPart_of_image (type.trans image),
        convertResponsesPart_of_image (type'.trans image), partString_edit edit "image_url",
        partString_edit edit "url"]
    · exact absurd (.kept edit text image) hidden

variable (parseFloat) in
/-- A part that shows a null is another one, and so is the content if it is the only one. -/
theorem PartShows.convert_ne {members members' : Members}
    (shows_ : PartShows (.object members) (.object members')) :
    let part := convertResponsesPart (toEntries parseFloat [] members)
    let part' := convertResponsesPart (toEntries parseFloat [] members')
    part ≠ part' ∧
      (soleText part).getD (.list [part]) ≠ (soleText part').getD (.list [part']) := by
  have type := type_toEntries parseFloat members
  cases shows_ with
  | kept edit noText noImage =>
      have type' := (type_toEntries parseFloat members').trans
        (partType_edit edit).symm
      rw [convertResponsesPart_of_other (type.symm ▸ noText) (type.symm ▸ noImage),
        convertResponsesPart_of_other (type'.symm ▸ noText) (type'.symm ▸ noImage)]
      have alone {entries : List (String × Value)}
          (noText : (partString entries "type").getD "" ∉ textTypes) :
          soleText (.map entries) = none := by
        refine if_neg fun text => noText ?_
        rw [text]
        decide
      have ne : Value.map (toEntries parseFloat [] members) ≠
          .map (toEntries parseFloat [] members') := toAny_ne edit
      intro part part'
      rw [alone (type.symm ▸ noText), alone (type'.symm ▸ noText)]
      refine ⟨ne, fun same => ne ?_⟩
      exact List.singleton_inj.mp (Value.list.inj same)
  | @text _ _ edit text v v' found found' inside =>
      have type' := (type_toEntries parseFloat members').trans
        (partType_edit edit).symm
      rw [convertResponsesPart_of_text (type.symm ▸ text),
        convertResponsesPart_of_text (type'.symm ▸ text), text_toEntries, text_toEntries, found,
        found']
      have ne : toAny parseFloat v ≠ toAny parseFloat v' := toAny_ne inside
      have alone (x : Value) : soleText (textPart x) = some x := rfl
      intro part part'
      refine ⟨fun same => ne ?_, ?_⟩
      · simpa [part, part', textPart] using same
      · rw [alone, alone]
        exact ne

/-! ### Contents -/

theorem collapse_two (a part : Value) (front back : List Value) :
    collapseContentParts (a :: (front ++ part :: back)) = .list (a :: (front ++ part :: back)) := by
  cases front <;> rfl

/-- A part can be told from the content that it is collapsed into with others. -/
theorem collapse_ne {part part' : Value} (ne : part ≠ part')
    (alone : (soleText part).getD (.list [part]) ≠ (soleText part').getD (.list [part']))
    (front back : List Value) :
    collapseContentParts (front ++ part :: back) ≠
      collapseContentParts (front ++ part' :: back) := by
  intro same
  have inner (parts : front ++ part :: back = front ++ part' :: back) : False :=
    ne (List.cons.inj (List.append_cancel_left parts)).1
  cases front with
  | nil =>
      cases back with
      | nil => exact alone same
      | cons p back => exact inner (Value.list.inj same)
  | cons a front =>
      rw [List.cons_append, List.cons_append, collapse_two, collapse_two] at same
      exact inner (Value.list.inj same)

theorem convertResponsesContent_array {js : List Json} {parts : List (List (String × Value))}
    (decodes : decodeSlice (decodeMap parseFloat) [] [] (.array js) = some parts)
    (some_ : parts ≠ []) :
    convertResponsesContent parseFloat (some (.array js)) =
      collapseContentParts (parts.map convertResponsesPart) := by
  rw [convertResponsesContent]
  dsimp only [decodeString]
  rw [decodes]
  cases parts with
  | nil => exact absurd rfl some_
  | cons part more => cases more <;> rfl

theorem convertResponsesContent_of_none {v : Json} (noText : decodeString "" v = none)
    (noParts : decodeSlice (decodeMap parseFloat) [] [] v = none) :
    convertResponsesContent parseFloat (some v) = .string "" := by
  rw [convertResponsesContent, noText, noParts]

variable (parseFloat) in
/-- Objects that differ in a null are decoded to maps, or neither is. -/
theorem rel_map (edit : AddsNull j j') :
    Option.Rel (fun entries entries' => ∃ members members', j = .object members ∧
        j' = .object members' ∧ entries = toEntries parseFloat [] members ∧
        entries' = toEntries parseFloat [] members')
      (decodeMap parseFloat [] j) (decodeMap parseFloat [] j') := by
  have objects {members members' : Members}
      (edit : AddsNull (.object members) (.object members')) :
      Option.Rel (fun entries entries' => ∃ ms ms', Json.object members = .object ms ∧
          Json.object members' = .object ms' ∧ entries = toEntries parseFloat [] ms ∧
          entries' = toEntries parseFloat [] ms')
        (decodeMap parseFloat [] (.object members))
        (decodeMap parseFloat [] (.object members')) := by
    have range : inRangeMembers parseFloat members = inRangeMembers parseFloat members' :=
      inRange_edit edit
    rw [decodeMap, decodeMap, range]
    split
    · exact .some ⟨_, _, rfl, rfl, rfl, rfl⟩
    · exact .none
  cases edit with
  | here absent => exact objects (.here absent)
  | member only inner => exact objects (.member only inner)
  | element => exact .none

/-- A content that is decoded, and the same content with a null in an object of it. -/
theorem convertResponsesContent_differ (front back : List Json) {w w' : Json}
    (edit : AddsNull w w') {parts : List (List (String × Value))}
    (decoded : decodeSlice (decodeMap parseFloat) [] [] (.array (front ++ w :: back)) =
      some parts) :
    ∃ before after members members', w = .object members ∧ w' = .object members' ∧
      convertResponsesContent parseFloat (some (.array (front ++ w :: back))) =
        collapseContentParts (before ++
          convertResponsesPart (toEntries parseFloat [] members) :: after) ∧
      convertResponsesContent parseFloat (some (.array (front ++ w' :: back))) =
        collapseContentParts (before ++
          convertResponsesPart (toEntries parseFloat [] members') :: after) := by
  have related := rel_element front back (rel_map parseFloat edit)
  rw [decoded] at related
  generalize decoded' : decodeSlice (decodeMap parseFloat) [] []
    (.array (front ++ w' :: back)) = o' at related
  cases related with
  | some differ =>
      rw [convertResponsesContent_array decoded differ.ne_nil.1,
        convertResponsesContent_array decoded' differ.ne_nil.2]
      obtain ⟨bs, _, _, cs, rfl, rfl, members, members', rfl, rfl, rfl, rfl⟩ := differ
      refine ⟨bs.map convertResponsesPart, cs.map convertResponsesPart, members, members', rfl,
        rfl, ?_, ?_⟩
      · rw [List.map_append, List.map_cons]
      · rw [List.map_append, List.map_cons]

/-- A null in a content does not show, but in a part that shows it. -/
theorem convertResponsesContent_edit {v v' : Json} (edit : AddsNull v v')
    (hidden : ¬ InDecoded (decodeMap parseFloat) [] PartShows v v') :
    convertResponsesContent parseFloat (some v) = convertResponsesContent parseFloat (some v') := by
  obtain ⟨noText, noText'⟩ := decodeString_of_addsNull edit ""
  rcases edit.inSlice (decodeMap parseFloat) [] with ⟨none_, none_'⟩ | inside
  · rw [convertResponsesContent_of_none noText none_,
      convertResponsesContent_of_none noText' none_']
  · obtain ⟨front, w, w', back, rfl, rfl, inner⟩ := inside
    cases decoded : decodeSlice (decodeMap parseFloat) [] [] (.array (front ++ w :: back)) with
    | none =>
        have related := rel_element front back (rel_map parseFloat inner)
        rw [decoded] at related
        generalize decoded' : decodeSlice (decodeMap parseFloat) [] []
          (.array (front ++ w' :: back)) = o' at related
        cases related
        rw [convertResponsesContent_of_none noText decoded,
          convertResponsesContent_of_none noText' decoded']
    | some parts =>
        obtain ⟨before, after, members, members', rfl, rfl, reads, reads'⟩ :=
          convertResponsesContent_differ front back inner decoded
        have part := convertResponsesPart_edit parseFloat inner fun shows_ =>
          hidden ⟨front, _, _, back, rfl, rfl, isSome_of_decodeSlice decoded, shows_⟩
        rw [reads, reads', part]

theorem PartShows.edit (shows_ : PartShows j j') : AddsNull j j' := by
  cases shows_ with
  | kept edit => exact edit
  | text edit => exact edit

theorem convertResponsesContent_ne {v v' : Json}
    (shows_ : InDecoded (decodeMap parseFloat) [] PartShows v v') :
    convertResponsesContent parseFloat (some v) ≠ convertResponsesContent parseFloat (some v') := by
  obtain ⟨front, w, w', back, rfl, rfl, all, shows_⟩ := shows_
  obtain ⟨parts, decoded⟩ := decodeSlice_of_isSome all
  obtain ⟨before, after, members, members', rfl, rfl, reads, reads'⟩ :=
    convertResponsesContent_differ front back shows_.edit decoded
  obtain ⟨ne, alone⟩ := shows_.convert_ne parseFloat
  rw [reads, reads']
  exact collapse_ne ne alone _ _

/-! ### Items -/

/-- A null in an item that is decoded, in its output or a part of its content. -/
inductive ItemShows (parseFloat : String → Option Float) (j j' : Json) : Prop where
  | output (decodes : (decodeResponsesItem {} j).isSome)
      (type : stringOf "type" j = "function_call_output")
      (edit : InMember "output" AddsNull j j')
  | content (decodes : (decodeResponsesItem {} j).isSome)
      (type : stringOf "type" j ∉ ["function_call", "function_call_output", "reasoning"])
      (edit : InMember "content" (InDecoded (decodeMap parseFloat) [] PartShows) j j')

theorem inResponsesItem (edit : AddsNull j j') :
    decodeResponsesItem {} j = decodeResponsesItem {} j' ∨ Touches "content" j j' ∨
      Touches "output" j j' := by
  have each : ∀ f ∈ responsesItemFields, f.name ∈ ["content", "output"] ∨
      Neutral {} f ∧ (f.name ∈ ([] : List String) ∨ Ignores f.decode (f.get {})) := by
    simp only [responsesItemFields, List.forall_mem_cons]
    exact ⟨.inr ⟨rfl, .inr (ignores_string _)⟩, .inr ⟨rfl, .inr (ignores_string _)⟩,
      .inl (.head _), .inr ⟨rfl, .inr (ignores_string _)⟩, .inr ⟨rfl, .inr (ignores_string _)⟩,
      .inr ⟨rfl, .inr (ignores_string _)⟩, .inl (.tail _ (.head _)),
      fun _ mem => absurd mem List.not_mem_nil⟩
  simpa [decodeResponsesItem] using
    edit.inFields lawful_responsesItemFields ["content", "output"] [] each

theorem appendResponsesItem_congr (progress : Progress)
    (related : Option.Rel (fun item item' =>
        appendItem parseFloat progress item = appendItem parseFloat progress item')
      (decodeResponsesItem {} j) (decodeResponsesItem {} j')) :
    appendResponsesItem parseFloat progress j = appendResponsesItem parseFloat progress j' := by
  unfold appendResponsesItem
  generalize decodeResponsesItem {} j = o, decodeResponsesItem {} j' = o' at related
  cases related with
  | none => rfl
  | some same => exact same

/-- An item reads its content only if it is a message, and its output only if it is one. -/
theorem appendItem_content (progress : Progress) (item : ResponsesItem) {raw raw' : Option Json}
    (same : item.type ∉ ["function_call", "function_call_output", "reasoning"] →
      convertResponsesContent parseFloat raw = convertResponsesContent parseFloat raw') :
    appendItem parseFloat progress { item with content := raw } =
      appendItem parseFloat progress { item with content := raw' } := by
  unfold appendItem
  split_ifs with call output reasoning
  · rfl
  · rfl
  · rfl
  · unfold messageOf
    dsimp only at call output reasoning ⊢
    rw [same (by simp [call, output, reasoning])]

theorem appendItem_output (progress : Progress) (item : ResponsesItem) {raw raw' : Option Json}
    (same : item.type = "function_call_output" →
      (raw.map (toAny parseFloat)).getD .nil = (raw'.map (toAny parseFloat)).getD .nil) :
    appendItem parseFloat progress { item with output := raw } =
      appendItem parseFloat progress { item with output := raw' } := by
  unfold appendItem
  split_ifs with call output reasoning
  · rfl
  · unfold outputOf
    dsimp only at output ⊢
    rw [same output]
  · rfl
  · rfl

/-- A null in an item does not show, or is one of those that do. -/
theorem appendResponsesItem_edit (edit : AddsNull j j') (hidden : ¬ ItemShows parseFloat j j')
    (progress : Progress) :
    appendResponsesItem parseFloat progress j = appendResponsesItem parseFloat progress j' := by
  rcases inResponsesItem edit with same | content | output
  · exact appendResponsesItem_congr progress (rel_of_eq (fun _ => rfl) same)
  · have inFields : StructField.of "content" decodeRaw ResponsesItem.content
        (fun s x => { s with content := x }) ∈ responsesItemFields := .tail _ (.tail _ (.head _))
    rcases content with nulls | ⟨v, v', rest, has, has', inner⟩
    · refine appendResponsesItem_congr progress (rel_mono ?_
        (rel_nulls lawful_responsesItemFields inFields rfl nulls))
      rintro _ _ ⟨item, _, _, rfl, rfl, rfl, rfl⟩
      exact appendItem_content progress item fun _ => rfl
    · refine appendResponsesItem_congr progress (rel_of_some ?_
        (rel_raw_at lawful_responsesItemFields inFields {} has has'))
      rintro _ _ decodes ⟨item, _, _, rfl, rfl, rfl, rfl⟩
      refine appendItem_content progress item fun message => ?_
      refine convertResponsesContent_edit inner fun shows_ => ?_
      refine hidden (.content (Option.isSome_iff_exists.mpr ⟨_, decodes⟩) ?_
        ⟨v, v', rest, has, has', shows_⟩)
      rw [← type_responsesItem decodes]
      exact message
  · have inFields : StructField.of "output" decodeRaw ResponsesItem.output
        (fun s x => { s with output := x }) ∈ responsesItemFields := by simp [responsesItemFields]
    rcases output with nulls | inside
    · refine appendResponsesItem_congr progress (rel_mono ?_
        (rel_nulls lawful_responsesItemFields inFields rfl nulls))
      rintro _ _ ⟨item, _, _, rfl, rfl, rfl, rfl⟩
      exact appendItem_output progress item fun _ => rfl
    · refine appendResponsesItem_congr progress (rel_of_some ?_
        (rel_raw lawful_responsesItemFields inFields rfl (Or.inr inside)))
      rintro _ _ decodes ⟨item, _, _, rfl, rfl, -⟩
      refine appendItem_output progress item fun output => ?_
      refine absurd (.output (Option.isSome_iff_exists.mpr ⟨_, decodes⟩) ?_ inside) hidden
      rw [← type_responsesItem decodes]
      exact output

/-- One message differs, in its content. -/
abbrev Apart (msgs msgs' : List ChatMessage) : Prop :=
  Differ (fun m m' => m.role = m'.role ∧ m.content ≠ m'.content) msgs msgs'

theorem Apart.append {msgs msgs' : List ChatMessage} (apart : Apart msgs msgs')
    (more : List ChatMessage) : Apart (msgs ++ more) (msgs' ++ more) := by
  obtain ⟨front, m, m', back, rfl, rfl, differ⟩ := apart
  exact ⟨front, m, m', back ++ more, by simp, by simp, differ⟩

/-- A call is added to the last message of both, or makes one. -/
theorem Apart.appendCall {msgs msgs' : List ChatMessage} (apart : Apart msgs msgs')
    (tc : ToolCall) : Apart (appendCall msgs tc) (appendCall msgs' tc) := by
  obtain ⟨front, m, m', back, rfl, rfl, role, content⟩ := apart
  rcases List.eq_nil_or_concat' back with rfl | ⟨back, last, rfl⟩
  · rw [appendCall_concat, appendCall_concat, ← role]
    split_ifs
    · exact ⟨front, _, _, [], rfl, rfl, rfl, content⟩
    · exact Apart.append ⟨front, m, m', [], rfl, rfl, role, content⟩ _
  · have shape (m : ChatMessage) : front ++ m :: (back ++ [last]) =
        (front ++ m :: back) ++ [last] := by simp
    have base : Apart (front ++ m :: back) (front ++ m' :: back) :=
      ⟨front, m, m', back, rfl, rfl, role, content⟩
    rw [shape, shape, appendCall_concat, appendCall_concat]
    split_ifs
    · exact base.append _
    · exact (base.append _).append _

theorem Apart.appendResponsesItem {progress progress' : Progress}
    (apart : Apart progress.1 progress'.1) (counter : progress.2 = progress'.2) (raw : Json) :
    Apart (appendResponsesItem parseFloat progress raw).1
        (appendResponsesItem parseFloat progress' raw).1 ∧
      (Normalize.appendResponsesItem parseFloat progress raw).2 =
        (Normalize.appendResponsesItem parseFloat progress' raw).2 := by
  unfold Normalize.appendResponsesItem
  cases decodeResponsesItem {} raw with
  | none => exact ⟨apart, counter⟩
  | some item =>
      dsimp only
      unfold appendItem
      rw [counter]
      split_ifs
      · exact ⟨apart.appendCall _, rfl⟩
      · exact ⟨apart.append _, rfl⟩
      · exact ⟨apart, counter⟩
      · exact ⟨apart.append _, rfl⟩

theorem Apart.foldl {progress progress' : Progress} (apart : Apart progress.1 progress'.1)
    (counter : progress.2 = progress'.2) (items : List Json) :
    Apart (items.foldl (Normalize.appendResponsesItem parseFloat) progress).1
      (items.foldl (Normalize.appendResponsesItem parseFloat) progress').1 := by
  induction items generalizing progress progress' with
  | nil => exact apart
  | cons raw items ih =>
      obtain ⟨apart, counter⟩ := apart.appendResponsesItem counter raw
      exact ih apart counter

/-- What is added for items that are decoded. -/
theorem appendResponsesItem_rel {P : Progress → Progress → Prop} {progress : Progress}
    (decodes : (decodeResponsesItem {} j).isSome)
    (related : Option.Rel (fun item item' =>
        P (appendItem parseFloat progress item) (appendItem parseFloat progress item'))
      (decodeResponsesItem {} j) (decodeResponsesItem {} j')) :
    P (appendResponsesItem parseFloat progress j) (appendResponsesItem parseFloat progress j') := by
  unfold appendResponsesItem
  generalize decodeResponsesItem {} j = o, decodeResponsesItem {} j' = o' at decodes related
  cases related with
  | none => cases decodes
  | some holds => exact holds

theorem appendItem_of_output (item : ResponsesItem) (type : item.type = "function_call_output")
    (progress : Progress) :
    appendItem parseFloat progress item =
      (progress.1 ++ [outputOf parseFloat item], progress.2) := by
  rw [appendItem, type, if_neg (by decide), if_pos rfl]

theorem appendItem_of_message (item : ResponsesItem)
    (type : item.type ∉ ["function_call", "function_call_output", "reasoning"])
    (progress : Progress) :
    appendItem parseFloat progress item =
      (progress.1 ++ [messageOf parseFloat item], progress.2) := by
  simp only [List.mem_cons, List.not_mem_nil, or_false, not_or] at type
  rw [appendItem, if_neg type.1, if_neg type.2.1, if_neg type.2.2]

/-- An item that shows a null shows it in the message it adds. -/
theorem ItemShows.apart (shows_ : ItemShows parseFloat j j') (progress : Progress) :
    Apart (appendResponsesItem parseFloat progress j).1
        (appendResponsesItem parseFloat progress j').1 ∧
      (appendResponsesItem parseFloat progress j).2 =
        (appendResponsesItem parseFloat progress j').2 := by
  have added {m m' : ChatMessage} (role : m.role = m'.role) (content : m.content ≠ m'.content) :
      Apart (progress.1 ++ [m]) (progress.1 ++ [m']) :=
    ⟨progress.1, m, m', [], rfl, rfl, role, content⟩
  cases shows_ with
  | output decodes type edit =>
      have inFields : StructField.of "output" decodeRaw ResponsesItem.output
          (fun s x => { s with output := x }) ∈ responsesItemFields := by simp [responsesItemFields]
      refine appendResponsesItem_rel (P := fun p p' => Apart p.1 p'.1 ∧ p.2 = p'.2) decodes
        (rel_of_some ?_ (rel_inMember (S := fun x x' => ∃ v v', x = some v ∧ x' = some v' ∧
          AddsNull v v') lawful_responsesItemFields inFields {}
          (fun v v' inner => .some ⟨v, v', rfl, rfl, inner⟩) edit))
      intro item₁ item₂ decodes differ
      have output := (type_responsesItem decodes).trans type
      obtain ⟨item, _, _, rfl, rfl, v, v', rfl, rfl, inner⟩ := differ
      rw [appendItem_of_output { item with output := some v } output,
        appendItem_of_output { item with output := some v' } output]
      exact ⟨added rfl (toAny_ne inner), rfl⟩
  | content decodes type edit =>
      refine appendResponsesItem_rel (P := fun p p' => Apart p.1 p'.1 ∧ p.2 = p'.2) decodes
        (rel_of_some ?_ (rel_inMember (S := fun x x' => ∃ v v', x = some v ∧ x' = some v' ∧
          InDecoded (decodeMap parseFloat) [] PartShows v v') lawful_responsesItemFields
          (.tail _ (.tail _ (.head _))) {}
          (fun v v' inner => .some ⟨v, v', rfl, rfl, inner⟩) edit))
      intro item₁ item₂ decodes differ
      have message : item₁.type ∉ ["function_call", "function_call_output", "reasoning"] :=
        (type_responsesItem decodes).symm ▸ type
      obtain ⟨item, _, _, rfl, rfl, v, v', rfl, rfl, inner⟩ := differ
      rw [appendItem_of_message { item with content := some v } message,
        appendItem_of_message { item with content := some v' } message]
      exact ⟨added rfl (convertResponsesContent_ne inner), rfl⟩

/-! ### Bodies -/

theorem lawful_responsesToolFields : LawfulFields responsesToolFields := by
  simp +decide [responsesToolFields]

/-- A null in a Responses request that is accepted. -/
inductive ResponsesShows (parseFloat : String → Option Float) (j j' : Json) : Prop where
  | input (edit : Nulls "input" j j') {rr : RouteRequest}
      (normalizes : fromOpenAIResponses parseFloat j = .ok rr)
  | item (edit : InMember "input" (InElement (ItemShows parseFloat)) j j') {rr : RouteRequest}
      (normalizes : fromOpenAIResponses parseFloat j = .ok rr)
  | parameters (edit : InMember "tools" (InElement (Touches "parameters")) j j')
      {body : ResponsesBody} (decodes : decodeResponsesBody {} j = some body)
      (used : isToolChoiceNone body.toolChoice = false) {rr : RouteRequest}
      (normalizes : fromOpenAIResponses parseFloat j = .ok rr)

theorem inResponsesTool (edit : AddsNull j j') :
    decodeResponsesTool {} j = decodeResponsesTool {} j' ∨ Touches "parameters" j j' := by
  have each : ∀ f ∈ responsesToolFields, f.name ∈ ["parameters"] ∨
      Neutral {} f ∧ (f.name ∈ ([] : List String) ∨ Ignores f.decode (f.get {})) := by
    simp only [responsesToolFields, List.forall_mem_cons]
    exact ⟨.inr ⟨rfl, .inr (ignores_string _)⟩, .inr ⟨rfl, .inr (ignores_string _)⟩,
      .inr ⟨rfl, .inr (ignores_string _)⟩, .inl (.head _),
      fun _ mem => absurd mem List.not_mem_nil⟩
  simpa [decodeResponsesTool] using
    edit.inFields lawful_responsesToolFields ["parameters"] [] each

theorem inResponsesBody (edit : AddsNull j j') :
    decodeResponsesBody {} j = decodeResponsesBody {} j' ∨
      (Touches "input" j j' ∨ Touches "tool_choice" j j') ∨ InMember "tools" AddsNull j j' := by
  have each : ∀ f ∈ responsesBodyFields, f.name ∈ ["input", "tool_choice"] ∨
      Neutral {} f ∧ (f.name ∈ ["tools"] ∨ Ignores f.decode (f.get {})) := by
    simp only [responsesBodyFields, List.forall_mem_cons]
    exact ⟨.inr ⟨rfl, .inr (ignores_string _)⟩, .inl (.head _), .inr ⟨rfl, .inr (ignores_string _)⟩,
      .inr ⟨rfl, .inl (.head _)⟩, .inl (.tail _ (.head _)),
      .inr ⟨rfl, .inr (ignores_pointer (ignores_int _))⟩, .inr ⟨rfl, .inr (ignores_bool _)⟩,
      .inr ⟨rfl, .inr (ignores_string _)⟩,
      fun _ mem => absurd mem List.not_mem_nil⟩
  simpa [decodeResponsesBody] using
    edit.inFields lawful_responsesBodyFields ["input", "tool_choice"] ["tools"] each

/-- What `FromOpenAIResponses` makes of a body. -/
def responsesOf (parseFloat : String → Option Float) (body : ResponsesBody) :
    Except String RouteRequest :=
  if body.model = "" then .error "missing model"
  else
    match appendResponsesInput parseFloat (instructionMessages body.instructions) body.input with
    | none => .error "parse responses input"
    | some msgs =>
        .ok
          { protocol := ProtocolOpenAIResponses
            model := body.model
            messages := msgs
            tools :=
              if isToolChoiceNone body.toolChoice then [] else convertResponsesTools body.tools
            stream := body.stream
            tenantID := body.user
            maxTokens := body.maxOutputTokens.getD 0
            turns := turnsFromMessages msgs }

theorem fromOpenAIResponses_eq :
    fromOpenAIResponses parseFloat j =
      (decodeResponsesBody {} j).elim (.error "parse responses request")
        (responsesOf parseFloat) := by
  rw [fromOpenAIResponses]
  cases decodeResponsesBody {} j <;> rfl

theorem responsesOf_nameless {body body' : ResponsesBody} (nameless : body.model = "")
    (same : body.model = body'.model) :
    responsesOf parseFloat body = responsesOf parseFloat body' := by
  rw [responsesOf, responsesOf, ← same, if_pos nameless, if_pos nameless]

/-- The body of a request that is accepted. -/
theorem fromOpenAIResponses_eq_ok {rr : RouteRequest} :
    fromOpenAIResponses parseFloat j = .ok rr ↔
      ∃ body, decodeResponsesBody {} j = some body ∧ responsesOf parseFloat body = .ok rr := by
  rw [fromOpenAIResponses_eq]
  cases decodeResponsesBody {} j with
  | none => simp
  | some body => simp

theorem responsesOf_named {body : ResponsesBody} {rr : RouteRequest}
    (accepts : responsesOf parseFloat body = .ok rr) :
    body.model ≠ "" ∧ (∃ msgs, appendResponsesInput parseFloat
      (instructionMessages body.instructions) body.input = some msgs ∧ rr.messages = msgs) ∧
      rr.tools =
        if isToolChoiceNone body.toolChoice then [] else convertResponsesTools body.tools := by
  unfold responsesOf at accepts
  by_cases nameless : body.model = ""
  · rw [if_pos nameless] at accepts
    cases accepts
  · rw [if_neg nameless] at accepts
    refine ⟨nameless, ?_⟩
    cases input : appendResponsesInput parseFloat (instructionMessages body.instructions)
        body.input with
    | none =>
        rw [input] at accepts
        cases accepts
    | some msgs =>
        rw [input] at accepts
        obtain rfl := Except.ok.inj accepts
        exact ⟨⟨msgs, rfl, rfl⟩, rfl⟩

/-- What an accepted request shows of two bodies. -/
theorem responsesOf_eq {body body' : ResponsesBody} {rr : RouteRequest}
    (accepts : responsesOf parseFloat body = .ok rr)
    (same : responsesOf parseFloat body = responsesOf parseFloat body') :
    appendResponsesInput parseFloat (instructionMessages body.instructions) body.input =
        appendResponsesInput parseFloat (instructionMessages body'.instructions) body'.input ∧
      (if isToolChoiceNone body.toolChoice then [] else convertResponsesTools body.tools) =
        if isToolChoiceNone body'.toolChoice then [] else convertResponsesTools body'.tools := by
  obtain ⟨-, ⟨_, input, rfl⟩, tools⟩ := responsesOf_named accepts
  obtain ⟨-, ⟨_, input', rfl⟩, tools'⟩ := responsesOf_named (same.symm.trans accepts)
  exact ⟨input.trans input'.symm, tools.symm.trans tools'⟩

/-- The parameters differ in a null. -/
abbrev ParametersDiffer (t t' : ResponsesTool) : Prop :=
  Sets (fun s x => { s with parameters := x }) RawEdit t t'

theorem rel_parameters (edit : InMember "tools" (InElement (Touches "parameters")) j j') :
    Option.Rel (Sets (fun s x => { s with tools := x }) (Differ ParametersDiffer))
      (decodeResponsesBody {} j) (decodeResponsesBody {} j') := by
  refine rel_inMember lawful_responsesBodyFields (.tail _ (.tail _ (.tail _ (.head _)))) {} ?_ edit
  exact fun _ _ => rel_inElement fun _ _ touches =>
    rel_raw lawful_responsesToolFields (.tail _ (.tail _ (.tail _ (.head _)))) rfl touches

theorem convertResponsesTools_ne {tools tools' : List ResponsesTool}
    (differ : Differ ParametersDiffer tools tools') :
    convertResponsesTools tools ≠ convertResponsesTools tools' := by
  refine differ.map_ne ?_
  rintro _ _ ⟨t, x, x', rfl, rfl, edit⟩ same
  exact edit.ne (Tool.function.inj same).2.2.1

/-- The input differs in an item that shows a null. -/
abbrev InputDiffers (parseFloat : String → Option Float) (raw raw' : Option Json) : Prop :=
  ∃ front v v' back, raw = some (.array (front ++ v :: back)) ∧
    raw' = some (.array (front ++ v' :: back)) ∧ ItemShows parseFloat v v'

theorem rel_input (edit : InMember "input" (InElement (ItemShows parseFloat)) j j') :
    Option.Rel (Sets (fun s x => { s with input := x }) (InputDiffers parseFloat))
      (decodeResponsesBody {} j) (decodeResponsesBody {} j') := by
  have inFields : inputField ∈ responsesBodyFields := by simp [responsesBodyFields]
  refine rel_inMember lawful_responsesBodyFields inFields {} ?_ edit
  rintro _ _ ⟨front, v, v', back, rfl, rfl, shows_⟩
  exact .some ⟨front, v, v', back, rfl, rfl, shows_⟩

theorem appendResponsesInput_ne {raw raw' : Option Json} (differ : InputDiffers parseFloat raw raw')
    (msgs : List ChatMessage) :
    appendResponsesInput parseFloat msgs raw ≠ appendResponsesInput parseFloat msgs raw' := by
  obtain ⟨front, v, v', back, rfl, rfl, shows_⟩ := differ
  intro same
  rw [appendResponsesInput_array, appendResponsesInput_array, List.foldl_append, List.foldl_append,
    List.foldl_cons, List.foldl_cons] at same
  obtain ⟨apart, counter⟩ := shows_.apart
    (front.foldl (appendResponsesItem parseFloat) (msgs, 0))
  exact (apart.foldl counter back).map_ne (fun _ _ differ => differ.2)
    (congrArg (List.map ChatMessage.content) (Option.some.inj same))

theorem ResponsesShows.differ (shows_ : ResponsesShows parseFloat j j') :
    fromOpenAIResponses parseFloat j ≠ fromOpenAIResponses parseFloat j' := by
  have differ {P : ResponsesBody → Prop} {rr : RouteRequest} {body : ResponsesBody}
      (normalizes : fromOpenAIResponses parseFloat j = .ok rr)
      (decodes : decodeResponsesBody {} j = some body) (holds : P body)
      (related : Option.Rel (fun body body' => ∀ rr, P body →
          responsesOf parseFloat body = .ok rr →
            responsesOf parseFloat body ≠ responsesOf parseFloat body')
        (decodeResponsesBody {} j) (decodeResponsesBody {} j')) :
      fromOpenAIResponses parseFloat j ≠ fromOpenAIResponses parseFloat j' := by
    obtain ⟨body, decodes', accepts⟩ := fromOpenAIResponses_eq_ok.mp normalizes
    obtain rfl := Option.some.inj (decodes.symm.trans decodes')
    rw [fromOpenAIResponses_eq, fromOpenAIResponses_eq]
    exact elim_ne (P := fun body => P body ∧ responsesOf parseFloat body = .ok rr)
      (rel_mono (fun _ _ apart both => apart rr both.1 both.2) related) decodes ⟨holds, accepts⟩
  cases shows_ with
  | input edit normalizes =>
      have inFields : inputField ∈ responsesBodyFields := by simp [responsesBodyFields]
      obtain ⟨body, decodes, -⟩ := fromOpenAIResponses_eq_ok.mp normalizes
      refine differ (P := fun _ => True) normalizes decodes trivial (rel_mono ?_
        (rel_nulls lawful_responsesBodyFields inFields rfl edit))
      rintro _ _ ⟨body, _, _, rfl, rfl, rfl, rfl⟩ rr - accepts same
      have lengths := congrArg (Option.map List.length) (responsesOf_eq accepts same).1
      simp only [appendResponsesInput, decodeString, Option.map_some, List.length_append,
        List.length_singleton, Option.some.injEq] at lengths
      omega
  | item edit normalizes =>
      obtain ⟨body, decodes, -⟩ := fromOpenAIResponses_eq_ok.mp normalizes
      refine differ (P := fun _ => True) normalizes decodes trivial (rel_mono ?_ (rel_input edit))
      rintro _ _ ⟨body, _, _, rfl, rfl, inputs⟩ rr - accepts same
      exact appendResponsesInput_ne inputs _ (responsesOf_eq accepts same).1
  | parameters edit decodes used normalizes =>
      refine differ (P := fun body => isToolChoiceNone body.toolChoice = false) normalizes decodes
        used (rel_mono ?_ (rel_parameters edit))
      rintro _ _ ⟨body, _, _, rfl, rfl, tools⟩ rr used accepts same
      have converted := (responsesOf_eq accepts same).2
      dsimp only at used converted
      rw [used] at converted
      exact convertResponsesTools_ne tools converted

theorem fromOpenAIResponses_congr (hidden : ¬ ResponsesShows parseFloat j j')
    (related : Option.Rel (fun body body' =>
        responsesOf parseFloat body = responsesOf parseFloat body' ∨
          body.model = body'.model ∧ (body.model ≠ "" → ResponsesShows parseFloat j j'))
      (decodeResponsesBody {} j) (decodeResponsesBody {} j')) :
    fromOpenAIResponses parseFloat j = fromOpenAIResponses parseFloat j' := by
  rw [fromOpenAIResponses_eq, fromOpenAIResponses_eq]
  refine elim_congr (rel_mono ?_ related)
  rintro body body' (same | ⟨same, shown⟩)
  · exact same
  · exact responsesOf_nameless (not_not.mp fun named_ => hidden (shown named_)) same

/-- A body with a model and input that is absent, a text or a list is accepted. -/
theorem fromOpenAIResponses_named {body : ResponsesBody} {msgs : List ChatMessage}
    (decodes : decodeResponsesBody {} j = some body) (named_ : body.model ≠ "")
    (input : appendResponsesInput parseFloat (instructionMessages body.instructions) body.input =
      some msgs) : ∃ rr, fromOpenAIResponses parseFloat j = .ok rr := by
  rw [fromOpenAIResponses_eq, decodes, Option.elim_some, responsesOf, if_neg named_, input]
  exact ⟨_, rfl⟩

theorem responsesOf_input {body : ResponsesBody} {raw raw' : Option Json}
    (same : ∀ msgs,
      appendResponsesInput parseFloat msgs raw = appendResponsesInput parseFloat msgs raw') :
    responsesOf parseFloat { body with input := raw } =
      responsesOf parseFloat { body with input := raw' } := by
  unfold responsesOf
  dsimp only
  rw [same]

theorem responsesOf_tools (body : ResponsesBody) (tools : List ResponsesTool) :
    responsesOf parseFloat { body with tools } =
      (responsesOf parseFloat body).map fun rr =>
        { rr with
          tools :=
            if isToolChoiceNone body.toolChoice then [] else convertResponsesTools tools } := by
  unfold responsesOf
  dsimp only
  split
  · rfl
  · split <;> rfl

/-- A null in the input does not show, or is one of those that do. -/
theorem fromOpenAIResponses_input (edit : Touches "input" j j')
    (hidden : ¬ ResponsesShows parseFloat j j') :
    fromOpenAIResponses parseFloat j = fromOpenAIResponses parseFloat j' := by
  have inFields : inputField ∈ responsesBodyFields := by simp [responsesBodyFields]
  rcases edit with nulls | ⟨v, v', rest, has, has', inner⟩
  · refine fromOpenAIResponses_congr hidden (rel_of_some ?_
      (rel_nulls lawful_responsesBodyFields inFields rfl nulls))
    rintro _ _ decodes ⟨body, _, _, rfl, rfl, rfl, rfl⟩
    refine Or.inr ⟨rfl, fun named_ => ?_⟩
    obtain ⟨rr, normalizes⟩ : ∃ rr, fromOpenAIResponses parseFloat j = .ok rr :=
      fromOpenAIResponses_named decodes named_ rfl
    exact .input nulls normalizes
  · refine fromOpenAIResponses_congr hidden (rel_of_some ?_
      (rel_raw_at lawful_responsesBodyFields inFields {} has has'))
    rintro _ _ decodes ⟨body, _, _, rfl, rfl, rfl, rfl⟩
    cases inner with
    | here => exact Or.inl (responsesOf_input fun _ => rfl)
    | member => exact Or.inl (responsesOf_input fun _ => rfl)
    | @element front back w w' inner =>
        by_cases shown : ItemShows parseFloat w w'
        · refine Or.inr ⟨rfl, fun named_ => ?_⟩
          obtain ⟨rr, normalizes⟩ : ∃ rr, fromOpenAIResponses parseFloat j = .ok rr :=
            fromOpenAIResponses_named decodes named_ (appendResponsesInput_array _ _)
          exact .item ⟨_, _, rest, has, has', front, w, w', back, rfl, rfl, shown⟩ normalizes
        · refine Or.inl (responsesOf_input fun msgs => ?_)
          rw [appendResponsesInput_array, appendResponsesInput_array, List.foldl_append,
            List.foldl_append, List.foldl_cons, List.foldl_cons,
            appendResponsesItem_edit inner shown]

/-- Nor does one in the tools. -/
theorem fromOpenAIResponses_tools (edit : InMember "tools" AddsNull j j')
    (hidden : ¬ ResponsesShows parseFloat j j') :
    fromOpenAIResponses parseFloat j = fromOpenAIResponses parseFloat j' := by
  rcases inMember_slice lawful_responsesBodyFields (.tail _ (.tail _ (.tail _ (.head _)))) {} rfl
    edit with same | ⟨_, _, rest, has, has', front, v, v', back, rfl, rfl, inner⟩
  · rw [fromOpenAIResponses_eq, fromOpenAIResponses_eq]
    exact congrArg (Option.elim · _ _) same
  · rcases inResponsesTool inner with same | touches
    · have edit : InMember "tools" (InElement fun v v' =>
          decodeResponsesTool {} v = decodeResponsesTool {} v') j j' :=
        ⟨_, _, rest, has, has', front, v, v', back, rfl, rfl, same⟩
      refine fromOpenAIResponses_congr hidden (rel_mono ?_
        (rel_inMember (S := Differ Eq) lawful_responsesBodyFields
          (.tail _ (.tail _ (.tail _ (.head _)))) {}
          (fun _ _ => rel_inElement fun _ _ same => rel_of_eq (fun _ => rfl) same) edit))
      rintro _ _ ⟨body, _, _, rfl, rfl, front, t, _, back, rfl, rfl, rfl⟩
      exact Or.inl rfl
    · have edit : InMember "tools" (InElement (Touches "parameters")) j j' :=
        ⟨_, _, rest, has, has', front, v, v', back, rfl, rfl, touches⟩
      refine fromOpenAIResponses_congr hidden (rel_of_some ?_ (rel_parameters edit))
      rintro _ _ decodes ⟨body, tools, tools', rfl, rfl, -⟩
      refine Or.inl ?_
      have accepted : responsesOf parseFloat { body with tools } = _ := responsesOf_tools body tools
      rw [accepted, responsesOf_tools body tools']
      cases result : responsesOf parseFloat body with
      | error e => rfl
      | ok rr =>
          cases used : isToolChoiceNone body.toolChoice with
          | true => rfl
          | false =>
              rw [result] at accepted
              exact absurd (.parameters edit decodes used
                (fromOpenAIResponses_eq_ok.mpr ⟨_, decodes, accepted⟩)) hidden

/-- A null in a Responses request shows only where `ResponsesShows` says. -/
theorem fromOpenAIResponses_null_iff (edit : AddsNull j j') :
    fromOpenAIResponses parseFloat j = fromOpenAIResponses parseFloat j' ↔
      ¬ ResponsesShows parseFloat j j' := by
  refine ⟨fun same shows_ => shows_.differ same, fun hidden => ?_⟩
  rcases inResponsesBody edit with same | (input | choice) | tools
  · rw [fromOpenAIResponses_eq, fromOpenAIResponses_eq, same]
  · exact fromOpenAIResponses_input input hidden
  · refine fromOpenAIResponses_congr hidden (rel_mono ?_ (rel_raw lawful_responsesBodyFields
      (.tail _ (.tail _ (.tail _ (.tail _ (.head _))))) rfl choice))
    rintro _ _ ⟨body, x, x', rfl, rfl, differ⟩
    refine Or.inl ?_
    unfold responsesOf
    dsimp only
    rw [isToolChoiceNone_edit differ]
  · exact fromOpenAIResponses_tools tools hidden

end KvIndexer.Normalize
