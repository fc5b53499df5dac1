import KvIndexer.Web.PolicyForm

/-!
Values of conditions as texts of the form.

The form holds the value of a condition as a text and reads it back in the type of the
field: a number, a boolean, or the text itself. A condition holds as before when what the
admission reads from the value it reads from the text (`Survives`, `holds_edited`); a
condition that holds of no request is indifferent to its value.
-/

namespace KvIndexer.Web

open Config Admission

/-! ### What a condition compares with -/

/-- The condition holds of the request and its hit. -/
def holds (platform : Platform) (r : Request) (hit : HitInfo) (cond : RuleCondition) : Bool :=
  match conditionValue r hit cond.field with
  | some actual => matchesCondition platform actual cond
  | none => false

def knownFields : List String :=
  [ConditionFieldClusterID, ConditionFieldModelID, ConditionFieldTenantID,
    ConditionFieldInputTokens, ConditionFieldHitRatio, ConditionFieldBestHitTokens,
    ConditionFieldEffectiveCachedTokens, ConditionFieldKVEventState, ConditionFieldTokenized,
    ConditionFieldHashSupported, ConditionFieldHasCandidates]

def orderOps : List String :=
  [ConditionOpGT, ConditionOpGTE, ConditionOpLT, ConditionOpLTE]

def listOps : List String := [ConditionOpIn, ConditionOpNotIn]

def knownOps : List String :=
  ["", ConditionOpEq, ConditionOpNeq, ConditionOpContains] ++ listOps ++ orderOps

section Values

variable {platform : Platform} {r : Request} {hit : HitInfo} {field : String} {actual : Value}

theorem conditionValue_unknown (unknown : field ∉ knownFields) :
    conditionValue r hit field = none := by
  simp only [knownFields, List.mem_cons, List.not_mem_nil, or_false, not_or] at unknown
  simp only [conditionValue, unknown, if_false]

/-- The fields the page takes for numbers are those that are numbers. -/
theorem number_of_numericField (numeric : numericField field = true)
    (value : conditionValue r hit field = some actual) :
    (∃ n, actual = .int n) ∨ ∃ x, actual = .float x := by
  simp only [numericField, List.mem_cons, List.not_mem_nil, or_false, decide_eq_true_eq] at numeric
  rcases numeric with rfl | rfl | rfl | rfl
  · exact Or.inl ⟨_, (Option.some.inj value).symm⟩
  · exact Or.inr ⟨_, (Option.some.inj value).symm⟩
  · exact Or.inl ⟨_, (Option.some.inj value).symm⟩
  · exact Or.inl ⟨_, (Option.some.inj value).symm⟩

/-- The fields it takes for booleans are those that are booleans. -/
theorem bool_of_booleanField (boolean : booleanField field = true)
    (value : conditionValue r hit field = some actual) : ∃ b, actual = .bool b := by
  simp only [booleanField, List.mem_cons, List.not_mem_nil, or_false, decide_eq_true_eq] at boolean
  rcases boolean with rfl | rfl | rfl <;> (cases value; exact ⟨_, rfl⟩)

end Values

/-! ### Values that survive the form -/

section Survival

variable (platform : Platform) (browser : Browser)

/-- A number prints so. -/
def Numeral (text : String) : Prop :=
  (∃ n : Int64, text = sprint platform (.int n)) ∨ ∃ x, text = sprint platform (.float x)

/-- The value equals no number: it is read as none, or as a NaN, and does not print as one. -/
def NoNumber (v : Value) : Prop :=
  (toFloat platform v).bind Float64.key = none ∧
    (toFloat platform v = none → ¬ Numeral platform (sprint platform v))

/-- The text reads, in the type of the field, as the value does. A number that JSON does not
have is sent as null. -/
def Reads (field : String) (v : Value) (text : String) : Prop :=
  if numericField field then
    (∃ x, jsonNumber (browser.toNumber text) = some x ∧
        (toFloat platform v).map Float64.key = some (Float64.key x)) ∨
      jsonNumber (browser.toNumber text) = none ∧ NoNumber platform v ∧ NoNumber platform .nil
  else if booleanField field then toBool v = some (text == "true")
  else toFloat platform v = platform.parseFloat text ∧ toBool v = parseBool text ∧
    sprint platform v = text

/-- The same for an order of numbers, which reads nothing but a number. -/
def ReadsNumber (field : String) (v : Value) (text : String) : Prop :=
  (toFloat platform v).bind Float64.key =
    (if numericField field then jsonNumber (browser.toNumber text)
      else platform.parseFloat text).bind Float64.key

/-- The same for `contains`: the value is printed into the same texts of the field as what is
read back. -/
def Prints (field : String) (v : Value) (text : String) : Prop :=
  if numericField field then
    ∀ numeral, Numeral platform numeral → contains numeral (sprint platform v) =
      contains numeral ((jsonNumber (browser.toNumber text)).elim "<nil>" platform.formatFloat)
  else if booleanField field then
    ∀ b ∈ ["true", "false"], contains b (sprint platform v) =
      contains b (if text == "true" then "true" else "false")
  else sprint platform v = text

/-- A condition that holds of no request, whatever its value. -/
def Dead (field op : String) : Prop :=
  field ∉ knownFields ∨ op ∉ knownOps ∨ booleanField field = true ∧ op ∈ orderOps

/-- The members of a list value; another value is its own member. -/
def members : Value → List Value
  | .list values => values
  | v => [v]

/-- The texts between the commas that the page keeps. -/
def listParts (field text : String) : List String :=
  ((splitComma text).map trim).filter fun part =>
    numericField field || booleanField field || part ≠ ""

/-- The text in which the form holds the value of a condition. -/
def shown (c : RuleCondition) : String := valueToInput browser (conditionJson c).value

/-- What the condition compares with is still in the text that the form shows. -/
def Survives (c : RuleCondition) : Prop :=
  Dead c.field c.op ∨
    if c.op ∈ listOps then
      List.Forall₂ (Reads platform browser c.field) (members c.value)
        (listParts c.field (shown browser c))
    else if c.op ∈ orderOps then ReadsNumber platform browser c.field c.value (shown browser c)
    else if c.op = ConditionOpContains then
      Prints platform browser c.field c.value (shown browser c)
    else Reads platform browser c.field c.value (shown browser c)

/-- A condition after it was in the form. -/
def edited (c : RuleCondition) : RuleCondition :=
  conditionOfJson (conditionFromDraft browser (draft browser (conditionJson c)))

variable {platform browser} {r : Request} {hit : HitInfo} {field text : String} {v actual : Value}

/-- The value that the page makes of a text for a field of numbers. -/
theorem toValue_parseSingleValue_numeric (numeric : numericField field = true) :
    toValue (parseSingleValue browser field text) =
      (jsonNumber (browser.toNumber text)).elim .nil .float := by
  rw [parseSingleValue, if_pos numeric, toValue]

theorem toValue_parseSingleValue_boolean (notNumeric : ¬ numericField field = true)
    (boolean : booleanField field = true) :
    toValue (parseSingleValue browser field text) = .bool (text == "true") := by
  rw [parseSingleValue, if_neg notNumeric, if_pos boolean, toValue]

theorem toValue_parseSingleValue_text (notNumeric : ¬ numericField field = true)
    (notBoolean : ¬ booleanField field = true) :
    toValue (parseSingleValue browser field text) = .string text := by
  rw [parseSingleValue, if_neg notNumeric, if_neg notBoolean, toValue]

/-- What a field of numbers holds is a number, and prints as one. -/
theorem numeral_of_numericField (numeric : numericField field = true)
    (value : conditionValue r hit field = some actual) :
    (∃ a, toFloat platform actual = some a) ∧ toBool actual = none ∧
      Numeral platform (sprint platform actual) := by
  rcases number_of_numericField numeric value with ⟨n, rfl⟩ | ⟨x, rfl⟩
  · exact ⟨⟨_, rfl⟩, rfl, Or.inl ⟨n, rfl⟩⟩
  · exact ⟨⟨_, rfl⟩, rfl, Or.inr ⟨x, rfl⟩⟩

/-- A field of numbers never equals what is no number. -/
theorem valuesEqual_noNumber (numeric : numericField field = true)
    (value : conditionValue r hit field = some actual) (none_ : NoNumber platform v) :
    valuesEqual platform actual v = false := by
  obtain ⟨⟨a, isNumber⟩, notBool, numeral⟩ :=
    @numeral_of_numericField platform r hit field actual numeric value
  obtain ⟨compared, printed⟩ := none_
  unfold valuesEqual
  rw [isNumber]
  cases number : toFloat platform v with
  | some x =>
      rw [number] at compared
      exact (Float64.compares_nan compared a).1
  | none =>
      simp only [notBool]
      rw [beq_eq_false_iff_ne]
      intro same
      exact printed number (same ▸ numeral)

/-- A value and the text it is read from compare alike with what the field holds. -/
theorem valuesEqual_reads (reads : Reads platform browser field v text)
    (value : conditionValue r hit field = some actual) :
    valuesEqual platform actual (toValue (parseSingleValue browser field text)) =
      valuesEqual platform actual v := by
  unfold Reads at reads
  by_cases numeric : numericField field = true
  · rw [if_pos numeric] at reads
    obtain ⟨⟨a, isNumber⟩, -⟩ := @numeral_of_numericField platform r hit field actual numeric value
    rw [toValue_parseSingleValue_numeric numeric]
    rcases reads with ⟨x, number, same⟩ | ⟨unread, noNumber, nilNoNumber⟩
    · obtain ⟨y, isY, keys⟩ := Option.map_eq_some_iff.mp same
      have parsed : toFloat platform (.float x) = some x := rfl
      rw [number, Option.elim_some, valuesEqual, valuesEqual, isNumber, isY, parsed]
      exact (Float64.compares_congr keys a).1.symm
    · rw [unread, Option.elim_none, valuesEqual_noNumber numeric value nilNoNumber,
        valuesEqual_noNumber numeric value noNumber]
  · rw [if_neg numeric] at reads
    by_cases boolean : booleanField field = true
    · rw [if_pos boolean] at reads
      obtain ⟨b, rfl⟩ := bool_of_booleanField boolean value
      have parsed : Admission.toBool (Value.bool (text == "true")) = some (text == "true") := rfl
      rw [toValue_parseSingleValue_boolean numeric boolean, valuesEqual, valuesEqual, reads, parsed]
      rfl
    · rw [if_neg boolean] at reads
      obtain ⟨number, truth, printed⟩ := reads
      rw [toValue_parseSingleValue_text numeric boolean, valuesEqual, valuesEqual, number, truth,
        printed]
      rfl

/-- Numbers of one key are in the same order with every number. -/
theorem compareNumeric_congr {v' : Value}
    (same : (toFloat platform v').bind Float64.key = (toFloat platform v).bind Float64.key)
    (op : String) : compareNumeric platform actual v' op = compareNumeric platform actual v op := by
  have undecided {a x : Float} (nan : Float64.key x = none) : (if op = ConditionOpGT then
      decide (a > x) else if op = ConditionOpGTE then decide (a ≥ x) else if op = ConditionOpLT then
      decide (a < x) else if op = ConditionOpLTE then decide (a ≤ x) else false) = false := by
    obtain ⟨-, lt, gt, le, ge⟩ := Float64.compares_nan nan a
    simp only [GT.gt, GE.ge, lt, gt, le, ge, decide_false, ite_self]
  unfold compareNumeric
  cases toFloat platform actual with
  | none => rfl
  | some a =>
      cases read : toFloat platform v with
      | none =>
          rw [read] at same
          cases read' : toFloat platform v' with
          | none => rfl
          | some y =>
              rw [read'] at same
              exact undecided same
      | some x =>
          rw [read] at same
          cases read' : toFloat platform v' with
          | none =>
              rw [read'] at same
              exact (undecided same.symm).symm
          | some y =>
              rw [read'] at same
              obtain ⟨-, lt, gt, le, ge⟩ := Float64.compares_congr same a
              simp only [GT.gt, GE.ge, lt, gt, le, ge]

theorem compareNumeric_reads (reads : ReadsNumber platform browser field v text)
    (number : booleanField field = false) (op : String) :
    compareNumeric platform actual (toValue (parseSingleValue browser field text)) op =
      compareNumeric platform actual v op := by
  refine compareNumeric_congr (Eq.trans ?_ reads.symm) op
  by_cases numeric : numericField field = true
  · rw [toValue_parseSingleValue_numeric numeric, if_pos numeric]
    cases jsonNumber (browser.toNumber text) <;> rfl
  · rw [toValue_parseSingleValue_text numeric (by simp [number]), if_neg numeric]
    rfl

theorem contains_prints (prints : Prints platform browser field v text)
    (value : conditionValue r hit field = some actual) :
    Admission.contains (sprint platform actual)
        (sprint platform (toValue (parseSingleValue browser field text))) =
      Admission.contains (sprint platform actual) (sprint platform v) := by
  unfold Prints at prints
  by_cases numeric : numericField field = true
  · rw [if_pos numeric] at prints
    obtain ⟨-, -, numeral⟩ := @numeral_of_numericField platform r hit field actual numeric value
    rw [toValue_parseSingleValue_numeric numeric, prints _ numeral]
    cases jsonNumber (browser.toNumber text) <;> rfl
  · rw [if_neg numeric] at prints
    by_cases boolean : booleanField field = true
    · rw [if_pos boolean] at prints
      obtain ⟨b, rfl⟩ := bool_of_booleanField boolean value
      rw [toValue_parseSingleValue_boolean numeric boolean, prints _ (by cases b <;> simp [sprint])]
      rfl
    · rw [if_neg boolean] at prints
      rw [toValue_parseSingleValue_text numeric boolean, prints, sprint]

/-! ### Lists -/

theorem toValues_eq_map (items : List Js) : toValues items = items.map toValue := by
  induction items with
  | nil => rfl
  | cons item items ih => rw [toValues, ih, List.map_cons]

theorem listContains_eq_any (list : Value) :
    listContains platform list actual = (members list).any (valuesEqual platform actual) := by
  cases list with
  | list values => rfl
  | _ => simp [listContains, members]

/-- The page drops the texts that are empty only where it keeps texts. -/
theorem notEmptyText_parseSingleValue (part : String) :
    notEmptyText (parseSingleValue browser field part) =
      (numericField field || booleanField field || part ≠ "") := by
  unfold parseSingleValue
  cases numericField field <;> cases booleanField field <;> simp [notEmptyText]

theorem parsed_parts (raw : String) :
    ((splitComma raw).map fun part => parseSingleValue browser field (trim part)).filter
        notEmptyText = (listParts field raw).map (parseSingleValue browser field) := by
  unfold listParts
  rw [← Function.comp_def (parseSingleValue browser field) trim, ← List.map_map, List.filter_map]
  congr 2
  funext part
  exact notEmptyText_parseSingleValue part

/-- A list is searched alike when the members are read alike. -/
theorem any_valuesEqual_reads {values : List Value} {parts : List String}
    (reads : List.Forall₂ (Reads platform browser field) values parts)
    (value : conditionValue r hit field = some actual) :
    (parts.map fun part => toValue (parseSingleValue browser field part)).any
        (valuesEqual platform actual) = values.any (valuesEqual platform actual) := by
  induction reads with
  | nil => rfl
  | cons first rest ih =>
      rw [List.map_cons, List.any_cons, List.any_cons, ih, valuesEqual_reads first value]

theorem listContains_reads {list : Value} {raw op : String} (inList : op ∈ listOps)
    (reads : List.Forall₂ (Reads platform browser field) (members list) (listParts field raw))
    (value : conditionValue r hit field = some actual) :
    listContains platform (toValue (parseConditionValue browser field op raw)) actual =
      listContains platform list actual := by
  have split : op = "in" ∨ op = "not_in" := by
    simpa [listOps, ConditionOpIn, ConditionOpNotIn] using inList
  rw [parseConditionValue, if_pos split, parsed_parts, toValue, toValues_eq_map, List.map_map,
    listContains_eq_any, listContains_eq_any]
  exact any_valuesEqual_reads reads value

/-! ### One condition -/

/-- A dead condition stays dead with any value. -/
theorem holds_dead {op : String} (dead : Dead field op) (v : Value) :
    holds platform r hit ⟨field, op, v⟩ = false := by
  unfold holds
  rcases dead with unknown | unknown | ⟨boolean, order⟩
  · rw [conditionValue_unknown unknown]
  · cases conditionValue r hit field with
    | none => rfl
    | some actual =>
        simp only [knownOps, listOps, orderOps, List.cons_append, List.nil_append, List.mem_cons,
          List.not_mem_nil, or_false, not_or] at unknown
        simp [matchesCondition, unknown]
  · cases value : conditionValue r hit field with
    | none => rfl
    | some actual =>
        obtain ⟨b, rfl⟩ := bool_of_booleanField boolean value
        simp only [orderOps, List.mem_cons, List.not_mem_nil, or_false] at order
        rcases order with rfl | rfl | rfl | rfl <;> rfl

/-- The form writes the missing operator out. -/
def formOp (op : String) : String := if op = "" then "eq" else op

theorem formOp_ne_empty (op : String) : formOp op ≠ "" := by
  unfold formOp
  split
  · decide
  · assumption

theorem matchesCondition_formOp (op : String) (v : Value) :
    matchesCondition platform actual ⟨field, formOp op, v⟩ =
      matchesCondition platform actual ⟨field, op, v⟩ := by
  by_cases missing : op = ""
  · subst missing
    rfl
  · rw [formOp, if_neg missing]

theorem dead_formOp {op : String} (dead : Dead field op) : Dead field (formOp op) := by
  by_cases missing : op = ""
  · subst missing
    refine Or.inl (dead.resolve_right fun rest => ?_)
    rcases rest with unknown | ⟨-, order⟩
    · exact unknown (by decide)
    · exact absurd order (by decide)
  · rwa [formOp, if_neg missing]

/-- Only the list operators have their text split. -/
theorem parseConditionValue_single {op : String} (single : op ∉ listOps) (raw : String) :
    parseConditionValue browser field (formOp op) raw = parseSingleValue browser field raw := by
  simp only [listOps, List.mem_cons, List.not_mem_nil, or_false, not_or] at single
  unfold parseConditionValue formOp
  split
  · rw [if_neg (by decide)]
  · exact if_neg (not_or.mpr single)

theorem notMem_listOps_of_order {op : String} (order : op ∈ orderOps) : op ∉ listOps := by
  simp only [orderOps, List.mem_cons, List.not_mem_nil, or_false] at order
  rcases order with rfl | rfl | rfl | rfl <;> decide

/-- A value that compares alike under its operator matches alike. -/
theorem matchesCondition_congr {op : String} {v' : Value} (known : op ∈ knownOps)
    (lists : op ∈ listOps → listContains platform v' actual = listContains platform v actual)
    (orders : op ∈ orderOps →
      compareNumeric platform actual v' op = compareNumeric platform actual v op)
    (contains : op = ConditionOpContains →
      Admission.contains (sprint platform actual) (sprint platform v') =
        Admission.contains (sprint platform actual) (sprint platform v))
    (equal : op ∉ listOps → op ∉ orderOps → op ≠ ConditionOpContains →
      valuesEqual platform actual v' = valuesEqual platform actual v) :
    matchesCondition platform actual ⟨field, op, v'⟩ =
      matchesCondition platform actual ⟨field, op, v⟩ := by
  simp only [knownOps, listOps, orderOps, List.cons_append, List.nil_append, List.mem_cons,
    List.not_mem_nil, or_false] at known
  rcases known with rfl | rfl | rfl | rfl | rfl | rfl | rfl | rfl | rfl | rfl
  · exact equal (by decide) (by decide) (by decide)
  · exact equal (by decide) (by decide) (by decide)
  · exact congrArg not (equal (by decide) (by decide) (by decide))
  · exact contains rfl
  · exact lists (by decide)
  · exact congrArg not (lists (by decide))
  · exact orders (by decide)
  · exact orders (by decide)
  · exact orders (by decide)
  · exact orders (by decide)

/-- A condition that survives the form holds as before. -/
theorem holds_edited {c : RuleCondition} (survives : Survives platform browser c) :
    holds platform r hit (edited browser c) = holds platform r hit c := by
  obtain ⟨field, op, v⟩ := c
  have form : edited browser ⟨field, op, v⟩ = ⟨field, formOp op,
    toValue (parseConditionValue browser field (formOp op) (shown browser ⟨field, op, v⟩))⟩ := rfl
  rw [form]
  unfold Survives at survives
  dsimp only at survives
  generalize shown browser ⟨field, op, v⟩ = raw at survives ⊢
  by_cases dead : Dead field op
  · rw [holds_dead (dead_formOp dead), holds_dead dead]
  have compares := survives.resolve_left dead
  obtain ⟨-, known, live⟩ : field ∈ knownFields ∧ op ∈ knownOps ∧
      ¬ (booleanField field = true ∧ op ∈ orderOps) := by
    simpa [Dead, not_or] using dead
  unfold holds
  cases value : conditionValue r hit field with
  | none => rfl
  | some actual =>
      show matchesCondition platform actual ⟨field, formOp op, _⟩ = _
      rw [matchesCondition_formOp]
      refine matchesCondition_congr known (fun inList => ?_) (fun order => ?_) (fun contains => ?_)
        fun single notOrder notContains => ?_
      · have written : formOp op = op := if_neg fun missing => by
          rw [missing] at inList
          exact absurd inList (by decide)
        rw [if_pos inList] at compares
        rw [written]
        exact listContains_reads inList compares value
      · have single := notMem_listOps_of_order order
        rw [if_neg single, if_pos order] at compares
        rw [parseConditionValue_single single]
        refine compareNumeric_reads compares ?_ op
        simpa using fun boolean => live ⟨boolean, order⟩
      · subst contains
        rw [if_neg (by decide), if_neg (by decide), if_pos rfl] at compares
        rw [parseConditionValue_single (by decide)]
        exact contains_prints compares value
      · rw [if_neg single, if_neg notOrder, if_neg notContains] at compares
        rw [parseConditionValue_single single]
        exact valuesEqual_reads compares value

end Survival

end KvIndexer.Web
