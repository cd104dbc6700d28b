import IntegrationPlatform.Triggers.Filters
import IntegrationPlatform.Workflow.Executors
import Mathlib.Algebra.Order.Ring.Rat

/-!
# Conditions of workflow nodes

`_evaluate_condition` tries each comparison on the values as they are and then on the values that
`_coerce_types` makes of them. `numeric_iff` says when its answers are those of the order of the numbers,
and `filter_agrees_iff` when a trigger filter, which is evaluated by another function, gives the same
answer.
-/

namespace IntegrationPlatform

open Value

namespace Conditions

/-! ## Comparisons -/

/-- The keys of `OPERATOR_MAP`. -/
inductive Comparison where
  | eq
  | neq
  | gt
  | lt
  | gte
  | lte
deriving DecidableEq, Repr

namespace Comparison

/-- The name of a comparison in a condition. -/
def name : Comparison → String
  | .eq => "eq"
  | .neq => "neq"
  | .gt => "gt"
  | .lt => "lt"
  | .gte => "gte"
  | .lte => "lte"

/-- The comparison is one of `>`, `<`, `>=` and `<=`. -/
def isOrder : Comparison → Bool
  | .eq => false
  | .neq => false
  | _ => true

/-- What a comparison says of values that are equal or not, and ordered in this way. There is no answer
where Python raises a `TypeError`. -/
def apply (comparison : Comparison) (equal : Bool) (order : Option Ordering) : Option Bool :=
  match comparison with
  | .eq => some equal
  | .neq => some !equal
  | .gt => order.map Ordering.isGT
  | .lt => order.map Ordering.isLT
  | .gte => order.map Ordering.isGE
  | .lte => order.map Ordering.isLE

/-- The comparison of two elements of a linear order. -/
def decides {α : Type} [LT α] [DecidableLT α] [DecidableEq α] (comparison : Comparison)
    (first second : α) : Bool :=
  (comparison.apply (first == second) (some (compareOfLessAndEq first second))).getD false

/-- `OPERATOR_MAP[op](left, right)`, and false where it raises a `TypeError`. -/
def holds (comparison : Comparison) (left right : Operand) : Bool :=
  (comparison.apply (left.pyEq right) (left.order right)).getD false

end Comparison

section Evaluation

variable (texts : TextFunctions)

/-- The branch of `_evaluate_condition` for the keys of `OPERATOR_MAP`. -/
def compare (comparison : Comparison) (actual expected : Value) : Bool :=
  comparison.holds (.json actual) (.json expected) ||
    comparison.holds (coerceTypes texts actual expected).1 (coerceTypes texts actual expected).2

/-- `actual in (expected if isinstance(expected, list) else [expected])`. -/
def isAmong (expected actual : Value) : Except String Bool :=
  actual.pyIn
    (match expected with
    | .list items => .list items
    | _ => .list [expected])

/-- What an operator makes of the value of a field. -/
def applyOperator (expected actual : Value) : FilterOperator → Except String Bool
  | .eq => .ok (compare texts .eq actual expected)
  | .neq => .ok (compare texts .neq actual expected)
  | .gt => .ok (compare texts .gt actual expected)
  | .lt => .ok (compare texts .lt actual expected)
  | .gte => .ok (compare texts .gte actual expected)
  | .lte => .ok (compare texts .lte actual expected)
  | .contains => if actual.truthy then expected.pyIn actual else .ok false
  | .notContains => if actual.truthy then (expected.pyIn actual).map not else .ok true
  | .startsWith => .ok (Filters.textEnd texts List.isPrefixOf actual expected)
  | .endsWith => .ok (Filters.textEnd texts List.isSuffixOf actual expected)
  | .isPresent => .ok (!actual.pyEq .null)
  | .notExists => .ok (actual.pyEq .null)
  | .isIn => isAmong expected actual
  | .notIn => (isAmong expected actual).map not
  | .regex =>
      if actual.pyEq .null then .ok false
      else Filters.safeRegexSearch texts (texts.str expected) (texts.str actual)
  | .isEmpty => .ok (!actual.truthy)
  | .isNotEmpty => .ok actual.truthy
  | .other => .ok false

/-- The operator with this name. The two names that only trigger filters know are no operators here. -/
def operatorNamed (name : String) : FilterOperator :=
  if name = "equals" ∨ name = "not_equals" then .other else .named name

/-! ## Fields -/

/-- What follows a prefix of a text. -/
def afterPrefix (lead text : String) : Option String :=
  if lead.toList.isPrefixOf text.toList then some (String.ofList (text.toList.drop lead.length))
  else none

/-- The value of a path into the output of a node. -/
def resolveNode (scope : Scope) (path : String) : Value :=
  let nodeOutput := scope.getNodeOutput (String.ofList (path.toList.takeWhile (· ≠ '.')))
  match path.toList.dropWhile (· ≠ '.') with
  | _ :: rest =>
      match nodeOutput with
      | .dict fields => getNested texts (.dict fields) (String.ofList rest)
      | _ => nodeOutput
  | [] => nodeOutput

/-- The value of a path into the item of a batch. -/
def resolveItem (scope : Scope) (path : String) : Value :=
  match scope.vars.find "batch_item" with
  | some (.dict fields) => getNested texts (.dict fields) path
  | _ => .null

def resolveValue (path : String) (scope : Scope) : Value :=
  if path = "" then .null
  else
    match afterPrefix "vars." path with
    | some rest => getNested texts (.dict scope.vars) rest
    | none =>
        match afterPrefix "nodes." path with
        | some rest => resolveNode texts scope rest
        | none =>
            match afterPrefix "trigger." path with
            | some rest => getNested texts (.dict scope.triggerData) rest
            | none =>
                match afterPrefix "item." path with
                | some rest => resolveItem texts scope rest
                | none =>
                    getNested texts (.dict scope.data) ((afterPrefix "data." path).getD path)

/-! ## Conditions -/

variable (interpolateString : String → Scope → String)

/-- The value of a condition, with its placeholders filled in. -/
def interpolated (scope : Scope) : Value → Value
  | .str text =>
      if WorkflowEngine.hasPlaceholder text.toList then .str (interpolateString text scope)
      else .str text
  | value => value

/-- The value of the field of a condition. A path that is not a text raises, unless it is empty. -/
def fieldValue (scope : Scope) : Value → Except String Value
  | .str path => .ok (resolveValue texts path scope)
  | field =>
      if field.truthy then
        .error ("'" ++ field.typeName ++ "' object has no attribute 'startswith'")
      else .ok .null

/-- What the operator of a condition makes of the value of its field. -/
def applyNamed (expected : Value) (operator actual : Value) : Except String Bool :=
  match operator with
  | .str name => applyOperator texts expected actual (operatorNamed name)
  | _ =>
      if operator.hashable then .ok false
      else .error ("unhashable type: '" ++ operator.typeName ++ "'")

def evaluateCondition (condition : Value) (scope : Scope) : Except String Bool :=
  match condition with
  | .dict fields =>
      (fieldValue texts scope ((Assoc.find fields "field").getD (.str ""))).bind
        (applyNamed texts (interpolated interpolateString scope (Filters.expectedOf fields))
          ((Assoc.find fields "operator").getD (.str "eq")))
  | _ => .error ("'" ++ condition.typeName ++ "' object has no attribute 'get'")

/-- A condition on a field. -/
def conditionOf (field operator : String) (value : Value) : Dict :=
  [("field", .str field), ("operator", .str operator), ("value", value)]

theorem evaluateCondition_conditionOf (field operator : String) (value : Value) (scope : Scope) :
    evaluateCondition texts interpolateString (.dict (conditionOf field operator value)) scope =
      applyOperator texts (interpolated interpolateString scope value)
        (resolveValue texts field scope) (operatorNamed operator) :=
  rfl

/-! ## Values of one type and of two types -/

section Types

variable {texts} {left right : Value}

theorem coerceTypes_of_eq (h : left.typeName = right.typeName) :
    coerceTypes texts left right = (.json left, .json right) := by
  unfold coerceTypes
  rw [if_pos h]

variable {first second : Rat}

theorem coerceTypes_numbers (h : left.typeName ≠ right.typeName)
    (hleft : left.number? = some first) (hright : right.number? = some second) :
    coerceTypes texts left right = (asText texts left, asText texts right) := by
  unfold coerceTypes
  rw [if_neg h]
  cases left <;> cases hleft <;> cases right <;> cases hright <;> rfl

theorem compared_of_ne (h : left.typeName ≠ right.typeName) :
    left.pyEq right = (left.number?.bind fun first => right.number?.map (first == ·)).getD false ∧
      left.order right = left.number?.bind fun first =>
        right.number?.map fun second => compareOfLessAndEq first second := by
  cases left <;> cases right <;> first
    | exact absurd rfl h
    | exact ⟨rfl, rfl⟩

theorem holds_numbers (comparison : Comparison)
    (hleft : left.number? = some first) (hright : right.number? = some second) :
    comparison.holds (.json left) (.json right) = comparison.decides first second := by
  have hequal : left.pyEq right = (first == second) := by
    cases left <;> cases hleft <;> cases right <;> cases hright <;> rfl
  have horder : left.order right = some (compareOfLessAndEq first second) := by
    cases left <;> cases hleft <;> cases right <;> cases hright <;> rfl
  show (comparison.apply (left.pyEq right) (left.order right)).getD false = _
  rw [hequal, horder]
  rfl

theorem holds_texts (comparison : Comparison) (first second : String) :
    comparison.holds (.json (.str first)) (.json (.str second)) = comparison.decides first second := by
  show (comparison.apply ((Value.str first).pyEq (.str second))
    ((Value.str first).order (.str second))).getD false = _
  rw [Value.pyEq, Value.order]
  rfl

theorem holds_of_not_numbers (comparison : Comparison) (htype : left.typeName ≠ right.typeName)
    (h : ¬ ∃ first second, left.number? = some first ∧ right.number? = some second) :
    comparison.holds (.json left) (.json right) = decide (comparison = .neq) := by
  have hnone : (left.pyEq right = false) ∧ left.order right = none := by
    rw [(compared_of_ne htype).1, (compared_of_ne htype).2]
    cases hfirst : left.number? with
    | none => exact ⟨rfl, rfl⟩
    | some first =>
        cases hsecond : right.number? with
        | none => exact ⟨rfl, rfl⟩
        | some second => exact absurd ⟨first, second, hfirst, hsecond⟩ h
  show (comparison.apply (left.pyEq right) (left.order right)).getD false = _
  rw [hnone.1, hnone.2]
  cases comparison <;> rfl

theorem compare_of_eq (comparison : Comparison) (h : left.typeName = right.typeName) :
    compare texts comparison left right = comparison.holds (.json left) (.json right) := by
  unfold compare
  rw [coerceTypes_of_eq h]
  exact Bool.or_self _

theorem compare_numbers (comparison : Comparison)
    (h : left.typeName ≠ right.typeName) (hleft : left.number? = some first)
    (hright : right.number? = some second) :
    compare texts comparison left right =
      (comparison.decides first second ||
        comparison.decides (texts.str left) (texts.str right)) := by
  unfold compare
  rw [coerceTypes_numbers h hleft hright, holds_numbers comparison hleft hright]
  exact congrArg _ (holds_texts comparison _ _)

end Types

/-! ## Trigger filters -/

/-- Two evaluations give the same result, or both raise. -/
def Agree (first second : Except String Bool) : Prop :=
  first.toOption = second.toOption

/-- The path is resolved in the data of the workflow: it starts with no name of another place. -/
def InData (path : String) : Prop :=
  path ≠ "" ∧ ∀ lead ∈ ["vars.", "nodes.", "trigger.", "item.", "data."], afterPrefix lead path = none

/-- The value has no placeholder. -/
def Literal (value : Value) : Prop :=
  ∀ text, value = .str text → WorkflowEngine.hasPlaceholder text.toList = false

/-- Two numbers of different types: they are equal although their texts are not, or they are in an order
in which their texts are not. -/
def Diverges (operator : FilterOperator) (actual expected : Value) : Prop :=
  actual.typeName ≠ expected.typeName ∧ ∃ first second, actual.number? = some first ∧
    expected.number? = some second ∧
    (operator = .neq ∧ first = second ∧ texts.str actual ≠ texts.str expected ∨
      ∃ comparison : Comparison, comparison.isOrder = true ∧ operator = .named comparison.name ∧
        comparison.decides first second = true ∧
        comparison.decides (texts.str actual) (texts.str expected) = false)

section Filters

variable {texts interpolateString}

theorem resolveValue_inData {path : String} (h : InData path) (scope : Scope) :
    resolveValue texts path scope = getNested texts (.dict scope.data) path := by
  obtain ⟨hne, hleads⟩ := h
  unfold resolveValue
  rw [if_neg hne, hleads "vars." (by simp), hleads "nodes." (by simp), hleads "trigger." (by simp),
    hleads "item." (by simp), hleads "data." (by simp)]
  rfl

theorem interpolated_literal {value : Value} (h : Literal value) (scope : Scope) :
    interpolated interpolateString scope value = value := by
  cases value with
  | str text =>
      have hnone := h text rfl
      simp only [interpolated, hnone]
      rfl
  | _ => rfl

theorem named_of_operatorNamed {name : String} (h : operatorNamed name ≠ .other) :
    FilterOperator.named name = operatorNamed name := by
  unfold operatorNamed at h ⊢
  split at h
  · exact absurd rfl h
  · next hname => rw [if_neg hname]

theorem compareCoerced_eq (comparison : Comparison) {test : Ordering → Bool}
    (htest : ∀ equal order, comparison.apply equal order = order.map test) (actual expected : Value) :
    Filters.compareCoerced texts test actual expected =
      comparison.holds (coerceTypes texts actual expected).1 (coerceTypes texts actual expected).2 := by
  unfold Comparison.holds Filters.compareCoerced
  rw [htest]
  cases (coerceTypes texts actual expected).1.order (coerceTypes texts actual expected).2 <;> rfl

theorem named_name_inj {comparison comparison' : Comparison}
    (h : FilterOperator.named comparison.name = .named comparison'.name) : comparison = comparison' := by
  cases comparison <;> cases comparison' <;> first
    | rfl
    | exact absurd h (by decide)

/-- An order of a trigger filter is that of the condition node, except for numbers of two types. -/
theorem compareCoerced_eq_iff (comparison : Comparison) (horder : comparison.isOrder = true)
    {test : Ordering → Bool}
    (htest : ∀ equal order, comparison.apply equal order = order.map test) (actual expected : Value) :
    Filters.compareCoerced texts test actual expected = compare texts comparison actual expected ↔
      ¬ Diverges texts (.named comparison.name) actual expected := by
  rw [compareCoerced_eq comparison htest]
  by_cases htype : actual.typeName = expected.typeName
  · rw [compare_of_eq comparison htype, coerceTypes_of_eq htype]
    exact iff_of_true rfl fun h => h.1 htype
  · by_cases hnumbers : ∃ first second, actual.number? = some first ∧ expected.number? = some second
    · obtain ⟨first, second, hfirst, hsecond⟩ := hnumbers
      have hcoerced : comparison.holds (asText texts actual) (asText texts expected) = _ :=
        holds_texts comparison (texts.str actual) (texts.str expected)
      rw [compare_numbers comparison htype hfirst hsecond, coerceTypes_numbers htype hfirst hsecond,
        hcoerced]
      constructor
      · rintro hsame ⟨-, first', second', hfirst', hsecond', hdiverges⟩
        obtain rfl := Option.some.inj (hfirst.symm.trans hfirst')
        obtain rfl := Option.some.inj (hsecond.symm.trans hsecond')
        rcases hdiverges with ⟨hneq, -⟩ | ⟨comparison', -, hname, htrue, hfalse⟩
        · obtain rfl : comparison = .neq := named_name_inj hneq
          cases horder
        · obtain rfl := named_name_inj hname
          rw [htrue, hfalse] at hsame
          cases hsame
      · intro hnot
        cases htrue : comparison.decides first second with
        | false => rfl
        | true =>
            cases hfalse : comparison.decides (texts.str actual) (texts.str expected) with
            | true => rfl
            | false =>
                exact absurd ⟨htype, first, second, hfirst, hsecond,
                  .inr ⟨comparison, horder, rfl, htrue, hfalse⟩⟩ hnot
    · refine iff_of_true ?_ fun h => ?_
      · unfold compare
        have hneq : comparison ≠ .neq := by
          rintro rfl
          cases horder
        rw [holds_of_not_numbers comparison htype hnumbers, decide_eq_false hneq, Bool.false_or]
      · obtain ⟨-, first, second, hfirst, hsecond, -⟩ := h
        exact hnumbers ⟨first, second, hfirst, hsecond⟩

/-- The inequality of a trigger filter is that of the condition node, except for equal numbers of two
types. -/
theorem not_pyEq_eq_iff (actual expected : Value) :
    (!actual.pyEq expected) = compare texts .neq actual expected ↔
      ¬ Diverges texts .neq actual expected := by
  have hraw : Comparison.holds .neq (.json actual) (.json expected) = !actual.pyEq expected := rfl
  have hneq : ∀ comparison : Comparison, comparison.isOrder = true →
      FilterOperator.neq ≠ .named comparison.name := by
    intro comparison horder hname
    obtain rfl : Comparison.neq = comparison := named_name_inj hname
    cases horder
  by_cases htype : actual.typeName = expected.typeName
  · rw [compare_of_eq _ htype, hraw]
    exact iff_of_true rfl fun h => h.1 htype
  · have hequal := (compared_of_ne htype).1
    by_cases hnumbers : ∃ number, actual.number? = some number ∧ expected.number? = some number
    · obtain ⟨number, hfirst, hsecond⟩ := hnumbers
      have hsame : actual.pyEq expected = true := by
        rw [hequal, hfirst, hsecond]
        exact beq_self_eq_true number
      rw [compare_numbers _ htype hfirst hsecond, hsame]
      constructor
      · rintro hfilter ⟨-, first, second, -, -, hdiverges⟩
        rcases hdiverges with ⟨-, -, htexts⟩ | ⟨comparison, horder, hname, -⟩
        · simp [Comparison.decides, Comparison.apply, htexts] at hfilter
        · exact hneq comparison horder hname
      · intro hnot
        by_cases htexts : texts.str actual = texts.str expected
        · simp [Comparison.decides, Comparison.apply, htexts]
        · exact absurd ⟨htype, number, number, hfirst, hsecond, .inl ⟨rfl, rfl, htexts⟩⟩ hnot
    · have hdifferent : actual.pyEq expected = false := by
        rw [hequal]
        cases hfirst : actual.number? with
        | none => rfl
        | some first =>
            cases hsecond : expected.number? with
            | none => rfl
            | some second =>
                refine beq_false_of_ne fun heq => hnumbers ⟨first, hfirst, ?_⟩
                rw [hsecond, heq]
      refine iff_of_true ?_ fun h => ?_
      · unfold compare
        rw [hraw, hdifferent]
        rfl
      · obtain ⟨-, first, second, hfirst, hsecond, hdiverges⟩ := h
        rcases hdiverges with ⟨-, rfl, -⟩ | ⟨comparison, horder, hname, -⟩
        · exact hnumbers ⟨first, hfirst, hsecond⟩
        · exact hneq comparison horder hname

variable (interpolateString)

theorem named_of_isOrder {comparison : Comparison} (h : comparison.isOrder = true) :
    FilterOperator.named comparison.name ∈ [FilterOperator.gt, .lt, .gte, .lte] := by
  cases comparison <;> first
    | decide
    | cases h

theorem not_diverges {operator : FilterOperator}
    (h : operator ∉ [FilterOperator.neq, .gt, .lt, .gte, .lte]) (actual expected : Value) :
    ¬ Diverges texts operator actual expected := by
  rintro ⟨-, first, second, -, -, hdiverges⟩
  rcases hdiverges with ⟨rfl, -⟩ | ⟨comparison, horder, rfl, -⟩
  · exact h List.mem_cons_self
  · exact h (List.mem_cons_of_mem _ (named_of_isOrder horder))

theorem applyOperator_agree_iff {operator : FilterOperator} (hoperator : operator ≠ .other)
    {condition : Dict} (hvalues : Assoc.find condition "values" = none) (expected actual : Value) :
    Agree (Filters.applyOperator texts condition expected actual operator)
        (applyOperator texts expected actual operator) ↔ ¬ Diverges texts operator actual expected := by
  have hsame : ∀ {answer answer' : Bool},
      Agree (.ok answer) (.ok answer') ↔ answer = answer' := by
    intro answer answer'
    exact ⟨fun h => Option.some.inj h, fun h => congrArg some h⟩
  cases operator with
  | neq => exact hsame.trans (not_pyEq_eq_iff actual expected)
  | gt => exact hsame.trans (compareCoerced_eq_iff .gt rfl (fun _ _ => rfl) actual expected)
  | lt => exact hsame.trans (compareCoerced_eq_iff .lt rfl (fun _ _ => rfl) actual expected)
  | gte => exact hsame.trans (compareCoerced_eq_iff .gte rfl (fun _ _ => rfl) actual expected)
  | lte => exact hsame.trans (compareCoerced_eq_iff .lte rfl (fun _ _ => rfl) actual expected)
  | isIn =>
      refine iff_of_true ?_ (not_diverges (by decide) actual expected)
      unfold Filters.applyOperator Filters.valuesOf
      rw [hvalues]
      rfl
  | notIn =>
      refine iff_of_true ?_ (not_diverges (by decide) actual expected)
      unfold Filters.applyOperator Filters.valuesOf
      rw [hvalues]
      rfl
  | other => exact absurd rfl hoperator
  | _ => exact iff_of_true rfl (not_diverges (by decide) actual expected)

/-- A trigger filter and a condition node give the same answer exactly if the operator does not diverge on
the value of the field. -/
theorem filter_agrees_iff (interpolateString : String → Scope → String) {field operator : String}
    {value : Value} (hfield : InData field) (hoperator : operatorNamed operator ≠ .other)
    (hvalue : Literal value) (scope : Scope) :
    Agree (Filters.evaluateTriggerFilter texts (.dict (conditionOf field operator value)) scope.data)
        (evaluateCondition texts interpolateString (.dict (conditionOf field operator value)) scope) ↔
      ¬ Diverges texts (operatorNamed operator) (getNested texts (.dict scope.data) field) value := by
  have hfilter : Filters.evaluateTriggerFilter texts (.dict (conditionOf field operator value))
      scope.data = Filters.applyOperator texts (conditionOf field operator value) value
        (getNested texts (.dict scope.data) field) (.named operator) := by
    have htruthy : (Value.str field).truthy = true := bne_iff_ne.mpr hfield.1
    show (if (Value.str field).truthy = true then _ else _) = _
    rw [if_pos htruthy]
    rfl
  rw [hfilter, named_of_operatorNamed hoperator, evaluateCondition_conditionOf,
    interpolated_literal hvalue, resolveValue_inData hfield]
  exact applyOperator_agree_iff hoperator rfl _ _

end Filters

/-! ## Numbers -/

/-- The number that a value is, or that it spells. -/
def numberOf : Value → Option Rat
  | .int number => some number
  | .float number => some number
  | .str text =>
      match texts.int text with
      | some number => some number
      | none =>
          match texts.float text with
          | some (.finite number) => some number
          | _ => none
  | _ => none

/-- A number compares with a text as the two numbers do: read as a number of the same type or, where it
spells none, as a text. `!=` is never asked about what the text spells. -/
def ReadRight (comparison : Comparison) (first second : Rat) (number : Value) (text : String)
    (inOrder : Operand → Operand → Bool) : Prop :=
  if comparison = .neq then first ≠ second
  else
    match readAs texts number text with
    | some spelled => inOrder (.json number) spelled = comparison.decides first second
    | none => inOrder (asText texts number) (.json (.str text)) = comparison.decides first second

/-- The values compare as the numbers that they are or spell. Two texts compare as texts, a number and a
text as `ReadRight` says, and numbers of two types once as numbers and once as texts. -/
def ComparesNumbers (comparison : Comparison) (first second : Rat) : Value → Value → Prop
  | .str left, .str right => comparison.decides left right = comparison.decides first second
  | .str text, number =>
      ReadRight texts comparison first second number text fun right left => comparison.holds left right
  | number, .str text =>
      ReadRight texts comparison first second number text fun left right => comparison.holds left right
  | left, right => left.typeName = right.typeName ∨ comparison.decides first second = true ∨
      comparison.decides (texts.str left) (texts.str right) = false

/-- The text is what a value is compared with when it is compared with the text: a number with what its
type makes of the text, where that does not raise, and anything else with the text. -/
def Spells (text : String) (value : Value) : Prop :=
  if value.isNumber then
    match readAs texts value text with
    | some (.json spelled) => value.pyEq spelled = true
    | some _ => False
    | none => texts.str value = text
  else texts.str value = texts.str (.str text)

/-- Coercion changes nothing about whether the values are equal: they are of one type, or a text does not
spell the other value, or the values are equal exactly if their texts are. -/
def EqualTwice : Value → Value → Prop
  | .str _, .str _ => True
  | .str text, value => ¬ Spells texts text value
  | value, .str text => ¬ Spells texts text value
  | left, right => left.typeName = right.typeName ∨
      (left.pyEq right = true ↔ texts.str left = texts.str right)

section Numbers

variable {texts interpolateString} {left right : Value}

theorem typeName_of_isNumber (h : left.isNumber = true) (text : String) :
    left.typeName ≠ (Value.str text).typeName := by
  cases left <;> first
    | exact absurd h Bool.false_ne_true
    | simp [typeName]

theorem coerceTypes_number_text (h : left.isNumber = true) (text : String) :
    coerceTypes texts left (.str text) = (readAs texts left text).elim
      (asText texts left, .json (.str text)) fun read => (.json left, read) := by
  cases hread : readAs texts left text <;> cases left <;> first
    | exact absurd h Bool.false_ne_true
    | simp [coerceTypes, isNumber, typeName, hread]

theorem coerceTypes_text_number (h : right.isNumber = true) (text : String) :
    coerceTypes texts (.str text) right = (readAs texts right text).elim
      (.json (.str text), asText texts right) fun read => (read, .json right) := by
  cases hread : readAs texts right text <;> cases right <;> first
    | exact absurd h Bool.false_ne_true
    | simp [coerceTypes, isNumber, typeName, hread]

theorem coerceTypes_texts (htype : left.typeName ≠ right.typeName)
    (hleft : left.isNumber = true → ∀ text, right ≠ .str text)
    (hright : right.isNumber = true → ∀ text, left ≠ .str text) :
    coerceTypes texts left right = (asText texts left, asText texts right) := by
  unfold coerceTypes
  rw [if_neg htype]
  cases left <;> cases right <;> first
    | rfl
    | exact absurd rfl (hleft rfl _)
    | exact absurd rfl (hright rfl _)

theorem compare_of_not_numbers (comparison : Comparison) (htype : left.typeName ≠ right.typeName)
    (h : ¬ ∃ first second, left.number? = some first ∧ right.number? = some second) :
    compare texts comparison left right = (decide (comparison = .neq) ||
      comparison.holds (coerceTypes texts left right).1 (coerceTypes texts left right).2) := by
  unfold compare
  rw [holds_of_not_numbers comparison htype h]

theorem readRight_iff (comparison : Comparison) {first second : Rat} {number : Value} {text : String}
    {inOrder : Operand → Operand → Bool} {coerced : Bool}
    (hcoerced : coerced = (readAs texts number text).elim
      (inOrder (asText texts number) (.json (.str text))) (inOrder (.json number))) :
    (decide (comparison = .neq) || coerced) = comparison.decides first second ↔
      ReadRight texts comparison first second number text inOrder := by
  unfold ReadRight
  by_cases hneq : comparison = .neq
  · subst hneq
    rw [if_pos rfl]
    have hdecides : Comparison.decides .neq first second = !(first == second) := rfl
    rw [decide_eq_true rfl, Bool.true_or, hdecides]
    exact ⟨fun h => beq_eq_false_iff_ne.mp (by simpa using h.symm),
      fun h => by simpa using h⟩
  · rw [if_neg hneq, decide_eq_false hneq, Bool.false_or, hcoerced]
    cases readAs texts number text <;> exact Iff.rfl

/-- When the comparison of two numbers, or of texts that spell them, is that of the numbers. -/
theorem compare_eq_decides_iff (comparison : Comparison) {first second : Rat}
    (hfirst : numberOf texts left = some first) (hsecond : numberOf texts right = some second) :
    compare texts comparison left right = comparison.decides first second ↔
      ComparesNumbers texts comparison first second left right := by
  have hnumber : ∀ {value : Value} {number : Rat}, numberOf texts value = some number →
      value.isNumber = true → value.number? = some number := by
    intro value number hvalue hisNumber
    cases value <;> first
      | exact hvalue
      | exact absurd hisNumber Bool.false_ne_true
      | cases hvalue
  have hkind : ∀ {value : Value} {number : Rat}, numberOf texts value = some number →
      value.isNumber = true ∨ ∃ text, value = .str text := by
    intro value number hvalue
    cases value with
    | int => exact .inl rfl
    | float => exact .inl rfl
    | str text => exact .inr ⟨text, rfl⟩
    | _ => cases hvalue
  rcases hkind hfirst with hleft | ⟨text, rfl⟩
  · have hl := hnumber hfirst hleft
    rcases hkind hsecond with hright | ⟨text, rfl⟩
    · have hr := hnumber hsecond hright
      have hcondition : ComparesNumbers texts comparison first second left right ↔
          (left.typeName = right.typeName ∨ comparison.decides first second = true ∨
            comparison.decides (texts.str left) (texts.str right) = false) := by
        cases left <;> cases right <;> first
          | exact Iff.rfl
          | exact absurd hleft Bool.false_ne_true
          | exact absurd hright Bool.false_ne_true
      rw [hcondition]
      -- Two numbers are compared as they are and, if their types differ, as texts.
      by_cases htype : left.typeName = right.typeName
      · rw [compare_of_eq comparison htype, holds_numbers comparison hl hr]
        exact iff_of_true rfl (.inl htype)
      · rw [compare_numbers comparison htype hl hr]
        cases comparison.decides first second <;>
          cases comparison.decides (texts.str left) (texts.str right) <;> simp [htype]
    · have htype := typeName_of_isNumber hleft text
      have hcondition : ComparesNumbers texts comparison first second left (.str text) ↔
          ReadRight texts comparison first second left text
            fun left right => comparison.holds left right := by
        cases left <;> first
          | exact Iff.rfl
          | exact absurd hleft Bool.false_ne_true
      rw [hcondition, compare_of_not_numbers comparison htype fun ⟨_, _, _, h⟩ => nomatch h]
      -- Of a number and a text as they are only `!=` holds; the rest is up to the coercion.
      refine readRight_iff comparison ?_
      rw [coerceTypes_number_text hleft]
      cases readAs texts left text <;> rfl
  · rcases hkind hsecond with hright | ⟨text', rfl⟩
    · have htype := (typeName_of_isNumber hright text).symm
      have hcondition : ComparesNumbers texts comparison first second (.str text) right ↔
          ReadRight texts comparison first second right text
            fun right left => comparison.holds left right := by
        cases right <;> first
          | exact Iff.rfl
          | exact absurd hright Bool.false_ne_true
      rw [hcondition, compare_of_not_numbers comparison htype fun ⟨_, _, h, _⟩ => nomatch h]
      refine readRight_iff comparison ?_
      rw [coerceTypes_text_number hright]
      cases readAs texts right text <;> rfl
    · -- Two texts are compared as texts, whatever they spell.
      rw [@compare_of_eq texts (.str text) (.str text') comparison rfl, holds_texts]
      exact Iff.rfl

theorem pyEq_comm_of_isNumber (hleft : left.isNumber = true) (hright : right.isNumber = true) :
    left.pyEq right = right.pyEq left := by
  cases left <;> cases right <;> first
    | exact absurd hleft Bool.false_ne_true
    | exact absurd hright Bool.false_ne_true
    | exact BEq.comm

theorem isNumber_of_readAs {number read : Value} {text : String}
    (h : readAs texts number text = some (.json read)) : read.isNumber = true := by
  cases number with
  | bool => cases h; rfl
  | int =>
      obtain ⟨found, -, hread⟩ := Option.map_eq_some_iff.mp h
      cases hread
      rfl
  | float =>
      obtain ⟨found, -, hread⟩ := Option.map_eq_some_iff.mp h
      cases found <;> cases hread
      rfl
  | _ => cases h

/-- A value and a text are equal after coercion exactly if the text spells the value. -/
theorem coerced_pyEq_iff (h : ∀ text, left ≠ .str text) (text : String) :
    ((coerceTypes texts left (.str text)).1.pyEq (coerceTypes texts left (.str text)).2 = true ↔
        Spells texts text left) ∧
      ((coerceTypes texts (.str text) left).1.pyEq (coerceTypes texts (.str text) left).2 = true ↔
        Spells texts text left) := by
  have htexts : ∀ first second : String,
      (Operand.json (.str first)).pyEq (.json (.str second)) = true ↔ first = second := by
    intro first second
    show (Value.str first).pyEq (.str second) = true ↔ _
    rw [Value.pyEq]
    exact beq_iff_eq
  unfold Spells
  by_cases hnumber : left.isNumber = true
  · rw [if_pos hnumber, coerceTypes_number_text hnumber, coerceTypes_text_number hnumber]
    cases hread : readAs texts left text with
    | none => exact ⟨htexts _ _, (htexts _ _).trans eq_comm⟩
    | some read =>
        cases read with
        | json read =>
            refine ⟨Iff.rfl, ?_⟩
            show read.pyEq left = true ↔ _
            rw [pyEq_comm_of_isNumber (isNumber_of_readAs hread) hnumber]
        | infinite => exact ⟨iff_of_false Bool.false_ne_true id, iff_of_false Bool.false_ne_true id⟩
        | nan => exact ⟨iff_of_false Bool.false_ne_true id, iff_of_false Bool.false_ne_true id⟩
  · rw [if_neg hnumber]
    have htype : left.typeName ≠ (Value.str text).typeName := by
      cases left with
      | str text => exact absurd rfl (h text)
      | _ => simp [typeName]
    rw [coerceTypes_texts htype (fun hn => absurd hn hnumber)
        (fun hn => absurd hn Bool.false_ne_true),
      coerceTypes_texts htype.symm (fun hn => absurd hn Bool.false_ne_true)
        (fun hn => absurd hn hnumber)]
    exact ⟨htexts _ _, (htexts _ _).trans eq_comm⟩

/-- When the inequality of two values is the negation of their equality. -/
theorem compare_neq_iff : compare texts .neq left right = !compare texts .eq left right ↔
    EqualTwice texts left right := by
  -- Both comparisons ask twice; they are opposites if the two answers agree.
  have hsame : compare texts .neq left right = !compare texts .eq left right ↔
      (left.pyEq right = true ↔
        (coerceTypes texts left right).1.pyEq (coerceTypes texts left right).2 = true) := by
    show ((!left.pyEq right) || !(coerceTypes texts left right).1.pyEq (coerceTypes texts left right).2) =
      (!(left.pyEq right || (coerceTypes texts left right).1.pyEq (coerceTypes texts left right).2)) ↔ _
    cases left.pyEq right <;>
      cases (coerceTypes texts left right).1.pyEq (coerceTypes texts left right).2 <;> decide
  rw [hsame]
  by_cases hleft : ∃ text, left = .str text
  · obtain ⟨text, rfl⟩ := hleft
    by_cases hright : ∃ text', right = .str text'
    · obtain ⟨text', rfl⟩ := hright
      rw [@coerceTypes_of_eq texts (.str text) (.str text') rfl]
      exact iff_of_true Iff.rfl trivial
    · have hright' : ∀ text', right ≠ .str text' := fun text' h => hright ⟨text', h⟩
      have hraw : (Value.str text).pyEq right = false := by
        cases right with
        | str text' => exact absurd rfl (hright' text')
        | _ => rfl
      have hcondition : EqualTwice texts (.str text) right ↔ ¬ Spells texts text right := by
        cases right with
        | str text' => exact absurd rfl (hright' text')
        | _ => exact Iff.rfl
      rw [hcondition, (coerced_pyEq_iff hright' text).2, hraw]
      simp
  · have hleft' : ∀ text, left ≠ .str text := fun text h => hleft ⟨text, h⟩
    by_cases hright : ∃ text, right = .str text
    · obtain ⟨text, rfl⟩ := hright
      have hraw : left.pyEq (.str text) = false := by
        cases left with
        | str text' => exact absurd rfl (hleft' text')
        | _ => rfl
      have hcondition : EqualTwice texts left (.str text) ↔ ¬ Spells texts text left := by
        cases left with
        | str text' => exact absurd rfl (hleft' text')
        | _ => exact Iff.rfl
      rw [hcondition, (coerced_pyEq_iff hleft' text).1, hraw]
      simp
    · have hright' : ∀ text, right ≠ .str text := fun text h => hright ⟨text, h⟩
      have hcondition : EqualTwice texts left right ↔ (left.typeName = right.typeName ∨
          (left.pyEq right = true ↔ texts.str left = texts.str right)) := by
        cases left <;> cases right <;> first
          | exact Iff.rfl
          | exact absurd rfl (hleft' _)
          | exact absurd rfl (hright' _)
      rw [hcondition]
      by_cases htype : left.typeName = right.typeName
      · rw [coerceTypes_of_eq htype]
        exact iff_of_true Iff.rfl (.inl htype)
      · rw [coerceTypes_texts htype (fun _ => hright') (fun _ => hleft'), or_iff_right htype]
        refine iff_congr Iff.rfl ?_
        show (Value.str (texts.str left)).pyEq (.str (texts.str right)) = true ↔ _
        rw [Value.pyEq]
        exact beq_iff_eq

theorem compare_null_iff (comparison : Comparison) (horder : comparison.isOrder = true) :
    compare texts comparison .null right = false ↔
      right = .null ∨ comparison.decides (texts.str .null) (texts.str right) = false := by
  by_cases hnull : right = .null
  · subst hnull
    refine iff_of_true ?_ (.inl rfl)
    cases comparison <;> first
      | rfl
      | cases horder
  · have htype : Value.null.typeName ≠ right.typeName := by
      cases right with
      | null => exact absurd rfl hnull
      | _ => simp [typeName]
    have hneq : comparison ≠ .neq := by
      rintro rfl
      cases horder
    have hnumbers : ¬ ∃ first second, Value.null.number? = some first ∧ right.number? = some second := by
      rintro ⟨_, _, h, -⟩
      cases h
    have htexts : comparison.holds (asText texts .null) (asText texts right) = _ :=
      holds_texts comparison (texts.str .null) (texts.str right)
    rw [compare_of_not_numbers comparison htype hnumbers, decide_eq_false hneq, Bool.false_or,
      coerceTypes_texts htype (fun h => absurd h Bool.false_ne_true) (fun _ _ h => nomatch h), htexts,
      or_iff_right hnull]

variable (interpolateString) in
theorem evaluateCondition_comparison {fields : Dict} {scope : Scope} {actual : Value}
    (hactual : fieldValue texts scope ((Assoc.find fields "field").getD (.str "")) = .ok actual)
    (comparison : Comparison) :
    evaluateCondition texts interpolateString
        (.dict (Assoc.put fields "operator" (.str comparison.name))) scope =
      .ok (compare texts comparison actual
        (interpolated interpolateString scope (Filters.expectedOf fields))) := by
  have hfield : Assoc.find (Assoc.put fields "operator" (.str comparison.name)) "field" =
      Assoc.find fields "field" := by
    rw [Assoc.find_put, if_neg (by decide)]
  have hoperator : Assoc.find (Assoc.put fields "operator" (.str comparison.name)) "operator" =
      some (.str comparison.name) := by
    rw [Assoc.find_put, if_pos rfl]
  have hexpected : Filters.expectedOf (Assoc.put fields "operator" (.str comparison.name)) =
      Filters.expectedOf fields := by
    unfold Filters.expectedOf
    rw [Assoc.find_put, if_neg (by decide)]
  show (fieldValue texts scope _).bind _ = _
  rw [hfield, hoperator, hexpected, hactual]
  cases comparison <;> rfl

/-- A comparison of a condition answers as the numbers compare exactly if its values compare as numbers,
`neq` is the negation of `eq` exactly if coercion does not change whether they are equal, and an order
comparison with a missing field is false exactly if the text `None` is not in that order with the text of
the value. -/
theorem numeric_iff (interpolateString : String → Scope → String) {fields : Dict} {scope : Scope}
    {actual expected : Value}
    (hactual : fieldValue texts scope ((Assoc.find fields "field").getD (.str "")) = .ok actual)
    (hexpected : interpolated interpolateString scope (Filters.expectedOf fields) = expected)
    (comparison : Comparison) :
    (∀ first second, numberOf texts actual = some first → numberOf texts expected = some second →
      (evaluateCondition texts interpolateString
          (.dict (Assoc.put fields "operator" (.str comparison.name))) scope =
          .ok (comparison.decides first second) ↔
        ComparesNumbers texts comparison first second actual expected)) ∧
      (evaluateCondition texts interpolateString
          (.dict (Assoc.put fields "operator" (.str "neq"))) scope =
          (evaluateCondition texts interpolateString
            (.dict (Assoc.put fields "operator" (.str "eq"))) scope).map not ↔
        EqualTwice texts actual expected) ∧
      (actual = .null → comparison.isOrder = true →
        (evaluateCondition texts interpolateString
            (.dict (Assoc.put fields "operator" (.str comparison.name))) scope = .ok false ↔
          expected = .null ∨
            comparison.decides (texts.str .null) (texts.str expected) = false)) := by
  have hok : ∀ {answer answer' : Bool}, (Except.ok answer : Except String Bool) = .ok answer' ↔
      answer = answer' := ⟨Except.ok.inj, congrArg _⟩
  have hneq := evaluateCondition_comparison interpolateString hactual .neq
  have heq := evaluateCondition_comparison interpolateString hactual .eq
  rw [hexpected] at hneq heq
  rw [evaluateCondition_comparison interpolateString hactual comparison, hexpected]
  refine ⟨fun first second hfirst hsecond => ?_, ?_, ?_⟩
  · exact hok.trans (compare_eq_decides_iff comparison hfirst hsecond)
  · exact (iff_of_eq (congrArg₂ _ hneq (congrArg _ heq))).trans (hok.trans compare_neq_iff)
  · rintro rfl horder
    exact hok.trans (compare_null_iff comparison horder)

end Numbers

end Evaluation

/-! ## Samples -/

namespace Sample

def digits (text : String) : Option Nat :=
  if text ≠ "" ∧ text.toList.all Char.isDigit then
    some (text.toList.foldl (fun number digit => 10 * number + (digit.toNat - 48)) 0)
  else none

/-- Text functions for natural numbers, and for floats with one decimal that are not negative. -/
def texts : TextFunctions where
  str value :=
    match value with
    | .null => "None"
    | .bool flag => if flag then "True" else "False"
    | .int number => toString number
    | .float number =>
        let tenths := (number * 10).floor
        toString (tenths / 10) ++ "." ++ toString (tenths % 10)
    | .str text => text
    | _ => ""
  int text := (digits text).map fun number => (number : Int)
  float text := (digits text).map fun number => .finite number
  compile _ := .pattern
  search pattern text := isPart pattern.toList text.toList

def order (total : Value) : Scope where
  data := [("total", total)]
  triggerData := []

def ofTotal (total : Value) (operator : String) (value : Value) : Except String Bool :=
  evaluateCondition texts (fun text _ => text)
    (.dict (Assoc.put [("field", .str "total"), ("value", value)] "operator" (.str operator)))
    (order total)

end Sample

/-- Whether a total of 12 is more than 9.5. -/
theorem gt_total : Sample.ofTotal (.int 12) "gt" (.float (19 / 2)) =
    .ok (Comparison.decides .gt (12 : Rat) (19 / 2)) :=
  ((@numeric_iff Sample.texts (fun text _ => text) [("field", .str "total"), ("value", .float (19 / 2))]
    (Sample.order (.int 12)) (.int 12) (.float (19 / 2)) rfl rfl .gt).1 12 (19 / 2) rfl rfl).mpr
      (.inr (.inl (by decide +kernel)))

/-- A total of 1 is both equal and not equal to a text that spells 1, 9.5 is more than 10, and a missing
total is more than a text that starts with an A. -/
theorem not_numeric :
    Sample.ofTotal (.int 1) "neq" (.str "1") ≠ .ok (Comparison.decides .neq (1 : Rat) 1) ∧
      Sample.ofTotal (.float (19 / 2)) "gt" (.int 10) ≠ .ok (Comparison.decides .gt (19 / 2 : Rat) 10) ∧
      Sample.ofTotal (.int 1) "neq" (.str "1") ≠
        (Sample.ofTotal (.int 1) "eq" (.str "1")).map not ∧
      Sample.ofTotal .null "gt" (.str "Anna") ≠ .ok false := by
  decide +kernel

/-- A filter and a condition node agree that a total of 12 is more than 7. -/
theorem filter_agrees_total : Agree
    (Filters.evaluateTriggerFilter Sample.texts (.dict (conditionOf "total" "gt" (.int 7)))
      (Sample.order (.int 12)).data)
    (evaluateCondition Sample.texts (fun text _ => text) (.dict (conditionOf "total" "gt" (.int 7)))
      (Sample.order (.int 12))) := by
  refine (filter_agrees_iff (fun text _ => text) ⟨by decide, by decide⟩ (by decide)
    (fun _ h => Value.noConfusion h) _).mpr ?_
  rintro ⟨htype, -⟩
  exact htype (by rfl)

/-- They do not agree that a total of 10 is more than 9.5, and that 1 is the same as 1.0. -/
theorem not_filter_agrees :
    ¬ Agree
        (Filters.evaluateTriggerFilter Sample.texts (.dict (conditionOf "total" "gt" (.float (19 / 2))))
          (Sample.order (.int 10)).data)
        (evaluateCondition Sample.texts (fun text _ => text)
          (.dict (conditionOf "total" "gt" (.float (19 / 2)))) (Sample.order (.int 10))) ∧
      ¬ Agree
        (Filters.evaluateTriggerFilter Sample.texts (.dict (conditionOf "total" "neq" (.float 1)))
          (Sample.order (.int 1)).data)
        (evaluateCondition Sample.texts (fun text _ => text)
          (.dict (conditionOf "total" "neq" (.float 1))) (Sample.order (.int 1))) := by
  unfold Agree
  decide +kernel

end Conditions

end IntegrationPlatform
