import IntegrationPlatform.Json.Operators

/-!
# Trigger filters

The conditions of a trigger node, which decide whether an event starts its workflow. Conditions
are whatever JSON a user has stored, and their evaluation raises on some of it: `FaultyFilters`
says on which, and `passesTriggerFilters_raises` that it is right.
-/

namespace IntegrationPlatform

open Value

/-- The `operator` of a condition. Any other value makes the condition false. -/
inductive FilterOperator where
  | eq
  | neq
  | contains
  | notContains
  | startsWith
  | endsWith
  | gt
  | lt
  | gte
  | lte
  | isPresent
  | notExists
  | isIn
  | notIn
  | regex
  | isEmpty
  | isNotEmpty
  | other
deriving DecidableEq, Repr

/-- The operator with this name. -/
def FilterOperator.named (name : String) : FilterOperator :=
  if name = "equals" ∨ name = "eq" then .eq
  else if name = "not_equals" ∨ name = "neq" then .neq
  else if name = "contains" then .contains
  else if name = "not_contains" then .notContains
  else if name = "starts_with" then .startsWith
  else if name = "ends_with" then .endsWith
  else if name = "gt" then .gt
  else if name = "lt" then .lt
  else if name = "gte" then .gte
  else if name = "lte" then .lte
  else if name = "exists" then .isPresent
  else if name = "not_exists" then .notExists
  else if name = "in" then .isIn
  else if name = "not_in" then .notIn
  else if name = "regex" then .regex
  else if name = "is_empty" then .isEmpty
  else if name = "is_not_empty" then .isNotEmpty
  else .other

/-- The operator that a value names. -/
def FilterOperator.ofValue : Value → FilterOperator
  | .str name => .named name
  | _ => .other

/-- The longest regular expression that is tried. -/
def regexMaxPatternLen : Nat := 1000

namespace Filters

variable (texts : TextFunctions)

/-- `_safe_regex_search`, with the exceptions that it does not catch. -/
def safeRegexSearch (pattern text : String) : Except String Bool :=
  if regexMaxPatternLen < pattern.length then .ok false
  else
    match texts.compile pattern with
    | .pattern => .ok (texts.search pattern text)
    | .reError => .ok false
    | .raises message => .error message

/-- `actual == expected`, or so after coercion. -/
def equalsCoerced (actual expected : Value) : Bool :=
  actual.pyEq expected ||
    (coerceTypes texts actual expected).1.pyEq (coerceTypes texts actual expected).2

/-- A comparison after coercion. -/
def compareCoerced (holds : Ordering → Bool) (actual expected : Value) : Bool :=
  ((coerceTypes texts actual expected).1.order (coerceTypes texts actual expected).2).any holds

/-- `str(part)` is at this end of `str(actual)`. -/
def textEnd (fits : List Char → List Char → Bool) (actual part : Value) : Bool :=
  actual.truthy && fits (texts.str part).toList (texts.str actual).toList

/-- `condition.get("values", expected if isinstance(expected, list) else [expected])`. -/
def valuesOf (condition : Dict) (expected : Value) : Value :=
  (Assoc.find condition "values").getD
    (match expected with
    | .list items => .list items
    | _ => .list [expected])

/-- What an operator makes of the value of a field. -/
def applyOperator (condition : Dict) (expected actual : Value) :
    FilterOperator → Except String Bool
  | .eq => .ok (equalsCoerced texts actual expected)
  | .neq => .ok (!actual.pyEq expected)
  | .contains => if actual.truthy then expected.pyIn actual else .ok false
  | .notContains => if actual.truthy then (expected.pyIn actual).map not else .ok true
  | .startsWith => .ok (textEnd texts List.isPrefixOf actual expected)
  | .endsWith => .ok (textEnd texts List.isSuffixOf actual expected)
  | .gt => .ok (compareCoerced texts Ordering.isGT actual expected)
  | .lt => .ok (compareCoerced texts Ordering.isLT actual expected)
  | .gte => .ok (compareCoerced texts Ordering.isGE actual expected)
  | .lte => .ok (compareCoerced texts Ordering.isLE actual expected)
  | .isPresent => .ok (!actual.pyEq .null)
  | .notExists => .ok (actual.pyEq .null)
  | .isIn => actual.pyIn (valuesOf condition expected)
  | .notIn => (actual.pyIn (valuesOf condition expected)).map not
  | .regex =>
      if actual.pyEq .null then .ok false
      else safeRegexSearch texts (texts.str expected) (texts.str actual)
  | .isEmpty => .ok (!actual.truthy)
  | .isNotEmpty => .ok actual.truthy
  | .other => .ok false

/-- The `value` of a condition. -/
def expectedOf (condition : Dict) : Value :=
  (Assoc.find condition "value").getD .null

/-- The `operator` of a condition. -/
def operatorOf (condition : Dict) : FilterOperator :=
  .ofValue ((Assoc.find condition "operator").getD (.str "eq"))

def evaluateTriggerFilter (condition : Value) (data : Dict) : Except String Bool :=
  match condition with
  | .dict fields =>
      let field := (Assoc.find fields "field").getD (.str "")
      if field.truthy then
        match field with
        | .str key =>
            applyOperator texts fields (expectedOf fields) (getNested texts (.dict data) key)
              (operatorOf fields)
        -- `"[]" in key`, `key.index`, `rest.startswith` or `key.split` raises.
        | _ => .error ("'" ++ field.typeName ++ "' object is not a text")
      else .ok true
  | _ => .error ("'" ++ condition.typeName ++ "' object has no attribute 'get'")

/-- The results of all conditions. The first one that raises ends the list. -/
def evaluateAll (data : Dict) : List Value → Except String (List Bool)
  | [] => .ok []
  | condition :: rest =>
      match evaluateTriggerFilter texts condition data with
      | .ok result => (evaluateAll data rest).map (result :: ·)
      | .error message => .error message

def passesTriggerFilters (filters : Value) (data : Dict) : Except String Bool :=
  match filters with
  | .dict fields =>
      let conditions := (Assoc.find fields "conditions").getD (.list [])
      if conditions.truthy then
        match conditions with
        | .list items =>
            let all := ((Assoc.find fields "logic").getD (.str "and")).pyEq (.str "and")
            (evaluateAll texts data items).map fun results =>
              if all then results.all id else results.any id
        -- The items of a text and of an object are texts, and nothing else has items.
        | _ => .error ("'" ++ conditions.typeName ++ "' object is not a list of conditions")
      else .ok true
  | _ => .error ("'" ++ filters.typeName ++ "' object has no attribute 'get'")

/-! ## Where the evaluation raises -/

/-- The operator raises on the value of the field. -/
def FaultyOperator (condition : Dict) (expected actual : Value) : FilterOperator → Prop
  | .contains => actual.truthy = true ∧ expected.Unsearchable actual
  | .notContains => actual.truthy = true ∧ expected.Unsearchable actual
  | .isIn => actual.Unsearchable (valuesOf condition expected)
  | .notIn => actual.Unsearchable (valuesOf condition expected)
  | .regex => actual.pyEq .null = false ∧ (texts.str expected).length ≤ regexMaxPatternLen ∧
      ∃ message, texts.compile (texts.str expected) = .raises message
  | _ => False

/-- The condition is not an object, its field is not a text, or its operator raises. -/
inductive FaultyCondition (data : Dict) : Value → Prop where
  | notObject {condition} : (∀ fields, condition ≠ .dict fields) → FaultyCondition data condition
  | notText {fields field} : Assoc.find fields "field" = some field → field.truthy = true →
      (∀ key, field ≠ .str key) → FaultyCondition data (.dict fields)
  | operator {fields key} : Assoc.find fields "field" = some (.str key) → key ≠ "" →
      FaultyOperator texts fields (expectedOf fields) (getNested texts (.dict data) key)
        (operatorOf fields) → FaultyCondition data (.dict fields)

/-- The filters are not an object, their conditions are not a list, or one of these is faulty. -/
inductive FaultyFilters (data : Dict) : Value → Prop where
  | notObject {filters} : (∀ fields, filters ≠ .dict fields) → FaultyFilters data filters
  | notList {fields conditions} : Assoc.find fields "conditions" = some conditions →
      conditions.truthy = true → (∀ items, conditions ≠ .list items) →
      FaultyFilters data (.dict fields)
  | condition {fields items condition} : Assoc.find fields "conditions" = some (.list items) →
      condition ∈ items → FaultyCondition texts data condition → FaultyFilters data (.dict fields)

variable {texts}

theorem map_raises {α β : Type} {result : Except String α} {change : α → β} :
    (∃ message, result.map change = .error message) ↔ ∃ message, result = .error message := by
  cases result <;> simp [Except.map]

theorem safeRegexSearch_raises (pattern text : String) :
    (∃ message, safeRegexSearch texts pattern text = .error message) ↔
      pattern.length ≤ regexMaxPatternLen ∧
        ∃ message, texts.compile pattern = .raises message := by
  unfold safeRegexSearch
  by_cases hlength : regexMaxPatternLen < pattern.length
  · rw [if_pos hlength]
    have hnot : ¬ pattern.length ≤ regexMaxPatternLen := by omega
    simp [hnot]
  · rw [if_neg hlength]
    have hle : pattern.length ≤ regexMaxPatternLen := by omega
    cases hcompile : texts.compile pattern <;> simp [hle]

theorem applyOperator_raises (condition : Dict) (expected actual : Value)
    (operator : FilterOperator) :
    (∃ message, applyOperator texts condition expected actual operator = .error message) ↔
      FaultyOperator texts condition expected actual operator := by
  cases operator with
  | contains =>
      by_cases hactual : actual.truthy = true
      · simpa [applyOperator, FaultyOperator, hactual] using pyIn_raises expected actual
      · simp [applyOperator, FaultyOperator, hactual]
  | notContains =>
      by_cases hactual : actual.truthy = true
      · simpa [applyOperator, FaultyOperator, hactual, map_raises] using
          pyIn_raises expected actual
      · simp [applyOperator, FaultyOperator, hactual]
  | isIn => exact pyIn_raises actual _
  | notIn =>
      simp only [applyOperator, FaultyOperator, map_raises]
      exact pyIn_raises actual _
  | regex =>
      by_cases hactual : actual.pyEq .null = true
      · simp [applyOperator, FaultyOperator, hactual]
      · simpa [applyOperator, FaultyOperator, hactual] using
          safeRegexSearch_raises (texts.str expected) (texts.str actual)
  | _ => simp [applyOperator, FaultyOperator]

theorem evaluateTriggerFilter_raises (condition : Value) (data : Dict) :
    (∃ message, evaluateTriggerFilter texts condition data = .error message) ↔
      FaultyCondition texts data condition := by
  constructor
  · rintro ⟨message, hraises⟩
    cases condition with
    | dict fields =>
        cases hfield : Assoc.find fields "field" with
        | none => simp [evaluateTriggerFilter, hfield, truthy] at hraises
        | some field =>
            by_cases htruthy : field.truthy = true
            · cases field with
              | str key =>
                  simp only [evaluateTriggerFilter, hfield, Option.getD_some, htruthy, if_true]
                    at hraises
                  have hkey : key ≠ "" := by simpa [truthy] using htruthy
                  exact .operator hfield hkey ((applyOperator_raises _ _ _ _).mp ⟨_, hraises⟩)
              | _ => exact .notText hfield htruthy (by simp)
            · simp [evaluateTriggerFilter, hfield, htruthy] at hraises
    | _ => exact .notObject (by simp)
  · intro hfaulty
    cases hfaulty with
    | notObject hcondition =>
        cases condition with
        | dict fields => exact absurd rfl (hcondition fields)
        | _ => exact ⟨_, rfl⟩
    | @notText fields field hfield htruthy htext =>
        cases field with
        | str key => exact absurd rfl (htext key)
        | _ => simp [evaluateTriggerFilter, hfield, htruthy]
    | @operator fields key hfield hkey hoperator =>
        have htruthy : (Value.str key).truthy = true := by simpa [truthy] using hkey
        simpa only [evaluateTriggerFilter, hfield, Option.getD_some, htruthy, if_true] using
          (applyOperator_raises _ _ _ _).mpr hoperator

theorem evaluateAll_raises (data : Dict) (conditions : List Value) :
    (∃ message, evaluateAll texts data conditions = .error message) ↔
      ∃ condition ∈ conditions, FaultyCondition texts data condition := by
  induction conditions with
  | nil => simp [evaluateAll]
  | cons condition rest ih =>
      have hhead : (∃ message, evaluateTriggerFilter texts condition data = .error message) ↔
          FaultyCondition texts data condition := evaluateTriggerFilter_raises condition data
      cases hresult : evaluateTriggerFilter texts condition data with
      | ok result =>
          have hnot : ¬ FaultyCondition texts data condition := by simp [← hhead, hresult]
          simpa [evaluateAll, hresult, map_raises, hnot] using ih
      | error message =>
          have hfaulty : FaultyCondition texts data condition := hhead.mp ⟨message, hresult⟩
          simp [evaluateAll, hresult, hfaulty]

theorem passesTriggerFilters_raises (filters : Value) (data : Dict) :
    (∃ message, passesTriggerFilters texts filters data = .error message) ↔
      FaultyFilters texts data filters := by
  constructor
  · rintro ⟨message, hraises⟩
    cases filters with
    | dict fields =>
        cases hconditions : Assoc.find fields "conditions" with
        | none => simp [passesTriggerFilters, hconditions, truthy] at hraises
        | some conditions =>
            by_cases htruthy : conditions.truthy = true
            · cases conditions with
              | list items =>
                  simp only [passesTriggerFilters, hconditions, Option.getD_some, htruthy, if_true]
                    at hraises
                  obtain ⟨condition, hmem, hfaulty⟩ :=
                    (evaluateAll_raises data items).mp (map_raises.mp ⟨_, hraises⟩)
                  exact .condition hconditions hmem hfaulty
              | _ => exact .notList hconditions htruthy (by simp)
            · simp [passesTriggerFilters, hconditions, htruthy] at hraises
    | _ => exact .notObject (by simp)
  · intro hfaulty
    cases hfaulty with
    | notObject hfilters =>
        cases filters with
        | dict fields => exact absurd rfl (hfilters fields)
        | _ => exact ⟨_, rfl⟩
    | @notList fields conditions hconditions htruthy hlist =>
        cases conditions with
        | list items => exact absurd rfl (hlist items)
        | _ => simp [passesTriggerFilters, hconditions, htruthy]
    | @condition fields items condition hconditions hmem hcondition =>
        have htruthy : (Value.list items).truthy = true := by
          simpa [truthy] using List.ne_nil_of_mem hmem
        have hall := (evaluateAll_raises data items).mpr ⟨condition, hmem, hcondition⟩
        simpa only [passesTriggerFilters, hconditions, Option.getD_some, htruthy, if_true,
          map_raises] using hall

end Filters

end IntegrationPlatform
