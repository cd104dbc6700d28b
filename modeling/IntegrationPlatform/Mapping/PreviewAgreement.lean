import IntegrationPlatform.Mapping.PreviewReads

/-!
# The preview and the field mapping of the engine

`RunAlike` says of a run of `_apply_field_mapping` that each rule reads, transforms and writes alike in the
preview, given what the rules before it have written. `preview_agrees` says that the preview then shows the
object that the engine builds. Neither a multiplication nor two sources without a transform are so
(`price_differs`).
-/

namespace IntegrationPlatform

open Value

namespace VisualMapper

open MappingResolver (MappingEntry applySteps transformed)
open MailBody (Mapped applyRule applyRules applyFieldMapping ruleValue hasKey)

/-! ## Steps -/

section Alike

variable (browser : Browser) (python : Python)

/-- Both sides compute the same, on a number without an operand. -/
def MathAlike (step : TransformStep) (current : JsValue) (value : Value) : Prop :=
  step.settings.find "operand" = none ∧ ∃ number, pyFloat python value = .ok (some number) ∧
    jsNumber browser current = number ∧
    let same : Arithmetic → Prop := fun operation => ∃ result,
      python.calculate operation number (.finite 0) = .finite result ∧
        browser.calculate operation number (.finite 0) = .finite result
    match step.setting "operation" "add" with
    | "add" => same .add
    | "sub" => same .sub
    | "mul" => same .mul
    -- Nothing is divided: the engine leaves the value as it is.
    | "div" => Agrees (.number number) value
    | _ => Agrees (.number (browser.calculate .add number (.finite 0))) value

/-- Both sides have the same text of an item between these separators. -/
def JoinsAlike (separator : String) (item : JsValue) (value : Value) : Prop :=
  if item.isNullish then value = .null ∧ separator = ""
  else value ≠ .null ∧ jsText browser item = python.texts.str value

/-- Both sides join to the same text: one text, one list whose text is that of its items, or a value for each
source. -/
def JoinAlike (step : TransformStep) (current : JsValue) (values : List Value) : Prop :=
  (∃ value, values = [value] ∧ value ≠ .null ∧ current = .str (python.texts.str value)) ∨
    (∃ items value, current = .array items ∧ values = [value] ∧ value ≠ .null ∧
      (step.setting "separator" ",").intercalate (itemTexts browser items) = python.texts.str value) ∨
    ∃ items separator, current = .array items ∧ step.settings.find "separator" = some separator ∧
      List.Forall₂ (JoinsAlike browser python separator) items values

/-- Both sides have the same text of a value, after these changes of it. -/
def TextsAlike (change change' : String → String) (current : JsValue) (value : Value) : Prop :=
  value ≠ .null ∧ change (jsText browser current) = change' (python.texts.str value)

/-- Both sides make the same of nothing by the step: nothing. -/
def PassesNothing (step : TransformStep) : Prop :=
  match step.type with
  | .split => False
  | .join => False
  | .default => step.settings.find "default_value" = none
  | _ => True

/-- Both sides make the same of a value by the step. -/
def StepAlike (step : TransformStep) (current : JsValue) (values : List Value) : Prop :=
  if current.isNullish then values = [.null] ∧ PassesNothing step
  else
    match step.type with
    | .uppercase => TextsAlike browser python browser.toUpperCase python.upper current (values.headD .null)
    | .lowercase => TextsAlike browser python browser.toLowerCase python.lower current (values.headD .null)
    | .trim => TextsAlike browser python trimmed (fun text => String.ofList (MailBody.strip text.toList))
        current (values.headD .null)
    | .prepend => TextsAlike browser python id id current (values.headD .null)
    | .append => TextsAlike browser python id id current (values.headD .null)
    | .toText => TextsAlike browser python id id current (values.headD .null)
    | .default => (∃ value, values = [value] ∧ value ≠ .null ∧ Agrees current value) ∧
        (current = .str "" → step.settings.find "default_value" = some "")
    | .toInt => ∃ number : Int, pyInt python (values.headD .null) = some number ∧
        browser.parseInt (jsText browser current) = .finite number
    | .toFloat => ∃ number, pyFloat python (values.headD .null) = .ok (some (.finite number)) ∧
        browser.parseFloat (jsText browser current) = .finite number
    | .math => MathAlike browser python step current (values.headD .null)
    | .split => TextsAlike browser python id id current (values.headD .null) ∧
        step.setting "separator" "," ≠ ""
    | .join => JoinAlike browser python step current values
    | .replace => TextsAlike browser python id id current (values.headD .null) ∧
        (step.setting "old" "" = "" → step.setting "new" "" = "")

/-- Both sides make the same of a value by the steps, one after the other. -/
def ChainAlike : List TransformStep → JsValue → List Value → Prop
  | [], _, _ => True
  | step :: steps, current, values =>
      StepAlike browser python step current values ∧
        ∀ value, applyTransform python step values = .ok value →
          ChainAlike steps (applyStep browser step current) [value]

end Alike

section Steps

variable {browser : Browser} {python : Python} {step : TransformStep} {current : JsValue}
  {values : List Value} {value : Value}

theorem pyEq_null_iff : value.pyEq .null = true ↔ value = .null := by
  cases value <;> simp [pyEq, number?]

theorem onText_of_ne (h : value ≠ .null) (change : String → Value) :
    onText python change value = change (python.texts.str value) := by
  unfold onText
  rw [if_neg fun heq => h (pyEq_null_iff.mp heq)]

theorem carries_str {shown : String} {text : String} (h : shown = text) :
    Carries (.str shown) (.str text) := by
  subst h
  exact carries_of_agrees rfl (fun hnull => by cases hnull) (.str shown)

theorem carries_int (number : Int) : Carries (.number (.finite number)) (.int number) :=
  carries_of_agrees rfl (fun hnull => by cases hnull) (.int number)

theorem carries_float (number : Rat) : Carries (.number (.finite number)) (.float number) :=
  carries_of_agrees rfl (fun hnull => by cases hnull) (.float number)

theorem filter_there (h : value ≠ .null) (values : List Value) :
    ((value :: values).filter fun value => !value.pyEq .null) =
      value :: values.filter fun value => !value.pyEq .null := by
  refine List.filter_cons_of_pos ?_
  rw [Bool.not_eq_true', Bool.eq_false_iff]
  exact fun heq => h (pyEq_null_iff.mp heq)

/-- Without a separator, texts are appended. -/
theorem intercalate_empty (parts : List String) : "".intercalate parts = String.join parts := by
  induction parts with
  | nil => rw [String.intercalate_nil, String.join_nil]
  | cons part parts ih =>
      cases parts with
      | nil => rw [String.intercalate_singleton, String.join_cons, String.join_nil, String.append_empty]
      | cons next parts =>
          rw [String.intercalate_cons_cons, String.append_empty, ih, ← String.join_cons]

/-- Both sides replace alike, unless something is put around each letter. -/
theorem intercalate_pieces {old new : String} (h : old = "" → new = "") (text : String) :
    new.intercalate (pieces old text) = replaced old new text := by
  unfold pieces replaced
  by_cases hold : old = ""
  · obtain rfl := h hold
    rw [if_pos hold, if_pos hold, intercalate_empty, String.empty_append]
    simp only [String.append_empty]
  · rw [if_neg hold, if_neg hold]

/-- Both sides join alike if they have the same texts. -/
theorem intercalate_itemTexts {separator : String} {items : List JsValue}
    (h : List.Forall₂ (JoinsAlike browser python separator) items values) :
    separator.intercalate (itemTexts browser items) = separator.intercalate
      ((values.filter fun value => !value.pyEq .null).map python.texts.str) := by
  by_cases hempty : separator = ""
  · subst hempty
    rw [intercalate_empty, intercalate_empty]
    induction h with
    | nil => rfl
    | @cons item value items values hitem _ ih =>
        unfold JoinsAlike at hitem
        rw [itemTexts, String.join_cons, ih]
        by_cases hnullish : item.isNullish = true
        · rw [if_pos hnullish] at hitem ⊢
          obtain ⟨rfl, -⟩ := hitem
          rw [List.filter_cons_of_neg (by decide), String.empty_append]
        · rw [if_neg hnullish] at hitem ⊢
          rw [filter_there hitem.1, List.map_cons, String.join_cons, hitem.2]
  · refine congrArg _ ?_
    induction h with
    | nil => rfl
    | @cons item value items values hitem _ ih =>
        unfold JoinsAlike at hitem
        by_cases hnullish : item.isNullish = true
        · rw [if_pos hnullish] at hitem
          exact absurd hitem.2 hempty
        · rw [if_neg hnullish] at hitem
          rw [itemTexts, if_neg hnullish, ih, filter_there hitem.1, List.map_cons, hitem.2]

/-- Both sides join to the same text. -/
theorem exists_joined (h : JoinAlike browser python step current values) :
    ∃ text, applyJsJoin browser step current = .str text ∧
      (step.setting "separator" " ").intercalate
        ((values.filter fun value => !value.pyEq .null).map python.texts.str) = text := by
  rcases h with ⟨value, rfl, hvalue, rfl⟩ | ⟨items, value, rfl, rfl, hvalue, htext⟩ |
    ⟨items, separator, rfl, hseparator, hall⟩
  · refine ⟨_, rfl, ?_⟩
    rw [filter_there hvalue, List.filter_nil, List.map_singleton, String.intercalate_singleton]
  · refine ⟨_, rfl, ?_⟩
    rw [filter_there hvalue, List.filter_nil, List.map_singleton, String.intercalate_singleton]
    exact htext.symm
  · refine ⟨_, rfl, ?_⟩
    unfold TransformStep.setting
    rw [hseparator]
    exact (intercalate_itemTexts hall).symm

theorem exists_applyMath (h : MathAlike browser python step current value) :
    ∃ result, applyMath python step value = .ok result ∧
      Carries (.number (applyJsMath browser step current)) result := by
  obtain ⟨hoperand, number, hfloat, hnumber, hsame⟩ := h
  -- The float of the sum, the difference and the product is a value.
  have hcalculated : ∀ operation, (∃ result, python.calculate operation number (.finite 0) =
      .finite result ∧ browser.calculate operation number (.finite 0) = .finite result) →
      ∃ result, floatValue (python.calculate operation number (.finite 0)) = .ok result ∧
        Carries (.number (browser.calculate operation number (.finite 0))) result := by
    rintro operation ⟨result, hpython, hbrowser⟩
    rw [hpython, hbrowser]
    exact ⟨_, rfl, carries_float result⟩
  -- Otherwise the engine leaves the value.
  have hleft : ∀ shown, Agrees (.number shown) value → Carries (.number shown) value := by
    intro shown hagree
    refine carries_of_agrees rfl (fun hnull => ?_) hagree
    rw [hnull] at hfloat
    cases hfloat
  unfold applyMath applyJsMath
  rw [hfloat, hoperand, hnumber]
  unfold TransformStep.setting at hsame ⊢
  cases hoperation : step.settings.find "operation" with
  | none =>
      rw [hoperation] at hsame
      exact hcalculated .add hsame
  | some name =>
      rw [hoperation] at hsame
      by_cases hadd : name = "add"
      · subst hadd
        exact hcalculated .add hsame
      by_cases hsub : name = "sub"
      · subst hsub
        exact hcalculated .sub hsame
      by_cases hmul : name = "mul"
      · subst hmul
        exact hcalculated .mul hsame
      by_cases hdiv : name = "div"
      · subst hdiv
        exact ⟨value, rfl, hleft number hsame⟩
      · have hnone : [Arithmetic.add, .sub, .mul, .div].find? (fun operation =>
            operation.name = (some name).getD "add") = none := by
          simp [Arithmetic.name, Ne.symm hadd, Ne.symm hsub, Ne.symm hmul, Ne.symm hdiv]
        rw [hnone]
        refine ⟨value, rfl, hleft _ ?_⟩
        simpa [hadd, hsub, hmul, hdiv] using hsame

/-- A step that both sides take alike changes what is carried. -/
theorem exists_applyTransform (h : StepAlike browser python step current values) :
    ∃ value, applyTransform python step values = .ok value ∧
      Carries (applyStep browser step current) value := by
  unfold StepAlike at h
  unfold applyTransform applyStep
  by_cases hnullish : current.isNullish = true
  · rw [if_pos hnullish] at h
    rw [if_pos hnullish]
    obtain ⟨rfl, hpasses⟩ := h
    refine ⟨.null, ?_, carries_null hnullish⟩
    unfold PassesNothing at hpasses
    cases htype : step.type <;> rw [htype] at hpasses <;> first
      | rfl
      | exact hpasses.elim
      | skip
    show Except.ok (((step.settings.find "default_value").map Value.str).getD .null) = _
    rw [hpasses]
    rfl
  · rw [if_neg hnullish] at h
    rw [if_neg hnullish]
    cases htype : step.type <;> rw [htype] at h <;> simp only at h ⊢
    case uppercase | lowercase | trim =>
      rw [onText_of_ne h.1]
      exact ⟨_, rfl, carries_str h.2⟩
    case prepend | append | toText =>
      rw [onText_of_ne h.1]
      exact ⟨_, rfl, carries_str (by rw [show jsText browser current = _ from h.2]; rfl)⟩
    case default =>
      obtain ⟨⟨value, rfl, hvalue, hagree⟩, hdefault⟩ := h
      refine ⟨value, congrArg Except.ok (if_neg fun heq => hvalue (pyEq_null_iff.mp heq)), ?_⟩
      by_cases hempty : current = .str ""
      · subst hempty
        show Carries (((step.settings.find "default_value").map JsValue.str).getD .undefined) value
        rw [hdefault rfl]
        exact carries_of_agrees rfl hvalue hagree
      · have hkept : applyJsDefault step current = current := by
          unfold applyJsDefault
          split
          · exact absurd rfl hempty
          · rfl
        rw [hkept]
        exact carries_of_agrees (eq_false_of_ne_true hnullish) hvalue hagree
    case toInt =>
      obtain ⟨number, hint, hparsed⟩ := h
      rw [hint, hparsed]
      exact ⟨_, rfl, carries_int number⟩
    case toFloat =>
      obtain ⟨number, hfloat, hparsed⟩ := h
      rw [hfloat, hparsed]
      exact ⟨_, rfl, carries_float number⟩
    case math => exact exists_applyMath h
    case split =>
      obtain ⟨⟨hvalue, htext⟩, hseparator⟩ := h
      rw [if_neg fun heq => hvalue (pyEq_null_iff.mp heq), if_neg hseparator,
        show jsText browser current = _ from htext, pieces, if_neg hseparator]
      refine ⟨_, rfl, carries_of_agrees rfl (fun hnull => by cases hnull) (.list ?_)⟩
      rw [List.forall₂_map_left_iff, List.forall₂_map_right_iff]
      exact List.forall₂_same.mpr fun piece _ => .str piece
    case join =>
      obtain ⟨text, hshown, hjoined⟩ := exists_joined h
      refine ⟨_, rfl, ?_⟩
      rw [hshown]
      exact carries_str hjoined.symm
    case replace =>
      obtain ⟨⟨hvalue, htext⟩, hnew⟩ := h
      rw [onText_of_ne hvalue, show jsText browser current = _ from htext]
      exact ⟨_, rfl, carries_str (intercalate_pieces hnew _)⟩

theorem exists_applySteps (others : Scope → List Value → Dict → Except String Value) (scope : Scope)
    {steps : List TransformStep} (h : ChainAlike browser python steps current values)
    (hstart : steps = [] → ∃ value, values = [value] ∧ Carries current value) :
    ∃ value, applySteps (transforms python others scope) (steps.map fun step => .dict step.toDict)
        values = .ok [value] ∧
      Carries (steps.foldl (fun current step => applyStep browser step current) current) value := by
  induction steps generalizing current values with
  | nil =>
      obtain ⟨value, rfl, hcarries⟩ := hstart rfl
      exact ⟨value, rfl, hcarries⟩
  | cons step steps ih =>
      obtain ⟨hstep, hsteps⟩ := h
      obtain ⟨value, hvalue, hcarries⟩ := exists_applyTransform hstep
      obtain ⟨result, hresult, hlast⟩ := ih (hsteps value hvalue) fun _ => ⟨value, rfl, hcarries⟩
      refine ⟨result, ?_, hlast⟩
      have happly : transforms python others scope values step.toDict = .ok value := by
        rw [transforms, TransformStep.ofDict?_toDict]
        exact hvalue
      rw [List.map_cons, applySteps]
      show (transforms python others scope values step.toDict).bind _ = _
      rw [happly]
      exact hresult

end Steps

/-! ## Rules -/

section Rules

variable (browser : Browser) (python : Python) (others : Scope → List Value → Dict → Except String Value)
  (scope : Scope) (sourceFields : List String)

/-- Both sides find the same for the sources of a rule. A text that is typed in is no path into the data for
the preview, and a field that is not found is one that the mapper knows. -/
def SourcesAlike (mapping : FieldMapping) : Prop :=
  if mapping.sources ≠ [] then
    ∀ path ∈ mapping.sources, SourceReads browser python scope path
  else if mapping.fromField = "__custom__" then
    mapping.source ≠ "" ∧ mapping.source ≠ "undefined" ∧
      (readPathWithFallback browser (parseFields browser scope.data) mapping.source).orElse
        (if mapping.source ∈ sourceFields then .null else .str mapping.source) = .str mapping.source
  else if mapping.fromField = "undefined" then
    Conditions.resolveValue python.texts "undefined" scope = .null
  else
    SourceReads browser python scope mapping.fromField ∧
      (Conditions.resolveValue python.texts mapping.fromField scope = .null →
        mapping.fromField ∈ sourceFields)

/-- What the engine is about to write, or skips, has its place in the object that the rules before have
made. -/
def WritesAlike (target : Target) (fields : Dict) : Option Value → Prop
  | none => Vacant target.segments fields
  | some value =>
      Fitting true target.segments value fields ∧
        (hasKey target.spell (.dict fields) && MailBody.isAtom value) = false

/-- A rule with a source reads alike on both sides, and so do its steps, of which there are some if it has
several sources. -/
def ResolvesAlike (mapping : FieldMapping) : Prop :=
  ¬ (mapping.sources = [] ∧ mapping.fromField = "") →
    SourcesAlike browser python scope sourceFields mapping ∧
      (mapping.transform = [] → mapping.sources = [] ∧
        ∀ value ∈ MailBody.resolveSources python.texts mapping.entry scope, Exact browser value) ∧
      ChainAlike browser python mapping.transform
        (resolveMappingValue browser sourceFields (parseFields browser scope.data) mapping)
        (MailBody.resolveSources python.texts mapping.entry scope)

/-- Both sides take a rule alike: it has no target, or it resolves alike and writes alike. -/
def RuleAlike (mapping : FieldMapping) (fields : Dict) : Prop :=
  mapping.target = "" ∨ ∃ target : Target, mapping.target = target.spell ∧
    ResolvesAlike browser python scope sourceFields mapping ∧
    ∀ value, ruleValue python.texts (transforms python others) mapping.entry scope = .ok value →
      WritesAlike target fields value

/-- What a rule assigns is no object or list, or no later rule writes into it: both sides assign objects of the
data as they are. -/
def LeavesData (mapping : FieldMapping) (mappings : List FieldMapping) : Prop :=
  ∀ value, ruleValue python.texts (transforms python others) mapping.entry scope = .ok (some value) →
    value.mutable = true → ∀ later ∈ mappings, ¬ WritesInto mapping.target later.target

/-- Both sides take each of the rules alike, in the state that those before it leave. -/
def RunAlike : List FieldMapping → Dict → Prop
  | [], _ => True
  | mapping :: mappings, fields =>
      RuleAlike browser python others scope sourceFields mapping fields ∧
        LeavesData python others scope mapping mappings ∧
        ∀ mapped fields', applyRule python.texts (transforms python others) scope mapping.entry
            { result := .dict fields } = .ok mapped →
          mapped.result = .dict fields' → RunAlike mappings fields'

/-- The preview shows what the engine makes of the same data by the same rules. -/
def Previews (mappings : List FieldMapping) : Prop :=
  ∃ fields, applyFieldMapping python.texts (transforms python others) (mappings.map FieldMapping.entry)
      scope = .ok (.dict fields) ∧
    Agrees (generatePreview browser sourceFields scope.data mappings) (.dict fields)

end Rules

section Runs

variable {browser : Browser} {python : Python} {others : Scope → List Value → Dict → Except String Value}
  {scope : Scope} {sourceFields : List String} {mapping : FieldMapping} {fields : Dict}
  {shown : List (String × JsValue)}

variable (browser) in
theorem agrees_assignPath_null {target : Target} {value : JsValue} (hnull : value.isNullish = true)
    (hvacant : Vacant target.segments fields) (h : Agrees (.object shown) (.dict fields)) :
    Agrees (assignPath browser (.object shown) target.spell value) (.dict fields) := by
  unfold assignPath Target.spell
  rw [String.toList_ofList]
  have hparts : splitDots (spellSegments target.segments) = target.segments.map Segment.part :=
    splitDots_spell target.first target.rest
  rw [hparts]
  exact agrees_assign_null (List.cons_ne_nil _ _) hnull hvacant h

variable (browser python) in
theorem agrees_assignPath {target : Target} {value : JsValue} {written : Value}
    (hfits : Fitting true target.segments written fields) (h : Agrees (.object shown) (.dict fields))
    (hvalue : Agrees value written) :
    ∃ fields', setNested python.texts true target.spell written (.dict fields) = .ok (.dict fields') ∧
      Agrees (assignPath browser (.object shown) target.spell value) (.dict fields') := by
  have hparts : splitDots (spellSegments target.segments) = target.segments.map Segment.part :=
    splitDots_spell target.first target.rest
  obtain ⟨fields', hassign, hagree⟩ :=
    agrees_assign browser python.texts true (List.cons_ne_nil _ _) hfits h hvalue
  refine ⟨fields', (setNested_spell true target written (.dict fields)).trans hassign, ?_⟩
  unfold assignPath Target.spell
  rw [String.toList_ofList, hparts]
  exact hagree

theorem foldl_applyStep_null (steps : List TransformStep) :
    steps.foldl (fun current step => applyStep browser step current) .null = .null := by
  induction steps with
  | nil => rfl
  | cons step steps ih => exact ih

theorem previewRule_eq (input : List (String × JsValue)) (output : JsValue) (h : mapping.target ≠ "") :
    previewRule browser sourceFields input output mapping =
      assignPath browser output mapping.target
        ((applyTransforms browser (resolveMappingValue browser sourceFields input mapping) mapping).orElse
          .null) := by
  rw [previewRule, if_neg h]
  split
  · next hnone =>
    rw [resolveMappingValue, if_neg (not_not_intro hnone.1), if_pos hnone.2, applyTransforms,
      foldl_applyStep_null]
    rfl
  · rfl

/-- The value of a rule with one source is carried. -/
theorem exists_resolved (h : SourcesAlike browser python scope sourceFields mapping)
    (hnone : mapping.sources = []) (hfrom : mapping.fromField ≠ "")
    (hexact : ∀ value ∈ MailBody.resolveSources python.texts mapping.entry scope, Exact browser value) :
    ∃ value, MailBody.resolveSources python.texts mapping.entry scope = [value] ∧
      Carries (resolveMappingValue browser sourceFields (parseFields browser scope.data) mapping)
        value := by
  have hsources : ¬ mapping.sources ≠ [] := not_not_intro hnone
  unfold SourcesAlike at h
  rw [if_neg hsources] at h
  have hengine : MailBody.resolveSources python.texts mapping.entry scope =
      if mapping.fromField = "__custom__" then [.str (mapping.fromCustom.getD "")]
      else [Conditions.resolveValue python.texts mapping.fromField scope] := by
    rw [MailBody.resolveSources]
    exact (if_neg hsources).trans (if_neg hfrom)
  rw [hengine] at hexact ⊢
  rw [resolveMappingValue, if_neg hsources]
  by_cases hcustom : mapping.fromField = "__custom__"
  · rw [if_pos hcustom] at h ⊢
    obtain ⟨hempty, hundefined, hread⟩ := h
    refine ⟨_, rfl, ?_⟩
    rw [if_neg (not_or.mpr ⟨hempty, hundefined⟩), hread]
    refine carries_str ?_
    rw [FieldMapping.source, if_pos hcustom]
  · have hsource : mapping.source = mapping.fromField := if_neg hcustom
    rw [if_neg hcustom] at h hexact ⊢
    refine ⟨_, rfl, ?_⟩
    rw [hsource]
    by_cases hundefined : mapping.fromField = "undefined"
    · rw [if_pos hundefined] at h
      rw [if_pos (.inr hundefined), hundefined, h]
      exact carries_null rfl
    · rw [if_neg hundefined] at h
      rw [if_neg (not_or.mpr ⟨hfrom, hundefined⟩)]
      refine (carries_readPathWithFallback h.1 (hexact _ List.mem_cons_self)).orElse fun hnull => ?_
      rw [if_pos (h.2 hnull)]
      rfl

variable (others) in
/-- The value of a rule that both sides take alike is carried. -/
theorem exists_ruleValue {target : Target} (htarget : mapping.target = target.spell)
    (h : ResolvesAlike browser python scope sourceFields mapping) :
    ∃ value, ruleValue python.texts (transforms python others) mapping.entry scope =
        .ok (if value.pyEq .null then none else some value) ∧
      Carries (applyTransforms browser
        (resolveMappingValue browser sourceFields (parseFields browser scope.data) mapping) mapping)
        value := by
  have hne : ¬ mapping.entry.target = "" := by
    rw [FieldMapping.target_entry, htarget]
    exact spell_ne_empty target
  rw [ruleValue, if_neg hne]
  by_cases hskipped : mapping.sources = [] ∧ mapping.fromField = ""
  · obtain ⟨hnone, hfrom⟩ := hskipped
    have hresolved : MailBody.resolveSources python.texts mapping.entry scope = [] := by
      rw [MailBody.resolveSources]
      exact (if_neg (not_not_intro hnone)).trans (if_pos hfrom)
    have hsource : mapping.source = "" := by
      rw [FieldMapping.source, if_neg (by rw [hfrom]; decide), hfrom]
    refine ⟨.null, ?_, ?_⟩
    · rw [hresolved]
      exact if_pos ⟨rfl, hfrom, hnone⟩
    · rw [resolveMappingValue, if_neg (not_not_intro hnone), if_pos (.inl hsource), applyTransforms,
        foldl_applyStep_null]
      exact carries_null rfl
  · obtain ⟨hsources, hjoined, hchain⟩ := h hskipped
    have hkept : ¬ ((MailBody.resolveSources python.texts mapping.entry scope).isEmpty ∧
        mapping.entry.fromField = "" ∧ mapping.entry.sources = []) :=
      fun hempty => hskipped ⟨hempty.2.2, hempty.2.1⟩
    obtain ⟨value, hsteps, hcarries⟩ := exists_applySteps others scope hchain
      fun hnil => exists_resolved hsources (hjoined hnil).1
        (fun hfrom => hskipped ⟨(hjoined hnil).1, hfrom⟩) (hjoined hnil).2
    refine ⟨value, ?_, hcarries⟩
    rw [if_neg hkept]
    by_cases hnil : mapping.transform = []
    · rw [hnil] at hsteps
      have hvalues : MailBody.resolveSources python.texts mapping.entry scope = [value] :=
        Except.ok.inj hsteps
      have htransform : mapping.entry.transform = .null := by
        rw [FieldMapping.entry, hnil]
        rfl
      rw [htransform, hvalues]
      rfl
    · have htransform : mapping.entry.transform =
          .list (mapping.transform.map fun step => .dict step.toDict) := by
        rw [FieldMapping.entry]
        exact if_neg fun hempty => hnil (List.isEmpty_iff.mp hempty)
      have htruthy : mapping.entry.transform.truthy = true := by
        rw [htransform, truthy, Bool.not_eq_true', List.isEmpty_eq_false_iff]
        exact fun hempty => hnil (List.map_eq_nil_iff.mp hempty)
      rw [if_pos htruthy, htransform, transformed]
      show ((applySteps _ (mapping.transform.map fun step => .dict step.toDict) _).bind _).map _ = _
      rw [hsteps]
      rfl

/-- After a rule that both sides take alike, their objects agree. -/
theorem exists_applyRule (h : RuleAlike browser python others scope sourceFields mapping fields)
    (hagree : Agrees (.object shown) (.dict fields)) :
    ∃ fields' shown', applyRule python.texts (transforms python others) scope mapping.entry
        { result := .dict fields } = .ok { result := .dict fields' } ∧
      previewRule browser sourceFields (parseFields browser scope.data) (.object shown) mapping =
        .object shown' ∧
      Agrees (.object shown') (.dict fields') := by
  rcases h with hempty | ⟨target, htarget, hsources, hwrites⟩
  · refine ⟨fields, shown, ?_, if_pos hempty, hagree⟩
    have hskipped : mapping.entry.target = "" := hempty
    rw [applyRule, ruleValue, if_pos hskipped]
    rfl
  · obtain ⟨value, hvalue, hcarries⟩ := exists_ruleValue others htarget hsources
    rw [previewRule_eq _ _ (by rw [htarget]; exact spell_ne_empty target), htarget, applyRule, hvalue]
    have hplace := hwrites _ hvalue
    have hfinal : Carries (JsValue.orElse _ .null) value := hcarries.orElse fun _ => rfl
    by_cases hnull : value = .null
    · subst hnull
      have hassigned := agrees_assignPath_null browser hfinal.isNullish hplace hagree
      obtain ⟨shown', hshown'⟩ := hassigned.object
      rw [hshown'] at hassigned ⊢
      exact ⟨fields, shown', rfl, rfl, hassigned⟩
    · have hsome : (if value.pyEq .null then none else some value) = some value :=
        if_neg fun heq => hnull (pyEq_null_iff.mp heq)
      rw [hsome] at hplace ⊢
      obtain ⟨hfits, hconcat⟩ := hplace
      obtain ⟨fields', hset, hassigned⟩ :=
        agrees_assignPath browser python hfits hagree hfinal.agrees
      obtain ⟨shown', hshown'⟩ := hassigned.object
      rw [hshown'] at hassigned ⊢
      refine ⟨fields', shown', ?_, rfl, hassigned⟩
      have hset' : setNested python.texts true mapping.entry.target value (.dict fields) =
          .ok (.dict fields') := by
        rw [FieldMapping.target_entry, htarget]
        exact hset
      rw [← htarget, ← FieldMapping.target_entry] at hconcat
      show (setNested python.texts true mapping.entry.target value (.dict fields)).map _ = _
      rw [hset', hconcat]
      rfl

theorem exists_applyRules {mappings : List FieldMapping}
    (h : RunAlike browser python others scope sourceFields mappings fields)
    (hagree : Agrees (.object shown) (.dict fields)) :
    ∃ fields', applyRules python.texts (transforms python others) scope
        (mappings.map FieldMapping.entry) { result := .dict fields } = .ok { result := .dict fields' } ∧
      Agrees (mappings.foldl (previewRule browser sourceFields (parseFields browser scope.data))
        (.object shown)) (.dict fields') := by
  induction mappings generalizing fields shown with
  | nil => exact ⟨fields, rfl, hagree⟩
  | cons mapping mappings ih =>
      obtain ⟨fields', shown', happly, hshown, hagree'⟩ := exists_applyRule h.1 hagree
      obtain ⟨result, hresult, hlast⟩ := ih (h.2.2 _ fields' happly rfl) hagree'
      refine ⟨result, ?_, ?_⟩
      · rw [List.map_cons, applyRules, happly]
        exact hresult
      · rw [List.foldl_cons, hshown]
        exact hlast

/-- If both sides take each rule alike, given what the rules before it have written, the preview shows the
object that the engine builds. -/
theorem preview_agrees {mappings : List FieldMapping}
    (h : RunAlike browser python others scope sourceFields mappings []) :
    Previews browser python others scope sourceFields mappings := by
  have hempty : Agrees (.object []) (.dict []) := agrees_empty_iff.mpr (.object nofun)
  obtain ⟨fields, happly, hagree⟩ := exists_applyRules h hempty
  refine ⟨fields, ?_, hagree⟩
  rw [applyFieldMapping]
  show (applyRules python.texts (transforms python others) scope (mappings.map FieldMapping.entry)
    { result := .dict [] }).bind _ = _
  rw [happly]
  rfl

end Runs

/-! ## Samples -/

namespace OrderSample

def calculate (operation : Arithmetic) (first second : PyFloat) : PyFloat :=
  match first, second with
  | .finite first, .finite second =>
      match operation with
      | .add => .finite (first + second)
      | .sub => .finite (first - second)
      | .mul => .finite (first * second)
      | .div => if second = 0 then .nan else .finite (first / second)
  | _, _ => .nan

def number (text : String) : PyFloat :=
  ((Conditions.Sample.digits text).map fun number => PyFloat.finite number).getD .nan

def python : Python where
  texts := Conditions.Sample.texts
  upper := String.map Char.toUpper
  lower := String.map Char.toLower
  nearest number := .finite number
  calculate := calculate

def browser : Browser where
  numberText number :=
    match number with
    | .finite number => if number.den = 1 then toString number.num else python.texts.str (.float number)
    | .infinite negative => if negative then "-Infinity" else "Infinity"
    | .nan => "NaN"
  functionText name := "function " ++ name ++ "() \x7b [native code] \x7d"
  parseInt := number
  parseFloat := number
  toNumber text := if text = "" then .finite 0 else number text
  toUpperCase := String.map Char.toUpper
  toLowerCase := String.map Char.toLower
  nearest number := .finite number
  calculate := calculate
  objectPrototype name :=
    if name = "__proto__" then .object []
    else if name ∈ ["constructor", "toString", "valueOf", "hasOwnProperty"] then .function name
    else .undefined
  arrayPrototype name := if name ∈ ["map", "join", "concat"] then .function name else .undefined
  inherits name hname := by
    rw [if_neg hname]
    split <;> rfl

def scope : Scope where
  data := [("id", .str "a7"), ("price", .int 5), ("buyer", .dict [("first", .str "Anna"),
    ("last", .str "Nowak")]), ("products",
      .list [.dict [("symbol", .str "s1")], .dict [("symbol", .str "s2")]])]
  triggerData := []

def sourceFields : List String :=
  ["id", "price", "buyer.first", "buyer.last", "products[].symbol"]

def others (_ : Scope) (values : List Value) (_ : Dict) : Except String Value :=
  .ok (values.headD .null)

def doubled : FieldMapping where
  fromField := "price"
  toField := "price"
  transform := [{ type := .math, settings := [("operation", "mul"), ("operand", "2")] }]

def buyerName : FieldMapping where
  fromField := "buyer.first"
  toField := "name"
  sources := ["buyer.first", "buyer.last"]

def symbols : Target :=
  ⟨⟨"products".toList, true, by decide, by decide, by decide⟩,
    [⟨"symbol".toList, false, by decide, by decide, by decide⟩]⟩

def lines : Target :=
  ⟨⟨"lines".toList, true, by decide, by decide, by decide⟩,
    [⟨"code".toList, false, by decide, by decide, by decide⟩]⟩

def codes : FieldMapping where
  fromField := "products[].symbol"
  toField := "lines[].code"

end OrderSample

open OrderSample

theorem codes_read : SourceReads browser python scope "products[].symbol" := by
  have hitems : ReadsAlike browser python symbols.segments (.dict scope.data) := by
    refine .inr ⟨fun h => (by cases h), _, rfl, fun item hitem => ?_⟩
    rcases List.mem_cons.mp hitem with rfl | hitem
    · exact .inr ⟨fun h => (by cases h), trivial⟩
    · obtain rfl := List.mem_singleton.mp hitem
      exact .inr ⟨fun h => (by cases h), trivial⟩
  refine .inr ⟨symbols, by decide, .inl (by decide), hitems, fun hnull => ?_⟩
  cases hnull

/-- The codes of the lines are shown as the engine sends them. -/
theorem codes_agree : Previews browser python others scope sourceFields [codes] := by
  have hresolved : MailBody.resolveSources python.texts codes.entry scope =
      [.list [.str "s1", .str "s2"]] := rfl
  have hvalue : ruleValue python.texts (transforms python others) codes.entry scope =
      .ok (some (.list [.str "s1", .str "s2"])) := rfl
  refine preview_agrees ⟨.inr ⟨lines, by decide, fun _ => ⟨?_, fun _ => ⟨rfl, ?_⟩, trivial⟩, ?_⟩,
    fun _ _ _ later hlater => (by cases hlater), fun _ _ _ _ => trivial⟩
  · exact ⟨codes_read, fun hnull => (by cases hnull)⟩
  · rw [hresolved]
    intro value hmem
    obtain rfl := List.mem_singleton.mp hmem
    exact ⟨trivial, trivial, trivial⟩
  · rw [hvalue]
    rintro _ ⟨⟩
    refine ⟨⟨by decide, _, rfl, .inl rfl, fun index element _ => ?_, fun index inner _ hinner => ?_⟩, rfl⟩
    · exact ⟨[], rfl, by decide, .inr (.inl rfl)⟩
    · cases hinner

/-- The preview shows a product that the engine cannot compute, and two values that it joins. -/
theorem price_differs :
    ¬ Previews browser python others scope sourceFields [doubled] ∧
      ¬ Previews browser python others scope sourceFields [buyerName] := by
  constructor
  · rintro ⟨fields, hfields, -⟩
    have hraised : applyFieldMapping python.texts (transforms python others) [doubled.entry] scope =
        .error "can't multiply sequence by non-int of type 'float'" := rfl
    cases hraised.symm.trans hfields
  · rintro ⟨fields, hfields, hagree⟩
    have hmapped : applyFieldMapping python.texts (transforms python others) [buyerName.entry] scope =
        .ok (.dict [("name", .str "Anna Nowak")]) := rfl
    have hshown : generatePreview browser sourceFields scope.data [buyerName] =
        .object [("name", .array [.str "Anna", .str "Nowak"])] := rfl
    obtain rfl : [("name", Value.str "Anna Nowak")] = fields :=
      Value.dict.inj (Except.ok.inj (hmapped.symm.trans hfields))
    rw [hshown] at hagree
    have hname := agrees_object_iff.mp hagree "name"
    cases hname

end VisualMapper

end IntegrationPlatform
