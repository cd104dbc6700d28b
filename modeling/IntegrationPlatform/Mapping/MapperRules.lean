import IntegrationPlatform.Mapping.MailBody

/-!
# Rules of the visual mapper

The rules that can be put together in the visual mapper, with the transforms that both its preview and the
workflow engine know, and what `_apply_transform` of the engine makes of such a transform.
-/

namespace IntegrationPlatform

open Value

namespace VisualMapper

open MappingResolver (MappingEntry)

/-! ## Transforms -/

/-- The types of transforms that both sides name. -/
inductive TransformType where
  | uppercase
  | lowercase
  | trim
  | prepend
  | append
  | default
  | toInt
  | toFloat
  | toText
  | math
  | split
  | join
  | replace

namespace TransformType

/-- The name of a type. -/
def name : TransformType → String
  | .uppercase => "uppercase"
  | .lowercase => "lowercase"
  | .trim => "trim"
  | .prepend => "prepend"
  | .append => "append"
  | .default => "default"
  | .toInt => "to_int"
  | .toFloat => "to_float"
  | .toText => "to_string"
  | .math => "math"
  | .split => "split"
  | .join => "join"
  | .replace => "replace"

/-- `configFields`: the settings that the mapper has an input for. -/
def configFields : TransformType → List String
  | .prepend => ["value"]
  | .append => ["value"]
  | .default => ["default_value"]
  | .math => ["operation", "operand"]
  | .split => ["separator"]
  | .join => ["separator"]
  | .replace => ["old", "new"]
  | _ => []

/-- The type with a name. -/
def named? (name : String) : Option TransformType :=
  [.uppercase, .lowercase, .trim, .prepend, .append, .default, .toInt, .toFloat, .toText, .math, .split,
    .join, .replace].find? fun type => type.name = name

end TransformType

/-- A step of a transform. Its settings are what has been typed into the inputs for it. -/
structure TransformStep where
  type : TransformType
  settings : Assoc String := []
  offered : ∀ setting ∈ settings, setting.1 ∈ type.configFields := by decide

namespace TransformStep

/-- A setting, or its default. -/
def setting (step : TransformStep) (key default : String) : String :=
  (step.settings.find key).getD default

/-- A step as it is saved. -/
def toDict (step : TransformStep) : Dict :=
  ("type", .str step.type.name) :: step.settings.map fun setting => (setting.1, .str setting.2)

/-- A text that is typed in. -/
def typed? : String × Value → Option (String × String)
  | (key, .str text) => some (key, text)
  | _ => none

/-- The step that is saved like this, if there is one. -/
def ofDict? : Dict → Option TransformStep
  | ("type", .str name) :: fields =>
      match TransformType.named? name, fields.mapM typed? with
      | some type, some settings =>
          if offered : ∀ setting ∈ settings, setting.1 ∈ type.configFields then
            some { type, settings, offered }
          else none
      | _, _ => none
  | _ => none

theorem ofDict?_toDict (step : TransformStep) : ofDict? step.toDict = some step := by
  have hname : TransformType.named? step.type.name = some step.type := by
    cases step.type <;> rfl
  have htyped : (step.settings.map fun setting => (setting.1, Value.str setting.2)).mapM typed? =
      some step.settings := by
    rw [List.mapM_map]
    exact List.mapM_pure (m := Option) (f := id) |>.trans (congrArg some (List.map_id _))
  rw [toDict, ofDict?, hname, htyped]
  exact dif_pos step.offered

end TransformStep

/-- `FieldMapping`, where a rule without sources has an empty list of them, and one without transforms an
empty list of steps. -/
structure FieldMapping where
  fromField : String := ""
  toField : String := ""
  fromCustom : Option String := none
  toCustom : Option String := none
  sources : List String := []
  transform : List TransformStep := []

namespace FieldMapping

/-- `resolveTarget`. -/
def target (mapping : FieldMapping) : String :=
  if mapping.toField = "__custom__" then mapping.toCustom.getD "" else mapping.toField

/-- `mapping.from === '__custom__' ? mapping.from_custom ?? '' : mapping.from`. -/
def source (mapping : FieldMapping) : String :=
  if mapping.fromField = "__custom__" then mapping.fromCustom.getD "" else mapping.fromField

/-- A rule as it is saved for the engine. -/
def entry (mapping : FieldMapping) : MappingEntry where
  toField := mapping.toField
  toCustom := mapping.toCustom.getD ""
  fromField := mapping.fromField
  fromCustom := .str (mapping.fromCustom.getD "")
  sources := mapping.sources
  transform :=
    if mapping.transform.isEmpty then .null
    else .list (mapping.transform.map fun step => .dict step.toDict)

theorem target_entry (mapping : FieldMapping) : mapping.entry.target = mapping.target :=
  rfl

end FieldMapping

/-! ## `_apply_transform` -/

/-- The operations on floats. -/
inductive Arithmetic where
  | add
  | sub
  | mul
  | div

namespace Arithmetic

/-- The name of an operation. -/
def name : Arithmetic → String
  | .add => "add"
  | .sub => "sub"
  | .mul => "mul"
  | .div => "div"

/-- What Python raises for a float and a text. -/
def typeError : Arithmetic → String
  | .add => "unsupported operand type(s) for +: 'float' and 'str'"
  | .sub => "unsupported operand type(s) for -: 'float' and 'str'"
  | .mul => "can't multiply sequence by non-int of type 'float'"
  | .div => "unsupported operand type(s) for /: 'float' and 'str'"

end Arithmetic

/-- What Python computes with: the functions on texts, `upper` and `lower`, the float that is nearest to an
integer, and the arithmetic of floats. -/
structure Python where
  texts : TextFunctions
  upper : String → String
  lower : String → String
  nearest : Int → PyFloat
  calculate : Arithmetic → PyFloat → PyFloat → PyFloat

/-- `text.replace(old, new)`. -/
def replaced (old new text : String) : String :=
  if old = "" then new ++ String.join (text.toList.map fun letter => String.singleton letter ++ new)
  else new.intercalate (text.splitOn old)

section Engine

variable (python : Python)

/-- `int(val)`, unless it raises a `ValueError` or a `TypeError`. -/
def pyInt : Value → Option Int
  | .bool flag => some (if flag then 1 else 0)
  | .int number => some number
  | .float number => some (number.num.tdiv number.den)
  | .str text => python.texts.int text
  | _ => none

/-- `float(val)`, unless it raises a `ValueError` or a `TypeError`. An `OverflowError` is not caught. -/
def pyFloat : Value → Except String (Option PyFloat)
  | .bool flag => .ok (some (.finite (if flag then 1 else 0)))
  | .int number =>
      match python.nearest number with
      | .finite nearest => .ok (some (.finite nearest))
      | _ => .error "int too large to convert to float"
  | .float number => .ok (some (.finite number))
  | .str text => .ok (python.texts.float text)
  | _ => .ok none

/-- A float as a value. One that is not finite is none of JSON, and counts as an error here. -/
def floatValue : PyFloat → Except String Value
  | .finite number => .ok (.float number)
  | _ => .error "Out of range float values are not JSON compliant"

/-- What is made of `str(val)`, where `val` is not `None`. -/
def onText (change : String → Value) (value : Value) : Value :=
  if value.pyEq .null then .null else change (python.texts.str value)

/-- The branch of `_apply_transform` for `math`. -/
def applyMath (step : TransformStep) (value : Value) : Except String Value :=
  (pyFloat python value).bind fun number? =>
    match number? with
    | none => .ok value
    | some number =>
        match [Arithmetic.add, .sub, .mul, .div].find? fun operation =>
          operation.name = step.setting "operation" "add" with
        | none => .ok value
        | some operation =>
            match step.settings.find "operand", operation with
            | some _, operation => .error operation.typeError
            | none, .div => .ok value
            | none, operation => floatValue (python.calculate operation number (.finite 0))

/-- `_apply_transform`, for the types that both sides name. -/
def applyTransform (step : TransformStep) (values : List Value) : Except String Value :=
  let value := values.headD .null
  match step.type with
  | .join => .ok (.str ((step.setting "separator" " ").intercalate
      ((values.filter fun value => !value.pyEq .null).map python.texts.str)))
  | .uppercase => .ok (onText python (fun text => .str (python.upper text)) value)
  | .lowercase => .ok (onText python (fun text => .str (python.lower text)) value)
  | .toInt =>
      .ok (match pyInt python value with
        | some number => .int number
        | none => value)
  | .toFloat => (pyFloat python value).bind fun number? =>
      match number? with
      | some number => floatValue number
      | none => .ok value
  | .toText => .ok (onText python .str value)
  | .default =>
      .ok (if value.pyEq .null then ((step.settings.find "default_value").map .str).getD .null else value)
  | .split =>
      if value.pyEq .null then .ok (.list [])
      else if step.setting "separator" "," = "" then .error "empty separator"
      else .ok (.list (((python.texts.str value).splitOn (step.setting "separator" ",")).map .str))
  | .trim => .ok (onText python (fun text => .str (String.ofList (MailBody.strip text.toList))) value)
  | .replace =>
      .ok (onText python (fun text => .str (replaced (step.setting "old" "") (step.setting "new" "") text))
        value)
  | .math => applyMath python step value
  | .prepend => .ok (onText python (fun text => .str (step.setting "value" "" ++ text)) value)
  | .append => .ok (onText python (fun text => .str (text ++ step.setting "value" "")) value)

/-- `_apply_transform`. The other types, and settings that the mapper has no input for, are given. -/
def transforms (others : Scope → List Value → Dict → Except String Value) (scope : Scope)
    (values : List Value) (transform : Dict) : Except String Value :=
  match TransformStep.ofDict? transform with
  | some step => applyTransform python step values
  | none => others scope values transform

end Engine

end VisualMapper

end IntegrationPlatform
