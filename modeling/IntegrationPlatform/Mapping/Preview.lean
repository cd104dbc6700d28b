import IntegrationPlatform.Mapping.MapperRules

/-!
# The preview of the visual mapper

`generatePreview` computes in the browser what a list of rules makes of a sample: it reads paths, applies
transforms and writes paths with the values and the operators of JavaScript. Values are immutable trees, as
on the other side: where a rule puts a part of the sample into the output, that part is copied.
-/

namespace IntegrationPlatform

namespace VisualMapper

/-! ## Values -/

/-- A value of JavaScript. The functions are those that objects inherit. -/
inductive JsValue where
  | undefined
  | null
  | bool (flag : Bool)
  | number (number : PyFloat)
  | str (text : String)
  | array (items : List JsValue)
  | object (fields : List (String × JsValue))
  | function (name : String)

namespace JsValue

/-- `value == null`. -/
def isNullish : JsValue → Bool
  | .undefined => true
  | .null => true
  | _ => false

/-- `value ?? other`. -/
def orElse (value other : JsValue) : JsValue :=
  if value.isNullish then other else value

/-- `typeof value === 'object' && value !== null`. -/
def isObject : JsValue → Bool
  | .array _ => true
  | .object _ => true
  | _ => false

/-- The items of an array, and none otherwise. -/
def itemsOf : JsValue → List JsValue
  | .array items => items
  | _ => []

end JsValue

/-- What the browser computes with: the texts of numbers and functions, the numbers that texts begin with or
stand for, `toUpperCase` and `toLowerCase`, the number that is nearest to an integer, the arithmetic of
numbers, and what objects and arrays have that are not their own. -/
structure Browser where
  numberText : PyFloat → String
  functionText : String → String
  parseInt : String → PyFloat
  parseFloat : String → PyFloat
  toNumber : String → PyFloat
  toUpperCase : String → String
  toLowerCase : String → String
  nearest : Int → PyFloat
  calculate : Arithmetic → PyFloat → PyFloat → PyFloat
  objectPrototype : String → JsValue
  arrayPrototype : String → JsValue
  /-- But for the prototype itself, objects inherit functions only. -/
  inherits : ∀ name ≠ "__proto__", (objectPrototype name).isObject = false

variable (browser : Browser)

mutual

/-- The value that `JSON.parse` makes of what Python decodes like this. -/
def parse : Value → JsValue
  | .null => .null
  | .bool flag => .bool flag
  | .int number => .number (browser.nearest number)
  | .float number => .number (.finite number)
  | .str text => .str text
  | .list items => .array (parseItems items)
  | .dict fields => .object (parseFields fields)

/-- The items of an array. -/
def parseItems : List Value → List JsValue
  | [] => []
  | item :: items => parse item :: parseItems items

/-- The fields of an object. -/
def parseFields : List (String × Value) → List (String × JsValue)
  | [] => []
  | (key, value) :: fields => (key, parse value) :: parseFields fields

end

mutual

/-- `String(value)`. -/
def jsText : JsValue → String
  | .undefined => "undefined"
  | .null => "null"
  | .bool flag => if flag then "true" else "false"
  | .number number => browser.numberText number
  | .str text => text
  | .array items => ",".intercalate (itemTexts items)
  | .object _ => "[object Object]"
  | .function name => browser.functionText name

/-- The texts of the items of an array, as `join` has them. -/
def itemTexts : List JsValue → List String
  | [] => []
  | item :: items => (if item.isNullish then "" else jsText item) :: itemTexts items

end

/-- `Number(value)`. -/
def jsNumber : JsValue → PyFloat
  | .undefined => .nan
  | .null => .finite 0
  | .bool flag => .finite (if flag then 1 else 0)
  | .number number => number
  | .str text => browser.toNumber text
  | .array items => browser.toNumber (jsText browser (.array items))
  | .object fields => browser.toNumber (jsText browser (.object fields))
  | .function name => browser.toNumber (browser.functionText name)

/-! ## Reading -/

/-- The index of an array that a key stands for. -/
def indexOf? (key : String) : Option Nat :=
  key.toNat?.filter fun index => toString index = key

/-- `source[key]`, for an object or an array. Anything else is taken to have nothing. -/
def property (source : JsValue) (key : String) : JsValue :=
  match source with
  | .object fields => (Assoc.find fields key).getD (browser.objectPrototype key)
  | .array items =>
      match indexOf? key with
      | some index => (items[index]?).getD .undefined
      | none =>
          if key = "length" then .number (.finite items.length) else browser.arrayPrototype key
  | _ => .undefined

/-- `key in input`. -/
def inObject (input : List (String × JsValue)) (key : String) : Bool :=
  Assoc.has input key || !(browser.objectPrototype key).isNullish || key = "__proto__"

/-- `current.endsWith('[]')`. -/
def isArraySegment (current : List Char) : Bool :=
  ['[', ']'].isSuffixOf current

/-- The key of a segment. -/
def keyOf (current : List Char) : String :=
  String.ofList (if isArraySegment current then current.take (current.length - 2) else current)

def readPathParts : List (List Char) → JsValue → JsValue
  | [], source => source
  | current :: rest, source =>
      if source.isNullish then .null
      else
        let value := property browser source (keyOf current)
        if isArraySegment current then
          match value with
          | .array items => if rest.isEmpty then .array items else .array (items.map (readPathParts rest))
          | _ => .array []
        else readPathParts rest value

def readPath (source : JsValue) (path : String) : JsValue :=
  if path = "" then .null else readPathParts browser (Value.splitDots path.toList) source

/-- `path.replace(/\[\]/g, '')`. -/
def withoutBrackets : List Char → List Char
  | [] => []
  | '[' :: ']' :: rest => withoutBrackets rest
  | letter :: rest => letter :: withoutBrackets rest

/-- The key that is tried where a path is not found: the path with `_` for its dots. -/
def joinedKey (path : String) : String :=
  String.ofList ((withoutBrackets path.toList).map fun letter => if letter = '.' then '_' else letter)

/-- The last segment of a path, which is tried after that. -/
def lastSegment (path : String) : String :=
  String.ofList (Removal.removeFirst ((Value.splitDots path.toList).getLast?.getD []) ['[', ']'])

/-- What is taken where a path is not found. -/
def fallback (input : List (String × JsValue)) (path : String) : JsValue :=
  if inObject browser input (joinedKey path) then property browser (.object input) (joinedKey path)
  else if lastSegment path ≠ "" ∧ lastSegment path ≠ joinedKey path ∧
      inObject browser input (lastSegment path) then
    property browser (.object input) (lastSegment path)
  else .undefined

def readPathWithFallback (input : List (String × JsValue)) (path : String) : JsValue :=
  (readPath browser (.object input) path).orElse (fallback browser input path)

/-- `resolveMappingValue`. A source that is no field is taken for a text. -/
def resolveMappingValue (sourceFields : List String) (input : List (String × JsValue))
    (mapping : FieldMapping) : JsValue :=
  if mapping.sources ≠ [] then .array (mapping.sources.map (readPathWithFallback browser input))
  else if mapping.source = "" ∨ mapping.source = "undefined" then .null
  else
    (readPathWithFallback browser input mapping.source).orElse
      (if mapping.source ∈ sourceFields then .null else .str mapping.source)

/-! ## Writing -/

/-- `target[key] = value`. An assignment to `__proto__` adds no field. -/
def setProperty (fields : List (String × JsValue)) (key : String) (value : JsValue) :
    List (String × JsValue) :=
  if key = "__proto__" then fields else Assoc.put fields key value

/-- `assignPathParts`. Nothing is assigned to an array. -/
def assignPathParts : List (List Char) → JsValue → JsValue → JsValue
  | [], _, target => target
  | current :: rest, value, .object fields =>
      if rest.isEmpty then .object (setProperty fields (keyOf current) value)
      else
        let child := property browser (.object fields) (keyOf current)
        if isArraySegment current then
          let nextArray :=
            if child.itemsOf.isEmpty then value.itemsOf.map fun _ => .object [] else child.itemsOf
          .object (setProperty fields (keyOf current) (.array (nextArray.mapIdx fun index item =>
            if item.isObject then
              assignPathParts rest ((value.itemsOf[index]?).getD .undefined) item
            else item)))
        else
          let next := if child.isObject then child else .object []
          .object (setProperty fields (keyOf current) (assignPathParts rest value next))
  | _, _, target => target

def assignPath (target : JsValue) (path : String) (value : JsValue) : JsValue :=
  assignPathParts browser (Value.splitDots path.toList) value target

/-! ## Transforms -/

/-- `text.trim()`. -/
def trimmed (text : String) : String :=
  let isSpace : Char → Bool := fun letter =>
    letter.toNat ∈ [0x20, 0xa0, 0x1680, 0x2028, 0x2029, 0x202f, 0x205f, 0x3000, 0xfeff] ||
      (0x9 ≤ letter.toNat && letter.toNat ≤ 0xd) || (0x2000 ≤ letter.toNat && letter.toNat ≤ 0x200a)
  String.ofList ((((text.toList.dropWhile isSpace).reverse).dropWhile isSpace).reverse)

/-- `text.split(separator)`. -/
def pieces (separator text : String) : List String :=
  if separator = "" then text.toList.map String.singleton else text.splitOn separator

/-- The branch of `applyTransforms` for `math`. -/
def applyJsMath (step : TransformStep) (current : JsValue) : PyFloat :=
  let operand := ((step.settings.find "operand").map browser.toNumber).getD (.finite 0)
  let base := jsNumber browser current
  match step.settings.find "operation" with
  | some "sub" => browser.calculate .sub base operand
  | some "mul" => browser.calculate .mul base operand
  | some "div" =>
      match operand with
      | .finite 0 => base
      | operand => browser.calculate .div base operand
  | _ => browser.calculate .add base operand

/-- The branch for `default`. -/
def applyJsDefault (step : TransformStep) : JsValue → JsValue
  | .str "" => ((step.settings.find "default_value").map .str).getD .undefined
  | current => current

/-- The branch for `join`. -/
def applyJsJoin (step : TransformStep) : JsValue → JsValue
  | .array items => .str ((step.setting "separator" ",").intercalate (itemTexts browser items))
  | current => current

/-- One step of `applyTransforms`. -/
def applyStep (step : TransformStep) (current : JsValue) : JsValue :=
  if current.isNullish then current
  else
    match step.type with
    | .uppercase => .str (browser.toUpperCase (jsText browser current))
    | .lowercase => .str (browser.toLowerCase (jsText browser current))
    | .trim => .str (trimmed (jsText browser current))
    | .prepend => .str (step.setting "value" "" ++ jsText browser current)
    | .append => .str (jsText browser current ++ step.setting "value" "")
    | .default => applyJsDefault step current
    | .toInt => .number (browser.parseInt (jsText browser current))
    | .toFloat => .number (browser.parseFloat (jsText browser current))
    | .toText => .str (jsText browser current)
    | .math => .number (applyJsMath browser step current)
    | .split => .array ((pieces (step.setting "separator" ",") (jsText browser current)).map .str)
    | .join => applyJsJoin browser step current
    | .replace =>
        .str ((step.setting "new" "").intercalate
          (pieces (step.setting "old" "") (jsText browser current)))

def applyTransforms (value : JsValue) (mapping : FieldMapping) : JsValue :=
  mapping.transform.foldl (fun current step => applyStep browser step current) value

/-! ## `generatePreview` -/

/-- One rule. -/
def previewRule (sourceFields : List String) (input : List (String × JsValue)) (output : JsValue)
    (mapping : FieldMapping) : JsValue :=
  if mapping.target = "" then output
  else if mapping.sources = [] ∧ (mapping.source = "" ∨ mapping.source = "undefined") then
    assignPath browser output mapping.target .null
  else
    assignPath browser output mapping.target
      ((applyTransforms browser (resolveMappingValue browser sourceFields input mapping) mapping).orElse
        .null)

/-- The output of `generatePreview` for a sample. -/
def generatePreview (sourceFields : List String) (sample : Dict) (mappings : List FieldMapping) : JsValue :=
  mappings.foldl (previewRule browser sourceFields (parseFields browser sample)) (.object [])

end VisualMapper

end IntegrationPlatform
