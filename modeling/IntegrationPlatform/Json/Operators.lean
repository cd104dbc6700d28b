import IntegrationPlatform.Json.Value

/-!
# Python's operators on JSON values

What comparisons, membership tests and lookups of dotted paths compute on JSON values. A test
that raises a `TypeError` is an error with the text of the exception. The functions of the
standard library on texts are parameters.
-/

namespace IntegrationPlatform

/-- A float, of which JSON has the finite ones only. -/
inductive PyFloat where
  | finite (number : Rat)
  | infinite (negative : Bool)
  | nan

/-- What `re.compile` does with a pattern. -/
inductive Compiled where
  | pattern
  | reError
  | raises (message : String)

/-- The functions on texts. -/
structure TextFunctions where
  /-- `str(value)`. -/
  str : Value → String
  /-- `int(text)`, unless it raises a `ValueError`. -/
  int : String → Option Int
  /-- `float(text)`, unless it raises a `ValueError`. -/
  float : String → Option PyFloat
  /-- `re.compile(pattern)`. -/
  compile : String → Compiled
  /-- Whether the search for a compiled pattern finds it in time. -/
  search : String → String → Bool

namespace Value

/-! ## Membership -/

/-- The value can be a key of a dictionary. -/
def hashable : Value → Bool
  | .list _ => false
  | .dict _ => false
  | _ => true

/-- `part in text`, on the letters of two texts. -/
def isPart (part : List Char) : List Char → Bool
  | [] => part.isEmpty
  | letter :: rest => part.isPrefixOf (letter :: rest) || isPart part rest

theorem isPart_iff {part text : List Char} : isPart part text = true ↔ part <:+: text := by
  induction text with
  | nil => rw [isPart, List.isEmpty_iff, List.infix_nil]
  | cons letter rest ih =>
      rw [isPart, Bool.or_eq_true, List.isPrefixOf_iff_prefix, ih, List.infix_cons_iff]

/-- `needle in haystack`. -/
def pyIn (needle haystack : Value) : Except String Bool :=
  match haystack with
  | .list items => .ok (items.any fun item => needle.pyEq item)
  | .str text =>
      match needle with
      | .str part => .ok (isPart part.toList text.toList)
      | _ => .error ("'in <string>' requires string as left operand, not " ++ needle.typeName)
  | .dict fields =>
      if needle.hashable then .ok (fields.any fun field => needle.pyEq (.str field.1))
      else .error ("unhashable type: '" ++ needle.typeName ++ "'")
  | _ => .error ("argument of type '" ++ haystack.typeName ++ "' is not iterable")

/-- The needle cannot be searched for in the haystack. -/
def Unsearchable (needle haystack : Value) : Prop :=
  match haystack with
  | .list _ => False
  | .str _ => ∀ text, needle ≠ .str text
  | .dict _ => needle.hashable = false
  | _ => True

theorem pyIn_raises (needle haystack : Value) :
    (∃ message, needle.pyIn haystack = .error message) ↔ needle.Unsearchable haystack := by
  cases haystack with
  | list items => simp [pyIn, Unsearchable]
  | str text => cases needle <;> simp [pyIn, Unsearchable]
  | dict fields =>
      by_cases hneedle : needle.hashable <;> simp [pyIn, Unsearchable, hneedle]
  | null => simp [pyIn, Unsearchable]
  | bool flag => simp [pyIn, Unsearchable]
  | int number => simp [pyIn, Unsearchable]
  | float number => simp [pyIn, Unsearchable]

/-! ## Comparison -/

mutual

/-- How two values compare, where `<` and `>` do not raise a `TypeError`. -/
def order : Value → Value → Option Ordering
  | .str left, .str right => some (compareOfLessAndEq left right)
  | .list left, .list right => orderList left right
  | left, right =>
      match left.number?, right.number? with
      | some first, some second => some (compareOfLessAndEq first second)
      | _, _ => none

/-- Lists compare as their first items that differ do. -/
def orderList : List Value → List Value → Option Ordering
  | [], [] => some .eq
  | [], _ :: _ => some .lt
  | _ :: _, [] => some .gt
  | left :: lefts, right :: rights =>
      if left.pyEq right then orderList lefts rights else order left right

end

/-- What `_coerce_types` makes of one of its arguments: a value, or a float that JSON does not
have. -/
inductive Operand where
  | json (value : Value)
  | infinite (negative : Bool)
  | nan

/-- A float as an operand. -/
def Operand.ofFloat : PyFloat → Operand
  | .finite number => .json (.float number)
  | .infinite negative => .infinite negative
  | .nan => .nan

/-- How two operands compare. A `TypeError`, which the operators catch, and a comparison with
something that is not a number make every comparison false. -/
def Operand.order : Operand → Operand → Option Ordering
  | .json left, .json right => left.order right
  | .infinite negative, .infinite negative' =>
      some (compareOfLessAndEq (!negative) (!negative'))
  | .infinite negative, .json right => right.number?.map fun _ => if negative then .lt else .gt
  | .json left, .infinite negative => left.number?.map fun _ => if negative then .gt else .lt
  | _, _ => none

/-- `==` on operands. -/
def Operand.pyEq : Operand → Operand → Bool
  | .json left, .json right => left.pyEq right
  | .infinite negative, .infinite negative' => negative == negative'
  | _, _ => false

variable (texts : TextFunctions)

/-- `type(number)(text)`, for a number and a text, unless it raises a `ValueError`. -/
def readAs (number : Value) (text : String) : Option Operand :=
  match number with
  | .bool _ => some (.json (.bool (text != "")))
  | .int _ => (texts.int text).map fun read => .json (.int read)
  | .float _ => (texts.float text).map .ofFloat
  | _ => none

/-- `isinstance(value, (int, float))`. -/
def isNumber : Value → Bool
  | .bool _ => true
  | .int _ => true
  | .float _ => true
  | _ => false

/-- `str(value)`, as an operand. -/
def asText (value : Value) : Operand :=
  .json (.str (texts.str value))

def coerceTypes (left right : Value) : Operand × Operand :=
  if left.typeName = right.typeName then (.json left, .json right)
  else
    match left, right with
    | left, .str text =>
        if left.isNumber then
          match readAs texts left text with
          | some read => (.json left, read)
          | none => (asText texts left, .json (.str text))
        else (asText texts left, asText texts (.str text))
    | .str text, right =>
        if right.isNumber then
          match readAs texts right text with
          | some read => (read, .json right)
          | none => (.json (.str text), asText texts right)
        else (asText texts (.str text), asText texts right)
    | left, right => (asText texts left, asText texts right)

/-! ## Dotted paths -/

/-- `text.split(".")`, on the letters of a text. -/
def splitDots : List Char → List (List Char)
  | [] => [[]]
  | letter :: rest =>
      if letter = '.' then [] :: splitDots rest
      else
        match splitDots rest with
        | [] => [[letter]]
        | part :: parts => (letter :: part) :: parts

/-- The parts of a text between the brackets `[]`. A dot after the brackets belongs to them. -/
def splitBrackets : List Char → List (List Char)
  | [] => [[]]
  | '[' :: ']' :: '.' :: rest => [] :: splitBrackets rest
  | '[' :: ']' :: rest => [] :: splitBrackets rest
  | letter :: rest =>
      match splitBrackets rest with
      | [] => [[letter]]
      | part :: parts => (letter :: part) :: parts

/-- `current[index]`: a negative index counts from the end. -/
def itemAt (items : List Value) (index : Int) : Option Value :=
  if 0 ≤ index then items[index.toNat]?
  else if (-index).toNat ≤ items.length then items[items.length - (-index).toNat]?
  else none

/-- The value under a list of keys. -/
def getDotted : List (List Char) → Value → Value
  | [], current => current
  | part :: parts, .dict fields =>
      getDotted parts ((Assoc.find fields (String.ofList part)).getD .null)
  | part :: parts, .list items =>
      match (texts.int (String.ofList part)).bind (itemAt items) with
      | some item => getDotted parts item
      | none => .null
  | _ :: _, _ => .null

/-- `_get_nested_array`, on the parts of a key between its brackets. -/
def getBrackets : List (List Char) → Value → Value
  | [], data => data
  | [key], data => getDotted texts (splitDots key) data
  | key :: rest, data =>
      match if key.isEmpty then data else getDotted texts (splitDots key) data with
      | .list items =>
          if rest = [[]] then .list items else .list (items.map (getBrackets rest))
      | _ => .null

def getNested (data : Value) (key : String) : Value :=
  getBrackets texts (splitBrackets key.toList) data

end Value

end IntegrationPlatform
