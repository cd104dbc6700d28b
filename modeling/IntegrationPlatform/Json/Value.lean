import Mathlib.Data.Rat.Defs

/-!
# JSON values

The values that workflows compute with: what a JSON document decodes to, with exact rationals
for floats. Values are immutable trees. Objects keep their keys in insertion order, as Python
dictionaries do, and `pyEq` is Python's `==` on them.
-/

namespace IntegrationPlatform

/-- A decoded JSON value. -/
inductive Value where
  | null
  | bool (flag : Bool)
  | int (number : Int)
  | float (number : Rat)
  | str (text : String)
  | list (items : List Value)
  | dict (fields : List (String × Value))

instance : Inhabited Value := ⟨.null⟩

/-- A dictionary with text keys, in insertion order. -/
abbrev Assoc (α : Type) := List (String × α)

/-- A JSON object. -/
abbrev Dict := Assoc Value

namespace Assoc

variable {α : Type}

/-- `d.get(key)`: the value under a key. -/
def find : Assoc α → String → Option α
  | [], _ => none
  | (key', value) :: rest, key => if key' = key then some value else find rest key

/-- `key in d`. -/
def has (fields : Assoc α) (key : String) : Bool :=
  (fields.find key).isSome

/-- `d[key] = value`: an existing key keeps its position. -/
def put : Assoc α → String → α → Assoc α
  | [], key, value => [(key, value)]
  | (key', value') :: rest, key, value =>
      if key' = key then (key, value) :: rest else (key', value') :: put rest key value

/-- `{**left, **right}`. -/
def merge (left right : Assoc α) : Assoc α :=
  right.foldl (fun fields field => fields.put field.1 field.2) left

theorem find_put (fields : Assoc α) (key key' : String) (value : α) :
    (fields.put key value).find key' = if key = key' then some value else fields.find key' := by
  induction fields with
  | nil => simp [put, find]
  | cons field rest ih =>
      by_cases hkey : field.1 = key
      · by_cases hread : key = key' <;> simp [put, find, hkey, hread]
      · by_cases hread : field.1 = key'
        · have hne : key ≠ key' := fun h => hkey (hread.trans h.symm)
          simp [put, find, hread, hne, Ne.symm hne]
        · simp [put, find, hkey, hread, ih]

theorem has_put (fields : Assoc α) (key key' : String) (value : α) :
    (fields.put key value).has key' = (decide (key = key') || fields.has key') := by
  by_cases hkey : key = key' <;> simp [has, find_put, hkey]

theorem find_eq_none {fields : Assoc α} {key : String} (h : key ∉ fields.map Prod.fst) :
    fields.find key = none := by
  induction fields with
  | nil => rfl
  | cons field rest ih =>
      rw [List.map_cons, List.mem_cons, not_or] at h
      rw [find, if_neg (Ne.symm h.1), ih h.2]

theorem mem_of_find {fields : Assoc α} {key : String} {value : α} (h : fields.find key = some value) :
    (key, value) ∈ fields := by
  induction fields with
  | nil => cases h
  | cons field rest ih =>
      rw [find] at h
      split at h
      · next hkey =>
        obtain rfl := Option.some.inj h
        rw [← hkey]
        exact List.mem_cons_self
      · exact List.mem_cons_of_mem _ (ih h)

end Assoc

namespace Value

/-- The number a value stands for in a comparison: `True` is `1` and `False` is `0`. -/
def number? : Value → Option Rat
  | .bool flag => some (if flag then 1 else 0)
  | .int number => some number
  | .float number => some number
  | _ => none

mutual

/-- Python's `==`. -/
def pyEq : Value → Value → Bool
  | .null, .null => true
  | .str left, .str right => left == right
  | .list left, .list right => pyEqList left right
  | .dict left, .dict right => left.length == right.length && pyEqFields left right
  | left, right =>
      match left.number?, right.number? with
      | some first, some second => first == second
      | _, _ => false

/-- Lists are compared element by element. -/
def pyEqList : List Value → List Value → Bool
  | [], [] => true
  | left :: lefts, right :: rights => pyEq left right && pyEqList lefts rights
  | _, _ => false

/-- Every key of the first object has an equal value in the second one. -/
def pyEqFields : List (String × Value) → List (String × Value) → Bool
  | [], _ => true
  | (key, left) :: rest, fields =>
      (match Assoc.find fields key with
      | some right => pyEq left right
      | none => false) && pyEqFields rest fields

end

/-- Python's truth value. -/
def truthy : Value → Bool
  | .null => false
  | .bool flag => flag
  | .int number => number != 0
  | .float number => number != 0
  | .str text => text != ""
  | .list items => !items.isEmpty
  | .dict fields => !fields.isEmpty

/-- The fields of an object. -/
def fields? : Value → Option Dict
  | .dict fields => some fields
  | _ => none

/-- Python's name of the type of a value. -/
def typeName : Value → String
  | .null => "NoneType"
  | .bool _ => "bool"
  | .int _ => "int"
  | .float _ => "float"
  | .str _ => "str"
  | .list _ => "list"
  | .dict _ => "dict"

/-- `value.get(key, default)`, which only an object has. The error is the text of the
`AttributeError`. -/
def get (value : Value) (key : String) (default : Value) : Except String Value :=
  match value with
  | .dict fields => .ok ((Assoc.find fields key).getD default)
  | value => .error ("'" ++ value.typeName ++ "' object has no attribute 'get'")

end Value

/-- The text that Python's `or` keeps: one that is there and is not empty. -/
def nonempty (text : Option String) : Option String :=
  text.filter (· ≠ "")

theorem bind_eq_ok {ε α β : Type} {result : Except ε α} {rest : α → Except ε β} {value : β} :
    result.bind rest = .ok value ↔ ∃ first, result = .ok first ∧ rest first = .ok value := by
  cases result with
  | ok first =>
      constructor
      · intro h
        exact ⟨first, rfl, h⟩
      · rintro ⟨_, hfirst, h⟩
        cases hfirst
        exact h
  | error message =>
      constructor
      · intro h
        cases h
      · rintro ⟨_, hfirst, -⟩
        cases hfirst

theorem toOption_eq_some {ε α : Type} {result : Except ε α} {value : α} :
    result.toOption = some value ↔ result = .ok value := by
  cases result with
  | ok found =>
      constructor
      · intro h
        rw [Option.some.inj h]
      · intro h
        rw [Except.ok.inj h]
        rfl
  | error message =>
      constructor
      · intro h
        cases h
      · intro h
        cases h

/-- `items[:bound]`: a negative bound counts from the end. -/
def slice {α : Type} (items : List α) (bound : Int) : List α :=
  if 0 ≤ bound then items.take bound.toNat else items.take (items.length - (-bound).toNat)

theorem length_slice {α : Type} (items : List α) (bound : Int) :
    (slice items bound).length =
      if 0 ≤ bound then min bound.toNat items.length else items.length - (-bound).toNat := by
  unfold slice
  split
  · exact List.length_take
  · rw [List.length_take]
    omega

end IntegrationPlatform
