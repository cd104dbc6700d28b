import IntegrationPlatform.Json.Fields
import IntegrationPlatform.Json.Operators

/-!
# Assignments to dotted paths

`_set_nested` of the workflow engine and of the mapping resolver writes a value to a path of an object and
makes the objects and lists on the way. `setNested_spell` says what it does to the path that a target
spells: a segment at a time, as `assign` has it.
-/

namespace IntegrationPlatform

namespace Value

variable (texts : TextFunctions)

/-! ## Assignments -/

/-- What `part in data`, `data[part]` or `data[part] = {}` raises where the data is not an object. -/
def keyError (part : String) (data : Value) : String :=
  match (Value.str part).pyIn data with
  | .error message => message
  | .ok found =>
      match data with
      | .list _ => "list indices must be integers or slices, not str"
      | _ =>
          if found then "string indices must be integers, not 'str'"
          else "'str' object does not support item assignment"

/-- A change of the value under a key, which is an empty object if the key is not there. -/
def enter (part : List Char) (change : Value → Except String Value) : Value → Except String Value
  | .dict fields =>
      (change ((Assoc.find fields (String.ofList part)).getD (.dict []))).map fun child =>
        .dict (Assoc.put fields (String.ofList part) child)
  | data => .error (keyError (String.ofList part) data)

/-- A change at the last of several keys. -/
def along (last : List Char → Value → Except String Value) : List (List Char) → Value → Except String Value
  | [], data => .ok data
  | [key], data => last key data
  | part :: parts, data => enter part (along last parts) data

/-- What two values under the same key become. -/
def combine (existing value : Value) : Value :=
  match existing, value with
  | .list items, .list items' => .list (items ++ items')
  | .list items, value => .list (items ++ [value])
  | existing, value => .str (texts.str value ++ " " ++ texts.str existing)

/-- `current[key] = value`, or the two values together. -/
def setKey (concat : Bool) (value : Value) (key : List Char) : Value → Except String Value
  | .dict fields =>
      .ok (.dict (Assoc.put fields (String.ofList key)
        (match Assoc.find fields (String.ofList key) with
        | some existing => if concat then combine texts existing value else value
        | none => value)))
  | data =>
      if concat then .error (keyError (String.ofList key) data)
      else
        match data with
        | .list _ => .error "list indices must be integers or slices, not str"
        | data => .error ("'" ++ data.typeName ++ "' object does not support item assignment")

/-- The items of a list that an item for each of the values has been changed by. -/
def writeItems (element : Value → Value → Except String Value) :
    List Value → List Value → Except String (List Value)
  | items, [] => .ok items
  | [], value :: values =>
      (element (.dict []) value).bind fun item => (writeItems element [] values).map (item :: ·)
  | item :: items, value :: values =>
      (element item value).bind fun item' => (writeItems element items values).map (item' :: ·)

/-- `value if isinstance(value, list) else [value]`. -/
def listed : Value → List Value
  | .list items => items
  | value => [value]

/-- The items of a list that is there, and none otherwise. -/
def itemsOf : Option Value → List Value
  | some (.list items) => items
  | _ => []

/-- The items under a key, changed by a list of values. -/
def setItems (element : Value → Value → Except String Value) (values : List Value) (key : List Char) :
    Value → Except String Value
  | .dict fields =>
      if key.isEmpty then .ok (.dict fields)
      else
        (writeItems element (itemsOf (Assoc.find fields (String.ofList key))) values).map fun items =>
          .dict (Assoc.put fields (String.ofList key) (.list items))
  | data => if key.isEmpty then .ok data else .error (keyError (String.ofList key) data)

/-- `item if isinstance(item, dict) else {}`. -/
def objectOf : Value → Value
  | .dict fields => .dict fields
  | _ => .dict []

/-- `_set_nested_array`, on the parts of a key between its brackets. -/
def setBrackets (concat : Bool) : List (List Char) → Value → Value → Except String Value
  | [], _, data => .ok data
  | [key], value, data => along (setKey texts concat value) (splitDots key) data
  | key :: rest, value, data =>
      along (setItems (fun item element =>
        if rest = [[]] then .ok element else setBrackets false rest element (objectOf item))
          (listed value)) (splitDots key) data

/-- `_set_nested`. Where the mapping resolver has it, it does not concatenate. -/
def setNested (concat : Bool) (key : String) (value data : Value) : Except String Value :=
  setBrackets texts concat (splitBrackets key.toList) value data

end Value

/-! ## Targets -/

/-- A segment of a target path: a name, and the brackets if it stands for every item of a list. -/
structure Segment where
  name : List Char
  each : Bool
  nonempty : name ≠ []
  dotless : '.' ∉ name
  bracketless : ¬ ['[', ']'] <:+: name

/-- A target path. -/
structure Target where
  first : Segment
  rest : List Segment

/-- The letters of a path of segments. -/
def spellSegments : List Segment → List Char
  | [] => []
  | [segment] => segment.name ++ (if segment.each then ['[', ']'] else [])
  | segment :: rest =>
      segment.name ++ (if segment.each then ['[', ']'] else []) ++ '.' :: spellSegments rest

namespace Target

/-- The segments of a target. -/
def segments (target : Target) : List Segment :=
  target.first :: target.rest

/-- The text of a target. -/
def spell (target : Target) : String :=
  String.ofList (spellSegments target.segments)

end Target

namespace Value

/-! ## The parts of a text -/

/-- Letters before the first of the parts. -/
def onHead (letters : List Char) : List (List Char) → List (List Char)
  | [] => [letters]
  | part :: parts => (letters ++ part) :: parts

theorem splitBrackets_ne_nil (letters : List Char) : splitBrackets letters ≠ [] := by
  fun_cases splitBrackets letters <;> simp [*]

theorem splitDots_ne_nil (letters : List Char) : splitDots letters ≠ [] := by
  cases letters with
  | nil => simp [splitDots]
  | cons letter rest =>
      rw [splitDots]
      split
      · simp
      · split <;> simp

theorem splitBrackets_letter {letter : Char} {rest : List Char}
    (h : letter = '[' → rest.head? ≠ some ']') :
    splitBrackets (letter :: rest) = onHead [letter] (splitBrackets rest) := by
  rw [splitBrackets]
  · cases hsplit : splitBrackets rest <;> rfl
  · rintro rest' rfl rfl
    exact h rfl rfl
  · rintro rest' rfl rfl
    exact h rfl rfl

variable {name : List Char}

theorem splitBrackets_append (hname : ¬ ['[', ']'] <:+: name) {rest : List Char}
    (hrest : rest.head? ≠ some ']') :
    splitBrackets (name ++ rest) = onHead name (splitBrackets rest) := by
  induction name with
  | nil =>
      cases hsplit : splitBrackets rest with
      | nil => exact absurd hsplit (splitBrackets_ne_nil rest)
      | cons part parts => exact hsplit
  | cons letter name ih =>
      have htail : ¬ ['[', ']'] <:+: name := fun h => hname (h.trans (List.suffix_cons letter name).isInfix)
      have hletter : letter = '[' → (name ++ rest).head? ≠ some ']' := by
        rintro rfl hhead
        cases name with
        | nil => exact hrest hhead
        | cons next name =>
            obtain rfl := Option.some.inj hhead
            exact hname ⟨[], name, rfl⟩
      rw [List.cons_append, splitBrackets_letter hletter, ih htail]
      cases splitBrackets rest <;> rfl

theorem splitDots_append (hname : '.' ∉ name) (rest : List Char) :
    splitDots (name ++ '.' :: rest) = name :: splitDots rest := by
  induction name with
  | nil => rfl
  | cons letter name ih =>
      rw [List.mem_cons, not_or] at hname
      rw [List.cons_append, splitDots, if_neg (Ne.symm hname.1), ih hname.2]

theorem splitDots_name (hname : '.' ∉ name) : splitDots name = [name] := by
  induction name with
  | nil => rfl
  | cons letter name ih =>
      rw [List.mem_cons, not_or] at hname
      rw [splitDots, if_neg (Ne.symm hname.1), ih hname.2]

/-! ## Spelled paths -/

section Spelled

variable {segment : Segment} {rest : List Segment}

theorem splitBrackets_spell_items (heach : segment.each = true) :
    splitBrackets (spellSegments [segment]) = [segment.name, []] := by
  rw [spellSegments, if_pos heach, splitBrackets_append segment.bracketless (by decide)]
  show onHead segment.name [[], []] = _
  rw [onHead, List.append_nil]

theorem splitBrackets_spell_each (heach : segment.each = true) (hrest : rest ≠ []) :
    splitBrackets (spellSegments (segment :: rest)) =
      segment.name :: splitBrackets (spellSegments rest) := by
  obtain ⟨next, rest, rfl⟩ := List.exists_cons_of_ne_nil hrest
  rw [spellSegments, if_pos heach, List.append_assoc, List.cons_append, List.cons_append,
    List.nil_append, splitBrackets_append segment.bracketless (by simp)]
  show onHead segment.name ([] :: splitBrackets (spellSegments (next :: rest))) = _
  rw [onHead, List.append_nil]
  · exact List.cons_ne_nil _ _

theorem splitBrackets_spell_name (hplain : segment.each = false) :
    splitBrackets (spellSegments [segment]) = [segment.name] := by
  have hnot : ¬ segment.each = true := by simp [hplain]
  rw [spellSegments, if_neg hnot, splitBrackets_append segment.bracketless (by decide)]
  show onHead segment.name [[]] = _
  rw [onHead, List.append_nil]

theorem splitBrackets_spell_plain (hplain : segment.each = false) (hrest : rest ≠ []) :
    splitBrackets (spellSegments (segment :: rest)) =
      onHead (segment.name ++ ['.']) (splitBrackets (spellSegments rest)) := by
  have hnot : ¬ segment.each = true := by simp [hplain]
  obtain ⟨next, rest, rfl⟩ := List.exists_cons_of_ne_nil hrest
  rw [spellSegments, if_neg hnot, List.append_nil,
    splitBrackets_append segment.bracketless (by simp), splitBrackets_letter (by simp)]
  · cases splitBrackets (spellSegments (next :: rest)) with
    | nil => rfl
    | cons part parts => simp [onHead]
  · exact List.cons_ne_nil _ _

theorem splitBrackets_spell_cons (segment : Segment) (rest : List Segment) :
    ∃ part parts, splitBrackets (spellSegments (segment :: rest)) = part :: parts ∧ part ≠ [] := by
  by_cases hrest : rest = []
  · subst hrest
    by_cases heach : segment.each = true
    · exact ⟨_, _, splitBrackets_spell_items heach, segment.nonempty⟩
    · exact ⟨_, _, splitBrackets_spell_name (eq_false_of_ne_true heach), segment.nonempty⟩
  · by_cases heach : segment.each = true
    · exact ⟨_, _, splitBrackets_spell_each heach hrest, segment.nonempty⟩
    · rw [splitBrackets_spell_plain (eq_false_of_ne_true heach) hrest]
      cases splitBrackets (spellSegments rest) with
      | nil => exact ⟨_, _, rfl, by simp⟩
      | cons part parts => exact ⟨_, _, rfl, by simp⟩

end Spelled

/-! ## Assignments a segment at a time -/

variable (texts : TextFunctions)

/-- An assignment to a path of segments. -/
def assign (concat : Bool) : List Segment → Value → Value → Except String Value
  | [], value, _ => .ok value
  | segment :: rest, value, data =>
      if segment.each then
        setItems (fun item element => assign false rest element (objectOf item)) (listed value)
          segment.name data
      else if rest.isEmpty then setKey texts concat value segment.name data
      else enter segment.name (assign concat rest value) data

variable {texts}

theorem setBrackets_plain {name part : List Char} (hname : '.' ∉ name) (concat : Bool)
    (parts : List (List Char)) (value data : Value) :
    setBrackets texts concat ((name ++ '.' :: part) :: parts) value data =
      enter name (setBrackets texts concat (part :: parts) value) data := by
  have halong : ∀ last : List Char → Value → Except String Value,
      along last (splitDots (name ++ '.' :: part)) data =
        enter name (along last (splitDots part)) data := by
    intro last
    rw [splitDots_append hname]
    cases hsplit : splitDots part with
    | nil => exact absurd hsplit (splitDots_ne_nil part)
    | cons key keys => rfl
  cases parts with
  | nil => exact halong _
  | cons next parts => exact halong _

theorem setBrackets_each (hname : '.' ∉ name) (concat : Bool) (key : List Char)
    (keys : List (List Char)) (value data : Value) :
    setBrackets texts concat (name :: key :: keys) value data =
      setItems (fun item element =>
        if key :: keys = [[]] then .ok element
        else setBrackets texts false (key :: keys) element (objectOf item)) (listed value) name data := by
  rw [setBrackets, splitDots_name hname]
  · rfl
  · exact List.cons_ne_nil _ _

theorem setBrackets_spell (concat : Bool) (segment : Segment) (rest : List Segment)
    (value data : Value) :
    setBrackets texts concat (splitBrackets (spellSegments (segment :: rest))) value data =
      assign texts concat (segment :: rest) value data := by
  induction rest generalizing segment concat value data with
  | nil =>
      by_cases heach : segment.each = true
      · rw [splitBrackets_spell_items heach, setBrackets_each segment.dotless, assign, if_pos heach]
        rfl
      · rw [splitBrackets_spell_name (eq_false_of_ne_true heach), assign, if_neg heach,
          if_pos List.isEmpty_nil]
        show along _ (splitDots segment.name) data = _
        rw [splitDots_name segment.dotless]
        rfl
  | cons next rest ih =>
      obtain ⟨part, parts, hparts, hpart⟩ := splitBrackets_spell_cons next rest
      by_cases heach : segment.each = true
      · have hrest : ¬ part :: parts = [[]] := by
          intro h
          exact hpart (List.cons.inj h).1
        have helement : (fun item element =>
            if part :: parts = [[]] then .ok element
            else setBrackets texts false (part :: parts) element (objectOf item)) =
            fun item element => assign texts false (next :: rest) element (objectOf item) := by
          funext item element
          rw [if_neg hrest, ← hparts]
          exact ih false next element (objectOf item)
        rw [splitBrackets_spell_each heach (List.cons_ne_nil _ _), hparts,
          setBrackets_each segment.dotless, helement, assign, if_pos heach]
      · have hchild : setBrackets texts concat (part :: parts) value =
            assign texts concat (next :: rest) value := by
          funext data
          rw [← hparts]
          exact ih concat next value data
        have hempty : ¬ (next :: rest).isEmpty = true := Bool.false_ne_true
        rw [splitBrackets_spell_plain (eq_false_of_ne_true heach) (List.cons_ne_nil _ _), hparts,
          onHead, List.append_assoc, List.singleton_append, setBrackets_plain segment.dotless, hchild,
          assign, if_neg heach, if_neg hempty]

theorem setNested_spell (concat : Bool) (target : Target) (value data : Value) :
    setNested texts concat target.spell value data =
      assign texts concat target.segments value data := by
  unfold setNested Target.spell
  rw [String.toList_ofList]
  exact setBrackets_spell concat target.first target.rest value data

end Value

end IntegrationPlatform
