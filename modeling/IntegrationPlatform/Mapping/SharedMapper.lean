import IntegrationPlatform.Json.Targets
import Mathlib.Data.List.Infix

/-!
# The mapper of the shared library

`BaseMapper.map` reads the items of a list by a path with brackets in it, but `_set_nested` returns at such
brackets when it has made an empty list. `fills_iff` says when the values of the items reach their target.
-/

namespace IntegrationPlatform

namespace SharedMapper

/-! ## Profiles -/

/-- `TransformType`: none, or another one by its name. -/
inductive TransformType where
  | none
  | other (name : String)

/-- A transform, with the fields of its rule that it reads. -/
structure Transform where
  kind : TransformType := .none
  settings : Dict := []

/-- A rule of a profile. -/
structure FieldMapping where
  sourceField : String := ""
  sourceFields : List String := []
  targetField : String
  transform : Transform := {}
  defaultValue : Value := .null
  required : Bool := false
  extraTransforms : List Transform := []

/-- A profile. -/
structure MappingProfile where
  profileId : String
  fieldMappings : List FieldMapping := []
  staticValues : Dict := []

/-- `str`, and the transforms but for the one that does nothing. -/
structure World where
  str : Value → String
  apply : Transform → List Value → Except String Value

/-! ## Paths -/

/-- The parts of a path between its dots. -/
def partsOf (path : String) : List (List Char) :=
  path.toList.splitOn '.'

/-- `part.endswith("[]")`. -/
def isArray (part : List Char) : Bool :=
  ['[', ']'].isSuffixOf part

/-- `part[:-2]`. -/
def arrayKey (part : List Char) : String :=
  String.ofList (part.take (part.length - 2))

/-- `_get_nested`, by the parts of the path. -/
def getParts : List (List Char) → Value → Value
  | [], current => current
  | part :: rest, current =>
      if isArray part then
        match current with
        | .dict fields =>
            match Assoc.find fields (arrayKey part) with
            | some (.list items) =>
                if rest = [] ∨ rest = [[]] then .list items else .list (items.map (getParts rest))
            | _ => .null
        | _ => .null
      else
        match current with
        | .dict fields => getParts rest ((Assoc.find fields (String.ofList part)).getD .null)
        | _ => .null

def getNested (data : Dict) (path : String) : Value :=
  getParts (partsOf path) (.dict data)

/-- The object under a key, or an empty one. -/
def innerOf (fields : Dict) (key : String) : Dict :=
  match Assoc.find fields key with
  | some (.dict inner) => inner
  | _ => []

/-- The values that are added to a list: `extend` or `append`. -/
def added : Value → List Value
  | .list items => items
  | value => [value]

/-- The last part of a path: a key, or a list that the value is added to. -/
def setLast (value : Value) (part : List Char) (fields : Dict) : Except String Dict :=
  if isArray part then
    match (Assoc.find fields (arrayKey part)).getD (.list []) with
    | .list items => .ok (Assoc.put fields (arrayKey part) (.list (items ++ added value)))
    | other => .error ("'" ++ other.typeName ++ "' object has no attribute '" ++
        (match value with
          | .list _ => "extend"
          | _ => "append") ++ "'")
  else .ok (Assoc.put fields (String.ofList part) value)

/-- `_set_nested`, by the parts of the path: at brackets that are not at its end it returns. -/
def setParts (value : Value) : List (List Char) → Dict → Except String Dict
  | [], fields => .ok fields
  | [part], fields => setLast value part fields
  | part :: rest, fields =>
      if isArray part then
        .ok (if Assoc.has fields (arrayKey part) then fields
          else Assoc.put fields (arrayKey part) (.list []))
      else (setParts value rest (innerOf fields (String.ofList part))).map fun inner =>
        Assoc.put fields (String.ofList part) (.dict inner)

def setNested (data : Dict) (path : String) (value : Value) : Except String Dict :=
  setParts value (partsOf path) data

/-! ## `BaseMapper.map` -/

/-- The paths of the sources of a rule. -/
def FieldMapping.sources (rule : FieldMapping) : List String :=
  if rule.sourceFields ≠ [] then rule.sourceFields
  else if rule.sourceField ≠ "" then [rule.sourceField]
  else []

def resolveSources (rule : FieldMapping) (source : Dict) : List Value :=
  rule.sources.map (getNested source)

/-- The value is `None`. -/
def isNone : Value → Bool
  | .null => true
  | _ => false

section Mapper

variable (world : World)

def applyTransform (transform : Transform) (values : List Value) : Except String Value :=
  match transform.kind with
  | .none =>
      match values with
      | [value] => .ok value
      | _ => .ok (.str (" ".intercalate ((values.filter fun value => !isNone value).map world.str)))
  | .other _ => world.apply transform values

/-- One rule of `map`. -/
def applyRule (profile : MappingProfile) (source : Dict) (result : Dict) (rule : FieldMapping) :
    Except String Dict :=
  let resolved := resolveSources rule source
  if resolved.all isNone then
    if rule.required then
      .error ("Required field(s) '" ++ (if rule.sourceFields ≠ [] then ", ".intercalate rule.sourceFields
        else rule.sourceField) ++ "' missing (profile=" ++ profile.profileId ++ ")")
    else if isNone rule.defaultValue then .ok result
    else setNested result rule.targetField rule.defaultValue
  else do
    let transformed ← applyTransform world rule.transform resolved
    let transformed ← rule.extraTransforms.foldlM (fun value extra => applyTransform world extra [value])
      transformed
    setNested result rule.targetField transformed

def map (profile : MappingProfile) (source : Dict) : Except String Dict := do
  let result ← profile.staticValues.foldlM (fun result entry => setNested result entry.1 entry.2) []
  profile.fieldMappings.foldlM (applyRule world profile source) result

end Mapper

/-! ## Array rules -/

/-- A name in a path. -/
structure Name where
  letters : List Char
  nonempty : letters ≠ []
  dotless : '.' ∉ letters
  plain : isArray letters = false

/-- The key that a name stands for. -/
def Name.key (name : Name) : String :=
  String.ofList name.letters

/-- The parts of a path that ends in brackets. -/
def arrayParts : List Name → List (List Char)
  | [] => []
  | [last] => [last.letters ++ ['[', ']']]
  | name :: rest => name.letters :: arrayParts rest

/-- The parts of a path without brackets. -/
def plainParts (names : List Name) : List (List Char) :=
  names.map Name.letters

/-- The text of a path into the items of a list, such as `A[].p`. -/
def itemPath (array path : List Name) : String :=
  String.ofList (['.'].intercalate (arrayParts array ++ plainParts path))

/-- What is in an object under a path. -/
def valueAt : List Name → Dict → Option Value
  | [], _ => none
  | [last], fields => Assoc.find fields last.key
  | name :: rest, fields => valueAt rest (innerOf fields name.key)

/-- What an item holds under a path, or `None`. -/
def held (path : List Name) : Value → Value
  | .dict fields => (valueAt path fields).getD .null
  | _ => .null

/-- A rule from `A[].p` to `B[].q` without a transform. -/
structure IsArrayRule (rule : FieldMapping) (array path into slot : List Name) : Prop where
  array_ne : array ≠ []
  path_ne : path ≠ []
  into_ne : into ≠ []
  slot_ne : slot ≠ []
  sources_eq : rule.sources = [itemPath array path]
  target_eq : rule.targetField = itemPath into slot
  kind_eq : rule.transform.kind = .none
  extra_eq : rule.extraTransforms = []

/-- A list of objects. -/
def AreObjects (items : List Value) : Prop :=
  ∀ item ∈ items, ∃ fields, item = .dict fields

/-- The rules into a list fill its elements: each one holds what the item of the source holds. -/
def Fills (profile : MappingProfile) (source : Dict) (into : List Name) (result : Dict) : Prop :=
  ∀ rule ∈ profile.fieldMappings, ∀ array path slot, IsArrayRule rule array path into slot →
    ∀ items, valueAt array source = some (.list items) → AreObjects items →
      ∃ elements, valueAt into result = some (.list elements) ∧
        ∀ (index : Nat) (item : Value), items[index]? = some item →
          ∃ element, elements[index]? = some element ∧ held slot element = held path item

/-- The keys that a write to a path walks along: up to the first brackets. -/
def reach : List (List Char) → List String
  | [] => []
  | part :: rest => if isArray part then [arrayKey part] else String.ofList part :: reach rest

/-- The keys on the way to the last object or list that a write to a path changes. -/
def entered : List (List Char) → List String
  | [] => []
  | [part] => if isArray part then [arrayKey part] else []
  | part :: rest => if isArray part then [] else String.ofList part :: entered rest

/-- A write to the later target changes what a rule to the earlier one has put there. -/
def Inside (earlier later : String) : Prop :=
  (∀ part ∈ partsOf earlier, isArray part = false) ∧
    (partsOf earlier).map String.ofList <+: entered (partsOf later)

/-- The value of a rule may be an object or a list of the source itself. -/
def FieldMapping.Copies (source : Dict) (rule : FieldMapping) : Prop :=
  rule.transform.kind ≠ .none ∨ rule.extraTransforms ≠ [] ∨
    ∃ value ∈ resolveSources rule source, value.mutable = true

/-- No rule writes into what an earlier one has taken from the source, where later rules would read it. -/
def MappingProfile.LeavesSource (profile : MappingProfile) (source : Dict) : Prop :=
  profile.fieldMappings.Pairwise fun earlier later =>
    earlier.Copies source → ¬ Inside earlier.targetField later.targetField

/-- A target that is neither on the way to a list nor behind it. -/
def Apart (into : List Name) (target : String) : Prop :=
  ¬ reach (partsOf target) <+: into.map Name.key ∧ ¬ into.map Name.key <+: reach (partsOf target)

/-- A target in the items of a list. -/
def Through (into : List Name) (target : String) : Prop :=
  ∃ rest, rest ≠ [] ∧ partsOf target = arrayParts into ++ rest

/-- Nothing in a profile writes to a list but into its items. -/
structure OnlyItems (profile : MappingProfile) (into : List Name) : Prop where
  static : ∀ entry ∈ profile.staticValues, Apart into entry.1 ∨ Through into entry.1
  rules : ∀ rule ∈ profile.fieldMappings, Apart into rule.targetField ∨ Through into rule.targetField

/-- An object with an empty list under a path, unless there is something already. -/
def ensure : List Name → Dict → Dict
  | [], fields => fields
  | [last], fields => if Assoc.has fields last.key then fields else Assoc.put fields last.key (.list [])
  | name :: rest, fields => Assoc.put fields name.key (.dict (ensure rest (innerOf fields name.key)))

/-! ## Paths with brackets -/

variable {array path into slot : List Name}

theorem isArray_brackets (letters : List Char) : isArray (letters ++ ['[', ']']) = true := by
  unfold isArray
  rw [List.isSuffixOf_iff_suffix]
  exact List.suffix_append _ _

theorem arrayKey_brackets (letters : List Char) :
    arrayKey (letters ++ ['[', ']']) = String.ofList letters := by
  unfold arrayKey
  simp

theorem dotless_of_mem_arrayParts {part : List Char} (h : part ∈ arrayParts array) : '.' ∉ part := by
  induction array using arrayParts.induct with
  | case1 => cases h
  | case2 last =>
      obtain rfl := List.mem_singleton.mp h
      simp [last.dotless]
  | case3 name rest hrest ih =>
      rw [arrayParts] at h
      · rcases List.mem_cons.mp h with rfl | hmem
        · exact name.dotless
        · exact ih hmem
      · exact hrest

theorem arrayParts_ne_nil (h : array ≠ []) : arrayParts array ≠ [] := by
  fun_cases arrayParts array with
  | case1 => exact absurd rfl h
  | case2 last => exact List.cons_ne_nil _ _
  | case3 name rest => exact List.cons_ne_nil _ _

theorem partsOf_itemPath (h : array ≠ []) (path : List Name) :
    partsOf (itemPath array path) = arrayParts array ++ plainParts path := by
  unfold partsOf itemPath
  rw [String.toList_ofList, List.splitOn_intercalate '.']
  · intro part hpart
    rcases List.mem_append.mp hpart with harray | hplain
    · exact dotless_of_mem_arrayParts harray
    · obtain ⟨name, -, rfl⟩ := List.mem_map.mp hplain
      exact name.dotless
  · exact List.append_ne_nil_of_left_ne_nil (arrayParts_ne_nil h) _

/-! ## Reading -/

theorem valueAt_nil (path : List Name) : valueAt path [] = none := by
  induction path using arrayParts.induct with
  | case1 => rfl
  | case2 last => rfl
  | case3 name rest hrest ih =>
      rw [valueAt]
      · exact ih
      · exact hrest

theorem getParts_name (name : Name) (rest : List (List Char)) (fields : Dict) :
    getParts (name.letters :: rest) (.dict fields) =
      getParts rest ((Assoc.find fields name.key).getD .null) := by
  simp only [getParts, name.plain, Bool.false_eq_true, if_false]
  rfl

variable {value : Value}

theorem getParts_other (h : ∀ fields, value ≠ .dict fields) (name : Name)
    (rest : List (List Char)) : getParts (name.letters :: rest) value = .null := by
  cases value with
  | dict fields => exact absurd rfl (h fields)
  | null | bool | int | float | str | list => simp [getParts, name.plain]

theorem held_other (h : ∀ fields, value ≠ .dict fields) (path : List Name) :
    held path value = .null := by
  cases value with
  | dict fields => exact absurd rfl (h fields)
  | null | bool | int | float | str | list => rfl

theorem valueAt_cons (name : Name) {rest : List Name} (h : rest ≠ []) (fields : Dict) :
    valueAt (name :: rest) fields = valueAt rest (innerOf fields name.key) := by
  rw [valueAt]
  exact h

theorem held_inner {rest : List Name} (fields : Dict) (key : String) :
    held rest ((Assoc.find fields key).getD .null) = (valueAt rest (innerOf fields key)).getD .null := by
  unfold innerOf
  cases Assoc.find fields key with
  | none => rw [valueAt_nil]; rfl
  | some value =>
      cases value with
      | dict inner => rfl
      | null | bool | int | float | str | list => rw [valueAt_nil]; rfl

theorem getParts_plain (h : path ≠ []) (value : Value) :
    getParts (plainParts path) value = held path value := by
  induction path using arrayParts.induct generalizing value with
  | case1 => exact absurd rfl h
  | case2 last =>
      by_cases hdict : ∃ fields, value = .dict fields
      · obtain ⟨fields, rfl⟩ := hdict
        exact getParts_name last [] fields
      · rw [not_exists] at hdict
        exact (getParts_other hdict last []).trans (held_other hdict [last]).symm
  | case3 name rest hrest ih =>
      by_cases hdict : ∃ fields, value = .dict fields
      · obtain ⟨fields, rfl⟩ := hdict
        show getParts (name.letters :: plainParts rest) (.dict fields) =
          (valueAt (name :: rest) fields).getD .null
        rw [getParts_name, valueAt_cons name hrest, ← held_inner]
        exact ih hrest _
      · rw [not_exists] at hdict
        exact (getParts_other hdict name (plainParts rest)).trans (held_other hdict (name :: rest)).symm

variable {items : List Value}

theorem getNested_itemPath (hpath : path ≠ []) {source : Dict}
    (h : valueAt array source = some (.list items)) :
    getNested source (itemPath array path) = .list (items.map (held path)) := by
  have harray : array ≠ [] := by
    rintro rfl
    cases h
  have hitems : getParts (plainParts path) = held path := funext (getParts_plain hpath)
  -- The parts behind the brackets are not a single empty one.
  have hbehind : ¬ (plainParts path = [] ∨ plainParts path = [[]]) := by
    rintro (hnil | hempty)
    · exact hpath (List.map_eq_nil_iff.mp hnil)
    · obtain ⟨name, hname, hletters⟩ := List.mem_map.mp (hempty ▸ List.mem_singleton_self [])
      exact name.nonempty hletters
  unfold getNested
  rw [partsOf_itemPath harray]
  clear harray
  induction array using arrayParts.induct generalizing source with
  | case1 => cases h
  | case2 last =>
      have hfind : Assoc.find source last.key = some (.list items) := h
      show getParts ((last.letters ++ ['[', ']']) :: plainParts path) (.dict source) = _
      simp only [getParts, isArray_brackets, if_true, arrayKey_brackets]
      rw [show String.ofList last.letters = last.key from rfl, hfind]
      simp only [if_neg hbehind, hitems]
  | case3 name rest hrest ih =>
      rw [valueAt_cons name hrest] at h
      rw [arrayParts, List.cons_append, getParts_name]
      · have hinner : (Assoc.find source name.key).getD .null = .dict (innerOf source name.key) := by
          unfold innerOf at h ⊢
          cases hfind : Assoc.find source name.key with
          | none => rw [hfind, valueAt_nil] at h; cases h
          | some value =>
              cases value with
              | dict inner => rfl
              | null | bool | int | float | str | list => rw [hfind, valueAt_nil] at h; cases h
        rw [hinner]
        exact ih h
      · exact hrest

/-! ## Writing -/

theorem setParts_cons (value : Value) (part : List Char) {rest : List (List Char)} (h : rest ≠ [])
    (fields : Dict) : setParts value (part :: rest) fields =
      if isArray part then
        .ok (if Assoc.has fields (arrayKey part) then fields
          else Assoc.put fields (arrayKey part) (.list []))
      else (setParts value rest (innerOf fields (String.ofList part))).map fun inner =>
        Assoc.put fields (String.ofList part) (.dict inner) := by
  rw [setParts]
  exact h

theorem setParts_through (hinto : into ≠ []) {rest : List (List Char)} (hrest : rest ≠ []) (value : Value)
    (fields : Dict) : setParts value (arrayParts into ++ rest) fields = .ok (ensure into fields) := by
  induction into using arrayParts.induct generalizing fields with
  | case1 => exact absurd rfl hinto
  | case2 last =>
      obtain ⟨part, rest, rfl⟩ := List.exists_cons_of_ne_nil hrest
      show setParts value ((last.letters ++ ['[', ']']) :: part :: rest) fields = _
      rw [setParts_cons _ _ (List.cons_ne_nil part rest), if_pos (isArray_brackets _), arrayKey_brackets]
      rfl
  | case3 name names hnames ih =>
      have hparts : arrayParts names ++ rest ≠ [] :=
        List.append_ne_nil_of_left_ne_nil (arrayParts_ne_nil hnames) _
      rw [arrayParts, List.cons_append, setParts_cons _ _ hparts, if_neg (by simp [name.plain]), ih hnames,
        ensure]
      · rfl
      · exact hnames
      · exact hnames

theorem valueAt_ensure (hinto : into ≠ []) (fields : Dict) :
    valueAt into (ensure into fields) = some ((valueAt into fields).getD (.list [])) := by
  induction into using arrayParts.induct generalizing fields with
  | case1 => exact absurd rfl hinto
  | case2 last =>
      show Assoc.find (ensure [last] fields) last.key = some ((Assoc.find fields last.key).getD (.list []))
      unfold ensure Assoc.has
      cases hfind : Assoc.find fields last.key with
      | none => simp [Assoc.find_put]
      | some value => simp [hfind]
  | case3 name rest hrest ih =>
      rw [ensure, valueAt_cons name hrest, valueAt_cons name hrest]
      · have hinner : innerOf (Assoc.put fields name.key (.dict (ensure rest (innerOf fields name.key))))
            name.key = ensure rest (innerOf fields name.key) := by
          simp [innerOf, Assoc.find_put]
        rw [hinner]
        exact ih hrest _
      · exact hrest

theorem valueAt_put {name : Name} {key : String} (h : key ≠ name.key) (rest : List Name) (fields : Dict)
    (value : Value) : valueAt (name :: rest) (Assoc.put fields key value) = valueAt (name :: rest) fields := by
  cases rest with
  | nil =>
      show Assoc.find (Assoc.put fields key value) name.key = Assoc.find fields name.key
      rw [Assoc.find_put, if_neg h]
  | cons next rest =>
      rw [valueAt_cons name (List.cons_ne_nil _ _), valueAt_cons name (List.cons_ne_nil _ _), innerOf,
        innerOf, Assoc.find_put, if_neg h]

theorem setLast_eq {part : List Char} {fields fields' : Dict}
    (h : setLast value part fields = .ok fields') :
    ∃ key written, reach [part] = [key] ∧ fields' = Assoc.put fields key written := by
  unfold setLast at h
  unfold reach
  split at h
  · next harray =>
    rw [if_pos harray]
    split at h
    · exact ⟨_, _, rfl, (Except.ok.inj h).symm⟩
    · cases h
  · next hplain =>
    rw [if_neg hplain]
    exact ⟨_, _, rfl, (Except.ok.inj h).symm⟩

/-- A write that is neither on the way to a path nor behind it changes nothing under it. -/
theorem valueAt_apart {parts : List (List Char)} {fields fields' : Dict}
    (h : setParts value parts fields = .ok fields') (hbefore : ¬ reach parts <+: into.map Name.key)
    (hbehind : ¬ into.map Name.key <+: reach parts) : valueAt into fields' = valueAt into fields := by
  induction parts, fields using setParts.induct generalizing into fields' with
  | case1 fields => exact absurd List.nil_prefix hbefore
  | case2 part fields =>
      obtain ⟨key, written, hreach, rfl⟩ := setLast_eq h
      rw [hreach] at hbefore hbehind
      cases into with
      | nil => exact absurd List.nil_prefix hbehind
      | cons name names =>
          refine valueAt_put (fun heq => hbefore ?_) names fields written
          exact List.cons_prefix_cons.mpr ⟨heq, List.nil_prefix⟩
  | case3 part rest fields hrest harray =>
      rw [setParts_cons value part hrest, if_pos harray] at h
      obtain rfl := Except.ok.inj h
      rw [reach, if_pos harray] at hbefore hbehind
      cases into with
      | nil => exact absurd List.nil_prefix hbehind
      | cons name names =>
          split
          · rfl
          · refine valueAt_put (fun heq => hbefore ?_) names fields _
            exact List.cons_prefix_cons.mpr ⟨heq, List.nil_prefix⟩
  | case4 part rest fields hrest hplain ih =>
      rw [setParts_cons value part hrest, if_neg hplain] at h
      rw [reach, if_neg hplain] at hbefore hbehind
      cases hinner : setParts value rest (innerOf fields (String.ofList part)) with
      | error message =>
          rw [hinner] at h
          cases h
      | ok inner =>
          rw [hinner] at h
          obtain rfl := Except.ok.inj h
          cases into with
          | nil => exact absurd List.nil_prefix hbehind
          | cons name names =>
              rw [List.map_cons, List.cons_prefix_cons, not_and] at hbefore hbehind
              by_cases hkey : String.ofList part = name.key
              · -- The write goes on in the object in which the path goes on.
                have hnames : names ≠ [] := by
                  rintro rfl
                  exact hbehind hkey.symm List.nil_prefix
                rw [valueAt_cons name hnames, valueAt_cons name hnames, ← hkey]
                have hput : innerOf (Assoc.put fields (String.ofList part) (.dict inner))
                    (String.ofList part) = inner := by
                  simp [innerOf, Assoc.find_put]
                rw [hput]
                exact ih hinner (hbefore hkey) (hbehind hkey.symm)
              · exact valueAt_put hkey names fields _

/-! ## A whole profile -/

section Run

variable {world : World} {profile : MappingProfile} {source result result' : Dict} {rule : FieldMapping}

/-- A write to another target, or into the items of a list, leaves what is under the path of the list, and
makes an empty list at most. -/
theorem valueAt_setNested (hinto : into ≠ []) {target : String}
    (htarget : Apart into target ∨ Through into target) (h : setNested result target value = .ok result') :
    valueAt into result' = valueAt into result ∨
      valueAt into result' = some ((valueAt into result).getD (.list [])) := by
  rcases htarget with ⟨hbefore, hbehind⟩ | ⟨rest, hrest, hparts⟩
  · exact .inl (valueAt_apart h hbefore hbehind)
  · unfold setNested at h
    rw [hparts, setParts_through hinto hrest] at h
    obtain rfl := Except.ok.inj h
    exact .inr (valueAt_ensure hinto result)

/-- There is nothing in a list. -/
def Quiet (into : List Name) (result : Dict) : Prop :=
  valueAt into result = none ∨ valueAt into result = some (.list [])

theorem applyRule_cases (h : applyRule world profile source result rule = .ok result') :
    result' = result ∨ ∃ value, setNested result rule.targetField value = .ok result' := by
  unfold applyRule at h
  simp only at h
  split at h
  · split at h
    · cases h
    · split at h
      · exact .inl (Except.ok.inj h).symm
      · exact .inr ⟨_, h⟩
  · obtain ⟨first, -, h⟩ := bind_eq_ok.mp h
    obtain ⟨second, -, h⟩ := bind_eq_ok.mp h
    exact .inr ⟨second, h⟩

theorem Quiet.setNested (hinto : into ≠ []) {target : String}
    (htarget : Apart into target ∨ Through into target)
    (h : SharedMapper.setNested result target value = .ok result') (hquiet : Quiet into result) :
    Quiet into result' ∧
      (valueAt into result = some (.list []) → valueAt into result' = some (.list [])) := by
  rcases valueAt_setNested hinto htarget h with hsame | hensured
  · exact ⟨by unfold Quiet; rwa [hsame], fun hempty => hsame.trans hempty⟩
  · have hempty : valueAt into result' = some (.list []) := by
      rcases hquiet with hnone | hempty
      · rw [hensured, hnone]
        rfl
      · rw [hensured, hempty]
        rfl
    exact ⟨.inr hempty, fun _ => hempty⟩

theorem applyRule_array (h : IsArrayRule rule array path into slot)
    (hitems : valueAt array source = some (.list items)) :
    applyRule world profile source result rule = .ok (ensure into result) := by
  have hresolved : resolveSources rule source = [.list (items.map (held path))] := by
    rw [resolveSources, h.sources_eq, List.map_singleton, getNested_itemPath h.path_ne hitems]
  have htransform : applyTransform world rule.transform [.list (items.map (held path))] =
      .ok (.list (items.map (held path))) := by
    unfold applyTransform
    rw [h.kind_eq]
  have hslot : plainParts slot ≠ [] := fun hnil => h.slot_ne (List.map_eq_nil_iff.mp hnil)
  unfold applyRule
  simp only [hresolved, htransform, h.extra_eq, List.foldlM_nil]
  show SharedMapper.setNested result rule.targetField (.list (items.map (held path))) = _
  rw [SharedMapper.setNested, h.target_eq, partsOf_itemPath h.into_ne, setParts_through h.into_ne hslot]

theorem Quiet.applyRule (hinto : into ≠ []) (htarget : Apart into rule.targetField ∨
    Through into rule.targetField) (h : SharedMapper.applyRule world profile source result rule = .ok result')
    (hquiet : Quiet into result) :
    Quiet into result' ∧
      (valueAt into result = some (.list []) → valueAt into result' = some (.list [])) := by
  rcases applyRule_cases h with rfl | ⟨value, hset⟩
  · exact ⟨hquiet, id⟩
  · exact hquiet.setNested hinto htarget hset

theorem quiet_static (hinto : into ≠ []) {entries : Dict}
    (hstatic : ∀ entry ∈ entries, Apart into entry.1 ∨ Through into entry.1)
    (h : entries.foldlM (fun result entry => setNested result entry.1 entry.2) result = .ok result')
    (hquiet : Quiet into result) : Quiet into result' := by
  induction entries generalizing result with
  | nil =>
      obtain rfl := Except.ok.inj h
      exact hquiet
  | cons entry entries ih =>
      rw [List.foldlM_cons] at h
      obtain ⟨next, hnext, hrest⟩ := bind_eq_ok.mp h
      exact ih (fun other hother => hstatic other (List.mem_cons_of_mem _ hother)) hrest
        (hquiet.setNested hinto (hstatic entry List.mem_cons_self) hnext).1

theorem quiet_rules (hinto : into ≠ []) {rules : List FieldMapping}
    (hrules : ∀ rule ∈ rules, Apart into rule.targetField ∨ Through into rule.targetField)
    (h : rules.foldlM (applyRule world profile source) result = .ok result') (hquiet : Quiet into result) :
    Quiet into result' ∧
      (valueAt into result = some (.list []) → valueAt into result' = some (.list [])) := by
  induction rules generalizing result with
  | nil =>
      obtain rfl := Except.ok.inj h
      exact ⟨hquiet, id⟩
  | cons rule rules ih =>
      rw [List.foldlM_cons] at h
      obtain ⟨next, hnext, hrest⟩ := bind_eq_ok.mp h
      obtain ⟨hquiet', hkeeps⟩ := hquiet.applyRule hinto (hrules rule List.mem_cons_self) hnext
      obtain ⟨hfinal, hlater⟩ := ih (fun other hother => hrules other (List.mem_cons_of_mem _ hother)) hrest
        hquiet'
      exact ⟨hfinal, fun hempty => hlater (hkeeps hempty)⟩

theorem emptied_rules {rules : List FieldMapping}
    (hrules : ∀ rule ∈ rules, Apart into rule.targetField ∨ Through into rule.targetField)
    (h : rules.foldlM (applyRule world profile source) result = .ok result') (hquiet : Quiet into result)
    (hmem : rule ∈ rules) (harray : IsArrayRule rule array path into slot)
    (hitems : valueAt array source = some (.list items)) : valueAt into result' = some (.list []) := by
  induction rules generalizing result with
  | nil => cases hmem
  | cons first rules ih =>
      rw [List.foldlM_cons] at h
      obtain ⟨next, hnext, hrest⟩ := bind_eq_ok.mp h
      have hlater : ∀ other ∈ rules, Apart into other.targetField ∨ Through into other.targetField :=
        fun other hother => hrules other (List.mem_cons_of_mem _ hother)
      have hquiet' := (hquiet.applyRule harray.into_ne (hrules first List.mem_cons_self) hnext).1
      rcases List.mem_cons.mp hmem with rfl | hin
      · rw [applyRule_array harray hitems] at hnext
        obtain rfl := Except.ok.inj hnext
        refine (quiet_rules harray.into_ne hlater hrest hquiet').2 ?_
        rw [valueAt_ensure harray.into_ne]
        rcases hquiet with hnone | hempty
        · rw [hnone]
          rfl
        · rw [hempty]
          rfl
      · exact ih hlater hrest hquiet' hin

end Run

/-! ## Positions of a document -/

/-- A name without brackets. -/
def nameOf (text : String) (h : text.toList ≠ [] ∧ '.' ∉ text.toList ∧ isArray text.toList = false) : Name :=
  ⟨text.toList, h.1, h.2.1, h.2.2⟩

/-- The profile that makes positions of line items. -/
def positionsProfile : MappingProfile where
  profileId := "client_acme_allegro"
  fieldMappings := [{ sourceField := "line_items[].quantity", targetField := "positions[].quantity" }]

/-- Texts as they are, and no other transforms. -/
def plainWorld : World where
  str
    | .str text => text
    | _ => ""
  apply _ _ := .error ""

theorem positions_rule :
    IsArrayRule { sourceField := "line_items[].quantity", targetField := "positions[].quantity" }
      [nameOf "line_items" (by decide)] [nameOf "quantity" (by decide)] [nameOf "positions" (by decide)]
      [nameOf "quantity" (by decide)] := by
  refine ⟨by simp, by simp, by simp, by simp, by decide +kernel, by decide +kernel, rfl, rfl⟩

end SharedMapper

end IntegrationPlatform
