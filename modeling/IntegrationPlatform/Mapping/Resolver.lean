import IntegrationPlatform.Mapping.Assembly

/-!
# The mapping resolver

`resolve` writes the defaults of a connector, what the rules of a flow compute and what the overrides of a
tenant compute into one object, each under its target path. `resolve_last_writer` says that the last writer
of a target wins, and that nothing else is in the object, unless the evaluation of a rule raises.
-/

namespace IntegrationPlatform

open Value

namespace MappingResolver

/-- An entry of `flow_field_mapping`. -/
structure MappingEntry where
  toField : String := ""
  toCustom : String := ""
  fromField : String := ""
  fromCustom : Value := .str ""
  sources : List String := []
  transform : Value := .null

/-- The path that an entry writes to. -/
def MappingEntry.target (entry : MappingEntry) : String :=
  if entry.toField = "__custom__" then entry.toCustom else entry.toField

/-- A row of `field_mappings`. -/
structure FieldMapping where
  sourceField : String
  targetField : String
  transform : Value := .null

section Resolver

variable (texts : TextFunctions) (transforms : List Value → Dict → Except String Value)

/-! ## Values -/

def resolveSources (entry : MappingEntry) (source : Value) : List Value :=
  if entry.sources ≠ [] then entry.sources.map (getNested texts source)
  else if entry.fromField = "" then []
  else if entry.fromField = "__custom__" then [entry.fromCustom]
  else [getNested texts source entry.fromField]

/-- `_apply_transform`. A transform that is not an object has no `get`. -/
def applyTransform (values : List Value) : Value → Except String Value
  | .dict transform => transforms values transform
  | transform => .error ("'" ++ transform.typeName ++ "' object has no attribute 'get'")

/-- The values after some transforms, each of the value of the one before. -/
def applySteps : List Value → List Value → Except String (List Value)
  | [], pipe => .ok pipe
  | step :: steps, pipe =>
      (applyTransform transforms pipe step).bind fun value => applySteps steps [value]

/-- The values after the transforms of an entry. -/
def transformed (transform : Value) (values : List Value) : Except String Value :=
  (applySteps transforms
    (match transform with
    | .list steps => steps
    | step => [step]) values).bind fun pipe =>
      match pipe with
      | value :: _ => .ok value
      | [] => .error "list index out of range"

/-- `" ".join(str(v) for v in values if v is not None)`. -/
def joined (values : List Value) : Value :=
  .str (" ".intercalate ((values.filter fun value => !value.pyEq .null).map texts.str))

/-- The value that an entry writes, unless it is skipped or its value is `None`. -/
def entryValue (entry : MappingEntry) (source : Value) : Except String (Option Value) :=
  if entry.target = "" then .ok none
  else
    let values := resolveSources texts entry source
    if values.isEmpty ∧ entry.fromField = "" ∧ entry.sources = [] then .ok none
    else
      (if entry.transform.truthy then transformed transforms entry.transform values
      else
        match values with
        | [value] => .ok value
        | values => .ok (joined texts values)).map fun value =>
          if value.pyEq .null then none else some value

/-- The value that an override writes, unless its source is `None`. -/
def overrideValue (override : FieldMapping) (source : Value) : Except String (Option Value) :=
  let value := getNested texts source override.sourceField
  if value.pyEq .null then .ok none
  else if override.transform.truthy then
    (applyTransform transforms [value] override.transform).map some
  else .ok (some value)

/-! ## Layers -/

/-- The defaults of the connector. -/
def writeDefaults : Dict → Value → Except String Value
  | [], mapped => .ok mapped
  | (key, value) :: rest, mapped => (setNested texts key value mapped).bind (writeDefaults rest)

/-- The field mapping of a flow. -/
def writeEntries (source : Value) : List MappingEntry → Value → Except String Value
  | [], mapped => .ok mapped
  | entry :: rest, mapped =>
      (entryValue texts transforms entry source).bind fun value =>
        match value with
        | some value => (setNested texts entry.target value mapped).bind (writeEntries source rest)
        | none => writeEntries source rest mapped

/-- The overrides of a tenant. -/
def writeOverrides (source : Value) : List FieldMapping → Value → Except String Value
  | [], mapped => .ok mapped
  | override :: rest, mapped =>
      (overrideValue texts transforms override source).bind fun value =>
        match value with
        | some value => (setNested texts override.targetField value mapped).bind (writeOverrides source rest)
        | none => writeOverrides source rest mapped

/-- `resolve`, with the defaults that have been loaded and the overrides in the order of their priority. -/
def resolve (defaults : Dict) (entries : List MappingEntry) (overrides : List FieldMapping)
    (source : Value) : Except String Value :=
  (writeDefaults texts defaults (.dict [])).bind fun mapped =>
    (writeEntries texts transforms source entries mapped).bind
      (writeOverrides texts transforms source overrides)

/-! ## Writers -/

/-- What a rule writes, if it applies, or what its evaluation raises. -/
abbrev Writer := Except String (Option (String × Value))

/-- The rules in their order. -/
def writers (defaults : Dict) (entries : List MappingEntry) (overrides : List FieldMapping)
    (source : Value) : List Writer :=
  defaults.map (fun field => .ok (some field)) ++
    (entries.map (fun entry => (entryValue texts transforms entry source).map
      (Option.map (Prod.mk entry.target))) ++
    overrides.map fun override => (overrideValue texts transforms override source).map
      (Option.map (Prod.mk override.targetField)))

/-- What the rules write, one after the other. -/
def runWriters : List Writer → Value → Except String Value
  | [], mapped => .ok mapped
  | writer :: rest, mapped =>
      writer.bind fun write =>
        match write with
        | some write => (setNested texts write.1 write.2 mapped).bind (runWriters rest)
        | none => runWriters rest mapped

/-- The first exception of an evaluation. -/
def firstError : List Writer → Option String
  | [] => none
  | .error message :: _ => some message
  | .ok _ :: rest => firstError rest

/-- What the rules that apply write. -/
def writes (rules : List Writer) : List (String × Value) :=
  rules.filterMap fun writer => writer.toOption.join

end Resolver

/-! ## Keys -/

/-- The keys of a path without brackets. -/
def keysOf (target : String) : List String :=
  (splitDots target.toList).map String.ofList

/-- What lies under a list of keys, if they are all there. -/
def lookup : List String → Value → Option Value
  | [], value => some value
  | key :: rest, .dict fields => (Assoc.find fields key).bind (lookup rest)
  | _ :: _, _ => none

/-- On the way along the keys there is nothing but objects. -/
def Open (keys : List String) (data : Value) : Prop :=
  ∀ path, path <+: keys → path ≠ keys → ∀ value, lookup path data = some value →
    ∃ fields, value = .dict fields

/-- Neither of the paths leads through the other one. -/
def Unrelated (path path' : List String) : Prop :=
  ¬ path <+: path' ∧ ¬ path' <+: path

section Keys

variable {texts : TextFunctions} {data value : Value} {keys : List String}

theorem lookup_empty {path : List String} (h : path ≠ []) : lookup path (.dict []) = none := by
  cases path with
  | nil => exact absurd rfl h
  | cons key rest => rfl

theorem Open.child {key : String} {fields : Dict} (h : Open (key :: keys) (.dict fields)) :
    Open keys ((Assoc.find fields key).getD (.dict [])) := by
  intro path hprefix hne value hvalue
  cases hfind : Assoc.find fields key with
  | none =>
      rw [hfind] at hvalue
      cases path with
      | nil => exact ⟨[], (Option.some.inj hvalue).symm⟩
      | cons => cases hvalue
  | some child =>
      rw [hfind] at hvalue
      refine h (key :: path) ((List.prefix_cons_inj key).mpr hprefix)
        (fun heq => hne (List.cons.inj heq).2) value ?_
      rw [lookup, hfind]
      exact hvalue

variable (texts value) in
/-- What an assignment along keys does: the value lies under these keys, with objects on the way, and what
lies elsewhere stays. -/
theorem exists_along {parts : List (List Char)} (hne : parts ≠ [])
    (hopen : Open (parts.map String.ofList) data) :
    ∃ data', along (setKey texts false value) parts data = .ok data' ∧
      lookup (parts.map String.ofList) data' = some value ∧
      (∀ path, Unrelated path (parts.map String.ofList) → lookup path data' = lookup path data) ∧
      ∀ path, path <+: parts.map String.ofList → path ≠ parts.map String.ofList →
        ∃ fields, lookup path data' = some (.dict fields) := by
  induction parts generalizing data with
  | nil => exact absurd rfl hne
  | cons part parts ih =>
      obtain ⟨fields, rfl⟩ := hopen [] List.nil_prefix (List.cons_ne_nil _ _).symm data rfl
      -- A path that is unrelated goes by another key, or is unrelated below this key.
      have hput : ∀ {child child' : Value},
          (∀ path, Unrelated path (parts.map String.ofList) → lookup path child' = lookup path child) →
          child = (Assoc.find fields (String.ofList part)).getD (.dict []) →
          ∀ path, Unrelated path ((part :: parts).map String.ofList) →
            lookup path (.dict (Assoc.put fields (String.ofList part) child')) =
              lookup path (.dict fields) := by
        rintro child child' hchild rfl path ⟨hnot, hnot'⟩
        cases path with
        | nil => exact absurd List.nil_prefix hnot
        | cons key path =>
            rw [lookup, lookup, Assoc.find_put]
            by_cases hkey : String.ofList part = key
            · subst hkey
              rw [List.map_cons, List.prefix_cons_inj] at hnot hnot'
              have hpath : path ≠ [] := fun h => hnot (h ▸ List.nil_prefix)
              rw [if_pos rfl, Option.bind_some, hchild path ⟨hnot, hnot'⟩]
              cases Assoc.find fields (String.ofList part) with
              | none => exact lookup_empty hpath
              | some child => rfl
            · rw [if_neg hkey]
      cases parts with
      | nil =>
          refine ⟨.dict (Assoc.put fields (String.ofList part) value), ?_, ?_, ?_, ?_⟩
          · show setKey texts false value part (.dict fields) = _
            rw [setKey]
            cases Assoc.find fields (String.ofList part) <;> rfl
          · rw [List.map_cons, lookup, Assoc.find_put, if_pos rfl]
            rfl
          · exact hput (fun path hpath => absurd List.nil_prefix hpath.2) rfl
          · intro path hprefix hpath
            rcases List.prefix_cons_iff.mp hprefix with rfl | ⟨rest, rfl, hrest⟩
            · exact ⟨_, rfl⟩
            · exact absurd (congrArg (List.cons _) (List.prefix_nil.mp hrest)) hpath
      | cons next parts =>
          obtain ⟨child', halong, hvalue, hother, hprefix⟩ := ih (List.cons_ne_nil _ _) hopen.child
          refine ⟨.dict (Assoc.put fields (String.ofList part) child'), ?_, ?_, hput hother rfl, ?_⟩
          · show enter part (along (setKey texts false value) (next :: parts)) (.dict fields) = _
            rw [enter, halong]
            rfl
          · rw [List.map_cons, lookup, Assoc.find_put, if_pos rfl]
            exact hvalue
          · intro path hpath hne
            rcases List.prefix_cons_iff.mp hpath with rfl | ⟨rest, rfl, hrest⟩
            · exact ⟨_, rfl⟩
            · rw [lookup, Assoc.find_put, if_pos rfl]
              exact hprefix rest hrest fun heq => hne (congrArg (List.cons _) heq)

end Keys

/-! ## Last writers -/

/-- The paths that the rules write to. An entry without a path is skipped. -/
def targetsOf (defaults : Dict) (entries : List MappingEntry) (overrides : List FieldMapping) :
    List String :=
  defaults.map Prod.fst ++ ((entries.map MappingEntry.target).filter (· ≠ "") ++
    overrides.map FieldMapping.targetField)

/-- The targets have no brackets, and are equal or unrelated. -/
structure Distinct (targets : List String) : Prop where
  plain : ∀ target ∈ targets, ¬ ['[', ']'] <:+: target.toList
  unrelated : ∀ target ∈ targets, ∀ target' ∈ targets,
    target = target' ∨ Unrelated (keysOf target) (keysOf target')

/-- The object has the value of the last write at each target, and nothing elsewhere. -/
structure Resolved (targets : List String) (applied : List (String × Value)) (fields : Dict) : Prop where
  opened : ∀ target ∈ targets, Open (keysOf target) (.dict fields)
  last : ∀ target ∈ targets, lookup (keysOf target) (.dict fields) = Assoc.find applied.reverse target
  nothing : ∀ path ≠ [], (∀ write ∈ applied, Unrelated path (keysOf write.1)) →
    lookup path (.dict fields) = none

section Writers

variable {texts : TextFunctions} {transforms : List Value → Dict → Except String Value}
  {targets : List String} {applied : List (String × Value)} {fields : Dict}

theorem keysOf_ne_nil (target : String) : keysOf target ≠ [] := by
  intro h
  exact splitDots_ne_nil _ (List.map_eq_nil_iff.mp h)

theorem resolved_empty (targets : List String) : Resolved targets [] [] where
  opened target _ path _ _ value hvalue := by
    cases path with
    | nil => exact ⟨[], (Option.some.inj hvalue).symm⟩
    | cons => cases hvalue
  last target _ := lookup_empty (keysOf_ne_nil target)
  nothing _ hpath _ := lookup_empty hpath

variable (texts) in
/-- A write to a target makes its value the last one there. -/
theorem Resolved.write (hdistinct : Distinct targets) (h : Resolved targets applied fields)
    {target : String} (htarget : target ∈ targets) (value : Value) :
    ∃ fields', setNested texts target value (.dict fields) = .ok (.dict fields') ∧
      Resolved targets (applied ++ [(target, value)]) fields' := by
  -- Without brackets the target is one key of `_set_nested`, a dotted one.
  have hsplit : splitBrackets target.toList = [target.toList] := by
    have happend : splitBrackets (target.toList ++ []) = _ :=
      splitBrackets_append (hdistinct.plain target htarget) (by decide)
    rw [List.append_nil] at happend
    rw [happend]
    exact congrArg (fun part => [part]) (List.append_nil _)
  obtain ⟨data', halong, hvalue, hother, hprefix⟩ :=
    exists_along texts value (splitDots_ne_nil target.toList)
      (h.opened target htarget)
  obtain ⟨fields', hfields'⟩ := hprefix [] List.nil_prefix (keysOf_ne_nil target).symm
  obtain rfl := Option.some.inj hfields'
  have hlast : ∀ target' ∈ targets, target' ≠ target →
      lookup (keysOf target') (.dict fields') = lookup (keysOf target') (.dict fields) := by
    intro target' htarget' hne
    rcases hdistinct.unrelated target' htarget' target htarget with heq | hunrelated
    · exact absurd heq hne
    · exact hother _ hunrelated
  refine ⟨fields', ?_, ⟨?_, ?_, ?_⟩⟩
  · show setBrackets texts false (splitBrackets target.toList) value (.dict fields) = _
    rw [hsplit]
    exact halong
  · intro target' htarget' path hpath hne found hfound
    rcases hdistinct.unrelated target' htarget' target htarget with rfl | hunrelated
    · obtain ⟨fields'', hfields''⟩ := hprefix path hpath hne
      exact ⟨fields'', Option.some.inj (hfound.symm.trans hfields'')⟩
    · -- On the way to another target: above this target, or beside it.
      by_cases hbelow : path <+: keysOf target
      · have hne' : path ≠ keysOf target := by
          rintro rfl
          exact hunrelated.2 hpath
        obtain ⟨fields'', hfields''⟩ := hprefix path hbelow hne'
        exact ⟨fields'', Option.some.inj (hfound.symm.trans hfields'')⟩
      · have habove : ¬ keysOf target <+: path := fun h => hunrelated.2 (h.trans hpath)
        rw [hother path ⟨hbelow, habove⟩] at hfound
        exact h.opened target' htarget' path hpath hne found hfound
  · intro target' htarget'
    rw [List.reverse_append, List.reverse_singleton, List.singleton_append, Assoc.find]
    by_cases heq : target = target'
    · rw [if_pos heq, ← heq]
      exact hvalue
    · rw [if_neg heq, hlast target' htarget' (Ne.symm heq)]
      exact h.last target' htarget'
  · intro path hpath hunrelated
    rw [hother path (hunrelated _ (List.mem_append_right _ (List.mem_singleton.mpr rfl)))]
    exact h.nothing path hpath fun write hwrite => hunrelated write (List.mem_append_left _ hwrite)

variable (texts) in
/-- The rules write until the first exception, or all that applies. -/
theorem Resolved.runWriters (hdistinct : Distinct targets) {rules : List Writer}
    (htargets : ∀ write ∈ writes rules, write.1 ∈ targets) (h : Resolved targets applied fields) :
    (∀ message, firstError rules = some message →
        MappingResolver.runWriters texts rules (.dict fields) = .error message) ∧
      (firstError rules = none → ∃ fields',
        MappingResolver.runWriters texts rules (.dict fields) = .ok (.dict fields') ∧
          Resolved targets (applied ++ writes rules) fields') := by
  induction rules generalizing applied fields with
  | nil =>
      refine ⟨fun message hmessage => (by cases hmessage), fun _ => ⟨fields, rfl, ?_⟩⟩
      rw [show writes [] = [] from rfl, List.append_nil]
      exact h
  | cons rule rules ih =>
      cases rule with
      | error message =>
          refine ⟨fun message' hmessage => ?_, fun hnone => by cases hnone⟩
          obtain rfl := Option.some.inj hmessage
          rfl
      | ok write =>
          cases write with
          -- The rule does not apply.
          | none => exact ih htargets h
          | some write =>
              obtain ⟨fields', hset, hresolved⟩ := h.write texts hdistinct
                (htargets write List.mem_cons_self) write.2
              have hrest := ih (fun write' hwrite' => htargets write' (List.mem_cons_of_mem _ hwrite'))
                hresolved
              rw [List.append_assoc] at hrest
              have hrun : MappingResolver.runWriters texts (.ok (some write) :: rules) (.dict fields) =
                  MappingResolver.runWriters texts rules (.dict fields') := by
                show (setNested texts write.1 write.2 (.dict fields)).bind _ = _
                rw [hset]
                rfl
              rw [hrun]
              exact hrest

theorem runWriters_append (rules rules' : List Writer) (mapped : Value) :
    runWriters texts (rules ++ rules') mapped =
      (runWriters texts rules mapped).bind (runWriters texts rules') := by
  induction rules generalizing mapped with
  | nil => rfl
  | cons rule rules ih =>
      cases rule with
      | error => rfl
      | ok write =>
          cases write with
          | none => exact ih mapped
          | some write =>
              show (setNested texts write.1 write.2 mapped).bind _ =
                ((setNested texts write.1 write.2 mapped).bind _).bind _
              cases setNested texts write.1 write.2 mapped with
              | error => rfl
              | ok mapped' => exact ih mapped'

/-- `resolve` runs the rules of the three layers. -/
theorem resolve_eq_runWriters (defaults : Dict) (entries : List MappingEntry)
    (overrides : List FieldMapping) (source : Value) :
    resolve texts transforms defaults entries overrides source =
      runWriters texts (writers texts transforms defaults entries overrides source) (.dict []) := by
  have hdefaults : writeDefaults texts defaults =
      runWriters texts (defaults.map fun field => .ok (some field)) := by
    induction defaults with
    | nil => rfl
    | cons field rest ih =>
        funext mapped
        show (setNested texts field.1 field.2 mapped).bind (writeDefaults texts rest) = _
        rw [ih]
        rfl
  have hentries : writeEntries texts transforms source entries = runWriters texts (entries.map
      fun entry => (entryValue texts transforms entry source).map
        (Option.map (Prod.mk entry.target))) := by
    induction entries with
    | nil => rfl
    | cons entry rest ih =>
        funext mapped
        rw [writeEntries, ih, List.map_cons, runWriters]
        cases entryValue texts transforms entry source with
        | error => rfl
        | ok value => cases value <;> rfl
  have hoverrides : writeOverrides texts transforms source overrides = runWriters texts (overrides.map
      fun override => (overrideValue texts transforms override source).map
        (Option.map (Prod.mk override.targetField))) := by
    induction overrides with
    | nil => rfl
    | cons override rest ih =>
        funext mapped
        rw [writeOverrides, ih, List.map_cons, runWriters]
        cases overrideValue texts transforms override source with
        | error => rfl
        | ok value => cases value <;> rfl
  unfold resolve writers
  rw [runWriters_append, hdefaults]
  refine congrArg _ (funext fun mapped => ?_)
  rw [runWriters_append, hentries, hoverrides]

theorem entryValue_target {entry : MappingEntry} {source value : Value}
    (h : entryValue texts transforms entry source = .ok (some value)) : entry.target ≠ "" := by
  intro htarget
  rw [entryValue, if_pos htarget] at h
  cases h

theorem mem_writes_map {α : Type} {rules : List α} {valueOf : α → Except String (Option Value)}
    {targetOf : α → String} {write : String × Value}
    (h : write ∈ writes (rules.map fun rule => (valueOf rule).map (Option.map (Prod.mk (targetOf rule))))) :
    ∃ rule ∈ rules, write.1 = targetOf rule ∧ valueOf rule = .ok (some write.2) := by
  obtain ⟨writer, hwriter, hwrite⟩ := List.mem_filterMap.mp h
  obtain ⟨rule, hrule, rfl⟩ := List.mem_map.mp hwriter
  refine ⟨rule, hrule, ?_⟩
  cases hvalue : valueOf rule with
  | error message =>
      rw [hvalue] at hwrite
      cases hwrite
  | ok value =>
      rw [hvalue] at hwrite
      cases value with
      | none => cases hwrite
      | some value =>
          obtain rfl := Option.some.inj hwrite
          exact ⟨rfl, rfl⟩

theorem mem_targetsOf {defaults : Dict} {entries : List MappingEntry} {overrides : List FieldMapping}
    {source : Value} {write : String × Value}
    (h : write ∈ writes (writers texts transforms defaults entries overrides source)) :
    write.1 ∈ targetsOf defaults entries overrides := by
  unfold writes writers at h
  rw [List.filterMap_append, List.filterMap_append] at h
  unfold targetsOf
  rcases List.mem_append.mp h with h | h
  · obtain ⟨writer, hwriter, hwrite⟩ := List.mem_filterMap.mp h
    obtain ⟨field, hfield, rfl⟩ := List.mem_map.mp hwriter
    obtain rfl := Option.some.inj hwrite
    exact List.mem_append_left _ (List.mem_map_of_mem hfield)
  · refine List.mem_append_right _ ?_
    rcases List.mem_append.mp h with h | h
    · obtain ⟨entry, hentry, htarget, hvalue⟩ := mem_writes_map h
      refine List.mem_append_left _ (List.mem_filter.mpr ⟨?_, ?_⟩)
      · exact htarget ▸ List.mem_map_of_mem hentry
      · exact decide_eq_true (htarget ▸ entryValue_target hvalue)
    · obtain ⟨override, hoverride, htarget, -⟩ := mem_writes_map h
      exact List.mem_append_right _ (htarget ▸ List.mem_map_of_mem hoverride)

/-- Where the targets are plain and unrelated, `resolve` raises what the evaluation of the first rule that
raises does and, failing that, gives an object with the value of the last rule that applies at each target,
and nothing at the paths that no rule writes to. -/
theorem resolve_last_writer (texts : TextFunctions) (transforms : List Value → Dict → Except String Value)
    {defaults : Dict} {entries : List MappingEntry} {overrides : List FieldMapping}
    (hdistinct : Distinct (targetsOf defaults entries overrides)) (source : Value) :
    (∀ message, firstError (writers texts transforms defaults entries overrides source) = some message →
        resolve texts transforms defaults entries overrides source = .error message) ∧
      (firstError (writers texts transforms defaults entries overrides source) = none → ∃ fields,
        resolve texts transforms defaults entries overrides source = .ok (.dict fields) ∧
          (∀ target ∈ targetsOf defaults entries overrides, lookup (keysOf target) (.dict fields) =
            Assoc.find (writes (writers texts transforms defaults entries overrides source)).reverse
              target) ∧
          ∀ path ≠ [], (∀ write ∈ writes (writers texts transforms defaults entries overrides source),
            Unrelated path (keysOf write.1)) → lookup path (.dict fields) = none) := by
  have hrun := (resolved_empty (targetsOf defaults entries overrides)).runWriters texts
    hdistinct fun write
      (hwrite : write ∈ writes (writers texts transforms defaults entries overrides source)) =>
      mem_targetsOf hwrite
  rw [resolve_eq_runWriters]
  refine ⟨hrun.1, fun hnone => ?_⟩
  obtain ⟨fields, hfields, hresolved⟩ := hrun.2 hnone
  exact ⟨fields, hfields, hresolved.last, hresolved.nothing⟩

end Writers

/-! ## Samples -/

namespace Sample

/-- The transform `split` with an empty separator raises a `ValueError`. A transform of an unknown type
keeps the first value. -/
def transforms (values : List Value) (transform : Dict) : Except String Value :=
  if ((transform.find "type").getD .null).pyEq (.str "split") ∧
      ((transform.find "separator").getD .null).pyEq (.str "") then .error "empty separator"
  else .ok (values.headD .null)

def order : Value :=
  .dict [("buyer", .dict [("name", .str "Anna")]), ("state", .str "paid")]

/-- A flow that maps the name of the buyer, with this transform. -/
def buyerName (transform : Value) : List MappingEntry :=
  [{ toField := "customer.name", fromField := "buyer.name", transform := transform }]

/-- What becomes of the order, with a default and an override of its status. -/
def resolved (transform : Value) : Except String Value :=
  resolve Conditions.Sample.texts transforms [("status", .str "new")] (buyerName transform)
    [{ sourceField := "state", targetField := "status" }] order

end Sample

/-- The status of an order is the one of the override. -/
theorem resolved_status : ∃ fields, Sample.resolved .null = .ok (.dict fields) ∧
    lookup (keysOf "status") (.dict fields) = some (.str "paid") := by
  have hdistinct : Distinct (targetsOf [("status", .str "new")] (Sample.buyerName .null)
      [{ sourceField := "state", targetField := "status" }]) := by
    refine ⟨by decide, ?_⟩
    unfold Unrelated
    decide
  obtain ⟨fields, hfields, hlast, -⟩ :=
    (resolve_last_writer Conditions.Sample.texts Sample.transforms hdistinct Sample.order).2 (by rfl)
  exact ⟨fields, hfields, (hlast "status" (by decide)).trans (by rfl)⟩

/-- A name that is split at an empty separator is not mapped, and neither is anything else. -/
theorem not_resolved : ¬ ∃ fields, Sample.resolved
    (.dict [("type", .str "split"), ("separator", .str "")]) = .ok (.dict fields) := by
  rintro ⟨fields, hfields⟩
  cases hfields

end MappingResolver

end IntegrationPlatform
