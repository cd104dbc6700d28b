import IntegrationPlatform.Texts.Matches
import IntegrationPlatform.Json.Path
import IntegrationPlatform.Workflow.Conditions
import IntegrationPlatform.Workflow.Sample

/-!
# Interpolation

The places at which the engine fills in placeholders take a text for a single placeholder if it begins
and ends with braces, and `set_variable` does not fill in any other text. `agreement_iff` says of which
templates the three places make what `_interpolate_string` makes of them, in every context.
-/

namespace IntegrationPlatform

namespace Interpolation

open Value (LeafAt PartAt)

/-! ## Placeholders -/

/-- How far it is to the end of the next closing braces on the same line. -/
def closing : List Char → Option Nat
  | [] => none
  | letter :: rest =>
      if List.isPrefixOf ['\x7d', '\x7d'] (letter :: rest) then some 2
      else if letter = '\n' then none
      else (closing rest).map (· + 1)

/-- The length of a match of the pattern of placeholders: two braces, as little as possible on one line
but at least one letter, and two braces. -/
def findPlaceholder : List Char → Option Nat
  | first :: second :: letter :: rest =>
      if first = '\x7b' ∧ second = '\x7b' ∧ letter ≠ '\n' then (closing rest).map (· + 3) else none
  | _ => none

variable {text : List Char}

theorem closing_spec {length : Nat} (h : closing text = some length) :
    ∃ inner rest, text = inner ++ '\x7d' :: '\x7d' :: rest ∧ length = inner.length + 2 := by
  induction text generalizing length with
  | nil => cases h
  | cons letter rest ih =>
      rw [closing] at h
      split at h
      · next hbegins =>
        obtain ⟨after, hafter⟩ := List.isPrefixOf_iff_prefix.mp hbegins
        exact ⟨[], after, hafter.symm, (Option.some.inj h).symm⟩
      · split at h
        · cases h
        · obtain ⟨found, hfound, rfl⟩ := Option.map_eq_some_iff.mp h
          obtain ⟨inner, after, rfl, rfl⟩ := ih hfound
          exact ⟨letter :: inner, after, rfl, rfl⟩

theorem findPlaceholder_spec {length : Nat} (h : findPlaceholder text = some length) :
    ∃ inner rest, text = '\x7b' :: '\x7b' :: (inner ++ '\x7d' :: '\x7d' :: rest) ∧
      length = inner.length + 4 := by
  unfold findPlaceholder at h
  split at h
  · next first second letter rest =>
    split at h
    · next hopen =>
      obtain ⟨rfl, rfl, hletter⟩ := hopen
      obtain ⟨found, hfound, rfl⟩ := Option.map_eq_some_iff.mp h
      obtain ⟨inner, after, rfl, rfl⟩ := closing_spec hfound
      exact ⟨letter :: inner, after, rfl, rfl⟩
    · cases h
  · cases h

/-- The pattern `_interpolate_string` searches for. -/
def placeholder : Pattern Char where
  find := findPlaceholder
  pos := by
    intro text length h
    obtain ⟨inner, rest, -, rfl⟩ := findPlaceholder_spec h
    omega
  le := by
    intro text length h
    obtain ⟨inner, rest, rfl, rfl⟩ := findPlaceholder_spec h
    simp only [List.length_cons, List.length_append]
    omega

/-- `match.group(1)`. -/
def group (found : List Char) : List Char :=
  (found.drop 2).dropLast.dropLast

/-- There is a placeholder in the template. -/
def HasPlaceholder (template : String) : Prop :=
  placeholder.findAll template.toList ≠ []

/-- The template is exactly one placeholder. -/
def IsPlaceholder (template : String) : Prop :=
  placeholder.findAll template.toList = [template.toList]

/-- `template.startswith` and `template.endswith`, for the braces of a placeholder. -/
def Enclosed (template : String) : Prop :=
  ['\x7b', '\x7b'] <+: template.toList ∧ ['\x7d', '\x7d'] <:+ template.toList

instance (template : String) : Decidable (HasPlaceholder template) :=
  inferInstanceAs (Decidable (_ ≠ _))

instance (template : String) : Decidable (IsPlaceholder template) :=
  inferInstanceAs (Decidable (_ = _))

instance (template : String) : Decidable (Enclosed template) :=
  inferInstanceAs (Decidable (_ ∧ _))

/-! ## The engine -/

section Engine

variable (engine : WorkflowEngine) (texts : TextFunctions)

def replacer (scope : Scope) (found : List Char) : List Char :=
  match Conditions.resolveValue texts (engine.strip (String.ofList (group found))) scope with
  | .null => []
  | value => (texts.str value).toList

def interpolateString (template : String) (scope : Scope) : String :=
  String.ofList (placeholder.sub (replacer engine texts scope) template.toList)

/-- `_interpolate_dict`, of a text. -/
def interpolateText (template : String) (scope : Scope) : Value :=
  match engine.placeholder? template with
  | some path => Conditions.resolveValue texts path scope
  | none =>
      if WorkflowEngine.hasPlaceholder template.toList then
        .str (interpolateString engine texts template scope)
      else .str template

mutual

def interpolateDict (template : Value) (scope : Scope) : Value :=
  match template with
  | .dict fields => .dict (interpolateFields fields scope)
  | .list items => .list (interpolateItems items scope)
  | .str text => interpolateText engine texts text scope
  | .null => .null
  | .bool flag => .bool flag
  | .int number => .int number
  | .float number => .float number

/-- The entries of an object, filled in. -/
def interpolateFields (fields : List (String × Value)) (scope : Scope) : List (String × Value) :=
  match fields with
  | [] => []
  | (key, value) :: rest => (key, interpolateDict value scope) :: interpolateFields rest scope

/-- The items of a list, filled in. -/
def interpolateItems (items : List Value) (scope : Scope) : List Value :=
  match items with
  | [] => []
  | item :: rest => interpolateDict item scope :: interpolateItems rest scope

end

/-- The engine with the helpers of this module. -/
def interpolating : WorkflowEngine :=
  { engine with
    resolveValue := Conditions.resolveValue texts
    interpolateString := interpolateString engine texts
    interpolateDict := interpolateDict engine texts
    toStr := texts.str }

/-- What a template stands for: the value it refers to if it is one placeholder, and otherwise its text
with the text of a value in the place of every placeholder. -/
def meaning (template : String) (scope : Scope) : Value :=
  if IsPlaceholder template then
    Conditions.resolveValue texts (engine.strip (String.ofList (group template.toList))) scope
  else .str (interpolateString engine texts template scope)

end Engine

/-! ## Texts and the braces around them -/

section Braces

variable {engine : WorkflowEngine} {template : String}

theorem placeholder?_of_toList {inner : List Char}
    (h : template.toList = '\x7b' :: '\x7b' :: (inner ++ ['\x7d', '\x7d'])) :
    engine.placeholder? template = some (engine.strip (String.ofList inner)) := by
  have hreverse : (inner ++ ['\x7d', '\x7d']).reverse = '\x7d' :: '\x7d' :: inner.reverse := by simp
  unfold WorkflowEngine.placeholder?
  rw [h]
  simp only [hreverse, List.reverse_reverse]

theorem enclosed_iff :
    Enclosed template ↔ ∃ inner, template.toList = '\x7b' :: '\x7b' :: (inner ++ ['\x7d', '\x7d']) := by
  constructor
  · rintro ⟨⟨rest, hrest⟩, before, hbefore⟩
    rw [← hrest] at hbefore ⊢
    -- The braces at the end are not those at the beginning.
    match before with
    | [] => simp at hbefore
    | [_] => simp at hbefore
    | _ :: _ :: inner =>
        simp only [List.cons_append, List.nil_append, List.cons.injEq] at hbefore
        obtain ⟨-, -, rfl⟩ := hbefore
        exact ⟨inner, rfl⟩
  · rintro ⟨inner, h⟩
    rw [Enclosed, h]
    exact ⟨⟨inner ++ ['\x7d', '\x7d'], rfl⟩, '\x7b' :: '\x7b' :: inner, rfl⟩

theorem placeholder?_of_not_enclosed (h : ¬Enclosed template) : engine.placeholder? template = none := by
  unfold WorkflowEngine.placeholder?
  split
  · next rest htext =>
    split
    · next inner hinner =>
      refine absurd (enclosed_iff.mpr ⟨inner.reverse, ?_⟩) h
      rw [htext, List.reverse_eq_iff.mp hinner]
      simp
    · rfl
  · rfl

theorem toList_of_isPlaceholder (h : IsPlaceholder template) :
    template.toList = '\x7b' :: '\x7b' :: (group template.toList ++ ['\x7d', '\x7d']) := by
  obtain ⟨inner, rest, htext, hlength⟩ := findPlaceholder_spec (Pattern.findAll_eq_singleton_iff.mp h)
  have hrest : rest = [] := by
    rw [htext] at hlength
    simp only [List.length_cons, List.length_append] at hlength
    exact List.length_eq_zero_iff.mp (by omega)
  subst hrest
  have hgroup : group template.toList = inner := by
    rw [htext, group]
    simp
  rw [hgroup, htext]

theorem hasPlaceholder_of_findAll (h : placeholder.findAll text ≠ []) :
    WorkflowEngine.hasPlaceholder text = true := by
  induction text using placeholder.induction with
  | nil => exact absurd rfl h
  | found text length hfind _ =>
      obtain ⟨inner, rest, rfl, -⟩ := findPlaceholder_spec hfind
      rfl
  | letter letter rest hfind ih =>
      rw [Pattern.findAll_letter hfind] at h
      unfold WorkflowEngine.hasPlaceholder
      split
      · rfl
      · next heq =>
        obtain ⟨-, rfl⟩ := List.cons.inj heq
        exact ih h
      · next heq => cases heq

end Braces

/-! ## Agreement -/

section Agreement

variable (engine : WorkflowEngine) (texts : TextFunctions) (template : String)

/-- Wherever the template stands in the body of a response or of a request, its meaning is there in the
body that is sent. -/
def AgreesInBodies : Prop :=
  ∀ scope body path, LeafAt body path (.str template) →
    PartAt ((interpolating engine texts).interpolateDict body scope) path
      (meaning engine texts template scope)

/-- `set_variable` gives the variable the meaning of the template. -/
def AgreesInVariables : Prop :=
  ∀ scope, (interpolating engine texts).variableValue (.str template) scope =
    meaning engine texts template scope

/-- The trigger data of a sub-workflow gets the meaning of the template. -/
def AgreesInInputs : Prop :=
  ∀ scope, (interpolating engine texts).inputValue (.str template) scope =
    meaning engine texts template scope

variable {engine texts template}

theorem getElem?_interpolateFields {fields : List (String × Value)} {position : Nat} {name : String}
    {child : Value} (h : fields[position]? = some (name, child)) (scope : Scope) :
    (interpolateFields engine texts fields scope)[position]? =
      some (name, interpolateDict engine texts child scope) := by
  induction fields generalizing position with
  | nil => cases h
  | cons field rest ih =>
      cases position with
      | zero =>
          obtain rfl := Option.some.inj h
          simp [interpolateFields]
      | succ position =>
          simp only [interpolateFields, List.getElem?_cons_succ]
          exact ih h

theorem getElem?_interpolateItems {items : List Value} {position : Nat} {child : Value}
    (h : items[position]? = some child) (scope : Scope) :
    (interpolateItems engine texts items scope)[position]? =
      some (interpolateDict engine texts child scope) := by
  induction items generalizing position with
  | nil => cases h
  | cons item rest ih =>
      cases position with
      | zero =>
          obtain rfl := Option.some.inj h
          simp [interpolateItems]
      | succ position =>
          simp only [interpolateItems, List.getElem?_cons_succ]
          exact ih h

theorem partAt_interpolateDict {body leaf : Value} {path : Path} (h : LeafAt body path leaf)
    (scope : Scope) :
    PartAt (interpolateDict engine texts body scope) path (interpolateDict engine texts leaf scope) := by
  induction h with
  | here _ => exact .here _
  | field hfield _ ih =>
      rw [interpolateDict]
      exact .field (getElem?_interpolateFields hfield scope) ih
  | item hitem _ ih =>
      rw [interpolateDict]
      exact .item (getElem?_interpolateItems hitem scope) ih

theorem agreesInBodies_iff :
    AgreesInBodies engine texts template ↔
      ∀ scope, interpolateText engine texts template scope = meaning engine texts template scope := by
  constructor
  · intro h scope
    exact (Value.partAt_nil.mp (h scope (.str template) [] (.here rfl))).symm
  · intro h scope body path hleaf
    have hpart := @partAt_interpolateDict engine texts _ _ _ hleaf scope
    rw [interpolateDict, h] at hpart
    exact hpart

theorem placeholder?_of_isPlaceholder (h : IsPlaceholder template) :
    engine.placeholder? template = some (engine.strip (String.ofList (group template.toList))) :=
  placeholder?_of_toList (toList_of_isPlaceholder h)

/-- The scope of a context without data. -/
def noData : Scope where
  data := []
  triggerData := []

theorem getNested_nil (key : String) : Value.getNested texts (.dict []) key = .null := by
  have hnull : ∀ parts, Value.getDotted texts parts .null = .null := by
    intro parts
    cases parts <;> rfl
  have hdotted : ∀ key, Value.getDotted texts (Value.splitDots key) (.dict []) = .null := by
    intro key
    have hne : Value.splitDots key ≠ [] := by
      cases key with
      | nil => simp [Value.splitDots]
      | cons letter rest =>
          rw [Value.splitDots]
          split
          · simp
          · split <;> simp
    obtain ⟨part, parts, hparts⟩ := List.exists_cons_of_ne_nil hne
    rw [hparts]
    exact hnull parts
  have hne : Value.splitBrackets key.toList ≠ [] := by
    unfold Value.splitBrackets
    split
    · simp
    · simp
    · simp
    · split <;> simp
  obtain ⟨first, rest, hparts⟩ := List.exists_cons_of_ne_nil hne
  rw [Value.getNested, hparts]
  cases rest with
  | nil => exact hdotted first
  | cons second rest =>
      rw [Value.getBrackets]
      · split
        · next items heq =>
          split at heq
          · cases heq
          · rw [hdotted] at heq
            cases heq
        · rfl
      · simp

theorem resolveValue_noData (path : String) : Conditions.resolveValue texts path noData = .null := by
  unfold Conditions.resolveValue
  split
  · rfl
  · split
    · exact getNested_nil _
    · split
      · unfold Conditions.resolveNode
        split <;> rfl
      · split
        · exact getNested_nil _
        · split
          · rfl
          · exact getNested_nil _

theorem interpolateString_noData :
    interpolateString engine texts template noData =
      String.ofList (placeholder.sub (fun _ => []) template.toList) := by
  have hreplacer : replacer engine texts noData = fun _ => [] := by
    funext found
    rw [replacer, resolveValue_noData]
  rw [interpolateString, hreplacer]

theorem interpolateString_noData_ne (h : HasPlaceholder template) :
    interpolateString engine texts template noData ≠ template := by
  intro heq
  rw [interpolateString_noData] at heq
  have hlt := Pattern.length_sub_nil_lt h
  rw [← String.toList_ofList (l := placeholder.sub (fun _ => []) template.toList), heq] at hlt
  exact Nat.lt_irrefl _ hlt

theorem meaning_noData (h : ¬IsPlaceholder template) :
    ∃ text, meaning engine texts template noData = .str text ∧
      text = interpolateString engine texts template noData := by
  rw [meaning, if_neg h]
  exact ⟨_, rfl, rfl⟩

theorem interpolateText_eq_meaning_iff (h : HasPlaceholder template) :
    (∀ scope, interpolateText engine texts template scope = meaning engine texts template scope) ↔
      IsPlaceholder template ∨ ¬Enclosed template := by
  constructor
  · intro hagree
    by_contra hnot
    rw [not_or, not_not] at hnot
    obtain ⟨inner, hinner⟩ := enclosed_iff.mp hnot.2
    obtain ⟨text, htext, -⟩ := @meaning_noData engine texts _ hnot.1
    have hnull := hagree noData
    rw [interpolateText, placeholder?_of_toList hinner, htext] at hnull
    simp only [resolveValue_noData] at hnull
    cases hnull
  · rintro (hplaceholder | hopen) scope
    · rw [interpolateText, placeholder?_of_isPlaceholder hplaceholder, meaning, if_pos hplaceholder]
    · have hnot : ¬IsPlaceholder template := fun hplaceholder =>
        hopen (enclosed_iff.mpr ⟨_, toList_of_isPlaceholder hplaceholder⟩)
      rw [interpolateText, placeholder?_of_not_enclosed hopen, meaning, if_neg hnot]
      simp only [hasPlaceholder_of_findAll h, if_true]

theorem agreesInVariables_iff (h : HasPlaceholder template) :
    AgreesInVariables engine texts template ↔ IsPlaceholder template := by
  constructor
  · intro hagree
    by_contra hnot
    obtain ⟨text, htext, htext_eq⟩ := @meaning_noData engine texts _ hnot
    have hvalue := hagree noData
    rw [htext] at hvalue
    by_cases henclosed : Enclosed template
    · obtain ⟨inner, hinner⟩ := enclosed_iff.mp henclosed
      have hpath := @placeholder?_of_toList (interpolating engine texts) _ _ hinner
      simp only [WorkflowEngine.variableValue, hpath] at hvalue
      rw [show (interpolating engine texts).resolveValue = Conditions.resolveValue texts from rfl,
        resolveValue_noData] at hvalue
      cases hvalue
    · have hpath := @placeholder?_of_not_enclosed (interpolating engine texts) _ henclosed
      simp only [WorkflowEngine.variableValue, hpath] at hvalue
      rw [htext_eq] at hvalue
      exact interpolateString_noData_ne h (Value.str.inj hvalue).symm
  · intro hplaceholder scope
    have hpath := @placeholder?_of_isPlaceholder (interpolating engine texts) _ hplaceholder
    simp only [WorkflowEngine.variableValue, hpath, meaning, if_pos hplaceholder]
    rfl

/-- Bodies and the inputs of sub-workflows agree with `_interpolate_string` on a template unless it begins
and ends with braces without being one placeholder. Variables agree only if it is one placeholder. -/
theorem agreement_iff (engine : WorkflowEngine) (texts : TextFunctions) {template : String}
    (h : HasPlaceholder template) :
    (AgreesInBodies engine texts template ↔ IsPlaceholder template ∨ ¬Enclosed template) ∧
      (AgreesInInputs engine texts template ↔ IsPlaceholder template ∨ ¬Enclosed template) ∧
      (AgreesInVariables engine texts template ↔ IsPlaceholder template) := by
  refine ⟨?_, ?_, agreesInVariables_iff h⟩
  · rw [agreesInBodies_iff]
    exact interpolateText_eq_meaning_iff h
  · exact interpolateText_eq_meaning_iff h

end Agreement

/-! ## Samples -/

namespace Sample

def engine : WorkflowEngine :=
  interpolating (IntegrationPlatform.Sample.engine []) Conditions.Sample.texts

def order : Scope :=
  Conditions.Sample.order (.int 12)

end Sample

open IntegrationPlatform.Sample in
/-- A text with a placeholder in it is filled in in a body, and not in a variable. -/
theorem agreement_mixed :
    AgreesInBodies (engine []) Conditions.Sample.texts "pay \x7b\x7btotal\x7d\x7d" ∧
    AgreesInInputs (engine []) Conditions.Sample.texts "pay \x7b\x7btotal\x7d\x7d" ∧
    ¬ AgreesInVariables (engine []) Conditions.Sample.texts "pay \x7b\x7btotal\x7d\x7d" := by
  obtain ⟨hbodies, hinputs, hvariables⟩ :=
    @agreement_iff (engine []) Conditions.Sample.texts "pay \x7b\x7btotal\x7d\x7d" (by decide)
  have hopen : ¬ Enclosed "pay \x7b\x7btotal\x7d\x7d" := by decide
  exact ⟨hbodies.mpr (.inr hopen), hinputs.mpr (.inr hopen), fun h => absurd (hvariables.mp h) (by decide)⟩

/-- A variable keeps the braces of a text that is filled in elsewhere, and a body has no value for two
placeholders. -/
theorem placeholders_misread :
    HasPlaceholder "pay \x7b\x7btotal\x7d\x7d" ∧
    Sample.engine.variableValue (.str "pay \x7b\x7btotal\x7d\x7d") Sample.order =
      .str "pay \x7b\x7btotal\x7d\x7d" ∧
    meaning (IntegrationPlatform.Sample.engine []) Conditions.Sample.texts
      "pay \x7b\x7btotal\x7d\x7d" Sample.order = .str "pay 12" ∧
    HasPlaceholder "\x7b\x7btotal\x7d\x7d/\x7b\x7btotal\x7d\x7d" ∧
    Sample.engine.interpolateDict (.str "\x7b\x7btotal\x7d\x7d/\x7b\x7btotal\x7d\x7d") Sample.order =
      .null ∧
    meaning (IntegrationPlatform.Sample.engine []) Conditions.Sample.texts
      "\x7b\x7btotal\x7d\x7d/\x7b\x7btotal\x7d\x7d" Sample.order = .str "12/12" := by
  refine ⟨by decide, ?_, ?_, by decide, ?_, ?_⟩
  · rfl
  · rfl
  · rfl
  · rfl

end Interpolation

end IntegrationPlatform
