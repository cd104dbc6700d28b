import IntegrationPlatform.Mapping.PreviewWrites

/-!
# Reads of the preview and of the engine

`_get_nested` reads a path segment by segment (`getNested_spell`), as the preview does. `ReadsAlike` says
where both find the same, and `carries_readPathWithFallback` that the value in the browser then carries the
one of the engine.
-/

namespace IntegrationPlatform

open Value

namespace Value

section Reading

variable {texts : TextFunctions}

theorem getNested_spell (target : Target) (data : Value) :
    getNested texts data target.spell = readSegments texts target.segments data := by
  unfold getNested Target.spell
  rw [String.toList_ofList, ← getWhere_true]
  exact getWhere_segments target.first target.rest (.inl fun _ => rfl)

end Reading

end Value

namespace VisualMapper

section Reads

variable (browser : Browser) (python : Python)

/-! ## Exact values -/

mutual

/-- Every integer in the value is a number of the browser. -/
def Exact : Value → Prop
  | .int number => browser.nearest number = .finite number
  | .list items => ExactItems items
  | .dict fields => ExactFields fields
  | _ => True

/-- So it is in every item. -/
def ExactItems : List Value → Prop
  | [] => True
  | item :: items => Exact item ∧ ExactItems items

/-- So it is in every field. -/
def ExactFields : List (String × Value) → Prop
  | [] => True
  | (_, value) :: fields => Exact value ∧ ExactFields fields

end

/-- The value in the browser shows the one of the engine, and is nothing if that is `None`. -/
def Carries (shown : JsValue) (value : Value) : Prop :=
  if shown.isNullish then value = .null else value ≠ .null ∧ Agrees shown value

/-! ## Paths -/

/-- Both sides find the same under a key. -/
def KeyAlike (key : String) : Value → Prop
  | .dict fields => Assoc.find fields key = none → (browser.objectPrototype key).isNullish = true
  | .list items =>
      match indexOf? key with
      | some index => (python.texts.int key).bind (itemAt items) = items[index]?
      | none => (python.texts.int key).bind (itemAt items) = none ∧ key ≠ "length" ∧
          (browser.arrayPrototype key).isNullish = true
  | _ => True

/-- Both sides read the same along segments: brackets stand behind lists, unless there is nothing before. -/
def ReadsAlike : List Segment → Value → Prop
  | [], _ => True
  | segment :: rest, data =>
      data = .null ∨ KeyAlike browser python segment.key data ∧
        if segment.each then
          ∃ items, getDotted python.texts [segment.name] data = .list items ∧
            ∀ item ∈ items, ReadsAlike rest item
        else ReadsAlike rest (getDotted python.texts [segment.name] data)

/-- Both sides read the same under a path. It does not begin with a name that the engine has for something
else than the data, unless that is the same, and where it is not found, nothing else is taken for it. -/
def SourceReads (scope : Scope) (path : String) : Prop :=
  path = "" ∧ (fallback browser (parseFields browser scope.data) path).isNullish = true ∨
    ∃ target : Target, path = target.spell ∧
      ((∀ lead ∈ ["vars.", "nodes.", "trigger.", "item.", "data."],
          Conditions.afterPrefix lead path = none) ∨
        Conditions.resolveValue python.texts path scope =
          readSegments python.texts target.segments (.dict scope.data)) ∧
      ReadsAlike browser python target.segments (.dict scope.data) ∧
      (Conditions.resolveValue python.texts path scope = .null →
        (fallback browser (parseFields browser scope.data) path).isNullish = true)

variable {browser python}

theorem exactItems_iff {items : List Value} :
    ExactItems browser items ↔ ∀ item ∈ items, Exact browser item := by
  induction items with
  | nil => simp [ExactItems]
  | cons item items ih => simp [ExactItems, ih]

theorem parseItems_eq (items : List Value) : parseItems browser items = items.map (parse browser) := by
  induction items with
  | nil => rfl
  | cons item items ih => rw [parseItems, ih, List.map_cons]

theorem find_parseFields (fields : Dict) (key : String) :
    Assoc.find (parseFields browser fields) key = (Assoc.find fields key).map (parse browser) := by
  induction fields with
  | nil => rfl
  | cons field fields ih =>
      rw [parseFields, Assoc.find, Assoc.find]
      by_cases hkey : field.1 = key
      · rw [if_pos hkey, if_pos hkey, Option.map_some]
      · rw [if_neg hkey, if_neg hkey, ih]

mutual

/-- An exact value is shown as it is. -/
theorem agrees_parse : ∀ value : Value, Exact browser value → Agrees (parse browser value) value
  | .null, _ => .null rfl
  | .bool flag, _ => .bool flag
  | .int number, h => by
      rw [parse, show browser.nearest number = .finite number from h]
      exact .int number
  | .float number, _ => .float number
  | .str text, _ => .str text
  | .list items, h => .list (agrees_parseItems items h)
  | .dict fields, h => agrees_object_iff.mpr (matching_parseFields fields h)

/-- So are its items. -/
theorem agrees_parseItems : ∀ items : List Value, ExactItems browser items →
    List.Forall₂ Agrees (parseItems browser items) items
  | [], _ => .nil
  | item :: items, h => .cons (agrees_parse item h.1) (agrees_parseItems items h.2)

theorem matching_parseFields : ∀ fields : List (String × Value), ExactFields browser fields → ∀ name,
    Matching (Assoc.find (parseFields browser fields) name) (Assoc.find fields name)
  | [], _, _ => trivial
  | (key, value) :: fields, h, name => by
      rw [parseFields, Assoc.find, Assoc.find]
      by_cases hkey : key = name
      · rw [if_pos hkey, if_pos hkey]
        exact agrees_parse value h.1
      · rw [if_neg hkey, if_neg hkey]
        exact matching_parseFields fields h.2 name

end

theorem isNullish_parse (value : Value) : (parse browser value).isNullish = true ↔ value = .null := by
  cases value <;> simp [parse, JsValue.isNullish]

variable {shown : JsValue} {value : Value}

theorem Carries.agrees (h : Carries shown value) :
    Agrees shown value := by
  unfold Carries at h
  split at h
  · next hnullish =>
    subst h
    refine .null ?_
    cases shown <;> first
      | rfl
      | cases hnullish
  · exact h.2

theorem carries_null (h : shown.isNullish = true) : Carries shown .null := by
  unfold Carries
  rw [if_pos h]

theorem Carries.isNullish (h : Carries shown .null) : shown.isNullish = true := by
  by_contra hnullish
  unfold Carries at h
  rw [if_neg hnullish] at h
  exact h.1 rfl

theorem carries_of_agrees (hshown : shown.isNullish = false)
    (hvalue : value ≠ .null) (h : Agrees shown value) : Carries shown value := by
  unfold Carries
  rw [if_neg (by rw [hshown]; exact Bool.false_ne_true)]
  exact ⟨hvalue, h⟩

theorem carries_parse (h : Exact browser value) : Carries (parse browser value) value := by
  by_cases hnull : value = .null
  · subst hnull
    exact carries_null rfl
  · refine carries_of_agrees (eq_false_of_ne_true fun hnullish => ?_) hnull (agrees_parse value h)
    exact hnull ((isNullish_parse value).mp hnullish)

/-- What lies under a key that both sides read alike. -/
theorem property_parse {segment : Segment} {data : Value}
    (h : KeyAlike browser python segment.key data) :
    property browser (parse browser data) segment.key =
        parse browser (getDotted python.texts [segment.name] data) ∨
      (property browser (parse browser data) segment.key).isNullish = true ∧
        getDotted python.texts [segment.name] data = .null := by
  cases data with
  | dict fields =>
      have hchild : getDotted python.texts [segment.name] (.dict fields) =
          (Assoc.find fields segment.key).getD .null := rfl
      rw [parse, property, find_parseFields, hchild]
      cases hfind : Assoc.find fields segment.key with
      | none => exact .inr ⟨h hfind, rfl⟩
      | some child => exact .inl rfl
  | list items =>
      have hchild : getDotted python.texts [segment.name] (.list items) =
          (((python.texts.int segment.key).bind (itemAt items)).getD .null) := by
        rw [getDotted, ← Segment.key]
        cases (python.texts.int segment.key).bind (itemAt items) <;> rfl
      unfold KeyAlike at h
      rw [parse, property, hchild, parseItems_eq]
      cases hindex : indexOf? segment.key with
      | some index =>
          rw [hindex] at h
          have hitem : (python.texts.int segment.key).bind (itemAt items) = items[index]? := h
          simp only [hitem, List.getElem?_map]
          cases items[index]? with
          | none => exact .inr ⟨rfl, rfl⟩
          | some item => exact .inl rfl
      | none =>
          rw [hindex] at h
          obtain ⟨hnone, hlength, hinherited⟩ := h
          rw [hnone]
          refine .inr ⟨?_, rfl⟩
          show (if segment.key = "length" then _ else browser.arrayPrototype segment.key).isNullish = true
          rw [if_neg hlength]
          exact hinherited
  | null | bool | int | float | str => exact .inr ⟨rfl, rfl⟩

/-- What is read along segments is carried. -/
theorem carries_readPathParts {segments : List Segment} {data : Value} {source : JsValue}
    (hreads : ReadsAlike browser python segments data)
    (hsource : source = parse browser data ∨ source.isNullish = true ∧ data = .null)
    (hexact : Exact browser (readSegments python.texts segments data)) :
    Carries (readPathParts browser (segments.map Segment.part) source)
      (readSegments python.texts segments data) := by
  induction segments generalizing data source with
  | nil =>
      rcases hsource with rfl | ⟨hnullish, rfl⟩
      · exact carries_parse hexact
      · exact carries_null hnullish
  | cons segment rest ih =>
      rw [List.map_cons, readPathParts]
      by_cases hnullish : source.isNullish = true
      · have hnull : data = .null := by
          rcases hsource with rfl | ⟨-, hnull⟩
          · exact (isNullish_parse data).mp hnullish
          · exact hnull
        subst hnull
        rw [if_pos hnullish, readSegments_null]
        exact carries_null rfl
      · rw [if_neg hnullish]
        obtain rfl : source = parse browser data := hsource.resolve_right fun h => hnullish h.1
        obtain ⟨hkey, hrest⟩ := hreads.resolve_left fun hnull =>
          hnullish ((isNullish_parse data).mpr hnull)
        have hproperty := property_parse hkey
        simp only [keyOf_part, isArraySegment_part]
        rw [readSegments] at hexact ⊢
        by_cases heach : segment.each = true
        · rw [if_pos heach] at hrest hexact
          rw [if_pos heach, if_pos heach]
          obtain ⟨items, hitems, hall⟩ := hrest
          rw [hitems] at hproperty hexact ⊢
          have hparsed : property browser (parse browser data) segment.key =
              .array (items.map (parse browser)) := by
            rcases hproperty with hparsed | ⟨-, hnull⟩
            · rw [hparsed, parse, parseItems_eq]
            · cases hnull
          -- Item by item the rest of the path is read.
          have hread : ∀ item ∈ items,
              Agrees (readPathParts browser (rest.map Segment.part) (parse browser item))
                (readSegments python.texts rest item) := fun item hitem =>
            (ih (hall item hitem) (.inl rfl)
              (exactItems_iff.mp hexact _ (List.mem_map_of_mem hitem))).agrees
          have hshown : List.Forall₂ Agrees
              ((items.map (parse browser)).map (readPathParts browser (rest.map Segment.part)))
              (items.map (readSegments python.texts rest)) := by
            rw [List.map_map, List.forall₂_map_left_iff, List.forall₂_map_right_iff]
            exact List.forall₂_same.mpr hread
          rw [hparsed]
          refine carries_of_agrees ?_ (fun hnull => by cases hnull) ?_
          · cases rest <;> rfl
          · cases rest with
            | nil =>
                have hid : readPathParts browser (List.map Segment.part []) = id := rfl
                rw [hid, List.map_id] at hshown
                exact .list hshown
            | cons next rest => exact .list hshown
        · rw [if_neg heach] at hrest hexact
          rw [if_neg heach, if_neg heach]
          exact ih hrest hproperty hexact

theorem spell_ne_empty (target : Target) : target.spell ≠ "" := by
  intro h
  have hparts := splitDots_spell target.first target.rest
  have hnil : spellSegments (target.first :: target.rest) = [] :=
    String.ofList_eq_empty_iff.mp h
  rw [hnil] at hparts
  have hpart : [] = target.first.part := (List.cons.inj hparts).1
  exact target.first.nonempty (List.append_eq_nil_iff.mp hpart.symm).1

theorem readPath_spell (source : JsValue) (target : Target) :
    readPath browser source target.spell =
      readPathParts browser (target.segments.map Segment.part) source := by
  rw [readPath, if_neg (spell_ne_empty target), Target.spell, String.toList_ofList]
  exact congrArg (fun parts => readPathParts browser parts source)
    (splitDots_spell target.first target.rest)

theorem Carries.orElse {shown other : JsValue} (h : Carries shown value)
    (hother : value = .null → other.isNullish = true) : Carries (shown.orElse other) value := by
  unfold JsValue.orElse
  by_cases hnullish : shown.isNullish = true
  · obtain rfl : value = .null := by
      unfold Carries at h
      rwa [if_pos hnullish] at h
    rw [if_pos hnullish]
    exact carries_null (hother rfl)
  · rw [if_neg hnullish]
    exact h

theorem carries_readPathWithFallback {scope : Scope} {path : String}
    (h : SourceReads browser python scope path)
    (hexact : Exact browser (Conditions.resolveValue python.texts path scope)) :
    Carries (readPathWithFallback browser (parseFields browser scope.data) path)
      (Conditions.resolveValue python.texts path scope) := by
  unfold readPathWithFallback
  rcases h with ⟨rfl, hfallback⟩ | ⟨target, rfl, hlead, hreads, hfallback⟩
  · rw [readPath, if_pos rfl]
    exact (carries_null rfl).orElse fun _ => hfallback
  · have hread : Conditions.resolveValue python.texts target.spell scope =
        readSegments python.texts target.segments (.dict scope.data) := by
      rcases hlead with hlead | hsame
      · rw [Conditions.resolveValue, if_neg (spell_ne_empty target), hlead "vars." (by simp),
          hlead "nodes." (by simp), hlead "trigger." (by simp), hlead "item." (by simp),
          hlead "data." (by simp)]
        exact getNested_spell target (.dict scope.data)
      · exact hsame
    rw [hread] at hexact hfallback ⊢
    rw [readPath_spell]
    exact (carries_readPathParts hreads (.inl rfl) hexact).orElse hfallback

end Reads

end VisualMapper

end IntegrationPlatform
