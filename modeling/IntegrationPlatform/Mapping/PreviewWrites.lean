import IntegrationPlatform.Mapping.Preview

/-!
# Writes of the preview and of the engine

`Agrees` says that a value in the browser shows what a value of the engine is, up to nulls. Where two objects
agree, an assignment to the same target on both sides keeps them so if the target is fitting
(`agrees_assign`), and the preview may write a null alone if the target is vacant (`agrees_assign_null`).
-/

namespace IntegrationPlatform

open Value

/-- The key of a segment. -/
def Segment.key (segment : Segment) : String :=
  String.ofList segment.name

/-- A segment between the dots of a path. -/
def Segment.part (segment : Segment) : List Char :=
  segment.name ++ (if segment.each then ['[', ']'] else [])

namespace VisualMapper

/-! ## Agreement -/

/-- `JSON.stringify` writes a null for the value, or leaves it out. -/
def JsValue.showsNull : JsValue → Bool
  | .undefined => true
  | .null => true
  | .function _ => true
  | .number (.finite _) => false
  | .number _ => true
  | _ => false

/-- Nothing is shown of the value but nulls. -/
inductive Void : JsValue → Prop where
  | leaf {shown} : shown.showsNull = true → Void shown
  | object {fields} : (∀ name child, Assoc.find fields name = some child → Void child) →
      Void (.object fields)

/-- What `JSON.stringify` shows of the first value is the second one, up to nulls. -/
inductive Agrees : JsValue → Value → Prop where
  | null {shown} : shown.showsNull = true → Agrees shown .null
  | bool (flag) : Agrees (.bool flag) (.bool flag)
  | int (number : Int) : Agrees (.number (.finite number)) (.int number)
  | float (number) : Agrees (.number (.finite number)) (.float number)
  | str (text) : Agrees (.str text) (.str text)
  | list {shown items} : List.Forall₂ Agrees shown items → Agrees (.array shown) (.list items)
  | dict {shown fields} : (∀ name, Assoc.find shown name = none → Assoc.find fields name = none) →
      (∀ name child value, Assoc.find shown name = some child → Assoc.find fields name = some value →
        Agrees child value) →
      (∀ name child, Assoc.find shown name = some child → Assoc.find fields name = none → Void child) →
      Agrees (.object shown) (.dict fields)

/-- What two objects have under a key agrees. -/
def Matching : Option JsValue → Option Value → Prop
  | none, none => True
  | none, some _ => False
  | some child, none => Void child
  | some child, some value => Agrees child value

section Agreement

variable {shown : List (String × JsValue)} {fields : Dict} {name : String} {part : JsValue}
  {value : Value}

theorem agrees_object_iff : Agrees (.object shown) (.dict fields) ↔
    ∀ name, Matching (Assoc.find shown name) (Assoc.find fields name) := by
  constructor
  · intro h name
    cases h with
    | dict hkeys hagree hvoid =>
        cases hchild : Assoc.find shown name with
        | none =>
            rw [hkeys name hchild]
            trivial
        | some child =>
            cases hvalue : Assoc.find fields name with
            | none => exact hvoid name child hchild hvalue
            | some value => exact hagree name child value hchild hvalue
  · intro h
    refine .dict (fun name hchild => ?_) (fun name child value hchild hvalue => ?_)
      fun name child hchild hvalue => ?_
    · have hname := h name
      rw [hchild] at hname
      cases hvalue : Assoc.find fields name with
      | none => rfl
      | some value =>
          rw [hvalue] at hname
          exact hname.elim
    · have hname := h name
      rwa [hchild, hvalue] at hname
    · have hname := h name
      rwa [hchild, hvalue] at hname

theorem agrees_empty_iff : Agrees (.object shown) (.dict []) ↔ Void (.object shown) := by
  rw [agrees_object_iff]
  constructor
  · intro h
    refine .object fun name child hchild => ?_
    have hname := h name
    rwa [hchild] at hname
  · intro h name
    cases h with
    | leaf hnull => cases hnull
    | object hvoid =>
        cases hchild : Assoc.find shown name with
        | none => trivial
        | some child => exact hvoid name child hchild

theorem Agrees.put (h : Agrees (.object shown) (.dict fields)) (hpart : Agrees part value) :
    Agrees (.object (Assoc.put shown name part)) (.dict (Assoc.put fields name value)) := by
  rw [agrees_object_iff] at h ⊢
  intro key
  rw [Assoc.find_put, Assoc.find_put]
  by_cases hkey : name = key
  · rw [if_pos hkey, if_pos hkey]
    exact hpart
  · rw [if_neg hkey, if_neg hkey]
    exact h key

theorem Agrees.put_shown (h : Agrees (.object shown) (.dict fields))
    (hpart : Matching (some part) (Assoc.find fields name)) :
    Agrees (.object (Assoc.put shown name part)) (.dict fields) := by
  rw [agrees_object_iff] at h ⊢
  intro key
  rw [Assoc.find_put]
  by_cases hkey : name = key
  · rw [if_pos hkey, ← hkey]
    exact hpart
  · rw [if_neg hkey]
    exact h key

end Agreement

/-! ## Segments -/

section Segments

variable (segment : Segment)

theorem isArraySegment_part : isArraySegment segment.part = segment.each := by
  unfold isArraySegment Segment.part
  by_cases heach : segment.each = true
  · rw [if_pos heach, heach, List.isSuffixOf_iff_suffix]
    exact List.suffix_append _ _
  · rw [if_neg heach, List.append_nil, eq_false_of_ne_true heach]
    refine eq_false_of_ne_true fun hsuffix => segment.bracketless ?_
    exact (List.isSuffixOf_iff_suffix.mp hsuffix).isInfix

theorem keyOf_part : keyOf segment.part = segment.key := by
  unfold keyOf
  rw [isArraySegment_part]
  unfold Segment.part Segment.key
  by_cases heach : segment.each = true
  · simp [heach]
  · simp [heach]

theorem dotless_part : '.' ∉ segment.part := by
  unfold Segment.part
  by_cases heach : segment.each = true
  · simp [heach, segment.dotless]
  · simp [heach, segment.dotless]

theorem splitDots_spell (rest : List Segment) :
    splitDots (spellSegments (segment :: rest)) = (segment :: rest).map Segment.part := by
  induction rest generalizing segment with
  | nil => exact splitDots_name (dotless_part segment)
  | cons next rest ih =>
      rw [spellSegments]
      · show splitDots (segment.part ++ '.' :: spellSegments (next :: rest)) = _
        rw [splitDots_append (dotless_part segment), ih]
        rfl
      · exact List.cons_ne_nil _ _

end Segments

/-! ## Targets -/

/-- Nothing but a null is at the path of segments, and the preview can write a null there: what is on the way
are objects, or arrays that it does not enter. -/
def Vacant : List Segment → Dict → Prop
  | [], _ => True
  | segment :: rest, fields =>
      segment.key ≠ "__proto__" ∧
        match Assoc.find fields segment.key with
        | none => rest = [] ∨ segment.each = false ∧ Vacant rest []
        | some (.dict inner) => rest ≠ [] ∧ segment.each = false ∧ Vacant rest inner
        | some (.list items) =>
            rest ≠ [] ∧ (segment.each = true → ∀ inner, .dict inner ∈ items → Vacant rest inner)
        | some .null => rest = []
        | some _ => False

/-- A value fits at the path of segments: nothing is left there of what there is already, and what is on the
way are objects and lists with an object for each of the values. -/
def Fitting : Bool → List Segment → Value → Dict → Prop
  | _, [], _, _ => True
  | concat, segment :: rest, value, fields =>
      segment.key ≠ "__proto__" ∧
        if rest = [] then
          if segment.each then
            ∃ values, value = .list values ∧
              (Value.itemsOf (Assoc.find fields segment.key)).length ≤ values.length
          else
            concat = false ∨ Assoc.find fields segment.key = none ∨
              Assoc.find fields segment.key = some (.list []) ∧ ∃ values, value = .list values
        else if segment.each then
          ∃ values, value = .list values ∧
            (Value.itemsOf (Assoc.find fields segment.key) = [] ∨
              values.length ≤ (Value.itemsOf (Assoc.find fields segment.key)).length) ∧
            (∀ (index : Nat) (element : Value), values[index]? = some element →
              ∃ inner, ((Value.itemsOf (Assoc.find fields segment.key))[index]?).getD (.dict []) =
                .dict inner ∧ Fitting false rest element inner) ∧
            ∀ (index : Nat) (inner : Dict), values.length ≤ index →
              (Value.itemsOf (Assoc.find fields segment.key))[index]? = some (.dict inner) →
                Vacant rest inner
        else
          match Assoc.find fields segment.key with
          | none => Fitting concat rest value []
          | some (.dict inner) => Fitting concat rest value inner
          | some _ => False

/-! ## Assignments of the preview -/

section Preview

variable {browser : Browser} {shown : List (String × JsValue)} {fields : Dict} {key : String}
  {segment : Segment} {rest : List Segment} {value : JsValue}

theorem property_of_find_eq_none (hkey : key ≠ "__proto__") (hnone : Assoc.find shown key = none) :
    (property browser (.object shown) key).isObject = false := by
  rw [property, hnone]
  exact browser.inherits key hkey

variable {part : JsValue}

theorem property_of_find (hpart : Assoc.find shown key = some part) :
    property browser (.object shown) key = part := by
  rw [property, hpart]
  rfl

theorem itemsOf_of_not_isObject (h : part.isObject = false) : part.itemsOf = [] := by
  cases part <;> first
    | rfl
    | cases h

theorem isObject_of_showsNull (h : part.showsNull = true) : part.isObject = false := by
  cases part <;> first
    | rfl
    | cases h

theorem Void.itemsOf (h : Void part) : part.itemsOf = [] := by
  cases h with
  | leaf hnull => exact itemsOf_of_not_isObject (isObject_of_showsNull hnull)
  | object => rfl

theorem Agrees.array {items : List Value} (h : Agrees part (.list items)) :
    ∃ shown, part = .array shown ∧ List.Forall₂ Agrees shown items := by
  cases h with
  | list hitems => exact ⟨_, rfl, hitems⟩

theorem Agrees.object (h : Agrees part (.dict fields)) :
    ∃ shown, part = .object shown := by
  cases h with
  | dict => exact ⟨_, rfl⟩

theorem Agrees.items {value : Value} (h : Agrees part value) :
    List.Forall₂ Agrees part.itemsOf (Value.itemsOf (some value)) := by
  cases h with
  | list hitems => exact hitems
  | null hnull =>
      rw [itemsOf_of_not_isObject (isObject_of_showsNull hnull)]
      exact .nil
  | bool | int | float | str | dict => exact .nil

variable (browser) in
theorem Agrees.items_property (h : Agrees (.object shown) (.dict fields)) (hkey : key ≠ "__proto__") :
    List.Forall₂ Agrees (property browser (.object shown) key).itemsOf
      (Value.itemsOf (Assoc.find fields key)) := by
  have hmatch := agrees_object_iff.mp h key
  cases hpart : Assoc.find shown key with
  | none =>
      rw [hpart] at hmatch
      rw [itemsOf_of_not_isObject (property_of_find_eq_none hkey hpart)]
      cases hvalue : Assoc.find fields key with
      | none => exact .nil
      | some value =>
          rw [hvalue] at hmatch
          exact hmatch.elim
  | some part =>
      rw [hpart] at hmatch
      rw [property_of_find hpart]
      cases hvalue : Assoc.find fields key with
      | none =>
          rw [hvalue] at hmatch
          rw [Void.itemsOf hmatch]
          exact .nil
      | some value =>
          rw [hvalue] at hmatch
          exact Agrees.items hmatch

variable (browser) in
theorem Agrees.entered (h : Agrees (.object shown) (.dict fields)) (hkey : key ≠ "__proto__") {inner : Dict}
    (hinner : Assoc.find fields key = none ∧ inner = [] ∨ Assoc.find fields key = some (.dict inner)) :
    ∃ next, (if (property browser (.object shown) key).isObject then
        property browser (.object shown) key else .object []) = .object next ∧
      Agrees (.object next) (.dict inner) := by
  have hmatch := agrees_object_iff.mp h key
  have hempty : Agrees (.object []) (.dict []) := agrees_empty_iff.mpr (.object nofun)
  rcases hinner with ⟨hnone, rfl⟩ | hsome
  · rw [hnone] at hmatch
    cases hpart : Assoc.find shown key with
    | none =>
        rw [if_neg (by rw [property_of_find_eq_none hkey hpart]; exact Bool.false_ne_true)]
        exact ⟨[], rfl, hempty⟩
    | some part =>
        rw [hpart] at hmatch
        rw [property_of_find hpart]
        cases hmatch with
        | leaf hnull =>
            rw [if_neg (by rw [isObject_of_showsNull hnull]; exact Bool.false_ne_true)]
            exact ⟨[], rfl, hempty⟩
        | @object next hvoid => exact ⟨next, rfl, agrees_empty_iff.mpr (.object hvoid)⟩
  · rw [hsome] at hmatch
    cases hpart : Assoc.find shown key with
    | none =>
        rw [hpart] at hmatch
        exact hmatch.elim
    | some part =>
        rw [hpart] at hmatch
        obtain ⟨next, rfl⟩ := Agrees.object hmatch
        rw [property_of_find hpart]
        exact ⟨next, rfl, hmatch⟩

theorem assignPathParts_last (hkey : segment.key ≠ "__proto__") :
    assignPathParts browser [segment.part] value (.object shown) =
      .object (Assoc.put shown segment.key value) := by
  rw [assignPathParts, keyOf_part, setProperty, if_neg hkey]
  rfl

theorem assignPathParts_plain (hkey : segment.key ≠ "__proto__") (hplain : segment.each = false)
    (hrest : rest ≠ []) :
    assignPathParts browser ((segment :: rest).map Segment.part) value (.object shown) =
      .object (Assoc.put shown segment.key (assignPathParts browser (rest.map Segment.part) value
        (if (property browser (.object shown) segment.key).isObject then
          property browser (.object shown) segment.key else .object []))) := by
  have hempty : ¬ (rest.map Segment.part).isEmpty = true := by simpa using hrest
  rw [List.map_cons, assignPathParts, if_neg hempty]
  simp only [keyOf_part, isArraySegment_part, hplain, Bool.false_eq_true, if_false, setProperty,
    if_neg hkey]

/-- The items that an assignment behind brackets starts from: those that are there, or an empty object for
each of the values. -/
def nextItems (value : JsValue) (items : List JsValue) : List JsValue :=
  if items.isEmpty then value.itemsOf.map fun _ => .object [] else items

/-- The items that it leaves. -/
def assignedItems (browser : Browser) (rest : List Segment) (value : JsValue) (items : List JsValue) :
    List JsValue :=
  (nextItems value items).mapIdx fun index item =>
    if item.isObject then
      assignPathParts browser (rest.map Segment.part) ((value.itemsOf[index]?).getD .undefined) item
    else item

theorem assignPathParts_each (hkey : segment.key ≠ "__proto__") (heach : segment.each = true)
    (hrest : rest ≠ []) :
    assignPathParts browser ((segment :: rest).map Segment.part) value (.object shown) =
      .object (Assoc.put shown segment.key (.array (assignedItems browser rest value
        (property browser (.object shown) segment.key).itemsOf))) := by
  have hempty : ¬ (rest.map Segment.part).isEmpty = true := by simpa using hrest
  rw [List.map_cons, assignPathParts, if_neg hempty]
  simp only [keyOf_part, isArraySegment_part, heach, if_true, setProperty, if_neg hkey]
  rfl

theorem assignPathParts_array (parts : List (List Char)) (value : JsValue) (items : List JsValue) :
    assignPathParts browser parts value (.array items) = .array items := by
  cases parts <;> rfl

theorem forall₂_mapIdx {shown : List JsValue} {items : List Value} {change : Nat → JsValue → JsValue}
    (h : List.Forall₂ Agrees shown items)
    (hchange : ∀ (index : Nat) (item : JsValue) (kept : Value), items[index]? = some kept →
      Agrees item kept → Agrees (change index item) kept) :
    List.Forall₂ Agrees (shown.mapIdx change) items := by
  rw [List.forall₂_iff_get] at h ⊢
  obtain ⟨hlength, hitems⟩ := h
  refine ⟨List.length_mapIdx.trans hlength, fun index hshown hkept => ?_⟩
  rw [List.length_mapIdx] at hshown
  simp only [List.get_eq_getElem, List.getElem_mapIdx]
  exact hchange index _ _ (List.getElem?_eq_getElem hkept) (hitems index hshown hkept)

theorem agrees_assign_item {parts : List (List Char)} {item : JsValue} {kept : Value} (h : Agrees item kept)
    (hassign : ∀ shown inner, kept = .dict inner → Agrees (.object shown) (.dict inner) →
      Agrees (assignPathParts browser parts value (.object shown)) (.dict inner)) :
    Agrees (if item.isObject then assignPathParts browser parts value item else item) kept := by
  by_cases hobject : item.isObject = true
  · rw [if_pos hobject]
    cases item with
    | object shown =>
        cases h with
        | null hnull => cases hnull
        | dict hkeys hagree hvoid => exact hassign _ _ rfl (.dict hkeys hagree hvoid)
    | array items =>
        rw [assignPathParts_array]
        exact h
    | undefined | null | bool | number | str | function => cases hobject
  · rw [if_neg hobject]
    exact h

/-- A null that the preview writes alone to a vacant path. -/
theorem agrees_assign_null {segments : List Segment} (hne : segments ≠ [])
    (hnull : value.isNullish = true) (hvacant : Vacant segments fields)
    (h : Agrees (.object shown) (.dict fields)) :
    Agrees (assignPathParts browser (segments.map Segment.part) value (.object shown)) (.dict fields) := by
  induction segments generalizing value shown fields with
  | nil => exact absurd rfl hne
  | cons segment rest ih =>
      obtain ⟨hkey, hthere⟩ := hvacant
      have hshows : value.showsNull = true := by
        cases value <;> first
          | rfl
          | cases hnull
      have hvoid : Void value := .leaf hshows
      have hitems : value.itemsOf = [] := hvoid.itemsOf
      by_cases hrest : rest = []
      · subst hrest
        rw [List.map_singleton, assignPathParts_last hkey]
        refine h.put_shown ?_
        cases hfind : Assoc.find fields segment.key with
        | none => exact hvoid
        | some there =>
            rw [hfind] at hthere
            cases there with
            | list => exact absurd rfl hthere.1
            | dict => exact absurd rfl hthere.1
            | null => exact .null hshows
            | bool | int | float | str => exact hthere.elim
      -- An object on the way, or an empty one, is entered on one side only.
      have hentered : ∀ inner, (Assoc.find fields segment.key = none ∧ inner = [] ∨
          Assoc.find fields segment.key = some (.dict inner)) → segment.each = false → Vacant rest inner →
          ∃ next, assignPathParts browser ((segment :: rest).map Segment.part) value (.object shown) =
              .object (Assoc.put shown segment.key (.object next)) ∧
            Agrees (.object next) (.dict inner) := by
        intro inner hinner hplain hvacant
        obtain ⟨next, hnext, hagree⟩ := h.entered browser hkey hinner
        have hassigned := ih hrest hnull hvacant hagree
        obtain ⟨next', hnext'⟩ := hassigned.object
        rw [assignPathParts_plain hkey hplain hrest, hnext, hnext']
        rw [hnext'] at hassigned
        exact ⟨next', rfl, hassigned⟩
      cases hfind : Assoc.find fields segment.key with
      | none =>
          rw [hfind] at hthere
          obtain ⟨hplain, hvacant⟩ := hthere.resolve_left hrest
          obtain ⟨next, hnext, hagree⟩ := hentered [] (.inl ⟨hfind, rfl⟩) hplain hvacant
          rw [hnext]
          refine h.put_shown ?_
          rw [hfind]
          exact agrees_empty_iff.mp hagree
      | some there =>
          rw [hfind] at hthere
          cases there with
          | dict inner =>
              obtain ⟨-, hplain, hvacant⟩ := hthere
              obtain ⟨next, hnext, hagree⟩ := hentered inner (.inr hfind) hplain hvacant
              rw [hnext]
              refine h.put_shown ?_
              rw [hfind]
              exact hagree
          | list items =>
              have hagree := h.items_property browser hkey
              rw [hfind] at hagree
              by_cases heach : segment.each = true
              · rw [assignPathParts_each hkey heach hrest]
                refine h.put_shown ?_
                rw [hfind]
                refine .list ?_
                have hnext : nextItems value (property browser (.object shown) segment.key).itemsOf =
                    (property browser (.object shown) segment.key).itemsOf := by
                  rw [nextItems, hitems]
                  split
                  · next hempty => exact (List.isEmpty_iff.mp hempty).symm
                  · rfl
                rw [assignedItems, hnext, hitems]
                refine forall₂_mapIdx hagree fun index item kept hkept hitem => ?_
                refine agrees_assign_item hitem fun shown inner hinner hshown => ?_
                exact ih hrest rfl (hthere.2 heach inner (hinner ▸ List.mem_of_getElem? hkept)) hshown
              · -- The preview does not go into the array.
                have hmatch := agrees_object_iff.mp h segment.key
                rw [hfind] at hmatch
                cases hpart : Assoc.find shown segment.key with
                | none =>
                    rw [hpart] at hmatch
                    exact hmatch.elim
                | some part =>
                    rw [hpart] at hmatch
                    obtain ⟨items', rfl, -⟩ := Agrees.array hmatch
                    have hobject : (JsValue.array items').isObject = true := rfl
                    rw [assignPathParts_plain hkey (eq_false_of_ne_true heach) hrest,
                      property_of_find hpart, if_pos hobject, assignPathParts_array]
                    refine h.put_shown ?_
                    rw [hfind]
                    exact hmatch
          | null => exact absurd hthere hrest
          | bool | int | float | str => exact hthere.elim

end Preview

/-! ## Assignments on both sides -/

section Both

variable {browser : Browser} {texts : TextFunctions} {shown : List (String × JsValue)} {fields : Dict}

theorem writeItems_whole {items values : List Value} (h : items.length ≤ values.length) :
    writeItems (fun item element => assign texts false [] element (objectOf item)) items values =
      .ok values := by
  induction values generalizing items with
  | nil =>
      obtain rfl := List.eq_nil_of_length_eq_zero (Nat.le_zero.mp h)
      rfl
  | cons value values ih =>
      cases items with
      | nil =>
          show (writeItems _ [] values).map _ = _
          rw [ih (Nat.zero_le _)]
          rfl
      | cons item items =>
          show (writeItems _ items values).map _ = _
          rw [ih (Nat.le_of_succ_le_succ h)]
          rfl

variable {value : JsValue}

theorem Agrees.item {values : List Value} (h : Agrees value (.list values)) {index : Nat}
    {element : Value} (helement : values[index]? = some element) :
    Agrees ((value.itemsOf[index]?).getD .undefined) element := by
  obtain ⟨items, rfl, hitems⟩ := h.array
  obtain ⟨hlength, hagree⟩ := List.forall₂_iff_get.mp hitems
  obtain ⟨hindex, rfl⟩ := List.getElem?_eq_some_iff.mp helement
  have hitem : (JsValue.array items).itemsOf[index]? = some items[index] :=
    List.getElem?_eq_getElem (hlength ▸ hindex)
  rw [hitem]
  exact hagree index _ hindex

theorem Agrees.length_items {values : List Value} (h : Agrees value (.list values)) :
    value.itemsOf.length = values.length := by
  obtain ⟨items, rfl, hitems⟩ := h.array
  exact hitems.length_eq

variable {there : List JsValue}

theorem length_nextItems {values items : List Value}
    (hvalue : Agrees value (.list values)) (hitems : List.Forall₂ Agrees there items)
    (hlength : items = [] ∨ values.length ≤ items.length) :
    (nextItems value there).length = max items.length values.length := by
  have hthere := hitems.length_eq
  have hvalues := hvalue.length_items
  unfold nextItems
  by_cases hempty : there = []
  · rw [if_pos (List.isEmpty_iff.mpr hempty), List.length_map]
    rw [hempty, List.length_nil] at hthere
    omega
  · rw [if_neg (fun h => hempty (List.isEmpty_iff.mp h))]
    rcases hlength with hnil | hle
    · rw [hnil] at hitems
      cases hitems
      exact absurd rfl hempty
    · omega

theorem agrees_nextItem {value start : JsValue} {items : List Value} {kept : Value}
    {index : Nat} (hitems : List.Forall₂ Agrees there items) (hkept : items[index]? = some kept)
    (hstart : (nextItems value there)[index]? = some start) : Agrees start kept := by
  obtain ⟨hlength, hagree⟩ := List.forall₂_iff_get.mp hitems
  obtain ⟨hindex, rfl⟩ := List.getElem?_eq_some_iff.mp hkept
  have hthere : there ≠ [] := by
    rintro rfl
    rw [List.length_nil] at hlength
    omega
  rw [nextItems, if_neg (fun h => hthere (List.isEmpty_iff.mp h)),
    List.getElem?_eq_getElem (hlength ▸ hindex)] at hstart
  obtain rfl := Option.some.inj hstart
  exact hagree index _ hindex

theorem exists_nextItem {value start : JsValue} {items : List Value} {inner : Dict}
    {index : Nat} (hitems : List.Forall₂ Agrees there items)
    (hlength : items = [] ∨ index < items.length)
    (hinner : (items[index]?).getD (.dict []) = .dict inner)
    (hstart : (nextItems value there)[index]? = some start) :
    ∃ next, start = .object next ∧ Agrees (.object next) (.dict inner) := by
  rcases hlength with hnil | hlt
  · subst hnil
    cases hitems
    obtain rfl : [] = inner := Value.dict.inj hinner
    rw [nextItems, if_pos List.isEmpty_nil, List.getElem?_map] at hstart
    cases hitem : value.itemsOf[index]? with
    | none =>
        rw [hitem] at hstart
        cases hstart
    | some item =>
        rw [hitem] at hstart
        obtain rfl := Option.some.inj hstart
        exact ⟨[], rfl, agrees_empty_iff.mpr (.object nofun)⟩
  · have hkept := List.getElem?_eq_getElem hlt
    rw [hkept] at hinner
    have hagree := agrees_nextItem hitems (hkept.trans (congrArg some hinner)) hstart
    obtain ⟨next, rfl⟩ := hagree.object
    exact ⟨next, rfl, hagree⟩

variable {segment : Segment}

theorem assign_last {concat : Bool} {written : Value}
    (hfits : Fitting concat [segment] written fields) :
    assign texts concat [segment] written (.dict fields) =
      .ok (.dict (Assoc.put fields segment.key written)) := by
  obtain ⟨-, hthere⟩ := hfits
  rw [if_pos rfl] at hthere
  by_cases heach : segment.each = true
  · rw [if_pos heach] at hthere
    obtain ⟨values, rfl, hlength⟩ := hthere
    have hname : ¬ segment.name.isEmpty = true := by
      rw [List.isEmpty_iff]
      exact segment.nonempty
    rw [assign, if_pos heach, setItems, if_neg hname]
    show (writeItems _ (Value.itemsOf (Assoc.find fields segment.key)) values).map _ = _
    rw [writeItems_whole hlength]
    rfl
  · rw [if_neg heach] at hthere
    rw [assign, if_neg heach, if_pos List.isEmpty_nil, setKey, ← Segment.key]
    rcases hthere with rfl | hnone | ⟨hnil, values, rfl⟩
    · cases Assoc.find fields segment.key <;> rfl
    · rw [hnone]
    · rw [hnil]
      cases concat <;> rfl

/-- Where two objects agree, an assignment of a value that fits keeps them so. -/
def AssignsAlike (browser : Browser) (texts : TextFunctions) (concat : Bool) (segments : List Segment) :
    Prop :=
  ∀ ⦃shown : List (String × JsValue)⦄ ⦃fields : Dict⦄ ⦃value : JsValue⦄ ⦃written : Value⦄,
    Fitting concat segments written fields → Agrees (.object shown) (.dict fields) → Agrees value written →
    ∃ fields', assign texts concat segments written (.dict fields) = .ok (.dict fields') ∧
      Agrees (assignPathParts browser (segments.map Segment.part) value (.object shown)) (.dict fields')

variable {rest : List Segment}

/-- The items that both sides leave behind brackets agree. -/
theorem agrees_writeItems (hrest : rest ≠ [])
    (hassign : AssignsAlike browser texts false rest) {values items : List Value}
    (hvalue : Agrees value (.list values)) (hitems : List.Forall₂ Agrees there items)
    (hlength : items = [] ∨ values.length ≤ items.length)
    (hwrite : ∀ (index : Nat) (element : Value), values[index]? = some element →
      ∃ inner, (items[index]?).getD (.dict []) = .dict inner ∧ Fitting false rest element inner)
    (hkeep : ∀ (index : Nat) (inner : Dict), values.length ≤ index → items[index]? = some (.dict inner) →
      Vacant rest inner) :
    ∃ results, writeItems (fun item element => assign texts false rest element (objectOf item)) items
        values = .ok results ∧
      List.Forall₂ Agrees (assignedItems browser rest value there) results := by
  have hcount := length_nextItems hvalue hitems hlength
  -- The items of the engine after the assignment, each with the one of the preview.
  obtain ⟨results, hresults, hlength', hgood⟩ := @exists_written
    (fun item element => assign texts false rest element (objectOf item)) items values
    (fun index result => ∀ item, (assignedItems browser rest value there)[index]? = some item →
      Agrees item result)
    (fun index element helement => by
      obtain ⟨inner, hinner, hfits⟩ := hwrite index element helement
      obtain ⟨hindex, -⟩ := List.getElem?_eq_some_iff.mp helement
      have hstart := List.getElem?_eq_getElem
        (show index < (nextItems value there).length by rw [hcount]; omega)
      obtain ⟨next, hnext, hagree⟩ :=
        exists_nextItem hitems (hlength.imp_right fun hle => by omega) hinner hstart
      obtain ⟨inner', hassigned, hagree'⟩ := hassign hfits hagree (hvalue.item helement)
      refine ⟨.dict inner', ?_, fun item hitem => ?_⟩
      · rw [hinner]
        exact hassigned
      · rw [assignedItems, List.getElem?_mapIdx, hstart, hnext] at hitem
        obtain rfl := Option.some.inj hitem
        exact hagree')
    (fun index kept hindex hkept item hitem => by
      rw [assignedItems, List.getElem?_mapIdx] at hitem
      obtain ⟨start, hstart, rfl⟩ := Option.map_eq_some_iff.mp hitem
      have hnone : value.itemsOf[index]? = none := by
        rw [List.getElem?_eq_none_iff, hvalue.length_items]
        exact hindex
      rw [hnone]
      refine agrees_assign_item (agrees_nextItem hitems hkept hstart) fun shown inner heq h => ?_
      exact agrees_assign_null hrest rfl (hkeep index inner hindex (heq ▸ hkept)) h)
  refine ⟨results, hresults, List.forall₂_iff_get.mpr ⟨?_, fun index hitem hresult => ?_⟩⟩
  · rw [assignedItems, List.length_mapIdx, hlength', hcount]
  · exact hgood index _ (List.getElem?_eq_getElem hresult) _ (List.getElem?_eq_getElem hitem)

theorem assignsAlike_each {concat : Bool}
    (heach : segment.each = true) (hrest : rest ≠ []) (hassign : AssignsAlike browser texts false rest) :
    AssignsAlike browser texts concat (segment :: rest) := by
  intro shown fields value written hfits h hvalue
  obtain ⟨hkey, hthere⟩ := hfits
  rw [if_neg hrest, if_pos heach] at hthere
  obtain ⟨values, rfl, hlength, hwrite, hkeep⟩ := hthere
  obtain ⟨results, hresults, hagree⟩ :=
    agrees_writeItems hrest hassign hvalue (h.items_property browser hkey) hlength hwrite hkeep
  refine ⟨Assoc.put fields segment.key (.list results), ?_, ?_⟩
  · have hname : ¬ segment.name.isEmpty = true := by
      rw [List.isEmpty_iff]
      exact segment.nonempty
    rw [assign, if_pos heach, setItems, if_neg hname]
    show (writeItems _ (Value.itemsOf (Assoc.find fields segment.key)) values).map _ = _
    rw [hresults]
    rfl
  · rw [assignPathParts_each hkey heach hrest]
    exact h.put (.list hagree)

theorem assignsAlike_plain {concat : Bool}
    (hplain : segment.each = false) (hrest : rest ≠ []) (hassign : AssignsAlike browser texts concat rest) :
    AssignsAlike browser texts concat (segment :: rest) := by
  intro shown fields value written hfits h hvalue
  obtain ⟨hkey, hthere⟩ := hfits
  have heach : ¬ segment.each = true := by
    rw [hplain]
    exact Bool.false_ne_true
  have hempty : ¬ rest.isEmpty = true := by
    rw [List.isEmpty_iff]
    exact hrest
  rw [if_neg hrest, if_neg heach] at hthere
  have hentered : ∃ inner, (Assoc.find fields segment.key = none ∧ inner = [] ∨
      Assoc.find fields segment.key = some (.dict inner)) ∧ Fitting concat rest written inner := by
    cases hfind : Assoc.find fields segment.key with
    | none =>
        rw [hfind] at hthere
        exact ⟨[], .inl ⟨rfl, rfl⟩, hthere⟩
    | some there =>
        rw [hfind] at hthere
        cases there with
        | dict inner => exact ⟨inner, .inr rfl, hthere⟩
        | null | bool | int | float | str | list => exact hthere.elim
  obtain ⟨inner, hinner, hfits⟩ := hentered
  obtain ⟨next, hnext, hagree⟩ := h.entered browser hkey hinner
  obtain ⟨inner', hassigned, hagree'⟩ := hassign hfits hagree hvalue
  have hchild : (Assoc.find fields (String.ofList segment.name)).getD (.dict []) = .dict inner := by
    rcases hinner with ⟨hnone, rfl⟩ | hsome
    · rw [show Assoc.find fields (String.ofList segment.name) = none from hnone]
      rfl
    · rw [show Assoc.find fields (String.ofList segment.name) = _ from hsome]
      rfl
  refine ⟨Assoc.put fields segment.key (.dict inner'), ?_, ?_⟩
  · rw [assign, if_neg heach, if_neg hempty, enter, hchild, hassigned]
    rfl
  · rw [assignPathParts_plain hkey hplain hrest, hnext]
    exact h.put hagree'

variable (browser texts) in
theorem agrees_assign (concat : Bool) {segments : List Segment} (hne : segments ≠ []) :
    AssignsAlike browser texts concat segments := by
  induction segments generalizing concat with
  | nil => exact absurd rfl hne
  | cons segment rest ih =>
      by_cases hrest : rest = []
      · subst hrest
        intro shown fields value written hfits h hvalue
        refine ⟨_, assign_last hfits, ?_⟩
        rw [List.map_singleton, assignPathParts_last hfits.1]
        exact h.put hvalue
      · by_cases heach : segment.each = true
        · exact assignsAlike_each heach hrest (ih false hrest)
        · exact assignsAlike_plain (eq_false_of_ne_true heach) hrest (ih concat hrest)

end Both

end VisualMapper

end IntegrationPlatform
