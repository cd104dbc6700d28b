import IntegrationPlatform.Json.Assignment
import Mathlib.Data.Set.Insert

/-!
# Values put together from their parts

Paths into a value pass through fields of objects and through all items of lists. `Shows` says that a value
consists of what lies at some paths of another one, and of nothing else; there is only one such value, up
to the order of keys (`Shows.alike`). An assignment to one more path extends what is shown
(`assign_shows`).
-/

namespace IntegrationPlatform

/-- A step of a path: to the value under a key, or to all items of a list. -/
inductive TargetStep where
  | key (name : String)
  | items
deriving DecidableEq

namespace Value

/-! ## Paths -/

/-- What lies at a path. -/
def read : List TargetStep → Value → Value
  | [], value => value
  | .key name :: rest, .dict fields => read rest ((Assoc.find fields name).getD .null)
  | .items :: rest, .list items => .list (items.map (read rest))
  | _, _ => .null

/-- Every step of the path finds its key, or a list. -/
def Fits : List TargetStep → Value → Prop
  | [], _ => True
  | .key name :: rest, value =>
      ∃ fields child, value = .dict fields ∧ Assoc.find fields name = some child ∧ Fits rest child
  | .items :: rest, value => ∃ items, value = .list items ∧ ∀ item ∈ items, Fits rest item

/-- The paths part at the names of two fields. -/
def Apart : List TargetStep → List TargetStep → Prop
  | .key name :: rest, .key name' :: rest' => name = name' → Apart rest rest'
  | .items :: rest, .items :: rest' => Apart rest rest'
  | _, _ => False

/-- The rests of the paths that begin with a step. -/
def after (paths : Set (List TargetStep)) (step : TargetStep) : Set (List TargetStep) :=
  {rest | step :: rest ∈ paths}

/-- Two values are the same, except for the order of keys. -/
inductive Alike : Value → Value → Prop where
  | same (value) : Alike value value
  | object {fields fields'} : (∀ name, Assoc.has fields name = Assoc.has fields' name) →
      (∀ name child child', Assoc.find fields name = some child → Assoc.find fields' name = some child' →
        Alike child child') → Alike (.dict fields) (.dict fields')
  | array {items items'} : items.length = items'.length →
      (∀ (index : Nat) (child child' : Value), items[index]? = some child → items'[index]? = some child' →
        Alike child child') → Alike (.list items) (.list items')

/-- The second value consists of what lies at the paths of the first one. -/
inductive Shows : Set (List TargetStep) → Value → Value → Prop where
  | whole {paths value} : [] ∈ paths → Shows paths value value
  | object {paths fields shown} : [] ∉ paths →
      (∀ name, Assoc.has shown name = true ↔ ∃ rest, .key name :: rest ∈ paths) →
      (∀ name, Assoc.has shown name = true → Assoc.has fields name = true) →
      (∀ name child part, Assoc.find fields name = some child → Assoc.find shown name = some part →
        Shows (after paths (.key name)) child part) → Shows paths (.dict fields) (.dict shown)
  | array {paths items shown} : [] ∉ paths → items.length = shown.length →
      (∀ (index : Nat) (child part : Value), items[index]? = some child → shown[index]? = some part →
        Shows (after paths .items) child part) → Shows paths (.list items) (.list shown)

section Paths

variable {paths : Set (List TargetStep)} {step step' : TargetStep} {path rest : List TargetStep}
  {value shown : Value}

theorem after_insert : after (insert (step :: rest) paths) step = insert rest (after paths step) := by
  ext path
  simp [after]

theorem after_insert_of_ne (h : step' ≠ step) :
    after (insert (step :: rest) paths) step' = after paths step' := by
  ext path
  simp [after, h]

theorem Apart.symm (h : Apart path rest) : Apart rest path := by
  induction path generalizing rest with
  | nil => cases h
  | cons step path ih =>
      cases rest with
      | nil => cases step <;> cases h
      | cons step' rest =>
          cases step <;> cases step' <;> first
            | exact fun hname => ih (h hname.symm)
            | exact ih h
            | cases h

theorem not_apart_nil (path : List TargetStep) : ¬ Apart path [] := by
  intro h
  cases path with
  | nil => cases h
  | cons step path => cases step <;> cases h

theorem shows_empty (fields : Dict) : Shows ∅ (.dict fields) (.dict []) := by
  refine .object (Set.notMem_empty _) (fun name => ?_) (fun name h => ?_) fun name child part _ h => ?_
  · exact iff_of_false Bool.false_ne_true fun ⟨rest, h⟩ => Set.notMem_empty _ h
  · exact absurd h Bool.false_ne_true
  · cases h

theorem Shows.alike {shown' : Value} (h : Shows paths value shown) (h' : Shows paths value shown') :
    Alike shown shown' := by
  induction h generalizing shown' with
  | whole hmem =>
      cases h' with
      | whole => exact .same _
      | object hnot => exact absurd hmem hnot
      | array hnot => exact absurd hmem hnot
  | @object paths fields shown hnot hkeys hthere hparts ih =>
      cases h' with
      | whole hmem => exact absurd hmem hnot
      | object hnot' hkeys' hthere' hparts' =>
          refine .object (fun name => ?_) fun name part part' hpart hpart' => ?_
          · rw [Bool.eq_iff_iff, hkeys name, hkeys' name]
          · obtain ⟨child, hchild⟩ := Option.isSome_iff_exists.mp
              (hthere name (Option.isSome_iff_exists.mpr ⟨part, hpart⟩))
            exact ih name child part hchild hpart (hparts' name child part' hchild hpart')
  | @array paths items shown hnot hlength hparts ih =>
      cases h' with
      | whole hmem => exact absurd hmem hnot
      | array hnot' hlength' hparts' =>
          refine .array (hlength.symm.trans hlength') fun index part part' hpart hpart' => ?_
          obtain ⟨hindex, -⟩ := List.getElem?_eq_some_iff.mp hpart
          have hchild := List.getElem?_eq_getElem (hlength ▸ hindex)
          exact ih index _ part hchild hpart (hparts' index _ part' hchild hpart')

theorem Shows.read_eq (h : Shows paths value shown) (hmem : path ∈ paths) (hfits : Fits path value) :
    Fits path shown ∧ read path shown = read path value := by
  induction path generalizing paths value shown with
  | nil =>
      cases h with
      | whole => exact ⟨trivial, rfl⟩
      | object hnot => exact absurd hmem hnot
      | array hnot => exact absurd hmem hnot
  | cons step rest ih =>
      cases step with
      | key name =>
          obtain ⟨fields, child, rfl, hchild, hrest⟩ := hfits
          cases h with
          | whole => exact ⟨⟨fields, child, rfl, hchild, hrest⟩, rfl⟩
          | @object _ _ shown hnot hkeys hthere hparts =>
              obtain ⟨part, hpart⟩ := Option.isSome_iff_exists.mp ((hkeys name).mpr ⟨rest, hmem⟩)
              obtain ⟨hfits', hread⟩ := ih (hparts name child part hchild hpart) hmem hrest
              refine ⟨⟨shown, part, rfl, hpart, hfits'⟩, ?_⟩
              rw [read, read, hchild, hpart]
              exact hread
      | items =>
          obtain ⟨items, rfl, hrest⟩ := hfits
          cases h with
          | whole => exact ⟨⟨items, rfl, hrest⟩, rfl⟩
          | @array _ _ shown hnot hlength hparts =>
              have hitem : ∀ (index : Nat) (part : Value), shown[index]? = some part →
                  ∃ child, items[index]? = some child ∧ Fits rest part ∧
                    read rest part = read rest child := by
                intro index part hpart
                obtain ⟨hindex, -⟩ := List.getElem?_eq_some_iff.mp hpart
                have hchild := List.getElem?_eq_getElem (hlength ▸ hindex)
                exact ⟨_, hchild, ih (hparts index _ part hchild hpart) hmem
                  (hrest _ (List.mem_of_getElem? hchild))⟩
              refine ⟨⟨shown, rfl, fun part hpart => ?_⟩, ?_⟩
              · obtain ⟨index, hindex⟩ := List.mem_iff_getElem?.mp hpart
                obtain ⟨_, -, hfits', -⟩ := hitem index part hindex
                exact hfits'
              · rw [read, read]
                refine congrArg _ (List.ext_getElem? fun index => ?_)
                rw [List.getElem?_map, List.getElem?_map]
                cases hpart : shown[index]? with
                | none =>
                    have hnone : items[index]? = none := by
                      rw [List.getElem?_eq_none_iff] at hpart ⊢
                      exact hlength ▸ hpart
                    rw [hnone]
                | some part =>
                    obtain ⟨child, hchild, -, hread⟩ := hitem index part hpart
                    rw [hchild, Option.map_some, Option.map_some, hread]

end Paths

/-! ## Assignments -/

section Assignments

variable {texts : TextFunctions} {paths : Set (List TargetStep)} {rest : List TargetStep}

variable {name : String} {fields shown : Dict}

theorem shows_put {child part : Value}
    (hnot : [] ∉ paths) (h : Shows paths (.dict fields) (.dict shown))
    (hchild : Assoc.find fields name = some child)
    (hpart : Shows (insert rest (after paths (.key name))) child part) :
    Shows (insert (.key name :: rest) paths) (.dict fields) (.dict (Assoc.put shown name part)) := by
  cases h with
  | whole hmem => exact absurd hmem hnot
  | object _ hkeys hthere hparts =>
      refine .object (by simp [hnot]) (fun name' => ?_) (fun name' hname' => ?_)
        fun name' child' part' hchild' hpart' => ?_
      · rw [Assoc.has_put, Bool.or_eq_true, decide_eq_true_iff, hkeys name']
        constructor
        · rintro (rfl | ⟨rest', hrest'⟩)
          · exact ⟨rest, Set.mem_insert _ _⟩
          · exact ⟨rest', Set.mem_insert_of_mem _ hrest'⟩
        · rintro ⟨rest', hrest'⟩
          rcases Set.mem_insert_iff.mp hrest' with heq | hmem
          · obtain ⟨hname, -⟩ := List.cons.inj heq
            exact .inl (TargetStep.key.inj hname).symm
          · exact .inr ⟨rest', hmem⟩
      · rw [Assoc.has_put, Bool.or_eq_true, decide_eq_true_iff] at hname'
        rcases hname' with rfl | hname'
        · exact Option.isSome_iff_exists.mpr ⟨child, hchild⟩
        · exact hthere name' hname'
      · rw [Assoc.find_put] at hpart'
        by_cases hname : name = name'
        · subst hname
          rw [if_pos rfl] at hpart'
          obtain rfl := Option.some.inj hpart'
          obtain rfl := Option.some.inj (hchild.symm.trans hchild')
          rw [after_insert]
          exact hpart
        · rw [if_neg hname] at hpart'
          rw [after_insert_of_ne fun heq => hname (TargetStep.key.inj heq).symm]
          exact hparts name' child' part' hchild' hpart'

/-- Items that are written for values: each of the items is good that a value has been written to, and so are
those behind them. -/
theorem exists_written {element : Value → Value → Except String Value} {items values : List Value}
    {Good : Nat → Value → Prop}
    (hwrite : ∀ (index : Nat) (value : Value), values[index]? = some value → ∃ result,
      element ((items[index]?).getD (.dict [])) value = .ok result ∧ Good index result)
    (hkeep : ∀ (index : Nat) (item : Value), values.length ≤ index → items[index]? = some item →
      Good index item) :
    ∃ results, writeItems element items values = .ok results ∧
      results.length = max items.length values.length ∧
      ∀ (index : Nat) (result : Value), results[index]? = some result → Good index result := by
  induction values generalizing items Good with
  | nil =>
      refine ⟨items, by cases items <;> rfl, by simp, fun index item hitem => ?_⟩
      exact hkeep index item (Nat.zero_le _) hitem
  | cons value values ih =>
      obtain ⟨first, hfirst, hgood⟩ := hwrite 0 value rfl
      obtain ⟨results, hresults, hlength, hrest⟩ := @ih items.tail (fun index => Good (index + 1))
        (fun index value' hvalue' => by
          rw [List.getElem?_tail]
          exact hwrite (index + 1) value' hvalue')
        (fun index item hindex hitem => by
          rw [List.getElem?_tail] at hitem
          exact hkeep (index + 1) item (Nat.succ_le_succ hindex) hitem)
      refine ⟨first :: results, ?_, ?_, fun index result hresult => ?_⟩
      · cases items with
        | nil =>
            rw [writeItems]
            exact bind_eq_ok.mpr ⟨first, hfirst, congrArg (Except.map (first :: ·)) hresults⟩
        | cons item items =>
            rw [writeItems]
            exact bind_eq_ok.mpr ⟨first, hfirst, congrArg (Except.map (first :: ·)) hresults⟩
      · rw [List.length_cons, hlength, List.length_tail, List.length_cons]
        omega
      · cases index with
        | zero =>
            obtain rfl := Option.some.inj hresult
            exact hgood
        | succ index => exact hrest index result hresult

/-- The steps of a path of segments. -/
def stepsOf : List Segment → List TargetStep
  | [] => []
  | segment :: rest =>
      .key (String.ofList segment.name) ::
        (if segment.each then .items :: stepsOf rest else stepsOf rest)

theorem fits_stepsOf {segments : List Segment} (hne : segments ≠ []) {value : Value}
    (h : Fits (stepsOf segments) value) : ∃ fields, value = .dict fields := by
  cases segments with
  | nil => exact absurd rfl hne
  | cons segment rest =>
      obtain ⟨fields, -, hvalue, -⟩ := h
      exact ⟨fields, hvalue⟩

theorem Shows.object_part (hnot : [] ∉ paths) {fields : Dict} {shown : Value}
    (h : Shows paths (.dict fields) shown) : ∃ fields', shown = .dict fields' := by
  cases h with
  | whole hmem => exact absurd hmem hnot
  | object => exact ⟨_, rfl⟩

theorem Shows.child {child : Value} (hnot : [] ∉ paths)
    (h : Shows paths (.dict fields) (.dict shown)) (hchild : Assoc.find fields name = some child) :
    (∃ part, Assoc.find shown name = some part ∧ (after paths (.key name)).Nonempty ∧
        Shows (after paths (.key name)) child part) ∨
      Assoc.find shown name = none ∧ after paths (.key name) = ∅ := by
  cases h with
  | whole hmem => exact absurd hmem hnot
  | object _ hkeys hthere hparts =>
      cases hpart : Assoc.find shown name with
      | some part =>
          exact .inl ⟨part, rfl, (hkeys name).mp (Option.isSome_iff_exists.mpr ⟨part, hpart⟩),
            hparts name child part hchild hpart⟩
      | none =>
          refine .inr ⟨rfl, Set.eq_empty_of_forall_notMem fun rest hmem => ?_⟩
          obtain ⟨part, hsome⟩ := Option.isSome_iff_exists.mp ((hkeys name).mpr ⟨rest, hmem⟩)
          cases hpart.symm.trans hsome

theorem Shows.itemsOf {items : List Value} (hnot : [] ∉ paths)
    (hwhole : [] ∉ after paths (.key name)) (h : Shows paths (.dict fields) (.dict shown))
    (hchild : Assoc.find fields name = some (.list items)) :
    (itemsOf (Assoc.find shown name)).length ≤ items.length ∧
      ∀ (index : Nat) (item : Value), items[index]? = some item → ∀ fields', item = .dict fields' →
        Shows (after (after paths (.key name)) .items) item
          (((Value.itemsOf (Assoc.find shown name))[index]?).getD (.dict [])) := by
  rcases h.child hnot hchild with ⟨part, hpart, -, hshows⟩ | ⟨hnone, hempty⟩
  · rw [hpart]
    cases hshows with
    | whole hmem => exact absurd hmem hwhole
    | @array _ _ parts _ hlength hparts =>
        refine ⟨hlength.symm.le, fun index item hitem fields' _ => ?_⟩
        obtain ⟨hindex, -⟩ := List.getElem?_eq_some_iff.mp hitem
        have hget : parts[index]? = some _ := List.getElem?_eq_getElem (hlength ▸ hindex)
        show Shows _ item ((parts[index]?).getD (.dict []))
        rw [hget]
        exact hparts index item _ hitem hget
  · rw [hnone, hempty]
    refine ⟨Nat.zero_le _, fun index item _ fields' hfields' => ?_⟩
    subst hfields'
    exact shows_empty fields'

theorem Shows.entered {fields shown fields' : Dict} (hnot : [] ∉ paths)
    (h : Shows paths (.dict fields) (.dict shown)) (hchild : Assoc.find fields name = some (.dict fields')) :
    Shows (after paths (.key name)) (.dict fields') ((Assoc.find shown name).getD (.dict [])) := by
  rcases h.child hnot hchild with ⟨part, hpart, -, hshows⟩ | ⟨hnone, hempty⟩
  · rw [hpart]
    exact hshows
  · rw [hnone, hempty]
    exact shows_empty fields'

variable (texts) in
/-- An assignment of what lies at a path shows this path, too. -/
theorem assign_shows (concat : Bool) {segments : List Segment} (hne : segments ≠ []) {value shown : Value}
    (hfits : Fits (stepsOf segments) value) (h : Shows paths value shown)
    (hapart : ∀ path ∈ paths, Apart (stepsOf segments) path) :
    ∃ shown', assign texts concat segments (read (stepsOf segments) value) shown = .ok shown' ∧
      Shows (insert (stepsOf segments) paths) value shown' := by
  induction segments generalizing concat paths value shown with
  | nil => exact absurd rfl hne
  | cons segment rest ih =>
      have hnot : [] ∉ paths := fun hmem => not_apart_nil _ (hapart _ hmem)
      obtain ⟨fields, child, rfl, hchild, hrest⟩ := hfits
      obtain ⟨shown, rfl⟩ := h.object_part hnot
      have hafter : ∀ path ∈ after paths (.key (String.ofList segment.name)),
          Apart (if segment.each then .items :: stepsOf rest else stepsOf rest) path :=
        fun path hmem => hapart _ hmem rfl
      have hread : read (stepsOf (segment :: rest)) (.dict fields) =
          read (if segment.each then .items :: stepsOf rest else stepsOf rest) child := by
        rw [stepsOf, read, hchild]
        rfl
      rw [hread, stepsOf, assign]
      by_cases heach : segment.each = true
      · rw [if_pos heach] at hrest hafter ⊢
        rw [if_pos heach]
        obtain ⟨items, rfl, hitems⟩ := hrest
        have hwhole : [] ∉ after paths (.key (String.ofList segment.name)) :=
          fun hmem => not_apart_nil _ (hafter _ hmem)
        obtain ⟨hlength, hparts⟩ := h.itemsOf hnot hwhole hchild
        -- Item by item the rest of the path is assigned to what is shown of the item.
        have helements : ∀ (index : Nat) (item : Value), items[index]? = some item → ∃ result,
            assign texts false rest (read (stepsOf rest) item) (objectOf
              (((itemsOf (Assoc.find shown (String.ofList segment.name)))[index]?).getD (.dict []))) =
                .ok result ∧
              Shows (insert (stepsOf rest) (after (after paths (.key (String.ofList segment.name))) .items))
                item result := by
          intro index item hitem
          have hfits := hitems item (List.mem_of_getElem? hitem)
          cases rest with
          | nil => exact ⟨item, rfl, .whole (Set.mem_insert _ _)⟩
          | cons next rest =>
              obtain ⟨fields', rfl⟩ := fits_stepsOf (List.cons_ne_nil next rest) hfits
              have hpart := hparts index _ hitem fields' rfl
              have hapart' : ∀ path ∈ after (after paths (.key (String.ofList segment.name))) .items,
                  Apart (stepsOf (next :: rest)) path := fun path hmem => hafter _ hmem
              obtain ⟨fields'', hfields''⟩ :=
                hpart.object_part fun hmem => not_apart_nil _ (hapart' _ hmem)
              rw [hfields''] at hpart ⊢
              exact ih false (List.cons_ne_nil next rest) hfits hpart hapart'
        obtain ⟨results, hresults, hcount, hgood⟩ := @exists_written
          (fun item element => assign texts false rest element (objectOf item))
          (itemsOf (Assoc.find shown (String.ofList segment.name))) (items.map (read (stepsOf rest)))
          (fun index result => ∀ item, items[index]? = some item →
            Shows (insert (stepsOf rest) (after (after paths (.key (String.ofList segment.name))) .items))
              item result)
          (fun index value hvalue => by
            rw [List.getElem?_map] at hvalue
            obtain ⟨item, hitem, rfl⟩ := Option.map_eq_some_iff.mp hvalue
            obtain ⟨result, hresult, hshows⟩ := helements index item hitem
            refine ⟨result, hresult, fun item' hitem' => ?_⟩
            obtain rfl := Option.some.inj (hitem.symm.trans hitem')
            exact hshows)
          (fun index item hindex hitem => by
            obtain ⟨hlt, -⟩ := List.getElem?_eq_some_iff.mp hitem
            rw [List.length_map] at hindex
            omega)
        have hlength' : items.length = results.length := by
          rw [hcount, List.length_map]
          omega
        refine ⟨.dict (Assoc.put shown (String.ofList segment.name) (.list results)), ?_,
          shows_put hnot h hchild (.array ?_ hlength' ?_)⟩
        · have hname : ¬ segment.name.isEmpty = true := by
            rw [List.isEmpty_iff]
            exact segment.nonempty
          rw [read, setItems, if_neg hname]
          show (writeItems _ _ (items.map (read (stepsOf rest)))).map _ = _
          rw [hresults]
          rfl
        · rintro (hnil | hmem)
          · cases hnil
          · exact hwhole hmem
        · intro index item part hitem hpart
          rw [after_insert]
          exact hgood index part hpart item hitem
      · rw [if_neg heach] at hrest hafter ⊢
        rw [if_neg heach]
        cases rest with
        | nil =>
            -- The last key is not there yet, as no path that has been written goes on from it.
            have hnone : Assoc.find shown (String.ofList segment.name) = none := by
              rcases h.child hnot hchild with ⟨part, -, ⟨path, hpath⟩, -⟩ | ⟨hnone, -⟩
              · cases hafter path hpath
              · exact hnone
            refine ⟨.dict (Assoc.put shown (String.ofList segment.name) child), ?_,
              shows_put hnot h hchild (.whole (Set.mem_insert _ _))⟩
            rw [if_pos List.isEmpty_nil, setKey, hnone]
            rfl
        | cons next rest =>
            have hempty : ¬ (next :: rest).isEmpty = true := Bool.false_ne_true
            obtain ⟨fields', rfl⟩ := fits_stepsOf (List.cons_ne_nil next rest) hrest
            obtain ⟨part, hassign, hshows⟩ :=
              ih concat (List.cons_ne_nil next rest) hrest (h.entered hnot hchild) hafter
            refine ⟨.dict (Assoc.put shown (String.ofList segment.name) part), ?_,
              shows_put hnot h hchild hshows⟩
            rw [if_neg hempty, enter, hassign]
            rfl

end Assignments

/-! ## Readings -/

section Readings

variable (texts : TextFunctions)

/-- `_get_nested_array`, on the parts of a key between its brackets. Only these items of a list are looked
into. -/
def getWhere (visits : Value → Bool) : List (List Char) → Value → Value
  | [], data => data
  | [key], data => getDotted texts (splitDots key) data
  | key :: rest, data =>
      match if key.isEmpty then data else getDotted texts (splitDots key) data with
      | .list items =>
          if rest = [[]] then .list items
          else .list (items.map fun item => if visits item then getWhere visits rest item else .null)
      | _ => .null

variable {texts} {visits : Value → Bool}

theorem getWhere_true : getWhere texts (fun _ => true) = getBrackets texts := by
  funext parts data
  induction parts generalizing data with
  | nil => rfl
  | cons key rest ih =>
      cases rest with
      | nil => rfl
      | cons next rest =>
          have hitems : (fun item => if true = true then getWhere texts (fun _ => true) (next :: rest) item
              else .null) = getBrackets texts (next :: rest) := by
            funext item
            rw [if_pos rfl]
            exact ih item
          exact congrArg (fun (element : Value → Value) =>
            match if key.isEmpty then data else getDotted texts (splitDots key) data with
            | .list items => if next :: rest = [[]] then Value.list items else .list (items.map element)
            | _ => .null) hitems

variable (texts) in
/-- What is read along segments. -/
def readSegments : List Segment → Value → Value
  | [], data => data
  | segment :: rest, data =>
      if segment.each then
        match getDotted texts [segment.name] data with
        | .list items => .list (items.map (readSegments rest))
        | _ => .null
      else readSegments rest (getDotted texts [segment.name] data)

theorem getDotted_null (keys : List (List Char)) : getDotted texts keys .null = .null := by
  cases keys <;> rfl

theorem readSegments_null (segments : List Segment) : readSegments texts segments .null = .null := by
  induction segments with
  | nil => rfl
  | cons segment rest ih =>
      rw [readSegments, getDotted_null]
      by_cases heach : segment.each = true
      · rw [if_pos heach]
      · rw [if_neg heach, ih]

theorem getDotted_cons (key : List Char) (keys : List (List Char)) (data : Value) :
    getDotted texts (key :: keys) data = getDotted texts keys (getDotted texts [key] data) := by
  cases data with
  | dict fields => rfl
  | list items =>
      rw [getDotted, getDotted]
      cases (texts.int (String.ofList key)).bind (itemAt items) with
      | none => exact (getDotted_null keys).symm
      | some item => rfl
  | null | bool | int | float | str => exact (getDotted_null keys).symm

theorem getDotted_name {name : List Char} {fields : Dict} {child : Value}
    (hchild : Assoc.find fields (String.ofList name) = some child) :
    getDotted texts [name] (.dict fields) = child := by
  rw [getDotted, hchild]
  rfl

theorem getWhere_plain {name part : List Char} (hname : '.' ∉ name) (hpart : part ≠ [])
    (parts : List (List Char)) (data : Value) :
    getWhere texts visits ((name ++ '.' :: part) :: parts) data =
      getWhere texts visits (part :: parts) (getDotted texts [name] data) := by
  have hdotted : getDotted texts (splitDots (name ++ '.' :: part)) data =
      getDotted texts (splitDots part) (getDotted texts [name] data) := by
    rw [splitDots_append hname, getDotted_cons]
  cases parts with
  | nil => exact hdotted
  | cons next parts =>
      have hne : ¬ (name ++ '.' :: part).isEmpty = true := by simp
      have hne' : ¬ part.isEmpty = true := by
        rw [List.isEmpty_iff]
        exact hpart
      rw [getWhere, getWhere, if_neg hne, if_neg hne', hdotted]
      · exact List.cons_ne_nil _ _
      · exact List.cons_ne_nil _ _

theorem getWhere_each {name : List Char} (hname : '.' ∉ name) (hne : name ≠ []) (part : List Char)
    (parts : List (List Char)) (data : Value) :
    getWhere texts visits (name :: part :: parts) data =
      match getDotted texts [name] data with
      | .list items =>
          if part :: parts = [[]] then .list items
          else .list (items.map fun item =>
            if visits item then getWhere texts visits (part :: parts) item else .null)
      | _ => .null := by
  have hempty : ¬ name.isEmpty = true := by
    rw [List.isEmpty_iff]
    exact hne
  rw [getWhere, if_neg hempty, splitDots_name hname]
  exact List.cons_ne_nil _ _

/-- The parts of a path are read segment by segment, if the reading looks into all items on the way. -/
theorem getWhere_segments (segment : Segment) (rest : List Segment) {data : Value}
    (h : (∀ value, visits value = true) ∨
      (∀ fields, visits (.dict fields) = true) ∧ Fits (stepsOf (segment :: rest)) data) :
    getWhere texts visits (splitBrackets (spellSegments (segment :: rest))) data =
      readSegments texts (segment :: rest) data := by
  induction rest generalizing segment data with
  | nil =>
      by_cases heach : segment.each = true
      · rw [splitBrackets_spell_items heach, getWhere_each segment.dotless segment.nonempty,
          readSegments, if_pos heach]
        cases getDotted texts [segment.name] data with
        | list items => exact congrArg _ (List.map_id'' (fun item => rfl) items).symm
        | null | bool | int | float | str | dict => rfl
      · rw [splitBrackets_spell_name (eq_false_of_ne_true heach), readSegments, if_neg heach]
        show getDotted texts (splitDots segment.name) data = _
        rw [splitDots_name segment.dotless]
        rfl
  | cons next rest ih =>
      obtain ⟨part, parts, hparts, hpart⟩ := splitBrackets_spell_cons next rest
      by_cases heach : segment.each = true
      · have hne : ¬ part :: parts = [[]] := fun heq => hpart (List.cons.inj heq).1
        rw [splitBrackets_spell_each heach (List.cons_ne_nil _ _), hparts,
          getWhere_each segment.dotless segment.nonempty, readSegments, if_pos heach]
        cases hitems : getDotted texts [segment.name] data with
        | list items =>
            refine (if_neg hne).trans (congrArg _ (List.map_congr_left fun item hitem => ?_))
            rw [← hparts]
            rcases h with hall | ⟨hdicts, fields, child, rfl, hchild, hinner⟩
            · rw [if_pos (hall item)]
              exact ih next (.inl hall)
            · rw [if_pos heach] at hinner
              obtain ⟨items', rfl, hfits⟩ := hinner
              obtain rfl := Value.list.inj ((getDotted_name hchild).symm.trans hitems)
              obtain ⟨fields', rfl⟩ := fits_stepsOf (List.cons_ne_nil next rest) (hfits item hitem)
              rw [if_pos (hdicts fields')]
              exact ih next (.inr ⟨hdicts, hfits _ hitem⟩)
        | null | bool | int | float | str | dict => rfl
      · rw [splitBrackets_spell_plain (eq_false_of_ne_true heach) (List.cons_ne_nil _ _), hparts, onHead,
          List.append_assoc, List.singleton_append, getWhere_plain segment.dotless hpart, ← hparts,
          readSegments, if_neg heach]
        refine ih next (h.imp_right fun hboth => ⟨hboth.1, ?_⟩)
        obtain ⟨-, fields, child, rfl, hchild, hinner⟩ := hboth
        rw [if_neg heach] at hinner
        rw [getDotted_name hchild]
        exact hinner

theorem readSegments_eq {segments : List Segment} {data : Value} (h : Fits (stepsOf segments) data) :
    readSegments texts segments data = read (stepsOf segments) data := by
  induction segments generalizing data with
  | nil => rfl
  | cons segment rest ih =>
      obtain ⟨fields, child, rfl, hchild, hinner⟩ := h
      rw [readSegments, getDotted_name hchild, stepsOf, read, hchild, Option.getD_some]
      by_cases heach : segment.each = true
      · rw [if_pos heach] at hinner
        rw [if_pos heach, if_pos heach]
        obtain ⟨items, rfl, hitems⟩ := hinner
        exact congrArg _ (List.map_congr_left fun item hitem => ih (hitems item hitem))
      · rw [if_neg heach] at hinner
        rw [if_neg heach, if_neg heach]
        exact ih hinner

theorem getWhere_spell (hvisits : ∀ fields, visits (.dict fields) = true) (segment : Segment)
    (rest : List Segment) {data : Value} (hfits : Fits (stepsOf (segment :: rest)) data) :
    getWhere texts visits (splitBrackets (spellSegments (segment :: rest))) data =
      read (stepsOf (segment :: rest)) data :=
  (getWhere_segments segment rest (.inr ⟨hvisits, hfits⟩)).trans (readSegments_eq hfits)

end Readings

/-! ## Targets inside others -/

/-- Objects and lists, which Python changes in place. -/
def mutable : Value → Bool
  | .dict _ | .list _ => true
  | _ => false

/-- The steps along the parts of a target between its brackets. -/
def stepsAlong : List (List Char) → List TargetStep
  | [] | [[]] => []
  | [key] => (splitDots key).map fun name => .key (String.ofList name)
  | key :: rest => (splitDots key).map (fun name => .key (String.ofList name)) ++ .items :: stepsAlong rest

/-- The steps on the way to a target. -/
def targetSteps (target : String) : List TargetStep :=
  stepsAlong (splitBrackets target.toList)

/-- The way to the later target goes through the earlier one: an assignment to it changes in place what the
earlier assignment has put there. -/
def WritesInto (earlier later : String) : Prop :=
  targetSteps earlier <+: targetSteps later ∧ targetSteps earlier ≠ targetSteps later

instance (earlier later : String) : Decidable (WritesInto earlier later) :=
  inferInstanceAs (Decidable (_ ∧ _))

/-- No target is inside one that is written before it. -/
def Separate (targets : List String) : Prop :=
  targets.Pairwise fun earlier later => ¬ WritesInto earlier later

instance (targets : List String) : Decidable (Separate targets) :=
  inferInstanceAs (Decidable (targets.Pairwise _))

example : ¬ Separate ["address", "positions[].sku", "address.country"] := by decide
example : Separate ["positions[].sku", "positions[].quantity", "address.city", "address.country"] := by
  decide

end Value

end IntegrationPlatform
