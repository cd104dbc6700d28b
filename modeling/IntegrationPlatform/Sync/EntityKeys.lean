import IntegrationPlatform.Json.Operators
import Mathlib.Data.List.Basic

/-!
# Entity keys

`resolve_entity_key` makes the key of an event in the ledger out of the components that the
configuration names, with colons between them. `identifies_iff` says for which components the key
stands for them and for nothing else.
-/

namespace IntegrationPlatform

namespace Sync

/-! ## Keys -/

/-- `entity_key_field`. -/
inductive KeyField where
  | single (path : String)
  | composite (paths : List String)

/-- The paths of a configuration. -/
def KeyField.all : KeyField → List String
  | .single path => [path]
  | .composite paths => paths

/-- The value under the parts of a path. -/
def getParts : List (List Char) → Value → Value
  | [], current => current
  | part :: parts, .dict fields =>
      getParts parts ((Assoc.find fields (String.ofList part)).getD .null)
  | _ :: _, _ => .null

def getNested (data : Dict) (path : String) : Value :=
  getParts (Value.splitDots path.toList) (.dict data)

variable (str : Value → String)

/-- `str(value)`, which is only a parameter for values that are neither texts nor integers. -/
def textOf : Value → String
  | .str text => text
  | .int number => toString number
  | value => str value

/-- `str(value or "")`. -/
def keyPart (value : Value) : String :=
  if value.truthy then textOf str value else ""

def resolveEntityKey (data : Dict) : KeyField → String
  | .composite paths => ":".intercalate (paths.map fun path => keyPart str (getNested data path))
  | .single path => keyPart str (getNested data path)

/-! ## Components -/

/-- The components of the key of an event. -/
def components (keyField : KeyField) (event : Dict) : List Value :=
  keyField.all.map (getNested event)

/-- The value is a text or an integer. -/
def IsText : Value → Prop
  | .str _ => True
  | .int _ => True
  | _ => False

/-- All components of the key of an event are there. -/
def Complete (keyField : KeyField) (event : Dict) : Prop :=
  ∀ component ∈ components keyField event, IsText component

/-- The key of an event is that of the events with the same components, and an event that lacks a
component has none. -/
structure Identifies (keyField : KeyField) (event : Dict) : Prop where
  complete : Complete keyField event → ∀ other, Complete keyField other →
    (resolveEntityKey str event keyField = resolveEntityKey str other keyField ↔
      (components keyField event).map (textOf str) = (components keyField other).map (textOf str))
  lacking : Value.null ∈ components keyField event → resolveEntityKey str event keyField = ""

/-- No component is empty or zero, and if there are several none has a colon and none is missing. -/
structure Separable (components : List Value) : Prop where
  texts : (∀ component ∈ components, IsText component) → ∀ component ∈ components,
    textOf str component ≠ "" ∧ textOf str component ≠ "0" ∧
      (2 ≤ components.length → ':' ∉ (textOf str component).toList)
  lacking : Value.null ∈ components → components.length ≤ 1

variable {str}

theorem resolveEntityKey_eq (keyField : KeyField) (event : Dict) :
    resolveEntityKey str event keyField =
      ":".intercalate ((components keyField event).map (keyPart str)) := by
  cases keyField with
  | single path => simp [resolveEntityKey, components, KeyField.all]
  | composite paths =>
      unfold components KeyField.all
      rw [List.map_map]
      rfl

/-! ## Joined texts -/

theorem intercalate_cons (part next : List Char) (rest : List (List Char)) :
    [':'].intercalate (part :: next :: rest) = part ++ ':' :: [':'].intercalate (next :: rest) := by
  simp [List.intercalate, List.intersperse]

theorem count_intercalate (part : List Char) (rest : List (List Char)) :
    ([':'].intercalate (part :: rest)).count ':' =
      rest.length + (part :: rest).flatten.count ':' := by
  induction rest generalizing part with
  | nil => simp [List.intercalate]
  | cons next rest ih =>
      rw [intercalate_cons, List.count_append, List.count_cons_self, ih next, List.length_cons,
        List.flatten_cons, List.flatten_cons, List.flatten_cons, List.count_append, List.count_append,
        List.count_append]
      omega

theorem eq_of_intercalate_eq {parts others : List (List Char)} (hlength : parts.length = others.length)
    (hcolons : 2 ≤ parts.length → ∀ part ∈ parts, ':' ∉ part)
    (h : [':'].intercalate parts = [':'].intercalate others) : parts = others := by
  match parts, others with
  | [], others => exact (List.length_eq_zero_iff.mp hlength.symm).symm
  | [part], [other] => simpa [List.intercalate] using h
  | part :: next :: rest, other :: others =>
      have hparts := hcolons (by simp)
      have hsum : (part :: next :: rest).flatten.count ':' = 0 := by
        refine List.count_eq_zero.mpr fun hmem => ?_
        obtain ⟨text, htext, hcolon⟩ := List.mem_flatten.mp hmem
        exact hparts text htext hcolon
      have hcount := congrArg (List.count ':') h
      rw [count_intercalate, count_intercalate, hsum] at hcount
      simp only [List.length_cons] at hlength
      -- The others have no colons either, for there are as many in the joined texts.
      have hnone : (other :: others).flatten.count ':' = 0 := by
        simp only [List.length_cons] at hcount
        omega
      have hothers : ∀ text ∈ other :: others, ':' ∉ text := by
        intro text htext hcolon
        exact List.count_eq_zero.mp hnone (List.mem_flatten_of_mem htext hcolon)
      rw [← List.splitOn_intercalate ':' hparts (by simp), h,
        List.splitOn_intercalate ':' hothers (by simp)]

/-- Several texts one of which has a colon can be joined to the same text as others. -/
theorem exists_intercalate_eq {parts : List (List Char)} (hlength : 2 ≤ parts.length)
    (hcolon : ∃ part ∈ parts, ':' ∈ part) :
    ∃ others : List (List Char), others.length = parts.length ∧ others ≠ parts ∧
      [':'].intercalate others = [':'].intercalate parts := by
  induction parts with
  | nil => simp at hlength
  | cons first rest ih =>
      cases rest with
      | nil => simp at hlength
      | cons second rest =>
          by_cases hfirst : ':' ∈ first
          · obtain ⟨before, after, rfl⟩ := List.append_of_mem hfirst
            refine ⟨before :: (after ++ ':' :: second) :: rest, rfl, ?_, ?_⟩
            · intro heq
              have hshort := congrArg List.length (List.head_eq_of_cons_eq heq)
              simp at hshort
            · cases rest <;> simp [List.intercalate, List.intersperse]
          · by_cases hsecond : ':' ∈ second
            · obtain ⟨before, after, rfl⟩ := List.append_of_mem hsecond
              refine ⟨(first ++ ':' :: before) :: after :: rest, rfl, ?_, ?_⟩
              · intro heq
                have hlong := congrArg List.length (List.head_eq_of_cons_eq heq)
                simp at hlong
              · cases rest <;> simp [List.intercalate, List.intersperse]
            · -- The colon is further on, and the first text stays.
              obtain ⟨part, hpart, hmem⟩ := hcolon
              have hrest : part ∈ rest := by
                rcases List.mem_cons.mp hpart with rfl | hpart
                · exact absurd hmem hfirst
                · rcases List.mem_cons.mp hpart with rfl | hpart
                  · exact absurd hmem hsecond
                  · exact hpart
              have hlong : 2 ≤ (second :: rest).length := by
                have hpos := List.length_pos_of_mem hrest
                rw [List.length_cons]
                omega
              obtain ⟨others, hsame, hne, hjoined⟩ := ih hlong ⟨part, List.mem_cons_of_mem _ hrest, hmem⟩
              refine ⟨first :: others, by simp [hsame], fun heq => hne (List.tail_eq_of_cons_eq heq), ?_⟩
              cases others with
              | nil => simp at hsame
              | cons other others =>
                  rw [intercalate_cons, intercalate_cons, hjoined]

theorem intercalate_eq_iff {parts others : List String} :
    ":".intercalate parts = ":".intercalate others ↔
      [':'].intercalate (parts.map String.toList) = [':'].intercalate (others.map String.toList) := by
  rw [← String.toList_inj, String.toList_intercalate, String.toList_intercalate]
  rfl

/-! ## Separable components -/

variable {component : Value}

theorem keyPart_eq_textOf (htext : IsText component)
    (hzero : textOf str component ≠ "0") : keyPart str component = textOf str component := by
  cases component with
  | str text =>
      by_cases hempty : text = "" <;> simp [keyPart, Value.truthy, textOf, hempty]
  | int number =>
      by_cases hnumber : number = 0
      · subst hnumber
        exact absurd rfl hzero
      · simp [keyPart, Value.truthy, hnumber]
  | _ => cases htext

theorem textOf_eq_keyPart (h : keyPart str component ≠ "") :
    textOf str component = keyPart str component := by
  unfold keyPart at h ⊢
  split
  · rfl
  · next hfalse =>
    rw [if_neg hfalse] at h
    exact absurd rfl h

theorem map_keyPart_eq_iff {first second : List Value}
    (hfirst : ∀ component ∈ first,
      IsText component ∧ textOf str component ≠ "" ∧ textOf str component ≠ "0")
    (hsecond : ∀ component ∈ second, IsText component) :
    first.map (keyPart str) = second.map (keyPart str) ↔
      first.map (textOf str) = second.map (textOf str) := by
  induction first generalizing second with
  | nil => cases second <;> simp
  | cons component rest ih =>
      cases second with
      | nil => simp
      | cons other others =>
          obtain ⟨⟨htext, hempty, hzero⟩, hrest⟩ := List.forall_mem_cons.mp hfirst
          obtain ⟨hother, hothers⟩ := List.forall_mem_cons.mp hsecond
          have hpart := keyPart_eq_textOf htext hzero
          rw [List.map_cons, List.map_cons, List.map_cons, List.map_cons, List.cons.injEq,
            List.cons.injEq, ih hrest hothers, hpart]
          refine and_congr_left fun _ => ?_
          constructor
          · intro heq
            exact heq.trans (textOf_eq_keyPart fun hnone => hempty (heq.trans hnone)).symm
          · intro heq
            exact heq.trans (keyPart_eq_textOf hother (heq ▸ hzero)).symm

theorem Separable.identifies {keyField : KeyField} {event : Dict}
    (h : Separable str (components keyField event)) : Identifies str keyField event := by
  constructor
  · intro hcomplete other hother
    have htexts := h.texts hcomplete
    have hlength : (components keyField event).length = (components keyField other).length := by
      unfold components
      rw [List.length_map, List.length_map]
    have hmap := @map_keyPart_eq_iff str _ (components keyField other)
      (fun component hmem => ⟨hcomplete component hmem, (htexts component hmem).1,
        (htexts component hmem).2.1⟩) hother
    rw [resolveEntityKey_eq, resolveEntityKey_eq, ← hmap, intercalate_eq_iff]
    constructor
    · intro heq
      have hparts := eq_of_intercalate_eq (by simp [hlength]) ?_ heq
      · exact List.map_injective_iff.mpr (fun _ _ heq => String.toList_injective heq) hparts
      · intro hlong part hpart
        obtain ⟨text, htext, rfl⟩ := List.mem_map.mp hpart
        obtain ⟨component, hmem, rfl⟩ := List.mem_map.mp htext
        obtain ⟨-, hzero, hcolon⟩ := htexts component hmem
        rw [keyPart_eq_textOf (hcomplete component hmem) hzero]
        exact hcolon (by simpa using hlong)
    · intro heq
      rw [heq]
  · intro hnull
    rw [resolveEntityKey_eq]
    have hlength := h.lacking hnull
    cases hcomponents : components keyField event with
    | nil => rfl
    | cons component rest =>
        rw [hcomponents] at hnull hlength
        obtain rfl : rest = [] := List.length_eq_zero_iff.mp (by simpa using hlength)
        obtain rfl := List.mem_singleton.mp hnull
        simp [keyPart, Value.truthy]

/-! ## Events with given components -/

/-- The path of the component with this index. -/
def pathOf : Nat → List Char
  | 0 => ['v']
  | index + 1 => 'n' :: '.' :: pathOf index

/-- An event with these components. -/
def eventOf : List Value → Dict
  | [] => []
  | component :: rest => [("v", component), ("n", .dict (eventOf rest))]

/-- A configuration of so many components. -/
def fieldOf (count : Nat) : KeyField :=
  .composite ((List.range count).map fun index => String.ofList (pathOf index))

theorem splitDots_pathOf (index : Nat) :
    Value.splitDots (pathOf index) = List.replicate index ['n'] ++ [['v']] := by
  induction index with
  | zero => rfl
  | succ index ih =>
      rw [pathOf, List.replicate_succ, List.cons_append, ← ih]
      rfl

theorem getNested_eventOf (index : Nat) (values : List Value) :
    getNested (eventOf values) (String.ofList (pathOf index)) = values[index]?.getD .null := by
  unfold getNested
  rw [String.toList_ofList, splitDots_pathOf]
  induction index generalizing values with
  | zero => cases values <;> rfl
  | succ index ih =>
      rw [List.replicate_succ, List.cons_append]
      cases values with
      | nil => cases index <;> rfl
      | cons component rest => exact ih rest

theorem components_eventOf (values : List Value) :
    components (fieldOf values.length) (eventOf values) = values := by
  unfold components fieldOf KeyField.all
  rw [List.map_map]
  refine List.ext_getElem (by simp) fun index hindex hvalues => ?_
  rw [List.getElem_map, List.getElem_range]
  show getNested (eventOf values) (String.ofList (pathOf index)) = _
  rw [getNested_eventOf, List.getElem?_eq_getElem hvalues]
  rfl

/-! ## Components that identify their events -/

variable (str) in
/-- These components identify their events, in every configuration. -/
def IdentifyAll (values : List Value) : Prop :=
  ∀ keyField event, components keyField event = values → Identifies str keyField event

section Necessity

variable {values : List Value}

theorem IdentifyAll.keyParts_iff (h : IdentifyAll str values) {others : List Value}
    (hvalues : ∀ component ∈ values, IsText component) (hlength : others.length = values.length)
    (hothers : ∀ component ∈ others, IsText component) :
    ":".intercalate (values.map (keyPart str)) = ":".intercalate (others.map (keyPart str)) ↔
      values.map (textOf str) = others.map (textOf str) := by
  have hself := components_eventOf values
  have hother := components_eventOf others
  rw [hlength] at hother
  have hcomplete : Complete (fieldOf values.length) (eventOf values) := by
    unfold Complete
    rw [hself]
    exact hvalues
  have hcomplete' : Complete (fieldOf values.length) (eventOf others) := by
    unfold Complete
    rw [hother]
    exact hothers
  have hiff := (h _ _ hself).complete hcomplete _ hcomplete'
  rw [resolveEntityKey_eq, resolveEntityKey_eq, hself, hother] at hiff
  exact hiff

/-- Joined texts that differ at one place only are equal if they are equal there. -/
theorem eq_of_intercalate_replaced {before after : List (List Char)} {part part' : List Char}
    (h : [':'].intercalate (before ++ part :: after) = [':'].intercalate (before ++ part' :: after)) :
    part = part' := by
  induction before with
  | nil =>
      cases after with
      | nil => simpa [List.intercalate] using h
      | cons next rest =>
          have hstep : ∀ part, [':'].intercalate (part :: next :: rest) =
              part ++ ':' :: [':'].intercalate (next :: rest) := by
            intro part
            simp [List.intercalate, List.intersperse]
          rw [List.nil_append, List.nil_append, hstep, hstep] at h
          exact List.append_cancel_right h
  | cons first before ih =>
      have hstep : ∀ part, [':'].intercalate (first :: before ++ part :: after) =
          first ++ ':' :: [':'].intercalate (before ++ part :: after) := by
        intro part
        cases before <;> simp [List.intercalate, List.intersperse]
      rw [hstep, hstep] at h
      exact ih (List.tail_eq_of_cons_eq (List.append_cancel_left h))

theorem IdentifyAll.replaced_iff (h : IdentifyAll str values)
    (hvalues : ∀ component ∈ values, IsText component)
    (hmem : component ∈ values) (other : Value) (hother : IsText other) :
    keyPart str component = keyPart str other ↔ textOf str component = textOf str other := by
  obtain ⟨before, after, rfl⟩ := List.append_of_mem hmem
  have hothers : ∀ value ∈ before ++ other :: after, IsText value := by
    intro value hvalue
    rcases List.mem_append.mp hvalue with hbefore | hafter
    · exact hvalues value (List.mem_append_left _ hbefore)
    · rcases List.mem_cons.mp hafter with rfl | hafter
      · exact hother
      · exact hvalues value (List.mem_append_right _ (List.mem_cons_of_mem _ hafter))
  have hiff := h.keyParts_iff hvalues (by simp) hothers
  simp only [List.map_append, List.map_cons] at hiff
  constructor
  · intro hparts
    rw [hparts] at hiff
    exact List.head_eq_of_cons_eq (List.append_cancel_left (hiff.mp rfl))
  · intro htexts
    rw [htexts] at hiff
    have hjoined := intercalate_eq_iff.mp (hiff.mpr rfl)
    simp only [List.map_append, List.map_cons] at hjoined
    exact String.toList_inj.mp (eq_of_intercalate_replaced hjoined)

theorem IdentifyAll.ne_empty (h : IdentifyAll str values)
    (hvalues : ∀ component ∈ values, IsText component) (hmem : component ∈ values) :
    textOf str component ≠ "" := by
  intro hempty
  have hpart : keyPart str component = "" := by
    unfold keyPart
    split
    · exact hempty
    · rfl
  have hzero : textOf str component = textOf str (.int 0) :=
    (h.replaced_iff hvalues hmem (.int 0) trivial).mp hpart
  have hint : textOf str (.int 0) = "0" := rfl
  rw [hempty, hint] at hzero
  exact absurd hzero (by decide)

theorem IdentifyAll.ne_zero (h : IdentifyAll str values)
    (hvalues : ∀ component ∈ values, IsText component) (hmem : component ∈ values) :
    textOf str component ≠ "0" := by
  intro htext
  have hnumber : keyPart str component = keyPart str (.int 0) :=
    (h.replaced_iff hvalues hmem (.int 0) trivial).mpr htext
  have hstring : keyPart str component = keyPart str (.str "0") :=
    (h.replaced_iff hvalues hmem (.str "0") trivial).mpr htext
  have hdiffer : "" = "0" := hnumber.symm.trans hstring
  exact absurd hdiffer (by decide)

/-- Texts as components. -/
def textValues (parts : List (List Char)) : List Value :=
  parts.map fun part => .str (String.ofList part)

theorem map_keyPart_textValues (parts : List (List Char)) :
    (textValues parts).map (keyPart str) = parts.map String.ofList := by
  unfold textValues
  rw [List.map_map]
  refine List.map_congr_left fun part _ => ?_
  show keyPart str (.str (String.ofList part)) = String.ofList part
  by_cases hnone : String.ofList part = "" <;> simp [keyPart, Value.truthy, textOf, hnone]

theorem IdentifyAll.colonless (h : IdentifyAll str values)
    (hvalues : ∀ component ∈ values, IsText component) (hlong : 2 ≤ values.length)
    (hmem : component ∈ values) : ':' ∉ (textOf str component).toList := by
  intro hcolon
  have hparts : values.map (keyPart str) = values.map (textOf str) :=
    List.map_congr_left fun other hother =>
      keyPart_eq_textOf (hvalues other hother) (h.ne_zero hvalues hother)
  obtain ⟨others, hlength, hne, hjoined⟩ := @exists_intercalate_eq
    (values.map fun value => (textOf str value).toList) (by simpa using hlong)
    ⟨_, List.mem_map_of_mem hmem, hcolon⟩
  have htexts : ∀ value ∈ textValues others, IsText value := by
    intro value hvalue
    obtain ⟨part, -, rfl⟩ := List.mem_map.mp hvalue
    trivial
  have hiff := h.keyParts_iff hvalues (by simpa [textValues] using hlength) htexts
  have hsame : (textValues others).map (textOf str) = others.map String.ofList := by
    unfold textValues
    rw [List.map_map]
    rfl
  have hletters : (others.map String.ofList).map String.toList = others := by
    have hid : String.toList ∘ String.ofList = id := funext fun part => String.toList_ofList
    rw [List.map_map, hid, List.map_id]
  rw [map_keyPart_textValues, hsame, hparts, intercalate_eq_iff, hletters, List.map_map] at hiff
  have hback := congrArg (List.map String.toList) (hiff.mp hjoined.symm)
  rw [List.map_map, hletters] at hback
  exact hne hback.symm

theorem IdentifyAll.length_le_one (h : IdentifyAll str values) (hnull : Value.null ∈ values) :
    values.length ≤ 1 := by
  by_contra hlong
  have hself := components_eventOf values
  have hkey := (h _ _ hself).lacking (by rw [hself]; exact hnull)
  rw [resolveEntityKey_eq, hself] at hkey
  cases values with
  | nil => simp at hlong
  | cons first rest =>
      have hcount := congrArg (fun text : String => text.toList.count ':') hkey
      simp only [String.toList_intercalate, List.map_cons] at hcount
      have hcolons := count_intercalate (keyPart str first).toList
        ((rest.map (keyPart str)).map String.toList)
      simp only [List.length_map, List.length_cons] at hcolons hlong
      have hnone : "".toList.count ':' = 0 := rfl
      have hcolon : ":".toList = [':'] := rfl
      rw [hnone, hcolon, hcolons] at hcount
      omega

end Necessity

/-- The key of an event identifies its components, for every configuration and event that has them,
exactly if none is empty, 0 or "0", and, if there are several, none has a colon or is missing. -/
theorem identifies_iff (str : Value → String) (values : List Value) :
    IdentifyAll str values ↔ Separable str values := by
  constructor
  · intro h
    exact
      { texts := fun hvalues component hmem => ⟨h.ne_empty hvalues hmem, h.ne_zero hvalues hmem,
          fun hlong => h.colonless hvalues hlong hmem⟩
        lacking := h.length_le_one }
  · rintro hseparable keyField event rfl
    exact hseparable.identifies

/-- A document of an account. -/
def documentEvent (account document : Value) : Dict :=
  [("account", account), ("document", document)]

/-- The configuration with both components. -/
def documentKey : KeyField := .composite ["account", "document"]

/-- No values but texts and integers are written. -/
def noOthers : Value → String := fun _ => ""

/-- Different documents share a key, and one without a number has the key of the number 0. -/
theorem keys_collide :
    resolveEntityKey noOthers (documentEvent (.str "a:b") (.str "c")) documentKey =
        resolveEntityKey noOthers (documentEvent (.str "a") (.str "b:c")) documentKey ∧
      resolveEntityKey noOthers [("account", .str "a")] documentKey =
        resolveEntityKey noOthers (documentEvent (.str "a") (.int 0)) documentKey ∧
      ¬ IdentifyAll noOthers [.str "a:b", .str "c"] ∧ ¬ IdentifyAll noOthers [.str "a", .int 0] ∧
      ¬ IdentifyAll noOthers [.str "a", .null] := by
  have hcolon : resolveEntityKey noOthers (documentEvent (.str "a:b") (.str "c")) documentKey =
      resolveEntityKey noOthers (documentEvent (.str "a") (.str "b:c")) documentKey := rfl
  have hzero : resolveEntityKey noOthers (documentEvent (.str "a") (.int 0)) documentKey =
      resolveEntityKey noOthers (documentEvent (.str "a") (.str "")) documentKey := rfl
  have hcomplete : ∀ account document, IsText account → IsText document →
      Complete documentKey (documentEvent account document) := by
    intro account document haccount hdocument component hmem
    have hpair : component ∈ [account, document] := hmem
    rcases List.mem_cons.mp hpair with rfl | hlast
    · exact haccount
    · rwa [List.mem_singleton.mp hlast]
  refine ⟨hcolon, rfl, fun h => ?_, fun h => ?_, fun h => ?_⟩
  · have hsame := ((h documentKey (documentEvent (.str "a:b") (.str "c")) rfl).complete
      (hcomplete _ _ trivial trivial) _ (hcomplete (.str "a") (.str "b:c") trivial trivial)).mp hcolon
    have hdiffer : ["a:b", "c"] = ["a", "b:c"] := hsame
    exact absurd hdiffer (by decide)
  · have hsame := ((h documentKey (documentEvent (.str "a") (.int 0)) rfl).complete
      (hcomplete _ _ trivial trivial) _ (hcomplete (.str "a") (.str "") trivial trivial)).mp hzero
    have hdiffer : ["a", "0"] = ["a", ""] := hsame
    exact absurd hdiffer (by decide)
  · have hkey := (h documentKey [("account", .str "a"), ("document", .null)] rfl).lacking
      (List.mem_cons_of_mem _ List.mem_cons_self)
    have hdiffer : "a:" = "" := hkey
    exact absurd hdiffer (by decide)

end Sync

end IntegrationPlatform
