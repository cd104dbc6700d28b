import IntegrationPlatform.Gateway.Scheduler
import IntegrationPlatform.Mapping.Resolver
import IntegrationPlatform.Texts.Removal
import Mathlib.Data.List.TakeWhile

/-!
# The texts of mails

`_apply_field_mapping` puts a value in front of the one that its target has already, and takes the values
after the first one out of the text again for the body and for the subject of a mail. `composes_iff` says
for which values the text of the first rule comes back.
-/

namespace IntegrationPlatform

open Value

namespace MailBody

open Gateway (isSpace)
open MappingResolver (MappingEntry joined transformed)
open Removal

/-! ## Texts -/

def strip (text : List Char) : List Char :=
  ((text.dropWhile isSpace).reverse.dropWhile isSpace).reverse

/-- `_html_escape`. What is put in for one letter has none of the others. -/
def htmlEscape (text : List Char) : List Char :=
  text.flatMap fun letter =>
    if letter = '&' then "&amp;".toList
    else if letter = '<' then "&lt;".toList
    else if letter = '>' then "&gt;".toList
    else [letter]

def extraHtml (extras : List String) : String :=
  "".intercalate (extras.map fun extra =>
    "<div style=\"background:#f0f4ff;border-left:4px solid #1565c0;" ++
      "padding:12px;margin-bottom:16px;font-family:sans-serif;\">" ++ "<strong>AI:</strong> " ++
      String.ofList (htmlEscape extra.toList) ++ "</div>")

/-- `f"{extra} "`. -/
def padded (extra : String) : List Char :=
  extra.toList ++ [' ']

/-- The fields in which the values after the first one are set apart. -/
inductive MailField where
  | bodyText
  | subject

namespace MailField

/-- The name of a field. -/
def key : MailField → String
  | .bodyText => "body_text"
  | .subject => "subject"

/-- Some extras and the original. -/
def composed (extras : List String) (original : String) : MailField → String
  | .bodyText => "\n\n".intercalate extras ++ "\n\n---\n\n" ++ original
  | .subject => "[" ++ " | ".intercalate extras ++ "] " ++ String.ofList (strip original.toList)

end MailField

/-! ## `_apply_field_mapping` -/

/-- `result`, `body_text_extras` and `subject_extras`. -/
structure Mapped where
  result : Value := .dict []
  bodyTextExtras : List String := []
  subjectExtras : List String := []

/-- `isinstance(value, (str, int, float))`. -/
def isAtom : Value → Bool
  | .str _ => true
  | .int _ => true
  | .float _ => true
  | .bool _ => true
  | _ => false

/-- `key in result`. -/
def hasKey (key : String) : Value → Bool
  | .dict fields => Assoc.has fields key
  | _ => false

/-- The value of a key, changed if it is there. -/
def changeKey (key : String) (change : Value → Except String Value) : Value → Except String Value
  | .dict fields =>
      match Assoc.find fields key with
      | some value => (change value).map fun changed => .dict (Assoc.put fields key changed)
      | none => .ok (.dict fields)
  | data => .ok data

/-- A text in which the extras are taken out of the original and set apart. -/
def compose (field : MailField) (extras : List String) : Value → Except String Value
  | .str original =>
      .ok (.str (field.composed extras
        (String.ofList (removeAll (extras.map padded) original.toList))))
  | value => .error ("'" ++ value.typeName ++ "' object has no attribute 'replace'")

/-- An HTML text with the extras in front of it. An empty one is left. -/
def composeHtml (extras : List String) (value : Value) : Except String Value :=
  if value.truthy then
    match value with
    | .str html => .ok (.str (extraHtml extras ++ html))
    | value => .error ("can only concatenate str (not \"" ++ value.typeName ++ "\") to str")
  else .ok value

section Mapping

variable (texts : TextFunctions) (transforms : Scope → List Value → Dict → Except String Value)

def resolveSources (rule : MappingEntry) (scope : Scope) : List Value :=
  if rule.sources ≠ [] then
    rule.sources.map fun source => Conditions.resolveValue texts source scope
  else if rule.fromField = "" then []
  else if rule.fromField = "__custom__" then [rule.fromCustom]
  else [Conditions.resolveValue texts rule.fromField scope]

/-- The value that a rule writes, unless it is skipped or its value is `None`. -/
def ruleValue (rule : MappingEntry) (scope : Scope) : Except String (Option Value) :=
  if rule.target = "" then .ok none
  else
    let resolved := resolveSources texts rule scope
    if resolved.isEmpty ∧ rule.fromField = "" ∧ rule.sources = [] then .ok none
    else
      (if rule.transform.truthy then transformed (transforms scope) rule.transform resolved
      else
        match resolved with
        | [value] => .ok value
        | values => .ok (joined texts values)).map fun value =>
          if value.pyEq .null then none else some value

/-- One rule. -/
def applyRule (scope : Scope) (rule : MappingEntry) (mapped : Mapped) : Except String Mapped :=
  (ruleValue texts transforms rule scope).bind fun value =>
    match value with
    | none => .ok mapped
    | some value =>
        let isConcat := hasKey rule.target mapped.result
        (setNested texts true rule.target value mapped.result).map fun result =>
          if isConcat && isAtom value then
            if rule.target = MailField.bodyText.key then
              { mapped with result, bodyTextExtras := mapped.bodyTextExtras ++ [texts.str value] }
            else if rule.target = MailField.subject.key then
              { mapped with result, subjectExtras := mapped.subjectExtras ++ [texts.str value] }
            else { mapped with result }
          else { mapped with result }

/-- The rules in their order. -/
def applyRules (scope : Scope) : List MappingEntry → Mapped → Except String Mapped
  | [], mapped => .ok mapped
  | rule :: rules, mapped => (applyRule texts transforms scope rule mapped).bind (applyRules scope rules)

/-- The body and the subject, if they have extras. -/
def finish (mapped : Mapped) : Except String Value :=
  ((if mapped.bodyTextExtras.isEmpty then .ok mapped.result
    else
      (changeKey MailField.bodyText.key (compose .bodyText mapped.bodyTextExtras) mapped.result).bind
        (changeKey "body_html" (composeHtml mapped.bodyTextExtras))) : Except String Value).bind
    fun result =>
      if mapped.subjectExtras.isEmpty then .ok result
      else changeKey MailField.subject.key (compose .subject mapped.subjectExtras) result

def applyFieldMapping (rules : List MappingEntry) (scope : Scope) : Except String Value :=
  (applyRules texts transforms scope rules {}).bind finish

/-! ## Composition -/

/-- The rules write these texts to the field, one after the other. -/
def Writes (field : MailField) (scope : Scope) : List MappingEntry → List String → Prop :=
  List.Forall₂ fun rule text =>
    rule.target = field.key ∧ ruleValue texts transforms rule scope = .ok (some (.str text))

/-- Whatever text is first, these texts after it become the extras in front of it. -/
def Composes (field : MailField) (extras : List String) : Prop :=
  ∀ scope rules original, Writes texts transforms field scope rules (original :: extras) →
    applyFieldMapping texts transforms rules scope =
      .ok (.dict [(field.key, .str (field.composed extras original))])

end Mapping

/-- What the extras become before the original: the last one first, with a blank behind each. -/
def gathered (extras : List String) : List Char :=
  (extras.map padded).reverse.flatten

/-- Each of the extras is found, with a blank behind it, in what the extras before it leave of them all. -/
def Separable (extras : List String) : Prop :=
  (takeOut (extras.map padded) (gathered extras)).isSome

instance (extras : List String) : Decidable (Separable extras) :=
  inferInstanceAs (Decidable (_ = true))

section Composition

variable {texts : TextFunctions} {transforms : Scope → List Value → Dict → Except String Value}
  {field : MailField} {scope : Scope}

/-- What the field holds after the rules, before the extras are set apart. -/
def heldText (extras : List String) (original : String) : String :=
  String.ofList (gathered extras ++ original.toList)

/-- The state after a rule for the field and so many more. -/
def stateAfter (original : String) (extras : List String) : MailField → Mapped
  | .bodyText =>
      { result := .dict [(MailField.bodyText.key, .str (heldText extras original))]
        bodyTextExtras := extras }
  | .subject =>
      { result := .dict [(MailField.subject.key, .str (heldText extras original))]
        subjectExtras := extras }

theorem heldText_concat (extras : List String) (original text : String) :
    heldText (extras ++ [text]) original = text ++ " " ++ heldText extras original := by
  apply String.toList_inj.mp
  simp [heldText, gathered, padded]

theorem setNested_key (field : MailField) (value data : Value) :
    setNested texts true field.key value data = setKey texts true value field.key.toList data := by
  cases field <;> rfl

theorem applyRule_first {rule : MappingEntry} {text : String} (htarget : rule.target = field.key)
    (hvalue : ruleValue texts transforms rule scope = .ok (some (.str text))) :
    applyRule texts transforms scope rule {} = .ok (stateAfter text [] field) := by
  have hheld : heldText [] text = text := String.toList_inj.mp (by simp [heldText, gathered])
  rw [applyRule, hvalue, htarget]
  simp only [Except.bind, setNested_key, setKey, Assoc.find, Assoc.put, String.ofList_toList]
  cases field <;> simp [stateAfter, hheld, hasKey, Assoc.has, Assoc.find, Except.map]

variable {extras : List String}

theorem applyRule_later (hstr : ∀ text, texts.str (.str text) = text) {rule : MappingEntry}
    {text original : String} (htarget : rule.target = field.key)
    (hvalue : ruleValue texts transforms rule scope = .ok (some (.str text))) :
    applyRule texts transforms scope rule (stateAfter original extras field) =
      .ok (stateAfter original (extras ++ [text]) field) := by
  rw [applyRule, hvalue, htarget]
  simp only [Except.bind, setNested_key]
  cases field <;>
    simp [stateAfter, setKey, Assoc.find, Assoc.put, hasKey, Assoc.has, Except.map, isAtom, combine, hstr,
      heldText_concat, MailField.key]

theorem applyRules_later (hstr : ∀ text, texts.str (.str text) = text) {rules : List MappingEntry}
    {original : String} {extras later : List String}
    (h : Writes texts transforms field scope rules later) :
    applyRules texts transforms scope rules (stateAfter original extras field) =
      .ok (stateAfter original (extras ++ later) field) := by
  induction h generalizing extras with
  | nil => rw [applyRules, List.append_nil]
  | cons hrule _ ih =>
      rw [applyRules, applyRule_later hstr hrule.1 hrule.2]
      show applyRules texts transforms scope _ _ = _
      rw [ih, List.append_assoc, List.singleton_append]

theorem applyFieldMapping_of_writes (hstr : ∀ text, texts.str (.str text) = text)
    {rules : List MappingEntry} {original : String} (hne : extras ≠ [])
    (h : Writes texts transforms field scope rules (original :: extras)) :
    applyFieldMapping texts transforms rules scope =
      .ok (.dict [(field.key, .str (field.composed extras (String.ofList
        (removeAll (extras.map padded) (gathered extras ++ original.toList)))))]) := by
  cases h with
  | cons hfirst hlater =>
      have hrules : applyRules texts transforms scope _ (stateAfter original [] field) =
          .ok (stateAfter original ([] ++ extras) field) := applyRules_later hstr hlater
      rw [List.nil_append] at hrules
      rw [applyFieldMapping, applyRules, applyRule_first hfirst.1 hfirst.2]
      show (applyRules texts transforms scope _ _).bind finish = _
      rw [hrules]
      cases extras with
      | nil => exact absurd rfl hne
      | cons extra extras =>
          cases field <;> simp [finish, stateAfter, changeKey, compose, heldText, Assoc.find, Assoc.put,
            Except.bind, Except.map, MailField.key]

/-- A rule that writes a text to the field. -/
def customRule (field : MailField) (text : String) : MappingEntry where
  toField := field.key
  fromField := "__custom__"
  fromCustom := .str text

theorem writes_customRule (field : MailField) (scope : Scope) (values : List String) :
    Writes texts transforms field scope (values.map (customRule field)) values := by
  unfold Writes
  rw [List.forall₂_map_left_iff]
  refine List.forall₂_same.mpr fun text _ => ⟨?_, ?_⟩
  · cases field <;> rfl
  · cases field <;> rfl

theorem composes_iff_composed (hstr : ∀ text, texts.str (.str text) = text) (hne : extras ≠ []) :
    Composes texts transforms field extras ↔ ∀ original : String,
      field.composed extras (String.ofList
        (removeAll (extras.map padded) (gathered extras ++ original.toList))) =
      field.composed extras original := by
  constructor
  · intro h original
    have hwrites := @writes_customRule texts transforms field { data := [], triggerData := [] }
      (original :: extras)
    have heq := (applyFieldMapping_of_writes hstr hne hwrites).symm.trans (h _ _ _ hwrites)
    simpa using heq
  · intro h scope rules original hwrites
    rw [applyFieldMapping_of_writes hstr hne hwrites, h original]

end Composition

/-! ## White space -/

theorem strip_eq_nil {text : List Char} (h : strip text = []) : ∀ letter ∈ text, isSpace letter = true := by
  rw [strip, List.reverse_eq_nil_iff, List.dropWhile_eq_nil_iff] at h
  intro letter hletter
  by_contra hspace
  -- A letter that is no white space stays, and so something stays.
  have hkept : text.dropWhile isSpace ≠ [] := fun hnil => hspace (List.dropWhile_eq_nil_iff.mp hnil _ hletter)
  have hhead := List.head_dropWhile_not isSpace hkept
  rw [h _ (List.mem_reverse.mpr (List.head_mem hkept))] at hhead
  cases hhead

theorem strip_append {space text : List Char} (h : ∀ letter ∈ space, isSpace letter = true) :
    strip (space ++ text) = strip text := by
  rw [strip, strip, List.dropWhile_append_of_pos h]

theorem strip_between {first last : Char} (hfirst : isSpace first = false) (hlast : isSpace last = false)
    (text : List Char) : strip (first :: (text ++ [last])) = first :: (text ++ [last]) := by
  have hreverse : (first :: (text ++ [last])).reverse = last :: (text.reverse ++ [first]) := by simp
  rw [strip, List.dropWhile_cons_of_neg (by rw [hfirst]; exact Bool.false_ne_true), hreverse,
    List.dropWhile_cons_of_neg (by rw [hlast]; exact Bool.false_ne_true), ← hreverse, List.reverse_reverse]

/-! ## Separable extras -/

section Separable

variable {extras : List String}

theorem perm_gathered (extras : List String) : (gathered extras).Perm (extras.map padded).flatten :=
  (List.reverse_perm _).flatten

theorem removeAll_of_separable (h : Separable extras) (original : List Char) :
    removeAll (extras.map padded) (gathered extras ++ original) = original := by
  obtain ⟨rest, hrest⟩ := Option.isSome_iff_exists.mp h
  have hcount := countP_takeOut (fun _ => true) hrest
  have hall := (perm_gathered extras).countP_eq fun _ => true
  simp only [List.countP_true] at hcount hall
  have hnil : rest = [] := List.length_eq_zero_iff.mp (by omega)
  rw [removeAll_append hrest, hnil, List.nil_append]

theorem exists_of_not_separable (h : ¬Separable extras) :
    ∃ earlier part later rest, extras.map padded = earlier ++ part :: later ∧
      takeOut earlier (gathered extras) = some rest ∧ rest.dropInfix? part = none ∧
      ∀ counted, part.countP counted ≤
        (removeAll (extras.map padded) (gathered extras)).countP counted := by
  rw [Separable, Option.not_isSome_iff_eq_none] at h
  obtain ⟨earlier, part, later, rest, hparts, hrest, hnone⟩ := exists_of_takeOut_eq_none h
  refine ⟨earlier, part, later, rest, hparts, hrest, hnone, fun counted => ?_⟩
  have hperm := perm_gathered extras
  rw [hparts] at hperm ⊢
  exact countP_le_of_not_found counted hperm hrest hnone

end Separable

/-! ## Results -/

section Results

variable {texts : TextFunctions} {transforms : Scope → List Value → Dict → Except String Value}
  {extras : List String}

theorem getLast?_of_mem_padded {part : List Char} (h : part ∈ extras.map padded) :
    part.getLast? = some ' ' := by
  obtain ⟨extra, -, rfl⟩ := List.mem_map.mp h
  simp [padded]

theorem bodyText_not_composed (h : ¬Separable extras) :
    removeAll (extras.map padded) (gathered extras) ≠ [] := by
  obtain ⟨earlier, part, later, rest, hparts, -, -, hcount⟩ := exists_of_not_separable h
  intro hnil
  have hle := hcount fun _ => true
  simp only [hnil, List.countP_true, List.length_nil] at hle
  have hlast := @getLast?_of_mem_padded extras part (by rw [hparts]; simp)
  rw [List.length_eq_zero_iff.mp (Nat.le_zero.mp hle)] at hlast
  cases hlast

/-- In the subject, an extra that is not found among the others but in the original is taken out of the
original, unless something is left of the extras. -/
theorem subject_not_composed (h : ¬Separable extras) :
    ∃ original, strip (removeAll (extras.map padded) (gathered extras ++ original)) ≠ strip original := by
  obtain ⟨earlier, part, later, rest, hparts, hrest, hnone, hcount⟩ := exists_of_not_separable h
  by_contra hall
  push Not at hall
  have hempty := hall []
  rw [List.append_nil] at hempty
  have hspace := strip_eq_nil hempty
  -- The part that is not found is white space, since its letters are left.
  have hpart : ∀ letter ∈ part, isSpace letter = true := by
    have hle := hcount fun letter => !isSpace letter
    have hzero : (removeAll (extras.map padded) (gathered extras)).countP (fun letter => !isSpace letter) =
        0 := List.countP_eq_zero.mpr fun letter hletter => by simp [hspace letter hletter]
    rw [hzero] at hle
    intro letter hletter
    simpa using List.countP_eq_zero.mp (Nat.le_zero.mp hle) letter hletter
  have ha : 'a' ∉ part := fun hmem => absurd (hpart 'a' hmem) (by decide)
  have hlater : ∀ part' ∈ later, part'.getLast? = some ' ' := fun part' hmem =>
    @getLast?_of_mem_padded extras part' (by rw [hparts]; simp [hmem])
  -- It is taken out of the original, and the parts after it are found in front of the original only.
  have hremoved : removeAll (extras.map padded) (gathered extras ++ 'a' :: (part ++ ['a'])) =
      removeAll (extras.map padded) (gathered extras) ++ ['a', 'a'] := by
    have hearlier : ∀ tail, earlier.foldl removeFirst (gathered extras ++ tail) = rest ++ tail :=
      removeAll_append hrest
    have hearlier' := hearlier []
    rw [List.append_nil, List.append_nil] at hearlier'
    rw [hparts, removeAll, removeAll, List.foldl_append, List.foldl_append, hearlier, hearlier',
      List.foldl_cons, List.foldl_cons, removeFirst_of_not_found hnone ha, removeFirst, hnone]
    exact removeAll_append_of_last hlater (by decide) rest
  have hstripped := hall ('a' :: (part ++ ['a']))
  have hletter : isSpace 'a' = false := by decide
  rw [hremoved, strip_append hspace, strip_between hletter hletter,
    show ['a', 'a'] = 'a' :: ([] ++ ['a']) from rfl, strip_between hletter hletter] at hstripped
  have hlast := @getLast?_of_mem_padded extras part (by rw [hparts]; simp)
  have hnil : part = [] := by simpa using hstripped
  rw [hnil] at hlast
  cases hlast

/-- The text of the first rule comes back, whatever it is, exactly if the texts of the rules after it are
separable. -/
theorem composes_iff (hstr : ∀ text, texts.str (.str text) = text) (field : MailField)
    (hne : extras ≠ []) :
    Composes texts transforms field extras ↔ Separable extras := by
  rw [composes_iff_composed hstr hne]
  constructor
  · intro h
    by_contra hnot
    cases field with
    | bodyText =>
        have hempty := h ""
        simp only [MailField.composed, String.append_right_inj, String.toList_empty,
          List.append_nil] at hempty
        exact bodyText_not_composed hnot (by simpa using congrArg String.toList hempty)
    | subject =>
        obtain ⟨original, hne⟩ := subject_not_composed hnot
        have heq := h (String.ofList original)
        simp only [MailField.composed, String.append_right_inj, String.toList_ofList] at heq
        exact hne (by simpa using congrArg String.toList heq)
  · intro h original
    rw [removeAll_of_separable h, String.ofList_toList]

end Results

/-! ## Samples -/

namespace Sample

def mapBody (values : List String) : Except String Value :=
  applyFieldMapping Conditions.Sample.texts (fun _ _ _ => .ok .null)
    (values.map (customRule .bodyText)) { data := [], triggerData := [] }

end Sample

/-- An answer comes back from behind two summaries. -/
theorem composes_iff_summaries :
    Composes Conditions.Sample.texts (fun _ _ _ => .ok .null) .bodyText ["Summary", "Dear team"] :=
  (composes_iff (fun _ => rfl) .bodyText (by decide)).mpr (by decide)

/-- A text that occurs in a later one is taken out of that one, and the later one is not found then. -/
theorem body_corrupted :
    Sample.mapBody ["Hello", "Summary", "The Summary follows"] =
      .ok (.dict [("body_text",
        .str "Summary\n\nThe Summary follows\n\n---\n\nThe follows Summary Hello")]) ∧
    MailField.composed ["Summary", "The Summary follows"] "Hello" .bodyText =
      "Summary\n\nThe Summary follows\n\n---\n\nHello" := by
  constructor
  · rfl
  · decide

end MailBody

end IntegrationPlatform
