import IntegrationPlatform.Texts.Format
import IntegrationPlatform.Texts.Substitution
import IntegrationPlatform.Workflow.Conditions
import Mathlib.Data.List.GetD

/-!
# Templates of field mappings

The workflow engine and the mapping resolver fill in the placeholders of a template one after the other,
also in the values that they have put in before. `BaseMapper` does the same with its own placeholders, and
takes the result for a format string. `transforms_opaque` says when nothing in a value is taken for a
placeholder or a field.
-/

namespace IntegrationPlatform

namespace Templates

open Format
open Substitution

/-! ## Placeholders -/

/-- `f"{{{i}}}"`: the placeholder of a value for the workflow engine and the mapping resolver. -/
def hole (index : Nat) : List Char :=
  '\x7b' :: (Nat.toDigits 10 index ++ ['\x7d'])

/-- `f"{{{{{i}}}}}"`: the placeholder of a value for `BaseMapper`. -/
def doubleHole (index : Nat) : List Char :=
  '\x7b' :: (hole index ++ ['\x7d'])

section Transforms

variable (texts : TextFunctions)

/-- `str(v) if v is not None else ""`. -/
def shown : Value → List Char
  | .null => []
  | value => (texts.str value).toList

/-- The placeholders of some values, from this position on, and their texts. -/
def bindingsFrom (spell : Nat → List Char) : Nat → List Value → List (List Char × List Char)
  | _, [] => []
  | index, value :: values => (spell index, shown texts value) :: bindingsFrom spell (index + 1) values

/-- The placeholders of values and their texts. -/
def bindingsOf (spell : Nat → List Char) (values : List Value) : List (List Char × List Char) :=
  bindingsFrom texts spell 0 values

/-! ## Transforms -/

/-- The `template` branch of `_apply_transform` of the workflow engine. -/
def engineTemplate (template : String) (values : List Value) : String :=
  String.ofList (substitute (bindingsOf texts hole values) template.toList)

/-- The `template` branch of `MappingResolver._apply_transform`. -/
def resolverTemplate (template : String) (values : List Value) : String :=
  String.ofList (substitute (bindingsOf texts hole values) template.toList)

/-- What `str.format` raises. -/
inductive FormatFailure where
  /-- A `KeyError` or an `IndexError`. -/
  | lookup
  /-- A `ValueError` of the parser. -/
  | format (error : FormatError)
  /-- Anything else. -/
  | raises (message : String)

variable (special : Value → Field → Except FormatFailure (List Char))

/-- `value`: the only name in the templates of `BaseMapper`. -/
def valueName : List Char :=
  ['v', 'a', 'l', 'u', 'e']

/-- A name is a position that is no `Py_ssize_t`. -/
def tooManyDigits (name : List Char) : Bool :=
  name.all Char.isDigit && decide (2 ^ 63 ≤ Nat.ofDigitChars 10 name 0)

/-- A replacement field in `tpl.format(value=value)`. Only `value` has a name, and there are no positions. -/
def renderField (value : Value) (field : Field) : Except FormatFailure (List Char) :=
  let first := field.name.takeWhile fun letter => letter ≠ '.' && letter ≠ '['
  if first = valueName then
    if field.name = valueName ∧ field.conversion = none ∧ field.spec = [] then
      .ok (texts.str value).toList
    else special value field
  -- Digits of other scripts make a position, too.
  else if first.any fun letter => decide (128 ≤ letter.toNat) then special value field
  else if tooManyDigits first then .error (.raises "Too many decimal digits in format string")
  else .error .lookup

/-- The `TEMPLATE` branch of `BaseMapper._apply_transform`. -/
def mapperTemplate (template : String) (values : List Value) : Except FormatFailure String :=
  let tpl := substitute (bindingsOf texts doubleHole values) template.toList
  match format (renderField texts special (values.head?.getD .null)) .format tpl with
  | .ok result => .ok (String.ofList result)
  | .error .lookup => .ok (String.ofList tpl)
  | .error failure => .error failure

/-! ## Opacity -/

/-- For the values, and for every initial part of them, the template becomes what it is with the texts of
all values put in at once. -/
def Opaque (transform : String → List Value → String) (template : String) (values : List Value) : Prop :=
  ∀ count ≤ values.length, transform template (values.take count) =
    String.ofList (fill (bindingsOf texts hole (values.take count)) template.toList)

end Transforms

/-- What can stand in a template of `BaseMapper`. -/
inductive Hole where
  | source (index : Nat)
  | value

/-- Some text and a placeholder after it. -/
structure MapperPiece where
  literal : List Char
  hole : Hole
  braceless : ∀ letter ∈ literal, Braceless letter

/-- A template of `BaseMapper` that has braces only in its placeholders. -/
structure MapperTemplate where
  pieces : List MapperPiece
  last : List Char
  braceless : ∀ letter ∈ last, Braceless letter

/-- The text of pieces whose placeholders have these texts. -/
def assemble (texts : Hole → List Char) : List MapperPiece → List Char → List Char
  | [], last => last
  | piece :: rest, last => piece.literal ++ (texts piece.hole ++ assemble texts rest last)

/-- The text of a placeholder. -/
def Hole.spell : Hole → List Char
  | .source index => doubleHole index
  | .value => '\x7b' :: (valueName ++ ['\x7d'])

/-- The text of the value that a placeholder stands for. -/
def Hole.text (texts : TextFunctions) (values : List Value) : Hole → List Char
  | .source index => shown texts (values.getD index .null)
  | .value => (texts.str (values.head?.getD .null)).toList

/-- A `{{i}}` stands for a value whose text has no brace. -/
def MapperPiece.Plain (texts : TextFunctions) (values : List Value) (piece : MapperPiece) : Prop :=
  ∀ index, piece.hole = .source index →
    index < values.length ∧ ∀ letter ∈ shown texts (values.getD index .null), Braceless letter

namespace MapperTemplate

/-- The text of a template. -/
def spell (template : MapperTemplate) : String :=
  String.ofList (assemble Hole.spell template.pieces template.last)

/-- The template with the texts of the values. -/
def fill (texts : TextFunctions) (values : List Value) (template : MapperTemplate) : String :=
  String.ofList (assemble (Hole.text texts values) template.pieces template.last)

/-- Each `{{i}}` of the template stands for a value, and the text of that value has no brace. -/
def Plain (texts : TextFunctions) (values : List Value) (template : MapperTemplate) : Prop :=
  ∀ piece ∈ template.pieces, piece.Plain texts values

end MapperTemplate

/-! ## Placeholders do not overlap -/

theorem mem_of_append_eq {inner behind before rest : List Char} {letter : Char}
    (h : inner ++ behind = before ++ letter :: rest) (hlength : before.length < inner.length) :
    letter ∈ inner := by
  rcases List.append_eq_append_iff.mp h with ⟨more, rfl, -⟩ | ⟨more, rfl, hmore⟩
  · rw [List.length_append] at hlength
    omega
  · cases more with
    | nil =>
        rw [List.append_nil] at hlength
        omega
    | cons head more =>
        obtain ⟨rfl, -⟩ := List.cons.inj hmore
        simp

theorem not_mem_toDigits {letter : Char} (h : letter.isDigit = false) (index : Nat) :
    letter ∉ Nat.toDigits 10 index := by
  intro hmem
  rw [Nat.isDigit_of_mem_toDigits (by decide) (by decide) hmem] at h
  cases h

variable {rest rest' : List Char} {index index' : Nat}

theorem toDigits_inj
    (h : Nat.toDigits 10 index ++ '\x7d' :: rest = Nat.toDigits 10 index' ++ '\x7d' :: rest') :
    index = index' := by
  have htake : ∀ (index : Nat) (rest : List Char),
      (Nat.toDigits 10 index ++ '\x7d' :: rest).takeWhile (· ≠ '\x7d') = Nat.toDigits 10 index := by
    intro index rest
    rw [List.takeWhile_append_of_pos]
    · simp
    · intro letter hletter
      have hne : letter ≠ '\x7d' := by
        rintro rfl
        exact not_mem_toDigits (by decide) index hletter
      simpa using hne
  have hdigits := congrArg (List.takeWhile (· ≠ '\x7d')) h
  rw [htake, htake] at hdigits
  have hvalue := congrArg (fun digits => Nat.ofDigitChars 10 digits 0) hdigits
  simpa only [Nat.ofDigitChars_ten_toDigits] using hvalue

theorem not_mem_behind_hole (index : Nat) (closing : List Char) (h : '\x7b' ∉ closing) :
    '\x7b' ∉ Nat.toDigits 10 index ++ closing := by
  rw [List.mem_append, not_or]
  exact ⟨not_mem_toDigits (by decide) index, h⟩

theorem hole_inj (h : hole index ++ rest = hole index' ++ rest') : index = index' := by
  simp only [hole, List.cons_append, List.cons.injEq, true_and, List.append_assoc] at h
  exact toDigits_inj h

theorem doubleHole_inj
    (h : doubleHole index ++ rest = doubleHole index' ++ rest') : index = index' := by
  rw [doubleHole, doubleHole, List.cons_append, List.cons_append, List.append_assoc, List.append_assoc] at h
  exact hole_inj (List.tail_eq_of_cons_eq h)

theorem independent_of_apart {spell : Nat → List Char} (hne : ∀ index, spell index ≠ [])
    (hinj : ∀ {index index' : Nat} {rest rest' : List Char},
      spell index ++ rest = spell index' ++ rest' → index = index')
    (hapart : ∀ index index' letter before behind after,
      spell index ++ behind = letter :: before ++ (spell index' ++ after) →
        ¬(letter :: before).length < (spell index).length)
    (indices : List Nat) : Independent (indices.map spell) := by
  refine ⟨?_, ?_⟩
  · intro key hkey
    obtain ⟨index, -, rfl⟩ := List.mem_map.mp hkey
    exact hne index
  · intro first hfirst second hsecond before behind after heq hlength
    obtain ⟨index, -, rfl⟩ := List.mem_map.mp hfirst
    obtain ⟨index', -, rfl⟩ := List.mem_map.mp hsecond
    cases before with
    | nil => exact ⟨rfl, congrArg spell (hinj heq)⟩
    | cons letter before => exact absurd hlength (hapart index index' letter before behind after heq)

theorem independent_hole (indices : List Nat) : Independent (indices.map hole) := by
  refine independent_of_apart (fun _ => List.cons_ne_nil _ _) hole_inj ?_ indices
  intro index index' letter before behind after heq hlength
  obtain ⟨-, htail⟩ := List.cons.inj heq
  have hmem := mem_of_append_eq htail (Nat.lt_of_succ_lt_succ hlength)
  exact not_mem_behind_hole index _ (by decide) hmem

theorem independent_doubleHole (indices : List Nat) : Independent (indices.map doubleHole) := by
  refine independent_of_apart (fun _ => List.cons_ne_nil _ _) doubleHole_inj ?_ indices
  intro index index' letter before behind after heq hlength
  -- Behind its first letter there is one more brace that opens, but not two.
  obtain ⟨-, htail⟩ := List.cons.inj heq
  cases before with
  | nil =>
      obtain ⟨-, hsecond⟩ := List.cons.inj htail
      have hmem := @mem_of_append_eq (Nat.toDigits 10 index ++ ['\x7d'] ++ ['\x7d']) behind []
        (Nat.toDigits 10 index' ++ ['\x7d'] ++ ['\x7d'] ++ after) '\x7b'
        (by simpa [hole] using hsecond) (by simp)
      rw [List.append_assoc] at hmem
      exact not_mem_behind_hole index _ (by decide) hmem
  | cons letter' before =>
      obtain ⟨-, hrest⟩ := List.cons.inj htail
      have hbefore : before.length < (Nat.toDigits 10 index ++ ['\x7d'] ++ ['\x7d']).length := by
        simp only [hole, List.length_cons, List.length_append, List.length_nil] at hlength ⊢
        omega
      have hmem := @mem_of_append_eq (Nat.toDigits 10 index ++ ['\x7d'] ++ ['\x7d']) behind before
        (hole index' ++ ['\x7d'] ++ after) '\x7b' (by simpa [doubleHole] using hrest) hbefore
      rw [List.append_assoc] at hmem
      exact not_mem_behind_hole index _ (by decide) hmem

/-! ## The engine and the resolver -/

section Bindings

variable (texts : TextFunctions) (spell : Nat → List Char)

theorem keysOf_bindingsFrom (index : Nat) (values : List Value) :
    keysOf (bindingsFrom texts spell index values) = (List.range' index values.length).map spell := by
  induction values generalizing index with
  | nil => rfl
  | cons value values ih =>
      rw [bindingsFrom, keysOf, List.map_cons, ← keysOf, ih, List.length_cons, List.range'_succ,
        List.map_cons]

theorem bindingsFrom_take (index count : Nat) (values : List Value) :
    bindingsFrom texts spell index (values.take count) =
      (bindingsFrom texts spell index values).take count := by
  induction values generalizing index count with
  | nil => cases count <;> rfl
  | cons value values ih =>
      cases count with
      | zero => rfl
      | succ count => rw [List.take_succ_cons, bindingsFrom, bindingsFrom, List.take_succ_cons, ih]

theorem length_bindingsFrom (index : Nat) (values : List Value) :
    (bindingsFrom texts spell index values).length = values.length := by
  have hlength := congrArg List.length (keysOf_bindingsFrom texts spell index values)
  rwa [keysOf, List.length_map, List.length_map, List.length_range'] at hlength

theorem nodup_keysOf_bindingsOf (values : List Value) : (keysOf (bindingsOf texts hole values)).Nodup := by
  have hinjective : Function.Injective hole := by
    intro index index' h
    exact toDigits_inj (List.cons.inj h).2
  rw [bindingsOf, keysOf_bindingsFrom]
  exact List.Nodup.map hinjective List.nodup_range'

theorem untouched_iff (template : String) (values : List Value) :
    Opaque texts (engineTemplate texts) template values ↔
      Untouched (bindingsOf texts hole values) template.toList := by
  have hpool : Independent (keysOf (bindingsOf texts hole values)) := by
    rw [bindingsOf, keysOf_bindingsFrom]
    exact independent_hole _
  rw [← substitute_eq_fill_iff hpool (nodup_keysOf_bindingsOf texts values), bindingsOf,
    length_bindingsFrom]
  unfold Opaque engineTemplate bindingsOf
  simp only [bindingsFrom_take, String.ofList_inj]

end Bindings

/-! ## `BaseMapper` -/

section Mapper

variable {texts : TextFunctions} {special : Value → Field → Except FormatFailure (List Char)}
  {values : List Value}

/-- The text of a placeholder when so many of the values have been put in. -/
def partText (texts : TextFunctions) (values : List Value) (count : Nat) : Hole → List Char
  | .source index => if index < count then shown texts (values.getD index .null) else doubleHole index
  | .value => '\x7b' :: (valueName ++ ['\x7d'])

theorem partText_source (count index : Nat) :
    partText texts values count (.source index) =
      if index < count then shown texts (values.getD index .null) else doubleHole index :=
  rfl

theorem replace_doubleHole_front (index : Nat) {front : List Char} (h : '\x7b' ∉ front)
    (value rest : List Char) :
    replace (doubleHole index) value (front ++ rest) = front ++ replace (doubleHole index) value rest :=
  replace_front h value rest

theorem replace_doubleHole_brace (index : Nat) (value rest : List Char) :
    replace (doubleHole index) value ('\x7b' :: 'v' :: rest) =
      '\x7b' :: replace (doubleHole index) value ('v' :: rest) := by
  have hnone : (oneOf [doubleHole index]).find ('\x7b' :: 'v' :: rest) = none := by
    refine find_eq_none fun key hkey _ hprefix => ?_
    rw [List.mem_singleton.mp hkey, doubleHole, hole, List.cons_prefix_cons,
      List.cons_append, List.cons_prefix_cons] at hprefix
    exact absurd hprefix.2.1 (by decide)
  exact Pattern.sub_letter _ hnone

theorem not_mem_of_braceless {text : List Char} (h : ∀ letter ∈ text, Braceless letter) :
    '\x7b' ∉ text :=
  fun hmem => (h _ hmem).1 rfl

variable {pieces : List MapperPiece}

/-- One value more is put in. -/
theorem replace_assemble (count : Nat)
    (hpieces : ∀ piece ∈ pieces, piece.Plain texts values) {last : List Char}
    (hlast : ∀ letter ∈ last, Braceless letter) :
    replace (doubleHole count) (shown texts (values.getD count .null))
        (assemble (partText texts values count) pieces last) =
      assemble (partText texts values (count + 1)) pieces last := by
  induction pieces with
  | nil =>
      have hfront := replace_doubleHole_front count (not_mem_of_braceless hlast)
        (shown texts (values.getD count .null)) []
      rw [List.append_nil] at hfront
      rw [assemble, assemble, hfront]
      exact List.append_nil last
  | cons piece pieces ih =>
      obtain ⟨hpiece, hrest⟩ := List.forall_mem_cons.mp hpieces
      specialize ih hrest
      have hliteral := not_mem_of_braceless piece.braceless
      rw [assemble, assemble, replace_doubleHole_front count hliteral]
      congr 1
      cases hhole : piece.hole with
      | value =>
          -- The brace that opens is not followed by another one.
          have hopen := replace_doubleHole_brace count (shown texts (values.getD count .null))
          have hrest := replace_doubleHole_front count (show '\x7b' ∉ valueName ++ ['\x7d'] by decide)
            (shown texts (values.getD count .null)) (assemble (partText texts values count) pieces last)
          exact (hopen _).trans (congrArg (List.cons _) (hrest.trans (congrArg _ ih)))
      | source index =>
          rcases Nat.lt_trichotomy index count with hlt | rfl | hgt
          · have htext := (hpiece index hhole).2
            rw [partText_source, partText_source, if_pos hlt, if_pos (Nat.lt_succ_of_lt hlt),
              replace_doubleHole_front count (not_mem_of_braceless htext), ih]
          · have hkey := replace_append (independent_doubleHole [index]) (List.mem_singleton_self _)
              (shown texts (values.getD index .null)) []
              (assemble (partText texts values index) pieces last)
            rw [partText_source, partText_source, if_neg (Nat.lt_irrefl _), if_pos (Nat.lt_succ_self _), ← ih]
            exact hkey
          · have hother : doubleHole index ≠ doubleHole count := by
              intro heq
              have hsame := doubleHole_inj (congrArg (· ++ []) heq)
              omega
            have hkey := replace_append_other (independent_doubleHole [count, index])
              (show doubleHole count ∈ [count, index].map doubleHole by simp)
              (show doubleHole index ∈ [count, index].map doubleHole by simp) hother
              (shown texts (values.getD count .null)) []
              (assemble (partText texts values count) pieces last)
            rw [partText_source, partText_source, if_neg (by omega), if_neg (by omega), ← ih]
            exact hkey

theorem substitute_assemble (hpieces : ∀ piece ∈ pieces, piece.Plain texts values)
    {last : List Char} (hlast : ∀ letter ∈ last, Braceless letter) (rest : List Value)
    {count : Nat} (hrest : values.drop count = rest) :
    substitute (bindingsFrom texts doubleHole count rest)
        (assemble (partText texts values count) pieces last) =
      assemble (partText texts values (count + rest.length)) pieces last := by
  induction rest generalizing count with
  | nil => rfl
  | cons value rest ih =>
      have hcount : count < values.length := by
        by_contra hle
        rw [List.drop_eq_nil_of_le (Nat.le_of_not_lt hle)] at hrest
        cases hrest
      have hcons := List.drop_eq_getElem_cons hcount
      obtain ⟨hhead, htail⟩ := List.cons.inj (hrest.symm.trans hcons)
      have hvalue : value = values.getD count .null := by
        rw [List.getD_eq_getElem _ _ hcount, hhead]
      have hreplace := replace_assemble count hpieces hlast
      rw [← hvalue] at hreplace
      rw [bindingsFrom, substitute, List.foldl_cons, hreplace]
      show substitute (bindingsFrom texts doubleHole (count + 1) rest) _ = _
      rw [ih htail.symm, List.length_cons, Nat.add_right_comm, Nat.add_assoc]

theorem nameChar_valueName : ∀ letter ∈ valueName, NameChar letter := by
  intro letter hletter
  simp only [valueName, List.mem_cons, List.not_mem_nil, or_false] at hletter
  rcases hletter with rfl | rfl | rfl | rfl | rfl <;> constructor <;> decide

theorem format_assemble (hplain : ∀ piece ∈ pieces, piece.Plain texts values)
    {last : List Char} (hlast : ∀ letter ∈ last, Braceless letter) {front : List Char}
    (hfront : ∀ letter ∈ front, Braceless letter) :
    format (renderField texts special (values.head?.getD .null)) .format
        (front ++ assemble (partText texts values values.length) pieces last) =
      .ok (front ++ assemble (Hole.text texts values) pieces last) := by
  induction pieces generalizing front with
  | nil => exact format_of_braceless (List.forall_mem_append.mpr ⟨hfront, hlast⟩)
  | cons piece pieces ih =>
      obtain ⟨hpiece, hpieces⟩ := List.forall_mem_cons.mp hplain
      have hliteral := List.forall_mem_append.mpr ⟨hfront, piece.braceless⟩
      rw [assemble, assemble]
      cases hhole : piece.hole with
      | source index =>
          obtain ⟨hlt, htext⟩ := hpiece index hhole
          have hrest := ih hpieces (List.forall_mem_append.mpr ⟨hliteral, htext⟩)
          rw [partText_source, if_pos hlt, Hole.text]
          simpa only [List.append_assoc] using hrest
      | value =>
          have hrest := ih hpieces (fun letter hletter => absurd hletter List.not_mem_nil)
          have hrender : renderField texts special (values.head?.getD .null)
              { name := valueName } = .ok (texts.str (values.head?.getD .null)).toList := rfl
          have hformat := format_piece ⟨front ++ piece.literal, valueName, hliteral, by decide,
            nameChar_valueName⟩ hrender hrest
          simpa [partText, Hole.text] using hformat

theorem mapperTemplate_spell {template : MapperTemplate} (hplain : template.Plain texts values) :
    mapperTemplate texts special template.spell values = .ok (template.fill texts values) := by
  have hspell : assemble Hole.spell template.pieces template.last =
      assemble (partText texts values 0) template.pieces template.last := by
    have htexts : Hole.spell = partText texts values 0 := by
      funext hole
      cases hole <;> rfl
    rw [htexts]
  have hsubstitute := substitute_assemble hplain template.braceless values List.drop_zero
  rw [Nat.zero_add, ← hspell] at hsubstitute
  have hformat := @format_assemble texts special values template.pieces hplain template.last
    template.braceless [] (fun letter hletter => absurd hletter List.not_mem_nil)
  rw [List.nil_append, List.nil_append] at hformat
  unfold mapperTemplate bindingsOf MapperTemplate.spell
  rw [String.toList_ofList, hsubstitute]
  simp only [hformat]
  rfl

end Mapper

/-- The templates of the engine and of the resolver are opaque to values that leave their placeholders
untouched, and to no others. Those of `BaseMapper` that have braces in their placeholders only are opaque if
no value with a brace is put in at one of their `{{i}}`, whatever is elsewhere. -/
theorem transforms_opaque (texts : TextFunctions)
    (special : Value → Field → Except FormatFailure (List Char)) (values : List Value) :
    (∀ template, Opaque texts (engineTemplate texts) template values ↔
      Untouched (bindingsOf texts hole values) template.toList) ∧
    (∀ template, Opaque texts (resolverTemplate texts) template values ↔
      Untouched (bindingsOf texts hole values) template.toList) ∧
    (∀ template : MapperTemplate, template.Plain texts values →
      mapperTemplate texts special template.spell values = .ok (template.fill texts values)) :=
  ⟨fun template => untouched_iff texts template values, fun template => untouched_iff texts template values,
    fun _ hplain => mapperTemplate_spell hplain⟩

/-- A value with braces that is put in at `{value}`. -/
example : mapperTemplate Conditions.Sample.texts (fun _ _ => .error .lookup) "Order \x7bvalue\x7d"
    [.str "a\x7bb\x7d", .str "\x7b"] = .ok "Order a\x7bb\x7d" := by
  rfl

/-- A value is filled in with a later value, another one is taken for a field, and a brace in a value raises
a `ValueError` in `BaseMapper`. -/
theorem values_interpreted :
    engineTemplate Conditions.Sample.texts "\x7b0\x7d" [.str "\x7b1\x7d", .str "x"] = "x" ∧
    String.ofList (fill (bindingsOf Conditions.Sample.texts hole [.str "\x7b1\x7d", .str "x"])
      "\x7b0\x7d".toList) = "\x7b1\x7d" ∧
    mapperTemplate Conditions.Sample.texts (fun _ _ => .error .lookup) "\x7b\x7b1\x7d\x7d"
      [.str "x", .str "\x7bvalue\x7d"] = .ok "x" ∧
    mapperTemplate Conditions.Sample.texts (fun _ _ => .error .lookup) "\x7b\x7b0\x7d\x7d"
      [.str "\x7b"] = .error (.format .singleOpen) := by
  refine ⟨?_, ?_, ?_, ?_⟩
  · decide
  · decide
  · rfl
  · rfl

end Templates

end IntegrationPlatform
