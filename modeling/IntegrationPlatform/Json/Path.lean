import IntegrationPlatform.Json.Value

/-!
# Paths into JSON values

A path leads from a value to one of its leaves, by fields of objects and items of arrays. `LeafAt`
says that it does, and `HiddenAt` that a value shows nothing but a placeholder where the path
leads. `joinKey` and `spell` are the spelling of paths as texts, with a dot before a key and
brackets for an item.
-/

namespace IntegrationPlatform

/-- A step of a path: to the field at this position of an object, which has this name, or to the
item at this position of an array. -/
inductive PathStep where
  | field (position : Nat) (name : String)
  | item (position : Nat)

/-- A path from a value to a part of it. -/
abbrev Path := List PathStep

namespace Value

/-- The value has no parts: it is neither an object nor an array. -/
def isLeaf : Value → Bool
  | .list _ => false
  | .dict _ => false
  | _ => true

/-- `isinstance(value, dict)`. -/
def isDict : Value → Bool
  | .dict _ => true
  | _ => false

/-- The path leads from the value to this leaf. -/
inductive LeafAt : Value → Path → Value → Prop where
  | here {leaf} : leaf.isLeaf = true → LeafAt leaf [] leaf
  | field {fields position name child path leaf} : fields[position]? = some (name, child) →
      LeafAt child path leaf → LeafAt (.dict fields) (.field position name :: path) leaf
  | item {items position child path leaf} : items[position]? = some child →
      LeafAt child path leaf → LeafAt (.list items) (.item position :: path) leaf

/-- On the way along the path, the value shows the placeholder, and nothing beyond it. -/
inductive HiddenAt (placeholder : Value) : Value → Path → Prop where
  | here (path) : HiddenAt placeholder placeholder path
  | field {fields position name child path} : fields[position]? = some (name, child) →
      HiddenAt placeholder child path →
      HiddenAt placeholder (.dict fields) (.field position name :: path)
  | item {items position child path} : items[position]? = some child →
      HiddenAt placeholder child path → HiddenAt placeholder (.list items) (.item position :: path)

/-- The path leads from the value to this part of it. -/
inductive PartAt : Value → Path → Value → Prop where
  | here (part) : PartAt part [] part
  | field {fields position name child path part} : fields[position]? = some (name, child) →
      PartAt child path part → PartAt (.dict fields) (.field position name :: path) part
  | item {items position child path part} : items[position]? = some child →
      PartAt child path part → PartAt (.list items) (.item position :: path) part

theorem partAt_nil {value part : Value} : PartAt value [] part ↔ part = value := by
  constructor
  · intro h
    cases h with
    | here => rfl
  · rintro rfl
    exact .here _

theorem LeafAt.of_isLeaf {value leaf : Value} {path : Path} (h : LeafAt value path leaf)
    (hleaf : value.isLeaf = true) : path = [] ∧ leaf = value := by
  cases h with
  | here => exact ⟨rfl, rfl⟩
  | field => simp [isLeaf] at hleaf
  | item => simp [isLeaf] at hleaf

theorem hiddenAt_field {text : String} {fields : Dict} {position : Nat} {name : String}
    {child : Value} {path : Path} (h : fields[position]? = some (name, child)) :
    HiddenAt (.str text) (.dict fields) (.field position name :: path) ↔
      HiddenAt (.str text) child path := by
  constructor
  · intro hhidden
    cases hhidden with
    | field hfield hchild =>
        obtain ⟨_, rfl⟩ := Prod.mk.inj (Option.some.inj (hfield.symm.trans h))
        exact hchild
  · exact .field h

theorem hiddenAt_item {text : String} {items : List Value} {position : Nat} {child : Value}
    {path : Path} (h : items[position]? = some child) :
    HiddenAt (.str text) (.list items) (.item position :: path) ↔
      HiddenAt (.str text) child path := by
  constructor
  · intro hhidden
    cases hhidden with
    | item hitem hchild =>
        obtain rfl := Option.some.inj (hitem.symm.trans h)
        exact hchild
  · exact .item h

theorem hiddenAt_nil {placeholder value : Value} :
    HiddenAt placeholder value [] ↔ value = placeholder := by
  constructor
  · intro hhidden
    cases hhidden with
    | here => rfl
  · rintro rfl
    exact .here []

end Value

namespace Path

/-- The text of a key below a prefix. -/
def joinKey (pathPrefix key : String) : String :=
  if pathPrefix = "" then key else pathPrefix ++ "." ++ key

/-- The text of a path below a prefix. -/
def spell (pathPrefix : String) : Path → String
  | [] => pathPrefix
  | .field _ name :: rest => spell (joinKey pathPrefix name) rest
  | .item _ :: rest => spell (pathPrefix ++ "[]") rest

/-- The text of a path below a prefix, with nothing for the items. -/
def spellFields (pathPrefix : String) : Path → String
  | [] => pathPrefix
  | .field _ name :: rest => spellFields (joinKey pathPrefix name) rest
  | .item _ :: rest => spellFields pathPrefix rest

/-- How many of the steps are items. -/
def items : Path → Nat
  | [] => 0
  | .field _ _ :: rest => items rest
  | .item _ :: rest => items rest + 1

/-- Every item on the path is the first of its array, and its last step is a field. -/
def Leading : Path → Prop
  | [] => False
  | [.field _ _] => True
  | .field _ _ :: rest => Leading rest
  | .item position :: rest => position = 0 ∧ Leading rest

/-- The only item on the path is its last step. -/
def ItemLast : Path → Prop
  | [] => False
  | .field _ _ :: rest => ItemLast rest
  | .item _ :: rest => rest = []

/-- The first step of the path is a field. -/
def startsWithField : Path → Bool
  | .field _ _ :: _ => true
  | _ => false

theorem leading_field {position : Nat} {name : String} {rest : Path} :
    Leading (.field position name :: rest) ↔ rest = [] ∨ Leading rest := by
  cases rest with
  | nil => simp [Leading]
  | cons step rest => simp [Leading]

theorem length_joinKey {shorter longer : String} (h : shorter.length ≤ longer.length)
    (key : String) :
    (joinKey shorter key).length + longer.length ≤
      (joinKey longer key).length + shorter.length := by
  unfold joinKey
  by_cases hlonger : longer = ""
  · have hshorter : shorter = "" := by
      rw [hlonger] at h
      exact String.length_eq_zero_iff.mp (Nat.le_zero.mp h)
    simp [hlonger, hshorter]
  · by_cases hshorter : shorter = ""
    · rw [if_neg hlonger, if_pos hshorter]
      simp only [String.length_append, hshorter, String.length_empty]
      omega
    · rw [if_neg hlonger, if_neg hshorter]
      simp only [String.length_append]
      omega

theorem length_le_joinKey (pathPrefix key : String) :
    pathPrefix.length ≤ (joinKey pathPrefix key).length := by
  unfold joinKey
  by_cases hempty : pathPrefix = ""
  · simp [hempty]
  · rw [if_neg hempty]
    simp only [String.length_append]
    omega

theorem length_lt_joinKey {pathPrefix : String} (h : pathPrefix ≠ "") (key : String) :
    pathPrefix.length < (joinKey pathPrefix key).length := by
  unfold joinKey
  rw [if_neg h]
  have hdot : ".".length = 1 := by decide
  simp only [String.length_append, hdot]
  omega

theorem length_spellFields {shorter longer : String} (h : shorter.length ≤ longer.length)
    (path : Path) :
    (spellFields shorter path).length + 2 * path.items + longer.length ≤
      (spell longer path).length + shorter.length := by
  induction path generalizing shorter longer with
  | nil =>
      simp only [spellFields, spell, items]
      omega
  | cons step rest ih =>
      cases step with
      | field position name =>
          have hkey := length_joinKey h name
          have hle : (joinKey shorter name).length ≤ (joinKey longer name).length := by omega
          have hrest := ih hle
          simp only [spellFields, spell, items]
          omega
      | item position =>
          have hbrackets : (longer ++ "[]").length = longer.length + 2 := String.length_append longer "[]"
          have hrest := ih (show shorter.length ≤ (longer ++ "[]").length by omega)
          simp only [spellFields, spell, items]
          omega

theorem length_le_spellFields (pathPrefix : String) (path : Path) :
    pathPrefix.length ≤ (spellFields pathPrefix path).length := by
  induction path generalizing pathPrefix with
  | nil => exact Nat.le_refl _
  | cons step rest ih =>
      cases step with
      | field position name => exact (length_le_joinKey pathPrefix name).trans (ih _)
      | item position => exact ih pathPrefix

theorem length_le_spell (pathPrefix : String) (path : Path) :
    pathPrefix.length ≤ (spell pathPrefix path).length := by
  have hfields := length_le_spellFields pathPrefix path
  have hspell := length_spellFields (Nat.le_refl pathPrefix.length) path
  omega

end Path

end IntegrationPlatform
