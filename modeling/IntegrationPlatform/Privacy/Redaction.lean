import IntegrationPlatform.Json.Path

/-!
# Redaction of personal data

What a think node does to its data before it goes to the AI provider: the paths that the
classifier is asked about (`_collect_field_paths`) and the redaction of those it returns
(`_redact_by_paths`). The two spell the paths into arrays differently. `Caught` says along a path
what the redactor does, and `redactionSafe_iff` says for which data every leaf is offered and
every leaf that the classifier returns is redacted.
-/

namespace IntegrationPlatform

open IntegrationPlatform.Value IntegrationPlatform.Path

namespace Redaction

/-- `_PII_PLACEHOLDER`. -/
def placeholder : Value :=
  .str "[RODO_REDACTED]"

/-- The regular expressions of the module and the text functions that they are applied after. -/
structure PiiPatterns where
  /-- `_EMAIL_RE.search`. -/
  email : String → Bool
  /-- `_PESEL_RE.fullmatch`. -/
  pesel : String → Bool
  /-- `_NIP_RE.fullmatch`. -/
  nip : String → Bool
  /-- `_IBAN_RE.search`. -/
  iban : String → Bool
  /-- `_IP_RE.fullmatch`. -/
  ip : String → Bool
  /-- `_CREDIT_CARD_RE.fullmatch`. -/
  creditCard : String → Bool
  /-- `str.strip`. -/
  strip : String → String
  /-- `re.sub(r"[\s\-]", "", value)`. -/
  withoutSeparators : String → String

def isPiiValue (patterns : PiiPatterns) : Value → Bool
  | .str text =>
      let stripped := patterns.strip text
      let compact := patterns.withoutSeparators text
      decide (5 ≤ text.length ∧ text.length ≤ 500) &&
        (patterns.email text || patterns.pesel stripped ||
          patterns.nip (stripped.replace " " "") || patterns.iban text || patterns.ip stripped ||
          (patterns.creditCard compact && decide (13 ≤ compact.length)))
  | _ => false

/-- The depth beyond which no paths are collected. -/
def maxCollectDepth : Nat := 15

/-- The depth beyond which everything is redacted. -/
def maxRedactDepth : Nat := 20

mutual

def collectFieldPaths (data : Value) (pathPrefix : String) (depth : Nat) : List String :=
  match data with
  | .dict fields => if maxCollectDepth < depth then [] else collectFields fields pathPrefix depth
  | .list items => if maxCollectDepth < depth then [] else collectFirst items pathPrefix depth
  | _ => []

/-- The paths below the fields of an object. -/
def collectFields (fields : List (String × Value)) (pathPrefix : String) (depth : Nat) :
    List String :=
  match fields with
  | [] => []
  | (key, child) :: rest =>
      (if child.isLeaf then [joinKey pathPrefix key]
        else collectFieldPaths child (joinKey pathPrefix key) (depth + 1)) ++
      collectFields rest pathPrefix depth

/-- The paths below the first item of an array. -/
def collectFirst (items : List Value) (pathPrefix : String) (depth : Nat) : List String :=
  match items with
  | [] => []
  | first :: _ => collectFieldPaths first (pathPrefix ++ "[]") (depth + 1)

end

section Redact

variable (patterns : PiiPatterns) (piiPaths : List String)

mutual

def redactByPaths (data : Value) (current : String) (depth : Nat) : Value :=
  match data with
  | .dict fields =>
      if maxRedactDepth < depth then placeholder else .dict (redactFields fields current depth)
  | .list items =>
      if maxRedactDepth < depth then placeholder
      else if current ++ "[]" ∈ piiPaths then .list (items.map fun _ => placeholder)
      else .list (redactItems items current depth)
  | leaf =>
      if maxRedactDepth < depth then placeholder
      else if isPiiValue patterns leaf then placeholder
      else leaf

/-- The fields of an object, redacted. -/
def redactFields (fields : List (String × Value)) (current : String) (depth : Nat) :
    List (String × Value) :=
  match fields with
  | [] => []
  | (key, value) :: rest =>
      (key,
        if joinKey current key ∈ piiPaths then redactListed value (joinKey current key) depth
        else if isPiiValue patterns value then placeholder
        else redactByPaths value (joinKey current key) (depth + 1)) ::
      redactFields rest current depth

/-- The value of a field whose path is listed. -/
def redactListed (value : Value) (current : String) (depth : Nat) : Value :=
  match value with
  | .list items => .list (redactListedItems items current depth)
  | _ => placeholder

/-- The items of an array whose path is listed: objects are redacted field by field. -/
def redactListedItems (items : List Value) (current : String) (depth : Nat) : List Value :=
  match items with
  | [] => []
  | item :: rest =>
      (if item.isDict then redactByPaths item current (depth + 1) else placeholder) ::
      redactListedItems rest current depth

/-- The items of an array, redacted. -/
def redactItems (items : List Value) (current : String) (depth : Nat) : List Value :=
  match items with
  | [] => []
  | item :: rest =>
      redactByPaths item current (depth + 1) :: redactItems rest current depth

end

end Redact

/-! ## The paths that are offered -/

variable {depth : Nat} {fields : Dict}

theorem mem_collectFields {pathPrefix text : String} :
    text ∈ collectFields fields pathPrefix depth ↔
      ∃ (position : Nat) (key : String) (child : Value), fields[position]? = some (key, child) ∧
        text ∈ if child.isLeaf then [joinKey pathPrefix key]
          else collectFieldPaths child (joinKey pathPrefix key) (depth + 1) := by
  induction fields with
  | nil => simp [collectFields]
  | cons field rest ih =>
      rw [collectFields, List.mem_append, ih]
      constructor
      · intro h
        rcases h with hhere | ⟨position, key, child, hchild, htext⟩
        · exact ⟨0, field.1, field.2, rfl, hhere⟩
        · exact ⟨position + 1, key, child, hchild, htext⟩
      · rintro ⟨position, key, child, hchild, htext⟩
        cases position with
        | zero =>
            obtain rfl := Option.some.inj hchild
            exact .inl htext
        | succ position => exact .inr ⟨position, key, child, hchild, htext⟩

/-- The paths that are collected are the texts of the leaves that are reached through first items
only and are fields of objects. -/
def Collects (data : Value) (pathPrefix : String) (depth : Nat) : Prop :=
  ∀ text, text ∈ collectFieldPaths data pathPrefix depth ↔
    ∃ path leaf, LeafAt data path leaf ∧ path.Leading ∧ path.spell pathPrefix = text

variable {pathPrefix : String} {items : List Value}

theorem collects_list (hlimit : ¬ maxCollectDepth < depth)
    (hfirst : ∀ first, items[0]? = some first → Collects first (pathPrefix ++ "[]") (depth + 1)) :
    Collects (.list items) pathPrefix depth := by
  intro text
  rw [collectFieldPaths, if_neg hlimit]
  cases items with
  | nil =>
      refine ⟨fun h => by simp [collectFirst] at h, ?_⟩
      rintro ⟨path, leaf, hleaf, -⟩
      cases hleaf with
      | here h => simp [isLeaf] at h
      | item h => simp at h
  | cons first rest =>
      rw [collectFirst, hfirst first rfl text]
      constructor
      · rintro ⟨path, leaf, hleaf, hleading, rfl⟩
        exact ⟨.item 0 :: path, leaf, .item rfl hleaf, ⟨rfl, hleading⟩, rfl⟩
      · rintro ⟨path, leaf, hleaf, hleading, rfl⟩
        cases hleaf with
        | here h => simp [isLeaf] at h
        | item hitem hchild =>
            obtain ⟨rfl, hleading⟩ := hleading
            obtain rfl := Option.some.inj hitem
            exact ⟨_, leaf, hchild, hleading, rfl⟩

theorem collects_dict (hlimit : ¬ maxCollectDepth < depth)
    (hfields : ∀ (position : Nat) (key : String) (child : Value),
      fields[position]? = some (key, child) →
        Collects child (joinKey pathPrefix key) (depth + 1)) :
    Collects (.dict fields) pathPrefix depth := by
  intro text
  rw [collectFieldPaths, if_neg hlimit, mem_collectFields]
  constructor
  · rintro ⟨position, key, child, hchild, htext⟩
    by_cases hleaf : child.isLeaf = true
    · rw [if_pos hleaf] at htext
      obtain rfl := List.mem_singleton.mp htext
      exact ⟨[.field position key], child, .field hchild (.here hleaf), trivial, rfl⟩
    · rw [if_neg hleaf, hfields position key child hchild text] at htext
      obtain ⟨path, leaf, hpath, hleading, rfl⟩ := htext
      exact ⟨.field position key :: path, leaf, .field hchild hpath,
        leading_field.mpr (.inr hleading), rfl⟩
  · rintro ⟨path, leaf, hpath, hleading, rfl⟩
    cases hpath with
    | here h => simp [isLeaf] at h
    | @field _ position key child rest _ hchild hrest =>
        refine ⟨position, key, child, hchild, ?_⟩
        by_cases hleaf : child.isLeaf = true
        · obtain ⟨rfl, -⟩ := hrest.of_isLeaf hleaf
          rw [if_pos hleaf]
          exact List.mem_singleton_self _
        · rw [if_neg hleaf, hfields position key child hchild]
          rcases leading_field.mp hleading with rfl | hleading
          · cases hrest with
            | here h => exact absurd h hleaf
          · exact ⟨rest, leaf, hrest, hleading, rfl⟩

theorem mem_collectFieldPaths {data : Value}
    (hdepth : ∀ path leaf, LeafAt data path leaf → path.length + depth ≤ maxCollectDepth + 1) :
    Collects data pathPrefix depth := by
  -- The collector goes one level deeper with every call, up to its limit.
  induction hleft : maxCollectDepth + 1 - depth generalizing data pathPrefix depth with
  | zero =>
      intro text
      have hnil : collectFieldPaths data pathPrefix depth = [] := by
        have hlimit : maxCollectDepth < depth := by omega
        cases data <;> simp [collectFieldPaths, hlimit]
      rw [hnil]
      refine ⟨fun h => by simp at h, ?_⟩
      rintro ⟨path, leaf, hleaf, hleading, -⟩
      have hlength := hdepth path leaf hleaf
      obtain rfl : path = [] := List.length_eq_zero_iff.mp (by omega)
      exact hleading.elim
  | succ left ih =>
      have hlimit : ¬ maxCollectDepth < depth := by omega
      cases data with
      | list items =>
          refine collects_list hlimit fun first hfirst => ih ?_ (by omega)
          intro path leaf hleaf
          have hpath := hdepth (.item 0 :: path) leaf (.item hfirst hleaf)
          rw [List.length_cons] at hpath
          omega
      | dict fields =>
          refine collects_dict hlimit fun position key child hchild => ih ?_ (by omega)
          intro path leaf hleaf
          have hpath := hdepth (.field position key :: path) leaf (.field hchild hleaf)
          rw [List.length_cons] at hpath
          omega
      | _ =>
          intro text
          refine ⟨fun h => by simp [collectFieldPaths] at h, ?_⟩
          rintro ⟨path, leaf, hleaf, hleading, -⟩
          obtain ⟨rfl, -⟩ := hleaf.of_isLeaf rfl
          exact hleading.elim

/-! ## What is redacted -/

section Redacted

variable {patterns : PiiPatterns} {piiPaths : List String}

mutual

/-- The leaf at the end of the path is redacted below this prefix: the path of a field or of an
array on the way is listed, or the leaf shows by its value that it is personal. -/
def Caught (patterns : PiiPatterns) (piiPaths : List String) (current : String) (path : Path)
    (leaf : Value) : Prop :=
  match path with
  | [] => leaf = placeholder ∨ isPiiValue patterns leaf = true
  | .field _ name :: rest =>
      if joinKey current name ∈ piiPaths then
        CaughtListed patterns piiPaths (joinKey current name) rest leaf
      else Caught patterns piiPaths (joinKey current name) rest leaf
  | .item _ :: rest => current ++ "[]" ∈ piiPaths ∨ Caught patterns piiPaths current rest leaf

/-- The leaf is redacted below a field whose path is listed: in an array, the redactor goes on
with the objects. -/
def CaughtListed (patterns : PiiPatterns) (piiPaths : List String) (current : String) (path : Path)
    (leaf : Value) : Prop :=
  match path with
  | .item _ :: inner => startsWithField inner = true → Caught patterns piiPaths current inner leaf
  | [] => True
  | .field _ _ :: _ => True

end

variable {leaf : Value}

theorem redactByPaths_leaf (hleaf : leaf.isLeaf = true) (current : String)
    (hdepth : ¬ maxRedactDepth < depth) :
    redactByPaths patterns piiPaths leaf current depth =
      if isPiiValue patterns leaf then placeholder else leaf := by
  cases leaf with
  | list items => simp [isLeaf] at hleaf
  | dict fields => simp [isLeaf] at hleaf
  | _ => simp only [redactByPaths, if_neg hdepth]

theorem getElem?_redactFields {position : Nat} {name : String} {child : Value}
    (h : fields[position]? = some (name, child)) (current : String) (depth : Nat) :
    (redactFields patterns piiPaths fields current depth)[position]? = some (name,
      if joinKey current name ∈ piiPaths then
        redactListed patterns piiPaths child (joinKey current name) depth
      else if isPiiValue patterns child then placeholder
      else redactByPaths patterns piiPaths child (joinKey current name) (depth + 1)) := by
  induction fields generalizing position with
  | nil => simp at h
  | cons field rest ih =>
      cases position with
      | zero =>
          obtain rfl := Option.some.inj h
          rw [redactFields]
          rfl
      | succ position =>
          rw [redactFields]
          exact ih h

theorem getElem?_redactItems {position : Nat} {child : Value}
    (h : items[position]? = some child) (current : String) (depth : Nat) :
    (redactItems patterns piiPaths items current depth)[position]? =
      some (redactByPaths patterns piiPaths child current (depth + 1)) := by
  induction items generalizing position with
  | nil => simp at h
  | cons item rest ih =>
      cases position with
      | zero =>
          obtain rfl := Option.some.inj h
          rw [redactItems]
          rfl
      | succ position =>
          rw [redactItems]
          exact ih h

theorem getElem?_redactListedItems {position : Nat} {child : Value}
    (h : items[position]? = some child) (current : String) (depth : Nat) :
    (redactListedItems patterns piiPaths items current depth)[position]? =
      some (if child.isDict then redactByPaths patterns piiPaths child current (depth + 1)
        else placeholder) := by
  induction items generalizing position with
  | nil => simp at h
  | cons item rest ih =>
      cases position with
      | zero =>
          obtain rfl := Option.some.inj h
          rw [redactListedItems]
          rfl
      | succ position =>
          rw [redactListedItems]
          exact ih h

variable {path : Path}

theorem startsWithField_eq_isDict {value leaf : Value} (h : LeafAt value path leaf) :
    startsWithField path = value.isDict := by
  cases h with
  | here hleaf => cases value <;> simp_all [startsWithField, isLeaf, isDict]
  | field => rfl
  | item => rfl

variable {current : String}

/-- Within the depth limit, a leaf is hidden in the redacted data if and only if it is caught. -/
theorem hiddenAt_redactByPaths {data leaf : Value}
    (h : LeafAt data path leaf) (hdepth : path.length + depth ≤ maxRedactDepth) :
    HiddenAt placeholder (redactByPaths patterns piiPaths data current depth) path ↔
      Caught patterns piiPaths current path leaf := by
  -- A listed array of objects is left by two steps at once.
  induction hlength : path.length using Nat.strong_induction_on
    generalizing data path current depth with
  | _ length ih =>
    have hlimit : ¬ maxRedactDepth < depth := by omega
    cases h with
    | here hleaf =>
        rw [hiddenAt_nil, redactByPaths_leaf hleaf current hlimit, Caught]
        by_cases hpii : isPiiValue patterns leaf = true
        · rw [if_pos hpii]
          exact iff_of_true rfl (.inr hpii)
        · rw [if_neg hpii]
          exact ⟨.inl, fun h => h.resolve_right hpii⟩
    | @field fields position name child rest _ hchild hrest =>
        rw [List.length_cons] at hdepth hlength
        rw [redactByPaths, if_neg hlimit, placeholder,
          hiddenAt_field (getElem?_redactFields hchild current depth), ← placeholder, Caught]
        by_cases hlisted : joinKey current name ∈ piiPaths
        · rw [if_pos hlisted, if_pos hlisted]
          cases hrest with
          | here hleaf =>
              have hredacted : redactListed patterns piiPaths leaf (joinKey current name) depth =
                  placeholder := by
                cases leaf <;> first | rfl | simp [isLeaf] at hleaf
              rw [hredacted]
              exact iff_of_true (.here _) trivial
          | field _ _ => exact iff_of_true (.here _) trivial
          | @item items index item inner _ hitem hinner =>
              rw [List.length_cons] at hdepth hlength
              rw [CaughtListed, redactListed, placeholder,
                hiddenAt_item (getElem?_redactListedItems hitem (joinKey current name) depth),
                ← placeholder]
              have hfield := startsWithField_eq_isDict hinner
              by_cases hdict : item.isDict = true
              · rw [if_pos hdict, ih inner.length (by omega) hinner (by omega) rfl]
                exact ⟨fun h _ => h, fun h => h (hfield.trans hdict)⟩
              · rw [if_neg hdict]
                refine iff_of_true (.here _) fun hstarts => absurd (hfield.symm.trans hstarts) hdict
        · rw [if_neg hlisted, if_neg hlisted]
          by_cases hpii : isPiiValue patterns child = true
          · rw [if_pos hpii]
            have hleaf : child.isLeaf = true := by
              cases child <;> first | rfl | simp [isPiiValue] at hpii
            obtain ⟨rfl, rfl⟩ := hrest.of_isLeaf hleaf
            exact iff_of_true (.here _) (.inr hpii)
          · rw [if_neg hpii]
            exact ih rest.length (by omega) hrest (by omega) rfl
    | @item items position child rest _ hchild hrest =>
        rw [List.length_cons] at hdepth hlength
        rw [redactByPaths, if_neg hlimit, Caught]
        by_cases hlisted : current ++ "[]" ∈ piiPaths
        · rw [if_pos hlisted]
          refine iff_of_true ?_ (.inl hlisted)
          have hitem : (items.map fun _ => placeholder)[position]? = some placeholder := by
            rw [List.getElem?_map, hchild]
            rfl
          exact .item hitem (.here _)
        · rw [if_neg hlisted, placeholder,
            hiddenAt_item (getElem?_redactItems hchild current depth), ← placeholder]
          rw [ih rest.length (by omega) hrest (by omega) rfl]
          exact ⟨.inr, fun h => h.resolve_left hlisted⟩

theorem caught_of_value (h : leaf = placeholder ∨ isPiiValue patterns leaf = true)
    (current : String) (path : Path) :
    Caught patterns piiPaths current path leaf ∧ CaughtListed patterns piiPaths current path leaf := by
  induction path generalizing current with
  | nil => exact ⟨by rwa [Caught], by rw [CaughtListed]; trivial⟩
  | cons step rest ih =>
      cases step with
      | field position name =>
          obtain ⟨hcaught, hlisted⟩ := ih (joinKey current name)
          refine ⟨?_, by rw [CaughtListed]; trivial⟩
          rw [Caught]
          by_cases hkey : joinKey current name ∈ piiPaths
          · rwa [if_pos hkey]
          · rwa [if_neg hkey]
      | item position =>
          obtain ⟨hcaught, -⟩ := ih current
          refine ⟨?_, ?_⟩
          · rw [Caught]
            exact .inr hcaught
          · rw [CaughtListed]
            exact fun _ => hcaught

theorem caught_of_items_eq_zero
    (hitems : path.items = 0) (hne : path ≠ []) (h : path.spell current ∈ piiPaths) :
    Caught patterns piiPaths current path leaf := by
  induction path generalizing current with
  | nil => exact absurd rfl hne
  | cons step rest ih =>
      cases step with
      | item position => simp [Path.items] at hitems
      | field position name =>
          rw [Caught]
          by_cases hkey : joinKey current name ∈ piiPaths
          · rw [if_pos hkey]
            cases rest with
            | nil =>
                rw [CaughtListed]
                trivial
            | cons next rest =>
                cases next with
                | field _ _ =>
                    rw [CaughtListed]
                    trivial
                | item _ => simp [Path.items] at hitems
          · rw [if_neg hkey]
            refine ih hitems (fun hnil => ?_) h
            subst hnil
            exact hkey h

theorem caught_of_itemLast (hlast : path.ItemLast)
    (h : path.spell current ∈ piiPaths) : Caught patterns piiPaths current path leaf := by
  induction path generalizing current with
  | nil => exact hlast.elim
  | cons step rest ih =>
      cases step with
      | item position =>
          obtain rfl : rest = [] := hlast
          rw [Caught]
          exact .inl h
      | field position name =>
          rw [Caught]
          by_cases hkey : joinKey current name ∈ piiPaths
          · rw [if_pos hkey]
            cases rest with
            | nil => exact hlast.elim
            | cons next inner =>
                cases next with
                | field _ _ =>
                    rw [CaughtListed]
                    trivial
                | item _ =>
                    obtain rfl : inner = [] := hlast
                    rw [CaughtListed]
                    exact fun hstarts => by simp [startsWithField] at hstarts
          · rw [if_neg hkey]
            exact ih hlast h

theorem not_caught_of_length {current text : String}
    (hvalue : ¬ (leaf = placeholder ∨ isPiiValue patterns leaf = true))
    (hlength : (path.spellFields current).length + (if path.items = 0 then 0 else 2) < text.length) :
    ¬ Caught patterns [text] current path leaf := by
  induction path generalizing current with
  | nil => rwa [Caught]
  | cons step rest ih =>
      cases step with
      | field position name =>
          have hle := length_le_spellFields (joinKey current name) rest
          have hkey : joinKey current name ∉ [text] := by
            intro hmem
            rw [← List.mem_singleton.mp hmem] at hlength
            simp only [spellFields] at hlength
            omega
          rw [Caught, if_neg hkey]
          exact ih hlength
      | item position =>
          have hle := length_le_spellFields current rest
          have hbrackets : (current ++ "[]").length = current.length + 2 :=
            String.length_append current "[]"
          rw [if_neg (show items (.item position :: rest) ≠ 0 from Nat.succ_ne_zero _)] at hlength
          simp only [spellFields] at hlength
          rw [Caught]
          rintro (hmem | hcaught)
          · rw [← List.mem_singleton.mp hmem] at hlength
            omega
          · refine ih (lt_of_le_of_lt ?_ hlength) hcaught
            split <;> omega

/-- A leaf inside an array is not redacted by its own path, unless it is an item of an outermost
array. -/
theorem not_caught {shorter longer : String}
    (hvalue : ¬ (leaf = placeholder ∨ isPiiValue patterns leaf = true))
    (hshorter : shorter.length ≤ longer.length) (hitems : path.items ≠ 0) (hlast : ¬ path.ItemLast) :
    ¬ Caught patterns [path.spell longer] shorter path leaf := by
  have hspell := length_spellFields hshorter path
  by_cases hone : path.items = 1
  · -- Up to the only item, the two prefixes grow alike. Below it, a key makes the difference.
    clear hspell
    induction path generalizing shorter longer with
    | nil => simp [Path.items] at hone
    | cons step rest ih =>
        cases step with
        | field position name =>
            have hkeys := length_joinKey hshorter name
            have hle := length_le_spellFields (joinKey shorter name) rest
            have hrest := length_spellFields (show (joinKey shorter name).length ≤
              (joinKey longer name).length by omega) rest
            simp only [Path.items] at hone
            have hkey : joinKey shorter name ∉ [spell longer (.field position name :: rest)] := by
              intro hmem
              have hlength := congrArg String.length (List.mem_singleton.mp hmem)
              simp only [spell] at hlength
              omega
            rw [Caught, if_neg hkey]
            exact ih (by omega) hitems hlast hone
        | item position =>
            simp only [Path.items] at hone
            have hnone : items rest = 0 := by omega
            have hbrackets : (longer ++ "[]").length = longer.length + 2 :=
              String.length_append longer "[]"
            have hrest := length_spellFields (show shorter.length ≤ (longer ++ "[]").length by omega)
              rest
            rw [Caught]
            rintro (hmem | hcaught)
            · have hlength := congrArg String.length (List.mem_singleton.mp hmem)
              rw [String.length_append, show "[]".length = 2 from rfl] at hlength
              cases rest with
              | nil => exact hlast rfl
              | cons next inner =>
                  cases next with
                  | item _ => simp [Path.items] at hnone
                  | field _ name =>
                      have hne : longer ++ "[]" ≠ "" := by
                        intro hempty
                        rw [hempty] at hbrackets
                        simp at hbrackets
                      have hlt := length_lt_joinKey hne name
                      have hle := length_le_spell (joinKey (longer ++ "[]") name) inner
                      simp only [spell] at hlength
                      omega
            · refine not_caught_of_length hvalue ?_ hcaught
              rw [if_pos hnone]
              simp only [spell]
              omega
  · refine not_caught_of_length hvalue ?_
    rw [if_neg hitems]
    omega

end Redacted

/-! ## Safe data -/

/-- The text of the path is that of a leaf that the collector finds: one that is reached through
first items only and is a field of an object. -/
def Path.IsOffered (data : Value) (path : Path) : Prop :=
  ∃ path' leaf, LeafAt data path' leaf ∧ path'.Leading ∧ path'.spell "" = path.spell ""

/-- A leaf that the collector offers and the redactor finds: it lies outside of arrays, or it has
the same text as a leaf that is offered and is an item of an outermost array or shows by its
value that it is personal. -/
structure Shielded (patterns : PiiPatterns) (data : Value) (path : Path) (leaf : Value) : Prop where
  offered : Path.IsOffered data path
  found : path.items = 0 ∨ path.ItemLast ∨ leaf = placeholder ∨ isPiiValue patterns leaf = true

/-- Every leaf of the data is offered to the classifier, and whatever it returns among the paths
that it was offered, every leaf with such a path is redacted. -/
def RedactionSafe (patterns : PiiPatterns) (data : Value) : Prop :=
  (∀ path leaf, LeafAt data path leaf → path.spell "" ∈ collectFieldPaths data "" 0) ∧
    ∀ piiPaths, (∀ text ∈ piiPaths, text ∈ collectFieldPaths data "" 0) →
      ∀ path leaf, LeafAt data path leaf → path.spell "" ∈ piiPaths →
        HiddenAt placeholder (redactByPaths patterns piiPaths data "" 0) path

/-- Within the depth limits, data is safe if and only if every leaf is shielded. -/
theorem redactionSafe_iff (patterns : PiiPatterns) (data : Value)
    (hdepth : ∀ path leaf, LeafAt data path leaf → path.length ≤ maxCollectDepth + 1) :
    RedactionSafe patterns data ↔
      ∀ path leaf, LeafAt data path leaf → Shielded patterns data path leaf := by
  have hoffered : ∀ path : Path,
      path.spell "" ∈ collectFieldPaths data "" 0 ↔ Path.IsOffered data path :=
    fun path => mem_collectFieldPaths hdepth (path.spell "")
  have hhidden : ∀ piiPaths path leaf, LeafAt data path leaf →
      (HiddenAt placeholder (redactByPaths patterns piiPaths data "" 0) path ↔
        Caught patterns piiPaths "" path leaf) := by
    intro piiPaths path leaf hleaf
    refine hiddenAt_redactByPaths hleaf ?_
    have hpath := hdepth path leaf hleaf
    simp only [maxCollectDepth, maxRedactDepth] at hpath ⊢
    omega
  constructor
  · intro hsafe path leaf hleaf
    have hmem := hsafe.1 path leaf hleaf
    refine ⟨(hoffered path).mp hmem, ?_⟩
    by_contra hnot
    obtain ⟨hitems, hrest⟩ := not_or.mp hnot
    obtain ⟨hlast, hvalue⟩ := not_or.mp hrest
    -- The classifier returns the path of this leaf and nothing else.
    have hredacted := hsafe.2 [path.spell ""]
      (fun text htext => List.mem_singleton.mp htext ▸ hmem) path leaf hleaf
      (List.mem_singleton_self _)
    rw [hhidden _ path leaf hleaf] at hredacted
    exact not_caught hvalue (Nat.le_refl _) hitems hlast hredacted
  · intro hshielded
    refine ⟨fun path leaf hleaf => (hoffered path).mpr (hshielded path leaf hleaf).offered, ?_⟩
    intro piiPaths hsubset path leaf hleaf hmem
    rw [hhidden piiPaths path leaf hleaf]
    rcases (hshielded path leaf hleaf).found with hitems | hlast | hvalue
    · refine caught_of_items_eq_zero hitems (fun hnil => ?_) hmem
      subst hnil
      -- A value without parts has no paths to offer.
      cases hleaf with
      | here h =>
          have htext := hsubset _ hmem
          cases data <;> simp [collectFieldPaths, isLeaf] at htext h
    · exact caught_of_itemLast hlast hmem
    · exact (caught_of_value hvalue "" path).1

/-- No pattern matches anything. -/
def noPatterns : PiiPatterns where
  email _ := false
  pesel _ := false
  nip _ := false
  iban _ := false
  ip _ := false
  creditCard _ := false
  strip text := text
  withoutSeparators text := text

/-- An order whose one personal value in an array shows by its pattern that it is personal. -/
def order : Value :=
  .dict [("customer", .dict [("name", .str "Jan"), ("city", .str "Lublin")]),
    ("contacts", .list [.dict [("email", .str "jan@shop")]])]

def emailPatterns : PiiPatterns := { noPatterns with email := (· == "jan@shop") }

theorem exists_field {field : String × Value}
    (h : LeafAt (.dict (field :: fields)) path leaf) : ∃ position name child rest,
      (field :: fields)[position]? = some (name, child) ∧ LeafAt child rest leaf ∧
        path = .field position name :: rest := by
  cases h with
  | here h => simp [isLeaf] at h
  | field hchild hrest => exact ⟨_, _, _, _, hchild, hrest, rfl⟩

theorem leaf_order (h : LeafAt order path leaf) : path.length ≤ 3 ∧ path.Leading ∧
    (path.items = 0 ∨ isPiiValue emailPatterns leaf = true) := by
  obtain ⟨position, _, _, _, hchild, hrest, rfl⟩ := exists_field h
  rcases position with _ | _ | position <;> cases hchild
  · obtain ⟨position, _, _, _, hchild, hrest, rfl⟩ := exists_field hrest
    rcases position with _ | _ | position <;> cases hchild <;>
      (obtain ⟨rfl, -⟩ := hrest.of_isLeaf rfl; exact ⟨by decide, trivial, .inl rfl⟩)
  · cases hrest with
    | here hlist => simp [isLeaf] at hlist
    | @item _ position _ _ _ hchild hrest =>
        rcases position with _ | position <;> cases hchild
        obtain ⟨position, _, _, _, hchild, hrest, rfl⟩ := exists_field hrest
        rcases position with _ | position <;> cases hchild
        obtain ⟨rfl, rfl⟩ := hrest.of_isLeaf rfl
        exact ⟨by decide, ⟨rfl, trivial⟩, .inr (by decide)⟩

/-- The order is safe. -/
theorem redactionSafe_flat : RedactionSafe emailPatterns order := by
  refine (redactionSafe_iff emailPatterns order fun path leaf h => ?_).mpr fun path leaf h => ?_
  · exact (leaf_order h).1.trans (by decide)
  · obtain ⟨-, hleading, hfound⟩ := leaf_order h
    exact ⟨⟨_, leaf, h, hleading, rfl⟩, hfound.imp id fun hvalue => .inr (.inr hvalue)⟩

/-- The name of a customer in an array is offered as `customers[].name` and looked up as
`customers.name`: if the classifier returns it, it is sent as it is. The tags are not even
offered. -/
theorem redaction_leaks :
    ¬ RedactionSafe noPatterns
        (.dict [("customers", .list [.dict [("name", .str "Jan")]])]) ∧
      ¬ RedactionSafe noPatterns (.dict [("tags", .list [.str "Jan"])]) := by
  constructor
  · intro hsafe
    have hhidden := hsafe.2 ["customers[].name"] (by decide +kernel)
      [.field 0 "customers", .item 0, .field 0 "name"] (.str "Jan")
      (.field rfl (.item rfl (.field rfl (.here rfl)))) (by decide +kernel)
    rw [hiddenAt_redactByPaths (.field rfl (.item rfl (.field rfl (.here rfl)))) (by decide)]
      at hhidden
    have hvalue : ¬ ((.str "Jan" : Value) = placeholder ∨ isPiiValue noPatterns (.str "Jan") = true) := by
      simp [placeholder, isPiiValue, noPatterns]
    have hnot : ¬ Caught noPatterns [Path.spell ""
        [.field 0 "customers", .item 0, .field 0 "name"]] "" _ (.str "Jan") :=
      not_caught hvalue (Nat.le_refl _) (by decide) (by simp [ItemLast])
    exact hnot hhidden
  · intro hsafe
    have hoffered := hsafe.1 [.field 0 "tags", .item 0] (.str "Jan")
      (.field rfl (.item rfl (.here rfl)))
    simp [collectFieldPaths, collectFields, collectFirst, isLeaf] at hoffered

end Redaction

end IntegrationPlatform
