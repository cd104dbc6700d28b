import IntegrationPlatform.Json.Value

/-!
# JSON texts

What `json.dumps` with `sort_keys=True` makes of a value. The order of the keys of an object does not
show in it.
-/

namespace IntegrationPlatform

namespace Value

/-- `\u` and the four hexadecimal digits of a code unit. -/
def escapedUnit (unit : Nat) : List Char :=
  '\\' :: 'u' :: [unit / 4096, unit / 256 % 16, unit / 16 % 16, unit % 16].map Nat.digitChar

/-- A character of a text, as `ensure_ascii` has it. -/
def escapedChar (char : Char) : List Char :=
  let code := char.toNat
  if code = 34 ∨ code = 92 then ['\\', char]
  else if code = 10 then ['\\', 'n']
  else if code = 13 then ['\\', 'r']
  else if code = 9 then ['\\', 't']
  else if code = 12 then ['\\', 'f']
  else if code = 8 then ['\\', 'b']
  else if 32 ≤ code ∧ code ≤ 126 then [char]
  else if code < 65536 then escapedUnit code
  -- The two units of a surrogate pair.
  else escapedUnit (55296 + (code - 65536) / 1024) ++ escapedUnit (56320 + (code - 65536) % 1024)

/-- A text between its quotes. -/
def quoted (text : String) : String :=
  "\"" ++ String.ofList (text.toList.flatMap escapedChar) ++ "\""

/-- A field in its place among fields that are sorted by their keys. -/
def insertField (field : String × String) : Assoc String → Assoc String
  | [] => [field]
  | next :: rest => if field.1 ≤ next.1 then field :: next :: rest else next :: insertField field rest

mutual

/-- `json.dumps(value, sort_keys=True)`, where `repr` writes a float. -/
def dumps (repr : Rat → String) : Value → String
  | .null => "null"
  | .bool flag => if flag then "true" else "false"
  | .int number => toString number
  | .float number => repr number
  | .str text => quoted text
  | .list items => "[" ++ ", ".intercalate (dumpsItems repr items) ++ "]"
  | .dict fields =>
      "\x7b" ++ ", ".intercalate ((dumpsFields repr fields).map fun field =>
        quoted field.1 ++ ": " ++ field.2) ++ "\x7d"

/-- The texts of the items of a list. -/
def dumpsItems (repr : Rat → String) : List Value → List String
  | [] => []
  | item :: rest => dumps repr item :: dumpsItems repr rest

/-- The texts of the values of an object, sorted by their keys. -/
def dumpsFields (repr : Rat → String) : List (String × Value) → Assoc String
  | [] => []
  | (key, field) :: rest => insertField (key, dumps repr field) (dumpsFields repr rest)

end

theorem insertField_comm {first second : String × String} (h : first.1 ≠ second.1)
    (fields : Assoc String) : insertField first (insertField second fields) =
      insertField second (insertField first fields) := by
  induction fields with
  | nil =>
      rcases String.le_total first.1 second.1 with hle | hle
      · have hnot : ¬ second.1 ≤ first.1 := fun hge => h (String.le_antisymm hle hge)
        simp [insertField, hle, hnot]
      · have hnot : ¬ first.1 ≤ second.1 := fun hge => h (String.le_antisymm hge hle)
        simp [insertField, hle, hnot]
  | cons next rest ih =>
      by_cases hfirst : first.1 ≤ next.1 <;> by_cases hsecond : second.1 ≤ next.1
      · rcases String.le_total first.1 second.1 with hle | hle
        · have hnot : ¬ second.1 ≤ first.1 := fun hge => h (String.le_antisymm hle hge)
          simp [insertField, hfirst, hsecond, hle, hnot]
        · have hnot : ¬ first.1 ≤ second.1 := fun hge => h (String.le_antisymm hge hle)
          simp [insertField, hfirst, hsecond, hle, hnot]
      · have hnot : ¬ second.1 ≤ first.1 := fun hge => hsecond (String.le_trans hge hfirst)
        simp [insertField, hfirst, hsecond, hnot]
      · have hnot : ¬ first.1 ≤ second.1 := fun hge => hfirst (String.le_trans hge hsecond)
        simp [insertField, hfirst, hsecond, hnot]
      · simp [insertField, hfirst, hsecond, ih]

theorem dumpsFields_eq (repr : Rat → String) (fields : Dict) :
    dumpsFields repr fields =
      (fields.map fun field => (field.1, dumps repr field.2)).foldr insertField [] := by
  induction fields with
  | nil => rw [dumpsFields, List.map_nil, List.foldr_nil]
  | cons field rest ih =>
      obtain ⟨key, value⟩ := field
      rw [dumpsFields, ih, List.map_cons, List.foldr_cons]

theorem foldr_insertField_perm {texts texts' : Assoc String} (h : texts.Perm texts')
    (hkeys : (texts.map Prod.fst).Nodup) :
    texts.foldr insertField [] = texts'.foldr insertField [] := by
  induction h with
  | nil => rfl
  | cons field _ ih => rw [List.foldr_cons, List.foldr_cons, ih (List.nodup_cons.mp hkeys).2]
  | swap first second rest =>
      have hne : second.1 ≠ first.1 := by
        intro heq
        exact (List.nodup_cons.mp hkeys).1 (heq ▸ List.mem_cons_self)
      exact insertField_comm hne _
  | trans hfirst _ ih ih' => rw [ih hkeys, ih' ((hfirst.map Prod.fst).nodup_iff.mp hkeys)]

example : dumps (fun _ => "") (.dict [("b", .list [.int (-1), .null]), ("a", .str "ż\"")]) =
    "\x7b\"a\": \"\\u017c\\\"\", \"b\": [-1, null]\x7d" := by
  decide +kernel

end Value

end IntegrationPlatform
