import IntegrationPlatform.Json.Targets
import IntegrationPlatform.Json.Text

/-!
# What JSON texts say

The text of a value without floats is prefix-free up to the characters that may follow a value, and so
it determines the value up to the order of keys (`dumps_eq_iff_alike`).
-/

namespace IntegrationPlatform

namespace Value

/-! ## Characters -/

/-- The digit of a hexadecimal character. -/
def hexValue (letter : Char) : Nat :=
  if letter.toNat < 58 then letter.toNat - 48 else letter.toNat - 87

/-- The code unit of four hexadecimal digits. -/
def unitOf (a b c d : Char) : Nat :=
  4096 * hexValue a + 256 * hexValue b + 16 * hexValue c + hexValue d

/-- The first character of a text that is escaped, and the rest. -/
def readChar : List Char → Option (Char × List Char)
  | '\\' :: 'u' :: a :: b :: c :: d :: rest =>
      let unit := unitOf a b c d
      if 55296 ≤ unit ∧ unit < 56320 then
        match rest with
        | '\\' :: 'u' :: a :: b :: c :: d :: rest =>
            some (Char.ofNat (65536 + (unit - 55296) * 1024 + (unitOf a b c d - 56320)), rest)
        | _ => none
      else some (Char.ofNat unit, rest)
  | '\\' :: 'n' :: rest => some ('\n', rest)
  | '\\' :: 'r' :: rest => some ('\r', rest)
  | '\\' :: 't' :: rest => some ('\t', rest)
  | '\\' :: 'f' :: rest => some (Char.ofNat 12, rest)
  | '\\' :: 'b' :: rest => some (Char.ofNat 8, rest)
  | '\\' :: letter :: rest => some (letter, rest)
  | letter :: rest => some (letter, rest)
  | [] => none

theorem hexValue_digitChar : ∀ digit < 16, hexValue (Nat.digitChar digit) = digit := by
  decide

theorem unitOf_digits {unit : Nat} (h : unit < 65536) :
    unitOf (Nat.digitChar (unit / 4096)) (Nat.digitChar (unit / 256 % 16))
      (Nat.digitChar (unit / 16 % 16)) (Nat.digitChar (unit % 16)) = unit := by
  unfold unitOf
  rw [hexValue_digitChar _ (by omega), hexValue_digitChar _ (by omega), hexValue_digitChar _ (by omega),
    hexValue_digitChar _ (by omega)]
  omega

theorem not_surrogate (char : Char) : char.toNat < 55296 ∨ 57343 < char.toNat := by
  have hvalid := char.valid
  unfold UInt32.isValidChar Nat.isValidChar at hvalid
  unfold Char.toNat
  omega

theorem readChar_escapedUnit {unit : Nat} (h : unit < 65536) (hplain : unit < 55296 ∨ 57343 < unit)
    (rest : List Char) : readChar (escapedUnit unit ++ rest) = some (Char.ofNat unit, rest) := by
  have hunit := unitOf_digits h
  have hnot : ¬ (55296 ≤ unit ∧ unit < 56320) := by omega
  unfold escapedUnit
  simp only [List.map_cons, List.map_nil, List.cons_append, List.nil_append, readChar, hunit, if_neg hnot]

theorem readChar_escapedPair {high low : Nat} (hhigh : high < 1024) (hlow : low < 1024)
    (rest : List Char) :
    readChar (escapedUnit (55296 + high) ++ (escapedUnit (56320 + low) ++ rest)) =
      some (Char.ofNat (65536 + high * 1024 + low), rest) := by
  have hunit := @unitOf_digits (55296 + high) (by omega)
  have hunit' := @unitOf_digits (56320 + low) (by omega)
  have hpair : 55296 ≤ 55296 + high ∧ 55296 + high < 56320 := by omega
  unfold escapedUnit
  simp only [List.map_cons, List.map_nil, List.cons_append, List.nil_append, readChar, hunit, hunit',
    if_pos hpair, Nat.add_sub_cancel_left]

theorem readChar_of_ne {letter : Char} (h : letter ≠ '\\') (rest : List Char) :
    readChar (letter :: rest) = some (letter, rest) := by
  unfold readChar
  split <;> simp_all

theorem readChar_escapedChar (char : Char) (rest : List Char) :
    readChar (escapedChar char ++ rest) = some (char, rest) := by
  have hself : ∀ {code : Nat}, char.toNat = code → char = Char.ofNat code := by
    intro code hcode
    rw [← hcode, Char.ofNat_toNat]
  unfold escapedChar
  dsimp only
  split
  · next hcode =>
    rcases hcode with hcode | hcode <;> obtain rfl := hself hcode <;> rfl
  · next hquote =>
    split
    · next hcode => obtain rfl := hself hcode; rfl
    · split
      · next hcode => obtain rfl := hself hcode; rfl
      · split
        · next hcode => obtain rfl := hself hcode; rfl
        · split
          · next hcode => obtain rfl := hself hcode; rfl
          · split
            · next hcode => obtain rfl := hself hcode; rfl
            · split
              · -- A printable character that is neither a quote nor a backslash.
                refine readChar_of_ne ?_ rest
                rintro rfl
                exact hquote (.inr rfl)
              · have hplain := not_surrogate char
                split
                · next hunit => rw [readChar_escapedUnit hunit hplain, Char.ofNat_toNat]
                · next hunit =>
                  -- A character beyond the code units is a pair of them.
                  have hlast : char.toNat < 1114112 := by
                    have hvalid := char.valid
                    unfold UInt32.isValidChar Nat.isValidChar at hvalid
                    unfold Char.toNat
                    omega
                  have hcode : 65536 + (char.toNat - 65536) / 1024 * 1024 +
                      (char.toNat - 65536) % 1024 = char.toNat := by omega
                  rw [List.append_assoc, readChar_escapedPair (by omega) (by omega), hcode,
                    Char.ofNat_toNat]

theorem head_escapedChar (char : Char) :
    ∃ first rest, escapedChar char = first :: rest ∧ first ≠ '"' := by
  unfold escapedChar
  dsimp only
  split
  · exact ⟨'\\', [char], rfl, by decide⟩
  · next hquote =>
    split
    · exact ⟨'\\', ['n'], rfl, by decide⟩
    · split
      · exact ⟨'\\', ['r'], rfl, by decide⟩
      · split
        · exact ⟨'\\', ['t'], rfl, by decide⟩
        · split
          · exact ⟨'\\', ['f'], rfl, by decide⟩
          · split
            · exact ⟨'\\', ['b'], rfl, by decide⟩
            · split
              · refine ⟨char, [], rfl, ?_⟩
                rintro rfl
                exact hquote (.inl rfl)
              · split
                · exact ⟨'\\', _, rfl, by decide⟩
                · exact ⟨'\\', _, rfl, by decide⟩

theorem escaped_inj {text text' rest rest' : List Char}
    (h : text.flatMap escapedChar ++ '"' :: rest = text'.flatMap escapedChar ++ '"' :: rest') :
    text = text' ∧ rest = rest' := by
  induction text generalizing text' with
  | nil =>
      cases text' with
      | nil => exact ⟨rfl, List.tail_eq_of_cons_eq h⟩
      | cons char text' =>
          obtain ⟨first, tail, hfirst, hne⟩ := head_escapedChar char
          rw [List.flatMap_nil, List.nil_append, List.flatMap_cons, hfirst] at h
          exact absurd (List.head_eq_of_cons_eq h).symm hne
  | cons char text ih =>
      cases text' with
      | nil =>
          obtain ⟨first, tail, hfirst, hne⟩ := head_escapedChar char
          rw [List.flatMap_nil, List.nil_append, List.flatMap_cons, hfirst] at h
          exact absurd (List.head_eq_of_cons_eq h) hne
      | cons char' text' =>
          rw [List.flatMap_cons, List.flatMap_cons, List.append_assoc, List.append_assoc] at h
          have hread := congrArg readChar h
          rw [readChar_escapedChar, readChar_escapedChar] at hread
          obtain ⟨rfl, hrest⟩ := Prod.mk.inj (Option.some.inj hread)
          obtain ⟨rfl, rfl⟩ := ih hrest
          exact ⟨rfl, rfl⟩

theorem toList_quoted (text : String) :
    (quoted text).toList = '"' :: (text.toList.flatMap escapedChar ++ ['"']) := by
  simp only [quoted, String.toList_append, String.toList_ofList]
  rfl

theorem quoted_inj {text text' : String} {rest rest' : List Char}
    (h : (quoted text).toList ++ rest = (quoted text').toList ++ rest') :
    text = text' ∧ rest = rest' := by
  rw [toList_quoted, toList_quoted, List.cons_append, List.cons_append, List.append_assoc,
    List.append_assoc] at h
  obtain ⟨htext, hrest⟩ := escaped_inj (List.tail_eq_of_cons_eq h)
  exact ⟨String.toList_inj.mp htext, hrest⟩

/-! ## Numbers -/

/-- The characters of integers. -/
def isNumeral (letter : Char) : Bool :=
  letter.isDigit || letter == '-'

theorem isNumeral_toString (number : Int) :
    (toString number).toList ≠ [] ∧ ∀ letter ∈ (toString number).toList, isNumeral letter = true := by
  have hdigits : ∀ count : Nat, ∀ letter ∈ (Nat.repr count).toList, isNumeral letter = true := by
    intro count letter hletter
    rw [Nat.toList_repr] at hletter
    unfold isNumeral
    rw [Nat.isDigit_of_mem_toDigits (by decide) (by decide) hletter]
    rfl
  rw [Int.toString_eq_repr, Int.repr_eq_if]
  split
  · refine ⟨?_, ?_⟩
    · rw [Nat.toList_repr]
      exact Nat.toDigits_ne_nil
    · exact hdigits _
  · rw [String.toList_append]
    refine ⟨?_, ?_⟩
    · exact List.append_ne_nil_of_left_ne_nil (by decide) _
    · intro letter hletter
      rcases List.mem_append.mp hletter with hsign | hdigit
      · obtain rfl := List.mem_singleton.mp hsign
        rfl
      · exact hdigits _ letter hdigit

theorem repr_inj {count count' : Nat} (h : Nat.repr count = Nat.repr count') : count = count' := by
  have hlist := congrArg String.toList h
  rw [Nat.toList_repr, Nat.toList_repr] at hlist
  have hvalue := congrArg (fun digits => Nat.ofDigitChars 10 digits 0) hlist
  simpa only [Nat.ofDigitChars_ten_toDigits] using hvalue

theorem toString_inj {number number' : Int} (h : toString number = toString number') :
    number = number' := by
  have hsign : ∀ count count' : Nat, Nat.repr count ≠ "-" ++ Nat.repr count' := by
    intro count count' heq
    have hlist := congrArg String.toList heq
    rw [Nat.toList_repr, String.toList_append] at hlist
    have hmem : '-' ∈ Nat.toDigits 10 count := by
      rw [hlist]
      exact List.mem_append_left _ (List.mem_singleton.mpr rfl)
    exact absurd (Nat.isDigit_of_mem_toDigits (by decide) (by decide) hmem) (by decide)
  rw [Int.toString_eq_repr, Int.toString_eq_repr, Int.repr_eq_if, Int.repr_eq_if] at h
  split at h
  · split at h
    · have hnat := repr_inj h
      omega
    · exact absurd h (hsign _ _)
  · split at h
    · exact absurd h.symm (hsign _ _)
    · have hlist := congrArg String.toList h
      rw [String.toList_append, String.toList_append] at hlist
      have hnat := repr_inj (String.toList_inj.mp (List.append_cancel_left hlist))
      omega

/-! ## Prefixes -/

/-- What may follow a value: nothing, a comma or a bracket that closes. -/
def Stop (rest : List Char) : Prop :=
  ∀ letter tail, rest = letter :: tail → letter = ',' ∨ letter = ']' ∨ letter = '\x7d'

/-- Two texts that are not the same cannot be continued to the same text. -/
def Delimits (text text' : List Char) : Prop :=
  ∀ rest rest', Stop rest → Stop rest' → text ++ rest = text' ++ rest' → text = text' ∧ rest = rest'

theorem stop_cons {letter : Char} {rest : List Char}
    (h : letter = ',' ∨ letter = ']' ∨ letter = '\x7d') : Stop (letter :: rest) := by
  intro first tail heq
  rw [← List.head_eq_of_cons_eq heq]
  exact h

theorem delimits_numerals {text text' : List Char} (h : ∀ letter ∈ text, isNumeral letter = true)
    (h' : ∀ letter ∈ text', isNumeral letter = true) : Delimits text text' := by
  have hstop : ∀ rest, Stop rest → rest.takeWhile isNumeral = [] := by
    intro rest hrest
    cases rest with
    | nil => rfl
    | cons letter tail =>
        have hnot : isNumeral letter = false := by
          rcases hrest letter tail rfl with rfl | rfl | rfl <;> decide
        rw [List.takeWhile_cons_of_neg (by rw [hnot]; decide)]
  intro rest rest' hrest hrest' heq
  have htake := congrArg (List.takeWhile isNumeral) heq
  rw [List.takeWhile_append_of_pos h, List.takeWhile_append_of_pos h', hstop rest hrest,
    hstop rest' hrest', List.append_nil, List.append_nil] at htake
  rw [htake] at heq
  exact ⟨htake, List.append_cancel_left heq⟩

/-- Texts with commas between them, and the bracket after them. -/
def enclosed (close : Char) (parts : List (List Char)) (rest : List Char) : List Char :=
  [',', ' '].intercalate parts ++ close :: rest

/-- What follows the first of some texts. -/
def afterFirst (close : Char) (rest : List Char) : List (List Char) → List Char
  | [] => close :: rest
  | part :: parts => ',' :: ' ' :: enclosed close (part :: parts) rest

theorem enclosed_cons (close : Char) (part : List Char) (parts : List (List Char)) (rest : List Char) :
    enclosed close (part :: parts) rest = part ++ afterFirst close rest parts := by
  cases parts with
  | nil => simp [enclosed, afterFirst, List.intercalate]
  | cons next parts => simp [enclosed, afterFirst, List.intercalate, List.intersperse]

theorem enclosed_cons_ne {close : Char} {part : List Char}
    (h : ∃ first tail, part = first :: tail ∧ first ≠ close) (parts : List (List Char))
    (rest rest' : List Char) : enclosed close (part :: parts) rest ≠ close :: rest' := by
  obtain ⟨first, tail, rfl, hne⟩ := h
  intro heq
  rw [enclosed_cons] at heq
  exact hne (List.head_eq_of_cons_eq heq)

/-- Texts that delimit themselves can be told apart between brackets. -/
theorem enclosed_inj {close : Char} (hclose : close = ']' ∨ close = '\x7d')
    {parts parts' : List (List Char)} {rest rest' : List Char}
    (hparts : ∀ part ∈ parts, ∀ part' ∈ parts', Delimits part part')
    (hhead : ∀ part ∈ parts, ∃ first tail, part = first :: tail ∧ first ≠ close)
    (hhead' : ∀ part ∈ parts', ∃ first tail, part = first :: tail ∧ first ≠ close)
    (h : enclosed close parts rest = enclosed close parts' rest') : parts = parts' ∧ rest = rest' := by
  have hstop : ∀ rest parts, Stop (afterFirst close rest parts) := by
    intro rest parts
    cases parts with
    | nil => exact stop_cons (.inr hclose)
    | cons => exact stop_cons (.inl rfl)
  have hcomma : close ≠ ',' := by
    rcases hclose with rfl | rfl <;> decide
  induction parts generalizing parts' with
  | nil =>
      cases parts' with
      | nil => exact ⟨rfl, List.tail_eq_of_cons_eq h⟩
      | cons part parts' =>
          exact absurd h.symm (enclosed_cons_ne (hhead' part List.mem_cons_self) parts' rest' rest)
  | cons part parts ih =>
      cases parts' with
      | nil => exact absurd h (enclosed_cons_ne (hhead part List.mem_cons_self) parts rest rest')
      | cons part' parts' =>
          rw [enclosed_cons, enclosed_cons] at h
          obtain ⟨rfl, hafter⟩ := hparts part List.mem_cons_self part' List.mem_cons_self _ _
            (hstop rest parts) (hstop rest' parts') h
          cases parts with
          | nil =>
              cases parts' with
              | nil => exact ⟨rfl, List.tail_eq_of_cons_eq hafter⟩
              | cons => exact absurd (List.head_eq_of_cons_eq hafter) hcomma
          | cons next parts =>
              cases parts' with
              | nil => exact absurd (List.head_eq_of_cons_eq hafter).symm hcomma
              | cons next' parts' =>
                  obtain ⟨heq, hrest⟩ := ih
                    (fun other hother other' hother' => hparts other (List.mem_cons_of_mem _ hother)
                      other' (List.mem_cons_of_mem _ hother'))
                    (fun other hother => hhead other (List.mem_cons_of_mem _ hother))
                    (fun other hother => hhead' other (List.mem_cons_of_mem _ hother))
                    (List.tail_eq_of_cons_eq (List.tail_eq_of_cons_eq hafter))
                  exact ⟨by rw [heq], hrest⟩

/-! ## Values -/

/-- A value without floats, the keys of whose objects are distinct. -/
inductive Exact : Value → Prop where
  | null : Exact .null
  | bool (flag : Bool) : Exact (.bool flag)
  | int (number : Int) : Exact (.int number)
  | str (text : String) : Exact (.str text)
  | list {items : List Value} : (∀ item ∈ items, Exact item) → Exact (.list items)
  | dict {fields : Dict} : (fields.map Prod.fst).Nodup → (∀ field ∈ fields, Exact field.2) →
      Exact (.dict fields)

variable {repr : Rat → String}

theorem dumpsItems_eq (items : List Value) : dumpsItems repr items = items.map (dumps repr) := by
  induction items with
  | nil => rw [dumpsItems, List.map_nil]
  | cons item rest ih => rw [dumpsItems, ih, List.map_cons]

theorem mem_insertField {field other : String × String} {fields : Assoc String} :
    other ∈ insertField field fields ↔ other = field ∨ other ∈ fields := by
  induction fields with
  | nil => rw [insertField, List.mem_singleton]; simp
  | cons next rest ih =>
      rw [insertField]
      split
      · rw [List.mem_cons]
      · rw [List.mem_cons, ih, List.mem_cons]
        tauto

theorem mem_dumpsFields {field : String × String} {fields : Dict}
    (h : field ∈ dumpsFields repr fields) :
    ∃ value, (field.1, value) ∈ fields ∧ field.2 = dumps repr value := by
  rw [dumpsFields_eq] at h
  have hmem : ∀ texts : Assoc String, field ∈ texts.foldr insertField [] → field ∈ texts := by
    intro texts
    induction texts with
    | nil => exact id
    | cons text rest ih =>
        intro hfield
        rcases mem_insertField.mp hfield with rfl | hrest
        · exact List.mem_cons_self
        · exact List.mem_cons_of_mem _ (ih hrest)
  obtain ⟨⟨key, value⟩, hvalue, rfl⟩ := List.mem_map.mp (hmem _ h)
  exact ⟨value, hvalue, rfl⟩

theorem find_insertField (field : String × String) (fields : Assoc String) (key : String) :
    Assoc.find (insertField field fields) key =
      if field.1 = key then some field.2 else Assoc.find fields key := by
  induction fields with
  | nil => rfl
  | cons next rest ih =>
      rw [insertField]
      split
      · rw [Assoc.find]
      · next hafter =>
        rw [Assoc.find, ih, Assoc.find]
        by_cases hkey : next.1 = key
        · have hne : field.1 ≠ key := by
            rintro rfl
            exact hafter (hkey ▸ String.le_refl _)
          rw [if_pos hkey, if_neg hne, if_pos hkey]
        · rw [if_neg hkey, if_neg hkey]

theorem find_dumpsFields (fields : Dict) (key : String) :
    Assoc.find (dumpsFields repr fields) key = (Assoc.find fields key).map (dumps repr) := by
  induction fields with
  | nil => rw [dumpsFields]; rfl
  | cons field rest ih =>
      obtain ⟨key', value⟩ := field
      rw [dumpsFields, find_insertField, ih, Assoc.find]
      split <;> rfl

/-- The letters of a field. -/
def fieldLetters (field : String × String) : List Char :=
  (quoted field.1).toList ++ ':' :: ' ' :: field.2.toList

theorem enclosed_append (close : Char) (parts : List (List Char)) (rest : List Char) :
    enclosed close parts [] ++ rest = enclosed close parts rest := by
  unfold enclosed
  rw [List.append_assoc]
  rfl

theorem toList_dumps_list (items : List Value) :
    (dumps repr (.list items)).toList =
      '[' :: enclosed ']' (items.map fun item => (dumps repr item).toList) [] := by
  rw [dumps, dumpsItems_eq]
  simp only [String.toList_append, String.toList_intercalate, List.map_map, enclosed]
  rfl

theorem toList_dumps_dict (fields : Dict) :
    (dumps repr (.dict fields)).toList =
      '\x7b' :: enclosed '\x7d' ((dumpsFields repr fields).map fieldLetters) [] := by
  have hfield : ∀ field : String × String,
      (quoted field.1 ++ ": " ++ field.2).toList = fieldLetters field := by
    intro field
    unfold fieldLetters
    rw [String.toList_append, String.toList_append, List.append_assoc]
    rfl
  rw [dumps]
  simp only [String.toList_append, String.toList_intercalate, List.map_map, enclosed]
  have hmap : (dumpsFields repr fields).map
      (String.toList ∘ fun field => quoted field.1 ++ ": " ++ field.2) =
        (dumpsFields repr fields).map fieldLetters :=
    List.map_congr_left fun field _ => hfield field
  rw [hmap]
  rfl

/-- The kinds of values, by the characters that their texts begin with. -/
def kind : Value → Nat
  | .null => 0
  | .bool true => 1
  | .bool false => 2
  | .str _ => 3
  | .list _ => 4
  | .dict _ => 5
  | .int _ => 6
  | .float _ => 7

/-- The kind of the values whose texts begin with a character. -/
def opening (letter : Char) : Nat :=
  if letter = 'n' then 0
  else if letter = 't' then 1
  else if letter = 'f' then 2
  else if letter = '"' then 3
  else if letter = '[' then 4
  else if letter = '\x7b' then 5
  else if isNumeral letter then 6
  else 8

theorem head_dumps {value : Value} (h : Exact value) :
    ∃ first rest, (dumps repr value).toList = first :: rest ∧ opening first = kind value := by
  cases h with
  | null => exact ⟨'n', "ull".toList, by rw [dumps]; rfl, rfl⟩
  | bool flag =>
      cases flag with
      | true => exact ⟨'t', "rue".toList, by rw [dumps]; rfl, rfl⟩
      | false => exact ⟨'f', "alse".toList, by rw [dumps]; rfl, rfl⟩
  | int number =>
      obtain ⟨hne, hall⟩ := isNumeral_toString number
      obtain ⟨first, rest, hfirst⟩ := List.exists_cons_of_ne_nil hne
      refine ⟨first, rest, by rw [dumps, hfirst], ?_⟩
      have hnumeral : isNumeral first = true := hall first (by rw [hfirst]; exact List.mem_cons_self)
      have hnot : ∀ letter, isNumeral letter = false → first ≠ letter := by
        rintro letter hletter rfl
        rw [hnumeral] at hletter
        cases hletter
      unfold opening
      rw [if_neg (hnot _ (by decide)), if_neg (hnot _ (by decide)), if_neg (hnot _ (by decide)),
        if_neg (hnot _ (by decide)), if_neg (hnot _ (by decide)), if_neg (hnot _ (by decide)),
        if_pos hnumeral]
      rfl
  | str text => exact ⟨'"', _, by rw [dumps, toList_quoted], rfl⟩
  | list => exact ⟨'[', _, toList_dumps_list _, rfl⟩
  | dict => exact ⟨'\x7b', _, toList_dumps_dict _, rfl⟩

theorem head_dumps_ne {value : Value} (h : Exact value) {close : Char} (hclose : opening close = 8) :
    ∃ first rest, (dumps repr value).toList = first :: rest ∧ first ≠ close := by
  obtain ⟨first, rest, hfirst, hkind⟩ := @head_dumps repr value h
  refine ⟨first, rest, hfirst, ?_⟩
  rintro rfl
  rw [hclose] at hkind
  cases value with
  | bool flag => cases flag <;> cases hkind
  | _ => cases hkind

theorem forall_head_ne {items : List Value} (h : ∀ item ∈ items, Exact item) :
    ∀ part ∈ items.map fun item => (dumps repr item).toList,
      ∃ first tail, part = first :: tail ∧ first ≠ ']' := by
  intro part hpart
  obtain ⟨item, hitem, rfl⟩ := List.mem_map.mp hpart
  exact head_dumps_ne (h item hitem) (by decide)

theorem forall_quote_ne (fields : Dict) :
    ∀ part ∈ (dumpsFields repr fields).map fieldLetters,
      ∃ first tail, part = first :: tail ∧ first ≠ '\x7d' := by
  intro part hpart
  obtain ⟨field, -, rfl⟩ := List.mem_map.mp hpart
  rw [fieldLetters, toList_quoted, List.cons_append]
  exact ⟨'"', _, rfl, by decide⟩

variable {value value' : Value}

theorem kind_eq (h : Exact value) (h' : Exact value') {rest rest' : List Char}
    (heq : (dumps repr value).toList ++ rest = (dumps repr value').toList ++ rest') :
    kind value = kind value' := by
  obtain ⟨first, tail, hfirst, hkind⟩ := @head_dumps repr value h
  obtain ⟨first', tail', hfirst', hkind'⟩ := @head_dumps repr value' h'
  rw [hfirst, hfirst', List.cons_append, List.cons_append] at heq
  rw [← hkind, ← hkind', List.head_eq_of_cons_eq heq]

theorem delimits_fieldLetters {field field' : String × String}
    (h : Delimits field.2.toList field'.2.toList) : Delimits (fieldLetters field) (fieldLetters field') := by
  intro rest rest' hrest hrest' heq
  unfold fieldLetters at heq ⊢
  rw [List.append_assoc, List.append_assoc] at heq
  obtain ⟨hkey, hafter⟩ := quoted_inj heq
  obtain ⟨htext, hrests⟩ := h rest rest' hrest hrest'
    (List.tail_eq_of_cons_eq (List.tail_eq_of_cons_eq hafter))
  exact ⟨by rw [hkey, htext], hrests⟩

theorem items_inj {items items' : List Value} {rest rest' : List Char} (hitems : ∀ item ∈ items, Exact item)
    (hitems' : ∀ item ∈ items', Exact item)
    (hdelims : ∀ item ∈ items, ∀ item' ∈ items', Delimits (dumps repr item).toList (dumps repr item').toList)
    (h : enclosed ']' (items.map fun item => (dumps repr item).toList) rest =
      enclosed ']' (items'.map fun item => (dumps repr item).toList) rest') :
    (items.map fun item => (dumps repr item).toList) = (items'.map fun item => (dumps repr item).toList) ∧
      rest = rest' := by
  refine enclosed_inj (.inl rfl) ?_ (forall_head_ne hitems) (forall_head_ne hitems') h
  intro part hpart part' hpart'
  obtain ⟨item, hitem, rfl⟩ := List.mem_map.mp hpart
  obtain ⟨item', hitem', rfl⟩ := List.mem_map.mp hpart'
  exact hdelims item hitem item' hitem'

theorem fields_inj {fields fields' : Dict} {rest rest' : List Char}
    (hdelims : ∀ field ∈ fields, ∀ field' ∈ fields',
      Delimits (dumps repr field.2).toList (dumps repr field'.2).toList)
    (h : enclosed '\x7d' ((dumpsFields repr fields).map fieldLetters) rest =
      enclosed '\x7d' ((dumpsFields repr fields').map fieldLetters) rest') :
    (dumpsFields repr fields).map fieldLetters = (dumpsFields repr fields').map fieldLetters ∧
      rest = rest' := by
  refine enclosed_inj (.inr rfl) ?_ (forall_quote_ne fields) (forall_quote_ne fields') h
  intro part hpart part' hpart'
  obtain ⟨field, hfield, rfl⟩ := List.mem_map.mp hpart
  obtain ⟨field', hfield', rfl⟩ := List.mem_map.mp hpart'
  obtain ⟨child, hchild, htext⟩ := mem_dumpsFields hfield
  obtain ⟨child', hchild', htext'⟩ := mem_dumpsFields hfield'
  refine delimits_fieldLetters ?_
  rw [htext, htext']
  exact hdelims _ hchild _ hchild'

/-- The text of a value delimits itself. -/
theorem delimits_dumps (h : Exact value) (h' : Exact value') :
    Delimits (dumps repr value).toList (dumps repr value').toList := by
  induction h generalizing value' with
  | null =>
      intro rest rest' _ _ heq
      have hkind := kind_eq .null h' heq
      cases h' with
      | null => exact ⟨rfl, List.append_cancel_left heq⟩
      | bool flag => cases flag <;> cases hkind
      | _ => cases hkind
  | bool flag =>
      intro rest rest' _ _ heq
      have hkind := kind_eq (.bool flag) h' heq
      cases h' with
      | bool flag' =>
          obtain rfl : flag = flag' := by
            cases flag <;> cases flag' <;> first | rfl | cases hkind
          exact ⟨rfl, List.append_cancel_left heq⟩
      | _ => cases flag <;> cases hkind
  | int number =>
      intro rest rest' hrest hrest' heq
      have hkind := kind_eq (.int number) h' heq
      cases h' with
      | int number' =>
          rw [dumps, dumps] at heq ⊢
          exact delimits_numerals (isNumeral_toString number).2 (isNumeral_toString number').2 rest rest'
            hrest hrest' heq
      | bool flag => cases flag <;> cases hkind
      | _ => cases hkind
  | str text =>
      intro rest rest' _ _ heq
      have hkind := kind_eq (.str text) h' heq
      cases h' with
      | str text' =>
          rw [dumps, dumps] at heq ⊢
          obtain ⟨rfl, hrests⟩ := quoted_inj heq
          exact ⟨rfl, hrests⟩
      | bool flag => cases flag <;> cases hkind
      | _ => cases hkind
  | list hitems ih =>
      intro rest rest' _ _ heq
      have hkind := kind_eq (.list hitems) h' heq
      cases h' with
      | list hitems' =>
          rw [toList_dumps_list, toList_dumps_list] at heq ⊢
          rw [List.cons_append, List.cons_append, enclosed_append, enclosed_append] at heq
          have hdelims := fun item hitem item' hitem' => ih item hitem (hitems' item' hitem')
          obtain ⟨hparts, hrests⟩ := items_inj hitems hitems' hdelims (List.tail_eq_of_cons_eq heq)
          exact ⟨by rw [hparts], hrests⟩
      | bool flag => cases flag <;> cases hkind
      | _ => cases hkind
  | @dict fields hkeys hfields ih =>
      intro rest rest' _ _ heq
      have hkind := kind_eq (.dict hkeys hfields) h' heq
      cases h' with
      | @dict fields' hkeys' hfields' =>
          rw [toList_dumps_dict, toList_dumps_dict] at heq ⊢
          rw [List.cons_append, List.cons_append, enclosed_append, enclosed_append] at heq
          have hdelims := fun field hfield field' hfield' => ih field hfield (hfields' field' hfield')
          obtain ⟨hparts, hrests⟩ := fields_inj hdelims (List.tail_eq_of_cons_eq heq)
          exact ⟨by rw [hparts], hrests⟩
      | bool flag => cases flag <;> cases hkind
      | _ => cases hkind

/-! ## Values up to the order of keys -/

theorem fieldLetters_inj {field field' : String × String} (h : fieldLetters field = fieldLetters field') :
    field = field' := by
  obtain ⟨hkey, hafter⟩ := quoted_inj h
  have htext := List.tail_eq_of_cons_eq (List.tail_eq_of_cons_eq hafter)
  exact Prod.ext hkey (String.toList_inj.mp htext)

/-- Values with the same text are the same, except for the order of keys. -/
theorem alike_of_dumps_eq (h : Exact value) (h' : Exact value')
    (heq : dumps repr value = dumps repr value') : Alike value value' := by
  have hletters : ∀ {value value' : Value}, dumps repr value = dumps repr value' →
      (dumps repr value).toList ++ [] = (dumps repr value').toList ++ [] := by
    intro value value' heq
    rw [heq]
  induction h generalizing value' with
  | null =>
      have hkind := kind_eq .null h' (hletters heq)
      cases h' with
      | null => exact .same _
      | bool flag => cases flag <;> cases hkind
      | _ => cases hkind
  | bool flag =>
      have hkind := kind_eq (.bool flag) h' (hletters heq)
      cases h' with
      | bool flag' =>
          obtain rfl : flag = flag' := by
            cases flag <;> cases flag' <;> first | rfl | cases hkind
          exact .same _
      | _ => cases flag <;> cases hkind
  | int number =>
      have hkind := kind_eq (.int number) h' (hletters heq)
      cases h' with
      | int number' =>
          rw [dumps, dumps] at heq
          rw [toString_inj heq]
          exact .same _
      | bool flag => cases flag <;> cases hkind
      | _ => cases hkind
  | str text =>
      have hkind := kind_eq (.str text) h' (hletters heq)
      cases h' with
      | str text' =>
          rw [dumps, dumps] at heq
          obtain ⟨rfl, -⟩ := @quoted_inj text text' [] [] (by rw [heq])
          exact .same _
      | bool flag => cases flag <;> cases hkind
      | _ => cases hkind
  | @list items hitems ih =>
      have hkind := kind_eq (.list hitems) h' (hletters heq)
      cases h' with
      | @list items' hitems' =>
          have hlist := congrArg String.toList heq
          rw [toList_dumps_list, toList_dumps_list] at hlist
          have hdelims := fun item hitem item' hitem' =>
            @delimits_dumps repr item item' (hitems item hitem) (hitems' item' hitem')
          obtain ⟨hparts, -⟩ := items_inj hitems hitems' hdelims (List.tail_eq_of_cons_eq hlist)
          refine .array (by simpa using congrArg List.length hparts)
            fun index child child' hchild hchild' => ?_
          have htexts := congrArg (fun parts => parts[index]?) hparts
          simp only [List.getElem?_map, hchild, hchild', Option.map_some] at htexts
          exact ih child (List.mem_of_getElem? hchild) (hitems' child' (List.mem_of_getElem? hchild'))
            (String.toList_inj.mp (Option.some.inj htexts))
      | bool flag => cases flag <;> cases hkind
      | _ => cases hkind
  | @dict fields hkeys hfields ih =>
      have hkind := kind_eq (.dict hkeys hfields) h' (hletters heq)
      cases h' with
      | @dict fields' hkeys' hfields' =>
          have hlist := congrArg String.toList heq
          rw [toList_dumps_dict, toList_dumps_dict] at hlist
          have hdelims := fun field hfield field' hfield' =>
            @delimits_dumps repr field.2 field'.2 (hfields field hfield) (hfields' field' hfield')
          obtain ⟨hparts, -⟩ := fields_inj hdelims (List.tail_eq_of_cons_eq hlist)
          have hsorted : dumpsFields repr fields = dumpsFields repr fields' :=
            List.map_injective_iff.mpr (fun _ _ => fieldLetters_inj) hparts
          have hfind : ∀ name, (Assoc.find fields name).map (dumps repr) =
              (Assoc.find fields' name).map (dumps repr) := by
            intro name
            rw [← find_dumpsFields, ← find_dumpsFields, hsorted]
          refine .object (fun name => ?_) fun name child child' hchild hchild' => ?_
          · have hsome := congrArg Option.isSome (hfind name)
            unfold Assoc.has
            simpa only [Option.isSome_map] using hsome
          · have htexts := hfind name
            rw [hchild, hchild'] at htexts
            exact ih _ (Assoc.mem_of_find hchild) (hfields' _ (Assoc.mem_of_find hchild'))
              (Option.some.inj htexts)
      | bool flag => cases flag <;> cases hkind
      | _ => cases hkind

theorem keys_texts (fields : Dict) :
    (fields.map fun field => (field.1, dumps repr field.2)).map Prod.fst = fields.map Prod.fst := by
  rw [List.map_map]
  rfl

theorem mem_texts_iff {fields : Dict} (hkeys : (fields.map Prod.fst).Nodup) (text : String × String) :
    text ∈ (fields.map fun field => (field.1, dumps repr field.2)) ↔
      (Assoc.find fields text.1).map (dumps repr) = some text.2 := by
  rw [List.mem_map]
  constructor
  · rintro ⟨⟨key, child⟩, hchild, rfl⟩
    rw [Assoc.find_of_mem hkeys hchild]
    rfl
  · intro hfind
    obtain ⟨child, hchild, htext⟩ := Option.map_eq_some_iff.mp hfind
    exact ⟨_, Assoc.mem_of_find hchild, Prod.ext rfl htext⟩

theorem texts_perm {fields fields' : Dict} (hkeys : (fields.map Prod.fst).Nodup)
    (hkeys' : (fields'.map Prod.fst).Nodup) (hhas : ∀ name, Assoc.has fields name = Assoc.has fields' name)
    (h : ∀ name child child', Assoc.find fields name = some child → Assoc.find fields' name = some child' →
      dumps repr child = dumps repr child') :
    (fields.map fun field => (field.1, dumps repr field.2)).Perm
      (fields'.map fun field => (field.1, dumps repr field.2)) := by
  have hnodup : ∀ {fields : Dict}, (fields.map Prod.fst).Nodup →
      (fields.map fun field => (field.1, dumps repr field.2)).Nodup := by
    intro fields hkeys
    exact .of_map Prod.fst ((keys_texts fields).symm ▸ hkeys)
  refine (List.perm_ext_iff_of_nodup (hnodup hkeys) (hnodup hkeys')).mpr fun text => ?_
  rw [mem_texts_iff hkeys, mem_texts_iff hkeys']
  have hname := hhas text.1
  unfold Assoc.has at hname
  cases hchild : Assoc.find fields text.1 with
  | none =>
      rw [hchild, Option.isSome_none] at hname
      rw [Option.isSome_eq_false_iff.mp hname.symm |> Option.isNone_iff_eq_none.mp]
  | some child =>
      rw [hchild, Option.isSome_some] at hname
      obtain ⟨child', hchild'⟩ := Option.isSome_iff_exists.mp hname.symm
      rw [hchild', Option.map_some, Option.map_some, h text.1 child child' hchild hchild']

theorem dumps_eq_of_alike (h : Alike value value') (hexact : Exact value)
    (hexact' : Exact value') : dumps repr value = dumps repr value' := by
  induction h with
  | same => rfl
  | @object fields fields' hhas hchildren ih =>
      cases hexact with
      | dict hkeys hfields =>
          cases hexact' with
          | dict hkeys' hfields' =>
              have hperm := texts_perm hkeys hkeys' hhas fun name child child' hchild hchild' =>
                ih name child child' hchild hchild' (hfields _ (Assoc.mem_of_find hchild))
                  (hfields' _ (Assoc.mem_of_find hchild'))
              rw [dumps, dumps, dumpsFields_eq, dumpsFields_eq,
                foldr_insertField_perm hperm ((keys_texts fields).symm ▸ hkeys)]
  | @array items items' hlength hchildren ih =>
      cases hexact with
      | list hitems =>
          cases hexact' with
          | list hitems' =>
              have htexts : items.map (dumps repr) = items'.map (dumps repr) := by
                refine List.ext_getElem (by simpa using hlength) fun index hindex hindex' => ?_
                rw [List.getElem_map, List.getElem_map]
                rw [List.length_map] at hindex hindex'
                exact ih index _ _ (List.getElem?_eq_getElem hindex) (List.getElem?_eq_getElem hindex')
                  (hitems _ (List.getElem_mem _)) (hitems' _ (List.getElem_mem _))
              rw [dumps, dumps, dumpsItems_eq, dumpsItems_eq, htexts]

theorem dumps_eq_iff_alike (h : Exact value) (h' : Exact value') :
    dumps repr value = dumps repr value' ↔ Alike value value' :=
  ⟨alike_of_dumps_eq h h', fun halike => dumps_eq_of_alike halike h h'⟩

end Value

end IntegrationPlatform
