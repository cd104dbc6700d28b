import IntegrationPlatform.Gateway.Scheduler
import IntegrationPlatform.Texts.Masking
import Mathlib.Data.List.TakeWhile

/-!
# E-mail addresses and phone numbers

The two regular expressions of the redactor of logs, as patterns. Neither reads beyond an asterisk or a
bracket (`stops_email`, `stops_phone`), which is what masks are made of.
-/

namespace IntegrationPlatform

namespace LogRedaction

open Gateway (isSpace)
open Masking

/-- The decimal digits. Those of ASCII are the usual ones. -/
structure DecimalDigits where
  isDecimal : Char → Bool
  ascii : ∀ letter, letter.toNat < 128 → isDecimal letter = letter.isDigit

/-! ## E-mail addresses -/

/-- `[a-zA-Z0-9_.+-]`. -/
def inName (letter : Char) : Bool :=
  letter.isAlphanum || letter ∈ ['_', '.', '+', '-']

/-- `[a-zA-Z0-9-]`. -/
def inHost (letter : Char) : Bool :=
  letter.isAlphanum || letter == '-'

/-- `[a-zA-Z0-9-.]`. -/
def inDomain (letter : Char) : Bool :=
  letter.isAlphanum || letter ∈ ['-', '.']

/-- The length of a match of `[a-zA-Z0-9-]+\.[a-zA-Z0-9-.]+` at the beginning of a text. -/
def findDomain (text : List Char) : Option Nat :=
  match text.dropWhile inHost with
  | '.' :: rest =>
      if text.takeWhile inHost = [] ∨ rest.takeWhile inDomain = [] then none
      else some ((text.takeWhile inHost).length + 1 + (rest.takeWhile inDomain).length)
  | _ => none

/-- The length of a match of `_EMAIL_RE` at the beginning of a text. -/
def findEmail (text : List Char) : Option Nat :=
  -- No class has the letter that follows it in the expression, so that the longest run is the only one.
  match text.dropWhile inName with
  | '@' :: rest =>
      if text.takeWhile inName = [] then none
      else (findDomain rest).map fun length => (text.takeWhile inName).length + 1 + length
  | _ => none

/-! ## Phone numbers -/

section Phones

variable (digits : DecimalDigits)

/-- `[\d\s\-]`. -/
def inNumber (letter : Char) : Bool :=
  digits.isDecimal letter || isSpace letter || letter == '-'

/-- The length of a match of `\d[\d\s\-]{7,14}\d` at the beginning of a text. -/
def findNumber : List Char → Option Nat
  | [] => none
  | first :: rest =>
      if digits.isDecimal first then
        -- As many letters as possible between the first digit and the last one.
        ([14, 13, 12, 11, 10, 9, 8, 7].find? fun middle =>
          ((rest.takeWhile (inNumber digits))[middle]?).any digits.isDecimal).map (· + 2)
      else none

/-- The length of a match of `_PHONE_RE` at the beginning of a text. -/
def findPhone : List Char → Option Nat
  | '+' :: rest => (findNumber digits rest).map (· + 1)
  | text => findNumber digits text

end Phones

/-! ## The patterns -/

variable {belongs : Char → Bool}

theorem length_of_dropWhile {text rest : List Char}
    (h : text.dropWhile belongs = rest) : (text.takeWhile belongs).length + rest.length = text.length := by
  rw [← h, ← List.length_append, List.takeWhile_append_dropWhile]

variable {text : List Char}

theorem findDomain_le {length : Nat} (h : findDomain text = some length) :
    0 < length ∧ length ≤ text.length := by
  unfold findDomain at h
  split at h
  · next rest hrest =>
    split at h
    · cases h
    · obtain rfl := Option.some.inj h
      have htext := length_of_dropWhile hrest
      have htail := (List.takeWhile_prefix inDomain (l := rest)).length_le
      rw [List.length_cons] at htext
      omega
  · cases h

/-- `_EMAIL_RE`. -/
def email : Pattern Char where
  find := findEmail
  pos := by
    intro text length h
    unfold findEmail at h
    split at h
    · split at h
      · cases h
      · obtain ⟨domain, -, rfl⟩ := Option.map_eq_some_iff.mp h
        omega
    · cases h
  le := by
    intro text length h
    unfold findEmail at h
    split at h
    · next rest hrest =>
      split at h
      · cases h
      · obtain ⟨domain, hdomain, rfl⟩ := Option.map_eq_some_iff.mp h
        have htext := length_of_dropWhile hrest
        have hle := (findDomain_le hdomain).2
        rw [List.length_cons] at htext
        omega
    · cases h

section Phones

variable {digits : DecimalDigits}

theorem findNumber_le {length : Nat} (h : findNumber digits text = some length) :
    0 < length ∧ length ≤ text.length := by
  cases text with
  | nil => cases h
  | cons first rest =>
      rw [findNumber] at h
      split at h
      · obtain ⟨middle, hmiddle, rfl⟩ := Option.map_eq_some_iff.mp h
        have hfound := List.find?_some hmiddle
        rw [Option.any_eq_true] at hfound
        obtain ⟨last, hlast, -⟩ := hfound
        have hlt := (List.getElem?_eq_some_iff.mp hlast).1
        have hle := (List.takeWhile_prefix (inNumber digits) (l := rest)).length_le
        rw [List.length_cons]
        omega
      · cases h

variable (digits)

/-- `_PHONE_RE`. -/
def phone : Pattern Char where
  find := findPhone digits
  pos := by
    intro text length h
    unfold findPhone at h
    split at h
    · obtain ⟨number, -, rfl⟩ := Option.map_eq_some_iff.mp h
      omega
    · exact (findNumber_le h).1
  le := by
    intro text length h
    unfold findPhone at h
    split at h
    · obtain ⟨number, hnumber, rfl⟩ := Option.map_eq_some_iff.mp h
      have hle := (findNumber_le hnumber).2
      rw [List.length_cons]
      omega
    · exact (findNumber_le h).2

end Phones

/-! ## Letters that end the matches -/

variable {letter : Char}

theorem takeWhile_stop (h : belongs letter = false) (before after : List Char) :
    (before ++ letter :: after).takeWhile belongs = before.takeWhile belongs := by
  induction before with
  | nil => simp [h]
  | cons head before ih =>
      rw [List.cons_append, List.takeWhile_cons, List.takeWhile_cons, ih]

theorem dropWhile_stop (h : belongs letter = false) (before after : List Char) :
    (before ++ letter :: after).dropWhile belongs = before.dropWhile belongs ++ letter :: after := by
  induction before with
  | nil => simp [h]
  | cons head before ih =>
      rw [List.cons_append, List.dropWhile_cons, List.dropWhile_cons, ih]
      split <;> rfl

theorem findDomain_stop (h : inDomain letter = false) (before after : List Char) :
    findDomain (before ++ letter :: after) = findDomain before := by
  have hhost : inHost letter = false := by
    simp [inDomain, inHost] at h ⊢
    tauto
  have hdot : letter ≠ '.' := by
    rintro rfl
    cases h
  rw [findDomain, findDomain, takeWhile_stop hhost, dropWhile_stop hhost]
  cases hrest : before.dropWhile inHost with
  | nil =>
      rw [List.nil_append]
      split
      · next heq => exact absurd (List.cons.inj heq).1 hdot
      · rfl
  | cons head rest =>
      by_cases hhead : head = '.'
      · subst hhead
        simp only [List.cons_append, takeWhile_stop h]
      · rw [List.cons_append]
        split
        · next heq => exact absurd (List.cons.inj heq).1 hhead
        · split
          · next heq => exact absurd (List.cons.inj heq).1 hhead
          · rfl

theorem stops_email (h : inName letter = false) (hat : letter ≠ '@') :
    Stops email letter := by
  intro before after
  have hdomain : inDomain letter = false := by
    simp [inDomain, inName] at h ⊢
    tauto
  show findEmail (before ++ letter :: after) = findEmail before
  rw [findEmail, findEmail, takeWhile_stop h, dropWhile_stop h]
  cases hrest : before.dropWhile inName with
  | nil =>
      rw [List.nil_append]
      split
      · next heq => exact absurd (List.cons.inj heq).1 hat
      · rfl
  | cons head rest =>
      by_cases hhead : head = '@'
      · subst hhead
        simp only [List.cons_append, findDomain_stop hdomain]
      · rw [List.cons_append]
        split
        · next heq => exact absurd (List.cons.inj heq).1 hhead
        · split
          · next heq => exact absurd (List.cons.inj heq).1 hhead
          · rfl

variable {digits : DecimalDigits}

theorem findNumber_stop (h : inNumber digits letter = false) (before after : List Char) :
    findNumber digits (before ++ letter :: after) = findNumber digits before := by
  cases before with
  | nil =>
      have hdigit : digits.isDecimal letter = false := by
        simp [inNumber] at h
        exact h.1.1
      simp [findNumber, hdigit]
  | cons first before =>
      rw [List.cons_append, findNumber, findNumber, takeWhile_stop h]

theorem findPhone_unsigned {head : Char} (h : head ≠ '+') (rest : List Char) :
    findPhone digits (head :: rest) = findNumber digits (head :: rest) := by
  unfold findPhone
  split
  · next heq => exact absurd (List.cons.inj heq).1 h
  · rfl

theorem stops_phone (h : inNumber digits letter = false) (hplus : letter ≠ '+') :
    Stops (phone digits) letter := by
  intro before after
  show findPhone digits (before ++ letter :: after) = findPhone digits before
  cases before with
  | nil =>
      rw [List.nil_append, findPhone_unsigned hplus]
      exact findNumber_stop h [] after
  | cons head rest =>
      by_cases hhead : head = '+'
      · subst hhead
        rw [List.cons_append, findPhone, findPhone, findNumber_stop h]
      · rw [List.cons_append, findPhone_unsigned hhead, findPhone_unsigned hhead, ← List.cons_append,
          findNumber_stop h]

theorem le_of_findNumber {length : Nat} (h : findNumber digits text = some length) :
    9 ≤ length := by
  cases text with
  | nil => cases h
  | cons first rest =>
      rw [findNumber] at h
      split at h
      · obtain ⟨middle, hmiddle, rfl⟩ := Option.map_eq_some_iff.mp h
        have hmem := List.mem_of_find?_eq_some hmiddle
        simp only [List.mem_cons, List.not_mem_nil, or_false] at hmem
        omega
      · cases h

theorem findAll_phone_of_short (h : text.length < 9) :
    (phone digits).findAll text = [] := by
  refine Pattern.findAll_eq_nil fun rest hrest => ?_
  cases hfind : (phone digits).find rest with
  | none => rfl
  | some length =>
      have hle := (phone digits).le hfind
      have hlength := hrest.length_le
      have hlong : 9 ≤ length := by
        change findPhone digits rest = some length at hfind
        unfold findPhone at hfind
        split at hfind
        · obtain ⟨number, hnumber, rfl⟩ := Option.map_eq_some_iff.mp hfind
          exact (le_of_findNumber hnumber).trans (Nat.le_succ number)
        · exact le_of_findNumber hfind
      omega

theorem findAll_phone_of_digitless (h : ∀ letter ∈ text, digits.isDecimal letter = false) :
    (phone digits).findAll text = [] := by
  have hnumber : ∀ rest : List Char, (∀ letter ∈ rest, digits.isDecimal letter = false) →
      findNumber digits rest = none := by
    intro rest hrest
    cases rest with
    | nil => rfl
    | cons first rest =>
        rw [findNumber, hrest first List.mem_cons_self]
        rfl
  refine Pattern.findAll_eq_nil fun rest hrest => ?_
  have hless : ∀ letter ∈ rest, digits.isDecimal letter = false := fun letter hletter =>
    h letter (hrest.subset hletter)
  show findPhone digits rest = none
  unfold findPhone
  split
  · next rest =>
    rw [hnumber rest fun letter hletter => hless letter (List.mem_cons_of_mem _ hletter)]
    rfl
  · exact hnumber rest hless

theorem findAll_email_of_not_mem (h : '@' ∉ text) : email.findAll text = [] := by
  refine Pattern.findAll_eq_nil fun rest hrest => ?_
  show findEmail rest = none
  unfold findEmail
  split
  · next behind hbehind =>
    have hmem : '@' ∈ rest.dropWhile inName := hbehind ▸ List.mem_cons_self
    exact absurd (hrest.subset ((List.dropWhile_suffix inName).subset hmem)) h
  · rfl

theorem exists_of_mem_findAll_email {text found : List Char} (h : found ∈ email.findAll text) :
    ∃ first others domain, found = first :: (others ++ '@' :: domain) ∧ '@' ∉ first :: others ∧
      domain ≠ [] := by
  obtain ⟨rest, length, -, hfind, rfl⟩ := Pattern.exists_find_of_mem_findAll h
  change findEmail rest = some length at hfind
  unfold findEmail at hfind
  split at hfind
  · next behind hbehind =>
    split at hfind
    · cases hfind
    · next hname =>
      obtain ⟨size, hsize, rfl⟩ := Option.map_eq_some_iff.mp hfind
      obtain ⟨first, others, hfirst⟩ := List.exists_cons_of_ne_nil hname
      have hrest : rest = first :: (others ++ '@' :: behind) := by
        rw [← List.takeWhile_append_dropWhile (p := inName) (l := rest), hfirst, hbehind]
        rfl
      have hat : '@' ∉ first :: others := by
        rw [← hfirst]
        intro hmem
        cases List.mem_takeWhile_imp hmem
      have hdomain := findDomain_le hsize
      refine ⟨first, others, behind.take size, ?_, hat, ?_⟩
      · have hcount : (first :: others).length + 1 + size = (others.length + (size + 1)) + 1 := by
          rw [List.length_cons]
          omega
        rw [hfirst, hcount, hrest, List.take_succ_cons, List.take_length_add_append, List.take_succ_cons]
      · apply List.ne_nil_of_length_pos
        rw [List.length_take]
        omega
  · cases hfind

end LogRedaction

end IntegrationPlatform
