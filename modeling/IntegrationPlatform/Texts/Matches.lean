import Mathlib.Data.List.Infix

/-!
# Matches in a text

A pattern says how long its match at the beginning of a text is. `parts` cuts a text at the leftmost
matches that do not overlap, which are those that `re.finditer` yields, and `sub` replaces them. A text
is a pattern itself (`literal`), and `replace` is `str.replace`.
-/

namespace IntegrationPlatform

/-- A pattern: the length of its match at the beginning of a text. No match is empty. -/
structure Pattern (α : Type) where
  find : List α → Option Nat
  pos : ∀ {text length}, find text = some length → 0 < length
  le : ∀ {text length}, find text = some length → length ≤ text.length

/-- A part of a text: a letter outside of the matches, or a match. -/
inductive TextPart (α : Type) where
  | plain (letter : α)
  | found (text : List α)

namespace TextPart

variable {α : Type}

/-- The text of a part. -/
def text : TextPart α → List α
  | .plain letter => [letter]
  | .found text => text

/-- The match that a part is. -/
def found? : TextPart α → Option (List α)
  | .plain _ => none
  | .found text => some text

/-- A part, with something else for a match. -/
def fill (values : List α → List α) : TextPart α → List α
  | .plain letter => [letter]
  | .found text => values text

end TextPart

namespace Pattern

variable {α : Type} (pattern : Pattern α)

/-! ## TextParts -/

/-- The parts of a text after so many of its letters. -/
def partsFrom : Nat → List α → List (TextPart α)
  | _, [] => []
  | skip + 1, _ :: rest => partsFrom skip rest
  | 0, letter :: rest =>
      match pattern.find (letter :: rest) with
      | some length =>
          .found ((letter :: rest).take length) :: partsFrom (length - 1) rest
      | none => .plain letter :: partsFrom 0 rest

/-- The parts of a text. -/
def parts (text : List α) : List (TextPart α) :=
  pattern.partsFrom 0 text

def findAll (text : List α) : List (List α) :=
  (pattern.parts text).filterMap TextPart.found?

def sub (values : List α → List α) (text : List α) : List α :=
  (pattern.parts text).flatMap (TextPart.fill values)

variable {pattern}

theorem partsFrom_eq (skip : Nat) (text : List α) :
    pattern.partsFrom skip text = pattern.parts (text.drop skip) := by
  induction text generalizing skip with
  | nil => rw [List.drop_nil, parts, partsFrom, partsFrom]
  | cons letter rest ih =>
      cases skip with
      | zero => rfl
      | succ skip => rw [partsFrom, List.drop_succ_cons, ih]

@[simp]
theorem parts_nil : pattern.parts [] = [] :=
  rfl

theorem find_nil : pattern.find [] = none := by
  cases hfind : pattern.find [] with
  | none => rfl
  | some length =>
      have hpos := pattern.pos hfind
      have hle := pattern.le hfind
      rw [List.length_nil] at hle
      omega

variable {text : List α}

theorem parts_found {length : Nat} (h : pattern.find text = some length) :
    pattern.parts text = .found (text.take length) :: pattern.parts (text.drop length) := by
  cases text with
  | nil =>
      have hpos := pattern.pos h
      have hle := pattern.le h
      rw [List.length_nil] at hle
      omega
  | cons letter rest =>
      obtain ⟨length, rfl⟩ := Nat.exists_eq_add_one_of_ne_zero (Nat.pos_iff_ne_zero.mp (pattern.pos h))
      rw [parts, partsFrom]
      simp only [h]
      rw [partsFrom_eq, Nat.add_sub_cancel, List.drop_succ_cons]

theorem parts_letter {letter : α} {rest : List α} (h : pattern.find (letter :: rest) = none) :
    pattern.parts (letter :: rest) = .plain letter :: pattern.parts rest := by
  rw [parts, partsFrom]
  simp only [h]
  rfl

theorem induction {motive : List α → Prop} (nil : motive [])
    (found : ∀ text length, pattern.find text = some length → motive (text.drop length) → motive text)
    (letter : ∀ letter rest, pattern.find (letter :: rest) = none → motive rest → motive (letter :: rest))
    (text : List α) : motive text := by
  induction hlength : text.length using Nat.strong_induction_on generalizing text with
  | _ size ih =>
      cases text with
      | nil => exact nil
      | cons head rest =>
          rw [List.length_cons] at hlength
          cases hfind : pattern.find (head :: rest) with
          | none => exact letter head rest hfind (ih rest.length (by omega) rest rfl)
          | some length =>
              have hpos := pattern.pos hfind
              have hdrop : ((head :: rest).drop length).length < size := by
                rw [List.length_drop, List.length_cons]
                omega
              exact found _ length hfind (ih _ hdrop _ rfl)

theorem flatMap_text_parts (text : List α) : (pattern.parts text).flatMap TextPart.text = text := by
  induction text using pattern.induction with
  | nil => rfl
  | found text length hfind ih =>
      rw [parts_found hfind, List.flatMap_cons, ih]
      exact List.take_append_drop length text
  | letter letter rest hfind ih =>
      rw [parts_letter hfind, List.flatMap_cons, ih]
      rfl

theorem findAll_found {length : Nat} (h : pattern.find text = some length) :
    pattern.findAll text = text.take length :: pattern.findAll (text.drop length) := by
  rw [findAll, parts_found h]
  rfl

theorem findAll_letter {letter : α} {rest : List α} (h : pattern.find (letter :: rest) = none) :
    pattern.findAll (letter :: rest) = pattern.findAll rest := by
  rw [findAll, parts_letter h]
  rfl

variable {text found : List α}

theorem length_le_of_mem_findAll (h : found ∈ pattern.findAll text) :
    found.length ≤ text.length := by
  induction text using pattern.induction with
  | nil => cases h
  | found text length hfind ih =>
      rw [findAll_found hfind, List.mem_cons] at h
      rcases h with rfl | hrest
      · exact List.length_take_le' length text
      · have hdrop := ih hrest
        rw [List.length_drop] at hdrop
        omega
  | letter letter rest hfind ih =>
      rw [findAll_letter hfind] at h
      exact (ih h).trans (Nat.le_succ _)

theorem exists_find_of_mem_findAll (h : found ∈ pattern.findAll text) :
    ∃ rest length, rest <:+ text ∧ pattern.find rest = some length ∧ found = rest.take length := by
  induction text using pattern.induction with
  | nil => cases h
  | found text length hfind ih =>
      rw [findAll_found hfind, List.mem_cons] at h
      rcases h with rfl | hlater
      · exact ⟨text, length, List.suffix_refl text, hfind, rfl⟩
      · obtain ⟨rest, size, hrest, hsize⟩ := ih hlater
        exact ⟨rest, size, hrest.trans (List.drop_suffix length text), hsize⟩
  | letter letter rest hfind ih =>
      rw [findAll_letter hfind] at h
      obtain ⟨later, size, hlater, hsize⟩ := ih h
      exact ⟨later, size, hlater.trans (List.suffix_cons letter rest), hsize⟩

theorem findAll_eq_nil (h : ∀ rest, rest <:+ text → pattern.find rest = none) :
    pattern.findAll text = [] := by
  refine List.eq_nil_iff_forall_not_mem.mpr fun found hfound => ?_
  obtain ⟨rest, length, hrest, hfind, -⟩ := exists_find_of_mem_findAll hfound
  rw [h rest hrest] at hfind
  cases hfind

theorem ne_nil_of_mem_findAll (h : found ∈ pattern.findAll text) : found ≠ [] := by
  obtain ⟨rest, length, -, hfind, rfl⟩ := exists_find_of_mem_findAll h
  have hpos := pattern.pos hfind
  have hle := pattern.le hfind
  apply List.ne_nil_of_length_pos
  rw [List.length_take]
  omega

theorem findAll_eq_singleton_iff :
    pattern.findAll text = [text] ↔ pattern.find text = some text.length := by
  constructor
  · intro h
    cases text with
    | nil => cases h
    | cons letter rest =>
        cases hfind : pattern.find (letter :: rest) with
        | none =>
            rw [findAll_letter hfind] at h
            have hle := pattern.length_le_of_mem_findAll (h ▸ List.mem_singleton_self _)
            rw [List.length_cons] at hle
            omega
        | some length =>
            rw [findAll_found hfind] at h
            have htake := congrArg List.length (List.cons.inj h).1
            rw [List.length_take, Nat.min_eq_left (pattern.le hfind)] at htake
            rw [htake]
  · intro h
    rw [findAll_found h, List.take_length, List.drop_length]
    rfl

/-! ## Substitution -/

@[simp]
theorem sub_nil (values : List α → List α) : pattern.sub values [] = [] :=
  rfl

theorem sub_found {length : Nat} (values : List α → List α) (h : pattern.find text = some length) :
    pattern.sub values text = values (text.take length) ++ pattern.sub values (text.drop length) := by
  rw [sub, parts_found h, List.flatMap_cons]
  rfl

theorem sub_letter {letter : α} {rest : List α} (values : List α → List α)
    (h : pattern.find (letter :: rest) = none) :
    pattern.sub values (letter :: rest) = letter :: pattern.sub values rest := by
  rw [sub, parts_letter h, List.flatMap_cons]
  rfl

theorem length_sub_nil_lt (h : pattern.findAll text ≠ []) :
    (pattern.sub (fun _ => []) text).length < text.length := by
  have hle : ∀ text, (pattern.sub (fun _ => []) text).length ≤ text.length := by
    intro text
    induction text using pattern.induction with
    | nil => exact Nat.le_refl _
    | found text length hfind ih =>
        rw [sub_found _ hfind, List.nil_append]
        exact ih.trans (List.length_drop ▸ Nat.sub_le _ _)
    | letter letter rest hfind ih =>
        rw [sub_letter _ hfind]
        exact Nat.succ_le_succ ih
  induction text using pattern.induction with
  | nil => exact absurd rfl h
  | found text length hfind _ =>
      have hpos := pattern.pos hfind
      have hlength := pattern.le hfind
      have hrest := hle (text.drop length)
      rw [List.length_drop] at hrest
      rw [sub_found _ hfind, List.nil_append]
      omega
  | letter letter rest hfind ih =>
      rw [findAll_letter hfind] at h
      rw [sub_letter _ hfind]
      exact Nat.succ_lt_succ (ih h)

end Pattern

end IntegrationPlatform
