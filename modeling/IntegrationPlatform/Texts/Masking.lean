import IntegrationPlatform.Texts.Substitution

/-!
# Matches masked one after the other

`maskEach` masks the matches of a pattern by textual replacement, each wherever its text stands in what the
replacements before it have left. `maskEach_eq_sub` says when this masks each match in its place: if no text
that is replaced stands elsewhere (`Separate`). `findAll_masked_eq_nil_iff` says when a pattern has no match
in a text that has been masked: if it has none in what the masks leave between them (`remnants`).
-/

namespace IntegrationPlatform

namespace Masking

open Substitution

variable {α : Type} [DecidableEq α]

/-! ## Definitions -/

section Masks

variable (mask : List α → List α)

/-- A match as it stands when these texts have been replaced. -/
def maskIn (done : List (List α)) (found : List α) : List α :=
  if ∃ key ∈ done, key <+: found then mask found else found

/-- The text of some parts as it stands when these texts have been replaced. -/
def shown (done : List (List α)) (parts : List (TextPart α)) : List α :=
  parts.flatMap (TextPart.fill (maskIn mask done))

/-- A text in which each match is replaced by its mask, wherever its text stands. -/
def maskEach (pattern : Pattern α) (text : List α) : List α :=
  (pattern.findAll text).foldl (fun result found => replace found (mask found) result) text

end Masks

/-- The key begins nowhere in the first text, before the second one. -/
def Absent (key front rest : List α) : Prop :=
  ∀ inside ∈ front.tails, inside ≠ [] → ¬key <+: inside ++ rest

instance (key front rest : List α) : Decidable (Absent key front rest) :=
  inferInstanceAs (Decidable (∀ inside ∈ front.tails, _))

section Turns

variable (mask : List α → List α)

/-- The key is the text of a match that has not been replaced, or the beginning of one whose mask it brings
about. -/
def Begins (key : List α) (done : List (List α)) : TextPart α → List α → Prop
  | .plain _, _ => False
  | .found text, rest =>
      ¬(∃ other ∈ done, other <+: text) ∧ key <+: text ∧
        mask text = mask key ++ text.drop key.length ∧ Absent key (text.drop key.length) rest

/-- In the text as it stands, the key is to be found only at the beginning of such matches. -/
def Clear (key : List α) (done : List (List α)) : List (TextPart α) → Prop
  | [] => True
  | part :: rest =>
      (Begins mask key done part (shown mask done rest) ∨
        Absent key (part.fill (maskIn mask done)) (shown mask done rest)) ∧
      Clear key done rest

/-- This holds of each key as its turn comes. -/
def ClearEach (parts : List (TextPart α)) : List (List α) → List (List α) → Prop
  | _, [] => True
  | done, key :: later => Clear mask key done parts ∧ ClearEach parts (key :: done) later

/-- No match is replaced elsewhere, as the matches are replaced one after the other. -/
def Separate (pattern : Pattern α) (text : List α) : Prop :=
  ClearEach mask (pattern.parts text) [] (pattern.findAll text)

instance (key : List α) (done : List (List α)) (part : TextPart α) (rest : List α) :
    Decidable (Begins mask key done part rest) :=
  match part with
  | .plain _ => inferInstanceAs (Decidable False)
  | .found _ => inferInstanceAs (Decidable (_ ∧ _))

instance instDecidableClear (key : List α) (done : List (List α)) :
    (parts : List (TextPart α)) → Decidable (Clear mask key done parts)
  | [] => inferInstanceAs (Decidable True)
  | _ :: rest =>
      have := instDecidableClear key done rest
      inferInstanceAs (Decidable (_ ∧ _))

instance instDecidableClearEach (parts : List (TextPart α)) :
    (done later : List (List α)) → Decidable (ClearEach mask parts done later)
  | _, [] => inferInstanceAs (Decidable True)
  | done, key :: later =>
      have := instDecidableClearEach parts (key :: done) later
      inferInstanceAs (Decidable (_ ∧ _))

instance (pattern : Pattern α) (text : List α) : Decidable (Separate mask pattern text) :=
  inferInstanceAs (Decidable (ClearEach _ _ _ _))

end Turns

/-! ## Replacements -/

section Replacements

variable {mask : List α → List α} {key : List α}

theorem replace_absent (value : List α) {front rest : List α} (h : Absent key front rest) :
    replace key value (front ++ rest) = front ++ replace key value rest := by
  induction front with
  | nil => rfl
  | cons letter front ih =>
      have hnone : (oneOf [key]).find (letter :: (front ++ rest)) = none := by
        refine find_eq_none fun other hother _ => ?_
        rw [List.mem_singleton.mp hother]
        exact h (letter :: front) ((List.mem_tails _ _).mpr (List.suffix_refl _)) (List.cons_ne_nil _ _)
      have hlater : Absent key front rest := by
        intro inside hinside
        have hsuffix := ((List.mem_tails _ _).mp hinside).trans (List.suffix_cons letter front)
        exact h inside ((List.mem_tails _ _).mpr hsuffix)
      have hrest := ih hlater
      rw [List.cons_append, List.cons_append, ← hrest]
      exact Pattern.sub_letter _ hnone

theorem replace_head (hne : key ≠ []) (value rest : List α) :
    replace key value (key ++ rest) = value ++ replace key value rest := by
  have hfind : (oneOf [key]).find (key ++ rest) = some key.length := by
    cases hfind : (oneOf [key]).find (key ++ rest) with
    | none =>
        exact absurd (List.prefix_append key rest)
          (not_prefix_of_find_eq_none hfind (List.mem_singleton_self key) hne)
    | some length =>
        obtain ⟨other, hother, -, -, rfl⟩ := find_eq_some hfind
        rw [List.mem_singleton.mp hother]
  rw [replace, Pattern.sub_found _ hfind, List.drop_left' rfl]
  rfl

theorem replace_begins (hne : key ≠ []) {text rest : List α} (hbegins : key <+: text)
    (hmask : mask text = mask key ++ text.drop key.length)
    (habsent : Absent key (text.drop key.length) rest) :
    replace key (mask key) (text ++ rest) = mask text ++ replace key (mask key) rest := by
  obtain ⟨tail, rfl⟩ := hbegins
  rw [List.drop_left' rfl] at hmask habsent
  rw [List.append_assoc, replace_head hne, replace_absent _ habsent, hmask, List.append_assoc]

theorem maskIn_cons (hne : key ≠ []) {done : List (List α)} {part : TextPart α} {rest : List α}
    (h : Absent key (part.fill (maskIn mask done)) rest) :
    part.fill (maskIn mask (key :: done)) = part.fill (maskIn mask done) := by
  cases part with
  | plain letter => rfl
  | found text =>
      show maskIn mask (key :: done) text = maskIn mask done text
      by_cases hdone : ∃ other ∈ done, other <+: text
      · obtain ⟨other, hother, hbegins⟩ := hdone
        rw [maskIn, maskIn, if_pos ⟨other, List.mem_cons_of_mem key hother, hbegins⟩,
          if_pos ⟨other, hother, hbegins⟩]
      · have hkept : maskIn mask done text = text := if_neg hdone
        have hkey : ¬key <+: text := by
          intro hbegins
          have habsent : Absent key text rest := hkept ▸ h
          have htext : text ≠ [] := by
            rintro rfl
            exact hne (List.prefix_nil.mp hbegins)
          exact habsent text ((List.mem_tails _ _).mpr (List.suffix_refl _)) htext
            (hbegins.trans (List.prefix_append _ rest))
        rw [hkept, maskIn, if_neg]
        rintro ⟨other, hother, hbegins⟩
        rcases List.mem_cons.mp hother with rfl | hother
        · exact hkey hbegins
        · exact hdone ⟨other, hother, hbegins⟩

theorem replace_shown (hne : key ≠ []) {done : List (List α)} {parts : List (TextPart α)}
    (h : Clear mask key done parts) :
    replace key (mask key) (shown mask done parts) = shown mask (key :: done) parts := by
  induction parts with
  | nil => rfl
  | cons part rest ih =>
      have hrest := ih h.2
      rcases h.1 with hbegins | habsent
      · cases part with
        | plain letter => cases hbegins
        | found text =>
            -- The match stands as it is, and is masked as the key at its beginning is replaced.
            obtain ⟨hdone, hkey, hmask, habsent⟩ := hbegins
            have hkept : shown mask done (.found text :: rest) = text ++ shown mask done rest := by
              rw [shown, List.flatMap_cons, TextPart.fill, maskIn, if_neg hdone]
              rfl
            have hmasked : shown mask (key :: done) (.found text :: rest) =
                mask text ++ shown mask (key :: done) rest := by
              rw [shown, List.flatMap_cons, TextPart.fill, maskIn, if_pos ⟨key, List.mem_cons_self, hkey⟩]
              rfl
            rw [hkept, hmasked, ← hrest]
            exact replace_begins hne hkey hmask habsent
      · calc replace key (mask key) (part.fill (maskIn mask done) ++ shown mask done rest)
            = part.fill (maskIn mask done) ++ replace key (mask key) (shown mask done rest) :=
              replace_absent _ habsent
          _ = part.fill (maskIn mask (key :: done)) ++ shown mask (key :: done) rest := by
              rw [hrest, maskIn_cons hne habsent]

variable {pattern : Pattern α} {text : List α}

theorem foldl_replace_shown {done later : List (List α)} {parts : List (TextPart α)}
    (hne : ∀ key ∈ later, key ≠ []) (h : ClearEach mask parts done later) :
    later.foldl (fun result found => replace found (mask found) result) (shown mask done parts) =
      shown mask (later.reverse ++ done) parts := by
  induction later generalizing done with
  | nil => rfl
  | cons key later ih =>
      have hlater : ∀ other ∈ later, other ≠ [] := fun other hother =>
        hne other (List.mem_cons_of_mem key hother)
      rw [List.foldl_cons, replace_shown (hne key List.mem_cons_self) h.1, ih hlater h.2, List.reverse_cons,
        List.append_assoc]
      rfl

theorem maskEach_eq_sub (h : Separate mask pattern text) :
    maskEach mask pattern text = pattern.sub mask text := by
  have hstart : shown mask [] (pattern.parts text) = text := by
    have hfill : TextPart.fill (maskIn mask []) = TextPart.text := by
      funext part
      cases part with
      | plain letter => rfl
      | found text =>
          have hnone : ¬∃ other ∈ [], other <+: text := by
            rintro ⟨other, hother, -⟩
            cases hother
          show maskIn mask [] text = text
          rw [maskIn, if_neg hnone]
    rw [shown, hfill, pattern.flatMap_text_parts]
  have hne : ∀ key ∈ pattern.findAll text, key ≠ [] := fun _ hkey => pattern.ne_nil_of_mem_findAll hkey
  have hall := foldl_replace_shown hne h
  rw [hstart, List.append_nil] at hall
  rw [maskEach, hall, shown, Pattern.sub]
  -- Each match has been masked in the end, for its own text has had its turn.
  refine List.flatMap_congr fun part hpart => ?_
  cases part with
  | plain letter => rfl
  | found text =>
      have hfound : text ∈ pattern.findAll _ := List.mem_filterMap.mpr ⟨_, hpart, rfl⟩
      exact if_pos ⟨text, List.mem_reverse.mpr hfound, List.prefix_refl text⟩

end Replacements

/-! ## What masks leave -/

/-- What a mask leaves of a match: one text, or one at either end. -/
inductive Remnant (α : Type) where
  | whole (text : List α)
  | ends (front back : List α)

/-- What the masks leave between them, after a text that has been left already. -/
def remnants (left : List α → Remnant α) : List α → List (TextPart α) → List (List α)
  | before, [] => [before]
  | before, .plain letter :: rest => remnants left (before ++ [letter]) rest
  | before, .found text :: rest =>
      match left text with
      | .whole kept => remnants left (before ++ kept) rest
      | .ends front back => (before ++ front) :: remnants left back rest

/-- A filling that separates the matches on either side of it. -/
def Splits (pattern : Pattern α) (filling : List α) : Prop :=
  ∀ before after,
    pattern.findAll (before ++ (filling ++ after)) = pattern.findAll before ++ pattern.findAll after

/-- A letter that ends each match which comes upon it. -/
def Stops (pattern : Pattern α) (letter : α) : Prop :=
  ∀ before after, pattern.find (before ++ letter :: after) = pattern.find before

/-- A mask that consists of what is left of the match and of a filling. -/
def Leaves (pattern : Pattern α) (mask : List α) : Remnant α → Prop
  | .whole kept => mask = kept
  | .ends front back => ∃ filling, mask = front ++ (filling ++ back) ∧ Splits pattern filling

section Remnants

variable {pattern : Pattern α}

omit [DecidableEq α] in
theorem splits_letter {letter : α} (h : Stops pattern letter) : Splits pattern [letter] := by
  intro before after
  show pattern.findAll (before ++ letter :: after) = _
  induction before using pattern.induction with
  | nil =>
      have hnone : pattern.find (letter :: after) = none := (h [] after).trans Pattern.find_nil
      exact Pattern.findAll_letter hnone
  | found text length hfind ih =>
      have hle := pattern.le hfind
      have hlonger : pattern.find (text ++ letter :: after) = some length := (h text after).trans hfind
      rw [Pattern.findAll_found hlonger, Pattern.findAll_found hfind, List.take_append_of_le_length hle,
        List.drop_append_of_le_length hle, ih, List.cons_append]
  | letter head rest hfind ih =>
      have hlonger : pattern.find (head :: (rest ++ letter :: after)) = none :=
        (h (head :: rest) after).trans hfind
      rw [List.cons_append, Pattern.findAll_letter hlonger, Pattern.findAll_letter hfind, ih]

omit [DecidableEq α] in
theorem splits_append {first between second : List α} (hfirst : Splits pattern first)
    (hbetween : pattern.findAll between = []) (hsecond : Splits pattern second) :
    Splits pattern (first ++ (between ++ second)) := by
  intro before after
  rw [List.append_assoc, List.append_assoc, hfirst, hsecond, hbetween, List.nil_append]

omit [DecidableEq α] in
theorem splits_replicate {letter : α} (h : Stops pattern letter) (count : Nat) :
    Splits pattern (List.replicate (count + 1) letter) := by
  induction count with
  | zero => exact splits_letter h
  | succ count ih =>
      have hnothing : pattern.findAll [] = [] := rfl
      exact splits_append (splits_letter h) hnothing ih

omit [DecidableEq α] in
theorem findAll_masked_eq_nil_iff {mask : List α → List α} {left : List α → Remnant α}
    (h : ∀ found, Leaves pattern (mask found) (left found)) (before : List α) (parts : List (TextPart α)) :
    pattern.findAll (before ++ parts.flatMap (TextPart.fill mask)) = [] ↔
      ∀ remnant ∈ remnants left before parts, pattern.findAll remnant = [] := by
  induction parts generalizing before with
  | nil =>
      rw [List.flatMap_nil, List.append_nil, remnants]
      simp only [List.forall_mem_singleton]
  | cons part rest ih =>
      cases part with
      | plain letter =>
          have hrest := ih (before ++ [letter])
          rw [List.append_assoc] at hrest
          exact hrest
      | found text =>
          have hmask := h text
          rw [List.flatMap_cons, TextPart.fill, remnants]
          cases hleft : left text with
          | whole kept =>
              rw [hleft] at hmask
              have hrest := ih (before ++ kept)
              rw [List.append_assoc] at hrest
              rw [show mask text = kept from hmask]
              exact hrest
          | ends front back =>
              rw [hleft] at hmask
              obtain ⟨filling, hfilling, hsplits⟩ := hmask
              rw [hfilling, List.append_assoc, List.append_assoc, ← List.append_assoc before, hsplits,
                List.append_eq_nil_iff, ih back]
              simp only [List.forall_mem_cons]

end Remnants

end Masking

end IntegrationPlatform
