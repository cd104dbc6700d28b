import IntegrationPlatform.Texts.Matches
import Mathlib.Data.List.Find

/-!
# Substitutions one after the other and all at once

`substitute` replaces several keys in a text one after the other, where `fill` replaces those of the text
itself, all at once. `substitute_eq_fill_iff` says when both are the same, for keys that cannot overlap: if
the values that are put in bring no occurrence of a later key with them.
-/

namespace IntegrationPlatform

namespace Substitution

variable {α : Type} [DecidableEq α]

/-! ## Definitions -/

/-- The pattern that matches some texts. An empty text is not matched. -/
def oneOf (keys : List (List α)) : Pattern α where
  find text := (keys.find? fun key => !key.isEmpty && key.isPrefixOf text).map List.length
  pos := by
    intro text length h
    obtain ⟨key, hkey, rfl⟩ := Option.map_eq_some_iff.mp h
    have hfound := List.find?_some hkey
    rw [Bool.and_eq_true, Bool.not_eq_true', List.isEmpty_eq_false_iff] at hfound
    exact List.length_pos_iff.mpr hfound.1
  le := by
    intro text length h
    obtain ⟨key, hkey, rfl⟩ := Option.map_eq_some_iff.mp h
    have hfound := List.find?_some hkey
    rw [Bool.and_eq_true, List.isPrefixOf_iff_prefix] at hfound
    exact hfound.2.length_le

/-- `text.replace(key, value)`, for a key that is not empty. -/
def replace (key value text : List α) : List α :=
  (oneOf [key]).sub (fun _ => value) text

/-- `text.count(key)`, for a key that is not empty. -/
def occurrences (key text : List α) : Nat :=
  ((oneOf [key]).findAll text).length

/-- The keys of some bindings. -/
def keysOf (bindings : List (List α × List α)) : List (List α) :=
  bindings.map Prod.fst

/-- A text with values in the place of keys. -/
def fill (bindings : List (List α × List α)) (text : List α) : List α :=
  (oneOf (keysOf bindings)).sub (fun key => (bindings.lookup key).getD key) text

/-- A text in which the keys are replaced one after the other. -/
def substitute (bindings : List (List α × List α)) (text : List α) : List α :=
  bindings.foldl (fun text binding => replace binding.1 binding.2 text) text

/-- Keys of which no two can overlap in a text, be they different or the same. -/
structure Independent (keys : List (List α)) : Prop where
  nonempty : ∀ key ∈ keys, key ≠ []
  apart : ∀ first ∈ keys, ∀ second ∈ keys, ∀ before behind after,
    first ++ behind = before ++ (second ++ after) → before.length < first.length →
      before = [] ∧ first = second

/-! ## Matches of keys -/

section Matches

variable {keys : List (List α)} {key : List α}

theorem find_eq_some {text : List α} {length : Nat} (h : (oneOf keys).find text = some length) :
    ∃ key ∈ keys, key ≠ [] ∧ key <+: text ∧ length = key.length := by
  obtain ⟨key, hkey, rfl⟩ := Option.map_eq_some_iff.mp h
  have hfound := List.find?_some hkey
  rw [Bool.and_eq_true, Bool.not_eq_true', List.isEmpty_eq_false_iff,
    List.isPrefixOf_iff_prefix] at hfound
  exact ⟨key, List.mem_of_find?_eq_some hkey, hfound.1, hfound.2, rfl⟩

theorem find_eq_none {text : List α} (h : ∀ key ∈ keys, key ≠ [] → ¬key <+: text) :
    (oneOf keys).find text = none := by
  cases hfind : (oneOf keys).find text with
  | none => rfl
  | some length =>
      obtain ⟨key, hkey, hne, hbegins, -⟩ := find_eq_some hfind
      exact absurd hbegins (h key hkey hne)

theorem not_prefix_of_find_eq_none {text : List α} (h : (oneOf keys).find text = none)
    (hkey : key ∈ keys) (hne : key ≠ []) : ¬key <+: text := by
  intro hbegins
  have hnone := List.find?_eq_none.mp (Option.map_eq_none_iff.mp h) key hkey
  rw [Bool.and_eq_true, Bool.not_eq_true', List.isEmpty_eq_false_iff,
    List.isPrefixOf_iff_prefix] at hnone
  exact hnone ⟨hne, hbegins⟩

end Matches

/-! ## Texts with a key in them -/

section Split

variable {pool keys : List (List α)} {key : List α}

theorem find_append (hpool : Independent pool) (hkeys : keys ⊆ pool) (hkey : key ∈ pool) {text : List α}
    (hne : text ≠ []) (rest : List α) :
    (oneOf keys).find (text ++ (key ++ rest)) = (oneOf keys).find text := by
  have hbegins : ∀ first ∈ keys, first <+: text ++ (key ++ rest) → first <+: text := by
    rintro first hfirst ⟨behind, hbehind⟩
    by_cases hlength : first.length ≤ text.length
    · exact List.prefix_of_prefix_length_le ⟨behind, hbehind⟩ (List.prefix_append _ _) hlength
    · have hapart := hpool.apart first (hkeys hfirst) key hkey text behind rest hbehind (by omega)
      exact absurd hapart.1 hne
  cases hfind : (oneOf keys).find text with
  | none =>
      refine find_eq_none fun first hfirst hnil hlong => ?_
      exact not_prefix_of_find_eq_none hfind hfirst hnil (hbegins first hfirst hlong)
  | some length =>
      have hsame : ∀ first ∈ keys, (!first.isEmpty && first.isPrefixOf (text ++ (key ++ rest))) =
          (!first.isEmpty && first.isPrefixOf text) := by
        intro first hfirst
        rw [Bool.eq_iff_iff, Bool.and_eq_true, Bool.and_eq_true, List.isPrefixOf_iff_prefix,
          List.isPrefixOf_iff_prefix]
        exact and_congr_right fun _ => ⟨hbegins first hfirst, fun h => h.trans (List.prefix_append _ _)⟩
      rw [← hfind]
      exact congrArg (Option.map List.length) (List.find?_congr hsame)

theorem find_key (hpool : Independent pool) (hkeys : keys ⊆ pool) (hkey : key ∈ keys) (rest : List α) :
    (oneOf keys).find (key ++ rest) = some key.length := by
  have hne := hpool.nonempty key (hkeys hkey)
  cases hfind : (oneOf keys).find (key ++ rest) with
  | none => exact absurd (List.prefix_append key rest) (not_prefix_of_find_eq_none hfind hkey hne)
  | some length =>
      obtain ⟨first, hfirst, hnil, ⟨behind, hbehind⟩, rfl⟩ := find_eq_some hfind
      have hapart := hpool.apart first (hkeys hfirst) key (hkeys hkey) [] behind rest hbehind
        (List.length_pos_iff.mpr hnil)
      rw [hapart.2]

/-- The parts that a key is: one match if it is looked for, and otherwise its letters. -/
def keyParts (keys : List (List α)) (key : List α) : List (TextPart α) :=
  if key ∈ keys then [.found key] else key.map .plain

theorem parts_inside (hpool : Independent pool) (hkeys : keys ⊆ pool) {before inside : List α}
    (hkey : before ++ inside ∈ pool) (hinside : before ≠ [] ∨ before ++ inside ∉ keys) (rest : List α) :
    (oneOf keys).parts (inside ++ rest) = inside.map .plain ++ (oneOf keys).parts rest := by
  induction inside generalizing before with
  | nil => rfl
  | cons letter inside ih =>
      have hnone : (oneOf keys).find (letter :: (inside ++ rest)) = none := by
        refine find_eq_none fun first hfirst _ => ?_
        rintro ⟨behind, hbehind⟩
        have happend : before ++ letter :: inside ++ rest = before ++ (first ++ behind) := by
          rw [hbehind, List.append_assoc, List.cons_append]
        have hapart := hpool.apart _ hkey first (hkeys hfirst) before rest behind happend (by simp)
        rcases hinside with hne | hnot
        · exact hne hapart.1
        · exact hnot (hapart.2 ▸ hfirst)
      rw [List.cons_append, Pattern.parts_letter hnone, List.map_cons, List.cons_append]
      have hmore : before ++ letter :: inside = before ++ [letter] ++ inside := by simp
      rw [hmore] at hkey
      rw [ih hkey (.inl (by simp))]

theorem parts_append (hpool : Independent pool) (hkeys : keys ⊆ pool) (hkey : key ∈ pool)
    (text rest : List α) :
    (oneOf keys).parts (text ++ (key ++ rest)) =
      (oneOf keys).parts text ++ (keyParts keys key ++ (oneOf keys).parts rest) := by
  induction text using (oneOf keys).induction with
  | nil =>
      rw [List.nil_append, Pattern.parts_nil, List.nil_append, keyParts]
      by_cases hmem : key ∈ keys
      · rw [if_pos hmem, Pattern.parts_found (find_key hpool hkeys hmem rest), List.take_left',
          List.drop_left'] <;> rfl
      · rw [if_neg hmem]
        exact @parts_inside _ _ pool keys hpool hkeys [] key hkey (.inr hmem) rest
  | found text length hfind ih =>
      have hne : text ≠ [] := by
        rintro rfl
        have hpos := Pattern.pos _ hfind
        have hle := Pattern.le _ hfind
        rw [List.length_nil] at hle
        omega
      have hfind' := (find_append hpool hkeys hkey hne rest).trans hfind
      have hle := Pattern.le _ hfind
      rw [Pattern.parts_found hfind', Pattern.parts_found hfind, List.take_append_of_le_length hle,
        List.drop_append_of_le_length hle, ih, List.cons_append]
  | letter letter text hfind ih =>
      have hfind' := (find_append hpool hkeys hkey (List.cons_ne_nil letter text) rest).trans hfind
      rw [List.cons_append] at hfind' ⊢
      rw [Pattern.parts_letter hfind', Pattern.parts_letter hfind, ih, List.cons_append]

theorem sub_append (hpool : Independent pool) (hkeys : keys ⊆ pool) (hkey : key ∈ pool)
    (values : List α → List α) (text rest : List α) :
    (oneOf keys).sub values (text ++ (key ++ rest)) =
      (oneOf keys).sub values text ++ ((if key ∈ keys then values key else key) ++
        (oneOf keys).sub values rest) := by
  have hfill : (keyParts keys key).flatMap (TextPart.fill values) =
      if key ∈ keys then values key else key := by
    unfold keyParts
    split
    · exact List.append_nil _
    · rw [List.flatMap_map]
      exact List.flatMap_singleton' key
  rw [Pattern.sub, parts_append hpool hkeys hkey, List.flatMap_append, List.flatMap_append, hfill]
  rfl

end Split

/-! ## Occurrences -/

section Occurrences

variable {key : List α}

theorem occurrences_eq_zero (hne : key ≠ []) {text : List α} :
    occurrences key text = 0 ↔ ¬key <:+: text := by
  unfold occurrences
  induction text using (oneOf [key]).induction with
  | nil => simp [Pattern.findAll, List.infix_nil, hne]
  | found text length hfind _ =>
      obtain ⟨first, hfirst, -, hbegins, -⟩ := find_eq_some hfind
      rw [List.mem_singleton.mp hfirst] at hbegins
      rw [Pattern.findAll_found hfind, List.length_cons]
      exact iff_of_false (Nat.succ_ne_zero _) (not_not.mpr hbegins.isInfix)
  | letter letter text hfind ih =>
      have hnot := not_prefix_of_find_eq_none hfind (List.mem_singleton_self key) hne
      rw [Pattern.findAll_letter hfind, ih, List.infix_cons_iff, not_or]
      exact ⟨fun h => ⟨hnot, h⟩, And.right⟩

theorem exists_first (hne : key ≠ []) {text : List α} (h : occurrences key text ≠ 0) :
    ∃ front rest, text = front ++ (key ++ rest) ∧ occurrences key front = 0 := by
  unfold occurrences at h
  induction text using (oneOf [key]).induction with
  | nil => exact absurd rfl h
  | found text length hfind _ =>
      obtain ⟨first, hfirst, -, ⟨rest, hrest⟩, -⟩ := find_eq_some hfind
      obtain rfl := List.mem_singleton.mp hfirst
      exact ⟨[], rest, hrest.symm, rfl⟩
  | letter letter text hfind ih =>
      rw [Pattern.findAll_letter hfind] at h
      obtain ⟨front, rest, rfl, hfront⟩ := ih h
      refine ⟨letter :: front, rest, rfl, ?_⟩
      have hnone : (oneOf [key]).find (letter :: front) = none := by
        refine find_eq_none fun first hfirst _ hbegins => ?_
        rw [List.mem_singleton.mp hfirst] at hbegins
        exact not_prefix_of_find_eq_none hfind (List.mem_singleton_self key) hne
          (hbegins.trans ⟨key ++ rest, rfl⟩)
      rw [occurrences, Pattern.findAll_letter hnone]
      exact hfront

theorem induction_on_key (hne : key ≠ []) {motive : List α → Prop}
    (without : ∀ text, occurrences key text = 0 → motive text)
    (split : ∀ front rest, occurrences key front = 0 → motive rest → motive (front ++ (key ++ rest)))
    (text : List α) : motive text := by
  induction hlength : text.length using Nat.strong_induction_on generalizing text with
  | _ size ih =>
      by_cases h : occurrences key text = 0
      · exact without text h
      · obtain ⟨front, rest, rfl, hfront⟩ := exists_first hne h
        have hpos := List.length_pos_iff.mpr hne
        simp only [List.length_append] at hlength
        exact split front rest hfront (ih rest.length (by omega) rest rfl)

theorem replace_of_occurrences_eq_zero (value : List α) {text : List α} (h : occurrences key text = 0) :
    replace key value text = text := by
  unfold occurrences at h
  unfold replace
  induction text using (oneOf [key]).induction with
  | nil => rfl
  | found text length hfind _ => rw [Pattern.findAll_found hfind] at h; cases h
  | letter letter text hfind ih =>
      rw [Pattern.findAll_letter hfind] at h
      rw [Pattern.sub_letter _ hfind, ih h]

variable {pool : List (List α)}

theorem occurrences_append (hpool : Independent pool) (hkey : key ∈ pool) (text rest : List α) :
    occurrences key (text ++ (key ++ rest)) = occurrences key text + (1 + occurrences key rest) := by
  have hkeys : [key] ⊆ pool := List.cons_subset.mpr ⟨hkey, List.nil_subset pool⟩
  have hparts : (keyParts [key] key).filterMap TextPart.found? = [key] := by simp [keyParts, TextPart.found?]
  rw [occurrences, Pattern.findAll, parts_append hpool hkeys hkey, List.filterMap_append,
    List.filterMap_append, hparts]
  simp only [occurrences, Pattern.findAll, List.length_append, List.length_singleton]

theorem replace_append (hpool : Independent pool) (hkey : key ∈ pool) (value text rest : List α) :
    replace key value (text ++ (key ++ rest)) =
      replace key value text ++ (value ++ replace key value rest) := by
  rw [replace, sub_append hpool (List.cons_subset.mpr ⟨hkey, List.nil_subset pool⟩) hkey,
    if_pos (List.mem_singleton_self key)]
  rfl

theorem replace_append_other {other : List α} (hpool : Independent pool) (hkey : key ∈ pool)
    (hother : other ∈ pool) (hne : other ≠ key) (value text rest : List α) :
    replace key value (text ++ (other ++ rest)) =
      replace key value text ++ (other ++ replace key value rest) := by
  rw [replace, sub_append hpool (List.cons_subset.mpr ⟨hkey, List.nil_subset pool⟩) hother,
    if_neg (List.not_mem_cons_of_ne_of_not_mem hne List.not_mem_nil)]
  rfl

theorem replace_cons {letter first : α} {key : List α} (h : letter ≠ first) (value rest : List α) :
    replace (first :: key) value (letter :: rest) = letter :: replace (first :: key) value rest := by
  have hnone : (oneOf [first :: key]).find (letter :: rest) = none := by
    refine find_eq_none fun other hother _ hbegins => ?_
    rw [List.mem_singleton.mp hother, List.cons_prefix_cons] at hbegins
    exact h hbegins.1.symm
  rw [replace, Pattern.sub_letter _ hnone]
  rfl

theorem replace_front {first : α} {key front : List α} (h : first ∉ front) (value rest : List α) :
    replace (first :: key) value (front ++ rest) = front ++ replace (first :: key) value rest := by
  induction front with
  | nil => rfl
  | cons letter front ih =>
      rw [List.mem_cons, not_or] at h
      rw [List.cons_append, replace_cons (Ne.symm h.1), ih h.2, List.cons_append]

theorem replace_self (hpool : Independent pool) (hkey : key ∈ pool) (text : List α) :
    replace key key text = text := by
  have hne := hpool.nonempty key hkey
  induction text using induction_on_key hne with
  | without text h => exact replace_of_occurrences_eq_zero key h
  | split front rest hfront ih =>
      rw [replace_append hpool hkey, ih, replace_of_occurrences_eq_zero key hfront]

theorem length_replace (hpool : Independent pool) (hkey : key ∈ pool) (value text : List α) :
    (replace key value text).length + occurrences key text * key.length =
      text.length + occurrences key text * value.length := by
  have hne := hpool.nonempty key hkey
  induction text using induction_on_key hne with
  | without text h => rw [replace_of_occurrences_eq_zero value h, h, Nat.zero_mul, Nat.zero_mul]
  | split front rest hfront ih =>
      rw [replace_append hpool hkey, occurrences_append hpool hkey,
        replace_of_occurrences_eq_zero value hfront, hfront]
      simp only [List.length_append, Nat.zero_add, Nat.add_mul, Nat.one_mul]
      omega

theorem occurrences_eq_zero_of_replace (hpool : Independent pool) (hkey : key ∈ pool)
    {value text : List α} (hlength : value.length = key.length) (hvalue : value ≠ key)
    (h : replace key value text = text) : occurrences key text = 0 := by
  have hne := hpool.nonempty key hkey
  by_contra hoccurs
  obtain ⟨front, rest, rfl, hfront⟩ := exists_first hne hoccurs
  rw [replace_append hpool hkey, replace_of_occurrences_eq_zero value hfront] at h
  exact hvalue (List.append_inj_left (List.append_cancel_left h) hlength)

end Occurrences

/-! ## One binding more -/

section Fill

variable {pool : List (List α)} {bindings : List (List α × List α)} {key : List α}

theorem fill_append_of_not_mem (hpool : Independent pool) (hkeys : keysOf bindings ⊆ pool)
    (hkey : key ∈ pool) (hnot : key ∉ keysOf bindings) (text rest : List α) :
    fill bindings (text ++ (key ++ rest)) = fill bindings text ++ (key ++ fill bindings rest) := by
  rw [fill, sub_append hpool hkeys hkey, if_neg hnot]
  rfl

theorem fill_append_last (hpool : Independent pool) (hkeys : keysOf bindings ⊆ pool)
    (hkey : key ∈ pool) (hnot : key ∉ keysOf bindings) (value text rest : List α) :
    fill (bindings ++ [(key, value)]) (text ++ (key ++ rest)) =
      fill (bindings ++ [(key, value)]) text ++ (value ++ fill (bindings ++ [(key, value)]) rest) := by
  have hall : keysOf (bindings ++ [(key, value)]) ⊆ pool := by
    rw [keysOf, List.map_append]
    exact List.append_subset.mpr ⟨hkeys, List.cons_subset.mpr ⟨hkey, List.nil_subset pool⟩⟩
  have hmem : key ∈ keysOf (bindings ++ [(key, value)]) := by simp [keysOf]
  have hlookup : (bindings ++ [(key, value)]).lookup key = some value := by
    have hnone : bindings.lookup key = none := by
      rw [List.lookup_eq_none_iff]
      intro binding hbinding
      rw [bne_iff_ne]
      rintro rfl
      exact hnot (List.mem_map_of_mem hbinding)
    rw [List.lookup_append, hnone]
    simp
  rw [fill, sub_append hpool hall hkey]
  simp only [if_pos hmem, hlookup,
    Option.getD_some]
  rfl

theorem find_concat {keys : List (List α)} {text : List α} (h : ¬key <+: text) :
    (oneOf (keys ++ [key])).find text = (oneOf keys).find text := by
  simp [oneOf, List.find?_append, h]

theorem fill_concat_of_occurrences_eq_zero (hne : key ≠ []) (value : List α) {text : List α}
    (h : occurrences key text = 0) : fill (bindings ++ [(key, value)]) text = fill bindings text := by
  rw [occurrences_eq_zero hne] at h
  have hkeys : keysOf (bindings ++ [(key, value)]) = keysOf bindings ++ [key] := by simp [keysOf]
  unfold fill
  rw [hkeys]
  induction text using (oneOf (keysOf bindings)).induction with
  | nil => rfl
  | found text length hfind ih =>
      have hfind' := (find_concat fun hbegins => h hbegins.isInfix).trans hfind
      have hrest := ih fun hwithin => h (hwithin.trans (List.drop_suffix length text).isInfix)
      have hother : (text.take length == key) = false := by
        rw [beq_eq_false_iff_ne]
        rintro rfl
        exact h (List.take_prefix length text).isInfix
      rw [Pattern.sub_found _ hfind', Pattern.sub_found _ hfind, hrest, List.lookup_append]
      simp [List.lookup_cons, hother]
  | letter letter text hfind ih =>
      have hfind' := (find_concat fun hbegins => h hbegins.isInfix).trans hfind
      have hrest := ih fun hwithin => h (hwithin.trans (List.suffix_cons letter text).isInfix)
      rw [Pattern.sub_letter _ hfind', Pattern.sub_letter _ hfind, hrest]

theorem occurrences_le_fill (hpool : Independent pool) (hkeys : keysOf bindings ⊆ pool)
    (hkey : key ∈ pool) (hnot : key ∉ keysOf bindings) (text : List α) :
    occurrences key text ≤ occurrences key (fill bindings text) := by
  induction text using induction_on_key (hpool.nonempty key hkey) with
  | without text h => rw [h]; exact Nat.zero_le _
  | split front rest hfront ih =>
      rw [fill_append_of_not_mem hpool hkeys hkey hnot, occurrences_append hpool hkey,
        occurrences_append hpool hkey, hfront]
      omega

theorem replace_fill (hpool : Independent pool) (hkeys : keysOf bindings ⊆ pool) (hkey : key ∈ pool)
    (hnot : key ∉ keysOf bindings) (value : List α) {text : List α}
    (h : occurrences key (fill bindings text) = occurrences key text) :
    replace key value (fill bindings text) = fill (bindings ++ [(key, value)]) text := by
  have hne := hpool.nonempty key hkey
  induction text using induction_on_key hne with
  | without text hzero =>
      rw [fill_concat_of_occurrences_eq_zero hne value hzero,
        replace_of_occurrences_eq_zero value (h.trans hzero)]
  | split front rest hfront ih =>
      rw [fill_append_of_not_mem hpool hkeys hkey hnot, occurrences_append hpool hkey,
        occurrences_append hpool hkey, hfront] at h
      have hle := occurrences_le_fill hpool hkeys hkey hnot rest
      rw [fill_append_of_not_mem hpool hkeys hkey hnot, replace_append hpool hkey,
        fill_append_last hpool hkeys hkey hnot, ih (by omega),
        replace_of_occurrences_eq_zero value (by omega), fill_concat_of_occurrences_eq_zero hne value hfront]

theorem length_fill_concat (hpool : Independent pool) (hkeys : keysOf bindings ⊆ pool)
    (hkey : key ∈ pool) (hnot : key ∉ keysOf bindings) (value text : List α) :
    (fill (bindings ++ [(key, value)]) text).length + occurrences key text * key.length =
      (fill bindings text).length + occurrences key text * value.length := by
  have hne := hpool.nonempty key hkey
  induction text using induction_on_key hne with
  | without text h =>
      rw [fill_concat_of_occurrences_eq_zero hne value h, h, Nat.zero_mul, Nat.zero_mul]
  | split front rest hfront ih =>
      rw [fill_append_of_not_mem hpool hkeys hkey hnot, fill_append_last hpool hkeys hkey hnot,
        occurrences_append hpool hkey, hfront, fill_concat_of_occurrences_eq_zero hne value hfront]
      simp only [List.length_append, Nat.zero_add, Nat.add_mul, Nat.one_mul]
      omega

/-- A key is replaced afterwards as it would have been at once only if its value is the key itself or if
the values before bring no occurrence of it with them. -/
theorem occurrences_fill_of_replace (hpool : Independent pool) (hkeys : keysOf bindings ⊆ pool)
    (hkey : key ∈ pool) (hnot : key ∉ keysOf bindings) {value text : List α} (hvalue : value ≠ key)
    (h : replace key value (fill bindings text) = fill (bindings ++ [(key, value)]) text) :
    occurrences key (fill bindings text) = occurrences key text := by
  have hne := hpool.nonempty key hkey
  by_cases hlength : value.length = key.length
  · -- A value of the same length does not move what is behind it.
    induction text using induction_on_key hne with
    | without text hzero =>
        rw [fill_concat_of_occurrences_eq_zero hne value hzero] at h
        rw [hzero, occurrences_eq_zero_of_replace hpool hkey hlength hvalue h]
    | split front rest hfront ih =>
        rw [fill_append_of_not_mem hpool hkeys hkey hnot, replace_append hpool hkey,
          fill_append_last hpool hkeys hkey hnot, fill_concat_of_occurrences_eq_zero hne value hfront] at h
        have hkept := length_replace hpool hkey value (fill bindings front)
        rw [hlength] at hkept
        obtain ⟨hfirst, hrest⟩ := List.append_inj h (by omega)
        rw [fill_append_of_not_mem hpool hkeys hkey hnot, occurrences_append hpool hkey,
          occurrences_append hpool hkey, hfront, ih (List.append_cancel_left hrest),
          occurrences_eq_zero_of_replace hpool hkey hlength hvalue hfirst]
  · have hreplace := length_replace hpool hkey value (fill bindings text)
    have hfill := length_fill_concat hpool hkeys hkey hnot value text
    have hle := occurrences_le_fill hpool hkeys hkey hnot text
    rw [h] at hreplace
    obtain ⟨more, hmore⟩ := Nat.exists_eq_add_of_le hle
    rw [hmore, Nat.add_mul, Nat.add_mul] at hreplace
    have hsame : more * key.length = more * value.length := by omega
    rcases Nat.eq_zero_or_pos more with hzero | hpos
    · omega
    · exact absurd (Nat.eq_of_mul_eq_mul_left hpos hsame).symm hlength

theorem fill_concat_self (hpool : Independent pool) (hkeys : keysOf bindings ⊆ pool) (hkey : key ∈ pool)
    (hnot : key ∉ keysOf bindings) (text : List α) :
    fill (bindings ++ [(key, key)]) text = fill bindings text := by
  have hne := hpool.nonempty key hkey
  induction text using induction_on_key hne with
  | without text h => exact fill_concat_of_occurrences_eq_zero hne key h
  | split front rest hfront ih =>
      rw [fill_append_last hpool hkeys hkey hnot, fill_append_of_not_mem hpool hkeys hkey hnot, ih,
        fill_concat_of_occurrences_eq_zero hne key hfront]

end Fill

/-! ## Several bindings -/

theorem fill_nil (text : List α) : fill ([] : List (List α × List α)) text = text := by
  induction text with
  | nil => rfl
  | cons letter rest ih =>
      have hnone : (oneOf (keysOf ([] : List (List α × List α)))).find (letter :: rest) = none := rfl
      rw [fill, Pattern.sub_letter _ hnone]
      exact congrArg (List.cons letter) ih

/-- In a text with the values of the bindings before it, a key occurs as often as in the text itself. -/
def Untouched (bindings : List (List α × List α)) (text : List α) : Prop :=
  ∀ index (h : index < bindings.length), bindings[index].2 = bindings[index].1 ∨
    occurrences bindings[index].1 (fill (bindings.take index) text) =
      occurrences bindings[index].1 text

omit [DecidableEq α] in
variable {bindings : List (List α × List α)}

theorem key_not_mem_take (hnodup : (keysOf bindings).Nodup)
    {index : Nat} (hindex : index < bindings.length) :
    bindings[index].1 ∉ keysOf (bindings.take index) := by
  intro hmem
  rw [keysOf, List.map_take] at hmem
  have hdrop : bindings[index].1 ∈ (keysOf bindings).drop index := by
    rw [keysOf, ← List.map_drop, List.drop_eq_getElem_cons hindex]
    exact List.mem_cons_self
  exact List.disjoint_take_drop hnodup (Nat.le_refl index) hmem hdrop

/-- The bindings, and those before any of them, can be substituted one after the other exactly if each key
is untouched by the values before it, or is its own value. -/
theorem substitute_eq_fill_iff (hpool : Independent (keysOf bindings))
    (hnodup : (keysOf bindings).Nodup) (text : List α) :
    (∀ count ≤ bindings.length,
      substitute (bindings.take count) text = fill (bindings.take count) text) ↔
      Untouched bindings text := by
  have htake : ∀ index, keysOf (bindings.take index) ⊆ keysOf bindings := by
    intro index
    rw [keysOf, List.map_take]
    exact List.take_subset index _
  have hkey : ∀ index (h : index < bindings.length), bindings[index].1 ∈ keysOf bindings :=
    fun index h => List.mem_map_of_mem (List.getElem_mem h)
  have hnot : ∀ index (h : index < bindings.length),
      bindings[index].1 ∉ keysOf (bindings.take index) :=
    fun index h => key_not_mem_take hnodup h
  have hstep : ∀ index (h : index < bindings.length),
      bindings.take (index + 1) = bindings.take index ++ [(bindings[index].1, bindings[index].2)] :=
    fun index h => List.take_succ_eq_append_getElem h
  have hsubstitute : ∀ index (h : index < bindings.length),
      substitute (bindings.take (index + 1)) text =
        replace bindings[index].1 bindings[index].2 (substitute (bindings.take index) text) := by
    intro index h
    rw [hstep index h, substitute, List.foldl_append]
    rfl
  constructor
  · intro hall index h
    by_cases hself : bindings[index].2 = bindings[index].1
    · exact .inl hself
    · right
      have hnext := hall (index + 1) h
      rw [hsubstitute index h, hall index h.le, hstep index h] at hnext
      exact occurrences_fill_of_replace hpool (htake index) (hkey index h) (hnot index h) hself hnext
  · intro huntouched count hcount
    induction count with
    | zero => exact (fill_nil text).symm
    | succ index ih =>
        have h : index < bindings.length := hcount
        rw [hsubstitute index h, ih h.le, hstep index h]
        rcases huntouched index h with hself | hsame
        · rw [hself, replace_self hpool (hkey index h),
            fill_concat_self hpool (htake index) (hkey index h) (hnot index h)]
        · exact replace_fill hpool (htake index) (hkey index h) (hnot index h) _ hsame

end Substitution

end IntegrationPlatform
