import Mathlib.Data.List.Basic
import Mathlib.Data.Nat.Find
/-!
# Removal of parts from a text

`removeFirst` is `text.replace(part, "", 1)`. `removeAll` removes several parts one after the other, and
`takeOut` does so as long as each of them is found. `removeAll_append` says that a text behind does not
matter to parts that can be taken out, and `countP_le_removeAll` what is left if one of them cannot.
-/

namespace IntegrationPlatform

namespace Removal

variable {α : Type} [DecidableEq α]

/-- The text without the first occurrence of a part. -/
def removeFirst (text part : List α) : List α :=
  match text.dropInfix? part with
  | some (before, after) => before ++ after
  | none => text

/-- The text without the first occurrence of each of the parts, in what those before it leave. -/
def removeAll (parts : List (List α)) (text : List α) : List α :=
  parts.foldl removeFirst text

/-- What the parts leave of a text, if each of them is found. -/
def takeOut : List (List α) → List α → Option (List α)
  | [], text => some text
  | part :: parts, text => (text.dropInfix? part).bind fun around => takeOut parts (around.1 ++ around.2)

/-! ## First occurrences -/

variable {text part before after : List α}

theorem dropInfix?_eq_some :
    text.dropInfix? part = some (before, after) ↔ text = before ++ part ++ after ∧
      ∀ before' after', text = before' ++ part ++ after' → before.length ≤ before'.length := by
  rw [List.dropInfix?_eq_some_iff]
  constructor
  · rintro ⟨⟨part', htext, hpart⟩, hfirst⟩
    obtain rfl := eq_of_beq hpart
    exact ⟨htext, fun before' after' htext' => hfirst before' part' after' htext' hpart⟩
  · rintro ⟨htext, hfirst⟩
    refine ⟨⟨part, htext, beq_self_eq_true part⟩, fun before' part' after' htext' hpart => ?_⟩
    obtain rfl := eq_of_beq hpart
    exact hfirst before' after' htext'

variable {text part : List α}

theorem exists_dropInfix? (h : part <:+: text) :
    ∃ before after, text.dropInfix? part = some (before, after) := by
  classical
  have hsome : ∃ size before after, before.length = size ∧ text = before ++ part ++ after := by
    obtain ⟨before, after, htext⟩ := h
    exact ⟨_, before, after, rfl, htext.symm⟩
  obtain ⟨before, after, hlength, htext⟩ := Nat.find_spec hsome
  refine ⟨before, after, dropInfix?_eq_some.mpr ⟨htext, fun before' after' htext' => ?_⟩⟩
  rw [hlength]
  exact Nat.find_min' hsome ⟨before', after', rfl, htext'⟩

theorem dropInfix?_eq_none :
    text.dropInfix? part = none ↔ ¬part <:+: text := by
  constructor
  · intro hnone hwithin
    obtain ⟨before, after, hsome⟩ := exists_dropInfix? hwithin
    rw [hnone] at hsome
    cases hsome
  · intro hnot
    cases hfound : text.dropInfix? part with
    | none => rfl
    | some around =>
        obtain ⟨htext, -⟩ := dropInfix?_eq_some.mp hfound
        exact absurd ⟨around.1, around.2, htext.symm⟩ hnot

theorem dropInfix?_append (h : text.dropInfix? part = some (before, after)) (tail : List α) :
    (text ++ tail).dropInfix? part = some (before, after ++ tail) := by
  obtain ⟨htext, hfirst⟩ := dropInfix?_eq_some.mp h
  refine dropInfix?_eq_some.mpr ⟨by rw [htext]; simp, fun before' after' htext' => ?_⟩
  by_contra hlt
  rw [Nat.not_le] at hlt
  -- An earlier occurrence would end before the text does.
  have hbegins : before' ++ part <+: text := by
    refine List.prefix_of_prefix_length_le ⟨after', htext'.symm⟩ (List.prefix_append text tail) ?_
    rw [htext]
    simp only [List.length_append]
    omega
  obtain ⟨after'', hafter⟩ := hbegins
  exact absurd (hfirst before' after'' hafter.symm) (Nat.not_le.mpr hlt)

theorem removeFirst_append {text part tail : List α} {last : α} (hpart : part.getLast? = some last)
    (htail : last ∉ tail) : removeFirst (text ++ tail) part = removeFirst text part ++ tail := by
  cases hfound : text.dropInfix? part with
  | some around =>
      rw [removeFirst, removeFirst, hfound, dropInfix?_append hfound]
      exact (List.append_assoc _ _ _).symm
  | none =>
      have hnone : (text ++ tail).dropInfix? part = none := by
        rw [dropInfix?_eq_none] at hfound ⊢
        rintro ⟨before, after, htext⟩
        rcases List.append_eq_append_iff.mp htext with ⟨rest, hends, -⟩ | ⟨rest, hends, hrest⟩
        · exact hfound ⟨before, rest, hends.symm⟩
        · -- Behind the text there is no letter with which the part could end.
          rcases List.eq_nil_or_concat rest with rfl | ⟨rest, letter, rfl⟩
          · rw [List.append_nil] at hends
            exact hfound ⟨before, [], by rw [List.append_nil, hends]⟩
          · have hlast := congrArg List.getLast? hends
            rw [List.getLast?_append, hpart] at hlast
            obtain rfl : last = letter := by simpa using hlast
            exact htail (by rw [hrest]; simp)
      rw [removeFirst, removeFirst, hfound, hnone]

theorem removeFirst_of_not_found {letter : α} (hnone : text.dropInfix? part = none)
    (hletter : letter ∉ part) (tail : List α) :
    removeFirst (text ++ letter :: (part ++ tail)) part = text ++ letter :: tail := by
  rw [dropInfix?_eq_none] at hnone
  have hfound : (text ++ letter :: (part ++ tail)).dropInfix? part = some (text ++ [letter], tail) := by
    refine dropInfix?_eq_some.mpr ⟨by simp, fun before after htext => ?_⟩
    by_contra hlt
    rw [Nat.not_le, List.length_append, List.length_singleton] at hlt
    rcases List.append_eq_append_iff.mp htext with ⟨rest, hrest, hafter⟩ | ⟨rest, hends, -⟩
    · cases rest with
      | nil =>
          rw [List.append_nil] at hrest
          exact hnone ⟨before, [], by rw [List.append_nil, hrest]⟩
      | cons head rest =>
          -- The occurrence would begin in the text, and have the letter behind it.
          obtain ⟨rfl, -⟩ := List.cons.inj hafter
          rcases List.append_eq_append_iff.mp hrest with ⟨start, -, hpart⟩ | ⟨start, hbefore, hpart⟩
          · exact hletter (by rw [hpart]; simp)
          · have hstart : start = [] := by
              rw [hbefore, List.length_append] at hlt
              exact List.length_eq_zero_iff.mp (by omega)
            rw [hstart, List.nil_append] at hpart
            exact hletter (hpart ▸ List.mem_cons_self)
    · exact hnone ⟨before, rest, hends.symm⟩
  rw [removeFirst, hfound]
  simp

/-! ## Several parts -/

variable {parts : List (List α)}

theorem removeAll_append {text rest : List α} (h : takeOut parts text = some rest)
    (tail : List α) : removeAll parts (text ++ tail) = rest ++ tail := by
  induction parts generalizing text with
  | nil =>
      obtain rfl := Option.some.inj h
      rfl
  | cons part parts ih =>
      obtain ⟨around, hfound, hrest⟩ := Option.bind_eq_some_iff.mp h
      have hfirst : removeFirst (text ++ tail) part = around.1 ++ around.2 ++ tail := by
        rw [removeFirst, dropInfix?_append hfound]
        exact (List.append_assoc _ _ _).symm
      rw [removeAll, List.foldl_cons, hfirst]
      exact ih hrest

theorem removeAll_append_of_last {tail : List α} {last : α}
    (hparts : ∀ part ∈ parts, part.getLast? = some last) (htail : last ∉ tail) (text : List α) :
    removeAll parts (text ++ tail) = removeAll parts text ++ tail := by
  induction parts generalizing text with
  | nil => rfl
  | cons part parts ih =>
      obtain ⟨hpart, hrest⟩ := List.forall_mem_cons.mp hparts
      rw [removeAll, List.foldl_cons, removeFirst_append hpart htail]
      exact ih hrest _

theorem exists_of_takeOut_eq_none {text : List α} (h : takeOut parts text = none) :
    ∃ earlier part later rest, parts = earlier ++ part :: later ∧ takeOut earlier text = some rest ∧
      rest.dropInfix? part = none := by
  induction parts generalizing text with
  | nil => cases h
  | cons part parts ih =>
      cases hfound : text.dropInfix? part with
      | none => exact ⟨[], part, parts, text, rfl, rfl, hfound⟩
      | some around =>
          rw [takeOut, hfound] at h
          obtain ⟨earlier, part', later, rest, rfl, hrest, hnone⟩ := ih h
          refine ⟨part :: earlier, part', later, rest, rfl, ?_, hnone⟩
          rw [takeOut, hfound]
          exact hrest

section Counts

variable (counted : α → Bool)

theorem countP_takeOut {text rest : List α} (h : takeOut parts text = some rest) :
    text.countP counted = rest.countP counted + parts.flatten.countP counted := by
  induction parts generalizing text with
  | nil =>
      obtain rfl := Option.some.inj h
      rfl
  | cons part parts ih =>
      obtain ⟨around, hfound, hrest⟩ := Option.bind_eq_some_iff.mp h
      have hcount := ih hrest
      rw [(dropInfix?_eq_some.mp hfound).1, List.flatten_cons]
      simp only [List.countP_append] at hcount ⊢
      omega

theorem countP_le_removeAll (parts : List (List α)) (text : List α) :
    text.countP counted ≤ (removeAll parts text).countP counted + parts.flatten.countP counted := by
  induction parts generalizing text with
  | nil => exact Nat.le_refl _
  | cons part parts ih =>
      have hrest := ih (removeFirst text part)
      have hfirst : text.countP counted ≤
          (removeFirst text part).countP counted + part.countP counted := by
        rw [removeFirst]
        split
        · next before after hfound =>
          rw [(dropInfix?_eq_some.mp hfound).1]
          simp only [List.countP_append]
          omega
        · exact Nat.le_add_right _ _
      rw [removeAll, List.foldl_cons, ← removeAll, List.flatten_cons, List.countP_append]
      omega

theorem countP_le_of_not_found {earlier later : List (List α)} {part text rest : List α}
    (htext : text.Perm (earlier ++ part :: later).flatten) (hrest : takeOut earlier text = some rest)
    (hnone : rest.dropInfix? part = none) :
    part.countP counted ≤ (removeAll (earlier ++ part :: later) text).countP counted := by
  have hremoved : removeAll (earlier ++ part :: later) text = removeAll later rest := by
    have hearlier : earlier.foldl removeFirst (text ++ []) = rest ++ [] := removeAll_append hrest []
    rw [List.append_nil, List.append_nil] at hearlier
    rw [removeAll, List.foldl_append, hearlier, List.foldl_cons, removeFirst, hnone]
    rfl
  have hall := htext.countP_eq counted
  have htaken := countP_takeOut counted hrest
  have hlater := countP_le_removeAll counted later rest
  simp only [List.flatten_append, List.flatten_cons, List.countP_append] at hall
  rw [hremoved]
  omega

end Counts

end Removal

end IntegrationPlatform
