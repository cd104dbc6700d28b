import Mathlib.Algebra.Order.BigOperators.Group.List
import Mathlib.Algebra.Ring.Nat
/-!
# Segments of paths

The segments of a path stand between its slashes. The removal of dot segments leaves none of them, makes
nothing more of the others, and changes nothing where there is none.
-/

namespace IntegrationPlatform

namespace DotSegments

/-! ## Segments -/

/-- The segments of a path behind its first slash. -/
def segments (path : List Char) : List (List Char) :=
  (path.drop 1).splitOn '/'

theorem length_splitOn (text : List Char) : (text.splitOn '/').length = text.count '/' + 1 := by
  induction text with
  | nil => rfl
  | cons head text ih =>
      rw [List.splitOn_cons_eq_if_modifyHead, List.count_cons]
      by_cases hhead : head = '/'
      · simp [hhead, ih]
      · simp [hhead, ih]

theorem count_splitOn {letter : Char} (hne : letter ≠ '/') (text : List Char) :
    ((text.splitOn '/').map fun piece => piece.count letter).sum = text.count letter := by
  induction text with
  | nil => rfl
  | cons head text ih =>
      rw [List.splitOn_cons_eq_if_modifyHead, List.count_cons]
      by_cases hhead : head = '/'
      · simp [hhead, ih, Ne.symm hne]
      · obtain ⟨first, rest, hsplit⟩ := List.exists_cons_of_ne_nil (List.splitOn_ne_nil '/' text)
        rw [hsplit, List.map_cons, List.sum_cons] at ih
        rw [if_neg (by simpa using hhead), hsplit, List.modifyHead_cons, List.map_cons, List.sum_cons,
          List.count_cons]
        omega

/-! ## The removal of dot segments -/

/-- The segments that stand for the directory itself and for the one above. -/
def isDots (segment : List Char) : Bool :=
  segment = ['.'] || segment = ['.', '.']

variable {segment : List Char}

theorem isDots_eq_false (hone : segment ≠ ['.']) (htwo : segment ≠ ['.', '.']) :
    isDots segment = false := by
  simp [isDots, hone, htwo]

theorem eq_dots_of_isDots (h : isDots segment = true) :
    segment = ['.'] ∨ segment = ['.', '.'] := by
  simpa [isDots] using h

/-- The removal of dot segments, with the segments of the output from the last one to the first. At the end of
a path a dot segment leaves an empty one. -/
def removeDots : List (List Char) → List (List Char) → List (List Char)
  | output, [] => output.reverse
  | output, ['.'] :: [] => ([] :: output).reverse
  | output, ['.', '.'] :: [] => ([] :: output.tail).reverse
  | output, ['.'] :: rest => removeDots output rest
  | output, ['.', '.'] :: rest => removeDots output.tail rest
  | output, segment :: rest => removeDots (segment :: output) rest

/-- The segments of a path without dot segments. -/
def removeDotSegments (input : List (List Char)) : List (List Char) :=
  removeDots [] input

theorem removeDots_cons (h : isDots segment = false) (output rest : List (List Char)) :
    removeDots output (segment :: rest) = removeDots (segment :: output) rest := by
  unfold isDots at h
  simp only [Bool.or_eq_false_iff, decide_eq_false_iff_not] at h
  rw [removeDots]
  · rintro rfl
    exact absurd rfl h.1
  · rintro rfl
    exact absurd rfl h.2
  · rintro rfl
    exact absurd rfl h.1
  · rintro rfl
    exact absurd rfl h.2

variable {input : List (List Char)}

theorem removeDots_eq (h : ∀ segment ∈ input, isDots segment = false)
    (output : List (List Char)) : removeDots output input = output.reverse ++ input := by
  induction input generalizing output with
  | nil => rw [removeDots, List.append_nil]
  | cons segment rest ih =>
      have hrest : ∀ other ∈ rest, isDots other = false := fun other hother =>
        h other (List.mem_cons_of_mem _ hother)
      rw [removeDots_cons (h segment List.mem_cons_self), ih hrest, List.reverse_cons, List.append_assoc,
        List.singleton_append]

theorem isDots_of_mem_removeDots {output input : List (List Char)}
    (h : ∀ segment ∈ output, isDots segment = false) :
    ∀ segment ∈ removeDots output input, isDots segment = false := by
  have htail : ∀ segment ∈ output.tail, isDots segment = false := fun segment hsegment =>
    h segment (List.mem_of_mem_tail hsegment)
  induction output, input using removeDots.induct with
  | case1 output =>
      rw [removeDots]
      exact fun segment hsegment => h segment (List.mem_reverse.mp hsegment)
  | case2 output =>
      rw [removeDots]
      intro segment hsegment
      rcases List.mem_cons.mp (List.mem_reverse.mp hsegment) with rfl | hbefore
      · rfl
      · exact h segment hbefore
  | case3 output =>
      rw [removeDots]
      intro segment hsegment
      rcases List.mem_cons.mp (List.mem_reverse.mp hsegment) with rfl | hbefore
      · rfl
      · exact htail segment hbefore
  | case4 output rest hrest ih =>
      rw [removeDots]
      · exact ih h htail
      · exact hrest
  | case5 output rest hrest ih =>
      rw [removeDots]
      · exact ih htail fun segment hsegment => htail segment (List.mem_of_mem_tail hsegment)
      · exact hrest
  | case6 output segment rest hone htwo hone' htwo' ih =>
      have hkept : isDots segment = false := isDots_eq_false hone' htwo'
      rw [removeDots_cons hkept]
      refine ih ?_ fun other hother => h other hother
      intro other hother
      rcases List.mem_cons.mp hother with rfl | hbefore
      · exact hkept
      · exact h other hbefore

/-- The segments that are left weigh no more than those of the path, if an empty one weighs no more than a dot
segment. -/
theorem sum_removeDots_le {weight : List Char → Nat} (hone : weight [] ≤ weight ['.'])
    (htwo : weight [] ≤ weight ['.', '.']) (output input : List (List Char)) :
    ((removeDots output input).map weight).sum ≤ (output.map weight).sum + (input.map weight).sum := by
  have htail : ∀ output : List (List Char), (output.tail.map weight).sum ≤ (output.map weight).sum := by
    intro output
    cases output with
    | nil => exact Nat.le_refl _
    | cons segment rest =>
        rw [List.map_cons, List.sum_cons, List.tail_cons]
        omega
  induction output, input using removeDots.induct with
  | case1 output =>
      rw [removeDots, List.map_reverse, List.sum_reverse]
      show _ ≤ (output.map weight).sum + 0
      omega
  | case2 output =>
      rw [removeDots, List.map_reverse, List.sum_reverse]
      simp only [List.map_cons, List.map_nil, List.sum_cons, List.sum_nil]
      omega
  | case3 output =>
      rw [removeDots, List.map_reverse, List.sum_reverse]
      simp only [List.map_cons, List.map_nil, List.sum_cons, List.sum_nil]
      have hle := htail output
      omega
  | case4 output rest hrest ih =>
      rw [removeDots]
      · rw [List.map_cons, List.sum_cons]
        omega
      · exact hrest
  | case5 output rest hrest ih =>
      rw [removeDots]
      · rw [List.map_cons, List.sum_cons]
        have hle := htail output
        omega
      · exact hrest
  | case6 output segment rest _ _ hone' htwo' ih =>
      have hkept : isDots segment = false := isDots_eq_false hone' htwo'
      rw [removeDots_cons hkept]
      simp only [List.map_cons, List.sum_cons] at ih ⊢
      omega

theorem removeDotSegments_eq (h : ∀ segment ∈ input, isDots segment = false) :
    removeDotSegments input = input :=
  removeDots_eq h []

theorem isDots_of_mem (h : segment ∈ removeDotSegments input) : isDots segment = false :=
  isDots_of_mem_removeDots (fun _ hmem => by cases hmem) segment h

theorem length_removeDotSegments_le (input : List (List Char)) :
    (removeDotSegments input).length ≤ input.length := by
  have hsum := @sum_removeDots_le (fun _ => 1) (Nat.le_refl 1) (Nat.le_refl 1) [] input
  have hone : ∀ output : List (List Char), (output.map fun _ => 1).sum = output.length := by
    intro output
    rw [List.map_const', List.sum_replicate, Nat.nsmul_eq_mul, Nat.mul_one]
  rw [hone, hone, hone, List.length_nil, Nat.zero_add] at hsum
  exact hsum

theorem count_removeDotSegments_le (letter : Char) (input : List (List Char)) :
    ((removeDotSegments input).map fun segment => segment.count letter).sum ≤
      (input.map fun segment => segment.count letter).sum := by
  have hsum := @sum_removeDots_le (fun segment => segment.count letter) (Nat.zero_le _)
    (Nat.zero_le _) [] input
  simpa [removeDotSegments] using hsum

end DotSegments

end IntegrationPlatform
