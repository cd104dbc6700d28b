import IntegrationPlatform.Rates.Limiter
import Mathlib.Algebra.BigOperators.Ring.List

/-!
# Rounding of sums

Half-even rounding gives the nearest integer, and the even one of two (`roundHalfEven_eq_iff`). A sum may
be rounded as a whole or number by number, and `roundHalfEven_sum_iff` says for which lists both give the
same.
-/

namespace IntegrationPlatform

namespace RateLimiter

/-! ## The nearest integer -/

/-- No integer is nearer to the number, and of two that are as near it is the even one. -/
def Nearest (number : Rat) (nearest : Int) : Prop :=
  |number - nearest| < 1 / 2 ∨ (|number - nearest| = 1 / 2 ∧ nearest % 2 = 0)

theorem nearest_roundHalfEven (number : Rat) : Nearest number (roundHalfEven number) := by
  have hnonneg : 0 ≤ number - ⌊number⌋ := sub_nonneg.mpr (Int.floor_le number)
  have hlt : number - ⌊number⌋ < 1 := by linarith [Int.lt_floor_add_one number]
  unfold roundHalfEven
  dsimp only
  split
  · next hdown =>
    unfold Nearest
    rw [abs_of_nonneg hnonneg]
    exact hdown
  · next hup =>
    obtain ⟨hge, heven⟩ := not_or.mp hup
    have hhalf : 1 / 2 ≤ number - ⌊number⌋ := not_lt.mp hge
    have hneg : number - (⌊number⌋ + 1 : Int) ≤ 0 := by
      push_cast
      linarith
    unfold Nearest
    rw [abs_of_nonpos hneg]
    push_cast
    rcases eq_or_lt_of_le hhalf with heq | hmore
    · -- Of the two nearest integers the lower one is odd here.
      right
      refine ⟨by linarith, ?_⟩
      have hodd : ⌊number⌋ % 2 ≠ 0 := fun hzero => heven ⟨heq.symm, hzero⟩
      omega
    · left
      linarith

variable {number : Rat} {nearest : Int}

theorem Nearest.distance_le (h : Nearest number nearest) :
    |number - nearest| ≤ 1 / 2 := by
  rcases h with hlt | ⟨heq, -⟩
  · exact hlt.le
  · exact heq.le

theorem Nearest.not_succ (h : Nearest number nearest) :
    ¬ Nearest number (nearest + 1) := by
  intro hsucc
  obtain ⟨-, hhigh⟩ := abs_le.mp h.distance_le
  obtain ⟨hlow, -⟩ := abs_le.mp hsucc.distance_le
  push_cast at hlow
  have hhalf : number - nearest = 1 / 2 := by linarith
  have hhalf' : number - (nearest + 1 : Int) = -(1 / 2) := by
    push_cast
    linarith
  have heven : nearest % 2 = 0 := by
    rcases h with hlt | ⟨-, heven⟩
    · rw [hhalf] at hlt
      norm_num at hlt
    · exact heven
  have heven' : (nearest + 1) % 2 = 0 := by
    rcases hsucc with hlt | ⟨-, heven'⟩
    · rw [hhalf'] at hlt
      norm_num at hlt
    · exact heven'
  omega

theorem Nearest.le_succ {first second : Int} (hfirst : Nearest number first)
    (hsecond : Nearest number second) : first ≤ second + 1 := by
  obtain ⟨hlow, -⟩ := abs_le.mp hfirst.distance_le
  obtain ⟨-, hhigh⟩ := abs_le.mp hsecond.distance_le
  have hcast : (first : Rat) ≤ (second + 1 : Int) := by
    push_cast
    linarith
  exact_mod_cast hcast

theorem Nearest.eq {first second : Int} (hfirst : Nearest number first)
    (hsecond : Nearest number second) : first = second := by
  have hle : first ≤ second + 1 := hfirst.le_succ hsecond
  have hge : second ≤ first + 1 := hsecond.le_succ hfirst
  have hup : second ≠ first + 1 := fun heq => hfirst.not_succ (heq ▸ hsecond)
  have hdown : first ≠ second + 1 := fun heq => hsecond.not_succ (heq ▸ hfirst)
  omega

theorem Nearest.le_distance (h : Nearest number nearest) (other : Int) :
    |number - nearest| ≤ |number - other| := by
  by_cases heq : other = nearest
  · rw [heq]
  · have hapart : (1 : Rat) ≤ |(nearest : Rat) - other| := by
      have hne : nearest - other ≠ 0 := fun hzero => heq (sub_eq_zero.mp hzero).symm
      have hint : 1 ≤ |nearest - other| := Int.one_le_abs hne
      exact_mod_cast hint
    have htriangle := abs_sub_le (nearest : Rat) number other
    rw [abs_sub_comm (nearest : Rat) number] at htriangle
    linarith [h.distance_le]

theorem roundHalfEven_eq_iff :
    roundHalfEven number = nearest ↔ Nearest number nearest := by
  constructor
  · rintro rfl
    exact nearest_roundHalfEven number
  · intro hnearest
    exact (nearest_roundHalfEven number).eq hnearest

@[simp] theorem roundHalfEven_intCast (whole : Int) : roundHalfEven (whole : Rat) = whole := by
  rw [roundHalfEven_eq_iff]
  left
  simp

/-! ## Sums -/

/-- What rounding takes from a number. -/
def residue (number : Rat) : Rat :=
  number - roundHalfEven number

/-- What rounding takes from the numbers is too little to change their rounded sum. -/
def Absorbed (numbers : List Rat) : Prop :=
  |(numbers.map residue).sum| < 1 / 2 ∨
    (|(numbers.map residue).sum| = 1 / 2 ∧ (numbers.map roundHalfEven).sum % 2 = 0)

theorem sum_residue (numbers : List Rat) :
    (numbers.map residue).sum = numbers.sum - ((numbers.map roundHalfEven).sum : Int) := by
  induction numbers with
  | nil => simp
  | cons number numbers ih =>
    simp only [List.map_cons, List.sum_cons]
    rw [ih]
    unfold residue
    push_cast
    ring

variable {numbers : List Rat}

theorem roundHalfEven_sum_iff :
    roundHalfEven numbers.sum = (numbers.map roundHalfEven).sum ↔ Absorbed numbers := by
  rw [roundHalfEven_eq_iff]
  unfold Nearest Absorbed
  rw [sum_residue]

/-! ## Whole numbers -/

/-- The number is an integer. -/
def Whole (number : Rat) : Prop :=
  ∃ whole : Int, number = whole

theorem residue_of_whole (hwhole : Whole number) : residue number = 0 := by
  obtain ⟨whole, rfl⟩ := hwhole
  simp [residue]

theorem whole_sum (hwhole : ∀ number ∈ numbers, Whole number) : Whole numbers.sum := by
  induction numbers with
  | nil => exact ⟨0, by simp⟩
  | cons number numbers ih =>
    obtain ⟨⟨first, hfirst⟩, hrest⟩ := List.forall_mem_cons.mp hwhole
    obtain ⟨rest, hsum⟩ := ih hrest
    refine ⟨first + rest, ?_⟩
    rw [List.sum_cons, hfirst, hsum]
    push_cast
    rfl

theorem absorbed_of_whole (hwhole : ∀ number ∈ numbers, Whole number) :
    Absorbed numbers := by
  have hzero : (numbers.map residue).sum = 0 := by
    apply List.sum_eq_zero
    intro rest hrest
    obtain ⟨number, hmem, rfl⟩ := List.mem_map.mp hrest
    exact residue_of_whole (hwhole number hmem)
  left
  rw [hzero]
  norm_num

/-! ## Hundredths -/

theorem sum_hundredths (numbers : List Rat) : (numbers.map (· * 100)).sum = numbers.sum * 100 := by
  rw [List.sum_map_mul_right, List.map_id']

theorem sum_roundTwoDigits (numbers : List Rat) : (numbers.map roundTwoDigits).sum =
    (((numbers.map (· * 100)).map roundHalfEven).sum : Int) / 100 := by
  induction numbers with
  | nil => simp
  | cons number numbers ih =>
    simp only [List.map_cons, List.sum_cons]
    rw [ih]
    unfold roundTwoDigits
    push_cast
    ring

theorem roundTwoDigits_sum_iff :
    roundTwoDigits numbers.sum = (numbers.map roundTwoDigits).sum ↔ Absorbed (numbers.map (· * 100)) := by
  rw [sum_roundTwoDigits, ← roundHalfEven_sum_iff, sum_hundredths]
  unfold roundTwoDigits
  rw [div_left_inj' (by norm_num)]
  exact Int.cast_inj

end RateLimiter

end IntegrationPlatform
