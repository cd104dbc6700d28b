import Mathlib.Algebra.Ring.Nat
import Mathlib.Data.List.Basic
/-!
# Regions of numbers

A region is put together from intervals of natural numbers. Between two neighbouring bounds of its intervals
it does not change, so that two regions are compared at finitely many numbers (`NatRegion.contains_eq_iff`).
-/

namespace IntegrationPlatform

/-- A set of natural numbers: those from one number up to another, which is not in it, and combinations. -/
inductive NatRegion where
  | interval (low high : Nat)
  | union (left right : NatRegion)
  | without (left right : NatRegion)

namespace NatRegion

/-- The empty region. -/
def empty : NatRegion := interval 0 0

/-- A number is in a region. -/
def contains : NatRegion → Nat → Bool
  | interval low high, number => decide (low ≤ number) && decide (number < high)
  | union left right, number => left.contains number || right.contains number
  | without left right, number => left.contains number && !right.contains number

/-- The bounds of the intervals of a region. -/
def bounds : NatRegion → List Nat
  | interval low high => [low, high]
  | union left right => left.bounds ++ right.bounds
  | without left right => left.bounds ++ right.bounds

/-- The union of some regions. -/
def unions : List NatRegion → NatRegion
  | [] => empty
  | region :: rest => union region (unions rest)

/-- The numbers that begin with the digits of a base, of which `free` binary digits may change. -/
def block (base free : Nat) : NatRegion := interval base (base + 2 ^ free)

/-- Two regions have the same numbers. -/
def agree (left right : NatRegion) : Bool :=
  (0 :: (left.bounds ++ right.bounds)).all fun bound => left.contains bound == right.contains bound

variable {region : NatRegion} {number : Nat}

@[simp] theorem contains_empty : empty.contains number = false := by
  simp [empty, contains]

theorem contains_unions (regions : List NatRegion) (number : Nat) :
    (unions regions).contains number = regions.any fun region => region.contains number := by
  induction regions with
  | nil => exact contains_empty
  | cons region rest ih => rw [unions, contains, ih, List.any_cons]

theorem contains_congr {first second : Nat} (hle : first ≤ second)
    (hnone : ∀ bound ∈ region.bounds, ¬ (first < bound ∧ bound ≤ second)) :
    region.contains first = region.contains second := by
  induction region with
  | interval low high =>
      have hlow := hnone low (by simp [bounds])
      have hhigh := hnone high (by simp [bounds])
      have hlow' : low ≤ first ↔ low ≤ second := by omega
      have hhigh' : first < high ↔ second < high := by omega
      simp only [contains, hlow', hhigh']
  | union left right hleft hright =>
      rw [contains, contains, hleft fun bound h => hnone bound (List.mem_append_left _ h),
        hright fun bound h => hnone bound (List.mem_append_right _ h)]
  | without left right hleft hright =>
      rw [contains, contains, hleft fun bound h => hnone bound (List.mem_append_left _ h),
        hright fun bound h => hnone bound (List.mem_append_right _ h)]

theorem exists_last_le (numbers : List Nat) (number : Nat) :
    ∃ last ∈ 0 :: numbers, last ≤ number ∧ ∀ other ∈ numbers, ¬ (last < other ∧ other ≤ number) := by
  induction numbers with
  | nil => exact ⟨0, List.mem_cons_self, Nat.zero_le _, fun _ h => by cases h⟩
  | cons first rest ih =>
      obtain ⟨last, hlast, hle, hnone⟩ := ih
      by_cases hfirst : last < first ∧ first ≤ number
      · refine ⟨first, by simp, hfirst.2, fun other hother => ?_⟩
        rcases List.mem_cons.mp hother with rfl | hrest
        · omega
        · have := hnone other hrest
          omega
      · refine ⟨last, ?_, hle, fun other hother => ?_⟩
        · rcases List.mem_cons.mp hlast with rfl | hrest
          · exact List.mem_cons_self
          · exact List.mem_cons_of_mem _ (List.mem_cons_of_mem _ hrest)
        · rcases List.mem_cons.mp hother with rfl | hrest
          · exact hfirst
          · exact hnone other hrest

/-- **Two regions have the same numbers exactly if they agree at their bounds**, and at `0`. -/
theorem contains_eq_iff {left right : NatRegion} :
    (∀ number, left.contains number = right.contains number) ↔ left.agree right = true := by
  unfold agree
  rw [List.all_eq_true]
  constructor
  · exact fun h bound _ => beq_iff_eq.mpr (h bound)
  · intro h number
    obtain ⟨last, hlast, hle, hnone⟩ := exists_last_le (left.bounds ++ right.bounds) number
    rw [← contains_congr hle fun bound hbound => hnone bound (List.mem_append_left _ hbound),
      ← contains_congr hle fun bound hbound => hnone bound (List.mem_append_right _ hbound)]
    exact beq_iff_eq.mp (h last hlast)

end NatRegion

end IntegrationPlatform
