import Mathlib.Data.Nat.Basic
/-!
# Runs without an end

The states of a run whose steps never end, and what such a run leads to. `served_of_recurring` is the
rule for requests that are served when some step is taken again, `served_of_falling` the one for requests
that such steps bring nearer, and `recurs_of_rank` says that a step is taken again. `stateAt_rounds` is
about steps that repeat in rounds.
-/

namespace IntegrationPlatform

variable {σ ι : Type}

/-- The state before the step with this number. -/
def stateAt (step : σ → ι → σ) (first : σ) (events : Nat → ι) : Nat → σ
  | 0 => first
  | number + 1 => step (stateAt step first events number) (events number)

/-- A property of a state and its next step is met again and again. -/
def Recurring (step : σ → ι → σ) (first : σ) (events : Nat → ι) (property : σ → ι → Prop) :
    Prop :=
  ∀ number, ∃ later, number ≤ later ∧ property (stateAt step first events later) (events later)

variable {step : σ → ι → σ} {first : σ} {events : Nat → ι}

theorem stateAt_keeps {inv : σ → Prop} (hkeep : ∀ state event, inv state → inv (step state event))
    {number later : Nat} (hle : number ≤ later) (h : inv (stateAt step first events number)) :
    inv (stateAt step first events later) := by
  induction later, hle using Nat.le_induction with
  | base => exact h
  | succ later _ ih => exact hkeep _ _ ih

/-- Where the steps repeat in rounds, what holds at the places of the first round and leads from each
place to the next one holds in every round. -/
theorem stateAt_rounds {start period : Nat} (hperiod : 0 < period) {place : Nat → σ → Prop}
    (hevents : ∀ number, events (number + period + start) = events (number + start))
    (hfirst : place 0 (stateAt step first events start))
    (hnext : ∀ offset < period, ∀ state, place offset state →
      place ((offset + 1) % period) (step state (events (offset + start)))) (number : Nat) :
    place (number % period) (stateAt step first events (number + start)) ∧
      events (number + start) = events (number % period + start) := by
  have hsame : ∀ round offset, events (offset + period * round + start) = events (offset + start) := by
    intro round offset
    induction round with
    | zero => rfl
    | succ round ih => rw [Nat.mul_succ, ← Nat.add_assoc, hevents, ih]
  have hevent : ∀ number, events (number + start) = events (number % period + start) := by
    intro number
    have hrounds := hsame (number / period) (number % period)
    rwa [Nat.mod_add_div] at hrounds
  refine ⟨?_, hevent number⟩
  induction number with
  | zero =>
      rw [Nat.zero_mod, Nat.zero_add]
      exact hfirst
  | succ number ih =>
      have hplace := hnext _ (Nat.mod_lt number hperiod) _ ih
      rw [Nat.mod_add_mod, ← hevent] at hplace
      rw [Nat.add_right_comm]
      exact hplace

theorem served_of_recurring (opened served : σ → Prop) {closes : σ → ι → Prop}
    (hstep : ∀ state event, opened state → opened (step state event) ∨ served (step state event))
    (hclose : ∀ state event, opened state → closes state event → served (step state event))
    (hrecurs : Recurring step first events closes) {number : Nat}
    (hopen : opened (stateAt step first events number)) :
    ∃ later, number < later ∧ served (stateAt step first events later) := by
  by_contra hnever
  have hopened : ∀ later, number ≤ later → opened (stateAt step first events later) := by
    intro later hle
    induction later, hle using Nat.le_induction with
    | base => exact hopen
    | succ later hle ih =>
        rcases hstep _ (events later) ih with hnext | hserved
        · exact hnext
        · exact absurd ⟨later + 1, Nat.lt_succ_of_le hle, hserved⟩ hnever
  obtain ⟨later, hle, hcloses⟩ := hrecurs number
  exact hnever ⟨later + 1, Nat.lt_succ_of_le hle, hclose _ _ (hopened later hle) hcloses⟩

/-- A request that stays open until it is served is served, if a rank that never rises falls again and
again. -/
theorem served_of_falling (opened served : σ → Prop) {closes : σ → ι → Prop} (rank : σ → Nat)
    {start : Nat}
    (hstep : ∀ number, start ≤ number → opened (stateAt step first events number) →
      served (stateAt step first events (number + 1)) ∨
        opened (stateAt step first events (number + 1)) ∧
          rank (stateAt step first events (number + 1)) ≤ rank (stateAt step first events number))
    (hclose : ∀ number, start ≤ number → opened (stateAt step first events number) →
      closes (stateAt step first events number) (events number) →
      served (stateAt step first events (number + 1)) ∨
        rank (stateAt step first events (number + 1)) < rank (stateAt step first events number))
    (hrecurs : Recurring step first events closes)
    (hopen : opened (stateAt step first events start)) :
    ∃ later, start < later ∧ served (stateAt step first events later) := by
  by_contra hnever
  have hunserved : ∀ later, start ≤ later → ¬ served (stateAt step first events (later + 1)) :=
    fun later hle hserved => hnever ⟨later + 1, Nat.lt_succ_of_le hle, hserved⟩
  have hopened : ∀ later, start ≤ later → opened (stateAt step first events later) := by
    intro later hle
    induction later, hle using Nat.le_induction with
    | base => exact hopen
    | succ later hle ih => exact ((hstep later hle ih).resolve_left (hunserved later hle)).1
  have hrank : ∀ number later, start ≤ number → number ≤ later →
      rank (stateAt step first events later) ≤ rank (stateAt step first events number) := by
    intro number later hstart hle
    induction later, hle using Nat.le_induction with
    | base => exact le_rfl
    | succ later hle ih =>
        have hstart' := Nat.le_trans hstart hle
        have hnext := ((hstep later hstart' (hopened later hstart')).resolve_left
          (hunserved later hstart')).2
        exact Nat.le_trans hnext ih
  have hbelow : ∀ bound number, start ≤ number →
      rank (stateAt step first events number) < bound → False := by
    intro bound
    induction bound with
    | zero => exact fun _ _ hlt => Nat.not_lt_zero _ hlt
    | succ bound ih =>
        intro number hstart hlt
        obtain ⟨later, hle, hcloses⟩ := hrecurs number
        have hstart' := Nat.le_trans hstart hle
        have hfalls := (hclose later hstart' (hopened later hstart') hcloses).resolve_left
          (hunserved later hstart')
        have hnumber := hrank number later hstart hle
        exact ih (later + 1) (Nat.le_succ_of_le hstart') (by omega)
  exact hbelow _ start le_rfl (Nat.lt_succ_self _)

theorem recurs_of_rank {property : σ → ι → Prop} (rank : σ → Nat) {start : Nat}
    (hfalls : ∀ number, start ≤ number →
      property (stateAt step first events number) (events number) ∨
        rank (stateAt step first events (number + 1)) < rank (stateAt step first events number)) :
    Recurring step first events property := by
  have hreach : ∀ bound number, start ≤ number → rank (stateAt step first events number) ≤ bound →
      ∃ later, number ≤ later ∧ property (stateAt step first events later) (events later) := by
    intro bound
    induction bound with
    | zero =>
        intro number hstart hrank
        rcases hfalls number hstart with hmet | hlt
        · exact ⟨number, le_rfl, hmet⟩
        · omega
    | succ bound ih =>
        intro number hstart hrank
        rcases hfalls number hstart with hmet | hlt
        · exact ⟨number, le_rfl, hmet⟩
        · obtain ⟨later, hle, hmet⟩ := ih (number + 1) (by omega) (by omega)
          exact ⟨later, by omega, hmet⟩
  intro number
  obtain ⟨later, hle, hmet⟩ := hreach _ (max number start) (Nat.le_max_right _ _) le_rfl
  exact ⟨later, Nat.le_trans (Nat.le_max_left _ _) hle, hmet⟩

end IntegrationPlatform
