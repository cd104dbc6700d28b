import Mathlib.Init

/-!
# Sequences of steps

What holds of every step of a sequence and of the state that it meets. `along_iff` compares two such
properties that agree wherever an invariant holds.
-/

namespace IntegrationPlatform

variable {σ ι : Type}

/-- Every step of a sequence has a property that speaks of the state before it. -/
def Along (step : σ → ι → σ) (property : σ → ι → Prop) (state : σ) : List ι → Prop
  | [] => True
  | next :: rest => property state next ∧ Along step property (step state next) rest

variable {step : σ → ι → σ} {property property' : σ → ι → Prop} {state : σ} {inv : σ → Prop}

variable {steps : List ι}

theorem Along.mono (h : Along step property state steps)
    (himp : ∀ state next, inv state → property state next → property' state next)
    (hkeep : ∀ state next, inv state → property state next → inv (step state next))
    (hstate : inv state) : Along step property' state steps := by
  induction steps generalizing state with
  | nil => exact trivial
  | cons next rest ih =>
      exact ⟨himp state next hstate h.1, ih h.2 (hkeep state next hstate h.1)⟩

theorem Along.and (h : Along step property state steps) (h' : Along step property' state steps) :
    Along step (fun state next => property state next ∧ property' state next) state steps := by
  induction steps generalizing state with
  | nil => exact trivial
  | cons next rest ih => exact ⟨⟨h.1, h'.1⟩, ih h.2 h'.2⟩

theorem Along.foldl {property : σ → ι → Prop} (h : Along step property state steps)
    (hkeep : ∀ state next, inv state → property state next → inv (step state next))
    (hstate : inv state) : inv (steps.foldl step state) := by
  induction steps generalizing state with
  | nil => exact hstate
  | cons next rest ih => exact ih h.2 (hkeep state next hstate h.1)

theorem Along.congr {premise property property' : σ → ι → Prop} (h : Along step premise state steps)
    (hagree : ∀ state next, premise state next → (property state next ↔ property' state next)) :
    Along step property state steps ↔ Along step property' state steps := by
  induction steps generalizing state with
  | nil => exact Iff.rfl
  | cons next rest ih => exact and_congr (hagree state next h.1) (ih h.2)

theorem along_of_invariant {property : σ → ι → Prop}
    (himp : ∀ state next, inv state → property state next)
    (hkeep : ∀ state next, inv state → inv (step state next)) (hstate : inv state)
    (steps : List ι) : Along step property state steps := by
  induction steps generalizing state with
  | nil => exact trivial
  | cons next rest ih => exact ⟨himp state next hstate, ih (hkeep state next hstate)⟩

theorem along_iff (hagree : ∀ state next, inv state → (property state next ↔ property' state next))
    (hkeep : ∀ state next, inv state → property state next → inv (step state next))
    (hstate : inv state) (steps : List ι) :
    Along step property state steps ↔ Along step property' state steps := by
  induction steps generalizing state with
  | nil => exact Iff.rfl
  | cons next rest ih =>
      constructor
      · rintro ⟨hnext, hrest⟩
        exact ⟨(hagree state next hstate).mp hnext, (ih (hkeep state next hstate hnext)).mp hrest⟩
      · rintro ⟨hnext, hrest⟩
        have hproperty := (hagree state next hstate).mpr hnext
        exact ⟨hproperty, (ih (hkeep state next hstate hproperty)).mpr hrest⟩

end IntegrationPlatform
