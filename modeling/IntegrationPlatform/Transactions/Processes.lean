import Mathlib.Data.List.Basic

/-!
# Processes that share a state

Several processes take atomic steps on a shared state in any order. What a step does depends on the
state, on the phase of its process and on a choice of the environment. `Run.invariant` is the rule
for invariants of runs, and `Others` speaks of all processes but one.
-/

namespace IntegrationPlatform

/-- The shared state, and the phase of each process. -/
structure Processes (σ φ : Type) where
  shared : σ
  phases : List φ

namespace Processes

variable {σ φ κ : Type}

/-- The process with this number is at a phase. -/
def At (processes : Processes σ φ) (id : Nat) (phase : φ) : Prop :=
  processes.phases[id]? = some phase

section Steps

variable (step : σ → φ → κ → Option (σ × φ))

/-- The process with this number takes its next step. -/
def advance (processes : Processes σ φ) (id : Nat) (choice : κ) : Option (Processes σ φ) :=
  processes.phases[id]?.bind fun phase =>
    (step processes.shared phase choice).map fun next =>
      ⟨next.1, processes.phases.set id next.2⟩

/-- The state after a step, which is the same where the process cannot take it. -/
def next (processes : Processes σ φ) (id : Nat × κ) : Processes σ φ :=
  (processes.advance step id.1 id.2).getD processes

/-- A run: processes take steps, each of which meets a condition on the state before it. -/
inductive Run (meets : Processes σ φ → Nat → κ → Bool) (first : Processes σ φ) :
    Processes σ φ → Prop where
  | start : Run meets first first
  | step {processes processes'} (id : Nat) (choice : κ) : Run meets first processes →
      meets processes id choice = true → processes.advance step id choice = some processes' →
      Run meets first processes'

/-- These steps, one after the other, as long as they meet a condition. -/
def play (meets : Processes σ φ → Nat → κ → Bool) (processes : Processes σ φ) :
    List (Nat × κ) → Option (Processes σ φ)
  | [] => some processes
  | (id, choice) :: rest =>
      if meets processes id choice then
        (processes.advance step id choice).bind fun processes' => play meets processes' rest
      else none

end Steps

variable {step : σ → φ → κ → Option (σ × φ)} {meets : Processes σ φ → Nat → κ → Bool}
  {first processes processes' : Processes σ φ} {id : Nat} {phase phase' : φ}

variable {choice : κ}

theorem advance_eq_some :
    processes.advance step id choice = some processes' ↔
      ∃ phase shared phase', processes.At id phase ∧
        step processes.shared phase choice = some (shared, phase') ∧
        processes' = ⟨shared, processes.phases.set id phase'⟩ := by
  unfold advance At
  constructor
  · intro h
    obtain ⟨phase, hphase, h⟩ := Option.bind_eq_some_iff.mp h
    obtain ⟨⟨shared, phase'⟩, hnext, rfl⟩ := Option.map_eq_some_iff.mp h
    exact ⟨phase, shared, phase', hphase, hnext, rfl⟩
  · rintro ⟨phase, shared, phase', hphase, hnext, rfl⟩
    rw [hphase, Option.bind_some, hnext]
    rfl

theorem next_cases (step : σ → φ → κ → Option (σ × φ)) (processes : Processes σ φ) (id : Nat)
    (choice : κ) :
    processes.next step (id, choice) = processes ∨
      ∃ phase shared phase', processes.At id phase ∧
        step processes.shared phase choice = some (shared, phase') ∧
        processes.next step (id, choice) = ⟨shared, processes.phases.set id phase'⟩ := by
  unfold next
  cases hnext : processes.advance step id choice with
  | none => exact .inl rfl
  | some processes' =>
      obtain ⟨phase, shared, phase', hphase, hstep, rfl⟩ := advance_eq_some.mp hnext
      exact .inr ⟨phase, shared, phase', hphase, hstep, rfl⟩

variable {shared : σ}

theorem next_of_step (hphase : processes.At id phase)
    (hstep : step processes.shared phase choice = some (shared, phase')) :
    processes.next step (id, choice) = ⟨shared, processes.phases.set id phase'⟩ := by
  unfold next
  rw [advance_eq_some.mpr ⟨phase, shared, phase', hphase, hstep, rfl⟩]
  rfl

theorem next_keeps {inv : Processes σ φ → Prop} (h : inv processes)
    (hkeep : ∀ phase shared phase', processes.At id phase →
      step processes.shared phase choice = some (shared, phase') →
      inv ⟨shared, processes.phases.set id phase'⟩) :
    inv (processes.next step (id, choice)) := by
  obtain hnext | ⟨phase, shared, phase', hphase, hstep, hnext⟩ := next_cases step processes id choice
  · rw [hnext]
    exact h
  · rw [hnext]
    exact hkeep phase shared phase' hphase hstep

theorem play_cons {rest : List (Nat × κ)} (hphase : processes.At id phase)
    (hmeets : meets processes id choice = true)
    (hstep : step processes.shared phase choice = some (shared, phase')) :
    processes.play step meets ((id, choice) :: rest) =
      play step meets ⟨shared, processes.phases.set id phase'⟩ rest := by
  have hadvance : processes.advance step id choice = some ⟨shared, processes.phases.set id phase'⟩ :=
    advance_eq_some.mpr ⟨phase, shared, phase', hphase, hstep, rfl⟩
  rw [play, if_pos hmeets, hadvance]
  rfl

theorem Run.invariant {inv : Processes σ φ → Prop} (h : Run step meets first processes)
    (hfirst : inv first)
    (hstep : ∀ (before : Processes σ φ) (id : Nat) (choice : κ) (phase : φ) (shared : σ) (phase' : φ),
      inv before → meets before id choice = true → before.At id phase →
        step before.shared phase choice = some (shared, phase') →
          inv ⟨shared, before.phases.set id phase'⟩) :
    inv processes := by
  induction h with
  | start => exact hfirst
  | step id choice _ hmeets hadvance ih =>
      obtain ⟨phase, shared, phase', hphase, hnext, rfl⟩ := advance_eq_some.mp hadvance
      exact hstep _ id choice phase shared phase' ih hmeets hphase hnext

theorem Run.play {steps : List (Nat × κ)} (h : Run step meets first processes)
    (hplay : processes.play step meets steps = some processes') :
    Run step meets first processes' := by
  induction steps generalizing processes with
  | nil => exact Option.some.inj hplay ▸ h
  | cons next rest ih =>
      obtain ⟨id, choice⟩ := next
      unfold Processes.play at hplay
      split at hplay
      · next hmeets =>
        obtain ⟨mid, hmid, hrest⟩ := Option.bind_eq_some_iff.mp hplay
        exact ih (h.step id choice hmeets hmid) hrest
      · cases hplay

/-! ## Phases after a step -/

theorem At.set (h : processes.At id phase) (shared : σ) :
    At ⟨shared, processes.phases.set id phase'⟩ id phase' :=
  List.getElem?_set_self (List.getElem?_eq_some_iff.mp h).1

theorem at_set_of_ne {other : Nat} (hne : other ≠ id) :
    At ⟨shared, processes.phases.set id phase'⟩ other phase ↔ processes.At other phase := by
  unfold At
  rw [List.getElem?_set_ne hne.symm]

theorem At.of_set {other : Nat} {found : φ} (h : processes.At id phase)
    (hfound : At ⟨shared, processes.phases.set id phase'⟩ other found) :
    other = id ∧ found = phase' ∨ other ≠ id ∧ processes.At other found := by
  by_cases hid : other = id
  · subst hid
    exact .inl ⟨rfl, Option.some.inj (hfound.symm.trans (h.set shared))⟩
  · exact .inr ⟨hid, (at_set_of_ne hid).mp hfound⟩

theorem At.countP_set (h : processes.At id phase) (phase' : φ) (kind : φ → Bool) :
    (processes.phases.set id phase').countP kind + (if kind phase then 1 else 0) =
      processes.phases.countP kind + (if kind phase' then 1 else 0) := by
  obtain ⟨hlt, rfl⟩ := List.getElem?_eq_some_iff.mp h
  have hle : (if kind processes.phases[id] then 1 else 0) ≤ processes.phases.countP kind := by
    split
    · next hkind => exact List.countP_pos_iff.mpr ⟨_, List.getElem_mem hlt, hkind⟩
    · exact Nat.zero_le _
  rw [List.countP_set hlt]
  omega

/-- Every process except this one is at a phase of some kind. -/
def Others (processes : Processes σ φ) (kind : φ → Bool) (id : Nat) : Prop :=
  ∀ (other : Nat) (phase : φ), other ≠ id → processes.At other phase → kind phase = true

theorem Others.set {kind : φ → Bool} (h : processes.Others kind id) (shared : σ) :
    Others ⟨shared, processes.phases.set id phase'⟩ kind id :=
  fun other phase hne hother => h other phase hne ((at_set_of_ne hne).mp hother)

end Processes

end IntegrationPlatform
