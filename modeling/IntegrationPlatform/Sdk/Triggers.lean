import IntegrationPlatform.Transactions.Histories
import Mathlib.Tactic.Linarith

/-!
# Polling triggers

`_run_trigger_loop` polls a trigger that accepts `since`, with the start of the poll before. What a
poll returns is what happened between the two starts. `windows_iff` says which polls may fail
without a gap between the windows of the others.
-/

namespace IntegrationPlatform

namespace Triggers

/-- A poll: how long after the start of the one before it starts, and whether it returns. -/
structure Poll where
  elapsed : NNRat
  returns : Bool

/-- What a poll has been asked for: what has happened from `since` on, and before its start. -/
structure Window where
  since : Option Rat
  startedAt : Rat
  deriving DecidableEq

/-- `_run_trigger_loop` between two polls, with the windows of the polls that have returned, from
the latest to the first. The clock was read when the last poll started. -/
structure TriggerLoop where
  clock : Rat
  lastRunAt : Option Rat
  windows : List Window

/-- The loop before the first poll. -/
def TriggerLoop.started (clock : Rat) : TriggerLoop where
  clock
  lastRunAt := none
  windows := []

/-- An instant is not before this one, if there is one. -/
def NotBefore (since : Option Rat) (instant : Rat) : Prop :=
  ∀ bound, since = some bound → bound ≤ instant

/-- The window of a poll has this instant. -/
structure Window.Covers (window : Window) (instant : Rat) : Prop where
  since : NotBefore window.since instant
  before : instant < window.startedAt

namespace TriggerLoop

variable (loop : TriggerLoop) (poll : Poll)

/-- `started_at` of a poll. -/
def startedAt : Rat := loop.clock + poll.elapsed

/-- The window that a poll is asked for. -/
def window : Window where
  since := loop.lastRunAt
  startedAt := loop.startedAt poll

/-- One round of the loop. -/
def round : TriggerLoop where
  clock := loop.startedAt poll
  -- The assignment stands after the `except` clause.
  lastRunAt := some (loop.startedAt poll)
  windows := if poll.returns then loop.window poll :: loop.windows else loop.windows

/-- Every instant between the starts of the first and of the latest poll that has returned is in the
window of one of these polls. -/
def Gapless : Prop :=
  ∀ first latest, loop.windows.getLast? = some first → loop.windows.head? = some latest →
    ∀ instant, first.startedAt < instant → instant < latest.startedAt →
      ∃ window ∈ loop.windows, window.Covers instant

/-- There is no gap after a poll, and if it has failed, the next one is asked for everything that it
has been asked for. -/
structure Sees : Prop where
  gapless : (loop.round poll).Gapless
  unmoved : poll.returns = false → ∀ instant, (loop.window poll).Covers instant →
    NotBefore (loop.round poll).lastRunAt instant

/-- The poll returns, or it starts at the very instant at which the poll before it has started. -/
def Meets : Prop :=
  poll.returns = true ∨ loop.lastRunAt = some (loop.startedAt poll)

/-- The last poll that has returned has started when the last poll has, and there is no gap. -/
structure Current : Prop where
  unpolled : loop.windows = [] → loop.lastRunAt = none
  polled : ∀ latest, loop.windows.head? = some latest →
    loop.lastRunAt = some latest.startedAt ∧ latest.startedAt ≤ loop.clock
  gapless : loop.Gapless

variable {loop poll}

theorem clock_le_startedAt : loop.clock ≤ loop.startedAt poll :=
  le_add_of_nonneg_right poll.elapsed.coe_nonneg

theorem Current.gapless_round (h : loop.Current) (hreturns : poll.returns = true) :
    (loop.round poll).Gapless := by
  have hwindows : (loop.round poll).windows = loop.window poll :: loop.windows := if_pos hreturns
  intro first latest hfirst hlatest instant hafter hbefore
  rw [hwindows] at hfirst hlatest ⊢
  obtain rfl : loop.window poll = latest := Option.some.inj hlatest
  cases hold : loop.windows with
  | nil =>
      -- The first poll that returns has nothing before it.
      rw [hold] at hfirst
      obtain rfl : loop.window poll = first := Option.some.inj hfirst
      exact absurd hbefore (not_lt.mpr hafter.le)
  | cons previous rest =>
      rw [hold, List.getLast?_cons_cons, ← hold] at hfirst
      have hhead : loop.windows.head? = some previous := by
        rw [hold]
        rfl
      by_cases hseen : instant < previous.startedAt
      · obtain ⟨window, hmem, hcovers⟩ := h.gapless first previous hfirst hhead instant hafter hseen
        exact ⟨window, List.mem_cons_of_mem _ (hold ▸ hmem), hcovers⟩
      · refine ⟨loop.window poll, List.mem_cons_self, ?_, hbefore⟩
        intro bound hbound
        have hsince : loop.lastRunAt = some bound := hbound
        rw [(h.polled previous hhead).1] at hsince
        obtain rfl := Option.some.inj hsince
        exact not_lt.mp hseen

theorem windows_round_of_fails (hfails : poll.returns = false) :
    (loop.round poll).windows = loop.windows := by
  unfold round
  rw [hfails]
  rfl

theorem Current.unmoved_iff (h : loop.Current) :
    (∀ instant, (loop.window poll).Covers instant → NotBefore (loop.round poll).lastRunAt instant) ↔
      loop.lastRunAt = some (loop.startedAt poll) := by
  constructor
  · intro hunmoved
    cases hlast : loop.lastRunAt with
    | none =>
        -- Without `since` the poll has been asked for everything before its start.
        have hcovers : (loop.window poll).Covers (loop.startedAt poll - 1) := by
          refine ⟨fun bound hbound => ?_, sub_one_lt _⟩
          rw [show (loop.window poll).since = none from hlast] at hbound
          cases hbound
        have hle := hunmoved _ hcovers _ rfl
        linarith
    | some since =>
        obtain ⟨latest, hlatest⟩ : ∃ latest, loop.windows.head? = some latest := by
          cases hwindows : loop.windows with
          | nil =>
              rw [h.unpolled hwindows] at hlast
              cases hlast
          | cons latest rest => exact ⟨latest, rfl⟩
        obtain ⟨hstart, hclock⟩ := h.polled latest hlatest
        obtain rfl : latest.startedAt = since := Option.some.inj (hstart.symm.trans hlast)
        have hle : latest.startedAt ≤ loop.startedAt poll := hclock.trans clock_le_startedAt
        congr 1
        refine le_antisymm hle (not_lt.mp fun hlt => ?_)
        have hcovers : (loop.window poll).Covers latest.startedAt := by
          refine ⟨fun bound hbound => ?_, hlt⟩
          rw [show (loop.window poll).since = some latest.startedAt from hlast] at hbound
          exact (Option.some.inj hbound).ge
        exact absurd (hunmoved _ hcovers _ rfl) (not_le.mpr hlt)
  · intro hsame instant hcovers bound hbound
    obtain rfl : loop.startedAt poll = bound := Option.some.inj hbound
    exact hcovers.since _ hsame

theorem Current.sees_iff (h : loop.Current) : loop.Sees poll ↔ loop.Meets poll := by
  cases hreturns : poll.returns with
  | true =>
      refine iff_of_true ⟨h.gapless_round hreturns, ?_⟩ (.inl hreturns)
      intro hfails
      rw [hreturns] at hfails
      cases hfails
  | false =>
      constructor
      · intro hsees
        exact .inr (h.unmoved_iff.mp (hsees.unmoved hreturns))
      · rintro (hreturns' | hsame)
        · rw [hreturns] at hreturns'
          cases hreturns'
        · refine ⟨?_, fun _ => h.unmoved_iff.mpr hsame⟩
          unfold Gapless
          rw [windows_round_of_fails hreturns]
          exact h.gapless

theorem Current.round (h : loop.Current) (hmeets : loop.Meets poll) : (loop.round poll).Current := by
  have hgapless : (loop.round poll).Gapless := (h.sees_iff.mpr hmeets).gapless
  cases hreturns : poll.returns with
  | true =>
      have hwindows : (loop.round poll).windows = loop.window poll :: loop.windows := if_pos hreturns
      refine ⟨fun hnone => ?_, fun latest hlatest => ?_, hgapless⟩
      · rw [hwindows] at hnone
        cases hnone
      · rw [hwindows] at hlatest
        obtain rfl : loop.window poll = latest := Option.some.inj hlatest
        exact ⟨rfl, le_rfl⟩
  | false =>
      obtain hreturns' | hsame := hmeets
      · rw [hreturns] at hreturns'
        cases hreturns'
      · refine ⟨fun hnone => ?_, fun latest hlatest => ?_, hgapless⟩
        · rw [windows_round_of_fails hreturns] at hnone
          rw [h.unpolled hnone] at hsame
          cases hsame
        · rw [windows_round_of_fails hreturns] at hlatest
          obtain ⟨hstart, hclock⟩ := h.polled latest hlatest
          refine ⟨?_, hclock.trans clock_le_startedAt⟩
          show some (loop.startedAt poll) = some latest.startedAt
          rw [← hsame, hstart]

theorem current_started (clock : Rat) : (started clock).Current where
  unpolled _ := rfl
  polled latest hlatest := by cases hlatest
  gapless first latest hfirst := by cases hfirst

end TriggerLoop

/-- The windows of a sequence of polls leave no gap, and no failed poll moves the window past what it
has not seen, if and only if no poll fails but one that starts at the very instant of the poll before
it. -/
theorem windows_iff (clock : Rat) (polls : List Poll) :
    Along TriggerLoop.round TriggerLoop.Sees (.started clock) polls ↔
      Along TriggerLoop.round TriggerLoop.Meets (.started clock) polls := by
  have hagree : ∀ (loop : TriggerLoop) poll, loop.Current → (loop.Sees poll ↔ loop.Meets poll) :=
    fun _ _ hcurrent => hcurrent.sees_iff
  exact along_iff hagree (fun _ _ hcurrent hsees => hcurrent.round (hcurrent.sees_iff.mp hsees))
    (TriggerLoop.current_started clock) polls

/-- A poll that fails between two that return. -/
def outage : List Poll := [⟨0, true⟩, ⟨60, false⟩, ⟨60, true⟩]

/-- What happens between the first poll and the failed one is in no window. -/
theorem window_skipped : ¬ Along TriggerLoop.round TriggerLoop.Sees (.started 0) outage := by
  rintro ⟨-, -, hlast, -⟩
  have hwindows : (outage.foldl TriggerLoop.round (.started 0)).windows =
      [⟨some 60, 120⟩, ⟨none, 0⟩] := by decide +kernel
  obtain ⟨window, hmem, hcovers⟩ := hlast.gapless ⟨none, 0⟩ ⟨some 60, 120⟩
    (congrArg List.getLast? hwindows) (congrArg List.head? hwindows) 30 (by decide +kernel)
    (by decide +kernel)
  have hmem' : window ∈ [⟨some 60, 120⟩, ⟨none, 0⟩] := hwindows ▸ hmem
  simp only [List.mem_cons, List.not_mem_nil, or_false] at hmem'
  obtain rfl | rfl := hmem'
  · exact absurd (hcovers.since 60 rfl) (by decide +kernel)
  · exact absurd hcovers.before (by decide +kernel)

end Triggers

end IntegrationPlatform
