import IntegrationPlatform.Flows.EntryPoints

/-!
# Outcomes of flow executions

`execute_flow` decides the status and the retry count of an execution in a loop over the attempts, whose
last exception is raised again after it. `executeFlow_settled` says how both follow from the calls of the
action and what they answered.
-/

namespace IntegrationPlatform

namespace Flows

/-- The call with these arguments, at this attempt, returns. -/
def Callback.Returns (callback : Callback) (kwargs : Assoc Arg) (attempt : Nat) : Prop :=
  ∃ value, (callback.call kwargs attempt).result = .ok value

/-- The last of these calls returns. -/
def LastReturns (callback : Callback) (calls : List (Assoc Arg)) : Prop :=
  ∃ kwargs, calls.getLast? = some kwargs ∧ callback.Returns kwargs (calls.length - 1)

/-- How an execution ends: how often the action is called, and what status and retry count follow from what
the calls do. -/
structure Settled (world : FlowWorld) (callback : Callback) (flow : Flow) (data : Dict)
    (run : FlowRun) : Prop where
  calls_le : (run.calls.length : Int) ≤ if flow.onError = "retry" then flow.maxRetries + 1 else 1
  returned_once : ∀ attempt kwargs, run.calls[attempt]? = some kwargs →
    callback.Returns kwargs attempt → attempt + 1 = run.calls.length
  skipped_iff : run.execution.status = .skipped ↔ matchesFilter world data flow.sourceFilter = false
  skipped_calls : run.execution.status = .skipped → run.calls = []
  success_iff : run.execution.status = .success ↔ LastReturns callback run.calls
  failed_otherwise : run.execution.status ≠ .skipped → run.execution.status ≠ .success →
    run.execution.status = .failed
  retryCount_eq : run.calls ≠ [] → run.execution.retryCount + 1 = run.calls.length

variable {world : FlowWorld} {callback : Callback} {flow : Flow} {data : Dict}

/-! ## The loop -/

theorem runAttempts_calls_le (remaining attempt : Nat) (payload : Dict) :
    (runAttempts flow callback remaining attempt payload).calls.length ≤ remaining := by
  induction remaining generalizing attempt payload with
  | zero => exact Nat.le_refl 0
  | succ remaining ih =>
      rw [runAttempts]
      cases (callback.call (callArguments flow payload) attempt).result with
      | ok value =>
          show 1 ≤ remaining + 1
          omega
      | error message => exact Nat.succ_le_succ (ih _ _)

theorem runAttempts_returned (remaining attempt : Nat) (payload : Dict) (index : Nat)
    (kwargs : Assoc Arg)
    (hcall : (runAttempts flow callback remaining attempt payload).calls[index]? = some kwargs)
    (hreturns : callback.Returns kwargs (attempt + index)) :
    index + 1 = (runAttempts flow callback remaining attempt payload).calls.length := by
  induction remaining generalizing attempt payload index with
  | zero => simp [runAttempts] at hcall
  | succ remaining ih =>
      rw [runAttempts] at hcall ⊢
      cases hresult : (callback.call (callArguments flow payload) attempt).result with
      | ok value =>
          simp only [hresult] at hcall ⊢
          have hlt : index < 1 := (List.getElem?_eq_some_iff.mp hcall).1
          show index + 1 = 1
          omega
      | error message =>
          simp only [hresult] at hcall ⊢
          cases index with
          | zero =>
              -- the first call has failed
              obtain rfl : callArguments flow payload = kwargs := Option.some.inj hcall
              obtain ⟨value, hvalue⟩ := hreturns
              rw [Nat.add_zero, hresult] at hvalue
              cases hvalue
          | succ index =>
              rw [show attempt + (index + 1) = attempt + 1 + index by omega] at hreturns
              exact congrArg (· + 1) (ih _ _ _ hcall hreturns)

theorem runAttempts_last (remaining attempt : Nat) (payload : Dict) (hremaining : remaining ≠ 0) :
    ∃ kwargs before,
      (runAttempts flow callback remaining attempt payload).calls = before ++ [kwargs] ∧
      (runAttempts flow callback remaining attempt payload).last =
        some (attempt + before.length, (callback.call kwargs (attempt + before.length)).result) := by
  induction remaining generalizing attempt payload with
  | zero => exact absurd rfl hremaining
  | succ remaining ih =>
      rw [runAttempts]
      cases hresult : (callback.call (callArguments flow payload) attempt).result with
      | ok value => exact ⟨callArguments flow payload, [], rfl, by simp [hresult]⟩
      | error message =>
          cases remaining with
          | zero => exact ⟨callArguments flow payload, [], rfl, by simp [runAttempts, hresult]⟩
          | succ remaining =>
              obtain ⟨kwargs, before, hcalls, hlast⟩ := ih (attempt + 1)
                (callback.call (callArguments flow payload) attempt).payload (Nat.succ_ne_zero _)
              have hlength : attempt + 1 + before.length =
                  attempt + (callArguments flow payload :: before).length := by
                rw [List.length_cons]
                omega
              refine ⟨kwargs, callArguments flow payload :: before, ?_, ?_⟩
              · simp only [hcalls, List.cons_append]
              · simp only [hlast, Option.getD_some, hlength]

/-! ## The execution -/

theorem lastReturns_append (before : List (Assoc Arg)) (kwargs : Assoc Arg) :
    LastReturns callback (before ++ [kwargs]) ↔ callback.Returns kwargs before.length := by
  simp [LastReturns]

theorem Flow.attempts_cast (hretries : 0 ≤ flow.maxRetries) :
    (flow.attempts : Int) = if flow.onError = "retry" then flow.maxRetries + 1 else 1 := by
  unfold Flow.attempts
  split
  · omega
  · rfl

theorem settled_without_calls {run : FlowRun} (hretries : 0 ≤ flow.maxRetries) (hcalls : run.calls = [])
    (hstatus : run.execution.status =
      if matchesFilter world data flow.sourceFilter = false then .skipped else .failed) :
    Settled world callback flow data run where
  calls_le := by
    rw [hcalls, List.length_nil]
    split <;> omega
  returned_once attempt kwargs hcall := by simp [hcalls] at hcall
  skipped_iff := by
    rw [hstatus]
    split <;> simp [*]
  skipped_calls _ := hcalls
  success_iff := by
    rw [hstatus, hcalls]
    split <;> simp [LastReturns]
  failed_otherwise hskipped _ := by
    rw [hstatus] at hskipped ⊢
    split at hskipped
    · exact absurd rfl hskipped
    · rename_i hfilter
      rw [if_neg hfilter]
  retryCount_eq h := absurd hcalls h

theorem ended_cases (execution : FlowExecution) (attempts : Attempts) (attempt : Nat)
    (result : Except String Value) (hlast : attempts.last = some (attempt, result)) :
    (ended world execution attempts).retryCount = attempt ∧
      ((ended world execution attempts).status = .success ∧ (∃ value, result = .ok value) ∨
        (ended world execution attempts).status = .failed ∧ ¬ ∃ value, result = .ok value) := by
  unfold ended
  rw [hlast]
  cases result with
  | ok value => exact ⟨rfl, .inl ⟨rfl, value, rfl⟩⟩
  | error message => exact ⟨rfl, .inr ⟨rfl, by simp⟩⟩

/-- An execution with attempts. -/
theorem settled_with_calls {execution : FlowExecution} {attempts : Attempts} {run : FlowRun}
    (hretries : 0 ≤ flow.maxRetries)
    (hfilter : matchesFilter world data flow.sourceFilter = true)
    (hrun : run = ⟨ended world execution attempts, attempts.calls, attempts.dispatched⟩)
    (hlast : ∃ kwargs before, attempts.calls = before ++ [kwargs] ∧
      attempts.last = some (0 + before.length, (callback.call kwargs (0 + before.length)).result))
    (hle : attempts.calls.length ≤ flow.attempts)
    (hreturned : ∀ attempt kwargs, attempts.calls[attempt]? = some kwargs →
      callback.Returns kwargs attempt → attempt + 1 = attempts.calls.length) :
    Settled world callback flow data run := by
  obtain ⟨kwargs, before, hcalls, hlast⟩ := hlast
  rw [Nat.zero_add] at hlast
  have hended := @ended_cases world
  obtain ⟨hcount, hstatus⟩ := hended execution attempts _ _ hlast
  have hreturns : LastReturns callback attempts.calls ↔ callback.Returns kwargs before.length := by
    rw [hcalls, lastReturns_append]
  have hnumber : (ended world execution attempts).retryCount + 1 = attempts.calls.length := by
    rw [hcount, hcalls, List.length_append, List.length_singleton]
  subst hrun
  have hbound : (attempts.calls.length : Int) ≤
      if flow.onError = "retry" then flow.maxRetries + 1 else 1 := by
    rw [← Flow.attempts_cast hretries]
    omega
  rcases hstatus with ⟨hsuccess, hvalue⟩ | ⟨hfailed, hnone⟩
  · exact ⟨hbound, hreturned, by simp [hsuccess, hfilter], by simp [hsuccess],
      iff_of_true hsuccess (hreturns.mpr hvalue), fun _ h => absurd hsuccess h, fun _ => hnumber⟩
  · exact ⟨hbound, hreturned, by simp [hfailed, hfilter], by simp [hfailed],
      iff_of_false (by simp [hfailed]) fun h => hnone (hreturns.mp h), fun _ _ => hfailed,
      fun _ => hnumber⟩

/-- **Every execution of a flow settles.** The action is called at most once more than the flow may be
retried, and at most once without retries; never again after a call has returned. The execution is skipped,
without a call, exactly if the event does not pass the filter; it succeeds exactly if the last call has
returned, and fails otherwise; and after a call the retry count is one less than the number of calls. -/
theorem executeFlow_settled (world : FlowWorld) (callback : Callback) (flow : Flow) (data : Dict)
    (hretries : 0 ≤ flow.maxRetries) :
    Settled world callback flow data (executeFlow world callback flow data) := by
  by_cases hfilter : matchesFilter world data flow.sourceFilter = true
  · have hpasses : ¬ matchesFilter world data flow.sourceFilter = false := by simp [hfilter]
    unfold executeFlow
    rw [if_pos hfilter]
    cases mappedData world flow data with
    | error message => exact settled_without_calls hretries rfl (by rw [if_neg hpasses])
    | ok mapped =>
        have hattempts : flow.attempts ≠ 0 := by
          have hcast := Flow.attempts_cast hretries
          intro hzero
          rw [hzero] at hcast
          split at hcast <;> omega
        exact settled_with_calls hretries hfilter rfl
          (runAttempts_last flow.attempts 0 mapped hattempts) (runAttempts_calls_le _ _ _)
          fun attempt kwargs hcall hreturns => runAttempts_returned _ 0 mapped attempt kwargs hcall
            (by rwa [Nat.zero_add])
  · refine settled_without_calls hretries ?_ ?_
    · unfold executeFlow
      rw [if_neg hfilter]
    · unfold executeFlow
      rw [if_neg hfilter, if_pos (by simpa using hfilter)]

end Flows

namespace Sample

open Flows

def returnsFrom (first : Nat) : Callback where
  name := "_action_fn"
  parameters := [("connector_name", none), ("action", none), ("payload", none), ("tenant_id", none),
    ("connector_version", some .none)]
  body arguments attempt :=
    { dispatched := []
      result := if attempt < first then .error "Connection refused" else .ok (.dict [])
      payload := (argument arguments "payload").payload }

def shippingRetried : Flow :=
  { shipping with onError := "retry" }

end Sample

/-- A shipment that succeeds at its third attempt settles after three calls. -/
theorem shippingRetried_settled :
    (Flows.executeFlow Sample.flowWorld (Sample.returnsFrom 2) Sample.shippingRetried []).calls.length = 3 ∧
      Flows.Settled Sample.flowWorld (Sample.returnsFrom 2) Sample.shippingRetried []
        (Flows.executeFlow Sample.flowWorld (Sample.returnsFrom 2) Sample.shippingRetried []) :=
  ⟨by decide +kernel, Flows.executeFlow_settled _ _ _ _ (by decide)⟩

end IntegrationPlatform
