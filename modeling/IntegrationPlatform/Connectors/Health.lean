import IntegrationPlatform.Connectors.Registry
import IntegrationPlatform.Transactions.Histories
import Mathlib.Algebra.Order.Ring.Rat
import Mathlib.Data.List.TakeWhile

/-!
# The health monitor of the connectors

`ConnectorHealthMonitor` checks the instances that are enabled, counts the checks of each instance
that have failed since the last good one, and disables an instance when there are enough of them. The
checks of a cycle overlap. `auto_disable_lawful` says when an instance is disabled, and that no other
instance has a part in it.
-/

namespace IntegrationPlatform

namespace Health

open Connectors

/-! ## Instances and checks -/

/-- The columns of a `ConnectorInstance` that the monitor uses. -/
structure ConnectorInstance where
  id : String
  connectorName : String
  connectorVersion : String
  isEnabled : Bool := true
  deriving DecidableEq

/-- `_HealthTarget` of an instance, whose key is its id. -/
structure HealthTarget where
  manifest : ConnectorManifest
  instanceKey : String

/-- How the request to the health endpoint of a service ends. -/
inductive Response where
  | status (code : Nat)
  | timeout
  | error (message : String)

/-- The answer is that of a healthy service. -/
def Response.healthy : Response → Bool
  | .status code => code = 200
  | _ => false

/-- The status of an answer. -/
def Response.healthStatus : Response → String
  | .status code => if code = 200 then "healthy" else "degraded"
  | .timeout => "degraded"
  | .error _ => "unhealthy"

/-- The error of an answer. -/
def Response.lastError : Response → Option String
  | .status code => if code = 200 then none else some ("HTTP " ++ toString code)
  | .timeout => some "Health check timed out"
  | .error message => some message

/-- The fields of a `ConnectorHealthStatus` that are not measured times. -/
structure ConnectorHealthStatus where
  connectorName : String
  instanceKey : String
  status : String
  lastCheck : Rat
  consecutiveFailures : Nat
  lastError : Option String
  errorRate5m : Rat
  category : String

/-- A check that has ended: whether it failed, whether it has disabled the instance, and the status
that is stored, unless an error was raised before. -/
structure Check where
  instanceKey : String
  failed : Bool
  disabled : Bool
  health : Option ConnectorHealthStatus

/-- `ConnectorHealthMonitor`, as the gateway sets it up. -/
structure Config where
  registry : ConnectorRegistry
  checkInterval : Int := 30
  autoDisableThreshold : Int := 5

/-- The instances, the dictionaries of the monitor, the checks that wait for their answer, and those
that have ended, the last one first. -/
structure Monitor where
  rows : List ConnectorInstance
  failureCounts : Assoc Nat := []
  errorTimestamps : Assoc (List Rat) := []
  inFlight : List HealthTarget := []
  checks : List Check := []

/-- A check of an instance begins; it is answered at some instant, and a write that disables the
instance would succeed or not; a user creates or changes an instance, or deletes it. -/
inductive Event where
  | check (id : String)
  | answer (id : String) (response : Response) (now : Rat) (writes : Bool)
  | save (row : ConnectorInstance)
  | delete (id : String)

/-- The instance of an event. -/
def Event.id : Event → String
  | .check id => id
  | .answer id _ _ _ => id
  | .save row => row.id
  | .delete id => id

/-! ## The monitor -/

/-- The target of an instance, if a manifest is found. -/
def targetOf (registry : ConnectorRegistry) (row : ConnectorInstance) :
    Except String (Option HealthTarget) :=
  (registry.getByNameVersion row.connectorName (some row.connectorVersion)).map fun manifest =>
    (manifest.or (registry.getByName row.connectorName).head?).map fun manifest =>
      ⟨manifest, row.id⟩

namespace Monitor

variable (config : Config) (monitor : Monitor)

/-- The rows of an instance. -/
def rowsOf (id : String) : List ConnectorInstance := monitor.rows.filter fun row => row.id = id

/-- The checks of an instance that wait for their answer. -/
def inFlightOf (id : String) : List HealthTarget :=
  monitor.inFlight.filter fun target => target.instanceKey = id

/-- The checks of an instance that have ended, the last one first. -/
def history (id : String) : List Check := monitor.checks.filter fun check => check.instanceKey = id

/-- The instance is enabled. -/
def Enabled (id : String) : Prop := ∃ row ∈ monitor.rowsOf id, row.isEnabled = true

/-- A check of an instance that is enabled begins. A cycle begins when the checks of the one before
have ended; here an instance is only not checked twice at a time. -/
def check (id : String) : Monitor :=
  match (monitor.rowsOf id).find? (·.isEnabled), monitor.inFlightOf id with
  | some row, [] =>
      match targetOf config.registry row with
      | .ok (some target) => { monitor with inFlight := monitor.inFlight ++ [target] }
      | _ => monitor
  | _, _ => monitor

/-- The failures of a key. -/
def failures (key : String) : Nat := (monitor.failureCounts.find key).getD 0

/-- An answer is counted. -/
def count (key : String) (response : Response) : Monitor :=
  { monitor with
    failureCounts := monitor.failureCounts.put key
      (if response.healthy then 0 else monitor.failures key + 1) }

/-- The instant of a failure is kept. -/
def stamp (key : String) (response : Response) (now : Rat) : Monitor :=
  if response.healthy then monitor
  else
    { monitor with
      errorTimestamps := monitor.errorTimestamps.put key
        ((monitor.errorTimestamps.find key).getD [] ++ [now]) }

/-- The instants of the last five minutes are kept. -/
def prune (key : String) (now : Rat) : Monitor :=
  match monitor.errorTimestamps.find key with
  | none => monitor
  | some stamps =>
      { monitor with
        errorTimestamps := monitor.errorTimestamps.put key
          (stamps.filter fun stamp => now - 300 < stamp) }

/-- `_compute_error_rate_5m`, after the instants are pruned. An interval of zero raises a
`ZeroDivisionError`. -/
def errorRate (key : String) : Option Rat :=
  if config.checkInterval = 0 then none
  else
    some (((monitor.errorTimestamps.find key).getD []).length /
      max 1 (300 / (config.checkInterval : Rat)))

/-- `_auto_disable_instance`, whose write succeeds or raises an exception, which is caught. -/
def autoDisableInstance (id : String) (writes : Bool) : Monitor :=
  if writes then
    { monitor with
      rows := monitor.rows.map fun row => if row.id = id then { row with isEnabled := false } else row
      failureCounts := monitor.failureCounts.put id 0 }
  else monitor

/-- There are enough failures to disable the instance. -/
def exceeds (key : String) : Bool :=
  decide (config.autoDisableThreshold ≤ monitor.failures key)

/-- The status that a check stores. -/
def healthOf (target : HealthTarget) (response : Response) (now errorRate : Rat) :
    ConnectorHealthStatus where
  connectorName := target.manifest.name
  instanceKey := target.instanceKey
  status := response.healthStatus
  lastCheck := now
  consecutiveFailures := monitor.failures target.instanceKey
  lastError := response.lastError
  errorRate5m := errorRate
  category := target.manifest.category

/-- `_check_one`, from the answer on. -/
def checkOne (target : HealthTarget) (response : Response) (now : Rat) (writes : Bool) : Monitor :=
  let key := target.instanceKey
  let counted := ((monitor.count key response).stamp key response now).prune key now
  match counted.errorRate config key with
  | none => { counted with checks := ⟨key, !response.healthy, false, none⟩ :: counted.checks }
  | some errorRate =>
      let health := counted.healthOf target response now errorRate
      if counted.exceeds config key then
        let after := counted.autoDisableInstance key writes
        { after with checks := ⟨key, !response.healthy, writes, some health⟩ :: after.checks }
      else { counted with checks := ⟨key, !response.healthy, false, some health⟩ :: counted.checks }

/-- A check of an instance is answered. -/
def answer (id : String) (response : Response) (now : Rat) (writes : Bool) : Monitor :=
  match monitor.inFlightOf id with
  | [] => monitor
  | target :: _ =>
      { monitor with inFlight := monitor.inFlight.filter fun other => other.instanceKey ≠ id }.checkOne
        config target response now writes

/-- The monitor after an event. -/
def step : Event → Monitor
  | .check id => monitor.check config id
  | .answer id response now writes => monitor.answer config id response now writes
  | .save row => { monitor with rows := monitor.rows.filter (fun other => other.id ≠ row.id) ++ [row] }
  | .delete id => { monitor with rows := monitor.rows.filter fun other => other.id ≠ id }

end Monitor

/-! ## The part of an instance -/

/-- What the monitor holds of an instance. -/
@[ext] structure View where
  rows : List ConnectorInstance
  inFlight : List HealthTarget
  failures : Option Nat
  stamps : Option (List Rat)
  history : List Check

/-- The part of an instance. -/
def Monitor.view (monitor : Monitor) (id : String) : View where
  rows := monitor.rowsOf id
  inFlight := monitor.inFlightOf id
  failures := monitor.failureCounts.find id
  stamps := monitor.errorTimestamps.find id
  history := monitor.history id

variable {config : Config} {monitor monitor' : Monitor} {id key : String} {response : Response}
  {now : Rat} {writes : Bool} {target : HealthTarget}

theorem filter_filter_ne {α : Type} (items : List α) (field : α → String) (hne : id ≠ key) :
    (items.filter fun item => field item ≠ key).filter (fun item => field item = id) =
      items.filter fun item => field item = id := by
  rw [List.filter_filter]
  refine List.filter_congr fun item _ => ?_
  by_cases hitem : field item = id
  · simp [hitem, hne]
  · simp [hitem]

theorem filter_filter_self {α : Type} (items : List α) (field : α → String) :
    (items.filter fun item => field item ≠ key).filter (fun item => field item = key) = [] := by
  rw [List.filter_filter, List.filter_eq_nil_iff]
  intro item _ h
  simp at h

section Frames

theorem view_count_of_ne (hne : id ≠ key) : (monitor.count key response).view id = monitor.view id := by
  ext1 <;> try rfl
  show (monitor.failureCounts.put key _).find id = _
  rw [Assoc.find_put, if_neg (Ne.symm hne)]
  rfl

theorem view_stamp_of_ne (hne : id ≠ key) :
    (monitor.stamp key response now).view id = monitor.view id := by
  unfold Monitor.stamp
  split
  · rfl
  · ext1 <;> try rfl
    show (monitor.errorTimestamps.put key _).find id = _
    rw [Assoc.find_put, if_neg (Ne.symm hne)]
    rfl

theorem view_prune_of_ne (hne : id ≠ key) : (monitor.prune key now).view id = monitor.view id := by
  unfold Monitor.prune
  split
  · rfl
  · ext1 <;> try rfl
    show (monitor.errorTimestamps.put key _).find id = _
    rw [Assoc.find_put, if_neg (Ne.symm hne)]
    rfl

theorem view_log_of_ne {check : Check} (hne : id ≠ check.instanceKey) :
    { monitor with checks := check :: monitor.checks }.view id = monitor.view id := by
  ext1 <;> try rfl
  show (check :: monitor.checks).filter (fun check => check.instanceKey = id) = _
  rw [List.filter_cons_of_neg fun hkey => hne (of_decide_eq_true hkey).symm]
  rfl

theorem rowsOf_disable_of_ne (hne : id ≠ key) :
    (monitor.autoDisableInstance key true).rowsOf id = monitor.rowsOf id := by
  show (monitor.rows.map _).filter _ = monitor.rows.filter _
  induction monitor.rows with
  | nil => rfl
  | cons row rest ih =>
      rw [List.map_cons, List.filter_cons, List.filter_cons, ih]
      by_cases hrow : row.id = key
      · have hother : row.id ≠ id := hrow ▸ Ne.symm hne
        simp [hrow, Ne.symm hne]
      · simp [hrow]

theorem view_disable_of_ne (hne : id ≠ key) :
    (monitor.autoDisableInstance key writes).view id = monitor.view id := by
  cases writes with
  | false => rfl
  | true =>
      ext1
      · exact rowsOf_disable_of_ne hne
      · rfl
      · show (monitor.failureCounts.put key 0).find id = _
        rw [Assoc.find_put, if_neg (Ne.symm hne)]
        rfl
      · rfl
      · rfl

theorem view_checkOne_of_ne (hne : id ≠ target.instanceKey) :
    (monitor.checkOne config target response now writes).view id = monitor.view id := by
  have hcounted : (((monitor.count target.instanceKey response).stamp target.instanceKey response
      now).prune target.instanceKey now).view id = monitor.view id := by
    rw [view_prune_of_ne hne, view_stamp_of_ne hne, view_count_of_ne hne]
  unfold Monitor.checkOne
  dsimp only
  split
  · rw [view_log_of_ne hne, hcounted]
  · split
    · rw [view_log_of_ne hne, view_disable_of_ne hne, hcounted]
    · rw [view_log_of_ne hne, hcounted]

/-! What they do to the instance of the key. -/

theorem view_count_self (monitor : Monitor) (key : String) (response : Response) :
    (monitor.count key response).view key =
      { monitor.view key with
        failures := some (if response.healthy then 0 else (monitor.view key).failures.getD 0 + 1) } := by
  ext1 <;> try rfl
  show (monitor.failureCounts.put key _).find key = _
  rw [Assoc.find_put, if_pos rfl]
  rfl

theorem view_stamp_self (monitor : Monitor) (key : String) (response : Response) (now : Rat) :
    (monitor.stamp key response now).view key =
      if response.healthy then monitor.view key
      else
        { monitor.view key with
          stamps := some ((monitor.view key).stamps.getD [] ++ [now]) } := by
  unfold Monitor.stamp
  split
  · rfl
  · ext1 <;> try rfl
    show (monitor.errorTimestamps.put key _).find key = _
    rw [Assoc.find_put, if_pos rfl]
    rfl

theorem view_prune_self (monitor : Monitor) (key : String) (now : Rat) :
    (monitor.prune key now).view key =
      { monitor.view key with
        stamps := (monitor.view key).stamps.map fun stamps =>
          stamps.filter fun stamp => now - 300 < stamp } := by
  unfold Monitor.prune
  cases hstamps : monitor.errorTimestamps.find key with
  | none =>
      ext1 <;> try rfl
      show monitor.errorTimestamps.find key = (monitor.errorTimestamps.find key).map _
      rw [hstamps]
      rfl
  | some stamps =>
      ext1 <;> try rfl
      show (monitor.errorTimestamps.put key _).find key = (monitor.errorTimestamps.find key).map _
      rw [Assoc.find_put, if_pos rfl, hstamps]
      rfl

theorem rowsOf_disable_self :
    (monitor.autoDisableInstance key true).rowsOf key =
      (monitor.rowsOf key).map fun row => { row with isEnabled := false } := by
  show (monitor.rows.map _).filter _ = (monitor.rows.filter _).map _
  induction monitor.rows with
  | nil => rfl
  | cons row rest ih =>
      rw [List.map_cons, List.filter_cons, List.filter_cons, ih]
      by_cases hrow : row.id = key
      · simp [hrow]
      · simp [hrow]

theorem view_disable_self (monitor : Monitor) (key : String) (writes : Bool) :
    (monitor.autoDisableInstance key writes).view key =
      if writes then
        { monitor.view key with
          rows := (monitor.view key).rows.map fun row => { row with isEnabled := false }
          failures := some 0 }
      else monitor.view key := by
  cases writes with
  | false => rfl
  | true =>
      ext1
      · exact rowsOf_disable_self
      · rfl
      · show (monitor.failureCounts.put key 0).find key = _
        rw [Assoc.find_put, if_pos rfl]
        rfl
      · rfl
      · rfl

theorem view_log_self (monitor : Monitor) (check : Check) :
    { monitor with checks := check :: monitor.checks }.view check.instanceKey =
      { monitor.view check.instanceKey with
        history := check :: (monitor.view check.instanceKey).history } := by
  ext1 <;> try rfl
  show (check :: monitor.checks).filter (fun other => other.instanceKey = check.instanceKey) = _
  rw [List.filter_cons_of_pos (by simp)]
  rfl

theorem view_checkOne_congr (h : monitor.view target.instanceKey = monitor'.view target.instanceKey) :
    (monitor.checkOne config target response now writes).view target.instanceKey =
      (monitor'.checkOne config target response now writes).view target.instanceKey := by
  have hcounted : (((monitor.count target.instanceKey response).stamp target.instanceKey response
        now).prune target.instanceKey now).view target.instanceKey =
      (((monitor'.count target.instanceKey response).stamp target.instanceKey response
        now).prune target.instanceKey now).view target.instanceKey := by
    rw [view_prune_self, view_prune_self, view_stamp_self, view_stamp_self, view_count_self,
      view_count_self, h]
  unfold Monitor.checkOne
  dsimp only
  generalize ((monitor.count target.instanceKey response).stamp target.instanceKey response
    now).prune target.instanceKey now = counted at hcounted
  generalize ((monitor'.count target.instanceKey response).stamp target.instanceKey response
    now).prune target.instanceKey now = counted' at hcounted
  have hfailures : counted.failures target.instanceKey = counted'.failures target.instanceKey :=
    congrArg (fun view : View => view.failures.getD 0) hcounted
  have hrate : counted.errorRate config target.instanceKey =
      counted'.errorRate config target.instanceKey := by
    have hstamps := congrArg View.stamps hcounted
    replace hstamps : counted.errorTimestamps.find target.instanceKey =
      counted'.errorTimestamps.find target.instanceKey := hstamps
    unfold Monitor.errorRate
    rw [hstamps]
  have hexceeds : counted.exceeds config target.instanceKey =
      counted'.exceeds config target.instanceKey := by
    unfold Monitor.exceeds
    rw [hfailures]
  have hhealth : ∀ errorRate, counted.healthOf target response now errorRate =
      counted'.healthOf target response now errorRate := by
    intro errorRate
    unfold Monitor.healthOf
    rw [hfailures]
  rw [hrate, hexceeds]
  simp only [hhealth]
  split
  · rw [view_log_self, view_log_self, hcounted]
  · split
    · rw [view_log_self, view_log_self, view_disable_self, view_disable_self, hcounted]
    · rw [view_log_self, view_log_self, hcounted]

end Frames

/-! ## Isolation -/

variable {row : ConnectorInstance}

theorem targetOf_key {registry : ConnectorRegistry}
    (h : targetOf registry row = .ok (some target)) : target.instanceKey = row.id := by
  unfold targetOf at h
  cases hresolved : registry.getByNameVersion row.connectorName (some row.connectorVersion) with
  | error message =>
      rw [hresolved] at h
      cases h
  | ok manifest =>
      rw [hresolved] at h
      obtain ⟨_, -, rfl⟩ := Option.map_eq_some_iff.mp (Except.ok.inj h)
      rfl

theorem check_cases (config : Config) (monitor : Monitor) (id : String) :
    monitor.check config id = monitor ∨
      ∃ target, target.instanceKey = id ∧
        monitor.check config id = { monitor with inFlight := monitor.inFlight ++ [target] } := by
  unfold Monitor.check
  split
  · next row hrow _ =>
    split
    · next target htarget =>
      refine .inr ⟨target, ?_, rfl⟩
      have hmem := List.mem_filter.mp (List.mem_of_find?_eq_some hrow)
      rw [targetOf_key htarget]
      exact of_decide_eq_true hmem.2
    · exact .inl rfl
  · exact .inl rfl

theorem answer_cases (config : Config) (monitor : Monitor) (id : String) (response : Response)
    (now : Rat) (writes : Bool) :
    (monitor.inFlightOf id = [] ∧ monitor.answer config id response now writes = monitor) ∨
      ∃ target rest, monitor.inFlightOf id = target :: rest ∧ target.instanceKey = id ∧
        monitor.answer config id response now writes =
          { monitor with
            inFlight := monitor.inFlight.filter fun other => other.instanceKey ≠ id }.checkOne config
              target response now writes := by
  unfold Monitor.answer
  cases htargets : monitor.inFlightOf id with
  | nil => exact .inl ⟨rfl, rfl⟩
  | cons target rest =>
      have hmem : target ∈ monitor.inFlightOf id := by
        rw [htargets]
        exact List.mem_cons_self
      exact .inr ⟨target, rest, rfl, of_decide_eq_true (List.mem_filter.mp hmem).2, rfl⟩

theorem view_step_of_ne (config : Config) (monitor : Monitor) {event : Event} (hne : id ≠ event.id) :
    (monitor.step config event).view id = monitor.view id := by
  cases event with
  | check other =>
      obtain hsame | ⟨target, rfl, hcheck⟩ := check_cases config monitor other
      · exact congrArg (Monitor.view · id) hsame
      · show (monitor.check config target.instanceKey).view id = _
        rw [hcheck]
        ext1 <;> try rfl
        show (monitor.inFlight ++ [target]).filter (fun other => other.instanceKey = id) = _
        rw [List.filter_append, List.filter_cons_of_neg fun hkey =>
          hne (of_decide_eq_true hkey).symm]
        exact List.append_nil _
  | answer other response now writes =>
      obtain ⟨-, hsame⟩ | ⟨target, rest, -, rfl, hanswer⟩ :=
        answer_cases config monitor other response now writes
      · exact congrArg (Monitor.view · id) hsame
      · show (monitor.answer config target.instanceKey response now writes).view id = _
        rw [hanswer, view_checkOne_of_ne hne]
        ext1 <;> try rfl
        exact filter_filter_ne monitor.inFlight HealthTarget.instanceKey hne
  | save row =>
      replace hne : id ≠ row.id := hne
      ext1 <;> try rfl
      show (monitor.rows.filter (fun other => other.id ≠ row.id) ++ [row]).filter
        (fun other => other.id = id) = _
      rw [List.filter_append, List.filter_cons_of_neg fun hid => hne (of_decide_eq_true hid).symm,
        filter_filter_ne monitor.rows ConnectorInstance.id hne]
      exact List.append_nil _
  | delete other =>
      ext1 <;> try rfl
      exact filter_filter_ne monitor.rows ConnectorInstance.id hne

theorem view_begin (monitor : Monitor) (target : HealthTarget) (id : String) :
    { monitor with inFlight := monitor.inFlight ++ [target] }.view id =
      { monitor.view id with
        inFlight := (monitor.view id).inFlight ++
          [target].filter fun target => target.instanceKey = id } := by
  ext1 <;> try rfl
  exact List.filter_append _ _

theorem view_check_congr (h : monitor.view id = monitor'.view id) :
    (monitor.check config id).view id = (monitor'.check config id).view id := by
  have hrows : monitor.rowsOf id = monitor'.rowsOf id := congrArg View.rows h
  have hflight : monitor.inFlightOf id = monitor'.inFlightOf id := congrArg View.inFlight h
  unfold Monitor.check
  rw [hrows, hflight]
  split
  · split
    · next target _ => rw [view_begin monitor target id, view_begin monitor' target id, h]
    · exact h
  · exact h

theorem view_answer_congr (h : monitor.view id = monitor'.view id) :
    (monitor.answer config id response now writes).view id =
      (monitor'.answer config id response now writes).view id := by
  obtain ⟨hrows, hflight, hfailures, hstamps, hhistory⟩ := View.ext_iff.mp h
  replace hflight : monitor.inFlightOf id = monitor'.inFlightOf id := hflight
  obtain ⟨hnone, hsame⟩ | ⟨target, rest, hsome, rfl, hanswer⟩ :=
    answer_cases config monitor id response now writes
  · obtain ⟨-, hsame'⟩ | ⟨target, rest, hsome, -⟩ :=
      answer_cases config monitor' id response now writes
    · rw [hsame, hsame']
      exact h
    · rw [← hflight, hnone] at hsome
      cases hsome
  · obtain ⟨hnone, -⟩ | ⟨target', rest', hsome', -, hanswer'⟩ :=
      answer_cases config monitor' target.instanceKey response now writes
    · rw [← hflight, hsome] at hnone
      cases hnone
    · -- Both answer the same target, which waits no longer.
      rw [← hflight, hsome] at hsome'
      obtain ⟨rfl, -⟩ := List.cons.inj hsome'
      rw [hanswer, hanswer']
      refine view_checkOne_congr ?_
      ext1
      · exact hrows
      · show (monitor.inFlight.filter _).filter _ = (monitor'.inFlight.filter _).filter _
        rw [filter_filter_self, filter_filter_self]
      · exact hfailures
      · exact hstamps
      · exact hhistory

theorem view_step_congr {event : Event} (h : monitor.view event.id = monitor'.view event.id) :
    (monitor.step config event).view event.id = (monitor'.step config event).view event.id := by
  obtain ⟨-, hflight, hfailures, hstamps, hhistory⟩ := View.ext_iff.mp h
  cases event with
  | check id => exact view_check_congr h
  | answer id response now writes => exact view_answer_congr h
  | save row =>
      ext1
      · show (monitor.rows.filter (fun other => other.id ≠ row.id) ++ [row]).filter
          (fun other => other.id = row.id) =
            (monitor'.rows.filter (fun other => other.id ≠ row.id) ++ [row]).filter
              (fun other => other.id = row.id)
        rw [List.filter_append, List.filter_append, filter_filter_self monitor.rows,
          filter_filter_self monitor'.rows]
      · exact hflight
      · exact hfailures
      · exact hstamps
      · exact hhistory
  | delete id =>
      ext1
      · exact (filter_filter_self monitor.rows ConnectorInstance.id).trans
          (filter_filter_self monitor'.rows ConnectorInstance.id).symm
      · exact hflight
      · exact hfailures
      · exact hstamps
      · exact hhistory

theorem view_foldl_congr (events : List Event) (h : monitor.view id = monitor'.view id) :
    (events.foldl (Monitor.step config) monitor).view id =
      (events.foldl (Monitor.step config) monitor').view id := by
  induction events generalizing monitor monitor' with
  | nil => exact h
  | cons event rest ih =>
      refine ih ?_
      by_cases hid : id = event.id
      · subst hid
        exact view_step_congr h
      · rw [view_step_of_ne _ _ hid, view_step_of_ne _ _ hid, h]

theorem view_foldl_filter (events : List Event) :
    (events.foldl (Monitor.step config) monitor).view id =
      ((events.filter fun event => event.id = id).foldl (Monitor.step config) monitor).view id := by
  induction events generalizing monitor with
  | nil => rfl
  | cons event rest ih =>
      by_cases hid : event.id = id
      · rw [List.filter_cons, if_pos (decide_eq_true hid)]
        exact ih
      · rw [List.filter_cons, if_neg fun h => hid (of_decide_eq_true h), ← ih]
        exact view_foldl_congr rest (view_step_of_ne _ _ (Ne.symm hid))

/-! ## Failures in a row -/

/-- How many of the last checks have failed without a good one. -/
def failing (checks : List Check) : Nat := (checks.takeWhile (·.failed)).length

/-- How many have failed since the instance was disabled, too. -/
def streak (checks : List Check) : Nat :=
  (checks.takeWhile fun check => check.failed && !check.disabled).length

/-- The last check, and those since the one before it that has disabled the instance. -/
def sinceDisabled : List Check → List Check
  | [] => []
  | check :: rest => check :: rest.takeWhile (!·.disabled)

/-- If an answer disables an instance, then the last `auto_disable_threshold` checks of the instance
have failed. -/
def Monitor.Sound (config : Config) (monitor : Monitor) (event : Event) : Prop :=
  match event with
  | .answer _ _ _ _ => ∀ id, monitor.Enabled id → ¬ (monitor.step config event).Enabled id →
      config.autoDisableThreshold ≤ failing ((monitor.step config event).history id)
  | _ => True

/-- When a check of an instance is answered whose last `auto_disable_threshold` checks `recent` have
failed, the instance is disabled, unless the write fails. -/
def Monitor.CompleteFor (recent : List Check → List Check) (config : Config) (monitor : Monitor)
    (event : Event) : Prop :=
  match event with
  | .answer id _ _ writes => monitor.inFlightOf id ≠ [] →
      config.autoDisableThreshold ≤ failing (recent ((monitor.step config event).history id)) →
      writes = true → ¬ (monitor.step config event).Enabled id
  | _ => True

/-- The failures that are counted are those of the last checks. -/
def Counted (monitor : Monitor) : Prop :=
  ∀ id, monitor.failures id = streak (monitor.history id)

/-- The failures in a row after an answer. -/
def Monitor.consecutive (monitor : Monitor) (key : String) (response : Response) : Nat :=
  if response.healthy then 0 else monitor.failures key + 1

theorem counted_spec (monitor : Monitor) (key : String) (response : Response) (now : Rat) :
    (((monitor.count key response).stamp key response now).prune key now).rowsOf key =
        monitor.rowsOf key ∧
      (((monitor.count key response).stamp key response now).prune key now).failures key =
        monitor.consecutive key response ∧
      (((monitor.count key response).stamp key response now).prune key now).history key =
        monitor.history key := by
  have hprune := view_prune_self ((monitor.count key response).stamp key response now) key now
  have hcount := view_count_self monitor key response
  have hstamped : ((monitor.count key response).stamp key response now).rowsOf key =
        monitor.rowsOf key ∧
      ((monitor.count key response).stamp key response now).failures key =
        monitor.consecutive key response ∧
      ((monitor.count key response).stamp key response now).history key = monitor.history key := by
    have hfailures : (monitor.count key response).failures key = monitor.consecutive key response :=
      congrArg (fun view : View => view.failures.getD 0) hcount
    unfold Monitor.stamp
    split
    · exact ⟨rfl, hfailures, rfl⟩
    · exact ⟨rfl, hfailures, rfl⟩
  exact ⟨(congrArg View.rows hprune).trans hstamped.1,
    (congrArg (fun view : View => view.failures.getD 0) hprune).trans hstamped.2.1,
    (congrArg View.history hprune).trans hstamped.2.2⟩

theorem errorRate_eq_none : monitor.errorRate config key = none ↔ config.checkInterval = 0 := by
  unfold Monitor.errorRate
  split
  · next hzero => exact iff_of_true rfl hzero
  · next hzero => exact iff_of_false (Option.some_ne_none _) hzero

theorem history_log (monitor : Monitor) {check : Check} (hkey : check.instanceKey = key) :
    { monitor with checks := check :: monitor.checks }.history key = check :: monitor.history key := by
  subst hkey
  exact congrArg View.history (view_log_self monitor check)

theorem autoDisable_spec (monitor : Monitor) (key : String) (writes : Bool) :
    (monitor.autoDisableInstance key writes).history key = monitor.history key ∧
      (monitor.autoDisableInstance key writes).failures key =
        (if writes then 0 else monitor.failures key) ∧
      (monitor.autoDisableInstance key writes).rowsOf key =
        if writes then (monitor.rowsOf key).map fun row => { row with isEnabled := false }
        else monitor.rowsOf key := by
  cases writes with
  | false => exact ⟨rfl, rfl, rfl⟩
  | true =>
      refine ⟨rfl, ?_, rowsOf_disable_self⟩
      exact congrArg (fun view : View => view.failures.getD 0) (view_disable_self monitor key true)

/-- What a check does to its instance. -/
theorem checkOne_spec (config : Config) (monitor : Monitor) (target : HealthTarget)
    (response : Response) (now : Rat) (writes : Bool) :
    ∃ check : Check,
      check.failed = !response.healthy ∧
      (monitor.checkOne config target response now writes).history target.instanceKey =
        check :: monitor.history target.instanceKey ∧
      (monitor.checkOne config target response now writes).failures target.instanceKey =
        (if check.disabled then 0 else monitor.consecutive target.instanceKey response) ∧
      (monitor.checkOne config target response now writes).rowsOf target.instanceKey =
        (if check.disabled then
          (monitor.rowsOf target.instanceKey).map fun row => { row with isEnabled := false }
        else monitor.rowsOf target.instanceKey) ∧
      (check.disabled = true ↔ config.checkInterval ≠ 0 ∧ writes = true ∧
        config.autoDisableThreshold ≤ monitor.consecutive target.instanceKey response) := by
  obtain ⟨hrows, hfailures, hhistory⟩ := counted_spec monitor target.instanceKey response now
  unfold Monitor.checkOne
  dsimp only
  generalize ((monitor.count target.instanceKey response).stamp target.instanceKey response
    now).prune target.instanceKey now = counted at hrows hfailures hhistory
  split
  · next hrate =>
    -- The error rate raises, and nothing is disabled.
    have hinterval := errorRate_eq_none.mp hrate
    refine ⟨⟨target.instanceKey, !response.healthy, false, none⟩, rfl, ?_, hfailures, hrows,
      by simp [hinterval]⟩
    rw [history_log counted rfl, hhistory]
  · next rate hrate =>
    have hinterval : config.checkInterval ≠ 0 := fun hzero => by
      rw [errorRate_eq_none.mpr hzero] at hrate
      cases hrate
    have hexceeds : counted.exceeds config target.instanceKey = true ↔
        config.autoDisableThreshold ≤ monitor.consecutive target.instanceKey response := by
      unfold Monitor.exceeds
      rw [hfailures]
      exact decide_eq_true_iff
    split
    · next henough =>
      have hthreshold := hexceeds.mp henough
      obtain ⟨hlog, hcount, hdisabled⟩ := autoDisable_spec counted target.instanceKey writes
      rw [hhistory] at hlog
      rw [hfailures] at hcount
      rw [hrows] at hdisabled
      refine ⟨⟨target.instanceKey, !response.healthy, writes,
        some (counted.healthOf target response now rate)⟩, rfl, ?_, hcount, hdisabled,
        by simp [hinterval, hthreshold]⟩
      rw [history_log _ rfl, hlog]
    · next hfew =>
      have hthreshold : ¬ config.autoDisableThreshold ≤
          monitor.consecutive target.instanceKey response := fun h => hfew (hexceeds.mpr h)
      refine ⟨⟨target.instanceKey, !response.healthy, false,
        some (counted.healthOf target response now rate)⟩, rfl, ?_, hfailures, hrows,
        by simp [hthreshold]⟩
      rw [history_log counted rfl, hhistory]

theorem answer_spec (config : Config) (response : Response) (now : Rat) (writes : Bool)
    (h : monitor.inFlightOf id ≠ []) :
    ∃ check : Check,
      check.failed = !response.healthy ∧
      (monitor.answer config id response now writes).history id = check :: monitor.history id ∧
      (monitor.answer config id response now writes).failures id =
        (if check.disabled then 0 else monitor.consecutive id response) ∧
      (monitor.answer config id response now writes).rowsOf id =
        (if check.disabled then (monitor.rowsOf id).map fun row => { row with isEnabled := false }
        else monitor.rowsOf id) ∧
      (check.disabled = true ↔ config.checkInterval ≠ 0 ∧ writes = true ∧
        config.autoDisableThreshold ≤ monitor.consecutive id response) := by
  obtain ⟨hnone, -⟩ | ⟨target, rest, -, rfl, hanswer⟩ :=
    answer_cases config monitor id response now writes
  · exact absurd hnone h
  · rw [hanswer]
    exact checkOne_spec config
      { monitor with inFlight := monitor.inFlight.filter fun other =>
          other.instanceKey ≠ target.instanceKey } target response now writes

theorem step_counts (config : Config) {event : Event}
    (h : ∀ id response now writes, event = .answer id response now writes → monitor.inFlightOf id = []) :
    (monitor.step config event).failureCounts = monitor.failureCounts ∧
      (monitor.step config event).checks = monitor.checks := by
  cases event with
  | check id =>
      obtain hsame | ⟨target, -, hcheck⟩ := check_cases config monitor id
      · exact ⟨congrArg Monitor.failureCounts hsame, congrArg Monitor.checks hsame⟩
      · show (monitor.check config id).failureCounts = _ ∧ (monitor.check config id).checks = _
        rw [hcheck]
        exact ⟨rfl, rfl⟩
  | answer id response now writes =>
      obtain ⟨-, hsame⟩ | ⟨target, rest, hsome, -⟩ :=
        answer_cases config monitor id response now writes
      · exact ⟨congrArg Monitor.failureCounts hsame, congrArg Monitor.checks hsame⟩
      · rw [h id response now writes rfl] at hsome
        cases hsome
  | save row => exact ⟨rfl, rfl⟩
  | delete id => exact ⟨rfl, rfl⟩

theorem failing_takeWhile (checks : List Check) :
    failing (checks.takeWhile (!·.disabled)) = streak checks := by
  unfold failing streak
  rw [List.takeWhile_takeWhile]
  simp

theorem streak_le_failing (checks : List Check) : streak checks ≤ failing checks := by
  unfold failing streak
  induction checks with
  | nil => exact le_refl _
  | cons check rest ih =>
      rw [List.takeWhile_cons, List.takeWhile_cons]
      cases check.failed with
      | false => exact le_refl _
      | true =>
          cases check.disabled with
          | false => exact Nat.succ_le_succ ih
          | true => exact Nat.zero_le _

theorem Counted.consecutive_eq (h : Counted monitor) (id : String) {check : Check}
    (hfailed : check.failed = !response.healthy) :
    monitor.consecutive id response = failing (sinceDisabled (check :: monitor.history id)) := by
  unfold Monitor.consecutive sinceDisabled
  cases hhealthy : response.healthy with
  | true =>
      rw [hhealthy] at hfailed
      show 0 = ((check :: _).takeWhile (·.failed)).length
      rw [List.takeWhile_cons, hfailed]
      rfl
  | false =>
      rw [hhealthy] at hfailed
      show monitor.failures id + 1 = ((check :: _).takeWhile (·.failed)).length
      rw [List.takeWhile_cons, hfailed, h id, ← failing_takeWhile]
      rfl

theorem Counted.consecutive_le (h : Counted monitor) (id : String) {check : Check}
    (hfailed : check.failed = !response.healthy) :
    monitor.consecutive id response ≤ failing (check :: monitor.history id) := by
  unfold Monitor.consecutive
  cases hhealthy : response.healthy with
  | true => exact Nat.zero_le _
  | false =>
      rw [hhealthy] at hfailed
      show monitor.failures id + 1 ≤ ((check :: _).takeWhile (·.failed)).length
      rw [List.takeWhile_cons, hfailed, h id]
      exact Nat.succ_le_succ (streak_le_failing _)

theorem Counted.step (h : Counted monitor) (event : Event) : Counted (monitor.step config event) := by
  intro id
  by_cases hother : id = event.id
  · by_cases hanswer : ∃ response now writes, event = .answer id response now writes ∧
        monitor.inFlightOf id ≠ []
    · obtain ⟨response, now, writes, rfl, hflight⟩ := hanswer
      obtain ⟨check, hfailed, hhistory, hfailures, -, -⟩ := answer_spec config response now
        writes hflight
      show (monitor.answer config id response now writes).failures id =
        streak ((monitor.answer config id response now writes).history id)
      rw [hhistory, hfailures]
      unfold streak
      rw [List.takeWhile_cons, hfailed]
      cases check.disabled with
      | true => simp
      | false =>
          unfold Monitor.consecutive
          cases response.healthy with
          | true => rfl
          | false => exact congrArg Nat.succ (h id)
    · have hunanswered : ∀ other response now writes, event = .answer other response now writes →
          monitor.inFlightOf other = [] := by
        rintro other response now writes rfl
        by_contra hflight
        obtain rfl : id = other := hother
        exact hanswer ⟨response, now, writes, rfl, hflight⟩
      obtain ⟨hcounts, hchecks⟩ := step_counts config hunanswered
      unfold Monitor.failures Monitor.history
      rw [hcounts, hchecks]
      exact h id
  · have hview := view_step_of_ne config monitor hother
    have hfailures : (monitor.step config event).failures id = monitor.failures id :=
      congrArg (fun view : View => view.failures.getD 0) hview
    have hhistory : (monitor.step config event).history id = monitor.history id :=
      congrArg View.history hview
    rw [hfailures, hhistory]
    exact h id

theorem not_enabled_of_disabled {rows : List ConnectorInstance}
    (h : monitor.rowsOf id = rows.map fun row => { row with isEnabled := false }) :
    ¬ monitor.Enabled id := by
  rintro ⟨row, hmem, henabled⟩
  rw [h] at hmem
  obtain ⟨before, -, rfl⟩ := List.mem_map.mp hmem
  cases henabled

theorem enabled_of_rowsOf_eq (h : monitor.rowsOf id = monitor'.rowsOf id) (henabled : monitor'.Enabled id) :
    monitor.Enabled id := by
  obtain ⟨row, hmem, hrow⟩ := henabled
  exact ⟨row, h ▸ hmem, hrow⟩

theorem Counted.sound (h : Counted monitor) (event : Event) : monitor.Sound config event := by
  cases event with
  | check id => exact trivial
  | save row => exact trivial
  | delete id => exact trivial
  | answer other response now writes =>
      intro id henabled hdisabled
      by_cases hother : id = other
      · subst hother
        by_cases hflight : monitor.inFlightOf id = []
        · -- Nobody waits for the answer.
          obtain ⟨-, hsame⟩ | ⟨target, rest, hsome, -⟩ :=
            answer_cases config monitor id response now writes
          · exact absurd (enabled_of_rowsOf_eq (congrArg (Monitor.rowsOf · id) hsame) henabled) hdisabled
          · rw [hflight] at hsome
            cases hsome
        · obtain ⟨check, hfailed, hhistory, -, hrows, hcheck⟩ := answer_spec config
            response now writes hflight
          cases hwritten : check.disabled with
          | false =>
              rw [hwritten] at hrows
              exact absurd (enabled_of_rowsOf_eq hrows henabled) hdisabled
          | true =>
              have henough := (hcheck.mp hwritten).2.2
              have hle := h.consecutive_le id hfailed
              show config.autoDisableThreshold ≤
                failing ((monitor.answer config id response now writes).history id)
              rw [hhistory]
              omega
      · have hview := view_step_of_ne config monitor
          (show id ≠ (Event.answer other response now writes).id from hother)
        exact absurd (enabled_of_rowsOf_eq (congrArg View.rows hview) henabled) hdisabled

theorem Counted.complete (h : Counted monitor) (hinterval : config.checkInterval ≠ 0) (event : Event) :
    monitor.CompleteFor sinceDisabled config event := by
  cases event with
  | check id => exact trivial
  | save row => exact trivial
  | delete id => exact trivial
  | answer id response now writes =>
      intro hflight henough hwrites
      obtain ⟨check, hfailed, hhistory, -, hrows, hcheck⟩ := answer_spec config response now
        writes hflight
      replace henough : config.autoDisableThreshold ≤
          failing (sinceDisabled ((monitor.answer config id response now writes).history id)) := henough
      rw [hhistory, ← h.consecutive_eq id hfailed] at henough
      rw [hcheck.mpr ⟨hinterval, hwrites, henough⟩, if_pos rfl] at hrows
      exact not_enabled_of_disabled hrows

/-! ## Runs -/

/-- For any sequence of checks, answers and changes by users, starting with any instances: an answer
disables an instance only if its last `auto_disable_threshold` checks have failed; when as many checks
have failed since the instance was disabled, it is disabled, unless the write fails; and what the
monitor holds of an instance depends on the events of this instance only. -/
theorem auto_disable_lawful (config : Config) (hinterval : config.checkInterval ≠ 0)
    (rows : List ConnectorInstance) (events : List Event) :
    Along (Monitor.step config)
        (fun monitor event => monitor.Sound config event ∧
          monitor.CompleteFor sinceDisabled config event) { rows } events ∧
      ∀ (id : String) (others : List ConnectorInstance) (otherEvents : List Event),
        (others.filter fun row => row.id = id) = (rows.filter fun row => row.id = id) →
        (otherEvents.filter fun event => event.id = id) = (events.filter fun event => event.id = id) →
        (otherEvents.foldl (Monitor.step config) { rows := others }).view id =
          (events.foldl (Monitor.step config) { rows }).view id := by
  constructor
  · have himp : ∀ monitor event, Counted monitor → monitor.Sound config event ∧
        monitor.CompleteFor sinceDisabled config event :=
      fun _ event h => ⟨h.sound event, h.complete hinterval event⟩
    have hcounted : Counted { rows } := fun _ => rfl
    exact along_of_invariant himp (fun _ event h => h.step event) hcounted events
  · intro id others otherEvents hrows hevents
    have hview : (Monitor.mk others [] [] [] []).view id = (Monitor.mk rows [] [] [] []).view id := by
      ext1 <;> try rfl
      exact hrows
    rw [view_foldl_filter, hevents, view_foldl_congr _ hview, ← view_foldl_filter]

/-- A connector that is installed. -/
def courierManifest : ConnectorManifest where
  name := "inpost"
  category := "courier"
  version := "1.0.0"

/-- An instance of it. -/
def courierInstance : ConnectorInstance where
  id := "instance"
  connectorName := "inpost"
  connectorVersion := "1.0.0"

/-- A monitor that disables an instance after two failures. -/
def courierConfig (checkInterval : Int) : Config where
  registry := ⟨asciiNumerals, [courierManifest]⟩
  checkInterval
  autoDisableThreshold := 2

/-- A check of the instance that fails. -/
def failedCheck (now : Rat) : List Event :=
  [.check "instance", .answer "instance" (.status 503) now true]

/-- The checks of one instance. -/
theorem courier_disabled_lawfully :
    Along (Monitor.step (courierConfig 30))
      (fun monitor event => monitor.Sound (courierConfig 30) event ∧
        monitor.CompleteFor sinceDisabled (courierConfig 30) event) { rows := [courierInstance] }
      (failedCheck 0 ++ failedCheck 30) :=
  (auto_disable_lawful (courierConfig 30) (by decide) [courierInstance] _).1

/-- An instance that is disabled and enabled again fails once more and stays enabled; and one whose
checks all fail stays enabled when the interval is zero. -/
theorem failing_stays_enabled :
    ¬ Along (Monitor.step (courierConfig 30))
        (Monitor.CompleteFor (fun checks => checks) (courierConfig 30)) { rows := [courierInstance] }
        (failedCheck 0 ++ failedCheck 30 ++ [.save courierInstance] ++ failedCheck 60) ∧
      ¬ Along (Monitor.step (courierConfig 0))
        (Monitor.CompleteFor (fun checks => checks) (courierConfig 0)) { rows := [courierInstance] }
        (failedCheck 0 ++ failedCheck 0) := by
  constructor
  · rintro ⟨-, -, -, -, -, -, hcomplete, -⟩
    exact hcomplete (by decide +kernel) (by decide +kernel) rfl
      ⟨courierInstance, by decide +kernel, rfl⟩
  · rintro ⟨-, -, -, hcomplete, -⟩
    exact hcomplete (by decide +kernel) (by decide +kernel) rfl
      ⟨courierInstance, by decide +kernel, rfl⟩

end Health

end IntegrationPlatform
