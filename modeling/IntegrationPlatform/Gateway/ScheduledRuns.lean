import IntegrationPlatform.Gateway.Routing
import IntegrationPlatform.Json.Fields
import Mathlib.Data.List.Nodup

/-!
# Runs of scheduled workflows

The jobs of the scheduler over requests and restarts. A rollback may leave a job with the schedule that the
workflow had before, but every job is one of a workflow that is stored and enabled (`jobs_backed`), and a
restart gives each workflow the job of its schedule again (`restart_runs`).
-/

namespace IntegrationPlatform

namespace Gateway

section ScheduledRuns

variable {Trigger : Type} (checkAllowedIps : Value → Except HttpError Unit) (cronTrigger : CronTrigger Trigger)

/-- `start` of a new scheduler, with the rows of the enabled workflows. -/
def Scheduler.start (rows : List (String × Workflow)) : Scheduler Trigger :=
  rows.foldl (fun scheduler row => scheduler.registerIfScheduled cronTrigger row.1 row.2)
    ⟨fun _ => none, fun _ => none⟩

/-- The rows are those of the enabled workflows, in any order. -/
structure System.Selects (system : System Trigger) (rows : List (String × Workflow)) : Prop where
  nodup : (rows.map Prod.fst).Nodup
  mem_iff : ∀ id workflow, (id, workflow) ∈ rows ↔
    system.workflows id = some workflow ∧ workflow.isEnabled = true

/-- What a job executes when it fires: the workflow as it is stored, with the cron expression that is noted. -/
def runScheduledWorkflow (system : System Trigger) (workflowId : String) : Option (Workflow × Value) :=
  match (system.workflows workflowId).filter (·.isEnabled) with
  | none => none
  -- Without a schedule `None.get` raises, which is logged.
  | some workflow => (getScheduleConfig workflow.nodes).map fun config =>
      (workflow, (config.find "cron").getD (.str ""))

/-- The states that requests and restarts of the gateway lead to. -/
inductive Reached : System Trigger → Prop where
  | initial : Reached .initial
  | request {system} (request : Request) : Reached system →
      Reached (request.after checkAllowedIps cronTrigger system)
  | restart {system} (rows : List (String × Workflow)) : Reached system → system.Selects rows →
      Reached { system with scheduler := .start cronTrigger rows }

theorem Reached.run (requests : List Request) :
    Reached checkAllowedIps cronTrigger (run checkAllowedIps cronTrigger requests) := by
  induction requests using List.reverseRecOn with
  | nil => exact .initial
  | append_singleton done request ih =>
      rw [run_snoc]
      exact .request request ih

/-- The job of a workflow is one that the workflow, as it is stored, is enabled for. -/
def System.Backs (system : System Trigger) (workflowId : String) (job : Job Trigger) : Prop :=
  ∃ workflow, system.workflows workflowId = some workflow ∧ workflow.isEnabled = true ∧
    job.args = (workflowId, workflow.tenantId)

/-- The scheduler runs one job at most for each workflow, and only jobs that are backed. -/
def System.Backed (system : System Trigger) : Prop :=
  ∃ jobOf, system.scheduler.Runs jobOf ∧
    ∀ workflowId job, jobOf workflowId = some job → system.Backs workflowId job

variable {checkAllowedIps cronTrigger} {system : System Trigger} {id : String} {workflow : Workflow}

theorem Workflow.job_args {job : Job Trigger} (h : workflow.job cronTrigger id = some job) :
    workflow.isEnabled = true ∧ job.args = (id, workflow.tenantId) := by
  obtain ⟨henabled, -, -, -, -, -, -, -, rfl⟩ := (Workflow.job_eq_some cronTrigger).mp h
  exact ⟨henabled, rfl⟩

theorem System.Backed.update (h : system.Backed) (row : Option Workflow) (job : Option (Job Trigger))
    {scheduler : Scheduler Trigger} (versions : String → List WorkflowVersion)
    (hruns : ∀ jobOf, system.scheduler.Runs jobOf → scheduler.Runs (Function.update jobOf id job))
    (hjob : ∀ job', job = some job' → ∃ workflow, row = some workflow ∧ workflow.isEnabled = true ∧
      job'.args = (id, workflow.tenantId)) :
    System.Backed { workflows := Function.update system.workflows id row, versions, scheduler } := by
  obtain ⟨jobOf, hold, hbacked⟩ := h
  refine ⟨_, hruns jobOf hold, fun workflowId job' hjob' => ?_⟩
  by_cases hid : workflowId = id
  · subst hid
    rw [Function.update_self] at hjob'
    obtain ⟨workflow, hrow, hargs⟩ := hjob job' hjob'
    exact ⟨workflow, (Function.update_self workflowId row system.workflows).trans hrow, hargs⟩
  · rw [Function.update_of_ne hid] at hjob'
    obtain ⟨workflow, hrow, hargs⟩ := hbacked workflowId job' hjob'
    exact ⟨workflow, (Function.update_of_ne hid row system.workflows).trans hrow, hargs⟩

theorem System.Backed.store (h : system.Backed) {tenant : Tenant}
    (hsame : ∀ old, system.workflows id = some old →
      workflow.isEnabled = old.isEnabled ∧ workflow.tenantId = old.tenantId) :
    (system.store tenant id workflow).Backed := by
  obtain ⟨jobOf, hruns, hbacked⟩ := h
  refine ⟨jobOf, hruns, fun workflowId job hjob => ?_⟩
  obtain ⟨old, hrow, henabled, hargs⟩ := hbacked workflowId job hjob
  by_cases hid : workflowId = id
  · subst hid
    obtain ⟨hsameEnabled, hsameTenant⟩ := hsame old hrow
    refine ⟨system.numbered workflowId workflow, Function.update_self .., ?_, ?_⟩
    · exact hsameEnabled.trans henabled
    · rw [hargs, ← hsameTenant]
      rfl
  · exact ⟨old, (Function.update_of_ne hid ..).trans hrow, henabled, hargs⟩

theorem System.Backed.register (h : system.Backed) (workflow : Workflow)
    (versions : String → List WorkflowVersion) :
    System.Backed
      { workflows := Function.update system.workflows id (some workflow)
        versions
        scheduler := system.scheduler.registerWorkflow cronTrigger id workflow } :=
  h.update (some workflow) (workflow.job cronTrigger id) versions (fun _ hruns => hruns.register workflow)
    fun _ hjob => ⟨workflow, rfl, Workflow.job_args hjob⟩

theorem System.Backed.after (h : system.Backed) (request : Request) :
    (request.after checkAllowedIps cronTrigger system).Backed := by
  unfold Request.after
  cases hafter : request.handle checkAllowedIps cronTrigger system with
  | error reply => exact h
  | ok after =>
      cases request with
      | create tenant id body =>
          obtain ⟨workflow, -, hstored⟩ := bind_eq_ok.mp hafter
          cases hrow : system.workflows id with
          | some _ => simp [hrow] at hstored
          | none =>
              simp only [hrow, Option.isSome_none, Bool.false_eq_true, if_false] at hstored
              cases Except.ok.inj hstored
              exact h.store fun old hold => by rw [hrow] at hold; cases hold
      | update tenant id body =>
          obtain ⟨workflow, -, hchanged⟩ := bind_eq_ok.mp hafter
          obtain ⟨changes, -, hstored⟩ := bind_eq_ok.mp hchanged
          cases Except.ok.inj hstored
          exact h.register _ _
      | rollback tenant id target =>
          have hrollback : rollbackWorkflowVersion tenant id target system = .ok after := hafter
          unfold rollbackWorkflowVersion at hrollback
          split at hrollback
          · next workflow version hworkflow _ =>
            cases Except.ok.inj hrollback
            refine h.store fun old hold => ?_
            obtain rfl : workflow = old := Option.some.inj (hworkflow.symm.trans hold)
            exact ⟨rfl, rfl⟩
          · cases hrollback
      | toggle tenant id =>
          obtain ⟨workflow, -, hstored⟩ := bind_eq_ok.mp hafter
          cases Except.ok.inj hstored
          exact h.register _ _
      | delete tenant id =>
          obtain ⟨workflow, -, hdeleted⟩ := bind_eq_ok.mp hafter
          cases Except.ok.inj hdeleted
          exact h.update none none _ (fun _ hruns => hruns.unregister id) fun _ hjob => nomatch hjob

/-! ## Restarts -/

/-- The jobs of some rows. -/
def jobIn (cronTrigger : CronTrigger Trigger) (rows : List (String × Workflow)) (id : String) :
    Option (Job Trigger) :=
  (rows.find? fun row => row.1 == id).bind fun row => row.2.job cronTrigger row.1

theorem runs_foldl {rows : List (String × Workflow)} (hnodup : (rows.map Prod.fst).Nodup)
    (henabled : ∀ row ∈ rows, row.2.isEnabled = true) {scheduler : Scheduler Trigger}
    {jobOf : String → Option (Job Trigger)} (h : scheduler.Runs jobOf)
    (hnone : ∀ row ∈ rows, jobOf row.1 = none) :
    (rows.foldl (fun scheduler row => scheduler.registerIfScheduled cronTrigger row.1 row.2) scheduler).Runs
      fun id => (jobIn cronTrigger rows id).or (jobOf id) := by
  induction rows generalizing scheduler jobOf with
  | nil => exact h
  | cons row rest ih =>
      rw [List.map_cons, List.nodup_cons] at hnodup
      have hregistered := h.registerIfScheduled cronTrigger (hnone row List.mem_cons_self) row.2
      have hrest := ih hnodup.2 (fun other hother => henabled other (List.mem_cons_of_mem _ hother))
        hregistered fun other hother => by
          rw [Function.update_of_ne]
          · exact hnone other (List.mem_cons_of_mem _ hother)
          · intro heq
            exact hnodup.1 (heq ▸ List.mem_map_of_mem hother)
      refine hrest.congr fun id => ?_
      have hjob : row.2.job cronTrigger row.1 =
          (scheduleOf cronTrigger row.2.nodes).map fun trigger => ⟨trigger, (row.1, row.2.tenantId)⟩ :=
        if_pos (henabled row List.mem_cons_self)
      unfold jobIn
      rw [List.find?_cons]
      by_cases hid : row.1 = id
      · subst hid
        -- No later row has this id.
        have hlater : rest.find? (fun other => other.1 == row.1) = none :=
          List.find?_eq_none.mpr fun other hother heq =>
            hnodup.1 (beq_iff_eq.mp heq ▸ List.mem_map_of_mem hother)
        rw [beq_self_eq_true, hlater, Function.update_self, hnone row List.mem_cons_self]
        show (row.2.job cronTrigger row.1).or none = _
        rw [hjob, Option.or_none]
        rfl
      · rw [beq_eq_false_iff_ne.mpr hid, Function.update_of_ne (Ne.symm hid)]

/-- After a restart, from whatever state, the scheduler runs the jobs of the enabled workflows with a schedule,
as they are stored, and no others. -/
theorem restart_runs (cronTrigger : CronTrigger Trigger) (system : System Trigger)
    (rows : List (String × Workflow)) (hrows : system.Selects rows) :
    (Scheduler.start cronTrigger rows).Runs (system.jobOf cronTrigger) := by
  have hnew : Scheduler.Runs (⟨fun _ => none, fun _ => none⟩ : Scheduler Trigger) fun _ => none :=
    (@System.routed_initial Trigger cronTrigger).runs.congr fun _ => rfl
  have henabled : ∀ row ∈ rows, row.2.isEnabled = true :=
    fun row hrow => ((hrows.mem_iff row.1 row.2).mp hrow).2
  have hruns : (Scheduler.start cronTrigger rows).Runs _ :=
    runs_foldl hrows.nodup henabled hnew fun _ _ => rfl
  refine hruns.congr fun id => ?_
  rw [Option.or_none, System.jobOf, jobIn]
  cases hfind : rows.find? fun row => row.1 == id with
  | some row =>
      obtain rfl : row.1 = id := by simpa using List.find?_some hfind
      rw [((hrows.mem_iff row.1 row.2).mp (List.mem_of_find?_eq_some hfind)).1]
      rfl
  | none =>
      cases hrow : system.workflows id with
      | none => rfl
      | some workflow =>
          -- A workflow that is not among the rows is not enabled.
          refine if_neg fun henabled => ?_
          have hmem := (hrows.mem_iff id workflow).mpr ⟨hrow, henabled⟩
          exact List.find?_eq_none.mp hfind _ hmem (beq_self_eq_true id)

/-- After any requests and restarts, every job of the scheduler is one of a workflow that is stored and
enabled, carries the id of this workflow and of its tenant, and is the only one that `_jobs` lists for it. When
it fires, the workflow is executed as it is stored, if that still has a schedule. -/
theorem jobs_backed (system : System Trigger) (hreached : Reached checkAllowedIps cronTrigger system) :
    (∀ jobId' job, system.scheduler.store jobId' = some job → ∃ workflowId workflow,
      jobId' = jobId workflowId ∧ job.args = (workflowId, workflow.tenantId) ∧
        system.workflows workflowId = some workflow ∧ workflow.isEnabled = true ∧
        runScheduledWorkflow system workflowId = (getScheduleConfig workflow.nodes).map fun config =>
          (workflow, (config.find "cron").getD (.str ""))) ∧
      ∀ workflowId jobId', system.scheduler.jobs workflowId = some jobId' ↔
        jobId' = jobId workflowId ∧ (system.scheduler.store jobId').isSome = true := by
  have hbacked : system.Backed := by
    induction hreached with
    | initial => exact ⟨_, (@System.routed_initial Trigger cronTrigger).runs, fun _ _ h => nomatch h⟩
    | request request _ ih => exact ih.after request
    | @restart before rows _ hrows _ =>
        refine ⟨_, restart_runs cronTrigger before rows hrows, fun workflowId job hjob => ?_⟩
        obtain ⟨workflow, hrow, hjob⟩ := Option.bind_eq_some_iff.mp hjob
        exact ⟨workflow, hrow, Workflow.job_args hjob⟩
  obtain ⟨jobOf, hruns, hbacks⟩ := hbacked
  constructor
  · intro jobId' job hstore
    obtain ⟨workflowId, hid, hjob⟩ := (hruns.store jobId' job).mp hstore
    obtain ⟨workflow, hrow, henabled, hargs⟩ := hbacks workflowId job hjob
    refine ⟨workflowId, workflow, hid, hargs, hrow, henabled, ?_⟩
    rw [runScheduledWorkflow, hrow, Option.filter_some, if_pos henabled]
  · intro workflowId jobId'
    rw [hruns.jobs workflowId jobId', Option.isSome_iff_exists]
    refine and_congr_right fun hid => exists_congr fun job => ?_
    rw [hruns.store jobId' job]
    constructor
    · exact fun hjob => ⟨workflowId, hid, hjob⟩
    · rintro ⟨workflowId', hid', hjob⟩
      rwa [jobId_injective (hid.symm.trans hid')]

end ScheduledRuns

end Gateway

namespace Sample

open Gateway

def workflowOf (nodes : List WorkflowNode) (isEnabled : Bool) : Gateway.Workflow where
  tenantId := "tenant"
  name := "workflow"
  isEnabled := isEnabled
  nodes := nodes

/-- Two enabled workflows with schedules, one without, and one that is disabled. -/
def workflows : Assoc Gateway.Workflow :=
  [("six", workflowOf [nightly "6"] true), ("manual", workflowOf [] true),
    ("seven", workflowOf [nightly "7"] true), ("off", workflowOf [nightly "8"] false)]

def unscheduled : System (List String) where
  workflows := workflows.find
  versions _ := []
  scheduler := ⟨fun _ => none, fun _ => none⟩

theorem selects_unscheduled : unscheduled.Selects (workflows.filter fun row => row.2.isEnabled) where
  nodup := by decide
  mem_iff id workflow := by
    rw [List.mem_filter]
    exact and_congr_left fun _ => ⟨Assoc.find_of_mem (by decide), Assoc.mem_of_find⟩

end Sample

theorem restart_runs_unscheduled :
    (Gateway.Scheduler.start Sample.cronFields
        (Sample.workflows.filter fun row => row.2.isEnabled)).Runs
      (Sample.unscheduled.jobOf Sample.cronFields) :=
  Gateway.restart_runs Sample.cronFields Sample.unscheduled _ Sample.selects_unscheduled

/-- The job that a rollback has left behind is still one of an enabled workflow. -/
theorem jobs_backed_rescheduled :
    ∃ workflow, (Gateway.run (fun _ => .ok ()) Sample.cronFields Sample.rescheduled).workflows "workflow" =
      some workflow ∧ workflow.isEnabled = true := by
  have hreached : Gateway.Reached (fun _ => .ok ()) Sample.cronFields
      (Gateway.run (fun _ => .ok ()) Sample.cronFields Sample.rescheduled) :=
    .run _ _ Sample.rescheduled
  have hjob : (Gateway.run (fun _ => .ok ()) Sample.cronFields Sample.rescheduled).scheduler.store
      "wf_schedule_workflow" = some ⟨["0", "7", "*", "*", "*"], ("workflow", "tenant")⟩ := rfl
  obtain ⟨workflowId, workflow, hid, -, hrow, henabled, -⟩ := (Gateway.jobs_backed _ hreached).1 _ _ hjob
  obtain rfl : "workflow" = workflowId := @Gateway.jobId_injective "workflow" workflowId hid
  exact ⟨workflow, hrow, henabled⟩

end IntegrationPlatform
