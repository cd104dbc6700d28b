import IntegrationPlatform.Gateway.Records

/-!
# The workflow scheduler

`WorkflowScheduler` keeps a job of the APScheduler for each workflow with a schedule, and a
dictionary of the ids of these jobs. `Runs` says which workflows have a job, and which one.
-/

namespace IntegrationPlatform

namespace Gateway

/-- Python's white space. -/
def isSpace (letter : Char) : Bool :=
  letter.toNat ∈ [0x20, 0x85, 0xa0, 0x1680, 0x2028, 0x2029, 0x202f, 0x205f, 0x3000] ||
    (0x9 ≤ letter.toNat && letter.toNat ≤ 0xd) || (0x1c ≤ letter.toNat && letter.toNat ≤ 0x1f) ||
    (0x2000 ≤ letter.toNat && letter.toNat ≤ 0x200a)

/-- The pieces of a text between its white space. -/
def splitSpaces : List Char → List (List Char)
  | [] => [[]]
  | letter :: rest =>
      if isSpace letter then [] :: splitSpaces rest
      else
        match splitSpaces rest with
        | [] => [[letter]]
        | piece :: pieces => (letter :: piece) :: pieces

/-- `text.split()`. -/
def splitWords (text : String) : List String :=
  ((splitSpaces text.toList).filter fun piece => !piece.isEmpty).map String.ofList

/-- `CronTrigger` of the APScheduler, which raises where its arguments are not valid. The time zone
comes last. -/
structure CronTrigger (Trigger : Type) where
  /-- `CronTrigger(minute, hour, day, month, day_of_week)`. -/
  ofFields : String → String → String → String → String → Value → Option Trigger
  fromCrontab : String → Value → Option Trigger

/-- A job of the APScheduler. -/
structure Job (Trigger : Type) where
  trigger : Trigger
  /-- The id of the workflow and of its tenant. -/
  args : String × String

/-- The scheduler: `_jobs`, and the jobs of the APScheduler by their ids. -/
structure Scheduler (Trigger : Type) where
  jobs : String → Option String
  store : String → Option (Job Trigger)

/-- `f"wf_schedule_{workflow.id}"`. -/
def jobId (workflowId : String) : String :=
  "wf_schedule_" ++ workflowId

theorem jobId_injective : Function.Injective jobId := by
  intro workflowId workflowId' h
  have hletters := congrArg String.toList h
  simp only [jobId, String.toList_append] at hletters
  exact String.toList_inj.mp (List.append_cancel_left hletters)

def getScheduleConfig (nodes : List WorkflowNode) : Option Dict :=
  (nodes.find? fun node => node.type == "trigger" &&
    ((node.config.find "trigger_type").getD .null).pyEq (.str "schedule")).map (·.config)

section Registration

variable {Trigger : Type} (cronTrigger : CronTrigger Trigger)

/-- The trigger of a cron expression. -/
def CronTrigger.ofText (text : String) (timezone : Value) : Option Trigger :=
  match splitWords text with
  | [minute, hour, day, month, dayOfWeek] =>
      cronTrigger.ofFields minute hour day month dayOfWeek timezone
  | _ => cronTrigger.fromCrontab text timezone

/-- The trigger of a schedule. An expression that is no text raises, as one that is not valid. -/
def scheduleTrigger (config : Dict) : Option Trigger :=
  let cron := (config.find "cron").getD (.str "")
  let timezone := (config.find "timezone").getD (.str "UTC")
  if cron.truthy then
    match cron with
    | .str text => cronTrigger.ofText text timezone
    | _ => none
  else none

/-- The trigger of the schedule of a workflow. -/
def scheduleOf (nodes : List WorkflowNode) : Option Trigger :=
  (getScheduleConfig nodes).bind (scheduleTrigger cronTrigger)

def Scheduler.unregisterWorkflow (scheduler : Scheduler Trigger) (workflowId : String) :
    Scheduler Trigger :=
  match scheduler.jobs workflowId with
  | none => scheduler
  | some job =>
      { jobs := Function.update scheduler.jobs workflowId none
        store := Function.update scheduler.store job none }

def Scheduler.registerIfScheduled (scheduler : Scheduler Trigger) (workflowId : String)
    (workflow : Workflow) : Scheduler Trigger :=
  match scheduleOf cronTrigger workflow.nodes with
  | none => scheduler
  | some trigger =>
      { jobs := Function.update scheduler.jobs workflowId (some (jobId workflowId))
        store := Function.update scheduler.store (jobId workflowId)
          (some ⟨trigger, (workflowId, workflow.tenantId)⟩) }

def Scheduler.registerWorkflow (scheduler : Scheduler Trigger) (workflowId : String)
    (workflow : Workflow) : Scheduler Trigger :=
  let scheduler := scheduler.unregisterWorkflow workflowId
  if workflow.isEnabled then scheduler.registerIfScheduled cronTrigger workflowId workflow
  else scheduler

/-- The job that a workflow is to have: one with its schedule, if it is enabled. -/
def Workflow.job (workflowId : String) (workflow : Workflow) : Option (Job Trigger) :=
  if workflow.isEnabled then
    (scheduleOf cronTrigger workflow.nodes).map fun trigger =>
      ⟨trigger, (workflowId, workflow.tenantId)⟩
  else none

/-- The scheduler runs these jobs, one for each workflow that has one, and no others. -/
structure Scheduler.Runs (scheduler : Scheduler Trigger) (jobOf : String → Option (Job Trigger)) :
    Prop where
  store : ∀ id job, scheduler.store id = some job ↔
    ∃ workflowId, id = jobId workflowId ∧ jobOf workflowId = some job
  jobs : ∀ workflowId id, scheduler.jobs workflowId = some id ↔
    id = jobId workflowId ∧ ∃ job, jobOf workflowId = some job

theorem scheduleTrigger_eq_some {config : Dict} {trigger : Trigger} :
    scheduleTrigger cronTrigger config = some trigger ↔
      ∃ text, config.find "cron" = some (.str text) ∧ text ≠ "" ∧
        cronTrigger.ofText text ((config.find "timezone").getD (.str "UTC")) = some trigger := by
  cases hcron : config.find "cron" with
  | none => simp [scheduleTrigger, hcron, Value.truthy]
  | some cron =>
      cases cron with
      | str text => simp [scheduleTrigger, hcron, Value.truthy]
      | _ => simp [scheduleTrigger, hcron]

/-- A job runs if the enabled workflow has a trigger node with a schedule whose cron expression is
not empty and valid. -/
theorem Workflow.job_eq_some {workflowId : String} {workflow : Workflow} {job : Job Trigger} :
    workflow.job cronTrigger workflowId = some job ↔
      workflow.isEnabled = true ∧ ∃ config text trigger,
        getScheduleConfig workflow.nodes = some config ∧
        config.find "cron" = some (.str text) ∧ text ≠ "" ∧
        cronTrigger.ofText text ((config.find "timezone").getD (.str "UTC")) = some trigger ∧
        job = ⟨trigger, (workflowId, workflow.tenantId)⟩ := by
  unfold Workflow.job scheduleOf
  by_cases henabled : workflow.isEnabled = true
  · rw [if_pos henabled, Option.map_eq_some_iff]
    constructor
    · rintro ⟨trigger, htrigger, rfl⟩
      obtain ⟨config, hconfig, htrigger⟩ := Option.bind_eq_some_iff.mp htrigger
      obtain ⟨text, hcron, hempty, htext⟩ := (scheduleTrigger_eq_some cronTrigger).mp htrigger
      exact ⟨henabled, config, text, trigger, hconfig, hcron, hempty, htext, rfl⟩
    · rintro ⟨-, config, text, trigger, hconfig, hcron, hempty, htext, rfl⟩
      refine ⟨trigger, Option.bind_eq_some_iff.mpr ⟨config, hconfig, ?_⟩, rfl⟩
      exact (scheduleTrigger_eq_some cronTrigger).mpr ⟨text, hcron, hempty, htext⟩
  · rw [if_neg henabled]
    exact iff_of_false (by simp) fun h => henabled h.1

/-! ## Steps -/

variable {cronTrigger} {scheduler : Scheduler Trigger} {jobOf : String → Option (Job Trigger)}
  {workflowId : String}

variable {jobOf' : String → Option (Job Trigger)}

theorem Scheduler.Runs.congr (h : scheduler.Runs jobOf)
    (hjobs : ∀ workflowId, jobOf' workflowId = jobOf workflowId) : scheduler.Runs jobOf' := by
  have heq : jobOf' = jobOf := funext hjobs
  rw [heq]
  exact h

theorem Scheduler.Runs.unique (h : scheduler.Runs jobOf)
    (h' : scheduler.Runs jobOf') (workflowId : String) : jobOf' workflowId = jobOf workflowId := by
  have hstore : ∀ {jobOf : String → Option (Job Trigger)}, scheduler.Runs jobOf →
      scheduler.store (jobId workflowId) = jobOf workflowId := by
    intro jobOf h
    refine Option.ext fun job => (h.store _ job).trans ?_
    constructor
    · rintro ⟨workflowId', hid, hjob⟩
      rw [jobId_injective hid]
      exact hjob
    · intro hjob
      exact ⟨workflowId, rfl, hjob⟩
  rw [← hstore h, ← hstore h']

theorem Scheduler.Runs.update (h : scheduler.Runs jobOf) (workflowId : String)
    (job : Option (Job Trigger)) :
    Scheduler.Runs
      { jobs := Function.update scheduler.jobs workflowId (job.map fun _ => jobId workflowId)
        store := Function.update scheduler.store (jobId workflowId) job }
      (Function.update jobOf workflowId job) where
  store id job' := by
    show Function.update scheduler.store (jobId workflowId) job id = some job' ↔ _
    by_cases hid : id = jobId workflowId
    · subst hid
      rw [Function.update_self]
      constructor
      · intro hjob
        refine ⟨workflowId, rfl, ?_⟩
        rw [Function.update_self]
        exact hjob
      · rintro ⟨workflowId', hid, hjob⟩
        rw [← jobId_injective hid, Function.update_self] at hjob
        exact hjob
    · rw [Function.update_of_ne hid, h.store]
      refine exists_congr fun workflowId' => and_congr_right fun hid' => ?_
      have hne : workflowId' ≠ workflowId := by
        rintro rfl
        exact hid hid'
      rw [Function.update_of_ne hne]
  jobs workflowId' id := by
    show Function.update scheduler.jobs workflowId _ workflowId' = some id ↔ _
    by_cases hid : workflowId' = workflowId
    · subst hid
      rw [Function.update_self, Function.update_self]
      cases job <;> simp [eq_comm]
    · rw [Function.update_of_ne hid, Function.update_of_ne hid]
      exact h.jobs workflowId' id

theorem Scheduler.Runs.update_none (h : scheduler.Runs jobOf) (hnone : jobOf workflowId = none) :
    scheduler.Runs (Function.update jobOf workflowId none) := by
  refine h.congr fun workflowId' => ?_
  by_cases hid : workflowId' = workflowId
  · subst hid
    rw [Function.update_self, hnone]
  · rw [Function.update_of_ne hid]

theorem Scheduler.Runs.unregister (h : scheduler.Runs jobOf) (workflowId : String) :
    (scheduler.unregisterWorkflow workflowId).Runs (Function.update jobOf workflowId none) := by
  unfold Scheduler.unregisterWorkflow
  cases hjobs : scheduler.jobs workflowId with
  | none =>
      refine h.update_none ?_
      cases hjob : jobOf workflowId with
      | none => rfl
      | some job =>
          have hlisted := (h.jobs workflowId _).mpr ⟨rfl, job, hjob⟩
          rw [hjobs] at hlisted
          cases hlisted
  | some id =>
      have hid := ((h.jobs workflowId id).mp hjobs).1
      subst hid
      exact h.update workflowId none

theorem Scheduler.Runs.registerIfScheduled (h : scheduler.Runs jobOf)
    (cronTrigger : CronTrigger Trigger) (hnone : jobOf workflowId = none) (workflow : Workflow) :
    (scheduler.registerIfScheduled cronTrigger workflowId workflow).Runs
      (Function.update jobOf workflowId ((scheduleOf cronTrigger workflow.nodes).map fun trigger =>
        ⟨trigger, (workflowId, workflow.tenantId)⟩)) := by
  unfold Scheduler.registerIfScheduled
  cases hschedule : scheduleOf cronTrigger workflow.nodes with
  | none => exact h.update_none hnone
  | some trigger => exact h.update workflowId (some ⟨trigger, (workflowId, workflow.tenantId)⟩)

theorem Scheduler.Runs.register (h : scheduler.Runs jobOf) (workflow : Workflow) :
    (scheduler.registerWorkflow cronTrigger workflowId workflow).Runs
      (Function.update jobOf workflowId (workflow.job cronTrigger workflowId)) := by
  have hunregistered := h.unregister workflowId
  unfold Scheduler.registerWorkflow Workflow.job
  by_cases henabled : workflow.isEnabled = true
  · rw [if_pos henabled, if_pos henabled]
    have hregistered := hunregistered.registerIfScheduled cronTrigger
      (Function.update_self workflowId none jobOf) workflow
    rwa [Function.update_idem] at hregistered
  · rw [if_neg henabled, if_neg henabled]
    exact hunregistered

end Registration

end Gateway

end IntegrationPlatform
