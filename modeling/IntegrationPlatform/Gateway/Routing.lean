import IntegrationPlatform.Gateway.Scheduler
import Mathlib.Data.List.Induction

/-!
# Routing of workflows

The requests that create, change, restore, switch and delete workflows, and the state that each of
them maintains by hand: the trigger columns and the jobs of the scheduler. `rollback_workflow`
maintains neither, so that a restored workflow is routed as before unless its version has the same
trigger and the same schedule.
-/

namespace IntegrationPlatform

namespace Gateway

/-- The tables of workflows and of their versions, and the scheduler. -/
structure System (Trigger : Type) where
  workflows : String → Option Workflow
  versions : String → List WorkflowVersion
  scheduler : Scheduler Trigger

/-- A request for a workflow. The id of a new workflow is drawn by the server. -/
inductive Request where
  | create (tenant : Tenant) (id : String) (body : WorkflowCreate)
  | update (tenant : Tenant) (id : String) (body : WorkflowUpdate)
  | rollback (tenant : Tenant) (id : String) (version : Int)
  | toggle (tenant : Tenant) (id : String)
  | delete (tenant : Tenant) (id : String)

/-- `coalesce(max(version), 0)`. -/
def lastVersion (versions : List WorkflowVersion) : Nat :=
  (versions.map (·.version)).foldl max 0

def getWorkflowVersion (versions : List WorkflowVersion) (version : Int) : Option WorkflowVersion :=
  versions.find? fun row => (row.version : Int) == version

section Requests

variable {Trigger : Type}

/-- The workflow of a tenant. -/
def System.findWorkflow (system : System Trigger) (tenant : Tenant) (id : String) :
    Except HttpError Workflow :=
  match system.workflows id with
  | some workflow =>
      if workflow.tenantId = tenant.id then .ok workflow else .error ⟨404, "Workflow not found"⟩
  | none => .error ⟨404, "Workflow not found"⟩

/-- A workflow with the number that `snapshot_workflow_version` gives it. -/
def System.numbered (system : System Trigger) (id : String) (workflow : Workflow) : Workflow :=
  { workflow with version := lastVersion (system.versions id) + 1 }

/-- A workflow is stored, with a snapshot of it. -/
def System.store (system : System Trigger) (tenant : Tenant) (id : String) (workflow : Workflow) :
    System Trigger :=
  { system with
    workflows := Function.update system.workflows id (some (system.numbered id workflow))
    versions := Function.update system.versions id
      (snapshot workflow (lastVersion (system.versions id)) (some tenant.slug) ::
        system.versions id) }

variable (checkAllowedIps : Value → Except HttpError Unit) (cronTrigger : CronTrigger Trigger)

def createWorkflow (tenant : Tenant) (id : String) (body : WorkflowCreate)
    (system : System Trigger) : Except HttpError (System Trigger) :=
  (body.workflow checkAllowedIps tenant).bind fun workflow =>
    if (system.workflows id).isSome then .error internalServerError
    else .ok (system.store tenant id workflow)

def updateWorkflow (tenant : Tenant) (id : String) (body : WorkflowUpdate)
    (system : System Trigger) : Except HttpError (System Trigger) :=
  (system.findWorkflow tenant id).bind fun workflow =>
    (body.changes checkAllowedIps).bind fun changes =>
      .ok { system.store tenant id (changes.apply workflow) with
        scheduler := system.scheduler.registerWorkflow cronTrigger id
          (system.numbered id (changes.apply workflow)) }

/-- `rollback_workflow_version`, which looks at no tenant. -/
def rollbackWorkflowVersion (tenant : Tenant) (id : String) (version : Int)
    (system : System Trigger) : Except HttpError (System Trigger) :=
  match system.workflows id, getWorkflowVersion (system.versions id) version with
  | some workflow, some version => .ok (system.store tenant id (version.changes.apply workflow))
  | _, _ => .error ⟨404, "Workflow or version not found"⟩

def toggleWorkflow (tenant : Tenant) (id : String) (system : System Trigger) :
    Except HttpError (System Trigger) :=
  (system.findWorkflow tenant id).bind fun workflow =>
    let workflow := { workflow with isEnabled := !workflow.isEnabled }
    .ok { system with
      workflows := Function.update system.workflows id (some workflow)
      scheduler := system.scheduler.registerWorkflow cronTrigger id workflow }

/-- `delete_workflow`. The versions go with the workflow. -/
def deleteWorkflow (tenant : Tenant) (id : String) (system : System Trigger) :
    Except HttpError (System Trigger) :=
  (system.findWorkflow tenant id).bind fun _ =>
    .ok
      { workflows := Function.update system.workflows id none
        versions := Function.update system.versions id []
        scheduler := system.scheduler.unregisterWorkflow id }

/-- What a request does. -/
def Request.handle (request : Request) (system : System Trigger) :
    Except HttpError (System Trigger) :=
  match request with
  | .create tenant id body => createWorkflow checkAllowedIps tenant id body system
  | .update tenant id body => updateWorkflow checkAllowedIps cronTrigger tenant id body system
  | .rollback tenant id version => rollbackWorkflowVersion tenant id version system
  | .toggle tenant id => toggleWorkflow cronTrigger tenant id system
  | .delete tenant id => deleteWorkflow tenant id system

/-- The state after a request. A failed request changes nothing. -/
def Request.after (request : Request) (system : System Trigger) : System Trigger :=
  match request.handle checkAllowedIps cronTrigger system with
  | .ok system => system
  | .error _ => system

/-- An empty database, and a scheduler that has been started on it. -/
def System.initial : System Trigger where
  workflows _ := none
  versions _ := []
  scheduler := ⟨fun _ => none, fun _ => none⟩

/-- The state after a sequence of requests. -/
def run (requests : List Request) : System Trigger :=
  requests.foldl (fun system request => request.after checkAllowedIps cronTrigger system) .initial

/-! ## Routing -/

/-- The job that the scheduler is to have for a workflow. -/
def System.jobOf (system : System Trigger) (id : String) : Option (Job Trigger) :=
  (system.workflows id).bind (·.job cronTrigger id)

/-- The routing state follows the graphs: the trigger columns are those of the nodes, and the jobs
are those of the enabled workflows with a schedule. -/
structure System.Routed (system : System Trigger) : Prop where
  followsGraph : ∀ id workflow, system.workflows id = some workflow → workflow.FollowsGraph
  runs : system.scheduler.Runs (system.jobOf cronTrigger)

/-- A rollback restores a version that is routed as the workflow is: its trigger is the same, and
its schedule is, if the workflow is enabled. -/
def KeepsRouting (system : System Trigger) : Request → Prop
  | .rollback _ id target => ∀ workflow version, system.workflows id = some workflow →
      getWorkflowVersion (system.versions id) target = some version →
      extractTriggerInfo version.nodes = extractTriggerInfo workflow.nodes ∧
        (workflow.isEnabled = true →
          scheduleOf cronTrigger version.nodes = scheduleOf cronTrigger workflow.nodes)
  | _ => True

variable {checkAllowedIps cronTrigger} {system : System Trigger} {tenant : Tenant} {id : String}
  {workflow : Workflow}

theorem System.findWorkflow_eq_ok (h : system.findWorkflow tenant id = .ok workflow) :
    system.workflows id = some workflow := by
  unfold System.findWorkflow at h
  cases hworkflow : system.workflows id with
  | none => simp [hworkflow] at h
  | some workflow' =>
      by_cases htenant : workflow'.tenantId = tenant.id
      · simp only [hworkflow, htenant, if_true] at h
        rw [Except.ok.inj h]
      · simp [hworkflow, htenant] at h

theorem System.jobOf_update (system : System Trigger) (id : String) (row : Option Workflow) :
    (fun id' => (Function.update system.workflows id row id').bind (·.job cronTrigger id')) =
      Function.update (system.jobOf cronTrigger) id (row.bind (·.job cronTrigger id)) := by
  funext id'
  by_cases hid : id' = id
  · subst hid
    rw [Function.update_self, Function.update_self]
  · rw [Function.update_of_ne hid, Function.update_of_ne hid]
    rfl

theorem System.Routed.followsGraph_update (h : system.Routed cronTrigger) {row : Option Workflow}
    (hrow : ∀ workflow, row = some workflow → workflow.FollowsGraph) :
    ∀ id' workflow, Function.update system.workflows id row id' = some workflow →
      workflow.FollowsGraph := by
  intro id' workflow hworkflow
  by_cases hid : id' = id
  · subst hid
    rw [Function.update_self] at hworkflow
    exact hrow workflow hworkflow
  · rw [Function.update_of_ne hid] at hworkflow
    exact h.followsGraph id' workflow hworkflow

theorem System.Routed.register (h : system.Routed cronTrigger) (hworkflow : workflow.FollowsGraph)
    (versions : String → List WorkflowVersion) :
    System.Routed cronTrigger
      { workflows := Function.update system.workflows id (some workflow)
        versions
        scheduler := system.scheduler.registerWorkflow cronTrigger id workflow } where
  followsGraph := h.followsGraph_update fun _ hrow => Option.some.inj hrow ▸ hworkflow
  runs := by
    show (system.scheduler.registerWorkflow cronTrigger id workflow).Runs
      fun id' => (Function.update system.workflows id (some workflow) id').bind
        (·.job cronTrigger id')
    rw [system.jobOf_update]
    exact h.runs.register workflow

theorem System.Routed.store_iff (h : system.Routed cronTrigger) :
    (system.store tenant id workflow).Routed cronTrigger ↔
      workflow.FollowsGraph ∧ workflow.job cronTrigger id = system.jobOf cronTrigger id := by
  have hjobOf : (system.store tenant id workflow).jobOf cronTrigger =
      Function.update (system.jobOf cronTrigger) id (workflow.job cronTrigger id) :=
    system.jobOf_update id _
  constructor
  · intro hafter
    have hgraph : (system.numbered id workflow).FollowsGraph :=
      hafter.followsGraph id _ (Function.update_self id _ system.workflows)
    refine ⟨hgraph, ?_⟩
    have hunique := h.runs.unique hafter.runs id
    rwa [hjobOf, Function.update_self] at hunique
  · rintro ⟨hworkflow, hjob⟩
    refine ⟨h.followsGraph_update fun _ hrow => Option.some.inj hrow ▸ hworkflow, ?_⟩
    rw [hjobOf, hjob, Function.update_eq_self]
    exact h.runs

theorem System.routed_initial : System.initial.Routed cronTrigger where
  followsGraph _ _ h := nomatch h
  runs := ⟨fun _ _ => iff_of_false (by simp [System.initial])
      (by rintro ⟨_, _, h⟩; cases h),
    fun _ _ => iff_of_false (by simp [System.initial]) (by rintro ⟨_, _, h⟩; cases h)⟩

/-! ## Steps -/

variable {after : System Trigger}

theorem createWorkflow_routed {body : WorkflowCreate} (h : system.Routed cronTrigger)
    (hafter : createWorkflow checkAllowedIps tenant id body system = .ok after) :
    after.Routed cronTrigger := by
  obtain ⟨workflow, hworkflow, hafter⟩ := bind_eq_ok.mp hafter
  cases hrow : system.workflows id with
  | some _ => simp [hrow] at hafter
  | none =>
      simp only [hrow, Option.isSome_none, Bool.false_eq_true, if_false] at hafter
      cases Except.ok.inj hafter
      obtain ⟨hgraph, hdisabled⟩ := WorkflowCreate.followsGraph hworkflow
      refine h.store_iff.mpr ⟨hgraph, ?_⟩
      simp [Workflow.job, hdisabled, System.jobOf, hrow]

theorem updateWorkflow_routed {body : WorkflowUpdate} (h : system.Routed cronTrigger)
    (hafter : updateWorkflow checkAllowedIps cronTrigger tenant id body system = .ok after) :
    after.Routed cronTrigger := by
  obtain ⟨workflow, hworkflow, hafter⟩ := bind_eq_ok.mp hafter
  obtain ⟨changes, hchanges, hafter⟩ := bind_eq_ok.mp hafter
  cases Except.ok.inj hafter
  have hgraph := h.followsGraph id workflow (System.findWorkflow_eq_ok hworkflow)
  have hupdated : (system.numbered id (changes.apply workflow)).FollowsGraph :=
    hgraph.update hchanges
  exact h.register hupdated _

theorem toggleWorkflow_routed (h : system.Routed cronTrigger)
    (hafter : toggleWorkflow cronTrigger tenant id system = .ok after) :
    after.Routed cronTrigger := by
  obtain ⟨workflow, hworkflow, hafter⟩ := bind_eq_ok.mp hafter
  cases Except.ok.inj hafter
  have hgraph : Workflow.FollowsGraph { workflow with isEnabled := !workflow.isEnabled } :=
    h.followsGraph id workflow (System.findWorkflow_eq_ok hworkflow)
  exact h.register hgraph _

theorem deleteWorkflow_routed (h : system.Routed cronTrigger)
    (hafter : deleteWorkflow tenant id system = .ok after) : after.Routed cronTrigger := by
  obtain ⟨_, -, hafter⟩ := bind_eq_ok.mp hafter
  cases Except.ok.inj hafter
  refine ⟨h.followsGraph_update fun _ hrow => (nomatch hrow), ?_⟩
  show (system.scheduler.unregisterWorkflow id).Runs
    fun id' => (Function.update system.workflows id none id').bind (·.job cronTrigger id')
  rw [system.jobOf_update]
  exact h.runs.unregister id

variable {version : WorkflowVersion}

theorem followsGraph_restored (h : workflow.FollowsGraph) :
    (version.changes.apply workflow).FollowsGraph ↔
      extractTriggerInfo version.nodes = extractTriggerInfo workflow.nodes := by
  show ofColumn workflow.triggerConnector = (extractTriggerInfo version.nodes).1 ∧
    ofColumn workflow.triggerEvent = (extractTriggerInfo version.nodes).2 ↔ _
  rw [h.1, h.2, Prod.ext_iff]
  exact and_congr eq_comm eq_comm

theorem job_restored :
    (version.changes.apply workflow).job cronTrigger id = workflow.job cronTrigger id ↔
      (workflow.isEnabled = true →
        scheduleOf cronTrigger version.nodes = scheduleOf cronTrigger workflow.nodes) := by
  show (if workflow.isEnabled then (scheduleOf cronTrigger version.nodes).map _ else none) =
    (if workflow.isEnabled then (scheduleOf cronTrigger workflow.nodes).map _ else none) ↔ _
  by_cases henabled : workflow.isEnabled = true
  · rw [if_pos henabled, if_pos henabled]
    refine Iff.trans ?_ (forall_prop_of_true henabled).symm
    refine Function.Injective.eq_iff (Option.map_injective ?_)
    intro trigger trigger' htrigger
    exact congrArg Job.trigger htrigger
  · rw [if_neg henabled, if_neg henabled]
    exact iff_of_true rfl fun h => absurd h henabled

theorem rollbackWorkflowVersion_routed (h : system.Routed cronTrigger)
    (hworkflow : system.workflows id = some workflow) :
    (system.store tenant id (version.changes.apply workflow)).Routed cronTrigger ↔
      extractTriggerInfo version.nodes = extractTriggerInfo workflow.nodes ∧
        (workflow.isEnabled = true →
          scheduleOf cronTrigger version.nodes = scheduleOf cronTrigger workflow.nodes) := by
  have hjobOf : system.jobOf cronTrigger id = workflow.job cronTrigger id := by
    rw [System.jobOf, hworkflow]
    rfl
  rw [h.store_iff, hjobOf, job_restored, followsGraph_restored (h.followsGraph id _ hworkflow)]

/-- A request keeps a state routed if and only if it is no rollback to a version that is routed
otherwise. -/
theorem System.Routed.after_iff (h : system.Routed cronTrigger) (request : Request) :
    (request.after checkAllowedIps cronTrigger system).Routed cronTrigger ↔
      KeepsRouting cronTrigger system request := by
  unfold Request.after
  cases hafter : request.handle checkAllowedIps cronTrigger system with
  | error reply =>
      refine iff_of_true h ?_
      cases request with
      | rollback tenant id target =>
          intro workflow version hworkflow hversion
          simp [Request.handle, rollbackWorkflowVersion, hworkflow, hversion] at hafter
      | _ => trivial
  | ok after =>
      cases request with
      | create tenant id body => exact iff_of_true (createWorkflow_routed h hafter) trivial
      | update tenant id body => exact iff_of_true (updateWorkflow_routed h hafter) trivial
      | toggle tenant id => exact iff_of_true (toggleWorkflow_routed h hafter) trivial
      | delete tenant id => exact iff_of_true (deleteWorkflow_routed h hafter) trivial
      | rollback tenant id target =>
          have hrollback : rollbackWorkflowVersion tenant id target system = .ok after := hafter
          unfold rollbackWorkflowVersion at hrollback
          cases hworkflow : system.workflows id with
          | none => simp [hworkflow] at hrollback
          | some workflow =>
              cases hversion : getWorkflowVersion (system.versions id) target with
              | none => simp [hworkflow, hversion] at hrollback
              | some version =>
                  simp only [hworkflow, hversion] at hrollback
                  cases Except.ok.inj hrollback
                  refine (rollbackWorkflowVersion_routed h hworkflow).trans ?_
                  constructor
                  · intro hkeeps workflow' version' hworkflow' hversion'
                    rw [hworkflow] at hworkflow'
                    rw [hversion] at hversion'
                    cases hworkflow'
                    cases hversion'
                    exact hkeeps
                  · intro hkeeps
                    exact hkeeps workflow version hworkflow hversion

theorem run_snoc (requests : List Request) (request : Request) :
    run checkAllowedIps cronTrigger (requests ++ [request]) =
      request.after checkAllowedIps cronTrigger (run checkAllowedIps cronTrigger requests) := by
  unfold run
  rw [List.foldl_append]
  rfl

/-- Every state of a run is routed if and only if every rollback of the run keeps the routing. -/
theorem routed_iff (checkAllowedIps : Value → Except HttpError Unit)
    (cronTrigger : CronTrigger Trigger) (requests : List Request) :
    (∀ done, done <+: requests → (run checkAllowedIps cronTrigger done).Routed cronTrigger) ↔
      ∀ done request, done ++ [request] <+: requests →
        KeepsRouting cronTrigger (run checkAllowedIps cronTrigger done) request := by
  constructor
  · intro hrouted done request hprefix
    have hbefore := hrouted done ((List.prefix_append done [request]).trans hprefix)
    have hafter := hrouted _ hprefix
    rw [run_snoc] at hafter
    exact (hbefore.after_iff request).mp hafter
  · intro hkeeps done hdone
    induction done using List.reverseRecOn with
    | nil => exact System.routed_initial
    | append_singleton done request ih =>
        have hbefore := ih ((List.prefix_append done [request]).trans hdone)
        rw [run_snoc]
        exact (hbefore.after_iff request).mpr (hkeeps done request hdone)

end Requests

end Gateway

namespace Sample

open Gateway

def cronFields : CronTrigger (List String) where
  ofFields minute hour day month dayOfWeek _ := some [minute, hour, day, month, dayOfWeek]
  fromCrontab _ _ := none

def nightly (hour : String) : WorkflowNode where
  id := "start"
  type := "trigger"
  config := [("trigger_type", .str "schedule"), ("cron", .str ("0 " ++ hour ++ " * * *"))]

/-- A workflow is created, put forward by an hour and enabled, and rolled back. -/
def rescheduled : List Request :=
  [.create ⟨"tenant", "tenant"⟩ "workflow" { name := "nightly", nodes := [nightly "6"] },
    .update ⟨"tenant", "tenant"⟩ "workflow"
      { nodes := some (some [nightly "7"]), isEnabled := some (some true) },
    .rollback ⟨"tenant", "tenant"⟩ "workflow" 1]

end Sample

/-- After the rollback the scheduler still runs the workflow at the later hour. -/
theorem rollback_keeps_schedule :
    ¬ ∀ done, done <+: Sample.rescheduled →
      (Gateway.run (fun _ => .ok ()) Sample.cronFields done).Routed Sample.cronFields := by
  intro hrouted
  have hrestored := hrouted Sample.rescheduled (List.prefix_refl _)
  have hjob : (Gateway.run (fun _ => .ok ()) Sample.cronFields Sample.rescheduled).scheduler.store
      "wf_schedule_workflow" = some ⟨["0", "7", "*", "*", "*"], ("workflow", "tenant")⟩ := rfl
  obtain ⟨id, hid, hexpected⟩ := (hrestored.runs.store _ _).mp hjob
  have heq : id = "workflow" := (@Gateway.jobId_injective "workflow" id hid).symm
  subst heq
  have hnow : (Gateway.run (fun _ => .ok ()) Sample.cronFields Sample.rescheduled).jobOf
      Sample.cronFields "workflow" =
        some ⟨["0", "6", "*", "*", "*"], ("workflow", "tenant")⟩ := rfl
  rw [hnow] at hexpected
  have htrigger := congrArg Gateway.Job.trigger (Option.some.inj hexpected)
  exact absurd htrigger (by decide)

end IntegrationPlatform
