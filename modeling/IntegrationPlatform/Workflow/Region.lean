import IntegrationPlatform.Workflow.Runs
import Mathlib.Data.ENat.Basic

/-!
# Regions and event laws

A `Region` is a set of places and sites that is closed under what executions and activations
start, with a rank that every start lowers. An `EventLaw` says that a property holds of every
event that the engine can record in a region. `behaviour_account` is the induction, done once
for all laws: everything that happens inside a region satisfies its laws, and an activation runs
out of fuel only below its rank.
-/

namespace IntegrationPlatform

open Resumption Eng WorkflowEngine

/-! ## Regions -/

/-- The nodes whose activation an activation can start in the same execution. Branches of a
parallel node and error handlers are started without a look at the depth. -/
inductive Site.Starts (site : Site) : Node → Prop where
  | successor {node} (handle) :
      node ∈ site.workflow.graph.getSuccessors site.node.id handle →
      site.depth < maxNodeDepth → Starts site node
  | item {node} : site.node.type = .batch → node ∈ batchBody site.workflow site.node →
      site.depth < maxNodeDepth → Starts site node
  | branch {node} : site.node.type = .parallel →
      node ∈ site.workflow.graph.getSuccessors site.node.id (.str "branch") → Starts site node
  | handler {node} : site.workflow.graph.findErrorHandler site.node.id = some node →
      Starts site node

variable {workflow : Workflow}

theorem mem_batchBody {node body : Node}
    (h : body ∈ batchBody workflow node) : body ∈ workflow.graph.nodes := by
  unfold batchBody at h
  split at h
  · exact (WorkflowGraph.mem_getSuccessors h).1
  · obtain ⟨id, _, hid⟩ := List.mem_filterMap.mp h
    exact WorkflowGraph.getNode_mem hid

theorem Site.Starts.mem {site : Site} {node : Node} (h : site.Starts node) :
    node ∈ site.workflow.graph.nodes := by
  cases h with
  | successor handle hmem _ => exact (WorkflowGraph.mem_getSuccessors hmem).1
  | item _ hmem _ => exact mem_batchBody hmem
  | branch _ hmem => exact (WorkflowGraph.mem_getSuccessors hmem).1
  | handler hhandler => exact (WorkflowGraph.findErrorHandler_spec hhandler).1

/-- The site of a node that an activation starts. -/
def Site.below (site : Site) (node : Node) : Site :=
  ⟨site.chain, site.workflow, node, site.depth + 1⟩

/-- The site of a node that an execution starts: a successor of the trigger node. -/
inductive Enters (chain : List String) (workflow : Workflow) : Site → Prop where
  | intro {trigger node} : workflow.graph.findTrigger = some trigger →
      node ∈ workflow.graph.getSuccessors trigger.id .null →
      Enters chain workflow ⟨chain, workflow, node, 0⟩

/-- A workflow that a sub-workflow node can start. -/
structure Site.Nests (engine : WorkflowEngine) (site : Site) (child : Workflow) : Prop where
  type : site.node.type = .subWorkflow
  stored : child ∈ engine.workflows
  tenant : child.tenantId = site.workflow.tenantId
  fresh : child.id ∉ site.chain

/-- A set of places, which are chains with the workflow at their end, and of sites that is closed
under what executions and activations start. Every start lowers the rank. -/
structure Region (engine : WorkflowEngine) where
  place : List String → Workflow → Prop
  here : Site → Prop
  rank : Site → ℕ∞
  placed : ∀ {site}, here site → place site.chain site.workflow
  enters : ∀ {chain workflow site}, place chain workflow → Enters chain workflow site → here site
  starts : ∀ {site node}, here site → site.Starts node →
    here (site.below node) ∧ rank (site.below node) + 1 ≤ rank site
  nests : ∀ {site child}, here site → site.Nests engine child →
    place (site.chain ++ [child.id]) child ∧
      ∀ {site'}, Enters (site.chain ++ [child.id]) child site' → rank site' + 1 ≤ rank site

/-! ## Event laws -/

/-- The failed attempts of an activation, when every event satisfies `cond`: a call that raised,
or one that returned before a descendant raised. -/
inductive Tries (cond : Event → Prop) (site : Site) (first : Activation) : Activation → Prop where
  | first : Tries cond site first first
  | raised {activation} : Tries cond site first activation →
      Tries cond site first (activation.call .raised)
  | descendant {activation entry} (thread exc) : Tries cond site first activation →
      activation.entry.Updates entry .success →
      cond (.descendantRaised site (activation.call .returned).calls exc) →
      Tries cond site first ((activation.call .returned).append thread entry)

/-- How an activation ends that appends its entry for the last time: after a call that returned,
or after the last call has raised. -/
inductive Finishes (cond : Event → Prop) (site : Site) (first : Activation) :
    Activation → Prop where
  | returned {activation entry status} (thread) : Tries cond site first activation →
      activation.entry.Updates entry status → status ≠ .failed →
      Finishes cond site first ((activation.call .returned).append thread entry)
  | failed {activation entry} (thread) : Tries cond site first activation →
      activation.calls ≠ [] → activation.entry.Updates entry .failed →
      Finishes cond site first (activation.append thread entry)

/-- The activation of a node with which the `try` statement starts. -/
def Activation.start (engine : WorkflowEngine) (node : Node) (before : WorkflowContext) :
    Activation :=
  { entry := engine.newEntry node before.toScope }

/-- Only a merge node into which no edge leads gets past its bookkeeping. -/
def Site.Admitted (site : Site) : Prop :=
  site.node.type = .merge → site.workflow.graph.incoming site.node.id = []

/-- `P` holds of every event of a region, in runs whose events satisfy `cond`. -/
structure EventLaw {engine : WorkflowEngine} (region : Region engine) (cond P : Event → Prop) :
    Prop where
  started : ∀ {chain workflow}, region.place chain workflow → P (.started chain workflow)
  depthExceeded : ∀ {chain workflow depth}, region.place chain workflow →
    P (.depthExceeded chain workflow depth)
  nestingRefused : ∀ {chain workflow workflowId}, region.place chain workflow →
    P (.nestingRefused chain workflow workflowId)
  arrived : ∀ {site}, region.here site →
    (site.Admitted ∨ ∃ exc, cond (.mergeRaised site exc)) → P (.arrived site)
  mergeRaised : ∀ {site exc}, region.here site → site.node.type = .merge →
    P (.mergeRaised site exc)
  mergeSkipped : ∀ {site}, region.here site → site.node.type = .merge → site.Admitted →
    P (.mergeSkipped site)
  called : ∀ {site before activation}, region.here site → site.Admitted →
    Tries cond site (.start engine site.node before) activation →
    (activation.calls ≠ [] → Retries site.workflow site.node activation.calls.length) →
    P (.called site activation.calls)
  executorRaised : ∀ {site exc}, region.here site → P (.executorRaised site exc)
  descendantRaised : ∀ {site calls exc}, region.here site →
    cond (.descendantRaised site calls exc) → P (.descendantRaised site calls exc)
  handled : ∀ {site before activation handler exc scope}, region.here site →
    activation.calls ≠ [] → Tries cond site (.start engine site.node before) activation →
    site.workflow.graph.findErrorHandler site.node.id = some handler →
    P (.handled site activation.calls handler (errorInfo site.node exc scope))
  left : ∀ {site before after activation ended}, region.here site → site.Admitted →
    Finishes cond site (.start engine site.node before) activation →
    P (.left site before after activation ended)

theorem EventLaw.place {engine : WorkflowEngine} (region : Region engine) (cond : Event → Prop) :
    EventLaw region cond fun event => region.place event.chain event.workflow where
  started h := h
  depthExceeded h := h
  nestingRefused h := h
  arrived h _ := region.placed h
  mergeRaised h _ := region.placed h
  mergeSkipped h _ _ := region.placed h
  called h _ _ _ := region.placed h
  executorRaised h := region.placed h
  descendantRaised h _ := region.placed h
  handled h _ _ _ := region.placed h
  left h _ _ := region.placed h

theorem EventLaw.arrival {engine : WorkflowEngine} (region : Region engine) (cond : Event → Prop) :
    EventLaw region cond fun event => ∀ site, event = .arrived site → region.here site where
  started _ _ h := nomatch h
  depthExceeded _ _ h := nomatch h
  nestingRefused _ _ h := nomatch h
  arrived h _ _ heq := Event.arrived.inj heq ▸ h
  mergeRaised _ _ _ h := nomatch h
  mergeSkipped _ _ _ _ h := nomatch h
  called _ _ _ _ _ h := nomatch h
  executorRaised _ _ h := nomatch h
  descendantRaised _ _ _ h := nomatch h
  handled _ _ _ _ _ h := nomatch h
  left _ _ _ _ h := nomatch h

/-- What a piece of the engine did is accounted for: its history only grows, `P` holds of its
events, and it runs out of fuel only within the limit. -/
structure Account (cond P : Event → Prop) (limit : Prop) (thread thread' : Thread)
    (outcome : Outcome Unit) : Prop where
  grows : thread.trace <+: thread'.trace
  events : (∀ event ∈ thread'.trace, cond event) → (∀ event ∈ thread.trace, P event) →
    ∀ event ∈ thread'.trace, P event
  fuel : outcome = .error .outOfFuel → limit

section Accounts

variable {cond P : Event → Prop} {limit : Prop} {thread mid thread' : Thread}
  {outcome outcome' : Outcome Unit}

theorem Account.silent (htrace : thread'.trace = thread.trace) :
    Account cond P limit thread thread' (.ok ()) :=
  ⟨htrace ▸ List.prefix_refl _, fun _ h => htrace ▸ h, fun h => nomatch h⟩

theorem Account.log {event : Event}
    (hP : (∀ event ∈ thread.trace, cond event) → cond event → P event) :
    Account cond P limit thread (thread.log [event]) (.ok ()) := by
  refine ⟨List.prefix_append _ _, fun hcond h event' hmem => ?_, fun h => nomatch h⟩
  rcases List.mem_append.mp hmem with hold | hnew
  · exact h event' hold
  · obtain rfl := List.mem_singleton.mp hnew
    exact hP (fun event h => hcond event (List.mem_append_left _ h)) (hcond event' hmem)

theorem Account.trans (h : Account cond P limit thread mid outcome)
    (h' : Account cond P limit mid thread' outcome') :
    Account cond P limit thread thread' outcome' :=
  ⟨h.grows.trans h'.grows, fun hcond hP => h'.events hcond
    (h.events (fun event hevent => hcond event (h'.grows.subset hevent)) hP), h'.fuel⟩

theorem Account.exit (h : Account cond P limit thread thread' outcome)
    (hfuel : outcome' = .error .outOfFuel → outcome = .error .outOfFuel) :
    Account cond P limit thread thread' outcome' :=
  ⟨h.grows, h.events, fun h' => h.fuel (hfuel h')⟩

theorem Account.all (h : Account cond P limit thread thread' outcome) (hnil : thread.trace = [])
    (hcond : ∀ event ∈ thread'.trace, cond event) : ∀ event ∈ thread'.trace, P event :=
  h.events hcond (by simp [hnil])

theorem Account.pieces {pieces : List (Thread × Outcome Unit)}
    (hpieces : ∀ piece ∈ pieces, (∀ event ∈ piece.1.trace, cond event) →
      ∀ event ∈ piece.1.trace, P event)
    (hfuel : outcome = .error .outOfFuel → limit) :
    Account cond P limit thread (thread.log (pieces.flatMap fun piece => piece.1.trace)) outcome := by
  refine ⟨List.prefix_append _ _, fun hcond hP event hevent => ?_, hfuel⟩
  rcases List.mem_append.mp hevent with hold | hnew
  · exact hP event hold
  · obtain ⟨piece, hpiece, hmem⟩ := List.mem_flatMap.mp hnew
    refine hpieces piece hpiece (fun event' h => hcond event' (List.mem_append_right _ ?_)) event hmem
    exact List.mem_flatMap.mpr ⟨piece, hpiece, h⟩

end Accounts

theorem Thread.site_eq {site : Site} {thread : Thread}
    (hchain : thread.ctx.workflowChain = site.chain) :
    thread.site site.workflow site.node site.depth = site := by
  cases site
  simp [Thread.site, hchain]

/-! ## Accounts of nested activations -/

section Nested

variable {engine : WorkflowEngine} {region : Region engine} {cond P : Event → Prop} {limit : Prop}
  {V : VisitRel} {workflow : Workflow} {node : Node} {depth : Nat} {nodes : List Node}
  {thread thread' : Thread} {outcome : Outcome Unit} {chain : List String}

theorem Each.account (hframe : ∀ {w n d t t' o}, V w n d t t' o → Frame t t')
    (hV : ∀ {node t t' o}, node ∈ nodes → t.ctx.workflowChain = chain →
      V workflow node depth t t' o → Account cond P limit t t' o)
    (h : Each V workflow depth nodes thread thread' outcome)
    (hchain : thread.ctx.workflowChain = chain) :
    Account cond P limit thread thread' outcome := by
  induction h with
  | nil thread => exact .silent rfl
  | cons hvisit _ ih =>
      exact (hV (List.mem_cons_self ..) hchain hvisit).trans
        (ih (fun hmem => hV (List.mem_cons_of_mem _ hmem))
          ((hframe hvisit).workflowChain.trans hchain))
  | stop hvisit => exact hV (List.mem_cons_self ..) hchain hvisit

theorem Traversal.account (law : EventLaw region cond P)
    (hframe : ∀ {w n d t t' o}, V w n d t t' o → Frame t t')
    (hV : ∀ {node t t' o}, node ∈ nodes → depth ≤ maxNodeDepth → t.ctx.workflowChain = chain →
      V workflow node depth t t' o → Account cond P limit t t' o)
    (hplace : region.place chain workflow)
    (h : Traversal V workflow depth nodes thread thread' outcome)
    (hchain : thread.ctx.workflowChain = chain) :
    Account cond P limit thread thread' outcome := by
  cases h with
  | exceeded message _ _ =>
      exact (Account.log fun _ _ => law.depthExceeded (hchain ▸ hplace)).exit (by simp)
  | each hdepth heach =>
      exact heach.account hframe
        (fun hmem => hV hmem (hdepth (List.ne_nil_of_mem hmem))) hchain

theorem FromTrigger.account (law : EventLaw region cond P)
    (hframe : ∀ {w n d t t' o}, V w n d t t' o → Frame t t')
    (hV : ∀ {site t t' o}, Enters chain workflow site → t.ctx.workflowChain = chain →
      V site.workflow site.node site.depth t t' o → Account cond P limit t t' o)
    (hplace : region.place chain workflow) (h : FromTrigger V workflow thread thread' outcome)
    (hchain : thread.ctx.workflowChain = chain) :
    Account cond P limit thread thread' outcome := by
  have hstarted : Account cond P limit thread
      (thread.log [.started thread.ctx.workflowChain workflow]) (.ok ()) :=
    .log fun _ _ => law.started (hchain ▸ hplace)
  cases h with
  | noTrigger message _ => exact hstarted.exit (by simp)
  | @run trigger entry _ start _ _ htrigger hedits _ _ htraversal =>
      have hedited : Account cond P limit _ (start.mapResults (· ++ [entry])) (.ok ()) :=
        .silent hedits.trace
      refine (hstarted.trans hedited).trans (htraversal.account law hframe
        (fun hmem _ => hV (.intro htrigger hmem)) hplace ?_)
      exact hedits.workflowChain.trans hchain

/-- What the activations that an activation at `site` starts have to satisfy. -/
structure Accounted (region : Region engine) (cond P : Event → Prop) (limit : Prop) (V : VisitRel)
    (site : Site) : Prop where
  frame : ∀ {w n d t t' o}, V w n d t t' o → Frame t t'
  starts : ∀ {node t t' o}, site.Starts node → t.ctx.workflowChain = site.chain →
    V site.workflow node (site.depth + 1) t t' o → Account cond P limit t t' o
  nests : ∀ {child site' t t' o}, site.Nests engine child →
    Enters (site.chain ++ [child.id]) child site' →
    t.ctx.workflowChain = site.chain ++ [child.id] →
    V site'.workflow site'.node site'.depth t t' o → Account cond P limit t t' o

variable {site : Site} (law : EventLaw region cond P)
  (hV : Accounted region cond P limit V site) (hhere : region.here site)
include law hV hhere

theorem Traverses.account {calls : List CallOutcome} {ended : Outcome (Except Exc Unit)}
    (hstarts : ∀ {node}, node ∈ nodes → site.depth < maxNodeDepth → site.Starts node)
    (h : Traverses V site.workflow site.node site.depth calls nodes thread thread' ended)
    (hchain : thread.ctx.workflowChain = site.chain) :
    Account cond P limit thread thread' (rethrown ended) := by
  have htraversal : ∀ {thread' outcome},
      Traversal V site.workflow (site.depth + 1) nodes thread thread' outcome →
      Account cond P limit thread thread' outcome :=
    fun h => h.account law hV.frame (fun hmem hdepth => hV.starts (hstarts hmem hdepth))
      (region.placed hhere) hchain
  rcases ended with stop | exc | value
  · exact htraversal h.2
  · obtain ⟨mid, hmid, rfl⟩ := h
    refine ((htraversal hmid).trans (.log fun _ hcond => ?_)).exit (by simp [rethrown])
    rw [Thread.site_eq ((hmid.frame hV.frame).workflowChain.trans hchain)] at hcond ⊢
    exact law.descendantRaised hhere hcond
  · exact htraversal h

theorem Piece.account (h : Piece V site.workflow site.node site.depth thread thread' outcome)
    (hchain : thread.ctx.workflowChain = site.chain) :
    ((∀ event ∈ thread'.trace, cond event) → ∀ event ∈ thread'.trace, P event) ∧
      (outcome = .error .outOfFuel → limit) := by
  cases h with
  | branch htype hmem hforks hvisit =>
      have h := hV.starts (.branch htype hmem) (hforks.workflowChain.trans hchain) hvisit
      exact ⟨h.all hforks.trace, h.fuel⟩
  | item htype hforks htraversal =>
      have h : Account cond P limit _ _ _ := htraversal.account law hV.frame
        (fun hmem hdepth => hV.starts (.item htype hmem hdepth))
        (region.placed hhere) (hforks.workflowChain.trans hchain)
      exact ⟨h.all hforks.trace, h.fuel⟩

theorem Inside.account
    (h : Inside V engine site.workflow site.node site.depth thread thread' outcome)
    (hchain : thread.ctx.workflowChain = site.chain) :
    Account cond P limit thread thread' outcome := by
  induction h with
  | edit hedits => exact .silent hedits.trace
  | raises exc hedits => exact (Account.silent hedits.trace).exit (by simp)
  | blocks _ hedits => exact (Account.silent hedits.trace).exit (by simp)
  | body _ hbody => exact hbody.account law hV hhere (.successor _) hchain
  | join _ hpieces _ =>
      refine (Account.pieces (fun piece hpiece => ?_) (by simp : Except.ok () = _ → _)).trans
        (.silent rfl)
      exact ((hpieces piece hpiece).account law hV hhere hchain).1
  | joinStops _ hpieces hmem hendless =>
      refine .pieces (fun piece hpiece => ?_) fun hfuel => ?_
      · exact ((hpieces piece hpiece).account law hV hhere hchain).1
      · obtain rfl := Except.error.inj hfuel
        refine ((hpieces _ hmem).account law hV hhere hchain).2 (endless?_eq_some.mp hendless).1
  | refused thread workflowId message _ =>
      exact (Account.log fun _ _ => law.nestingRefused (hchain ▸ region.placed hhere)).exit (by simp)
  | child htype hmem htenant hfresh hrun =>
      have hnests : site.Nests engine _ := ⟨htype, hmem, htenant, hchain ▸ hfresh⟩
      have hplace := (region.nests hhere hnests).1
      have h : Account cond P limit _ _ _ := hrun.account law hV.frame
        (fun henters => hV.nests hnests henters) hplace (congrArg (· ++ [_]) hchain)
      refine ⟨List.prefix_append _ _, fun hcond hP event hevent => ?_, fun hfuel => h.fuel ?_⟩
      · rcases List.mem_append.mp hevent with hold | hnew
        · exact hP event hold
        · exact h.all rfl (fun event h => hcond event (List.mem_append_right _ h)) event hnew
      · exact collected_outOfFuel.mp hfuel
  | trans hfirst _ ih ih' =>
      exact (ih hchain).trans (ih' ((hfirst.frame hV.frame).workflowChain.trans hchain))

end Nested

/-! ## Accounts of one activation -/

section Activation

variable {engine : WorkflowEngine} {region : Region engine} {cond P : Event → Prop} {limit : Prop}
  {V : VisitRel} {site : Site} {thread mid thread' : Thread} {first activation : Activation}
  {before : WorkflowContext}

theorem settled_void (activation : Activation) (outcome : Outcome Unit) :
    (settled activation outcome).void = .error .outOfFuel ↔ outcome = .error .outOfFuel := by
  rcases outcome with (exc | _ | _) | _ <;> simp [settled, Outcome.void, Except.map]

variable (law : EventLaw region cond P) (hV : Accounted region cond P limit V site)
  (hhere : region.here site)
include law hV hhere

theorem Calls.account {outcome : Outcome NodeOutcome} (hadmitted : site.Admitted)
    (htries : (∀ event ∈ thread.trace, cond event) →
      Tries cond site (.start engine site.node before) activation)
    (h : Calls V engine site.workflow site.node site.depth activation thread thread' outcome)
    (hchain : thread.ctx.workflowChain = site.chain) :
    Account cond P limit thread thread' outcome.void := by
  refine Account.trans (.log fun hcond _ => ?_) (h.executes.1.account law hV hhere hchain)
  rw [Thread.site_eq hchain]
  exact law.called hhere hadmitted (htries hcond) h.retries

theorem Proceeds.account {activation' : Activation} {ended : Outcome (Except Exc Unit)}
    (hadmitted : site.Admitted)
    (htries : (∀ event ∈ thread.trace, cond event) →
      Tries cond site (.start engine site.node before) activation)
    (h : Proceeds V engine site.workflow site.node site.depth activation thread activation' thread'
      ended)
    (hchain : thread.ctx.workflowChain = site.chain) :
    Account cond P limit thread thread' (rethrown ended) := by
  obtain ⟨mid, start, output, entry, hcalls, hedits, _, _, rfl, htraverses⟩ := h
  have hmid := (hcalls.frame hV.frame).workflowChain.trans hchain
  have hstored : Account cond P limit mid (start.append (activation.call .returned) entry) (.ok ()) :=
    .silent hedits.trace
  exact ((hcalls.account law hV hhere hadmitted htries hchain).trans hstored).trans
    (htraverses.account law hV hhere (.successor _) (hedits.workflowChain.trans hmid))

theorem Attempts.account (hadmitted : site.Admitted)
    (h : Attempts V engine site.workflow site.node site.depth (.start engine site.node before)
      thread activation thread')
    (hchain : thread.ctx.workflowChain = site.chain) :
    Account cond P limit thread thread' (.ok ()) ∧ ((∀ event ∈ thread'.trace, cond event) →
      Tries cond site (.start engine site.node before) activation) := by
  induction h with
  | none => exact ⟨.silent rfl, fun _ => .first⟩
  | raised hattempts hcalls ih =>
      obtain ⟨haccount, htries⟩ := ih
      have hmid := (hattempts.frame hV.frame).workflowChain.trans hchain
      have hthread' := (hcalls.frame hV.frame).workflowChain.trans hmid
      have hcall := hcalls.account law hV hhere hadmitted htries hmid
      refine ⟨(haccount.trans hcall).trans (.log fun _ _ => ?_), fun hcond => ?_⟩
      · rw [Thread.site_eq hthread']
        exact law.executorRaised hhere
      · refine .raised (htries fun event hevent => hcond event (List.mem_append_left _ ?_))
        exact hcall.grows.subset hevent
  | descendant hattempts hproceeds ih =>
      obtain ⟨haccount, htries⟩ := ih
      have hmid := (hattempts.frame hV.frame).workflowChain.trans hchain
      have hproceeded := hproceeds.account law hV hhere hadmitted htries hmid
      refine ⟨(haccount.trans hproceeded).exit (by simp), fun hcond => ?_⟩
      have htries' := htries fun event hevent => hcond event (hproceeded.grows.subset hevent)
      obtain ⟨_, start, output, entry, hcalls, hedits, hentry, _, rfl, htraverses⟩ := hproceeds
      obtain ⟨last, hlast, rfl⟩ := htraverses
      have hframe := hcalls.frame hV.frame
      have hstart : start.ctx.workflowChain = site.chain :=
        hedits.workflowChain.trans (hframe.workflowChain.trans hmid)
      have hraised := hcond _ (List.mem_append_right last.trace (List.mem_singleton_self _))
      rw [Thread.site_eq ((hlast.frame hV.frame).workflowChain.trans hstart)] at hraised
      exact .descendant start _ htries' hentry hraised

variable {result : Outcome (Activation × Except Exc Unit)}

/-- The end of the `except` clause. -/
theorem GivesUp.account (hcalls : activation.calls ≠ [])
    (htries : (∀ event ∈ thread.trace, cond event) →
      Tries cond site (.start engine site.node before) activation)
    (h : GivesUp V site.workflow site.node site.depth activation thread thread' result)
    (hchain : thread.ctx.workflowChain = site.chain) :
    Account cond P limit thread thread' result.void ∧
      ∀ activation' ended, result = .ok (activation', ended) →
        (∀ event ∈ thread'.trace, cond event) →
        Finishes cond site (.start engine site.node before) activation' := by
  have happend : ∀ {entry}, Account cond P limit thread (thread.append activation entry) (.ok ()) :=
    .silent rfl
  have hfinishes : ∀ {entry : Entry} {last : Thread} {outcome : Outcome Unit},
      activation.entry.Updates entry .failed →
      thread.trace <+: last.trace →
      ∀ activation' ended, settled (activation.append thread entry) outcome =
          .ok (activation', ended) → (∀ event ∈ last.trace, cond event) →
        Finishes cond site (.start engine site.node before) activation' := by
    intro entry last outcome hentry hgrows activation' ended hresult hcond
    obtain rfl : activation' = activation.append thread entry := by
      rcases outcome with (exc | _ | _) | _ <;> simp_all [settled]
    exact .failed thread (htries fun event hevent => hcond event (hgrows.subset hevent)) hcalls hentry
  cases h with
  | @handler exc entry handler _ outcome hentry hhandler hvisit =>
      have hevent : (∀ event ∈ thread.trace, cond event) → P (.handled
          (thread.site site.workflow site.node site.depth) activation.calls handler
          (errorInfo site.node exc thread.ctx.toScope)) := fun hcond => by
        rw [Thread.site_eq hchain]
        exact law.handled hhere hcalls (htries hcond) hhandler
      have hset : Account cond P limit thread ((thread.append activation entry).mapScope fun scope =>
          scope.setVar "_error" (errorInfo site.node exc thread.ctx.toScope)) (.ok ()) :=
        .silent rfl
      have hrest := (hset.trans (.log fun hcond _ => hevent hcond)).trans
        (hV.starts (.handler hhandler) hchain hvisit)
      exact ⟨hrest.exit (settled_void _ _).mp, hfinishes hentry hrest.grows⟩
  | carryOn hentry _ _ htraversal =>
      have hrest := happend.trans (htraversal.account law hV.frame
        (fun hmem hdepth => hV.starts (.successor _ hmem hdepth)) (region.placed hhere) hchain)
      exact ⟨hrest.exit (settled_void _ _).mp, hfinishes hentry hrest.grows⟩
  | ignore hentry _ _ =>
      refine ⟨happend, fun activation' ended hresult hcond => ?_⟩
      simp only [Except.ok.injEq, Prod.mk.injEq] at hresult
      exact hresult.1 ▸ .failed thread (htries hcond) hcalls hentry
  | raises message hentry _ _ _ =>
      refine ⟨happend.exit (by simp [Outcome.void, Except.map]), fun activation' ended hresult hcond => ?_⟩
      simp only [Except.ok.injEq, Prod.mk.injEq] at hresult
      exact hresult.1 ▸ .failed thread (htries hcond) hcalls hentry

/-- The `try` statement with its `except` clause. -/
theorem Body.account (hadmitted : site.Admitted)
    (h : Body V engine site.workflow site.node site.depth (.start engine site.node before) thread
      thread' result)
    (hchain : thread.ctx.workflowChain = site.chain) :
    Account cond P limit thread thread' result.void ∧
      ∀ activation' ended, result = .ok (activation', ended) →
        (∀ event ∈ thread'.trace, cond event) →
        Finishes cond site (.start engine site.node before) activation' := by
  cases h with
  | stops hattempts _ hcalls =>
      obtain ⟨haccount, htries⟩ := hattempts.account law hV hhere hadmitted hchain
      have hmid := (hattempts.frame hV.frame).workflowChain.trans hchain
      exact ⟨haccount.trans (hcalls.account law hV hhere hadmitted htries hmid),
        fun _ _ h => nomatch h⟩
  | @ends last mid _ start told entry hattempts hcalls _ hedits hentry =>
      obtain ⟨haccount, htries⟩ := hattempts.account law hV hhere hadmitted hchain
      have hmid := (hattempts.frame hV.frame).workflowChain.trans hchain
      have hstored : Account cond P limit _ (start.append (last.call .returned) entry) (.ok ()) :=
        .silent hedits.trace
      have hall := (haccount.trans (hcalls.account law hV hhere hadmitted htries hmid)).trans hstored
      refine ⟨hall, fun activation' ended hresult hcond => ?_⟩
      simp only [Except.ok.injEq, Prod.mk.injEq] at hresult
      refine hresult.1 ▸ .returned start (htries fun event hevent => hcond event ?_) hentry
        told.status_ne_failed
      have hgrows := (hcalls.account law hV hhere hadmitted htries hmid).trans hstored
      exact hgrows.grows.subset hevent
  | @proceeds last mid after _ ended hattempts hproceeds _ =>
      obtain ⟨haccount, htries⟩ := hattempts.account law hV hhere hadmitted hchain
      have hmid := (hattempts.frame hV.frame).workflowChain.trans hchain
      have hproceeded := hproceeds.account law hV hhere hadmitted htries hmid
      refine ⟨(haccount.trans hproceeded).exit (settled_void _ _).mp,
        fun activation' result hresult hcond => ?_⟩
      obtain rfl : activation' = after := by
        rcases ended with (exc | _ | _) | (exc | _) <;> simp_all [settled, rethrown]
      obtain ⟨_, start, output, entry, _, _, hentry, _, rfl, _⟩ := hproceeds
      refine .returned start (htries fun event hevent => hcond event ?_) hentry (by simp)
      exact hproceeded.grows.subset hevent
  | givesUp hattempts hcalls hgives =>
      obtain ⟨haccount, htries⟩ := hattempts.account law hV hhere hadmitted hchain
      have hmid := (hattempts.frame hV.frame).workflowChain.trans hchain
      obtain ⟨hgiven, hfinishes⟩ := hgives.account law hV hhere hcalls htries hmid
      exact ⟨haccount.trans hgiven, hfinishes⟩

theorem Activates.account {outcome : Outcome Unit}
    (h : Activates V engine site.workflow site.node site.depth thread thread' outcome)
    (hchain : thread.ctx.workflowChain = site.chain) :
    Account cond P limit thread thread' outcome := by
  have hsite := Thread.site_eq hchain
  have harrived : site.Admitted → Account cond P limit thread
      (thread.log [.arrived (thread.site site.workflow site.node site.depth)]) (.ok ()) :=
    fun hadmitted => .log fun _ _ => by rw [hsite]; exact law.arrived hhere (.inl hadmitted)
  cases h with
  | mergeRaised message htype =>
      rw [hsite, Thread.log_log]
      refine ⟨List.prefix_append _ _, fun hcond hP event hevent => ?_, by simp⟩
      have hraised := hcond (.mergeRaised site ⟨message, none⟩) (by simp)
      simp only [List.singleton_append, Thread.log_trace, List.mem_append, List.mem_cons,
        List.not_mem_nil, or_false] at hevent
      rcases hevent with hold | rfl | rfl
      · exact hP event hold
      · exact law.arrived hhere (.inr ⟨_, hraised⟩)
      · exact law.mergeRaised hhere htype
  | mergeSkipped hincoming htype =>
      refine (harrived fun _ => hincoming).trans (.log fun _ _ => ?_)
      rw [hsite]
      exact law.mergeSkipped hhere htype fun _ => hincoming
  | stops hadmitted hbody =>
      have haccount := (hbody.account law hV hhere hadmitted hchain).1
      exact ((harrived hadmitted).trans haccount).exit fun h => congrArg Except.error (Except.error.inj h)
  | @left mid activation ended hadmitted hbody =>
      have hmid := ((Frame.log _ _).trans (hbody.frame hV.frame)).workflowChain.trans hchain
      obtain ⟨haccount, hfinishes⟩ := hbody.account law hV hhere hadmitted hchain
      refine (((harrived hadmitted).trans haccount).trans (.log fun hcond _ => ?_)).exit ?_
      · rw [Thread.site_eq hmid]
        exact law.left hhere hadmitted (hfinishes _ _ rfl hcond)
      · rcases ended with exc | _ <;> simp [exitOf]

end Activation

/-! ## Accounts of runs -/

namespace WorkflowEngine

variable {engine : WorkflowEngine} {region : Region engine} {cond P : Event → Prop}
  {replies : (request : Request) → Reply request → Prop}

/-- Everything that happens in an activation satisfies the laws of its region, and it only runs
out of fuel below its rank. -/
theorem behaviour_account (law : EventLaw region cond P) (fuel : Nat) {site : Site}
    {thread thread' : Thread} {outcome : Outcome Unit} (hhere : region.here site)
    (hchain : thread.ctx.workflowChain = site.chain)
    (h : engine.Behaviour replies fuel site.workflow site.node site.depth thread thread' outcome) :
    Account cond P (fuel ≤ region.rank site) thread thread' outcome := by
  induction fuel generalizing site thread thread' outcome with
  | zero =>
      obtain ⟨rfl, rfl⟩ := behaviour_zero h
      exact ⟨List.prefix_refl _, fun _ h => h, fun _ => by simp⟩
  | succ fuel ih =>
      have hlimit : ∀ {site' : Site}, region.rank site' + 1 ≤ region.rank site →
          fuel ≤ region.rank site' → ((fuel + 1 : Nat) : ℕ∞) ≤ region.rank site :=
        fun hrank hfuel => le_trans (by push_cast; gcongr) hrank
      have hlower : ∀ {site' : Site} {t t' : Thread} {o : Outcome Unit},
          region.rank site' + 1 ≤ region.rank site →
          Account cond P (fuel ≤ region.rank site') t t' o →
          Account cond P ((fuel + 1 : Nat) ≤ region.rank site) t t' o :=
        fun hrank haccount =>
          ⟨haccount.grows, haccount.events, fun h => hlimit hrank (haccount.fuel h)⟩
      refine (behaviour_succ h).account law ⟨behaviour_frame, fun hstarts ht hV => ?_,
        fun hnests henters ht hV => ?_⟩ hhere hchain
      · obtain ⟨hbelow, hrank⟩ := region.starts hhere hstarts
        exact hlower hrank (ih hbelow ht hV)
      · obtain ⟨hplace, hrank⟩ := region.nests hhere hnests
        have hsite := region.enters hplace henters
        exact hlower (hrank henters) (ih hsite (by cases henters; exact ht) hV)

/-- Everything that happens in a run of `execute_workflow` satisfies the laws of a region that
contains it. -/
theorem Runs.account (law : EventLaw region cond P) {fuel : Nat}
    {triggerData : Dict} {dryRun : Bool} {parentChain : List String} {trace : List Event}
    {outcome : Outcome Execution}
    (h : engine.Runs replies fuel workflow triggerData dryRun parentChain trace outcome)
    (hplace : region.place (parentChain ++ [workflow.id]) workflow)
    (hcond : ∀ event ∈ trace, cond event) :
    (∀ event ∈ trace, P event) ∧ (outcome = .error .outOfFuel →
      ∃ site, Enters (parentChain ++ [workflow.id]) workflow site ∧ fuel ≤ region.rank site) := by
  obtain ⟨id, ended, hended, rfl, rfl⟩ := h.fromTrigger
  have haccount : Account cond P (∃ site, Enters (parentChain ++ [workflow.id]) workflow site ∧
      fuel ≤ region.rank site) _ _ _ := hended.account law behaviour_frame
    (fun henters ht hV => by
      have h := behaviour_account law fuel (region.enters hplace henters)
        (by cases henters; exact ht) hV
      exact ⟨h.grows, h.events, fun hfuel => ⟨_, henters, h.fuel hfuel⟩⟩) hplace rfl
  refine ⟨haccount.all rfl hcond, fun hfuel => haccount.fuel ?_⟩
  rcases ended with ⟨thread, (exc | _ | _) | _⟩ <;> simp_all [finished]

/-- Everything that happens in a run of `rerun_from_node` satisfies the laws of a region that
contains the activation with which it starts. -/
theorem Reruns.account (law : EventLaw region cond P) {fuel : Nat}
    {original : Execution} {fromNodeId : String} {overrideData : Dict} {trace : List Event}
    {outcome : Outcome Execution}
    (h : engine.Reruns replies fuel workflow original fromNodeId overrideData trace outcome)
    (hhere : ∀ node, workflow.graph.getNode fromNodeId = some node →
      region.here ⟨[workflow.id], workflow, node, 0⟩)
    (hcond : ∀ event ∈ trace, cond event) : ∀ event ∈ trace, P event := by
  obtain ⟨id, ⟨thread', outcome'⟩, hended, rfl, rfl⟩ := h.fromNode
  cases hended with
  | missing message _ => simp
  | visit hnode hvisit =>
      have hrerun := behaviour_account law fuel (hhere _ hnode) rfl hvisit
      exact hrerun.all rfl hcond

end WorkflowEngine

end IntegrationPlatform
