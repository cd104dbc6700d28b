import IntegrationPlatform.Workflow.Dispatch

/-!
# Failures and where they are noted

What an execution says about its failures: the entries of `node_results`, the `error_node_id`,
and the `_error` that a handler finds. All of it is right as long as no exception of one
activation reaches another: `Undisturbed` is that condition. Where an exception does reach the
activation of an ancestor, `Reraises` is the condition under which a failure of a node that is
to stop the run still stops it.
-/

namespace IntegrationPlatform

open Resumption Eng WorkflowEngine

/-! ## The chain of an execution -/

/-- The places and sites whose chain extends a chain. -/
def extending (engine : WorkflowEngine) (chain : List String) : Region engine where
  place chain' _ := chain <+: chain'
  here site := chain <+: site.chain
  rank _ := ⊤
  placed h := h
  enters h henters := by cases henters; exact h
  starts h _ := ⟨h, le_top⟩
  nests h _ := ⟨h.trans (List.prefix_append _ _), fun _ => le_top⟩

theorem FromTrigger.chain {engine : WorkflowEngine}
    {replies : (request : Request) → Reply request → Prop} {fuel : Nat} {workflow : Workflow}
    {ctx : WorkflowContext} {thread' : Thread} {outcome : Outcome Unit}
    (h : FromTrigger (engine.Behaviour replies fuel) workflow ⟨ctx, []⟩ thread' outcome) :
    ∀ event ∈ thread'.trace, ctx.workflowChain <+: event.chain := by
  have hlaw := EventLaw.place (extending engine ctx.workflowChain) fun _ => True
  have haccount : Account (fun _ => True) _ True _ _ _ := h.account hlaw behaviour_frame
    (fun henters ht hV => by
      have hvisit := behaviour_account hlaw fuel
        ((extending engine ctx.workflowChain).enters (List.prefix_refl _) henters)
        (by cases henters; exact ht) hV
      exact ⟨hvisit.grows, hvisit.events, fun _ => trivial⟩) (List.prefix_refl _) rfl
  exact haccount.all rfl fun _ _ => trivial

/-! ## Undisturbed activations -/

/-- The event is not that of an exception that reaches an activation on this chain from outside
its executor, nor that of a merge node. -/
def Event.Undisturbed (chain : List String) : Event → Prop
  | .descendantRaised site _ _ => site.chain ≠ chain
  | .mergeRaised site _ => site.chain ≠ chain
  | .mergeSkipped site => site.chain ≠ chain
  | _ => True

theorem Tries.undisturbed {site : Site} {first activation : Activation}
    (h : Tries (Event.Undisturbed site.chain) site first activation)
    (hfirst : .returned ∉ first.calls) :
    activation.entry = first.entry ∧ activation.positions = first.positions ∧
      .returned ∉ activation.calls := by
  induction h with
  | first => exact ⟨rfl, rfl, hfirst⟩
  | raised _ ih => exact ⟨ih.1, ih.2.1, by simp [Activation.call, ih.2.2]⟩
  | descendant thread exc _ _ hundisturbed _ => exact absurd rfl hundisturbed

/-- Of the calls of an activation, none returned and at least one raised. -/
def OnlyRaised (calls : List CallOutcome) : Prop :=
  .returned ∉ calls ∧ .raised ∈ calls

theorem onlyRaised {calls : List CallOutcome} (hne : calls ≠ []) (h : .returned ∉ calls) :
    OnlyRaised calls := by
  refine ⟨h, ?_⟩
  cases calls with
  | nil => exact absurd rfl hne
  | cons call rest => cases call <;> simp_all

/-- What an event on a chain has to say about a failure: an activation appends one entry, for its
node, that has failed exactly when its own calls only raised, and a handler finds the id of the
node whose calls only raised. -/
def Event.Attributes (chain : List String) : Event → Prop
  | .left site _ _ activation _ => site.chain = chain →
      activation.positions.length = 1 ∧ activation.entry.nodeId = site.node.id ∧
        (activation.entry.status = .failed ↔ OnlyRaised activation.calls)
  | .handled site calls _ error => site.chain = chain →
      OnlyRaised calls ∧ error.get "failed_node_id" .null = .ok (.str site.node.id)
  | _ => True

theorem EventLaw.attributes (engine : WorkflowEngine) (chain : List String) :
    EventLaw (everywhere engine) (Event.Undisturbed chain) (Event.Attributes chain) where
  started _ := trivial
  depthExceeded _ := trivial
  nestingRefused _ := trivial
  arrived _ _ := trivial
  mergeRaised _ _ := trivial
  mergeSkipped _ _ _ := trivial
  called _ _ _ _ := trivial
  executorRaised _ := trivial
  descendantRaised _ _ := trivial
  handled _ hcalls htries _ hchain := by
    subst hchain
    exact ⟨onlyRaised hcalls (htries.undisturbed (by simp [Activation.start])).2.2, rfl⟩
  left _ _ hfinishes hchain := by
    subst hchain
    cases hfinishes with
    | returned thread htries hentry hstatus =>
        obtain ⟨hfirst, hpositions, _⟩ := htries.undisturbed (by simp [Activation.start])
        refine ⟨by simp [Activation.append, Activation.call, hpositions, Activation.start], ?_, ?_⟩
        · exact hentry.nodeId.trans (congrArg Entry.nodeId hfirst)
        · refine ⟨fun hfailed => absurd (hentry.status.symm.trans hfailed) hstatus, fun honly => ?_⟩
          exact absurd (by simp [Activation.append, Activation.call]) honly.1
    | failed thread htries hcalls hentry =>
        obtain ⟨hfirst, hpositions, hreturned⟩ := htries.undisturbed (by simp [Activation.start])
        refine ⟨by simp [Activation.append, hpositions, Activation.start], ?_, ?_⟩
        · exact hentry.nodeId.trans (congrArg Entry.nodeId hfirst)
        · exact iff_of_true hentry.status (onlyRaised hcalls hreturned)

/-! ## Entries and activations -/

/-- What an entry of `node_results` says: the node, and whether it has failed. -/
def Entry.verdict (entry : Entry) : String × Bool :=
  (entry.nodeId, entry.status = .failed)

/-- What an activation on a chain, at its end, has to say: the node, and whether its calls only
raised. -/
def Event.verdict (chain : List String) : Event → Option (String × Bool)
  | .left site _ _ activation _ =>
      if site.chain = chain then some (site.node.id, .returned ∉ activation.calls) else none
  | _ => none

/-- How many entries say so. -/
def Thread.noted (thread : Thread) (verdict : String × Bool) : Nat :=
  (thread.ctx.nodeResults.map Entry.verdict).count verdict

/-- How many activations on the chain have ended so. -/
def Thread.ended (chain : List String) (thread : Thread) (verdict : String × Bool) : Nat :=
  (thread.trace.filterMap (Event.verdict chain)).count verdict

/-- As many entries have been added as activations have ended, with the same verdicts. -/
def Balanced (chain : List String) (thread thread' : Thread) : Prop :=
  ∀ verdict, thread'.noted verdict + thread.ended chain verdict =
    thread.noted verdict + thread'.ended chain verdict

/-- The exception is the failure of a node whose calls only raised, or that of the depth limit. -/
def Explained (chain : List String) (trace : List Event) (exc : Exc) : Prop :=
  (∃ site before after activation, .left site before after activation (.error exc) ∈ trace ∧
      site.chain = chain ∧ OnlyRaised activation.calls ∧ exc.nodeId = some site.node.id) ∨
    ∃ workflow depth, .depthExceeded chain workflow depth ∈ trace

/-- Without disturbances, the entries are balanced and exceptions are explained. -/
structure Attributed (chain : List String) (thread thread' : Thread) (outcome : Outcome Unit) :
    Prop where
  balanced : (∀ event ∈ thread'.trace, event.Undisturbed chain) → endless? outcome = none →
    Balanced chain thread thread'
  explained : (∀ event ∈ thread'.trace, event.Undisturbed chain) →
    ∀ exc, outcome = .error (.raised exc) → Explained chain thread'.trace exc

section Balance

variable {chain : List String} {thread mid thread' : Thread}

theorem Balanced.refl (chain : List String) (thread : Thread) : Balanced chain thread thread :=
  fun _ => rfl

theorem Balanced.trans (h : Balanced chain thread mid) (h' : Balanced chain mid thread') :
    Balanced chain thread thread' := by
  intro verdict
  have := h verdict
  have := h' verdict
  omega

theorem Balanced.edits (h : Edits thread thread') : Balanced chain thread thread' := by
  intro verdict
  simp [Thread.noted, Thread.ended, h.trace, h.nodeResults]

theorem Balanced.log {events : List Event}
    (h : ∀ event ∈ events, event.verdict chain = none) :
    Balanced chain thread (thread.log events) := by
  intro verdict
  have hnone : events.filterMap (Event.verdict chain) = [] :=
    List.filterMap_eq_nil_iff.mpr h
  simp [Thread.noted, Thread.ended, List.filterMap_append, hnone]

theorem Balanced.event {event : Event} (h : event.verdict chain = none) :
    Balanced chain thread (thread.log [event]) :=
  .log fun _ hevent => List.mem_singleton.mp hevent ▸ h

theorem noted_append {activation : Activation} {entry : Entry} (h : activation.positions = [])
    (verdict : String × Bool) :
    (thread.append activation entry).noted verdict =
      thread.noted verdict + [entry.verdict].count verdict := by
  simp [Thread.append, Thread.noted, h]

theorem Balanced.join {pieces : List (Thread × Outcome Unit)}
    (h : ∀ piece ∈ pieces, ∀ verdict, piece.1.noted verdict = piece.1.ended chain verdict) :
    Balanced chain thread (thread.join pieces) := by
  have hpieces : ∀ verdict,
      ((pieces.flatMap fun piece => piece.1.ctx.nodeResults).map Entry.verdict).count verdict =
        ((pieces.flatMap fun piece => piece.1.trace).filterMap (Event.verdict chain)).count
          verdict := by
    intro verdict
    induction pieces with
    | nil => rfl
    | cons piece rest ih =>
        have hrest := ih fun piece hpiece => h piece (List.mem_cons_of_mem _ hpiece)
        have hpiece := h piece (List.mem_cons_self ..) verdict
        simp only [Thread.noted, Thread.ended] at hpiece
        simp only [List.flatMap_cons, List.map_append, List.filterMap_append, List.count_append]
        omega
  intro verdict
  have := hpieces verdict
  simp only [Thread.join, Thread.noted, Thread.ended, Thread.mapResults_nodeResults, Thread.log_ctx,
    Thread.mapResults_trace, Thread.log_trace, List.map_append, List.filterMap_append,
    List.count_append]
  omega

end Balance

/-! ## Attribution -/

section Attribution

variable {V : VisitRel} {engine : WorkflowEngine} {chain : List String} {workflow : Workflow}
  {node : Node} {depth : Nat} {nodes : List Node} {thread thread' : Thread}
  {outcome : Outcome Unit}

/-- What the nested activations of an execution on this chain have to satisfy. -/
structure AttributedVisits (V : VisitRel) (chain : List String) : Prop where
  frame : ∀ {w n d t t' o}, V w n d t t' o → Frame t t'
  visits : ∀ {w n d t t' o}, t.ctx.workflowChain = chain → V w n d t t' o → Attributed chain t t' o
  children : ∀ {child ctx t' o}, FromTrigger V child ⟨ctx, []⟩ t' o →
    ∀ event ∈ t'.trace, ctx.workflowChain <+: event.chain

variable (hV : AttributedVisits V chain)
include hV

theorem Each.attributed (h : Each V workflow depth nodes thread thread' outcome)
    (hchain : thread.ctx.workflowChain = chain) : Attributed chain thread thread' outcome := by
  induction h with
  | nil thread => exact ⟨fun _ _ => .refl _ _, fun _ _ h => nomatch h⟩
  | cons hvisit hrest ih =>
      have hmid := ih ((hV.frame hvisit).workflowChain.trans hchain)
      refine ⟨fun hcond hends => ?_, hmid.explained⟩
      exact ((hV.visits hchain hvisit).balanced ((hrest.frame hV.frame).before hcond) rfl).trans
        (hmid.balanced hcond hends)
  | stop hvisit => exact hV.visits hchain hvisit

theorem Traversal.attributed (h : Traversal V workflow depth nodes thread thread' outcome)
    (hchain : thread.ctx.workflowChain = chain) : Attributed chain thread thread' outcome := by
  cases h with
  | exceeded message _ _ =>
      refine ⟨fun _ _ => .event rfl, fun _ _ _ => .inr ⟨workflow, depth, ?_⟩⟩
      simp [hchain]
  | each _ heach => exact heach.attributed hV hchain

theorem Piece.balanced (h : Piece V workflow node depth thread thread' outcome)
    (hchain : thread.ctx.workflowChain = chain)
    (hcond : ∀ event ∈ thread'.trace, event.Undisturbed chain) (hends : endless? outcome = none)
    (verdict : String × Bool) : thread'.noted verdict = thread'.ended chain verdict := by
  have hstart : ∀ {start : Thread}, Forks thread start → Balanced chain start thread' →
      thread'.noted verdict = thread'.ended chain verdict := by
    intro start hforks hbalanced
    have := hbalanced verdict
    simpa [Thread.noted, Thread.ended, hforks.trace, hforks.nodeResults] using this
  cases h with
  | branch _ _ hforks hvisit =>
      exact hstart hforks ((hV.visits (hforks.workflowChain.trans hchain) hvisit).balanced hcond hends)
  | item _ hforks htraversal =>
      exact hstart hforks ((htraversal.attributed hV
        (hforks.workflowChain.trans hchain)).balanced hcond hends)

theorem Inside.balanced (h : Inside V engine workflow node depth thread thread' outcome)
    (hchain : thread.ctx.workflowChain = chain)
    (hcond : ∀ event ∈ thread'.trace, event.Undisturbed chain) (hends : endless? outcome = none) :
    Balanced chain thread thread' := by
  induction h with
  | edit hedits => exact .edits hedits
  | raises exc hedits => exact .edits hedits
  | blocks _ _ => exact nomatch hends
  | @body _ _ ended _ hbody =>
      rcases ended with stop | exc | value
      · exact (hbody.2.attributed hV hchain).balanced hcond (by simpa [rethrown] using hends)
      · obtain ⟨mid, hmid, rfl⟩ := hbody
        have hdisturbed := hcond _ (List.mem_append_right _ (List.mem_singleton_self _))
        exact absurd ((hmid.frame hV.frame).workflowChain.trans hchain) hdisturbed
      · exact (Traversal.attributed hV hbody hchain).balanced hcond hends
  | join _ hpieces hjoined =>
      refine .join fun piece hpiece => (hpieces piece hpiece).balanced hV hchain (fun event hevent =>
        hcond event (List.mem_append_right _ ?_)) (hjoined piece hpiece)
      exact List.mem_flatMap.mpr ⟨piece, hpiece, hevent⟩
  | joinStops _ _ _ hendless =>
      have hstop := endless?_eq_some.mpr ⟨rfl, (endless?_eq_some.mp hendless).2⟩
      exact absurd (hstop.symm.trans hends) (by simp)
  | refused thread workflowId message _ => exact .event rfl
  | @child thread child _ ended _ _ _ _ _ hrun =>
      refine .log fun event hevent => ?_
      have hnested := hV.children hrun event hevent
      have hne : event.chain ≠ chain := by
        intro heq
        have hlength := hnested.length_le
        rw [heq] at hlength
        simp [initialContext, hchain] at hlength
      cases event with
      | left site before after activation result => exact if_neg hne
      | _ => rfl
  | trans hfirst hrest ih ih' =>
      have hmid := (hfirst.frame hV.frame).workflowChain.trans hchain
      exact (ih hchain ((hrest.frame hV.frame).before hcond) rfl).trans (ih' hmid hcond hends)

theorem Attempts.undisturbed {first activation : Activation}
    (h : Attempts V engine workflow node depth first thread activation thread')
    (hchain : thread.ctx.workflowChain = chain) (hfirst : .returned ∉ first.calls)
    (hcond : ∀ event ∈ thread'.trace, event.Undisturbed chain) :
    activation.entry = first.entry ∧ activation.positions = first.positions ∧
      .returned ∉ activation.calls ∧ Balanced chain thread thread' := by
  induction h with
  | none => exact ⟨rfl, rfl, hfirst, .refl _ _⟩
  | raised hattempts hcalls ih =>
      have hmid := (hattempts.frame hV.frame).workflowChain.trans hchain
      have hcalled := (Frame.log _ _).before hcond
      obtain ⟨hentry, hpositions, hreturned, hbalanced⟩ := ih ((hcalls.frame hV.frame).before hcalled)
      refine ⟨hentry, hpositions, by simp [Activation.call, hreturned], hbalanced.trans ?_⟩
      have hcall := hcalls.executes.1.balanced hV hmid hcalled rfl
      exact (Balanced.trans (.event rfl) hcall).trans (.event rfl)
  | descendant hattempts hproceeds _ =>
      have hmid := (hattempts.frame hV.frame).workflowChain.trans hchain
      obtain ⟨_, start, _, _, hcalls, hedits, _, _, _, last, hlast, rfl⟩ := hproceeds
      have hdisturbed := hcond _ (List.mem_append_right _ (List.mem_singleton_self _))
      have hstart := hedits.workflowChain.trans ((hcalls.frame hV.frame).workflowChain.trans hmid)
      exact absurd ((hlast.frame hV.frame).workflowChain.trans hstart) hdisturbed

end Attribution

/-- An activation has appended its entry and still has to note its end. -/
def Owes (chain : List String) (node : Node) (activation : Activation) (thread thread' : Thread) :
    Prop :=
  ∀ verdict, thread'.noted verdict + thread.ended chain verdict = thread.noted verdict +
    thread'.ended chain verdict +
      [(node.id, decide (.returned ∉ activation.calls))].count verdict

section Activation

variable {V : VisitRel} {engine : WorkflowEngine} {chain : List String} {workflow : Workflow}
  {node : Node} {depth : Nat} {thread mid thread' : Thread} {activation : Activation}

theorem Balanced.owes (h : Balanced chain thread mid) (h' : Owes chain node activation mid thread') :
    Owes chain node activation thread thread' := by
  intro verdict
  have := h verdict
  have := h' verdict
  omega

theorem Owes.balanced (h : Owes chain node activation thread mid)
    (h' : Balanced chain mid thread') : Owes chain node activation thread thread' := by
  intro verdict
  have := h verdict
  have := h' verdict
  omega

theorem Owes.append {entry : Entry} (hpositions : activation.positions = [])
    (hverdict : entry.verdict = (node.id, decide (.returned ∉ activation.calls))) :
    Owes chain node activation thread (thread.append activation entry) := by
  intro verdict
  rw [noted_append hpositions, hverdict]
  have hended : (thread.append activation entry).ended chain verdict =
      thread.ended chain verdict := rfl
  omega

variable {ended : Except Exc Unit}

theorem Owes.left {before after : WorkflowContext}
    (h : Owes chain node activation thread thread') (hchain : thread'.ctx.workflowChain = chain) :
    Balanced chain thread
      (thread'.log [.left (thread'.site workflow node depth) before after activation ended]) := by
  intro verdict
  have := h verdict
  have hevent : (Event.left (thread'.site workflow node depth) before after activation
      ended).verdict chain = some (node.id, decide (.returned ∉ activation.calls)) :=
    if_pos hchain
  simp only [Thread.noted, Thread.ended, Thread.log_ctx, Thread.log_trace, List.filterMap_append,
    List.filterMap_cons, List.filterMap_nil, hevent, List.count_append] at this ⊢
  omega

variable (hV : AttributedVisits V chain)
include hV

/-- Without disturbances, the end of the `except` clause appends the entry that is owed. -/
theorem GivesUp.attributed {activation' : Activation}
    (h : GivesUp V workflow node depth activation thread thread' (.ok (activation', ended)))
    (hchain : thread.ctx.workflowChain = chain) (hnode : activation.entry.nodeId = node.id)
    (hpositions : activation.positions = []) (honly : OnlyRaised activation.calls)
    (hcond : ∀ event ∈ thread'.trace, event.Undisturbed chain) :
    activation'.calls = activation.calls ∧ Owes chain node activation' thread thread' ∧
      ∀ exc, ended = .error exc →
        Explained chain thread'.trace exc ∨ exc.nodeId = some node.id := by
  have hstored : ∀ {entry : Entry}, activation.entry.Updates entry .failed →
      Owes chain node activation thread (thread.append activation entry) := by
    intro entry hentry
    refine .append hpositions ?_
    simp [Entry.verdict, hentry.nodeId, hnode, hentry.status, honly.1]
  have hsettled : ∀ {entry : Entry} {outcome : Outcome Unit},
      .ok (activation', ended) = settled (activation.append thread entry) outcome →
      activation' = activation.append thread entry ∧ endless? outcome = none ∧
        ∀ exc, ended = .error exc → outcome = .error (.raised exc) := by
    intro entry outcome hresult
    rcases outcome with (exc | _ | _) | _
    · obtain ⟨rfl, rfl⟩ := Prod.mk.inj (Except.ok.inj hresult)
      exact ⟨rfl, rfl, fun exc h => by rw [Except.error.inj h]⟩
    · exact nomatch hresult
    · exact nomatch hresult
    · obtain ⟨rfl, rfl⟩ := Prod.mk.inj (Except.ok.inj hresult)
      exact ⟨rfl, rfl, fun exc h => nomatch h⟩
  generalize hresult : (.ok (activation', ended) : Outcome (Activation × Except Exc Unit)) =
    result at h
  cases h with
  | @handler exc entry handler _ _ hentry _ hvisit =>
      obtain ⟨rfl, hends, hraised⟩ := hsettled hresult
      have hattributed := hV.visits (by exact hchain) hvisit
      have hset : Balanced chain (thread.append activation entry) _ := .edits (.setVar _ "_error"
        (errorInfo node exc thread.ctx.toScope))
      refine ⟨rfl, ?_, fun exc h => .inl (hattributed.explained hcond exc (hraised exc h))⟩
      exact (hstored hentry).balanced ((hset.trans (.event rfl)).trans
        (hattributed.balanced hcond hends))
  | carryOn hentry _ _ htraversal =>
      obtain ⟨rfl, hends, hraised⟩ := hsettled hresult
      have hattributed := htraversal.attributed hV (by exact hchain)
      refine ⟨rfl, ?_, fun exc h => .inl (hattributed.explained hcond exc (hraised exc h))⟩
      exact (hstored hentry).balanced (hattributed.balanced hcond hends)
  | ignore hentry _ _ =>
      obtain ⟨rfl, rfl⟩ := Prod.mk.inj (Except.ok.inj hresult)
      exact ⟨rfl, hstored hentry, fun _ h => nomatch h⟩
  | raises message hentry _ _ _ =>
      obtain ⟨rfl, rfl⟩ := Prod.mk.inj (Except.ok.inj hresult)
      exact ⟨rfl, hstored hentry, fun exc h => .inr (Except.error.inj h ▸ rfl)⟩

theorem Proceeds.attributed {activation' : Activation} {ended : Outcome (Except Exc Unit)}
    (h : Proceeds V engine workflow node depth activation thread activation' thread' ended)
    (hchain : thread.ctx.workflowChain = chain) (hnode : activation.entry.nodeId = node.id)
    (hpositions : activation.positions = []) (hends : endless? (rethrown ended) = none)
    (hcond : ∀ event ∈ thread'.trace, event.Undisturbed chain) :
    ended = .ok (.ok ()) ∧ Owes chain node activation' thread thread' := by
  obtain ⟨mid, start, output, entry, hcalls, hedits, hentry, _, rfl, htraverses⟩ := h
  have hstart : start.ctx.workflowChain = chain :=
    hedits.workflowChain.trans ((hcalls.frame hV.frame).workflowChain.trans hchain)
  have hmid := ((hedits.frame.trans (.append _ _ _)).trans (htraverses.frame hV.frame)).before hcond
  have hcalled : Balanced chain thread mid :=
    (Balanced.event rfl).trans (hcalls.executes.1.balanced hV hchain hmid rfl)
  have howes : Owes chain node (activation.call .returned) start
      (start.append (activation.call .returned) entry) := by
    refine .append hpositions ?_
    simp [Entry.verdict, hentry.nodeId, hnode, hentry.status, Activation.call]
  rcases ended with stop | exc | value
  · obtain ⟨hne, -⟩ := htraverses
    exact absurd (hends.symm.trans (endless?_eq_some.mpr ⟨rfl, hne⟩)) (by simp)
  · obtain ⟨last, hlast, rfl⟩ := htraverses
    have hdisturbed := hcond _ (List.mem_append_right _ (List.mem_singleton_self _))
    exact absurd ((hlast.frame hV.frame).workflowChain.trans hstart) hdisturbed
  · have hafter := (Traversal.attributed hV htraverses hstart).balanced hcond rfl
    exact ⟨rfl, (hcalled.trans (.edits hedits)).owes (howes.balanced hafter)⟩

/-- Without disturbances, the body of an activation appends the entry that is owed. -/
theorem Body.attributed {first : Activation}
    (h : Body V engine workflow node depth first thread thread' (.ok (activation, ended)))
    (hchain : thread.ctx.workflowChain = chain) (hnode : first.entry.nodeId = node.id)
    (hpositions : first.positions = []) (hfirst : .returned ∉ first.calls)
    (hcond : ∀ event ∈ thread'.trace, event.Undisturbed chain) :
    Owes chain node activation thread thread' ∧ ∀ exc, ended = .error exc →
      Explained chain thread'.trace exc ∨
        (OnlyRaised activation.calls ∧ exc.nodeId = some node.id) := by
  generalize hresult : (.ok (activation, ended) : Outcome (Activation × Except Exc Unit)) =
    result at h
  cases h with
  | stops _ _ _ => cases hresult
  | @ends before mid last start told entry hattempts hcalls _ hedits hentry =>
      obtain ⟨rfl, rfl⟩ := Prod.mk.inj (Except.ok.inj hresult)
      have hlast : ∀ event ∈ last.trace, event.Undisturbed chain :=
        (hedits.frame.trans (.append _ _ _)).before hcond
      obtain ⟨hentry', hpositions', _, hbalanced⟩ :=
        hattempts.undisturbed hV hchain hfirst ((hcalls.frame hV.frame).before hlast)
      have hmid := (hattempts.frame hV.frame).workflowChain.trans hchain
      have hcalled : Balanced chain mid last :=
        (Balanced.event rfl).trans (hcalls.executes.1.balanced hV hmid hlast rfl)
      have howes : Owes chain node (before.call .returned) start
          (start.append (before.call .returned) entry) := by
        refine .append (hpositions'.trans hpositions) ?_
        simp [Entry.verdict, hentry.nodeId, hentry', hnode, hentry.status, told.status_ne_failed,
          Activation.call]
      exact ⟨((hbalanced.trans hcalled).trans (.edits hedits)).owes howes, fun _ h => by cases h⟩
  | @proceeds before mid after _ ended' hattempts hproceeds _ =>
      obtain ⟨hentry, hpositions', _, hbalanced⟩ :=
        hattempts.undisturbed hV hchain hfirst ((hproceeds.frame hV.frame).before hcond)
      have hmid := (hattempts.frame hV.frame).workflowChain.trans hchain
      have hends : endless? (rethrown ended') = none := by
        rcases ended' with (exc | _ | _) | exc | _ <;> simp_all [settled, rethrown, endless?]
      obtain ⟨rfl, howes⟩ := hproceeds.attributed hV hmid (hentry ▸ hnode)
        (hpositions'.trans hpositions) hends hcond
      obtain ⟨rfl, rfl⟩ := Prod.mk.inj (Except.ok.inj hresult)
      exact ⟨hbalanced.owes howes, fun _ h => by cases h⟩
  | givesUp hattempts hcalls hgives =>
      obtain ⟨hentry, hpositions', hreturned, hbalanced⟩ :=
        hattempts.undisturbed hV hchain hfirst ((hgives.frame hV.frame).before hcond)
      have hmid := (hattempts.frame hV.frame).workflowChain.trans hchain
      have honly := onlyRaised hcalls hreturned
      subst hresult
      obtain ⟨hsame, howes, hexplained⟩ := hgives.attributed hV hmid (hentry ▸ hnode)
        (hpositions'.trans hpositions) honly hcond
      refine ⟨hbalanced.owes howes, fun exc h => (hexplained exc h).imp id fun hid => ?_⟩
      exact ⟨hsame ▸ honly, hid⟩

theorem Activates.attributed {outcome : Outcome Unit}
    (h : Activates V engine workflow node depth thread thread' outcome)
    (hchain : thread.ctx.workflowChain = chain) : Attributed chain thread thread' outcome := by
  cases h with
  | mergeRaised message _ =>
      have hdisturbed : ¬ ∀ event ∈ ((thread.log [.arrived (thread.site workflow node depth)]).log
          [.mergeRaised (thread.site workflow node depth) ⟨message, none⟩]).trace,
          event.Undisturbed chain := fun hcond =>
        absurd hchain (hcond _ (List.mem_append_right _ (List.mem_singleton_self _)))
      exact ⟨fun hcond => absurd hcond hdisturbed, fun hcond => absurd hcond hdisturbed⟩
  | mergeSkipped _ _ =>
      exact ⟨fun _ _ => (Balanced.event rfl).trans (.event rfl), fun _ _ h => nomatch h⟩
  | stops _ hbody =>
      refine ⟨fun _ hends => ?_, fun _ exc h => ?_⟩
      · have hstop := endless?_eq_some.mpr ⟨rfl, hbody.not_raised⟩
        exact absurd (hstop.symm.trans hends) (by simp)
      · exact absurd (Except.error.inj h) (hbody.not_raised exc)
  | @left last activation ended _ hbody =>
      have hlast := ((Frame.log _ _).trans (hbody.frame hV.frame)).workflowChain.trans hchain
      have hattributed := hbody.attributed hV hchain rfl rfl (by simp)
      refine ⟨fun hcond _ => ?_, fun hcond exc h => ?_⟩
      · exact (Balanced.event rfl).trans ((hattributed ((Frame.log _ _).before hcond)).1.left hlast)
      · have hended : ended = .error exc := by
          rcases ended with exc' | value <;> simp_all [exitOf]
        subst hended
        rcases (hattributed ((Frame.log _ _).before hcond)).2 exc rfl with hexplained | ⟨honly, hid⟩
        · rcases hexplained with ⟨site, before, after, other, hmem, hrest⟩ | ⟨w, d, hmem⟩
          · exact .inl ⟨site, before, after, other, List.mem_append_left _ hmem, hrest⟩
          · exact .inr ⟨w, d, List.mem_append_left _ hmem⟩
        · refine .inl ⟨_, _, _, _, List.mem_append_right _ (List.mem_singleton_self _), hlast, honly, hid⟩

end Activation

/-! ## Runs -/

section Runs

variable {engine : WorkflowEngine} {replies : (request : Request) → Reply request → Prop}

theorem behaviour_attributed (engine : WorkflowEngine)
    (replies : (request : Request) → Reply request → Prop) (chain : List String) (fuel : Nat) :
    AttributedVisits (engine.Behaviour replies fuel) chain := by
  refine ⟨behaviour_frame, ?_, FromTrigger.chain⟩
  induction fuel with
  | zero =>
      intro w n d t t' o _ h
      obtain ⟨rfl, rfl⟩ := behaviour_zero h
      exact ⟨fun _ hends => by simp [endless?] at hends, fun _ _ h => by simp at h⟩
  | succ fuel ih =>
      intro w n d t t' o hchain h
      exact (behaviour_succ h).attributed ⟨behaviour_frame, ih, FromTrigger.chain⟩ hchain

end Runs

namespace Sample

/-- An action that returns, followed by one that fails and stops the run. -/
def blamed : Workflow where
  id := "blamed"
  nodes := [trigger, action "fetch" "get" none none, action "check" "fail" none none]
  edges := [⟨"start", "fetch", none⟩, ⟨"fetch", "check", none⟩]

def faulty : Workflow where
  id := "faulty"
  nodes := [trigger, action "check" "fail" none none]
  edges := [⟨"start", "check", none⟩]

def disturbs : Event → Bool
  | .descendantRaised .. => true
  | .mergeRaised .. => true
  | .mergeSkipped _ => true
  | _ => false

theorem undisturbed {trace : List Event} (h : trace.any disturbs = false) (chain : List String) :
    ∀ event ∈ trace, event.Undisturbed chain := by
  intro event hevent
  cases event with
  | descendantRaised site calls exc => exact absurd hevent (absent disturbs h rfl)
  | mergeRaised site exc => exact absurd hevent (absent disturbs h rfl)
  | mergeSkipped site => exact absurd hevent (absent disturbs h rfl)
  | _ => trivial

def exceeds : Event → Bool
  | .depthExceeded .. => true
  | _ => false

def ended (workflow : Workflow) : Option Execution :=
  ((engine []).played answer first 5 workflow [] false).2.toOption

end Sample

end IntegrationPlatform
