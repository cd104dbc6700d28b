import IntegrationPlatform.Workflow.Isolation

/-!
# Loop results

The results of a loop are read off the data: the result of an iteration is what the data has after
it that it did not have before. The data shows the output of the node that ran last
(`behaves_advancing`), but a field of that output shows as new only where the data did not have an
equal value before. The main result says which iterations keep the output of their last node, for bodies
that keep objects, so that a result stays what it was when its iteration ended.
-/

namespace IntegrationPlatform

open Resumption Eng WorkflowEngine

/-! ## The last output -/

/-- The data has the fields of the output that the last entry records, unless it is a response. -/
def ShowsLast (ctx : WorkflowContext) : Prop :=
  ∀ entry fields, ctx.nodeResults.getLast? = some entry → entry.status = .success →
    entry.nodeType ≠ .response → entry.rawOutput = some (.dict fields) →
    (fields.map Prod.fst).Nodup → ∀ field ∈ fields, field ∈ ctx.data

/-- There are more entries than so many, and the data shows the last one. -/
def GrownPast (count : Nat) (thread : Thread) : Prop :=
  count < thread.ctx.nodeResults.length ∧ ShowsLast thread.ctx

/-- Nothing was appended and the data is the same, or the data shows the last of what was. -/
def Advances (thread thread' : Thread) : Prop :=
  (thread'.ctx.nodeResults = thread.ctx.nodeResults ∧ thread'.ctx.data = thread.ctx.data) ∨
    GrownPast thread.ctx.nodeResults.length thread'

theorem mem_merge_of_mem (left : Dict) {right : Dict} (hright : (right.map Prod.fst).Nodup)
    {field : String × Value} (hmem : field ∈ right) : field ∈ left.merge right := by
  induction right generalizing left with
  | nil => exact nomatch hmem
  | cons first rest ih =>
      have hstep : left.merge (first :: rest) = (left.put first.1 first.2).merge rest := rfl
      rw [List.map_cons, List.nodup_cons] at hright
      rw [hstep]
      rcases List.mem_cons.mp hmem with rfl | hrest
      · refine Assoc.mem_of_find ?_
        rw [Assoc.find_merge_left hright.1, Assoc.find_put, if_pos rfl]
      · exact ih _ hright.2 hrest

section Advancing

variable {thread mid thread' : Thread} {count : Nat} {activation : Activation} {entry : Entry}

theorem GrownPast.advances (h : GrownPast count thread) (h' : Advances thread thread') :
    GrownPast count thread' := by
  rcases h' with ⟨hresults, hdata⟩ | ⟨hlength, hshows⟩
  · refine ⟨hresults ▸ h.1, fun entry fields hlast => ?_⟩
    rw [hresults] at hlast
    rw [hdata]
    exact h.2 entry fields hlast
  · exact ⟨Nat.lt_trans h.1 hlength, hshows⟩

theorem Advances.refl (thread : Thread) : Advances thread thread :=
  .inl ⟨rfl, rfl⟩

theorem Advances.trans (h : Advances thread mid) (h' : Advances mid thread') :
    Advances thread thread' := by
  rcases h with ⟨hresults, hdata⟩ | hgrown
  · rcases h' with ⟨hresults', hdata'⟩ | ⟨hlength', hshows'⟩
    · exact .inl ⟨hresults'.trans hresults, hdata'.trans hdata⟩
    · exact .inr ⟨hresults ▸ hlength', hshows'⟩
  · exact .inr (hgrown.advances h')

theorem getLast?_append (thread : Thread) (activation : Activation) (entry : Entry) :
    (thread.append activation entry).ctx.nodeResults.getLast? = some entry := by
  simp [Thread.append]

theorem length_append (thread : Thread) (activation : Activation) (entry : Entry) :
    (thread.append activation entry).ctx.nodeResults.length =
      thread.ctx.nodeResults.length + 1 := by
  simp [Thread.append, length_foldl_set]

theorem grownPast_append (hcount : count ≤ thread.ctx.nodeResults.length)
    (hshows : entry.status = .success → entry.nodeType ≠ .response →
      ∀ fields, entry.rawOutput = some (.dict fields) → (fields.map Prod.fst).Nodup →
      ∀ field ∈ fields, field ∈ thread.ctx.data) :
    GrownPast count (thread.append activation entry) := by
  refine ⟨?_, fun entry' fields hlast hstatus htype houtput hkeys => ?_⟩
  · rw [length_append]
    exact Nat.lt_succ_of_le hcount
  · obtain rfl := Option.some.inj ((getLast?_append _ _ _).symm.trans hlast)
    exact hshows hstatus htype fields houtput hkeys

theorem grownPast_append_failed (hcount : count ≤ thread.ctx.nodeResults.length)
    (hstatus : entry.status ≠ .success) : GrownPast count (thread.append activation entry) :=
  grownPast_append hcount fun h => absurd h hstatus

theorem grownPast_append_merged (engine : WorkflowEngine) (thread : Thread) (activation : Activation)
    (nodeId : String) (entry : Entry) (output : Value) (retries : Option Nat)
    (hcount : count ≤ thread.ctx.nodeResults.length) :
    GrownPast count ((thread.mapScope fun scope =>
      (scope.setNodeOutput nodeId output).mergeData output).append activation
      (engine.successEntry entry output retries)) := by
  refine grownPast_append hcount fun _ _ fields houtput hkeys field hmem => ?_
  obtain rfl := Option.some.inj houtput
  exact mem_merge_of_mem thread.ctx.data hkeys hmem

end Advancing

/-- Activations that stay within the frame and, where they return, advance. -/
def Advancing : VisitRel := fun _ _ _ thread thread' outcome =>
  Frame thread thread' ∧ (outcome = .ok () → Advances thread thread')

section Activations

variable {workflow : Workflow} {node : Node} {depth : Nat} {nodes : List Node}
  {thread thread' : Thread} {outcome : Outcome Unit} {activation : Activation}

theorem Advancing.frame {w : Workflow} {n : Node} {d : Nat} {t t' : Thread} {o : Outcome Unit}
    (h : Advancing w n d t t' o) : Frame t t' :=
  h.1

theorem Each.advances (h : Each Advancing workflow depth nodes thread thread' outcome)
    (hreturned : outcome = .ok ()) : Advances thread thread' := by
  induction h with
  | nil thread => exact .refl thread
  | cons hvisit _ ih => exact (hvisit.2 rfl).trans (ih hreturned)
  | stop hvisit => exact nomatch hreturned

theorem Traversal.advances (h : Traversal Advancing workflow depth nodes thread thread' (.ok ())) :
    Advances thread thread' := by
  cases h with
  | each _ heach => exact heach.advances rfl

theorem GivesUp.grownPast {count : Nat} {activation' : Activation}
    (h : GivesUp Advancing workflow node depth activation thread thread' (.ok (activation', .ok ())))
    (hcount : count ≤ thread.ctx.nodeResults.length) : GrownPast count thread' := by
  have hfailed : ∀ {entry : Entry}, activation.entry.Updates entry .failed →
      GrownPast count (thread.append activation entry) := by
    intro entry hentry
    refine grownPast_append_failed hcount ?_
    rw [hentry.status]
    decide
  generalize hresult : (.ok (activation', .ok ()) : Outcome (Activation × Except Exc Unit)) = result at h
  cases h with
  | @handler exc entry handler _ outcome hentry _ hhandler =>
      -- What the handler raises is raised by the node; here the clause returned.
      have hreturned : outcome = .ok () := by
        rcases outcome with (exc | _ | _) | _ <;> simp_all [settled]
      exact ((hfailed hentry).advances (Advances.refl _)).advances (hhandler.2 hreturned)
  | @carryOn entry _ outcome hentry _ _ htraversal =>
      have hreturned : outcome = .ok () := by
        rcases outcome with (exc | _ | _) | _ <;> simp_all [settled]
      subst hreturned
      exact (hfailed hentry).advances htraversal.advances
  | ignore hentry _ _ => exact hfailed hentry
  | raises _ hentry _ _ _ => exact hfailed hentry

end Activations

/-! ## One activation advances -/

section Adequacy

variable {engine : WorkflowEngine} {visit : Visit} {dryRun : Bool}
  {replies : (request : Request) → Reply request → Prop} {workflow : Workflow} {node : Node}
  {depth count : Nat} {thread : Thread} {activation : Activation} {α : Type}
  (hvisit : Behaves replies dryRun visit Advancing)
include hvisit

/-- The successors, after an executor whose output has been merged and recorded. -/
theorem sat_traverse_grown {calls : List CallOutcome} {next : Except Exc Unit → Eng α}
    {P : Thread → Outcome α → Prop} (hgrown : GrownPast count thread)
    (hdry : thread.ctx.dryRun = dryRun)
    (hok : ∀ mid, GrownPast count mid →
      Sat (engineContract replies dryRun workflow) (next (.ok ())) mid P)
    (herror : ∀ mid exc, count ≤ mid.ctx.nodeResults.length → mid.ctx.dryRun = dryRun →
      Sat (engineContract replies dryRun workflow) (next (.error exc)) mid P)
    (hstop : ∀ mid stop, P mid (.error stop)) (nodes : List Node) :
    Sat (engineContract replies dryRun workflow)
      (WorkflowEngine.traverse visit workflow node depth calls nodes >>= next) thread P := by
  refine Sat.bind (sat_traverse hvisit _ _ hdry) (fun mid ended hended => ?_)
    fun mid stop _ => hstop mid stop
  have hframe := Traverses.frame Advancing.frame hended
  cases ended with
  | ok value => exact hok mid (hgrown.advances (Traversal.advances hended))
  | error exc =>
      exact herror mid exc (Nat.le_trans (Nat.le_of_lt hgrown.1) hframe.nodeResults)
        (hframe.dryRun.trans hdry)

theorem sat_giveUp_grown (exc : Exc) (hcount : count ≤ thread.ctx.nodeResults.length)
    (hdry : thread.ctx.dryRun = dryRun) :
    Sat (engineContract replies dryRun workflow)
      (giveUp visit workflow node depth activation exc) thread
      fun thread' outcome => ∀ after, outcome = .ok (after, .ok ()) → GrownPast count thread' := by
  refine (sat_giveUp hvisit exc hdry).mono fun thread' outcome hgives after hreturned => ?_
  subst hreturned
  exact hgives.grownPast hcount

/-- The retries. -/
theorem sat_retryNode_grown (remaining attempt : Nat)
    (hcount : count ≤ thread.ctx.nodeResults.length) (hdry : thread.ctx.dryRun = dryRun) :
    Sat (engineContract replies dryRun workflow)
      (engine.retryNode visit workflow node depth remaining attempt activation) thread
      fun thread' outcome =>
        (∀ after, outcome = .ok (after, true) → GrownPast count thread') ∧
        (∀ after, outcome = .ok (after, false) → count ≤ thread'.ctx.nodeResults.length ∧
          thread'.ctx.dryRun = dryRun) := by
  induction remaining generalizing activation thread attempt with
  | zero =>
      refine sat_pure ⟨fun _ heq => ?_, fun _ _ => ⟨hcount, hdry⟩⟩
      simp at heq
  | succ remaining ih =>
      unfold retryNode
      refine sat_ask_bind (fun _ => trivial) fun _ _ => ?_
      have hcall : Sat (engineContract replies dryRun workflow) (engine.execRetry workflow node)
          (thread.log [.called (thread.site workflow node depth) activation.calls])
          (Quiet (thread.log [.called (thread.site workflow node depth) activation.calls])) :=
        quiet_execRetry workflow node hdry
      refine sat_callExecutor_bind hcall (fun mid output hmid => ?_) (fun mid exc hmid => ?_)
        fun mid stop _ _ => ⟨fun _ heq => (by cases heq), fun _ heq => (by cases heq)⟩
      · -- The retry succeeded: its output is merged, and its entry is the last one before the successors.
        have hmid' : count ≤ mid.ctx.nodeResults.length := by
          rw [hmid.1.nodeResults]
          exact hcount
        rw [sat_modifyScope_bind, sat_appendEntry_bind]
        refine sat_traverse_grown hvisit
          (grownPast_append_merged engine mid _ node.id _ output _ hmid') (hmid.1.dryRun.trans hdry)
          (fun last hlast => ?_) (fun last exc hlength hlast => ?_) (fun last stop => ?_) _
        · refine sat_pure ⟨fun _ _ => hlast, fun _ heq => ?_⟩
          simp at heq
        · exact ih _ hlength hlast
        · exact ⟨fun _ heq => (by cases heq), fun _ heq => (by cases heq)⟩
      · -- The retry failed and recorded nothing.
        refine ih _ ?_ (hmid.1.dryRun.trans hdry)
        rw [Thread.log_ctx, hmid.1.nodeResults]
        exact hcount

theorem sat_exceptClause_grown (exc : Exc) (hcount : count ≤ thread.ctx.nodeResults.length)
    (hdry : thread.ctx.dryRun = dryRun) :
    Sat (engineContract replies dryRun workflow)
      (engine.exceptClause visit workflow node depth activation exc) thread
      fun thread' outcome => ∀ after, outcome = .ok (after, .ok ()) → GrownPast count thread' := by
  unfold exceptClause
  dsimp only
  split
  · refine (sat_retryNode_grown hvisit _ 1 hcount hdry).bind
      (fun mid result hmid => ?_) fun _ _ _ _ heq => nomatch heq
    obtain ⟨after, ended⟩ := result
    cases ended with
    | true => exact sat_pure fun _ _ => hmid.1 after rfl
    | false => exact sat_giveUp_grown hvisit exc (hmid.2 after rfl).1 (hmid.2 after rfl).2
  · exact sat_giveUp_grown hvisit exc hcount hdry

/-- The `try` statement. -/
theorem sat_tryNode_grown (entry : Entry) (hentry : entry.nodeType = node.type)
    (hcount : count ≤ thread.ctx.nodeResults.length) (hdry : thread.ctx.dryRun = dryRun)
    (hmerge : node.type = .merge → workflow.graph.incoming node.id = []) :
    Sat (engineContract replies dryRun workflow)
      (engine.tryNode visit workflow node depth entry) thread
      fun thread' outcome => ∀ after, outcome = .ok (after, .ok ()) → GrownPast count thread' := by
  unfold tryNode
  refine sat_callExecutor_bind (sat_execNode hvisit hdry hmerge) (fun mid told hmid => ?_)
    (fun mid exc hmid => ?_) fun mid stop _ _ _ heq => nomatch heq
  · have hframe := (Frame.log _ _).trans (Inside.frame Advancing.frame hmid.1)
    have hmid' : count ≤ mid.ctx.nodeResults.length := Nat.le_trans hcount hframe.nodeResults
    have hlater : mid.ctx.dryRun = dryRun := hframe.dryRun.trans hdry
    cases told with
    | filtered =>
        dsimp only
        rw [sat_appendEntry_bind]
        exact sat_pure fun _ _ => grownPast_append_failed hmid' (by simp)
    | responded output =>
        dsimp only
        rw [sat_modifyScope_bind]
        refine sat_atomically_bind fun joins hjoins => ⟨hjoins, ?_⟩
        rw [sat_appendEntry_bind]
        have hresponse : node.type = .response := (hmid.2 _ rfl).fits
        exact sat_pure fun _ _ => grownPast_append hmid' fun _ hother =>
          absurd (hentry.trans hresponse) hother
    | proceeds output handle =>
        dsimp only
        rw [sat_modifyScope_bind]
        refine sat_atomically_bind fun joins hjoins => ⟨hjoins, ?_⟩
        rw [sat_modifyScope_bind, sat_appendEntry_bind]
        refine sat_traverse_grown hvisit
          (grownPast_append_merged engine mid _ node.id entry output none hmid') hlater
          (fun last hlast => ?_) (fun last exc hlength hlast => ?_) (fun last stop => ?_) _
        · exact sat_pure fun _ _ => hlast
        · exact sat_exceptClause_grown hvisit exc hlength hlast
        · exact fun _ heq => nomatch heq
  · have hframe := (Frame.log _ _).trans (Inside.frame Advancing.frame hmid.1)
    exact sat_exceptClause_grown hvisit exc (Nat.le_trans hcount hframe.nodeResults)
      (hframe.dryRun.trans hdry)

theorem sat_visitNode_advances (hdry : thread.ctx.dryRun = dryRun) :
    Sat (engineContract replies dryRun workflow) (engine.visitNode visit workflow node depth) thread
      fun thread' outcome => outcome = .ok () → Advances thread thread' := by
  unfold visitNode
  rw [sat_emitAt_bind]
  refine sat_mergeGate_bind (fun hgo => ?_) (fun _ _ => ?_) fun message _ => ?_
  · dsimp only
    rw [sat_getContext_bind]
    refine Sat.bind (sat_tryNode_grown hvisit _ rfl (Nat.le_refl _) hdry hgo)
      (fun mid result hbody => ?_) fun mid stop _ heq => nomatch heq
    obtain ⟨after, ended⟩ := result
    rw [sat_getContext_bind, sat_emitAt_bind]
    cases ended with
    | ok value => exact sat_pure fun _ => .inr (hbody after rfl)
    | error exc => exact sat_raise fun heq => nomatch heq
  · -- A merge that still waits for other branches does nothing.
    exact fun _ hjoins => ⟨hjoins, fun _ => .inl ⟨rfl, rfl⟩⟩
  · dsimp only
    rw [sat_emitAt_bind]
    exact sat_raise fun heq => nomatch heq

end Adequacy

namespace WorkflowEngine

theorem behaves_advancing (engine : WorkflowEngine)
    (replies : (request : Request) → Reply request → Prop) (dryRun : Bool) (fuel : Nat) :
    Behaves replies dryRun (engine.executeSingleNode fuel) Advancing := by
  refine ⟨Advancing.frame, ?_⟩
  induction fuel generalizing dryRun with
  | zero =>
      intro workflow node depth thread _
      exact sat_halt ⟨.refl _, fun heq => nomatch heq⟩
  | succ fuel ih =>
      intro workflow node depth thread hdry
      have hbehaves : Behaves replies dryRun (engine.executeSingleNode fuel) Advancing :=
        ⟨Advancing.frame, ih dryRun⟩
      have hactivates : Sat (engineContract replies dryRun workflow)
          (engine.visitNode (engine.executeSingleNode fuel) workflow node depth) thread
          (Activates Advancing engine workflow node depth thread) := sat_visitNode hbehaves hdry
      exact (hactivates.and (sat_visitNode_advances hbehaves hdry)).mono fun _ _ h =>
        ⟨h.1.frame Advancing.frame, h.2⟩

theorem traversal_advances {engine : WorkflowEngine}
    {replies : (request : Request) → Reply request → Prop} {fuel : Nat} {workflow : Workflow}
    {depth : Nat} {nodes : List Node} {thread thread' : Thread}
    (h : Traversal (engine.Behaviour replies fuel) workflow depth nodes thread thread' (.ok ())) :
    Advances thread thread' := by
  have hadvancing : ∀ {nodes : List Node} {t t' : Thread} {o : Outcome Unit},
      Each (engine.Behaviour replies fuel) workflow depth nodes t t' o →
      Each Advancing workflow depth nodes t t' o := by
    intro nodes t t' o heach
    have hvisit : ∀ {node t t' o}, engine.Behaviour replies fuel workflow node depth t t' o →
        Advancing workflow node depth t t' o := by
      intro node t t' o hbehaviour
      exact Sat.of_ends ((engine.behaves_advancing replies t.ctx.dryRun fuel).2 workflow node depth t
        rfl) hbehaviour
    induction heach with
    | nil thread => exact .nil thread
    | cons hfirst _ ih => exact .cons (hvisit hfirst) ih
    | stop hfirst => exact .stop (hvisit hfirst)
  cases h with
  | each _ heach => exact (hadvancing heach).advances rfl

end WorkflowEngine

/-! ## Iterations -/

/-- An iteration of a loop: the item, and the thread in which the body started and ended. -/
structure Iteration where
  item : Value
  before : Thread
  after : Thread

/-- The thread in which the body of an iteration starts. -/
def enterIteration (itemVar indexVar : String) (item : Value) (index : Nat) (thread : Thread) :
    Thread :=
  thread.mapScope fun scope => (scope.setVar itemVar item).setVar indexVar (.int index)

/-- The iterations of a loop whose bodies return. -/
inductive Iterates (V : VisitRel) (workflow : Workflow) (depth : Nat) (itemVar indexVar : String)
    (body : List Node) : Nat → List Value → Thread → List Iteration → Thread → Prop where
  | done (index thread) :
      Iterates V workflow depth itemVar indexVar body index [] thread [] thread
  | next {index item rest thread mid iterations thread'} :
      Traversal V workflow (depth + 1) body (enterIteration itemVar indexVar item index thread) mid
        (.ok ()) →
      Iterates V workflow depth itemVar indexVar body (index + 1) rest mid iterations thread' →
      Iterates V workflow depth itemVar indexVar body index (item :: rest) thread
        (⟨item, enterIteration itemVar indexVar item index thread, mid⟩ :: iterations) thread'

namespace Iteration

variable (iteration : Iteration)

/-- The result of an iteration. -/
def result : Value :=
  itemOutput iteration.item iteration.before.ctx.data iteration.after.ctx.data

/-- The node that ran last in an iteration output this object. -/
def LastOutput (fields : Dict) : Prop :=
  iteration.before.ctx.nodeResults.length < iteration.after.ctx.nodeResults.length ∧
    ∃ entry, iteration.after.ctx.nodeResults.getLast? = some entry ∧ entry.status = .success ∧
      entry.rawOutput = some (.dict fields) ∧ (fields.map Prod.fst).Nodup

/-- The node that ran last in an iteration is a response node. -/
def Responds : Prop :=
  ∃ entry, iteration.after.ctx.nodeResults.getLast? = some entry ∧ entry.nodeType = .response

end Iteration

/-- The object has these fields. -/
def Contains (value : Value) (fields : Dict) : Prop :=
  ∃ own, value = .dict own ∧ ∀ field ∈ fields, field ∈ own

/-- The result of an iteration that changes nothing. -/
def ownResult : Value → Value
  | .dict fields => .dict fields
  | item => .dict [("value", item)]

/-- `key not in data_before or data_before[key] != val`. -/
def isChanged (before : Dict) (field : String × Value) : Bool :=
  match before.find field.1 with
  | some value => !value.pyEq field.2
  | none => true

variable {before after : Dict}

theorem mem_changedFields {field : String × Value} :
    field ∈ changedFields before after ↔ field ∈ after ∧ isChanged before field = true :=
  List.mem_filter

theorem itemOutput_unchanged {item : Value}
    (h : changedFields before after = []) : itemOutput item before after = ownResult item := by
  unfold itemOutput
  rw [h]
  cases item <;> rfl

theorem itemOutput_changed {item : Value} (h : changedFields before after ≠ []) :
    itemOutput item before after = .dict (changedFields before after) := by
  unfold itemOutput
  split
  · next hnone => exact absurd hnone h
  · rfl

theorem contains_dict {own fields : Dict} :
    Contains (.dict own) fields ↔ ∀ field ∈ fields, field ∈ own := by
  refine ⟨fun ⟨own', heq, hfields⟩ => ?_, fun hfields => ⟨own, rfl, hfields⟩⟩
  obtain rfl := Value.dict.inj heq
  exact hfields

/-- An iteration that keeps the output of its last node: where it changes the data, the data before
it has no equal value for a field of the output (and the data has the field, which a response node
does not see to), and where it changes nothing, the item has the fields. -/
structure Iteration.Keeps (iteration : Iteration) (fields : Dict) : Prop where
  changed : changedFields iteration.before.ctx.data iteration.after.ctx.data ≠ [] →
    ∀ field ∈ fields, isChanged iteration.before.ctx.data field = true ∧
      (iteration.Responds → field ∈ iteration.after.ctx.data)
  unchanged : changedFields iteration.before.ctx.data iteration.after.ctx.data = [] →
    Contains (ownResult iteration.item) fields

namespace WorkflowEngine

variable {engine : WorkflowEngine} {replies : (request : Request) → Reply request → Prop}
  {dryRun : Bool} {fuel : Nat} {workflow : Workflow} {node : Node} {depth : Nat}
  {itemVar indexVar : String} {body : List Node} {index : Nat} {items : List Value}
  {thread thread' : Thread} {iterations : List Iteration} {V : VisitRel} {visit : Visit}

theorem iterates_items
    (h : Iterates V workflow depth itemVar indexVar body index items thread iterations thread') :
    iterations.map Iteration.item = items := by
  induction h with
  | done index thread => rfl
  | next _ _ ih => rw [List.map_cons, ih]

theorem iterates_advances
    (h : Iterates (engine.Behaviour replies fuel) workflow depth itemVar indexVar body index items
      thread iterations thread') :
    ∀ iteration ∈ iterations, Advances iteration.before iteration.after := by
  induction h with
  | done index thread => exact fun _ hmem => nomatch hmem
  | next htraversal _ ih => exact List.forall_mem_cons.mpr ⟨traversal_advances htraversal, ih⟩

theorem contains_result_iff {iteration : Iteration} {fields : Dict}
    (hadvances : Advances iteration.before iteration.after) (hlast : iteration.LastOutput fields) :
    Contains iteration.result fields ↔ iteration.Keeps fields := by
  obtain ⟨hlength, entry, hentry, hstatus, houtput, hkeys⟩ := hlast
  have hshown : ¬ iteration.Responds → ∀ field ∈ fields, field ∈ iteration.after.ctx.data := by
    intro hother
    rcases hadvances with ⟨hsame, -⟩ | ⟨-, hshows⟩
    · rw [hsame] at hlength
      exact absurd hlength (Nat.lt_irrefl _)
    · exact hshows entry fields hentry hstatus (fun htype => hother ⟨entry, hentry, htype⟩) houtput hkeys
  by_cases hchanged : changedFields iteration.before.ctx.data iteration.after.ctx.data = []
  · rw [Iteration.result, itemOutput_unchanged hchanged]
    exact ⟨fun h => ⟨fun hne => absurd hchanged hne, fun _ => h⟩, fun h => h.unchanged hchanged⟩
  · rw [Iteration.result, itemOutput_changed hchanged, contains_dict]
    refine ⟨fun h => ⟨fun _ field hmem => ?_, fun hnone => absurd hnone hchanged⟩,
      fun h field hmem => mem_changedFields.mpr ?_⟩
    · obtain ⟨hafter, hnew⟩ := mem_changedFields.mp (h field hmem)
      exact ⟨hnew, fun _ => hafter⟩
    · obtain ⟨hnew, hresponse⟩ := h.changed hchanged field hmem
      by_cases hresponds : iteration.Responds
      · exact ⟨hresponse hresponds, hnew⟩
      · exact ⟨hshown hresponds field hmem, hnew⟩

/-! ## The engine iterates so -/

theorem sat_executeBody_returns (hvisit : Behaves replies dryRun visit V)
    (hdry : thread.ctx.dryRun = dryRun) :
    Sat (engineContract replies dryRun workflow) (executeBody visit workflow node depth body) thread
      fun thread' outcome => outcome = .ok () →
        Traversal V workflow (depth + 1) body thread thread' (.ok ()) := by
  refine Sat.bind (sat_traverse hvisit [] _ hdry) (fun mid ended hended => ?_)
    fun mid stop _ heq => nomatch heq
  cases ended with
  | ok value => exact sat_pure fun _ => hended
  | error exc => exact sat_raise fun heq => nomatch heq

theorem sat_loopItems_iterates (hvisit : Behaves replies dryRun visit V) (itemVar indexVar : String)
    (index : Nat) (items : List Value) (hdry : thread.ctx.dryRun = dryRun) :
    Sat (engineContract replies dryRun workflow)
      (loopItems visit workflow node depth itemVar indexVar body index items) thread
      fun thread' outcome => ∀ results, outcome = .ok results → ∃ iterations,
        Iterates V workflow depth itemVar indexVar body index items thread iterations thread' ∧
          results = iterations.map Iteration.result := by
  induction items generalizing thread index with
  | nil =>
      refine sat_pure fun results heq => ⟨[], .done index thread, ?_⟩
      exact (Except.ok.inj heq).symm
  | cons item rest ih =>
      unfold loopItems
      rw [sat_modifyScope_bind, sat_getContext_bind]
      have hbody : Sat (engineContract replies dryRun workflow)
          (executeBody visit workflow node depth body) (enterIteration itemVar indexVar item index thread)
          fun thread' outcome => outcome = .ok () → Traversal V workflow (depth + 1) body
            (enterIteration itemVar indexVar item index thread) thread' (.ok ()) :=
        sat_executeBody_returns hvisit hdry
      refine Sat.bind hbody (fun mid _ hmid => ?_) fun mid stop _ _ heq => by cases heq
      rw [sat_getContext_bind]
      have hmid' : mid.ctx.dryRun = dryRun := ((hmid rfl).frame hvisit.1).dryRun.trans hdry
      refine Sat.bind (ih (index + 1) hmid') (fun last results hrest => ?_)
        fun last stop _ _ heq => by cases heq
      obtain ⟨iterations, hiterates, rfl⟩ := hrest results rfl
      refine sat_pure fun results' heq => ⟨_, .next (hmid rfl) hiterates, ?_⟩
      exact (Except.ok.inj heq).symm

/-- The items that a loop processes. -/
def loopedItems (engine : WorkflowEngine) (config : NodeConfig) (scope : Scope) : List Value :=
  match engine.resolveValue (config.arrayField.getD "") scope with
  | .list items => slice items (min (config.maxIterations.getD 100) 1000)
  | _ => []

/-- The variable of the item. -/
def loopItemVar (config : NodeConfig) : String :=
  config.itemVariable.getD "item"

/-- The variable of the index. -/
def loopIndexVar (config : NodeConfig) : String :=
  let indexName := config.indexVariable.getD ""
  if indexName = "" then loopItemVar config ++ ".$index" else indexName

/-- The output of a loop. -/
def loopOutput (results : List Value) : Value :=
  .dict [("loop_iterations", .int results.length), ("loop_results", .list results)]

/-- These are the iterations of a loop of the engine that outputs this. -/
structure Looped (engine : WorkflowEngine) (replies : (request : Request) → Reply request → Prop)
    (fuel : Nat) (workflow : Workflow) (node : Node) (depth : Nat) (thread thread' : Thread)
    (iterations : List Iteration) (output : Value) : Prop where
  output_eq : output = loopOutput (iterations.map Iteration.result)
  iterates : ∃ last, thread'.trace = last.trace ∧ thread'.ctx.nodeResults = last.ctx.nodeResults ∧
    Iterates (engine.Behaviour replies fuel) workflow depth (loopItemVar node.config)
      (loopIndexVar node.config) (workflow.graph.getSuccessors node.id (.str "default")) 0
      (engine.loopedItems node.config thread.ctx.toScope) thread iterations last

theorem sat_execLoop_looped (hdry : thread.ctx.dryRun = dryRun) :
    Sat (engineContract replies dryRun workflow)
      (engine.execLoop (engine.executeSingleNode fuel) workflow node depth) thread
      fun thread' outcome => ∀ output, outcome = .ok output → ∃ iterations,
        engine.Looped replies fuel workflow node depth thread thread' iterations output := by
  have hvisit := behaves engine replies dryRun fuel
  unfold execLoop
  dsimp only
  rw [sat_getContext_bind]
  split
  · next items hitems =>
    refine Sat.bind (sat_loopItems_iterates hvisit _ _ 0 _ hdry) (fun mid results hmid => ?_)
      fun mid stop _ _ heq => nomatch heq
    obtain ⟨iterations, hiterates, rfl⟩ := hmid results rfl
    rw [sat_modifyScope_bind]
    refine sat_pure fun output heq => ⟨iterations, ?_, mid, rfl, rfl, ?_⟩
    · exact (Except.ok.inj heq).symm
    · rw [loopedItems, hitems]
      exact hiterates
  · next hother =>
    refine sat_pure fun output heq => ⟨[], (Except.ok.inj heq).symm, thread, rfl, rfl, ?_⟩
    have hnone : engine.loopedItems node.config thread.ctx.toScope = [] := by
      unfold loopedItems
      split
      · next items hitems => exact absurd hitems (hother items)
      · rfl
    rw [hnone]
    exact .done 0 thread

/-- A run of a loop that returns this output. No node that the body leads to changes in place an object that
it has not made itself. -/
structure LoopRun (engine : WorkflowEngine) (replies : (request : Request) → Reply request → Prop)
    (fuel : Nat) (workflow : Workflow) (node : Node) (depth : Nat) (thread thread' : Thread)
    (output : Value) : Prop where
  ends : Ends (engineContract replies thread.ctx.dryRun workflow)
    (engine.execLoop (engine.executeSingleNode fuel) workflow node depth) thread thread' (.ok output)
  keepsObjects : ∀ target ∈ workflow.graph.getSuccessors node.id (.str "default"), ∀ reached : Place,
    Relation.ReflTransGen (Leads engine) (workflow, target) reached → reached.2.KeepsObjects reached.1

end WorkflowEngine

/-! ## Samples -/

namespace Sample

def again : Node where
  id := "again"
  type := .loop
  config := { arrayField := some "items" }

def fetchAgain : Workflow where
  id := "fetch-again"
  nodes := [trigger, again, action "fetch" "get" none none]
  edges := [⟨"start", "again", none⟩, ⟨"again", "fetch", none⟩]

theorem body_fetchAgain :
    fetchAgain.graph.getSuccessors again.id (.str "default") = [action "fetch" "get" none none] := by
  simp [WorkflowGraph.getSuccessors, WorkflowGraph.outgoing, WorkflowGraph.getNode, Workflow.graph,
    WorkflowGraph.ofLists, fetchAgain, again, putNode, trigger, action, Edge.leavesBy, Value.pyEq]

theorem keepsObjects_fetchAgain : ∀ target ∈ fetchAgain.graph.getSuccessors again.id (.str "default"),
    ∀ reached : Place, Relation.ReflTransGen (Leads (engine [])) (fetchAgain, target) reached →
      reached.2.KeepsObjects reached.1 := by
  have hnodes : ∀ node ∈ fetchAgain.graph.nodes, node.KeepsObjects fetchAgain := by decide +kernel
  intro target htarget reached hreached
  obtain ⟨hworkflow, hmem⟩ := reached_mem rfl (WorkflowGraph.mem_getSuccessors htarget).1 hreached
  rw [hworkflow]
  exact hnodes _ hmem

def fetched (thread : Thread) : Thread × Outcome Unit :=
  (play answer first ((engine []).executeSingleNode 1 fetchAgain (action "fetch" "get" none none) 1)
    thread {}).2

theorem traversal_fetched {thread : Thread} (h : (fetched thread).2 = .ok ()) :
    Traversal ((engine []).Behaviour anyReply 1) fetchAgain (0 + 1)
      (fetchAgain.graph.getSuccessors again.id (.str "default")) thread (fetched thread).1 (.ok ()) := by
  have hbehaviour : (engine []).Behaviour anyReply 1 fetchAgain (action "fetch" "get" none none) 1 thread
      (fetched thread).1 (fetched thread).2 :=
    ⟨{}, MergeJoins.sound_empty _,
      ((WorkflowEngine.behaves (engine []) anyReply thread.ctx.dryRun 1).2 fetchAgain _ 1 thread rfl {}
        (MergeJoins.sound_empty _)).ends_of_run (Step.play_run answer first answer_any _)⟩
  rw [body_fetchAgain]
  refine .each (fun _ => by decide) (.cons ?_ (.nil _))
  rw [h] at hbehaviour
  exact hbehaviour

def got : Dict :=
  [("got", .str "api")]

def itemsWith (item : Value) : Thread where
  ctx := { data := [("items", .list [.int 1, item])], triggerData := [] }

section Rounds

variable (item : Value)

def firstRound : Iteration where
  item := .int 1
  before := enterIteration "item" "item.$index" (.int 1) 0 (itemsWith item)
  after := (fetched (enterIteration "item" "item.$index" (.int 1) 0 (itemsWith item))).1

def secondRound : Iteration where
  item := item
  before := enterIteration "item" "item.$index" item 1 (firstRound item).after
  after := (fetched (enterIteration "item" "item.$index" item 1 (firstRound item).after)).1

def fetchedOutput : Value :=
  loopOutput [(firstRound item).result, (secondRound item).result]

def fetchedAll : Thread :=
  (secondRound item).after.mapScope fun scope =>
    scope.setVar "item_results" (.list [(firstRound item).result, (secondRound item).result])

variable {item}

theorem ends_fetchAgain (hitem : item = .int 2 ∨ item = .dict got) :
    Ends (engineContract anyReply (itemsWith item).ctx.dryRun fetchAgain)
      ((engine []).execLoop ((engine []).executeSingleNode 1) fetchAgain again 0) (itemsWith item)
      (fetchedAll item) (.ok (fetchedOutput item)) := by
  have hsat : Sat (engineContract anyReply (itemsWith item).ctx.dryRun fetchAgain)
      ((engine []).execLoop ((engine []).executeSingleNode 1) fetchAgain again 0) (itemsWith item) _ :=
    sat_execLoop_looped rfl
  have hmeets := hsat {} (MergeJoins.sound_empty _)
  rcases hitem with rfl | rfl <;>
    exact ⟨{}, MergeJoins.sound_empty _, hmeets.ends_of_run (Step.play_run answer first answer_any _)⟩

theorem looped_fetchAgain (hitem : item = .int 2 ∨ item = .dict got) :
    (engine []).Looped anyReply 1 fetchAgain again 0 (itemsWith item) (fetchedAll item)
      [firstRound item, secondRound item] (fetchedOutput item) := by
  have hitems : (engine []).loopedItems again.config (itemsWith item).ctx.toScope = [.int 1, item] := by
    rcases hitem with rfl | rfl <;> rfl
  have hfirst : (fetched (firstRound item).before).2 = .ok () := by rcases hitem with rfl | rfl <;> rfl
  have hsecond : (fetched (secondRound item).before).2 = .ok () := by rcases hitem with rfl | rfl <;> rfl
  refine ⟨rfl, (secondRound item).after, Thread.mapScope_trace _ _, Thread.mapScope_nodeResults _ _, ?_⟩
  rw [hitems]
  rcases hitem with rfl | rfl <;>
    exact .next (traversal_fetched hfirst) (.next (traversal_fetched hsecond) (.done 2 _))

end Rounds

end Sample

end IntegrationPlatform
