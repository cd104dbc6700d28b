import IntegrationPlatform.Workflow.Isolation

/-!
# Batches

What a batch accounts for: under every schedule each item, or in the mode that stops at errors each up to the
first that fails, contributes one output or one error, in the order of the items
(`sat_execBatch_accounts`).
-/

namespace IntegrationPlatform

open Resumption Eng WorkflowEngine

/-! ## Results -/

/-- The outputs of the items that succeeded, in order. -/
def succeeded (results : List (Except Value Value)) : List Value :=
  results.filterMap fun result =>
    match result with
    | .ok output => some output
    | .error _ => none

/-- The errors of the items that failed, in order. -/
def failed (results : List (Except Value Value)) : List Value :=
  results.filterMap fun result =>
    match result with
    | .ok _ => none
    | .error error => some error

theorem splitResults_eq (results : List (Except Value Value)) :
    splitResults results = (succeeded results, failed results) := by
  induction results with
  | nil => rfl
  | cons result rest ih => cases result <;> simp [splitResults, ih, succeeded, failed]

theorem length_succeeded_add_failed (results : List (Except Value Value)) :
    (succeeded results).length + (failed results).length = results.length := by
  induction results with
  | nil => rfl
  | cons result rest ih =>
      have hrest : (succeeded rest).length + (failed rest).length = rest.length := ih
      cases result with
      | ok output =>
          have hsucceeded : succeeded (.ok output :: rest) = output :: succeeded rest := rfl
          have hfailed : failed (.ok output :: rest) = failed rest := rfl
          rw [hsucceeded, hfailed, List.length_cons, List.length_cons]
          omega
      | error error =>
          have hsucceeded : succeeded (.error error :: rest) = succeeded rest := rfl
          have hfailed : failed (.error error :: rest) = error :: failed rest := rfl
          rw [hsucceeded, hfailed, List.length_cons, List.length_cons]
          omega

/-- The results of items that ended so, from this index on. -/
def resultsFrom (ctx : WorkflowContext) : Nat → List Value → List (Thread × Outcome Unit) →
    List (Except Value Value)
  | index, item :: items, ended :: ends =>
      itemResult ctx item index ended :: resultsFrom ctx (index + 1) items ends
  | _, _, _ => []

/-- The first items were processed, each from this index on, and ended so. -/
inductive Processed (Runs : Nat → Value → Thread × Outcome Unit → Prop) :
    Nat → List Value → List (Thread × Outcome Unit) → Prop where
  | none (index items) : Processed Runs index items []
  | more {index item items ended ends} : Runs index item ended →
      Processed Runs (index + 1) items ends →
      Processed Runs index (item :: items) (ended :: ends)

/-- The results are those of all items, or they end with the first error. -/
def StopsAtError (results : List (Except Value Value)) (total : Nat) : Prop :=
  (∃ outputs : List Value, results = outputs.map .ok ∧ results.length = total) ∨
    ∃ (outputs : List Value) (error : Value),
      results = outputs.map .ok ++ [.error error] ∧ results.length ≤ total

/-- The results of a batch of so many items: one of each or, in the mode that stops at errors, one of each up
to the first that fails. -/
structure Accounts (stop : Bool) (total : Nat) (results : List (Except Value Value)) : Prop where
  all : stop = false → results.length = total
  stops : stop = true → StopsAtError results total

theorem length_resultsFrom {Runs : Nat → Value → Thread × Outcome Unit → Prop} {index : Nat}
    {items : List Value} {ends : List (Thread × Outcome Unit)} (ctx : WorkflowContext)
    (h : Processed Runs index items ends) :
    (resultsFrom ctx index items ends).length = ends.length := by
  induction h with
  | none index items => cases items <;> rfl
  | more _ _ ih => rw [resultsFrom, List.length_cons, List.length_cons, ih]

/-- Items below a bound that have ended, whatever the order, are processed in theirs. -/
theorem exists_processed (Runs : Nat → Value → Thread × Outcome Unit → Prop) (ctx : WorkflowContext)
    (pieces : Nat → Option (Thread × Outcome Unit)) (bound : Nat) (items : List Value) (index : Nat)
    (hruns : ∀ entry ∈ items.zipIdx index, entry.2 < bound → ∃ piece, pieces entry.2 = some piece ∧
      Runs entry.2 entry.1 piece)
    (hnone : ∀ entry ∈ items.zipIdx index, bound ≤ entry.2 → pieces entry.2 = none) :
    ∃ ends, Processed Runs index items ends ∧
      (index + items.length ≤ bound → ends.length = items.length) ∧
      ((items.zipIdx index).filterMap fun (item, index) =>
        (pieces index).map (itemResult ctx item index)) = resultsFrom ctx index items ends := by
  induction items generalizing index with
  | nil => exact ⟨[], .none index [], fun _ => rfl, rfl⟩
  | cons item rest ih =>
      by_cases hindex : index < bound
      · rw [List.zipIdx_cons] at hruns hnone ⊢
        obtain ⟨hfirst, hrest⟩ := List.forall_mem_cons.mp hruns
        obtain ⟨piece, hpiece, hitem⟩ := hfirst hindex
        obtain ⟨ends, hprocessed, hlength, hresults⟩ :=
          ih (index + 1) hrest (List.forall_mem_cons.mp hnone).2
        refine ⟨piece :: ends, .more hitem hprocessed, fun hall => ?_, ?_⟩
        · rw [List.length_cons] at hall ⊢
          rw [List.length_cons, hlength (by omega)]
        · rw [List.filterMap_cons, hresults]
          dsimp only
          rw [hpiece]
          rfl
      · refine ⟨[], .none index _, fun hall => ?_, List.filterMap_eq_nil_iff.mpr fun entry hentry => ?_⟩
        · rw [List.length_cons] at hall
          omega
        · have hle := List.le_snd_of_mem_zipIdx hentry
          dsimp only
          rw [hnone entry hentry (by omega)]
          rfl

/-! ## Accounting -/

/-- The mode that stops at errors. -/
def NodeConfig.stopsItems (config : NodeConfig) : Bool :=
  config.onItemError.getD "continue" = "stop"

/-- How many items of a batch hold the semaphore at a time. -/
def NodeConfig.itemsAtATime (config : NodeConfig) : Nat :=
  (min (config.concurrency.getD 5) 50).toNat

namespace WorkflowEngine

/-- The items that a batch processes. -/
def batchItems (engine : WorkflowEngine) (config : NodeConfig) (scope : Scope) : List Value :=
  let source := config.source.getD ""
  match engine.resolveValue ((engine.placeholder? source).getD source) scope with
  | .list allItems => slice allItems (min (config.maxItems.getD 1000) 10000)
  | _ => []

/-- The body of an item ends so, in a copy of the context of the batch. -/
def ItemRuns (engine : WorkflowEngine) (replies : (request : Request) → Reply request → Prop)
    (fuel : Nat) (workflow : Workflow) (node : Node) (depth : Nat) (ctx : WorkflowContext)
    (index : Nat) (item : Value) (ended : Thread × Outcome Unit) : Prop :=
  Ends (engineContract replies ctx.dryRun workflow)
    (itemBody (engine.executeSingleNode fuel) workflow node depth (batchBody workflow node) index)
    ⟨itemContext ctx item index, []⟩ ended.1 ended.2

section Accounting

variable {engine : WorkflowEngine} {replies : (request : Request) → Reply request → Prop}
  {fuel : Nat} {workflow : Workflow} {node : Node} {depth : Nat} {thread : Thread}
  {ctx : WorkflowContext}

theorem sat_itemBody_runs (htype : node.type = .batch) (index : Nat) (item : Value) :
    Sat (engineContract replies ctx.dryRun workflow)
      (itemBody (engine.executeSingleNode fuel) workflow node depth (batchBody workflow node) index)
      ⟨itemContext ctx item index, []⟩ fun thread' outcome =>
        engine.ItemRuns replies fuel workflow node depth ctx index item (thread', outcome) := by
  have hforks : Forks ⟨ctx, []⟩ ⟨itemContext ctx item index, []⟩ := ⟨rfl, rfl, rfl, rfl⟩
  exact (sat_itemBody (behaves engine replies ctx.dryRun fuel) htype hforks index rfl).ends

/-- Items one after the other, up to the first that fails. -/
theorem sat_stopItems_accounts (htype : node.type = .batch) (index : Nat) (items : List Value) :
    Sat (engineContract replies ctx.dryRun workflow)
      (stopItems (engine.executeSingleNode fuel) workflow node depth (batchBody workflow node) ctx
        index items) thread
      fun _ outcome => ∀ result, outcome = .ok result → ∃ ends,
        Processed (engine.ItemRuns replies fuel workflow node depth ctx) index items ends ∧
          StopsAtError (resultsFrom ctx index items ends) items.length ∧
          result = splitResults (resultsFrom ctx index items ends) := by
  induction items generalizing thread index with
  | nil =>
      refine sat_pure fun result heq => ⟨[], .none index [], .inl ⟨[], rfl, rfl⟩, ?_⟩
      exact (Except.ok.inj heq).symm
  | cons item rest ih =>
      unfold stopItems
      refine sat_fork_bind (sat_itemBody_runs htype index item) fun ended hended => ?_
      refine sat_absorb_bind (fun stop _ result heq => by cases heq) fun _ => ?_
      cases hresult : itemResult ctx item index ended with
      | ok output =>
          dsimp only
          refine Sat.bind (ih (index + 1)) (fun mid result hmid => ?_)
            fun _ _ _ result heq => by cases heq
          obtain ⟨ends, hprocessed, hstops, rfl⟩ := hmid result rfl
          refine sat_pure fun result' heq => ⟨ended :: ends, .more hended hprocessed, ?_, ?_⟩
          · rw [resultsFrom, hresult]
            rcases hstops with ⟨outputs, houtputs, hlength⟩ | ⟨outputs, error, houtputs, hlength⟩
            · refine .inl ⟨output :: outputs, by rw [houtputs]; rfl, ?_⟩
              rw [List.length_cons, List.length_cons, hlength]
            · refine .inr ⟨output :: outputs, error, by rw [houtputs]; rfl, ?_⟩
              rw [List.length_cons, List.length_cons]
              exact Nat.succ_le_succ hlength
          · rw [resultsFrom, hresult]
            exact (Except.ok.inj heq).symm
      | error error =>
          dsimp only
          have hresults : resultsFrom ctx index (item :: rest) [ended] = [.error error] := by
            rw [resultsFrom, hresult]
            cases rest <;> rfl
          refine sat_pure fun result' heq => ⟨[ended], .more hended (.none (index + 1) rest), ?_, ?_⟩
          · rw [hresults]
            exact .inr ⟨[], error, rfl, Nat.succ_le_succ (Nat.zero_le _)⟩
          · rw [hresults]
            exact (Except.ok.inj heq).symm

/-- Items that run concurrently. -/
theorem sat_gatherItems_accounts (htype : node.type = .batch) (concurrency : Nat)
    (items : List Value) :
    Sat (engineContract replies ctx.dryRun workflow)
      (gatherItems (engine.executeSingleNode fuel) workflow node depth (batchBody workflow node) ctx
        concurrency items) thread
      fun _ outcome => ∀ result, outcome = .ok result → ∃ ends,
        Processed (engine.ItemRuns replies fuel workflow node depth ctx) 0 items ends ∧
          ends.length = items.length ∧ result = splitResults (resultsFrom ctx 0 items ends) := by
  refine sat_gather_bind (M := fun index thread' outcome => ∃ item, items[index]? = some item ∧
    engine.ItemRuns replies fuel workflow node depth ctx index item (thread', outcome)) ?_ ?_
  · intro task htask
    obtain ⟨⟨item, index⟩, hentry, rfl⟩ := List.mem_map.mp htask
    have hitem : items[index]? = some item := List.mk_mem_zipIdx_iff_getElem?.mp hentry
    exact (sat_itemBody_runs htype index item).mono fun _ _ hruns => ⟨item, hitem, hruns⟩
  · intro ended hended hkeys
    refine sat_absorb_bind (fun stop _ result heq => by cases heq) fun _ => ?_
    -- Every index has ended, in whatever order.
    have hlookup : ∀ entry ∈ items.zipIdx, entry.2 < items.length →
        ∃ piece, List.lookup entry.2 ended = some piece ∧
          engine.ItemRuns replies fuel workflow node depth ctx entry.2 entry.1 piece := by
      rintro ⟨item, index⟩ hentry _
      have hitem : items[index]? = some item := List.mk_mem_zipIdx_iff_getElem?.mp hentry
      have hmem : index ∈ ended.map Prod.fst := by
        rw [hkeys.mem_iff, List.map_map]
        exact List.mem_map.mpr ⟨(item, index), hentry, rfl⟩
      obtain ⟨piece, hfound, hpiece⟩ := exists_lookup hmem
      obtain ⟨item', hitem', hruns⟩ := hended _ hpiece
      obtain rfl := Option.some.inj (hitem.symm.trans hitem')
      exact ⟨piece, hfound, hruns⟩
    obtain ⟨ends, hprocessed, hlength, hresults⟩ := exists_processed _ ctx
      (fun index => List.lookup index ended) items.length items 0 hlookup
      fun entry hentry hle => absurd (List.snd_lt_of_mem_zipIdx hentry) (by omega)
    refine sat_pure fun result heq => ⟨ends, hprocessed, hlength (by omega), ?_⟩
    rw [← Except.ok.inj heq, resultsInOrder, hresults]

/-- What a batch outputs whose items share nothing, once they have all ended. -/
theorem sat_execBatch_accounts (htype : node.type = .batch) :
    Sat (engineContract replies thread.ctx.dryRun workflow)
      (engine.execBatch (engine.executeSingleNode fuel) workflow node depth) thread
      fun _ outcome => ∀ output, outcome = .ok output → ∃ ends,
        Processed (engine.ItemRuns replies fuel workflow node depth thread.ctx) 0
            (engine.batchItems node.config thread.ctx.toScope) ends ∧
          Accounts node.config.stopsItems (engine.batchItems node.config thread.ctx.toScope).length
            (resultsFrom thread.ctx 0 (engine.batchItems node.config thread.ctx.toScope) ends) ∧
          output = batchOutput (engine.batchItems node.config thread.ctx.toScope).length
            (succeeded (resultsFrom thread.ctx 0
              (engine.batchItems node.config thread.ctx.toScope) ends))
            (failed (resultsFrom thread.ctx 0
              (engine.batchItems node.config thread.ctx.toScope) ends)) := by
  unfold execBatch
  dsimp only
  rw [sat_getContext_bind]
  split
  · next allItems hitems =>
    have hslice : engine.batchItems node.config thread.ctx.toScope =
        slice allItems (min (node.config.maxItems.getD 1000) 10000) := by
      rw [batchItems, hitems]
    rw [hslice]
    split
    · exact sat_raise fun output heq => by cases heq
    · split
      · exact sat_halt fun output heq => by cases heq
      · unfold processItems
        split
        · next hstop =>
          refine Sat.bind (sat_stopItems_accounts htype 0 _) (fun mid result hmid => ?_)
            fun _ _ _ output heq => by cases heq
          obtain ⟨ends, hprocessed, hstops, rfl⟩ := hmid result rfl
          rw [splitResults_eq, sat_modifyScope_bind]
          refine sat_pure fun output heq => ⟨ends, hprocessed, ⟨fun hcontinue => ?_, fun _ => hstops⟩, ?_⟩
          · exact absurd hstop (of_decide_eq_false hcontinue)
          · exact (Except.ok.inj heq).symm
        · next hcontinue =>
          refine Sat.bind (sat_gatherItems_accounts htype _ _) (fun mid result hmid => ?_)
            fun _ _ _ output heq => by cases heq
          obtain ⟨ends, hprocessed, hlength, rfl⟩ := hmid result rfl
          rw [splitResults_eq, sat_modifyScope_bind]
          refine sat_pure fun output heq => ⟨ends, hprocessed, ⟨fun _ => ?_, fun hstop => ?_⟩, ?_⟩
          · rw [length_resultsFrom thread.ctx hprocessed, hlength]
          · exact absurd (of_decide_eq_true hstop) hcontinue
          · exact (Except.ok.inj heq).symm
  · next hother =>
    have hnone : engine.batchItems node.config thread.ctx.toScope = [] := by
      unfold batchItems
      dsimp only
      split
      · next items hitems => exact absurd hitems (hother items)
      · rfl
    rw [hnone]
    refine sat_pure fun output heq => ⟨[], .none 0 [], ⟨fun _ => rfl, fun _ => .inl ⟨[], rfl, rfl⟩⟩, ?_⟩
    exact (Except.ok.inj heq).symm

theorem length_batchItems {allItems : List Value}
    (hsource : engine.resolveValue ((engine.placeholder? (node.config.source.getD "")).getD
      (node.config.source.getD "")) ctx.toScope = .list allItems)
    (hmax : 0 ≤ node.config.maxItems.getD 1000) :
    (engine.batchItems node.config ctx.toScope).length =
      min (min (node.config.maxItems.getD 1000) 10000).toNat allItems.length := by
  have hbound : 0 ≤ min (node.config.maxItems.getD 1000) 10000 := by omega
  unfold batchItems
  dsimp only
  rw [hsource]
  dsimp only
  rw [length_slice, if_pos hbound]

end Accounting

end WorkflowEngine

end IntegrationPlatform
