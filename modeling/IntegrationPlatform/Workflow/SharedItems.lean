import IntegrationPlatform.Workflow.Batches
import IntegrationPlatform.Workflow.Conditions

/-!
# Items that share objects

Every item of a batch runs in a copy of the context of the batch, but on the item itself, which that context
holds as well: a body that changes it in place changes what later items copy. `Sharing` is the batch over the
objects that its items share. Whatever the bodies change there, and however the items take turns, the results
account for the items (`Returns.accounts`). `Apart.step` says which steps leave the other items alone, and
where no step changes what is shared, the items end as those of `execBatch` do (`Kept.processed`).
-/

namespace IntegrationPlatform

open Resumption Eng WorkflowEngine

/-! ## What the items share -/

/-- The context of a batch, and of each item what its body shares with the context and with the other
items: the item itself, and the configurations of the nodes. A body may change it in place. -/
structure Sharing (Objects Shared : Type) where
  context : Objects → WorkflowContext
  shared : Objects → Nat → Shared
  item : Shared → Value
  count : Nat

/-- A context that consists of objects of its own and of shared ones. -/
abbrev OwnContext (Shared : Type) := Shared → WorkflowContext

/-- The bodies of the items: what they may do to what they share and to their own contexts, and when they
return or raise. -/
structure Bodies (Shared : Type) where
  works : Nat → Shared × OwnContext Shared → Shared × OwnContext Shared → Prop
  ends : Nat → Shared × OwnContext Shared → Option Exc → Prop

/-- How far the task of an item has come: it waits for the semaphore, it holds it and is throttled,
its body runs on a context of its own, or it has ended. An output consists of objects, too. -/
inductive ItemTask (Shared : Type) where
  | waiting
  | throttled
  | running (own : OwnContext Shared)
  | ended (result : Except Value (Shared → Value))

/-- The item is still to start. -/
def ItemTask.Idle {Shared : Type} (task : ItemTask Shared) : Prop :=
  task = .waiting ∨ task = .throttled

/-- The state of a batch: the contents of the shared objects, and the tasks by their indices. -/
structure BatchState (Objects Shared : Type) where
  objects : Objects
  tasks : Nat → ItemTask Shared

namespace BatchState

variable {Objects Shared : Type} (state : BatchState Objects Shared)

/-- Another stage of one task, and other contents of the objects. -/
def put (index : Nat) (task : ItemTask Shared) (objects : Objects) : BatchState Objects Shared where
  objects := objects
  tasks := Function.update state.tasks index task

/-- A batch whose items are all still to start. -/
def initial (objects : Objects) : BatchState Objects Shared where
  objects := objects
  tasks := fun _ => .waiting

@[simp] theorem put_self (index : Nat) (task : ItemTask Shared) (objects : Objects) :
    (state.put index task objects).tasks index = task :=
  Function.update_self _ _ _

theorem put_other {index other : Nat} (hother : other ≠ index) (task : ItemTask Shared) (objects : Objects) :
    (state.put index task objects).tasks other = state.tasks other :=
  Function.update_of_ne hother _ _

end BatchState

namespace Sharing

variable {Objects Shared : Type} (sharing : Sharing Objects Shared)

/-- What an item shares, and the context that its body starts with: copies, and the item itself. -/
def entered (objects : Objects) (index : Nat) : Shared × OwnContext Shared :=
  (sharing.shared objects index,
    fun shared => itemContext (sharing.context objects) (sharing.item shared) index)

/-- The result of an item whose body ends so. -/
def endedResult (objects : Objects) (index : Nat) (own : OwnContext Shared) (raised : Option Exc) :
    Except Value Value :=
  itemResult (sharing.context objects) (sharing.item (sharing.shared objects index)) index
    (⟨own (sharing.shared objects index), []⟩, raised.elim (.ok ()) fun exc => .error (.raised exc))

/-- The item may take the semaphore. In the mode that stops at errors the items run one after the
other, as long as they succeed. -/
def Admits (stop : Bool) (concurrency : Nat) (state : BatchState Objects Shared) (index : Nat) : Prop :=
  (∃ holders : Finset Nat, holders.card < concurrency ∧
    ∀ other < sharing.count, (state.tasks other = .throttled ∨ ∃ own, state.tasks other = .running own) →
      other ∈ holders) ∧
    (stop = true → ∀ earlier < index, ∃ output, state.tasks earlier = .ended (.ok output))

/-- A step of an item. The body works on its own context and on what it shares: what it changes there
in place is changed for everything that consists of these objects. -/
inductive Step (bodies : Bodies Shared) (stop : Bool) (concurrency : Nat) (index : Nat) :
    BatchState Objects Shared → BatchState Objects Shared → Prop where
  | acquire {state} : state.tasks index = .waiting → sharing.Admits stop concurrency state index →
      Step bodies stop concurrency index state (state.put index .throttled state.objects)
  | start {state} : state.tasks index = .throttled →
      Step bodies stop concurrency index state
        (state.put index (.running (sharing.entered state.objects index).2) state.objects)
  | work {state own objects' own'} : state.tasks index = .running own →
      bodies.works index (sharing.shared state.objects index, own)
        (sharing.shared objects' index, own') →
      Step bodies stop concurrency index state (state.put index (.running own') objects')
  | finish {state own raised result} : state.tasks index = .running own →
      bodies.ends index (sharing.shared state.objects index, own) raised →
      result.map (fun output => output (sharing.shared state.objects index)) =
        sharing.endedResult state.objects index own raised →
      Step bodies stop concurrency index state (state.put index (.ended result) state.objects)

/-- Steps of the items, in any order. -/
abbrev Steps (bodies : Bodies Shared) (stop : Bool) (concurrency : Nat) :
    BatchState Objects Shared → BatchState Objects Shared → Prop :=
  Relation.ReflTransGen fun state state' =>
    ∃ index < sharing.count, sharing.Step bodies stop concurrency index state state'

/-- The result of an item that has ended, as it is now. -/
def resultOf (state : BatchState Objects Shared) (index : Nat) : Option (Except Value Value) :=
  match state.tasks index with
  | .ended result => some (result.map fun output => output (sharing.shared state.objects index))
  | _ => none

/-- The results of the items that have ended, in the order of the items. -/
def results (state : BatchState Objects Shared) : List (Except Value Value) :=
  (List.range sharing.count).filterMap (sharing.resultOf state)

/-- `_exec_batch` returns: all items have ended or, in the mode that stops at errors, one has failed. -/
def Returns (stop : Bool) (state : BatchState Objects Shared) : Prop :=
  (∀ index < sharing.count, ∃ result, state.tasks index = .ended result) ∨
    stop = true ∧ ∃ index < sharing.count, ∃ error, state.tasks index = .ended (.error error)

variable {sharing} {bodies : Bodies Shared} {stop : Bool} {concurrency index bound : Nat}
  {objects : Objects} {state state' : BatchState Objects Shared}

theorem Step.tasks_other (h : sharing.Step bodies stop concurrency index state state') {other : Nat}
    (hother : other ≠ index) : state'.tasks other = state.tasks other := by
  cases h <;> exact BatchState.put_other _ hother _ _

/-! ## Accounting -/

theorem resultOf_ended {result : Except Value (Shared → Value)}
    (h : state.tasks index = .ended result) : sharing.resultOf state index =
      some (result.map fun output => output (sharing.shared state.objects index)) := by
  rw [resultOf, h]

theorem resultOf_none (h : ∀ result, state.tasks index ≠ .ended result) :
    sharing.resultOf state index = none := by
  unfold resultOf
  split
  · next result hresult => exact absurd hresult (h result)
  · rfl

/-- In the mode that stops at errors, an item has only begun after those before it have succeeded. -/
def InOrder (stop : Bool) (state : BatchState Objects Shared) : Prop :=
  stop = true → ∀ index, state.tasks index ≠ .waiting → ∀ earlier < index,
    ∃ output, state.tasks earlier = .ended (.ok output)

theorem InOrder.step (hstep : sharing.Step bodies stop concurrency index state state')
    (h : InOrder stop state) : InOrder stop state' := by
  intro hstop other hbegun earlier hearlier
  -- The item that takes the step had not ended before.
  have hbefore : ∀ result, state.tasks index ≠ .ended result := by
    intro result
    cases hstep <;> simp [*]
  have hall : ∀ earlier < other, ∃ output, state.tasks earlier = .ended (.ok output) := by
    by_cases hother : other = index
    · subst hother
      cases hstep with
      | acquire _ hadmits => exact hadmits.2 hstop
      | start htask => exact h hstop other (by rw [htask]; nofun)
      | work htask => exact h hstop other (by rw [htask]; nofun)
      | finish htask => exact h hstop other (by rw [htask]; nofun)
    · rw [hstep.tasks_other hother] at hbegun
      exact h hstop other hbegun
  obtain ⟨output, houtput⟩ := hall earlier hearlier
  refine ⟨output, ?_⟩
  rw [hstep.tasks_other fun heq => hbefore _ (heq ▸ houtput), houtput]

theorem InOrder.steps (h : sharing.Steps bodies stop concurrency (.initial objects) state) :
    InOrder stop state := by
  induction h with
  | refl => exact fun _ index hbegun => absurd rfl hbegun
  | tail _ hstep ih =>
      obtain ⟨index, -, hstep⟩ := hstep
      exact ih.step hstep

/-- When the batch returns, the items up to some index have ended, and no others: all of them, or those up to
the first that has failed. -/
theorem Returns.exists_bound (h : sharing.Returns stop state) (horder : InOrder stop state) :
    ∃ bound ≤ sharing.count, (stop = false → bound = sharing.count) ∧
      (∀ index < bound, ∃ result, state.tasks index = .ended result) ∧
      (∀ index < sharing.count, bound ≤ index → ∀ result, state.tasks index ≠ .ended result) ∧
      (stop = true → (∀ index < bound, ∃ output, state.tasks index = .ended (.ok output)) ∧
          bound = sharing.count ∨
        ∃ last error, bound = last + 1 ∧ state.tasks last = .ended (.error error) ∧
          ∀ index < last, ∃ output, state.tasks index = .ended (.ok output)) := by
  by_cases hfailed : stop = true ∧ ∃ last < sharing.count, ∃ error, state.tasks last = .ended (.error error)
  · obtain ⟨hstop, last, hlast, error, herror⟩ := hfailed
    have hbefore := horder hstop last (by rw [herror]; nofun)
    refine ⟨last + 1, hlast, fun hcontinue => ?_, fun index hindex => ?_,
      fun index _ hindex result hresult => ?_, fun _ => .inr ⟨last, error, rfl, herror, hbefore⟩⟩
    · cases hstop.symm.trans hcontinue
    · rcases Nat.lt_succ_iff_lt_or_eq.mp hindex with hindex | rfl
      · obtain ⟨output, houtput⟩ := hbefore index hindex
        exact ⟨_, houtput⟩
      · exact ⟨_, herror⟩
    · obtain ⟨output, houtput⟩ := horder hstop index (by rw [hresult]; nofun) last hindex
      cases herror.symm.trans houtput
  · have hall := h.resolve_right hfailed
    refine ⟨sharing.count, le_rfl, fun _ => rfl, hall, fun index hindex hle => absurd hindex (by omega),
      fun hstop => .inl ⟨fun index hindex => ?_, rfl⟩⟩
    obtain ⟨result, hresult⟩ := hall index hindex
    cases result with
    | ok output => exact ⟨output, hresult⟩
    | error error => exact absurd ⟨hstop, index, hindex, error, hresult⟩ hfailed

theorem results_eq (hbound : bound ≤ sharing.count)
    (hnone : ∀ index < sharing.count, bound ≤ index → ∀ result, state.tasks index ≠ .ended result) :
    sharing.results state = (List.range bound).filterMap (sharing.resultOf state) := by
  obtain ⟨rest, hrest⟩ := Nat.exists_eq_add_of_le hbound
  have hbeyond : ((List.range rest).map (bound + ·)).filterMap (sharing.resultOf state) = [] := by
    refine List.filterMap_eq_nil_iff.mpr fun index hindex => ?_
    obtain ⟨offset, hoffset, rfl⟩ := List.mem_map.mp hindex
    rw [List.mem_range] at hoffset
    exact resultOf_none (hnone _ (by omega) (by omega))
  rw [results, hrest, List.range_add, List.filterMap_append, hbeyond, List.append_nil]

variable (sharing) in
theorem filterMap_resultOf (h : ∀ index < bound, ∃ result, state.tasks index = .ended result) :
    ((List.range bound).filterMap (sharing.resultOf state)).length = bound ∧
      ∀ index < bound, ((List.range bound).filterMap (sharing.resultOf state))[index]? =
        sharing.resultOf state index := by
  induction bound with
  | zero => exact ⟨rfl, fun index hindex => absurd hindex (Nat.not_lt_zero index)⟩
  | succ bound ih =>
      obtain ⟨hlength, hindices⟩ := ih fun index hindex => h index (by omega)
      obtain ⟨result, hresult⟩ := h bound (Nat.lt_succ_self bound)
      rw [List.range_succ, List.filterMap_append, List.filterMap_cons, resultOf_ended hresult,
        List.filterMap_nil]
      refine ⟨by rw [List.length_append, hlength]; rfl, fun index hindex => ?_⟩
      rcases Nat.lt_succ_iff_lt_or_eq.mp hindex with hindex | rfl
      · rw [List.getElem?_append_left (by omega), hindices index hindex]
      · rw [List.getElem?_append_right (by omega), hlength, Nat.sub_self, resultOf_ended hresult]
        rfl

variable (sharing) in
theorem exists_outputs (h : ∀ index < bound, ∃ output, state.tasks index = .ended (.ok output)) :
    ∃ outputs : List Value, (List.range bound).filterMap (sharing.resultOf state) = outputs.map .ok ∧
      outputs.length = bound := by
  induction bound with
  | zero => exact ⟨[], rfl, rfl⟩
  | succ bound ih =>
      obtain ⟨outputs, houtputs, hlength⟩ := ih fun index hindex => h index (by omega)
      obtain ⟨output, houtput⟩ := h bound (Nat.lt_succ_self bound)
      refine ⟨outputs ++ [output (sharing.shared state.objects bound)], ?_, ?_⟩
      · rw [List.range_succ, List.filterMap_append, houtputs, List.map_append, List.filterMap_cons,
          resultOf_ended houtput]
        rfl
      · rw [List.length_append, hlength]
        rfl

theorem Returns.accounts (h : sharing.Returns stop state) (horder : InOrder stop state) :
    Accounts stop sharing.count (sharing.results state) ∧
      ∀ index < (sharing.results state).length,
        (sharing.results state)[index]? = sharing.resultOf state index := by
  obtain ⟨bound, hbound, hcontinue, hended, hnone, hstops⟩ := h.exists_bound horder
  rw [results_eq hbound hnone]
  obtain ⟨hlength, hindices⟩ := filterMap_resultOf sharing hended
  refine ⟨⟨fun hmode => hlength.trans (hcontinue hmode), fun hmode => ?_⟩, fun index hindex => ?_⟩
  · rcases hstops hmode with ⟨houtputs, hall⟩ | ⟨last, error, rfl, herror, houtputs⟩
    · obtain ⟨outputs, heq, -⟩ := exists_outputs sharing houtputs
      exact .inl ⟨outputs, heq, hlength.trans hall⟩
    · obtain ⟨outputs, heq, -⟩ := exists_outputs sharing houtputs
      refine .inr ⟨outputs, error, ?_, hlength.trans_le hbound⟩
      rw [List.range_succ, List.filterMap_append, heq, List.filterMap_cons, resultOf_ended herror]
      rfl
  · exact hindices index (hlength ▸ hindex)

theorem exists_step (bodies : Bodies Shared) (hconcurrency : 0 < concurrency)
    (h : ¬ sharing.Returns stop state) :
    (∃ index < sharing.count, ∃ own, state.tasks index = .running own) ∨
      ∃ index < sharing.count, ∃ state', sharing.Step bodies stop concurrency index state state' := by
  by_cases hrunning : ∃ index < sharing.count, ∃ own, state.tasks index = .running own
  · exact .inl hrunning
  refine .inr ?_
  by_cases hthrottled : ∃ index < sharing.count, state.tasks index = .throttled
  · obtain ⟨index, hindex, htask⟩ := hthrottled
    exact ⟨index, hindex, _, .start htask⟩
  -- Nobody holds the semaphore, and the first item that waits may take it.
  have hexists : ∃ index, index < sharing.count ∧ state.tasks index = .waiting := by
    by_contra hnone
    refine h (.inl fun index hindex => ?_)
    cases htask : state.tasks index with
    | waiting => exact absurd ⟨index, hindex, htask⟩ hnone
    | throttled => exact absurd ⟨index, hindex, htask⟩ hthrottled
    | running own => exact absurd ⟨index, hindex, own, htask⟩ hrunning
    | ended result => exact ⟨result, rfl⟩
  classical
  obtain ⟨hindex, hwaiting⟩ := Nat.find_spec hexists
  refine ⟨Nat.find hexists, hindex, _, .acquire hwaiting
    ⟨⟨∅, hconcurrency, fun other hother hholds => ?_⟩, fun hstop earlier hearlier => ?_⟩⟩
  · rcases hholds with hholds | ⟨own, hholds⟩
    · exact absurd ⟨other, hother, hholds⟩ hthrottled
    · exact absurd ⟨other, hother, own, hholds⟩ hrunning
  · have hlt : earlier < sharing.count := hearlier.trans hindex
    cases htask : state.tasks earlier with
    | waiting => exact absurd ⟨hlt, htask⟩ (Nat.find_min hexists hearlier)
    | throttled => exact absurd ⟨earlier, hlt, htask⟩ hthrottled
    | running own => exact absurd ⟨earlier, hlt, own, htask⟩ hrunning
    | ended result =>
        cases result with
        | ok output => exact ⟨output, rfl⟩
        | error error => exact absurd (.inr ⟨hstop, earlier, hlt, error, htask⟩) h

/-! ## Isolation -/

variable (sharing)

/-- What a step of an item changes in place is neither what an item that is still to start will copy,
nor what another item shares whose body runs. -/
def Considerate (index : Nat) (state state' : BatchState Objects Shared) : Prop :=
  ∀ other < sharing.count, other ≠ index →
    ((state.tasks other).Idle →
      sharing.entered state'.objects other = sharing.entered state.objects other) ∧
    ∀ own, state.tasks other = .running own →
      sharing.shared state'.objects other = sharing.shared state.objects other

/-- A step changes nothing in place that the context of the batch consists of, or that an item shares. -/
def Untouched (state state' : BatchState Objects Shared) : Prop :=
  sharing.context state'.objects = sharing.context state.objects ∧
    ∀ other < sharing.count, sharing.shared state'.objects other = sharing.shared state.objects other

/-- Steps of the items, none of which changes in place what another item reads. -/
abbrev ConsiderateSteps (bodies : Bodies Shared) (stop : Bool) (concurrency : Nat) :
    BatchState Objects Shared → BatchState Objects Shared → Prop :=
  Relation.ReflTransGen fun state state' => ∃ index < sharing.count,
    sharing.Step bodies stop concurrency index state state' ∧ sharing.Considerate index state state'

/-- Steps of the items, none of which changes in place what is shared. -/
abbrev UntouchedSteps (bodies : Bodies Shared) (stop : Bool) (concurrency : Nat) :
    BatchState Objects Shared → BatchState Objects Shared → Prop :=
  Relation.ReflTransGen fun state state' => ∃ index < sharing.count,
    sharing.Step bodies stop concurrency index state state' ∧ sharing.Untouched state state'

/-- On its own, from what the context of the batch was when the batch began, a body comes so far. -/
abbrev Alone (bodies : Bodies Shared) (objects : Objects) (index : Nat) : Shared × OwnContext Shared → Prop :=
  Relation.ReflTransGen (bodies.works index) (sharing.entered objects index)

/-- Every body that runs has come so far on its own. -/
def Isolated (bodies : Bodies Shared) (objects : Objects) (state : BatchState Objects Shared) : Prop :=
  ∀ index < sharing.count, ∀ own, state.tasks index = .running own →
    sharing.Alone bodies objects index (sharing.shared state.objects index, own)

/-- The bodies that run are isolated, and the items that are still to start will be. -/
structure Apart (bodies : Bodies Shared) (objects : Objects) (state : BatchState Objects Shared) : Prop where
  isolated : sharing.Isolated bodies objects state
  idle : ∀ index < sharing.count, (state.tasks index).Idle →
    sharing.entered state.objects index = sharing.entered objects index

/-- What the items share is as it was, and the items that have ended came to their ends on their own. -/
structure Kept (bodies : Bodies Shared) (objects : Objects) (state : BatchState Objects Shared) : Prop where
  context : sharing.context state.objects = sharing.context objects
  shared : ∀ index < sharing.count, sharing.shared state.objects index = sharing.shared objects index
  ended : ∀ index < sharing.count, ∀ result, state.tasks index = .ended result → ∃ own raised,
    sharing.Alone bodies objects index (sharing.shared objects index, own) ∧
      bodies.ends index (sharing.shared objects index, own) raised ∧
      result.map (fun output => output (sharing.shared objects index)) =
        sharing.endedResult objects index own raised

variable {sharing}

theorem considerate_of_same (h : state'.objects = state.objects) :
    sharing.Considerate index state state' := by
  refine fun other _ _ => ⟨fun _ => ?_, fun _ _ => ?_⟩ <;> rw [h]

theorem Untouched.considerate (h : sharing.Untouched state state') :
    sharing.Considerate index state state' := by
  refine fun other hlt _ => ⟨fun _ => ?_, fun _ _ => h.2 other hlt⟩
  rw [entered, entered, h.1, h.2 other hlt]

/-- A considerate step keeps the items apart. -/
theorem Apart.step (hstep : sharing.Step bodies stop concurrency index state state')
    (hconsiderate : sharing.Considerate index state state') (hlt : index < sharing.count)
    (h : sharing.Apart bodies objects state) : sharing.Apart bodies objects state' := by
  -- The other items have the same tasks, and what they read is the same.
  have hidle : ∀ other < sharing.count, other ≠ index → (state'.tasks other).Idle →
      sharing.entered state'.objects other = sharing.entered objects other := by
    intro other hlt hother htask
    rw [hstep.tasks_other hother] at htask
    rw [(hconsiderate other hlt hother).1 htask, h.idle other hlt htask]
  have hrunning : ∀ other < sharing.count, other ≠ index → ∀ own,
      state'.tasks other = .running own →
      sharing.Alone bodies objects other (sharing.shared state'.objects other, own) := by
    intro other hlt hother own htask
    rw [hstep.tasks_other hother] at htask
    rw [(hconsiderate other hlt hother).2 own htask]
    exact h.isolated other hlt own htask
  -- Of the item itself there is a case for each kind of step.
  suffices hself : (∀ own, state'.tasks index = .running own →
      sharing.Alone bodies objects index (sharing.shared state'.objects index, own)) ∧
      ((state'.tasks index).Idle →
        sharing.entered state'.objects index = sharing.entered objects index) by
    constructor
    · intro other hlt own htask
      by_cases hother : other = index
      · subst hother
        exact hself.1 own htask
      · exact hrunning other hlt hother own htask
    · intro other hlt htask
      by_cases hother : other = index
      · subst hother
        exact hself.2 htask
      · exact hidle other hlt hother htask
  cases hstep with
  | acquire hwaiting hadmits =>
      refine ⟨fun own htask => ?_, fun _ => h.idle index hlt (.inl hwaiting)⟩
      rw [BatchState.put_self] at htask
      cases htask
  | start hthrottled =>
      have hentered := h.idle index hlt (.inr hthrottled)
      refine ⟨fun own htask => ?_, fun _ => hentered⟩
      rw [BatchState.put_self] at htask
      cases htask
      show Relation.ReflTransGen _ (sharing.entered objects index) (sharing.entered state.objects index)
      rw [hentered]
  | work hrun hwork =>
      refine ⟨fun own htask => ?_, fun htask => ?_⟩
      · rw [BatchState.put_self] at htask
        cases htask
        exact (h.isolated index hlt _ hrun).tail hwork
      · rw [BatchState.put_self] at htask
        rcases htask with htask | htask <;> cases htask
  | finish hrun =>
      refine ⟨fun own htask => ?_, fun htask => ?_⟩
      · rw [BatchState.put_self] at htask
        cases htask
      · rw [BatchState.put_self] at htask
        rcases htask with htask | htask <;> cases htask

theorem apart_initial : sharing.Apart bodies objects (.initial objects) := by
  refine ⟨fun index _ own htask => ?_, fun _ _ _ => rfl⟩
  cases htask

theorem Apart.steps (h : sharing.ConsiderateSteps bodies stop concurrency (.initial objects) state) :
    sharing.Apart bodies objects state := by
  induction h with
  | refl => exact apart_initial
  | tail _ hstep ih =>
      obtain ⟨index, hlt, hstep, hconsiderate⟩ := hstep
      exact ih.step hstep hconsiderate hlt

/-! ## The items of the engine -/

theorem Kept.step (hstep : sharing.Step bodies stop concurrency index state state')
    (huntouched : sharing.Untouched state state') (hlt : index < sharing.count)
    (hapart : sharing.Apart bodies objects state) (h : sharing.Kept bodies objects state) :
    sharing.Kept bodies objects state' := by
  refine ⟨huntouched.1.trans h.context, fun other hother => ?_, fun other hother result htask => ?_⟩
  · exact (huntouched.2 other hother).trans (h.shared other hother)
  by_cases hself : other = index
  · subst hself
    cases hstep with
    | finish hrun hends hresult =>
        rw [BatchState.put_self] at htask
        cases htask
        have halone := hapart.isolated other hother _ hrun
        rw [h.shared other hother] at halone hends hresult
        refine ⟨_, _, halone, hends, hresult.trans ?_⟩
        rw [endedResult, endedResult, h.context, h.shared other hother]
    | acquire | start | work =>
        rw [BatchState.put_self] at htask
        cases htask
  · rw [hstep.tasks_other hself] at htask
    exact h.ended other hother result htask

theorem Kept.steps (h : sharing.UntouchedSteps bodies stop concurrency (.initial objects) state) :
    sharing.Apart bodies objects state ∧ sharing.Kept bodies objects state := by
  induction h with
  | refl =>
      refine ⟨apart_initial, rfl, fun _ _ => rfl, fun index _ result htask => ?_⟩
      cases htask
  | tail _ hstep ih =>
      obtain ⟨index, hlt, hstep, huntouched⟩ := hstep
      exact ⟨ih.1.step hstep huntouched.considerate hlt, ih.2.step hstep huntouched hlt ih.1⟩

theorem UntouchedSteps.steps (h : sharing.UntouchedSteps bodies stop concurrency state state') :
    sharing.Steps bodies stop concurrency state state' := by
  induction h with
  | refl => exact .refl
  | tail _ hstep ih =>
      obtain ⟨index, hlt, hstep, -⟩ := hstep
      exact ih.tail ⟨index, hlt, hstep⟩

/-- A batch over these items begins, in this context. -/
structure Begins (sharing : Sharing Objects Shared) (ctx : WorkflowContext) (items : List Value)
    (objects : Objects) : Prop where
  context : sharing.context objects = ctx
  count : sharing.count = items.length
  item : ∀ index item, items[index]? = some item → sharing.item (sharing.shared objects index) = item

/-- Bodies that end, left alone and with what they share as it was, as the bodies of the engine do. -/
def Faithful (sharing : Sharing Objects Shared) (bodies : Bodies Shared) (objects : Objects)
    (Runs : Nat → Value → Thread × Outcome Unit → Prop) : Prop :=
  ∀ index < sharing.count, ∀ own raised,
    sharing.Alone bodies objects index (sharing.shared objects index, own) →
      bodies.ends index (sharing.shared objects index, own) raised →
        ∃ trace, Runs index (sharing.item (sharing.shared objects index))
          (⟨own (sharing.shared objects index), trace⟩,
            raised.elim (.ok ()) fun exc => .error (.raised exc))

variable {Runs : Nat → Value → Thread × Outcome Unit → Prop} {items : List Value}

/-- Where nothing has been changed in place that the items share, their results are those of items that each
run in a copy of the context. -/
theorem Kept.processed {ctx : WorkflowContext} (hbegins : sharing.Begins ctx items objects)
    (hfaithful : sharing.Faithful bodies objects Runs) (horder : InOrder stop state)
    (hreturns : sharing.Returns stop state) (h : sharing.Kept bodies objects state) :
    ∃ ends, Processed Runs 0 items ends ∧ sharing.results state = resultsFrom ctx 0 items ends := by
  obtain ⟨bound, hbound, -, hended, hnone, -⟩ := hreturns.exists_bound horder
  have hpieces : ∀ index, ∃ piece, index < bound → ∀ item, items[index]? = some item →
      Runs index item piece ∧ sharing.resultOf state index = some (itemResult ctx item index piece) := by
    intro index
    by_cases hindex : index < bound
    · have hlt : index < sharing.count := hindex.trans_le hbound
      obtain ⟨result, hresult⟩ := hended index hindex
      obtain ⟨own, raised, halone, hends, heq⟩ := h.ended index hlt result hresult
      obtain ⟨trace, hruns⟩ := hfaithful index hlt own raised halone hends
      refine ⟨(⟨own (sharing.shared objects index), trace⟩,
        raised.elim (.ok ()) fun exc => .error (.raised exc)), fun _ item hitem => ?_⟩
      rw [← hbegins.item index item hitem]
      refine ⟨hruns, ?_⟩
      rw [resultOf_ended hresult, h.shared index hlt, heq, endedResult, hbegins.context]
      rfl
    · exact ⟨(⟨ctx, []⟩, .ok ()), fun hlt => absurd hlt hindex⟩
  choose piece hpiece using hpieces
  obtain ⟨ends, hprocessed, -, hresults⟩ := exists_processed Runs ctx
    (fun index => if index < bound then some (piece index) else none) bound items 0
    (fun entry hentry hlt => ⟨piece entry.2, if_pos hlt,
      (hpiece entry.2 hlt entry.1 (List.mk_mem_zipIdx_iff_getElem?.mp hentry)).1⟩)
    fun entry _ hle => if_neg (Nat.not_lt.mpr hle)
  refine ⟨ends, hprocessed, ?_⟩
  rw [← hresults, results, hbegins.count, List.range_eq_range', ← List.zipIdx_map_snd 0 items,
    List.filterMap_map]
  refine List.filterMap_congr fun entry hentry => ?_
  have hitem : items[entry.2]? = some entry.1 := List.mk_mem_zipIdx_iff_getElem?.mp hentry
  have hlt : entry.2 < sharing.count := hbegins.count ▸ (List.getElem?_eq_some_iff.mp hitem).1
  dsimp only [Function.comp_apply]
  by_cases hindex : entry.2 < bound
  · rw [if_pos hindex, (hpiece entry.2 hindex entry.1 hitem).2]
    rfl
  · rw [if_neg hindex, resultOf_none (hnone entry.2 hlt (Nat.not_lt.mp hindex))]
    rfl

variable (sharing bodies stop concurrency) in
theorem exists_finish {own : OwnContext Shared} (htask : state.tasks index = .running own)
    (hends : bodies.ends index (sharing.shared state.objects index, own) none) : ∃ output,
    sharing.Step bodies stop concurrency index state
      (state.put index (.ended (.ok output)) state.objects) :=
  ⟨fun _ => itemOutput (sharing.item (sharing.shared state.objects index))
    (sharing.context state.objects).data (own (sharing.shared state.objects index)).data,
    .finish htask hends rfl⟩

/-! ## Items that share nothing -/

/-- A batch in which nothing is shared. -/
def copies (ctx : WorkflowContext) (items : List Value) : Sharing Unit Value where
  context _ := ctx
  shared _ index := items.getD index .null
  item := id
  count := items.length

/-- Bodies that run in one step. -/
def runBodies (Runs : Nat → Value → Thread × Outcome Unit → Prop) : Bodies Value where
  works index start finish :=
    finish.1 = start.1 ∧ ∃ ended, Runs index start.1 ended ∧ finish.2 = fun _ => ended.1.ctx
  ends index finish raised := ∃ trace, Runs index finish.1
    (⟨finish.2 finish.1, trace⟩, raised.elim (.ok ()) fun exc => .error (.raised exc))

theorem begins_copies (ctx : WorkflowContext) (items : List Value) :
    (copies ctx items).Begins ctx items () := by
  refine ⟨rfl, rfl, fun index item hitem => ?_⟩
  show items.getD index .null = item
  rw [List.getD_eq_getElem?_getD, hitem, Option.getD_some]

theorem faithful_copies (ctx : WorkflowContext) (items : List Value)
    (Runs : Nat → Value → Thread × Outcome Unit → Prop) :
    (copies ctx items).Faithful (runBodies Runs) () Runs :=
  fun _ _ _ _ _ hends => hends

theorem exists_run {ctx : WorkflowContext}
    {state : BatchState Unit Value} {ended : Thread} (hlt : index < items.length)
    (hwaiting : state.tasks index = .waiting)
    (hadmits : (copies ctx items).Admits stop concurrency state index)
    (hruns : Runs index (items.getD index .null) (ended, .ok ())) :
    ∃ last, (copies ctx items).UntouchedSteps (runBodies Runs) stop concurrency state last ∧
      (∃ output, last.tasks index = .ended (.ok output)) ∧
      ∀ other, other ≠ index → last.tasks other = state.tasks other := by
  let mid := ((state.put index .throttled ()).put index
    (.running ((copies ctx items).entered () index).2) ()).put index (.running fun _ => ended.ctx) ()
  have hmid : mid.tasks index = .running fun _ => ended.ctx := BatchState.put_self _ _ _ _
  obtain ⟨output, hfinish⟩ :=
    exists_finish (copies ctx items) (runBodies Runs) stop concurrency hmid ⟨ended.trace, hruns⟩
  have hsame : ∀ before after, (copies ctx items).Untouched before after :=
    fun _ _ => ⟨rfl, fun _ _ => rfl⟩
  refine ⟨_, .head ⟨index, hlt, .acquire hwaiting hadmits, hsame _ _⟩
    (.head ⟨index, hlt, .start (BatchState.put_self _ _ _ _), hsame _ _⟩
    (.head ⟨index, hlt, @Step.work _ _ _ _ _ _ _ _ _ () (fun _ => ended.ctx) (BatchState.put_self _ _ _ _)
      ⟨rfl, _, hruns, rfl⟩, hsame _ _⟩
    (.single ⟨index, hlt, hfinish, hsame _ _⟩))), ⟨output, BatchState.put_self _ _ _ _⟩,
    fun other hother => ?_⟩
  simp only [mid, BatchState.put_other _ hother]

/-- Items that all return run one after the other. -/
theorem exists_runs (stop : Bool) (hconcurrency : 0 < concurrency)
    (ctx : WorkflowContext)
    (hruns : ∀ index < items.length, ∃ ended, Runs index (items.getD index .null) (ended, .ok ()))
    (bound : Nat) (hbound : bound ≤ items.length) :
    ∃ state, (copies ctx items).UntouchedSteps (runBodies Runs) stop concurrency (.initial ()) state ∧
      (∀ index < bound, ∃ output, state.tasks index = .ended (.ok output)) ∧
      ∀ index, bound ≤ index → state.tasks index = .waiting := by
  induction bound with
  | zero => exact ⟨_, .refl, fun index hindex => absurd hindex (Nat.not_lt_zero index), fun _ _ => rfl⟩
  | succ bound ih =>
      obtain ⟨state, hsteps, hended, hwaiting⟩ := ih (Nat.le_of_succ_le hbound)
      obtain ⟨ended, hitem⟩ := hruns bound hbound
      have hadmits : (copies ctx items).Admits stop concurrency state bound := by
        refine ⟨⟨∅, hconcurrency, fun other _ hholds => ?_⟩, fun _ => hended⟩
        rcases Nat.lt_or_ge other bound with hlt | hle
        · obtain ⟨output, houtput⟩ := hended other hlt
          rw [houtput] at hholds
          rcases hholds with hholds | ⟨own, hholds⟩ <;> cases hholds
        · rw [hwaiting other hle] at hholds
          rcases hholds with hholds | ⟨own, hholds⟩ <;> cases hholds
      obtain ⟨last, hlast, houtput, hothers⟩ := exists_run hbound (hwaiting bound le_rfl) hadmits hitem
      refine ⟨last, hsteps.trans hlast, fun index hindex => ?_, fun index hindex => ?_⟩
      · rcases Nat.lt_succ_iff_lt_or_eq.mp hindex with hindex | rfl
        · rw [hothers index (by omega)]
          exact hended index hindex
        · exact houtput
      · rw [hothers index (by omega)]
        exact hwaiting index (by omega)

/-! ## Samples -/

namespace Sample

/-- Two orders in the data of a workflow, which are the items of a batch. -/
def orders : Sharing (List Value) Value where
  context objects := { data := [("orders", .list objects)], triggerData := [] }
  shared objects index := objects.getD index .null
  item order := order
  count := 2

def orderTo (city : String) : Value :=
  .dict [("address", .dict [("city", .str city)])]

def orderAbroad (city : String) : Value :=
  .dict [("address", .dict [("city", .str city), ("country", .str "PL")])]

def placed : List Value :=
  [orderTo "Lublin", orderTo "Opole"]

/-- The result of a transform node that maps the address of the item, and then a country into it. -/
def mapAddress (texts : TextFunctions) (scope : Scope) : Except String Value :=
  (Value.setNested texts true "address" (Conditions.resolveValue texts "item.address" scope) (.dict [])).bind
    (Value.setNested texts true "address.country" (.str "PL"))

/-- The output of that node. The address in it is the one of the order. -/
def mapped (order : Value) : Value :=
  .dict [("address", ruleField order "address")]

def addsCountry (texts : TextFunctions) : Bodies Value where
  works _ start finish := ∃ fields address, start.1 = .dict fields ∧
    mapAddress texts (start.2 start.1).toScope = .ok (.dict [("address", address)]) ∧
    finish.1 = .dict (Assoc.put fields "address" address) ∧
    finish.2 = fun order => { start.2 order with
      toScope := ((start.2 order).toScope.setNodeOutput "map" (mapped order)).mergeData (mapped order) }
  ends _ _ raised := raised = none

theorem addsCountry_data {texts : TextFunctions} {index : Nat} {start finish : Value × OwnContext Value}
    (h : Relation.ReflTransGen ((addsCountry texts).works index) start finish) (order : Value) :
    (finish.2 order).data.find "orders" = (start.2 order).data.find "orders" := by
  induction h with
  | refl => rfl
  | @tail mid finish _ hwork ih =>
      obtain ⟨fields, address, _, _, _, hown⟩ := hwork
      rw [← ih, hown]
      exact Assoc.find_put (mid.2 order).data "address" "orders" _

theorem exists_addsCountry (texts : TextFunctions) : ∃ own, (addsCountry texts).works 0
    (orders.entered placed 0) (orderAbroad "Lublin", own) :=
  ⟨_, _, .dict [("city", .str "Lublin"), ("country", .str "PL")], rfl, rfl, rfl, rfl⟩

theorem exists_steps_second (texts : TextFunctions) : ∃ state,
    orders.Steps (addsCountry texts) false 1 (.initial placed) state ∧
      state.tasks 1 = .running (orders.entered [orderAbroad "Lublin", orderTo "Opole"] 1).2 := by
  obtain ⟨own, hwork⟩ := exists_addsCountry texts
  let mid := (((BatchState.initial placed).put 0 .throttled placed).put 0
    (.running (orders.entered placed 0).2) placed).put 0 (.running own)
      [orderAbroad "Lublin", orderTo "Opole"]
  have hmid : mid.tasks 0 = .running own := rfl
  obtain ⟨output, hfinish⟩ := exists_finish orders (addsCountry texts) false 1 hmid rfl
  refine ⟨_, .head ⟨0, by decide, .acquire rfl ⟨⟨∅, Nat.zero_lt_one, ?_⟩, nofun⟩⟩
    (.head ⟨0, by decide, .start rfl⟩
    (.head ⟨0, by decide, @Step.work _ _ _ _ _ _ _ _ _ [orderAbroad "Lublin", orderTo "Opole"] own rfl hwork⟩
    (.head ⟨0, by decide, hfinish⟩
    (.head ⟨1, by decide, .acquire rfl ⟨⟨∅, Nat.zero_lt_one, ?_⟩, nofun⟩⟩
    (.single ⟨1, by decide, .start rfl⟩))))), rfl⟩
  · rintro other - (hholds | ⟨own, hholds⟩) <;> cases hholds
  · rintro (_ | other) - (hholds | ⟨own, hholds⟩) <;> cases hholds

theorem exists_considerate_steps (texts : TextFunctions) : ∃ state,
    orders.ConsiderateSteps (addsCountry texts) false 2 (.initial placed) state ∧
      state.objects = [orderAbroad "Lublin", orderTo "Opole"] ∧
      state.tasks 1 = .running (orders.entered placed 1).2 := by
  obtain ⟨own, hwork⟩ := exists_addsCountry texts
  refine ⟨_, .head ⟨0, by decide, .acquire rfl ⟨⟨∅, Nat.zero_lt_two, ?_⟩, nofun⟩, considerate_of_same rfl⟩
    (.head ⟨0, by decide, .start rfl, considerate_of_same rfl⟩
    (.head ⟨1, by decide, .acquire rfl ⟨⟨{0}, by decide, ?_⟩, nofun⟩, considerate_of_same rfl⟩
    (.head ⟨1, by decide, .start rfl, considerate_of_same rfl⟩
    (.single ⟨0, by decide,
      @Step.work _ _ _ _ _ _ _ _ _ [orderAbroad "Lublin", orderTo "Opole"] own rfl hwork, ?_⟩)))), rfl, rfl⟩
  · rintro other - (hholds | ⟨own, hholds⟩) <;> cases hholds
  · rintro (_ | other) - hholds
    · exact Finset.mem_singleton_self 0
    · rcases hholds with hholds | ⟨own, hholds⟩ <;> cases hholds
  · intro other hlt hother
    -- The other item is the second one, whose body runs.
    obtain rfl : other = 1 := by
      have : other < 2 := hlt
      omega
    refine ⟨fun hidle => ?_, fun _ _ => rfl⟩
    rcases hidle with hidle | hidle <;> cases hidle

theorem not_isolated_of_second {texts : TextFunctions} {state : BatchState (List Value) Value}
    (htask : state.tasks 1 = .running (orders.entered [orderAbroad "Lublin", orderTo "Opole"] 1).2) :
    ¬ orders.Isolated (addsCountry texts) placed state := by
  intro h
  have hdata := addsCountry_data (h 1 (by decide) _ htask) .null
  have horders : Value.list [orderAbroad "Lublin", orderTo "Opole"] = .list placed := Option.some.inj hdata
  simp [orderAbroad, orderTo, placed] at horders

end Sample

end Sharing

/-! ## Batches hold -/

namespace Sample

def fetchBatch : Node where
  id := "batch"
  type := .batch
  config := { source := some "items", onItemError := some "stop" }

def fetchEach : Workflow where
  id := "fetch-each"
  nodes := [trigger, fetchBatch, action "fetch" "get" none none]
  edges := [⟨"start", "batch", none⟩, ⟨"batch", "fetch", some "body"⟩]

abbrev FetchRuns : Nat → Value → Thread × Outcome Unit → Prop :=
  (engine []).ItemRuns anyReply 1 fetchEach fetchBatch 0 twoItems.ctx

def fetchedItem (index : Nat) (item : Value) : Thread × Outcome Unit :=
  (play answer first (itemBody ((engine []).executeSingleNode 1) fetchEach fetchBatch 0
    (batchBody fetchEach fetchBatch) index) ⟨itemContext twoItems.ctx item index, []⟩ {}).2

theorem fetchRuns (index : Nat) (item : Value) : FetchRuns index item (fetchedItem index item) := by
  have hsat : Sat (engineContract anyReply twoItems.ctx.dryRun fetchEach)
      (itemBody ((engine []).executeSingleNode 1) fetchEach fetchBatch 0 (batchBody fetchEach fetchBatch)
        index) ⟨itemContext twoItems.ctx item index, []⟩ _ :=
    sat_itemBody_runs rfl index item
  exact ⟨{}, MergeJoins.sound_empty _,
    (hsat {} (MergeJoins.sound_empty _)).ends_of_run (Step.play_run answer first answer_any _)⟩

def orderBatch : Node where
  id := "batch"
  type := .batch
  config := { source := some "orders", concurrency := some 2 }

end Sample

end IntegrationPlatform
