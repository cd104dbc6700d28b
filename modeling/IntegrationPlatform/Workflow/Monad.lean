import IntegrationPlatform.Resumption.Contract
import IntegrationPlatform.Workflow.Context

/-!
# The engine monad

`Eng α` is a piece of the engine: a task over the merge bookkeeping that carries the private
state of its coroutine and ends by returning, by raising, by waiting for ever, or by running
out of the fuel that bounds nested activations. `Sat` is the rule of pre- and postconditions
for it, on top of the contracts of tasks.
-/

namespace IntegrationPlatform

open Resumption

/-- Why a piece of the engine did not return. `blocked` is a coroutine that waits for ever, and
`outOfFuel` is one that nests more activations than the bound of the model allows. Neither of
the two can be caught. -/
inductive Stop where
  | raised (exc : Exc)
  | blocked
  | outOfFuel

/-- How a piece of the engine ended. -/
abbrev Outcome (α : Type) := Except Stop α

/-- A piece of the engine. -/
def Eng (α : Type) := Thread → Task Request Reply MergeJoins (Thread × Outcome α)

namespace Eng

variable {α β : Type}

/-- Return at once. -/
def pure (value : α) : Eng α := fun thread joins => .done joins (thread, .ok value)

/-- Run one piece and, if it returns, the next. -/
def bind (first : Eng α) (next : α → Eng β) : Eng β := fun thread joins =>
  (first thread joins).bind fun (thread', outcome) =>
    match outcome with
    | .ok value => next value thread'
    | .error stop => fun joins' => .done joins' (thread', .error stop)

instance : Monad Eng where
  pure := Eng.pure
  bind := Eng.bind

/-- End with this outcome. -/
def halt (outcome : Outcome α) : Eng α := fun thread joins => .done joins (thread, outcome)

/-- Raise an exception. -/
def raise (exc : Exc) : Eng α := halt (.error (.raised exc))

/-- Return what a pure computation returns, or raise what it raises. -/
def ofExcept (result : Except Exc α) : Eng α :=
  match result with
  | .ok value => pure value
  | .error exc => raise exc

/-- Run a piece and catch what it raises. -/
def attempt (body : Eng α) : Eng (Except Exc α) := fun thread joins =>
  (body thread joins).bind fun (thread', outcome) joins' =>
    match outcome with
    | .ok value => .done joins' (thread', .ok (.ok value))
    | .error (.raised exc) => .done joins' (thread', .ok (.error exc))
    | .error stop => .done joins' (thread', .error stop)

/-- The context. -/
def getContext : Eng WorkflowContext := fun thread joins => .done joins (thread, .ok thread.ctx)

/-- Change what expressions read. -/
def modifyScope (change : Scope → Scope) : Eng Unit := fun thread joins =>
  .done joins (thread.mapScope change, .ok ())

/-- Change `node_results`. -/
def modifyResults (change : List Entry → List Entry) : Eng Unit := fun thread joins =>
  .done joins (thread.mapResults change, .ok ())

/-- Record events that another thread recorded. -/
def emitAll (events : List Event) : Eng Unit := fun thread joins =>
  .done joins (thread.log events, .ok ())

/-- Record an event. -/
def emit (event : Event) : Eng Unit := emitAll [event]

/-- Record an event of an activation. -/
def emitAt (workflow : Workflow) (node : Node) (depth : Nat) (event : Site → Event) : Eng Unit :=
  fun thread joins =>
    .done joins (thread.log [event (thread.site workflow node depth)], .ok ())

/-- Ask for something and wait for the reply. -/
def ask (request : Request) : Eng (Reply request) := fun thread joins =>
  .ask joins request fun reply joins' => .done joins' (thread, .ok reply)

/-- Read and change the merge bookkeeping in one atomic step. -/
def atomically (change : MergeJoins → α × MergeJoins) : Eng α := fun thread joins =>
  .done (change joins).2 (thread, .ok (change joins).1)

/-- Run a piece on a merge bookkeeping of its own, made from the surrounding one. -/
def isolated (copy : MergeJoins → MergeJoins) (body : Eng α) : Eng α := fun thread joins =>
  (body thread (copy joins)).isolate joins

/-- Run a piece on a thread of its own and return how it ended. -/
def fork (start : Thread) (body : Eng α) : Eng (Thread × Outcome α) := fun thread joins =>
  (body start joins).bind fun result joins' => .done joins' (thread, .ok result)

/-- Run pieces concurrently, each on a thread of its own, at most `width + 1` at a time. The
results come in the order in which the pieces end. -/
def gather (width : Nat) (tasks : List (Nat × Thread × Eng α)) :
    Eng (List (Nat × Thread × Outcome α)) := fun thread joins =>
  (Step.interleave width joins
      (tasks.map fun task => (task.1, Step.launch joins (task.2.2 task.2.1))) []).bind
    fun results joins' => .done joins' (thread, .ok results)

/-! ## Pre- and postconditions -/

/-- From `thread`, and whatever the merge bookkeeping is, `body` respects the contract and ends
in a thread and an outcome that satisfy `P`. -/
def Sat (c : Contract Request Reply MergeJoins) (body : Eng α) (thread : Thread)
    (P : Thread → Outcome α → Prop) : Prop :=
  ∀ joins, c.inv joins → (body thread joins).Meets c fun result => P result.1 result.2

variable {c : Contract Request Reply MergeJoins} {thread : Thread}
  {P P' : Thread → Outcome α → Prop}

variable {body : Eng α}

theorem Sat.mono (h : Sat c body thread P)
    (hpost : ∀ thread' outcome, P thread' outcome → P' thread' outcome) :
    Sat c body thread P' :=
  fun joins hjoins => (h joins hjoins).mono fun result => hpost result.1 result.2

theorem Sat.and (h : Sat c body thread P) (h' : Sat c body thread P') :
    Sat c body thread fun thread' outcome => P thread' outcome ∧ P' thread' outcome :=
  fun joins hjoins => (h joins hjoins).and (h' joins hjoins)

variable {M : Thread → Outcome α → Prop}

theorem Sat.bind {P : Thread → Outcome β → Prop}
    {first : Eng α} {next : α → Eng β} (h : Sat c first thread M)
    (hnext : ∀ thread' value, M thread' (.ok value) → Sat c (next value) thread' P)
    (hstop : ∀ thread' stop, M thread' (.error stop) → P thread' (.error stop)) :
    Sat c (first >>= next) thread P := by
  intro joins hjoins
  refine (h joins hjoins).bind fun result joins' hmid hjoins' => ?_
  obtain ⟨thread', outcome⟩ := result
  cases outcome with
  | ok value => exact hnext thread' value hmid joins' hjoins'
  | error stop => exact ⟨hjoins', hstop thread' stop hmid⟩

theorem Sat.bind_of {P : Thread → Outcome β → Prop} {first : Eng α} {next : α → Eng β}
    (h : Sat c first thread fun thread' outcome =>
      (∀ value, outcome = .ok value → Sat c (next value) thread' P) ∧
      (∀ stop, outcome = .error stop → P thread' (.error stop))) :
    Sat c (first >>= next) thread P :=
  h.bind (fun _ value hmid => hmid.1 value rfl) fun _ stop hmid => hmid.2 stop rfl

theorem Sat.attempt {P : Thread → Outcome (Except Exc α) → Prop} (h : Sat c body thread M)
    (hok : ∀ thread' value, M thread' (.ok value) → P thread' (.ok (.ok value)))
    (hraised : ∀ thread' exc, M thread' (.error (.raised exc)) → P thread' (.ok (.error exc)))
    (hstop : ∀ thread' stop, (∀ exc, stop ≠ .raised exc) → M thread' (.error stop) →
      P thread' (.error stop)) :
    Sat c (Eng.attempt body) thread P := by
  intro joins hjoins
  refine (h joins hjoins).bind fun result joins' hmid hjoins' => ?_
  obtain ⟨thread', outcome⟩ := result
  cases outcome with
  | ok value => exact ⟨hjoins', hok thread' value hmid⟩
  | error stop =>
      cases stop with
      | raised exc => exact ⟨hjoins', hraised thread' exc hmid⟩
      | blocked => exact ⟨hjoins', hstop thread' _ (by simp) hmid⟩
      | outOfFuel => exact ⟨hjoins', hstop thread' _ (by simp) hmid⟩

theorem Sat.attempt_bind {P : Thread → Outcome β → Prop}
    {next : Except Exc α → Eng β} (h : Sat c body thread M)
    (hok : ∀ thread' value, M thread' (.ok value) → Sat c (next (.ok value)) thread' P)
    (hraised : ∀ thread' exc, M thread' (.error (.raised exc)) →
      Sat c (next (.error exc)) thread' P)
    (hstop : ∀ thread' stop, (∀ exc, stop ≠ .raised exc) → M thread' (.error stop) →
      P thread' (.error stop)) :
    Sat c (Eng.attempt body >>= next) thread P := by
  refine (h.attempt (P := fun thread' outcome =>
    (∀ value, outcome = .ok value → Sat c (next value) thread' P) ∧
    (∀ stop, outcome = .error stop → P thread' (.error stop))) ?_ ?_ ?_).bind
      (fun thread' value h => h.1 value rfl) fun thread' stop h => h.2 stop rfl
  · exact fun thread' value h => by simpa using hok thread' value h
  · exact fun thread' exc h => by simpa using hraised thread' exc h
  · exact fun thread' stop hne h => by simpa using hstop thread' stop hne h

theorem sat_pure {value : α} (h : P thread (.ok value)) :
    Sat c (Pure.pure value : Eng α) thread P :=
  fun _ hjoins => ⟨hjoins, h⟩

theorem sat_halt {outcome : Outcome α} (h : P thread outcome) :
    Sat c (halt outcome) thread P :=
  fun _ hjoins => ⟨hjoins, h⟩

theorem sat_raise {exc : Exc} (h : P thread (.error (.raised exc))) :
    Sat c (raise exc) thread P :=
  sat_halt h

@[simp] theorem sat_getContext_bind {next : WorkflowContext → Eng α} :
    Sat c (getContext >>= next) thread P ↔ Sat c (next thread.ctx) thread P :=
  Iff.rfl

variable {next : Unit → Eng α}

@[simp] theorem sat_modifyScope_bind {change : Scope → Scope} :
    Sat c (modifyScope change >>= next) thread P ↔
      Sat c (next ()) (thread.mapScope change) P :=
  Iff.rfl

@[simp] theorem sat_modifyResults_bind {change : List Entry → List Entry} :
    Sat c (modifyResults change >>= next) thread P ↔
      Sat c (next ()) (thread.mapResults change) P :=
  Iff.rfl

@[simp] theorem sat_emitAll_bind {events : List Event} :
    Sat c (emitAll events >>= next) thread P ↔ Sat c (next ()) (thread.log events) P :=
  Iff.rfl

@[simp] theorem sat_emit_bind {event : Event} :
    Sat c (emit event >>= next) thread P ↔ Sat c (next ()) (thread.log [event]) P :=
  Iff.rfl

@[simp] theorem sat_emitAt_bind {workflow : Workflow} {node : Node} {depth : Nat}
    {event : Site → Event} :
    Sat c (emitAt workflow node depth event >>= next) thread P ↔
      Sat c (next ()) (thread.log [event (thread.site workflow node depth)]) P :=
  Iff.rfl

theorem sat_ask {request : Request} {P : Thread → Outcome (Reply request) → Prop}
    (hasks : c.asks request)
    (h : ∀ reply, c.replies request reply → P thread (.ok reply)) :
    Sat c (ask request) thread P :=
  fun _ hjoins => ⟨hjoins, hasks, fun reply hreply _ hjoins' => ⟨hjoins', h reply hreply⟩⟩

theorem sat_ask_bind {request : Request} {next : Reply request → Eng α}
    (hasks : c.asks request)
    (h : ∀ reply, c.replies request reply → Sat c (next reply) thread P) :
    Sat c (ask request >>= next) thread P :=
  fun _ hjoins => ⟨hjoins, hasks, fun reply hreply joins' hjoins' =>
    h reply hreply joins' hjoins'⟩

theorem sat_isolated {I : MergeJoins → Prop} {copy : MergeJoins → MergeJoins}
    (hcopy : ∀ joins, c.inv joins → I (copy joins))
    (h : Sat ⟨I, c.asks, c.replies⟩ body thread P) :
    Sat c (isolated copy body) thread P :=
  fun joins hjoins => (h (copy joins) (hcopy joins hjoins)).isolate hjoins

theorem sat_atomically_bind {change : MergeJoins → α × MergeJoins} {next : α → Eng β}
    {P : Thread → Outcome β → Prop}
    (h : ∀ joins, c.inv joins →
      c.inv (change joins).2 ∧ Sat c (next (change joins).1) thread P) :
    Sat c (atomically change >>= next) thread P :=
  fun joins hjoins => (h joins hjoins).2 _ (h joins hjoins).1

theorem sat_fork_bind {start : Thread}
    {next : Thread × Outcome α → Eng β} {P : Thread → Outcome β → Prop}
    (h : Sat c body start M)
    (hnext : ∀ ended, M ended.1 ended.2 → Sat c (next ended) thread P) :
    Sat c (fork start body >>= next) thread P := by
  intro joins hjoins
  have hfork : (fork start body thread joins).Meets c fun result =>
      ∃ ended, result = (thread, .ok ended) ∧ M ended.1 ended.2 :=
    (h joins hjoins).bind fun ended _ hended hjoins' => ⟨hjoins', ended, rfl, hended⟩
  refine hfork.bind fun result joins' hresult hjoins' => ?_
  obtain ⟨ended, rfl, hended⟩ := hresult
  exact hnext ended hended joins' hjoins'

theorem sat_gather_bind {width : Nat} {tasks : List (Nat × Thread × Eng α)}
    {M : Nat → Thread → Outcome α → Prop} {next : List (Nat × Thread × Outcome α) → Eng β}
    {P : Thread → Outcome β → Prop} (h : ∀ task ∈ tasks, Sat c task.2.2 task.2.1 (M task.1))
    (hnext : ∀ ended : List (Nat × Thread × Outcome α),
      (∀ piece ∈ ended, M piece.1 piece.2.1 piece.2.2) →
      (ended.map Prod.fst).Perm (tasks.map Prod.fst) → Sat c (next ended) thread P) :
    Sat c (gather width tasks >>= next) thread P := by
  intro joins hjoins
  have hpool : ∀ entry ∈ tasks.map fun task => (task.1, Step.launch joins (task.2.2 task.2.1)),
      entry.2.Meets c fun result => M entry.1 result.1 result.2 := by
    intro entry hentry
    obtain ⟨task, htask, rfl⟩ := List.mem_map.mp hentry
    exact .launch hjoins fun joins' hjoins' => h task htask joins' hjoins'
  have hgather : (gather width tasks thread joins).Meets c fun result =>
      ∃ ended, result = (thread, .ok ended) ∧
        (∀ piece ∈ ended, M piece.1 piece.2.1 piece.2.2) ∧
        (ended.map Prod.fst).Perm (tasks.map Prod.fst) := by
    refine (Step.meets_interleave c width (fun key result => M key result.1 result.2) _ joins []
      hjoins hpool (by simp)).bind fun ended joins' hended hjoins' => ⟨hjoins', ended, rfl, ?_⟩
    exact ⟨hended.1, by simpa [Function.comp_def] using hended.2⟩
  refine hgather.bind fun result joins' hresult hjoins' => ?_
  obtain ⟨ended, rfl, hended, hperm⟩ := hresult
  exact hnext ended hended hperm joins' hjoins'

/-! ## Results -/

/-- From `thread`, `body` can end in `thread'` with this outcome. -/
def Ends (c : Contract Request Reply MergeJoins) (body : Eng α) (thread thread' : Thread)
    (outcome : Outcome α) : Prop :=
  ∃ joins, c.inv joins ∧ Step.Ends c (body thread joins) (thread', outcome)

theorem Sat.of_ends {thread' : Thread} {outcome : Outcome α}
    (h : Sat c body thread P) (hends : Ends c body thread thread' outcome) : P thread' outcome := by
  obtain ⟨joins, hjoins, hstep⟩ := hends
  exact (h joins hjoins).of_ends hstep

theorem Sat.ends (h : Sat c body thread P) :
    Sat c body thread (Ends c body thread) :=
  fun joins hjoins => (h joins hjoins).ends.mono fun _ hstep => ⟨joins, hjoins, hstep⟩

/-! ## Playing -/

section Play

variable (answer : (request : Request) → Reply request) (pick : (width : Nat) → Fin (width + 1))

/-- The execution of a piece under a fixed family of replies and scheduler choices. -/
def play (body : Eng α) (thread : Thread) (joins : MergeJoins) : MergeJoins × Thread × Outcome α :=
  (body thread joins).play answer pick

variable {joins : MergeJoins}

@[simp] theorem play_bind (first : Eng α) (next : α → Eng β) :
    play answer pick (first >>= next) thread joins =
      match play answer pick first thread joins with
      | (joins', thread', .ok value) => play answer pick (next value) thread' joins'
      | (joins', thread', .error stop) => (joins', thread', .error stop) := by
  change ((first thread joins).bind _).play answer pick = _
  rw [Step.play_bind]
  unfold play
  split
  · next heq => rw [heq]
  · next heq => rw [heq]; rfl

@[simp] theorem play_map (f : α → β) (body : Eng α) :
    play answer pick (f <$> body) thread joins =
      play answer pick (body >>= fun value => Pure.pure (f value)) thread joins :=
  rfl

@[simp] theorem play_attempt (body : Eng α) :
    play answer pick (attempt body) thread joins =
      match play answer pick body thread joins with
      | (joins', thread', .ok value) => (joins', thread', .ok (.ok value))
      | (joins', thread', .error (.raised exc)) => (joins', thread', .ok (.error exc))
      | (joins', thread', .error stop) => (joins', thread', .error stop) := by
  change ((body thread joins).bind _).play answer pick = _
  rw [Step.play_bind]
  unfold play
  rcases Step.play answer pick (body thread joins) with ⟨joins', thread', (_ | _ | _) | _⟩ <;> rfl

@[simp] theorem play_fork (start : Thread) (body : Eng α) :
    play answer pick (fork start body) thread joins =
      ((play answer pick body start joins).1, thread, .ok (play answer pick body start joins).2) := by
  change ((body start joins).bind _).play answer pick = _
  rw [Step.play_bind]
  rfl

@[simp] theorem play_isolated (copy : MergeJoins → MergeJoins) (body : Eng α) :
    play answer pick (isolated copy body) thread joins =
      (joins, (play answer pick body thread (copy joins)).2) :=
  Step.play_isolate answer pick _ _

theorem play_gather (width fuel : Nat) (tasks : List (Nat × Thread × Eng α)) :
    play answer pick (gather width tasks) thread joins =
      let ended := Step.playPool answer pick width fuel joins
        (tasks.map fun task => (task.1, Step.launch joins (task.2.2 task.2.1))) []
      (ended.1, thread, .ok ended.2) := by
  change ((Step.interleave width joins _ []).bind _).play answer pick = _
  rw [Step.play_bind, Step.play_interleave answer pick width fuel]
  rfl

theorem play_gather_single (width key : Nat) (start : Thread) (body : Eng α) :
    play answer pick (gather width [(key, start, body)]) thread joins =
      ((play answer pick body start joins).1, thread, .ok [(key, (play answer pick body start joins).2)]) := by
  have halone : (Step.interleave width joins [(key, Step.launch joins (body start))] []).play
      answer pick = _ :=
    Step.play_interleave_single answer pick width key (Step.launch joins (body start)) []
  change ((Step.interleave width joins [(key, Step.launch joins (body start))] []).bind _).play
    answer pick = _
  rw [Step.play_bind, halone]
  rfl

@[simp] theorem play_pure (value : α) :
    play answer pick (Pure.pure value) thread joins = (joins, thread, .ok value) := rfl

@[simp] theorem play_halt (outcome : Outcome α) :
    play answer pick (halt outcome) thread joins = (joins, thread, outcome) := rfl

@[simp] theorem play_getContext :
    play answer pick getContext thread joins = (joins, thread, .ok thread.ctx) := rfl

@[simp] theorem play_modifyScope (change : Scope → Scope) :
    play answer pick (modifyScope change) thread joins =
      (joins, thread.mapScope change, .ok ()) := rfl

@[simp] theorem play_modifyResults (change : List Entry → List Entry) :
    play answer pick (modifyResults change) thread joins =
      (joins, thread.mapResults change, .ok ()) := rfl

@[simp] theorem play_emitAll (events : List Event) :
    play answer pick (emitAll events) thread joins = (joins, thread.log events, .ok ()) := rfl

@[simp] theorem play_emit (event : Event) :
    play answer pick (emit event) thread joins = (joins, thread.log [event], .ok ()) := rfl

@[simp] theorem play_emitAt (workflow : Workflow) (node : Node) (depth : Nat)
    (event : Site → Event) :
    play answer pick (emitAt workflow node depth event) thread joins =
      (joins, thread.log [event (thread.site workflow node depth)], .ok ()) := rfl

@[simp] theorem play_ask (request : Request) :
    play answer pick (ask request) thread joins = (joins, thread, .ok (answer request)) := rfl

theorem play_ask_bind (request : Request) (next : Reply request → Eng β) :
    play answer pick (ask request >>= next) thread joins =
      play answer pick (next (answer request)) thread joins := rfl

@[simp] theorem play_ofExcept_ok (value : α) :
    play answer pick (ofExcept (.ok value)) thread joins = (joins, thread, .ok value) := rfl

@[simp] theorem play_ofExcept_error (exc : Exc) :
    play answer pick (ofExcept (.error exc) : Eng α) thread joins =
      (joins, thread, .error (.raised exc)) := rfl

end Play

end Eng

end IntegrationPlatform
