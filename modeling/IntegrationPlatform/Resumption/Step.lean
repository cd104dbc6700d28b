import Mathlib.Logic.Hydra

/-!
# Cooperative tasks over a shared state

A `Step` is a cooperative task that has run up to its next suspension. It is finished, it
waits for the reply to a query, or it waits for the scheduler to pick one of finitely many
continuations. Everything between two suspensions is atomic and acts on a state that other
tasks may have changed in the meantime: a resumed task receives the state of that moment.

`Run` is the relation of complete executions of one task that nobody interferes with, and
`play` computes the execution for a fixed family of replies and choices. `isolate` runs a
task on a state of its own, and `interleave` runs a pool of tasks on one state under every
schedule, at most `width + 1` of them at a time.
-/

namespace IntegrationPlatform.Resumption

variable {Q : Type} {R : Q → Type} {S T α β ι : Type}

/-- A task at a suspension: `done` carries its result, `ask` waits for the reply to a query, and
`choose` waits for the scheduler. Each constructor carries the state at the suspension. -/
inductive Step (Q : Type) (R : Q → Type) (S α : Type) where
  | done (state : S) (value : α)
  | ask (state : S) (query : Q) (resume : R query → S → Step Q R S α)
  | choose (state : S) (width : Nat) (resume : Fin (width + 1) → S → Step Q R S α)

/-- A task that has not started yet: it runs from the state it is started in. -/
abbrev Task (Q : Type) (R : Q → Type) (S α : Type) := S → Step Q R S α

namespace Step

/-- The state in which the task was suspended. -/
def state : Step Q R S α → S
  | .done state _ => state
  | .ask state _ _ => state
  | .choose state _ _ => state

/-- The final state and the result of a finished task. -/
def result? : Step Q R S α → Option (S × α)
  | .done state value => some (state, value)
  | .ask .. => none
  | .choose .. => none

/-- Run a task and continue with its result, in the state in which it finished. -/
def bind : Step Q R S α → (α → Task Q R S β) → Step Q R S β
  | .done state value, next => next value state
  | .ask state query resume, next =>
      .ask state query fun reply state' => (resume reply state').bind next
  | .choose state width resume, next =>
      .choose state width fun pick state' => (resume pick state').bind next

/-- Hand a task to the scheduler: it starts when it is picked. -/
def launch (state : S) (task : Task Q R S α) : Step Q R S α :=
  .choose state 0 fun _ state' => task state'

/-- Run a task on a private state. The surrounding state passes through unchanged. -/
def isolate : Step Q R T α → Task Q R S α
  | .done _ value, state => .done state value
  | .ask inner query resume, state =>
      .ask state query fun reply state' => (resume reply inner).isolate state'
  | .choose inner width resume, state =>
      .choose state width fun pick state' => (resume pick inner).isolate state'

/-! ## Executions -/

/-- `Run ok step state value` says that a complete execution of `step`, in which every reply is
one that `ok` admits and nobody else changes the state, ends in `state` with `value`. -/
inductive Run (ok : (query : Q) → R query → Prop) : Step Q R S α → S → α → Prop where
  | done (state value) : Run ok (.done state value) state value
  | ask (state query resume reply) {final : S} {value : α} :
      ok query reply → Run ok (resume reply state) final value →
      Run ok (.ask state query resume) final value
  | choose (state width resume pick) {final : S} {value : α} :
      Run ok (resume pick state) final value →
      Run ok (.choose state width resume) final value

/-- The execution under a fixed family of replies and scheduler choices. -/
def play (answer : (query : Q) → R query) (pick : (width : Nat) → Fin (width + 1)) :
    Step Q R S α → S × α
  | .done state value => (state, value)
  | .ask state query resume => (resume (answer query) state).play answer pick
  | .choose state width resume => (resume (pick width) state).play answer pick

theorem play_run {ok : (query : Q) → R query → Prop} (answer : (query : Q) → R query)
    (pick : (width : Nat) → Fin (width + 1)) (hok : ∀ query, ok query (answer query))
    (step : Step Q R S α) :
    Run ok step (step.play answer pick).1 (step.play answer pick).2 := by
  induction step with
  | done state value => exact .done _ _
  | ask state query resume ih => exact .ask _ _ _ _ (hok query) (ih _ _)
  | choose state width resume ih => exact .choose _ _ _ _ (ih _ _)

theorem play_bind (answer : (query : Q) → R query) (pick : (width : Nat) → Fin (width + 1))
    (step : Step Q R S α) (next : α → Task Q R S β) :
    (step.bind next).play answer pick =
      (next (step.play answer pick).2 (step.play answer pick).1).play answer pick := by
  induction step with
  | done state value => rfl
  | ask state query resume ih => exact ih _ _
  | choose state width resume ih => exact ih _ _

theorem play_isolate (answer : (query : Q) → R query) (pick : (width : Nat) → Fin (width + 1))
    (step : Step Q R T α) (state : S) :
    (step.isolate state).play answer pick = (state, (step.play answer pick).2) := by
  induction step with
  | done inner value => rfl
  | ask inner query resume ih => exact ih _ _
  | choose inner width resume ih => exact ih _ _

/-! ## Interleaving -/

/-- `Sub rest step` says that `rest` is what `step` becomes when it is resumed once. -/
inductive Sub : Step Q R S α → Step Q R S α → Prop where
  | ask (state query resume reply state') : Sub (resume reply state') (.ask state query resume)
  | choose (state width resume pick state') :
      Sub (resume pick state') (.choose state width resume)

theorem sub_wellFounded : WellFounded (Sub (Q := Q) (R := R) (S := S) (α := α)) := by
  constructor
  intro step
  induction step with
  | done state value => exact ⟨_, fun _ h => nomatch h⟩
  | ask state query resume ih => exact ⟨_, fun _ h => by cases h; exact ih _ _⟩
  | choose state width resume ih => exact ⟨_, fun _ h => by cases h; exact ih _ _⟩

/-- A pool of suspended tasks, each with the key under which its result is delivered. -/
abbrev Pool (Q : Type) (R : Q → Type) (S ι α : Type) := List (ι × Step Q R S α)

/-- The tasks of a pool, without their order. -/
def poolSteps (pool : Pool Q R S ι α) : Multiset (Step Q R S α) :=
  (pool.map Prod.snd : List (Step Q R S α))

/-- Pools are compared by replacing one task by what it becomes, or by nothing. -/
instance poolWellFounded : WellFoundedRelation (Multiset (Step Q R S α)) :=
  ⟨Relation.CutExpand Sub, sub_wellFounded.cutExpand⟩

theorem poolSteps_eq_cons (pool : Pool Q R S ι α) (index : Nat) (h : index < pool.length) :
    poolSteps pool = pool[index].2 ::ₘ poolSteps (pool.eraseIdx index) := by
  unfold poolSteps
  rw [Multiset.cons_coe, Multiset.coe_eq_coe]
  have hperm : (pool[index] :: pool.eraseIdx index).Perm pool :=
    (List.getElem_cons_eraseIdx_perm h)
  simpa using (hperm.map Prod.snd).symm

theorem poolSteps_eraseIdx_lt (pool : Pool Q R S ι α) (index : Nat) (h : index < pool.length) :
    Relation.CutExpand Sub (poolSteps (pool.eraseIdx index)) (poolSteps pool) := by
  refine ⟨0, pool[index].2, by simp, ?_⟩
  rw [poolSteps_eq_cons pool index h, add_zero, add_comm, Multiset.singleton_add]

theorem poolSteps_set_lt (pool : Pool Q R S ι α) (index : Nat) (h : index < pool.length)
    (key : ι) (rest : Step Q R S α) (hsub : Sub rest pool[index].2) :
    Relation.CutExpand Sub (poolSteps (pool.set index (key, rest))) (poolSteps pool) := by
  have hset : poolSteps (pool.set index (key, rest)) =
      rest ::ₘ poolSteps (pool.eraseIdx index) := by
    rw [poolSteps_eq_cons _ index (by simpa using h)]
    simp [List.eraseIdx_set_eq]
  refine ⟨{rest}, pool[index].2, by simpa using hsub, ?_⟩
  rw [hset, poolSteps_eq_cons pool index h]
  simp only [← Multiset.singleton_add]
  ac_rfl

/-- Run a pool of tasks on one state. The scheduler picks among the first `width + 1` unfinished
tasks which one to resume, a resumed task runs to its next suspension, and the results are listed
in the order in which the tasks finished. -/
def interleave (width : Nat) (state : S) (pool : Pool Q R S ι α) (finished : List (ι × α)) :
    Step Q R S (List (ι × α)) :=
  if hempty : pool.length = 0 then .done state finished
  else .choose state (min width (pool.length - 1)) fun index state' =>
    have hindex : index.val < pool.length := by omega
    let settle (rest : Step Q R S α) (hsub : Sub rest pool[index.val].2) :
        Step Q R S (List (ι × α)) :=
      match rest.result? with
      | some (final, value) =>
          interleave width final (pool.eraseIdx index.val)
            (finished ++ [(pool[index.val].1, value)])
      | none =>
          interleave width rest.state (pool.set index.val (pool[index.val].1, rest)) finished
    match hpick : pool[index.val].2 with
    | .done _ value =>
        interleave width state' (pool.eraseIdx index.val)
          (finished ++ [(pool[index.val].1, value)])
    | .ask _ query resume =>
        .ask state' query fun reply state'' =>
          settle (resume reply state'') (by rw [hpick]; exact .ask ..)
    | .choose _ width' resume =>
        .choose state' width' fun pick state'' =>
          settle (resume pick state'') (by rw [hpick]; exact .choose ..)
termination_by poolSteps pool
decreasing_by
  · exact poolSteps_eraseIdx_lt _ _ hindex
  · exact poolSteps_set_lt _ _ hindex _ _ hsub
  · exact poolSteps_eraseIdx_lt _ _ hindex

/-! ## Playing a pool -/

/-- The next suspension of a task that is resumed in a state, with the reply or the choice of a
fixed family. -/
def resume (answer : (query : Q) → R query) (pick : (width : Nat) → Fin (width + 1)) :
    Step Q R S α → Task Q R S α
  | .done _ value, state => .done state value
  | .ask _ query next, state => next (answer query) state
  | .choose _ width next, state => next (pick width) state

/-- The execution of a pool under a fixed family of replies and scheduler choices. The first `fuel`
rounds are computed here, the others by `play`. -/
def playPool (answer : (query : Q) → R query) (pick : (width : Nat) → Fin (width + 1))
    (width : Nat) : Nat → S → Pool Q R S ι α → List (ι × α) → S × List (ι × α)
  | 0, state, pool, finished => (interleave width state pool finished).play answer pick
  | fuel + 1, state, pool, finished =>
      match pool[(pick (min width (pool.length - 1))).val]? with
      | none => (state, finished)
      | some (key, step) =>
          let index := (pick (min width (pool.length - 1))).val
          let rest := step.resume answer pick state
          match rest.result? with
          | some (final, value) =>
              playPool answer pick width fuel final (pool.eraseIdx index) (finished ++ [(key, value)])
          | none => playPool answer pick width fuel rest.state (pool.set index (key, rest)) finished

theorem play_interleave (answer : (query : Q) → R query) (pick : (width : Nat) → Fin (width + 1))
    (width fuel : Nat) (state : S) (pool : Pool Q R S ι α) (finished : List (ι × α)) :
    (interleave width state pool finished).play answer pick =
      playPool answer pick width fuel state pool finished := by
  induction fuel generalizing state pool finished with
  | zero => rfl
  | succ fuel ih =>
      unfold playPool
      by_cases hempty : pool.length = 0
      · have hpool : pool = [] := List.length_eq_zero_iff.mp hempty
        subst hpool
        rw [interleave]
        rfl
      · have hindex : (pick (min width (pool.length - 1))).val < pool.length := by omega
        rw [List.getElem?_eq_getElem hindex, interleave, dif_neg hempty]
        simp only [play]
        generalize hentry : pool[(pick (min width (pool.length - 1))).val] = entry
        obtain ⟨key, step⟩ := entry
        split
        · next stale value hstep =>
          obtain rfl : step = _ := hstep
          exact ih _ _ _
        · next stale query next hstep =>
          obtain rfl : step = _ := hstep
          simp only [play, resume]
          split <;> simp only [ih]
        · next stale width' next hstep =>
          obtain rfl : step = _ := hstep
          simp only [play, resume]
          split <;> simp only [ih]

theorem play_interleave_single (answer : (query : Q) → R query)
    (pick : (width : Nat) → Fin (width + 1)) (width : Nat) (key : ι) (step : Step Q R S α)
    (finished : List (ι × α)) :
    (interleave width step.state [(key, step)] finished).play answer pick =
      ((step.play answer pick).1, finished ++ [(key, (step.play answer pick).2)]) := by
  have hpick : (pick (min width 0)).val = 0 := by omega
  have hround : ∀ step rest : Step Q R S α, step.resume answer pick step.state = rest →
      (interleave width rest.state [(key, rest)] finished).play answer pick =
        ((rest.play answer pick).1, finished ++ [(key, (rest.play answer pick).2)]) →
      (interleave width step.state [(key, step)] finished).play answer pick =
        ((rest.play answer pick).1, finished ++ [(key, (rest.play answer pick).2)]) := by
    intro step rest hrest hplay
    rw [play_interleave answer pick width 1]
    unfold playPool
    simp only [List.length_singleton, hpick, List.getElem?_cons_zero, hrest]
    cases rest with
    | done final value => simp [result?, playPool, interleave, play]
    | ask stale query next => exact hplay
    | choose stale width' next => exact hplay
  induction step with
  | done state value =>
      rw [play_interleave answer pick width 1]
      simp [playPool, hpick, resume, result?, interleave, play, Step.state]
  | ask state query next ih => exact hround _ (next (answer query) state) rfl (ih _ _)
  | choose state width' next ih => exact hround _ (next (pick width') state) rfl (ih _ _)

end Step

end IntegrationPlatform.Resumption
