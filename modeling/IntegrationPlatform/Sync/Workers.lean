import IntegrationPlatform.Sync.Interleaving

/-!
# What transactions hold

`WorkerInvariant` relates the state of a transaction to the keys that it holds: it holds nothing
before the lock or the insertion of a row, its check is about the row it holds, and what it has
recorded is in its drafts. Every step keeps it, of the transaction itself and, by the frames, of
any other.
-/

namespace IntegrationPlatform

namespace Sync

open RowLocks Store

variable {store store' : LedgerStore} {tx tx' freshId : Nat} {worker : Worker} {task : Task}
  {phase : Phase} {check : SyncCheckResult} {trace : SyncTrace}

/-- Where the result of `should_sync` comes from. -/
inductive Checked (store : LedgerStore) (tx : Nat) (task : Task) : SyncCheckResult → Prop where
  | found {row} : store.Holds tx task.key none → store.committed task.key = some row →
      Checked store tx task (checkEntry row task.contentHash task.handling.maxRetries)
  | inserted (id) :
      store.Holds tx task.key (some (some (pendingRow id task.tenantId task.contentHash))) →
      store.committed task.key = none → Checked store tx task (insertedCheck id)
  | raced : store.Without tx task.key → Checked store tx task racedCheck

/-- What holds of the key of a task in a phase. -/
def PhaseInvariant (store : LedgerStore) (tx : Nat) (task : Task) : Phase → Prop
  | .decided check _ => Checked store tx task check
  | .executing check => Checked store tx task check ∧
      ∃ config, task.handling = .event config ∧ config.executes check = true
  | .record check _ => Checked store tx task check
  | _ => store.Without tx task.key

/-- What holds of a transaction and the keys that it holds. -/
structure WorkerInvariant (store : LedgerStore) (tx : Nat) (worker : Worker) : Prop where
  distinct : (worker.todo.map Task.key).Nodup
  current_todo : ∀ task phase, worker.current = some (task, phase) →
    task.key ∉ worker.todo.map Task.key
  todo : ∀ task ∈ worker.todo, store.Without tx task.key
  current : ∀ task phase, worker.current = some (task, phase) →
    PhaseInvariant store tx task phase
  outcomes : ∀ outcome ∈ worker.outcomes, ∃ row,
    store.Holds tx outcome.key (some (some row)) ∧
      row.Reflects outcome.contentHash outcome.result
  drafts : ∀ key draft, store.Holds tx key (some draft) → ∃ row, draft = some row ∧
    ((∃ outcome ∈ worker.outcomes, outcome.key = key) ∨ store.committed key = none)

/-! ## Frames -/

theorem Checked.frame (h : Checked store tx task check) (hframe : store.Frame tx' store')
    (hne : tx ≠ tx') : Checked store' tx task check := by
  cases h with
  | found hholds hrow =>
      exact .found ((hframe.holds hne).mpr hholds)
        ((hframe.committed_of_holds hne hholds).trans hrow)
  | inserted id hholds hnone =>
      exact .inserted id ((hframe.holds hne).mpr hholds)
        ((hframe.committed_of_holds hne hholds).trans hnone)
  | raced hwithout => exact .raced ((hframe.without hne).mpr hwithout)

theorem PhaseInvariant.frame (h : PhaseInvariant store tx task phase)
    (hframe : store.Frame tx' store') (hne : tx ≠ tx') : PhaseInvariant store' tx task phase := by
  cases phase with
  | decided check known => exact Checked.frame h hframe hne
  | executing check => exact ⟨h.1.frame hframe hne, h.2⟩
  | record check result => exact Checked.frame h hframe hne
  | running => exact (hframe.without hne).mpr h
  | select known => exact (hframe.without hne).mpr h
  | await rowId known => exact (hframe.without hne).mpr h
  | insert known => exact (hframe.without hne).mpr h

theorem WorkerInvariant.frame (h : WorkerInvariant store tx worker)
    (hframe : store.Frame tx' store') (hne : tx ≠ tx') : WorkerInvariant store' tx worker where
  distinct := h.distinct
  current_todo := h.current_todo
  todo task htask := (hframe.without hne).mpr (h.todo task htask)
  current task phase hcurrent := (h.current task phase hcurrent).frame hframe hne
  outcomes outcome houtcome := by
    obtain ⟨row, hholds, hreflects⟩ := h.outcomes outcome houtcome
    exact ⟨row, (hframe.holds hne).mpr hholds, hreflects⟩
  drafts key draft hholds := by
    have hbefore := (hframe.holds hne).mp hholds
    obtain ⟨row, hrow, hkey⟩ := h.drafts key draft hbefore
    rw [hframe.committed_of_holds hne hbefore]
    exact ⟨row, hrow, hkey⟩

variable {worker' : Worker}

theorem Worker.Step.tasks (h : Worker.Step tx freshId store worker trace store' (some worker')) :
    ∀ task ∈ worker'.tasks, task ∈ worker.tasks := by
  have hgoto : ∀ {task : Task} {phase phase' : Phase}, worker.current = some (task, phase) →
      ∀ other ∈ (worker.goto task phase').tasks, other ∈ worker.tasks := by
    intro task phase phase' hcurrent other hother
    simpa [Worker.tasks, Worker.goto, hcurrent] using hother
  have hdone : ∀ other ∈ worker.todo, other ∈ worker.tasks :=
    fun other hother => List.mem_append_right _ hother
  cases h with
  | next hcurrent htodo =>
      intro other hother
      simpa [Worker.tasks, hcurrent, htodo] using hother
  | ran result hcurrent => exact hgoto hcurrent
  | select hcurrent => exact hgoto hcurrent
  | lock hcurrent => exact hgoto hcurrent
  | vanish hcurrent => exact hgoto hcurrent
  | insert hcurrent => exact hgoto hcurrent
  | race hcurrent => exact hgoto hcurrent
  | execute hcurrent => exact hgoto hcurrent
  | finish result hcurrent => exact hgoto hcurrent
  | proceed hcurrent => exact hgoto hcurrent
  | _ => exact hdone

theorem Worker.Step.committed_eq (h : Worker.Step tx freshId store worker trace store' (some worker')) :
    store'.committed = store.committed := by
  cases h with
  | lock => exact committed_lock
  | _ => rfl

theorem Worker.Step.frame {worker' : Option Worker}
    (h : Worker.Step tx freshId store worker trace store' worker') : store.Frame tx store' := by
  cases h with
  | lock _ hfree => exact .lock hfree
  | insert _ hfree => exact .write hfree _
  | update _ hfree => exact .write hfree _
  | insertResult _ _ hfree => exact .write hfree _
  | refuse => exact .release _
  | refuseTo keys => exact .release keys
  | undo keys => exact .release keys
  | commit => exact .commit
  | abort => exact .release _
  | _ => exact .refl

/-! ## The steps of a transaction itself -/

theorem WorkerInvariant.no_outcome (h : WorkerInvariant store tx worker)
    (hcurrent : worker.current = some (task, phase)) :
    ∀ outcome ∈ worker.outcomes, outcome.key ≠ task.key := by
  intro outcome houtcome hkey
  obtain ⟨row, hholds, hreflects⟩ := h.outcomes outcome houtcome
  rw [hkey] at hholds
  have hwithout := hholds.not_without
  have hchecked : ∀ check, ¬ Checked store tx task check := by
    intro check hcheck
    cases hcheck with
    | found hnone =>
        have heq := hnone.symm.trans hholds
        simp at heq
    | inserted id hpending =>
        have heq := hpending.symm.trans hholds
        simp only [Option.some.injEq, Hold.mk.injEq, true_and] at heq
        have hstatus := hreflects.2
        rw [← heq] at hstatus
        split at hstatus <;> simp [pendingRow] at hstatus
    | raced hno => exact hwithout hno
  have hphase := h.current task phase hcurrent
  cases phase with
  | decided check known => exact hchecked check hphase
  | executing check => exact hchecked check hphase.1
  | record check result => exact hchecked check hphase
  | running => exact hwithout hphase
  | select known => exact hwithout hphase
  | await rowId known => exact hwithout hphase
  | insert known => exact hwithout hphase

theorem WorkerInvariant.goto (h : WorkerInvariant store tx worker)
    (hcurrent : worker.current = some (task, phase)) {phase' : Phase}
    (hphase : PhaseInvariant store tx task phase') :
    WorkerInvariant store tx (worker.goto task phase') where
  distinct := h.distinct
  current_todo task' phase'' heq := by
    cases heq
    exact h.current_todo task phase hcurrent
  todo := h.todo
  current task' phase'' heq := by
    cases heq
    exact hphase
  outcomes := h.outcomes
  drafts := h.drafts

theorem WorkerInvariant.done (h : WorkerInvariant store tx worker) :
    WorkerInvariant store tx worker.done where
  distinct := h.distinct
  current_todo _ _ heq := by cases heq
  todo := h.todo
  current _ _ heq := by cases heq
  outcomes := h.outcomes
  drafts := h.drafts

theorem WorkerInvariant.undo (h : WorkerInvariant store tx worker) (keys : Key → Bool) :
    WorkerInvariant (store.release tx keys) tx (worker.undo keys) where
  distinct := h.distinct
  current_todo _ _ heq := by cases heq
  todo task htask := (h.todo task htask).release
  current _ _ heq := by cases heq
  outcomes outcome houtcome := by
    obtain ⟨hmem, hkept⟩ := List.mem_filter.mp houtcome
    obtain ⟨row, hholds, hreflects⟩ := h.outcomes outcome hmem
    exact ⟨row, holds_release.mpr ⟨hholds, by simpa using hkept⟩, hreflects⟩
  drafts key draft hholds := by
    obtain ⟨hbefore, hkept⟩ := holds_release.mp hholds
    obtain ⟨row, hrow, hor⟩ := h.drafts key draft hbefore
    refine ⟨row, hrow, hor.imp_left ?_⟩
    rintro ⟨outcome, hmem, rfl⟩
    exact ⟨outcome, List.mem_filter.mpr ⟨hmem, by simp [hkept]⟩, rfl⟩

/-- The invariant after a step that changes the hold on the key of the current task only. -/
theorem WorkerInvariant.change (h : WorkerInvariant store tx worker)
    (hcurrent : worker.current = some (task, phase))
    (hheld : ∀ key, key ≠ task.key → store'.held key = store.held key)
    (hcommitted : store'.committed = store.committed)
    (htodo : worker'.todo = worker.todo)
    (hphase : ∀ task' phase', worker'.current = some (task', phase') →
      task' = task ∧ PhaseInvariant store' tx task phase')
    (hkept : ∀ outcome ∈ worker'.outcomes, outcome ∈ worker.outcomes ∨
      ∃ row, store'.Holds tx outcome.key (some (some row)) ∧
        row.Reflects outcome.contentHash outcome.result)
    (hmore : ∀ outcome ∈ worker.outcomes, outcome ∈ worker'.outcomes)
    (hdraft : ∀ draft, store'.Holds tx task.key (some draft) → ∃ row, draft = some row ∧
      ((∃ outcome ∈ worker'.outcomes, outcome.key = task.key) ∨
        store.committed task.key = none)) :
    WorkerInvariant store' tx worker' := by
  have hkey : ∀ other ∈ worker.todo, other.key ≠ task.key := by
    intro other hother heq
    exact h.current_todo task phase hcurrent (heq ▸ List.mem_map_of_mem hother)
  refine ⟨htodo ▸ h.distinct, ?_, ?_, ?_, ?_, ?_⟩
  · intro task' phase' heq
    obtain ⟨rfl, -⟩ := hphase task' phase' heq
    rw [htodo]
    exact h.current_todo _ phase hcurrent
  · intro other hother hold hhold
    rw [htodo] at hother
    rw [hheld _ (hkey other hother)] at hhold
    exact h.todo other hother hold hhold
  · intro task' phase' heq
    obtain ⟨rfl, hinv⟩ := hphase task' phase' heq
    exact hinv
  · intro outcome houtcome
    rcases hkept outcome houtcome with hold | hnew
    · obtain ⟨row, hholds, hreflects⟩ := h.outcomes outcome hold
      have hne := h.no_outcome hcurrent outcome hold
      exact ⟨row, (hheld _ hne).trans hholds, hreflects⟩
    · exact hnew
  · intro key draft hholds
    by_cases hsame : key = task.key
    · subst hsame
      rw [hcommitted]
      exact hdraft draft hholds
    · obtain ⟨row, hrow, hor⟩ := h.drafts key draft ((hheld key hsame).symm.trans hholds)
      rw [hcommitted]
      exact ⟨row, hrow, hor.imp_left fun ⟨outcome, hmem, heq⟩ => ⟨outcome, hmore outcome hmem, heq⟩⟩

theorem WorkerInvariant.record (h : WorkerInvariant store tx worker)
    (hcurrent : worker.current = some (task, phase)) {row : LedgerRow} {result : ExecutionResult}
    (hreflects : row.Reflects task.contentHash result) :
    WorkerInvariant (store.write tx task.key (some row)) tx (worker.doneWith task result) := by
  refine h.change hcurrent (fun key hkey => held_write_of_ne hkey) committed_write rfl ?_ ?_ ?_ ?_
  · intro _ _ heq
    cases heq
  · intro outcome houtcome
    rcases List.mem_append.mp houtcome with hold | hnew
    · exact .inl hold
    · obtain rfl := List.mem_singleton.mp hnew
      exact .inr ⟨row, holds_write, hreflects⟩
  · exact fun outcome houtcome => List.mem_append_left _ houtcome
  · intro draft hholds
    cases holds_write.draft_unique hholds
    exact ⟨row, rfl, .inl ⟨_, List.mem_append_right _ (List.mem_singleton_self _), rfl⟩⟩

/-- A step of a transaction that does not end it keeps its invariant. -/
theorem WorkerInvariant.step (h : WorkerInvariant store tx worker)
    (hstep : Worker.Step tx freshId store worker trace store' (some worker')) :
    WorkerInvariant store' tx worker' := by
  cases hstep with
  | @next task rest hcurrent htodo =>
      have hdistinct := h.distinct
      rw [htodo, List.map_cons, List.nodup_cons] at hdistinct
      have hwithout : store.Without tx task.key := h.todo task (htodo ▸ List.mem_cons_self)
      refine ⟨hdistinct.2, ?_, ?_, ?_, h.outcomes, h.drafts⟩
      · intro task' phase' heq
        cases heq
        exact hdistinct.1
      · exact fun other hother => h.todo other (htodo ▸ List.mem_cons_of_mem _ hother)
      · intro task' phase' heq
        cases heq
        unfold Task.start
        split
        · exact hwithout
        · exact hwithout
  | ran result hcurrent =>
      have hphase := h.current _ _ hcurrent
      exact h.goto hcurrent hphase
  | @select task known hcurrent =>
      have hphase := h.current _ _ hcurrent
      refine h.goto hcurrent ?_
      cases hrow : store.visible tx task.key with
      | none => exact hphase
      | some row => exact hphase
  | @lock task rowId known row hcurrent hfree hrow hid =>
      have hwithout : store.Without tx task.key := h.current _ _ hcurrent
      have hnone := hwithout.held_eq_none hfree
      rw [hwithout.visible_eq] at hrow
      refine h.change hcurrent (fun key hkey => held_lock_of_ne hkey) committed_lock rfl ?_ ?_ ?_ ?_
      · intro task' phase' heq
        cases heq
        exact ⟨rfl, .found (holds_lock hnone) (by rw [committed_lock]; exact hrow)⟩
      · exact fun outcome houtcome => .inl houtcome
      · exact fun outcome houtcome => houtcome
      · intro draft hholds
        cases (holds_lock hnone).draft_unique hholds
  | vanish hcurrent =>
      have hphase := h.current _ _ hcurrent
      exact h.goto hcurrent hphase
  | @insert task known hcurrent hfree hnone =>
      have hwithout : store.Without tx task.key := h.current _ _ hcurrent
      rw [hwithout.visible_eq] at hnone
      refine h.change hcurrent (fun key hkey => held_write_of_ne hkey) committed_write rfl ?_ ?_ ?_ ?_
      · intro task' phase' heq
        cases heq
        exact ⟨rfl, .inserted _ holds_write hnone⟩
      · exact fun outcome houtcome => .inl houtcome
      · exact fun outcome houtcome => houtcome
      · intro draft hholds
        cases holds_write.draft_unique hholds
        exact ⟨_, rfl, .inr hnone⟩
  | race hcurrent htaken =>
      have hphase : store.Without tx _ := h.current _ _ hcurrent
      exact h.goto hcurrent (.raced hphase)
  | execute hcurrent hhandling hexecutes =>
      have hphase := h.current _ _ hcurrent
      exact h.goto hcurrent ⟨hphase, _, hhandling, hexecutes⟩
  | skip => exact h.done
  | finish result hcurrent =>
      have hphase := h.current _ _ hcurrent
      exact h.goto hcurrent hphase.1
  | proceed hcurrent =>
      have hphase := h.current _ _ hcurrent
      exact h.goto hcurrent hphase
  | @update task check result row hcurrent hfree hrow hid =>
      exact h.record hcurrent (reflects_recordResult _ _ _)
  | miss => exact h.done
  | @insertResult task check result hcurrent hnone hfree hrow =>
      exact h.record hcurrent (reflects_newResultRow _ _ _ _)
  | refuseTo keys => exact h.undo keys
  | abandon => exact h.done
  | undo keys => exact h.undo keys

/-! ## The system -/

namespace System

variable {traffic : Traffic} {meets : System → Nat → Prop} {system system' : System}

/-- What holds of all transactions: those that handle entities, those that administrate a
workflow, and those that have not begun or have ended, which hold nothing. -/
structure Invariant (system : System) : Prop where
  workers : ∀ tx worker, system.txs tx = some (.worker worker) →
    WorkerInvariant system.store tx worker
  admins : ∀ tx request, system.txs tx = some (.admin request) → ∀ key,
    key.workflowId ≠ request.workflowId → system.store.Without tx key
  idle : ∀ tx, system.txs tx = none → ∀ key, system.store.Without tx key

theorem Step.frame (h : Step traffic tx system system') :
    system.store.Frame tx system'.store ∧
      ∀ other, other ≠ tx → system'.txs other = system.txs other := by
  cases h with
  | begin => exact ⟨.refl, fun other hne => Function.update_of_ne hne _ _⟩
  | beginAdmin => exact ⟨.refl, fun other hne => Function.update_of_ne hne _ _⟩
  | work _ hstep => exact ⟨hstep.frame, fun other hne => Function.update_of_ne hne _ _⟩
  | touch _ hfree => exact ⟨.write hfree _, fun other hne => rfl⟩
  | commitAdmin => exact ⟨.commit, fun other hne => Function.update_of_ne hne _ _⟩
  | abortAdmin => exact ⟨.release _, fun other hne => Function.update_of_ne hne _ _⟩

theorem ended_without (h : Worker.Step tx freshId store worker trace store' none) (key : Key) :
    store'.Without tx key := by
  cases h with
  | refuse => exact without_rollback
  | commit => exact without_commit
  | abort => exact without_rollback

theorem Invariant.step_workers (h : system.Invariant) (hstep : Step traffic tx system system') :
    ∀ other worker, system'.txs other = some (.worker worker) →
      WorkerInvariant system'.store other worker := by
  intro other worker hworker
  obtain ⟨hframe, htxs⟩ := hstep.frame
  by_cases hsame : other = tx
  · subst hsame
    cases hstep with
    | @begin todo hnone hdistinct =>
        simp only [Function.update_self] at hworker
        cases hworker
        have hwithout := h.idle other hnone
        refine ⟨hdistinct, ?_, fun task _ => hwithout task.key, ?_, ?_, ?_⟩
        · intro _ _ heq
          cases heq
        · intro _ _ heq
          cases heq
        · intro _ hmem
          cases hmem
        · intro key draft hholds
          exact absurd rfl (hwithout key _ hholds)
    | @work before _ _ worker' hbefore hwork =>
        simp only [Function.update_self] at hworker
        cases worker' with
        | none => cases hworker
        | some after =>
            cases hworker
            exact (h.workers other before hbefore).step hwork
    | touch hadmin =>
        rw [hadmin] at hworker
        cases hworker
    | _ =>
        simp only [Function.update_self] at hworker
        cases hworker
  · rw [htxs other hsame] at hworker
    exact (h.workers other worker hworker).frame hframe hsame

theorem Invariant.step_admins (h : system.Invariant) (hstep : Step traffic tx system system') :
    ∀ other request, system'.txs other = some (.admin request) → ∀ key,
      key.workflowId ≠ request.workflowId → system'.store.Without other key := by
  intro other request hadmin key hkey
  obtain ⟨hframe, htxs⟩ := hstep.frame
  by_cases hsame : other = tx
  · subst hsame
    cases hstep with
    | beginAdmin hnone => exact h.idle other hnone key
    | @work _ _ _ worker' =>
        simp only [Function.update_self] at hadmin
        cases worker' <;> cases hadmin
    | @touch request' key' row hbefore hfree hrow haffects =>
        rw [hbefore] at hadmin
        cases hadmin
        have hworkflow : key'.workflowId = request.workflowId := by
          simp only [AdminRequest.affects, Bool.and_eq_true, beq_iff_eq] at haffects
          exact haffects.1.1
        have hne : key ≠ key' := by
          rintro rfl
          exact hkey hworkflow
        intro hold hhold
        simp only [held_write_of_ne hne] at hhold
        exact h.admins other request hbefore key hkey hold hhold
    | _ =>
        simp only [Function.update_self] at hadmin
        cases hadmin
  · rw [htxs other hsame] at hadmin
    exact (hframe.without hsame).mpr (h.admins other request hadmin key hkey)

theorem Invariant.step_idle (h : system.Invariant) (hstep : Step traffic tx system system') :
    ∀ other, system'.txs other = none → ∀ key, system'.store.Without other key := by
  intro other hnone key
  obtain ⟨hframe, htxs⟩ := hstep.frame
  by_cases hsame : other = tx
  · subst hsame
    cases hstep with
    | @work before _ _ worker' hbefore hwork =>
        simp only [Function.update_self] at hnone
        cases worker' with
        | none => exact ended_without hwork key
        | some after => cases hnone
    | touch hadmin =>
        rw [hadmin] at hnone
        cases hnone
    | commitAdmin => exact without_commit
    | abortAdmin => exact without_rollback
    | _ =>
        simp only [Function.update_self] at hnone
        cases hnone
  · rw [htxs other hsame] at hnone
    exact (hframe.without hsame).mpr (h.idle other hnone key)

theorem Invariant.step (h : system.Invariant) (hstep : Step traffic tx system system') :
    system'.Invariant :=
  ⟨h.step_workers hstep, h.step_admins hstep, h.step_idle hstep⟩

theorem Initial.invariant (h : system.Initial) : system.Invariant := by
  refine ⟨?_, fun tx _ _ key _ => .of_none (h.held key), fun tx _ key => .of_none (h.held key)⟩
  intro tx worker hworker
  rw [h.txs] at hworker
  cases hworker

theorem Run.invariant (h : Run traffic meets system) : system.Invariant := by
  induction h with
  | start hinitial => exact hinitial.invariant
  | step _ _ hstep ih => exact ih.step hstep

theorem Run.tasks (h : Run traffic meets system) : ∀ tx worker,
    system.txs tx = some (.worker worker) → ∀ task ∈ worker.tasks, traffic.tasks task := by
  induction h with
  | start hinitial =>
      intro tx worker hworker
      rw [hinitial.txs] at hworker
      cases hworker
  | @step before after tx _ _ hstep ih =>
      intro other worker hworker task htask
      by_cases hsame : other = tx
      · subst hsame
        cases hstep with
        | begin hnone hdistinct htraffic =>
            simp only [Function.update_self] at hworker
            cases hworker
            exact htraffic task htask
        | @work _ _ _ worker' hbefore hwork =>
            simp only [Function.update_self] at hworker
            cases worker' with
            | none => cases hworker
            | some next =>
                cases hworker
                exact ih other _ hbefore task (hwork.tasks task htask)
        | touch hadmin =>
            rw [hadmin] at hworker
            cases hworker
        | _ =>
            simp only [Function.update_self] at hworker
            cases hworker
      · rw [hstep.frame.2 other hsame] at hworker
        exact ih other worker hworker task htask

theorem Step.history_eq (h : Step traffic tx system system') :
    ∃ trace, system'.history = system.history ++ [trace] := by
  cases h with
  | _ => exact ⟨_, rfl⟩

theorem Run.begin (h : Run traffic meets system) (tx : Nat) (todo : List Task)
    (hmeets : meets system tx) (hnone : system.txs tx = none)
    (hdistinct : (todo.map Task.key).Nodup) (htraffic : ∀ task ∈ todo, traffic.tasks task) :
    Run traffic meets
      { system with
        txs := Function.update system.txs tx (some (.worker (.fresh todo)))
        history := system.history ++ [.silent] } :=
  .step h hmeets (.begin hnone hdistinct htraffic)

theorem Run.work (h : Run traffic meets system) (tx : Nat) (hmeets : meets system tx)
    {worker' : Option Worker} (hworker : system.txs tx = some (.worker worker))
    (hstep : Worker.Step tx system.freshId system.store worker trace store' worker') :
    Run traffic meets
      { store := store'
        txs := Function.update system.txs tx (worker'.map .worker)
        freshId := system.freshId + 1
        history := system.history ++ [trace] } :=
  .step h hmeets (.work hworker hstep)

end System

theorem snoc_inj {α : Type} {history : List α} {added trace : α}
    (h : history ++ [added] = history ++ [trace]) : trace = added :=
  (List.singleton_inj.mp (List.append_cancel_left h)).symm

theorem snoc_cases {α : Type} {history before later : List α} {entry trace : α}
    (h : history ++ [trace] = before ++ entry :: later) :
    (later = [] ∧ before = history ∧ entry = trace) ∨
      ∃ middle, later = middle ++ [trace] ∧ history = before ++ entry :: middle := by
  rcases List.eq_nil_or_concat later with rfl | ⟨middle, last, rfl⟩
  · obtain ⟨rfl, hlast⟩ := List.append_inj' h rfl
    exact .inl ⟨rfl, rfl, (List.singleton_inj.mp hlast).symm⟩
  · have hassoc : history ++ [trace] = (before ++ entry :: middle) ++ [last] := by simpa using h
    obtain ⟨rfl, hlast⟩ := List.append_inj' hassoc rfl
    obtain rfl := List.singleton_inj.mp hlast
    exact .inr ⟨middle, by simp, rfl⟩

/-- Any step, in any state. -/
def anyStep (_ : System) (_ : Nat) : Prop := True

namespace Sample

def order : Key := ⟨"orders", "order-1"⟩

def handling (mode : String) : Task := ⟨order, "tenant", "content", .event { mode }⟩

def start : System := ⟨⟨fun _ => none, fun _ => none⟩, fun _ => none, 0, []⟩

theorem start_initial : start.Initial :=
  ⟨fun _ => rfl, fun _ => rfl, rfl⟩

end Sample

end Sync

end IntegrationPlatform
