import IntegrationPlatform.Sync.Workers

/-!
# Incremental sync

In incremental mode the lock of a row, or its insertion, is held by the transaction that
executes the workflow for its entity, and by nobody else. Once a success is committed, the row is
`Guarded`: whoever holds it either has other content or is about to skip.
-/

namespace IntegrationPlatform

namespace Sync

open RowLocks Store

/-- The transactions that handle events in incremental mode, and administrative ones. -/
def incrementalTraffic : Traffic where
  tasks task := ∃ config, task.handling = .event config ∧ config.mode = "incremental"
  admin := True

/-- The transaction executes the workflow for the entity. -/
def System.Executes (system : System) (tx : Nat) (key : Key) : Prop :=
  ∃ worker task check, system.txs tx = some (.worker worker) ∧
    worker.current = some (task, .executing check) ∧ task.key = key

/-- The trace of a committed ledger write for the entity with other content, or of an
administrative request for its workflow. -/
def SyncTrace.Changes (key : Key) (contentHash : String) : SyncTrace → Prop
  | .committed _ outcomes => ∃ outcome ∈ outcomes, outcome.key = key ∧
      outcome.contentHash ≠ contentHash
  | .administered request => request.workflowId = key.workflowId
  | _ => False

variable {store store' : LedgerStore} {tx tx' freshId : Nat} {worker : Worker} {task : Task}
  {check : SyncCheckResult} {trace : SyncTrace} {system system' : System} {key : Key}
  {contentHash : String} {config : SyncConfig}

theorem Checked.holds (h : Checked store tx task check) (hmode : config.mode = "incremental")
    (hexecutes : config.executes check = true) : ∃ draft, store.Holds tx task.key draft := by
  cases h with
  | found hholds => exact ⟨_, hholds⟩
  | inserted id hholds => exact ⟨_, hholds⟩
  | raced => simp [SyncConfig.executes, racedCheck, hmode] at hexecutes

theorem executes_unique (hrun : System.Run incrementalTraffic anyStep system)
    (h : system.Executes tx key) (h' : system.Executes tx' key) : tx = tx' := by
  have hholds : ∀ tx, system.Executes tx key → ∃ draft, system.store.Holds tx key draft := by
    rintro tx ⟨worker, task, check, hworker, hcurrent, rfl⟩
    have hphase := (hrun.invariant.workers tx worker hworker).current _ _ hcurrent
    obtain ⟨hchecked, config, hhandling, hexecutes⟩ := hphase
    have hmem : task ∈ worker.tasks := by simp [Worker.tasks, hcurrent]
    obtain ⟨config', hhandling', hmode⟩ := hrun.tasks tx worker hworker task hmem
    obtain rfl := Handling.event.inj (hhandling.symm.trans hhandling')
    exact hchecked.holds hmode hexecutes
  obtain ⟨draft, hdraft⟩ := hholds tx h
  obtain ⟨draft', hdraft'⟩ := hholds tx' h'
  exact hdraft.unique hdraft'

/-! ## Guarded rows -/

/-- The worker has recorded nothing of the entity with this content, and is about to skip it if
it has come to a decision. -/
structure Worker.Spares (worker : Worker) (key : Key) (contentHash : String) : Prop where
  outcomes : ∀ outcome ∈ worker.outcomes, outcome.key = key → outcome.contentHash ≠ contentHash
  current : ∀ task phase, worker.current = some (task, phase) → task.key = key →
    task.contentHash = contentHash → ∃ check known, phase = .decided check known ∧
      check.decision = .skip

/-- The committed row of the entity says that it is synced with this content, and the
transaction that holds it spares it. -/
structure Guarded (system : System) (key : Key) (contentHash : String) : Prop where
  row : ∃ row, system.store.committed key = some row ∧ row.Reflects contentHash .success
  holder : ∀ tx worker, system.txs tx = some (.worker worker) →
    ¬ system.store.Without tx key → worker.Spares key contentHash

theorem Worker.Spares.goto (h : worker.Spares key contentHash) (phase : Phase)
    (hother : task.key = key → task.contentHash ≠ contentHash) :
    (worker.goto task phase).Spares key contentHash where
  outcomes := h.outcomes
  current task' phase' heq hkey hhash := by
    cases heq
    exact absurd hhash (hother hkey)

theorem Worker.Spares.done (h : worker.Spares key contentHash) :
    worker.done.Spares key contentHash where
  outcomes := h.outcomes
  current _ _ heq := by cases heq

theorem Worker.Spares.undo (h : worker.Spares key contentHash) (keys : Key → Bool) :
    (worker.undo keys).Spares key contentHash where
  outcomes outcome houtcome := h.outcomes outcome (List.mem_filter.mp houtcome).1
  current _ _ heq := by cases heq

theorem Worker.Spares.doneWith (h : worker.Spares key contentHash) (result : ExecutionResult)
    (hother : task.key = key → task.contentHash ≠ contentHash) :
    (worker.doneWith task result).Spares key contentHash where
  outcomes outcome houtcome hkey := by
    rcases List.mem_append.mp houtcome with hold | hnew
    · exact h.outcomes outcome hold hkey
    · obtain rfl := List.mem_singleton.mp hnew
      exact hother hkey
  current _ _ heq := by cases heq

/-- A step of a transaction that holds the row afterwards keeps sparing it. -/
theorem WorkerInvariant.spares (hinv : WorkerInvariant store tx worker)
    (hmode : ∀ task ∈ worker.tasks, incrementalTraffic.tasks task)
    (hrow : ∃ row, store.committed key = some row ∧ row.Reflects contentHash .success)
    (hspares : ¬ store.Without tx key → worker.Spares key contentHash) {worker' : Worker}
    (hstep : Worker.Step tx freshId store worker trace store' (some worker'))
    (hholder : ¬ store'.Without tx key) : worker'.Spares key contentHash := by
  obtain ⟨row, hcommitted, hreflects⟩ := hrow
  -- A phase that has come past the decision is one of other content.
  have hpast : ∀ {task phase}, worker.current = some (task, phase) → ¬ store.Without tx key →
      (∀ check known, phase ≠ .decided check known) → task.key = key →
      task.contentHash ≠ contentHash := by
    intro task phase hcurrent hheld hphase hkey hhash
    obtain ⟨check, known, heq, -⟩ := (hspares hheld).current task phase hcurrent hkey hhash
    exact hphase check known heq
  cases hstep with
  | @next task rest hcurrent htodo =>
      have hwithout : store.Without tx task.key := hinv.todo task (htodo ▸ List.mem_cons_self)
      refine ⟨(hspares hholder).outcomes, fun task' phase' heq hkey => ?_⟩
      cases heq
      exact absurd (hkey ▸ hwithout) hholder
  | ran result hcurrent =>
      exact (hspares hholder).goto _ (hpast hcurrent hholder (by simp))
  | select hcurrent =>
      exact (hspares hholder).goto _ (hpast hcurrent hholder (by simp))
  | vanish hcurrent =>
      exact (hspares hholder).goto _ (hpast hcurrent hholder (by simp))
  | race hcurrent =>
      exact (hspares hholder).goto _ (hpast hcurrent hholder (by simp))
  | @lock task rowId known locked hcurrent hfree hvisible =>
      have hwithout : store.Without tx task.key := hinv.current _ _ hcurrent
      rw [hwithout.visible_eq] at hvisible
      by_cases hkey : task.key = key
      · refine ⟨fun outcome houtcome heq => ?_, fun task' phase' heq _ hhash => ?_⟩
        · exact absurd (heq.trans hkey.symm) (hinv.no_outcome hcurrent outcome houtcome)
        · -- The committed row is synced with this content.
          cases heq
          have hsame : locked = row := Option.some.inj (hvisible.symm.trans (hkey ▸ hcommitted))
          subst hsame
          exact ⟨_, _, rfl, checkEntry_synced (hhash ▸ hreflects)⟩
      · have hheld : ¬ store.Without tx key := fun hno => hholder (hno.lock (Ne.symm hkey))
        exact (hspares hheld).goto _ fun heq => absurd heq hkey
  | @insert task known hcurrent hfree hnone =>
      have hwithout : store.Without tx task.key := hinv.current _ _ hcurrent
      rw [hwithout.visible_eq] at hnone
      have hkey : task.key ≠ key := by
        rintro rfl
        rw [hnone] at hcommitted
        cases hcommitted
      have hheld : ¬ store.Without tx key := fun hno => hholder (hno.write (Ne.symm hkey))
      exact (hspares hheld).goto _ fun heq => absurd heq hkey
  | @execute task check config hcurrent hhandling hexecutes =>
      refine (hspares hholder).goto _ fun hkey hhash => ?_
      obtain ⟨check', known, heq, hskip⟩ := (hspares hholder).current _ _ hcurrent hkey hhash
      obtain ⟨rfl, -⟩ := Phase.decided.inj heq
      have hmem : task ∈ worker.tasks := by simp [Worker.tasks, hcurrent]
      obtain ⟨config', hhandling', hincremental⟩ := hmode task hmem
      obtain rfl := Handling.event.inj (hhandling.symm.trans hhandling')
      simp [SyncConfig.executes, hincremental, hskip] at hexecutes
  | skip => exact (hspares hholder).done
  | finish result hcurrent =>
      exact (hspares hholder).goto _ (hpast hcurrent hholder (by simp))
  | @proceed task check result hcurrent hhandling =>
      have hmem : task ∈ worker.tasks := by simp [Worker.tasks, hcurrent]
      obtain ⟨config', hhandling', -⟩ := hmode task hmem
      rw [hhandling] at hhandling'
      cases hhandling'
  | @update task check result visible hcurrent hfree hvisible hid =>
      have hheld : ¬ store.Without tx key := by
        intro hno
        by_cases hkey : task.key = key
        · have hchecked : Checked store tx task check := hinv.current _ _ hcurrent
          cases hchecked with
          | found hholds => exact hholds.not_without (hkey ▸ hno)
          | inserted id hholds => exact hholds.not_without (hkey ▸ hno)
          | raced => simp [racedCheck] at hid
        · exact hholder (hno.write (Ne.symm hkey))
      exact (hspares hheld).doneWith result (hpast hcurrent hheld (by simp))
  | miss => exact (hspares hholder).done
  | @insertResult task check result hcurrent hnone hfree hvisible =>
      have hchecked : Checked store tx task check := hinv.current _ _ hcurrent
      have hwithout : store.Without tx task.key := by
        cases hchecked with
        | found => simp at hnone
        | inserted => simp [insertedCheck] at hnone
        | raced hno => exact hno
      rw [hwithout.visible_eq] at hvisible
      have hkey : task.key ≠ key := by
        rintro rfl
        rw [hvisible] at hcommitted
        cases hcommitted
      have hheld : ¬ store.Without tx key := fun hno => hholder (hno.write (Ne.symm hkey))
      exact (hspares hheld).doneWith result fun heq => absurd heq hkey
  | refuseTo keys =>
      exact (hspares fun hno => hholder hno.release).undo keys
  | abandon => exact (hspares hholder).done
  | undo keys => exact (hspares fun hno => hholder hno.release).undo keys

theorem WorkerInvariant.not_started (hinv : WorkerInvariant store tx worker)
    (hmode : ∀ task ∈ worker.tasks, incrementalTraffic.tasks task)
    (hspares : ¬ store.Without tx key → worker.Spares key contentHash) {worker' : Option Worker}
    (hstep : Worker.Step tx freshId store worker trace store' worker') :
    trace ≠ .started tx' key contentHash := by
  rintro rfl
  cases hstep with
  | @execute task check config hcurrent hhandling hexecutes =>
      have hchecked : Checked store tx task check := hinv.current _ _ hcurrent
      have hmem : task ∈ worker.tasks := by simp [Worker.tasks, hcurrent]
      obtain ⟨config', hhandling', hincremental⟩ := hmode task hmem
      obtain rfl := Handling.event.inj (hhandling.symm.trans hhandling')
      obtain ⟨draft, hholds⟩ := hchecked.holds hincremental hexecutes
      have hheld := hholds.not_without
      obtain ⟨check', known, heq, hskip⟩ := (hspares hheld).current _ _ hcurrent rfl rfl
      obtain ⟨rfl, -⟩ := Phase.decided.inj heq
      simp [SyncConfig.executes, hincremental, hskip] at hexecutes

theorem WorkerInvariant.commit_committed (hinv : WorkerInvariant store tx worker)
    (hrow : store.committed key ≠ none)
    (hspares : ¬ store.Without tx key → worker.Spares key contentHash)
    (hchanges : ¬ (SyncTrace.committed tx worker.outcomes).Changes key contentHash) :
    (store.commit tx).committed key = store.committed key := by
  obtain hwithout | ⟨draft, hholds⟩ := store.without_or_holds tx key
  · exact commit_committed_of_without hwithout
  · cases draft with
    | none => exact hholds.visible_locked
    | some row =>
        obtain ⟨-, -, hor⟩ := hinv.drafts key row hholds
        rcases hor with ⟨outcome, hmem, hkey⟩ | hnone
        · exact absurd ⟨outcome, hmem, hkey, (hspares hholds.not_without).outcomes outcome hmem hkey⟩ hchanges
        · exact absurd hnone hrow

/-- A guarded entity stays guarded, and is not executed, unless there is a change. -/
theorem Guarded.step (h : Guarded system key contentHash) (hinv : system.Invariant)
    (hmode : ∀ tx worker, system.txs tx = some (.worker worker) →
      ∀ task ∈ worker.tasks, incrementalTraffic.tasks task)
    (hstep : System.Step incrementalTraffic tx system system')
    (htrace : system'.history = system.history ++ [trace])
    (hchanges : ¬ trace.Changes key contentHash) :
    Guarded system' key contentHash ∧ ∀ tx', trace ≠ .started tx' key contentHash := by
  obtain ⟨hframe, htxs⟩ := hstep.frame
  have hothers : ∀ other worker, other ≠ tx → system'.txs other = some (.worker worker) →
      ¬ system'.store.Without other key → worker.Spares key contentHash := by
    intro other worker hne hworker hheld
    rw [htxs other hne] at hworker
    exact h.holder other worker hworker fun hno => hheld ((hframe.without hne).mpr hno)
  -- What is left is the row, the transaction that takes the step, and the trace.
  suffices hown : (∃ row, system'.store.committed key = some row ∧
        row.Reflects contentHash .success) ∧
      (∀ worker, system'.txs tx = some (.worker worker) → ¬ system'.store.Without tx key →
        worker.Spares key contentHash) ∧ ∀ tx', trace ≠ .started tx' key contentHash by
    refine ⟨⟨hown.1, fun other worker hworker hheld => ?_⟩, hown.2.2⟩
    by_cases hsame : other = tx
    · subst hsame
      exact hown.2.1 worker hworker hheld
    · exact hothers other worker hsame hworker hheld
  cases hstep with
  | begin hnone =>
      obtain rfl := snoc_inj htrace
      refine ⟨h.row, fun worker _ hheld => absurd (hinv.idle tx hnone key) hheld, fun _ => ?_⟩
      exact SyncTrace.noConfusion
  | beginAdmin hnone =>
      obtain rfl := snoc_inj htrace
      refine ⟨h.row, fun worker _ hheld => absurd (hinv.idle tx hnone key) hheld, fun _ => ?_⟩
      exact SyncTrace.noConfusion
  | @work worker added after worker' hworker hwork =>
      obtain rfl := snoc_inj htrace
      have hworkerInv := hinv.workers tx worker hworker
      have hspares := h.holder tx worker hworker
      have htasks := hmode tx worker hworker
      refine ⟨?_, ?_, fun tx' => hworkerInv.not_started htasks hspares hwork⟩
      · obtain ⟨row, hrow, hreflects⟩ := h.row
        refine ⟨row, ?_, hreflects⟩
        cases worker' with
        | some next => exact (congrFun hwork.committed_eq key).trans hrow
        | none =>
            cases hwork with
            | refuse => exact hrow
            | abort => exact hrow
            | commit =>
                have hsome : system.store.committed key ≠ none := by simp [hrow]
                exact (hworkerInv.commit_committed hsome hspares hchanges).trans hrow
      · intro next hnext hheld
        simp only [Function.update_self] at hnext
        cases worker' with
        | none => cases hnext
        | some after =>
            cases hnext
            exact hworkerInv.spares htasks h.row hspares hwork hheld
  | touch hadmin =>
      obtain rfl := snoc_inj htrace
      refine ⟨h.row, fun worker hworker => ?_, fun _ => SyncTrace.noConfusion⟩
      rw [hadmin] at hworker
      cases hworker
  | @commitAdmin request hadmin =>
      obtain rfl := snoc_inj htrace
      have hwithout := hinv.admins tx request hadmin key fun heq => hchanges heq.symm
      refine ⟨?_, fun worker hworker => ?_, fun _ => SyncTrace.noConfusion⟩
      · simpa only [commit_committed_of_without hwithout] using h.row
      · simp only [Function.update_self] at hworker
        cases hworker
  | abortAdmin hadmin =>
      obtain rfl := snoc_inj htrace
      refine ⟨h.row, fun worker hworker => ?_, fun _ => SyncTrace.noConfusion⟩
      simp only [Function.update_self] at hworker
      cases hworker

theorem Guarded.of_commit {outcomes : List Outcome} (hinv : system.Invariant)
    (hstep : System.Step incrementalTraffic tx system system')
    (htrace : system'.history = system.history ++ [.committed tx' outcomes])
    (hsuccess : ⟨key, contentHash, .success⟩ ∈ outcomes) : Guarded system' key contentHash := by
  obtain ⟨hframe, htxs⟩ := hstep.frame
  cases hstep with
  | @work worker added after worker' hworker hwork =>
      obtain rfl := snoc_inj htrace
      cases hwork with
      | commit hcurrent =>
          obtain ⟨row, hholds, hreflects⟩ := (hinv.workers tx worker hworker).outcomes _ hsuccess
          refine ⟨⟨row, hholds.visible_written, hreflects⟩, ?_⟩
          intro other worker' hother hheld
          by_cases hsame : other = tx
          · subst hsame
            exact absurd without_commit hheld
          · exact absurd ((hframe.without hsame).mpr (hholds.without_of_ne hsame)) hheld
  | _ => exact absurd (snoc_inj htrace) (by simp)

/-! ## Histories -/

theorem guarded_since (hrun : System.Run incrementalTraffic anyStep system) {outcomes : List Outcome}
    {before later : List SyncTrace} (hhistory : system.history = before ++ .committed tx outcomes :: later)
    (hsuccess : ⟨key, contentHash, .success⟩ ∈ outcomes)
    (hchanges : ∀ trace ∈ later, ¬ trace.Changes key contentHash) :
    Guarded system key contentHash ∧ ∀ tx', .started tx' key contentHash ∉ later := by
  induction hrun generalizing before later with
  | start hinitial =>
      rw [hinitial.history] at hhistory
      simp at hhistory
  | step hbefore _ hstep ih =>
      obtain ⟨trace, htrace⟩ := hstep.history_eq
      rcases snoc_cases (htrace.symm.trans hhistory) with ⟨rfl, rfl, rfl⟩ | ⟨middle, rfl, hmiddle⟩
      · exact ⟨.of_commit hbefore.invariant hstep htrace hsuccess, by simp⟩
      · obtain ⟨hguarded, hnot⟩ := ih hmiddle fun trace hmem => hchanges trace (by simp [hmem])
        obtain ⟨hguarded', hstarted⟩ := hguarded.step hbefore.invariant hbefore.tasks hstep htrace
          (hchanges trace (by simp))
        refine ⟨hguarded', fun tx' hmem => ?_⟩
        rcases List.mem_append.mp hmem with hold | hnew
        · exact hnot tx' hold
        · exact hstarted tx' (List.mem_singleton.mp hnew).symm

theorem run_prefix (hrun : System.Run incrementalTraffic anyStep system) {before later : List SyncTrace}
    (hhistory : system.history = before ++ later) :
    ∃ system', System.Run incrementalTraffic anyStep system' ∧ system'.history = before := by
  induction hrun generalizing before later with
  | start hinitial =>
      rw [hinitial.history] at hhistory
      obtain ⟨rfl, -⟩ := List.append_eq_nil_iff.mp hhistory.symm
      exact ⟨_, .start hinitial, hinitial.history⟩
  | @step system system' tx hbefore hmeets hstep ih =>
      obtain ⟨trace, htrace⟩ := hstep.history_eq
      rcases List.eq_nil_or_concat later with rfl | ⟨middle, last, rfl⟩
      · exact ⟨system', .step hbefore hmeets hstep, by simpa using hhistory⟩
      · have hassoc : system.history ++ [trace] = (before ++ middle) ++ [last] := by
          rw [← htrace, hhistory]
          simp
        exact ih (List.append_inj' hassoc rfl).1

/-- Nothing is executed twice: at most one transaction at a time executes the workflow for an
entity, and after a committed success no event with the same content is executed for the entity
before a ledger write with other content or an administrative request for its workflow is
committed. -/
structure OnceOnly (system : System) : Prop where
  alone : ∀ key tx tx', system.Executes tx key → system.Executes tx' key → tx = tx'
  once : ∀ key contentHash tx outcomes tx' before middle after,
    system.history = before ++ .committed tx outcomes ::
      (middle ++ .started tx' key contentHash :: after) →
    ⟨key, contentHash, .success⟩ ∈ outcomes →
    ∃ trace ∈ middle, trace.Changes key contentHash

/-- In every run of transactions that handle events in incremental mode and administrate the
ledger, nothing is executed twice. -/
theorem incremental_once (system : System) (hrun : System.Run incrementalTraffic anyStep system) :
    OnceOnly system := by
  refine ⟨fun key tx tx' h h' => executes_unique hrun h h', ?_⟩
  intro key contentHash tx outcomes tx' before middle after hhistory hsuccess
  by_contra hnone
  have hsplit : system.history =
      (before ++ .committed tx outcomes :: (middle ++ [.started tx' key contentHash])) ++ after := by
    rw [hhistory]
    simp
  obtain ⟨system', hrun', hhistory'⟩ := run_prefix hrun hsplit
  refine (guarded_since hrun' hhistory' hsuccess fun trace hmem hchanges => ?_).2 tx' (by simp)
  rcases List.mem_append.mp hmem with hmiddle | hlast
  · exact hnone ⟨trace, hmiddle, hchanges⟩
  · obtain rfl := List.mem_singleton.mp hlast
    exact hchanges

/-- An event is handled with success, and a second one with the same content is skipped. -/
theorem incremental_once_twice : ∃ system : System, OnceOnly system ∧
    .started 1 Sample.order "content" ∈ system.history ∧
    .committed 1 [⟨Sample.order, "content", .success⟩] ∈ system.history ∧
    .committed 2 [] ∈ system.history := by
  have htraffic : ∀ task ∈ [Sample.handling "incremental"], incrementalTraffic.tasks task := by
    intro task htask
    obtain rfl := List.mem_singleton.mp htask
    exact ⟨_, rfl, rfl⟩
  have hstart : System.Run incrementalTraffic anyStep Sample.start := .start Sample.start_initial
  have hinserted := (((hstart.begin 1 _ trivial rfl (by simp) htraffic).work 1 trivial rfl
    (.next rfl rfl)).work 1 trivial rfl (.select rfl)).work 1 trivial rfl
    (.insert rfl (fun _ h => by cases h) rfl)
  have hexecuted := (hinserted.work 1 trivial rfl (.execute rfl rfl rfl)).work 1 trivial rfl
    (.finish .success rfl)
  have hcommitted := (hexecuted.work 1 trivial rfl
    (.update rfl holds_write.free holds_write.visible_written rfl)).work 1 trivial rfl (.commit rfl)
  have hselected := ((hcommitted.begin 2 _ trivial rfl (by simp) htraffic).work 2 trivial rfl
    (.next rfl rfl)).work 2 trivial rfl (.select rfl)
  have hskipped := (hselected.work 2 trivial rfl
    (.lock rfl (fun _ h => by cases h) rfl rfl)).work 2 trivial rfl (.skip rfl rfl rfl)
  have hrun := hskipped.work 2 trivial rfl (.commit rfl)
  exact ⟨_, incremental_once _ hrun, List.mem_of_getElem? (show _[4]? = _ from rfl),
    List.mem_of_getElem? (show _[7]? = _ from rfl), List.mem_of_getElem? (show _[13]? = _ from rfl)⟩

end Sync

end IntegrationPlatform
