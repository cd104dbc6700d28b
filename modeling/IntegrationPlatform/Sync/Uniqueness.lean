import IntegrationPlatform.Sync.Workers

/-!
# Forced and recorded executions

Transactions in force mode, or that record direct executions, go on after a lost race for the
insertion of a row without the id of the row, and insert a second one. Where no such race is
lost, no `INSERT` of a result is refused, and the row of an entity reflects its last committed
outcome.
-/

namespace IntegrationPlatform

namespace Sync

open RowLocks Store

/-- The transactions that handle events in force mode or record direct executions. -/
def recordingTraffic : Traffic where
  tasks task := task.handling = .recorded ∨
    ∃ config, task.handling = .event config ∧ config.mode = "force"
  admin := False

/-- A transaction whose pending `INSERT` gets its turn finds no committed row. -/
def NoRace (system : System) (tx : Nat) : Prop :=
  ∀ worker task known, system.txs tx = some (.worker worker) →
    worker.current = some (task, .insert known) → system.store.committed task.key = none

/-- The trace of a commit with an outcome of the entity. -/
def SyncTrace.Records (key : Key) : SyncTrace → Prop
  | .committed _ outcomes => ∃ outcome ∈ outcomes, outcome.key = key
  | _ => False

/-- No `INSERT` of a result is refused, an entity with a committed outcome has its row, and the
row reflects the last one. That there is one row at most is the type of a ledger. -/
structure Faithful (system : System) : Prop where
  accepted : ∀ tx key, .refused tx key ∉ system.history
  row : ∀ before tx outcomes later, system.history = before ++ .committed tx outcomes :: later →
    ∀ outcome ∈ outcomes, ∃ row, system.store.committed outcome.key = some row ∧
      ((∀ trace ∈ later, ¬ trace.Records outcome.key) →
        row.Reflects outcome.contentHash outcome.result)

variable {store store' : LedgerStore} {tx freshId : Nat} {worker : Worker} {task : Task}
  {check : SyncCheckResult} {trace : SyncTrace} {system system' : System} {key : Key}

/-! ## Checks that name a row -/

/-- The check, if there is one, names the row that it is about. -/
def Phase.Located : Phase → Prop
  | .decided check _ => check.ledgerId ≠ none
  | .executing check => check.ledgerId ≠ none
  | .record check _ => check.ledgerId ≠ none
  | _ => True

/-- The check of the current task names its row. -/
def Worker.Located (worker : Worker) : Prop :=
  ∀ task phase, worker.current = some (task, phase) → phase.Located

theorem Worker.located_goto {phase : Phase} (h : phase.Located) :
    (worker.goto task phase).Located := by
  intro task' phase' heq
  cases heq
  exact h

theorem Worker.located_done {worker : Worker} (h : worker.current = none) : worker.Located := by
  intro task phase hcurrent
  rw [h] at hcurrent
  cases hcurrent

theorem Worker.Located.step (h : worker.Located) {worker' : Worker}
    (hrace : ∀ task known, worker.current = some (task, .insert known) →
      store.committed task.key = none)
    (hstep : Worker.Step tx freshId store worker trace store' (some worker')) :
    worker'.Located := by
  cases hstep with
  | @next task rest =>
      intro task' phase' heq
      cases heq
      unfold Task.start
      split <;> trivial
  | ran result hcurrent => exact located_goto trivial
  | @select task known hcurrent =>
      refine located_goto ?_
      cases store.visible tx task.key <;> trivial
  | lock hcurrent =>
      refine located_goto ?_
      simp only [Phase.Located, checkEntry_ledgerId, ne_eq, reduceCtorEq, not_false_eq_true]
  | vanish hcurrent => exact located_goto trivial
  | insert hcurrent => exact located_goto (by simp [Phase.Located, insertedCheck])
  | race hcurrent htaken => exact absurd (hrace _ _ hcurrent) htaken.1
  | execute hcurrent =>
      have hlocated := h _ _ hcurrent
      exact located_goto hlocated
  | finish result hcurrent =>
      have hlocated := h _ _ hcurrent
      exact located_goto hlocated
  | proceed hcurrent =>
      have hlocated := h _ _ hcurrent
      exact located_goto hlocated
  | _ => exact located_done rfl

theorem System.Run.located {traffic : Traffic} (hrun : System.Run traffic NoRace system) :
    ∀ tx worker, system.txs tx = some (.worker worker) → worker.Located := by
  induction hrun with
  | start hinitial =>
      intro tx worker hworker
      rw [hinitial.txs] at hworker
      cases hworker
  | @step before after tx _ hmeets hstep ih =>
      intro other worker hworker
      by_cases hsame : other = tx
      · subst hsame
        cases hstep with
        | begin =>
            simp only [Function.update_self] at hworker
            cases hworker
            exact Worker.located_done rfl
        | @work earlier _ _ worker' hbefore hwork =>
            simp only [Function.update_self] at hworker
            cases worker' with
            | none => cases hworker
            | some next =>
                cases hworker
                exact (ih other earlier hbefore).step (fun task known => hmeets earlier task known hbefore)
                  hwork
        | touch hadmin =>
            rw [hadmin] at hworker
            cases hworker
        | _ =>
            simp only [Function.update_self] at hworker
            cases hworker
      · rw [hstep.frame.2 other hsame] at hworker
        exact ih other worker hworker

/-! ## The rows -/

theorem System.Run.no_admin {meets : System → Nat → Prop}
    (hrun : System.Run recordingTraffic meets system) :
    ∀ tx request, system.txs tx ≠ some (.admin request) := by
  induction hrun with
  | start hinitial => simp [hinitial.txs]
  | @step before after other _ _ hstep ih =>
      intro tx request hadmin
      by_cases hsame : tx = other
      · subst hsame
        cases hstep with
        | beginAdmin _ hno => exact hno
        | @work _ _ _ worker' =>
            simp only [Function.update_self] at hadmin
            cases worker' <;> cases hadmin
        | touch hbefore => exact ih _ _ hbefore
        | _ =>
            simp only [Function.update_self] at hadmin
            cases hadmin
      · rw [hstep.frame.2 tx hsame] at hadmin
        exact ih tx request hadmin

theorem WorkerInvariant.commit_row (hinv : WorkerInvariant store tx worker) {row : LedgerRow}
    (hrow : store.committed key = some row) :
    ∃ row', (store.commit tx).committed key = some row' ∧
      (¬ (SyncTrace.committed tx worker.outcomes).Records key → row' = row) := by
  by_cases hwithout : store.Without tx key
  · exact ⟨row, (commit_committed_of_without hwithout).trans hrow, fun _ => rfl⟩
  · have hheld : ∃ draft, store.Holds tx key draft := by
      by_contra hno
      refine hwithout fun hold hhold howner => hno ⟨hold.draft, ?_⟩
      rw [← howner]
      exact hhold
    obtain ⟨draft, hholds⟩ := hheld
    cases draft with
    | none => exact ⟨row, hholds.visible_locked.trans hrow, fun _ => rfl⟩
    | some written =>
        obtain ⟨row', rfl, hor⟩ := hinv.drafts key written hholds
        refine ⟨row', hholds.visible_written, fun hrecords => ?_⟩
        rcases hor with ⟨outcome, hmem, hkey⟩ | hnone
        · exact absurd ⟨outcome, hmem, hkey⟩ hrecords
        · rw [hnone] at hrow
          cases hrow

/-- What a step adds to the history, and what it makes of the rows: a refusal comes from a check
that names no row, and only a commit changes rows, where it leaves those without an outcome. -/
theorem System.Run.added (hrun : System.Run recordingTraffic NoRace system)
    (hstep : System.Step recordingTraffic tx system system')
    (htrace : system'.history = system.history ++ [trace]) :
    (∀ tx' key, trace ≠ .refused tx' key) ∧
      (∀ key row, system.store.committed key = some row →
        ∃ row', system'.store.committed key = some row' ∧ (¬ trace.Records key → row' = row)) ∧
      ∀ tx' outcomes, trace = .committed tx' outcomes → ∀ outcome ∈ outcomes,
        ∃ row, system'.store.committed outcome.key = some row ∧
          row.Reflects outcome.contentHash outcome.result := by
  cases hstep with
  | begin =>
      obtain rfl := snoc_inj htrace
      exact ⟨by simp, fun key row hrow => ⟨row, hrow, fun _ => rfl⟩, by simp⟩
  | beginAdmin _ hno => exact hno.elim
  | @work worker added store worker' hworker hwork =>
      obtain rfl := snoc_inj htrace
      have hinv := hrun.invariant.workers tx worker hworker
      have hlocated := hrun.located tx worker hworker
      refine ⟨?_, ?_, ?_⟩
      · rintro tx' key rfl
        cases hwork with
        | refuse hcurrent hnone => exact hlocated _ _ hcurrent hnone
        | refuseTo keys hcurrent hnone => exact hlocated _ _ hcurrent hnone
      · intro key row hrow
        cases worker' with
        | some next => exact ⟨row, (congrFun hwork.committed_eq key).trans hrow, fun _ => rfl⟩
        | none =>
            cases hwork with
            | refuse => exact ⟨row, hrow, fun _ => rfl⟩
            | abort => exact ⟨row, hrow, fun _ => rfl⟩
            | commit => exact hinv.commit_row hrow
      · rintro tx' outcomes rfl outcome houtcome
        cases hwork with
        | commit =>
            obtain ⟨row, hholds, hreflects⟩ := hinv.outcomes outcome houtcome
            exact ⟨row, hholds.visible_written, hreflects⟩
  | touch hadmin => exact absurd hadmin (hrun.no_admin _ _)
  | commitAdmin hadmin => exact absurd hadmin (hrun.no_admin _ _)
  | abortAdmin hadmin => exact absurd hadmin (hrun.no_admin _ _)

/-- In every run of transactions that handle events in force mode or record direct executions,
the ledger is faithful, if no transaction loses the race for the insertion of a row. -/
theorem recording_faithful (system : System) (hrun : System.Run recordingTraffic NoRace system) :
    Faithful system := by
  induction hrun with
  | start hinitial =>
      refine ⟨fun tx key => by simp [hinitial.history], ?_⟩
      intro before tx outcomes later hhistory
      rw [hinitial.history] at hhistory
      simp at hhistory
  | @step before after tx hbefore hmeets hstep ih =>
      obtain ⟨trace, htrace⟩ := hstep.history_eq
      obtain ⟨hrefused, hrows, hcommits⟩ := hbefore.added hstep htrace
      constructor
      · intro tx' key hmem
        rw [htrace] at hmem
        rcases List.mem_append.mp hmem with hold | hnew
        · exact ih.accepted tx' key hold
        · exact hrefused tx' key (List.mem_singleton.mp hnew).symm
      · intro earlier tx' outcomes later hhistory outcome houtcome
        rcases snoc_cases (htrace.symm.trans hhistory) with ⟨rfl, rfl, rfl⟩ | ⟨middle, rfl, hmiddle⟩
        · obtain ⟨row, hrow, hreflects⟩ := hcommits tx' outcomes rfl outcome houtcome
          exact ⟨row, hrow, fun _ => hreflects⟩
        · obtain ⟨row, hrow, hreflects⟩ := ih.row _ _ _ _ hmiddle outcome houtcome
          obtain ⟨row', hrow', hsame⟩ := hrows _ row hrow
          refine ⟨row', hrow', fun hnone => ?_⟩
          rw [hsame (hnone trace (by simp))]
          exact hreflects fun other hother => hnone other (by simp [hother])

/-- Two events of an entity in force mode overlap, of which the second one selects its row after the first one
has committed it. -/
theorem recording_faithful_alone : ∃ system : System, Faithful system ∧
    .committed 1 [⟨Sample.order, "content", .success⟩] ∈ system.history ∧
    .committed 2 [⟨Sample.order, "content", .success⟩] ∈ system.history := by
  have htraffic : ∀ task ∈ [Sample.handling "force"], recordingTraffic.tasks task := by
    intro task htask
    obtain rfl := List.mem_singleton.mp htask
    exact .inr ⟨_, rfl, rfl⟩
  -- The ledger has no committed row before the first commit.
  have hnone : ∀ (system : System) (tx : Nat), system.store.committed = Sample.start.store.committed →
      NoRace system tx := by
    intro system tx hcommitted worker task known _ _
    rw [hcommitted]
    rfl
  have hstart : System.Run recordingTraffic NoRace Sample.start := .start Sample.start_initial
  have hbegun := ((hstart.begin 1 _ (hnone _ _ rfl) rfl (by simp) htraffic).begin 2 _ (hnone _ _ rfl) rfl
    (by simp) htraffic).work 2 (hnone _ _ rfl) rfl (.next rfl rfl)
  have hinserted := ((hbegun.work 1 (hnone _ _ rfl) rfl (.next rfl rfl)).work 1 (hnone _ _ rfl) rfl
    (.select rfl)).work 1 (hnone _ _ rfl) rfl (.insert rfl (fun _ h => by cases h) rfl)
  have hexecuted := (hinserted.work 1 (hnone _ _ rfl) rfl (.execute rfl rfl rfl)).work 1 (hnone _ _ rfl) rfl
    (.finish .success rfl)
  have hcommitted := (hexecuted.work 1 (hnone _ _ rfl) rfl
    (.update rfl holds_write.free holds_write.visible_written rfl)).work 1 (hnone _ _ rfl) rfl (.commit rfl)
  have hlocked := (hcommitted.work 2 (fun _ _ _ h h' => by cases h; cases h') rfl (.select rfl)).work 2
    (fun _ _ _ h h' => by cases h; cases h') rfl (.lock rfl (fun _ h => by cases h) rfl rfl)
  have hagain := (hlocked.work 2 (fun _ _ _ h h' => by cases h; cases h') rfl (.execute rfl rfl rfl)).work 2
    (fun _ _ _ h h' => by cases h; cases h') rfl (.finish .success rfl)
  have hrun := (hagain.work 2 (fun _ _ _ h h' => by cases h; cases h') rfl
    (.update rfl (fun _ h => by cases h; rfl) rfl rfl)).work 2
    (fun _ _ _ h h' => by cases h; cases h') rfl (.commit rfl)
  exact ⟨_, recording_faithful _ hrun, List.mem_of_getElem? (show _[9]? = _ from rfl),
    List.mem_of_getElem? (show _[15]? = _ from rfl)⟩

/-- Two first events of an entity in force mode overlap: the second one loses the race for the
insertion, executes the workflow all the same, and its transaction is aborted when it inserts a
second row. -/
theorem force_refused : ∃ system, System.Run recordingTraffic anyStep system ∧
    ¬ Faithful system := by
  have htraffic : ∀ task ∈ [Sample.handling "force"], recordingTraffic.tasks task := by
    intro task htask
    obtain rfl := List.mem_singleton.mp htask
    exact .inr ⟨_, rfl, rfl⟩
  have hstart : System.Run recordingTraffic anyStep Sample.start := .start Sample.start_initial
  have hbegun := (hstart.begin 1 _ trivial rfl (by simp) htraffic).begin 2 _ trivial rfl (by simp)
    htraffic
  have hselected := (((hbegun.work 1 trivial rfl (.next rfl rfl)).work 2 trivial rfl
    (.next rfl rfl)).work 1 trivial rfl (.select rfl)).work 2 trivial rfl (.select rfl)
  have hexecuted := ((hselected.work 1 trivial rfl (.insert rfl (fun _ h => by cases h) rfl)).work 1
    trivial rfl (.execute rfl rfl rfl)).work 1 trivial rfl (.finish .success rfl)
  have hcommitted := (hexecuted.work 1 trivial rfl
    (.update rfl holds_write.free holds_write.visible_written rfl)).work 1 trivial rfl (.commit rfl)
  have hraced := ((hcommitted.work 2 trivial rfl
    (.race rfl ⟨by decide +kernel, by decide +kernel⟩)).work 2 trivial rfl
    (.execute rfl rfl rfl)).work 2 trivial rfl (.finish .success rfl)
  have hrefused := hraced.work 2 trivial rfl
    (.refuse rfl rfl ⟨by decide +kernel, by decide +kernel⟩)
  refine ⟨_, hrefused, fun hfaithful => hfaithful.accepted 2 Sample.order ?_⟩
  exact List.mem_append_right _ (List.mem_singleton_self _)

end Sync

end IntegrationPlatform
