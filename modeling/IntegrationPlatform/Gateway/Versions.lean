import IntegrationPlatform.Gateway.VersionHistory

/-!
# Restoring versions

A session that has locked its row always comes to its commit: no `INSERT` of a version is refused.
Where all sessions are settled, the versions are faithful after every commit, none of them changes
later, and a rollback restores the content that was live.
-/

namespace IntegrationPlatform

namespace Gateway

open RowLocks Store

variable {settled : Prop} {tables : Tables} {tx tx' : Nat} {id : String} {session : Session}
  {object row : Workflow} {checkAllowedIps : Value → Except HttpError Unit}

/-! ## Going through to the commit -/

theorem Tables.isLast_last (hhistory : tables.History settled) (hno : tables.NoVersion tx id) :
    tables.IsLast tx id (tables.last id) where
  le number hvisible := by
    rw [(hno number).visible_eq] at hvisible
    exact ((hhistory.versions id number).mp hvisible).2
  visible := by
    by_cases hzero : tables.last id = 0
    · exact .inl hzero
    · refine .inr ?_
      rw [(hno _).visible_eq]
      exact (hhistory.versions id _).mpr ⟨by omega, le_rfl⟩

theorem SessionInvariant.holds_row (h : SessionInvariant settled tables tx session) {number : Nat}
    (hversion : ¬ tables.versions.Without tx (id, number)) :
    session.id = id ∧ ∃ draft, tables.workflows.Holds tx id draft := by
  have hid : session.id = id := by
    by_contra hne
    exact hversion (h.otherVersions id (Ne.symm hne) number)
  subst hid
  refine ⟨rfl, ?_⟩
  have hinv := h.phase
  cases hphase : session.phase with
  | added object last =>
      rw [hphase] at hinv
      obtain ⟨row, hholds, -⟩ := hinv.1
      exact ⟨_, hholds⟩
  | numbered object last =>
      rw [hphase] at hinv
      obtain ⟨row, hholds, -⟩ := hinv.1
      exact ⟨_, hholds⟩
  | start =>
      rw [hphase] at hinv
      exact absurd (hinv.2 number) hversion
  | choosing loaded =>
      rw [hphase] at hinv
      exact absurd (hinv.2.1 number) hversion
  | assigned object changes =>
      rw [hphase] at hinv
      exact absurd (hinv.2.1 number) hversion
  | locked object =>
      rw [hphase] at hinv
      exact absurd (hinv.2.1 number) hversion
  | counted object last =>
      rw [hphase] at hinv
      exact absurd (hinv.2.1 number) hversion

theorem Traffic.Invariant.free_version {traffic : Traffic} (h : traffic.Invariant settled)
    {draft : Option (Option Workflow)} (hholds : traffic.tables.workflows.Holds tx id draft)
    (number : Nat) : traffic.tables.versions.Free tx (id, number) := by
  intro hold hhold
  have hholding : ¬ traffic.tables.versions.Without hold.owner (id, number) :=
    fun hwithout => hwithout hold hhold rfl
  cases hsession : traffic.sessions hold.owner with
  | none => exact absurd ((h.idle hold.owner hsession id).2 number) hholding
  | some other =>
      obtain ⟨-, draft', hrow⟩ := (h.sessions hold.owner other hsession).holds_row hholding
      exact hrow.unique hholds

/-- The tables after the commit of a session that has locked this row. -/
def Tables.finished (tables : Tables) (tx : Nat) (session : Session) (object row : Workflow) :
    Tables :=
  let last := tables.last session.id
  let written := if object.version = last + 1 then row else { row with version := last + 1 }
  { workflows := (tables.workflows.write tx session.id (some written)).commit tx
    versions := (tables.versions.write tx (session.id, last + 1)
      (some (session.versionRow object last))).commit tx }

namespace Traffic

variable {meets : Traffic → Nat → Event → Prop} {first traffic : Traffic}

theorem Run.work (hrun : Run checkAllowedIps meets first traffic)
    (hsession : traffic.sessions tx = some session) {event : Event} {tables : Tables}
    {session' : Option Session} (hmeets : meets traffic tx event)
    (hstep : Session.Step checkAllowedIps tx traffic.tables session event tables session') :
    Run checkAllowedIps meets first ⟨tables, Function.update traffic.sessions tx session'⟩ :=
  hrun.step hmeets (.work hsession hstep)

/-- A session that has locked its row can go through to its commit. -/
theorem Run.finish (hrun : Run checkAllowedIps meets first traffic)
    (hmeets : ∀ traffic event, event ≠ .flushed → meets traffic tx event)
    (hinv : traffic.Invariant settled) (hsession : traffic.sessions tx = some session)
    (hphase : session.phase = .locked object)
    (hrow : traffic.tables.workflows.visible tx session.id = some row) :
    Run checkAllowedIps meets first
      ⟨traffic.tables.finished tx session object row,
        Function.update traffic.sessions tx none⟩ := by
  have hlocked := (hinv.sessions tx session hsession).phase
  rw [hphase] at hlocked
  obtain ⟨⟨row', hholds, -⟩, hno, -⟩ := hlocked
  have hlast := traffic.tables.isLast_last hinv.history hno
  have hfree := hinv.free_version hholds (traffic.tables.last session.id + 1)
  have hnone : traffic.tables.versions.visible tx
      (session.id, traffic.tables.last session.id + 1) = none := by
    rw [(hno _).visible_eq]
    by_contra hsome
    have hnumber := ((hinv.history.versions _ _).mp hsome).2
    omega
  have hcounted := hrun.work hsession (hmeets _ _ (by simp)) (.count hphase hlast)
  have hadded := hcounted.work (Function.update_self _ _ _) (hmeets _ _ (by simp))
    (.add rfl hfree hnone)
  have hnumbered := hadded.work (Function.update_self _ _ _) (hmeets _ _ (by simp))
    (.number rfl hrow)
  have hcommitted := hnumbered.work (Function.update_self _ _ _) (hmeets _ _ (by simp))
    (.commit rfl)
  simp only [Function.update_idem] at hcommitted
  exact hcommitted

theorem Run.first_statement (hrun : Run checkAllowedIps meets first traffic) (tx : Nat)
    (request : Request) (hmeets : ∀ traffic event, event ≠ .flushed → meets traffic tx event)
    (hnone : traffic.sessions tx = none) (hversions : request.versions) {tables : Tables}
    (hstep : Session.Step checkAllowedIps tx traffic.tables ⟨request, .start⟩ .silent tables
      (some session)) :
    Run checkAllowedIps meets first
      ⟨tables, Function.update traffic.sessions tx (some session)⟩ := by
  have hbegun := hrun.step (hmeets _ _ (by simp))
    (show Step checkAllowedIps tx traffic .silent _ from .begin request hnone hversions)
  have hstarted := hbegun.work (Function.update_self _ _ _) (hmeets _ _ (by simp)) hstep
  simp only [Function.update_idem] at hstarted
  exact hstarted

/-- The tables after a session has flushed its object, and gone through to its commit. -/
def flushed (traffic : Traffic) (tx : Nat) (session : Session) (object : Workflow)
    (changes : Changes) (row : Workflow) : Traffic :=
  ⟨Tables.finished
    { traffic.tables with
      workflows := traffic.tables.workflows.write tx session.id (some (changes.apply row)) }
    tx (session.goto (.locked object)) object (changes.apply row),
    Function.update traffic.sessions tx none⟩

theorem Run.flush (hrun : Run checkAllowedIps meets initial traffic) (tx : Nat)
    (hmeets : ∀ traffic event, event ≠ .flushed → meets traffic tx event)
    (hflush : meets traffic tx .flushed) (hsession : traffic.sessions tx = some session)
    {changes : Changes} (hphase : session.phase = .assigned object changes)
    (hfree : traffic.tables.workflows.Free tx session.id)
    (hrow : traffic.tables.workflows.visible tx session.id = some row) :
    Run checkAllowedIps meets initial (traffic.flushed tx session object changes row) := by
  have hflushed := hrun.work hsession hflush (.flush hphase hfree hrow)
  have hinv := (hflushed.invariant False (fun h => h.elim) invariant_initial).1
  have hfinished := hflushed.finish hmeets hinv (Function.update_self _ _ _) rfl
    holds_write.visible_written
  simp only [Function.update_idem] at hfinished
  exact hfinished

theorem Run.numbered (hrun : Run checkAllowedIps meets initial traffic) :
    traffic.tables.History False ∧ ∀ later, Run checkAllowedIps meets traffic later →
      ∀ key version, traffic.tables.versions.committed key = some version →
        later.tables.versions.committed key = some version := by
  have hinv := (hrun.invariant False (fun h => h.elim) invariant_initial).1
  exact ⟨hinv.history, fun later hlater => (hlater.invariant False (fun h => h.elim) hinv).2⟩

theorem settled_flushed {changes : Changes} (hsession : traffic.sessions tx = some session)
    (hphase : session.phase = .assigned object changes)
    (hrow : traffic.tables.workflows.visible tx session.id = some row) (hcovers : changes.Covers object row) :
    traffic.Settled tx .flushed := by
  intro session' hsession' object' changes' row' hphase' hrow'
  cases hsession.symm.trans hsession'
  cases hphase.symm.trans hphase'
  cases hrow.symm.trans hrow'
  exact hcovers

/-- In a settled run the versions are faithful after every step, they stay as they are, and
whenever a rollback to the version of a workflow at any earlier time commits, it restores the
content that the workflow had at that time. -/
theorem versions_faithful (hrun : Run checkAllowedIps Settled initial traffic) :
    traffic.tables.Faithful ∧ ∀ later, Run checkAllowedIps Settled traffic later →
      (∀ key version, traffic.tables.versions.committed key = some version →
        later.tables.versions.committed key = some version) ∧
      ∀ tx after session tenant target workflow,
        Step checkAllowedIps tx later .committed after → later.sessions tx = some session →
        session.request = .rollback tenant session.id target →
        traffic.tables.workflows.committed session.id = some workflow →
        (workflow.version : Int) = target →
        ∃ restored, after.tables.workflows.committed session.id = some restored ∧
          restored.content = workflow.content := by
  have hinv := (hrun.invariant True (fun _ _ _ _ h => h) invariant_initial).1
  have hfaithful := hinv.history.faithful trivial
  refine ⟨hfaithful, fun later hlater => ?_⟩
  obtain ⟨hlaterInv, hkept⟩ := hlater.invariant True (fun _ _ _ _ h => h) hinv
  refine ⟨hkept, ?_⟩
  intro tx after session tenant target workflow hstep hsession hrequest hworkflow htarget
  cases hstep with
  | work hsession' hcommit =>
      rw [hsession] at hsession'
      cases hsession'
      cases hcommit with
      | commit hphase =>
          obtain ⟨row, hcommitted, hcontent, hrestores⟩ :=
            (hlaterInv.sessions tx session hsession).commit hphase
          obtain ⟨number, version, hnumber, hversion, hrestored⟩ :=
            hrestores tenant session.id target hrequest
          obtain ⟨live, hlive, hshown⟩ := hfaithful.latest session.id workflow hworkflow
          have hsame : number = workflow.version := by omega
          subst hsame
          rw [hkept _ _ hlive] at hversion
          cases hversion
          exact ⟨row, hcommitted.workflow, ((hcontent trivial).1.trans hrestored.symm).trans hshown⟩

end Traffic

end Gateway

namespace Sample

open Gateway RowLocks Store

def owner : Tenant := ⟨"tenant", "tenant"⟩

def creation : Request :=
  .create owner "workflow" { name := "nightly", nodes := [nightly "6"] }

def postponement (hour : String) : Request :=
  .update owner "workflow" { nodes := some (some [nightly hour]) }

def retitling : Request :=
  .update owner "workflow" { name := some (some "daily") }

def createdWorkflow : Gateway.Workflow where
  tenantId := "tenant"
  name := "nightly"
  nodes := [nightly "6"]

def inserted : Traffic :=
  ⟨{ Traffic.initial.tables with
      workflows := Traffic.initial.tables.workflows.write 0 "workflow" (some createdWorkflow) },
    Function.update Traffic.initial.sessions 0 (some ⟨creation, .assigned createdWorkflow {}⟩)⟩

def created : Traffic :=
  inserted.flushed 0 ⟨creation, .assigned createdWorkflow {}⟩ createdWorkflow {} createdWorkflow

theorem created_run (meets : Traffic → Nat → Gateway.Event → Prop)
    (hmeets : ∀ traffic event, event ≠ .flushed → meets traffic 0 event)
    (hflush : meets inserted 0 .flushed) :
    Traffic.Run (fun _ => .ok ()) meets Traffic.initial created := by
  have hinserted : Traffic.Run (fun _ => .ok ()) meets Traffic.initial inserted :=
    Traffic.Run.start.first_statement 0 creation hmeets rfl trivial
      (.insert rfl rfl rfl (.of_none rfl) rfl)
  have hholds : inserted.tables.workflows.Holds 0 "workflow" (some (some createdWorkflow)) := rfl
  exact hinserted.flush 0 hmeets hflush rfl rfl hholds.free rfl

end Sample

open Gateway.Traffic in
/-- A workflow is created, two requests that overlap change its nodes, and it is rolled back to its first version:
the run is settled, and its versions are faithful. -/
theorem created_faithful : ∃ traffic : Gateway.Traffic, traffic.tables.Faithful ∧
    ∃ workflow, traffic.tables.workflows.committed "workflow" = some workflow ∧
      workflow.version = 4 ∧ workflow.nodes = [Sample.nightly "6"] := by
  have hmeets : ∀ tx traffic event, event ≠ .flushed → Gateway.Traffic.Settled traffic tx event := by
    intro tx traffic event hevent
    cases event with
    | flushed => exact absurd rfl hevent
    | silent => trivial
    | committed => trivial
  have hcreated : Gateway.Traffic.Run (fun _ => .ok ()) Gateway.Traffic.Settled
      Gateway.Traffic.initial Sample.created :=
    Sample.created_run _ (hmeets 0) (settled_flushed rfl rfl rfl
      ⟨fun _ => rfl, fun _ => rfl, fun _ => rfl, Option.some_ne_none _⟩)
  have hpostponed := (hcreated.first_statement 1 (Sample.postponement "7") (hmeets 1) rfl
    trivial (.load rfl rfl rfl rfl rfl)).first_statement 2 (Sample.postponement "8") (hmeets 2) rfl
    trivial (.load rfl rfl rfl rfl rfl)
  have hfirst := hpostponed.flush 1 (hmeets 1) (settled_flushed rfl rfl rfl
    ⟨nofun, fun _ => rfl, fun _ => rfl, Option.some_ne_none _⟩) rfl rfl (.of_none rfl) rfl
  have hsecond := hfirst.flush 2 (hmeets 2) (settled_flushed rfl rfl rfl
    ⟨nofun, fun _ => rfl, fun _ => rfl, Option.some_ne_none _⟩) rfl rfl (.of_none rfl) rfl
  have hchosen := (hsecond.first_statement 3 (.rollback Sample.owner "workflow" 1) (hmeets 3) rfl
    trivial (.find rfl rfl rfl)).work (Function.update_self _ _ _) (hmeets 3 _ _ (by simp))
    (.choose rfl rfl rfl rfl)
  have hrun := hchosen.flush 3 (hmeets 3) (settled_flushed rfl rfl rfl
    ⟨nofun, fun _ => rfl, fun _ => rfl, Option.some_ne_none _⟩) rfl rfl (.of_none rfl) rfl
  exact ⟨_, (Gateway.Traffic.versions_faithful hrun).1, _, rfl, rfl, rfl⟩

/-- Two requests load the workflow, one changes its nodes, and the other one changes its name: the
version of the latter has the nodes from before. -/
theorem version_stale :
    ¬ ∀ traffic, Gateway.Traffic.Run (fun _ => .ok ()) (fun _ _ _ => True)
      Gateway.Traffic.initial traffic → traffic.tables.Faithful := by
  intro hall
  have hcreated := Sample.created_run (fun _ _ _ => True) (fun _ _ _ => trivial) trivial
  have hpostponed := hcreated.first_statement 1 (Sample.postponement "7") (fun _ _ _ => trivial) rfl
    trivial (.load rfl rfl rfl rfl rfl)
  have hretitled := hpostponed.first_statement 2 Sample.retitling (fun _ _ _ => trivial) rfl
    trivial (.load rfl rfl rfl rfl rfl)
  have hfirst := hretitled.flush 1 (fun _ _ _ => trivial) trivial rfl rfl (.of_none rfl) rfl
  have hsecond := hfirst.flush 2 (fun _ _ _ => trivial) trivial rfl rfl (.of_none rfl) rfl
  obtain ⟨version, hversion, hcontent⟩ := (hall _ hsecond).latest "workflow" _ rfl
  have hstale : (Gateway.scheduleOf Sample.cronFields version.content.1) =
      some ["0", "6", "*", "*", "*"] := by
    rw [← Option.some.inj hversion]
    rfl
  rw [hcontent] at hstale
  exact absurd hstale (by decide)

end IntegrationPlatform
