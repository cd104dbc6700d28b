import IntegrationPlatform.Gateway.VersionTransactions

/-!
# Version history

The numbers of the versions are protected by the lock on the row of the workflow, which a session
holds from its flush to its end. Their contents are not: they come from the object, which was
loaded before the lock. Both are right in every run in which the columns that a session does not
write have, when it gets the lock, the values that it has loaded.
-/

namespace IntegrationPlatform

namespace Gateway

open RowLocks Store

/-- What is versioned of a workflow. -/
abbrev Content := List WorkflowNode × List WorkflowEdge × Option Dict

/-- The content of a workflow. -/
def Workflow.content (workflow : Workflow) : Content :=
  (workflow.nodes, workflow.edges, workflow.vars)

/-- The content of a version. -/
def WorkflowVersion.content (version : WorkflowVersion) : Content :=
  (version.nodes, version.edges, some version.vars)

/-- The number of the last committed version of a workflow, or zero. -/
def Tables.last (tables : Tables) (id : String) : Nat :=
  ((tables.workflows.committed id).map (·.version)).getD 0

/-- The versions of a workflow have the numbers from one to that of the workflow, and the last one
has its content. That no number occurs twice is the type of the table. -/
structure Tables.Faithful (tables : Tables) : Prop where
  versions : ∀ id workflow, tables.workflows.committed id = some workflow → ∀ number,
    (∃ version, tables.versions.committed (id, number) = some version) ↔
      1 ≤ number ∧ number ≤ workflow.version
  number : ∀ id number version, tables.versions.committed (id, number) = some version →
    version.version = number
  latest : ∀ id workflow, tables.workflows.committed id = some workflow →
    ∃ version, tables.versions.committed (id, workflow.version) = some version ∧
      version.content = workflow.content

/-! ## Contents -/

/-- The columns that a session writes have the values of its object. -/
structure Changes.Within (changes : Changes) (object : Workflow) : Prop where
  nodes : ∀ nodes, changes.nodes = some nodes → object.nodes = nodes
  edges : ∀ edges, changes.edges = some edges → object.edges = edges
  vars : ∀ vars, changes.vars = some vars → object.vars = vars
  version : changes.version = none

/-- The columns of the content that a session does not write have the values of its object in the
row that it locks, and the variables of the object are not `null`. -/
structure Changes.Covers (changes : Changes) (object row : Workflow) : Prop where
  nodes : changes.nodes = none → row.nodes = object.nodes
  edges : changes.edges = none → row.edges = object.edges
  vars : changes.vars = none → row.vars = object.vars
  not_null : object.vars ≠ none

section Contents

variable {changes : Changes} {object row workflow : Workflow}

theorem filter_assigned {α : Type} {assigned : Option α} {keep : α → Bool} {value loaded : α}
    (h : assigned.filter keep = some value) : assigned.getD loaded = value := by
  rw [(Option.filter_eq_some_iff.mp h).1]
  rfl

theorem Changes.within_written (h : changes.version = none) (loaded : Workflow) :
    (changes.written loaded).Within (changes.apply loaded) where
  nodes _ hnodes := filter_assigned hnodes
  edges _ hedges := filter_assigned hedges
  vars _ hvars := filter_assigned hvars
  version := by rw [Changes.written, h]; rfl

theorem getD_covered {α : Type} {assigned : Option α} {value loaded : α}
    (hwithin : ∀ new, assigned = some new → value = new) (hcovers : assigned = none → loaded = value) :
    assigned.getD loaded = value := by
  cases assigned with
  | none => exact hcovers rfl
  | some new => exact (hwithin new rfl).symm

theorem Changes.Within.content_apply (hwithin : changes.Within object)
    (hcovers : changes.Covers object row) : (changes.apply row).content = object.content := by
  have hnodes : changes.nodes.getD row.nodes = object.nodes :=
    getD_covered hwithin.nodes hcovers.nodes
  have hedges : changes.edges.getD row.edges = object.edges :=
    getD_covered hwithin.edges hcovers.edges
  have hvars : changes.vars.getD row.vars = object.vars :=
    getD_covered hwithin.vars hcovers.vars
  show (changes.nodes.getD row.nodes, changes.edges.getD row.edges, changes.vars.getD row.vars) = _
  rw [hnodes, hedges, hvars]
  rfl

theorem content_snapshot (last : Nat) (createdBy : Option String) (h : object.vars ≠ none) :
    (snapshot object last createdBy).content = object.content := by
  obtain ⟨vars, hvars⟩ := Option.ne_none_iff_exists'.mp h
  show (object.nodes, object.edges, some (object.vars.getD [])) = _
  rw [hvars, Workflow.content, hvars]
  rfl

theorem content_restored (version : WorkflowVersion) :
    (version.changes.apply workflow).content = version.content :=
  rfl

end Contents

/-! ## Invariants -/

section Invariants

variable (settled : Prop) (tables : Tables) (tx : Nat)

/-- What holds of the committed rows. That the last version has the content of the workflow holds
in settled runs. -/
structure Tables.History : Prop where
  versions : ∀ id number, tables.versions.committed (id, number) ≠ none ↔
    1 ≤ number ∧ number ≤ tables.last id
  number : ∀ id number version, tables.versions.committed (id, number) = some version →
    version.version = number
  positive : ∀ id workflow, tables.workflows.committed id = some workflow → 1 ≤ workflow.version
  latest : settled → ∀ id workflow version, tables.workflows.committed id = some workflow →
    tables.versions.committed (id, workflow.version) = some version →
      version.content = workflow.content

/-- The transaction holds no versions of a workflow. -/
def Tables.NoVersion (id : String) : Prop :=
  ∀ number, tables.versions.Without tx (id, number)

/-- The transaction holds one version of a workflow. -/
def Tables.OneVersion (id : String) (number : Nat) (version : WorkflowVersion) : Prop :=
  tables.versions.Holds tx (id, number) (some (some version)) ∧
    ∀ other, other ≠ number → tables.versions.Without tx (id, other)

/-- The object of a rollback has the content of the version that it restores. -/
def Session.Restores (session : Session) (object : Workflow) : Prop :=
  ∀ tenant id target, session.request = .rollback tenant id target →
    ∃ (number : Nat) (version : WorkflowVersion), (number : Int) = target ∧
      tables.versions.committed (id, number) = some version ∧ version.content = object.content

/-- The transaction has locked the row of a workflow, which has the content of the object in
settled runs, and has its next number only if the object has it. -/
def Tables.Locked (id : String) (object : Workflow) : Prop :=
  ∃ row, tables.workflows.Holds tx id (some (some row)) ∧
    (object.version = tables.last id + 1 → row.version = tables.last id + 1) ∧
    (settled → row.content = object.content ∧ object.vars ≠ none)

/-- The object of a request has been loaded, or inserted. -/
def Tables.Assigned (id : String) (object : Workflow) (changes : Changes) : Prop :=
  (tables.workflows.Without tx id ∧ object.version ≤ tables.last id) ∨
    (tables.workflows.Holds tx id (some (some object)) ∧ tables.last id = 0 ∧
      object.version = 1 ∧ changes = {})

/-- What holds of a session in a phase. -/
def PhaseInvariant (session : Session) : Phase → Prop
  | .start => tables.workflows.Without tx session.id ∧ tables.NoVersion tx session.id
  | .choosing loaded => tables.workflows.Without tx session.id ∧ tables.NoVersion tx session.id ∧
      loaded.version ≤ tables.last session.id
  | .assigned object changes => tables.Assigned tx session.id object changes ∧
      tables.NoVersion tx session.id ∧ changes.Within object ∧ session.Restores tables object
  | .locked object => tables.Locked settled tx session.id object ∧
      tables.NoVersion tx session.id ∧ session.Restores tables object
  | .counted object last => tables.Locked settled tx session.id object ∧
      tables.NoVersion tx session.id ∧ session.Restores tables object ∧
      last = tables.last session.id
  | .added object last => tables.Locked settled tx session.id object ∧
      tables.OneVersion tx session.id (last + 1) (session.versionRow object last) ∧
      session.Restores tables object ∧ last = tables.last session.id
  | .numbered object last =>
      (∃ row, tables.workflows.Holds tx session.id (some (some row)) ∧ row.version = last + 1 ∧
        (settled → row.content = object.content ∧ object.vars ≠ none)) ∧
      tables.OneVersion tx session.id (last + 1) (session.versionRow object last) ∧
      session.Restores tables object ∧ last = tables.last session.id

/-- What holds of a session and the keys that it holds: they are those of its workflow. -/
structure SessionInvariant (session : Session) : Prop where
  others : ∀ id, id ≠ session.id → tables.workflows.Without tx id
  otherVersions : ∀ id, id ≠ session.id → tables.NoVersion tx id
  phase : PhaseInvariant settled tables tx session session.phase

/-- What holds of the tables and all sessions. Transactions without a session hold nothing. -/
structure Traffic.Invariant (traffic : Traffic) : Prop where
  history : traffic.tables.History settled
  sessions : ∀ tx session, traffic.sessions tx = some session →
    SessionInvariant settled traffic.tables tx session
  idle : ∀ tx, traffic.sessions tx = none → ∀ id,
    traffic.tables.workflows.Without tx id ∧ traffic.tables.NoVersion tx id

/-- What a step of a transaction does to the tables: it leaves alone what the others hold, adds to
the versions of a workflow, and changes none of them. -/
structure Tables.Advance (after : Tables) : Prop where
  workflows : tables.workflows.Frame tx after.workflows
  versions : tables.versions.Frame tx after.versions
  last : ∀ id, tables.last id ≤ after.last id
  kept : ∀ key version, tables.versions.committed key = some version →
    after.versions.committed key = some version

end Invariants

variable {settled : Prop} {tables after : Tables} {tx tx' : Nat} {id : String} {session : Session}
  {object : Workflow} {changes : Changes} {event : Event}
  {checkAllowedIps : Value → Except HttpError Unit}

/-! ## Committed rows -/

theorem Tables.History.congr (h : tables.History settled)
    (hworkflows : after.workflows.committed = tables.workflows.committed)
    (hversions : after.versions.committed = tables.versions.committed) :
    after.History settled := by
  have hlast : ∀ id, after.last id = tables.last id := by
    intro id
    rw [Tables.last, hworkflows]
    rfl
  refine ⟨?_, ?_, ?_, ?_⟩
  · intro id number
    rw [hversions, hlast]
    exact h.versions id number
  · intro id number version
    rw [hversions]
    exact h.number id number version
  · intro id workflow
    rw [hworkflows]
    exact h.positive id workflow
  · intro hsettled id workflow version
    rw [hworkflows, hversions]
    exact h.latest hsettled id workflow version

theorem Tables.last_eq {workflow : Workflow}
    (h : tables.workflows.committed id = some workflow) : tables.last id = workflow.version := by
  rw [Tables.last, h]
  rfl

theorem Tables.last_eq_zero (h : tables.workflows.committed id = none) : tables.last id = 0 := by
  rw [Tables.last, h]
  rfl

theorem Tables.History.faithful (h : tables.History settled) (hsettled : settled) :
    tables.Faithful := by
  have hversions : ∀ id workflow, tables.workflows.committed id = some workflow → ∀ number,
      (∃ version, tables.versions.committed (id, number) = some version) ↔
        1 ≤ number ∧ number ≤ workflow.version := by
    intro id workflow hworkflow number
    rw [← Option.ne_none_iff_exists', h.versions, Tables.last_eq hworkflow]
  refine ⟨hversions, h.number, ?_⟩
  intro id workflow hworkflow
  obtain ⟨version, hversion⟩ := (hversions id workflow hworkflow workflow.version).mpr
    ⟨h.positive id workflow hworkflow, le_rfl⟩
  exact ⟨version, hversion, h.latest hsettled id workflow version hworkflow hversion⟩

/-! ## Frames -/

theorem Tables.Advance.of_committed (hworkflows : tables.workflows.Frame tx after.workflows)
    (hversions : tables.versions.Frame tx after.versions)
    (hcommitted : after.workflows.committed = tables.workflows.committed)
    (hcommitted' : after.versions.committed = tables.versions.committed) :
    tables.Advance tx after where
  workflows := hworkflows
  versions := hversions
  last id := by
    rw [Tables.last, Tables.last, hcommitted]
  kept key version hversion := by
    rw [hcommitted']
    exact hversion

theorem Tables.Advance.last_eq (h : tables.Advance tx' after) (hne : tx ≠ tx')
    {draft : Option (Option Workflow)} (hholds : tables.workflows.Holds tx id draft) :
    after.last id = tables.last id := by
  rw [Tables.last, h.workflows.committed_of_holds hne hholds]
  rfl

theorem Tables.Advance.noVersion (h : tables.Advance tx' after) (hne : tx ≠ tx')
    (hno : tables.NoVersion tx id) : after.NoVersion tx id :=
  fun number => (h.versions.without hne).mpr (hno number)

theorem Tables.Advance.oneVersion (h : tables.Advance tx' after) (hne : tx ≠ tx') {number : Nat}
    {version : WorkflowVersion} (hone : tables.OneVersion tx id number version) :
    after.OneVersion tx id number version :=
  ⟨(h.versions.holds hne).mpr hone.1,
    fun other hother => (h.versions.without hne).mpr (hone.2 other hother)⟩

theorem Tables.Advance.restores (h : tables.Advance tx' after)
    (hrestores : session.Restores tables object) : session.Restores after object := by
  intro tenant id target hrequest
  obtain ⟨number, version, hnumber, hversion, hcontent⟩ := hrestores tenant id target hrequest
  exact ⟨number, version, hnumber, h.kept _ _ hversion, hcontent⟩

theorem Tables.Advance.locked (h : tables.Advance tx' after) (hne : tx ≠ tx')
    (hlocked : tables.Locked settled tx id object) : after.Locked settled tx id object := by
  obtain ⟨row, hholds, hversion, hcontent⟩ := hlocked
  refine ⟨row, (h.workflows.holds hne).mpr hholds, ?_, hcontent⟩
  rw [h.last_eq hne hholds]
  exact hversion

theorem Tables.Advance.assigned (h : tables.Advance tx' after) (hne : tx ≠ tx')
    (hassigned : tables.Assigned tx id object changes) : after.Assigned tx id object changes := by
  rcases hassigned with ⟨hwithout, hversion⟩ | ⟨hholds, hlast, hcreated⟩
  · exact .inl ⟨(h.workflows.without hne).mpr hwithout, hversion.trans (h.last id)⟩
  · refine .inr ⟨(h.workflows.holds hne).mpr hholds, ?_, hcreated⟩
    rw [h.last_eq hne hholds]
    exact hlast

theorem PhaseInvariant.frame {phase : Phase} (h : PhaseInvariant settled tables tx session phase)
    (hadvance : tables.Advance tx' after) (hne : tx ≠ tx') :
    PhaseInvariant settled after tx session phase := by
  cases phase with
  | start => exact ⟨(hadvance.workflows.without hne).mpr h.1, hadvance.noVersion hne h.2⟩
  | choosing loaded =>
      exact ⟨(hadvance.workflows.without hne).mpr h.1, hadvance.noVersion hne h.2.1,
        h.2.2.trans (hadvance.last _)⟩
  | assigned object changes =>
      exact ⟨hadvance.assigned hne h.1, hadvance.noVersion hne h.2.1, h.2.2.1,
        hadvance.restores h.2.2.2⟩
  | locked object =>
      exact ⟨hadvance.locked hne h.1, hadvance.noVersion hne h.2.1, hadvance.restores h.2.2⟩
  | counted object last =>
      obtain ⟨row, hholds, -⟩ := h.1
      exact ⟨hadvance.locked hne h.1, hadvance.noVersion hne h.2.1, hadvance.restores h.2.2.1,
        h.2.2.2.trans (hadvance.last_eq hne hholds).symm⟩
  | added object last =>
      obtain ⟨row, hholds, -⟩ := h.1
      exact ⟨hadvance.locked hne h.1, hadvance.oneVersion hne h.2.1, hadvance.restores h.2.2.1,
        h.2.2.2.trans (hadvance.last_eq hne hholds).symm⟩
  | numbered object last =>
      obtain ⟨⟨row, hholds, hrow⟩, hone, hrestores, hlast⟩ := h
      exact ⟨⟨row, (hadvance.workflows.holds hne).mpr hholds, hrow⟩, hadvance.oneVersion hne hone,
        hadvance.restores hrestores, hlast.trans (hadvance.last_eq hne hholds).symm⟩

theorem SessionInvariant.frame (h : SessionInvariant settled tables tx session)
    (hadvance : tables.Advance tx' after) (hne : tx ≠ tx') :
    SessionInvariant settled after tx session where
  others id hid := (hadvance.workflows.without hne).mpr (h.others id hid)
  otherVersions id hid := hadvance.noVersion hne (h.otherVersions id hid)
  phase := h.phase.frame hadvance hne

/-! ## Steps of a session -/

/-- A session that flushes covers its object. -/
def Session.Settles (tables : Tables) (tx : Nat) (session : Session) : Prop :=
  ∀ object changes row, session.phase = .assigned object changes →
    tables.workflows.visible tx session.id = some row → changes.Covers object row

variable {row : Workflow}

theorem Tables.Assigned.flush (h : tables.Assigned tx id object changes)
    (hwithin : changes.Within object)
    (hrow : tables.workflows.visible tx id = some row)
    (hcovers : settled → changes.Covers object row) :
    Tables.Locked settled
      { tables with workflows := tables.workflows.write tx id (some (changes.apply row)) } tx id
      object := by
  refine ⟨changes.apply row, holds_write, ?_, fun hsettled => ?_⟩
  · intro hversion
    have hnext : object.version = tables.last id + 1 := hversion
    show (changes.apply row).version = tables.last id + 1
    rcases h with ⟨-, hle⟩ | ⟨hholds, -, -, rfl⟩
    · omega
    · rw [hholds.visible_written] at hrow
      rw [← Option.some.inj hrow]
      exact hnext
  · exact ⟨hwithin.content_apply (hcovers hsettled), (hcovers hsettled).not_null⟩

theorem Tables.IsLast.eq_last {last : Nat} (h : tables.IsLast tx id last)
    (hhistory : tables.History settled) (hno : tables.NoVersion tx id) :
    last = tables.last id := by
  have hvisible : ∀ number, tables.versions.visible tx (id, number) ≠ none ↔
      1 ≤ number ∧ number ≤ tables.last id := by
    intro number
    rw [(hno number).visible_eq]
    exact hhistory.versions id number
  refine Nat.le_antisymm ?_ ?_
  · rcases h.visible with hzero | hlast
    · omega
    · exact ((hvisible last).mp hlast).2
  · by_cases hzero : tables.last id = 0
    · omega
    · exact h.le _ ((hvisible _).mpr ⟨by omega, le_rfl⟩)

theorem Tables.Locked.number (h : tables.Locked settled tx id object)
    (hrow : tables.workflows.visible tx id = some row) {last : Nat} (hlast : last = tables.last id) :
    let written := if object.version = last + 1 then row else { row with version := last + 1 }
    written.version = last + 1 ∧
      (settled → written.content = object.content ∧ object.vars ≠ none) := by
  obtain ⟨row', hholds, hversion, hcontent⟩ := h
  rw [hholds.visible_written] at hrow
  cases hrow
  by_cases hnext : object.version = last + 1
  · simp only [if_pos hnext]
    exact ⟨by rw [hversion (hlast ▸ hnext), hlast], hcontent⟩
  · simp only [if_neg hnext]
    exact ⟨trivial, hcontent⟩

theorem Session.Step.committed_eq {session' : Session}
    (h : Session.Step checkAllowedIps tx tables session event after (some session')) :
    after.workflows.committed = tables.workflows.committed ∧
      after.versions.committed = tables.versions.committed := by
  cases h <;> exact ⟨rfl, rfl⟩

theorem SessionInvariant.step_frame (h : SessionInvariant settled tables tx session)
    {session' : Option Session}
    (hstep : Session.Step checkAllowedIps tx tables session event after session') :
    tables.workflows.Frame tx after.workflows ∧ tables.versions.Frame tx after.versions := by
  cases hstep with
  | insert _ _ _ hfree => exact ⟨.write hfree _, .refl⟩
  | load => exact ⟨.refl, .refl⟩
  | find => exact ⟨.refl, .refl⟩
  | choose => exact ⟨.refl, .refl⟩
  | flush _ hfree => exact ⟨.write hfree _, .refl⟩
  | count => exact ⟨.refl, .refl⟩
  | add _ hfree => exact ⟨.refl, .write hfree _⟩
  | number hphase =>
      have hinv := h.phase
      rw [hphase] at hinv
      obtain ⟨row, hholds, -⟩ := hinv.1
      exact ⟨.write hholds.free _, .refl⟩
  | commit => exact ⟨.commit, .commit⟩
  | abort => exact ⟨.release _, .release _⟩

theorem SessionInvariant.others_write (h : SessionInvariant settled tables tx session)
    (row : Option Workflow) :
    ∀ id, id ≠ session.id → (tables.workflows.write tx session.id row).Without tx id :=
  fun id hid => (h.others id hid).write hid

/-- A step of a session that does not end it keeps its invariant. -/
theorem SessionInvariant.step (h : SessionInvariant settled tables tx session)
    (hhistory : tables.History settled)
    (hsettles : settled → event = .flushed → session.Settles tables tx) {session' : Session}
    (hstep : Session.Step checkAllowedIps tx tables session event after (some session')) :
    SessionInvariant settled after tx session' := by
  have hinv := h.phase
  cases hstep with
  | @insert tenant id body object hphase hrequest hobject hfree hnone =>
      have hid : session.id = id := by rw [Session.id, hrequest]; rfl
      rw [hphase] at hinv
      subst hid
      rw [hinv.1.visible_eq] at hnone
      refine ⟨h.others_write _, h.otherVersions, ?_⟩
      have hversion : object.version = 1 := by
        obtain ⟨trigger, -, hobject⟩ := bind_eq_ok.mp hobject
        cases Except.ok.inj hobject
        rfl
      refine ⟨.inr ⟨holds_write, Tables.last_eq_zero hnone, hversion, rfl⟩, hinv.2, ?_, ?_⟩
      · constructor
        · intro _ hnodes
          cases hnodes
        · intro _ hedges
          cases hedges
        · intro _ hvars
          cases hvars
        · rfl
      · intro tenant' id' target hrollback
        rw [Session.goto, hrequest] at hrollback
        cases hrollback
  | @load tenant id body loaded changes hphase hrequest hloaded htenant hchanges =>
      have hid : session.id = id := by rw [Session.id, hrequest]; rfl
      rw [hphase] at hinv
      subst hid
      rw [hinv.1.visible_eq] at hloaded
      obtain ⟨hversion, -⟩ := body.changes_spec hchanges
      refine ⟨h.others, h.otherVersions, ?_, hinv.2, Changes.within_written hversion loaded, ?_⟩
      · refine .inl ⟨hinv.1, ?_⟩
        show changes.version.getD loaded.version ≤ tables.last session.id
        rw [hversion, Tables.last_eq hloaded]
        exact le_rfl
      · intro tenant' id' target hrollback
        rw [Session.goto, hrequest] at hrollback
        cases hrollback
  | @find tenant id target loaded hphase hrequest hloaded =>
      have hid : session.id = id := by rw [Session.id, hrequest]; rfl
      rw [hphase] at hinv
      subst hid
      rw [hinv.1.visible_eq] at hloaded
      exact ⟨h.others, h.otherVersions, hinv.1, hinv.2, (Tables.last_eq hloaded).ge⟩
  | @choose tenant id target loaded version number hphase hrequest hnumber hversion =>
      have hid : session.id = id := by rw [Session.id, hrequest]; rfl
      rw [hphase] at hinv
      subst hid
      obtain ⟨hwithout, hno, hle⟩ := hinv
      rw [(hno number).visible_eq] at hversion
      refine ⟨h.others, h.otherVersions, .inl ⟨hwithout, hle⟩, hno,
        Changes.within_written rfl loaded, ?_⟩
      intro tenant' id' target' hrollback
      rw [Session.goto, hrequest] at hrollback
      cases hrollback
      exact ⟨number, version, hnumber, hversion, (content_restored version).symm⟩
  | @flush object changes row hphase hfree hrow =>
      rw [hphase] at hinv
      obtain ⟨hassigned, hno, hwithin, hrestores⟩ := hinv
      refine ⟨h.others_write _, h.otherVersions, ?_, hno, hrestores⟩
      exact hassigned.flush hwithin hrow
        fun hsettled => hsettles hsettled rfl object changes row hphase hrow
  | @count object last hphase hlast =>
      rw [hphase] at hinv
      exact ⟨h.others, h.otherVersions, hinv.1, hinv.2.1, hinv.2.2,
        hlast.eq_last hhistory hinv.2.1⟩
  | @add object last hphase hfree hnone =>
      rw [hphase] at hinv
      obtain ⟨hlocked, hno, hrestores, hlast⟩ := hinv
      refine ⟨h.others, ?_, hlocked, ⟨holds_write, ?_⟩, hrestores, hlast⟩
      · exact fun id hid number =>
          (h.otherVersions id hid number).write fun heq => hid (Prod.mk.inj heq).1
      · exact fun other hother => (hno other).write fun heq => hother (Prod.mk.inj heq).2
  | @number object last row hphase hrow =>
      rw [hphase] at hinv
      obtain ⟨hlocked, hone, hrestores, hlast⟩ := hinv
      refine ⟨h.others_write _, h.otherVersions, ?_, hone, hrestores, hlast⟩
      exact ⟨_, holds_write, hlocked.number hrow hlast⟩

/-! ## Ends of sessions -/

/-- What a commit makes of the rows of a workflow: it adds the next version. -/
structure Session.Committed (tables : Tables) (session : Session) (object : Workflow)
    (after : Tables) (row : Workflow) : Prop where
  workflow : after.workflows.committed session.id = some row
  others : ∀ id, id ≠ session.id → after.workflows.committed id = tables.workflows.committed id
  version : row.version = tables.last session.id + 1
  added : after.versions.committed (session.id, tables.last session.id + 1) =
    some (session.versionRow object (tables.last session.id))
  kept : ∀ key, key ≠ (session.id, tables.last session.id + 1) →
    after.versions.committed key = tables.versions.committed key

theorem SessionInvariant.commit (h : SessionInvariant settled tables tx session) {last : Nat}
    (hphase : session.phase = .numbered object last) :
    ∃ row, session.Committed tables object
        { workflows := tables.workflows.commit tx, versions := tables.versions.commit tx } row ∧
      (settled → row.content = object.content ∧ object.vars ≠ none) ∧
      session.Restores tables object := by
  have hinv := h.phase
  rw [hphase] at hinv
  obtain ⟨⟨row, hholds, hversion, hcontent⟩, hone, hrestores, rfl⟩ := hinv
  refine ⟨row, ⟨hholds.visible_written, ?_, hversion, hone.1.visible_written, ?_⟩, hcontent,
    hrestores⟩
  · exact fun id hid => commit_committed_of_without (h.others id hid)
  · rintro ⟨id, number⟩ hkey
    refine commit_committed_of_without ?_
    by_cases hid : id = session.id
    · subst hid
      exact hone.2 number fun hnumber => hkey (by rw [hnumber])
    · exact h.otherVersions id hid number

theorem Session.Committed.advance
    (h : session.Committed tables object after row) (hhistory : tables.History settled) :
    (∀ id, tables.last id ≤ after.last id) ∧ ∀ key version,
      tables.versions.committed key = some version → after.versions.committed key = some version := by
  constructor
  · intro id
    by_cases hid : id = session.id
    · subst hid
      rw [Tables.last_eq h.workflow, h.version]
      omega
    · rw [Tables.last, Tables.last, h.others id hid]
  · intro key version hversion
    refine (h.kept key ?_).trans hversion
    rintro rfl
    have hnumber := ((hhistory.versions _ _).mp (hversion ▸ Option.some_ne_none version)).2
    omega

/-- A commit keeps what holds of the committed rows. -/
theorem Session.Committed.history
    (h : session.Committed tables object after row) (hhistory : tables.History settled)
    (hcontent : settled → row.content = object.content ∧ object.vars ≠ none) :
    after.History settled := by
  have hlast : after.last session.id = tables.last session.id + 1 := by
    rw [Tables.last_eq h.workflow, h.version]
  refine ⟨?_, ?_, ?_, ?_⟩
  · intro id number
    by_cases hkey : (id, number) = (session.id, tables.last session.id + 1)
    · cases hkey
      rw [h.added, hlast]
      simp
    · rw [h.kept _ hkey, hhistory.versions]
      by_cases hid : id = session.id
      · subst hid
        have hne : number ≠ tables.last session.id + 1 := fun heq => hkey (by rw [heq])
        rw [hlast]
        omega
      · rw [Tables.last, Tables.last, h.others id hid]
  · intro id number version hversion
    by_cases hkey : (id, number) = (session.id, tables.last session.id + 1)
    · cases hkey
      rw [h.added] at hversion
      cases hversion
      rfl
    · rw [h.kept _ hkey] at hversion
      exact hhistory.number id number version hversion
  · intro id workflow hworkflow
    by_cases hid : id = session.id
    · subst hid
      rw [h.workflow] at hworkflow
      cases hworkflow
      rw [h.version]
      omega
    · rw [h.others id hid] at hworkflow
      exact hhistory.positive id workflow hworkflow
  · intro hsettled id workflow version hworkflow hversion
    by_cases hid : id = session.id
    · subst hid
      rw [h.workflow] at hworkflow
      cases hworkflow
      rw [h.version, h.added] at hversion
      cases hversion
      obtain ⟨hrow, hnull⟩ := hcontent hsettled
      exact (content_snapshot _ _ hnull).trans hrow.symm
    · rw [h.others id hid] at hworkflow
      rw [h.kept _ fun heq => hid (Prod.mk.inj heq).1] at hversion
      exact hhistory.latest hsettled id workflow version hworkflow hversion

theorem SessionInvariant.step_history (h : SessionInvariant settled tables tx session)
    (hhistory : tables.History settled) {session' : Option Session}
    (hstep : Session.Step checkAllowedIps tx tables session event after session') :
    after.History settled ∧ tables.Advance tx after := by
  have hframe := h.step_frame hstep
  cases session' with
  | some session' =>
      obtain ⟨hworkflows, hversions⟩ := hstep.committed_eq
      exact ⟨hhistory.congr hworkflows hversions,
        .of_committed hframe.1 hframe.2 hworkflows hversions⟩
  | none =>
      cases hstep with
      | commit hphase =>
          obtain ⟨row, hcommitted, hcontent, -⟩ := h.commit hphase
          have hadvance := hcommitted.advance hhistory
          exact ⟨hcommitted.history hhistory hcontent,
            ⟨hframe.1, hframe.2, hadvance.1, hadvance.2⟩⟩
      | abort =>
          exact ⟨hhistory.congr rfl rfl, .of_committed hframe.1 hframe.2 rfl rfl⟩

theorem Session.Step.ended
    (h : Session.Step checkAllowedIps tx tables session event after none) (id : String) :
    after.workflows.Without tx id ∧ after.NoVersion tx id := by
  cases h with
  | commit => exact ⟨without_commit, fun _ => without_commit⟩
  | abort => exact ⟨without_rollback, fun _ => without_rollback⟩

/-! ## Runs -/

namespace Traffic

variable {traffic traffic' first : Traffic} {meets : Traffic → Nat → Event → Prop}

/-- Whenever a session flushes, it covers its object: the columns of the content that it does not
write have the values that it has loaded, and its variables are not `null`. -/
def Settled (traffic : Traffic) (tx : Nat) : Event → Prop
  | .flushed => ∀ session, traffic.sessions tx = some session →
      session.Settles traffic.tables tx
  | _ => True

theorem invariant_initial : initial.Invariant settled where
  history := by
    refine ⟨fun id number => iff_of_false (fun h => h rfl) ?_, ?_, ?_, ?_⟩
    · intro hnumber
      have hzero : initial.tables.last id = 0 := rfl
      omega
    · intro id number version hversion
      cases hversion
    · intro id workflow hworkflow
      cases hworkflow
    · intro _ id workflow version hworkflow
      cases hworkflow
  sessions tx session hsession := by cases hsession
  idle tx _ id := ⟨.of_none rfl, fun _ => .of_none rfl⟩

/-- Every step keeps the invariant, and advances the tables. -/
theorem Invariant.step (h : traffic.Invariant settled)
    (hsettles : settled → traffic.Settled tx event)
    (hstep : Step checkAllowedIps tx traffic event traffic') :
    traffic'.Invariant settled ∧ traffic.tables.Advance tx traffic'.tables := by
  cases hstep with
  | begin request hnone hversions =>
      refine ⟨⟨h.history, ?_, ?_⟩, .of_committed .refl .refl rfl rfl⟩
      · intro other session hsession
        by_cases hsame : other = tx
        · subst hsame
          simp only [Function.update_self] at hsession
          cases hsession
          have hidle := h.idle other hnone
          exact ⟨fun id _ => (hidle id).1, fun id _ => (hidle id).2, (hidle _).1, (hidle _).2⟩
        · simp only [Function.update_of_ne hsame] at hsession
          exact h.sessions other session hsession
      · intro other hother
        by_cases hsame : other = tx
        · subst hsame
          simp only [Function.update_self] at hother
          cases hother
        · simp only [Function.update_of_ne hsame] at hother
          exact h.idle other hother
  | @work session event tables session' hsession hwork =>
      have hinv := h.sessions tx session hsession
      obtain ⟨hhistory, hadvance⟩ := hinv.step_history h.history hwork
      refine ⟨⟨hhistory, ?_, ?_⟩, hadvance⟩
      · intro other session'' hother
        by_cases hsame : other = tx
        · subst hsame
          simp only [Function.update_self] at hother
          cases hother
          refine hinv.step h.history (fun hsettled hflushed => ?_) hwork
          subst hflushed
          exact hsettles hsettled session hsession
        · simp only [Function.update_of_ne hsame] at hother
          exact (h.sessions other session'' hother).frame hadvance hsame
      · intro other hother id
        by_cases hsame : other = tx
        · subst hsame
          simp only [Function.update_self] at hother
          subst hother
          exact hwork.ended id
        · simp only [Function.update_of_ne hsame] at hother
          have hidle := h.idle other hother id
          exact ⟨(hadvance.workflows.without hsame).mpr hidle.1,
            hadvance.noVersion hsame hidle.2⟩

theorem Run.invariant (settled : Prop) (hrun : Run checkAllowedIps meets first traffic)
    (hmeets : settled → ∀ traffic tx event, meets traffic tx event → traffic.Settled tx event)
    (hfirst : first.Invariant settled) :
    traffic.Invariant settled ∧ ∀ key version, first.tables.versions.committed key = some version →
      traffic.tables.versions.committed key = some version := by
  induction hrun with
  | start => exact ⟨hfirst, fun key version hversion => hversion⟩
  | @step before after tx event _ hmet hstep ih =>
      obtain ⟨hafter, hadvance⟩ :=
        ih.1.step (fun hsettled => hmeets hsettled before tx event hmet) hstep
      exact ⟨hafter, fun key version hversion => hadvance.kept key version (ih.2 key version hversion)⟩

end Traffic

end Gateway

end IntegrationPlatform
