import IntegrationPlatform.Integrators.EventPoller
import IntegrationPlatform.Json.Fields

/-!
# The reset of the event poller of the WMS

`reset_state` forgets the snapshots, and with them that there has been a baseline poll. A poll reads its
snapshot when its list has come in and stores the new one after it has emitted its events, so that a reset may
fall in between; `reset_emits_iff` says when the cycle after a reset emits every entity.
-/

namespace IntegrationPlatform

namespace Wms

/-! ## Sessions -/

/-- A poll that has gone through its list, with the snapshot that it is about to store. -/
structure Unstored where
  account : String
  kind : Kind
  snapshot : Assoc String

/-- The state of an `EventPoller`: its snapshots, the time of the last cycle of each account, the polling
interval of each account that is registered, and the polls that are under way. -/
structure Session where
  poller : Poller
  lastPoll : Assoc Rat
  credentials : Assoc (Option Int)
  unstored : List Unstored

/-- A new poller. -/
def Session.start : Session := ⟨.start, [], [], []⟩

variable (texts : Texts)

namespace Session

/-- `register_credentials`. -/
def register (session : Session) (account : String) (interval : Option Int) : Session :=
  { session with credentials := session.credentials.put account interval }

/-- `reset_state`. Polls that are under way go on. -/
def resetState (session : Session) : Session :=
  { session with poller := ⟨[], []⟩, lastPoll := [] }

/-- A poll up to the end of its loop. -/
def scan (session : Session) (poll : Poll) : Session × List Emission :=
  match poll.fetch.items with
  | none => (session, [])
  | some data =>
      match Wms.scan texts poll.account poll.kind poll.kind.event
          (session.poller.current poll.account poll.kind)
          (decide (¬ session.poller.Knows poll.account poll.kind)) [] data with
      | (emitted, .error _) => (session, emitted)
      | (emitted, .ok new) => ({ session with
          unstored := ⟨poll.account, poll.kind, new⟩ :: session.unstored }, emitted)

/-- The end of a poll. -/
def store (session : Session) (poll : Unstored) : Session :=
  { session with
    poller := {
      state := session.poller.state.put (stateKey poll.account poll.kind) poll.snapshot
      initialized := stateKey poll.account poll.kind :: session.poller.initialized } }

end Session

/-- What happens in a session: a request to register an account or to reset the poller, a poll that gets its
list, a poll that ends, and the end of the polls of an account in a cycle that has begun at some time. -/
inductive Act where
  | register (account : String) (interval : Option Int)
  | reset
  | scan (poll : Poll)
  | store (index : Nat)
  | polled (account : String) (time : Rat)

/-- One step of a session. -/
def Session.step (session : Session) : Act → Session
  | .register account interval => session.register account interval
  | .reset => session.resetState
  | .scan poll => (session.scan texts poll).1
  | .store index =>
      match session.unstored[index]? with
      | some poll => { session.store poll with unstored := session.unstored.eraseIdx index }
      | none => session
  | .polled account time => { session with lastPoll := session.lastPoll.put account time }

/-- A session after some steps. -/
def Session.run (session : Session) (acts : List Act) : Session :=
  acts.foldl (Session.step texts) session

/-! ## Cycles -/

/-- `_account_interval`, with `event_polling_interval_seconds` of the settings. -/
def accountInterval (default : Int) (interval : Option Int) : Int :=
  match interval with
  | some seconds => if seconds = 0 then default else seconds
  | none => default

/-- The accounts that are due. -/
def Session.due (session : Session) (default : Int) (now : Rat) : List String :=
  (session.credentials.filter fun entry =>
    decide (now - (session.lastPoll.find entry.1).getD 0 ≥ accountInterval default entry.2)).map Prod.fst

/-- What a poll of a cycle has emitted. -/
structure Polled where
  account : String
  kind : Kind
  emitted : List Emission

/-- Polls one after the other, with the answers to their requests. -/
def Poller.pollAll (poller : Poller) (answers : String → Kind → Fetch) :
    List (String × Kind) → Poller × List Polled
  | [] => (poller, [])
  | (account, kind) :: rest =>
      let first := poller.pollList texts account kind kind.event (answers account kind)
      let next := first.1.pollAll answers rest
      (next.1, ⟨account, kind, first.2⟩ :: next.2)

/-- The polls of `_poll_account`. They wait for each other, but none of them raises. -/
def kinds : List Kind := [.document, .article, .contractor, .position, .feedback]

/-- `_poll_cycle`, of which nothing else comes in between. -/
def Session.pollCycle (session : Session) (default : Int) (now : Rat)
    (answers : String → Kind → Fetch) : Session × List Polled :=
  let due := session.due default now
  let polled := session.poller.pollAll texts answers
    (due.flatMap fun account => kinds.map fun kind => (account, kind))
  ({ session with
      poller := polled.1
      lastPoll := due.foldl (fun lastPoll account => lastPoll.put account now) session.lastPoll },
    polled.2)

/-- The entities of one kind of an account for which a cycle has emitted events. -/
def entitiesOf (polled : List Polled) (account : String) (kind : Kind) : List Value :=
  polled.flatMap fun poll =>
    if poll.account = account ∧ poll.kind = kind then poll.emitted.map Emission.entity else []

variable {texts} {session : Session} {account : String} {kind : Kind}

/-! ## Polls -/

theorem scan_none {poll : Poll} (h : poll.list = none) :
    (session.scan texts poll).1 = session := by
  unfold Session.scan
  cases hitems : poll.fetch.items with
  | none => rfl
  | some data =>
      have hobjects : ¬ data.all fun item => item.fields?.isSome := by
        intro hobjects
        have hlist : poll.list = some data := Option.filter_eq_some_iff.mpr ⟨hitems, hobjects⟩
        rw [h] at hlist
        cases hlist
      obtain ⟨message, herror⟩ := scan_raises texts poll.account poll.kind poll.kind.event
        (session.poller.current poll.account poll.kind)
        (decide (¬ session.poller.Knows poll.account poll.kind)) [] hobjects
      simp only
      split
      · rfl
      · next hscan =>
        rw [hscan] at herror
        cases herror

theorem scan_list {poll : Poll} {items : List Value} (h : poll.list = some items) :
    session.scan texts poll = ({ session with
        unstored := ⟨poll.account, poll.kind, snapshot texts poll.kind items⟩ :: session.unstored },
      (session.poller.poll texts poll).2) := by
  obtain ⟨hitems, hobjects⟩ := Option.filter_eq_some_iff.mp h
  rw [poll_list h, Session.scan, hitems]
  simp only [scan_objects hobjects, decide_eq_true_eq]
  rfl

/-- A kind is known, or will be when a poll that is under way ends. -/
def Session.Learns (session : Session) (account : String) (kind : Kind) : Prop :=
  session.poller.Knows account kind ∨
    ∃ poll ∈ session.unstored, poll.account = account ∧ poll.kind = kind

/-- The step is a poll of this kind of the account that goes through. -/
def Act.Succeeds (act : Act) (account : String) (kind : Kind) : Prop :=
  ∃ poll items, act = .scan poll ∧ poll.account = account ∧ poll.kind = kind ∧ poll.list = some items

theorem learns_of_step {act : Act} (h : (session.step texts act).Learns account kind) :
    session.Learns account kind ∨ act.Succeeds account kind := by
  cases act with
  | register account' interval => exact .inl h
  | polled account' time => exact .inl h
  | reset =>
      rcases h with hknows | hunstored
      · cases hknows
      · exact .inl (.inr hunstored)
  | scan poll =>
      cases hlist : poll.list with
      | none =>
          rw [Session.step, scan_none hlist] at h
          exact .inl h
      | some items =>
          rw [Session.step, scan_list hlist] at h
          rcases h with hknows | ⟨stored, hmem, haccount, hkind⟩
          · exact .inl (.inl hknows)
          · rcases List.mem_cons.mp hmem with rfl | hold
            · exact .inr ⟨poll, items, rfl, haccount, hkind, hlist⟩
            · exact .inl (.inr ⟨stored, hold, haccount, hkind⟩)
  | store index =>
      rw [Session.step] at h
      cases hstored : session.unstored[index]? with
      | none =>
          rw [hstored] at h
          exact .inl h
      | some stored =>
          rw [hstored] at h
          rcases h with hknows | ⟨later, hmem, hlater⟩
          · rcases List.mem_cons.mp hknows with hkey | hold
            · obtain ⟨haccount, hkind⟩ := stateKey_inj hkey
              exact .inl (.inr ⟨stored, List.mem_of_getElem? hstored, haccount.symm, hkind.symm⟩)
            · exact .inl (.inl hold)
          · exact .inl (.inr ⟨later, List.mem_of_mem_eraseIdx hmem, hlater⟩)

theorem learns_of_run {acts : List Act} (h : (session.run texts acts).Learns account kind)
    (hnone : ∀ act ∈ acts, ¬ act.Succeeds account kind) : session.Learns account kind := by
  induction acts generalizing session with
  | nil => exact h
  | cons act rest ih =>
      have hstep : (session.step texts act).Learns account kind :=
        ih h fun later hlater => hnone later (List.mem_cons_of_mem _ hlater)
      exact (learns_of_step hstep).resolve_right (hnone act List.mem_cons_self)

/-! ## The events of a cycle -/

theorem nodup_step (act : Act) (h : (session.credentials.map Prod.fst).Nodup) :
    ((session.step texts act).credentials.map Prod.fst).Nodup := by
  cases act with
  | register account interval => exact Assoc.nodup_put h account interval
  | reset => exact h
  | polled account time => exact h
  | scan poll =>
      cases hlist : poll.list with
      | none => rwa [Session.step, scan_none hlist]
      | some items => rwa [Session.step, scan_list hlist]
  | store index =>
      rw [Session.step]
      cases session.unstored[index]? <;> exact h

theorem nodup_credentials (texts : Texts) (acts : List Act) :
    ((Session.start.run texts acts).credentials.map Prod.fst).Nodup := by
  induction acts using List.reverseRecOn with
  | nil => exact List.nodup_nil
  | append_singleton acts act ih =>
      unfold Session.run at ih ⊢
      rw [List.foldl_append]
      exact nodup_step act ih

theorem nodup_targets {accounts : List String} (h : accounts.Nodup) :
    (accounts.flatMap fun account => kinds.map fun kind => (account, kind)).Nodup := by
  refine List.nodup_flatMap.mpr ⟨fun account _ => ?_, h.imp fun hne => ?_⟩
  · exact List.Nodup.map (fun _ _ heq => (Prod.mk.inj heq).2) (by decide)
  · intro target hfirst hsecond
    obtain ⟨_, -, rfl⟩ := List.mem_map.mp hfirst
    obtain ⟨_, -, heq⟩ := List.mem_map.mp hsecond
    exact hne (Prod.mk.inj heq).1.symm

variable {poller : Poller} {answers : String → Kind → Fetch} {items : List Value}

theorem entities_of_list {poll : Poll} (h : poll.list = some items) :
    (poller.poll texts poll).2.map Emission.entity =
      if ¬ poller.Knows poll.account poll.kind then [] else
        items.filter (differs texts poll.kind (poller.current poll.account poll.kind)) := by
  rw [poll_list h]
  by_cases hknows : poller.Knows poll.account poll.kind
  · rw [if_neg (not_not.mpr hknows), if_neg (not_not.mpr hknows), List.map_map]
    exact List.map_id _
  · rw [if_pos hknows, if_pos hknows]
    rfl

/-- The poll of a cycle that gets this answer. -/
def cyclePoll (answers : String → Kind → Fetch) (account : String) (kind : Kind) : Poll :=
  ⟨account, kind, answers account kind, fun _ => ⟨none, none⟩⟩

theorem entitiesOf_pollAll_none {targets : List (String × Kind)} (h : (account, kind) ∉ targets) :
    entitiesOf (poller.pollAll texts answers targets).2 account kind = [] := by
  induction targets generalizing poller with
  | nil => rfl
  | cons target rest ih =>
      rw [List.mem_cons, not_or] at h
      have hne : ¬ (target.1 = account ∧ target.2 = kind) := fun heq =>
        h.1 (Prod.ext heq.1.symm heq.2.symm)
      rw [Poller.pollAll, entitiesOf, List.flatMap_cons, if_neg hne, List.nil_append]
      exact ih h.2

/-- What a cycle emits for a kind that it polls once: the polls before it change nothing of what it
compares with. -/
theorem entitiesOf_pollAll {targets : List (String × Kind)} (hnodup : targets.Nodup)
    (hmem : (account, kind) ∈ targets) (hlist : (cyclePoll answers account kind).list = some items) :
    entitiesOf (poller.pollAll texts answers targets).2 account kind =
      if ¬ poller.Knows account kind then [] else
        items.filter (differs texts kind (poller.current account kind)) := by
  induction targets generalizing poller with
  | nil => cases hmem
  | cons target rest ih =>
      obtain ⟨hfresh, hrest⟩ := List.nodup_cons.mp hnodup
      rw [Poller.pollAll, entitiesOf, List.flatMap_cons]
      have hpoll : poller.poll texts (cyclePoll answers target.1 target.2) =
          poller.pollList texts target.1 target.2 target.2.event (answers target.1 target.2) :=
        Poller.poll_eq poller (cyclePoll answers target.1 target.2)
      by_cases heq : target = (account, kind)
      · subst heq
        have hlater : entitiesOf ((poller.pollList texts account kind kind.event
            (answers account kind)).1.pollAll texts answers rest).2 account kind = [] :=
          entitiesOf_pollAll_none hfresh
        unfold entitiesOf at hlater
        simp only [and_self, if_true, hlater, List.append_nil]
        show (poller.pollList texts account kind kind.event (answers account kind)).2.map _ = _
        have hemitted : (poller.pollList texts account kind kind.event (answers account kind)).2 =
            (poller.poll texts (cyclePoll answers account kind)).2 := congrArg Prod.snd hpoll.symm
        rw [hemitted]
        exact entities_of_list hlist
      · have hne : ¬ (target.1 = account ∧ target.2 = kind) := fun h => heq (Prod.ext h.1 h.2)
        rw [if_neg hne, List.nil_append]
        have hother := current_poll texts poller (cyclePoll answers target.1 target.2) account kind
        rw [hpoll] at hother
        rcases hother with ⟨haccount, hkind, -⟩ | ⟨-, hcurrent, hknows⟩
        · exact absurd ⟨haccount, hkind⟩ hne
        · rw [← hcurrent]
          refine (ih hrest ((List.mem_cons.mp hmem).resolve_left (Ne.symm heq))).trans ?_
          exact if_congr (not_congr hknows) rfl rfl

theorem entitiesOf_pollCycle {default : Int} {now : Rat}
    (hnodup : (session.credentials.map Prod.fst).Nodup) (hdue : account ∈ session.due default now)
    (hlist : (cyclePoll answers account kind).list = some items) :
    entitiesOf (session.pollCycle texts default now answers).2 account kind =
      if ¬ session.poller.Knows account kind then [] else
        items.filter (differs texts kind (session.poller.current account kind)) := by
  have hdueNodup : (session.due default now).Nodup :=
    hnodup.sublist (List.filter_sublist.map Prod.fst)
  refine entitiesOf_pollAll (nodup_targets hdueNodup) ?_ hlist
  refine List.mem_flatMap.mpr ⟨account, hdue, List.mem_map.mpr ⟨kind, ?_, rfl⟩⟩
  cases kind <;> decide

/-! ## After a reset -/

/-- A cycle emits one event for every entity of the list of a kind of an account. -/
def EmitsAll (polled : List Polled) (account : String) (kind : Kind) (items : List Value) : Prop :=
  entitiesOf polled account kind = items

/-- A poll has stored a snapshot of the kind, and every entity is new or differs from it. -/
def Session.AllDiffer (texts : Texts) (session : Session) (account : String) (kind : Kind)
    (items : List Value) : Prop :=
  session.poller.Knows account kind ∧
    ∀ item ∈ items, differs texts kind (session.poller.current account kind) item = true

/-- The session before a cycle after a reset. -/
def resetBetween (texts : Texts) (before later : List Act) : Session :=
  ((Session.start.run texts before).step texts .reset).run texts later

/-- **After a reset, the next due cycle emits one event for every entity of a list if and only if the list
is empty or every entity differs from a snapshot that has been stored since** the reset, by a poll that was
under way then. Without such a poll only an empty list gets all of its events. -/
theorem reset_emits_iff (texts : Texts) (default : Int) (before later : List Act) (now : Rat)
    (answers : String → Kind → Fetch) (account : String) (kind : Kind) (items : List Value)
    (hlater : ∀ act ∈ later, ¬ act.Succeeds account kind)
    (hdue : account ∈ (resetBetween texts before later).due default now)
    (hlist : (cyclePoll answers account kind).list = some items) :
    (EmitsAll ((resetBetween texts before later).pollCycle texts default now answers).2 account kind
        items ↔
      items = [] ∨ (resetBetween texts before later).AllDiffer texts account kind items) ∧
    ((∀ poll ∈ (Session.start.run texts before).unstored, ¬ (poll.account = account ∧ poll.kind = kind)) →
      ¬ (resetBetween texts before later).poller.Knows account kind) := by
  have hnodup : ((resetBetween texts before later).credentials.map Prod.fst).Nodup := by
    have h := nodup_credentials texts (before ++ .reset :: later)
    unfold Session.run at h
    rwa [List.foldl_append] at h
  constructor
  · rw [EmitsAll, entitiesOf_pollCycle hnodup hdue hlist]
    unfold Session.AllDiffer
    by_cases hknows : (resetBetween texts before later).poller.Knows account kind
    · rw [if_neg (not_not.mpr hknows), List.filter_eq_self]
      constructor
      · exact fun hall => .inr ⟨hknows, hall⟩
      · rintro (rfl | ⟨-, hall⟩)
        · exact fun _ hmem => by cases hmem
        · exact hall
    · rw [if_pos hknows]
      exact ⟨fun h => .inl h.symm, fun h => (h.resolve_right fun hall => hknows hall.1).symm⟩
  · intro hnone hknows
    rcases learns_of_run (.inl hknows) hlater with hreset | ⟨poll, hmem, hpoll⟩
    · cases hreset
    · exact hnone poll hmem hpoll

/-- A reset while a poll of an account is under way, which then stores its snapshot. Of the articles that are
listed next, one has changed since and one is new, and both are emitted. -/
theorem reset_emits_changed :
    let before : List Act := [.register "main" none, .scan (pollOf [article "WMS" .null 1] true)]
    let items := [article "WMS" .null 2, article "ERP" (.int 7) 3]
    let answers := fun _ kind =>
      if kind = Kind.article then Fetch.answered (.list items) 200 else Fetch.raised
    EmitsAll ((resetBetween pythonTexts before [.store 0]).pollCycle pythonTexts 120 1000 answers).2 "main"
      .article items :=
  (reset_emits_iff pythonTexts 120 _ [.store 0] 1000 _ "main" .article _
    (fun act hact => by
      obtain rfl := List.mem_singleton.mp hact
      rintro ⟨_, _, hscan, -⟩
      cases hscan)
    (by decide +kernel) rfl).1.mpr (.inr ⟨by decide +kernel, by decide +kernel⟩)

/-- After a reset of a poller that knows an article, the next cycle emits nothing although it lists it. -/
theorem reset_forgets_baseline :
    let poll := pollOf [article "WMS" .null 1] true
    let before : List Act := [.register "main" none, .scan poll, .store 0, .polled "main" 900]
    let answers := fun _ kind =>
      if kind = Kind.article then Fetch.answered (.list [article "WMS" .null 1]) 200 else Fetch.raised
    "main" ∈ (resetBetween pythonTexts before []).due 120 1000 ∧
      (cyclePoll answers "main" .article).list = some [article "WMS" .null 1] ∧
      ¬ EmitsAll ((resetBetween pythonTexts before []).pollCycle pythonTexts 120 1000 answers).2 "main"
        .article [article "WMS" .null 1] := by
  refine ⟨by decide +kernel, rfl, fun h => ?_⟩
  have hnone : (entitiesOf ((resetBetween pythonTexts [.register "main" none,
      .scan (pollOf [article "WMS" .null 1] true), .store 0, .polled "main" 900] []).pollCycle pythonTexts
        120 1000 fun _ kind => if kind = Kind.article then
          Fetch.answered (.list [article "WMS" .null 1]) 200 else Fetch.raised).2 "main" .article).length =
      0 := by
    decide +kernel
  rw [EmitsAll] at h
  rw [h] at hnone
  cases hnone

end Wms

end IntegrationPlatform
