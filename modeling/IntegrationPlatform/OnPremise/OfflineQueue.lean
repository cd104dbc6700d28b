import IntegrationPlatform.Json.Value
import IntegrationPlatform.Transactions.Histories
import Mathlib.Data.List.Basic

/-!
# The offline queue of the agent

`OfflineQueue` keeps what the agent has not sent to the platform yet, and `_flush_queue` sends it.
A send that fails counts as an attempt, also when the platform cannot be reached. `resilient_iff`
says how long an outage may last without anything being lost.
-/

namespace IntegrationPlatform

namespace OnPremise

/-! ## The queue -/

/-- `status` of a row. -/
inductive Status where
  | pending
  | processed
  | deadLetter
  deriving DecidableEq

/-- What is queued. -/
structure Entry where
  entityType : String
  operation : String
  payload : Value

/-- A row of `outbound_queue`. -/
structure QueueItem where
  id : Nat
  entry : Entry
  status : Status := .pending
  attempts : Nat := 0
  maxAttempts : Nat := 5
  error : Option String := none

namespace QueueItem

/-- `get_pending` returns the row. -/
def due (item : QueueItem) : Bool :=
  item.status = .pending && decide (item.attempts < item.maxAttempts)

/-- The row after `mark_processed`. -/
def processed (item : QueueItem) : QueueItem :=
  { item with status := .processed }

/-- The row after `mark_failed`. -/
def failed (error : String) (item : QueueItem) : QueueItem :=
  { item with
    attempts := item.attempts + 1
    error := some error
    status := if item.maxAttempts ≤ item.attempts + 1 then .deadLetter else .pending }

end QueueItem

/-- The table, whose rows have increasing ids. -/
structure OfflineQueue where
  items : List QueueItem
  nextId : Nat
  ordered : items.Pairwise (fun first second => first.id < second.id)
  below : ∀ item ∈ items, item.id < nextId

namespace OfflineQueue

variable (queue : OfflineQueue)

/-- The empty table. -/
def empty : OfflineQueue where
  items := []
  nextId := 1
  ordered := .nil
  below item hitem := by cases hitem

def enqueue (entry : Entry) : OfflineQueue where
  items := queue.items ++ [{ id := queue.nextId, entry }]
  nextId := queue.nextId + 1
  ordered := by
    refine List.pairwise_append.mpr ⟨queue.ordered, List.pairwise_singleton _ _, ?_⟩
    intro item hitem new hnew
    rw [List.mem_singleton.mp hnew]
    exact queue.below item hitem
  below item hitem := by
    rcases List.mem_append.mp hitem with hitem | hitem
    · exact Nat.lt_succ_of_lt (queue.below item hitem)
    · rw [List.mem_singleton.mp hitem]
      exact Nat.lt_succ_self _

/-- An `UPDATE` of the row with this id, which keeps the id. -/
def update (id : Nat) (change : QueueItem → QueueItem) (hid : ∀ item, (change item).id = item.id) :
    OfflineQueue where
  items := queue.items.map fun item => if item.id = id then change item else item
  nextId := queue.nextId
  ordered := by
    refine List.pairwise_map.mpr (queue.ordered.imp ?_)
    intro first second hlt
    split <;> split <;> simpa only [hid] using hlt
  below item hitem := by
    obtain ⟨old, hold, rfl⟩ := List.mem_map.mp hitem
    split
    · rw [hid]
      exact queue.below old hold
    · exact queue.below old hold

def markProcessed (id : Nat) : OfflineQueue :=
  queue.update id .processed fun _ => rfl

def markFailed (id : Nat) (error : String) : OfflineQueue :=
  queue.update id (.failed error) fun _ => rfl

/-- The rows that are still to be sent. -/
def due : List QueueItem := queue.items.filter QueueItem.due

def getPending (limit : Nat) : List QueueItem := queue.due.take limit

end OfflineQueue

/-! ## Sync cycles -/

/-- What becomes of a `POST` to the platform. -/
inductive Reply where
  | response (statusCode : Nat) (text : String)
  | requestError (message : String)

/-- The queue, and the ids of the rows that the platform has accepted. -/
structure Agent where
  queue : OfflineQueue
  sent : List Nat

/-- A sync cycle: whether Nexo is connected, what the outbound syncs queue, and what becomes of the
rows that are sent. -/
structure Cycle where
  connected : Bool
  entries : List Entry
  reply : Nat → Reply

/-- The limit of `_flush_queue`. -/
def flushLimit : Nat := 50

namespace Agent

variable (agent : Agent)

/-- The rows are sent one after another. -/
def flushItems (reply : Nat → Reply) : List QueueItem → Agent → Agent
  | [], agent => agent
  | item :: rest, agent =>
      match reply item.id with
      | .response statusCode text =>
          if statusCode < 300 then
            flushItems reply rest
              ⟨agent.queue.markProcessed item.id, agent.sent ++ [item.id]⟩
          else
            flushItems reply rest
              { agent with
                queue := agent.queue.markFailed item.id
                  ("HTTP " ++ toString statusCode ++ ": " ++ String.ofList (slice text.toList 200)) }
      -- The loop ends, and the other rows have no attempt.
      | .requestError message => { agent with queue := agent.queue.markFailed item.id message }

/-- `_flush_queue`, of an agent that has a platform. -/
def flushQueue (reply : Nat → Reply) : Agent :=
  flushItems reply (agent.queue.getPending flushLimit) agent

/-- The outbound syncs queue their entries. -/
def enqueueAll (entries : List Entry) : Agent :=
  { agent with queue := entries.foldl OfflineQueue.enqueue agent.queue }

def runSyncCycle (cycle : Cycle) : Agent :=
  if cycle.connected then (agent.enqueueAll cycle.entries).flushQueue cycle.reply else agent

/-- The ids of the rows that are still to be sent. -/
def pendingIds : List Nat := agent.queue.due.map QueueItem.id

end Agent

/-! ## Outages -/

/-- A cycle during an outage. -/
structure Offline where
  connected : Bool
  entries : List Entry
  error : Nat → String

/-- Every send fails with a connection error. -/
def Offline.cycle (offline : Offline) : Cycle where
  connected := offline.connected
  entries := offline.entries
  reply id := .requestError (offline.error id)

/-- A cycle while the platform can be reached. -/
structure Online where
  connected : Bool
  entries : List Entry
  statusCode : Nat → Fin 300
  text : Nat → String

/-- Every send is accepted. -/
def Online.cycle (online : Online) : Cycle where
  connected := online.connected
  entries := online.entries
  reply id := .response (online.statusCode id) (online.text id)

namespace Agent

variable (agent : Agent)

/-- The ids of the rows that a cycle adds. -/
def newIds (offline : Offline) : List Nat :=
  List.range' agent.queue.nextId (if offline.connected then offline.entries.length else 0)

/-- The agent after a cycle during an outage. -/
def offline (cycle : Offline) : Agent := agent.runSyncCycle cycle.cycle

/-- The agent after a cycle while the platform can be reached. -/
def online (cycle : Online) : Agent := agent.runSyncCycle cycle.cycle

/-- A cycle adds its rows to those that are still to be sent, and takes none away. -/
def Keeps (offline : Offline) : Prop :=
  (agent.offline offline).pendingIds = agent.pendingIds ++ agent.newIds offline

/-- The ids of the rows that an outage adds. -/
def queuedIds (agent : Agent) : List Offline → List Nat
  | [] => []
  | first :: rest => agent.newIds first ++ queuedIds (agent.offline first) rest

/-- Nothing is lost in an outage, and after it everything is sent. -/
structure Resilient (outage : List Offline) : Prop where
  kept : Along Agent.offline Agent.Keeps agent outage
  sent : ∃ enough, ∀ later : List Online, enough ≤ later.countP Online.connected →
    ∀ id ∈ agent.pendingIds ++ agent.queuedIds outage,
      id ∈ (later.foldl Agent.online (outage.foldl Agent.offline agent)).sent

/-- The outage has fewer cycles that find a row than the first row has attempts left. -/
def Spared (agent : Agent) (outage : List Offline) : Prop :=
  match agent.queue.due with
  | head :: _ => outage.countP Offline.connected + head.attempts < head.maxAttempts
  -- The first row is the first one that is queued in the outage, with the default of five attempts.
  | [] =>
      (outage.dropWhile fun offline => !(offline.connected && !offline.entries.isEmpty)).countP
        Offline.connected < 5

end Agent

/-! ## Rows that are still to be sent -/

/-- The rows of these entries. -/
def freshItems (nextId : Nat) : List Entry → List QueueItem
  | [] => []
  | entry :: rest => { id := nextId, entry } :: freshItems (nextId + 1) rest

theorem map_id_freshItems (nextId : Nat) (entries : List Entry) :
    (freshItems nextId entries).map QueueItem.id = List.range' nextId entries.length := by
  induction entries generalizing nextId with
  | nil => rfl
  | cons entry rest ih =>
      show nextId :: (freshItems (nextId + 1) rest).map QueueItem.id = _
      rw [ih, List.length_cons, List.range'_succ]

variable {queue : OfflineQueue} {agent : Agent} {head : QueueItem} {rest : List QueueItem}

theorem enqueue_due (entry : Entry) :
    (queue.enqueue entry).due = queue.due ++ [{ id := queue.nextId, entry }] := by
  show List.filter QueueItem.due (queue.items ++ _) = _
  rw [List.filter_append]
  rfl

theorem enqueueAll_due (agent : Agent) (entries : List Entry) :
    (agent.enqueueAll entries).queue.due =
        agent.queue.due ++ freshItems agent.queue.nextId entries ∧
      (agent.enqueueAll entries).queue.nextId = agent.queue.nextId + entries.length := by
  induction entries generalizing agent with
  | nil => exact ⟨(List.append_nil _).symm, rfl⟩
  | cons entry rest ih =>
      obtain ⟨hdue, hnext⟩ := ih { agent with queue := agent.queue.enqueue entry }
      refine ⟨hdue.trans ?_, hnext.trans ?_⟩
      · rw [enqueue_due, List.append_assoc]
        rfl
      · show agent.queue.nextId + 1 + rest.length = _
        rw [List.length_cons]
        omega

theorem update_due (hdue : queue.due = head :: rest) (change : QueueItem → QueueItem)
    (hid : ∀ item, (change item).id = item.id) :
    (queue.update head.id change hid).due =
      if (change head).due then change head :: rest else rest := by
  obtain ⟨items, nextId, hordered, hbelow⟩ := queue
  show List.filter QueueItem.due (items.map _) = _
  have hdue' : items.filter QueueItem.due = head :: rest := hdue
  clear hdue hbelow
  induction items with
  | nil => cases hdue'
  | cons item items ih =>
      obtain ⟨hfirst, hitems⟩ := List.pairwise_cons.mp hordered
      by_cases hitem : item.due = true
      · -- This is the row. The others have other ids.
        rw [List.filter_cons_of_pos hitem] at hdue'
        obtain ⟨rfl, rfl⟩ := List.cons.inj hdue'
        have hothers : items.map (fun other => if other.id = item.id then change other else other) =
            items := by
          refine (List.map_congr_left fun other hother => ?_).trans (List.map_id _)
          exact if_neg (hfirst other hother).ne'
        rw [List.map_cons, if_pos rfl, hothers, List.filter_cons]
      · rw [List.filter_cons_of_neg hitem] at hdue'
        have hmem : head ∈ items := List.mem_of_mem_filter (hdue' ▸ List.mem_cons_self)
        rw [List.map_cons, if_neg (hfirst head hmem).ne, List.filter_cons_of_neg hitem]
        exact ih hitems hdue'

theorem markProcessed_due (hdue : queue.due = head :: rest) :
    (queue.markProcessed head.id).due = rest :=
  update_due hdue .processed _

theorem markFailed_due (hdue : queue.due = head :: rest) (error : String) :
    (queue.markFailed head.id error).due =
      if head.attempts + 1 < head.maxAttempts then head.failed error :: rest else rest := by
  refine (update_due hdue (.failed error) _).trans ?_
  by_cases hleft : head.attempts + 1 < head.maxAttempts
  · rw [if_pos hleft, if_pos]
    simp [QueueItem.due, QueueItem.failed, not_le.mpr hleft, hleft]
  · rw [if_neg hleft, if_neg]
    simp [QueueItem.due, QueueItem.failed, not_lt.mp hleft]

/-! ## Cycles of an outage -/

namespace Agent

variable {offline : Offline}

theorem offline_of_not_connected (h : offline.connected = false) : agent.offline offline = agent :=
  if_neg (by rw [show offline.cycle.connected = false from h]; exact Bool.false_ne_true)

theorem offline_of_connected (h : offline.connected = true) :
    agent.offline offline = (agent.enqueueAll offline.entries).flushQueue offline.cycle.reply :=
  if_pos h

theorem offline_due_nil (h : offline.connected = true)
    (hqueued : agent.queue.due ++ freshItems agent.queue.nextId offline.entries = []) :
    (agent.offline offline).queue.due = [] := by
  have hdue : (agent.enqueueAll offline.entries).queue.due = [] :=
    (enqueueAll_due _ offline.entries).1.trans hqueued
  rw [offline_of_connected h]
  unfold flushQueue OfflineQueue.getPending
  rw [hdue]
  exact hdue

theorem offline_due_cons (h : offline.connected = true)
    (hqueued : agent.queue.due ++ freshItems agent.queue.nextId offline.entries = head :: rest) :
    (agent.offline offline).queue.due =
      if head.attempts + 1 < head.maxAttempts then head.failed (offline.error head.id) :: rest
      else rest := by
  have hdue : (agent.enqueueAll offline.entries).queue.due = head :: rest :=
    (enqueueAll_due _ offline.entries).1.trans hqueued
  rw [offline_of_connected h]
  unfold flushQueue OfflineQueue.getPending
  rw [hdue]
  exact markFailed_due hdue _

theorem pendingIds_append_newIds (h : offline.connected = true) :
    agent.pendingIds ++ agent.newIds offline =
      (agent.queue.due ++ freshItems agent.queue.nextId offline.entries).map QueueItem.id := by
  unfold pendingIds newIds
  rw [List.map_append, map_id_freshItems, if_pos h]

theorem keeps_iff (h : offline.connected = true)
    (hqueued : agent.queue.due ++ freshItems agent.queue.nextId offline.entries = head :: rest) :
    agent.Keeps offline ↔ head.attempts + 1 < head.maxAttempts := by
  unfold Keeps
  rw [pendingIds_append_newIds h, hqueued]
  unfold pendingIds
  rw [offline_due_cons h hqueued]
  by_cases hleft : head.attempts + 1 < head.maxAttempts
  · rw [if_pos hleft]
    exact iff_of_true rfl hleft
  · rw [if_neg hleft]
    refine iff_of_false (fun heq => ?_) hleft
    have hlength := congrArg List.length heq
    simp only [List.length_map, List.length_cons] at hlength
    omega

theorem keeps_of_idle (h : offline.connected = false ∨
    agent.queue.due ++ freshItems agent.queue.nextId offline.entries = []) :
    agent.Keeps offline := by
  cases hconnected : offline.connected with
  | false =>
      unfold Keeps newIds
      rw [offline_of_not_connected hconnected, hconnected]
      exact (List.append_nil _).symm
  | true =>
      obtain hfalse | hqueued := h
      · rw [hconnected] at hfalse
        cases hfalse
      · unfold Keeps
        rw [pendingIds_append_newIds hconnected, hqueued]
        unfold pendingIds
        rw [offline_due_nil hconnected hqueued]

theorem queued_cases (agent : Agent) (entries : List Entry) :
    (∃ head rest tail, agent.queue.due = head :: rest ∧
        agent.queue.due ++ freshItems agent.queue.nextId entries = head :: tail) ∨
      agent.queue.due = [] ∧ (entries = [] ∨ ∃ head tail,
        freshItems agent.queue.nextId entries = head :: tail ∧
          head.attempts = 0 ∧ head.maxAttempts = 5) := by
  cases hdue : agent.queue.due with
  | cons head rest => exact .inl ⟨head, rest, _, rfl, rfl⟩
  | nil =>
      cases entries with
      | nil => exact .inr ⟨rfl, .inl rfl⟩
      | cons entry entries => exact .inr ⟨rfl, .inr ⟨_, _, rfl, rfl, rfl⟩⟩

theorem spared_of_due {error : String} {outage : List Offline}
    (hdue : agent.queue.due = head.failed error :: rest) :
    agent.Spared outage ↔
      outage.countP Offline.connected + (head.attempts + 1) < head.maxAttempts := by
  unfold Spared
  rw [hdue]
  rfl

theorem keeps_and_spared_iff (h : offline.connected = true)
    (hqueued : agent.queue.due ++ freshItems agent.queue.nextId offline.entries = head :: rest)
    (outage : List Offline) :
    agent.Keeps offline ∧ (agent.offline offline).Spared outage ↔
      outage.countP Offline.connected + 1 + head.attempts < head.maxAttempts := by
  rw [keeps_iff h hqueued]
  have hafter := offline_due_cons h hqueued
  constructor
  · rintro ⟨hleft, hrest⟩
    rw [if_pos hleft] at hafter
    have hbound := (spared_of_due hafter).mp hrest
    omega
  · intro hbound
    have hleft : head.attempts + 1 < head.maxAttempts := by omega
    rw [if_pos hleft] at hafter
    refine ⟨hleft, (spared_of_due hafter).mpr ?_⟩
    omega

theorem spared_nil (agent : Agent) : agent.Spared [] := by
  unfold Spared
  split
  · next head rest hdue =>
    have hmem : head ∈ agent.queue.due := by
      rw [hdue]
      exact List.mem_cons_self
    have hleft := (Bool.and_eq_true_iff.mp (List.mem_filter.mp hmem).2).2
    rw [List.countP_nil, Nat.zero_add]
    exact of_decide_eq_true hleft
  · decide

/-- Nothing is taken away in an outage if and only if it has fewer cycles that find a row than the
first row has attempts left. -/
theorem along_keeps_iff (agent : Agent) (outage : List Offline) :
    Along Agent.offline Agent.Keeps agent outage ↔ agent.Spared outage := by
  induction outage generalizing agent with
  | nil => exact iff_of_true trivial agent.spared_nil
  | cons offline outage ih =>
      show agent.Keeps offline ∧ Along Agent.offline Agent.Keeps (agent.offline offline) outage ↔ _
      rw [ih]
      cases hconnected : offline.connected with
      | false =>
          rw [offline_of_not_connected hconnected]
          refine (and_iff_right (keeps_of_idle (.inl hconnected))).trans ?_
          unfold Spared
          simp [hconnected]
      | true =>
          obtain ⟨head, rest, tail, hdue, hqueued⟩ | ⟨hdue, hentries | ⟨head, tail, hfresh, hattempts,
            hmax⟩⟩ := queued_cases agent offline.entries
          · rw [keeps_and_spared_iff hconnected hqueued]
            unfold Spared
            rw [hdue, List.countP_cons_of_pos hconnected]
          · -- Nothing is queued yet.
            have hqueued : agent.queue.due ++ freshItems agent.queue.nextId offline.entries = [] := by
              rw [hdue, hentries]
              rfl
            refine (and_iff_right (keeps_of_idle (.inr hqueued))).trans ?_
            unfold Spared
            rw [offline_due_nil hconnected hqueued, hdue]
            simp [hentries]
          · -- The first row is queued in this cycle.
            have hqueued : agent.queue.due ++ freshItems agent.queue.nextId offline.entries =
                head :: tail := by
              rw [hdue, hfresh]
              rfl
            have hentries : offline.entries.isEmpty = false := by
              cases hcase : offline.entries with
              | nil =>
                  rw [hcase] at hfresh
                  cases hfresh
              | cons entry entries => rfl
            rw [keeps_and_spared_iff hconnected hqueued, hattempts, hmax]
            unfold Spared
            rw [hdue]
            simp [hconnected, hentries]

theorem pendingIds_foldl_offline {outage : List Offline}
    (h : Along Agent.offline Agent.Keeps agent outage) :
    (outage.foldl Agent.offline agent).pendingIds = agent.pendingIds ++ agent.queuedIds outage := by
  induction outage generalizing agent with
  | nil => exact (List.append_nil _).symm
  | cons offline outage ih =>
      obtain ⟨hkeeps, hrest⟩ := h
      show (outage.foldl Agent.offline (agent.offline offline)).pendingIds = _
      rw [ih hrest, hkeeps, List.append_assoc]
      rfl

/-! ## Cycles after an outage -/

theorem flushItems_accepted {reply : Nat → Reply}
    (hreply : ∀ id, ∃ statusCode text, reply id = .response statusCode text ∧ statusCode < 300)
    {items later : List QueueItem} (hdue : agent.queue.due = items ++ later) :
    (flushItems reply items agent).queue.due = later ∧
      (flushItems reply items agent).sent = agent.sent ++ items.map QueueItem.id := by
  induction items generalizing agent with
  | nil => exact ⟨hdue, (List.append_nil _).symm⟩
  | cons item items ih =>
      obtain ⟨statusCode, text, hresponse, haccepted⟩ := hreply item.id
      have hstep : flushItems reply (item :: items) agent =
          flushItems reply items
            ⟨agent.queue.markProcessed item.id, agent.sent ++ [item.id]⟩ := by
        rw [flushItems, hresponse]
        exact if_pos haccepted
      obtain ⟨hdue', hsent⟩ := @ih ⟨agent.queue.markProcessed item.id, agent.sent ++ [item.id]⟩
        (markProcessed_due hdue)
      rw [hstep]
      refine ⟨hdue', hsent.trans ?_⟩
      rw [List.map_cons, List.append_assoc]
      rfl

theorem online_pendingIds (agent : Agent) {online : Online} (h : online.connected = true) :
    ∃ new, (agent.online online).pendingIds = (agent.pendingIds ++ new).drop flushLimit ∧
      (agent.online online).sent = agent.sent ++ (agent.pendingIds ++ new).take flushLimit := by
  have hdue := (enqueueAll_due agent online.entries).1
  have hreply : ∀ id, ∃ statusCode text,
      online.cycle.reply id = .response statusCode text ∧ statusCode < 300 :=
    fun id => ⟨online.statusCode id, online.text id, rfl, (online.statusCode id).isLt⟩
  obtain ⟨hafter, hsent⟩ := flushItems_accepted hreply
    (List.take_append_drop flushLimit (agent.enqueueAll online.entries).queue.due).symm
  have hcycle : agent.online online =
      flushItems online.cycle.reply
        ((agent.enqueueAll online.entries).queue.due.take flushLimit)
        (agent.enqueueAll online.entries) := if_pos h
  refine ⟨(freshItems agent.queue.nextId online.entries).map QueueItem.id, ?_, ?_⟩
  · unfold pendingIds
    rw [hcycle, hafter, hdue, ← List.map_append, List.map_drop]
  · rw [hcycle, hsent, hdue, List.map_take, List.map_append]
    rfl

theorem sent_subset_online (online : Online) : agent.sent ⊆ (agent.online online).sent := by
  cases h : online.connected with
  | false =>
      have hsame : agent.online online = agent :=
        if_neg (by rw [show online.cycle.connected = false from h]; exact Bool.false_ne_true)
      rw [hsame]
      exact List.Subset.refl _
  | true =>
      obtain ⟨new, -, hsent⟩ := online_pendingIds agent h
      rw [hsent]
      exact List.subset_append_left _ _

theorem sent_subset_foldl_online (later : List Online) :
    agent.sent ⊆ (later.foldl Agent.online agent).sent := by
  induction later generalizing agent with
  | nil => exact List.Subset.refl _
  | cons online later ih => exact List.Subset.trans (sent_subset_online online) ih

theorem sent_of_pending {wanted others : List Nat} {later : List Online}
    (hpending : agent.pendingIds = wanted ++ others)
    (henough : wanted.length ≤ flushLimit * later.countP Online.connected) :
    ∀ id ∈ wanted, id ∈ (later.foldl Agent.online agent).sent := by
  induction later generalizing agent wanted others with
  | nil =>
      rw [List.countP_nil, Nat.mul_zero, Nat.le_zero] at henough
      intro id hid
      rw [List.eq_nil_of_length_eq_zero henough] at hid
      cases hid
  | cons online later ih =>
      intro id hid
      cases hconnected : online.connected with
      | false =>
          have hsame : agent.online online = agent :=
            if_neg (by rw [show online.cycle.connected = false from hconnected]; exact Bool.false_ne_true)
          rw [List.countP_cons_of_neg (by rw [hconnected]; exact Bool.false_ne_true)] at henough
          show id ∈ (later.foldl Agent.online (agent.online online)).sent
          rw [hsame]
          exact ih hpending henough id hid
      | true =>
          rw [List.countP_cons_of_pos hconnected] at henough
          obtain ⟨new, hafter, hsent⟩ := online_pendingIds agent hconnected
          rw [hpending, List.append_assoc, List.drop_append] at hafter
          rw [hpending, List.append_assoc, List.take_append] at hsent
          show id ∈ (later.foldl Agent.online (agent.online online)).sent
          rw [← List.take_append_drop flushLimit wanted] at hid
          rcases List.mem_append.mp hid with hfirst | hlater
          · refine sent_subset_foldl_online later ?_
            rw [hsent]
            exact List.mem_append_right _ (List.mem_append_left _ hfirst)
          · refine ih hafter ?_ id hlater
            rw [List.length_drop]
            have hmul : flushLimit * (later.countP Online.connected + 1) =
                flushLimit * later.countP Online.connected + flushLimit := Nat.mul_succ _ _
            omega

end Agent

/-- Nothing is lost in an outage, and everything is sent after it, if and only if the outage has fewer
sync cycles that find a row in the queue than the first row has attempts left. -/
theorem resilient_iff (agent : Agent) (outage : List Offline) :
    agent.Resilient outage ↔ agent.Spared outage := by
  rw [← agent.along_keeps_iff outage]
  constructor
  · exact Agent.Resilient.kept
  · intro hkept
    refine ⟨hkept, ((agent.pendingIds ++ agent.queuedIds outage).length), ?_⟩
    intro later henough
    have hpending := Agent.pendingIds_foldl_offline hkept
    rw [← List.append_nil (agent.pendingIds ++ agent.queuedIds outage)] at hpending
    refine Agent.sent_of_pending hpending (henough.trans ?_)
    exact Nat.le_mul_of_pos_left _ (by decide)

/-- An agent with one row. -/
def oneQueued : Agent :=
  ⟨OfflineQueue.empty.enqueue ⟨"stock", "full_sync", .null⟩, []⟩

/-- Five cycles without the platform. -/
def fiveCycles : List Offline := List.replicate 5 ⟨true, [], fun _ => "connection refused"⟩

/-- A row is lost in an outage of five cycles. -/
theorem dead_lettered : ¬ oneQueued.Resilient fiveCycles := by
  intro hresilient
  have hspared : 5 + 0 < 5 := (oneQueued.along_keeps_iff fiveCycles).mp hresilient.kept
  omega

end OnPremise

end IntegrationPlatform
