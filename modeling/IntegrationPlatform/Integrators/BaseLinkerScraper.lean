import IntegrationPlatform.Kafka.Publishing
import IntegrationPlatform.Transactions.Histories

/-!
# The order scraper of BaseLinker

A scrape reads the journal behind its cursor, collects the object ids of the entries, and publishes the
orders with these ids among the orders that one call returns. Then it moves the cursor to the last entry.
`complete_iff` says when the cursor never passes an entry whose order has not been published.
-/

namespace IntegrationPlatform

namespace BaseLinker

open Publishing

/-! ## The account and the scraper -/

structure Order where
  orderId : Nat
  confirmed : Bool

/-- An entry of the journal. A missing `object_id` is `none`. -/
structure Entry where
  logId : Nat
  orderId : Nat
  objectId : Option Nat
  deriving DecidableEq

/-- What a scrape has made of the journal when it asks for the orders. -/
structure Batch where
  orderIds : List Nat
  maxLogId : Nat

/-- The orders, oldest first, the journal and the entries that it does not list any more, the cursor in
memory and in `scraper_state`, the batch of a scrape that is under way, the entries that have been read,
and those whose order has been published since they were read. -/
structure State where
  orders : List Order
  journal : List Entry
  expired : Nat
  memory : Option Nat
  row : Option Nat
  pending : Option Batch
  read : List Entry
  covered : List Entry

/-- An account with an empty journal that has never been scraped. -/
def State.start : State := ⟨[], [], 0, none, none, none, [], []⟩

def State.lastLogId (state : State) : Nat :=
  state.memory.getD 0

/-- The order exists. -/
def State.HasOrder (state : State) (orderId : Nat) : Prop :=
  ∃ order ∈ state.orders, order.orderId = orderId

def getJournalList (state : State) (lastLogId : Nat) : List Entry :=
  state.journal.filter fun entry => lastLogId < entry.logId && state.expired < entry.logId

/-- The orders that a call of `getOrders` returns at most. -/
def ordersLimit : Nat := 100

/-- `getOrders`, without unconfirmed orders. -/
def getOrders (state : State) : List Order :=
  (state.orders.filter Order.confirmed).take ordersLimit

def orderIds (logs : List Entry) : List Nat :=
  (logs.map fun entry => entry.objectId.getD entry.orderId).filter (· ≠ 0)

def maxLogId (lastLogId : Nat) (logs : List Entry) : Nat :=
  logs.foldl (fun maxLogId entry => if entry.logId > maxLogId then entry.logId else maxLogId) lastLogId

/-- `_save_timestamp`, first in memory and then in the database. -/
def State.saveTimestamp (state : State) (logId : Nat) (stored : Bool) : State :=
  { state with memory := some logId, row := if stored then some logId else state.row }

/-- The state in which more orders have been published. -/
def State.publish (state : State) (accepted : List Order) : State :=
  { state with
    covered := state.read.filter (fun entry => entry.orderId ∈ accepted.map Order.orderId) ++
      state.covered }

/-- The orders of a batch among those that `getOrders` returns. -/
def State.found (state : State) (batch : Batch) : List Order :=
  (getOrders state).filter fun order => order.orderId ∈ batch.orderIds

/-- `_scrape_orders` up to the request for the orders. -/
def readJournal (state : State) (stored : Bool) : State :=
  let logs := getJournalList state state.lastLogId
  if logs.isEmpty then state
  else
    let after := { state with read := logs ++ state.read }
    if (orderIds logs).isEmpty then after.saveTimestamp (maxLogId state.lastLogId logs) stored
    else { after with pending := some ⟨orderIds logs, maxLogId state.lastLogId logs⟩ }

/-- `_scrape_orders` from the answer of `getOrders` on. -/
def publishOrders (state : State) (batch : Batch) (sends : Order → Outcome) (stored : Bool) : State :=
  let loop := publishAll sends (state.found batch)
  let after := { state.publish loop.1 with pending := none }
  if loop.2 then after.saveTimestamp batch.maxLogId stored else after

/-- What happens. The orders of the account change, an entry is written into the journal, or entries
expire. A scrape gets an answer for the journal, then answers for the statuses and the orders, or one of
these requests fails. The process is started again. -/
inductive Event where
  | account (orders : List Order)
  | log (entry : Entry)
  | expire (logId : Nat)
  | journal (stored : Bool)
  | orders (sends : Order → Outcome) (stored : Bool)
  | fail
  | restart

/-- One step. An order without which the journal already has entries is not created any more, and an
entry has a greater id than all others. -/
def step (state : State) : Event → State
  | .account orders =>
      if ∀ order ∈ orders, (∃ other ∈ state.orders, other.orderId = order.orderId) ∨
          ∀ entry ∈ state.journal, entry.orderId ≠ order.orderId then
        { state with orders }
      else state
  | .log entry =>
      if 0 < entry.logId ∧ ∀ other ∈ state.journal, other.logId < entry.logId then
        { state with journal := state.journal ++ [entry] }
      else state
  | .expire logId => { state with expired := logId }
  | .journal stored =>
      match state.pending with
      | none => readJournal state stored
      | some _ => state
  | .orders sends stored =>
      match state.pending with
      | none => state
      | some batch => publishOrders state batch sends stored
  | .fail => { state with pending := none }
  | .restart => { state with memory := state.row, pending := none }

/-! ## What is promised, and when it holds -/

/-- The order of every entry up to a saved cursor that still exists has been published since the entry
was read. -/
def Complete (state : State) : Prop :=
  ∀ cursor, state.memory = some cursor ∨ state.row = some cursor →
    ∀ entry ∈ state.journal, entry.logId ≤ cursor → state.HasOrder entry.orderId →
      entry ∈ state.covered

/-- The entries that a save of a cursor passes, and whose order still exists. -/
def State.Passes (state : State) (logId : Nat) (entry : Entry) : Prop :=
  entry ∈ state.journal ∧ state.lastLogId < entry.logId ∧ entry.logId ≤ logId ∧
    state.HasOrder entry.orderId

/-- Whenever a scrape saves the cursor, the order of each entry that it passes has been published by a
scrape that had read the entry, or the entry has been read, its order id is among the ids of the batch,
and the order is among those that are returned. -/
def Condition (state : State) : Event → Prop
  | .journal _ =>
      state.pending = none → orderIds (getJournalList state state.lastLogId) = [] →
        ∀ entry, state.Passes (maxLogId state.lastLogId (getJournalList state state.lastLogId)) entry →
          entry ∈ state.covered
  | .orders sends _ =>
      ∀ batch, state.pending = some batch →
        (∀ order ∈ state.found batch, sends order = .returned) →
        ∀ entry, state.Passes batch.maxLogId entry →
          entry ∈ state.covered ∨
            entry ∈ state.read ∧ entry.orderId ∈ batch.orderIds ∧
              ∃ order ∈ getOrders state, order.orderId = entry.orderId
  | _ => True

/-! ## Invariants -/

/-- A cursor that is not past the end of the journal. -/
def Reached (journal : List Entry) (logId : Nat) : Prop :=
  ∃ entry ∈ journal, logId ≤ entry.logId

/-- What holds in every reachable state: ids are not zero, and no cursor, saved or about to be saved, is
past the end of the journal. -/
structure Ordered (state : State) : Prop where
  pos : ∀ entry ∈ state.journal, 0 < entry.logId
  memory : ∀ cursor, state.memory = some cursor → Reached state.journal cursor
  row : ∀ cursor, state.row = some cursor → Reached state.journal cursor
  pending : ∀ batch, state.pending = some batch → Reached state.journal batch.maxLogId

section Steps

variable {state : State}

theorem maxLogId_mem (lastLogId : Nat) (logs : List Entry) :
    maxLogId lastLogId logs = lastLogId ∨
      ∃ entry ∈ logs, maxLogId lastLogId logs = entry.logId := by
  induction logs generalizing lastLogId with
  | nil => exact .inl rfl
  | cons entry rest ih =>
      unfold maxLogId at ih ⊢
      rw [List.foldl_cons]
      rcases ih (if entry.logId > lastLogId then entry.logId else lastLogId) with
        heq | ⟨other, hother, heq⟩
      · rw [heq]
        split
        · exact .inr ⟨entry, List.mem_cons_self, rfl⟩
        · exact .inl rfl
      · exact .inr ⟨other, List.mem_cons_of_mem _ hother, heq⟩

theorem reached_maxLogId
    (hlogs : (getJournalList state state.lastLogId).isEmpty = false) :
    Reached state.journal (maxLogId state.lastLogId (getJournalList state state.lastLogId)) := by
  rcases maxLogId_mem state.lastLogId (getJournalList state state.lastLogId) with
    heq | ⟨entry, hentry, heq⟩
  · rw [heq]
    obtain ⟨entry, hentry⟩ := List.isEmpty_eq_false_iff_exists_mem.mp hlogs
    obtain ⟨hmem, hnew⟩ := List.mem_filter.mp hentry
    refine ⟨entry, hmem, ?_⟩
    simp only [Bool.and_eq_true, decide_eq_true_eq] at hnew
    exact Nat.le_of_lt hnew.1
  · rw [heq]
    exact ⟨entry, (List.mem_filter.mp hentry).1, Nat.le_refl _⟩

theorem Ordered.saveTimestamp (h : Ordered state) {logId : Nat} (hlogId : Reached state.journal logId)
    (stored : Bool) : Ordered (state.saveTimestamp logId stored) := by
  refine ⟨h.pos, fun cursor hcursor => ?_, fun cursor hcursor => ?_, h.pending⟩
  · cases hcursor
    exact hlogId
  · unfold State.saveTimestamp at hcursor
    dsimp only at hcursor
    split at hcursor
    · cases hcursor
      exact hlogId
    · exact h.row cursor hcursor

theorem Ordered.readJournal (h : Ordered state) (stored : Bool) :
    Ordered (readJournal state stored) := by
  unfold BaseLinker.readJournal
  dsimp only
  split
  · exact h
  · next hlogs =>
    have hreached := reached_maxLogId (Bool.not_eq_true _ ▸ hlogs)
    have hread : Ordered { state with
        read := getJournalList state state.lastLogId ++ state.read } :=
      ⟨h.pos, h.memory, h.row, h.pending⟩
    split
    · exact hread.saveTimestamp hreached stored
    · refine ⟨h.pos, h.memory, h.row, fun batch hbatch => ?_⟩
      cases hbatch
      exact hreached

theorem Ordered.publishOrders (h : Ordered state) {batch : Batch} (hbatch : state.pending = some batch)
    (sends : Order → Outcome) (stored : Bool) : Ordered (publishOrders state batch sends stored) := by
  have hafter : Ordered { state.publish (publishAll sends (state.found batch)).1 with
      pending := none } := ⟨h.pos, h.memory, h.row, fun _ hnone => nomatch hnone⟩
  unfold BaseLinker.publishOrders
  dsimp only
  split
  · exact hafter.saveTimestamp (h.pending batch hbatch) stored
  · exact hafter

theorem Ordered.step (h : Ordered state) (event : Event) : Ordered (step state event) := by
  cases event with
  | account orders =>
      unfold BaseLinker.step
      dsimp only
      split
      · exact ⟨h.pos, h.memory, h.row, h.pending⟩
      · exact h
  | log entry =>
      unfold BaseLinker.step
      dsimp only
      split
      · next hentry =>
        have hmono : ∀ logId, Reached state.journal logId →
            Reached (state.journal ++ [entry]) logId := by
          rintro logId ⟨other, hother, hle⟩
          exact ⟨other, List.mem_append_left _ hother, hle⟩
        refine ⟨fun other hother => ?_, fun cursor hcursor => hmono _ (h.memory cursor hcursor),
          fun cursor hcursor => hmono _ (h.row cursor hcursor),
          fun batch hbatch => hmono _ (h.pending batch hbatch)⟩
        rcases List.mem_append.mp hother with hbefore | hnew
        · exact h.pos other hbefore
        · obtain rfl := List.mem_singleton.mp hnew
          exact hentry.1
      · exact h
  | expire logId => exact ⟨h.pos, h.memory, h.row, h.pending⟩
  | journal stored =>
      unfold BaseLinker.step
      dsimp only
      split
      · exact h.readJournal stored
      · exact h
  | orders sends stored =>
      unfold BaseLinker.step
      dsimp only
      split
      · exact h
      · next batch hbatch => exact h.publishOrders hbatch sends stored
  | fail => exact ⟨h.pos, h.memory, h.row, fun _ hnone => nomatch hnone⟩
  | restart => exact ⟨h.pos, h.row, h.row, fun _ hnone => nomatch hnone⟩

/-- A save of the cursor is complete if and only if the order of every entry that it passes has been
published. -/
theorem complete_saveTimestamp (h : Ordered state) (hcomplete : Complete state) {logId : Nat}
    (stored : Bool) :
    Complete (state.saveTimestamp logId stored) ↔
      ∀ entry, state.Passes logId entry → entry ∈ state.covered := by
  constructor
  · rintro hafter entry ⟨hentry, -, hle, horder⟩
    exact hafter logId (.inl rfl) entry hentry hle horder
  · intro hpasses cursor hcursor entry hentry hle horder
    -- The cursor is the one that is saved, or the row keeps an older one.
    have hcases : cursor = logId ∨ state.row = some cursor := by
      unfold State.saveTimestamp at hcursor
      rcases hcursor with hmemory | hrow
      · exact .inl (Option.some.inj hmemory).symm
      · dsimp only at hrow
        split at hrow
        · exact .inl (Option.some.inj hrow).symm
        · exact .inr hrow
    rcases hcases with rfl | hrow
    · by_cases hnew : state.lastLogId < entry.logId
      · exact hpasses entry ⟨hentry, hnew, hle, horder⟩
      · -- The entry was passed before.
        have hpos := h.pos entry hentry
        cases hmemory : state.memory with
        | none =>
            rw [State.lastLogId, hmemory] at hnew
            exact absurd hpos hnew
        | some before =>
            rw [State.lastLogId, hmemory] at hnew
            exact hcomplete before (.inl hmemory) entry hentry (Nat.le_of_not_lt hnew) horder
    · exact hcomplete cursor (.inr hrow) entry hentry hle horder

theorem mem_covered_publish {accepted : List Order} {entry : Entry} :
    entry ∈ (state.publish accepted).covered ↔
      entry ∈ state.covered ∨
        entry ∈ state.read ∧ ∃ order ∈ accepted, order.orderId = entry.orderId := by
  unfold State.publish
  dsimp only
  rw [List.mem_append, List.mem_filter, decide_eq_true_eq, List.mem_map]
  exact Or.comm

theorem exists_found {batch : Batch} {orderId : Nat} :
    (∃ order ∈ state.found batch, order.orderId = orderId) ↔
      orderId ∈ batch.orderIds ∧ ∃ order ∈ getOrders state, order.orderId = orderId := by
  unfold State.found
  constructor
  · rintro ⟨order, horder, rfl⟩
    obtain ⟨hmem, hid⟩ := List.mem_filter.mp horder
    exact ⟨of_decide_eq_true hid, order, hmem, rfl⟩
  · rintro ⟨hid, order, hmem, rfl⟩
    exact ⟨order, List.mem_filter.mpr ⟨hmem, decide_eq_true hid⟩, rfl⟩

theorem Complete.account (hcomplete : Complete state) {orders : List Order}
    (horders : ∀ order ∈ orders, (∃ other ∈ state.orders, other.orderId = order.orderId) ∨
      ∀ entry ∈ state.journal, entry.orderId ≠ order.orderId) :
    Complete { state with orders } := by
  rintro cursor hcursor entry hentry hle ⟨order, horder, heq⟩
  refine hcomplete cursor hcursor entry hentry hle ?_
  rcases horders order horder with ⟨other, hother, hsame⟩ | hnone
  · exact ⟨other, hother, hsame.trans heq⟩
  · exact absurd heq.symm (hnone entry hentry)

theorem Complete.log (hcomplete : Complete state) (h : Ordered state) {entry : Entry}
    (hentry : ∀ other ∈ state.journal, other.logId < entry.logId) :
    Complete { state with journal := state.journal ++ [entry] } := by
  intro cursor hcursor other hother hle horder
  rcases List.mem_append.mp hother with hbefore | hnew
  · exact hcomplete cursor hcursor other hbefore hle horder
  · obtain rfl := List.mem_singleton.mp hnew
    obtain ⟨last, hlast, hreached⟩ := hcursor.elim (h.memory cursor) (h.row cursor)
    have hlt := hentry last hlast
    omega

theorem complete_readJournal (h : Ordered state) (hcomplete : Complete state) (stored : Bool) :
    Complete (readJournal state stored) ↔
      (orderIds (getJournalList state state.lastLogId) = [] →
        ∀ entry, state.Passes (maxLogId state.lastLogId (getJournalList state state.lastLogId)) entry →
          entry ∈ state.covered) := by
  unfold readJournal
  dsimp only
  split
  · next hlogs =>
    refine iff_of_true hcomplete ?_
    rw [List.isEmpty_iff.mp hlogs]
    rintro - entry ⟨-, hnew, hle, -⟩
    exact absurd hle (Nat.not_le_of_lt hnew)
  · split
    · next hids =>
      have hread : Ordered { state with
          read := getJournalList state state.lastLogId ++ state.read } :=
        ⟨h.pos, h.memory, h.row, h.pending⟩
      refine (complete_saveTimestamp hread hcomplete stored).trans ?_
      exact ⟨fun hpasses _ => hpasses, fun hpasses => hpasses (List.isEmpty_iff.mp hids)⟩
    · next hids =>
      refine iff_of_true hcomplete fun hnil => ?_
      exact absurd (List.isEmpty_iff.mpr hnil) hids

/-- An answer of `getOrders` saves the cursor if no publication raises. -/
theorem complete_publishOrders (h : Ordered state) (hcomplete : Complete state) (batch : Batch)
    (sends : Order → Outcome) (stored : Bool) :
    Complete (publishOrders state batch sends stored) ↔
      ((∀ order ∈ state.found batch, sends order = .returned) →
        ∀ entry, state.Passes batch.maxLogId entry →
          entry ∈ state.covered ∨
            entry ∈ state.read ∧ entry.orderId ∈ batch.orderIds ∧
              ∃ order ∈ getOrders state, order.orderId = entry.orderId) := by
  have hordered : ∀ accepted, Ordered { state.publish accepted with pending := none } :=
    fun _ => ⟨h.pos, h.memory, h.row, fun _ hbatch => nomatch hbatch⟩
  have hpublished : ∀ accepted, Complete { state.publish accepted with pending := none } :=
    fun accepted cursor hcursor entry hentry hle horder =>
      mem_covered_publish.mpr (.inl (hcomplete cursor hcursor entry hentry hle horder))
  unfold publishOrders
  dsimp only
  split
  · next hends =>
    have hall := publishAll_ends_iff.mp hends
    refine (complete_saveTimestamp (hordered _) (hpublished _) stored).trans ?_
    rw [publishAll_of_ends hends]
    have hcovered : ∀ entry,
        entry ∈ (state.publish (state.found batch)).covered ↔
          entry ∈ state.covered ∨ entry ∈ state.read ∧ entry.orderId ∈ batch.orderIds ∧
            ∃ order ∈ getOrders state, order.orderId = entry.orderId := by
      intro entry
      rw [mem_covered_publish, exists_found]
    constructor
    · intro hpasses _ entry hentry
      exact (hcovered entry).mp (hpasses entry hentry)
    · intro hpasses entry hentry
      exact (hcovered entry).mpr (hpasses hall entry hentry)
  · next hraises =>
    refine iff_of_true (hpublished _) fun hall => ?_
    exact absurd (publishAll_ends_iff.mpr hall) hraises

theorem complete_step_iff (h : Ordered state) (hcomplete : Complete state) (event : Event) :
    Complete (step state event) ↔ Condition state event := by
  cases event with
  | account orders =>
      refine iff_of_true ?_ trivial
      unfold step
      dsimp only
      split
      · next horders => exact hcomplete.account horders
      · exact hcomplete
  | log entry =>
      refine iff_of_true ?_ trivial
      unfold step
      dsimp only
      split
      · next hentry => exact hcomplete.log h hentry.2
      · exact hcomplete
  | expire logId => exact iff_of_true hcomplete trivial
  | fail => exact iff_of_true hcomplete trivial
  | restart =>
      refine iff_of_true ?_ trivial
      intro cursor hcursor
      exact hcomplete cursor (.inr (hcursor.elim id id))
  | journal stored =>
      unfold step Condition
      cases hpending : state.pending with
      | some batch => exact iff_of_true hcomplete fun hnone => nomatch hnone
      | none =>
          refine (complete_readJournal h hcomplete stored).trans ?_
          exact ⟨fun hpasses _ => hpasses, fun hpasses => hpasses rfl⟩
  | orders sends stored =>
      unfold step Condition
      cases hpending : state.pending with
      | none => exact iff_of_true hcomplete fun batch hbatch => nomatch hbatch
      | some batch =>
          simp only [Option.some.injEq, forall_eq']
          exact complete_publishOrders h hcomplete batch sends stored

end Steps

/-! ## Runs -/

theorem ordered_start : Ordered .start :=
  ⟨fun _ hentry => absurd hentry List.not_mem_nil, fun _ hcursor => (nomatch hcursor),
    fun _ hcursor => (nomatch hcursor), fun _ hbatch => (nomatch hbatch)⟩

theorem complete_start : Complete .start :=
  fun _ hcursor => hcursor.elim (fun hmemory => (nomatch hmemory)) fun hrow => (nomatch hrow)

/-- Whatever happens to the account and whatever fails, after every step of a run the order of every
entry up to the cursor has been published if and only if all steps meet the condition. -/
theorem complete_iff (events : List Event) :
    Along step (fun state event => Complete (step state event)) .start events ↔
      Along step Condition .start events := by
  have hagree : ∀ state event, Ordered state ∧ Complete state →
      (Complete (step state event) ↔ Condition state event) :=
    fun state event hstate => complete_step_iff hstate.1 hstate.2 event
  have hkeep : ∀ state event, Ordered state ∧ Complete state → Complete (step state event) →
      Ordered (step state event) ∧ Complete (step state event) :=
    fun state event hstate hcomplete => ⟨hstate.1.step event, hcomplete⟩
  exact along_iff hagree hkeep ⟨ordered_start, complete_start⟩ events

/-- An order is edited, which leaves an entry with the object id 0, and the journal is read. -/
def edited : List Event :=
  [.account [⟨6911942, true⟩], .log ⟨456269, 6911942, some 0⟩, .journal true]

/-- The entry is passed, and its order has not been published. -/
theorem edited_not_complete :
    ¬ Along step (fun state event => Complete (step state event)) .start edited := by
  rintro ⟨-, -, hcomplete, -⟩
  have hcovered := hcomplete 456269 (.inl rfl) ⟨456269, 6911942, some 0⟩ (by decide) (by decide)
    ⟨⟨6911942, true⟩, List.mem_cons_self, rfl⟩
  exact absurd hcovered (by decide)

end BaseLinker

end IntegrationPlatform
