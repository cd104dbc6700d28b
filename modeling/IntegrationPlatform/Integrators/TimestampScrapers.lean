import Mathlib.Order.Basic
import IntegrationPlatform.Kafka.Publishing
import IntegrationPlatform.Stores.Versions
import IntegrationPlatform.Transactions.Unending

/-!
# The scrapers with a timestamp

The order scrapers of Amazon, WooCommerce and Apilo read one page of the orders that were updated at or
after a timestamp, publish them, and save the latest timestamp of the page. `orders_published` says when
no updated order is lost.
-/

namespace IntegrationPlatform

namespace TimestampScrapers

open Publishing Versions

/-! ## The scrapers -/

inductive Scraper where
  | amazon
  | wooCommerce (perPage : Nat)
  | apilo

/-- The number of orders that a page has at most. -/
def Scraper.limit : Scraper → Nat
  | .amazon => 100
  | .wooCommerce perPage => perPage
  | .apilo => 200

/-- The orders, the timestamp in memory and in the database, the timestamp of the first request, and what
has been published. -/
structure State where
  orders : List Item
  memory : Option Nat
  row : Option Nat
  first : Option Nat
  published : List Publication

/-- A shop without orders that has never been scraped. -/
def State.start : State := ⟨[], none, none, none, []⟩

/-- A poll that gets an answer: its time, the answer, the requests for line items that succeed, the
publications, and the write of the timestamp. -/
structure Poll where
  now : Nat
  answer : List Item
  items : Nat → Bool
  sends : Item → Outcome
  stored : Bool

/-- `default_lookback`, in seconds. -/
def lookback : Nat := 24 * 60 * 60

/-- The timestamp that a request is made with. -/
def State.lastUpdated (state : State) (now : Nat) : Nat :=
  state.memory.getD (now - lookback)

/-- The orders that were updated at or after a timestamp. -/
def updatedSince (orders : List Item) (lastUpdated : Nat) : List Item :=
  orders.filter fun order => lastUpdated ≤ order.time

/-- What may be answered to a request. Apilo sorts the orders by their update. -/
def IsPage (scraper : Scraper) (orders answer : List Item) : Prop :=
  answer.Nodup ∧ (∀ order ∈ answer, order ∈ orders) ∧
    answer.length = min scraper.limit orders.length ∧
    match scraper with
    | .apilo => answer.Pairwise (fun order next => order.time ≤ next.time) ∧
        ∀ order ∈ orders, order ∉ answer → ∀ other ∈ answer, other.time ≤ order.time
    | _ => True

instance (scraper : Scraper) (orders answer : List Item) : Decidable (IsPage scraper orders answer) := by
  unfold IsPage
  cases scraper <;> infer_instance

/-- An order is published with its line items. Amazon needs another request for them. -/
def Scraper.complete (scraper : Scraper) (items : Nat → Bool) (order : Item) : Bool :=
  match scraper with
  | .amazon => items order.id
  | _ => true

/-- `latest_update` of Amazon and Apilo. -/
def latestUpdate (lastUpdated : Nat) (orders : List Item) : Nat :=
  orders.foldl (fun latest order => if order.time > latest then order.time else latest) lastUpdated

/-- `newest_modified` of WooCommerce. -/
def newestModified (orders : List Item) : Option Nat :=
  orders.foldl (fun newest order => if newest.all (· < order.time) then some order.time else newest) none

/-- The timestamp that is saved. -/
def Scraper.newTimestamp (scraper : Scraper) (lastUpdated : Nat) (orders : List Item) : Option Nat :=
  match scraper with
  | .wooCommerce _ => newestModified orders
  | _ => some (latestUpdate lastUpdated orders)

/-- The save of a timestamp. WooCommerce has it in its database only, the others move it in memory
first. -/
def Scraper.saveTimestamp (scraper : Scraper) (state : State) (time : Nat) (stored : Bool) : State :=
  match scraper with
  | .wooCommerce _ => if stored then { state with memory := some time, row := some time } else state
  | _ => { state with memory := some time, row := if stored then some time else state.row }

/-- The state in which a request has been made. -/
def State.asked (state : State) (now : Nat) : State :=
  { state with first := some (state.first.getD (state.lastUpdated now)) }

/-- The state in which more orders have been published. -/
def State.publish (state : State) (complete : Item → Bool) (accepted : List Item) : State :=
  { state with
    published := accepted.map (fun order => ⟨order.id, order.version, complete order⟩) ++
      state.published }

def scrapeOrders (scraper : Scraper) (state : State) (poll : Poll) : State :=
  let lastUpdated := state.lastUpdated poll.now
  let asked := state.asked poll.now
  if IsPage scraper (updatedSince state.orders lastUpdated) poll.answer then
    let loop := publishAll poll.sends poll.answer
    let after := asked.publish (scraper.complete poll.items) loop.1
    if loop.2 && !poll.answer.isEmpty then
      match scraper.newTimestamp lastUpdated poll.answer with
      | none => after
      | some time => scraper.saveTimestamp after time poll.stored
    else after
  else asked

/-- What happens: an order is created or updated, a poll gets its answer, or its request fails, or the
process is started again. -/
inductive Event where
  | change (id time : Nat)
  | poll (poll : Poll)
  | requestFails (now : Nat)
  | restart

/-- One step. An order is not updated at an earlier time than another one before. -/
def step (scraper : Scraper) (state : State) : Event → State
  | .change id time =>
      if ∀ order ∈ state.orders, order.time ≤ time then
        { state with orders := change state.orders id time }
      else state
  | .poll poll => scrapeOrders scraper state poll
  | .requestFails now => state.asked now
  | .restart => { state with memory := state.row }

/-! ## What is promised, and when it holds -/

/-- The state before the step with this number. -/
def after (scraper : Scraper) (events : Nat → Event) (number : Nat) : State :=
  stateAt (step scraper) .start events number

/-- An order was updated at or after the first timestamp. -/
def State.Due (state : State) (order : Item) : Prop :=
  ∃ first, state.first = some first ∧ first ≤ order.time

/-- Every order that is updated at or after the first timestamp is published with its line items, in that
state or in a newer one. -/
def Published (scraper : Scraper) (events : Nat → Event) : Prop :=
  ∀ number, ∀ order ∈ (after scraper events number).orders, (after scraper events number).Due order →
    ∃ later, Covered (after scraper events later).published order.id order.version

/-- The newest state of an order is due and has not been published with its line items. -/
def State.Owed (state : State) (order : Item) : Prop :=
  state.Due order ∧ ¬ Covered state.published order.id order.version

/-- A poll leaves out an order, or publishes it without its line items. -/
def Scraper.LeavesOut (scraper : Scraper) (poll : Poll) (order : Item) : Prop :=
  ¬ (order ∈ poll.answer ∧ scraper.complete poll.items order = true)

/-- As long as no timestamp is saved, no poll begins to look after an unpublished update. When Amazon or
WooCommerce gets through a page, each unpublished order that the poll leaves out was not updated before
any order of the page. -/
def Condition (scraper : Scraper) (state : State) : Event → Prop
  | .poll poll =>
      IsPage scraper (updatedSince state.orders (state.lastUpdated poll.now)) poll.answer →
        (state.memory = none → ∀ order ∈ state.orders, (state.asked poll.now).Owed order →
          poll.now - lookback ≤ order.time) ∧
        match scraper with
        | .apilo => True
        | _ => (∀ order ∈ poll.answer, poll.sends order = .returned) →
            ∀ order ∈ state.orders, (state.asked poll.now).Owed order →
              scraper.LeavesOut poll order → ∀ other ∈ poll.answer, other.time ≤ order.time
  | _ => True

/-- A poll succeeds. -/
def Succeeds (scraper : Scraper) (state : State) (poll : Poll) : Prop :=
  IsPage scraper (updatedSince state.orders (state.lastUpdated poll.now)) poll.answer ∧
    (∀ order ∈ poll.answer, poll.sends order = .returned) ∧ poll.stored = true

/-- A poll succeeds and does not leave out an order that was updated. -/
def Reaches (scraper : Scraper) (id : Nat) (state : State) (event : Event) : Prop :=
  ∃ poll, event = .poll poll ∧ Succeeds scraper state poll ∧
    ∀ order ∈ updatedSince state.orders (state.lastUpdated poll.now), order.id = id →
      (state.asked poll.now).Owed order → ¬ scraper.LeavesOut poll order

/-- A poll succeeds, and it does not leave out an order that was updated, or it moves the timestamp. -/
def Advances (scraper : Scraper) (id : Nat) (state : State) (event : Event) : Prop :=
  Reaches scraper id state event ∨
    ∃ poll, event = .poll poll ∧ Succeeds scraper state poll ∧
      ∃ order ∈ poll.answer, ∀ lastUpdated, state.memory = some lastUpdated → lastUpdated < order.time

/-- From some step on an order is not updated any more. -/
def Settles (id : Nat) (events : Nat → Event) : Prop :=
  ∃ start, ∀ number, start ≤ number → ∀ time, events number ≠ .change id time

/-! ## The timestamp of a page -/

section Timestamps

variable {scraper : Scraper} {orders : List Item} {lastUpdated : Nat}

theorem latestUpdate_spec (lastUpdated : Nat) (orders : List Item) :
    lastUpdated ≤ latestUpdate lastUpdated orders ∧
      (∀ order ∈ orders, order.time ≤ latestUpdate lastUpdated orders) ∧
      (latestUpdate lastUpdated orders = lastUpdated ∨
        ∃ order ∈ orders, latestUpdate lastUpdated orders = order.time) := by
  unfold latestUpdate
  induction orders generalizing lastUpdated with
  | nil => exact ⟨le_rfl, fun _ horder => absurd horder List.not_mem_nil, .inl rfl⟩
  | cons order rest ih =>
      rw [List.foldl_cons]
      obtain ⟨hfirst, hrest, hmem⟩ := ih (if order.time > lastUpdated then order.time else lastUpdated)
      refine ⟨?_, List.forall_mem_cons.mpr ⟨?_, hrest⟩, ?_⟩
      · refine Nat.le_trans ?_ hfirst
        split <;> omega
      · refine Nat.le_trans ?_ hfirst
        split <;> omega
      · rcases hmem with heq | ⟨other, hother, heq⟩
        · rw [heq]
          split
          · exact .inr ⟨order, List.mem_cons_self, rfl⟩
          · exact .inl rfl
        · exact .inr ⟨other, List.mem_cons_of_mem _ hother, heq⟩

theorem newestModified_cons (order : Item) (rest : List Item) :
    newestModified (order :: rest) = some (latestUpdate order.time rest) := by
  unfold newestModified latestUpdate
  rw [List.foldl_cons]
  simp only [Option.all_none, if_true]
  generalize order.time = newest
  induction rest generalizing newest with
  | nil => rfl
  | cons next rest ih =>
      rw [List.foldl_cons, List.foldl_cons]
      by_cases hlt : newest < next.time
      · simp only [Option.all_some, hlt, decide_true, if_true, gt_iff_lt]
        exact ih next.time
      · simp only [Option.all_some, hlt, decide_false, Bool.false_eq_true, if_false, gt_iff_lt]
        exact ih newest

theorem newTimestamp_spec (scraper : Scraper) (hne : orders ≠ [])
    (hsince : ∀ order ∈ orders, lastUpdated ≤ order.time) :
    ∃ time, scraper.newTimestamp lastUpdated orders = some time ∧
      (∃ order ∈ orders, time = order.time) ∧ ∀ order ∈ orders, order.time ≤ time := by
  obtain ⟨order, rest, rfl⟩ := List.exists_cons_of_ne_nil hne
  have hlatest : ∃ time, some (latestUpdate lastUpdated (order :: rest)) = some time ∧
      (∃ other ∈ order :: rest, time = other.time) ∧ ∀ other ∈ order :: rest, other.time ≤ time := by
    obtain ⟨hfirst, hall, hmem⟩ := latestUpdate_spec lastUpdated (order :: rest)
    refine ⟨_, rfl, ?_, hall⟩
    rcases hmem with heq | ⟨other, hother, heq⟩
    · have hle := hall order List.mem_cons_self
      have hge := hsince order List.mem_cons_self
      exact ⟨order, List.mem_cons_self, by omega⟩
    · exact ⟨other, hother, heq⟩
  cases scraper with
  | amazon => exact hlatest
  | apilo => exact hlatest
  | wooCommerce perPage =>
      unfold Scraper.newTimestamp
      dsimp only
      rw [newestModified_cons]
      obtain ⟨hfirst, hall, hmem⟩ := latestUpdate_spec order.time rest
      refine ⟨_, rfl, ?_, List.forall_mem_cons.mpr ⟨hfirst, hall⟩⟩
      rcases hmem with heq | ⟨other, hother, heq⟩
      · exact ⟨order, List.mem_cons_self, heq⟩
      · exact ⟨other, List.mem_cons_of_mem _ hother, heq⟩

end Timestamps

/-! ## A poll -/

section Polls

variable {scraper : Scraper} {state : State} {poll : Poll} {order : Item}

theorem published_subset_publish (state : State) (complete : Item → Bool) (accepted : List Item) :
    state.published ⊆ (state.publish complete accepted).published :=
  List.subset_append_right _ _

theorem covered_publish (h : ¬ scraper.LeavesOut poll order) :
    Covered ((state.asked poll.now).publish (scraper.complete poll.items) poll.answer).published
      order.id order.version := by
  obtain ⟨hmem, hcomplete⟩ := not_not.mp h
  exact covered_of_mem hmem hcomplete state.published

theorem saveTimestamp_cases (scraper : Scraper) (state : State) (time : Nat) (stored : Bool) :
    scraper.saveTimestamp state time stored = state ∧ stored = false ∨
      ∃ row, (row = some time ∨ row = state.row ∧ stored = false) ∧
        scraper.saveTimestamp state time stored = { state with memory := some time, row } := by
  cases stored with
  | true => exact .inr ⟨some time, .inl rfl, by cases scraper <;> rfl⟩
  | false =>
      cases scraper with
      | wooCommerce perPage => exact .inl ⟨rfl, rfl⟩
      | amazon => exact .inr ⟨state.row, .inr ⟨rfl, rfl⟩, rfl⟩
      | apilo => exact .inr ⟨state.row, .inr ⟨rfl, rfl⟩, rfl⟩

theorem scrapeOrders_through
    (hpage : IsPage scraper (updatedSince state.orders (state.lastUpdated poll.now)) poll.answer)
    (hsends : ∀ order ∈ poll.answer, poll.sends order = .returned) (hne : poll.answer ≠ []) :
    ∃ time, (∃ order ∈ poll.answer, time = order.time) ∧
      (∀ order ∈ poll.answer, order.time ≤ time) ∧
      scrapeOrders scraper state poll =
        scraper.saveTimestamp ((state.asked poll.now).publish (scraper.complete poll.items) poll.answer)
          time poll.stored := by
  have hends := publishAll_ends_iff.mpr hsends
  have hsince : ∀ order ∈ poll.answer, state.lastUpdated poll.now ≤ order.time :=
    fun order horder => of_decide_eq_true (List.mem_filter.mp (hpage.2.1 order horder)).2
  obtain ⟨time, htime, hmem, hlatest⟩ := newTimestamp_spec scraper hne hsince
  refine ⟨time, hmem, hlatest, ?_⟩
  unfold scrapeOrders
  dsimp only
  rw [if_pos hpage, publishAll_of_ends hends, hends, List.isEmpty_eq_false_iff.mpr hne, htime]
  rfl

/-- A poll publishes some orders of its answer and leaves the timestamp alone, or it gets through a page
that is not empty and saves its latest timestamp. -/
theorem scrapeOrders_cases (scraper : Scraper) (state : State) (poll : Poll) :
    (∃ accepted, scrapeOrders scraper state poll =
        (state.asked poll.now).publish (scraper.complete poll.items) accepted) ∨
      ∃ time row,
        IsPage scraper (updatedSince state.orders (state.lastUpdated poll.now)) poll.answer ∧
        (∀ order ∈ poll.answer, poll.sends order = .returned) ∧
        (∃ order ∈ poll.answer, time = order.time) ∧ (∀ order ∈ poll.answer, order.time ≤ time) ∧
        (row = some time ∨ row = state.row) ∧
        scrapeOrders scraper state poll =
          { (state.asked poll.now).publish (scraper.complete poll.items) poll.answer with
            memory := some time, row } := by
  by_cases hpage : IsPage scraper (updatedSince state.orders (state.lastUpdated poll.now)) poll.answer
  · by_cases hsends : ∀ order ∈ poll.answer, poll.sends order = .returned
    · by_cases hne : poll.answer = []
      · left
        unfold scrapeOrders
        dsimp only
        rw [if_pos hpage, hne]
        exact ⟨[], rfl⟩
      · obtain ⟨time, hmem, hlatest, heq⟩ := scrapeOrders_through hpage hsends hne
        rw [heq]
        rcases saveTimestamp_cases scraper
            ((state.asked poll.now).publish (scraper.complete poll.items) poll.answer) time poll.stored
          with ⟨hsame, -⟩ | ⟨row, hrow, hsaved⟩
        · exact .inl ⟨poll.answer, hsame⟩
        · exact .inr ⟨time, row, hpage, hsends, hmem, hlatest, hrow.imp_right And.left, hsaved⟩
    · left
      unfold scrapeOrders
      dsimp only
      rw [if_pos hpage, Bool.eq_false_iff.mpr fun hends => hsends (publishAll_ends_iff.mp hends)]
      exact ⟨_, rfl⟩
  · left
    unfold scrapeOrders
    dsimp only
    rw [if_neg hpage]
    exact ⟨[], rfl⟩

end Polls

/-! ## What every step keeps -/

section Steps

variable {scraper : Scraper} {state : State} {order : Item}

/-- What holds in every state of a run that meets the condition: there is no timestamp before the first
request, the one in memory is not later than all orders, the stored one is not later than it, and an order
that is owed was not updated before it. -/
structure Kept (state : State) : Prop where
  first : state.first = none → state.memory = none
  memory : ∀ time, state.memory = some time → ∃ order ∈ state.orders, time ≤ order.time
  row : ∀ stored, state.row = some stored → ∃ time, state.memory = some time ∧ stored ≤ time
  reach : ∀ order ∈ state.orders, state.Owed order → ∀ time, state.memory = some time →
    time ≤ order.time

theorem due_asked (h : state.Due order) (now : Nat) : (state.asked now).Due order := by
  obtain ⟨first, hfirst, hle⟩ := h
  refine ⟨first, ?_, hle⟩
  unfold State.asked
  dsimp only
  rw [hfirst]
  rfl

theorem owed_of_asked {now : Nat} (h : (state.asked now).Owed order) :
    state.Owed order ∨ state.first = none := by
  cases hfirst : state.first with
  | none => exact .inr rfl
  | some first =>
      obtain ⟨⟨first', hfirst', hle⟩, huncovered⟩ := h
      unfold State.asked at hfirst'
      dsimp only at hfirst'
      rw [hfirst] at hfirst'
      cases hfirst'
      exact .inl ⟨⟨first, hfirst, hle⟩, huncovered⟩

theorem Kept.asked (h : Kept state) (now : Nat) : Kept (state.asked now) := by
  refine ⟨fun hnone => (nomatch hnone), h.memory, h.row, fun order horder howed time htime => ?_⟩
  rcases owed_of_asked howed with howed | hfirst
  · exact h.reach order horder howed time htime
  · cases (h.first hfirst).symm.trans htime

theorem Kept.publish (h : Kept state) (complete : Item → Bool) (accepted : List Item) :
    Kept (state.publish complete accepted) :=
  ⟨h.first, h.memory, h.row, fun order horder howed =>
    h.reach order horder ⟨howed.1, fun hcovered =>
      howed.2 (hcovered.mono (published_subset_publish state complete accepted))⟩⟩

theorem Kept.mem_updatedSince (h : Kept state) {now : Nat} (horder : order ∈ state.orders)
    (howed : (state.asked now).Owed order)
    (hlookback : state.memory = none → now - lookback ≤ order.time) :
    order ∈ updatedSince state.orders (state.lastUpdated now) := by
  refine List.mem_filter.mpr ⟨horder, decide_eq_true ?_⟩
  unfold State.lastUpdated
  cases hmemory : state.memory with
  | none =>
      rw [Option.getD_none]
      exact hlookback hmemory
  | some time =>
      rw [Option.getD_some]
      exact (h.asked now).reach order horder howed time hmemory

theorem Kept.poll (h : Kept state) {poll : Poll} (hkeeps : Condition scraper state (.poll poll)) :
    Kept (scrapeOrders scraper state poll) := by
  rcases scrapeOrders_cases scraper state poll with
    ⟨accepted, heq⟩ | ⟨time, row, hpage, hsends, ⟨newest, hnewest, rfl⟩, hlatest, hrow, heq⟩
  · rw [heq]
    exact (h.asked poll.now).publish _ accepted
  · rw [heq]
    have hsince : state.lastUpdated poll.now ≤ newest.time :=
      of_decide_eq_true (List.mem_filter.mp (hpage.2.1 newest hnewest)).2
    refine ⟨fun hnone => (nomatch hnone), ?_, ?_, ?_⟩
    · rintro time ⟨⟩
      exact ⟨newest, (List.mem_filter.mp (hpage.2.1 newest hnewest)).1, le_rfl⟩
    · intro stored hstored
      refine ⟨newest.time, rfl, ?_⟩
      dsimp only at hstored
      rcases hrow with rfl | rfl
      · exact (Option.some.inj hstored).symm.le
      · obtain ⟨before, hmemory, hle⟩ := h.row stored hstored
        unfold State.lastUpdated at hsince
        rw [hmemory] at hsince
        exact hle.trans hsince
    · rintro order horder ⟨hdue, huncovered⟩ time ⟨⟩
      have howed : (state.asked poll.now).Owed order := ⟨hdue, fun hcovered =>
        huncovered (hcovered.mono (published_subset_publish _ _ _))⟩
      have hleaves : scraper.LeavesOut poll order := fun hnot =>
        huncovered (covered_publish (not_not.mpr hnot))
      obtain ⟨hlookback, hleft⟩ := hkeeps hpage
      cases scraper with
      | amazon => exact hleft hsends order horder howed hleaves newest hnewest
      | wooCommerce perPage => exact hleft hsends order horder howed hleaves newest hnewest
      | apilo =>
          -- The page has the oldest orders.
          have hwindow := h.mem_updatedSince horder howed fun hnone => hlookback hnone order horder howed
          exact hpage.2.2.2.2 order hwindow (fun hmem => hleaves ⟨hmem, rfl⟩) newest hnewest

theorem Kept.restart (h : Kept state) : Kept { state with memory := state.row } := by
  refine ⟨fun hfirst => ?_, fun time hrow => ?_, fun stored hrow => ⟨stored, hrow, le_rfl⟩,
    fun order horder howed time hrow => ?_⟩
  · show state.row = none
    cases hrow : state.row with
    | none => rfl
    | some stored =>
        obtain ⟨time, hmemory, -⟩ := h.row stored hrow
        cases (h.first hfirst).symm.trans hmemory
  · obtain ⟨before, hmemory, hle⟩ := h.row time hrow
    obtain ⟨order, horder, hle'⟩ := h.memory before hmemory
    exact ⟨order, horder, hle.trans hle'⟩
  · obtain ⟨before, hmemory, hle⟩ := h.row time hrow
    exact hle.trans (h.reach order horder howed before hmemory)

theorem Kept.change (h : Kept state) {time : Nat} (hlast : ∀ order ∈ state.orders, order.time ≤ time)
    (id : Nat) : Kept { state with orders := change state.orders id time } := by
  refine ⟨h.first, fun before hmemory => ?_, h.row, fun order horder howed before hmemory => ?_⟩
  · obtain ⟨order, horder, hle⟩ := h.memory before hmemory
    by_cases hid : order.id = id
    · obtain ⟨changed, hchanged, hsame, -⟩ := Has.change ⟨order, horder, rfl, le_rfl⟩ id time
      refine ⟨changed, hchanged, ?_⟩
      rw [time_of_mem_change hchanged (hsame.trans hid)]
      exact hle.trans (hlast order horder)
    · exact ⟨order, mem_change_of_ne horder hid, hle⟩
  · rcases mem_of_mem_change horder with hbefore | ⟨-, htime⟩
    · exact h.reach order hbefore howed before hmemory
    · obtain ⟨other, hother, hle⟩ := h.memory before hmemory
      exact htime ▸ hle.trans (hlast other hother)

variable {event : Event}

theorem Kept.step (h : Kept state) (hkeeps : Condition scraper state event) :
    Kept (step scraper state event) := by
  cases event with
  | poll poll => exact h.poll hkeeps
  | requestFails now => exact h.asked now
  | restart => exact h.restart
  | change id time =>
      unfold TimestampScrapers.step
      dsimp only
      split
      · next hlast => exact h.change hlast id
      · exact h

/-! ## How far the timestamp is from an order -/

/-- How far the stored timestamp has to move. -/
def distance (time : Nat) (state : State) : Nat :=
  match state.row with
  | none => time + 1
  | some stored => time - stored

theorem due_step (h : state.Due order) (event : Event) : (step scraper state event).Due order := by
  cases event with
  | poll poll =>
      show (scrapeOrders scraper state poll).Due order
      rcases scrapeOrders_cases scraper state poll with
        ⟨accepted, heq⟩ | ⟨time, row, -, -, -, -, -, heq⟩
      · rw [heq]
        exact due_asked h poll.now
      · rw [heq]
        exact due_asked h poll.now
  | requestFails now => exact due_asked h now
  | restart => exact h
  | change id time =>
      unfold step
      dsimp only
      split
      · exact h
      · exact h

theorem mem_orders_step (h : order ∈ state.orders)
    (hevent : ∀ time, event ≠ .change order.id time) : order ∈ (step scraper state event).orders := by
  cases event with
  | poll poll =>
      show order ∈ (scrapeOrders scraper state poll).orders
      rcases scrapeOrders_cases scraper state poll with
        ⟨accepted, heq⟩ | ⟨time, row, -, -, -, -, -, heq⟩
      · rw [heq]
        exact h
      · rw [heq]
        exact h
  | requestFails now => exact h
  | restart => exact h
  | change id time =>
      unfold step
      dsimp only
      split
      · exact mem_change_of_ne h fun hid => hevent time (hid ▸ rfl)
      · exact h

theorem distance_step (h : Kept state) (hnext : Kept (step scraper state event))
    (horder : order ∈ (step scraper state event).orders)
    (howed : (step scraper state event).Owed order) :
    distance order.time (step scraper state event) ≤ distance order.time state := by
  cases event with
  | requestFails now => exact le_rfl
  | restart => exact le_rfl
  | change id time =>
      unfold step
      dsimp only
      split
      · exact le_rfl
      · exact le_rfl
  | poll poll =>
      change Kept (scrapeOrders scraper state poll) at hnext
      change order ∈ (scrapeOrders scraper state poll).orders at horder
      change (scrapeOrders scraper state poll).Owed order at howed
      show distance order.time (scrapeOrders scraper state poll) ≤ _
      rcases scrapeOrders_cases scraper state poll with
        ⟨accepted, heq⟩ | ⟨time, row, hpage, -, ⟨newest, hnewest, rfl⟩, -, hrow, heq⟩
      · rw [heq]
        exact le_rfl
      · rw [heq] at hnext horder howed ⊢
        have hle := hnext.reach order horder howed newest.time rfl
        rcases hrow with rfl | rfl
        · unfold distance
          dsimp only
          cases hstored : state.row with
          | none => dsimp only; omega
          | some stored =>
              obtain ⟨before, hmemory, hstored'⟩ := h.row stored hstored
              have hsince := of_decide_eq_true (List.mem_filter.mp (hpage.2.1 newest hnewest)).2
              unfold State.lastUpdated at hsince
              rw [hmemory, Option.getD_some] at hsince
              dsimp only
              omega
        · exact le_rfl

theorem covered_of_reaches (h : Kept state) (hkeeps : Condition scraper state event)
    (horder : order ∈ state.orders) (howed : state.Owed order)
    (hreaches : Reaches scraper order.id state event) :
    Covered (step scraper state event).published order.id order.version := by
  obtain ⟨poll, rfl, ⟨hpage, hsends, -⟩, hleaves⟩ := hreaches
  have howed' : (state.asked poll.now).Owed order := ⟨due_asked howed.1 poll.now, howed.2⟩
  have hwindow := h.mem_updatedSince horder howed' fun hnone =>
    (hkeeps hpage).1 hnone order horder howed'
  have hnot := hleaves order hwindow rfl howed'
  have hne : poll.answer ≠ [] := List.ne_nil_of_mem (not_not.mp hnot).1
  obtain ⟨time, -, -, heq⟩ := scrapeOrders_through hpage hsends hne
  show Covered (scrapeOrders scraper state poll).published order.id order.version
  rw [heq]
  rcases saveTimestamp_cases scraper
      ((state.asked poll.now).publish (scraper.complete poll.items) poll.answer) time poll.stored with
    ⟨hsaved, -⟩ | ⟨row, -, hsaved⟩
  · rw [hsaved]
    exact covered_publish hnot
  · rw [hsaved]
    exact covered_publish hnot

/-- A poll that moves the timestamp brings it nearer to an order that stays owed. -/
theorem distance_lt (h : Kept state) {poll : Poll} (hnext : Kept (scrapeOrders scraper state poll))
    (horder : order ∈ (scrapeOrders scraper state poll).orders)
    (howed : (scrapeOrders scraper state poll).Owed order)
    (hsucceeds : Succeeds scraper state poll)
    (hmoves : ∃ other ∈ poll.answer, ∀ lastUpdated, state.memory = some lastUpdated →
      lastUpdated < other.time) :
    distance order.time (scrapeOrders scraper state poll) < distance order.time state := by
  obtain ⟨hpage, hsends, hstored⟩ := hsucceeds
  obtain ⟨other, hother, hnewer⟩ := hmoves
  obtain ⟨time, -, hlatest, heq⟩ := scrapeOrders_through hpage hsends (List.ne_nil_of_mem hother)
  have hsaved : ∃ saved : State, scrapeOrders scraper state poll = saved ∧
      saved.memory = some time ∧ saved.row = some time := by
    refine ⟨_, heq, ?_⟩
    rw [hstored]
    cases scraper with
    | amazon => exact ⟨rfl, rfl⟩
    | wooCommerce perPage => exact ⟨rfl, rfl⟩
    | apilo => exact ⟨rfl, rfl⟩
  obtain ⟨saved, heq', hmemory, hrow⟩ := hsaved
  rw [heq'] at hnext horder howed ⊢
  have hle := hnext.reach order horder howed time hmemory
  have hlatest' := hlatest other hother
  unfold distance
  rw [hrow]
  cases hbefore : state.row with
  | none => dsimp only; omega
  | some stored =>
      obtain ⟨before, hmemory', hstored'⟩ := h.row stored hbefore
      have hlt := hnewer before hmemory'
      dsimp only
      omega

end Steps

/-! ## Runs -/

section Runs

variable {scraper : Scraper} {events : Nat → Event}

theorem kept_after
    (hkeeps : ∀ number, Condition scraper (after scraper events number) (events number))
    (number : Nat) : Kept (after scraper events number) := by
  induction number with
  | zero =>
      exact ⟨fun _ => rfl, fun _ hnone => (nomatch hnone), fun _ hnone => (nomatch hnone),
        fun _ horder => absurd horder List.not_mem_nil⟩
  | succ number ih => exact ih.step (hkeeps number)

/-- An order that is not updated any more is covered, if polls go on to reach it or to move the
timestamp. -/
theorem covered_of_settled
    (hkeeps : ∀ number, Condition scraper (after scraper events number) (events number))
    {order : Item} {start : Nat} (horder : order ∈ (after scraper events start).orders)
    (hdue : (after scraper events start).Due order)
    (hsettled : ∀ number, start ≤ number → ∀ time, events number ≠ .change order.id time)
    (hadvances : Recurring (step scraper) .start events (Advances scraper order.id)) :
    ∃ later, Covered (after scraper events later).published order.id order.version := by
  by_cases hcovered : Covered (after scraper events start).published order.id order.version
  · exact ⟨start, hcovered⟩
  have hstays : ∀ number, start ≤ number →
      order ∈ (after scraper events number).orders ∧ (after scraper events number).Owed order →
      ¬ Covered (after scraper events (number + 1)).published order.id order.version →
      order ∈ (after scraper events (number + 1)).orders ∧
        (after scraper events (number + 1)).Owed order := by
    rintro number hle ⟨hmem, howed⟩ hnext
    exact ⟨mem_orders_step hmem (hsettled number hle), due_step howed.1 (events number), hnext⟩
  have hstep : ∀ number, start ≤ number →
      order ∈ (after scraper events number).orders ∧ (after scraper events number).Owed order →
      Covered (after scraper events (number + 1)).published order.id order.version ∨
        (order ∈ (after scraper events (number + 1)).orders ∧
          (after scraper events (number + 1)).Owed order) ∧
          distance order.time (after scraper events (number + 1)) ≤
            distance order.time (after scraper events number) := by
    intro number hle hopen
    by_cases hnext : Covered (after scraper events (number + 1)).published order.id order.version
    · exact .inl hnext
    · have hopen' := hstays number hle hopen hnext
      exact .inr ⟨hopen', distance_step (kept_after hkeeps number) (kept_after hkeeps (number + 1))
        hopen'.1 hopen'.2⟩
  have hclose : ∀ number, start ≤ number →
      order ∈ (after scraper events number).orders ∧ (after scraper events number).Owed order →
      Advances scraper order.id (after scraper events number) (events number) →
      Covered (after scraper events (number + 1)).published order.id order.version ∨
        distance order.time (after scraper events (number + 1)) <
          distance order.time (after scraper events number) := by
    intro number hle hopen hcloses
    by_cases hnext : Covered (after scraper events (number + 1)).published order.id order.version
    · exact .inl hnext
    · rcases hcloses with hreaches | ⟨poll, hpoll, hsucceeds, hmoves⟩
      · exact .inl (covered_of_reaches (kept_after hkeeps number) (hkeeps number) hopen.1 hopen.2
          hreaches)
      · have hopen' := hstays number hle hopen hnext
        have hkept := kept_after hkeeps (number + 1)
        have hafter : after scraper events (number + 1) =
            scrapeOrders scraper (after scraper events number) poll := by
          show step scraper (after scraper events number) (events number) = _
          rw [hpoll]
          rfl
        rw [hafter] at hopen' hkept ⊢
        exact .inr (distance_lt (kept_after hkeeps number) hkept hopen'.1 hopen'.2 hsucceeds hmoves)
  obtain ⟨later, -, hlater⟩ := served_of_falling
    (fun state => order ∈ state.orders ∧ state.Owed order)
    (fun state => Covered state.published order.id order.version) (distance order.time) hstep hclose
    hadvances ⟨horder, hdue, hcovered⟩
  exact ⟨later, hlater⟩

theorem exists_newer_step (scraper : Scraper) {state : State} {order : Item}
    (horder : order ∈ state.orders) (hdue : state.Due order) (event : Event) :
    ∃ newer ∈ (step scraper state event).orders, newer.id = order.id ∧
      order.version ≤ newer.version ∧ (step scraper state event).Due newer := by
  by_cases hevent : ∀ time, event ≠ .change order.id time
  · exact ⟨order, mem_orders_step horder hevent, rfl, le_rfl, due_step hdue event⟩
  · obtain ⟨time, htime⟩ := not_forall.mp hevent
    obtain rfl := not_not.mp htime
    unfold step
    dsimp only
    split
    · next hlast =>
      obtain ⟨newer, hnewer, hid, hversion⟩ := Has.change ⟨order, horder, rfl, le_rfl⟩ order.id time
      obtain ⟨first, hfirst, hle⟩ := hdue
      refine ⟨newer, hnewer, hid, hversion, first, hfirst, ?_⟩
      rw [time_of_mem_change hnewer hid]
      exact hle.trans (hlast order horder)
    · exact ⟨order, horder, rfl, le_rfl, hdue⟩

theorem exists_newer_due {number later : Nat} (hle : number ≤ later) {order : Item}
    (horder : order ∈ (after scraper events number).orders)
    (hdue : (after scraper events number).Due order) :
    ∃ newer ∈ (after scraper events later).orders, newer.id = order.id ∧
      order.version ≤ newer.version ∧ (after scraper events later).Due newer :=
  exists_newer (fun number _ hmem hdue => exists_newer_step scraper hmem hdue (events number))
    hle horder hdue

/-- In every run whose steps meet the condition no updated order is lost, if polls go on to succeed that
reach the order or move the timestamp, and if the order is not updated for ever without being reached. -/
theorem orders_published (scraper : Scraper) (events : Nat → Event)
    (hkeeps : ∀ number, Condition scraper (after scraper events number) (events number))
    (hadvances : ∀ id, Recurring (step scraper) .start events (Advances scraper id))
    (hreaches : ∀ id, Settles id events ∨
      Recurring (step scraper) .start events (Reaches scraper id)) :
    Published scraper events := by
  intro number order horder hdue
  rcases hreaches order.id with ⟨start, hsettled⟩ | hrecurs
  · obtain ⟨newer, hnewer, hid, hversion, hdue'⟩ :=
      exists_newer_due (Nat.le_max_left number start) horder hdue
    have hsettled' : ∀ later, max number start ≤ later → ∀ time,
        events later ≠ .change newer.id time :=
      fun later hle => hid ▸ hsettled later ((Nat.le_max_right _ _).trans hle)
    obtain ⟨later, hcovered⟩ := covered_of_settled hkeeps hnewer hdue' hsettled' (hadvances newer.id)
    exact ⟨later, hid ▸ hcovered.of_le hversion⟩
  · obtain ⟨later, hle, hreaches⟩ := hrecurs number
    obtain ⟨newer, hnewer, hid, hversion, hdue'⟩ := exists_newer_due hle horder hdue
    by_cases hcovered : Covered (after scraper events later).published newer.id newer.version
    · exact ⟨later, hid ▸ hcovered.of_le hversion⟩
    · rw [← hid] at hreaches
      have hnext := covered_of_reaches (kept_after hkeeps later) (hkeeps later) hnewer
        ⟨hdue', hcovered⟩ hreaches
      exact ⟨later + 1, hid ▸ hnext.of_le hversion⟩

end Runs

/-! ## Two runs -/

/-- A poll with this answer in which all publications succeed, and the requests for the line items of all
orders but perhaps one. -/
def answered (answer : List Item) (without : Nat) : Poll :=
  ⟨0, answer, fun id => id != without, fun _ => .returned, true⟩

/-- Two orders that were updated at one time. -/
def tiedOrders : List Item := [⟨1, 1, 100⟩, ⟨2, 1, 100⟩]

/-- Two orders are created at one time, the first request for the line items of one of them fails, and then
everything succeeds. -/
def tied : Nat → Event
  | 0 => .change 1 100
  | 1 => .change 2 100
  | 2 => .poll (answered tiedOrders 1)
  | _ + 3 => .poll (answered tiedOrders 0)

/-- Amazon has two orders, and the first request for the line items of the older one fails. -/
def withoutItems : Nat → Event
  | 0 => .change 1 100
  | 1 => .change 2 200
  | 2 => .poll (answered [⟨1, 1, 100⟩, ⟨2, 1, 200⟩] 1)
  | _ + 3 => .poll (answered [⟨2, 1, 200⟩] 0)

theorem after_tied (number : Nat) : ∃ published,
    after .amazon tied (number + 3) = ⟨tiedOrders, some 100, some 100, some 0, published⟩ := by
  induction number with
  | zero => exact ⟨_, rfl⟩
  | succ number ih =>
      obtain ⟨published, heq⟩ := ih
      refine ⟨⟨1, 1, true⟩ :: ⟨2, 1, true⟩ :: published, ?_⟩
      show step .amazon (after .amazon tied (number + 3)) (.poll (answered tiedOrders 0)) = _
      rw [heq]
      rfl

theorem tied_polls (number : Nat) :
    IsPage .amazon (updatedSince (after .amazon tied (number + 2)).orders
        ((after .amazon tied (number + 2)).lastUpdated 0)) tiedOrders ∧
      (after .amazon tied (number + 2)).orders = tiedOrders := by
  cases number with
  | zero => exact ⟨by decide, rfl⟩
  | succ number =>
      obtain ⟨published, heq⟩ := after_tied number
      rw [heq]
      have hpage : IsPage .amazon (updatedSince tiedOrders 100) tiedOrders := by decide
      exact ⟨hpage, rfl⟩

/-- Both orders of this run are published. -/
theorem tied_published : Published .amazon tied := by
  have hitems : ∀ order ∈ tiedOrders,
      Scraper.complete .amazon (answered tiedOrders 0).items order = true := by decide
  have htimes : ∀ order ∈ tiedOrders, ∀ other ∈ tiedOrders, other.time ≤ order.time := by decide
  have hreaches : ∀ id, Recurring (step .amazon) .start tied (Reaches .amazon id) := by
    intro id number
    obtain ⟨hpage, horders⟩ := tied_polls (number + 1)
    refine ⟨number + 3, Nat.le_add_right _ _, answered tiedOrders 0, rfl,
      ⟨hpage, fun _ _ => rfl, rfl⟩, ?_⟩
    intro order horder _ _ hleaves
    have hmem : order ∈ (after .amazon tied (number + 3)).orders := (List.mem_filter.mp horder).1
    rw [horders] at hmem
    exact hleaves ⟨hmem, hitems order hmem⟩
  refine orders_published .amazon tied ?_ (fun id number => ?_) fun id => .inr (hreaches id)
  · rintro (_ | _ | number)
    · trivial
    · trivial
    · obtain ⟨without, hevent⟩ : ∃ without, tied (number + 2) = .poll (answered tiedOrders without) := by
        cases number <;> exact ⟨_, rfl⟩
      rw [hevent]
      refine fun _ => ⟨fun _ _ _ _ => (Nat.zero_sub lookback).le.trans (Nat.zero_le _), ?_⟩
      intro _ order horder _ _
      rw [(tied_polls number).2] at horder
      exact htimes order horder
  · obtain ⟨later, hle, hlater⟩ := hreaches id number
    exact ⟨later, hle, .inl hlater⟩

theorem after_withoutItems (number : Nat) : ∃ published,
    after .amazon withoutItems (number + 3) =
        ⟨[⟨1, 1, 100⟩, ⟨2, 1, 200⟩], some 200, some 200, some 0, published⟩ ∧
      ∀ publication ∈ published, publication.id = 1 → publication.complete = false := by
  induction number with
  | zero => exact ⟨[⟨1, 1, false⟩, ⟨2, 1, true⟩], rfl, by decide⟩
  | succ number ih =>
      obtain ⟨published, heq, hwithout⟩ := ih
      refine ⟨⟨2, 1, true⟩ :: published, ?_, List.forall_mem_cons.mpr ⟨by decide, hwithout⟩⟩
      show step .amazon (after .amazon withoutItems (number + 3))
        (.poll (answered [⟨2, 1, 200⟩] 0)) = _
      rw [heq]
      rfl

/-- All later polls succeed, and the older order is lost. -/
theorem withoutItems_not_published :
    (∀ number, ∃ poll, withoutItems (number + 3) = .poll poll ∧
        Succeeds .amazon (after .amazon withoutItems (number + 3)) poll) ∧
      ¬ Published .amazon withoutItems := by
  constructor
  · intro number
    obtain ⟨published, heq, -⟩ := after_withoutItems number
    have hpage : IsPage .amazon (updatedSince [⟨1, 1, 100⟩, ⟨2, 1, 200⟩] 200) [⟨2, 1, 200⟩] := by
      decide
    rw [heq]
    exact ⟨_, rfl, hpage, fun _ _ => rfl, rfl⟩
  · intro hpublished
    obtain ⟨later, publication, hmem, hid, -, hcomplete⟩ :=
      hpublished 3 ⟨1, 1, 100⟩ (by decide) ⟨0, rfl, Nat.zero_le _⟩
    have hwithout : ∀ number, ∀ publication ∈ (after .amazon withoutItems number).published,
        publication.id = 1 → publication.complete = false := by
      intro number
      match number with
      | 0 => exact fun _ hnone => absurd hnone List.not_mem_nil
      | 1 => exact fun _ hnone => absurd hnone List.not_mem_nil
      | 2 => exact fun _ hnone => absurd hnone List.not_mem_nil
      | number + 3 =>
          obtain ⟨published, heq, hwithout⟩ := after_withoutItems number
          rwa [heq]
    rw [hwithout later publication hmem hid] at hcomplete
    cases hcomplete

end TimestampScrapers

end IntegrationPlatform
