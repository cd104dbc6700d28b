import Mathlib.Data.List.Nodup
import Mathlib.Order.Basic
import IntegrationPlatform.Kafka.Publishing
import IntegrationPlatform.Stores.Versions
import IntegrationPlatform.Transactions.Unending

/-!
# The order scraper of Shopify

A scrape has two passes. The first one asks for the orders behind the last order id, which is stored, the
second one for the orders that were updated since the last scrape, whose time is kept in memory only.
`later_orders_captured` says when the two passes together capture every later order and update.
-/

namespace IntegrationPlatform

namespace Shopify

open Publishing Versions

/-! ## The shop and the scraper -/

/-- Where a scrape stands: none is under way, the first pass is over (was there a `since_id`, and which
ids have been seen), or the second one is. -/
inductive Phase where
  | idle
  | first (since : Bool) (seenIds : List Nat)
  | second

/-- The orders of a shop, in the order of their ids, the clock of the scraper, the last order id in memory
and in `scraper_state`, the time of the last scrape, the scrape under way, whether a first scrape has been
completed, the orders that were created or updated since, and what has been published. -/
structure State where
  orders : List Item
  now : Nat
  memory : Option Nat
  row : Option Nat
  lastScrape : Option Nat
  phase : Phase
  completed : Bool
  due : List Nat
  published : List Publication

/-- An empty shop that has never been scraped. -/
def State.start : State := ⟨[], 0, none, none, none, .idle, false, [], []⟩

/-- `limit` of the requests. -/
def limit : Nat := 250

/-- `buffer`, in seconds. -/
def buffer (interval : Nat) : Nat := interval + 60

/-- Orders are published as they were read. -/
def State.publish (state : State) (accepted : List Item) : State :=
  { state with
    published := accepted.map (fun order => ⟨order.id, order.version, true⟩) ++ state.published }

/-- The answer to a request with `since_id`. -/
def ordersSince (orders : List Item) (sinceId : Nat) : List Item :=
  (orders.filter fun order => sinceId < order.id).take limit

/-- The orders that a request with `updated_at_min` is about. -/
def updatedSince (interval : Nat) (orders : List Item) (lastScrape : Nat) : List Item :=
  orders.filter fun order => lastScrape ≤ order.time + buffer interval

/-- What may be answered to a request about some orders. -/
def IsPage (orders answer : List Item) : Prop :=
  answer.Nodup ∧ (∀ order ∈ answer, order ∈ orders) ∧ answer.length = min limit orders.length

instance (orders answer : List Item) : Decidable (IsPage orders answer) :=
  inferInstanceAs (Decidable (_ ∧ _ ∧ _))

/-- `_fetch_new_orders` from the answer on, and whether it returns. -/
def fetchNewOrders (state : State) (orders : List Item) (sends : Item → Outcome) (stored : Bool) :
    State × Bool :=
  match orders.getLast? with
  | none => (state, true)
  | some lastOrder =>
      let loop := publishAll sends orders
      let after := state.publish loop.1
      if loop.2 then
        ({ after with
            memory := some lastOrder.id
            row := if stored then some lastOrder.id else state.row }, stored)
      else (after, false)

/-- `_fetch_updated_orders` from the answer on, and whether it returns. -/
def fetchUpdatedOrders (state : State) (seenIds : List Nat) (orders : List Item)
    (sends : Item → Outcome) : State × Bool :=
  let loop := publishAll sends (orders.filter fun order => order.id ∉ seenIds)
  (state.publish loop.1, loop.2)

/-- The state after a pass that returns, or ends the scrape. -/
def proceed (result : State × Bool) (phase : Phase) : State :=
  { result.1 with phase := if result.2 then phase else .idle }

/-- `_scrape_account` up to the second pass. -/
def firstPass (state : State) (sends : Item → Outcome) (stored : Bool) : State :=
  match state.memory with
  | none => { state with phase := .first false [] }
  | some sinceId =>
      let orders := ordersSince state.orders sinceId
      proceed (fetchNewOrders state orders sends stored) (.first true (orders.map Item.id))

/-- `_scrape_account` after the first pass. Without a last scrape and without a `since_id` all orders are
asked for. -/
def secondPass (interval : Nat) (state : State) (since : Bool) (seenIds : List Nat)
    (answer : List Item) (sends : Item → Outcome) (stored : Bool) : State :=
  match state.lastScrape with
  | some lastScrape =>
      if IsPage (updatedSince interval state.orders lastScrape) answer then
        proceed (fetchUpdatedOrders state seenIds answer sends) .second
      else state
  | none =>
      if since then { state with phase := .second }
      else if IsPage state.orders answer then
        proceed (fetchNewOrders state answer sends stored) .second
      else state

/-- What happens. An order is created or updated, the clock moves, the two passes of a scrape succeed or
fail, a scrape ends, something else fails, or the process is started again. -/
inductive Event where
  | change (id time : Nat)
  | clock (now : Nat)
  | firstPass (sends : Item → Outcome) (stored : Bool)
  | secondPass (answer : List Item) (sends : Item → Outcome) (stored : Bool)
  | finish
  | fail
  | restart

/-- A change is that of an order which exists, or creates one with a greater id than all others. -/
def Changes (orders : List Item) (id : Nat) : Prop :=
  (∃ order ∈ orders, order.id = id) ∨ ∀ order ∈ orders, order.id < id

instance (orders : List Item) (id : Nat) : Decidable (Changes orders id) :=
  inferInstanceAs (Decidable (_ ∨ _))

/-- One step. -/
def step (interval : Nat) (state : State) : Event → State
  | .change id time =>
      if Changes state.orders id then
        { state with
          orders := change state.orders id time
          due := if state.completed then id :: state.due else state.due }
      else state
  | .clock now => { state with now }
  | .firstPass sends stored =>
      match state.phase with
      | .idle => firstPass state sends stored
      | _ => state
  | .secondPass answer sends stored =>
      match state.phase with
      | .first since seenIds => secondPass interval state since seenIds answer sends stored
      | _ => state
  | .finish =>
      match state.phase with
      | .second => { state with lastScrape := some state.now, phase := .idle, completed := true }
      | _ => state
  | .fail => { state with phase := .idle }
  | .restart => { state with memory := state.row, lastScrape := none, phase := .idle }

/-! ## What is promised, and when it holds -/

/-- The state before the step with this number. -/
def after (interval : Nat) (events : Nat → Event) (number : Nat) : State :=
  stateAt (step interval) .start events number

/-- Every order that is created or updated after a first scrape has been completed is published in that
state or in a newer one. -/
def Captured (interval : Nat) (events : Nat → Event) : Prop :=
  ∀ number, ∀ order ∈ (after interval events number).orders,
    order.id ∈ (after interval events number).due →
    ∃ later, Covered (after interval events later).published order.id order.version

/-- The newest state of an order is due and has not been published. -/
def State.Owed (state : State) (order : Item) : Prop :=
  order.id ∈ state.due ∧ ¬ Covered state.published order.id order.version

/-- An order is behind the last order id. -/
def State.Beyond (state : State) (id : Nat) : Prop :=
  ∃ sinceId ∈ state.memory, sinceId < id

instance (state : State) (id : Nat) : Decidable (state.Beyond id) :=
  inferInstanceAs (Decidable (∃ sinceId ∈ state.memory, sinceId < id))

/-- An order that is not behind the last order id is not updated at a time before the next second pass
begins to look, and when a scrape ends, no such order has an update that has not been published and is
older than the buffer. -/
def Condition (interval : Nat) (state : State) : Event → Prop
  | .change id time =>
      Changes state.orders id → ¬ state.Beyond id → ∀ lastScrape, state.lastScrape = some lastScrape →
        lastScrape ≤ time + buffer interval
  | .finish =>
      state.phase = .second → ∀ order ∈ state.orders, state.Owed order →
        state.Beyond order.id ∨ state.now ≤ order.time + buffer interval
  | _ => True

/-- A second pass succeeds, and its answer does not leave out an order that is owed. -/
def SearchesFor (interval id : Nat) (state : State) (event : Event) : Prop :=
  ∃ answer sends stored since seenIds lastScrape,
    event = .secondPass answer sends stored ∧ state.phase = .first since seenIds ∧
      state.lastScrape = some lastScrape ∧
      IsPage (updatedSince interval state.orders lastScrape) answer ∧
      (∀ order ∈ answer, sends order = .returned) ∧
      ∀ order ∈ updatedSince interval state.orders lastScrape, order.id = id → state.Owed order →
        order ∈ answer

/-! ## The requests -/

section Passes

variable {interval : Nat} {state : State} {orders : List Item} {order last : Item}

theorem published_subset_publish (state : State) (accepted : List Item) :
    state.published ⊆ (state.publish accepted).published :=
  List.subset_append_right _ _

theorem covered_publish {accepted : List Item} (h : order ∈ accepted) :
    Covered (state.publish accepted).published order.id order.version :=
  have hcomplete : (fun _ : Item => true) order = true := rfl
  covered_of_mem h hcomplete state.published

/-- A page of new orders, unless it is empty, is published completely and moves the last order id, or it
ends the scrape. -/
theorem fetchNewOrders_cases (state : State) (orders : List Item) (sends : Item → Outcome)
    (stored : Bool) :
    orders = [] ∧ fetchNewOrders state orders sends stored = (state, true) ∨
      (∃ accepted, fetchNewOrders state orders sends stored = (state.publish accepted, false)) ∨
      ∃ last, orders.getLast? = some last ∧
        fetchNewOrders state orders sends stored =
          ({ state.publish orders with
              memory := some last.id
              row := if stored then some last.id else state.row }, stored) := by
  unfold fetchNewOrders
  split
  · next hnone => exact .inl ⟨List.getLast?_eq_none_iff.mp hnone, rfl⟩
  · next last hlast =>
    dsimp only
    split
    · next hends =>
      rw [publishAll_of_ends hends]
      exact .inr (.inr ⟨last, hlast, rfl⟩)
    · exact .inr (.inl ⟨_, rfl⟩)

theorem fetchNewOrders_frame (state : State) (orders : List Item) (sends : Item → Outcome)
    (stored : Bool) :
    (fetchNewOrders state orders sends stored).1.orders = state.orders ∧
      (fetchNewOrders state orders sends stored).1.due = state.due := by
  rcases fetchNewOrders_cases state orders sends stored with
    ⟨-, heq⟩ | ⟨accepted, heq⟩ | ⟨last, -, heq⟩
  · rw [heq]
    exact ⟨rfl, rfl⟩
  · rw [heq]
    exact ⟨rfl, rfl⟩
  · rw [heq]
    exact ⟨rfl, rfl⟩

theorem firstPass_frame (state : State) (sends : Item → Outcome) (stored : Bool) :
    (firstPass state sends stored).orders = state.orders ∧
      (firstPass state sends stored).due = state.due := by
  unfold firstPass
  split
  · exact ⟨rfl, rfl⟩
  · exact fetchNewOrders_frame _ _ _ _

theorem secondPass_frame (interval : Nat) (state : State) (since : Bool) (seenIds : List Nat)
    (answer : List Item) (sends : Item → Outcome) (stored : Bool) :
    (secondPass interval state since seenIds answer sends stored).orders = state.orders ∧
      (secondPass interval state since seenIds answer sends stored).due = state.due := by
  unfold secondPass
  split
  · split
    · exact ⟨rfl, rfl⟩
    · exact ⟨rfl, rfl⟩
  · split
    · exact ⟨rfl, rfl⟩
    · split
      · exact fetchNewOrders_frame _ _ _ _
      · exact ⟨rfl, rfl⟩

theorem frame_step (interval : Nat) (state : State) (event : Event) :
    (∃ id time, event = .change id time) ∨
      (step interval state event).orders = state.orders ∧
        (step interval state event).due = state.due := by
  cases event with
  | change id time => exact .inl ⟨id, time, rfl⟩
  | clock now => exact .inr ⟨rfl, rfl⟩
  | fail => exact .inr ⟨rfl, rfl⟩
  | restart => exact .inr ⟨rfl, rfl⟩
  | finish =>
      right
      unfold step
      dsimp only
      split
      · exact ⟨rfl, rfl⟩
      · exact ⟨rfl, rfl⟩
  | firstPass sends stored =>
      right
      unfold step
      dsimp only
      split
      · exact firstPass_frame state sends stored
      · exact ⟨rfl, rfl⟩
  | secondPass answer sends stored =>
      right
      unfold step
      dsimp only
      split
      · exact secondPass_frame interval state _ _ answer sends stored
      · exact ⟨rfl, rfl⟩

theorem Changes.lt {id : Nat} (h : Changes orders id) (hnew : ¬ orders.any (·.id == id) = true)
    (horder : order ∈ orders) : order.id < id := by
  rcases h with ⟨found, hfound, hid⟩ | hall
  · have hany : orders.any (·.id == id) = true :=
      List.any_eq_true.mpr ⟨found, hfound, beq_iff_eq.mpr hid⟩
    exact absurd hany hnew
  · exact hall order horder

theorem mem_ordersSince (hsorted : (orders.map Item.id).Pairwise (· < ·)) {sinceId : Nat}
    (hlast : (ordersSince orders sinceId).getLast? = some last) (horder : order ∈ orders)
    (hsince : sinceId < order.id) (hle : order.id ≤ last.id) : order ∈ ordersSince orders sinceId := by
  have hmem : order ∈ orders.filter fun order => sinceId < order.id :=
    List.mem_filter.mpr ⟨horder, decide_eq_true hsince⟩
  have hpairwise := (List.pairwise_map.mp hsorted).filter fun order => decide (sinceId < order.id)
  rw [← List.take_append_drop limit (orders.filter _)] at hmem hpairwise
  rcases List.mem_append.mp hmem with hpage | hbehind
  · exact hpage
  · have hlt := (List.pairwise_append.mp hpairwise).2.2 last (List.mem_of_getLast? hlast) order hbehind
    omega

theorem last_ordersSince {sinceId : Nat} (hlast : (ordersSince orders sinceId).getLast? = some last) :
    last ∈ orders ∧ sinceId < last.id := by
  obtain ⟨hmem, hlt⟩ := List.mem_filter.mp (List.mem_of_mem_take (List.mem_of_getLast? hlast))
  exact ⟨hmem, of_decide_eq_true hlt⟩

theorem ordersSince_ne_nil {sinceId : Nat} (horder : order ∈ orders) (hsince : sinceId < order.id) :
    ordersSince orders sinceId ≠ [] := by
  intro hnil
  have hmem : order ∈ orders.filter fun order => sinceId < order.id :=
    List.mem_filter.mpr ⟨horder, decide_eq_true hsince⟩
  rcases List.take_eq_nil_iff.mp hnil with hlimit | hempty
  · exact absurd hlimit (by decide)
  · rw [hempty] at hmem
    exact absurd hmem List.not_mem_nil

end Passes

/-! ## What every step keeps -/

section Steps

variable {interval : Nat} {state : State}

/-- What holds in every state of a run that meets the condition: ids are in their order, the last order id
is that of an order at most, the stored one is not newer, and an order that is owed is behind it or among
those that the next second pass asks for. -/
structure Kept (interval : Nat) (state : State) : Prop where
  sorted : (state.orders.map Item.id).Pairwise (· < ·)
  memory : ∀ sinceId, state.memory = some sinceId → ∃ order ∈ state.orders, sinceId ≤ order.id
  row : ∀ stored, state.row = some stored → ∃ sinceId, state.memory = some sinceId ∧ stored ≤ sinceId
  since : ∀ seenIds, state.phase = .first false seenIds → state.memory = none
  reach : ∀ order ∈ state.orders, state.Owed order → state.Beyond order.id ∨
    ∀ lastScrape, state.lastScrape = some lastScrape → lastScrape ≤ order.time + buffer interval

theorem owed_of_publish {accepted : List Item} {order : Item}
    (h : (state.publish accepted).Owed order) : state.Owed order :=
  ⟨h.1, fun hcovered => h.2 (hcovered.mono (published_subset_publish state accepted))⟩

theorem Kept.publish (h : Kept interval state) (accepted : List Item) :
    Kept interval (state.publish accepted) :=
  ⟨h.sorted, h.memory, h.row, h.since, fun order horder howed =>
    h.reach order horder (owed_of_publish howed)⟩

theorem Kept.withPhase (h : Kept interval state) {phase : Phase}
    (hphase : ∀ seenIds, phase = .first false seenIds → state.memory = none) :
    Kept interval { state with phase } :=
  ⟨h.sorted, h.memory, h.row, hphase, h.reach⟩

theorem Kept.move (h : Kept interval state) {last : Item} (hlast : last ∈ state.orders)
    (hnewer : ∀ sinceId, state.memory = some sinceId → sinceId ≤ last.id)
    (hreach : ∀ order ∈ state.orders, state.Owed order → last.id < order.id ∨
      ∀ lastScrape, state.lastScrape = some lastScrape → lastScrape ≤ order.time + buffer interval)
    (stored : Bool) {phase : Phase} (hphase : ∀ seenIds, phase ≠ .first false seenIds) :
    Kept interval { state with
      memory := some last.id
      row := if stored then some last.id else state.row
      phase } := by
  refine ⟨h.sorted, ?_, ?_, ?_, ?_⟩
  · rintro sinceId ⟨⟩
    exact ⟨last, hlast, Nat.le_refl _⟩
  · intro before hrow
    refine ⟨last.id, rfl, ?_⟩
    dsimp only at hrow
    split at hrow
    · exact (Option.some.inj hrow).symm.le
    · obtain ⟨sinceId, hmemory, hle⟩ := h.row before hrow
      exact hle.trans (hnewer sinceId hmemory)
  · exact fun seenIds hfirst => absurd hfirst (hphase seenIds)
  · intro order horder howed
    exact (hreach order horder howed).imp_left fun hlt => ⟨last.id, rfl, hlt⟩

theorem Kept.firstPass (h : Kept interval state) (sends : Item → Outcome) (stored : Bool) :
    Kept interval (firstPass state sends stored) := by
  unfold Shopify.firstPass
  split
  · next hmemory => exact h.withPhase fun _ _ => hmemory
  · next sinceId hmemory =>
    dsimp only
    rcases fetchNewOrders_cases state (ordersSince state.orders sinceId) sends stored with
      ⟨-, heq⟩ | ⟨accepted, heq⟩ | ⟨last, hlast, heq⟩
    · rw [heq]
      exact h.withPhase fun _ hfirst => nomatch hfirst
    · rw [heq]
      exact (h.publish accepted).withPhase fun _ hfirst => nomatch hfirst
    · rw [heq]
      obtain ⟨hmem, hlt⟩ := last_ordersSince hlast
      refine (h.publish (ordersSince state.orders sinceId)).move hmem ?_ ?_ stored ?_
      · intro before hbefore
        cases hmemory.symm.trans hbefore
        exact hlt.le
      · intro order horder howed
        refine (h.reach order horder (owed_of_publish howed)).imp_left ?_
        rintro ⟨before, hbefore, hbeyond⟩
        cases hmemory.symm.trans hbefore
        -- Up to the last order of the page all have been published.
        by_contra hle
        exact howed.2 (covered_publish
          (mem_ordersSince h.sorted hlast horder hbeyond (Nat.le_of_not_lt hle)))
      · intro seenIds
        cases stored with
        | false => exact fun hfirst => nomatch hfirst
        | true => exact fun hfirst => nomatch hfirst

theorem Kept.secondPass (h : Kept interval state) {since : Bool} {seenIds : List Nat}
    (hphase : state.phase = .first since seenIds) (answer : List Item) (sends : Item → Outcome)
    (stored : Bool) : Kept interval (secondPass interval state since seenIds answer sends stored) := by
  have hnot : ∀ (result : Bool) seenIds,
      (if result then Phase.second else Phase.idle) ≠ .first false seenIds := by
    intro result seenIds
    cases result with
    | false => exact fun hfirst => nomatch hfirst
    | true => exact fun hfirst => nomatch hfirst
  unfold Shopify.secondPass
  split
  · split
    · exact (h.publish _).withPhase fun seenIds hfirst => absurd hfirst (hnot _ seenIds)
    · exact h
  · next hlastScrape =>
    split
    · exact h.withPhase fun _ hfirst => nomatch hfirst
    · next hsince =>
      split
      · next hpage =>
        have hmemory : state.memory = none := by
          cases since with
          | true => exact absurd rfl hsince
          | false => exact h.since seenIds hphase
        rcases fetchNewOrders_cases state answer sends stored with
          ⟨-, heq⟩ | ⟨accepted, heq⟩ | ⟨last, hlast, heq⟩
        · rw [heq]
          exact h.withPhase fun _ hfirst => nomatch hfirst
        · rw [heq]
          exact (h.publish accepted).withPhase fun _ hfirst => nomatch hfirst
        · rw [heq]
          refine (h.publish answer).move (hpage.2.1 last (List.mem_of_getLast? hlast)) ?_ ?_ stored
            (hnot stored)
          · intro sinceId hbefore
            cases hmemory.symm.trans hbefore
          · intro order _ _
            refine .inr fun lastScrape hbefore => ?_
            cases hlastScrape.symm.trans hbefore
      · exact h

theorem Kept.restart (h : Kept interval state) :
    Kept interval { state with memory := state.row, lastScrape := none, phase := .idle } := by
  refine ⟨h.sorted, ?_, ?_, fun _ hfirst => (nomatch hfirst),
    fun _ _ _ => .inr fun _ hnone => nomatch hnone⟩
  · intro sinceId hrow
    obtain ⟨before, hmemory, hle⟩ := h.row sinceId hrow
    obtain ⟨order, horder, hle'⟩ := h.memory before hmemory
    exact ⟨order, horder, hle.trans hle'⟩
  · exact fun stored hrow => ⟨stored, hrow, Nat.le_refl _⟩

theorem sorted_change {orders : List Item} (hsorted : (orders.map Item.id).Pairwise (· < ·)) {id : Nat}
    (hchanges : Changes orders id) (time : Nat) :
    ((change orders id time).map Item.id).Pairwise (· < ·) := by
  rw [map_id_change]
  split
  · exact hsorted
  · next hnew =>
    refine List.pairwise_append.mpr ⟨hsorted, List.pairwise_singleton _ _, ?_⟩
    intro before hbefore new hid
    obtain ⟨order, horder, rfl⟩ := List.mem_map.mp hbefore
    obtain rfl := List.mem_singleton.mp hid
    exact hchanges.lt hnew horder

theorem Kept.change (h : Kept interval state) {id : Nat} (hchanges : Changes state.orders id) {time : Nat}
    (hreach : ¬ state.Beyond id → ∀ lastScrape, state.lastScrape = some lastScrape →
      lastScrape ≤ time + buffer interval) :
    Kept interval { state with
      orders := change state.orders id time
      due := if state.completed then id :: state.due else state.due } := by
  refine ⟨sorted_change h.sorted hchanges time, ?_, h.row, h.since, ?_⟩
  · intro sinceId hmemory
    obtain ⟨order, horder, hle⟩ := h.memory sinceId hmemory
    obtain ⟨after, hafter, hid, -⟩ := Has.change ⟨order, horder, rfl, Nat.le_refl _⟩ id time
    exact ⟨after, hafter, hid ▸ hle⟩
  · intro order horder howed
    by_cases hid : order.id = id
    · by_cases hbeyond : state.Beyond id
      · exact .inl (hid ▸ hbeyond)
      · refine .inr fun lastScrape hlast => ?_
        rw [time_of_mem_change horder hid]
        exact hreach hbeyond lastScrape hlast
    · refine h.reach order ((mem_of_mem_change horder).resolve_right fun hchanged =>
        hid hchanged.1) ⟨?_, howed.2⟩
      have hdue := howed.1
      dsimp only at hdue
      split at hdue
      · exact (List.mem_cons.mp hdue).resolve_left hid
      · exact hdue

theorem Kept.step (h : Kept interval state) {event : Event} (hkeeps : Condition interval state event) :
    Kept interval (step interval state event) := by
  cases event with
  | clock now => exact ⟨h.sorted, h.memory, h.row, h.since, h.reach⟩
  | fail => exact h.withPhase fun _ hfirst => nomatch hfirst
  | restart => exact h.restart
  | firstPass sends stored =>
      unfold Shopify.step
      dsimp only
      split
      · exact h.firstPass sends stored
      · exact h
  | secondPass answer sends stored =>
      unfold Shopify.step
      dsimp only
      split
      · next since seenIds hphase => exact h.secondPass hphase answer sends stored
      · exact h
  | finish =>
      unfold Shopify.step
      dsimp only
      split
      · next hphase =>
        refine ⟨h.sorted, h.memory, h.row, fun _ hfirst => (nomatch hfirst), ?_⟩
        intro order horder howed
        refine (hkeeps hphase order horder howed).imp_right fun hnow lastScrape hlast => ?_
        cases hlast
        exact hnow
      · exact h
  | change id time =>
      unfold Shopify.step
      dsimp only
      split
      · next hchanges => exact h.change hchanges (hkeeps hchanges)
      · exact h

/-! ## How far an order is from being published -/

/-- How many orders lie behind the stored last order id, up to this one. -/
def ahead (row : Option Nat) (ids : List Nat) (id : Nat) : Nat :=
  (ids.filter fun other => other ≤ id && row.all (· < other)).length

/-- A scrape that has seen the order, or has it still before it, has yet to end. -/
def credit (state : State) (id : Nat) : Nat :=
  match state.phase with
  | .first _ seenIds => if id ∈ seenIds ∨ state.Beyond id then 1 else 0
  | _ => 0

/-- What falls with every scrape. -/
def rank (id : Nat) (state : State) : Nat :=
  ahead state.row (state.orders.map Item.id) id + credit state id

/-- A version that is due has not been covered. -/
structure Open (id version : Nat) (state : State) : Prop where
  has : Has state.orders id version
  due : id ∈ state.due
  uncovered : ¬ Covered state.published id version

theorem credit_le_one (state : State) (id : Nat) : credit state id ≤ 1 := by
  unfold credit
  split
  · split
    · exact Nat.le_refl _
    · exact Nat.zero_le _
  · exact Nat.zero_le _

theorem ahead_eq_zero {id last : Nat} (hlt : id < last) (ids : List Nat) :
    ahead (some last) ids id = 0 := by
  unfold ahead
  rw [List.length_eq_zero_iff, List.filter_eq_nil_iff]
  intro other _ hother
  simp only [Option.all_some, Bool.and_eq_true, decide_eq_true_eq] at hother
  omega

theorem ahead_le_none (row : Option Nat) (ids : List Nat) (id : Nat) :
    ahead row ids id ≤ ahead none ids id := by
  unfold ahead
  refine List.Sublist.length_le (List.monotone_filter_right _ ?_)
  intro other hother
  rw [Bool.and_eq_true] at hother ⊢
  exact ⟨hother.1, rfl⟩

theorem ahead_lt {row : Option Nat} {ids : List Nat} {id last : Nat} (hlast : last ∈ ids)
    (hle : last ≤ id) (hrow : ∀ stored, row = some stored → stored < last) :
    ahead (some last) ids id < ahead row ids id := by
  have hbefore : ∀ other, last < other → row.all (· < other) = true := by
    intro other hlt
    cases row with
    | none => rfl
    | some stored => exact decide_eq_true ((hrow stored rfl).trans hlt)
  unfold ahead
  have hsub : ids.filter (fun other => other ≤ id && (some last).all (· < other)) =
      (ids.filter fun other => other ≤ id && row.all (· < other)).filter fun other =>
        decide (last < other) := by
    rw [List.filter_filter]
    refine List.filter_congr fun other _ => ?_
    by_cases hlt : last < other
    · simp [hlt, hbefore other hlt]
    · simp [hlt]
  rw [hsub, List.length_filter_lt_length_iff_exists]
  refine ⟨last, List.mem_filter.mpr ⟨hlast, ?_⟩, by simp⟩
  cases row with
  | none => simp [hle]
  | some stored => simp [hle, hrow stored rfl]

theorem Kept.eq_of_id (h : Kept interval state) {order other : Item} (horder : order ∈ state.orders)
    (hother : other ∈ state.orders) (hid : order.id = other.id) : order = other := by
  have hnodup : (state.orders.map Item.id).Nodup := h.sorted.imp fun hlt => Nat.ne_of_lt hlt
  exact List.inj_on_of_nodup_map hnodup horder hother hid

variable {id version : Nat}

theorem Open.covered_publish (hopen : Open id version state)
    (h : Kept interval state) {accepted : List Item} (hsub : ∀ order ∈ accepted, order ∈ state.orders)
    (hid : id ∈ accepted.map Item.id) : Covered (state.publish accepted).published id version := by
  obtain ⟨order, horder, rfl⟩ := List.mem_map.mp hid
  obtain ⟨item, hitem, heq, hversion⟩ := hopen.has
  obtain rfl := h.eq_of_id hitem (hsub order horder) heq
  exact (Shopify.covered_publish horder).of_le hversion

/-- The first pass brings an order nearer, or covers it. -/
theorem rank_firstPass (h : Kept interval state) (hopen : Open id version state)
    (hphase : state.phase = .idle) (sends : Item → Outcome) (stored : Bool)
    (hnext : ¬ Covered (firstPass state sends stored).published id version) :
    rank id (firstPass state sends stored) ≤ rank id state := by
  have hcredit : credit state id = 0 := by
    unfold credit
    rw [hphase]
  obtain ⟨item, hitem, hid, -⟩ := hopen.has
  unfold rank
  rw [hcredit, Nat.add_zero]
  unfold firstPass at hnext ⊢
  split
  · next hmemory =>
    have hnot : ¬ state.Beyond id := by
      rintro ⟨sinceId, hsinceId, -⟩
      cases hmemory.symm.trans hsinceId
    have hzero : credit { state with phase := .first false [] } id = 0 :=
      if_neg fun hor => hor.elim List.not_mem_nil hnot
    rw [hzero, Nat.add_zero]
  · next sinceId hmemory =>
    rw [hmemory] at hnext
    dsimp only at hnext ⊢
    rcases fetchNewOrders_cases state (ordersSince state.orders sinceId) sends stored with
      ⟨hnil, heq⟩ | ⟨accepted, heq⟩ | ⟨last, hlast, heq⟩
    · rw [heq, hnil]
      have hnot : ¬ state.Beyond id := by
        rintro ⟨before, hbefore, hbeyond⟩
        cases hmemory.symm.trans hbefore
        exact ordersSince_ne_nil hitem (hid ▸ hbeyond) hnil
      have hzero : credit { state with phase := .first true [] } id = 0 :=
        if_neg fun hor => hor.elim List.not_mem_nil hnot
      exact (Nat.add_le_add_left hzero.le _).trans_eq (Nat.add_zero _)
    · rw [heq]
      exact Nat.le_refl _
    · rw [heq] at hnext ⊢
      obtain ⟨hmem, hlt⟩ := last_ordersSince hlast
      cases stored with
      | false => exact Nat.le_refl _
      | true =>
          -- The order was not on the page, so it is either not behind it or behind its last order.
          have hseen : id ∉ (ordersSince state.orders sinceId).map Item.id := by
            refine fun hseen => hnext (hopen.covered_publish h ?_ hseen)
            exact fun order horder => (List.mem_filter.mp (List.mem_of_mem_take horder)).1
          have hrow : ∀ before, state.row = some before → before < last.id := by
            intro before hbefore
            obtain ⟨memory, hmemory', hle⟩ := h.row before hbefore
            cases hmemory.symm.trans hmemory'
            exact Nat.lt_of_le_of_lt hle hlt
          by_cases hbeyond : last.id ≤ id
          · have hfewer := ahead_lt (List.mem_map_of_mem hmem) hbeyond hrow
            refine (Nat.add_le_add_left (credit_le_one _ id) _).trans ?_
            exact hfewer
          · have hzero : credit (proceed
                ({ state.publish (ordersSince state.orders sinceId) with
                    memory := some last.id
                    row := if true then some last.id else state.row }, true)
                (.first true ((ordersSince state.orders sinceId).map Item.id))) id = 0 := by
              refine if_neg ?_
              rintro (hseen' | ⟨before, hbefore, hlt'⟩)
              · exact hseen hseen'
              · cases hbefore
                exact hbeyond hlt'.le
            rw [hzero, Nat.add_zero]
            exact (ahead_eq_zero (Nat.lt_of_not_le hbeyond) _).le.trans (Nat.zero_le _)

/-- After a second pass there is no credit, and the stored last order id has not moved back. -/
theorem rank_secondPass (h : Kept interval state) {id : Nat} {since : Bool} {seenIds : List Nat}
    (hphase : state.phase = .first since seenIds) (answer : List Item) (sends : Item → Outcome)
    (stored : Bool) :
    rank id (secondPass interval state since seenIds answer sends stored) ≤ rank id state := by
  unfold secondPass
  split
  · split
    · unfold proceed
      dsimp only
      split
      · exact Nat.le_add_right _ _
      · exact Nat.le_add_right _ _
    · exact Nat.le_refl _
  · next hlastScrape =>
    split
    · exact Nat.le_add_right _ _
    · next hsince =>
      split
      · next hpage =>
        have hmemory : state.memory = none := by
          cases since with
          | true => exact absurd rfl hsince
          | false => exact h.since seenIds hphase
        have hrow : state.row = none := by
          cases hrow : state.row with
          | none => rfl
          | some before =>
              obtain ⟨sinceId, hsome, -⟩ := h.row before hrow
              cases hmemory.symm.trans hsome
        rcases fetchNewOrders_cases state answer sends stored with
          ⟨-, heq⟩ | ⟨accepted, heq⟩ | ⟨last, hlast, heq⟩
        · rw [heq]
          exact Nat.le_add_right _ _
        · rw [heq]
          exact Nat.le_add_right _ _
        · rw [heq]
          cases stored with
          | false => exact Nat.le_add_right _ _
          | true =>
              refine Nat.le_trans ?_ (Nat.le_add_right _ _)
              unfold rank
              have hzero : credit (proceed ({ state.publish answer with
                  memory := some last.id
                  row := if true then some last.id else state.row }, true) .second) id = 0 := rfl
              rw [hzero, Nat.add_zero, hrow]
              exact ahead_le_none _ _ id
      · exact Nat.le_refl _

/-- A step covers an order that is waited for, or does not take it farther away. -/
theorem rank_step (h : Kept interval state) (hopen : Open id version state)
    (event : Event) (hnext : ¬ Covered (step interval state event).published id version) :
    rank id (step interval state event) ≤ rank id state := by
  cases event with
  | clock now => exact Nat.le_refl _
  | fail => exact Nat.le_add_right _ _
  | restart => exact Nat.le_add_right _ _
  | finish =>
      unfold step
      dsimp only
      split
      · exact Nat.le_add_right _ _
      · exact Nat.le_refl _
  | firstPass sends stored =>
      unfold step at hnext ⊢
      dsimp only at hnext ⊢
      split
      · next hphase =>
        rw [hphase] at hnext
        exact rank_firstPass h hopen hphase sends stored hnext
      · exact Nat.le_refl _
  | secondPass answer sends stored =>
      unfold step
      dsimp only
      split
      · next since seenIds hphase => exact rank_secondPass h hphase answer sends stored
      · exact Nat.le_refl _
  | change other time =>
      unfold step
      dsimp only
      split
      · next hchanges =>
        refine Nat.add_le_add_right ?_ _
        dsimp only
        rw [map_id_change]
        split
        · exact Nat.le_refl _
        · next hnew =>
          obtain ⟨item, hitem, hid, -⟩ := hopen.has
          have hlt : id < other := hid ▸ hchanges.lt hnew hitem
          unfold ahead
          rw [List.filter_append, List.length_append]
          simp [Nat.not_le_of_lt hlt]
      · exact Nat.le_refl _

theorem Open.step (hopen : Open id version state) (event : Event)
    (hnext : ¬ Covered (step interval state event).published id version) :
    Open id version (step interval state event) := by
  rcases frame_step interval state event with ⟨other, time, rfl⟩ | ⟨horders, hdue⟩
  · suffices hboth : Has (Shopify.step interval state (.change other time)).orders id version ∧
        id ∈ (Shopify.step interval state (.change other time)).due from ⟨hboth.1, hboth.2, hnext⟩
    unfold Shopify.step
    dsimp only
    split
    · refine ⟨hopen.has.change other time, ?_⟩
      dsimp only
      split
      · exact List.mem_cons_of_mem _ hopen.due
      · exact hopen.due
    · exact ⟨hopen.has, hopen.due⟩
  · exact ⟨horders ▸ hopen.has, hdue ▸ hopen.due, hnext⟩

/-- A second pass that does not leave the order out covers it or brings it nearer. -/
theorem rank_searchesFor (h : Kept interval state) (hopen : Open id version state)
    {event : Event} (hsearches : SearchesFor interval id state event) :
    Covered (step interval state event).published id version ∨
      rank id (step interval state event) < rank id state := by
  obtain ⟨answer, sends, stored, since, seenIds, lastScrape, rfl, hphase, hlastScrape, hpage, hsends,
    hanswer⟩ := hsearches
  obtain ⟨item, hitem, rfl, hversion⟩ := hopen.has
  have howed : state.Owed item := ⟨hopen.due, fun hcovered => hopen.uncovered (hcovered.of_le hversion)⟩
  have hends : (publishAll sends (answer.filter fun order => order.id ∉ seenIds)).2 = true :=
    publishAll_ends_iff.mpr fun order horder => hsends order (List.mem_filter.mp horder).1
  have hstep : step interval state (.secondPass answer sends stored) =
      { state.publish (answer.filter fun order => order.id ∉ seenIds) with phase := .second } := by
    unfold step secondPass
    rw [hphase]
    dsimp only
    rw [hlastScrape]
    dsimp only
    rw [if_pos hpage]
    unfold proceed fetchUpdatedOrders
    dsimp only
    rw [hends, publishAll_of_ends hends, if_pos rfl]
  rw [hstep]
  by_cases hnear : item.id ∈ seenIds ∨ state.Beyond item.id
  · right
    have hcredit : credit state item.id = 1 := by
      unfold credit
      rw [hphase]
      exact if_pos hnear
    unfold rank
    rw [hcredit]
    exact Nat.lt_succ_self _
  · left
    obtain ⟨hseen, hbeyond⟩ := not_or.mp hnear
    have hwindow : item ∈ updatedSince interval state.orders lastScrape := by
      refine List.mem_filter.mpr ⟨hitem, decide_eq_true ?_⟩
      exact (h.reach item hitem howed).resolve_left hbeyond lastScrape hlastScrape
    have hmem : item ∈ answer.filter fun order => order.id ∉ seenIds :=
      List.mem_filter.mpr ⟨hanswer item hwindow rfl howed, decide_eq_true hseen⟩
    exact (covered_publish hmem).of_le hversion

end Steps

/-! ## Runs -/

/-- In every run whose steps meet the condition every later order and update is captured, if for each
order second passes go on to succeed whose answers do not leave it out. -/
theorem later_orders_captured (interval : Nat) (events : Nat → Event)
    (hkeeps : ∀ number, Condition interval (after interval events number) (events number))
    (hpolls : ∀ id, Recurring (step interval) .start events (SearchesFor interval id)) :
    Captured interval events := by
  have hkept : ∀ number, Kept interval (after interval events number) := by
    intro number
    induction number with
    | zero =>
        exact ⟨.nil, fun _ hnone => (nomatch hnone), fun _ hnone => (nomatch hnone),
          fun _ hfirst => (nomatch hfirst), fun _ horder => absurd horder List.not_mem_nil⟩
    | succ number ih => exact ih.step (hkeeps number)
  intro number order horder hdue
  by_cases hcovered : Covered (after interval events number).published order.id order.version
  · exact ⟨number, hcovered⟩
  · have hstep : ∀ number', number ≤ number' →
        Open order.id order.version (after interval events number') →
        Covered (after interval events (number' + 1)).published order.id order.version ∨
          Open order.id order.version (after interval events (number' + 1)) ∧
            rank order.id (after interval events (number' + 1)) ≤
              rank order.id (after interval events number') := by
      intro number' _ hopen
      by_cases hnext : Covered (after interval events (number' + 1)).published order.id order.version
      · exact .inl hnext
      · exact .inr ⟨hopen.step (events number') hnext,
          rank_step (hkept number') hopen (events number') hnext⟩
    have hclose : ∀ number', number ≤ number' →
        Open order.id order.version (after interval events number') →
        SearchesFor interval order.id (after interval events number') (events number') →
        Covered (after interval events (number' + 1)).published order.id order.version ∨
          rank order.id (after interval events (number' + 1)) <
            rank order.id (after interval events number') :=
      fun number' _ hopen hsearches => rank_searchesFor (hkept number') hopen hsearches
    have hopen : Open order.id order.version (after interval events number) :=
      ⟨⟨order, horder, rfl, Nat.le_refl _⟩, hdue, hcovered⟩
    obtain ⟨later, -, hlater⟩ := served_of_falling (Open order.id order.version)
      (fun state => Covered state.published order.id order.version) (rank order.id) hstep hclose
      (hpolls order.id) hopen
    exact ⟨later, hlater⟩

/-- The events of scrapes, one after the other, in which everything succeeds. -/
def scrapes (answer : List Item) (number : Nat) : Event :=
  match number % 3 with
  | 0 => .firstPass (fun _ => .returned) true
  | 1 => .secondPass answer (fun _ => .returned) true
  | _ => .finish

/-- An order is created, a first scrape is completed, and the order is updated. -/
def updated : Nat → Event
  | 0 => .change 1 0
  | 1 => .firstPass (fun _ => .returned) true
  | 2 => .secondPass [⟨1, 1, 0⟩] (fun _ => .returned) true
  | 3 => .finish
  | 4 => .change 1 0
  | number + 5 => scrapes [⟨1, 2, 0⟩] number

/-- The same, but before the next scrape the process is started again, and time has passed. -/
def restarted : Nat → Event
  | 0 => .change 1 0
  | 1 => .firstPass (fun _ => .returned) true
  | 2 => .secondPass [⟨1, 1, 0⟩] (fun _ => .returned) true
  | 3 => .finish
  | 4 => .change 1 0
  | 5 => .restart
  | 6 => .clock 1000
  | number + 7 => scrapes [] number

theorem scrapes_add_three (answer : List Item) (number : Nat) :
    scrapes answer (number + 3) = scrapes answer number := by
  unfold scrapes
  rw [Nat.add_mod_right]

/-- The phases of a scrape. -/
def phaseAt (place : Nat) : Phase :=
  match place with
  | 0 => .idle
  | 1 => .first true []
  | _ => .second

theorem after_scrapes {events : Nat → Event} {answer : List Item} (shop : List Publication → State)
    {start : Nat} (hevents : ∀ number, events (number + start) = scrapes answer number)
    (hstart : ∃ published, after 60 events start = { shop published with phase := .idle })
    (hnext : ∀ place < 3, ∀ published, ∃ published',
      step 60 { shop published with phase := phaseAt place } (scrapes answer place) =
        { shop published' with phase := phaseAt ((place + 1) % 3) }) (number : Nat) :
    (∃ published, after 60 events (number + start) =
        { shop published with phase := phaseAt (number % 3) }) ∧
      events (number + start) = scrapes answer (number % 3) := by
  obtain ⟨hstate, hevent⟩ := @stateAt_rounds _ _ (step 60) .start events start 3 (by omega)
    (fun place state => ∃ published, state = { shop published with phase := phaseAt place })
    (fun number => by rw [hevents, hevents, scrapes_add_three]) hstart
    (fun place hplace state hstate => by
      obtain ⟨published, rfl⟩ := hstate
      rw [hevents]
      exact hnext place hplace published) number
  exact ⟨hstate, hevent.trans (hevents _)⟩

theorem place_cases {place : Nat} (h : place < 3) : place = 0 ∨ place = 1 ∨ place = 2 := by
  omega

/-- The state between the scrapes of `updated`. -/
def updatedShop (published : List Publication) : State :=
  ⟨[⟨1, 2, 0⟩], 0, some 1, some 1, some 0, .idle, true, [1], published⟩

theorem after_updated (number : Nat) :
    (∃ published, after 60 updated (number + 5) =
        { updatedShop published with phase := phaseAt (number % 3) }) ∧
      updated (number + 5) = scrapes [⟨1, 2, 0⟩] (number % 3) := by
  refine after_scrapes updatedShop (fun _ => rfl) ⟨_, rfl⟩ (fun place hplace published => ?_) number
  obtain rfl | rfl | rfl := place_cases hplace
  · exact ⟨_, rfl⟩
  · exact ⟨_, rfl⟩
  · exact ⟨_, rfl⟩

/-- The update of this run is captured. -/
theorem updated_captured : Captured 60 updated := by
  refine later_orders_captured 60 updated ?_ ?_
  · intro number
    match number with
    | 0 => exact fun _ _ _ hnone => nomatch hnone
    | 1 => trivial
    | 2 => trivial
    | 3 => exact fun _ _ _ _ => .inr (Nat.zero_le _)
    | 4 =>
        rintro - - lastScrape ⟨⟩
        exact Nat.zero_le _
    | number + 5 =>
        obtain ⟨⟨published, hstate⟩, hevent⟩ := after_updated number
        rw [hstate, hevent]
        obtain hplace | hplace | hplace := place_cases (Nat.mod_lt number (by omega : 0 < 3))
        · rw [hplace]
          trivial
        · rw [hplace]
          trivial
        · rw [hplace]
          exact fun _ _ _ _ => .inr (Nat.zero_le _)
  · intro id number
    obtain ⟨⟨published, hstate⟩, hevent⟩ := after_updated (3 * number + 1)
    have hplace : (3 * number + 1) % 3 = 1 := by omega
    rw [hplace] at hstate hevent
    refine ⟨3 * number + 1 + 5, by omega, ?_⟩
    show SearchesFor 60 id (after 60 updated (3 * number + 1 + 5)) _
    rw [hstate, hevent]
    have hpage : IsPage (updatedSince 60 [⟨1, 2, 0⟩] 0) [⟨1, 2, 0⟩] := by decide
    exact ⟨_, _, _, true, [], 0, rfl, rfl, rfl, hpage, fun _ _ => rfl, fun _ horder _ _ => horder⟩

/-- The state between the scrapes of `restarted`. -/
def restartedShop : State :=
  ⟨[⟨1, 2, 0⟩], 1000, some 1, some 1, some 1000, .idle, true, [1], [⟨1, 1, true⟩]⟩

theorem after_restarted (number : Nat) :
    (∃ _ : List Publication, after 60 restarted (number + 10) =
        { restartedShop with phase := phaseAt (number % 3) }) ∧
      restarted (number + 10) = scrapes [] (number % 3) := by
  refine @after_scrapes restarted [] (fun _ => restartedShop) 10 (scrapes_add_three []) ⟨[], rfl⟩
    (fun place hplace _ => ⟨[], ?_⟩) number
  obtain rfl | rfl | rfl := place_cases hplace
  · rfl
  · rfl
  · rfl

/-- The update of this run is never captured, although the scrapes go on to succeed. -/
theorem restarted_not_captured :
    (∀ id, Recurring (step 60) .start restarted (SearchesFor 60 id)) ∧ ¬ Captured 60 restarted := by
  constructor
  · intro id number
    obtain ⟨⟨-, hstate⟩, hevent⟩ := after_restarted (3 * number + 1)
    have hplace : (3 * number + 1) % 3 = 1 := by omega
    rw [hplace] at hstate hevent
    refine ⟨3 * number + 1 + 10, by omega, ?_⟩
    show SearchesFor 60 id (after 60 restarted (3 * number + 1 + 10)) _
    rw [hstate, hevent]
    have hpage : IsPage (updatedSince 60 [⟨1, 2, 0⟩] 1000) [] := by decide
    exact ⟨_, _, _, true, [], 1000, rfl, rfl, rfl, hpage, fun _ _ => rfl, fun _ horder _ _ => horder⟩
  · intro hcaptured
    have hold : ∀ number, ∀ publication ∈ (after 60 restarted number).published,
        publication.version = 1 := by
      intro number
      rcases Nat.lt_or_ge number 10 with hlt | hge
      · have hbefore : ∀ number < 10, ∀ publication ∈ (after 60 restarted number).published,
            publication.version = 1 := by decide
        exact hbefore number hlt
      · obtain ⟨later, rfl⟩ := Nat.exists_eq_add_of_le' hge
        have hshop : ∀ publication ∈ restartedShop.published, publication.version = 1 := by decide
        obtain ⟨⟨-, hstate⟩, -⟩ := after_restarted later
        rwa [hstate]
    obtain ⟨later, publication, hmem, -, hversion, -⟩ :=
      hcaptured 5 ⟨1, 2, 0⟩ (by decide) (by decide)
    have hone := hold later publication hmem
    rw [hone] at hversion
    exact absurd hversion (by decide)

end Shopify

end IntegrationPlatform
