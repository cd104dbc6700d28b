import Mathlib.Data.List.Sort
import IntegrationPlatform.Kafka.Publishing
import IntegrationPlatform.Stores.Pages
import IntegrationPlatform.Stores.Versions
import IntegrationPlatform.Transactions.Unending

/-!
# The scrapers with a window

The order scrapers of IdoSell and Shoper read, page by page, the orders that were modified in a window
from the last saved time to the start of the scrape, and then save this start. Shoper reads the products
of the orders in further pages. `modified_orders_published` says when no modified order is lost.
-/

namespace IntegrationPlatform

namespace WindowScrapers

open Publishing Versions Pages

/-! ## The scrapers -/

inductive Scraper where
  | idoSell
  | shoper
  deriving DecidableEq

/-- The sizes of the pages, and the fixed orders in which a shop lists orders and products. -/
structure Config where
  limit : Nat
  productsLimit : Nat
  ordersBefore : Item → Item → Bool
  productsBefore : Nat × Nat → Nat × Nat → Bool
  limit_pos : 0 < limit
  productsLimit_pos : 0 < productsLimit

/-- The next request of a scrape: for a page of orders or of products, or none before the publication. -/
inductive Stage where
  | orders (number : Nat)
  | products (number : Nat)
  | publish

/-- A scrape: the last saved time, its start, the next request, the orders that it has read (of IdoSell
they are already published) and their products. -/
structure Scrape where
  last : Option Nat
  started : Nat
  stage : Stage
  orders : List Item
  products : List (Nat × Nat)

/-- The orders of a shop, their products, the clock of shop and scraper, the saved time in memory and in
the database, the first saved time, the scrape under way, and what has been published. -/
structure State where
  orders : List Item
  products : List (Nat × Nat)
  now : Nat
  memory : Option Nat
  row : Option Nat
  first : Option Nat
  scrape : Option Scrape
  published : List Publication

/-- A shop without orders that has never been scraped. -/
def State.start : State := ⟨[], [], 0, none, none, none, none, []⟩

/-- The filter of the requests for orders. Shoper has none in the first scrape. -/
def inWindow (scraper : Scraper) (last : Option Nat) (started : Nat) (order : Item) : Bool :=
  match scraper with
  | .idoSell => last.all (· ≤ order.time) && order.time ≤ started
  | .shoper => last.all fun last => last ≤ order.time && order.time < started

/-- The orders that the pages of a scrape are about. -/
def window (scraper : Scraper) (config : Config) (orders : List Item) (scrape : Scrape) : List Item :=
  (orders.filter (inWindow scraper scrape.last scrape.started)).insertionSort fun order next =>
    config.ordersBefore order next = true

/-- The products that the further pages are about. -/
def orderProducts (config : Config) (products : List (Nat × Nat)) (scrape : Scrape) :
    List (Nat × Nat) :=
  (products.filter fun product => product.1 ∈ scrape.orders.map Item.id).insertionSort
    fun product next => config.productsBefore product next = true

/-- The state in which more orders have been published. -/
def State.publish (state : State) (complete : Item → Bool) (accepted : List Item) : State :=
  { state with
    published := accepted.map (fun order => ⟨order.id, order.version, complete order⟩) ++
      state.published }

/-- `_save_timestamp`, which ends the scrape. -/
def State.saveTimestamp (state : State) (started : Nat) (stored : Bool) : State :=
  { state with
    memory := some started
    row := if stored then some started else state.row
    first := some (state.first.getD started)
    scrape := none }

/-- A page of orders of IdoSell, which is published before the next one is asked for. -/
def idoSellPage (config : Config) (state : State) (scrape : Scrape) (number : Nat)
    (sends : Item → Outcome) (stored : Bool) : State :=
  let orders := window .idoSell config state.orders scrape
  let results := page config.limit orders number
  let loop := publishAll sends results
  let after := state.publish (fun _ => true) loop.1
  if loop.2 then
    if results.isEmpty || pageCount config.limit orders ≤ number + 1 then
      after.saveTimestamp scrape.started stored
    else { after with scrape := some { scrape with stage := .orders (number + 1) } }
  else { after with scrape := none }

/-- A page of orders of Shoper, by `get_paged`. -/
def shoperPage (config : Config) (state : State) (scrape : Scrape) (number : Nat) (stored : Bool) :
    State :=
  let orders := window .shoper config state.orders scrape
  let items := scrape.orders ++ page config.limit orders number
  if pageCount config.limit orders ≤ number + 1 then
    if items.isEmpty then state.saveTimestamp scrape.started stored
    else { state with scrape := some { scrape with stage := .products 0, orders := items } }
  else { state with scrape := some { scrape with stage := .orders (number + 1), orders := items } }

/-- A page of products of Shoper, by `get_bulk`, which ends at an answer without the page. -/
def bulkPage (config : Config) (state : State) (scrape : Scrape) (number : Nat) (answered : Bool) :
    State :=
  let products := orderProducts config state.products scrape
  if answered then
    { state with
      scrape := some { scrape with
        stage := if pageCount config.productsLimit products ≤ number + 1 then .publish
          else .products (number + 1)
        products := scrape.products ++ page config.productsLimit products number } }
  else { state with scrape := some { scrape with stage := .publish } }

/-- An order is published with all its products. -/
def State.complete (state : State) (scrape : Scrape) (order : Item) : Bool :=
  state.products.all fun product => product.1 != order.id || decide (product ∈ scrape.products)

/-- The publication of the orders of Shoper. -/
def publishOrders (state : State) (scrape : Scrape) (sends : Item → Outcome) (stored : Bool) : State :=
  let loop := publishAll sends scrape.orders
  let after := state.publish (state.complete scrape) loop.1
  if loop.2 then after.saveTimestamp scrape.started stored else { after with scrape := none }

/-- What happens: an order is created or modified, time passes, a scrape begins, gets an answer to its
next request or publishes, or something fails, or the process is started again. -/
inductive Event where
  | change (id : Nat) (products : List Nat)
  | clock (now : Nat)
  | scrape
  | ordersPage (sends : Item → Outcome) (stored : Bool)
  | productsPage (answered : Bool)
  | publish (sends : Item → Outcome) (stored : Bool)
  | fail
  | restart

/-- One step. -/
def step (scraper : Scraper) (config : Config) (state : State) : Event → State
  | .change id products =>
      { state with
        orders := change state.orders id state.now
        products := state.products.filter (·.1 ≠ id) ++ products.map (Prod.mk id) }
  | .clock now => if state.now ≤ now then { state with now } else state
  | .scrape =>
      match state.scrape with
      | none => { state with scrape := some ⟨state.memory, state.now, .orders 0, [], []⟩ }
      | some _ => state
  | .ordersPage sends stored =>
      match state.scrape with
      | some scrape =>
          match scrape.stage with
          | .orders number =>
              match scraper with
              | .idoSell => idoSellPage config state scrape number sends stored
              | .shoper => shoperPage config state scrape number stored
          | _ => state
      | none => state
  | .productsPage answered =>
      match state.scrape with
      | some scrape =>
          match scrape.stage with
          | .products number => bulkPage config state scrape number answered
          | _ => state
      | none => state
  | .publish sends stored =>
      match state.scrape with
      | some scrape =>
          match scrape.stage with
          | .publish => publishOrders state scrape sends stored
          | _ => state
      | none => state
  | .fail => { state with scrape := none }
  | .restart => { state with memory := state.row, scrape := none }

/-! ## What is promised, and when it holds -/

/-- The state before the step with this number. -/
def after (scraper : Scraper) (config : Config) (events : Nat → Event) (number : Nat) : State :=
  stateAt (step scraper config) .start events number

/-- An order was modified at or after the time of the first scrape. -/
def State.Due (state : State) (order : Item) : Prop :=
  ∃ first, state.first = some first ∧ first ≤ order.time

/-- Every order that is modified after the first scrape is published with its products, in that state or in
a newer one. -/
def Published (scraper : Scraper) (config : Config) (events : Nat → Event) : Prop :=
  ∀ number, ∀ order ∈ (after scraper config events number).orders,
    (after scraper config events number).Due order →
    ∃ later, Covered (after scraper config events later).published order.id order.version

/-- The newest state of an order is due and has not been published with its products. -/
def State.Owed (state : State) (order : Item) : Prop :=
  state.Due order ∧ ¬ Covered state.published order.id order.version

/-- When a page of orders is asked for, each unpublished order of the window that lies on an earlier page
has been read, and when a page of products is asked for, the products of unpublished orders that lie on an
earlier page have been read, and if there is no answer, then all of them. -/
def Condition (scraper : Scraper) (config : Config) (state : State) : Event → Prop
  | .ordersPage _ _ =>
      ∀ scrape number, state.scrape = some scrape → scrape.stage = .orders number →
        ∀ order ∈ (window scraper config state.orders scrape).take (number * config.limit),
          order.time < scrape.started → state.Owed order → order ∈ scrape.orders
  | .productsPage answered =>
      ∀ scrape number, state.scrape = some scrape → scrape.stage = .products number →
        ∀ order ∈ state.orders, order.time < scrape.started → state.Owed order →
          ∀ product ∈ orderProducts config state.products scrape, product.1 = order.id →
            (answered = true → product ∈ (orderProducts config state.products scrape).take
              (number * config.productsLimit)) →
            product ∈ scrape.products
  | _ => True

/-- A scrape succeeds that was started after the last modification of an order. -/
def Scrapes (scraper : Scraper) (config : Config) (id : Nat) (state : State) (event : Event) : Prop :=
  ∃ scrape, state.scrape = some scrape ∧ (step scraper config state event).scrape = none ∧
    (step scraper config state event).memory = some scrape.started ∧
    ∀ order ∈ state.orders, order.id = id → order.time < scrape.started

/-! ## What every step keeps -/

section Steps

variable {scraper : Scraper} {config : Config} {state : State} {scrape : Scrape} {order : Item}

/-- Nothing that is modified before this time is owed, but what is among these orders. -/
def State.OwedIn (state : State) (started : Nat) (orders : List Item) : Prop :=
  ∀ order ∈ state.orders, order.time < started → state.Owed order → order ∈ orders

/-- What holds of a scrape under way: it starts from the saved time, and not in the future; when all pages
of orders have been read, it has all orders that are owed, and before they are published, their
products. -/
structure UnderWay (state : State) (scrape : Scrape) : Prop where
  last : scrape.last = state.memory
  started : scrape.started ≤ state.now
  memory : ∀ time, state.memory = some time → time ≤ scrape.started
  orders : (∀ number, scrape.stage ≠ .orders number) → state.OwedIn scrape.started scrape.orders
  products : scrape.stage = .publish → ∀ order ∈ state.orders, order.time < scrape.started →
    state.Owed order → ∀ product ∈ state.products, product.1 = order.id → product ∈ scrape.products

/-- What holds in every state of a run that meets the condition: there is no saved time before the first
one, it does not lie in the future, the stored one is not later, and an order that is owed was not
modified before it. -/
structure Kept (scraper : Scraper) (state : State) : Prop where
  first : state.first = none → state.memory = none
  now : ∀ time, state.memory = some time → time ≤ state.now
  row : ∀ stored, state.row = some stored → ∃ time, state.memory = some time ∧ stored ≤ time
  reach : ∀ order ∈ state.orders, state.Owed order → ∀ time, state.memory = some time →
    time ≤ order.time
  scrape : ∀ scrape, state.scrape = some scrape → UnderWay state scrape
  idoSell : scraper = .idoSell → ∀ scrape, state.scrape = some scrape →
    scrape.orders = [] ∧ ∃ number, scrape.stage = .orders number

theorem published_subset_publish (state : State) (complete : Item → Bool) (accepted : List Item) :
    state.published ⊆ (state.publish complete accepted).published :=
  List.subset_append_right _ _

theorem owed_of_publish {complete : Item → Bool} {accepted : List Item}
    (h : (state.publish complete accepted).Owed order) : state.Owed order :=
  ⟨h.1, fun hcovered => h.2 (hcovered.mono (published_subset_publish state complete accepted))⟩

theorem covered_publish {complete : Item → Bool} {accepted : List Item} (h : order ∈ accepted)
    (hcomplete : complete order = true) :
    Covered (state.publish complete accepted).published order.id order.version :=
  covered_of_mem h hcomplete state.published

theorem UnderWay.publish (h : UnderWay state scrape) (complete : Item → Bool) (accepted : List Item) :
    UnderWay (state.publish complete accepted) scrape :=
  ⟨h.last, h.started, h.memory,
    fun hstage order horder hlt howed => h.orders hstage order horder hlt (owed_of_publish howed),
    fun hstage order horder hlt howed => h.products hstage order horder hlt (owed_of_publish howed)⟩

theorem Kept.publish (h : Kept scraper state) (complete : Item → Bool) (accepted : List Item) :
    Kept scraper (state.publish complete accepted) :=
  ⟨h.first, h.now, h.row,
    fun order horder howed => h.reach order horder (owed_of_publish howed),
    fun scrape hscrape => (h.scrape scrape hscrape).publish complete accepted, h.idoSell⟩

theorem Kept.withScrape (h : Kept scraper state) {scrape : Option Scrape}
    (hscrape : ∀ next, scrape = some next → UnderWay state next)
    (hidoSell : scraper = .idoSell → ∀ next, scrape = some next →
      next.orders = [] ∧ ∃ number, next.stage = .orders number) :
    Kept scraper { state with scrape } := by
  refine ⟨h.first, h.now, h.row, h.reach, fun next hnext => ?_, hidoSell⟩
  obtain ⟨hlast, hstarted, hmemory, horders, hproducts⟩ := hscrape next hnext
  exact ⟨hlast, hstarted, hmemory, horders, hproducts⟩

theorem Kept.fail (h : Kept scraper state) : Kept scraper { state with scrape := none } :=
  h.withScrape (fun _ hnone => nomatch hnone) fun _ _ hnone => nomatch hnone

theorem Kept.saveTimestamp (h : Kept scraper state) (hscrape : UnderWay state scrape)
    (hpublished : state.OwedIn scrape.started []) (stored : Bool) :
    Kept scraper (state.saveTimestamp scrape.started stored) := by
  refine ⟨fun hnone => (nomatch hnone), ?_, ?_, ?_, fun _ hnone => (nomatch hnone),
    fun _ _ hnone => (nomatch hnone)⟩
  · rintro time ⟨⟩
    exact hscrape.started
  · intro before hbefore
    refine ⟨scrape.started, rfl, ?_⟩
    unfold State.saveTimestamp at hbefore
    dsimp only at hbefore
    split at hbefore
    · exact (Option.some.inj hbefore).symm.le
    · obtain ⟨time, hmemory, hle⟩ := h.row before hbefore
      exact hle.trans (hscrape.memory time hmemory)
  · rintro order horder ⟨⟨first, hfirst, hle⟩, huncovered⟩ time ⟨⟩
    cases hbefore : state.first with
    | none =>
        -- This is the first save.
        unfold State.saveTimestamp at hfirst
        dsimp only at hfirst
        rw [hbefore, Option.getD_none] at hfirst
        cases hfirst
        exact hle
    | some before =>
        unfold State.saveTimestamp at hfirst
        dsimp only at hfirst
        rw [hbefore, Option.getD_some] at hfirst
        cases hfirst
        refine Nat.le_of_not_lt fun hlt => ?_
        exact List.not_mem_nil (hpublished order horder hlt ⟨⟨first, hbefore, hle⟩, huncovered⟩)

theorem mem_window (config : Config) (h : Kept scraper state) (hscrape : UnderWay state scrape)
    (horder : order ∈ state.orders) (hlt : order.time < scrape.started) (howed : state.Owed order) :
    order ∈ window scraper config state.orders scrape := by
  refine (List.mem_insertionSort _).mpr (List.mem_filter.mpr ⟨horder, ?_⟩)
  have hsince : ∀ last, scrape.last = some last → last ≤ order.time := by
    intro last hlast
    exact h.reach order horder howed last (hscrape.last ▸ hlast)
  unfold inWindow
  cases scraper with
  | idoSell =>
      cases hlast : scrape.last with
      | none => simpa using hlt.le
      | some last => simpa using ⟨hsince last hlast, hlt.le⟩
  | shoper =>
      cases hlast : scrape.last with
      | none => rfl
      | some last => simpa using ⟨hsince last hlast, hlt⟩

variable {number : Nat}

theorem owedIn_of_last (h : Kept scraper state) (hscrape : state.scrape = some scrape)
    (hstage : scrape.stage = .orders number) {sends : Item → Outcome} {stored : Bool}
    (hkeeps : Condition scraper config state (.ordersPage sends stored))
    (hlast : page config.limit (window scraper config state.orders scrape) number = [] ∨
      pageCount config.limit (window scraper config state.orders scrape) ≤ number + 1) :
    state.OwedIn scrape.started
      (scrape.orders ++ page config.limit (window scraper config state.orders scrape) number) := by
  intro order horder hlt howed
  have hmem := mem_window config h (h.scrape scrape hscrape) horder hlt howed
  have hearlier := hkeeps scrape number hscrape hstage order
  rcases hlast with hempty | hlast
  · exact List.mem_append_left _ (hearlier (mem_of_page_eq_nil config.limit_pos hempty hmem) hlt howed)
  · rcases mem_of_last config.limit_pos hlast hmem with hbefore | hpage
    · exact List.mem_append_left _ (hearlier hbefore hlt howed)
    · exact List.mem_append_right _ hpage

theorem Kept.idoSellPage (h : Kept .idoSell state) (hscrape : state.scrape = some scrape)
    (hstage : scrape.stage = .orders number) (sends : Item → Outcome) (stored : Bool)
    (hkeeps : Condition .idoSell config state (.ordersPage sends stored)) :
    Kept .idoSell (idoSellPage config state scrape number sends stored) := by
  have hunder := h.scrape scrape hscrape
  obtain ⟨hnone, -⟩ := h.idoSell rfl scrape hscrape
  unfold WindowScrapers.idoSellPage
  dsimp only
  split
  · next hends =>
    rw [publishAll_of_ends hends]
    split
    · next hlast =>
      rw [Bool.or_eq_true, List.isEmpty_iff, decide_eq_true_eq] at hlast
      refine (h.publish _ _).saveTimestamp (hunder.publish _ _) ?_ stored
      intro order horder hlt howed
      have hread := owedIn_of_last h hscrape hstage hkeeps hlast order horder hlt (owed_of_publish howed)
      rw [hnone, List.nil_append] at hread
      exact absurd (covered_publish hread rfl) howed.2
    · refine (h.publish _ _).withScrape ?_ ?_
      · rintro next ⟨⟩
        exact ⟨hunder.last, hunder.started, hunder.memory,
          fun horders => absurd rfl (horders (number + 1)), fun hpublish => nomatch hpublish⟩
      · rintro - next ⟨⟩
        exact ⟨hnone, number + 1, rfl⟩
  · exact (h.publish _ _).fail

theorem Kept.shoperPage (h : Kept .shoper state) (hscrape : state.scrape = some scrape)
    (hstage : scrape.stage = .orders number) (sends : Item → Outcome) (stored : Bool)
    (hkeeps : Condition .shoper config state (.ordersPage sends stored)) :
    Kept .shoper (shoperPage config state scrape number stored) := by
  have hunder := h.scrape scrape hscrape
  unfold WindowScrapers.shoperPage
  dsimp only
  split
  · next hlast =>
    have hread := owedIn_of_last h hscrape hstage hkeeps (.inr hlast)
    split
    · next hempty =>
      refine h.saveTimestamp hunder ?_ stored
      rwa [List.isEmpty_iff.mp hempty] at hread
    · refine h.withScrape ?_ fun hidoSell => nomatch hidoSell
      rintro next ⟨⟩
      exact ⟨hunder.last, hunder.started, hunder.memory, fun _ => hread,
        fun hpublish => nomatch hpublish⟩
  · refine h.withScrape ?_ fun hidoSell => nomatch hidoSell
    rintro next ⟨⟩
    exact ⟨hunder.last, hunder.started, hunder.memory,
      fun horders => absurd rfl (horders (number + 1)), fun hpublish => nomatch hpublish⟩

theorem Kept.bulkPage (h : Kept .shoper state) (hscrape : state.scrape = some scrape)
    (hstage : scrape.stage = .products number) (answered : Bool)
    (hkeeps : Condition .shoper config state (.productsPage answered)) :
    Kept .shoper (bulkPage config state scrape number answered) := by
  have hunder := h.scrape scrape hscrape
  have hread : state.OwedIn scrape.started scrape.orders := by
    refine hunder.orders fun other hother => ?_
    cases hstage.symm.trans hother
  -- The products of an order that is owed are asked for.
  have hasked : ∀ order ∈ state.orders, order.time < scrape.started → state.Owed order →
      ∀ product ∈ state.products, product.1 = order.id →
        product ∈ orderProducts config state.products scrape := by
    intro order horder hlt howed product hproduct hid
    refine (List.mem_insertionSort _).mpr (List.mem_filter.mpr ⟨hproduct, decide_eq_true ?_⟩)
    exact hid ▸ List.mem_map_of_mem (hread order horder hlt howed)
  have hearlier := hkeeps scrape number hscrape hstage
  unfold WindowScrapers.bulkPage
  dsimp only
  split
  · next hanswered =>
    refine h.withScrape ?_ fun hidoSell => nomatch hidoSell
    rintro next ⟨⟩
    refine ⟨hunder.last, hunder.started, hunder.memory, fun _ => hread, ?_⟩
    intro hpublish order horder hlt howed product hproduct hid
    dsimp only at hpublish
    split at hpublish
    · next hlast =>
      have hmem := hasked order horder hlt howed product hproduct hid
      rcases mem_of_last config.productsLimit_pos hlast hmem with hbefore | hpage
      · exact List.mem_append_left _ (hearlier order horder hlt howed product hmem hid fun _ => hbefore)
      · exact List.mem_append_right _ hpage
    · cases hpublish
  · next hanswered =>
    refine h.withScrape ?_ fun hidoSell => nomatch hidoSell
    rintro next ⟨⟩
    refine ⟨hunder.last, hunder.started, hunder.memory, fun _ => hread, ?_⟩
    intro _ order horder hlt howed product hproduct hid
    exact hearlier order horder hlt howed product (hasked order horder hlt howed product hproduct hid)
      hid fun htrue => absurd htrue hanswered

theorem Kept.publishOrders (h : Kept scraper state) (hscrape : state.scrape = some scrape)
    (hstage : scrape.stage = .publish) (sends : Item → Outcome) (stored : Bool) :
    Kept scraper (publishOrders state scrape sends stored) := by
  have hunder := h.scrape scrape hscrape
  unfold WindowScrapers.publishOrders
  dsimp only
  split
  · next hends =>
    rw [publishAll_of_ends hends]
    refine (h.publish _ _).saveTimestamp (hunder.publish _ _) ?_ stored
    intro order horder hlt howed
    have howed' := owed_of_publish howed
    have hread := hunder.orders (fun number horders => by cases hstage.symm.trans horders) order horder
      hlt howed'
    refine absurd (covered_publish hread ?_) howed.2
    refine List.all_eq_true.mpr fun product hproduct => ?_
    by_cases hid : product.1 = order.id
    · rw [Bool.or_eq_true, decide_eq_true_eq]
      exact .inr (hunder.products hstage order horder hlt howed' product hproduct hid)
    · rw [Bool.or_eq_true, bne_iff_ne]
      exact .inl hid
  · exact (h.publish _ _).fail

theorem Kept.restart (h : Kept scraper state) :
    Kept scraper { state with memory := state.row, scrape := none } := by
  refine ⟨fun hfirst => ?_, fun time hrow => ?_, fun stored hrow => ⟨stored, hrow, le_rfl⟩,
    fun order horder howed time hrow => ?_, fun _ hnone => (nomatch hnone),
    fun _ _ hnone => (nomatch hnone)⟩
  · show state.row = none
    cases hrow : state.row with
    | none => rfl
    | some stored =>
        obtain ⟨time, hmemory, -⟩ := h.row stored hrow
        cases (h.first hfirst).symm.trans hmemory
  · obtain ⟨before, hmemory, hle⟩ := h.row time hrow
    exact hle.trans (h.now before hmemory)
  · obtain ⟨before, hmemory, hle⟩ := h.row time hrow
    exact hle.trans (h.reach order horder howed before hmemory)

theorem Kept.clock (h : Kept scraper state) {now : Nat} (hle : state.now ≤ now) :
    Kept scraper { state with now } := by
  refine ⟨h.first, fun time hmemory => (h.now time hmemory).trans hle, h.row, h.reach,
    fun scrape hscrape => ?_, h.idoSell⟩
  obtain ⟨hlast, hstarted, hmemory, horders, hproducts⟩ := h.scrape scrape hscrape
  exact ⟨hlast, hstarted.trans hle, hmemory, horders, hproducts⟩

theorem Kept.begin (h : Kept scraper state) :
    Kept scraper { state with scrape := some ⟨state.memory, state.now, .orders 0, [], []⟩ } := by
  refine h.withScrape ?_ ?_
  · rintro next ⟨⟩
    exact ⟨rfl, le_rfl, h.now, fun horders => absurd rfl (horders 0), fun hpublish => nomatch hpublish⟩
  · rintro - next ⟨⟩
    exact ⟨rfl, 0, rfl⟩

theorem mem_change_cases {id : Nat} (horder : order ∈ change state.orders id state.now) :
    order ∈ state.orders ∧ order.id ≠ id ∨ order.time = state.now := by
  by_cases hid : order.id = id
  · exact .inr (time_of_mem_change horder hid)
  · exact .inl ⟨(mem_of_mem_change horder).resolve_right fun hchanged => hid hchanged.1, hid⟩

theorem UnderWay.change (h : UnderWay state scrape) (id : Nat) (products : List Nat) :
    UnderWay { state with
      orders := change state.orders id state.now
      products := state.products.filter (·.1 ≠ id) ++ products.map (Prod.mk id) } scrape := by
  refine ⟨h.last, h.started, h.memory, fun hstage order horder hlt howed => ?_,
    fun hstage order horder hlt howed product hproduct hid => ?_⟩
  · rcases mem_change_cases horder with ⟨hbefore, -⟩ | htime
    · exact h.orders hstage order hbefore hlt howed
    · exact absurd (htime ▸ hlt) (Nat.not_lt.mpr h.started)
  · rcases mem_change_cases horder with ⟨hbefore, hne⟩ | htime
    · refine h.products hstage order hbefore hlt howed product ?_ hid
      rcases List.mem_append.mp hproduct with hold | hnew
      · exact (List.mem_filter.mp hold).1
      · obtain ⟨line, -, rfl⟩ := List.mem_map.mp hnew
        exact absurd hid.symm hne
    · exact absurd (htime ▸ hlt) (Nat.not_lt.mpr h.started)

theorem Kept.change (h : Kept scraper state) (id : Nat) (products : List Nat) :
    Kept scraper { state with
      orders := change state.orders id state.now
      products := state.products.filter (·.1 ≠ id) ++ products.map (Prod.mk id) } := by
  refine ⟨h.first, h.now, h.row, fun order horder howed time hmemory => ?_,
    fun scrape hscrape => (h.scrape scrape hscrape).change id products, h.idoSell⟩
  rcases mem_change_cases horder with ⟨hbefore, -⟩ | htime
  · exact h.reach order hbefore howed time hmemory
  · exact (h.now time hmemory).trans_eq htime.symm

/-- A step that meets the condition keeps all this. -/
theorem Kept.step (h : Kept scraper state) {event : Event}
    (hkeeps : Condition scraper config state event) : Kept scraper (step scraper config state event) := by
  cases event with
  | fail => exact h.fail
  | restart => exact h.restart
  | change id products => exact h.change id products
  | clock now =>
      unfold WindowScrapers.step
      dsimp only
      split
      · next hle => exact h.clock hle
      · exact h
  | scrape =>
      unfold WindowScrapers.step
      dsimp only
      split
      · exact h.begin
      · exact h
  | ordersPage sends stored =>
      unfold WindowScrapers.step
      dsimp only
      split
      · next scrape hscrape =>
        split
        · next number hstage =>
          cases scraper with
          | idoSell => exact h.idoSellPage hscrape hstage sends stored hkeeps
          | shoper => exact h.shoperPage hscrape hstage sends stored hkeeps
        · exact h
      · exact h
  | productsPage answered =>
      unfold WindowScrapers.step
      dsimp only
      split
      · next scrape hscrape =>
        split
        · next number hstage =>
          cases scraper with
          | idoSell =>
              obtain ⟨-, page, hpage⟩ := h.idoSell rfl scrape hscrape
              cases hstage.symm.trans hpage
          | shoper => exact h.bulkPage hscrape hstage answered hkeeps
        · exact h
      · exact h
  | publish sends stored =>
      unfold WindowScrapers.step
      dsimp only
      split
      · next scrape hscrape =>
        split
        · next hstage => exact h.publishOrders hscrape hstage sends stored
        · exact h
      · exact h

/-- What a step that changes no order leaves alone. -/
structure Frame (before after : State) : Prop where
  orders : after.orders = before.orders
  now : before.now ≤ after.now
  first : ∀ first, before.first = some first → after.first = some first

theorem frame_saveTimestamp (state : State) (started : Nat) (stored : Bool) :
    Frame state (state.saveTimestamp started stored) := by
  refine ⟨rfl, le_rfl, fun first hfirst => ?_⟩
  unfold State.saveTimestamp
  dsimp only
  rw [hfirst]
  rfl

theorem frame_idoSellPage (config : Config) (state : State) (scrape : Scrape) (number : Nat)
    (sends : Item → Outcome) (stored : Bool) :
    Frame state (idoSellPage config state scrape number sends stored) := by
  unfold idoSellPage
  dsimp only
  split
  · split
    · obtain ⟨horders, hnow, hfirst⟩ := frame_saveTimestamp (state.publish (fun _ => true)
        (publishAll sends
          (page config.limit (window .idoSell config state.orders scrape) number)).1) scrape.started stored
      exact ⟨horders, hnow, hfirst⟩
    · exact ⟨rfl, le_rfl, fun _ hfirst => hfirst⟩
  · exact ⟨rfl, le_rfl, fun _ hfirst => hfirst⟩

theorem frame_shoperPage (config : Config) (state : State) (scrape : Scrape) (number : Nat)
    (stored : Bool) : Frame state (shoperPage config state scrape number stored) := by
  unfold shoperPage
  dsimp only
  split
  · split
    · exact frame_saveTimestamp state scrape.started stored
    · exact ⟨rfl, le_rfl, fun _ hfirst => hfirst⟩
  · exact ⟨rfl, le_rfl, fun _ hfirst => hfirst⟩

theorem frame_bulkPage (config : Config) (state : State) (scrape : Scrape) (number : Nat)
    (answered : Bool) : Frame state (bulkPage config state scrape number answered) := by
  unfold bulkPage
  dsimp only
  split
  · exact ⟨rfl, le_rfl, fun _ hfirst => hfirst⟩
  · exact ⟨rfl, le_rfl, fun _ hfirst => hfirst⟩

theorem frame_publishOrders (state : State) (scrape : Scrape) (sends : Item → Outcome)
    (stored : Bool) : Frame state (publishOrders state scrape sends stored) := by
  unfold publishOrders
  dsimp only
  split
  · obtain ⟨horders, hnow, hfirst⟩ := frame_saveTimestamp
      (state.publish (state.complete scrape) (publishAll sends scrape.orders).1) scrape.started stored
    exact ⟨horders, hnow, hfirst⟩
  · exact ⟨rfl, le_rfl, fun _ hfirst => hfirst⟩

/-- A step changes an order, or it leaves the orders alone. -/
theorem frame_step (scraper : Scraper) (config : Config) (state : State) (event : Event) :
    (∃ id products, event = .change id products) ∨ Frame state (step scraper config state event) := by
  have hsame : Frame state state := ⟨rfl, le_rfl, fun _ hfirst => hfirst⟩
  cases event with
  | change id products => exact .inl ⟨id, products, rfl⟩
  | fail => exact .inr ⟨rfl, le_rfl, fun _ hfirst => hfirst⟩
  | restart => exact .inr ⟨rfl, le_rfl, fun _ hfirst => hfirst⟩
  | clock now =>
      right
      unfold step
      dsimp only
      split
      · next hle => exact ⟨rfl, hle, fun _ hfirst => hfirst⟩
      · exact hsame
  | scrape =>
      right
      unfold step
      dsimp only
      split
      · exact ⟨rfl, le_rfl, fun _ hfirst => hfirst⟩
      · exact hsame
  | ordersPage sends stored =>
      right
      unfold step
      dsimp only
      split
      · next scrape _ =>
        split
        · next number _ =>
          cases scraper with
          | idoSell => exact frame_idoSellPage config state scrape number sends stored
          | shoper => exact frame_shoperPage config state scrape number stored
        · exact hsame
      · exact hsame
  | productsPage answered =>
      right
      unfold step
      dsimp only
      split
      · next scrape _ =>
        split
        · next number _ => exact frame_bulkPage config state scrape number answered
        · exact hsame
      · exact hsame
  | publish sends stored =>
      right
      unfold step
      dsimp only
      split
      · next scrape _ =>
        split
        · exact frame_publishOrders state scrape sends stored
        · exact hsame
      · exact hsame

/-- No order is modified in the future. -/
def Timed (state : State) : Prop :=
  ∀ order ∈ state.orders, order.time ≤ state.now

theorem Timed.step (h : Timed state) (event : Event) : Timed (step scraper config state event) := by
  rcases frame_step scraper config state event with ⟨id, products, rfl⟩ | hframe
  · intro order horder
    rcases mem_of_mem_change horder with hbefore | ⟨-, htime⟩
    · exact h order hbefore
    · exact htime.le
  · intro order horder
    rw [hframe.orders] at horder
    exact (h order horder).trans hframe.now

theorem exists_newer_step (scraper : Scraper) (config : Config) (h : Timed state)
    (horder : order ∈ state.orders) (hdue : state.Due order) (event : Event) :
    ∃ newer ∈ (step scraper config state event).orders, newer.id = order.id ∧
      order.version ≤ newer.version ∧ (step scraper config state event).Due newer := by
  obtain ⟨first, hfirst, hle⟩ := hdue
  rcases frame_step scraper config state event with ⟨id, products, rfl⟩ | hframe
  · by_cases hid : order.id = id
    · obtain ⟨newer, hnewer, hsame, hversion⟩ :=
        Has.change ⟨order, horder, rfl, le_rfl⟩ id state.now
      refine ⟨newer, hnewer, hsame, hversion, first, hfirst, ?_⟩
      rw [time_of_mem_change hnewer (hsame.trans hid)]
      exact hle.trans (h order horder)
    · exact ⟨order, mem_change_of_ne horder hid, rfl, le_rfl, first, hfirst, hle⟩
  · exact ⟨order, hframe.orders ▸ horder, rfl, le_rfl, first, hframe.first first hfirst, hle⟩

end Steps

/-! ## Runs -/

/-- In every run whose steps meet the condition no modified order is lost, if for each order scrapes go on
to succeed that were started after its last modification. -/
theorem modified_orders_published (scraper : Scraper) (config : Config) (events : Nat → Event)
    (hkeeps : ∀ number, Condition scraper config (after scraper config events number) (events number))
    (hscrapes : ∀ id, Recurring (step scraper config) .start events (Scrapes scraper config id)) :
    Published scraper config events := by
  have hkept : ∀ number, Kept scraper (after scraper config events number) := by
    intro number
    induction number with
    | zero =>
        exact ⟨fun _ => rfl, fun _ hnone => (nomatch hnone), fun _ hnone => (nomatch hnone),
          fun _ horder => absurd horder List.not_mem_nil, fun _ hnone => (nomatch hnone),
          fun _ _ hnone => (nomatch hnone)⟩
    | succ number ih => exact ih.step (hkeeps number)
  have htimed : ∀ number, Timed (after scraper config events number) := by
    intro number
    induction number with
    | zero => exact fun _ horder => absurd horder List.not_mem_nil
    | succ number ih => exact ih.step (events number)
  intro number order horder hdue
  obtain ⟨later, hle, hcloses⟩ := hscrapes order.id number
  -- The order as it is when the scrape ends.
  have hnewer : ∃ newer ∈ (after scraper config events later).orders, newer.id = order.id ∧
      order.version ≤ newer.version ∧ (after scraper config events later).Due newer :=
    exists_newer (fun number _ hmem hdue =>
      exists_newer_step scraper config (htimed number) hmem hdue (events number)) hle horder hdue
  obtain ⟨newer, hmem, hid, hversion, hdue'⟩ := hnewer
  obtain ⟨scrape, hscrape, hends, hmemory, hbefore⟩ := hcloses
  refine ⟨later + 1, hid ▸ Covered.of_le ?_ hversion⟩
  by_contra huncovered
  have hlt : newer.time < scrape.started := hbefore newer hmem hid
  rcases frame_step scraper config (after scraper config events later) (events later) with
    ⟨id, products, hchange⟩ | hframe
  · -- A change does not end a scrape.
    have hstays : (step scraper config (after scraper config events later) (events later)).scrape =
        (after scraper config events later).scrape := by
      rw [hchange]
      rfl
    cases (hstays.symm.trans hends).symm.trans hscrape
  · obtain ⟨first, hfirst, hfirst'⟩ := hdue'
    have hmem' : newer ∈ (after scraper config events (later + 1)).orders := hframe.orders ▸ hmem
    have howed : (after scraper config events (later + 1)).Owed newer :=
      ⟨⟨first, hframe.first first hfirst, hfirst'⟩, huncovered⟩
    have hreach := (hkept (later + 1)).reach newer hmem' howed scrape.started hmemory
    omega

/-! ## Two runs -/

/-- A shop with pages of one order, sorted by id. -/
def small : Config :=
  ⟨1, 1, fun order next => order.id ≤ next.id, fun product next => product.2 ≤ next.2, by decide,
    by decide⟩

/-- Scrapes with one page, one after the other, in which everything succeeds. -/
def scrapes (number : Nat) : Event :=
  match number % 2 with
  | 0 => .scrape
  | _ => .ordersPage (fun _ => .returned) true

theorem scrapes_add_two (number : Nat) : scrapes (number + 2) = scrapes number := by
  unfold scrapes
  rw [Nat.add_mod_right]

/-- From this step on, scrapes begin and end in the same two states. -/
def Alternates (events : Nat → Event) (shop : State) (start : Nat) : Prop :=
  ∀ number, number % 2 = 0 ∧ after .idoSell small events (number + start) = shop ∧
      events (number + start) = .scrape ∨
    number % 2 = 1 ∧
      after .idoSell small events (number + start) = step .idoSell small shop .scrape ∧
      events (number + start) = .ordersPage (fun _ => .returned) true

theorem after_scrapes {events : Nat → Event} {shop : State} {start : Nat}
    (hevents : ∀ number, events (number + start) = scrapes number)
    (hstart : after .idoSell small events start = shop)
    (hends : step .idoSell small (step .idoSell small shop .scrape)
      (.ordersPage (fun _ => .returned) true) = shop) : Alternates events shop start := by
  intro number
  obtain ⟨hstate, hevent⟩ := @stateAt_rounds _ _ (step .idoSell small) .start events start 2 Nat.two_pos
    (fun place state => state = if place = 0 then shop else step .idoSell small shop .scrape)
    (fun number => by rw [hevents, hevents, scrapes_add_two]) hstart
    (fun offset hoffset state hstate => by
      subst hstate
      rw [hevents]
      obtain rfl | rfl : offset = 0 ∨ offset = 1 := by omega
      · rfl
      · exact hends) number
  rw [hevents (number % 2)] at hevent
  obtain hparity | hparity := Nat.mod_two_eq_zero_or_one number
  · rw [hparity] at hstate hevent
    exact .inl ⟨hparity, hstate, hevent⟩
  · rw [hparity] at hstate hevent
    exact .inr ⟨hparity, hstate, hevent⟩

/-- After a first scrape two orders are created, and the next scrape reads them on two pages. -/
def undisturbed : Nat → Event
  | 0 => .scrape
  | 1 => .ordersPage (fun _ => .returned) true
  | 2 => .change 1 []
  | 3 => .change 2 []
  | 4 => .clock 10
  | 5 => .scrape
  | 6 => .ordersPage (fun _ => .returned) true
  | 7 => .ordersPage (fun _ => .returned) true
  | number + 8 => scrapes number

/-- After a first scrape two orders are created, and between the two pages of the next one the first order
is modified again. -/
def shifted : Nat → Event
  | 0 => .scrape
  | 1 => .ordersPage (fun _ => .returned) true
  | 2 => .change 1 []
  | 3 => .change 2 []
  | 4 => .clock 10
  | 5 => .scrape
  | 6 => .ordersPage (fun _ => .returned) true
  | 7 => .clock 11
  | 8 => .change 1 []
  | 9 => .ordersPage (fun _ => .returned) true
  | 10 => .clock 20
  | number + 11 => scrapes number

/-- The state between the scrapes of `undisturbed`. -/
def undisturbedShop : State :=
  ⟨[⟨1, 1, 0⟩, ⟨2, 1, 0⟩], [], 10, some 10, some 10, some 0, none, [⟨2, 1, true⟩, ⟨1, 1, true⟩]⟩

theorem after_undisturbed : Alternates undisturbed undisturbedShop 8 :=
  after_scrapes (fun _ => rfl) rfl rfl

theorem condition_ordersPage {state : State} {scrape : Scrape} {number : Nat}
    (hscrape : state.scrape = some scrape) (hstage : scrape.stage = .orders number)
    (hcovered : ∀ order ∈ (window .idoSell small state.orders scrape).take (number * small.limit),
      Covered state.published order.id order.version) (sends : Item → Outcome) (stored : Bool) :
    Condition .idoSell small state (.ordersPage sends stored) := by
  intro scrape' number' hscrape' hstage' order horder _ howed
  cases hscrape.symm.trans hscrape'
  cases hstage.symm.trans hstage'
  exact absurd (hcovered order horder) howed.2

theorem condition_first_page {state : State} {scrape : Scrape} (hscrape : state.scrape = some scrape)
    (hstage : scrape.stage = .orders 0) (sends : Item → Outcome) (stored : Bool) :
    Condition .idoSell small state (.ordersPage sends stored) := by
  refine condition_ordersPage hscrape hstage (fun order horder => ?_) sends stored
  rw [Nat.zero_mul, List.take_zero] at horder
  exact absurd horder List.not_mem_nil

/-- Both orders of this run are published. -/
theorem undisturbed_published : Published .idoSell small undisturbed := by
  refine modified_orders_published .idoSell small undisturbed ?_ ?_
  · intro number
    match number with
    | 0 => trivial
    | 1 => exact condition_first_page rfl rfl _ _
    | 2 => trivial
    | 3 => trivial
    | 4 => trivial
    | 5 => trivial
    | 6 => exact condition_first_page rfl rfl _ _
    | 7 =>
        refine condition_ordersPage rfl rfl (fun order horder => ?_) _ _
        obtain rfl := List.mem_singleton.mp horder
        exact ⟨⟨1, 1, true⟩, List.mem_singleton_self _, rfl, le_rfl, rfl⟩
    | number + 8 =>
        rcases after_undisturbed number with ⟨-, -, hevent⟩ | ⟨-, hstate, hevent⟩
        · rw [hevent]
          trivial
        · rw [hevent, hstate]
          exact condition_first_page rfl rfl _ _
  · intro id number
    refine ⟨2 * number + 1 + 8, by omega, ?_⟩
    rcases after_undisturbed (2 * number + 1) with ⟨hparity, -⟩ | ⟨-, hstate, hevent⟩
    · omega
    · show Scrapes .idoSell small id (after .idoSell small undisturbed (2 * number + 1 + 8)) _
      rw [hevent, hstate]
      have htimes : ∀ order ∈ undisturbedShop.orders, order.time < 10 := by decide
      exact ⟨_, rfl, rfl, rfl, fun order horder _ => htimes order horder⟩

/-- The state between the last scrapes of `shifted`. -/
def shiftedShop : State :=
  ⟨[⟨1, 2, 11⟩, ⟨2, 1, 0⟩], [], 20, some 20, some 20, some 0, none, [⟨1, 2, true⟩, ⟨1, 1, true⟩]⟩

theorem after_shifted : Alternates shifted shiftedShop 13 :=
  after_scrapes scrapes_add_two rfl rfl

/-- The second order of this run is never published, although scrapes go on to succeed. -/
theorem shifted_not_published :
    (∀ id, Recurring (step .idoSell small) .start shifted (Scrapes .idoSell small id)) ∧
      ¬ Published .idoSell small shifted := by
  constructor
  · intro id number
    refine ⟨2 * number + 1 + 13, by omega, ?_⟩
    rcases after_shifted (2 * number + 1) with ⟨hparity, -⟩ | ⟨-, hstate, hevent⟩
    · omega
    · show Scrapes .idoSell small id (after .idoSell small shifted (2 * number + 1 + 13)) _
      rw [hevent, hstate]
      have htimes : ∀ order ∈ shiftedShop.orders, order.time < 20 := by decide
      exact ⟨_, rfl, rfl, rfl, fun order horder _ => htimes order horder⟩
  · intro hpublished
    have hother : ∀ number, ∀ publication ∈ (after .idoSell small shifted number).published,
        publication.id = 1 := by
      intro number
      rcases Nat.lt_or_ge number 13 with hlt | hge
      · have hbefore : ∀ number < 13, ∀ publication ∈
            (after .idoSell small shifted number).published, publication.id = 1 := by decide
        exact hbefore number hlt
      · obtain ⟨later, rfl⟩ := Nat.exists_eq_add_of_le' hge
        have hshop : ∀ publication ∈ shiftedShop.published, publication.id = 1 := by decide
        rcases after_shifted later with ⟨-, hstate, -⟩ | ⟨-, hstate, -⟩
        · rwa [hstate]
        · rwa [hstate]
    obtain ⟨later, publication, hmem, hid, -, -⟩ :=
      hpublished 4 ⟨2, 1, 0⟩ (by decide) ⟨0, rfl, Nat.zero_le _⟩
    have hone := hother later publication hmem
    rw [hone] at hid
    exact absurd hid (by decide)

end WindowScrapers

end IntegrationPlatform
