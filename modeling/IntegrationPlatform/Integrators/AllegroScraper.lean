import IntegrationPlatform.Stores.Snapshots
import IntegrationPlatform.Transactions.Histories

/-!
# The order scraper of Allegro

A round reads the page of order events behind the cursor of an account, publishes the last processable
event of each checkout, and only then moves the cursor, first in memory and then in the database.
`no_order_skipped` says that the cursor in the database has never passed an order.
-/

namespace IntegrationPlatform

namespace Allegro

/-! ## Order events -/

inductive OrderEventType where
  | bought
  | filledIn
  | readyForProcessing
  | buyerCancelled
  | fulfillmentStatusChanged
  | buyerModified
  | autoCancelled
  deriving DecidableEq

def processableEventTypes : List OrderEventType :=
  [.readyForProcessing, .buyerCancelled, .autoCancelled, .buyerModified]

/-- `ALLEGRO_EVENT_TYPE_MAP`, which knows all types. -/
def OrderEventType.event : OrderEventType → String
  | .readyForProcessing => "order.ready_for_processing"
  | .buyerCancelled => "order.buyer_cancelled"
  | .autoCancelled => "order.auto_cancelled"
  | .buyerModified => "order.buyer_modified"
  | .bought => "order.bought"
  | .filledIn => "order.filled_in"
  | .fulfillmentStatusChanged => "order.status_changed"

structure CheckoutForm where
  id : String

structure OrderRef where
  checkoutForm : Option CheckoutForm

structure OrderEvent where
  id : String
  type : OrderEventType
  order : Option OrderRef

/-- An event whose type is processable. -/
def OrderEvent.processable (event : OrderEvent) : Bool :=
  decide (event.type ∈ processableEventTypes)

def extractCheckoutId (event : OrderEvent) : Option String :=
  (event.order.bind OrderRef.checkoutForm).map CheckoutForm.id

def deduplicateEvents (events : List OrderEvent) : List OrderEvent :=
  (events.foldl (fun seen event =>
    match nonempty (extractCheckoutId event) with
    | some checkoutId => Assoc.put seen checkoutId event
    | none => seen) ([] : Assoc OrderEvent)).map Prod.snd

/-- The events of an account in their order. Their ids tell them apart and are not empty. -/
structure EventStream where
  events : List OrderEvent
  nodup : (events.map OrderEvent.id).Nodup
  named : ∀ event ∈ events, event.id ≠ ""

/-- The number of events up to a cursor. Without a cursor the events are served from the first one on,
and a cursor that is no event of the stream is not served. -/
def EventStream.position (stream : EventStream) (cursor : Option String) : Option Nat :=
  match nonempty cursor with
  | none => some 0
  | some id =>
      if id ∈ stream.events.map OrderEvent.id then
        some ((stream.events.map OrderEvent.id).idxOf id + 1)
      else none

/-! ## A round -/

/-- An event that Kafka has accepted: its account, name and key, and the order event it is about. -/
structure Publication where
  account : String
  name : String
  key : String
  event : OrderEvent

/-- How the processing of an event ends: it returns, or it raises, after Kafka has accepted the event or
before. -/
inductive Outcome where
  | returned
  | raised (accepted : Bool)

/-- A page whose events have all been processed: the events of an account from one position up to
another. -/
structure Page where
  account : String
  start : Nat
  finish : Nat

/-- `_last_event_ids` and the table `scraper_state`. Beside them stand what Kafka has accepted and the
pages that have been processed. -/
structure Scraper where
  lastEventIds : Assoc String
  scraperState : Assoc String
  published : List Publication
  completed : List Page

/-- `_process_event`: what it adds to what Kafka has accepted, and whether it returns. -/
def processEvent (kafka : Bool) (account : String) (event : OrderEvent) (outcome : Outcome) :
    List Publication × Bool :=
  match event.order.bind OrderRef.checkoutForm with
  | none => ([], true)
  | some checkout =>
      let publication : Publication := ⟨account, event.type.event, checkout.id, event⟩
      match outcome with
      | .returned => (if kafka then [publication] else [], true)
      | .raised accepted => (if kafka && accepted then [publication] else [], false)

/-- The loop over the events of a page, which ends at the first one that raises. -/
def processEvents (kafka : Bool) (account : String) (outcomes : String → Outcome) :
    List OrderEvent → List Publication × Bool
  | [] => ([], true)
  | event :: rest =>
      let first := processEvent kafka account event (outcomes event.id)
      if first.2 then
        let others := processEvents kafka account outcomes rest
        (others.1 ++ first.1, others.2)
      else first

/-- What happens: a round of one account, of which the server answers the request with some number of
events or not at all, or the process is started again. -/
inductive Happening where
  | scrape (account : String) (served : Option Nat) (outcomes : String → Outcome) (saved : Bool)
  | restart

variable (streams : String → EventStream)

def scrapeAccount (kafka : Bool) (scraper : Scraper) (account : String) (served : Option Nat)
    (outcomes : String → Outcome) (saved : Bool) : Scraper :=
  match served, (streams account).position (Assoc.find scraper.lastEventIds account) with
  | some count, some start =>
      let events := ((streams account).events.drop start).take count
      match events.getLast? with
      | none => scraper
      | some last =>
          let processed := processEvents kafka account outcomes
            (deduplicateEvents (events.filter OrderEvent.processable))
          let after := { scraper with published := processed.1 ++ scraper.published }
          if processed.2 then {
            after with
            lastEventIds := scraper.lastEventIds.put account last.id
            scraperState :=
              if saved then scraper.scraperState.put account last.id else scraper.scraperState
            completed := ⟨account, start, start + events.length⟩ :: scraper.completed }
          else after
  | _, _ => scraper

/-- One step of the scraper. -/
def step (kafka : Bool) (scraper : Scraper) : Happening → Scraper
  | .scrape account served outcomes saved =>
      scrapeAccount streams kafka scraper account served outcomes saved
  | .restart => { scraper with lastEventIds := scraper.scraperState }

/-- A process that is started with the cursors of the database. -/
def Scraper.start (cursors : Assoc String) : Scraper := ⟨cursors, cursors, [], []⟩

/-! ## A page -/

/-- The checkout of an event, if it has one whose id is not empty. -/
def checkoutOf (event : OrderEvent) : Option String := nonempty (extractCheckoutId event)

/-- An event under its checkout. -/
def byCheckout (event : OrderEvent) : Option (String × OrderEvent) :=
  (checkoutOf event).map fun checkoutId => (checkoutId, event)

variable {event : OrderEvent}

theorem byCheckout_eq_some {found : String × OrderEvent} :
    byCheckout event = some found ↔ checkoutOf event = some found.1 ∧ event = found.2 := by
  unfold byCheckout
  rw [Option.map_eq_some_iff]
  constructor
  · rintro ⟨checkoutId, hcheckout, rfl⟩
    exact ⟨hcheckout, rfl⟩
  · rintro ⟨hcheckout, rfl⟩
    exact ⟨found.1, hcheckout, rfl⟩

theorem deduplicateEvents_eq (events : List OrderEvent) : deduplicateEvents events =
    ((events.filterMap byCheckout).foldl (fun seen found => Assoc.put seen found.1 found.2)
      []).map Prod.snd := by
  unfold deduplicateEvents
  rw [List.foldl_filterMap]
  congr 2
  funext seen event
  unfold byCheckout checkoutOf
  cases nonempty (extractCheckoutId event) <;> rfl

theorem mem_deduplicateEvents (before behind : List OrderEvent) (hsome : (checkoutOf event).isSome) :
    ∃ later ∈ event :: behind, later ∈ deduplicateEvents (before ++ event :: behind) ∧
      checkoutOf later = checkoutOf event := by
  obtain ⟨checkoutId, hcheckout⟩ := Option.isSome_iff_exists.mp hsome
  have hpair : byCheckout event = some (checkoutId, event) :=
    byCheckout_eq_some.mpr ⟨hcheckout, rfl⟩
  have hsplit : (before ++ event :: behind).filterMap byCheckout =
      before.filterMap byCheckout ++ (checkoutId, event) :: behind.filterMap byCheckout := by
    rw [List.filterMap_append, List.filterMap_cons, hpair]
  obtain ⟨⟨found, later⟩, hmem, hlatest⟩ := Snapshots.exists_latest_append Prod.fst
    (before.filterMap byCheckout) (checkoutId, event) (behind.filterMap byCheckout)
  obtain rfl : found = checkoutId := (Snapshots.latest_spec hlatest).2
  have hfind : Assoc.find (((before ++ event :: behind).filterMap byCheckout).foldl
      (fun seen found => Assoc.put seen found.1 found.2) []) found = some later := by
    rw [hsplit, Assoc.find_foldl_put, hlatest]
    rfl
  refine ⟨later, ?_, ?_, ?_⟩
  · rcases List.mem_cons.mp hmem with heq | hbehind
    · rw [(Prod.mk.inj heq).2]
      exact List.mem_cons_self
    · obtain ⟨other, hother, heq⟩ := List.mem_filterMap.mp hbehind
      obtain ⟨-, rfl⟩ := byCheckout_eq_some.mp heq
      exact List.mem_cons_of_mem _ hother
  · rw [deduplicateEvents_eq]
    exact List.mem_map.mpr ⟨_, Assoc.mem_of_find hfind, rfl⟩
  · rw [hcheckout]
    rcases List.mem_cons.mp hmem with heq | hbehind
    · rw [(Prod.mk.inj heq).2, hcheckout]
    · obtain ⟨other, -, heq⟩ := List.mem_filterMap.mp hbehind
      obtain ⟨hother, rfl⟩ := byCheckout_eq_some.mp heq
      exact hother

theorem published_of_processEvents {account : String} {outcomes : String → Outcome}
    {events : List OrderEvent} (h : (processEvents true account outcomes events).2 = true)
    (hevent : event ∈ events) (hsome : (checkoutOf event).isSome) :
    ∃ publication ∈ (processEvents true account outcomes events).1,
      publication.account = account ∧ publication.event = event := by
  induction events with
  | nil => cases hevent
  | cons next rest ih =>
      rw [processEvents] at h ⊢
      simp only at h ⊢
      split at h
      · next hfirst =>
        rw [if_pos hfirst]
        rcases List.mem_cons.mp hevent with rfl | hrest
        · unfold processEvent at hfirst ⊢
          cases hcheckout : event.order.bind OrderRef.checkoutForm with
          | none =>
              unfold checkoutOf extractCheckoutId nonempty at hsome
              rw [hcheckout] at hsome
              cases hsome
          | some checkout =>
              rw [hcheckout] at hfirst
              cases houtcome : outcomes event.id with
              | raised accepted =>
                  rw [houtcome] at hfirst
                  cases hfirst
              | returned =>
                  exact ⟨_, List.mem_append_right _ (List.mem_singleton_self _), rfl, rfl⟩
        · obtain ⟨publication, hmem, heq⟩ := ih h hrest
          exact ⟨publication, List.mem_append_left _ hmem, heq⟩
      · next hfirst => exact absurd h hfirst

theorem EventStream.position_last (stream : EventStream) {start count : Nat} {last : OrderEvent}
    (h : ((stream.events.drop start).take count).getLast? = some last) :
    stream.position (some last.id) =
      some (start + ((stream.events.drop start).take count).length) := by
  have hlength : 0 < ((stream.events.drop start).take count).length := by
    cases hpage : (stream.events.drop start).take count with
    | nil =>
        rw [hpage] at h
        cases h
    | cons _ _ => exact Nat.succ_pos _
  rw [List.getLast?_eq_getElem?, List.getElem?_take_of_lt (by
    rw [List.length_take] at hlength ⊢
    omega), List.getElem?_drop] at h
  obtain ⟨hlt, hget⟩ := List.getElem?_eq_some_iff.mp h
  have hmem : last ∈ stream.events := List.mem_of_getElem? h
  have hnonempty : nonempty (some last.id) = some last.id := by
    unfold nonempty
    rw [Option.filter_some, if_pos (decide_eq_true (stream.named last hmem))]
  have hindex : (stream.events.map OrderEvent.id).idxOf last.id =
      start + (((stream.events.drop start).take count).length - 1) := by
    have hid := stream.nodup.idxOf_getElem
      (start + (((stream.events.drop start).take count).length - 1)) (by rwa [List.length_map])
    rwa [List.getElem_map, hget] at hid
  unfold EventStream.position
  rw [hnonempty]
  simp only
  rw [if_pos (List.mem_map_of_mem hmem), hindex]
  congr 1
  omega

/-! ## Runs -/

/-- Kafka has accepted an event at a position of the stream, or a later processable one of its
checkout. -/
def Accepted (published : List Publication) (account : String) (stream : EventStream) (index : Nat)
    (event : OrderEvent) : Prop :=
  ∃ later ∈ stream.events.drop index, later.processable = true ∧
    checkoutOf later = checkoutOf event ∧
    ∃ publication ∈ published, publication.account = account ∧ publication.event = later

/-- Every processable event of a page that has a checkout is accepted. -/
def PageDone (streams : String → EventStream) (published : List Publication) (page : Page) : Prop :=
  ∀ index event, page.start ≤ index → index < page.finish →
    (streams page.account).events[index]? = some event → event.processable = true →
    (checkoutOf event).isSome → Accepted published page.account (streams page.account) index event

/-- A position of an account lies in a page that has been processed. -/
def Processed (completed : List Page) (account : String) (index : Nat) : Prop :=
  ∃ page ∈ completed, page.account = account ∧ page.start ≤ index ∧ index < page.finish

/-- Between the first cursor of an account and the one in the database every event lies in a page that has
been processed, and every processable one with a checkout is accepted. -/
structure Safe (streams : String → EventStream) (cursors : Assoc String) (scraper : Scraper) : Prop where
  processed : ∀ account first stored, (streams account).position (cursors.find account) = some first →
    (streams account).position (scraper.scraperState.find account) = some stored →
    ∀ index, first ≤ index → index < stored → Processed scraper.completed account index
  accepted : ∀ account first stored, (streams account).position (cursors.find account) = some first →
    (streams account).position (scraper.scraperState.find account) = some stored →
    ∀ index event, first ≤ index → index < stored →
      (streams account).events[index]? = some event → event.processable = true →
      (checkoutOf event).isSome → Accepted scraper.published account (streams account) index event

/-- No cursor in the database moves backwards. -/
def Forward (streams : String → EventStream) (scraper scraper' : Scraper) : Prop :=
  ∀ account stored, (streams account).position (scraper.scraperState.find account) = some stored →
    ∃ stored', (streams account).position (scraper'.scraperState.find account) = some stored' ∧
      stored ≤ stored'

/-- The cursors of an account: those of a stream without the first one never move, and otherwise the one
in memory is ahead and every position up to it lies in a page that has been processed. -/
def Tracked (stream : EventStream) (first stored reached : Option String) (account : String)
    (completed : List Page) : Prop :=
  (stream.position first = none ∧ stored = first ∧ reached = first) ∨
  ∃ start upTo ahead, stream.position first = some start ∧ stream.position stored = some upTo ∧
    stream.position reached = some ahead ∧ upTo ≤ ahead ∧
    ∀ index, start ≤ index → index < ahead → Processed completed account index

/-- What holds in every reachable state. -/
structure Sound (streams : String → EventStream) (cursors : Assoc String) (scraper : Scraper) :
    Prop where
  tracked : ∀ account, Tracked (streams account) (cursors.find account)
    (scraper.scraperState.find account) (scraper.lastEventIds.find account) account scraper.completed
  done : ∀ page ∈ scraper.completed, PageDone streams scraper.published page

section Steps

variable {streams : String → EventStream} {cursors : Assoc String} {scraper : Scraper}
  {account : String}

variable {stream : EventStream}

theorem Accepted.mono {published published' : List Publication} {index : Nat}
    (h : Accepted published account stream index event)
    (hsubset : published ⊆ published') : Accepted published' account stream index event := by
  obtain ⟨later, hlater, hprocessable, hcheckout, publication, hmem, heq⟩ := h
  exact ⟨later, hlater, hprocessable, hcheckout, publication, hsubset hmem, heq⟩

/-- A page whose processing returns is done. -/
theorem pageDone_of_processEvents {outcomes : String → Outcome} {start count : Nat}
    (h : (processEvents true account outcomes (deduplicateEvents
      ((((streams account).events.drop start).take count).filter OrderEvent.processable))).2 = true) :
    PageDone streams (processEvents true account outcomes (deduplicateEvents
      ((((streams account).events.drop start).take count).filter OrderEvent.processable))).1
      ⟨account, start, start + (((streams account).events.drop start).take count).length⟩ := by
  intro index event hstart hfinish hevent hprocessable hsome
  simp only at hstart hfinish hevent ⊢
  obtain ⟨offset, rfl⟩ := Nat.exists_eq_add_of_le hstart
  generalize hpage : ((streams account).events.drop start).take count = page at h hfinish ⊢
  have hoffset : offset < page.length := by omega
  have hdrop : page.drop offset = event :: page.drop (offset + 1) := by
    rw [List.drop_eq_getElem_cons hoffset]
    congr 1
    have hget : page[offset]? = some event := by
      rw [← hpage] at hoffset ⊢
      rw [List.getElem?_take_of_lt (by
        rw [List.length_take] at hoffset
        omega), List.getElem?_drop]
      exact hevent
    exact (List.getElem?_eq_some_iff.mp hget).2
  have hsplit : page = page.take offset ++ event :: page.drop (offset + 1) := by
    rw [← hdrop, List.take_append_drop]
  have hfilter : page.filter OrderEvent.processable =
      (page.take offset).filter OrderEvent.processable ++
        event :: (page.drop (offset + 1)).filter OrderEvent.processable := by
    conv_lhs => rw [hsplit]
    rw [List.filter_append, List.filter_cons_of_pos hprocessable]
  obtain ⟨later, hbehind, hkept, hcheckout⟩ := mem_deduplicateEvents
    ((page.take offset).filter OrderEvent.processable)
    ((page.drop (offset + 1)).filter OrderEvent.processable) hsome
  rw [← hfilter] at hkept
  have hlater : later ∈ page.drop offset ∧ later.processable = true := by
    rw [hdrop]
    rcases List.mem_cons.mp hbehind with rfl | hmem
    · exact ⟨List.mem_cons_self, hprocessable⟩
    · exact ⟨List.mem_cons_of_mem _ (List.mem_filter.mp hmem).1, (List.mem_filter.mp hmem).2⟩
  refine ⟨later, ?_, hlater.2, hcheckout,
    published_of_processEvents h hkept (by rw [hcheckout]; exact hsome)⟩
  have hmem := hlater.1
  rw [← hpage, List.drop_take, List.drop_drop] at hmem
  exact List.mem_of_mem_take hmem

/-- A round leaves the cursors as they were, or it processes a page behind the cursor and moves them to
its last event. -/
theorem scrapeAccount_cases (streams : String → EventStream) (scraper : Scraper) (account : String)
    (served : Option Nat) (outcomes : String → Outcome) (saved : Bool) :
    scraper.published ⊆
      (scrapeAccount streams true scraper account served outcomes saved).published ∧
    (((scrapeAccount streams true scraper account served outcomes saved).lastEventIds =
        scraper.lastEventIds ∧
      (scrapeAccount streams true scraper account served outcomes saved).scraperState =
        scraper.scraperState ∧
      (scrapeAccount streams true scraper account served outcomes saved).completed =
        scraper.completed) ∨
    ∃ start finish last, start ≤ finish ∧
      (streams account).position (scraper.lastEventIds.find account) = some start ∧
      (streams account).position (some last) = some finish ∧
      (scrapeAccount streams true scraper account served outcomes saved).lastEventIds =
        scraper.lastEventIds.put account last ∧
      (scrapeAccount streams true scraper account served outcomes saved).scraperState =
        (if saved then scraper.scraperState.put account last else scraper.scraperState) ∧
      (scrapeAccount streams true scraper account served outcomes saved).completed =
        ⟨account, start, finish⟩ :: scraper.completed ∧
      PageDone streams
        (scrapeAccount streams true scraper account served outcomes saved).published
        ⟨account, start, finish⟩) := by
  unfold scrapeAccount
  split
  · next count start hstart =>
    simp only
    split
    · exact ⟨List.Subset.refl _, .inl ⟨rfl, rfl, rfl⟩⟩
    · next last hlast =>
      split
      · next hreturned =>
        refine ⟨List.subset_append_right _ _, .inr ⟨start, _, last.id, Nat.le_add_right _ _, hstart,
          (streams account).position_last hlast, rfl, rfl, rfl, ?_⟩⟩
        intro index event hfrom hto hevent hprocessable hsome
        exact (pageDone_of_processEvents hreturned index event hfrom hto hevent hprocessable
          hsome).mono (List.subset_append_left _ _)
      · exact ⟨List.subset_append_right _ _, .inl ⟨rfl, rfl, rfl⟩⟩
  · exact ⟨List.Subset.refl _, .inl ⟨rfl, rfl, rfl⟩⟩

variable {first stored reached : Option String}

theorem Tracked.mono
    {completed completed' : List Page} (h : Tracked stream first stored reached account completed)
    (hsubset : completed ⊆ completed') :
    Tracked stream first stored reached account completed' := by
  rcases h with hnone | ⟨start, upTo, ahead, hfirst, hstored, hreached, hle, hprocessed⟩
  · exact .inl hnone
  · refine .inr ⟨start, upTo, ahead, hfirst, hstored, hreached, hle, fun index hfrom hto => ?_⟩
    obtain ⟨page, hpage, hbounds⟩ := hprocessed index hfrom hto
    exact ⟨page, hsubset hpage, hbounds⟩

theorem Tracked.advance {completed : List Page} {start finish : Nat} {last : String}
    (h : Tracked stream first stored reached account completed) (saved : Bool)
    (hstart : stream.position reached = some start) (hle : start ≤ finish)
    (hlast : stream.position (some last) = some finish) :
    Tracked stream first (if saved then some last else stored) (some last) account
      (⟨account, start, finish⟩ :: completed) := by
  rcases h with ⟨hnone, -, hreached⟩ | ⟨origin, upTo, ahead, hfirst, hstored, hreached, hupTo,
    hprocessed⟩
  · rw [hreached, hnone] at hstart
    cases hstart
  · obtain rfl : ahead = start := Option.some.inj (hreached.symm.trans hstart)
    have hall : ∀ index, origin ≤ index → index < finish →
        Processed (⟨account, ahead, finish⟩ :: completed) account index := by
      intro index hfrom hto
      rcases Nat.lt_or_ge index ahead with hbefore | hbehind
      · obtain ⟨page, hpage, hbounds⟩ := hprocessed index hfrom hbefore
        exact ⟨page, List.mem_cons_of_mem _ hpage, hbounds⟩
      · exact ⟨_, List.mem_cons_self, rfl, hbehind, hto⟩
    cases saved with
    | true => exact .inr ⟨origin, finish, finish, hfirst, hlast, hlast, Nat.le_refl _, hall⟩
    | false => exact .inr ⟨origin, upTo, finish, hfirst, hstored, hlast, Nat.le_trans hupTo hle, hall⟩

theorem stored_le_reached {completed : List Page} {upTo ahead : Nat}
    (h : Tracked stream first stored reached account completed)
    (hstored : stream.position stored = some upTo) (hreached : stream.position reached = some ahead) :
    upTo ≤ ahead := by
  rcases h with ⟨hnone, hsame, -⟩ | ⟨-, upTo', ahead', -, hstored', hreached', hle, -⟩
  · rw [hsame, hnone] at hstored
    cases hstored
  · obtain rfl : upTo' = upTo := Option.some.inj (hstored'.symm.trans hstored)
    obtain rfl : ahead' = ahead := Option.some.inj (hreached'.symm.trans hreached)
    exact hle

/-- Every step keeps what holds in every reachable state. -/
theorem sound_step (h : Sound streams cursors scraper) (happening : Happening) :
    Sound streams cursors (step streams true scraper happening) := by
  cases happening with
  | restart =>
      refine ⟨fun account => ?_, h.done⟩
      rcases h.tracked account with ⟨hnone, hstored, -⟩ |
        ⟨start, upTo, ahead, hfirst, hstored, -, hle, hprocessed⟩
      · exact .inl ⟨hnone, hstored, hstored⟩
      · exact .inr ⟨start, upTo, upTo, hfirst, hstored, hstored, Nat.le_refl _,
          fun index hfrom hto => hprocessed index hfrom (Nat.lt_of_lt_of_le hto hle)⟩
  | scrape account served outcomes saved =>
      obtain ⟨hsubset, ⟨hids, hstate, hcompleted⟩ | ⟨start, finish, last, hle, hstart, hlast, hids,
        hstate, hcompleted, hdone⟩⟩ := scrapeAccount_cases streams scraper account served outcomes saved
      · refine ⟨fun account' => ?_,
          fun page hpage index event hfrom hto hevent hprocessable hsome => ?_⟩
        · show Tracked _ _ (Assoc.find (scrapeAccount ..).scraperState _)
            (Assoc.find (scrapeAccount ..).lastEventIds _) _ (scrapeAccount ..).completed
          rw [hids, hstate, hcompleted]
          exact h.tracked account'
        · replace hpage : page ∈ (scrapeAccount ..).completed := hpage
          rw [hcompleted] at hpage
          exact (h.done page hpage index event hfrom hto hevent hprocessable hsome).mono hsubset
      · refine ⟨fun account' => ?_, fun page hpage => ?_⟩
        · show Tracked _ _ (Assoc.find (scrapeAccount ..).scraperState _)
            (Assoc.find (scrapeAccount ..).lastEventIds _) _ (scrapeAccount ..).completed
          rw [hids, hstate, hcompleted, Assoc.find_put]
          by_cases haccount : account = account'
          · subst haccount
            have hadvance := (h.tracked account).advance saved hstart hle hlast
            rw [if_pos rfl]
            cases saved with
            | true =>
                rw [if_pos rfl, Assoc.find_put, if_pos rfl]
                exact hadvance
            | false => exact hadvance
          · have hother := (h.tracked account').mono
              (List.subset_cons_self (⟨account, start, finish⟩ : Page) _)
            rw [if_neg haccount]
            cases saved with
            | true =>
                rw [if_pos rfl, Assoc.find_put, if_neg haccount]
                exact hother
            | false => exact hother
        · replace hpage : page ∈ (scrapeAccount ..).completed := hpage
          rw [hcompleted] at hpage
          rcases List.mem_cons.mp hpage with rfl | hpage
          · exact hdone
          · intro index event hfrom hto hevent hprocessable hsome
            exact (h.done page hpage index event hfrom hto hevent hprocessable hsome).mono hsubset

theorem safe_of_sound (h : Sound streams cursors scraper) : Safe streams cursors scraper := by
  have hprocessed : ∀ account first stored,
      (streams account).position (cursors.find account) = some first →
      (streams account).position (scraper.scraperState.find account) = some stored →
      ∀ index, first ≤ index → index < stored → Processed scraper.completed account index := by
    intro account first stored hfirst hstored index hfrom hto
    rcases h.tracked account with ⟨hnone, -, -⟩ |
      ⟨start, upTo, ahead, hstart, hupTo, -, hle, hprocessed⟩
    · rw [hfirst] at hnone
      cases hnone
    · obtain rfl : start = first := Option.some.inj (hstart.symm.trans hfirst)
      obtain rfl : upTo = stored := Option.some.inj (hupTo.symm.trans hstored)
      exact hprocessed index hfrom (Nat.lt_of_lt_of_le hto hle)
  refine ⟨hprocessed, ?_⟩
  intro account first stored hfirst hstored index event hfrom hto hevent hprocessable hsome
  obtain ⟨page, hpage, rfl, hstart, hfinish⟩ :=
    hprocessed account first stored hfirst hstored index hfrom hto
  exact h.done page hpage index event hstart hfinish hevent hprocessable hsome

theorem forward_step (h : Sound streams cursors scraper) (happening : Happening) :
    Forward streams scraper (step streams true scraper happening) := by
  intro account' stored hstored
  cases happening with
  | restart => exact ⟨stored, hstored, Nat.le_refl _⟩
  | scrape account served outcomes saved =>
      obtain ⟨-, ⟨-, hstate, -⟩ | ⟨start, finish, last, hle, hstart, hlast, -, hstate, -, -⟩⟩ :=
        scrapeAccount_cases streams scraper account served outcomes saved
      · refine ⟨stored, ?_, Nat.le_refl _⟩
        show (streams account').position (Assoc.find (scrapeAccount ..).scraperState account') = _
        rw [hstate]
        exact hstored
      · show ∃ stored', (streams account').position
          (Assoc.find (scrapeAccount ..).scraperState account') = some stored' ∧ _
        rw [hstate]
        cases saved with
        | false => exact ⟨stored, hstored, Nat.le_refl _⟩
        | true =>
            rw [if_pos rfl, Assoc.find_put]
            by_cases haccount : account = account'
            · subst haccount
              rw [if_pos rfl]
              refine ⟨finish, hlast, Nat.le_trans ?_ hle⟩
              exact stored_le_reached (h.tracked account) hstored hstart
            · rw [if_neg haccount]
              exact ⟨stored, hstored, Nat.le_refl _⟩

/-- In every run the cursor of an account in the database passes only pages that have been processed, no
order before it is missing from what Kafka has accepted, and it never moves backwards. -/
theorem no_order_skipped (streams : String → EventStream) (cursors : Assoc String)
    (happenings : List Happening) :
    Along (step streams true) (fun scraper happening =>
      Safe streams cursors (step streams true scraper happening) ∧
        Forward streams scraper (step streams true scraper happening))
      (.start cursors) happenings := by
  have himp : ∀ scraper happening, Sound streams cursors scraper →
      Safe streams cursors (step streams true scraper happening) ∧
        Forward streams scraper (step streams true scraper happening) :=
    fun scraper happening h => ⟨safe_of_sound (sound_step h happening), forward_step h happening⟩
  have hstart : Sound streams cursors (.start cursors) := by
    refine ⟨fun account => ?_, fun _ hpage => (nomatch hpage)⟩
    cases hfirst : (streams account).position (cursors.find account) with
    | none => exact .inl ⟨hfirst, rfl, rfl⟩
    | some first =>
        exact .inr ⟨first, first, first, hfirst, hfirst, hfirst, Nat.le_refl _,
          fun index hfrom hto => absurd hto (Nat.not_lt_of_le hfrom)⟩
  exact along_of_invariant himp (fun scraper happening h => sound_step h happening) hstart happenings

end Steps

namespace Sample

def ready (id checkoutId : String) : OrderEvent :=
  ⟨id, .readyForProcessing, some ⟨some ⟨checkoutId⟩⟩⟩

theorem nodup_orders : ([ready "1" "A", ready "2" "B"].map OrderEvent.id).Nodup := by decide

theorem named_orders : ∀ event ∈ [ready "1" "A", ready "2" "B"], event.id ≠ "" := by decide

def orders : EventStream := ⟨[ready "1" "A", ready "2" "B"], nodup_orders, named_orders⟩

/-- After the first event, the second one raises until the process has been started again. -/
def rounds : List Happening :=
  [.scrape "shop" (some 1) (fun _ => .returned) true, .scrape "shop" (some 10) (fun _ => .raised false) true,
    .restart, .scrape "shop" (some 10) (fun _ => .returned) true]

end Sample

example : let scraper := Sample.rounds.foldl (step (fun _ => Sample.orders) true) (.start [])
    scraper.scraperState.find "shop" = some "2" ∧ scraper.published.map Publication.key = ["B", "A"] := by
  decide

end Allegro

end IntegrationPlatform
