import IntegrationPlatform.Webhooks.Ingestion

/-!
# Webhooks of several tenants

Histories of deliveries of several tenants, one after another. The marks of all tenants share their
keys: `noninterference_iff` says that two histories with the same deliveries of a tenant look the
same to it if and only if the rows of other tenants stand in the way of the same deliveries.
-/

namespace IntegrationPlatform

namespace Webhooks

/-! ## Histories -/

/-- `receive_webhook`, after the tenant is resolved. A request that raises is rolled back. -/
def Service.receive (service : Service) (intake : Intake) (delivery : Delivery) :
    Except String IngestResult × Intake :=
  match service.ingestWebhook delivery intake with
  | .ok (result, intake') => (.ok result, intake')
  | .error message => (.error message, intake)

/-- The state after some deliveries. -/
def Service.after (service : Service) (intake : Intake) (deliveries : List Delivery) : Intake :=
  deliveries.foldl (fun intake delivery => (service.receive intake delivery).2) intake

/-- The deliveries of a tenant, each with the state that it meets. -/
def Service.met (service : Service) (tenantId : String) :
    Intake → List Delivery → List (Intake × Delivery)
  | _, [] => []
  | intake, delivery :: rest =>
      let others := service.met tenantId (service.receive intake delivery).2 rest
      if delivery.tenantId = tenantId then (intake, delivery) :: others else others

/-- Deliveries one after another. -/
structure History where
  deliveries : List Delivery
  inOrder : deliveries.Pairwise fun first second => first.instant ≤ second.instant

/-- The deliveries of a tenant. -/
def History.deliveriesOf (history : History) (tenantId : String) : List Delivery :=
  history.deliveries.filter fun delivery => delivery.tenantId = tenantId

/-- The rows of a tenant. -/
def rowsOf (tenantId : String) (events : List WebhookEvent) : List WebhookEvent :=
  events.filter fun event => event.tenantId = tenantId

/-- The rows of the other tenants. -/
def othersOf (tenantId : String) (events : List WebhookEvent) : List WebhookEvent :=
  events.filter fun event => event.tenantId ≠ tenantId

/-- What a tenant sees of a history: the results of its deliveries and its rows. -/
def Service.view (service : Service) (tenantId : String) (history : History) :
    List (Except String IngestResult) × List WebhookEvent :=
  ((service.met tenantId .empty history.deliveries).map fun encounter =>
      (service.receive encounter.1 encounter.2).1,
    rowsOf tenantId (service.after .empty history.deliveries).events)

/-! ## Rows in the way of a delivery -/

/-- The delivery of the row was accepted less than a day before. -/
def WebhookEvent.Recent (event : WebhookEvent) (key : String) (instant : Rat) : Prop :=
  event.key = some key ∧ instant < event.receivedAt + dedupTtl

instance (event : WebhookEvent) (key : String) (instant : Rat) :
    Decidable (event.Recent key instant) :=
  inferInstanceAs (Decidable (_ ∧ _))

/-- The key of a delivery that has passed, unless it has no external id. -/
def Service.keyOf (service : Service) (delivery : Delivery) : Option String :=
  match service.examine delivery with
  | .ok (.passed _ _ externalId) => Service.key delivery externalId
  | _ => none

/-- One of the rows has the key of a delivery that has passed, and is of the last day. -/
def Service.inTheWay (service : Service) (events : List WebhookEvent) (delivery : Delivery) : Bool :=
  events.any fun event => ∃ key ∈ service.keyOf delivery, event.Recent key delivery.instant

/-- For each delivery of a tenant whether a row of another tenant is in its way. -/
def Service.blocked (service : Service) (tenantId : String) (history : History) : List Bool :=
  (service.met tenantId .empty history.deliveries).map fun encounter =>
    service.inTheWay (othersOf tenantId encounter.1.events) encounter.2

/-! ## The marks of the rows -/

variable {service : Service} {intake : Intake} {delivery : Delivery} {now : Rat} {tenantId : String}

/-- The marks that stand at an instant, and later, are those of the recent rows, and no two rows
with one key are recent. -/
structure Marked (intake : Intake) (now : Rat) : Prop where
  marks : ∀ key instant, now ≤ instant →
    (Service.checkDedup intake.redis instant key = true ↔
      ∃ event ∈ intake.events, event.Recent key instant)
  alone : ∀ key, ∀ event ∈ intake.events, ∀ other ∈ intake.events,
    event.Recent key now → other.Recent key now → event = other

theorem marked_empty (now : Rat) : Marked .empty now where
  marks key instant _ := by
    constructor
    · intro hmark
      cases hmark
    · rintro ⟨_, hevent, -⟩
      cases hevent
  alone key event hevent := by cases hevent

variable {event : WebhookEvent}

theorem WebhookEvent.Recent.earlier {key : String} {later : Rat}
    (hle : now ≤ later) (h : event.Recent key later) : event.Recent key now :=
  ⟨h.1, lt_of_le_of_lt hle h.2⟩

theorem Marked.later {later : Rat} (h : Marked intake now) (hle : now ≤ later) :
    Marked intake later where
  marks key instant hinstant := h.marks key instant (hle.trans hinstant)
  alone key event hevent other hother hrecent hrecent' :=
    h.alone key event hevent other hother (hrecent.earlier hle) (hrecent'.earlier hle)

theorem Marked.add (h : Marked intake now) (hkey : event.key = none) :
    Marked { intake with events := intake.events ++ [event] } now where
  marks key instant hinstant := by
    rw [h.marks key instant hinstant]
    have hnot : ¬ event.Recent key instant := by
      intro hrecent
      have hsome := hrecent.1
      rw [hkey] at hsome
      cases hsome
    simp [or_and_right, exists_or, hnot]
  alone key first hfirst second hsecond hrecent hrecent' := by
    have hold : ∀ found ∈ intake.events ++ [event], found.Recent key now → found ∈ intake.events := by
      intro found hfound hfoundRecent
      obtain hmem | hlast := List.mem_append.mp hfound
      · exact hmem
      · obtain rfl := List.mem_singleton.mp hlast
        have hsome := hfoundRecent.1
        rw [hkey] at hsome
        cases hsome
    exact h.alone key first (hold first hfirst hrecent) second (hold second hsecond hrecent') hrecent
      hrecent'

theorem Marked.not_recent (h : Marked intake now) {key : String}
    (hunmarked : Service.checkDedup intake.redis now key = false) :
    ∀ found ∈ intake.events, ¬ found.Recent key now := by
  intro found hfound hrecent
  have hmarked := (h.marks key now le_rfl).mpr ⟨found, hfound, hrecent⟩
  rw [hunmarked] at hmarked
  cases hmarked

theorem Marked.mark (h : Marked intake now) {key : String}
    (hkey : event.key = some key) (hreceived : event.receivedAt = now)
    (hunmarked : Service.checkDedup intake.redis now key = false) :
    Marked ⟨Service.markDedup intake.redis now key, intake.events ++ [event]⟩ now := by
  have hno := h.not_recent hunmarked
  constructor
  · intro key' instant hinstant
    by_cases hsame : key' = key
    · subst hsame
      rw [checkDedup_markDedup]
      constructor
      · intro hlive
        exact ⟨event, by simp, hkey, by rwa [hreceived]⟩
      · rintro ⟨found, hfound, hrecent⟩
        -- Only the new row can have the key.
        obtain hmem | hlast := List.mem_append.mp hfound
        · exact absurd (hrecent.earlier hinstant) (hno found hmem)
        · obtain rfl := List.mem_singleton.mp hlast
          rw [← hreceived]
          exact hrecent.2
    · have hnot : ¬ event.Recent key' instant := by
        intro hrecent
        exact hsame (Option.some.inj (hrecent.1.symm.trans hkey))
      rw [checkDedup_markDedup_of_ne hsame, h.marks key' instant hinstant]
      simp [or_and_right, exists_or, hnot]
  · intro key' first hfirst second hsecond hrecent hrecent'
    obtain hmem | hlast := List.mem_append.mp hfirst <;>
      obtain hmem' | hlast' := List.mem_append.mp hsecond
    · exact h.alone key' first hmem second hmem' hrecent hrecent'
    · obtain rfl := List.mem_singleton.mp hlast'
      obtain rfl := Option.some.inj (hkey.symm.trans hrecent'.1)
      exact absurd hrecent (hno first hmem)
    · obtain rfl := List.mem_singleton.mp hlast
      obtain rfl := Option.some.inj (hkey.symm.trans hrecent.1)
      exact absurd hrecent' (hno second hmem')
    · rw [List.mem_singleton.mp hlast, List.mem_singleton.mp hlast']

theorem inTheWay_iff {events : List WebhookEvent} :
    service.inTheWay events delivery = true ↔
      ∃ event ∈ events, ∃ key, service.keyOf delivery = some key ∧
        event.Recent key delivery.instant := by
  simp [Service.inTheWay]

theorem inTheWay_eq_false {payload : Value} {sigValid : Option Bool} {externalId : Option String}
    (hmarked : Marked intake delivery.instant)
    (hpassed : service.examine delivery = .ok (.passed payload sigValid externalId)) :
    service.inTheWay intake.events delivery = false ↔ Fresh delivery intake externalId := by
  have hkeyOf : service.keyOf delivery = Service.key delivery externalId := by
    unfold Service.keyOf
    rw [hpassed]
  rw [← Bool.not_eq_true, inTheWay_iff, hkeyOf]
  constructor
  · intro hnone key hkey
    refine eq_false_of_ne_true fun hseen => hnone ?_
    obtain ⟨event, hevent, hrecent⟩ := (hmarked.marks key delivery.instant le_rfl).mp hseen
    exact ⟨event, hevent, key, hkey, hrecent⟩
  · rintro hfresh ⟨event, hevent, key, hkey, hrecent⟩
    have hseen := (hmarked.marks key delivery.instant le_rfl).mpr ⟨event, hevent, hrecent⟩
    rw [hfresh key hkey] at hseen
    cases hseen

theorem Marked.accept {payload : Value} {sigValid : Option Bool} {externalId : Option String}
    (h : Marked intake delivery.instant) :
    Marked (Service.accept delivery intake payload sigValid externalId).2 delivery.instant := by
  unfold Service.accept
  cases hkey : Service.key delivery externalId with
  | none => exact h.add hkey
  | some key =>
      by_cases hseen : Service.checkDedup intake.redis delivery.instant key = true
      · simp only [if_pos hseen]
        exact h
      · simp only [if_neg hseen]
        exact h.mark hkey rfl (eq_false_of_ne_true hseen)

/-! ## What a tenant sees -/

/-- What a tenant sees of a delivery of its own, from its rows and from whether a row is in the
way. -/
def Service.answer (service : Service) (rows : List WebhookEvent) (delivery : Delivery)
    (obstructed : Bool) : Except String IngestResult × List WebhookEvent :=
  match service.examine delivery with
  | .error message => (.error message, rows)
  | .ok (.rejected reason) => (.ok (.rejected reason), rows)
  | .ok (.passed payload sigValid externalId) =>
      if obstructed then (.ok (.duplicate (externalId.getD "")), rows)
      else
        (.ok (.accepted delivery.webhookId externalId),
          rows ++ [Service.row delivery payload sigValid externalId])

/-- A delivery is answered so, and the marks stand for the rows after it as well. -/
theorem receive_eq_answer (service : Service) (hmarked : Marked intake delivery.instant) :
    (service.receive intake delivery).1 =
        (service.answer intake.events delivery (service.inTheWay intake.events delivery)).1 ∧
      (service.receive intake delivery).2.events =
        (service.answer intake.events delivery (service.inTheWay intake.events delivery)).2 ∧
      Marked (service.receive intake delivery).2 delivery.instant := by
  unfold Service.receive Service.ingestWebhook Service.answer
  cases hexamined : service.examine delivery with
  | error message => exact ⟨rfl, rfl, hmarked⟩
  | ok examined =>
      cases examined with
      | rejected reason => exact ⟨rfl, rfl, hmarked⟩
      | passed payload sigValid externalId =>
          have hafter : Marked (Service.accept delivery intake payload sigValid externalId).2
              delivery.instant := hmarked.accept
          by_cases hfresh : Fresh delivery intake externalId
          · have hclear := (inTheWay_eq_false hmarked hexamined).mpr hfresh
            obtain ⟨redis, haccept⟩ : ∃ redis,
                Service.accept delivery intake payload sigValid externalId =
                  (.accepted delivery.webhookId externalId,
                    ⟨redis, intake.events ++ [Service.row delivery payload sigValid externalId]⟩) :=
              accept_of_fresh hfresh
            simp only [hclear, bind, Except.bind, pure, Except.pure]
            rw [haccept] at hafter ⊢
            exact ⟨rfl, rfl, hafter⟩
          · have hway : service.inTheWay intake.events delivery = true := by
              rw [← Bool.not_eq_false, inTheWay_eq_false hmarked hexamined]
              exact hfresh
            have haccept : Service.accept delivery intake payload sigValid externalId =
                (.duplicate (externalId.getD ""), intake) := accept_of_not_fresh hfresh
            simp only [hway, bind, Except.bind, pure, Except.pure]
            rw [haccept] at hafter ⊢
            exact ⟨rfl, rfl, hafter⟩

theorem inTheWay_split (tenantId : String) (events : List WebhookEvent) :
    service.inTheWay events delivery =
      (service.inTheWay (rowsOf tenantId events) delivery ||
        service.inTheWay (othersOf tenantId events) delivery) := by
  rw [Bool.eq_iff_iff, Bool.or_eq_true, inTheWay_iff, inTheWay_iff, inTheWay_iff]
  constructor
  · rintro ⟨event, hevent, hkey⟩
    by_cases htenant : event.tenantId = tenantId
    · exact .inl ⟨event, by simp [rowsOf, hevent, htenant], hkey⟩
    · exact .inr ⟨event, by simp [othersOf, hevent, htenant], hkey⟩
  · rintro (⟨event, hevent, hkey⟩ | ⟨event, hevent, hkey⟩)
    · exact ⟨event, (List.mem_filter.mp hevent).1, hkey⟩
    · exact ⟨event, (List.mem_filter.mp hevent).1, hkey⟩

theorem inTheWay_alone (hmarked : Marked intake delivery.instant)
    (hothers : service.inTheWay (othersOf tenantId intake.events) delivery = true) :
    service.inTheWay (rowsOf tenantId intake.events) delivery = false := by
  obtain ⟨other, hother, key, hkey, hrecent⟩ := inTheWay_iff.mp hothers
  obtain ⟨hmem, htenant⟩ := List.mem_filter.mp hother
  rw [← Bool.not_eq_true, inTheWay_iff]
  rintro ⟨event, hevent, key', hkey', hrecent'⟩
  obtain ⟨hmem', htenant'⟩ := List.mem_filter.mp hevent
  obtain rfl : key = key' := Option.some.inj (hkey.symm.trans hkey')
  obtain rfl := hmarked.alone key other hmem event hmem' hrecent hrecent'
  exact of_decide_eq_true htenant (of_decide_eq_true htenant')

/-- What a tenant that has these rows sees of its deliveries. Each delivery comes with a flag: whether
a row of another tenant is in its way, when no row of the tenant itself is. -/
inductive Seen (service : Service) : List WebhookEvent → List Delivery → List Bool →
    List (Except String IngestResult) → List WebhookEvent → Prop
  | nil (rows : List WebhookEvent) : Seen service rows [] [] [] rows
  | cons (rows rows' : List WebhookEvent) (delivery : Delivery) (deliveries : List Delivery)
      (blocked : Bool) (flags : List Bool) (results : List (Except String IngestResult))
      (hkey : blocked = true → (service.keyOf delivery).isSome = true)
      (hown : blocked = true → service.inTheWay rows delivery = false)
      (hrest : Seen service
        (service.answer rows delivery (service.inTheWay rows delivery || blocked)).2 deliveries flags
        results rows') :
      Seen service rows (delivery :: deliveries) (blocked :: flags)
        ((service.answer rows delivery (service.inTheWay rows delivery || blocked)).1 :: results) rows'

/-- A delivery with a key is answered in another way if a row is in the way. -/
theorem answer_ne (rows : List WebhookEvent) (h : (service.keyOf delivery).isSome = true) :
    (service.answer rows delivery true).1 ≠ (service.answer rows delivery false).1 := by
  unfold Service.keyOf at h
  unfold Service.answer
  cases hexamined : service.examine delivery with
  | error message =>
      rw [hexamined] at h
      cases h
  | ok examined =>
      cases examined with
      | rejected reason =>
          rw [hexamined] at h
          cases h
      | passed payload sigValid externalId =>
          intro heq
          cases heq

/-- The same rows, deliveries and results come with the same flags, and so do the flags with the
results. -/
theorem Seen.agree {rows rows' rows'' : List WebhookEvent} {deliveries : List Delivery}
    {flags flags' : List Bool} {results results' : List (Except String IngestResult)}
    (h : Seen service rows deliveries flags results rows')
    (h' : Seen service rows deliveries flags' results' rows'') :
    (results, rows') = (results', rows'') ↔ flags = flags' := by
  induction h generalizing flags' results' with
  | nil rows =>
      cases h'
      simp
  | cons rows rows' delivery deliveries blocked flags results hkey hown hrest ih =>
      cases h' with
      | cons _ _ _ _ blocked' flags' results' hkey' hown' hrest' =>
          -- A flag that differs shows in the result, as no row of the tenant is in the way.
          have hne : blocked ≠ blocked' →
              (service.answer rows delivery (service.inTheWay rows delivery || blocked)).1 ≠
                (service.answer rows delivery (service.inTheWay rows delivery || blocked')).1 := by
            intro hflag
            cases blocked with
            | false =>
                obtain rfl : blocked' = true := Bool.eq_true_of_not_eq_false (Ne.symm hflag)
                rw [hown' rfl]
                exact (answer_ne rows (hkey' rfl)).symm
            | true =>
                obtain rfl : blocked' = false := Bool.eq_false_of_not_eq_true (Ne.symm hflag)
                rw [hown rfl]
                exact answer_ne rows (hkey rfl)
          by_cases hflag : blocked = blocked'
          · subst hflag
            have hrests := ih hrest'
            simp only [Prod.mk.injEq, List.cons.injEq, true_and] at hrests ⊢
            exact hrests
          · constructor
            · intro heq
              exact absurd (List.head_eq_of_cons_eq (congrArg Prod.fst heq)) (hne hflag)
            · intro heq
              exact absurd (List.head_eq_of_cons_eq heq) hflag

/-! ## Noninterference -/

theorem rowsOf_answer_other {rows : List WebhookEvent} {obstructed : Bool}
    (htenant : delivery.tenantId ≠ tenantId) :
    rowsOf tenantId (service.answer rows delivery obstructed).2 = rowsOf tenantId rows := by
  unfold Service.answer
  cases service.examine delivery with
  | error message => rfl
  | ok examined =>
      cases examined with
      | rejected reason => rfl
      | passed payload sigValid externalId =>
          cases obstructed with
          | true => rfl
          | false => simp [rowsOf, Service.row, htenant]

theorem rowsOf_answer_own {rows : List WebhookEvent} {obstructed : Bool}
    (htenant : delivery.tenantId = tenantId) :
    rowsOf tenantId (service.answer rows delivery obstructed).2 =
      (service.answer (rowsOf tenantId rows) delivery obstructed).2 := by
  unfold Service.answer
  cases service.examine delivery with
  | error message => rfl
  | ok examined =>
      cases examined with
      | rejected reason => rfl
      | passed payload sigValid externalId =>
          cases obstructed with
          | true => rfl
          | false => simp [rowsOf, Service.row, htenant]

theorem answer_result (rows rows' : List WebhookEvent) (obstructed : Bool) :
    (service.answer rows delivery obstructed).1 = (service.answer rows' delivery obstructed).1 := by
  unfold Service.answer
  cases service.examine delivery with
  | error message => rfl
  | ok examined =>
      cases examined with
      | rejected reason => rfl
      | passed payload sigValid externalId => cases obstructed <;> rfl

/-- What the tenant sees of deliveries one after another. -/
theorem seen_of_marked (tenantId : String) {deliveries : List Delivery}
    (hmarked : Marked intake now)
    (hnow : ∀ delivery ∈ deliveries, now ≤ delivery.instant)
    (hinOrder : deliveries.Pairwise fun first second => first.instant ≤ second.instant) :
    Seen service (rowsOf tenantId intake.events)
      (deliveries.filter fun delivery => delivery.tenantId = tenantId)
      ((service.met tenantId intake deliveries).map fun encounter =>
        service.inTheWay (othersOf tenantId encounter.1.events) encounter.2)
      ((service.met tenantId intake deliveries).map fun encounter =>
        (service.receive encounter.1 encounter.2).1)
      (rowsOf tenantId (service.after intake deliveries).events) := by
  induction deliveries generalizing intake now with
  | nil => exact .nil _
  | cons delivery deliveries ih =>
      obtain ⟨hlater, hinOrder⟩ := List.pairwise_cons.mp hinOrder
      obtain ⟨hresult, hrows, hmarked'⟩ :=
        receive_eq_answer service (hmarked.later (hnow delivery List.mem_cons_self))
      have hrest := ih hmarked' hlater hinOrder
      -- What is in the way is a row of the tenant, which it sees, or the flag of the delivery.
      rw [inTheWay_split tenantId] at hresult hrows
      rw [hrows] at hrest
      by_cases htenant : delivery.tenantId = tenantId
      · have hkey : service.inTheWay (othersOf tenantId intake.events) delivery = true →
            (service.keyOf delivery).isSome = true := by
          intro hblocked
          obtain ⟨_, _, key, hkey, -⟩ := inTheWay_iff.mp hblocked
          rw [hkey]
          rfl
        have hown : service.inTheWay (othersOf tenantId intake.events) delivery = true →
            service.inTheWay (rowsOf tenantId intake.events) delivery = false :=
          inTheWay_alone (hmarked.later (hnow delivery List.mem_cons_self))
        rw [rowsOf_answer_own htenant] at hrest
        rw [answer_result intake.events (rowsOf tenantId intake.events)] at hresult
        simp only [Service.met, htenant, if_true, List.filter_cons, decide_true, List.map_cons, hresult]
        exact .cons _ _ _ _ _ _ _ hkey hown hrest
      · rw [rowsOf_answer_other htenant] at hrest
        simp only [Service.met, htenant, if_false, List.filter_cons, decide_false]
        exact hrest

theorem seen_history (service : Service) (tenantId : String) (history : History) :
    Seen service [] (history.deliveriesOf tenantId) (service.blocked tenantId history)
      (service.view tenantId history).1 (service.view tenantId history).2 := by
  obtain ⟨deliveries, hinOrder⟩ := history
  cases deliveries with
  | nil => exact .nil _
  | cons first rest =>
      refine seen_of_marked tenantId (marked_empty first.instant) ?_ hinOrder
      intro delivery hmem
      obtain rfl | hmem := List.mem_cons.mp hmem
      · exact le_rfl
      · exact (List.pairwise_cons.mp hinOrder).1 delivery hmem

/-- Two histories with the same deliveries of a tenant look the same to the tenant if and only if
rows of other tenants are in the way of the same of its deliveries. -/
theorem noninterference_iff (service : Service) (tenantId : String) (history history' : History)
    (hagree : history.deliveriesOf tenantId = history'.deliveriesOf tenantId) :
    service.view tenantId history = service.view tenantId history' ↔
      service.blocked tenantId history = service.blocked tenantId history' := by
  have hseen := seen_history service tenantId history
  rw [hagree] at hseen
  exact hseen.agree (seen_history service tenantId history')

/-- A service for connectors that have no manifest. -/
def unverified : Service where
  webhooks _ := none
  retrieve _ _ _ := .ok none
  hexdigest _ _ _ := ""
  loads _ := some (.dict [])
  lower name := name

/-- A delivery of a tenant with this external id. -/
def orderCreated (tenantId externalId : String) : Delivery where
  connectorName := "shop"
  eventType := "order.created"
  body := .empty
  headers := [("x-webhook-id", externalId)]
  tenantId
  instant := 0
  webhookId := tenantId

/-- The tenant alone. -/
def alone : History := ⟨[orderCreated "B" "7"], by simp⟩

/-- The tenant after another one, which has sent a webhook with this external id. -/
def behind (externalId : String) : History :=
  ⟨[orderCreated "A" externalId, orderCreated "B" "7"], by simp [orderCreated]⟩

/-- Another external id changes nothing for the tenant. -/
theorem noninterference_behind :
    alone.deliveriesOf "B" = (behind "8").deliveriesOf "B" ∧
      unverified.view "B" alone = unverified.view "B" (behind "8") :=
  have hagree : alone.deliveriesOf "B" = (behind "8").deliveriesOf "B" := rfl
  ⟨hagree, (noninterference_iff unverified "B" alone (behind "8") hagree).mpr (by decide +kernel)⟩

/-- The same external id makes the webhook of the tenant a duplicate. -/
theorem interference :
    ¬ ∀ (service : Service) (tenantId : String) (history history' : History),
      history.deliveriesOf tenantId = history'.deliveriesOf tenantId →
        service.view tenantId history = service.view tenantId history' := by
  intro hsame
  have hview := hsame unverified "B" alone (behind "7") rfl
  have hrows : (unverified.view "B" alone).2.length = (unverified.view "B" (behind "7")).2.length :=
    congrArg (fun seen => seen.2.length) hview
  exact absurd hrows (by decide +kernel)

end Webhooks

end IntegrationPlatform
