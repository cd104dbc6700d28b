import IntegrationPlatform.OnPremise.OfflineQueue
import IntegrationPlatform.Transactions.Unending
import Mathlib.Order.Lattice

/-!
# Outbound syncs

`_sync_outbound_contractors` and `_sync_outbound_products` list entities of Nexo and queue those that
have changed since the time of the last sync. Only the first page is listed, and what is listed has
no `updated_at`, so that the time plays no part. `changes_queued_iff` says which changes are queued.
-/

namespace IntegrationPlatform

namespace OnPremise

/-! ## Entities of Nexo -/

/-- What Python makes of the value of an attribute: its stripped `str`, and the results of `int` and
`float` where these do not raise. -/
structure Conversions where
  str : Value → String
  int : Value → Option Int
  float : Value → Option Rat

/-- A value of a dumped model. Only a `datetime` is no JSON value. -/
inductive Field where
  | value (value : Value)
  | datetime (text : String)

/-- What `model_dump` returns. -/
abbrev Dump := Assoc Field

/-- `getattr(entity, name, default)`, of an object of the SDK. -/
def getattr (entity : Value) (name : String) (default : Value) : Value :=
  match entity with
  | .dict attributes => (Assoc.find attributes name).getD default
  | _ => default

def iterateNetCollection : Value → List Value
  | .list items => items
  | _ => []

namespace Conversions

variable (conversions : Conversions)

def safeStr : Value → String
  | .null => ""
  | value => conversions.str value

def safeInt (value : Value) : Int := (conversions.int value).getD 0

def safeFloat (value : Value) : Rat := (conversions.float value).getD 0

/-- The text of an attribute. -/
def text (entity : Value) (name : String) (default : Value := .str "") : Value :=
  .str (conversions.safeStr (getattr entity name default))

/-- A dumped `ContractorAddress`. -/
def address (addr : Value) : Value :=
  let szcz := getattr addr "Szczegoly" addr
  .dict [("address_type", conversions.text addr "Typ" (.str "main")),
    ("street", conversions.text szcz "Ulica"), ("house_number", conversions.text szcz "NrDomu"),
    ("apartment_number", conversions.text szcz "NrLokalu"),
    ("postal_code", conversions.text szcz "KodPocztowy"),
    ("city", conversions.text szcz "Miejscowosc"),
    ("country", conversions.text szcz "KrajISO" (.str "PL")), ("is_default", .bool true)]

/-- A dumped `ContractorContact`. -/
def contact (kontakt : Value) : Value :=
  .dict [("contact_type", conversions.text kontakt "Rodzaj"),
    ("value", conversions.text kontakt "Wartosc"),
    ("is_primary", .bool (getattr kontakt "Podstawowy" (.bool false)).truthy)]

/-- `nexo_contractor_to_model`, dumped. It sets neither `created_at` nor `updated_at`. -/
def nexoContractorToModel (dane : Value) : Dump :=
  let isCompany := match getattr dane "Firma" .null with
    | .null => false
    | _ => true
  let sygnatura := getattr dane "Sygnatura" .null
  [("id", .value (.int (conversions.safeInt (getattr dane "Id" (.int 0))))),
    ("symbol", .value (if sygnatura.truthy then conversions.text sygnatura "PelnaSygnatura"
      else .str "")),
    ("contractor_type", .value (.str (if isCompany then "company" else "person"))),
    ("short_name", .value (conversions.text dane "NazwaSkrocona")),
    ("full_name", .value
      (conversions.text dane "NazwaPelna" (getattr dane "NazwaSkrocona" (.str "")))),
    ("nip", .value (conversions.text dane "NIPSformatowany" (getattr dane "NIP" (.str "")))),
    ("regon", .value (conversions.text dane "REGON")), ("pesel", .value (.str "")),
    ("first_name", .value (conversions.text dane "Imie")),
    ("last_name", .value (conversions.text dane "Nazwisko")),
    ("addresses", .value (.list
      ((iterateNetCollection (getattr dane "Adresy" .null)).map conversions.address))),
    ("contacts", .value (.list
      ((iterateNetCollection (getattr dane "Kontakty" .null)).map conversions.contact))),
    ("group", .value (.str "")), ("payment_deadline_days", .value .null),
    ("credit_limit", .value .null), ("discount_percent", .value .null),
    ("created_at", .value .null), ("updated_at", .value .null)]

/-- `nexo_product_to_model`, dumped. -/
def nexoProductToModel (dane : Value) : Dump :=
  let weight := conversions.safeFloat (getattr dane "Waga" .null)
  [("id", .value (.int (conversions.safeInt (getattr dane "Id" (.int 0))))),
    ("symbol", .value (conversions.text dane "Symbol")), ("product_type", .value (.str "goods")),
    ("name", .value (conversions.text dane "Nazwa")), ("ean", .value (conversions.text dane "EAN")),
    ("pkwiu", .value (conversions.text dane "PKWiU")), ("cn_code", .value (.str "")),
    ("vat_rate", .value (conversions.text dane "StawkaVAT")),
    ("unit_of_measure", .value (conversions.text
      (getattr dane "PodstawowaJednostkaMiaryAsortymentu" .null) "Symbol" (.str "szt"))),
    ("weight_kg", .value (if weight = 0 then .null else .float weight)),
    ("description", .value (conversions.text dane "Opis")), ("group", .value (.str "")),
    ("prices", .value (.list [])), ("suppliers", .value (.list [])), ("units", .value (.list [])),
    ("created_at", .value .null), ("updated_at", .value .null)]

end Conversions

/-- The two kinds of entities. -/
inductive Kind where
  | contractors
  | products

/-- The type under which an entity is queued. -/
def Kind.entityType : Kind → String
  | .contractors => "contractor"
  | .products => "product"

/-- An entity as the service of its kind lists it. -/
def Kind.toModel (conversions : Conversions) : Kind → Value → Dump
  | .contractors => conversions.nexoContractorToModel
  | .products => conversions.nexoProductToModel

/-- `all_items[start:end]` of `list_contractors` and `list_products`. -/
def pageItems {α : Type} (items : List α) (page pageSize : Int) : List α :=
  let start := (page - 1) * pageSize
  (slice items (start + pageSize)).drop
    (if 0 ≤ start then start.toNat else items.length - (-start).toNat)

/-! ## The sync -/

/-- `updated <= last_sync`, which only two texts have. -/
def Field.le (last : String) : Field → Except String Bool
  | .value (.str updated) => .ok (decide (updated ≤ last))
  | .value other => .error
      ("'<=' not supported between instances of '" ++ other.typeName ++ "' and 'str'")
  | .datetime _ => .error "'<=' not supported between instances of 'datetime.datetime' and 'str'"

/-- Python's truth value. -/
def Field.truthy : Field → Bool
  | .value json => json.truthy
  | .datetime _ => true

/-- `last_sync and updated and updated <= last_sync`. -/
def isOld (lastSync : Option String) (item : Dump) : Except String Bool :=
  match nonempty lastSync, (Assoc.find item "updated_at").filter Field.truthy with
  | some last, some updated => updated.le last
  | _, _ => .ok false

/-- `json.dumps(payload, default=str)`, read back. -/
def payloadOf (item : Dump) : Value :=
  .dict (item.map fun field => (field.1, match field.2 with
    | .value value => value
    | .datetime text => .str text))

/-- An entity in Nexo, and when it was changed. -/
structure Row where
  entity : Value
  updatedAt : Nat

/-- A row that a sync has queued: where it was listed, and what it was then. -/
structure Queued where
  index : Nat
  row : Row
  entry : Entry

/-- Where a sync is: it is not running, it has listed a page, or it goes through the rows. -/
inductive Phase where
  | idle
  | listed (rows : List Row)
  | queuing (rows : List Row) (lastSync : Option String) (index syncedCount : Nat)

/-- The entities of one kind in the order in which Nexo lists them, the row of `sync_state`, what has
been queued, and the sync. -/
structure Erp where
  time : Nat
  rows : List Row
  lastSyncAt : Option String
  queued : List Queued
  phase : Phase

/-- What happens: an entity is changed or created in Nexo, the sync takes its next step, or a call of
it raises. -/
inductive Event where
  | modify (index : Nat) (entity : Value)
  | create (entity : Value)
  | proceed
  | fail

/-- The settings, and the texts of instants. -/
structure Syncing where
  kind : Kind
  conversions : Conversions
  syncBatchSize : Int
  isoformat : Nat → String

namespace Syncing

variable (syncing : Syncing)

/-- An entity as it is listed. -/
def item (row : Row) : Dump := syncing.kind.toModel syncing.conversions row.entity

/-- The first page. -/
def page (rows : List Row) : List Row := pageItems rows 1 syncing.syncBatchSize

/-- The next step of a sync. -/
def proceed (erp : Erp) : Erp :=
  match erp.phase with
  | .idle => { erp with phase := .listed (syncing.page erp.rows) }
  | .listed rows => { erp with phase := .queuing rows erp.lastSyncAt 0 0 }
  | .queuing rows lastSync index syncedCount =>
      match rows[index]? with
      | none =>
          -- `update_sync_state` takes the time of the write.
          { erp with
            lastSyncAt := if 0 < syncedCount then some (syncing.isoformat erp.time) else erp.lastSyncAt
            phase := .idle }
      | some row =>
          match isOld lastSync (syncing.item row) with
          | .error _ => { erp with phase := .idle }
          | .ok true => { erp with phase := .queuing rows lastSync (index + 1) syncedCount }
          | .ok false =>
              { erp with
                queued := erp.queued ++
                  [⟨index, row, ⟨syncing.kind.entityType, "sync", payloadOf (syncing.item row)⟩⟩]
                phase := .queuing rows lastSync (index + 1) (syncedCount + 1) }

/-- What happens takes time. -/
def step (erp : Erp) (event : Event) : Erp :=
  let next := match event with
    | .modify index entity => { erp with rows := erp.rows.modify index fun _ => Row.mk entity erp.time }
    | .create entity => { erp with rows := erp.rows ++ [Row.mk entity erp.time] }
    | .proceed => syncing.proceed erp
    | .fail => { erp with phase := .idle }
  { next with time := erp.time + 1 }

/-- The sync ends after it has gone through all rows. -/
def Finishes (erp : Erp) (event : Event) : Prop :=
  event = .proceed ∧ ∃ rows lastSync index syncedCount,
    erp.phase = .queuing rows lastSync index syncedCount ∧ rows.length ≤ index

end Syncing

/-- The entity at this place changes. -/
def Changes (erp : Erp) (event : Event) (index : Nat) : Prop :=
  index < erp.rows.length ∧ (∃ entity, event = .modify index entity) ∨
    index = erp.rows.length ∧ ∃ entity, event = .create entity

/-- The entity at this place is queued as it has been since this time. -/
def Erp.Has (erp : Erp) (index time : Nat) : Prop :=
  ∃ queued ∈ erp.queued, queued.index = index ∧ time ≤ queued.row.updatedAt

/-- The agent starts, with these entities in Nexo. -/
def Erp.started (entities : List Value) (lastSyncAt : Option String) : Erp where
  time := 1
  rows := entities.map fun entity => ⟨entity, 0⟩
  lastSyncAt := lastSyncAt
  queued := []
  phase := .idle

namespace Syncing

variable (syncing : Syncing) (first : Erp) (events : Nat → Event)

/-- Every change is queued by some later sync. -/
def NothingLost : Prop :=
  ∀ number index, Changes (stateAt syncing.step first events number) (events number) index →
    ∃ later, number < later ∧ (stateAt syncing.step first events later).Has index
      (stateAt syncing.step first events number).time

/-- The place is on the first page at some time after this step. -/
def Reaches (number index : Nat) : Prop :=
  ∃ later, number < later ∧
    index < (syncing.page (stateAt syncing.step first events later).rows).length

end Syncing

/-! ## Pages -/

variable {α : Type}

theorem getElem?_slice {items : List α} {bound : Int} {index : Nat}
    (h : index < (slice items bound).length) : (slice items bound)[index]? = items[index]? := by
  unfold slice at h ⊢
  split at h
  · next hbound =>
    rw [if_pos hbound, List.getElem?_take_of_lt]
    exact (List.length_take ▸ h).trans_le (min_le_left _ _)
  · next hbound =>
    rw [if_neg hbound, List.getElem?_take_of_lt]
    exact (List.length_take ▸ h).trans_le (min_le_left _ _)

namespace Syncing

variable {syncing : Syncing} {erp : Erp} {index time : Nat}

theorem page_eq (rows : List Row) : syncing.page rows = slice rows syncing.syncBatchSize := by
  unfold page pageItems
  simp

theorem length_page_le {rows rows' : List Row} (hle : rows.length ≤ rows'.length) :
    (syncing.page rows).length ≤ (syncing.page rows').length := by
  rw [page_eq, page_eq, length_slice, length_slice]
  split <;> omega

/-! ## Steps of a sync -/

theorem find_updatedAt (conversions : Conversions) (kind : Kind) (entity : Value) :
    Assoc.find (kind.toModel conversions entity) "updated_at" = some (.value .null) := by
  cases kind with
  | contractors => simp [Kind.toModel, Conversions.nexoContractorToModel, Assoc.find]
  | products => simp [Kind.toModel, Conversions.nexoProductToModel, Assoc.find]

theorem isOld_item (lastSync : Option String) (row : Row) :
    isOld lastSync (syncing.item row) = .ok false := by
  unfold isOld item
  rw [find_updatedAt]
  cases nonempty lastSync <;> rfl

/-- The row that a sync queues. -/
def queuedRow (syncing : Syncing) (index : Nat) (row : Row) : Queued :=
  ⟨index, row, ⟨syncing.kind.entityType, "sync", payloadOf (syncing.item row)⟩⟩

theorem proceed_queuing {rows : List Row} {lastSync : Option String} {syncedCount : Nat} {row : Row}
    (hphase : erp.phase = .queuing rows lastSync index syncedCount) (hrow : rows[index]? = some row) :
    syncing.proceed erp =
      { erp with
        queued := erp.queued ++ [syncing.queuedRow index row]
        phase := .queuing rows lastSync (index + 1) (syncedCount + 1) } := by
  unfold proceed
  rw [hphase]
  simp only [hrow, isOld_item]
  rfl

theorem proceed_finished {rows : List Row} {lastSync : Option String} {syncedCount : Nat}
    (hphase : erp.phase = .queuing rows lastSync index syncedCount) (hend : rows.length ≤ index) :
    syncing.proceed erp =
      { erp with
        lastSyncAt := if 0 < syncedCount then some (syncing.isoformat erp.time) else erp.lastSyncAt
        phase := .idle } := by
  unfold proceed
  rw [hphase]
  simp only [List.getElem?_eq_none hend]

theorem proceed_cases (erp : Erp) :
    (∃ rows, syncing.proceed erp = { erp with phase := .listed rows } ∧ erp.phase = .idle ∧
        rows = syncing.page erp.rows) ∨
      (∃ rows, erp.phase = .listed rows ∧
        syncing.proceed erp = { erp with phase := .queuing rows erp.lastSyncAt 0 0 }) ∨
      (∃ rows lastSync index syncedCount, erp.phase = .queuing rows lastSync index syncedCount ∧
        ((rows.length ≤ index ∧ ∃ lastSyncAt,
            syncing.proceed erp = { erp with lastSyncAt := lastSyncAt, phase := .idle }) ∨
          ∃ row, rows[index]? = some row ∧
            syncing.proceed erp =
              { erp with
                queued := erp.queued ++ [syncing.queuedRow index row]
                phase := .queuing rows lastSync (index + 1) (syncedCount + 1) })) := by
  cases hphase : erp.phase with
  | idle =>
      refine .inl ⟨_, ?_, rfl, rfl⟩
      unfold proceed
      rw [hphase]
  | listed rows =>
      refine .inr (.inl ⟨rows, rfl, ?_⟩)
      unfold proceed
      rw [hphase]
  | queuing rows lastSync index syncedCount =>
      refine .inr (.inr ⟨rows, lastSync, index, syncedCount, rfl, ?_⟩)
      cases hrow : rows[index]? with
      | none =>
          have hend := List.getElem?_eq_none_iff.mp hrow
          exact .inl ⟨hend, _, proceed_finished hphase hend⟩
      | some row => exact .inr ⟨row, rfl, proceed_queuing hphase hrow⟩

theorem proceed_rows (erp : Erp) : (syncing.proceed erp).rows = erp.rows := by
  obtain ⟨rows, hnext, -⟩ | ⟨rows, -, hnext⟩ | ⟨rows, lastSync, index, syncedCount, -,
    ⟨-, _, hnext⟩ | ⟨row, -, hnext⟩⟩ := syncing.proceed_cases erp <;> rw [hnext]

theorem length_rows_le (erp : Erp) (event : Event) :
    erp.rows.length ≤ (syncing.step erp event).rows.length := by
  cases event with
  | modify index entity => exact (List.length_modify _ _ _).ge
  | create entity => exact (List.length_append ▸ Nat.le_add_right _ _)
  | fail => exact le_rfl
  | proceed => exact (congrArg List.length (syncing.proceed_rows erp)).ge

/-! ## What the sync leaves out -/

/-- What is listed and what is queued comes from the first page. -/
structure Paged (syncing : Syncing) (erp : Erp) : Prop where
  listed : ∀ rows, erp.phase = .listed rows → rows.length ≤ (syncing.page erp.rows).length
  queuing : ∀ rows lastSync index syncedCount, erp.phase = .queuing rows lastSync index syncedCount →
    rows.length ≤ (syncing.page erp.rows).length
  queued : ∀ queued ∈ erp.queued, queued.index < (syncing.page erp.rows).length

theorem Paged.rows (h : syncing.Paged erp) {rows : List Row} (hle : erp.rows.length ≤ rows.length)
    (time : Nat) : syncing.Paged { erp with rows := rows, time := time } where
  listed page hphase := (h.listed page hphase).trans (length_page_le hle)
  queuing page lastSync index syncedCount hphase :=
    (h.queuing page lastSync index syncedCount hphase).trans (length_page_le hle)
  queued queued hqueued := (h.queued queued hqueued).trans_le (length_page_le hle)

theorem Paged.step (h : syncing.Paged erp) (event : Event) :
    syncing.Paged (syncing.step erp event) := by
  cases event with
  | modify index entity => exact h.rows (List.length_modify _ _ _).ge _
  | create entity => exact h.rows (List.length_append ▸ Nat.le_add_right _ _) _
  | fail =>
      constructor
      · intro rows hphase
        cases hphase
      · intro rows lastSync index syncedCount hphase
        cases hphase
      · exact h.queued
  | proceed =>
      unfold Syncing.step
      obtain ⟨rows, hnext, -, rfl⟩ | ⟨rows, hphase, hnext⟩ | ⟨rows, lastSync, index,
        syncedCount, hphase, ⟨-, _, hnext⟩ | ⟨row, hrow, hnext⟩⟩ := syncing.proceed_cases erp
      · simp only [hnext]
        constructor
        · intro rows hphase
          cases hphase
          exact le_rfl
        · intro rows lastSync index syncedCount hphase
          cases hphase
        · exact h.queued
      · simp only [hnext]
        constructor
        · intro rows' hphase'
          cases hphase'
        · intro rows' lastSync index syncedCount hphase'
          cases hphase'
          exact h.listed rows hphase
        · exact h.queued
      · simp only [hnext]
        constructor
        · intro rows' hphase'
          cases hphase'
        · intro rows' lastSync index syncedCount hphase'
          cases hphase'
        · exact h.queued
      · simp only [hnext]
        have hpage := h.queuing rows lastSync index syncedCount hphase
        constructor
        · intro rows' hphase'
          cases hphase'
        · intro rows' lastSync' index' syncedCount' hphase'
          cases hphase'
          exact hpage
        · intro queued hqueued
          rcases List.mem_append.mp hqueued with hqueued | hqueued
          · exact h.queued queued hqueued
          · rw [List.mem_singleton.mp hqueued]
            exact (List.getElem?_eq_some_iff.mp hrow).1.trans_le hpage

theorem paged_started (entities : List Value) (lastSyncAt : Option String) :
    syncing.Paged (.started entities lastSyncAt) where
  listed rows hphase := by cases hphase
  queuing rows lastSync index syncedCount hphase := by cases hphase
  queued queued hqueued := by cases hqueued

/-! ## What the sync reaches -/

/-- The row at this place has been what it is since this time or later. -/
def Since (rows : List Row) (index time : Nat) : Prop :=
  ∃ row, rows[index]? = some row ∧ time ≤ row.updatedAt

theorem since_step (h : Since erp.rows index time) (hnow : time ≤ erp.time) (event : Event) :
    Since (syncing.step erp event).rows index time := by
  obtain ⟨row, hrow, hle⟩ := h
  cases event with
  | modify place entity =>
      show Since (erp.rows.modify place _) index time
      unfold Since
      rw [List.getElem?_modify, hrow]
      refine ⟨_, rfl, ?_⟩
      split
      · exact hnow
      · exact hle
  | create entity =>
      exact ⟨row, (List.getElem?_append_left (List.getElem?_eq_some_iff.mp hrow).1).trans hrow, hle⟩
  | fail => exact ⟨row, hrow, hle⟩
  | proceed => exact ⟨row, (congrArg (·[index]?) (syncing.proceed_rows erp)).trans hrow, hle⟩

/-- The row has changed since this time, and is on the first page. -/
structure Fresh (syncing : Syncing) (index time : Nat) (erp : Erp) : Prop where
  row : Since erp.rows index time
  now : time ≤ erp.time
  onPage : index < (syncing.page erp.rows).length

theorem Fresh.step (h : syncing.Fresh index time erp) (event : Event) :
    syncing.Fresh index time (syncing.step erp event) where
  row := since_step h.row h.now event
  now := Nat.le_succ_of_le h.now
  onPage := h.onPage.trans_le (length_page_le (length_rows_le erp event))

/-- The running sync, if there is one, has listed the row since it has changed, and has not come to it
yet. -/
def Awaits (index time : Nat) : Phase → Prop
  | .idle => True
  | .listed rows => Since rows index time
  | .queuing rows _ next _ => Since rows index time ∧ next ≤ index

theorem step_awaits (hfresh : syncing.Fresh index time erp) (hawaits : Awaits index time erp.phase)
    (event : Event) :
    Awaits index time (syncing.step erp event).phase ∨ (syncing.step erp event).Has index time := by
  cases event with
  | modify place entity => exact .inl hawaits
  | create entity => exact .inl hawaits
  | fail => exact .inl trivial
  | proceed =>
      unfold step
      obtain ⟨rows, hnext, -, rfl⟩ | ⟨rows, hphase, hnext⟩ | ⟨rows, lastSync, place,
        syncedCount, hphase, ⟨-, _, hnext⟩ | ⟨row, hrow, hnext⟩⟩ := syncing.proceed_cases erp
      · simp only [hnext]
        obtain ⟨row, hrow, hle⟩ := hfresh.row
        have hpage := hfresh.onPage
        rw [page_eq] at hpage ⊢
        exact .inl ⟨row, (getElem?_slice hpage).trans hrow, hle⟩
      · simp only [hnext]
        rw [hphase] at hawaits
        exact .inl ⟨hawaits, Nat.zero_le _⟩
      · simp only [hnext]
        exact .inl trivial
      · simp only [hnext]
        rw [hphase] at hawaits
        obtain ⟨hsince, hplace⟩ := hawaits
        rcases Nat.lt_or_eq_of_le hplace with hlt | rfl
        · exact .inl ⟨hsince, hlt⟩
        · -- This is the row, as it was listed.
          obtain ⟨found, hfound, hle⟩ := hsince
          obtain rfl := Option.some.inj (hrow.symm.trans hfound)
          exact .inr ⟨syncing.queuedRow place row,
            List.mem_append_right _ (List.mem_singleton_self _), rfl, hle⟩

theorem not_awaits_of_finishes {event : Event} (h : Finishes erp event) :
    ¬ Awaits index time erp.phase := by
  obtain ⟨-, rows, lastSync, next, syncedCount, hphase, hend⟩ := h
  rw [hphase]
  rintro ⟨⟨row, hrow, -⟩, hnext⟩
  have hlt := (List.getElem?_eq_some_iff.mp hrow).1
  omega

theorem idle_of_finishes {event : Event} (h : Finishes erp event) :
    (syncing.step erp event).phase = .idle := by
  obtain ⟨rfl, rows, lastSync, next, syncedCount, hphase, hend⟩ := h
  show (syncing.proceed erp).phase = .idle
  rw [proceed_finished hphase hend]

variable {first : Erp} {events : Nat → Event}

theorem has_of_fresh (hrun : Recurring syncing.step first events Finishes) {number : Nat}
    (hfresh : syncing.Fresh index time (stateAt syncing.step first events number)) :
    ∃ later, number < later ∧ (stateAt syncing.step first events later).Has index time := by
  -- The sync that runs now may have listed the row before. The next one has not.
  obtain ⟨idle, hle, hidle⟩ := hrun number
  have hafter : syncing.Fresh index time (stateAt syncing.step first events (idle + 1)) :=
    stateAt_keeps (fun _ event h => h.step event) (Nat.le_succ_of_le hle) hfresh
  have hopen : syncing.Fresh index time (stateAt syncing.step first events (idle + 1)) ∧
      Awaits index time (stateAt syncing.step first events (idle + 1)).phase := by
    refine ⟨hafter, ?_⟩
    rw [show (stateAt syncing.step first events (idle + 1)).phase = .idle from
      idle_of_finishes hidle]
    exact trivial
  obtain ⟨later, hlater, hhas⟩ := served_of_recurring
    (fun erp => syncing.Fresh index time erp ∧ Awaits index time erp.phase)
    (fun erp => erp.Has index time)
    (fun erp event h => (step_awaits h.1 h.2 event).imp_left fun hawaits => ⟨h.1.step event, hawaits⟩)
    (fun erp event h hfinishes => absurd h.2 (not_awaits_of_finishes hfinishes)) hrun hopen
  exact ⟨later, by omega, hhas⟩

theorem since_of_changes {event : Event} (h : Changes erp event index) :
    Since (syncing.step erp event).rows index erp.time := by
  obtain ⟨hlt, entity, rfl⟩ | ⟨rfl, entity, rfl⟩ := h
  · show Since (erp.rows.modify index _) index erp.time
    unfold Since
    rw [List.getElem?_modify, List.getElem?_eq_getElem hlt]
    refine ⟨_, rfl, ?_⟩
    show erp.time ≤ (if index = index then Row.mk entity erp.time else _).updatedAt
    rw [if_pos rfl]
  · exact ⟨⟨entity, erp.time⟩, List.getElem?_concat_length, le_rfl⟩

theorem reaches_of_has (entities : List Value) (lastSyncAt : Option String) {number later : Nat}
    (hlt : number < later)
    (hhas : (stateAt syncing.step (.started entities lastSyncAt) events later).Has index time) :
    syncing.Reaches (.started entities lastSyncAt) events number index := by
  obtain ⟨queued, hqueued, rfl, -⟩ := hhas
  have hpaged : syncing.Paged (stateAt syncing.step (.started entities lastSyncAt) events later) :=
    stateAt_keeps (fun _ event h => h.step event) (Nat.zero_le _)
      (paged_started entities lastSyncAt)
  exact ⟨later, hlt, hpaged.queued queued hqueued⟩

theorem has_of_reaches (hrun : Recurring syncing.step first events Finishes) {number : Nat}
    (hchanges : Changes (stateAt syncing.step first events number) (events number) index)
    (hreaches : syncing.Reaches first events number index) :
    ∃ later, number < later ∧ (stateAt syncing.step first events later).Has index
      (stateAt syncing.step first events number).time := by
  obtain ⟨later, hlt, hpage⟩ := hreaches
  -- What a row keeps from the change on, wherever its place is.
  have hkeep : ∀ erp event, Since erp.rows index (stateAt syncing.step first events number).time ∧
      (stateAt syncing.step first events number).time ≤ erp.time →
      Since (syncing.step erp event).rows index (stateAt syncing.step first events number).time ∧
        (stateAt syncing.step first events number).time ≤ (syncing.step erp event).time :=
    fun erp event h => ⟨since_step h.1 h.2 event, Nat.le_succ_of_le h.2⟩
  obtain ⟨hsince, hnow⟩ := stateAt_keeps hkeep (Nat.succ_le_of_lt hlt)
    ⟨since_of_changes hchanges, Nat.le_succ _⟩
  obtain ⟨after, hafter, hhas⟩ := has_of_fresh hrun ⟨hsince, hnow, hpage⟩
  exact ⟨after, hlt.trans hafter, hhas⟩

end Syncing

/-- If syncs end again and again, every change is queued if and only if the place of every entity
that changes comes to be on the first page. -/
theorem changes_queued_iff (syncing : Syncing) (entities : List Value) (lastSyncAt : Option String)
    (events : Nat → Event)
    (hrun : Recurring syncing.step (.started entities lastSyncAt) events Syncing.Finishes) :
    syncing.NothingLost (.started entities lastSyncAt) events ↔
      ∀ number index, Changes (stateAt syncing.step (.started entities lastSyncAt) events number)
        (events number) index → syncing.Reaches (.started entities lastSyncAt) events number index := by
  constructor
  · intro hlost number index hchanges
    obtain ⟨later, hlt, hhas⟩ := hlost number index hchanges
    exact Syncing.reaches_of_has entities lastSyncAt hlt hhas
  · intro hreaches number index hchanges
    exact Syncing.has_of_reaches hrun hchanges (hreaches number index hchanges)

/-! ## Syncs that are not interrupted -/

/-- Something happens, and from then on only syncs run. -/
def thenSyncs (event : Event) : Nat → Event
  | 0 => event
  | _ + 1 => .proceed

/-- How many steps a sync takes at most until it ends. -/
def Syncing.rank (syncing : Syncing) (erp : Erp) : Nat :=
  match erp.phase with
  | .idle => (syncing.page erp.rows).length + 2
  | .listed rows => rows.length + 1
  | .queuing rows _ index _ => rows.length - index

theorem recurring_thenSyncs (syncing : Syncing) (first : Erp) (event : Event) :
    Recurring syncing.step first (thenSyncs event) Syncing.Finishes := by
  refine recurs_of_rank syncing.rank fun number (hstart : 1 ≤ number) => ?_
  obtain ⟨number, rfl⟩ := Nat.exists_eq_succ_of_ne_zero (by omega : number ≠ 0)
  have hnext : stateAt syncing.step first (thenSyncs event) (number + 1 + 1) =
      syncing.step (stateAt syncing.step first (thenSyncs event) (number + 1)) .proceed := rfl
  rw [hnext]
  generalize stateAt syncing.step first (thenSyncs event) (number + 1) = erp
  unfold Syncing.step
  obtain ⟨rows, hnext, hphase, rfl⟩ | ⟨rows, hphase, hnext⟩ | ⟨rows, lastSync, index, syncedCount,
    hphase, ⟨hend, _, -⟩ | ⟨row, hrow, hnext⟩⟩ := syncing.proceed_cases erp
  · right
    simp only [hnext, Syncing.rank, hphase]
    omega
  · right
    simp only [hnext, Syncing.rank, hphase]
    omega
  · exact .inl ⟨rfl, rows, lastSync, index, syncedCount, hphase, hend⟩
  · right
    have hlt := (List.getElem?_eq_some_iff.mp hrow).1
    simp only [hnext, Syncing.rank, hphase]
    omega

/-- Syncs of contractors with the default batch size. -/
def contractorSync : Syncing where
  kind := .contractors
  conversions := ⟨fun _ => "", fun _ => none, fun _ => none⟩
  syncBatchSize := 100
  isoformat := toString

/-- One contractor changes, and nothing else happens: the change is queued. -/
theorem one_contractor_queued :
    contractorSync.NothingLost (.started [.null] none) (thenSyncs (.modify 0 .null)) := by
  refine (changes_queued_iff contractorSync [.null] none (thenSyncs (.modify 0 .null))
    (recurring_thenSyncs _ _ _)).mpr fun number index hchanges => ?_
  cases number with
  | zero =>
      rcases hchanges with ⟨hlt, -⟩ | ⟨-, _, hevent⟩
      · obtain rfl : index = 0 := Nat.lt_one_iff.mp hlt
        exact ⟨1, Nat.zero_lt_one, by decide⟩
      · cases hevent
  | succ number => rcases hchanges with ⟨-, _, hevent⟩ | ⟨-, _, hevent⟩ <;> cases hevent

/-- The last of one hundred and one contractors changes. -/
theorem last_contractor_lost :
    ¬ ∀ (entities : List Value) (events : Nat → Event),
      Recurring contractorSync.step (.started entities none) events Syncing.Finishes →
        contractorSync.NothingLost (.started entities none) events := by
  intro hall
  have hlost := hall (List.replicate 101 .null) (thenSyncs (.modify 100 .null))
    (recurring_thenSyncs _ _ _)
  have hlength : (Erp.started (List.replicate 101 .null) none).rows.length = 101 := by
    rw [Erp.started, List.length_map, List.length_replicate]
  have hplace : 100 < (Erp.started (List.replicate 101 .null) none).rows.length := by omega
  obtain ⟨later, hlt, hhas⟩ := hlost 0 100 (.inl ⟨hplace, .null, rfl⟩)
  obtain ⟨_, -, hpage⟩ := Syncing.reaches_of_has _ _ hlt hhas
  rw [Syncing.page_eq, length_slice, if_pos (by decide)] at hpage
  exact absurd hpage (not_lt.mpr (min_le_left _ _))

end OnPremise

end IntegrationPlatform
