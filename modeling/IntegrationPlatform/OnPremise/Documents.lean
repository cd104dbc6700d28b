import Mathlib.Data.List.Forall2
import Mathlib.Data.NNRat.Defs
/-!
# Documents in Nexo

The services of the agent create an order, a sales document or a warehouse document call by call: a
position that cannot be added is left out, and of a position only the product is passed on.
`as_requested_iff` says when the document that is saved is the one that was requested.
-/

namespace IntegrationPlatform

namespace OnPremise

/-! ## Requests -/

/-- What the services read of `OrderPosition` and `DocumentPosition`, and what they leave out. -/
structure RequestedPosition where
  productSymbol : String
  quantity : Rat := 1
  netPrice : Rat := 0

inductive OrderType where
  | fromCustomer
  | toSupplier

inductive DocumentType where
  | salesInvoice
  | salesReceipt
  | proforma
  | correction
  | warehouseIssue
  | warehouseReceipt
  | internalIssue
  | internalReceipt
  | transfer
  | purchaseInvoice

structure OrderCreate where
  orderType : OrderType := .fromCustomer
  contractorSymbol : String
  positions : List RequestedPosition := []

structure DocumentPayment where
  paymentForm : String := "przelew"

structure DocumentCreate where
  documentType : DocumentType
  buyerSymbol : String
  receiverSymbol : String := ""
  positions : List RequestedPosition := []
  payments : List DocumentPayment := []

/-! ## The SDK -/

/-- The kinds of entities, by the method that creates them. -/
inductive EntityKind where
  | zamowienieOdKlienta
  | zamowienieDoDostawcy
  | fakturaSprzedazy
  | paragon
  | fakturaProforma
  | wydanieZewnetrzne
  | przyjecieZewnetrzne

/-- The parties of a document. -/
inductive Role where
  | zamawiajacy
  | dostawca
  | odbiorca

/-- A position of an entity. -/
structure Position where
  symbolAsortymentu : String
  ilosc : Rat
  cenaNetto : Rat

/-- An entity of the SDK. -/
structure Entity where
  kind : EntityKind
  podmiotyDokumentu : List (Role × String) := []
  pozycje : List Position := []
  platnosci : Nat := 0

/-- What `Zapisz` does. -/
inductive Zapisz where
  | saves
  | refuses
  | raises
  deriving DecidableEq

/-- Which calls of a request succeed, and the price list. A call that fails raises. -/
structure Sdk where
  utworz : Bool
  ustaw : Role → Bool
  dodaj : Nat → Bool
  cena : String → Rat
  przelicz : Bool
  platnosc : Nat → Bool
  zapisz : Zapisz
  bledy : Except String (List String)
  dane : Bool

/-- The entity that a request works on, and the documents in the ERP. -/
structure Session where
  entity : Entity
  saved : List Entity

/-- Calls of the SDK, which may raise. -/
structure Calls (α : Type) where
  run : Session → Except String α × Session

namespace Calls

variable {α β : Type}

instance : Monad Calls where
  pure value := ⟨fun session => (.ok value, session)⟩
  bind first next := ⟨fun session =>
    match first.run session with
    | (.ok value, session') => (next value).run session'
    | (.error message, session') => (.error message, session')⟩

/-- A call that changes the entity, or raises. -/
def change (succeeds : Bool) (message : String) (edit : Entity → Entity) : Calls Unit where
  run session :=
    if succeeds then (.ok (), { session with entity := edit session.entity })
    else (.error message, session)

/-- `try: ... except Exception`, with a handler that goes on. -/
def attempt (calls : Calls Unit) : Calls Unit where
  run session := (.ok (), (calls.run session).2)

variable {first : Calls α} {next : α → Calls β} {session session' : Session}

theorem bind_of_ok {value : α} (h : first.run session = (.ok value, session')) :
    (first >>= next).run session = (next value).run session' := by
  show (match first.run session with
    | (.ok value, session') => (next value).run session'
    | (.error message, session') => (.error message, session')) = _
  rw [h]

theorem bind_of_error {message : String} (h : first.run session = (.error message, session')) :
    (first >>= next).run session = (.error message, session') := by
  show (match first.run session with
    | (.ok value, session') => (next value).run session'
    | (.error message, session') => (.error message, session')) = _
  rw [h]

theorem change_of_true {succeeds : Bool} (h : succeeds = true) (message : String)
    (edit : Entity → Entity) :
    (change succeeds message edit).run session =
      (.ok (), { session with entity := edit session.entity }) :=
  if_pos h

theorem change_of_false {succeeds : Bool} (h : succeeds = false) (message : String)
    (edit : Entity → Entity) :
    (change succeeds message edit).run session = (.error message, session) :=
  if_neg (by rw [h]; exact Bool.false_ne_true)

end Calls

namespace Sdk

open Calls

variable (sdk : Sdk)

/-- A new entity. -/
def create (kind : EntityKind) : Calls Unit :=
  change sdk.utworz "Utworz" fun _ => { kind }

/-- `PodmiotyDokumentu.Ustaw...WedlugSymbolu`. -/
def setParty (role : Role) (symbol : String) : Calls Unit :=
  change (sdk.ustaw role) "Ustaw" fun entity =>
    { entity with podmiotyDokumentu := entity.podmiotyDokumentu ++ [(role, symbol)] }

/-- The party that may be left out. -/
def setReceiver (receiver : String) : Calls Unit :=
  if receiver ≠ "" then attempt (sdk.setParty .odbiorca receiver) else pure ()

/-- `Pozycje.Dodaj`: one piece at the price of the price list. -/
def addPosition (index : Nat) (symbol : String) : Calls Unit :=
  change (sdk.dodaj index) "Dodaj" fun entity =>
    { entity with pozycje := entity.pozycje ++ [⟨symbol, 1, sdk.cena symbol⟩] }

/-- `Przelicz`. -/
def recalculate : Calls Unit := change sdk.przelicz "Przelicz" id

/-- `Platnosci.DodajDomyslnaPlatnoscNatychmiastowaNaKwoteDokumentu`. -/
def addPayment (index : Nat) : Calls Unit :=
  change (sdk.platnosc index) "Dodaj" fun entity => { entity with platnosci := entity.platnosci + 1 }

def extractErrors : String :=
  match sdk.bledy with
  | .ok errors => if errors.isEmpty then "Unknown error" else String.intercalate "; " errors
  | .error _ => "Could not extract error details"

/-- `Zapisz`, after which a refusal raises. -/
def save (what : String) : Calls Unit where
  run session :=
    match sdk.zapisz with
    | .saves => (.ok (), { session with saved := session.saved ++ [session.entity] })
    | .refuses => (.error ("Failed to create " ++ what ++ ": " ++ sdk.extractErrors), session)
    | .raises => (.error "Zapisz", session)

/-! ## The services -/

/-- The loop over the positions. -/
def addPositions : Nat → List RequestedPosition → Calls Unit
  | _, [] => pure ()
  | index, pos :: rest => do
      attempt (sdk.addPosition index pos.productSymbol)
      addPositions (index + 1) rest

/-- The loop over the payments. -/
def addPayments (lower : String → String) : Nat → List DocumentPayment → Calls Unit
  | _, [] => pure ()
  | index, pay :: rest => do
      if lower pay.paymentForm ∈ ["gotówka", "gotowka", "cash"] then attempt (sdk.addPayment index)
      addPayments lower (index + 1) rest

end Sdk

/-- `DocumentResponse` and `OrderResponse`: the type, and the positions. -/
structure Response where
  type : OrderType ⊕ DocumentType
  positions : List RequestedPosition

/-- `nexo_sales_document_to_model`, `nexo_order_to_model` and, without prices,
`nexo_warehouse_document_to_model`. -/
def Sdk.toModel (sdk : Sdk) (type : OrderType ⊕ DocumentType) (prices : Bool) : Calls Response where
  run session :=
    if sdk.dane then
      (.ok ⟨type, session.entity.pozycje.map fun poz =>
        ⟨poz.symbolAsortymentu, poz.ilosc, if prices then poz.cenaNetto else 0⟩⟩, session)
    else (.error "Dane", session)

/-- How a service creates its documents: the entity, the party that has to be set, one that may be
left out, the payments, the name of the document in errors, and what is returned. -/
structure Creation where
  kind : EntityKind
  role : Role
  symbol : String
  receiver : String := ""
  payments : Calls Unit := pure ()
  what : String
  type : OrderType ⊕ DocumentType
  prices : Bool

/-- The steps that all services share. What `entity_scope` disposes of is not saved by it. -/
def Creation.create (creation : Creation) (sdk : Sdk) (positions : List RequestedPosition) :
    Calls Response := do
  sdk.create creation.kind
  sdk.setParty creation.role creation.symbol
  sdk.setReceiver creation.receiver
  sdk.addPositions 0 positions
  sdk.recalculate
  creation.payments
  sdk.save creation.what
  sdk.toModel creation.type creation.prices

def createOrder (data : OrderCreate) : Creation where
  kind := match data.orderType with
    | .fromCustomer => .zamowienieOdKlienta
    | .toSupplier => .zamowienieDoDostawcy
  role := match data.orderType with
    | .fromCustomer => .zamawiajacy
    | .toSupplier => .dostawca
  symbol := data.contractorSymbol
  what := "order"
  type := .inl data.orderType
  prices := true

/-- `SalesDocumentService.create_invoice`. The response is always that of an invoice. -/
def createInvoice (sdk : Sdk) (lower : String → String) (data : DocumentCreate) : Creation where
  kind := match data.documentType with
    | .salesReceipt => .paragon
    | .proforma => .fakturaProforma
    | _ => .fakturaSprzedazy
  role := .zamawiajacy
  symbol := data.buyerSymbol
  receiver := data.receiverSymbol
  payments := if data.payments.isEmpty then Calls.attempt (sdk.addPayment 0)
    else sdk.addPayments lower 0 data.payments
  what := "sales document"
  type := .inr .salesInvoice
  prices := true

def createIssue (data : DocumentCreate) : Creation where
  kind := .wydanieZewnetrzne
  role := .odbiorca
  symbol := data.buyerSymbol
  what := "warehouse issue"
  type := .inr .warehouseIssue
  prices := false

def createReceipt (data : DocumentCreate) : Creation where
  kind := .przyjecieZewnetrzne
  role := .dostawca
  symbol := data.buyerSymbol
  what := "warehouse receipt"
  type := .inr .warehouseReceipt
  prices := false

/-- A request to one of the services. -/
inductive CreateRequest where
  | order (data : OrderCreate)
  | invoice (data : DocumentCreate)
  | issue (data : DocumentCreate)
  | receipt (data : DocumentCreate)

namespace CreateRequest

/-- The service of a request. -/
def creation (request : CreateRequest) (sdk : Sdk) (lower : String → String) : Creation :=
  match request with
  | .order data => createOrder data
  | .invoice data => createInvoice sdk lower data
  | .issue data => createIssue data
  | .receipt data => createReceipt data

/-- The requested positions. -/
def positions : CreateRequest → List RequestedPosition
  | .order data => data.positions
  | .invoice data => data.positions
  | .issue data => data.positions
  | .receipt data => data.positions

/-- The service creates the document. -/
def create (request : CreateRequest) (sdk : Sdk) (lower : String → String) : Calls Response :=
  (request.creation sdk lower).create sdk request.positions

end CreateRequest

/-! ## What was requested -/

/-- A position has the product, the quantity and the price that were requested. -/
structure Position.Matches (position : Position) (requested : RequestedPosition) : Prop where
  product : position.symbolAsortymentu = requested.productSymbol
  quantity : position.ilosc = requested.quantity
  price : 0 < requested.netPrice → position.cenaNetto = requested.netPrice

/-- A response means that the requested document has been saved, and an error that nothing has. -/
def AsRequested (requested : List RequestedPosition) (saved : List Entity) :
    Except String Response × Session → Prop
  | (.ok _, session) => ∃ document, session.saved = saved ++ [document] ∧
      List.Forall₂ Position.Matches document.pozycje requested
  | (.error _, session) => session.saved = saved

/-- No call before `Zapisz` that is not caught fails, and `Zapisz` saves. -/
structure Creation.Saves (creation : Creation) (sdk : Sdk) : Prop where
  utworz : sdk.utworz = true
  ustaw : sdk.ustaw creation.role = true
  przelicz : sdk.przelicz = true
  zapisz : sdk.zapisz = .saves

/-- The position can be added, and one piece of the product at the price of the price list is what
is requested. -/
structure Sdk.Provides (sdk : Sdk) (index : Nat) (requested : RequestedPosition) : Prop where
  dodaj : sdk.dodaj index = true
  quantity : requested.quantity = 1
  price : 0 < requested.netPrice → sdk.cena requested.productSymbol = requested.netPrice

/-- A document that is saved has been requested, and a document that is not requested is not saved. -/
structure CreateRequest.Complete (request : CreateRequest) (sdk : Sdk) : Prop where
  dane : sdk.dane = true
  provides : ∀ index requested, request.positions[index]? = some requested →
    sdk.Provides index requested

/-! ## The positions of a document -/

section Positions

variable {sdk : Sdk} {index : Nat} {positions : List RequestedPosition} {session : Session}

/-- The positions that are added. -/
def Sdk.placed (sdk : Sdk) : Nat → List RequestedPosition → List Position
  | _, [] => []
  | index, pos :: rest =>
      if sdk.dodaj index then ⟨pos.productSymbol, 1, sdk.cena pos.productSymbol⟩ ::
        placed sdk (index + 1) rest
      else placed sdk (index + 1) rest

theorem run_addPositions :
    (sdk.addPositions index positions).run session =
      (.ok (), { session with
        entity := { session.entity with
          pozycje := session.entity.pozycje ++ sdk.placed index positions } }) := by
  induction positions generalizing index session with
  | nil =>
      show (Except.ok (), session) = _
      rw [Sdk.placed, List.append_nil]
  | cons pos rest ih =>
      show (sdk.addPositions (index + 1) rest).run
        ((sdk.addPosition index pos.productSymbol).run session).2 = _
      rw [ih, Sdk.placed]
      unfold Sdk.addPosition Calls.change
      cases sdk.dodaj index with
      | true => simp
      | false => simp

theorem length_placed_le : (sdk.placed index positions).length ≤ positions.length := by
  induction positions generalizing index with
  | nil => exact le_rfl
  | cons pos rest ih =>
      unfold Sdk.placed
      split
      · exact Nat.succ_le_succ ih
      · exact Nat.le_succ_of_le ih

theorem matches_iff {requested : RequestedPosition} :
    Position.Matches ⟨requested.productSymbol, 1, sdk.cena requested.productSymbol⟩ requested ↔
      requested.quantity = 1 ∧
        (0 < requested.netPrice → sdk.cena requested.productSymbol = requested.netPrice) :=
  ⟨fun h => ⟨h.quantity.symm, h.price⟩, fun h => ⟨rfl, h.1.symm, h.2⟩⟩

theorem forall₂_placed_iff :
    List.Forall₂ Position.Matches (sdk.placed index positions) positions ↔
      ∀ offset requested, positions[offset]? = some requested →
        sdk.Provides (index + offset) requested := by
  induction positions generalizing index with
  | nil => exact iff_of_true .nil fun _ _ h => by cases h
  | cons pos rest ih =>
      unfold Sdk.placed
      constructor
      · intro h
        split at h
        · next hdodaj =>
          obtain ⟨hfirst, hrest⟩ := List.forall₂_cons.mp h
          obtain ⟨hquantity, hprice⟩ := matches_iff.mp hfirst
          intro offset requested hfound
          cases offset with
          | zero =>
              obtain rfl := Option.some.inj hfound
              exact ⟨hdodaj, hquantity, hprice⟩
          | succ offset =>
              rw [← Nat.add_assoc, Nat.add_right_comm]
              exact ih.mp hrest offset requested hfound
        · -- Something has been left out, and there are fewer positions than requested.
          have hlength := h.length_eq
          have hle : (sdk.placed (index + 1) rest).length ≤ rest.length := length_placed_le
          rw [List.length_cons] at hlength
          omega
      · intro h
        have hfirst : sdk.Provides index pos := h 0 pos rfl
        rw [if_pos hfirst.dodaj]
        refine List.forall₂_cons.mpr ⟨matches_iff.mpr ⟨hfirst.quantity, hfirst.price⟩, ih.mpr ?_⟩
        intro offset requested hfound
        rw [Nat.add_right_comm, Nat.add_assoc]
        exact h (offset + 1) requested hfound

end Positions

/-! ## The calls of a service -/

/-- Calls that return, and change nothing but the payments. -/
def Calls.Quiet (calls : Calls Unit) : Prop :=
  ∀ session, ∃ platnosci, calls.run session =
    (.ok (), { session with entity := { session.entity with platnosci } })

variable {sdk : Sdk} {creation : Creation} {positions : List RequestedPosition} {entity : Entity}
  {saved : List Entity}

theorem quiet_pure : Calls.Quiet (pure ()) := fun session => ⟨session.entity.platnosci, rfl⟩

theorem quiet_addPayment (sdk : Sdk) (index : Nat) : (Calls.attempt (sdk.addPayment index)).Quiet := by
  intro session
  unfold Calls.attempt Sdk.addPayment Calls.change
  split
  · exact ⟨session.entity.platnosci + 1, rfl⟩
  · exact ⟨session.entity.platnosci, rfl⟩

theorem quiet_addPayments (lower : String → String) (index : Nat) (payments : List DocumentPayment) :
    (sdk.addPayments lower index payments).Quiet := by
  induction payments generalizing index with
  | nil => exact quiet_pure
  | cons pay rest ih =>
      intro session
      unfold Sdk.addPayments
      split
      · obtain ⟨first, hfirst⟩ := quiet_addPayment sdk index session
        obtain ⟨last, hlast⟩ := ih (index + 1)
          { session with entity := { session.entity with platnosci := first } }
        exact ⟨last, (Calls.bind_of_ok hfirst).trans hlast⟩
      · exact ih (index + 1) session

theorem quiet_payments (sdk : Sdk) (request : CreateRequest) (lower : String → String) :
    (request.creation sdk lower).payments.Quiet := by
  cases request with
  | invoice data =>
      unfold CreateRequest.creation createInvoice
      dsimp only
      split
      · exact quiet_addPayment sdk 0
      · exact quiet_addPayments lower 0 data.payments
  | order | issue | receipt => exact quiet_pure

theorem run_setReceiver (sdk : Sdk) (receiver : String) (session : Session) :
    ∃ parties, (sdk.setReceiver receiver).run session =
      (.ok (), { session with entity := { session.entity with podmiotyDokumentu := parties } }) := by
  unfold Sdk.setReceiver
  split
  · unfold Calls.attempt Sdk.setParty Calls.change
    dsimp only
    split
    · exact ⟨_, rfl⟩
    · exact ⟨session.entity.podmiotyDokumentu, rfl⟩
  · exact ⟨session.entity.podmiotyDokumentu, rfl⟩

/-- The document that a service saves. -/
def Creation.document (creation : Creation) (sdk : Sdk) (parties : List (Role × String))
    (positions : List RequestedPosition) (platnosci : Nat) : Entity :=
  ⟨creation.kind, parties, sdk.placed 0 positions, platnosci⟩

theorem save_of_saves (h : sdk.zapisz = .saves) (what : String) :
    (sdk.save what).run ⟨entity, saved⟩ = (.ok (), ⟨entity, saved ++ [entity]⟩) := by
  unfold Sdk.save
  rw [h]

theorem save_of_not_saves (h : sdk.zapisz ≠ .saves) (entity : Entity) (saved : List Entity)
    (what : String) :
    ∃ message, (sdk.save what).run ⟨entity, saved⟩ = (.error message, ⟨entity, saved⟩) := by
  unfold Sdk.save
  cases hzapisz : sdk.zapisz with
  | saves => exact absurd hzapisz h
  | refuses => exact ⟨_, rfl⟩
  | raises => exact ⟨_, rfl⟩

theorem create_of_ready (positions : List RequestedPosition) (entity : Entity) (saved : List Entity)
    (hpayments : creation.payments.Quiet) (hutworz : sdk.utworz = true)
    (hustaw : sdk.ustaw creation.role = true) (hprzelicz : sdk.przelicz = true) :
    ∃ parties platnosci, (creation.create sdk positions).run ⟨entity, saved⟩ =
      (sdk.save creation.what >>= fun _ => sdk.toModel creation.type creation.prices).run
        ⟨creation.document sdk parties positions platnosci, saved⟩ := by
  obtain ⟨parties, hreceiver⟩ := run_setReceiver sdk creation.receiver
    ⟨⟨creation.kind, [(creation.role, creation.symbol)], [], 0⟩, saved⟩
  obtain ⟨platnosci, hquiet⟩ := hpayments ⟨creation.document sdk parties positions 0, saved⟩
  refine ⟨parties, platnosci, ?_⟩
  calc (creation.create sdk positions).run ⟨entity, saved⟩
      _ = _ := Calls.bind_of_ok (Calls.change_of_true hutworz _ _)
      _ = _ := Calls.bind_of_ok (Calls.change_of_true hustaw _ _)
      _ = _ := Calls.bind_of_ok hreceiver
      _ = _ := Calls.bind_of_ok run_addPositions
      _ = _ := Calls.bind_of_ok (Calls.change_of_true hprzelicz _ _)
      _ = _ := Calls.bind_of_ok hquiet

theorem create_of_saves (positions : List RequestedPosition) (entity : Entity) (saved : List Entity)
    (hpayments : creation.payments.Quiet) (h : creation.Saves sdk) :
    ∃ document, document.pozycje = sdk.placed 0 positions ∧
      (creation.create sdk positions).run ⟨entity, saved⟩ =
        (sdk.toModel creation.type creation.prices).run ⟨document, saved ++ [document]⟩ := by
  obtain ⟨parties, platnosci, hcreate⟩ := create_of_ready positions entity saved hpayments h.utworz
    h.ustaw h.przelicz
  exact ⟨creation.document sdk parties positions platnosci, rfl,
    hcreate.trans (Calls.bind_of_ok (save_of_saves h.zapisz _))⟩

theorem create_of_not_saves (positions : List RequestedPosition) (entity : Entity)
    (saved : List Entity) (hpayments : creation.payments.Quiet) (h : ¬ creation.Saves sdk) :
    ∃ message entity', (creation.create sdk positions).run ⟨entity, saved⟩ =
      (.error message, ⟨entity', saved⟩) := by
  cases hutworz : sdk.utworz with
  | false => exact ⟨_, _, Calls.bind_of_error (Calls.change_of_false hutworz _ _)⟩
  | true =>
      cases hustaw : sdk.ustaw creation.role with
      | false =>
          exact ⟨_, _, (Calls.bind_of_ok (Calls.change_of_true hutworz _ _)).trans
            (Calls.bind_of_error (Calls.change_of_false hustaw _ _))⟩
      | true =>
          cases hprzelicz : sdk.przelicz with
          | false =>
              obtain ⟨parties, hreceiver⟩ := run_setReceiver sdk creation.receiver
                ⟨⟨creation.kind, [(creation.role, creation.symbol)], [], 0⟩, saved⟩
              refine ⟨"Przelicz", creation.document sdk parties positions 0, ?_⟩
              calc (creation.create sdk positions).run ⟨entity, saved⟩
                  _ = _ := Calls.bind_of_ok (Calls.change_of_true hutworz _ _)
                  _ = _ := Calls.bind_of_ok (Calls.change_of_true hustaw _ _)
                  _ = _ := Calls.bind_of_ok hreceiver
                  _ = _ := Calls.bind_of_ok run_addPositions
                  _ = _ := Calls.bind_of_error (Calls.change_of_false hprzelicz _ _)
          | true =>
              obtain ⟨parties, platnosci, hcreate⟩ := create_of_ready positions entity saved hpayments
                hutworz hustaw hprzelicz
              obtain ⟨message, hsave⟩ := save_of_not_saves
                (fun hzapisz => h ⟨hutworz, hustaw, hprzelicz, hzapisz⟩)
                (creation.document sdk parties positions platnosci) saved creation.what
              exact ⟨message, _, hcreate.trans (Calls.bind_of_error hsave)⟩

/-- A response is given for the requested document, and an error only when nothing has been saved, if
and only if every position of a document that can be saved is one piece at the price of the price
list that can be added, and the document that is saved can be read. -/
theorem as_requested_iff (sdk : Sdk) (lower : String → String) (request : CreateRequest)
    (entity : Entity) (saved : List Entity) :
    AsRequested request.positions saved ((request.create sdk lower).run ⟨entity, saved⟩) ↔
      ((request.creation sdk lower).Saves sdk → request.Complete sdk) := by
  have hpayments := quiet_payments sdk request lower
  unfold CreateRequest.create
  by_cases hsaves : (request.creation sdk lower).Saves sdk
  · obtain ⟨document, hpozycje, hcreate⟩ := create_of_saves request.positions entity saved hpayments
      hsaves
    rw [hcreate, forall_prop_of_true hsaves]
    unfold Sdk.toModel
    cases hdane : sdk.dane with
    | true =>
        show (∃ found, saved ++ [document] = saved ++ [found] ∧ _) ↔ _
        constructor
        · rintro ⟨found, hfound, hmatches⟩
          obtain rfl := List.singleton_inj.mp (List.append_cancel_left hfound)
          rw [hpozycje, forall₂_placed_iff] at hmatches
          exact ⟨hdane, fun index requested h => by
            simpa only [Nat.zero_add] using hmatches index requested h⟩
        · intro hcomplete
          refine ⟨document, rfl, ?_⟩
          rw [hpozycje, forall₂_placed_iff]
          exact fun index requested h => by
            simpa only [Nat.zero_add] using hcomplete.provides index requested h
    | false =>
        refine iff_of_false (fun h => ?_) (fun hcomplete => ?_)
        · -- The document is there, but it cannot be read.
          have hlength := congrArg List.length (show saved ++ [document] = saved from h)
          rw [List.length_append, List.length_singleton] at hlength
          omega
        · exact absurd (hdane.symm.trans hcomplete.dane) Bool.false_ne_true
  · obtain ⟨message, entity', hcreate⟩ := create_of_not_saves request.positions entity saved
      hpayments hsaves
    rw [hcreate]
    exact iff_of_true rfl fun h => absurd h hsaves

/-- Every call succeeds, and every product costs one. -/
def willing : Sdk where
  utworz := true
  ustaw _ := true
  dodaj _ := true
  cena _ := 1
  przelicz := true
  platnosc _ := true
  zapisz := .saves
  bledy := .ok []
  dane := true

/-- An issue of five pieces is saved with one piece. -/
theorem one_piece_issued :
    ¬ ∀ (sdk : Sdk) (request : CreateRequest),
      AsRequested request.positions []
        ((request.create sdk id).run ⟨{ kind := .wydanieZewnetrzne }, []⟩) := by
  intro hall
  obtain ⟨document, hsaved, hmatches⟩ :=
    hall willing (.issue ⟨.warehouseIssue, "K1", "", [⟨"P1", 5, 0⟩], []⟩)
  obtain rfl := List.singleton_inj.mp hsaved
  have hquantity := (List.forall₂_cons.mp hmatches).1.quantity
  exact absurd hquantity (by decide +kernel)

end OnPremise

end IntegrationPlatform
