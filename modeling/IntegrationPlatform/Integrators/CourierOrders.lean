import Mathlib.Data.List.Basic

/-!
# Orders at the couriers

`create_order` of the DHL connector and of the InPost connector: the carrier accepts a shipment, and
further steps follow whose failures become answers. `named_iff` says when the answer names the shipment
that has been accepted.
-/

namespace IntegrationPlatform

namespace Couriers

/-! ## Answers -/

/-- An object as the carrier sends it or as an error handler makes it, with the numbers of shipments
among its fields. -/
structure Response (ν : Type) where
  error : Option String := none
  shipmentId : Option ν := none
  shipmentNumber : Option ν := none
  trackingNumber : Option ν := none
  extrasShipmentId : Option ν := none
  offerId : Option String := none
  mentioned : Option ν := none

/-- The body of an answer: a text, which may name a shipment, an object, or a normalized order. -/
inductive Body (ν : Type) where
  | text (message : String) (mentioned : Option ν)
  | object (response : Response ν)
  | normalized (id waybillNumber extrasShipmentId : Option ν)

/-- An answer with its status, or an exception, which may mention a shipment. -/
abbrev Result (ν : Type) := Except (Option ν) (Body ν × Nat)

/-- The number of a shipment is in the body. -/
def Body.Names {ν : Type} (body : Body ν) (number : ν) : Prop :=
  match body with
  | .text _ mentioned => mentioned = some number
  | .object response =>
      response.shipmentId = some number ∨ response.shipmentNumber = some number ∨
        response.trackingNumber = some number ∨ response.extrasShipmentId = some number ∨
        response.mentioned = some number
  | .normalized id waybillNumber extrasShipmentId =>
      id = some number ∨ waybillNumber = some number ∨ extrasShipmentId = some number

/-- The number of a shipment is in the answer or in the exception. -/
def Names {ν : Type} (result : Result ν) (number : ν) : Prop :=
  match result with
  | .ok (body, _) => body.Names number
  | .error mentioned => mentioned = some number

namespace Dhl

/-! ## The DHL connector -/

/-- What a call to the service comes to: an answer; an object that is none, with a code; no content; a
fault; a transport error, whose status is 200 where an answer is no XML; another exception, of the call
or of the conversion of its answer. -/
inductive Reply (ν α : Type) where
  | answer (value : α)
  | refused (code : String) (mentioned : Option ν)
  | nothing
  | fault
  | transportError (status : Nat)
  | raised (mentioned : Option ν)

/-- `extras.dhl` of a command. -/
structure Extras where
  bookCourier : Option Bool
  pickupDate : Option String
  pickupTimeFrom : Option String
  pickupTimeTo : Option String

/-- A command: whether the structure of the shipment can be built from it, whether it is for a service
point, and its extras, if it has some. -/
structure Command where
  builds : Bool
  targetPoint : Bool
  dhl : Option Extras

/-- An item of `getMyShipments`, and whether it can be converted to JSON. -/
structure Shipment (ν : Type) where
  shipmentId : ν
  serializable : Bool

/-- The shipment that the carrier accepts, if it does, and what the calls come to: the creation, whose
answer may be empty, the count of the shipments, their pages by offset, and the booking. -/
structure Answers (ν : Type) where
  accepted : Option ν
  create : Reply ν (Option ν)
  count : Reply ν Nat
  page : Nat → Reply ν (List (Shipment ν))
  book : Reply ν (List String)
  honest : ∀ number, create = .answer (some number) → accepted = some number

section Functions

variable {ν : Type} {α : Type}

/-- The handlers around a call, of which each function has its own for an object with a code and for no
content. -/
def Reply.handled (reply : Reply ν α) (faultStatus : Nat) (nothing : Result ν)
    (refused : String → Option ν → Result ν) (answered : α → Result ν) : Result ν :=
  match reply with
  | .answer value => answered value
  | .refused code mentioned => refused code mentioned
  | .nothing => nothing
  | .fault => .ok (.object { error := "DHL API request failed" }, faultStatus)
  | .transportError status => .ok (.object { error := "DHL API communication error" }, status)
  | .raised mentioned => .error mentioned

/-- The answer for an object with a code. -/
def refusedStatus (code : String) : Nat :=
  if code == "100" then 401 else 400

/-- `_create_order`. -/
def createShipment (command : Command) (answers : Answers ν) : Result ν :=
  if command.builds then
    answers.create.handled 400 (.ok (.text "Brak danych" none, 404))
      (fun code mentioned =>
        if command.targetPoint then .ok (.object { mentioned }, 400)
        else .ok (.object { error := "DHL API request failed" }, refusedStatus code))
      (fun number =>
        if command.targetPoint then .ok (.object { shipmentNumber := number }, 200)
        else match number with
          | some number => .ok (.object { shipmentId := some number }, 200)
          -- `response[0]` of an empty list
          | none => .error none)
  else .error none

def normalizeOrderItem (order : Response ν) : Body ν :=
  .normalized order.shipmentId order.trackingNumber order.extrasShipmentId

def normalizeOrderItemParcelshop (order : Response ν) : Body ν :=
  normalizeOrderItem { order with
    trackingNumber := order.shipmentNumber
    shipmentId := order.shipmentNumber }

variable [DecidableEq ν]

/-- The order of a shipment among those that have been listed. -/
def findOrder (waybillNumber : ν) (orders : List (Shipment ν)) : Result ν :=
  if orders.isEmpty then .ok (.text "Zamówienie nie istnieje w podanym okresie czasowym" none, 404)
  else match orders.find? fun order => order.shipmentId == waybillNumber with
    | none => .ok (.text "Nie znaleziono zamówienia o identyfikatorze" (some waybillNumber), 404)
    | some order =>
        if order.serializable then
          .ok (.object { shipmentId := some order.shipmentId, trackingNumber := some waybillNumber },
            200)
        else .error none

/-- The loop over the pages. -/
def listOrders (waybillNumber : ν) :
    List (Reply ν (List (Shipment ν))) → List (Shipment ν) → Result ν
  | [], orders => findOrder waybillNumber orders
  | page :: pages, orders =>
      page.handled 404 (.ok (.text "Brak danych" none, 200))
        -- an object is no list to extend with
        (fun _ _ => .error none)
        (fun more => listOrders waybillNumber pages (orders ++ more))

/-- The pages at the offsets below a count, by hundreds. -/
def Answers.pages (answers : Answers ν) (count : Nat) : List (Reply ν (List (Shipment ν))) :=
  (List.range ((count + 99) / 100)).map fun page => answers.page (100 * page)

/-- `get_order`: a count that is missing or zero stands for 100. -/
def getOrder (answers : Answers ν) (waybillNumber : ν) : Result ν :=
  answers.count.handled 404 (listOrders waybillNumber (answers.pages 100) [])
    (fun _ _ => .error none)
    (fun count =>
      listOrders waybillNumber (answers.pages (if count = 0 then 100 else count)) [])

/-- What follows a lookup: an order with status 200 gets the number of the shipment among its extras,
and a text has no extras. -/
def withShipmentId (shipmentId : ν) (finish : Response ν → Body ν × Nat) : Result ν → Result ν
  | .ok (.object order, 200) => .ok (finish { order with extrasShipmentId := some shipmentId })
  | .ok (_, 200) => .error none
  | answer => answer

/-- `_buy_offer`. The number of the shipment is among the extras only if the command has some. -/
def buyOffer (command : Command) (answers : Answers ν) (shipmentId : ν) : Result ν :=
  match command.dhl with
  | some ⟨_, some _, some _, some _⟩ =>
      answers.book.handled 400 (.ok (.text "Brak danych" none, 201))
        (fun code _ =>
          .ok (.object { error := "DHL API request failed" }, refusedStatus code))
        (fun offerIds =>
          match offerIds with
          | [] => .error none
          | offerId :: _ =>
              withShipmentId shipmentId
                (fun order => (.object { order with offerId := some offerId }, 201))
                (getOrder answers shipmentId))
  | _ => .error none

/-- `extras_dhl.get("book_courier", True)`. -/
def Command.bookCourier (command : Command) : Bool :=
  (command.dhl.bind Extras.bookCourier).getD true

def createOrder (command : Command) (answers : Answers ν) : Result ν :=
  match createShipment command answers with
  | .ok (.object response, 200) =>
      if command.targetPoint then .ok (normalizeOrderItemParcelshop response, 201)
      else match response.shipmentId with
        | none => .error none
        | some shipmentId =>
            if command.bookCourier then buyOffer command answers shipmentId
            else withShipmentId shipmentId (fun order => (normalizeOrderItem order, 201))
              (getOrder answers shipmentId)
  | answer => answer

/-- The shipment that has been accepted: none before the request has been sent. -/
def accepted (command : Command) (answers : Answers ν) : Option ν :=
  if command.builds then answers.accepted else none

/-! ### Which calls leave the shipment named -/

/-- A call that ends a lookup without losing the number. -/
def Reply.Keeps (reply : Reply ν α) (number : ν) : Prop :=
  reply = .transportError 200 ∨ reply = .raised (some number)

/-- A list that is not empty, whose entry for the shipment, if there is one, can be converted. -/
def Listed (number : ν) (orders : List (Shipment ν)) : Prop :=
  orders ≠ [] ∧ ∀ order, (orders.find? fun order => order.shipmentId == number) = some order →
    order.serializable = true

/-- After pages that are answers one ends the lookup without losing the number, or all pages are answers
and together are such a list. -/
def Scanned (number : ν) (pages : List (Reply ν (List (Shipment ν)))) (orders : List (Shipment ν)) :
    Prop :=
  (∃ (found : List (List (Shipment ν))) (page : Reply ν (List (Shipment ν)))
      (rest : List (Reply ν (List (Shipment ν)))),
    pages = found.map Reply.answer ++ page :: rest ∧ page.Keeps number) ∨
    ∃ found : List (List (Shipment ν)), pages = found.map Reply.answer ∧
      Listed number (orders ++ found.flatten)

/-- The count, or the pages that it asks for, keep the number. -/
inductive LookedUp (answers : Answers ν) (number : ν) : Prop where
  | uncounted : answers.count.Keeps number → LookedUp answers number
  | counted {count : Nat} : answers.count = .answer count →
      Scanned number (answers.pages (if count = 0 then 100 else count)) [] →
      LookedUp answers number
  | missing : answers.count = .nothing → Scanned number (answers.pages 100) [] →
      LookedUp answers number

/-- The calls of a command leave the shipment named: for a service point the creation is answered with its
number or refused with a mention of it; otherwise the creation is answered with its number, and it is
looked up, after it has been booked if it is to be. An exception may mention it at each call. -/
inductive Identified (command : Command) (answers : Answers ν) (number : ν) : Prop where
  | raised : answers.create = .raised (some number) → Identified command answers number
  | refused {code : String} : command.targetPoint = true →
      answers.create = .refused code (some number) → Identified command answers number
  | targetPoint : command.targetPoint = true → answers.create = .answer (some number) →
      Identified command answers number
  | lookedUp : command.targetPoint = false → answers.create = .answer (some number) →
      command.bookCourier = false → LookedUp answers number → Identified command answers number
  | booked {bookCourier : Option Bool} {pickupDate pickupTimeFrom pickupTimeTo offerId : String}
      {offerIds : List String} :
      command.targetPoint = false → answers.create = .answer (some number) →
      command.bookCourier = true →
      command.dhl = some ⟨bookCourier, some pickupDate, some pickupTimeFrom, some pickupTimeTo⟩ →
      answers.book = .answer (offerId :: offerIds) → LookedUp answers number →
      Identified command answers number
  | bookingRaised {bookCourier : Option Bool} {pickupDate pickupTimeFrom pickupTimeTo : String} :
      command.targetPoint = false → answers.create = .answer (some number) →
      command.bookCourier = true →
      command.dhl = some ⟨bookCourier, some pickupDate, some pickupTimeFrom, some pickupTimeTo⟩ →
      answers.book = .raised (some number) → Identified command answers number

/-! ### What a lookup keeps -/

/-- The result of a lookup from which the answer with the number is made, or which has the number. -/
def Located (number : ν) : Result ν → Prop
  | .ok (.object _, 200) => True
  | .ok (_, 200) => False
  | answer => Names answer number

variable {number : ν}

omit [DecidableEq ν] in
theorem names_withShipmentId {finish : Response ν → Body ν × Nat}
    (hfinish : ∀ order : Response ν, order.extrasShipmentId = some number →
      (finish order).1.Names number) (result : Result ν) :
    Names (withShipmentId number finish result) number ↔ Located number result := by
  unfold withShipmentId Located
  split
  · exact iff_of_true (hfinish _ rfl) trivial
  · exact iff_of_false (fun h => nomatch h) id
  · exact Iff.rfl

theorem located_findOrder (number : ν) (orders : List (Shipment ν)) :
    Located number (findOrder number orders) ↔ Listed number orders := by
  unfold findOrder Listed
  cases orders with
  | nil => exact iff_of_false (fun h => nomatch h) (fun h => h.1 rfl)
  | cons first rest =>
      rw [List.isEmpty_cons, if_neg Bool.false_ne_true]
      cases hfound : (first :: rest).find? fun order => order.shipmentId == number with
      | none => exact iff_of_true rfl ⟨List.cons_ne_nil _ _, fun _ h => nomatch h⟩
      | some order =>
          by_cases hserializable : order.serializable = true
          · simp [hserializable, Located]
          · simp [hserializable, Located, Names]

theorem scanned_nil_iff {orders : List (Shipment ν)} :
    Scanned number [] orders ↔ Listed number orders := by
  constructor
  · rintro (⟨found, page, rest, hpages, -⟩ | ⟨found, hpages, hlisted⟩)
    · exact absurd hpages (by simp)
    · obtain rfl := List.map_eq_nil_iff.mp hpages.symm
      simpa using hlisted
  · intro hlisted
    exact .inr ⟨[], rfl, by simpa using hlisted⟩

variable {pages : List (Reply ν (List (Shipment ν)))}

theorem scanned_answer_iff {more orders : List (Shipment ν)} :
    Scanned number (.answer more :: pages) orders ↔ Scanned number pages (orders ++ more) := by
  constructor
  · rintro (⟨found, page, rest, hpages, hkeeps⟩ | ⟨found, hpages, hlisted⟩)
    · cases found with
      | nil =>
          obtain rfl := (List.cons.inj hpages).1
          rcases hkeeps with heq | heq <;> cases heq
      | cons first found =>
          obtain ⟨hfirst, rfl⟩ := List.cons.inj hpages
          exact .inl ⟨found, page, rest, rfl, hkeeps⟩
    · cases found with
      | nil => cases hpages
      | cons first found =>
          obtain ⟨hfirst, rfl⟩ := List.cons.inj hpages
          obtain rfl := Reply.answer.inj hfirst
          rw [List.flatten_cons, ← List.append_assoc] at hlisted
          exact .inr ⟨found, rfl, hlisted⟩
  · rintro (⟨found, page, rest, rfl, hkeeps⟩ | ⟨found, rfl, hlisted⟩)
    · exact .inl ⟨more :: found, page, rest, rfl, hkeeps⟩
    · refine .inr ⟨more :: found, rfl, ?_⟩
      rwa [List.flatten_cons, ← List.append_assoc]

theorem scanned_end_iff {page : Reply ν (List (Shipment ν))}
    {orders : List (Shipment ν)}
    (hpage : ∀ more, page ≠ .answer more) :
    Scanned number (page :: pages) orders ↔ page.Keeps number := by
  constructor
  · rintro (⟨found, last, rest, hpages, hkeeps⟩ | ⟨found, hpages, -⟩)
    · cases found with
      | nil => exact (List.cons.inj hpages).1 ▸ hkeeps
      | cons first found => exact absurd (List.cons.inj hpages).1 (hpage first)
    · cases found with
      | nil => cases hpages
      | cons first found => exact absurd (List.cons.inj hpages).1 (hpage first)
  · exact fun hkeeps => .inl ⟨[], page, pages, rfl, hkeeps⟩

omit [DecidableEq ν] in
theorem located_handled {reply : Reply ν α} {nothing : Result ν}
    {answered : α → Result ν} (hanswer : ∀ value, reply ≠ .answer value)
    (hnothing : reply ≠ .nothing) :
    Located number (reply.handled 404 nothing (fun _ _ => .error none) answered) ↔
      reply.Keeps number := by
  cases reply with
  | answer value => exact absurd rfl (hanswer value)
  | refused code mentioned =>
      exact iff_of_false (fun h => nomatch h) (by rintro (h | h) <;> cases h)
  | nothing => exact absurd rfl hnothing
  | fault =>
      refine iff_of_false ?_ (by rintro (h | h) <;> cases h)
      simp [Reply.handled, Located, Names, Body.Names]
  | transportError status =>
      by_cases hstatus : status = 200
      · subst hstatus
        exact iff_of_true trivial (.inl rfl)
      · simp [Reply.handled, Located, Names, Body.Names, Reply.Keeps, hstatus]
  | raised mentioned => simp [Reply.handled, Located, Names, Reply.Keeps]

theorem located_listOrders (number : ν) (pages : List (Reply ν (List (Shipment ν))))
    (orders : List (Shipment ν)) :
    Located number (listOrders number pages orders) ↔ Scanned number pages orders := by
  induction pages generalizing orders with
  | nil => exact (located_findOrder number orders).trans scanned_nil_iff.symm
  | cons page pages ih =>
      by_cases hanswer : ∃ more, page = .answer more
      · obtain ⟨more, rfl⟩ := hanswer
        exact (ih (orders ++ more)).trans scanned_answer_iff.symm
      · rw [not_exists] at hanswer
        rw [scanned_end_iff hanswer, listOrders]
        by_cases hnothing : page = .nothing
        · subst hnothing
          exact iff_of_false id (by rintro (h | h) <;> cases h)
        · exact located_handled hanswer hnothing

theorem located_getOrder (answers : Answers ν) (number : ν) :
    Located number (getOrder answers number) ↔ LookedUp answers number := by
  unfold getOrder
  constructor
  · intro h
    cases hcount : answers.count with
    | answer count =>
        rw [hcount] at h
        exact .counted hcount ((located_listOrders number _ _).mp h)
    | nothing =>
        rw [hcount] at h
        exact .missing hcount ((located_listOrders number _ _).mp h)
    | _ =>
        refine .uncounted ((located_handled ?_ ?_).mp h) <;> simp [hcount]
  · intro h
    cases h with
    | uncounted hkeeps =>
        refine (located_handled ?_ ?_).mpr hkeeps
        · rintro value heq
          rcases hkeeps with h | h <;> cases heq.symm.trans h
        · rintro heq
          rcases hkeeps with h | h <;> cases heq.symm.trans h
    | counted hcount hscanned =>
        rw [hcount]
        exact (located_listOrders number _ _).mpr hscanned
    | missing hcount hscanned =>
        rw [hcount]
        exact (located_listOrders number _ _).mpr hscanned

/-! ### What an order names -/

/-- A booking leaves the shipment named exactly if its date and times are there and it is answered, and
then the shipment is looked up, or if an exception mentions it. -/
theorem names_buyOffer (command : Command) (answers : Answers ν) (number : ν) :
    Names (buyOffer command answers number) number ↔
      ∃ bookCourier pickupDate pickupTimeFrom pickupTimeTo,
        command.dhl = some ⟨bookCourier, some pickupDate, some pickupTimeFrom, some pickupTimeTo⟩ ∧
        ((∃ offerId offerIds, answers.book = .answer (offerId :: offerIds) ∧
          LookedUp answers number) ∨ answers.book = .raised (some number)) := by
  unfold buyOffer
  split
  · next bookCourier pickupDate pickupTimeFrom pickupTimeTo hdhl =>
    have hextras : ∀ P : Prop,
        (∃ bookCourier pickupDate pickupTimeFrom pickupTimeTo,
          command.dhl = some ⟨bookCourier, some pickupDate, some pickupTimeFrom,
            some pickupTimeTo⟩ ∧ P) ↔ P := fun P =>
      ⟨fun ⟨_, _, _, _, _, h⟩ => h, fun h => ⟨_, _, _, _, hdhl, h⟩⟩
    rw [hextras]
    cases hbook : answers.book with
    | answer offerIds =>
        cases offerIds with
        | nil => simp [Reply.handled, Names]
        | cons offerId offerIds =>
            simp only [Reply.handled, Reply.answer.injEq, List.cons.injEq, reduceCtorEq, or_false]
            rw [names_withShipmentId (fun order h => by simp [Body.Names, h]),
              located_getOrder]
            exact ⟨fun h => ⟨offerId, offerIds, ⟨rfl, rfl⟩, h⟩, fun ⟨_, _, _, h⟩ => h⟩
    | raised mentioned => simp [Reply.handled, Names]
    | _ => simp [Reply.handled, Names, Body.Names]
  · next hdhl =>
    refine iff_of_false (fun h => nomatch h) ?_
    rintro ⟨bookCourier, pickupDate, pickupTimeFrom, pickupTimeTo, heq, -⟩
    exact hdhl _ _ _ _ heq

omit [DecidableEq ν] in
theorem names_normalizeOrderItem {order : Response ν}
    (h : order.extrasShipmentId = some number) : (normalizeOrderItem order).Names number :=
  Or.inr (Or.inr h)

variable {answers : Answers ν} {command : Command}

theorem names_createOrder_targetPoint {shipmentNumber : Option ν} (hbuilds : command.builds = true)
    (htarget : command.targetPoint = true) (hcreate : answers.create = .answer shipmentNumber) :
    Names (createOrder command answers) number ↔ shipmentNumber = some number := by
  simp [createOrder, createShipment, hbuilds, htarget, hcreate, Reply.handled,
    normalizeOrderItemParcelshop, normalizeOrderItem, Names, Body.Names]

theorem createOrder_created (hbuilds : command.builds = true) (htarget : command.targetPoint = false)
    (hcreate : answers.create = .answer (some number)) :
    createOrder command answers =
      if command.bookCourier then buyOffer command answers number
      else withShipmentId number (fun order => (normalizeOrderItem order, 201))
        (getOrder answers number) := by
  simp [createOrder, createShipment, hbuilds, htarget, hcreate, Reply.handled]

theorem names_createOrder_failed
    (hbuilds : command.builds = true) (hcreate : ∀ value, answers.create ≠ .answer value) :
    Names (createOrder command answers) number ↔
      answers.create = .raised (some number) ∨
        command.targetPoint = true ∧ ∃ code, answers.create = .refused code (some number) := by
  unfold createOrder createShipment
  rw [if_pos hbuilds]
  cases hreply : answers.create with
  | answer value => exact absurd hreply (hcreate value)
  | refused code mentioned =>
      by_cases htarget : command.targetPoint = true
      · simp [Reply.handled, htarget, Names, Body.Names]
      · have hstatus : refusedStatus code ≠ 200 := by
          unfold refusedStatus
          split <;> decide
        simp [Reply.handled, htarget, Names, Body.Names, hstatus]
  | nothing => simp [Reply.handled, Names, Body.Names]
  | fault => simp [Reply.handled, Names, Body.Names]
  | transportError status =>
      by_cases hstatus : status = 200
      · subst hstatus
        cases htarget : command.targetPoint <;>
          simp [Reply.handled, Names, normalizeOrderItemParcelshop, normalizeOrderItem, Body.Names]
      · simp [Reply.handled, Names, Body.Names, hstatus]
  | raised mentioned => simp [Reply.handled, Names]

theorem identified_targetPoint {shipmentNumber : Option ν} (htarget : command.targetPoint = true)
    (hcreate : answers.create = .answer shipmentNumber) :
    Identified command answers number ↔ shipmentNumber = some number := by
  constructor
  · intro h
    cases h with
    | targetPoint _ h => exact Reply.answer.inj (hcreate.symm.trans h)
    | raised h => cases hcreate.symm.trans h
    | refused _ h => cases hcreate.symm.trans h
    | lookedUp h => cases htarget.symm.trans h
    | booked h => cases htarget.symm.trans h
    | bookingRaised h => cases htarget.symm.trans h
  · rintro rfl
    exact .targetPoint htarget hcreate

theorem identified_unbooked
    (htarget : command.targetPoint = false) (hcreate : answers.create = .answer (some number))
    (hbook : command.bookCourier = false) :
    Identified command answers number ↔ LookedUp answers number := by
  constructor
  · intro h
    cases h with
    | lookedUp _ _ _ hlookedUp => exact hlookedUp
    | raised h => cases hcreate.symm.trans h
    | refused _ h => cases hcreate.symm.trans h
    | targetPoint h _ => cases htarget.symm.trans h
    | booked _ _ h => cases hbook.symm.trans h
    | bookingRaised _ _ h => cases hbook.symm.trans h
  · exact .lookedUp htarget hcreate hbook

theorem identified_booked
    (htarget : command.targetPoint = false) (hcreate : answers.create = .answer (some number))
    (hbook : command.bookCourier = true) :
    Identified command answers number ↔ Names (buyOffer command answers number) number := by
  rw [names_buyOffer]
  constructor
  · intro h
    cases h with
    | booked _ _ _ hdhl hbooked hlookedUp =>
        exact ⟨_, _, _, _, hdhl, .inl ⟨_, _, hbooked, hlookedUp⟩⟩
    | bookingRaised _ _ _ hdhl hraised => exact ⟨_, _, _, _, hdhl, .inr hraised⟩
    | raised h => cases hcreate.symm.trans h
    | refused _ h => cases hcreate.symm.trans h
    | targetPoint h _ => cases htarget.symm.trans h
    | lookedUp _ _ h _ => cases hbook.symm.trans h
  · rintro ⟨_, _, _, _, hdhl, ⟨_, _, hbooked, hlookedUp⟩ | hraised⟩
    · exact .booked htarget hcreate hbook hdhl hbooked hlookedUp
    · exact .bookingRaised htarget hcreate hbook hdhl hraised

theorem identified_failed (hcreate : ∀ value, answers.create ≠ .answer value) :
    Identified command answers number ↔
      answers.create = .raised (some number) ∨
        command.targetPoint = true ∧ ∃ code, answers.create = .refused code (some number) := by
  constructor
  · intro h
    cases h with
    | raised h => exact .inl h
    | refused htarget h => exact .inr ⟨htarget, _, h⟩
    | targetPoint _ h => exact absurd h (hcreate _)
    | lookedUp _ h => exact absurd h (hcreate _)
    | booked _ h => exact absurd h (hcreate _)
    | bookingRaised _ h => exact absurd h (hcreate _)
  · rintro (hraised | ⟨htarget, code, hrefused⟩)
    · exact .raised hraised
    · exact .refused htarget hrefused

theorem not_identified_unnumbered
    (hcreate : answers.create = .answer none) : ¬ Identified command answers number := by
  intro h
  cases h with
  | raised h => cases hcreate.symm.trans h
  | refused _ h => cases hcreate.symm.trans h
  | targetPoint _ h => cases hcreate.symm.trans h
  | lookedUp _ h => cases hcreate.symm.trans h
  | booked _ h => cases hcreate.symm.trans h
  | bookingRaised _ h => cases hcreate.symm.trans h

theorem names_createOrder (haccepted : accepted command answers = some number) :
    Names (createOrder command answers) number ↔ Identified command answers number := by
  obtain ⟨hbuilds, haccepted⟩ : command.builds = true ∧ answers.accepted = some number := by
    unfold accepted at haccepted
    split at haccepted
    · next hbuilds => exact ⟨hbuilds, haccepted⟩
    · cases haccepted
  by_cases hanswer : ∃ value, answers.create = .answer value
  · obtain ⟨value, hcreate⟩ := hanswer
    cases htarget : command.targetPoint with
    | true =>
        rw [names_createOrder_targetPoint hbuilds htarget hcreate,
          identified_targetPoint htarget hcreate]
    | false =>
        cases value with
        | none =>
            refine iff_of_false ?_ (not_identified_unnumbered hcreate)
            simp [createOrder, createShipment, hbuilds, htarget, hcreate, Reply.handled, Names]
        | some shipmentId =>
            obtain rfl : shipmentId = number :=
              Option.some.inj ((answers.honest shipmentId hcreate).symm.trans haccepted)
            rw [createOrder_created hbuilds htarget hcreate]
            cases hbook : command.bookCourier with
            | true => rw [if_pos rfl, identified_booked htarget hcreate hbook]
            | false =>
                rw [if_neg Bool.false_ne_true,
                  names_withShipmentId fun order h => names_normalizeOrderItem h,
                  located_getOrder, identified_unbooked htarget hcreate hbook]
  · rw [not_exists] at hanswer
    rw [names_createOrder_failed hbuilds hanswer, identified_failed hanswer]

end Functions

end Dhl

namespace Inpost

/-! ## The InPost connector -/

/-- The body of an error status: an object with a message, which may mention a shipment, JSON that is no
object, or no JSON. -/
inductive ErrorBody (ν : Type) where
  | object (message : String) (mentioned : Option ν)
  | otherJson
  | noJson

/-- What a request comes to: an answer, an error status, or another exception, of the request or of the
reading of its answer, which may mention a shipment. -/
inductive Reply (ν α : Type) where
  | answer (value : α)
  | errorStatus (status : Nat) (body : ErrorBody ν)
  | raised (mentioned : Option ν)

/-- A request, its replies at the first and at the second attempt, and the reply to the refresh of the
token between them. An attempt without a token begins with a request for one. -/
structure Attempts (ν α : Type) where
  first : Reply ν α
  refresh : Reply ν Unit
  second : Reply ν α

/-- A command: whether the shipment can be built from it, whether it asks for a courier, and whether the
pickup can be built from it. -/
structure Command where
  builds : Bool
  bookCourier : Option Bool
  pickupBuilds : Bool

/-- The shipments that the carrier accepts at the two attempts, if it does, and what the requests come
to. -/
structure Answers (ν : Type) where
  acceptedFirst : Option ν
  acceptedSecond : Option ν
  create : Attempts ν ν
  pickup : Attempts ν Unit

section Functions

variable {ν : Type} {α : Type}

def Attempts.retryOnUnauthorized (attempts : Attempts ν α) : Reply ν α :=
  match attempts.first with
  | .errorStatus 401 _ =>
      match attempts.refresh with
      | .answer _ => attempts.second
      | .errorStatus status body => .errorStatus status body
      | .raised mentioned => .raised mentioned
  | reply => reply

/-- The texts that stand for the carrier's own message. -/
def safeMessages : List (Nat × String) :=
  [(400, "Bad request"), (401, "Authentication failed"), (403, "Access denied"),
    (404, "Resource not found"), (429, "Rate limited")]

/-- `_format_rest_error_response`. JSON that is no object has no `get`. -/
def formatRestErrorResponse (status : Nat) : ErrorBody ν → Result ν
  | .otherJson => .error none
  | body =>
      match safeMessages.lookup status with
      | some message => .ok (.text message none, status)
      | none =>
          match body with
          | .object message mentioned =>
              if message = "" then .ok (.text s!"InPost API error (HTTP {status})" none, status)
              else .ok (.text message mentioned, status)
          | _ => .ok (.text s!"InPost API error (HTTP {status})" none, status)

/-- `handle_errors` around what follows a reply. -/
def Reply.handleErrors (reply : Reply ν α) (answered : α → Result ν) : Result ν :=
  match reply with
  | .answer value => answered value
  | .errorStatus status body => formatRestErrorResponse status body
  | .raised mentioned => .error mentioned

/-- The normalized order. -/
def normalized (trackingNumber : ν) : Result ν :=
  .ok (.normalized (some trackingNumber) (some trackingNumber) none, 201)

def createOrder (command : Command) (answers : Answers ν) : Result ν :=
  if command.builds then
    answers.create.retryOnUnauthorized.handleErrors fun trackingNumber =>
      if command.bookCourier.getD false then
        if command.pickupBuilds then
          answers.pickup.retryOnUnauthorized.handleErrors fun _ => normalized trackingNumber
        else .error none
      else normalized trackingNumber
  else .error none

/-- The second attempt is made. -/
def Attempts.retried (attempts : Attempts ν α) : Bool :=
  match attempts.first, attempts.refresh with
  | .errorStatus 401 _, .answer _ => true
  | _, _ => false

/-- The shipments that have been accepted. -/
def accepted (command : Command) (answers : Answers ν) : List ν :=
  if command.builds then
    answers.acceptedFirst.toList ++
      if answers.create.retried then answers.acceptedSecond.toList else []
  else []

/-! ### Which requests leave a shipment named -/

/-- The reply that counts: the first one unless it is a 401, then a failed refresh or the second one. -/
inductive Attempts.Last (attempts : Attempts ν α) : Reply ν α → Prop where
  | first : (∀ body, attempts.first ≠ .errorStatus 401 body) → Attempts.Last attempts attempts.first
  | refreshRefused {body body' : ErrorBody ν} {status : Nat} :
      attempts.first = .errorStatus 401 body → attempts.refresh = .errorStatus status body' →
      Attempts.Last attempts (.errorStatus status body')
  | refreshRaised {body : ErrorBody ν} {mentioned : Option ν} :
      attempts.first = .errorStatus 401 body → attempts.refresh = .raised mentioned →
      Attempts.Last attempts (.raised mentioned)
  | second {body : ErrorBody ν} :
      attempts.first = .errorStatus 401 body → attempts.refresh = .answer () →
      Attempts.Last attempts attempts.second

/-- A failure that mentions the shipment, in a message of the carrier that is passed on or in an
exception. -/
inductive Reply.Mentions (reply : Reply ν α) (number : ν) : Prop where
  | message {status : Nat} {message : String} :
      reply = .errorStatus status (.object message (some number)) →
      status ∉ safeMessages.map Prod.fst → message ≠ "" → Reply.Mentions reply number
  | raised : reply = .raised (some number) → Reply.Mentions reply number

/-- The requests leave a shipment named: the creation is answered with its number, and no courier is asked
for or the pickup is built and answered; or a failure mentions it. -/
inductive Identified (command : Command) (answers : Answers ν) (number : ν) : Prop where
  | mentioned {reply : Reply ν ν} : answers.create.Last reply → reply.Mentions number →
      Identified command answers number
  | unbooked : answers.create.Last (.answer number) → command.bookCourier.getD false = false →
      Identified command answers number
  | booked : answers.create.Last (.answer number) → command.bookCourier.getD false = true →
      command.pickupBuilds = true → answers.pickup.Last (.answer ()) →
      Identified command answers number
  | bookingMentioned {trackingNumber : ν} {reply : Reply ν Unit} :
      answers.create.Last (.answer trackingNumber) → command.bookCourier.getD false = true →
      command.pickupBuilds = true → answers.pickup.Last reply → reply.Mentions number →
      Identified command answers number

/-! ### What an order names -/

theorem last_iff {attempts : Attempts ν α} {reply : Reply ν α} :
    attempts.Last reply ↔ attempts.retryOnUnauthorized = reply := by
  unfold Attempts.retryOnUnauthorized
  constructor
  · intro h
    cases h with
    | first hfirst =>
        split
        · next body heq => exact absurd heq (hfirst body)
        · rfl
    | refreshRefused hfirst hrefresh => simp only [hfirst, hrefresh]
    | refreshRaised hfirst hrefresh => simp only [hfirst, hrefresh]
    | second hfirst hrefresh => simp only [hfirst, hrefresh]
  · rintro rfl
    split
    · next body hfirst =>
      split
      · next hrefresh => exact .second hfirst hrefresh
      · next hrefresh => exact .refreshRefused hfirst hrefresh
      · next hrefresh => exact .refreshRaised hfirst hrefresh
    · next hfirst => exact .first hfirst

/-- An error status leads to an answer that names a shipment exactly if the carrier's message mentions it
and is passed on. -/
theorem names_formatRestErrorResponse (α : Type) {status : Nat} {body : ErrorBody ν} {number : ν} :
    Names (formatRestErrorResponse status body) number ↔
      (Reply.errorStatus status body : Reply ν α).Mentions number := by
  have hmentions : (Reply.errorStatus status body : Reply ν α).Mentions number ↔
      ∃ message, body = .object message (some number) ∧ status ∉ safeMessages.map Prod.fst ∧
        message ≠ "" := by
    constructor
    · rintro (⟨heq, hstatus, hmessage⟩ | heq)
      · obtain ⟨rfl, rfl⟩ := Reply.errorStatus.inj heq
        exact ⟨_, rfl, hstatus, hmessage⟩
      · cases heq
    · rintro ⟨message, rfl, hstatus, hmessage⟩
      exact .message rfl hstatus hmessage
  rw [hmentions]
  cases body with
  | object message mentioned =>
      cases hlookup : safeMessages.lookup status with
      | some safe =>
          have hsafe : status ∈ safeMessages.map Prod.fst := by
            obtain ⟨_, _, heq, -⟩ := List.lookup_eq_some_iff.mp hlookup
            simp [heq]
          simp [formatRestErrorResponse, hlookup, Names, Body.Names, hsafe]
      | none =>
          have hunsafe : status ∉ safeMessages.map Prod.fst := by
            intro hmem
            obtain ⟨entry, hentry, rfl⟩ := List.mem_map.mp hmem
            have hne := List.lookup_eq_none_iff.mp hlookup entry hentry
            exact absurd hne (by simp)
          by_cases hmessage : message = ""
          · simp [formatRestErrorResponse, hlookup, Names, Body.Names, hmessage]
          · simp [formatRestErrorResponse, hlookup, Names, Body.Names, hmessage, hunsafe]
  | otherJson => simp [formatRestErrorResponse, Names]
  | noJson =>
      cases hlookup : safeMessages.lookup status <;>
        simp [formatRestErrorResponse, hlookup, Names, Body.Names]

theorem names_handleErrors {reply : Reply ν α} {answered : α → Result ν} {number : ν} :
    Names (reply.handleErrors answered) number ↔
      (∃ value, reply = .answer value ∧ Names (answered value) number) ∨
        reply.Mentions number := by
  cases reply with
  | answer value =>
      constructor
      · exact fun h => .inl ⟨value, rfl, h⟩
      · rintro (⟨_, heq, h⟩ | heq | heq)
        · obtain rfl := Reply.answer.inj heq
          exact h
        · cases heq
        · cases heq
  | errorStatus status body =>
      rw [Reply.handleErrors, names_formatRestErrorResponse α]
      simp
  | raised mentioned =>
      constructor
      · exact fun h => .inr (.raised (congrArg Reply.raised h))
      · rintro (⟨_, heq, -⟩ | heq | heq)
        · cases heq
        · cases heq
        · exact Reply.raised.inj heq

theorem names_normalized {trackingNumber number : ν} :
    Names (normalized trackingNumber) number ↔ trackingNumber = number := by
  simp [normalized, Names, Body.Names]

theorem names_createOrder {command : Command} (hbuilds : command.builds = true)
    (answers : Answers ν) (number : ν) :
    Names (createOrder command answers) number ↔ Identified command answers number := by
  unfold createOrder
  rw [if_pos hbuilds, names_handleErrors]
  constructor
  · rintro (⟨trackingNumber, hcreate, h⟩ | hmentions)
    · have hlast := last_iff.mpr hcreate
      split at h
      · next hbook =>
        split at h
        · next hpickup =>
          rcases names_handleErrors.mp h with ⟨_, hbooked, hnamed⟩ | hmentions
          · obtain rfl := names_normalized.mp hnamed
            exact .booked hlast hbook hpickup (last_iff.mpr hbooked)
          · exact .bookingMentioned hlast hbook hpickup (last_iff.mpr rfl) hmentions
        · cases h
      · next hbook =>
        obtain rfl := names_normalized.mp h
        exact .unbooked hlast (Bool.not_eq_true _ |>.mp hbook)
    · exact .mentioned (last_iff.mpr rfl) hmentions
  · intro h
    cases h with
    | mentioned hlast hmentions => exact .inr (last_iff.mp hlast ▸ hmentions)
    | unbooked hlast hbook =>
        refine .inl ⟨number, last_iff.mp hlast, ?_⟩
        rw [hbook, if_neg Bool.false_ne_true]
        exact names_normalized.mpr rfl
    | booked hlast hbook hpickup hbooked =>
        refine .inl ⟨number, last_iff.mp hlast, ?_⟩
        rw [if_pos hbook, if_pos hpickup]
        exact names_handleErrors.mpr
          (.inl ⟨(), last_iff.mp hbooked, names_normalized.mpr rfl⟩)
    | bookingMentioned hlast hbook hpickup hbooked hmentions =>
        refine .inl ⟨_, last_iff.mp hlast, ?_⟩
        rw [if_pos hbook, if_pos hpickup]
        exact names_handleErrors.mpr (.inr (last_iff.mp hbooked ▸ hmentions))

end Functions

end Inpost

/-! ## Both couriers -/

/-- For both couriers the answer names each shipment that has been accepted if and only if the calls leave
it named. -/
theorem named_iff (ν : Type) [DecidableEq ν] :
    (∀ (command : Dhl.Command) (answers : Dhl.Answers ν),
      (∀ number, Dhl.accepted command answers = some number →
          Names (Dhl.createOrder command answers) number) ↔
        ∀ number, Dhl.accepted command answers = some number →
          Dhl.Identified command answers number) ∧
    ∀ (command : Inpost.Command) (answers : Inpost.Answers ν),
      (∀ number ∈ Inpost.accepted command answers,
          Names (Inpost.createOrder command answers) number) ↔
        ∀ number ∈ Inpost.accepted command answers,
          Inpost.Identified command answers number := by
  constructor
  · intro command answers
    exact forall₂_congr fun number haccepted => Dhl.names_createOrder haccepted
  · intro command answers
    refine forall₂_congr fun number haccepted => ?_
    have hbuilds : command.builds = true := by
      by_contra hbuilds
      simp [Inpost.accepted, hbuilds] at haccepted
    exact Inpost.names_createOrder hbuilds answers number

/-- A command for a courier that is to be booked. -/
def bookedCommand : Dhl.Command :=
  { builds := true
    targetPoint := false
    dhl := some ⟨none, some "2026-03-02", some "10:00", some "14:00"⟩ }

/-- A carrier that accepts a shipment and answers the booking with a fault. -/
def faultingAnswers : Dhl.Answers Nat :=
  { accepted := some 7
    create := .answer (some 7)
    count := .nothing
    page := fun _ => .nothing
    book := .fault
    honest := fun number h => by
      obtain rfl := Option.some.inj (Dhl.Reply.answer.inj h)
      rfl }

/-- The answer has no number of the shipment that has been accepted. -/
theorem booking_fault_not_named :
    ¬ ∀ number, Dhl.accepted bookedCommand faultingAnswers = some number →
      Names (Dhl.createOrder bookedCommand faultingAnswers) number := by
  intro h
  rcases h 7 rfl with h | h | h | h | h <;> cases h

end Couriers

end IntegrationPlatform
