import IntegrationPlatform.Json.Value
import IntegrationPlatform.Stores.Pages
import Mathlib.Data.List.Range

/-!
# Looking a shipment up at DHL

`get_order` of the DHL connector reads the shipments of a search window page by page. The number of pages
comes from a count of the shipments of the last two days, whatever the window is. `lookupComplete_iff` says
when the answer is right all the same.
-/

namespace IntegrationPlatform

namespace ShipmentLookup

/-! ## The service -/

/-- A bound of a window: a date, by its day, or what a request has for one. -/
inductive Bound where
  | date (day : Int)
  | given (value : Value)

/-- An item of `getMyShipments`: its number, the day on which it was created, and what `wsdl_to_json` makes
of it, or the text of what it raises. -/
structure Shipment where
  shipmentId : String
  created : Int
  json : Except String Dict

/-- What a call to the service raises. -/
inductive SoapFailure where
  | transportError (status : Nat)
  | fault
  | raised (message : String)

/-- The operations of the service that a lookup calls, with the credentials of an account. -/
structure Service where
  getMyShipmentsCount : Bound → Bound → Except SoapFailure (Option Nat)
  getMyShipments : Bound → Bound → Nat → Except SoapFailure (Option (List Shipment))

/-! ## The search window -/

/-- `get_extras(data)`, where `loads` is `json.loads`, or nothing where it raises a `ValueError`. -/
def getExtras (loads : String → Option Value) (data : Dict) : Option Dict :=
  match data.find "extras" with
  | none => some []
  | some (.str text) => (loads text).bind Value.fields?
  | some value => value.fields?

/-- `extras.get(key, day)`, or nothing for `None`. -/
def boundOf (extras : Dict) (key : String) (day : Int) : Option Bound :=
  match extras.find key with
  | none => some (.date day)
  | some .null => none
  | some value => some (.given value)

def retrieveTimeRange (loads : String → Option Value) (today : Int) (data : Dict) : Bound × Bound :=
  match getExtras loads data with
  | none => (.date (today - 89), .date today)
  | some extras =>
      match boundOf extras "created_from" (today - 2), boundOf extras "created_to" today with
      | some createdFrom, some createdTo => (createdFrom, createdTo)
      | _, _ => (.date (today - 89), .date today)

/-! ## The lookup -/

/-- The body of an answer: a text, an object with an error, or an order. -/
inductive Body where
  | text (message : String)
  | error (message : String)
  | order (json : Dict)

/-- An answer with its status, or the text of an exception. -/
abbrev Answer := Except String (Body × Nat)

/-- `TRACKING_URL.format(tracking_number=...)`. -/
def trackingUrl (number : String) : String :=
  "https://www.dhl.com/pl-en/home/tracking/tracking-parcel.html?submit=1&tracking-id=" ++ number

/-- The order that a shipment is answered as. -/
def orderOf (json : Dict) (number : String) : Dict :=
  ((json.put "tracking_number" (.str number)).put "extras" (.dict [("dhl", .dict [])])).put "tracking"
    (.dict [("tracking_number", .str number), ("tracking_url", .str (trackingUrl number))])

/-- The handlers of what a call raises. -/
def failureAnswer : SoapFailure → Answer
  | .transportError status => .ok (.error "DHL API communication error", status)
  | .fault => .ok (.error "DHL API request failed", 404)
  | .raised message => .error message

section Lookup

variable (str : Bound → String) (loads : String → Option Value) (service : Service) (today : Int)

/-- The answer about the first of the shipments that has the number, if there is one. -/
def foundOrder (number : String) : Option Shipment → Answer
  | none => .ok (.text ("Nie znaleziono zamówienia o identyfikatorze " ++ number), 404)
  | some order => order.json.map fun json => (.order (orderOf json number), 200)

/-- What follows the loop. -/
def findOrder (createdFrom createdTo : Bound) (number : String) (orders : List Shipment) : Answer :=
  if orders.isEmpty then
    .ok (.text ("Zamówienie nie istnieje w podanym okresie czasowym " ++ str createdFrom ++ " - " ++
      str createdTo), 404)
  else foundOrder number (orders.find? fun order => order.shipmentId == number)

/-- The loop over the offsets below the count. -/
def listOrders (createdFrom createdTo : Bound) (number : String) :
    List Nat → List Shipment → Answer
  | [], orders => findOrder str createdFrom createdTo number orders
  | offset :: offsets, orders =>
      match service.getMyShipments createdFrom createdTo offset with
      | .error failure => failureAnswer failure
      | .ok none => .ok (.text "Brak danych", 200)
      | .ok (some response) => listOrders createdFrom createdTo number offsets (orders ++ response)

/-- The number of pages for a count: `count if count else 100`, by hundreds. -/
def pagesFor (count : Option Nat) : Nat :=
  match count with
  | none | some 0 => 1
  | some count => (count + 99) / 100

/-- The offsets of pages: the hundreds. -/
def offsets (first pages : Nat) : List Nat :=
  (List.range' first pages).map (· * 100)

/-- `get_order`. The count is that of the last two days. -/
def getOrder (data : Dict) (number : String) : Answer :=
  let (createdFrom, createdTo) := retrieveTimeRange loads today data
  match service.getMyShipmentsCount (.date (today - 2)) (.date today) with
  | .error failure => failureAnswer failure
  | .ok count =>
      listOrders str service createdFrom createdTo number (offsets 0 (pagesFor count)) []

end Lookup

/-! ## Accounts -/

/-- An account: its shipments in the order in which they are listed, and how the service reads the bounds
of a window. -/
structure Account where
  shipments : List Shipment
  day : Bound → Int

/-- The shipments that were created in a window. -/
def Account.window (account : Account) (createdFrom createdTo : Bound) : List Shipment :=
  account.shipments.filter fun shipment =>
    account.day createdFrom ≤ shipment.created ∧ shipment.created ≤ account.day createdTo

/-- The service counts the shipments of a window. -/
def Service.Counts (service : Service) (account : Account) (createdFrom createdTo : Bound) : Prop :=
  service.getMyShipmentsCount createdFrom createdTo =
    .ok (some (account.window createdFrom createdTo).length)

/-- The service lists the shipments of a window from an offset on: at most 100 of them, and nothing where
there are none. -/
def Service.Lists (service : Service) (account : Account) (createdFrom createdTo : Bound) : Prop :=
  ∀ offset, service.getMyShipments createdFrom createdTo offset =
    .ok (match (account.window createdFrom createdTo).drop offset with
      | [] => none
      | rest => some (rest.take 100))

/-- The answer is the data of a shipment of these with this number, if there is one, and that it is not
found otherwise. -/
def LookupComplete (shipments : List Shipment) (number : String) (answer : Answer) : Prop :=
  if ∃ shipment ∈ shipments, shipment.shipmentId = number then
    ∃ shipment ∈ shipments, shipment.shipmentId = number ∧
      ∃ json, shipment.json = .ok json ∧ answer = .ok (.order (orderOf json number), 200)
  else ∃ message, answer = .ok (.text message, 404)

/-! ## What a run reads -/

section Results

variable {str : Bound → String} {loads : String → Option Value} {service : Service} {today : Int}
  {account : Account} {createdFrom createdTo : Bound} {number : String} {data : Dict}

theorem listOrders_page (hlists : service.Lists account createdFrom createdTo) {page pages : Nat}
    (h : page * 100 < (account.window createdFrom createdTo).length) :
    listOrders str service createdFrom createdTo number (offsets page (pages + 1))
        ((account.window createdFrom createdTo).take (page * 100)) =
      listOrders str service createdFrom createdTo number (offsets (page + 1) pages)
        ((account.window createdFrom createdTo).take ((page + 1) * 100)) := by
  have hrest : (account.window createdFrom createdTo).drop (page * 100) ≠ [] := by
    rw [ne_eq, List.drop_eq_nil_iff]
    omega
  have hpage : service.getMyShipments createdFrom createdTo (page * 100) =
      .ok (some (Pages.page 100 (account.window createdFrom createdTo) page)) := by
    rw [hlists]
    unfold Pages.page
    split
    · next hnil => exact absurd hnil hrest
    · rfl
  show listOrders str service createdFrom createdTo number (page * 100 :: offsets (page + 1) pages) _ = _
  rw [listOrders, hpage]
  show listOrders str service createdFrom createdTo number _
    (_ ++ Pages.page 100 (account.window createdFrom createdTo) page) = _
  rw [Pages.take_append_page]

theorem listOrders_nothing (hlists : service.Lists account createdFrom createdTo) {page pages : Nat}
    (h : (account.window createdFrom createdTo).length ≤ page * 100) (orders : List Shipment) :
    listOrders str service createdFrom createdTo number (offsets page (pages + 1)) orders =
      .ok (.text "Brak danych", 200) := by
  show listOrders str service createdFrom createdTo number (page * 100 :: offsets (page + 1) pages) _ = _
  rw [listOrders, hlists, List.drop_eq_nil_iff.mpr h]

theorem listOrders_eq (hlists : service.Lists account createdFrom createdTo) (page pages : Nat) :
    listOrders str service createdFrom createdTo number (offsets page pages)
        ((account.window createdFrom createdTo).take (page * 100)) =
      if pages = 0 ∨ (page + pages - 1) * 100 < (account.window createdFrom createdTo).length then
        findOrder str createdFrom createdTo number
          ((account.window createdFrom createdTo).take ((page + pages) * 100))
      else .ok (.text "Brak danych", 200) := by
  induction pages generalizing page with
  | zero => simp [offsets, listOrders]
  | succ pages ih =>
      by_cases hthere : page * 100 < (account.window createdFrom createdTo).length
      · have hcount : page + 1 + pages = page + (pages + 1) := by omega
        rw [listOrders_page hlists hthere, ih, hcount]
        by_cases hlast : pages = 0
        · subst hlast
          simp [hthere]
        · simp [hlast]
      · have hend : ¬(pages + 1 = 0 ∨
            (page + (pages + 1) - 1) * 100 < (account.window createdFrom createdTo).length) := by
          omega
        rw [listOrders_nothing hlists (Nat.le_of_not_lt hthere), if_neg hend]

theorem pagesFor_pos (count : Option Nat) : 0 < pagesFor count := by
  unfold pagesFor
  split
  · exact Nat.one_pos
  · exact Nat.one_pos
  · next count hzero =>
      have hpos : count ≠ 0 := fun h => hzero h
      omega

theorem find?_take {shipments : List Shipment} {shipment : Shipment} {bound : Nat}
    (h : shipments.find? (fun order => order.shipmentId == number) = some shipment)
    (hmem : shipment ∈ shipments.take bound) :
    (shipments.take bound).find? (fun order => order.shipmentId == number) = some shipment := by
  have hnumber := List.find?_some h
  have hsome : ((shipments.take bound).find? fun order => order.shipmentId == number).isSome := by
    rw [List.find?_isSome]
    exact ⟨shipment, hmem, hnumber⟩
  obtain ⟨first, hfirst⟩ := Option.isSome_iff_exists.mp hsome
  rw [← List.take_append_drop bound shipments, List.find?_append, hfirst, Option.some_or] at h
  rw [hfirst, h]

/-- What a lookup comes to, if no call fails. -/
theorem getOrder_eq (hcount : service.Counts account (.date (today - 2)) (.date today))
    (hwindow : retrieveTimeRange loads today data = (createdFrom, createdTo))
    (hlists : service.Lists account createdFrom createdTo) :
    getOrder str loads service today data number =
      if (pagesFor (some (account.window (.date (today - 2)) (.date today)).length) - 1) * 100 <
          (account.window createdFrom createdTo).length then
        findOrder str createdFrom createdTo number ((account.window createdFrom createdTo).take
          (pagesFor (some (account.window (.date (today - 2)) (.date today)).length) * 100))
      else .ok (.text "Brak danych", 200) := by
  have hpos := pagesFor_pos (some (account.window (.date (today - 2)) (.date today)).length)
  have hrun := @listOrders_eq str service account createdFrom createdTo number hlists 0
    (pagesFor (some (account.window (.date (today - 2)) (.date today)).length))
  rw [Nat.zero_mul, List.take_zero, Nat.zero_add] at hrun
  unfold getOrder
  rw [hwindow, hcount]
  show listOrders str service createdFrom createdTo number _ [] = _
  rw [hrun]
  by_cases hlast : (pagesFor (some (account.window (.date (today - 2)) (.date today)).length) - 1) * 100 <
      (account.window createdFrom createdTo).length
  · rw [if_pos (.inr hlast), if_pos hlast]
  · rw [if_neg hlast, if_neg]
    rintro (hzero | hlt)
    · omega
    · exact hlast hlt

/-- What follows the loop is right about shipments of which some have been read exactly if the first one
with the number is among them, and can be answered. -/
theorem lookupComplete_findOrder {shipments : List Shipment} {bound : Nat} (hshipments : shipments ≠ [])
    (hbound : 0 < bound) :
    LookupComplete shipments number
        (findOrder str createdFrom createdTo number (shipments.take bound)) ↔
      ∀ shipment, shipments.find? (fun order => order.shipmentId == number) = some shipment →
        shipment ∈ shipments.take bound ∧ ∃ json, shipment.json = .ok json := by
  have hread : (shipments.take bound).isEmpty = false := by
    rw [List.isEmpty_eq_false_iff, ne_eq, List.take_eq_nil_iff, not_or]
    exact ⟨by omega, hshipments⟩
  have hsub : ∀ order ∈ shipments.take bound, order ∈ shipments := fun order =>
    List.mem_of_mem_take
  rw [LookupComplete, findOrder, hread, if_neg Bool.false_ne_true]
  cases hfirst : shipments.find? fun order => order.shipmentId == number with
  | none =>
      have hnone : ∀ order ∈ shipments, ¬order.shipmentId = number := by
        simpa using List.find?_eq_none.mp hfirst
      have hread' : (shipments.take bound).find? (fun order => order.shipmentId == number) = none :=
        List.find?_eq_none.mpr fun order horder => by simpa using hnone order (hsub order horder)
      rw [if_neg fun ⟨order, horder, hnumber⟩ => hnone order horder hnumber, hread']
      exact iff_of_true ⟨_, rfl⟩ fun shipment h => by cases h
  | some shipment =>
      have hmem := List.mem_of_find?_eq_some hfirst
      have hnumber : shipment.shipmentId = number := by simpa using List.find?_some hfirst
      rw [if_pos ⟨shipment, hmem, hnumber⟩]
      constructor
      · rintro ⟨_, -, -, json, -, hanswer⟩ _ ⟨⟩
        cases hfound : (shipments.take bound).find? fun order => order.shipmentId == number with
        | none =>
            rw [hfound] at hanswer
            cases hanswer
        | some other =>
            have hother := List.mem_of_find?_eq_some hfound
            -- The first one that has been read is the first one of all.
            rw [← List.take_append_drop bound shipments, List.find?_append, hfound,
              Option.some_or] at hfirst
            obtain rfl := Option.some.inj hfirst
            refine ⟨hother, ?_⟩
            rw [hfound, foundOrder] at hanswer
            cases hjson : other.json with
            | ok json => exact ⟨json, rfl⟩
            | error message =>
                rw [hjson] at hanswer
                cases hanswer
      · intro h
        obtain ⟨hread', json, hjson⟩ := h shipment rfl
        refine ⟨shipment, hmem, hnumber, json, hjson, ?_⟩
        rw [find?_take hfirst hread', foundOrder, hjson]
        rfl

/-- **The answer is right exactly if the search window has more shipments than fit on the pages before the
last one that the count of the last two days asks for, and the shipment, if it is in the window, is on these
pages and can be converted.** -/
theorem lookupComplete_iff (hcount : service.Counts account (.date (today - 2)) (.date today))
    (hwindow : retrieveTimeRange loads today data = (createdFrom, createdTo))
    (hlists : service.Lists account createdFrom createdTo) :
    LookupComplete (account.window createdFrom createdTo) number
        (getOrder str loads service today data number) ↔
      (pagesFor (some (account.window (.date (today - 2)) (.date today)).length) - 1) * 100 <
          (account.window createdFrom createdTo).length ∧
        ∀ shipment, (account.window createdFrom createdTo).find?
            (fun order => order.shipmentId == number) = some shipment →
          shipment ∈ (account.window createdFrom createdTo).take
            (pagesFor (some (account.window (.date (today - 2)) (.date today)).length) * 100) ∧
          ∃ json, shipment.json = .ok json := by
  rw [getOrder_eq hcount hwindow hlists]
  by_cases hlast : (pagesFor (some (account.window (.date (today - 2)) (.date today)).length) - 1) * 100 <
      (account.window createdFrom createdTo).length
  · have hshipments : account.window createdFrom createdTo ≠ [] :=
      List.ne_nil_of_length_pos (Nat.zero_lt_of_lt hlast)
    have hbound := pagesFor_pos (some (account.window (.date (today - 2)) (.date today)).length)
    rw [if_pos hlast, lookupComplete_findOrder hshipments (by omega), and_iff_right hlast]
  · rw [if_neg hlast, LookupComplete]
    refine iff_of_false ?_ fun h => hlast h.1
    split
    · rintro ⟨_, -, -, _, -, hanswer⟩
      cases hanswer
    · rintro ⟨_, hanswer⟩
      cases hanswer

end Results

/-! ## Samples -/

/-- The service of an account. -/
def Account.service (account : Account) : Service where
  getMyShipmentsCount createdFrom createdTo := .ok (some (account.window createdFrom createdTo).length)
  getMyShipments createdFrom createdTo offset :=
    .ok (match (account.window createdFrom createdTo).drop offset with
      | [] => none
      | rest => some (rest.take 100))

namespace Sample

def parcel (number : String) (created : Int) : Shipment :=
  ⟨number, created, .ok [("shipmentId", .str number)]⟩

def account (shipments : List Shipment) : Account where
  shipments
  day
    | .date day => day
    | .given _ => 0

/-- A request with an empty `created_from`: the last 89 days are searched. -/
def request : Dict :=
  [("extras", .dict [("created_from", .null)])]

def answer (shipments : List Shipment) (number : String) : Answer :=
  getOrder (fun _ => "") (fun _ => none) (account shipments).service 100 request number

end Sample

open ShipmentLookup.Sample in
/-- The last of a hundred and one shipments of the last two days is found on the second page. -/
theorem lookupComplete_recent :
    LookupComplete ((account (List.replicate 100 (parcel "JJD1" 99) ++ [parcel "JJD2" 99])).window
        (.date 11) (.date 100)) "JJD2"
      (answer (List.replicate 100 (parcel "JJD1" 99) ++ [parcel "JJD2" 99]) "JJD2") := by
  generalize hcrowd : List.replicate 100 (parcel "JJD1" 99) ++ [parcel "JJD2" 99] = crowd
  have hcount : (account crowd).service.Counts (account crowd) (.date (100 - 2)) (.date 100) := rfl
  have hlists : (account crowd).service.Lists (account crowd) (.date 11) (.date 100) := fun _ => rfl
  have hwindow : retrieveTimeRange (fun _ => none) 100 request = (.date 11, .date 100) := rfl
  refine (lookupComplete_iff hcount hwindow hlists).mpr ⟨?_, fun shipment h => ?_⟩
  · subst hcrowd
    decide +kernel
  · have hpages : ((account crowd).window (.date 11) (.date 100)).take (pagesFor (some
        ((account crowd).window (.date (100 - 2)) (.date 100)).length) * 100) = crowd := by
      subst hcrowd
      rfl
    have hfound : ((account crowd).window (.date 11) (.date 100)).find?
        (fun order => order.shipmentId == "JJD2") = some (parcel "JJD2" 99) := by
      subst hcrowd
      rfl
    obtain rfl : parcel "JJD2" 99 = shipment := Option.some.inj (hfound.symm.trans h)
    rw [hpages, ← hcrowd]
    exact ⟨List.mem_append_right _ List.mem_cons_self, _, rfl⟩

open ShipmentLookup.Sample in
/-- No shipments at all are taken for a success, and of the shipments of the last 89 days only the first
hundred are searched where the last two days have none. -/
theorem lookup_incomplete :
    (answer [] "JJD1" = .ok (.text "Brak danych", 200) ∧
      ¬LookupComplete ((account []).window (.date 11) (.date 100)) "JJD1" (answer [] "JJD1")) ∧
    (answer (List.replicate 100 (parcel "JJD1" 50) ++ [parcel "JJD2" 50]) "JJD2" =
        .ok (.text "Nie znaleziono zamówienia o identyfikatorze JJD2", 404) ∧
      ¬LookupComplete ((account (List.replicate 100 (parcel "JJD1" 50) ++ [parcel "JJD2" 50])).window
          (.date 11) (.date 100)) "JJD2"
        (answer (List.replicate 100 (parcel "JJD1" 50) ++ [parcel "JJD2" 50]) "JJD2")) := by
  have hnone : answer [] "JJD1" = .ok (.text "Brak danych", 200) := rfl
  have hlost : answer (List.replicate 100 (parcel "JJD1" 50) ++ [parcel "JJD2" 50]) "JJD2" =
      .ok (.text "Nie znaleziono zamówienia o identyfikatorze JJD2", 404) := by rfl
  refine ⟨⟨hnone, ?_⟩, hlost, ?_⟩
  · rw [hnone, LookupComplete, if_neg (by rintro ⟨_, hmem, -⟩; cases hmem)]
    rintro ⟨_, h⟩
    cases h
  · have hmem : parcel "JJD2" 50 ∈ (account (List.replicate 100 (parcel "JJD1" 50) ++
        [parcel "JJD2" 50])).window (.date 11) (.date 100) := by
      rw [Account.window, List.mem_filter]
      exact ⟨List.mem_append_right _ List.mem_cons_self, by decide⟩
    rw [hlost, LookupComplete, if_pos ⟨_, hmem, rfl⟩]
    rintro ⟨_, -, -, _, -, h⟩
    cases h

end ShipmentLookup

end IntegrationPlatform
