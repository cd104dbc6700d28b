import IntegrationPlatform.Flows.Preparation

/-!
# Retries of an action

`execute_flow` gives the payload that an attempt has changed to the next attempt. `same_requests_iff` says
when all attempts of a flow make the same request.
-/

namespace IntegrationPlatform

namespace Flows

/-! ## What a route sends -/

section Routes

variable (texts : DispatchTexts) (route : Route)

/-- What `_build_url` makes of some values. -/
def Route.parts (values : Dict) : Routing.UrlParts :=
  Routing.buildUrl texts route.toRouteEntry values

/-- The fields that the path leaves. -/
def Route.behindPath (values : Dict) : Dict :=
  (Routing.takePath texts values route.path.toList values).2

/-- The file, if there is one that can be decoded. -/
def Route.file (values : Dict) : Option (List UInt8 × Value) :=
  (extractFileFromPayload texts (route.parts texts values).body).toOption.join

/-- The values of two attempts lead to the same path, query parameters, headers and body: in a form the
texts of the fields are the same, in JSON the fields, and `GET` and `DELETE` send none. -/
structure Route.SendsSame (values values' : Dict) : Prop where
  path : (route.parts texts values).path = (route.parts texts values').path
  query : ∀ key ∈ route.queryFromPayload,
    given ((route.behindPath texts values).find key) = given ((route.behindPath texts values').find key)
  headers : (route.parts texts values).extraHeaders = (route.parts texts values').extraHeaders
  body : ∀ key,
    if route.multipart then
      ((route.parts texts values).body.find key).bind (formField texts key) =
        ((route.parts texts values').body.find key).bind (formField texts key)
    else route.method = "GET" ∨ route.method = "DELETE" ∨
      (route.parts texts values).body.find key = (route.parts texts values').body.find key

/-- The values of two attempts lead to the same request. A file that is missing or cannot be decoded leads
to none. -/
def SendSame : Option Route → Dict → Dict → Prop
  | none, values, values' => ∀ key, values.find key = values'.find key
  | some route, values, values' =>
      if route.multipart then
        route.file texts values = route.file texts values' ∧
          (route.file texts values ≠ none → route.SendsSame texts values values')
      else route.SendsSame texts values values'

variable {texts route} {values values' body body' : Dict}

theorem sendSame_refl (texts : DispatchTexts) (route : Option Route) (values : Dict) :
    SendSame texts route values values := by
  cases route with
  | none => exact fun _ => rfl
  | some route =>
      have hsends : route.SendsSame texts values values := by
        refine ⟨rfl, fun _ _ => rfl, rfl, fun key => ?_⟩
        split
        · rfl
        · exact .inr (.inr rfl)
      rw [SendSame]
      split
      · exact ⟨rfl, fun _ => hsends⟩
      · exact hsends

theorem formData_eq_iff (hkeys : values.map Prod.fst = values'.map Prod.fst)
    (hnodup : (values.map Prod.fst).Nodup) :
    formData texts (route.parts texts values).body = formData texts (route.parts texts values').body ↔
      ∀ key, ((route.parts texts values).body.find key).bind (formField texts key) =
        ((route.parts texts values').body.find key).bind (formField texts key) := by
  have hform : ∀ (keeps : String → Bool) (values : Dict),
      formData texts (values.filter fun entry => keeps entry.1) =
        values.filterMap fun entry =>
          (if keeps entry.1 then formField texts entry.1 entry.2 else none).map (Prod.mk entry.1) := by
    intro keeps values
    rw [formData, List.filterMap_filter]
    refine List.filterMap_congr fun entry _ => ?_
    split <;> rfl
  obtain ⟨keeps, hbody⟩ := Routing.buildUrl_body texts route.toRouteEntry values
  obtain ⟨keeps', hbody'⟩ := Routing.buildUrl_body texts route.toRouteEntry values'
  rw [Route.parts, Route.parts, hbody, hbody', hform, hform, Assoc.filterMap_eq_iff hkeys hnodup
    (fun key value => if keeps key then formField texts key value else none)
    fun key value => if keeps' key then formField texts key value else none]
  refine forall_congr' fun key => ?_
  rw [Assoc.find_filter, Assoc.find_filter]
  cases keeps key <;> cases keeps' key <;> simp

theorem body_eq_iff (hkeys : values.map Prod.fst = values'.map Prod.fst)
    (hnodup : (values.map Prod.fst).Nodup) :
    (route.parts texts values).body = (route.parts texts values').body ↔
      ∀ key, (route.parts texts values).body.find key = (route.parts texts values').body.find key := by
  refine ⟨fun heq key => by rw [heq], fun hfind => ?_⟩
  obtain ⟨keeps, hbody⟩ := Routing.buildUrl_body texts route.toRouteEntry values
  obtain ⟨keeps', hbody'⟩ := Routing.buildUrl_body texts route.toRouteEntry values'
  rw [Route.parts, Route.parts, hbody, hbody'] at hfind ⊢
  have hsame : (values.filter fun entry => keeps entry.1).map Prod.fst =
      (values'.filter fun entry => keeps' entry.1).map Prod.fst := by
    have hfilter : ∀ (keeps : String → Bool) (values : Dict),
        (values.filter fun entry => keeps entry.1).map Prod.fst = (values.map Prod.fst).filter keeps :=
      fun keeps values => List.filter_map.symm
    rw [hfilter, hfilter, ← hkeys]
    refine List.filter_congr fun key hkey => ?_
    -- A key that only one of them keeps is found in that one only.
    obtain ⟨value, hvalue⟩ := Option.isSome_iff_exists.mp (Assoc.has_iff.mpr hkey)
    obtain ⟨value', hvalue'⟩ := Option.isSome_iff_exists.mp (Assoc.has_iff.mpr (hkeys ▸ hkey))
    have h := hfind key
    rw [Assoc.find_filter, Assoc.find_filter, hvalue, hvalue'] at h
    cases hleft : keeps key <;> cases hright : keeps' key <;> simp_all
  exact Assoc.ext_find hsame ((List.filter_sublist.map Prod.fst).nodup hnodup) hfind

variable {baseUrl connectorName action : String}

theorem makeRequest_multipart (hmultipart : route.multipart = true) (values : Dict) :
    (makeRequest texts baseUrl connectorName action (some route) values).toOption =
      (route.file texts values).map fun file =>
        ⟨"POST", baseUrl ++ String.ofList (route.parts texts values).path,
          (route.parts texts values).queryParams, (route.parts texts values).extraHeaders,
          .form file.2 file.1 (formData texts (route.parts texts values).body)⟩ := by
  unfold makeRequest Route.file Route.parts
  simp only [hmultipart, if_true]
  split
  · cases extractFileFromPayload texts (Routing.buildUrl texts route.toRouteEntry values).body with
    | error message => rfl
    | ok file => cases file <;> rfl
  · next hhas =>
    have hnone : (Routing.buildUrl texts route.toRouteEntry values).body.find "file" = none :=
      Option.not_isSome_iff_eq_none.mp hhas
    rw [extractFileFromPayload, hnone]
    rfl

theorem makeRequest_plain (hmultipart : route.multipart = false) (values : Dict) :
    (makeRequest texts baseUrl connectorName action (some route) values).toOption =
      some ⟨(jsonBody route.method (route.parts texts values).body).1,
        baseUrl ++ String.ofList (route.parts texts values).path, (route.parts texts values).queryParams,
        (route.parts texts values).extraHeaders,
        (jsonBody route.method (route.parts texts values).body).2⟩ := by
  unfold makeRequest
  simp only [hmultipart, Bool.false_eq_true, if_false]
  rfl

/-- Bodies are sent alike if the method has none or they are the same. -/
theorem jsonBody_eq_iff {method : String} {rest rest' : Dict} :
    jsonBody method rest = jsonBody method rest' ↔
      method = "GET" ∨ method = "DELETE" ∨ rest = rest' := by
  unfold jsonBody
  split
  · next hmethod => exact iff_of_true rfl (by tauto)
  · next hmethod =>
    rw [not_or] at hmethod
    split <;> simp [hmethod.1, hmethod.2]

/-- The same is sent exactly if the path, the query parameters, the headers and the body are the same. -/
theorem sendsSame_iff (hkeys : values.map Prod.fst = values'.map Prod.fst)
    (hnodup : (values.map Prod.fst).Nodup) :
    route.SendsSame texts values values' ↔
      (route.parts texts values).path = (route.parts texts values').path ∧
        (route.parts texts values).queryParams = (route.parts texts values').queryParams ∧
        (route.parts texts values).extraHeaders = (route.parts texts values').extraHeaders ∧
        if route.multipart then
          formData texts (route.parts texts values).body = formData texts (route.parts texts values').body
        else jsonBody route.method (route.parts texts values).body =
          jsonBody route.method (route.parts texts values').body := by
  have hquery : (route.parts texts values).queryParams = (route.parts texts values').queryParams ↔
      ∀ key ∈ route.queryFromPayload, given ((route.behindPath texts values).find key) =
        given ((route.behindPath texts values').find key) :=
    takeFields_eq_iff route.queryFromPayload (route.behindPath texts values)
      (route.behindPath texts values')
  have hbody : (if route.multipart then
        formData texts (route.parts texts values).body = formData texts (route.parts texts values').body
      else jsonBody route.method (route.parts texts values).body =
        jsonBody route.method (route.parts texts values').body) ↔
      ∀ key,
        if route.multipart then
          ((route.parts texts values).body.find key).bind (formField texts key) =
            ((route.parts texts values').body.find key).bind (formField texts key)
        else route.method = "GET" ∨ route.method = "DELETE" ∨
          (route.parts texts values).body.find key = (route.parts texts values').body.find key := by
    cases route.multipart with
    | true => exact formData_eq_iff hkeys hnodup
    | false =>
        simp only [Bool.false_eq_true, if_false]
        rw [jsonBody_eq_iff, body_eq_iff hkeys hnodup]
        by_cases hmethod : route.method = "GET" ∨ route.method = "DELETE"
        · exact iff_of_true (or_assoc.mp (.inl hmethod)) fun _ => or_assoc.mp (.inl hmethod)
        · simp only [← or_assoc, hmethod, false_or]
  rw [hbody, hquery]
  constructor
  · rintro ⟨hpath, hquery, hheaders, hbody⟩
    exact ⟨hpath, hquery, hheaders, hbody⟩
  · rintro ⟨hpath, hquery, hheaders, hbody⟩
    exact ⟨hpath, hquery, hheaders, hbody⟩

/-- Two payloads with the same keys lead to the same request exactly if what is sent of them is the
same. -/
theorem makeRequest_eq_iff {route : Option Route} (hkeys : values.map Prod.fst = values'.map Prod.fst)
    (hnodup : (values.map Prod.fst).Nodup) :
    (makeRequest texts baseUrl connectorName action route values).toOption =
        (makeRequest texts baseUrl connectorName action route values').toOption ↔
      SendSame texts route values values' := by
  cases route with
  | none =>
      constructor
      · intro heq key
        obtain ⟨-, -, -, -, hbody⟩ := Request.mk.inj (Option.some.inj heq)
        rw [Body.json.inj hbody]
      · intro h
        rw [Assoc.ext_find hkeys hnodup h]
  | some route =>
      cases hmultipart : route.multipart with
      | true =>
          rw [makeRequest_multipart hmultipart, makeRequest_multipart hmultipart, SendSame,
            if_pos hmultipart, sendsSame_iff hkeys hnodup, if_pos hmultipart]
          cases hfile : route.file texts values with
          | none => cases route.file texts values' <;> simp
          | some file =>
              cases hfile' : route.file texts values' with
              | none => simp
              | some file' =>
                  simp only [Option.map_some, Option.some.injEq, Request.mk.injEq, true_and,
                    String.append_right_inj, String.ofList_inj, Body.form.injEq, ne_eq, reduceCtorEq,
                    not_false_eq_true, true_implies, Prod.ext_iff]
                  tauto
      | false =>
          have hplain : ¬ route.multipart = true := by
            rw [hmultipart]
            exact Bool.false_ne_true
          rw [makeRequest_plain hmultipart, makeRequest_plain hmultipart, SendSame,
            if_neg hplain, sendsSame_iff hkeys hnodup, if_neg hplain]
          simp only [Option.some.injEq, Request.mk.injEq, String.append_right_inj, String.ofList_inj,
            Prod.ext_iff]
          tauto

end Routes

/-! ## Runs -/

/-- Answers with which every attempt makes its request and fails. -/
def Answers.failing : Answers where
  rateLimiter _ := none
  ensureAccount _ := .ok ()
  connector _ := .error "Server error '503 Service Unavailable'"

namespace Dispatcher

variable (dispatcher : Dispatcher) (call : DispatchCall)

/-- The request of an attempt, counted from zero among those that make one. -/
def requestAt (baseUrl : String) (payload : Dict) (attempt : Nat) : Option Request :=
  (dispatcher.request call baseUrl ((dispatcher.prepare call)^[attempt + 1] payload)).toOption

variable {dispatcher call} {flow : Flow} {callback : Callback} {answers : Answers} {baseUrl : String}

theorem dispatchAction_cases (hbase : dispatcher.baseUrl call = .ok baseUrl) (answers : Answers)
    (attempt : Nat) :
    (∃ message, dispatcher.dispatchAction call answers attempt = (.refused message, call.payload)) ∨
      ∃ result, dispatcher.dispatchAction call answers attempt =
        (.made (dispatcher.request call baseUrl (dispatcher.prepare call call.payload)).toOption result,
          dispatcher.prepare call call.payload) := by
  unfold dispatchAction
  rw [hbase]
  dsimp only
  split
  · exact .inl ⟨_, rfl⟩
  · split
    · exact .inl ⟨_, rfl⟩
    · right
      split
      · next hrequest => exact ⟨_, by rw [hrequest]; rfl⟩
      · next hrequest => exact ⟨_, by rw [hrequest]; rfl⟩

/-- The requests of the attempts from one on. -/
def requestsFrom (dispatcher : Dispatcher) (answers : Answers) (flow : Flow) (callback : Callback)
    (remaining attempt : Nat) (payload : Dict) : List (Option Request) :=
  ((runAttempts flow callback remaining attempt payload).dispatched.zipIdx attempt).filterMap
    fun entry => (dispatcher.dispatchAction entry.1 answers entry.2).1.made?

/-- A callback that dispatches a call with the payload that it is called with. -/
def DispatchedBy (dispatcher : Dispatcher) (answers : Answers) (flow : Flow) (callback : Callback)
    (call : DispatchCall) : Prop :=
  ∀ payload attempt, callback.call (callArguments flow payload) attempt =
    let (outcome, payload') := dispatcher.dispatchAction { call with payload } answers attempt
    ⟨[{ call with payload }], outcome.result, payload'⟩

section Attempts

variable {outcome : Outcome} {payload payload' : Dict} {message : String} {attempt : Nat}

theorem requestsFrom_error (hcallback : dispatcher.DispatchedBy answers flow callback call)
    (heq : dispatcher.dispatchAction { call with payload } answers attempt = (outcome, payload'))
    (hresult : outcome.result = .error message) (remaining : Nat) :
    dispatcher.requestsFrom answers flow callback (remaining + 1) attempt payload =
      outcome.made?.toList ++
        dispatcher.requestsFrom answers flow callback remaining (attempt + 1) payload' := by
  unfold requestsFrom
  rw [runAttempts, hcallback, heq]
  dsimp only
  rw [hresult, List.singleton_append, List.zipIdx_cons, List.filterMap_cons, heq]
  cases outcome with
  | refused error => rfl
  | made request result => rfl

theorem requestsFrom_ok {value : Value}
    (hcallback : dispatcher.DispatchedBy answers flow callback call)
    (heq : dispatcher.dispatchAction { call with payload } answers attempt = (outcome, payload'))
    (hresult : outcome.result = .ok value) (remaining : Nat) :
    dispatcher.requestsFrom answers flow callback (remaining + 1) attempt payload =
      outcome.made?.toList := by
  unfold requestsFrom
  rw [runAttempts, hcallback, heq]
  dsimp only
  rw [hresult, List.zipIdx_cons, List.zipIdx_nil, List.filterMap_cons, heq]
  cases outcome with
  | refused error => rfl
  | made request result => rfl

end Attempts

theorem exists_requestsFrom (hbase : dispatcher.baseUrl call = .ok baseUrl)
    (hcallback : dispatcher.DispatchedBy answers flow callback call)
    (remaining attempt : Nat) (payload : Dict) :
    ∃ count ≤ remaining, dispatcher.requestsFrom answers flow callback remaining attempt payload =
      (List.range count).map (dispatcher.requestAt call baseUrl payload) := by
  induction remaining generalizing attempt payload with
  | zero => exact ⟨0, Nat.le_refl 0, rfl⟩
  | succ remaining ih =>
      have hbase' : dispatcher.baseUrl { call with payload } = .ok baseUrl := hbase
      rcases dispatchAction_cases hbase' answers attempt with ⟨message, heq⟩ | ⟨result, heq⟩
      · obtain ⟨count, hcount, hrest⟩ := ih (attempt + 1) payload
        refine ⟨count, Nat.le_succ_of_le hcount, ?_⟩
        rw [requestsFrom_error hcallback heq rfl, hrest]
        rfl
      · cases result with
        | ok value =>
            refine ⟨1, Nat.succ_le_succ (Nat.zero_le _), ?_⟩
            rw [requestsFrom_ok hcallback heq rfl]
            rfl
        | error message =>
            obtain ⟨count, hcount, hrest⟩ := ih (attempt + 1)
              (dispatcher.prepare { call with payload } payload)
            refine ⟨count + 1, Nat.succ_le_succ hcount, ?_⟩
            rw [requestsFrom_error hcallback heq rfl, hrest, List.range_succ_eq_map, List.map_cons,
              List.map_map]
            rfl

theorem dispatchAction_failing (hbase : dispatcher.baseUrl call = .ok baseUrl) (attempt : Nat) :
    ∃ message, dispatcher.dispatchAction call Answers.failing attempt =
      (.made (dispatcher.request call baseUrl (dispatcher.prepare call call.payload)).toOption
        (.error message), dispatcher.prepare call call.payload) := by
  unfold dispatchAction
  rw [hbase]
  dsimp only [Answers.failing]
  split
  · next haccount => cases haccount
  · split
    · next hrequest => exact ⟨_, by rw [hrequest]; rfl⟩
    · next hrequest => exact ⟨_, by rw [hrequest]; rfl⟩

theorem requestsFrom_failing (hbase : dispatcher.baseUrl call = .ok baseUrl)
    (hcallback : dispatcher.DispatchedBy Answers.failing flow callback call)
    (remaining attempt : Nat) (payload : Dict) :
    dispatcher.requestsFrom Answers.failing flow callback remaining attempt payload =
      (List.range remaining).map (dispatcher.requestAt call baseUrl payload) := by
  induction remaining generalizing attempt payload with
  | zero => rfl
  | succ remaining ih =>
      have hbase' : dispatcher.baseUrl { call with payload } = .ok baseUrl := hbase
      obtain ⟨message, heq⟩ := dispatchAction_failing hbase' attempt
      rw [requestsFrom_error hcallback heq rfl, ih, List.range_succ_eq_map, List.map_cons,
        List.map_map]
      rfl

theorem requestsFrom_refused {message : String} (hbase : dispatcher.baseUrl call = .error message)
    (hcallback : dispatcher.DispatchedBy answers flow callback call)
    (remaining attempt : Nat) (payload : Dict) :
    dispatcher.requestsFrom answers flow callback remaining attempt payload = [] := by
  induction remaining generalizing attempt payload with
  | zero => rfl
  | succ remaining ih =>
      have heq : dispatcher.dispatchAction { call with payload } answers attempt =
          (.refused message, payload) := by
        have hbase' : dispatcher.baseUrl { call with payload } = .error message := hbase
        unfold dispatchAction
        rw [hbase']
      rw [requestsFrom_error hcallback heq rfl, ih]
      rfl

end Dispatcher

/-- The first call that a flow dispatches for the data of an event. -/
structure Dispatches (base : FlowWorld) (entry : EntryPoint) (flow : Flow) (data : Dict)
    (call : DispatchCall) : Prop where
  entry : entry = .events
  filter : matchesFilter base data flow.sourceFilter = true
  mapped : mappedData base flow data = .ok call.payload
  resolved : ∃ credentials version,
    resolveCredentials base flow.tenantId flow.destinationConnector "default"
        flow.destinationConnectorVersion = .ok (credentials, version) ∧
      call = { connectorName := flow.destinationConnector
               action := flow.destinationAction
               payload := call.payload
               tenantId := flow.tenantId
               credentials := some credentials
               connectorVersion := version }

/-- Each attempt makes the request of the first one. -/
def SameRequests (requests : List (Option Request)) : Prop :=
  ∀ request ∈ requests, requests.head? = some request

/-- The requests of a flow for the data of an event that comes in at an entry point. -/
def Dispatcher.flowRequests (dispatcher : Dispatcher) (base : FlowWorld) (entry : EntryPoint)
    (flow : Flow) (data : Dict) (answers : Answers) : List (Option Request) :=
  dispatcher.requests answers
    (executeFlow (dispatcher.world base answers) (entry.callback (dispatcher.world base answers)) flow
      data).dispatched

/-- Coercing the fields of a call as often as an attempt does changes nothing of what is sent. -/
def Dispatcher.Unchanged (dispatcher : Dispatcher) (call : DispatchCall) (attempt : Nat) : Prop :=
  SendSame dispatcher.texts (dispatcher.route call) (dispatcher.payloadAt call call.payload 0)
    (dispatcher.payloadAt call call.payload attempt)

section Runs

variable {dispatcher : Dispatcher} {base : FlowWorld} {entry : EntryPoint} {flow : Flow} {data : Dict}
  {call : DispatchCall}

/-- The callback of `POST /api/v1/events` resolves the credentials and the version, and dispatches the
payload that it is called with. -/
theorem events_call (answers : Answers) (payload : Dict) (attempt : Nat) :
    (EntryPoint.events.callback (dispatcher.world base answers)).call
        (callArguments flow payload) attempt =
      match resolveCredentials base flow.tenantId flow.destinationConnector "default"
        flow.destinationConnectorVersion with
      | .error message => ⟨[], .error message, payload⟩
      | .ok (credentials, version) =>
          let call : DispatchCall :=
            { connectorName := flow.destinationConnector
              action := flow.destinationAction
              payload
              tenantId := flow.tenantId
              credentials := some credentials
              connectorVersion := version }
          let (outcome, payload') := dispatcher.dispatchAction call answers attempt
          ⟨[call], outcome.result, payload'⟩ := by
  have hversion : ((flow.destinationConnectorVersion.map Arg.text).getD .none).text? =
      flow.destinationConnectorVersion := by
    cases flow.destinationConnectorVersion <;> rfl
  rw [← hversion]
  rfl

theorem runAttempts_unresolved {answers : Answers} {message : String}
    (hresolved : resolveCredentials base flow.tenantId flow.destinationConnector "default"
      flow.destinationConnectorVersion = .error message) (remaining attempt : Nat) (payload : Dict) :
    (runAttempts flow (EntryPoint.events.callback (dispatcher.world base answers)) remaining attempt
      payload).dispatched = [] := by
  induction remaining generalizing attempt payload with
  | zero => rfl
  | succ remaining ih =>
      rw [runAttempts, events_call, hresolved]
      exact ih (attempt + 1) payload

theorem dispatched_of_not_dispatches (hnot : ∀ call, ¬ Dispatches base entry flow data call)
    (answers : Answers) :
    (executeFlow (dispatcher.world base answers) (entry.callback (dispatcher.world base answers)) flow
      data).dispatched = [] := by
  by_cases hentry : entry = .events
  · subst hentry
    unfold executeFlow
    split
    · next hfilter =>
      split
      · next mapped hmapped =>
        cases hresolved : resolveCredentials base flow.tenantId flow.destinationConnector "default"
            flow.destinationConnectorVersion with
        | ok resolved =>
            let call : DispatchCall :=
              { connectorName := flow.destinationConnector
                action := flow.destinationAction
                payload := mapped
                tenantId := flow.tenantId
                credentials := some resolved.1
                connectorVersion := resolved.2 }
            have hdispatches : Dispatches base .events flow data call :=
              ⟨rfl, hfilter, hmapped, resolved.1, resolved.2, hresolved, rfl⟩
            exact (hnot call hdispatches).elim
        | error message => exact runAttempts_unresolved hresolved _ _ _
      · rfl
    · rfl
  · exact executeFlow_rejected data (others_reject hentry flow)

theorem Dispatches.flowRequests (h : Dispatches base entry flow data call) (answers : Answers) :
    dispatcher.flowRequests base entry flow data answers =
      dispatcher.requestsFrom answers flow
        (EntryPoint.events.callback (dispatcher.world base answers)) flow.attempts 0 call.payload := by
  obtain ⟨rfl, hfilter, hmapped, -⟩ := h
  have hfilter' : matchesFilter (dispatcher.world base answers) data flow.sourceFilter = true :=
    hfilter
  have hmapped' : mappedData (dispatcher.world base answers) flow data = .ok call.payload := hmapped
  unfold Dispatcher.flowRequests executeFlow
  rw [if_pos hfilter', hmapped']
  rfl

theorem Dispatches.dispatchedBy (h : Dispatches base entry flow data call) (answers : Answers) :
    dispatcher.DispatchedBy answers flow
      (EntryPoint.events.callback (dispatcher.world base answers)) call := by
  intro payload attempt
  obtain ⟨credentials, version, hresolved, hcall⟩ := h.resolved
  rw [events_call, hresolved, hcall]

theorem requestAt_eq_iff (hkeys : (call.payload.map Prod.fst).Nodup) (baseUrl : String)
    (attempt : Nat) :
    dispatcher.requestAt call baseUrl call.payload 0 =
        dispatcher.requestAt call baseUrl call.payload attempt ↔
      dispatcher.Unchanged call attempt := by
  unfold Dispatcher.requestAt Dispatcher.request
  rw [Dispatcher.iterate_prepare hkeys, Dispatcher.iterate_prepare hkeys]
  refine makeRequest_eq_iff ?_ ?_
  · rw [Dispatcher.keys_payloadAt, Dispatcher.keys_payloadAt]
  · rw [Dispatcher.keys_payloadAt]
    exact Dispatcher.nodup_provision hkeys

theorem sameRequests_map_range (request : Nat → Option Request) (count : Nat) :
    SameRequests ((List.range count).map request) ↔
      ∀ attempt < count, request 0 = request attempt := by
  unfold SameRequests
  cases count with
  | zero => simp
  | succ count =>
      have hhead : ((List.range (count + 1)).map request).head? = some (request 0) := by
        rw [List.range_succ_eq_map]
        rfl
      rw [hhead, List.forall_mem_map]
      simp only [List.mem_range, Option.some.injEq]

theorem unchanged_of_stable (hstable : ∀ field ∈ dispatcher.provision call call.payload,
      dispatcher.coerced call field.1 (dispatcher.coerced call field.1 field.2) =
        dispatcher.coerced call field.1 field.2) (attempt : Nat) :
    dispatcher.Unchanged call attempt := by
  have hvalues : dispatcher.payloadAt call call.payload attempt =
      dispatcher.payloadAt call call.payload 0 := by
    refine List.map_congr_left fun field hfield => Prod.ext rfl ?_
    show dispatcher.valueAt call attempt field.1 field.2 = dispatcher.valueAt call 0 field.1 field.2
    unfold Dispatcher.valueAt
    split
    · rfl
    · rw [Function.iterate_succ_apply, Function.iterate_succ_apply]
      exact Function.iterate_fixed (hstable field hfield) attempt
  unfold Dispatcher.Unchanged
  rw [hvalues]
  exact sendSame_refl _ _ _

end Runs

/-- All attempts of a flow make the same request, whatever fails, if and only if coercing the fields that
the credentials do not set each time as often as the attempts do changes nothing of what is sent. -/
theorem same_requests_iff (dispatcher : Dispatcher) (base : FlowWorld) (entry : EntryPoint) (flow : Flow)
    (data : Dict)
    (hkeys : ∀ mapped, mappedData base flow data = .ok mapped → (mapped.map Prod.fst).Nodup) :
    (∀ answers, SameRequests (dispatcher.flowRequests base entry flow data answers)) ↔
      ∀ call, Dispatches base entry flow data call →
        (∃ baseUrl, dispatcher.baseUrl call = .ok baseUrl) →
        ∀ attempt < flow.attempts, dispatcher.Unchanged call attempt := by
  constructor
  · rintro hsame call hdispatches ⟨baseUrl, hbase⟩ attempt hattempt
    have h := hsame Answers.failing
    rw [hdispatches.flowRequests, Dispatcher.requestsFrom_failing hbase
      (hdispatches.dispatchedBy Answers.failing), sameRequests_map_range] at h
    exact (requestAt_eq_iff (hkeys _ hdispatches.mapped) baseUrl attempt).mp (h attempt hattempt)
  · intro hunchanged answers
    by_cases hcall : ∃ call, Dispatches base entry flow data call
    · obtain ⟨call, hdispatches⟩ := hcall
      rw [hdispatches.flowRequests]
      cases hbase : dispatcher.baseUrl call with
      | error message =>
          rw [Dispatcher.requestsFrom_refused hbase (hdispatches.dispatchedBy answers)]
          exact fun _ hmem => nomatch hmem
      | ok baseUrl =>
          obtain ⟨count, hcount, heq⟩ := Dispatcher.exists_requestsFrom hbase
            (hdispatches.dispatchedBy answers) flow.attempts 0 call.payload
          rw [heq, sameRequests_map_range]
          intro attempt hattempt
          exact (requestAt_eq_iff (hkeys _ hdispatches.mapped) baseUrl attempt).mpr
            (hunchanged call hdispatches ⟨baseUrl, hbase⟩ attempt (hattempt.trans_le hcount))
    · unfold Dispatcher.flowRequests Dispatcher.requests
      rw [dispatched_of_not_dispatches (not_exists.mp hcall)]
      exact fun _ hmem => nomatch hmem

end Flows

namespace Sample

open Flows

/-- The functions on texts, for texts in lower case without blanks. -/
def dispatchTexts : DispatchTexts where
  str
    | .str text => text
    | _ => ""
  strip text := text
  lower text := text
  capitalize text := text
  dumps _ := ""
  b64decode _ := .error "Incorrect padding"

/-- A connector that sends messages, with these texts for their priority. -/
def mailer (high normal : String) : Dispatcher where
  texts := dispatchTexts
  getByNameVersion _ _ := some
    { baseUrl := "http://connector-mailer:8000"
      credentialProvisioning := .account none
      payloadHints :=
        { enumFields := [("email.send", [("priority",
            { values := [("1", .str high), ("high", .str high)]
              default := some (.str normal) })])] } }

def mailing : Flow where
  id := "flow"
  tenantId := "tenant"
  isEnabled := true
  sourceConnector := "shop"
  sourceEvent := "order.created"
  sourceFilter := none
  destinationConnector := "mailer"
  destinationConnectorVersion := none
  destinationAction := "email.send"
  fieldMapping := []
  transform := none
  onError := "retry"
  maxRetries := 1

end Sample

/-- The text of a priority is mapped to itself, and attempts that all fail send the same request. -/
theorem mailing_same_requests : Flows.SameRequests
    ((Sample.mailer "high" "normal").flowRequests Sample.flowWorld .events Sample.mailing
      [("priority", .str "1")] Flows.Answers.failing) := by
  refine (Flows.same_requests_iff (Sample.mailer "high" "normal") Sample.flowWorld .events
    Sample.mailing [("priority", .str "1")] ?_).mpr ?_ Flows.Answers.failing
  · rintro mapped hmapped
    obtain rfl := Except.ok.inj hmapped
    exact List.nodup_singleton _
  · rintro call hdispatches - attempt -
    refine Flows.unchanged_of_stable ?_ attempt
    obtain ⟨credentials, version, hresolved, hcall⟩ := hdispatches.resolved
    obtain ⟨rfl, rfl⟩ := Prod.mk.inj (Except.ok.inj hresolved)
    rw [← Except.ok.inj hdispatches.mapped] at hcall
    subst hcall
    intro field hfield
    have hmem : field ∈ [("priority", .str "1"), ("account_name", .str "default")] := hfield
    rcases List.mem_cons.mp hmem with rfl | hrest
    · rfl
    · obtain rfl := List.mem_singleton.mp hrest
      rfl

/-- The text of a priority is not mapped to itself, and the second attempt sends another one. -/
theorem mailing_other_request : ¬ ∀ answers, Flows.SameRequests
    ((Sample.mailer "urgent" "normal").flowRequests Sample.flowWorld .events Sample.mailing
      [("priority", .str "1")] answers) := by
  intro h
  have hsecond := h Flows.Answers.failing
    (some ⟨"POST", "http://connector-mailer:8000/actions/email.send", [], [],
      .json [("priority", .str "normal"), ("account_name", .str "default")]⟩)
    (List.mem_of_getElem? (show _[1]? = _ from rfl))
  obtain ⟨-, -, -, -, hbody⟩ := Flows.Request.mk.inj (Option.some.inj (Option.some.inj hsecond))
  have hfields : [("priority", Value.str "urgent"), ("account_name", .str "default")] =
      [("priority", .str "normal"), ("account_name", .str "default")] := Flows.Body.json.inj hbody
  simp at hfields

end IntegrationPlatform
