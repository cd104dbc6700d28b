import Mathlib.Data.List.Forall2
import IntegrationPlatform.Integrators.RestClient

/-!
# Batches of REST calls

`rest_batch` of the REST connector: the calls one after the other, or gathered. Each has an `Exchange` of its
own. Read `accounted_iff` first: the outcomes are all accounted for exactly if no call that is executed raises
anything but a `RestClientError`.
-/

namespace IntegrationPlatform

namespace RestApi

/-! ## Batches -/

structure BatchCallItem where
  endpoint : String := ""
  namedAction : String := ""
  method : String := ""
  body : Option Dict := none

structure BatchResultItem where
  index : Nat
  status : String
  httpStatus : Nat := 0
  data : Value := .null
  error : String := ""
  endpoint : String := ""
  elapsedMs : Nat := 0

structure RestBatchRequest where
  calls : List BatchCallItem
  parallel : Bool := false
  stopOnError : Bool := true

structure RestBatchResponse where
  status : String
  results : List BatchResultItem := []
  total : Nat := 0
  succeeded : Nat := 0
  failed : Nat := 0

/-- The order in which gathered calls complete. -/
structure Completion (total : Nat) where
  order : List Nat
  perm : order.Perm (List.range total)

/-- What the calls of a batch find and are answered. -/
structure BatchRun where
  functions : Functions
  account : Account
  exchanges : Nat → Exchange

namespace BatchRun

variable (run : BatchRun)

/-- The call of an item, with its place. -/
def outcome (place : BatchCallItem × Nat) : Except Raised RestCallResponse :=
  let (item, index) := place
  if item.namedAction ≠ "" then
    callNamed run.functions run.account item.namedAction { body := item.body } (run.exchanges index)
  else
    call run.functions run.account item.endpoint item.method { body := item.body } (run.exchanges index)

def executeBatchItem (place : BatchCallItem × Nat) : Except Raised BatchResultItem :=
  let (item, index) := place
  let endpoint := if item.endpoint = "" then item.namedAction else item.endpoint
  match run.outcome place with
  | .ok response =>
      .ok { index, status := response.status, httpStatus := response.httpStatus, data := response.data,
            endpoint, elapsedMs := response.elapsedMs }
  | .error (.client statusCode message) =>
      .ok { index, status := "error", httpStatus := statusCode, error := message, endpoint }
  | .error raised => .error raised

/-- `_batch_sequential`, from a place on. -/
def batchSequential (stopOnError : Bool) :
    List (BatchCallItem × Nat) → Except Raised (List BatchResultItem)
  | [] => .ok []
  | place :: places =>
      (run.executeBatchItem place).bind fun result =>
        if result.status = "error" ∧ stopOnError = true then .ok [result]
        else (batchSequential stopOnError places).map (result :: ·)

end BatchRun

/-- What is raised, if something is. -/
def raisedOf {α : Type} : Except Raised α → Option Raised
  | .ok _ => none
  | .error raised => some raised

/-- `asyncio.gather`: what is raised first, or the results in the order of the tasks. -/
def gather {α : Type} (order : List Nat) (tasks : List (Except Raised α)) :
    Except Raised (List α) :=
  match order.findSome? (fun index => tasks[index]?.bind raisedOf) with
  | some raised => .error raised
  | none => .ok (tasks.filterMap Except.toOption)

namespace BatchRun

variable (run : BatchRun)

def batchParallel (order : List Nat) (places : List (BatchCallItem × Nat)) :
    Except Raised (List BatchResultItem) :=
  gather order (places.map run.executeBatchItem)

/-- The answer with results. -/
def responseOf (results : List BatchResultItem) : RestBatchResponse :=
  let succeeded := results.countP (·.status = "success")
  let failed := results.length - succeeded
  { status := if failed = 0 then "success" else "partial"
    results, total := results.length, succeeded, failed }

/-- `rest_batch`, for the client of an account. -/
def restBatch (request : RestBatchRequest) (completion : Completion request.calls.length) :
    Except Raised RestBatchResponse :=
  (if request.parallel then run.batchParallel completion.order request.calls.zipIdx
    else run.batchSequential request.stopOnError request.calls.zipIdx).map responseOf

end BatchRun

/-! ## What a batch accounts for -/

/-- A list up to its first element with a property, and with it. -/
def takeThrough {α : Type} (holds : α → Prop) [DecidablePred holds] : List α → List α
  | [] => []
  | x :: xs => if holds x then [x] else x :: takeThrough holds xs

/-- A call that raises something, or has an error for its status. -/
def FailedCall : Except Raised RestCallResponse → Prop
  | .ok response => response.status = "error"
  | .error _ => True

instance : DecidablePred FailedCall
  | .ok response => inferInstanceAs (Decidable (response.status = "error"))
  | .error _ => inferInstanceAs (Decidable True)

namespace BatchRun

variable (run : BatchRun)

/-- The calls that are executed: all of them, or those up to the first one that fails. -/
def executed (request : RestBatchRequest) : List (BatchCallItem × Nat) :=
  if request.parallel = false ∧ request.stopOnError = true then
    takeThrough (fun place => FailedCall (run.outcome place)) request.calls.zipIdx
  else request.calls.zipIdx

/-- The result has the index and the outcome of the call. -/
def Reports (place : BatchCallItem × Nat) (result : BatchResultItem) : Prop :=
  result.index = place.2 ∧
    match run.outcome place with
    | .ok response =>
        result.status = response.status ∧ result.httpStatus = response.httpStatus ∧
          result.data = response.data ∧ result.elapsedMs = response.elapsedMs
    | .error (.client statusCode message) =>
        result.status = "error" ∧ result.httpStatus = statusCode ∧ result.error = message
    | .error _ => result.status = "error"

/-- The request is answered, with one result for each call that is executed. -/
def Accounted (request : RestBatchRequest) (completion : Completion request.calls.length) : Prop :=
  ∃ response, run.restBatch request completion = .ok response ∧
    List.Forall₂ run.Reports (run.executed request) response.results

/-- The call is for an action that is unknown, or its headers are there and its attempts settle. -/
def Contained (place : BatchCallItem × Nat) : Prop :=
  place.1.namedAction ≠ "" ∧ run.account.actionRegistry.find place.1.namedAction = none ∨
    TokenReady run.account.auth (run.exchanges place.2) ∧
      Settles run.account.retry (run.exchanges place.2).attempt

end BatchRun

section Results

variable {run : BatchRun} {place : BatchCallItem × Nat} {result : BatchResultItem}

/-! ## One call -/

theorem handled_outcome : Handled (run.outcome place) ↔ run.Contained place := by
  obtain ⟨item, index⟩ := place
  by_cases hnamed : item.namedAction = ""
  · have houtcome : run.outcome (item, index) =
        call run.functions run.account item.endpoint item.method { body := item.body }
          (run.exchanges index) := if_neg (not_not_intro hnamed)
    rw [houtcome, handled_call]
    exact (or_iff_right fun h => h.1 hnamed).symm
  · have houtcome : run.outcome (item, index) =
        callNamed run.functions run.account item.namedAction { body := item.body }
          (run.exchanges index) := if_pos hnamed
    rw [houtcome, callNamed]
    cases haction : run.account.actionRegistry.find item.namedAction with
    | none => exact iff_of_true trivial (.inl ⟨hnamed, haction⟩)
    | some action =>
        show Handled (call _ _ _ _ _ _) ↔ _
        rw [handled_call]
        refine (or_iff_right fun h => ?_).symm
        have hnone := h.2
        rw [haction] at hnone
        cases hnone

theorem executeBatchItem_isOk :
    (∃ result, run.executeBatchItem place = .ok result) ↔ Handled (run.outcome place) := by
  unfold BatchRun.executeBatchItem
  cases run.outcome place with
  | ok response => exact iff_of_true ⟨_, rfl⟩ trivial
  | error raised =>
      cases raised with
      | client statusCode message => exact iff_of_true ⟨_, rfl⟩ trivial
      | auth message => exact iff_of_false (fun ⟨_, h⟩ => by cases h) id
      | other message => exact iff_of_false (fun ⟨_, h⟩ => by cases h) id

theorem reports_of_execute (h : run.executeBatchItem place = .ok result) :
    run.Reports place result := by
  unfold BatchRun.executeBatchItem at h
  unfold BatchRun.Reports
  cases houtcome : run.outcome place with
  | ok response =>
      simp only [houtcome] at h
      cases h
      exact ⟨rfl, rfl, rfl, rfl, rfl⟩
  | error raised =>
      cases raised with
      | client statusCode message =>
          simp only [houtcome] at h
          cases h
          exact ⟨rfl, rfl, rfl, rfl⟩
      | auth message =>
          simp only [houtcome] at h
          cases h
      | other message =>
          simp only [houtcome] at h
          cases h

theorem status_error_iff (h : run.Reports place result) :
    result.status = "error" ↔ FailedCall (run.outcome place) := by
  obtain ⟨-, houtcome⟩ := h
  cases hcall : run.outcome place with
  | ok response =>
      simp only [hcall] at houtcome
      show _ ↔ response.status = "error"
      rw [houtcome.1]
  | error raised =>
      refine iff_of_true ?_ trivial
      cases raised with
      | client statusCode message =>
          simp only [hcall] at houtcome
          exact houtcome.1
      | auth message =>
          simp only [hcall] at houtcome
          exact houtcome
      | other message =>
          simp only [hcall] at houtcome
          exact houtcome

/-! ## Sequences and gatherings -/

/-- A sequence has results exactly if each call up to the one it stops at has one. -/
theorem batchSequential_ok (stopOnError : Bool) (places : List (BatchCallItem × Nat))
    (results : List BatchResultItem) :
    run.batchSequential stopOnError places = .ok results ↔
      List.Forall₂ (fun place result => run.executeBatchItem place = .ok result)
        (if stopOnError = true then takeThrough (fun place => FailedCall (run.outcome place)) places
          else places) results := by
  induction places generalizing results with
  | nil =>
      have hnil : (if stopOnError = true then
          takeThrough (fun place => FailedCall (run.outcome place)) [] else []) = [] := by
        split <;> rfl
      rw [hnil, List.forall₂_nil_left_iff, BatchRun.batchSequential]
      exact ⟨fun h => (Except.ok.inj h).symm, fun h => by rw [h]⟩
  | cons place places ih =>
      rw [BatchRun.batchSequential]
      cases hresult : run.executeBatchItem place with
      | error raised =>
          -- The first call is executed in any case.
          refine iff_of_false (fun h => by cases h) fun h => ?_
          obtain ⟨rest, hrest⟩ : ∃ rest, (if stopOnError = true then
              takeThrough (fun place => FailedCall (run.outcome place)) (place :: places)
              else place :: places) = place :: rest := by
            by_cases hstop : stopOnError = true
            · rw [if_pos hstop, takeThrough]
              split
              · exact ⟨_, rfl⟩
              · exact ⟨_, rfl⟩
            · exact ⟨places, if_neg hstop⟩
          rw [hrest] at h
          cases h with
          | cons hfirst _ =>
              rw [hresult] at hfirst
              cases hfirst
      | ok result =>
          have hstatus := status_error_iff (reports_of_execute hresult)
          show (if result.status = "error" ∧ stopOnError = true then _ else _) = _ ↔ _
          by_cases hstop : result.status = "error" ∧ stopOnError = true
          · rw [if_pos hstop, if_pos hstop.2, takeThrough, if_pos (hstatus.mp hstop.1)]
            constructor
            · intro h
              cases h
              exact .cons hresult .nil
            · intro h
              obtain ⟨first, rest, hfirst, hrest, rfl⟩ := List.forall₂_cons_left_iff.mp h
              rw [List.forall₂_nil_left_iff.mp hrest, Except.ok.inj (hresult.symm.trans hfirst)]
          · have hexecuted : (if stopOnError = true then
                takeThrough (fun place => FailedCall (run.outcome place)) (place :: places)
                else place :: places) = place :: (if stopOnError = true then
                takeThrough (fun place => FailedCall (run.outcome place)) places else places) := by
              by_cases hmode : stopOnError = true
              · rw [if_pos hmode, if_pos hmode, takeThrough,
                  if_neg fun h => hstop ⟨hstatus.mpr h, hmode⟩]
              · rw [if_neg hmode, if_neg hmode]
            rw [if_neg hstop, hexecuted, List.forall₂_cons_left_iff]
            constructor
            · intro h
              cases hrest : run.batchSequential stopOnError places with
              | error raised =>
                  rw [hrest] at h
                  cases h
              | ok rest =>
                  rw [hrest] at h
                  cases h
                  exact ⟨result, rest, hresult, (ih rest).mp hrest, rfl⟩
            · rintro ⟨first, rest, hfirst, hrest, rfl⟩
              rw [(ih rest).mpr hrest, Except.ok.inj (hresult.symm.trans hfirst)]
              rfl

theorem gather_ok {α : Type} (tasks : List (Except Raised α)) (completion : Completion tasks.length)
    (results : List α) : gather completion.order tasks = .ok results ↔ tasks = results.map .ok := by
  unfold gather
  cases hraised : completion.order.findSome? (fun index => tasks[index]?.bind raisedOf) with
  | some raised =>
      refine iff_of_false (fun h => by cases h) fun h => ?_
      obtain ⟨index, -, hindex⟩ := List.exists_of_findSome?_eq_some hraised
      subst h
      simp only [List.getElem?_map] at hindex
      cases hget : results[index]? with
      | none =>
          rw [hget] at hindex
          cases hindex
      | some value =>
          rw [hget] at hindex
          cases hindex
  | none =>
      have hok : ∀ task ∈ tasks, raisedOf task = none := by
        intro task hmem
        obtain ⟨index, hlt, rfl⟩ := List.getElem_of_mem hmem
        have hindex : index ∈ completion.order :=
          completion.perm.symm.subset (List.mem_range.mpr hlt)
        have hnone := List.findSome?_eq_none_iff.mp hraised index hindex
        rwa [List.getElem?_eq_getElem hlt] at hnone
      have htasks : tasks = (tasks.filterMap Except.toOption).map .ok := by
        clear hraised completion
        induction tasks with
        | nil => rfl
        | cons task tasks ih =>
            cases task with
            | error raised => cases hok _ (List.mem_cons_self ..)
            | ok value =>
                have hrest := ih fun task hmem => hok task (List.mem_cons_of_mem _ hmem)
                exact congrArg (Except.ok value :: ·) hrest
      constructor
      · intro h
        rw [← Except.ok.inj h]
        exact htasks
      · intro h
        have hinj : Function.Injective (Except.ok : α → Except Raised α) := fun a b => Except.ok.inj
        rw [List.map_injective_iff.mpr hinj (htasks.symm.trans h)]

theorem map_eq_map_ok_iff (places : List (BatchCallItem × Nat)) (results : List BatchResultItem) :
    places.map run.executeBatchItem = results.map .ok ↔
      List.Forall₂ (fun place result => run.executeBatchItem place = .ok result) places results := by
  rw [← List.forall₂_eq_eq_eq, List.forall₂_map_left_iff, List.forall₂_map_right_iff]

/-! ## The law -/

variable {request : RestBatchRequest} {completion : Completion request.calls.length}

/-- A batch is answered with the results of the calls that are executed. -/
theorem restBatch_ok (response : RestBatchResponse) :
    run.restBatch request completion = .ok response ↔
      ∃ results, List.Forall₂ (fun place result => run.executeBatchItem place = .ok result)
        (run.executed request) results ∧ BatchRun.responseOf results = response := by
  have hresults : ∀ results, (if request.parallel = true then
        run.batchParallel completion.order request.calls.zipIdx
      else run.batchSequential request.stopOnError request.calls.zipIdx) = .ok results ↔
      List.Forall₂ (fun place result => run.executeBatchItem place = .ok result)
        (run.executed request) results := by
    intro results
    unfold BatchRun.executed
    by_cases hparallel : request.parallel = true
    · have hmode : ¬(request.parallel = false ∧ request.stopOnError = true) := fun h =>
        Bool.noConfusion (hparallel.symm.trans h.1)
      have hlength : (request.calls.zipIdx.map run.executeBatchItem).length =
          request.calls.length := by simp
      rw [if_pos hparallel, if_neg hmode, ← map_eq_map_ok_iff]
      exact gather_ok _ ⟨completion.order, by rw [hlength]; exact completion.perm⟩ _
    · rw [if_neg hparallel, batchSequential_ok]
      have hsequential : request.parallel = false := Bool.not_eq_true _ ▸ hparallel
      by_cases hstop : request.stopOnError = true
      · rw [if_pos hstop, if_pos ⟨hsequential, hstop⟩]
      · rw [if_neg hstop, if_neg fun h => hstop h.2]
  unfold BatchRun.restBatch
  cases hbatch : (if request.parallel = true then
        run.batchParallel completion.order request.calls.zipIdx
      else run.batchSequential request.stopOnError request.calls.zipIdx) with
  | error raised =>
      refine iff_of_false (fun h => by cases h) ?_
      rintro ⟨results, hforall, -⟩
      have hok := (hresults results).mpr hforall
      rw [hbatch] at hok
      cases hok
  | ok results =>
      constructor
      · intro h
        exact ⟨results, (hresults results).mp hbatch, Except.ok.inj h⟩
      · rintro ⟨others, hforall, hresponse⟩
        have hok := (hresults others).mpr hforall
        rw [hbatch] at hok
        rw [← hresponse, ← Except.ok.inj hok]
        rfl

/-- **A batch accounts for every call that is executed exactly if each of them is contained.** -/
theorem accounted_iff :
    run.Accounted request completion ↔ ∀ place ∈ run.executed request, run.Contained place := by
  constructor
  · rintro ⟨response, hresponse, -⟩ place hmem
    obtain ⟨results, hforall, -⟩ := (restBatch_ok response).mp hresponse
    rw [← handled_outcome, ← executeBatchItem_isOk]
    generalize run.executed request = places at hforall hmem
    induction hforall with
    | nil => cases hmem
    | cons hfirst _ ih =>
        rcases List.mem_cons.mp hmem with rfl | hlater
        · exact ⟨_, hfirst⟩
        · exact ih hlater
  · intro h
    obtain ⟨results, hforall⟩ : ∃ results, List.Forall₂ (fun place result =>
        run.executeBatchItem place = .ok result) (run.executed request) results := by
      generalize run.executed request = places at h
      induction places with
      | nil => exact ⟨[], .nil⟩
      | cons place places ih =>
          obtain ⟨result, hresult⟩ := executeBatchItem_isOk.mpr
            (handled_outcome.mpr (h place (List.mem_cons_self ..)))
          obtain ⟨results, hresults⟩ := ih fun place hmem => h place (List.mem_cons_of_mem _ hmem)
          exact ⟨result :: results, .cons hresult hresults⟩
    exact ⟨_, (restBatch_ok _).mpr ⟨results, hforall, rfl⟩, hforall.imp fun _ _ => reports_of_execute⟩

end Results

/-! ## A token that is refused -/

/-- An account that asks for tokens. The first call finds one that is valid, and the second one is refused
another. -/
def refusedRun : BatchRun where
  functions := { str := fun _ => "token", base64 := id, profiles := [] }
  account := {
    name := "erp"
    baseUrl := "https://erp.example.com"
    auth := { type := .oauth2ClientCredentials, tokenUrl := "https://erp.example.com/token" } }
  exchanges := fun index => {
    cachedToken := if index = 0 then some (.str "token") else none
    token := .response 401 (.ok (.dict []))
    attempt := fun _ => .response 201 (some (.dict [])) "" }

/-- Two orders, one after the other. -/
def ordersRequest : RestBatchRequest where
  calls := [{ endpoint := "orders" }, { endpoint := "orders" }]

/-- The first order is created, and the answer to the batch is an exception that does not say so. -/
theorem batch_unaccounted :
    (∃ response, refusedRun.outcome ({ endpoint := "orders" }, 0) = .ok response ∧
      response.status = "success" ∧ response.httpStatus = 201) ∧
    ¬refusedRun.Accounted ordersRequest ⟨[0, 1], .refl _⟩ := by
  refine ⟨⟨_, rfl, rfl, rfl⟩, ?_⟩
  rintro ⟨response, hresponse, -⟩
  have hraised : refusedRun.restBatch ordersRequest ⟨[0, 1], .refl _⟩ =
      .error (.auth "OAuth2 token request failed: 401") := rfl
  rw [hraised] at hresponse
  cases hresponse

end RestApi

end IntegrationPlatform
