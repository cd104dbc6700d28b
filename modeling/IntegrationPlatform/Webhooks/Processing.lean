import IntegrationPlatform.Transactions.Histories
import IntegrationPlatform.Webhooks.Ingestion

/-!
# Processing of webhook events

`process_webhook_async` and `replay_webhook` write the status and the counter of one row.
`statusMachine_iff` says which sequences of attempts the status follows. An attempt is given by what
`process_event_fn` does in it; the message of the `TypeError` that `structlog` raises is a
parameter.
-/

namespace IntegrationPlatform

namespace Webhooks

/-! ## Attempts -/

def maxRetriesBeforeDlq : Nat := 3

/-- What `process_event_fn` returns, or the message of what it raises. -/
abbrev Outcome := Except String Value

/-- An attempt at an instant. -/
structure Attempt where
  replay : Bool
  outcome : Outcome
  now : Rat

/-- `str(exc)[:2000]`. -/
def errorText (message : String) : String :=
  String.ofList (slice message.toList 2000)

/-- The keywords of the message `webhook.processed_async`. -/
def processedKeywords : List String :=
  ["webhook_id", "connector", "event", "flows_triggered", "workflows_triggered", "duration_ms"]

/-- `logger.info` with these keywords. Its first parameter is called `event`. -/
def loggerInfo (typeError : String) (keywords : List String) : Except String Unit :=
  if keywords.contains "event" then .error typeError else .ok ()

/-- The message `webhook.processed_async`, with the counts of the result. -/
def logProcessed (typeError : String) (result : Value) : Except String Unit := do
  let _ ← result.get "flows_triggered" (.int 0)
  let _ ← result.get "workflows_triggered" (.int 0)
  loggerInfo typeError processedKeywords

namespace WebhookEvent

variable (typeError : String) (event : WebhookEvent)

/-- The row after its processing has succeeded. -/
def processed (now : Rat) : WebhookEvent :=
  { event with processingStatus := .processed, processedAt := some now, error := none }

/-- The row after an exception in `process_webhook_async`. -/
def processingFailed (message : String) : WebhookEvent :=
  { event with
    retryCount := event.retryCount + 1
    error := some (errorText message)
    processingStatus :=
      if maxRetriesBeforeDlq ≤ event.retryCount + 1 then .deadLetter else .failed }

def processWebhookAsync (outcome : Outcome) (now : Rat) : WebhookEvent :=
  match outcome with
  | .ok result =>
      match logProcessed typeError result with
      | .ok () => event.processed now
      | .error message => (event.processed now).processingFailed message
  | .error message => event.processingFailed message

def replayWebhook (outcome : Outcome) (now : Rat) : WebhookEvent :=
  match outcome with
  | .ok _ => { event.processed now with retryCount := event.retryCount + 1 }
  | .error message =>
      { event with
        processingStatus := .failed
        error := some (errorText message)
        retryCount := event.retryCount + 1 }

/-- The row after an attempt. -/
def attempt (attempt : Attempt) : WebhookEvent :=
  if attempt.replay then event.replayWebhook attempt.outcome attempt.now
  else event.processWebhookAsync typeError attempt.outcome attempt.now

end WebhookEvent

/-! ## The status -/

/-- After the attempt the row is processed if and only if `process_event_fn` has returned, and
otherwise is a dead letter if its attempts are used up and failed if not; a dead letter does not go
back to failed. -/
structure Right (typeError : String) (event : WebhookEvent) (attempt : Attempt) : Prop where
  processed : (event.attempt typeError attempt).processingStatus = .processed ↔
    attempt.outcome.isOk = true
  failed : attempt.outcome.isOk = false →
    (event.attempt typeError attempt).processingStatus =
      if maxRetriesBeforeDlq ≤ (event.attempt typeError attempt).retryCount then .deadLetter
      else .failed
  dead : attempt.outcome.isOk = false → event.processingStatus = .deadLetter →
    (event.attempt typeError attempt).processingStatus ≠ .failed

/-- A processing raises; a replay returns, or leaves attempts. -/
def Meets (event : WebhookEvent) (attempt : Attempt) : Prop :=
  if attempt.replay then
    attempt.outcome.isOk = true ∨ event.retryCount + 1 < maxRetriesBeforeDlq
  else attempt.outcome.isOk = false

variable {typeError : String} {event : WebhookEvent} {attempt : Attempt}

theorem logProcessed_error (typeError : String) (result : Value) :
    ∃ message, logProcessed typeError result = .error message := by
  cases result with
  | dict fields => exact ⟨typeError, rfl⟩
  | _ => exact ⟨_, rfl⟩

theorem processWebhookAsync_eq (typeError : String) (event : WebhookEvent) (outcome : Outcome)
    (now : Rat) :
    (event.processWebhookAsync typeError outcome now).processingStatus =
        (if maxRetriesBeforeDlq ≤ event.retryCount + 1 then .deadLetter else .failed) ∧
      (event.processWebhookAsync typeError outcome now).retryCount = event.retryCount + 1 := by
  cases outcome with
  | error message => exact ⟨rfl, rfl⟩
  | ok result =>
      obtain ⟨message, hmessage⟩ := logProcessed_error typeError result
      simp only [WebhookEvent.processWebhookAsync, hmessage]
      exact ⟨rfl, rfl⟩

/-- A dead letter has used up its attempts. -/
def Exhausted (event : WebhookEvent) : Prop :=
  event.processingStatus = .deadLetter → maxRetriesBeforeDlq ≤ event.retryCount

theorem exhausted_attempt (typeError : String) (event : WebhookEvent) (attempt : Attempt) :
    Exhausted (event.attempt typeError attempt) := by
  obtain ⟨replay, outcome, now⟩ := attempt
  intro hdead
  cases replay with
  | false =>
      obtain ⟨hstatus, hcount⟩ := processWebhookAsync_eq typeError event outcome now
      have hafter := hstatus.symm.trans hdead
      by_cases hlimit : maxRetriesBeforeDlq ≤ event.retryCount + 1
      · exact hcount.symm ▸ hlimit
      · rw [if_neg hlimit] at hafter
        cases hafter
  | true =>
      cases outcome with
      | ok result => cases hdead
      | error message => cases hdead

theorem right_process_iff (h : Exhausted event) {outcome : Outcome} {now : Rat} :
    Right typeError event ⟨false, outcome, now⟩ ↔ outcome.isOk = false := by
  obtain ⟨hstatus, hcount⟩ := processWebhookAsync_eq typeError event outcome now
  have hnot : (event.processWebhookAsync typeError outcome now).processingStatus ≠ .processed := by
    rw [hstatus]
    split <;> simp
  constructor
  · intro hright
    by_contra hok
    exact hnot (hright.processed.mpr (eq_true_of_ne_false hok))
  · intro hraises
    refine ⟨⟨fun hprocessed => absurd hprocessed hnot, fun hok => ?_⟩, fun _ => ?_, fun _ hdead => ?_⟩
    · exact absurd (hraises.symm.trans hok) (by decide)
    · show (event.processWebhookAsync typeError outcome now).processingStatus =
        if maxRetriesBeforeDlq ≤ (event.processWebhookAsync typeError outcome now).retryCount then _
        else _
      rw [hstatus, hcount]
    · have hlimit : maxRetriesBeforeDlq ≤ event.retryCount + 1 := (h hdead).trans (Nat.le_succ _)
      show (event.processWebhookAsync typeError outcome now).processingStatus ≠ .failed
      rw [hstatus, if_pos hlimit]
      decide

theorem right_replay_iff (h : Exhausted event) {outcome : Outcome} {now : Rat} :
    Right typeError event ⟨true, outcome, now⟩ ↔
      outcome.isOk = true ∨ event.retryCount + 1 < maxRetriesBeforeDlq := by
  cases outcome with
  | ok result =>
      refine ⟨fun _ => .inl rfl, fun _ => ⟨⟨fun _ => rfl, fun _ => rfl⟩, ?_, ?_⟩⟩
      · intro hraises
        cases hraises
      · intro hraises
        cases hraises
  | error message =>
      constructor
      · intro hright
        have hfailed := hright.failed rfl
        by_cases hlimit : maxRetriesBeforeDlq ≤ event.retryCount + 1
        · have hdead : ProcessingStatus.failed = .deadLetter := hfailed.trans (if_pos hlimit)
          cases hdead
        · exact .inr (Nat.lt_of_not_le hlimit)
      · rintro (hok | hleft)
        · cases hok
        · refine ⟨⟨fun hprocessed => ?_, fun hok => ?_⟩, fun _ => ?_, fun _ hdead => ?_⟩
          · cases hprocessed
          · cases hok
          · exact (if_neg (Nat.not_le_of_lt hleft)).symm
          · exact absurd ((h hdead).trans (Nat.le_succ _)) (Nat.not_le_of_lt hleft)

theorem right_iff (h : Exhausted event) (attempt : Attempt) :
    Right typeError event attempt ↔ Meets event attempt := by
  obtain ⟨replay, outcome, now⟩ := attempt
  cases replay with
  | false => exact right_process_iff h
  | true => exact right_replay_iff h

/-- The status of a row follows a sequence of attempts if and only if every processing raises and
every replay returns or leaves attempts. -/
theorem statusMachine_iff (typeError : String) (delivery : Delivery) (payload : Value)
    (sigValid : Option Bool) (externalId : Option String) (attempts : List Attempt) :
    Along (WebhookEvent.attempt typeError) (Right typeError)
        (Service.row delivery payload sigValid externalId) attempts ↔
      Along (WebhookEvent.attempt typeError) Meets
        (Service.row delivery payload sigValid externalId) attempts := by
  refine along_iff (fun event next hevent => right_iff hevent next)
    (fun event next _ _ => exhausted_attempt typeError event next) ?_ attempts
  intro hdead
  cases hdead

/-- A row of a webhook without external id. -/
def received : WebhookEvent :=
  Service.row
    { connectorName := "shop"
      eventType := "order.created"
      body := .empty
      headers := []
      tenantId := "tenant"
      instant := 0
      webhookId := "event" }
    (.dict []) none none

/-- What `process_event_fn` returns for an event without flows and workflows. -/
def untriggered : Value :=
  .dict [("flows_triggered", .int 0), ("workflows_triggered", .int 0)]

/-- A processing that succeeds leaves its row failed; and a replay takes a dead letter back to
failed. -/
theorem status_wrong :
    ¬ Along (WebhookEvent.attempt "") (Right "") received [⟨false, .ok untriggered, 1⟩] ∧
      ¬ Along (WebhookEvent.attempt "") (Right "") received
        [⟨false, .error "down", 1⟩, ⟨false, .error "down", 2⟩, ⟨false, .error "down", 3⟩,
          ⟨true, .error "down", 4⟩] := by
  constructor
  · rintro ⟨hright, -⟩
    have hprocessed := hright.processed.mpr rfl
    cases hprocessed
  · rintro ⟨-, -, -, hright, -⟩
    exact hright.dead rfl rfl rfl

end Webhooks

end IntegrationPlatform
