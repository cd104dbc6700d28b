import IntegrationPlatform.Json.Operators
import IntegrationPlatform.Stores.Expiring
import Mathlib.Algebra.Order.Ring.Rat

/-!
# Webhook ingestion

`ingest_webhook`: what comes in by a webhook is verified, checked against the deliveries of the last
day and persisted. `signedIfAccepted_iff` says when a delivery without authentication is accepted
with a valid signature only. HMAC, `json.loads` and `str.lower` are parameters.
-/

namespace IntegrationPlatform

namespace Webhooks

/-! ## Events -/

inductive ProcessingStatus where
  | received
  | processing
  | processed
  | failed
  | deadLetter
  deriving DecidableEq

/-- A row of `webhook_events`. -/
structure WebhookEvent where
  id : String
  tenantId : String
  connectorName : String
  eventType : String
  externalId : Option String
  payload : Value
  headers : Assoc String
  signatureValid : Option Bool
  processingStatus : ProcessingStatus
  error : Option String := none
  retryCount : Nat := 0
  receivedAt : Rat
  processedAt : Option Rat := none

/-- A call of `ingest_webhook`, with the instant and with the id that the row gets if it is
persisted. -/
structure Delivery where
  connectorName : String
  eventType : String
  body : ByteArray
  headers : Assoc String
  tenantId : String
  requireSignature : Bool := false
  instant : Rat
  webhookId : String

/-- The keys of `_ALGORITHMS`. -/
inductive Algorithm where
  | sha256
  | sha1
  | sha512
  deriving DecidableEq

/-- `WebhookIngestionService`, with what it calls. -/
structure Service where
  /-- `webhooks` of the first manifest of a connector, if there is one. -/
  webhooks : String → Option Dict
  /-- `retrieve` of the vault, by the tenant, the connector and the key. -/
  retrieve : String → String → String → Except String (Option String)
  /-- `hmac.new(key, body, ...).hexdigest()`. -/
  hexdigest : Algorithm → ByteArray → ByteArray → String
  /-- `json.loads`, unless the body is no JSON. -/
  loads : ByteArray → Option Value
  /-- `str.lower`. -/
  lower : String → String

/-! ## Signatures -/

/-- `_ALGORITHMS.get`. -/
def algorithmOf (name : String) : Option Algorithm :=
  if name = "hmac-sha256" then some .sha256
  else if name = "hmac-sha1" then some .sha1
  else if name = "hmac-sha512" then some .sha512
  else none

/-- The names of algorithms that a signature may begin with. -/
def signatureLabels : List String := ["sha256=", "sha1=", "sha512="]

/-- The signature without the name of its algorithm. -/
def cleanSignature (signature : String) : String :=
  match signatureLabels.find? fun label => label.toList.isPrefixOf signature.toList with
  | some label => String.ofList (signature.toList.drop label.length)
  | none => signature

/-- `hmac.compare_digest` of two texts. -/
def compareDigest (expected given : String) : Except String Bool :=
  if given.toList.all fun letter => letter.toNat < 128 then .ok (expected == given)
  else .error "comparing strings with non-ASCII characters is not supported"

namespace Service

variable (service : Service) (delivery : Delivery)

def verifySignature (body : ByteArray) (signature secret : String) (algorithm : Value) :
    Except String Bool :=
  match algorithm with
  | .str algorithm =>
      match algorithmOf (service.lower algorithm) with
      | none => .ok false
      | some algorithm =>
          compareDigest (service.hexdigest algorithm secret.toUTF8 body) (cleanSignature signature)
  | value => .error ("'" ++ value.typeName ++ "' object has no attribute 'lower'")

/-- The signature that came under this header, or under its name in lower case. -/
def signature (header : Value) : Except String (Option String) :=
  match header with
  | .str header =>
      .ok ((nonempty (delivery.headers.find header)).or
        (nonempty (delivery.headers.find (service.lower header))))
  | value =>
      if value.hashable then .error ("'" ++ value.typeName ++ "' object has no attribute 'lower'")
      else .error ("unhashable type: '" ++ value.typeName ++ "'")

/-- The secret under this key. No row has the key `null`. -/
def secret (key : Value) : Except String (Option String) :=
  match key with
  | .str key => nonempty <$> service.retrieve delivery.tenantId delivery.connectorName key
  | .null => .ok none
  | value => .error ("invalid credential_key of type '" ++ value.typeName ++ "'")

def verify (config : Dict) : Except String (Option Bool) := do
  let sigHeader := (Assoc.find config "signature_header").getD .null
  if sigHeader.truthy then
    match ← service.signature delivery sigHeader with
    | none => return some false
    | some signature =>
        let secretField := (Assoc.find config "signature_key_field").getD (.str "webhook_secret")
        let algorithm := (Assoc.find config "signature_algorithm").getD (.str "hmac-sha256")
        match ← service.secret delivery secretField with
        | none => return some false
        | some secret => return some (← service.verifySignature delivery.body signature secret algorithm)
  else
    return none

/-- `_get_webhook_config`, of the first manifest of the connector. -/
def webhookConfig : Option Value :=
  (service.webhooks delivery.connectorName).bind fun webhooks => webhooks.find delivery.eventType

end Service

/-! ## External ids -/

/-- The headers that may hold an external id. -/
def externalIdHeaders : List String :=
  ["X-Webhook-Id", "X-Request-Id", "X-Event-Id", "x-webhook-id", "x-request-id"]

/-- The fields of a payload that may hold an external id. -/
def externalIdFields : List String := ["id", "event_id", "message_id", "webhook_id"]

/-- The external id in one of these fields of a payload. -/
def fieldId (payload : Value) : List String → Except String (Option String)
  | [] => .ok none
  | field :: rest => do
      if ← (Value.str field).pyIn payload then
        match payload with
        | .dict fields =>
            match Assoc.find fields field with
            | some (.str text) => return some text
            | some (.int number) => return some (toString number)
            | some (.bool flag) => return some (if flag then "True" else "False")
            | _ => fieldId payload rest
        | .list _ => throw "list indices must be integers or slices, not str"
        | _ => throw "string indices must be integers, not 'str'"
      else fieldId payload rest

def extractExternalId (headers : Assoc String) (payload : Value) : Except String (Option String) :=
  match externalIdHeaders.findSome? headers.find with
  | some id => .ok (some id)
  | none => fieldId payload externalIdFields

/-- The key under which a delivery is marked. -/
def dedupKey (connector event externalId : String) : String :=
  "webhook:dedup:" ++ connector ++ ":" ++ event ++ ":" ++ externalId

/-- The key under which the delivery of a row is marked, unless it has no external id. -/
def WebhookEvent.key (event : WebhookEvent) : Option String :=
  (nonempty event.externalId).map (dedupKey event.connectorName event.eventType)

def dedupTtl : Rat := 86400

/-! ## `ingest_webhook` -/

/-- The result of `ingest_webhook`. -/
inductive IngestResult where
  | rejected (reason : String)
  | duplicate (externalId : String)
  | accepted (webhookId : String) (externalId : Option String)
  deriving DecidableEq

/-- What is known of a delivery before it is checked for duplicates. -/
inductive Examined where
  | rejected (reason : String)
  | passed (payload : Value) (sigValid : Option Bool) (externalId : Option String)

/-- The marks in Redis, and the rows that are persisted. -/
structure Intake where
  redis : Expiring String String Rat
  events : List WebhookEvent

/-- Nothing has been delivered. -/
def Intake.empty : Intake := ⟨.empty, []⟩

namespace Service

variable (service : Service) (delivery : Delivery)

/-- The part of `ingest_webhook` before the check for duplicates. -/
def examine : Except String Examined :=
  match service.loads delivery.body with
  | none => .ok (.rejected "Invalid JSON payload")
  | some payload => do
      let config := (service.webhookConfig delivery).getD .null
      if config.truthy then
        match config with
        | .dict config =>
            let sigValid ← service.verify delivery config
            if sigValid = some false then
              return .rejected "Invalid signature"
            else
              return .passed payload sigValid (← extractExternalId delivery.headers payload)
        | value => throw ("'" ++ value.typeName ++ "' object has no attribute 'get'")
      else if delivery.requireSignature then
        return .rejected "Webhook signature verification required but not configured for this event"
      else
        return .passed payload none (← extractExternalId delivery.headers payload)

/-- The key of a delivery with this external id, unless it has none. -/
def key (delivery : Delivery) (externalId : Option String) : Option String :=
  (nonempty externalId).map (dedupKey delivery.connectorName delivery.eventType)

/-- The row of a delivery. -/
def row (delivery : Delivery) (payload : Value) (sigValid : Option Bool) (externalId : Option String) :
    WebhookEvent where
  id := delivery.webhookId
  tenantId := delivery.tenantId
  connectorName := delivery.connectorName
  eventType := delivery.eventType
  externalId
  payload
  headers := delivery.headers
  signatureValid := sigValid
  processingStatus := .received
  receivedAt := delivery.instant

def checkDedup (redis : Expiring String String Rat) (instant : Rat) (key : String) : Bool :=
  (redis.get instant key).isSome

def markDedup (redis : Expiring String String Rat) (instant : Rat) (key : String) :
    Expiring String String Rat :=
  redis.set key "1" (instant + dedupTtl)

/-- The part of `ingest_webhook` from the check for duplicates on. -/
def accept (intake : Intake) (payload : Value) (sigValid : Option Bool) (externalId : Option String) :
    IngestResult × Intake :=
  let event := row delivery payload sigValid externalId
  match key delivery externalId with
  | none => (.accepted delivery.webhookId externalId, { intake with events := intake.events ++ [event] })
  | some dedupKey =>
      if checkDedup intake.redis delivery.instant dedupKey then
        (.duplicate (externalId.getD ""), intake)
      else
        (.accepted delivery.webhookId externalId,
          { redis := markDedup intake.redis delivery.instant dedupKey
            events := intake.events ++ [event] })

/-- `ingest_webhook`, and the commit. -/
def ingestWebhook (intake : Intake) : Except String (IngestResult × Intake) := do
  match ← service.examine delivery with
  | .rejected reason => return (.rejected reason, intake)
  | .passed payload sigValid externalId => return accept delivery intake payload sigValid externalId

end Service

/-! ## Signatures of accepted deliveries -/

/-- No mark keeps a delivery with this external id from being accepted. -/
def Fresh (delivery : Delivery) (intake : Intake) (externalId : Option String) : Prop :=
  ∀ dedupKey, Service.key delivery externalId = some dedupKey →
    Service.checkDedup intake.redis delivery.instant dedupKey = false

/-- The delivery without authentication. -/
def Delivery.unauthenticated (delivery : Delivery) : Delivery :=
  { delivery with requireSignature := true }

/-- The signature that came with the body is its HMAC under the secret of the tenant. -/
def Signed (service : Service) (delivery : Delivery) (config : Dict) : Prop :=
  ∃ signature secret algorithmName algorithm,
    service.signature delivery ((Assoc.find config "signature_header").getD .null) =
        .ok (some signature) ∧
      service.secret delivery
        ((Assoc.find config "signature_key_field").getD (.str "webhook_secret")) =
          .ok (some secret) ∧
      (Assoc.find config "signature_algorithm").getD (.str "hmac-sha256") = .str algorithmName ∧
      algorithmOf (service.lower algorithmName) = some algorithm ∧
      service.hexdigest algorithm secret.toUTF8 delivery.body = cleanSignature signature

/-- If the delivery is accepted, the row that is persisted has a valid signature. -/
def SignedIfAccepted (service : Service) (delivery : Delivery) (intake : Intake) : Prop :=
  ∀ webhookId externalId intake',
    service.ingestWebhook delivery intake = .ok (.accepted webhookId externalId, intake') →
      ∃ event config, intake'.events = intake.events ++ [event] ∧ event.signatureValid = some true ∧
        service.webhookConfig delivery = some (.dict config) ∧ Signed service delivery config

/-- The event has an entry in the manifest, but one without a header for the signature, and nothing
else keeps the delivery from being accepted. -/
def Unsigned (service : Service) (delivery : Delivery) (intake : Intake) : Prop :=
  ∃ config payload externalId,
    service.webhookConfig delivery = some (.dict config) ∧ config ≠ [] ∧
      ((Assoc.find config "signature_header").getD .null).truthy = false ∧
      service.loads delivery.body = some payload ∧
      extractExternalId delivery.headers payload = .ok externalId ∧
      Fresh delivery intake externalId

variable {service : Service} {delivery : Delivery} {intake : Intake} {config : Dict}

theorem compareDigest_eq_true {expected given : String} (h : compareDigest expected given = .ok true) :
    expected = given := by
  unfold compareDigest at h
  split at h
  · exact beq_iff_eq.mp (Except.ok.inj h)
  · cases h

theorem verifySignature_eq_true {body : ByteArray} {signature secret : String} {algorithm : Value}
    (h : service.verifySignature body signature secret algorithm = .ok true) :
    ∃ algorithmName found, algorithm = .str algorithmName ∧
      algorithmOf (service.lower algorithmName) = some found ∧
      service.hexdigest found secret.toUTF8 body = cleanSignature signature := by
  cases algorithm with
  | str algorithmName =>
      cases hfound : algorithmOf (service.lower algorithmName) with
      | none =>
          simp only [Service.verifySignature, hfound] at h
          cases h
      | some found =>
          simp only [Service.verifySignature, hfound] at h
          exact ⟨algorithmName, found, rfl, hfound, compareDigest_eq_true h⟩
  | _ => cases h

theorem verify_of_not_truthy
    (h : ((Assoc.find config "signature_header").getD .null).truthy = false) :
    service.verify delivery config = .ok none := by
  unfold Service.verify
  simp only [h]
  rfl

theorem verify_of_truthy {sigValid : Option Bool}
    (hheader : ((Assoc.find config "signature_header").getD .null).truthy = true)
    (h : service.verify delivery config = .ok sigValid) :
    sigValid = some false ∨ sigValid = some true ∧ Signed service delivery config := by
  unfold Service.verify at h
  simp only [hheader, if_true] at h
  obtain ⟨given, hgiven, h⟩ := bind_eq_ok.mp h
  cases given with
  | none => exact .inl (Except.ok.inj h).symm
  | some signature =>
      obtain ⟨stored, hstored, h⟩ := bind_eq_ok.mp h
      cases stored with
      | none => exact .inl (Except.ok.inj h).symm
      | some secret =>
          obtain ⟨valid, hvalid, h⟩ := bind_eq_ok.mp h
          obtain rfl : some valid = sigValid := Except.ok.inj h
          cases valid with
          | false => exact .inl rfl
          | true =>
              obtain ⟨algorithmName, algorithm, hname, hfound, hdigest⟩ :=
                verifySignature_eq_true hvalid
              exact .inr ⟨rfl, signature, secret, algorithmName, algorithm, hgiven, hstored, hname,
                hfound, hdigest⟩

theorem checkDedup_markDedup (redis : Expiring String String Rat) (now instant : Rat) (key : String) :
    Service.checkDedup (Service.markDedup redis now key) instant key = true ↔
      instant < now + dedupTtl := by
  by_cases hlive : instant < now + dedupTtl
  · simp [Service.checkDedup, Service.markDedup, Expiring.get, hlive]
  · simp [Service.checkDedup, Service.markDedup, Expiring.get, hlive]

theorem checkDedup_markDedup_of_ne {key key' : String} (hne : key' ≠ key)
    (redis : Expiring String String Rat) (now instant : Rat) :
    Service.checkDedup (Service.markDedup redis now key) instant key' =
      Service.checkDedup redis instant key' := by
  unfold Service.checkDedup Service.markDedup Expiring.get
  rw [Expiring.set_of_ne hne]

theorem truthy_dict_iff {fields : Dict} : (Value.dict fields).truthy = true ↔ fields ≠ [] := by
  cases fields with
  | nil => simp [Value.truthy]
  | cons field rest => simp [Value.truthy]

theorem eq_some_dict_of_getD {entry : Option Value} {fields : Dict}
    (h : entry.getD .null = .dict fields) : entry = some (.dict fields) := by
  cases entry with
  | none => cases h
  | some value => exact congrArg some h

/-- What a delivery without authentication has passed before the check for duplicates. -/
theorem examine_unauthenticated {payload : Value} {sigValid : Option Bool}
    {externalId : Option String} :
    service.examine delivery.unauthenticated = .ok (.passed payload sigValid externalId) ↔
      ∃ config, service.webhookConfig delivery = some (.dict config) ∧ config ≠ [] ∧
        service.verify delivery config = .ok sigValid ∧ sigValid ≠ some false ∧
        service.loads delivery.body = some payload ∧
        extractExternalId delivery.headers payload = .ok externalId := by
  have hbody : delivery.unauthenticated.body = delivery.body := rfl
  have hentry : service.webhookConfig delivery.unauthenticated = service.webhookConfig delivery := rfl
  constructor
  · intro h
    -- Every way out of the function but the last one is a rejection.
    unfold Service.examine at h
    rw [hbody, hentry] at h
    cases hloads : service.loads delivery.body with
    | none =>
        rw [hloads] at h
        cases h
    | some decoded =>
        simp only [hloads] at h
        by_cases htruthy : ((service.webhookConfig delivery).getD .null).truthy = true
        · simp only [htruthy, if_true] at h
          cases hconfig : (service.webhookConfig delivery).getD .null with
          | dict config =>
              simp only [hconfig] at h
              obtain ⟨valid, hverify, h⟩ := bind_eq_ok.mp h
              have hfound := eq_some_dict_of_getD hconfig
              have hentries := truthy_dict_iff.mp (hconfig ▸ htruthy)
              by_cases hvalid : valid = some false
              · rw [if_pos hvalid] at h
                cases h
              · rw [if_neg hvalid] at h
                obtain ⟨id, hid, h⟩ := bind_eq_ok.mp h
                cases h
                exact ⟨config, hfound, hentries, hverify, hvalid, rfl, hid⟩
          | _ =>
              rw [hconfig] at h
              cases h
        · simp only [htruthy] at h
          cases h
  · rintro ⟨config, hconfig, hentries, hverify, hvalid, hloads, hid⟩
    have htruthy := truthy_dict_iff.mpr hentries
    have hverify' : service.verify delivery.unauthenticated config = .ok sigValid := hverify
    have hid' : extractExternalId delivery.unauthenticated.headers payload = .ok externalId := hid
    unfold Service.examine
    rw [hbody, hentry, hloads, hconfig]
    simp only [Option.getD_some, htruthy, if_true, hverify', hid', bind, Except.bind, if_neg hvalid]
    rfl

section Admission

variable {payload : Value} {sigValid : Option Bool} {externalId : Option String}

theorem accept_of_fresh (h : Fresh delivery intake externalId) :
    ∃ redis, Service.accept delivery intake payload sigValid externalId =
      (.accepted delivery.webhookId externalId,
        ⟨redis, intake.events ++ [Service.row delivery payload sigValid externalId]⟩) := by
  unfold Service.accept
  cases hkey : Service.key delivery externalId with
  | none => exact ⟨intake.redis, rfl⟩
  | some dedupKey =>
      have hseen := h dedupKey hkey
      exact ⟨Service.markDedup intake.redis delivery.instant dedupKey, by simp only [hseen]; rfl⟩

theorem accept_of_not_fresh (h : ¬ Fresh delivery intake externalId) :
    Service.accept delivery intake payload sigValid externalId =
      (.duplicate (externalId.getD ""), intake) := by
  unfold Service.accept
  cases hkey : Service.key delivery externalId with
  | none =>
      refine absurd ?_ h
      intro dedupKey hfound
      rw [hkey] at hfound
      cases hfound
  | some dedupKey =>
      by_cases hseen : Service.checkDedup intake.redis delivery.instant dedupKey = true
      · exact if_pos hseen
      · refine absurd ?_ h
        intro other hfound
        obtain rfl : dedupKey = other := Option.some.inj (hkey.symm.trans hfound)
        exact eq_false_of_ne_true hseen

end Admission

theorem ingestWebhook_accepted {webhookId : String} {externalId : Option String} {intake' : Intake}
    (h : service.ingestWebhook delivery intake = .ok (.accepted webhookId externalId, intake')) :
    ∃ payload sigValid, service.examine delivery = .ok (.passed payload sigValid externalId) ∧
      Fresh delivery intake externalId ∧
      intake'.events = intake.events ++ [Service.row delivery payload sigValid externalId] := by
  obtain ⟨examined, hexamined, h⟩ := bind_eq_ok.mp h
  cases examined with
  | rejected reason => cases h
  | passed payload sigValid id =>
      have hanswer := Except.ok.inj h
      by_cases hfresh : Fresh delivery intake id
      · obtain ⟨redis, haccept⟩ := accept_of_fresh hfresh
        rw [haccept] at hanswer
        cases hanswer
        exact ⟨payload, sigValid, hexamined, hfresh, rfl⟩
      · rw [accept_of_not_fresh hfresh] at hanswer
        cases hanswer

/-- A delivery without authentication is accepted with a valid signature only, unless the entry of
its event in the manifest has no header for the signature. -/
theorem signedIfAccepted_iff (service : Service) (delivery : Delivery) (intake : Intake) :
    SignedIfAccepted service delivery.unauthenticated intake ↔ ¬ Unsigned service delivery intake := by
  constructor
  · rintro hsigned ⟨config, payload, externalId, hconfig, hentries, hheader, hloads, hid, hfresh⟩
    have hexamined := examine_unauthenticated.mpr
      ⟨config, hconfig, hentries, verify_of_not_truthy hheader, by simp, hloads, hid⟩
    have hfresh' : Fresh delivery.unauthenticated intake externalId := hfresh
    obtain ⟨redis, haccept⟩ := accept_of_fresh hfresh'
    have hanswer : service.ingestWebhook delivery.unauthenticated intake =
        .ok (Service.accept delivery.unauthenticated intake payload none externalId) := by
      unfold Service.ingestWebhook
      rw [hexamined]
      rfl
    rw [haccept] at hanswer
    obtain ⟨event, _, hevent, hvalid, -⟩ := hsigned _ _ _ hanswer
    obtain rfl : _ = event := List.head_eq_of_cons_eq (List.append_cancel_left hevent)
    cases hvalid
  · intro hunsigned webhookId externalId intake' h
    obtain ⟨payload, sigValid, hexamined, hfresh, hevents⟩ := ingestWebhook_accepted h
    obtain ⟨config, hconfig, hentries, hverify, hvalid, hloads, hid⟩ :=
      examine_unauthenticated.mp hexamined
    have hheader : ((Assoc.find config "signature_header").getD .null).truthy = true := by
      by_contra hmissing
      exact hunsigned ⟨config, payload, externalId, hconfig, hentries,
        eq_false_of_ne_true hmissing, hloads, hid, hfresh⟩
    obtain hinvalid | ⟨rfl, hsigned⟩ := verify_of_truthy hheader hverify
    · exact absurd hinvalid hvalid
    · exact ⟨_, config, hevents, rfl, hconfig, hsigned⟩

/-- A service for a connector whose event has an entry without a header for the signature. -/
def describedOnly : Service where
  webhooks _ := some [("order.created", .dict [("description", .str "A new order")])]
  retrieve _ _ _ := .ok none
  hexdigest _ _ _ := ""
  loads _ := some (.dict [("order", .int 7)])
  lower name := name

/-- Anyone's delivery for this event. -/
def forged : Delivery where
  connectorName := "shop"
  eventType := "order.created"
  body := .empty
  headers := []
  tenantId := "tenant"
  instant := 0
  webhookId := "event"

/-- A delivery without authentication is accepted although nothing has been verified. -/
theorem forged_accepted : ¬ SignedIfAccepted describedOnly forged.unauthenticated .empty := by
  intro hsigned
  obtain ⟨event, _, hevents, hvalid, -⟩ := hsigned "event" none
    (Service.accept forged.unauthenticated .empty (.dict [("order", .int 7)]) none none).2 rfl
  obtain rfl : _ = event := List.head_eq_of_cons_eq hevents
  cases hvalid

end Webhooks

end IntegrationPlatform
