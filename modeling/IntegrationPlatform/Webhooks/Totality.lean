import IntegrationPlatform.Webhooks.Ingestion

/-!
# Deliveries that raise

`ingest_webhook` answers a delivery or raises. A payload is searched for an external id as an object
is, whatever it is, and a signature is compared by a function that takes ASCII texts only.
`answered_iff` says which deliveries are answered when the vault does not fail.
-/

namespace IntegrationPlatform

namespace Webhooks

/-! ## Bodies -/

/-- What `json.loads` raises. The exceptions of a text that is no JSON, or no text, are caught. -/
inductive LoadsError where
  | invalid
  | raises (message : String)

/-- What `json.loads` knows about bodies: the values, and what it raises. -/
abbrev Loads := ByteArray → Except LoadsError Value

/-- `ingest_webhook`, with what `json.loads` may raise. -/
def ingestBody (loads : Loads) (service : Service) (delivery : Delivery) (intake : Intake) :
    Except String (IngestResult × Intake) :=
  match loads delivery.body with
  | .error (.raises message) => .error message
  | _ => { service with loads := fun body => (loads body).toOption }.ingestWebhook delivery intake

/-! ## What is answered -/

/-- A text of ASCII characters. -/
def IsAscii (text : String) : Prop :=
  (text.toList.all fun letter => letter.toNat < 128) = true

/-- The header for the signature in an entry of the manifest. -/
def signatureHeader (config : Dict) : Value :=
  (Assoc.find config "signature_header").getD .null

/-- The key of the secret in an entry. -/
def signatureKeyField (config : Dict) : Value :=
  (Assoc.find config "signature_key_field").getD (.str "webhook_secret")

/-- The algorithm in an entry. -/
def signatureAlgorithm (config : Dict) : Value :=
  (Assoc.find config "signature_algorithm").getD (.str "hmac-sha256")

/-- The name of an algorithm and the signature are such that they can be compared. -/
def Comparable (service : Service) (signature : String) (algorithm : Value) : Prop :=
  ∃ name, algorithm = .str name ∧
    (algorithmOf (service.lower name) ≠ none → IsAscii (cleanSignature signature))

/-- The entry of the manifest has texts where `_verify` needs them, and the signature that it compares
is ASCII. -/
def Verifiable (service : Service) (delivery : Delivery) (config : Dict) : Prop :=
  (signatureHeader config).truthy = true →
    ∃ header, signatureHeader config = .str header ∧
      ∀ signature, service.signature delivery (.str header) = .ok (some signature) →
        (signatureKeyField config = .null ∨ ∃ key, signatureKeyField config = .str key) ∧
          ∀ secret, service.secret delivery (signatureKeyField config) = .ok (some secret) →
            Comparable service signature (signatureAlgorithm config)

/-- An id is found in a header, or the payload can be searched for one: it is an object, a list
without the names of the fields, or a text without them. -/
def Identifiable (headers : Assoc String) (payload : Value) : Prop :=
  (externalIdHeaders.findSome? headers.find).isSome = true ∨
    match payload with
    | .dict _ => True
    | .list items => ∀ field ∈ externalIdFields, Value.str field ∉ items
    | .str text => Value.isPart "id".toList text.toList = false
    | _ => False

/-- Nothing rejects the delivery before its id is looked for. -/
def Admitted (service : Service) (delivery : Delivery) : Prop :=
  let entry := (service.webhookConfig delivery).getD .null
  if entry.truthy = true then
    ∃ config, entry = .dict config ∧
      ((signatureHeader config).truthy = true → Signed service delivery config)
  else delivery.requireSignature = false

/-- The delivery is no JSON, or its entry in the manifest is one that `_verify` can read and, unless it
is rejected, an id can be looked for in it. -/
def Answerable (loads : Loads) (service : Service) (delivery : Delivery) : Prop :=
  match loads delivery.body with
  | .error .invalid => True
  | .error (.raises _) => False
  | .ok payload =>
      let entry := (service.webhookConfig delivery).getD .null
      (entry.truthy = true → ∃ config, entry = .dict config ∧ Verifiable service delivery config) ∧
        (Admitted service delivery → Identifiable delivery.headers payload)

/-! ## External ids -/

theorem any_pyEq_str {text : String} {items : List Value} :
    items.any (fun item => (Value.str text).pyEq item) = true ↔ Value.str text ∈ items := by
  rw [List.any_eq_true]
  constructor
  · rintro ⟨item, hmem, heq⟩
    cases item with
    | str other =>
        obtain rfl : text = other := by simpa [Value.pyEq] using heq
        exact hmem
    | _ => simp [Value.pyEq, Value.number?] at heq
  · intro hmem
    exact ⟨_, hmem, by simp [Value.pyEq]⟩

theorem fieldId_dict (object : Dict) (fields : List String) :
    ∃ id, fieldId (.dict object) fields = .ok id := by
  induction fields with
  | nil => exact ⟨none, rfl⟩
  | cons field rest ih =>
      have hin : (Value.str field).pyIn (.dict object) = .ok (object.any fun entry =>
          (Value.str field).pyEq (.str entry.1)) := rfl
      rw [fieldId, hin]
      simp only [bind, Except.bind]
      split
      · split
        · exact ⟨_, rfl⟩
        · exact ⟨_, rfl⟩
        · exact ⟨_, rfl⟩
        · exact ih
      · exact ih

theorem fieldId_list_iff (items : List Value) (fields : List String) :
    (∃ id, fieldId (.list items) fields = .ok id) ↔ ∀ field ∈ fields, Value.str field ∉ items := by
  induction fields with
  | nil => simp [fieldId]
  | cons field rest ih =>
      have hin : (Value.str field).pyIn (.list items) =
          .ok (items.any fun item => (Value.str field).pyEq item) := rfl
      rw [List.forall_mem_cons, ← ih]
      by_cases hmem : Value.str field ∈ items
      · have hraises : fieldId (.list items) (field :: rest) =
            .error "list indices must be integers or slices, not str" := by
          rw [fieldId, hin, any_pyEq_str.mpr hmem]
          rfl
        simp [hraises, hmem]
      · have hnext : fieldId (.list items) (field :: rest) = fieldId (.list items) rest := by
          rw [fieldId, hin, eq_false_of_ne_true fun h => hmem (any_pyEq_str.mp h)]
          rfl
        simp [hnext, hmem]

theorem fieldId_str_iff (text : String) (fields : List String) :
    (∃ id, fieldId (.str text) fields = .ok id) ↔
      ∀ field ∈ fields, Value.isPart field.toList text.toList = false := by
  induction fields with
  | nil => simp [fieldId]
  | cons field rest ih =>
      have hin : (Value.str field).pyIn (.str text) =
          .ok (Value.isPart field.toList text.toList) := rfl
      rw [List.forall_mem_cons, ← ih]
      cases hpart : Value.isPart field.toList text.toList with
      | true =>
          have hraises : fieldId (.str text) (field :: rest) =
              .error "string indices must be integers, not 'str'" := by
            rw [fieldId, hin, hpart]
            · rfl
            all_goals simp
          simp [hraises]
      | false =>
          have hnext : fieldId (.str text) (field :: rest) = fieldId (.str text) rest := by
            rw [fieldId, hin, hpart]
            · rfl
            all_goals simp
          simp [hnext]

theorem isPart_fields_iff (text : List Char) :
    (∀ field ∈ externalIdFields, Value.isPart field.toList text = false) ↔
      Value.isPart "id".toList text = false := by
  have hnames : ∀ field ∈ externalIdFields, "id".toList <:+: field.toList := by
    intro field hfield
    rw [← Value.isPart_iff]
    revert field
    decide
  constructor
  · intro h
    exact h "id" List.mem_cons_self
  · intro h field hfield
    refine eq_false_of_ne_true fun hpart => ?_
    have hid : Value.isPart "id".toList text = true :=
      Value.isPart_iff.mpr ((hnames field hfield).trans (Value.isPart_iff.mp hpart))
    rw [h] at hid
    cases hid

theorem extractExternalId_ok_iff (headers : Assoc String) (payload : Value) :
    (∃ id, extractExternalId headers payload = .ok id) ↔ Identifiable headers payload := by
  unfold extractExternalId Identifiable
  cases hheader : externalIdHeaders.findSome? headers.find with
  | some id => simp
  | none =>
      dsimp only
      rw [Option.isSome_none, or_iff_right Bool.false_ne_true]
      cases payload with
      | dict object => exact iff_of_true (fieldId_dict object _) trivial
      | list items => exact fieldId_list_iff items _
      | str text => exact (fieldId_str_iff text _).trans (isPart_fields_iff _)
      | null => simp [externalIdFields, fieldId, Value.pyIn, bind, Except.bind]
      | bool flag => simp [externalIdFields, fieldId, Value.pyIn, bind, Except.bind]
      | int number => simp [externalIdFields, fieldId, Value.pyIn, bind, Except.bind]
      | float number => simp [externalIdFields, fieldId, Value.pyIn, bind, Except.bind]

/-! ## Signatures -/

section Verification

variable {service : Service} {delivery : Delivery} {config : Dict}

theorem signature_ok_iff (service : Service) (delivery : Delivery) {header : Value} :
    (∃ signature, service.signature delivery header = .ok signature) ↔ ∃ name, header = .str name := by
  cases header with
  | str name => exact iff_of_true ⟨_, rfl⟩ ⟨name, rfl⟩
  | _ => simp [Service.signature, Value.hashable]

theorem secret_ok_iff (delivery : Delivery)
    (hvault : ∀ tenantId connector key, ∃ secret, service.retrieve tenantId connector key = .ok secret)
    {key : Value} :
    (∃ secret, service.secret delivery key = .ok secret) ↔ key = .null ∨ ∃ name, key = .str name := by
  cases key with
  | str name =>
      obtain ⟨secret, hsecret⟩ := hvault delivery.tenantId delivery.connectorName name
      refine iff_of_true ⟨nonempty secret, ?_⟩ (.inr ⟨name, rfl⟩)
      rw [Service.secret, hsecret]
      rfl
  | null => exact iff_of_true ⟨none, rfl⟩ (.inl rfl)
  | _ => simp [Service.secret]

theorem verifySignature_ok_iff {body : ByteArray} {signature secret : String} {algorithm : Value} :
    (∃ valid, service.verifySignature body signature secret algorithm = .ok valid) ↔
      Comparable service signature algorithm := by
  unfold Comparable
  cases algorithm with
  | str name =>
      unfold Service.verifySignature
      dsimp only
      cases hfound : algorithmOf (service.lower name) with
      | none => exact iff_of_true ⟨false, rfl⟩ ⟨name, rfl, fun hknown => absurd hfound hknown⟩
      | some found =>
          unfold compareDigest IsAscii
          dsimp only
          by_cases hascii :
              ((cleanSignature signature).toList.all fun letter => letter.toNat < 128) = true
          · rw [if_pos hascii]
            exact iff_of_true ⟨_, rfl⟩ ⟨name, rfl, fun _ => hascii⟩
          · rw [if_neg hascii]
            refine iff_of_false ?_ ?_
            · rintro ⟨valid, heq⟩
              cases heq
            · rintro ⟨other, heq, hall⟩
              obtain rfl := Value.str.inj heq
              exact hascii (hall (by simp [hfound]))
  | _ => simp [Service.verifySignature]

/-- When the verification of a signature does not raise. -/
theorem verify_ok_iff
    (hvault : ∀ tenantId connector key, ∃ secret, service.retrieve tenantId connector key = .ok secret) :
    (∃ sigValid, service.verify delivery config = .ok sigValid) ↔
      Verifiable service delivery config := by
  unfold Verifiable
  by_cases htruthy : (signatureHeader config).truthy = true
  · have htruthy' : ((Assoc.find config "signature_header").getD .null).truthy = true := htruthy
    rw [forall_prop_of_true htruthy]
    constructor
    · rintro ⟨sigValid, h⟩
      unfold Service.verify at h
      simp only [htruthy', if_true] at h
      obtain ⟨given, hgiven, h⟩ := bind_eq_ok.mp h
      obtain ⟨header, hheader⟩ := (signature_ok_iff service delivery).mp ⟨given, hgiven⟩
      refine ⟨header, hheader, fun signature hsignature => ?_⟩
      rw [← hheader] at hsignature
      obtain rfl := Except.ok.inj (hsignature.symm.trans hgiven)
      obtain ⟨stored, hstored, h⟩ := bind_eq_ok.mp h
      refine ⟨(secret_ok_iff delivery hvault).mp ⟨stored, hstored⟩, fun secret hsecret => ?_⟩
      obtain rfl := Except.ok.inj (hsecret.symm.trans hstored)
      obtain ⟨valid, hvalid, -⟩ := bind_eq_ok.mp h
      exact verifySignature_ok_iff.mp ⟨valid, hvalid⟩
    · rintro ⟨header, hheader, hgiven⟩
      obtain ⟨given, hsignature⟩ := (signature_ok_iff service delivery).mpr ⟨header, hheader⟩
      have hgiven' : given = none ∨ ∃ signature, given = some signature := by
        cases given <;> simp
      unfold Service.verify
      simp only [htruthy', if_true]
      rcases hgiven' with rfl | ⟨signature, rfl⟩
      · exact ⟨some false, bind_eq_ok.mpr ⟨none, hsignature, rfl⟩⟩
      · rw [hheader] at hsignature
        obtain ⟨hkey, hsecret⟩ := hgiven signature hsignature
        obtain ⟨stored, hstored⟩ := (secret_ok_iff delivery hvault).mpr hkey
        rw [← hheader] at hsignature
        cases stored with
        | none =>
            exact ⟨some false, bind_eq_ok.mpr ⟨_, hsignature, bind_eq_ok.mpr ⟨none, hstored, rfl⟩⟩⟩
        | some secret =>
            obtain ⟨valid, hvalid⟩ := verifySignature_ok_iff.mpr (hsecret secret hstored)
            exact ⟨some valid, bind_eq_ok.mpr ⟨_, hsignature, bind_eq_ok.mpr ⟨_, hstored,
              bind_eq_ok.mpr ⟨valid, hvalid, rfl⟩⟩⟩⟩
  · have hnone : service.verify delivery config = .ok none :=
      verify_of_not_truthy (eq_false_of_ne_true htruthy)
    rw [hnone]
    exact iff_of_true ⟨none, rfl⟩ fun h => absurd h htruthy

theorem eq_true_of_signed {sigValid : Option Bool}
    (htruthy : (signatureHeader config).truthy = true) (hsigned : Signed service delivery config)
    (h : service.verify delivery config = .ok sigValid) : sigValid = some true := by
  obtain ⟨signature, secret, name, algorithm, hgiven, hstored, hname, hfound, hdigest⟩ := hsigned
  unfold signatureHeader at htruthy
  unfold Service.verify at h
  simp only [htruthy, if_true] at h
  obtain ⟨given, hgiven', h⟩ := bind_eq_ok.mp h
  obtain rfl := Except.ok.inj (hgiven.symm.trans hgiven')
  obtain ⟨stored, hstored', h⟩ := bind_eq_ok.mp h
  obtain rfl := Except.ok.inj (hstored.symm.trans hstored')
  obtain ⟨valid, hvalid, h⟩ := bind_eq_ok.mp h
  obtain rfl : some valid = sigValid := Except.ok.inj h
  simp only [hname, Service.verifySignature, hfound, hdigest, compareDigest] at hvalid
  split at hvalid
  · obtain rfl := Except.ok.inj hvalid
    rw [beq_self_eq_true]
  · cases hvalid

/-! ## Deliveries -/

theorem ingestWebhook_ok_iff (intake : Intake) :
    (∃ answer, service.ingestWebhook delivery intake = .ok answer) ↔
      ∃ examined, service.examine delivery = .ok examined := by
  constructor
  · rintro ⟨answer, h⟩
    obtain ⟨examined, hexamined, -⟩ := bind_eq_ok.mp h
    exact ⟨examined, hexamined⟩
  · rintro ⟨examined, hexamined⟩
    unfold Service.ingestWebhook
    rw [hexamined]
    cases examined <;> exact ⟨_, rfl⟩

/-- When a delivery whose body is JSON is examined without an exception. -/
theorem examine_ok_iff
    (hvault : ∀ tenantId connector key, ∃ secret, service.retrieve tenantId connector key = .ok secret)
    {payload : Value} (hloads : service.loads delivery.body = some payload) :
    (∃ examined, service.examine delivery = .ok examined) ↔
      (((service.webhookConfig delivery).getD .null).truthy = true →
          ∃ config, (service.webhookConfig delivery).getD .null = .dict config ∧
            Verifiable service delivery config) ∧
        (Admitted service delivery → Identifiable delivery.headers payload) := by
  unfold Service.examine Admitted
  simp only [hloads]
  by_cases htruthy : ((service.webhookConfig delivery).getD .null).truthy = true
  · simp only [htruthy, if_true, forall_const]
    cases hentry : (service.webhookConfig delivery).getD .null with
    | dict config =>
        simp only [Value.dict.injEq, exists_eq_left']
        rw [← verify_ok_iff hvault]
        constructor
        · rintro ⟨examined, h⟩
          obtain ⟨sigValid, hverify, h⟩ := bind_eq_ok.mp h
          refine ⟨⟨sigValid, hverify⟩, fun hsigned => ?_⟩
          -- An admitted delivery is not rejected by the verification.
          have hvalid : sigValid ≠ some false := by
            intro hinvalid
            by_cases hheader : (signatureHeader config).truthy = true
            · have htrue := eq_true_of_signed hheader (hsigned hheader) hverify
              rw [hinvalid] at htrue
              cases htrue
            · rw [verify_of_not_truthy (eq_false_of_ne_true hheader)] at hverify
              obtain rfl := Except.ok.inj hverify
              cases hinvalid
          rw [if_neg hvalid] at h
          obtain ⟨id, hid, -⟩ := bind_eq_ok.mp h
          exact (extractExternalId_ok_iff _ _).mp ⟨id, hid⟩
        · rintro ⟨⟨sigValid, hverify⟩, hid⟩
          rw [hverify]
          by_cases hinvalid : sigValid = some false
          · exact ⟨_, if_pos hinvalid⟩
          · have hsigned : (signatureHeader config).truthy = true → Signed service delivery config :=
              fun hheader => ((verify_of_truthy hheader hverify).resolve_left hinvalid).2
            obtain ⟨id, hfound⟩ := (extractExternalId_ok_iff _ _).mpr (hid hsigned)
            refine ⟨.passed payload sigValid id, ?_⟩
            show (if sigValid = some false then _ else
              extractExternalId delivery.headers payload >>= _) = _
            rw [if_neg hinvalid, hfound]
            rfl
    | _ => simp [throw, throwThe, MonadExceptOf.throw]
  · have hfalse := eq_false_of_ne_true htruthy
    simp only [hfalse, Bool.false_eq_true, if_false, false_imp_iff, true_and]
    by_cases hrequire : delivery.requireSignature = true
    · simp [hrequire, pure, Except.pure]
    · rw [if_neg hrequire, eq_false_of_ne_true hrequire, forall_prop_of_true rfl,
        ← extractExternalId_ok_iff]
      constructor
      · rintro ⟨examined, h⟩
        obtain ⟨id, hid, -⟩ := bind_eq_ok.mp h
        exact ⟨id, hid⟩
      · rintro ⟨id, hid⟩
        rw [hid]
        exact ⟨_, rfl⟩

end Verification

/-- When the vault does not fail, a delivery is answered exactly if it is no JSON, or its entry in the
manifest can be read, a signature that is compared is ASCII, and a payload that is not rejected is one
in which an id can be looked for. -/
theorem answered_iff (loads : Loads) (service : Service)
    (hvault : ∀ tenantId connector key, ∃ secret, service.retrieve tenantId connector key = .ok secret)
    (delivery : Delivery) (intake : Intake) :
    (∃ answer, ingestBody loads service delivery intake = .ok answer) ↔
      Answerable loads service delivery := by
  unfold ingestBody Answerable
  cases hloads : loads delivery.body with
  | error error =>
      cases error with
      | raises message => simp
      | invalid =>
          refine iff_of_true ((ingestWebhook_ok_iff intake).mpr ?_) trivial
          unfold Service.examine
          simp only [hloads, Except.toOption]
          exact ⟨_, rfl⟩
  | ok payload =>
      dsimp only
      rw [ingestWebhook_ok_iff]
      have hsome : (loads delivery.body).toOption = some payload := by
        rw [hloads]
        rfl
      exact @examine_ok_iff { service with loads := fun body => (loads body).toOption } delivery hvault
        payload hsome

/-! ## Samples -/

/-- A service for a connector whose deliveries are signed. -/
def signing : Service where
  webhooks _ := some [("order.created", .dict [("signature_header", .str "X-Signature")])]
  retrieve _ _ _ := .ok (some "secret")
  hexdigest _ _ _ := "0a"
  loads _ := none
  lower name := name

/-- A delivery with this signature. -/
def signedBy (signature : String) : Delivery :=
  { forged with headers := [("X-Signature", signature)] }

/-- A delivery of a list with the HMAC of its body is answered. -/
theorem signed_list_answered :
    ∃ answer, ingestBody (fun _ => .ok (.list [.int 7])) signing (signedBy "sha256=0a") .empty =
      .ok answer := by
  refine (answered_iff _ signing (fun _ _ _ => ⟨_, rfl⟩) _ _).mpr ⟨fun _ => ⟨_, rfl, fun _ => ?_⟩,
    fun _ => .inr ?_⟩
  · refine ⟨"X-Signature", rfl, fun signature hsignature => ?_⟩
    have hgiven : signing.signature (signedBy "sha256=0a") (.str "X-Signature") =
        .ok (some "sha256=0a") := by decide +kernel
    obtain rfl := Option.some.inj (Except.ok.inj (hgiven.symm.trans hsignature))
    refine ⟨.inr ⟨"webhook_secret", rfl⟩, fun _ _ => ⟨"hmac-sha256", rfl, fun _ => ?_⟩⟩
    unfold IsAscii
    decide +kernel
  · intro field hfield
    simp

/-- A body that is `null` raises, and so does a signature that is not ASCII. -/
theorem delivery_raises :
    (¬ ∃ answer, ingestBody (fun _ => .ok .null) describedOnly forged .empty = .ok answer) ∧
      ¬ ∃ answer, ingestBody (fun _ => .ok (.dict [])) signing (signedBy "é") .empty = .ok answer := by
  have hnull : ingestBody (fun _ => .ok .null) describedOnly forged .empty =
      .error "argument of type 'NoneType' is not iterable" := rfl
  have hsignature : ingestBody (fun _ => .ok (.dict [])) signing (signedBy "é") .empty =
      .error "comparing strings with non-ASCII characters is not supported" := rfl
  rw [hnull, hsignature]
  refine ⟨?_, ?_⟩
  · rintro ⟨answer, h⟩
    cases h
  · rintro ⟨answer, h⟩
    cases h

end Webhooks

end IntegrationPlatform
