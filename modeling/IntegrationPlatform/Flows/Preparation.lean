import IntegrationPlatform.Flows.ActionDispatch

/-!
# Payloads that are prepared again

The credentials are the same at every attempt, and each field is coerced by itself: `iterate_prepare`
says what the payload is after some attempts.
-/

namespace IntegrationPlatform

namespace Flows

/-! ## What an attempt sets, and what it coerces -/

/-- The fields that the credentials set each time. -/
def CredentialProvisioning.assigned (credentials : Assoc String) : CredentialProvisioning → Dict
  | .account payloadField =>
      [(payloadField.getD "account_name", .str (accountName credentials))]
  | .inject credentialMapping =>
      credentialMapping.filterMap fun entry =>
        (credentials.find (entry.2.source entry.1)).map fun value => (entry.1, .str value)
  | .injectNested injectKey credentialMapping =>
      [(injectKey.getD "credentials", .dict (credentialMapping.map fun entry =>
        (entry.1, entry.2.nested credentials entry.1)))]
  | .none => []

/-- The field that the credentials set unless it is there. -/
def CredentialProvisioning.defaulted (credentials : Assoc String) :
    CredentialProvisioning → Option (String × Value)
  | .inject credentialMapping =>
      some ("credentials", .dict (credentialMapping.map fun entry =>
        (entry.1, .str ((credentials.find (entry.2.source entry.1)).getD ""))))
  | .none => some ("account_name", .str (accountName credentials))
  | _ => Option.none

/-- The changes of a list field and of an enum field are for this field only. -/
def coerceField (texts : DispatchTexts) (hints : PayloadHints) (action key : String) (value : Value) :
    Value :=
  let value := ((hints.listFields.find action).getD []).foldl
    (fun value field => if field = key then coerceList texts value else value) value
  ((hints.enumFields.find action).getD []).foldl
    (fun value field => if field.1 = key then field.2.coerce texts value else value) value

section Fields

variable {credentials : Assoc String} {payload : Dict} {key : String}

theorem find_setDefault (payload : Dict) (key key' : String) (value : Value) :
    (setDefault payload key value).find key' =
      if key = key' then some ((payload.find key').getD value) else payload.find key' := by
  unfold setDefault
  split
  · next hhas =>
    by_cases hkey : key = key'
    · obtain ⟨found, hfound⟩ := Option.isSome_iff_exists.mp hhas
      rw [if_pos hkey, ← hkey, hfound]
      rfl
    · rw [if_neg hkey]
  · next hhas =>
    rw [Assoc.find_put]
    by_cases hkey : key = key'
    · rw [if_pos hkey, if_pos hkey, ← hkey, Option.not_isSome_iff_eq_none.mp hhas]
      rfl
    · rw [if_neg hkey, if_neg hkey]

theorem mem_keys_setDefault (payload : Dict) (key key' : String) (value : Value) :
    key' ∈ (setDefault payload key value).map Prod.fst ↔
      key' = key ∨ key' ∈ payload.map Prod.fst := by
  unfold setDefault
  split
  · next hhas =>
    refine ⟨Or.inr, ?_⟩
    rintro (rfl | hmem)
    · exact Assoc.has_iff.mp hhas
    · exact hmem
  · exact Assoc.mem_keys_put payload key key' value

theorem provisionCredentials_eq (credentials : Assoc String) (payload : Dict)
    (provisioning : CredentialProvisioning) :
    provisionCredentials credentials payload provisioning =
      match provisioning.defaulted credentials with
      | some field =>
          setDefault (Assoc.merge payload (provisioning.assigned credentials)) field.1 field.2
      | none => Assoc.merge payload (provisioning.assigned credentials) := by
  cases provisioning with
  | account payloadField => rfl
  | injectNested injectKey credentialMapping => rfl
  | none => rfl
  | inject credentialMapping =>
      have hfold : credentialMapping.foldl (injectField credentials) payload =
          Assoc.merge payload
            ((CredentialProvisioning.inject credentialMapping).assigned credentials) := by
        unfold Assoc.merge CredentialProvisioning.assigned
        rw [List.foldl_filterMap]
        congr 1
        funext payload entry
        unfold injectField
        cases credentials.find (entry.2.source entry.1) <;> rfl
      show setDefault _ _ _ = setDefault _ _ _
      rw [hfold]

theorem mem_keys_provisionCredentials (credentials : Assoc String) (payload : Dict)
    (provisioning : CredentialProvisioning) (key : String) :
    key ∈ (provisionCredentials credentials payload provisioning).map Prod.fst ↔
      key ∈ payload.map Prod.fst ∨ key ∈ (provisioning.assigned credentials).map Prod.fst ∨
        ∃ value, provisioning.defaulted credentials = some (key, value) := by
  rw [provisionCredentials_eq]
  cases hdefaulted : provisioning.defaulted credentials with
  | none => simp [Assoc.mem_keys_merge]
  | some field =>
      rw [mem_keys_setDefault, Assoc.mem_keys_merge]
      constructor
      · rintro (rfl | hpayload | hassigned)
        · exact .inr (.inr ⟨field.2, rfl⟩)
        · exact .inl hpayload
        · exact .inr (.inl hassigned)
      · rintro (hpayload | hassigned | ⟨value, heq⟩)
        · exact .inr (.inl hpayload)
        · exact .inr (.inr hassigned)
        · exact .inl (congrArg Prod.fst (Option.some.inj heq)).symm

variable {provisioning : CredentialProvisioning}

theorem keys_provisionCredentials (hassigned : ∀ key ∈ (provisioning.assigned credentials).map Prod.fst,
      key ∈ payload.map Prod.fst)
    (hdefaulted : ∀ field, provisioning.defaulted credentials = some field →
      field.1 ∈ payload.map Prod.fst) :
    (provisionCredentials credentials payload provisioning).map Prod.fst =
      payload.map Prod.fst := by
  rw [provisionCredentials_eq]
  cases hfield : provisioning.defaulted credentials with
  | none => exact Assoc.keys_merge hassigned
  | some field =>
      have hhas : (Assoc.merge payload (provisioning.assigned credentials)).has field.1 = true :=
        Assoc.has_iff.mpr ((Assoc.mem_keys_merge _ _ _).mpr (.inl (hdefaulted field hfield)))
      show (setDefault _ _ _).map Prod.fst = _
      rw [setDefault, if_pos hhas]
      exact Assoc.keys_merge hassigned

theorem nodup_provisionCredentials (h : (payload.map Prod.fst).Nodup)
    (provisioning : CredentialProvisioning) :
    ((provisionCredentials credentials payload provisioning).map Prod.fst).Nodup := by
  rw [provisionCredentials_eq]
  have hmerge := Assoc.nodup_merge h (provisioning.assigned credentials)
  cases provisioning.defaulted credentials with
  | none => exact hmerge
  | some field =>
      show ((setDefault _ _ _).map Prod.fst).Nodup
      unfold setDefault
      split
      · exact hmerge
      · exact Assoc.nodup_put hmerge _ _

theorem find_provisionCredentials_assigned
    (payload payload' : Dict) (hkey : key ∈ (provisioning.assigned credentials).map Prod.fst) :
    (provisionCredentials credentials payload provisioning).find key =
      (provisionCredentials credentials payload' provisioning).find key := by
  have hmerge := Assoc.find_merge_right payload payload' hkey
  rw [provisionCredentials_eq, provisionCredentials_eq]
  cases provisioning.defaulted credentials with
  | none => exact hmerge
  | some field =>
      show (setDefault _ _ _).find key = (setDefault _ _ _).find key
      rw [find_setDefault, find_setDefault, hmerge]

theorem find_provisionCredentials_other (hkey : key ∉ (provisioning.assigned credentials).map Prod.fst)
    (hpayload : key ∈ payload.map Prod.fst) :
    (provisionCredentials credentials payload provisioning).find key = payload.find key := by
  rw [provisionCredentials_eq]
  cases provisioning.defaulted credentials with
  | none => exact Assoc.find_merge_left hkey
  | some field =>
      show (setDefault _ _ _).find key = _
      rw [find_setDefault, Assoc.find_merge_left hkey]
      obtain ⟨value, hvalue⟩ := Option.isSome_iff_exists.mp (Assoc.has_iff.mpr hpayload)
      rw [hvalue]
      split <;> rfl

/-- Fields whose values have been changed get their credentials again, and no other changes. -/
theorem provisionCredentials_map (h : (payload.map Prod.fst).Nodup)
    (provisioning : CredentialProvisioning) (change : String → Value → Value) :
    provisionCredentials credentials
        ((provisionCredentials credentials payload provisioning).map fun field =>
          (field.1, change field.1 field.2)) provisioning =
      (provisionCredentials credentials payload provisioning).map fun field =>
        (field.1, if field.1 ∈ (provisioning.assigned credentials).map Prod.fst then field.2
          else change field.1 field.2) := by
  have hnodup : ((provisionCredentials credentials payload provisioning).map Prod.fst).Nodup :=
    nodup_provisionCredentials h provisioning
  have hmem := mem_keys_provisionCredentials credentials payload provisioning
  set provisioned := provisionCredentials credentials payload provisioning
  set changed := provisioned.map fun field => (field.1, change field.1 field.2) with hchanged
  have hchangedKeys : changed.map Prod.fst = provisioned.map Prod.fst := by
    rw [hchanged, List.map_map]
    rfl
  have hkeys : (provisionCredentials credentials changed provisioning).map Prod.fst =
      provisioned.map Prod.fst := by
    rw [keys_provisionCredentials, hchangedKeys]
    · exact fun key hkey => hchangedKeys ▸ (hmem key).mpr (.inr (.inl hkey))
    · exact fun field hfield =>
        hchangedKeys ▸ (hmem field.1).mpr (.inr (.inr ⟨field.2, hfield⟩))
  refine Assoc.ext_find ?_ (hkeys ▸ hnodup) fun key => ?_
  · rw [hkeys, List.map_map]
    rfl
  · rw [Assoc.find_map provisioned fun key value =>
      if key ∈ (provisioning.assigned credentials).map Prod.fst then value else change key value]
    by_cases hassigned : key ∈ (provisioning.assigned credentials).map Prod.fst
    · simp only [hassigned, if_true, Option.map_id']
      exact find_provisionCredentials_assigned changed payload hassigned
    · simp only [hassigned, if_false]
      by_cases hkey : key ∈ provisioned.map Prod.fst
      · rw [find_provisionCredentials_other hassigned (hchangedKeys ▸ hkey), hchanged,
          Assoc.find_map]
      · rw [Assoc.find_eq_none (hkeys ▸ hkey), Assoc.find_eq_none hkey]
        rfl

theorem coercePayload_eq (texts : DispatchTexts) (hints : PayloadHints) (action : String)
    (hkeys : (payload.map Prod.fst).Nodup) :
    coercePayload texts hints action payload =
      payload.map fun field => (field.1, coerceField texts hints action field.1 field.2) := by
  have hsame : (coercePayload texts hints action payload).map Prod.fst = payload.map Prod.fst := by
    unfold coercePayload
    rw [Assoc.keys_foldl_update, Assoc.keys_foldl_update]
  refine Assoc.ext_find ?_ (hsame ▸ hkeys) fun key => ?_
  · rw [hsame, List.map_map]
    rfl
  · rw [Assoc.find_map]
    unfold coercePayload coerceField
    rw [Assoc.find_foldl_update, Assoc.find_foldl_update, Option.map_map]
    rfl

end Fields

namespace Dispatcher

variable (dispatcher : Dispatcher) (call : DispatchCall)

/-- The credentials set this field each time. -/
def resets (key : String) : Prop :=
  match dispatcher.provisioning call with
  | some (credentials, provisioning) =>
      key ∈ (provisioning.assigned credentials).map Prod.fst
  | none => False

instance (key : String) : Decidable (dispatcher.resets call key) := by
  unfold resets
  split <;> infer_instance

/-- A field, coerced. -/
def coerced (key : String) (value : Value) : Value :=
  coerceField dispatcher.texts (dispatcher.hints call) call.action key value

/-- What an attempt, counted from zero, has under a field that has this value with the credentials: it
has been coerced once more at each attempt, unless the credentials set it each time. -/
def valueAt (attempt : Nat) (key : String) (value : Value) : Value :=
  if dispatcher.resets call key then dispatcher.coerced call key value
  else (dispatcher.coerced call key)^[attempt + 1] value

/-- What an attempt makes its request of. -/
def payloadAt (payload : Dict) (attempt : Nat) : Dict :=
  (dispatcher.provision call payload).map fun field =>
    (field.1, dispatcher.valueAt call attempt field.1 field.2)

variable {dispatcher call} {payload : Dict}

theorem nodup_provision (h : (payload.map Prod.fst).Nodup) :
    ((dispatcher.provision call payload).map Prod.fst).Nodup := by
  unfold provision
  split
  · exact nodup_provisionCredentials h _
  · exact h

theorem keys_payloadAt (payload : Dict) (attempt : Nat) :
    (dispatcher.payloadAt call payload attempt).map Prod.fst =
      (dispatcher.provision call payload).map Prod.fst := by
  unfold payloadAt
  rw [List.map_map]
  rfl

theorem provision_map (dispatcher : Dispatcher) (call : DispatchCall)
    (h : (payload.map Prod.fst).Nodup) (change : String → Value → Value) :
    dispatcher.provision call
        ((dispatcher.provision call payload).map fun field => (field.1, change field.1 field.2)) =
      (dispatcher.provision call payload).map fun field =>
        (field.1, if dispatcher.resets call field.1 then field.2 else change field.1 field.2) := by
  cases hprovisioning : dispatcher.provisioning call with
  | none => simp only [provision, resets, hprovisioning, if_false]
  | some entry =>
      simp only [provision, resets, hprovisioning]
      exact provisionCredentials_map h entry.2 change

theorem prepare_payload (h : (payload.map Prod.fst).Nodup) :
    dispatcher.prepare call payload = dispatcher.payloadAt call payload 0 := by
  unfold prepare payloadAt
  rw [coercePayload_eq _ _ _ (nodup_provision h)]
  refine List.map_congr_left fun field _ => ?_
  unfold valueAt
  split <;> rfl

theorem prepare_payloadAt (h : (payload.map Prod.fst).Nodup) (attempt : Nat) :
    dispatcher.prepare call (dispatcher.payloadAt call payload attempt) =
      dispatcher.payloadAt call payload (attempt + 1) := by
  have hprovision := provision_map dispatcher call h (dispatcher.valueAt call attempt)
  have hkeys : ((dispatcher.provision call (dispatcher.payloadAt call payload attempt)).map
      Prod.fst).Nodup :=
    nodup_provision (keys_payloadAt payload attempt ▸ nodup_provision h)
  unfold prepare
  rw [coercePayload_eq _ _ _ hkeys]
  unfold payloadAt at hprovision ⊢
  rw [hprovision, List.map_map]
  refine List.map_congr_left fun field _ => ?_
  refine Prod.ext rfl ?_
  show dispatcher.coerced call field.1 (if _ then _ else _) = _
  unfold valueAt
  by_cases hresets : dispatcher.resets call field.1
  · rw [if_pos hresets, if_pos hresets]
  · rw [if_neg hresets, if_neg hresets, if_neg hresets]
    exact (Function.iterate_succ_apply' _ _ _).symm

theorem iterate_prepare (h : (payload.map Prod.fst).Nodup) (attempt : Nat) :
    (dispatcher.prepare call)^[attempt + 1] payload = dispatcher.payloadAt call payload attempt := by
  induction attempt with
  | zero => exact prepare_payload h
  | succ attempt ih => rw [Function.iterate_succ_apply', ih, prepare_payloadAt h]

end Dispatcher

end Flows

end IntegrationPlatform
