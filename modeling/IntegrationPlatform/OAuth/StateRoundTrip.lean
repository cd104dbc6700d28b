import IntegrationPlatform.OAuth.ConfigTemplates
import IntegrationPlatform.OAuth.States
import IntegrationPlatform.OAuth.Tokens
import Mathlib.Data.List.TakeDrop
import Mathlib.Data.List.TakeWhile

/-!
# What the state of an authorization says

The state that `generate_authorization_url` issues is made of the tenant, the connector, the credential
name and a token, with colons between them, and `oauth2_callback` splits it at the first three colons.
`callback_stores_iff` says for which names the callback stores the token where the authorization was
asked for.
-/

namespace IntegrationPlatform

namespace OAuth

open Gateway (CredentialSet)

/-! ## Splitting -/

/-- `text.split(":", most)`. -/
def splitColons : Nat → List Char → List (List Char)
  | 0, text => [text]
  | most + 1, text =>
      match text.span (· ≠ ':') with
      | (part, []) => [part]
      | (part, _ :: rest) => part :: splitColons most rest

theorem splitColons_append {part : List Char} (h : ':' ∉ part) (most : Nat) (rest : List Char) :
    splitColons (most + 1) (part ++ ':' :: rest) = part :: splitColons most rest := by
  have hpart : ∀ letter ∈ part, decide (letter ≠ ':') = true := by
    intro letter hletter
    refine decide_eq_true fun heq => ?_
    exact h (heq ▸ hletter)
  rw [splitColons, List.span_eq_takeWhile_dropWhile, List.takeWhile_append_of_pos hpart,
    List.dropWhile_append_of_pos hpart]
  simp

theorem colonless_of_splitColons {most index : Nat} (hindex : index < most) {text part : List Char}
    (h : (splitColons most text)[index]? = some part) : ':' ∉ part := by
  induction most generalizing index text with
  | zero => omega
  | succ most ih =>
      have htake : ':' ∉ text.takeWhile (· ≠ ':') := by
        intro hmem
        have hne := List.mem_takeWhile_imp hmem
        exact absurd rfl (of_decide_eq_true hne)
      rw [splitColons, List.span_eq_takeWhile_dropWhile] at h
      cases hrest : text.dropWhile (· ≠ ':') with
      | nil =>
          rw [hrest] at h
          cases index with
          | zero =>
              obtain rfl := Option.some.inj h
              exact htake
          | succ index => cases h
      | cons colon rest =>
          rw [hrest] at h
          cases index with
          | zero =>
              obtain rfl := Option.some.inj h
              exact htake
          | succ index => exact ih (by omega) h

/-! ## Authorizations and callbacks -/

/-- Tenant ids, as `uuid.UUID` has them. -/
structure TenantIds (U : Type) where
  /-- `str(tenant_id)`. -/
  str : U → String
  /-- `uuid.UUID(text)`, unless it raises a `ValueError`. -/
  parse : String → Option U
  parse_str : ∀ id, parse (str id) = some id
  colonless : ∀ id, ':' ∉ (str id).toList

/-- What authorizations and callbacks are answered from. -/
structure Platform (U : Type) where
  ids : TenantIds U
  formats : ConfigFormats
  /-- The OAuth2 configuration of the first manifest of a connector, if there is a manifest. -/
  oauth2Config : String → Option Dict
  /-- `retrieve_all` of the vault, by the tenant, the connector and the credential name. -/
  retrieveAll : U → String → String → CredentialSet
  /-- The reply of a provider to a request for a token, or what raises. -/
  post : Value → Dict → Except String TokenData
  callbackUrl : String

/-- Why an authorization or a callback is refused. -/
inductive Refusal where
  | invalidState
  | invalidTenant
  | expiredState
  | unknownConnector
  | noOAuth2
  | unresolved (error : ResolveError)
  | raises (message : String)

/-- `" ".join(value)` does not raise. -/
def joins : Value → Bool
  | .str _ => true
  | .dict _ => true
  | .list items => items.all fun item => match item with
    | .str _ => true
    | _ => false
  | _ => false

/-- What the token is stored for, and the configuration that it was requested with. -/
structure StoredToken (U : Type) where
  tenantId : U
  connectorName : String
  credentialName : String
  config : Dict
  data : TokenData

section Flow

variable {U : Type} (platform : Platform U)

/-- `state`. -/
def stateOf (tenantId : U) (connectorName credentialName token : String) : String :=
  platform.ids.str tenantId ++ ":" ++ connectorName ++ ":" ++ credentialName ++ ":" ++ token

/-- The configuration of a connector with the credentials of a set. -/
def merged (config : Dict) (tenantId : U) (connectorName credentialName : String) : Dict :=
  mergedConfig config (platform.retrieveAll tenantId connectorName credentialName)

/-- The OAuth2 configuration of a connector, or the answer if there is none. -/
def configOf (connectorName : String) : Except Refusal Dict :=
  match platform.oauth2Config connectorName with
  | none => .error .unknownConnector
  | some config => if config.isEmpty then .error .noOAuth2 else .ok config

/-- `oauth2_authorize`, with the random texts that it uses: the state, and the keys after it. -/
def oauth2Authorize (redis : Redis) (now : Rat) (token codeVerifier : String) (tenantId : U)
    (connectorName credentialName : String) : Except Refusal (String × Redis) :=
  match configOf platform connectorName with
  | .error refusal => .error refusal
  | .ok config =>
      match resolveOauth2Config platform.formats
          (merged platform config tenantId connectorName credentialName) with
      | .error error => .error (.unresolved error)
      | .ok resolved =>
          let scopes := (Assoc.find resolved "scopes").getD (.list [])
          if !Assoc.has resolved "authorization_url" then .error (.raises "'authorization_url'")
          else if scopes.truthy && !joins scopes then .error (.raises "can only join an iterable")
          else
            let state := stateOf platform tenantId connectorName credentialName token
            let pkce := ((Assoc.find resolved "pkce").getD .null).truthy
            .ok (state, generateAuthorizationUrl redis now state (if pkce then some codeVerifier else none))

/-- `exchange_code`, up to the reply of the provider. -/
def exchangeCode (config : Dict) (code : String) (codeVerifier : Option String) :
    Except Refusal TokenData :=
  match resolveOauth2Config platform.formats config with
  | .error error => .error (.unresolved error)
  | .ok resolved =>
      match Assoc.find resolved "token_url" with
      | none => .error (.raises "'token_url'")
      | some tokenUrl =>
          let clientSecret := (Assoc.find resolved "client_secret").getD (.str "")
          let body : Dict :=
            [("grant_type", .str "authorization_code"), ("code", .str code),
              ("redirect_uri", .str platform.callbackUrl),
              ("client_id", (Assoc.find resolved "client_id").getD (.str ""))] ++
            (if clientSecret.truthy then [("client_secret", clientSecret)] else []) ++
            ((nonempty codeVerifier).map fun verifier => ("code_verifier", Value.str verifier)).toList
          match platform.post tokenUrl body with
          | .error message => .error (.raises message)
          | .ok data => .ok data

/-- The part of `oauth2_callback` after the state has been consumed. -/
def exchangeFor (redis : Redis) (now : Rat) (code state : String) (tenantId : U)
    (connectorName credentialName : String) : Except Refusal (StoredToken U) :=
  match configOf platform connectorName with
  | .error refusal => .error refusal
  | .ok config =>
      let config := merged platform config tenantId connectorName credentialName
      match exchangeCode platform config code (retrieveCodeVerifier redis now state).1 with
      | .error refusal => .error refusal
      | .ok data => .ok ⟨tenantId, connectorName, credentialName, config, data⟩

/-- `oauth2_callback`: what it stores. -/
def oauth2Callback (redis : Redis) (now : Rat) (code state : String) : Except Refusal (StoredToken U) :=
  match splitColons 3 state.toList with
  | tenant :: connector :: credential :: _ =>
      match platform.ids.parse (String.ofList tenant) with
      | none => .error .invalidTenant
      | some tenantId =>
          let consumed := validateAndConsumeState redis now state
          if consumed.1 then
            exchangeFor platform consumed.2 now code state tenantId (String.ofList connector)
              (String.ofList credential)
          else .error .expiredState
  | _ => .error .invalidState

/-- The callback stores the token for exactly these, and with the credentials of exactly this set. -/
def StoresFor (tenantId : U) (connectorName credentialName : String)
    (answer : Except Refusal (StoredToken U)) : Prop :=
  ∃ config data, platform.oauth2Config connectorName = some config ∧
    answer = .ok ⟨tenantId, connectorName, credentialName,
      merged platform config tenantId connectorName credentialName, data⟩

variable {platform} {redis redis' : Redis} {now later : Rat} {token codeVerifier state : String}
  {tenantId : U} {connectorName credentialName : String}

theorem eq_stateOf_of_authorize
    (h : oauth2Authorize platform redis now token codeVerifier tenantId connectorName credentialName =
      .ok (state, redis')) : state = stateOf platform tenantId connectorName credentialName token := by
  unfold oauth2Authorize at h
  split at h
  · cases h
  · split at h
    · cases h
    · dsimp only at h
      split at h
      · cases h
      · split at h
        · cases h
        · exact (congrArg Prod.fst (Except.ok.inj h)).symm

theorem validate_of_authorize
    (h : oauth2Authorize platform redis now token codeVerifier tenantId connectorName credentialName =
      .ok (state, redis')) (hlater : later < now + stateTtl) :
    (validateAndConsumeState redis' later state).1 = true := by
  have hkept : ∃ redis verifier, redis' = generateAuthorizationUrl redis now state verifier := by
    unfold oauth2Authorize at h
    split at h
    · cases h
    · split at h
      · cases h
      · dsimp only at h
        split at h
        · cases h
        · split at h
          · cases h
          · obtain ⟨rfl, rfl⟩ := Prod.mk.inj (Except.ok.inj h)
            exact ⟨_, _, rfl⟩
  obtain ⟨before, verifier, rfl⟩ := hkept
  have hget : (generateAuthorizationUrl before now state verifier).get later (stateKey state) = some "1" := by
    unfold generateAuthorizationUrl
    exact Expiring.get_of_lt Expiring.set_self hlater
  unfold validateAndConsumeState
  rw [hget]
  rfl

theorem oauth2Callback_eq {tenantId : U} {connector credential : List Char} {rest : List (List Char)}
    {code : String}
    (hparts : splitColons 3 state.toList =
      (platform.ids.str tenantId).toList :: connector :: credential :: rest)
    (hvalid : (validateAndConsumeState redis now state).1 = true) :
    oauth2Callback platform redis now code state =
      exchangeFor platform (validateAndConsumeState redis now state).2 now code state tenantId
        (String.ofList connector) (String.ofList credential) := by
  unfold oauth2Callback
  simp only [hparts, String.ofList_toList, platform.ids.parse_str, hvalid, if_true]

theorem splitColons_stateOf (hconnector : ':' ∉ connectorName.toList)
    (hcredential : ':' ∉ credentialName.toList) :
    splitColons 3 (stateOf platform tenantId connectorName credentialName token).toList =
      [(platform.ids.str tenantId).toList, connectorName.toList, credentialName.toList, token.toList] := by
  have hlist : (stateOf platform tenantId connectorName credentialName token).toList =
      (platform.ids.str tenantId).toList ++ ':' :: (connectorName.toList ++ ':' ::
        (credentialName.toList ++ ':' :: token.toList)) := by
    simp [stateOf]
  rw [hlist, splitColons_append (platform.ids.colonless tenantId), splitColons_append hconnector,
    splitColons_append hcredential]
  rfl

theorem colonless_of_callback {code : String} {stored : StoredToken U}
    (h : oauth2Callback platform redis now code state = .ok stored) :
    ':' ∉ stored.connectorName.toList ∧ ':' ∉ stored.credentialName.toList := by
  unfold oauth2Callback at h
  split at h
  · next tenant connector credential rest hsplit =>
    have hconnector : ':' ∉ connector :=
      @colonless_of_splitColons 3 1 (by decide) state.toList connector (by rw [hsplit]; rfl)
    have hcredential : ':' ∉ credential :=
      @colonless_of_splitColons 3 2 (by decide) state.toList credential (by rw [hsplit]; rfl)
    split at h
    · cases h
    · dsimp only at h
      split at h
      · unfold exchangeFor at h
        split at h
        · cases h
        · dsimp only at h
          split at h
          · cases h
          · obtain rfl := Except.ok.inj h
            exact ⟨by rw [String.toList_ofList]; exact hconnector,
              by rw [String.toList_ofList]; exact hcredential⟩
      · cases h
  · cases h

end Flow

theorem oauth2Config_of_configOf {U : Type} {platform : Platform U} {connectorName : String} {config : Dict}
    (h : configOf platform connectorName = .ok config) : platform.oauth2Config connectorName = some config := by
  unfold configOf at h
  split at h
  · cases h
  · next found heq =>
    split at h
    · cases h
    · rw [heq, Except.ok.inj h]

/-- Without colons in the names, the callback reads back what has been authorized. -/
theorem oauth2Callback_of_colonless {U : Type} {platform : Platform U} {redis redis' store : Redis}
    {now later : Rat} {token codeVerifier state : String} {tenantId : U}
    {connectorName credentialName : String}
    (hissued : oauth2Authorize platform redis now token codeVerifier tenantId connectorName
      credentialName = .ok (state, redis'))
    (hvalid : (validateAndConsumeState store later state).1 = true) (code : String)
    (hconnector : ':' ∉ connectorName.toList) (hcredential : ':' ∉ credentialName.toList) :
    oauth2Callback platform store later code state =
      exchangeFor platform (validateAndConsumeState store later state).2 later code state tenantId
        connectorName credentialName := by
  have hstate := eq_stateOf_of_authorize hissued
  have hparts : splitColons 3 state.toList = [(platform.ids.str tenantId).toList,
      connectorName.toList, credentialName.toList, token.toList] := by
    rw [hstate]
    exact splitColons_stateOf hconnector hcredential
  rw [oauth2Callback_eq hparts hvalid, String.ofList_toList, String.ofList_toList]

/-- The callback that receives the state of an authorization while it is valid, and whose exchange with
the credentials of the set would succeed, stores the token for the tenant, the connector and the
credential name of the authorization exactly if neither name has a colon. -/
theorem callback_stores_iff {U : Type} {platform : Platform U} {redis redis' store : Redis}
    {now later : Rat} {token codeVerifier state : String} {tenantId : U}
    {connectorName credentialName : String}
    (hissued : oauth2Authorize platform redis now token codeVerifier tenantId connectorName
      credentialName = .ok (state, redis'))
    (hvalid : (validateAndConsumeState store later state).1 = true) {code : String} {stored : StoredToken U}
    (hexchange : exchangeFor platform (validateAndConsumeState store later state).2 later code state
      tenantId connectorName credentialName = .ok stored) :
    StoresFor platform tenantId connectorName credentialName
        (oauth2Callback platform store later code state) ↔
      ':' ∉ connectorName.toList ∧ ':' ∉ credentialName.toList := by
  constructor
  · rintro ⟨config, data, -, hanswer⟩
    exact colonless_of_callback hanswer
  · rintro ⟨hconnector, hcredential⟩
    rw [oauth2Callback_of_colonless hissued hvalid code hconnector hcredential]
    unfold exchangeFor at hexchange ⊢
    cases hconfig : configOf platform connectorName with
    | error refusal =>
        rw [hconfig] at hexchange
        cases hexchange
    | ok config =>
        rw [hconfig] at hexchange
        refine ⟨config, stored.data, oauth2Config_of_configOf hconfig, ?_⟩
        dsimp only at hexchange ⊢
        split at hexchange
        · cases hexchange
        · next data hdata =>
          obtain rfl := Except.ok.inj hexchange
          rfl

/-! ## A sample -/

/-- The id of the only tenant. -/
def soleTenant : TenantIds Unit where
  str _ := "3f2c8a52-7e01-4c8b-9a55-0d4f6a1b2c3d"
  parse text := if text = "3f2c8a52-7e01-4c8b-9a55-0d4f6a1b2c3d" then some () else none
  parse_str _ := if_pos rfl
  colonless _ := by decide

/-- A platform with one connector, whose provider issues tokens. -/
def shopPlatform : Platform Unit where
  ids := soleTenant
  formats := nameFormats
  oauth2Config name :=
    if name = "shop" then some [("authorization_url", .str "authorize"), ("token_url", .str "token")]
    else none
  retrieveAll _ _ credentialName := applicationSecret credentialName
  post _ _ := .ok ⟨"access", none, none⟩
  callbackUrl := "callback"

/-- The keys after an authorization, at instant zero. -/
def authorizedKeys (credentialName : String) : Redis :=
  generateAuthorizationUrl .empty 0 (stateOf shopPlatform () "shop" credentialName "token") none

/-- What is requested for a credential set of the connector. -/
def shopToken (credentialName : String) : StoredToken Unit where
  tenantId := ()
  connectorName := "shop"
  credentialName
  config := merged shopPlatform [("authorization_url", .str "authorize"), ("token_url", .str "token")] ()
    "shop" credentialName
  data := ⟨"access", none, none⟩

/-- The state of an authorization for the default set leads back to it. -/
theorem callback_stores_default :
    StoresFor shopPlatform () "shop" "default"
      (oauth2Callback shopPlatform (authorizedKeys "default") 1 "code"
        (stateOf shopPlatform () "shop" "default" "token")) := by
  have hissued : oauth2Authorize shopPlatform .empty 0 "token" "verifier" () "shop" "default" =
      .ok (stateOf shopPlatform () "shop" "default" "token", authorizedKeys "default") := rfl
  have hexchange : exchangeFor shopPlatform
      (validateAndConsumeState (authorizedKeys "default") 1
        (stateOf shopPlatform () "shop" "default" "token")).2 1 "code"
      (stateOf shopPlatform () "shop" "default" "token") () "shop" "default" =
        .ok (shopToken "default") := rfl
  exact (callback_stores_iff hissued (validate_of_authorize hissued (by decide +kernel)) hexchange).mpr
    ⟨by decide, by decide⟩

/-- The state of an authorization for the set "b2b:eu" leads to the set "b2b". -/
theorem callback_stores_other :
    oauth2Callback shopPlatform (authorizedKeys "b2b:eu") 1 "code"
        (stateOf shopPlatform () "shop" "b2b:eu" "token") = .ok (shopToken "b2b") ∧
      ¬ StoresFor shopPlatform () "shop" "b2b:eu"
        (oauth2Callback shopPlatform (authorizedKeys "b2b:eu") 1 "code"
          (stateOf shopPlatform () "shop" "b2b:eu" "token")) := by
  have hissued : oauth2Authorize shopPlatform .empty 0 "token" "verifier" () "shop" "b2b:eu" =
      .ok (stateOf shopPlatform () "shop" "b2b:eu" "token", authorizedKeys "b2b:eu") := rfl
  have hparts : splitColons 3 (stateOf shopPlatform () "shop" "b2b:eu" "token").toList =
      [(shopPlatform.ids.str ()).toList, "shop".toList, "b2b".toList, "eu:token".toList] := by
    decide +kernel
  have hcallback : oauth2Callback shopPlatform (authorizedKeys "b2b:eu") 1 "code"
      (stateOf shopPlatform () "shop" "b2b:eu" "token") = .ok (shopToken "b2b") := by
    rw [oauth2Callback_eq hparts (validate_of_authorize hissued (by decide +kernel)),
      String.ofList_toList, String.ofList_toList]
    rfl
  refine ⟨hcallback, ?_⟩
  rw [hcallback]
  rintro ⟨config, data, -, hanswer⟩
  have hname : "b2b" = "b2b:eu" := congrArg StoredToken.credentialName (Except.ok.inj hanswer)
  exact absurd hname (by decide)

end OAuth

end IntegrationPlatform
