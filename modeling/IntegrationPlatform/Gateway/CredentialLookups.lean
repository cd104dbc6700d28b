import IntegrationPlatform.Gateway.Credentials

/-!
# Lookups of credentials

The lookups of credential sets that the nodes of a workflow make, each with its own defaults for
the connector and for the name, and what they resolve to: the values of the set, enriched with the
OAuth2 token.
-/

namespace IntegrationPlatform

namespace Gateway

/-- What lookups use of other code. -/
structure CredentialWorld where
  /-- `str(value).strip().lower()`. -/
  lowered : Value → String
  /-- The OAuth2 configuration of a connector, if it has one that is not empty. -/
  oauth2Config : String → Option Dict
  /-- The present time. -/
  now : Int
  /-- The access token that `refresh_token` gets from the provider, unless it raises. -/
  refresh : OAuthToken → Dict → Option String

/-- A lookup of a credential set, with or without the OAuth2 token. -/
structure Lookup where
  connectorName : String
  credentialName : String
  oauth2 : Bool
deriving DecidableEq, Repr

/-! ## Lookups of nodes -/

/-- A lookup under these names. Only texts name a set. -/
def lookupOf (connectorName credentialName : Value) (oauth2 : Bool) : List Lookup :=
  match connectorName, credentialName with
  | .str connectorName, .str credentialName => [⟨connectorName, credentialName, oauth2⟩]
  | _, _ => []

/-- `config.get("connector_name", "")`. -/
def WorkflowNode.connectorName (node : WorkflowNode) : Value :=
  (node.config.find "connector_name").getD (.str "")

/-- `config.get("credential_name", "default")`. -/
def WorkflowNode.credentialName (node : WorkflowNode) : Value :=
  (node.config.find "credential_name").getD (.str "default")

/-- The config has a value under a key that is true. -/
def WorkflowNode.hasValue (node : WorkflowNode) (key : String) : Bool :=
  ((node.config.find key).getD .null).truthy

/-- The connector whose credentials a node looks up, and whether with the OAuth2 token. The account
of a trigger is provisioned without it. -/
def WorkflowNode.usedConnector (node : WorkflowNode) : Option (Value × Bool) :=
  if node.type = "action" then
    if node.hasValue "connector_name" && node.hasValue "action" then
      some (node.connectorName, true)
    else none
  else if node.type = "http_request" then
    if node.hasValue "connector_name" then some (node.connectorName, true) else none
  else if node.type = "think" then
    if node.hasValue "prompt" then some (.str "ai-agent", true) else none
  else if node.type = "trigger" then
    if node.hasValue "connector_name" then some (node.connectorName, false) else none
  else none

section Lookups

variable (world : CredentialWorld)

/-- The lookup of an action of an error handler. -/
def notifyLookup : Value → List Lookup
  | .dict action =>
      if isText (Assoc.find action "type") "notify" then
        let name := world.lowered ((Assoc.find action "channel").getD (.str "slack"))
        let channel := if name = "" then "slack" else name
        let connectorName := (Assoc.find action "connector_name").getD
          (.str (if channel = "email" ∨ channel = "email-client" then "email-client" else channel))
        lookupOf connectorName ((Assoc.find action "credential_name").getD (.str "default")) true
      else []
  | _ => []

/-- The lookups of the actions of an error handler. -/
def handlerLookups (node : WorkflowNode) : List Lookup :=
  match node.config.find "actions" with
  | some (.list actions) => actions.flatMap (notifyLookup world)
  | _ => []

/-- The lookups of a node. -/
def WorkflowNode.lookups (node : WorkflowNode) : List Lookup :=
  if node.type = "error_handler" then handlerLookups world node
  else
    match node.usedConnector with
    | some (connectorName, oauth2) => lookupOf connectorName node.credentialName oauth2
    | none => []

/-! ## What a lookup resolves to -/

/-- `get_or_refresh_access_token`, for the latest row. -/
def getOrRefreshAccessToken (row : Option OAuthToken) (config : Dict) : Option String :=
  match row with
  | none => none
  | some row =>
      if row.status ≠ "active" then none
      else if row.expiresAt.any (· ≤ world.now) then
        if !config.isEmpty && row.refreshToken.isSome then world.refresh row config else none
      else some row.accessToken

/-- The OAuth2 token of a set. -/
def TenantState.accessToken (state : TenantState) (connectorName credentialName : String)
    (config : Dict) : Option String :=
  getOrRefreshAccessToken world (state.oauthTokens connectorName credentialName).head? config

/-- The configuration with the client that the credentials name. -/
def clientConfig (config : Dict) (credentials : CredentialSet) : Dict :=
  let config := match credentials.find "client_id" with
    | some clientId => config.put "client_id" (.str clientId)
    | none => config
  match credentials.find "client_secret" with
  | some clientSecret => config.put "client_secret" (.str clientSecret)
  | none => config

/-- `_enrich_credentials_with_oauth2`, with this lookup of the token. -/
def enrichCredentials (connectorName : String) (token : Dict → Option String)
    (credentials : CredentialSet) : CredentialSet :=
  match world.oauth2Config connectorName with
  | none => credentials
  | some config =>
      match (token (clientConfig config credentials)).filter (· ≠ "") with
      | some token => credentials.put "access_token" token
      | none => credentials.pop "access_token"

/-- The credentials of a set as they are sent, which are enriched unless there are none. -/
def sentCredentials (connectorName : String) (token : Dict → Option String) (oauth2 : Bool)
    (credentials : CredentialSet) : CredentialSet :=
  if oauth2 && !credentials.entries.isEmpty then
    enrichCredentials world connectorName token credentials
  else credentials

/-- What a lookup resolves to. -/
def TenantState.resolve (state : TenantState) (lookup : Lookup) : CredentialSet :=
  sentCredentials world lookup.connectorName
    (state.accessToken world lookup.connectorName lookup.credentialName) lookup.oauth2
    (state.vault lookup.connectorName lookup.credentialName)

end Lookups

/-! ## What is sent -/

section Sent

variable {world : CredentialWorld} {connectorName : String} {token : Dict → Option String}
  {oauth2 : Bool} {left right : CredentialSet}

theorem enrichCredentials_same (h : left.Same right) :
    (enrichCredentials world connectorName token left).Same
      (enrichCredentials world connectorName token right) := by
  unfold enrichCredentials
  cases world.oauth2Config connectorName with
  | none => exact h
  | some config =>
      have hconfig : clientConfig config left = clientConfig config right := by
        unfold clientConfig
        rw [h "client_id", h "client_secret"]
      simp only [hconfig]
      intro key
      cases (token (clientConfig config right)).filter (· ≠ "") with
      | none => simp only [CredentialSet.find_pop, h key]
      | some token => simp only [CredentialSet.find_put, h key]

theorem sentCredentials_same (h : left.Same right) :
    (sentCredentials world connectorName token oauth2 left).Same
      (sentCredentials world connectorName token oauth2 right) := by
  unfold sentCredentials
  rw [h.isEmpty]
  split
  · exact enrichCredentials_same h
  · exact h

theorem sentCredentials_empty :
    sentCredentials world connectorName token oauth2 .empty = .empty := by
  unfold sentCredentials
  rw [if_neg]
  simp [CredentialSet.empty]

/-- Without a token, nothing is sent if and only if there are no values, up to the access token of
a connector with OAuth2. -/
theorem sentCredentials_same_empty (hnone : ∀ config, token config = none) (set : CredentialSet) :
    (sentCredentials world connectorName token oauth2 set).Same .empty ↔
      ∀ key, (oauth2 = true → world.oauth2Config connectorName ≠ none → key ≠ "access_token") →
        set.find key = none := by
  unfold sentCredentials
  by_cases hempty : set.entries.isEmpty = true
  · have hset := set.isEmpty_iff.mp hempty
    rw [if_neg (by simp [hempty])]
    exact iff_of_true hset fun key _ => hset key
  · by_cases hoauth : oauth2 = true
    · rw [if_pos (by simp [hempty, hoauth])]
      unfold enrichCredentials
      cases hconfig : world.oauth2Config connectorName with
      | none =>
          constructor
          · exact fun h key _ => h key
          · exact fun h key => h key fun _ hne => absurd rfl hne
      | some config =>
          simp only [hnone, Option.filter_none]
          constructor
          · intro h key hkey
            have hfind := h key
            rw [CredentialSet.find_pop, if_neg (hkey hoauth (by simp))] at hfind
            exact hfind
          · intro h key
            rw [CredentialSet.find_pop]
            by_cases hkey : key = "access_token"
            · rw [if_pos hkey]
              rfl
            · rw [if_neg hkey]
              exact h key fun _ _ => hkey
    · rw [if_neg (by simp [hoauth])]
      constructor
      · exact fun h key _ => h key
      · exact fun h key => h key fun htrue => absurd htrue hoauth

end Sent

end Gateway

end IntegrationPlatform
