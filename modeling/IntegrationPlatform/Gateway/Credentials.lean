import IntegrationPlatform.Gateway.Records
import IntegrationPlatform.Json.Fields

/-!
# Credentials

The credential vault of a tenant with its sets of secrets, the opaque tokens that stand for them,
the OAuth2 tokens, and `store_credentials`, which stores a set, or renames it. Encrypted values are
kept as what they decrypt to.
-/

namespace IntegrationPlatform

namespace Gateway

/-! ## Credential sets -/

/-- A set of credentials: values by their keys. -/
structure CredentialSet where
  entries : Assoc String
  distinct : (entries.map Prod.fst).Nodup

namespace CredentialSet

/-- The set without credentials. -/
def empty : CredentialSet := ⟨[], List.nodup_nil⟩

/-- `credentials.get(key)`. -/
def find (set : CredentialSet) (key : String) : Option String :=
  set.entries.find key

/-- `credentials[key] = value`. -/
def put (set : CredentialSet) (key value : String) : CredentialSet :=
  ⟨set.entries.put key value, Assoc.nodup_put set.distinct key value⟩

/-- The credentials that pass a test. -/
def filter (set : CredentialSet) (keep : String × String → Bool) : CredentialSet :=
  ⟨set.entries.filter keep, (List.filter_sublist.map Prod.fst).nodup set.distinct⟩

/-- `credentials.pop(key, None)`. -/
def pop (set : CredentialSet) (key : String) : CredentialSet :=
  set.filter fun entry => entry.1 ≠ key

/-- `{**left, **right}`. -/
def merge (left right : CredentialSet) : CredentialSet :=
  right.entries.foldl (fun set entry => set.put entry.1 entry.2) left

/-- The sets have the same values under the same keys. -/
def Same (left right : CredentialSet) : Prop :=
  ∀ key, left.find key = right.find key

@[simp] theorem find_empty (key : String) : empty.find key = none := rfl

@[simp] theorem find_put (set : CredentialSet) (key key' value : String) :
    (set.put key value).find key' = if key = key' then some value else set.find key' :=
  Assoc.find_put set.entries key key' value

@[simp] theorem find_pop (set : CredentialSet) (gone key : String) :
    (set.pop gone).find key = if key = gone then none else set.find key :=
  Assoc.find_filter_key set.entries gone key

theorem find_merge (left right : CredentialSet) (key : String) :
    (left.merge right).find key = (right.find key).or (left.find key) := by
  obtain ⟨entries, hdistinct⟩ := right
  unfold merge
  induction entries generalizing left with
  | nil => rfl
  | cons entry rest ih =>
      rw [List.map_cons, List.nodup_cons] at hdistinct
      show (List.foldl _ (left.put entry.1 entry.2) rest).find key = _
      rw [ih (left.put entry.1 entry.2) hdistinct.2, find_put]
      show (Assoc.find rest key).or _ = (Assoc.find (entry :: rest) key).or _
      rw [Assoc.find]
      by_cases hkey : entry.1 = key
      · rw [if_pos hkey, if_pos hkey, Assoc.find_eq_none (hkey ▸ hdistinct.1)]
        rfl
      · rw [if_neg hkey, if_neg hkey]

theorem isEmpty_iff (set : CredentialSet) : set.entries.isEmpty = true ↔ set.Same empty := by
  obtain ⟨entries, hdistinct⟩ := set
  cases entries with
  | nil => exact iff_of_true rfl fun _ => rfl
  | cons entry rest =>
      refine iff_of_false (by simp) fun h => ?_
      have hfind : Assoc.find (entry :: rest) entry.1 = none := h entry.1
      rw [Assoc.find, if_pos rfl] at hfind
      cases hfind

theorem Same.isEmpty {left right : CredentialSet} (h : left.Same right) :
    left.entries.isEmpty = right.entries.isEmpty := by
  rw [Bool.eq_iff_iff, isEmpty_iff, isEmpty_iff]
  exact ⟨fun hleft key => (h key).symm.trans (hleft key), fun hright key => (h key).trans (hright key)⟩

end CredentialSet

/-! ## The vault -/

/-- The sets of a tenant, by their connectors and names. -/
abbrev Vault := String → String → CredentialSet

namespace Vault

variable (vault : Vault) (connectorName credentialName : String)

/-- A set of the vault is changed. -/
def set (credentials : CredentialSet) : Vault :=
  Function.update vault connectorName
    (Function.update (vault connectorName) credentialName credentials)

def store (key value : String) : Vault :=
  vault.set connectorName credentialName ((vault connectorName credentialName).put key value)

/-- `store`, for one credential after another. -/
def storeAll (credentials : CredentialSet) : Vault :=
  credentials.entries.foldl
    (fun vault entry => vault.store connectorName credentialName entry.1 entry.2) vault

/-- `delete`, of a whole set. -/
def delete : Vault :=
  vault.set connectorName credentialName .empty

variable {vault connectorName credentialName}

@[simp] theorem set_self (credentials : CredentialSet) :
    vault.set connectorName credentialName credentials connectorName credentialName =
      credentials := by
  rw [set, Function.update_self, Function.update_self]

theorem set_of_ne {name : String} (h : name ≠ credentialName) (credentials : CredentialSet) :
    vault.set connectorName credentialName credentials connectorName name =
      vault connectorName name := by
  rw [set, Function.update_self, Function.update_of_ne h]

theorem storeAll_eq (credentials : CredentialSet) :
    vault.storeAll connectorName credentialName credentials =
      vault.set connectorName credentialName
        ((vault connectorName credentialName).merge credentials) := by
  unfold storeAll CredentialSet.merge
  induction credentials.entries generalizing vault with
  | nil =>
      show vault = _
      rw [set, List.foldl_nil, Function.update_eq_self, Function.update_eq_self]
  | cons entry rest ih =>
      rw [List.foldl_cons, ih, List.foldl_cons, store, set_self]
      unfold set
      rw [Function.update_idem, Function.update_self, Function.update_idem]

end Vault

/-! ## The state of a tenant -/

/-- A row of `credential_tokens`. -/
structure CredentialToken where
  connectorName : String
  credentialName : String
  token : String
  isActive : Bool := true

/-- A row of `oauth_tokens`. -/
structure OAuthToken where
  accessToken : String
  refreshToken : Option String
  expiresAt : Option Int
  status : String

/-- What a tenant has stored. The OAuth2 tokens of a set come with the latest first. -/
structure TenantState where
  vault : Vault
  tokens : List CredentialToken
  oauthTokens : String → String → List OAuthToken
  workflows : List Workflow

def renameToken (tokens : List CredentialToken) (connectorName oldName newName : String) :
    List CredentialToken :=
  tokens.map fun row =>
    if row.connectorName = connectorName ∧ row.credentialName = oldName then
      { row with credentialName := newName }
    else row

/-- `get_or_create_token`: the rows, and the row of the set. -/
def getOrCreateToken (tokens : List CredentialToken) (connectorName credentialName freshToken : String) :
    List CredentialToken × CredentialToken :=
  match tokens.find? fun row =>
      row.connectorName == connectorName && row.credentialName == credentialName with
  | some row => (tokens, row)
  | none =>
      let row : CredentialToken := { connectorName, credentialName, token := freshToken }
      (tokens ++ [row], row)

/-- The active row of a token. -/
def tokenRow (tokens : List CredentialToken) (token : String) : Option CredentialToken :=
  tokens.find? fun row => row.token == token && row.isActive

def TenantState.resolveToken (state : TenantState) (token : String) : Option CredentialSet :=
  (tokenRow state.tokens token).map fun row => state.vault row.connectorName row.credentialName

/-! ## `store_credentials` -/

def credentialMask : String := "••••••••"

def submittedCredentialValues (credentials : CredentialSet) : CredentialSet :=
  credentials.filter fun entry => entry.2 ≠ "" && entry.2 ≠ credentialMask

/-- The body of `POST /api/v1/credentials`. -/
structure CredentialStore where
  connectorName : String
  credentialName : String := "default"
  oldCredentialName : Option String := none
  credentials : CredentialSet

/-- A value is this text. -/
def isText (value : Option Value) (text : String) : Bool :=
  match value with
  | some (.str content) => content == text
  | _ => false

/-- A node is one that `_propagate_credential_rename` changes. -/
def WorkflowNode.refersTo (node : WorkflowNode) (connectorName oldName : String) : Bool :=
  isText (node.config.find "credential_name") oldName &&
    (isText (some ((node.config.find "connector_name").getD (.str ""))) connectorName ||
      (node.type == "think" && connectorName == "ai-agent"))

/-- What `_propagate_credential_rename` makes of a node. -/
def WorkflowNode.renamed (node : WorkflowNode) (connectorName oldName newName : String) :
    WorkflowNode :=
  if node.refersTo connectorName oldName then
    { node with config := node.config.put "credential_name" (.str newName) }
  else node

/-- `_propagate_credential_rename`: the workflows, and how many of them have changed. -/
def propagateCredentialRename (workflows : List Workflow) (connectorName oldName newName : String) :
    List Workflow × Nat :=
  (workflows.map fun workflow =>
      { workflow with nodes := workflow.nodes.map (·.renamed connectorName oldName newName) },
    workflows.countP fun workflow => workflow.nodes.any (·.refersTo connectorName oldName))

/-- The name of the set that a request renames, if it renames one. -/
def CredentialStore.renames (body : CredentialStore) : Option String :=
  body.oldCredentialName.filter fun oldName => oldName ≠ "" && oldName ≠ body.credentialName

/-- `store_credentials`: the state, the token of the set, and how many workflows have changed. -/
def storeCredentials (body : CredentialStore) (freshToken : String) (state : TenantState) :
    TenantState × CredentialToken × Nat :=
  let submitted := submittedCredentialValues body.credentials
  match body.renames with
  | some oldName =>
      let merged := (state.vault body.connectorName oldName).merge submitted
      let workflows := propagateCredentialRename state.workflows body.connectorName oldName
        body.credentialName
      let tokens := getOrCreateToken
        (renameToken state.tokens body.connectorName oldName body.credentialName)
        body.connectorName body.credentialName freshToken
      ({ state with
          vault := (state.vault.storeAll body.connectorName body.credentialName merged).delete
            body.connectorName oldName
          tokens := tokens.1
          workflows := workflows.1 }, tokens.2, workflows.2)
  | none =>
      let tokens := getOrCreateToken state.tokens body.connectorName body.credentialName freshToken
      ({ state with
          vault := state.vault.storeAll body.connectorName body.credentialName submitted
          tokens := tokens.1 }, tokens.2, 0)

end Gateway

end IntegrationPlatform
