import IntegrationPlatform.Gateway.CredentialRename

/-!
# Tokens of credentials

The endpoints of the credentials over any history of requests of any tenants. A keyring says what the rows of
`credential_tokens` are for: it has the one token that stands for each set. Requests are answered as from the
keyring (`answers_refine`), a token stands for sets of one tenant alone, and it never comes back once it stands
for none (`tokens_final`).
-/

namespace IntegrationPlatform

namespace Gateway

/-! ## The endpoints -/

/-- A request on the credentials of a tenant, a value that the OAuth2 manager stores, or what other requests
make of the workflows. -/
inductive CredentialRequest where
  | storeCredentials (body : CredentialStore)
  | getCredentials (connectorName credentialName : String)
  | deleteCredentials (connectorName : String) (credentialName : Option String)
  | regenerateCredentialToken (connectorName credentialName : String)
  | resolveCredentialToken (token : String)
  | store (connectorName credentialName key value : String)
  | saveWorkflows (workflows : List Workflow)

/-- What a request answers. -/
inductive CredentialAnswer where
  | stored (token : String) (workflowsUpdated : Nat)
  | credentials (keys : List String) (token : Option String)
  | deleted (affectedWorkflows : List String)
  | regenerated (token : String)
  | resolved (connectorName credentialName : String) (credentials : CredentialSet)
  | done

/-- `regenerate_credential_token` of a set without values. -/
def noCredentials : HttpError :=
  ⟨404, "No credentials found for this connector"⟩

/-- `resolve_credential_token` of any other text. -/
def invalidToken : HttpError :=
  ⟨404, "Invalid or inactive token"⟩

/-- The row of a set. -/
def rowOf (tokens : List CredentialToken) (connectorName credentialName : String) : Option CredentialToken :=
  tokens.find? fun row => row.connectorName == connectorName && row.credentialName == credentialName

/-- The token that stands for each set of a tenant, by its connector and name. -/
abbrev Keyring := String → String → Option String

/-- The keyring that the rows make up. -/
def TenantState.keyring (state : TenantState) : Keyring :=
  fun connectorName credentialName => (rowOf state.tokens connectorName credentialName).map (·.token)

/-- `rename_token` would give the row of the old set the name of another row, which the unique constraint of
the table refuses. -/
def CredentialStore.conflicts (body : CredentialStore) (ring : Keyring) : Bool :=
  body.renames.any fun oldName => (ring body.connectorName oldName).isSome &&
    (ring body.connectorName body.credentialName).isSome

/-- `regenerate_token`: the rows, and the token of the set. -/
def regenerateToken (tokens : List CredentialToken) (connectorName credentialName freshToken : String) :
    List CredentialToken × String :=
  if (rowOf tokens connectorName credentialName).isSome then
    (tokens.map fun row =>
      if row.connectorName = connectorName ∧ row.credentialName = credentialName then
        { row with token := freshToken }
      else row, freshToken)
  else
    let tokens := getOrCreateToken tokens connectorName credentialName freshToken
    (tokens.1, tokens.2.token)

/-- The name of the set that a request deletes, if it deletes one set alone. -/
def deletedName (credentialName : Option String) : Option String :=
  credentialName.filter (· ≠ "")

/-- `vault.delete` of one set of a connector, or of all of them. -/
def Vault.deleteSets (vault : Vault) (connectorName : String) : Option String → Vault
  | some name => vault.delete connectorName name
  | none => Function.update vault connectorName fun _ => .empty

def deleteToken (tokens : List CredentialToken) (connectorName : String) (credentialName : Option String) :
    List CredentialToken :=
  tokens.filter fun row => !(row.connectorName == connectorName &&
    credentialName.all (row.credentialName == ·))

/-- The names of the workflows with a node that names the deleted set. -/
def affectedWorkflows (workflows : List Workflow) (connectorName : String) : Option String → List String
  | some name =>
      (workflows.filter fun workflow => workflow.nodes.any (·.refersTo connectorName name)).map (·.name)
  | none => []

/-- A request, with the token that it makes if it makes one. A request that raises changes nothing. -/
def CredentialRequest.serve (state : TenantState) (freshToken : String) :
    CredentialRequest → Except HttpError CredentialAnswer × TenantState
  | .storeCredentials body =>
      if body.conflicts state.keyring then (.error internalServerError, state)
      else
        let stored := Gateway.storeCredentials body freshToken state
        (.ok (.stored stored.2.1.token stored.2.2), stored.1)
  | .getCredentials connectorName credentialName =>
      let creds := state.vault connectorName credentialName
      if creds.entries.isEmpty then (.ok (.credentials [] none), state)
      else
        let tokens := getOrCreateToken state.tokens connectorName credentialName freshToken
        (.ok (.credentials (creds.entries.map Prod.fst) (some tokens.2.token)),
          { state with tokens := tokens.1 })
  | .deleteCredentials connectorName credentialName =>
      let name := deletedName credentialName
      (.ok (.deleted (affectedWorkflows state.workflows connectorName name)),
        { state with
          vault := state.vault.deleteSets connectorName name
          tokens := deleteToken state.tokens connectorName name })
  | .regenerateCredentialToken connectorName credentialName =>
      if (state.vault connectorName credentialName).entries.isEmpty then (.error noCredentials, state)
      else
        let tokens := regenerateToken state.tokens connectorName credentialName freshToken
        (.ok (.regenerated tokens.2), { state with tokens := tokens.1 })
  | .resolveCredentialToken token =>
      match tokenRow state.tokens token with
      | none => (.error invalidToken, state)
      | some row =>
          (.ok (.resolved row.connectorName row.credentialName
            (state.vault row.connectorName row.credentialName)), state)
  | .store connectorName credentialName key value =>
      (.ok .done, { state with vault := state.vault.store connectorName credentialName key value })
  | .saveWorkflows workflows => (.ok .done, { state with workflows })

/-- A request of a tenant. -/
structure CredentialCall where
  tenantId : String
  request : CredentialRequest
  /-- What `_generate_credential_token` returns. -/
  freshToken : String

/-- The state of each tenant. -/
abbrev Tenants := String → TenantState

/-- No tenant has stored anything. -/
def Tenants.initial : Tenants :=
  fun _ => ⟨fun _ _ => .empty, [], fun _ _ => [], []⟩

/-- The answer to a call, and the states after it. -/
def CredentialCall.serve (call : CredentialCall) (tenants : Tenants) :
    Except HttpError CredentialAnswer × Tenants :=
  let served := call.request.serve (tenants call.tenantId) call.freshToken
  (served.1, Function.update tenants call.tenantId served.2)

/-- The states after some calls. -/
def Tenants.after (tenants : Tenants) (calls : List CredentialCall) : Tenants :=
  calls.foldl (fun tenants call => (call.serve tenants).2) tenants

/-- `_resolve_tenant_by_token` finds a row of this tenant. -/
def Tenants.Authenticates (tenants : Tenants) (token tenantId : String) : Prop :=
  (tokenRow (tenants tenantId).tokens token).isSome = true

instance (tenants : Tenants) (token tenantId : String) : Decidable (tenants.Authenticates token tenantId) :=
  inferInstanceAs (Decidable (_ = true))

/-! ## Keyrings -/

namespace Keyring

variable (ring : Keyring) (connectorName credentialName : String)

/-- The token of one set is changed. -/
def set (token : Option String) : Keyring :=
  Function.update ring connectorName (Function.update (ring connectorName) credentialName token)

/-- The token of a set, and the fresh one if it has none. -/
def tokenOr (freshToken : String) : String :=
  (ring connectorName credentialName).getD freshToken

/-- A set gets the fresh token if it has none. -/
def ensure (freshToken : String) : Keyring :=
  ring.set connectorName credentialName (some (ring.tokenOr connectorName credentialName freshToken))

/-- The new set takes over the token of the old one. -/
def rename (oldName newName : String) : Keyring :=
  (ring.set connectorName oldName none).set connectorName newName
    ((ring connectorName oldName).or (ring connectorName newName))

/-- The keyring after a request, where the sets have these values. -/
def after (vault : Vault) (freshToken : String) : CredentialRequest → Keyring
  | .storeCredentials body =>
      if body.conflicts ring then ring
      else (match body.renames with
        | some oldName => ring.rename body.connectorName oldName body.credentialName
        | none => ring).ensure body.connectorName body.credentialName freshToken
  | .getCredentials connectorName credentialName =>
      if (vault connectorName credentialName).entries.isEmpty then ring
      else ring.ensure connectorName credentialName freshToken
  | .deleteCredentials connectorName credentialName =>
      match deletedName credentialName with
      | some name => ring.set connectorName name none
      | none => Function.update ring connectorName fun _ => none
  | .regenerateCredentialToken connectorName credentialName =>
      if (vault connectorName credentialName).entries.isEmpty then ring
      else ring.set connectorName credentialName (some freshToken)
  | .resolveCredentialToken _ | .store .. | .saveWorkflows _ => ring

/-- What is answered from a keyring: a set has the token that stands for it afterwards, and a token resolves to
the set that it stands for. -/
def Answers (vault : Vault) (freshToken : String) (request : CredentialRequest)
    (answer : Except HttpError CredentialAnswer) : Prop :=
  match request with
  | .storeCredentials body =>
      if body.conflicts ring then answer = .error internalServerError
      else ∃ token workflowsUpdated, answer = .ok (.stored token workflowsUpdated) ∧
        ring.after vault freshToken request body.connectorName body.credentialName = some token
  | .getCredentials connectorName credentialName =>
      let creds := (vault connectorName credentialName).entries
      answer = .ok (.credentials (creds.map Prod.fst)
        (if creds.isEmpty then none else some (ring.tokenOr connectorName credentialName freshToken)))
  | .deleteCredentials _ _ => ∃ affected, answer = .ok (.deleted affected)
  | .regenerateCredentialToken connectorName credentialName =>
      answer = if (vault connectorName credentialName).entries.isEmpty then .error noCredentials
        else .ok (.regenerated freshToken)
  | .resolveCredentialToken token =>
      (∃ connectorName credentialName, ring connectorName credentialName = some token ∧
        answer = .ok (.resolved connectorName credentialName (vault connectorName credentialName))) ∨
      (∀ connectorName credentialName, ring connectorName credentialName ≠ some token) ∧
        answer = .error invalidToken
  | .store .. | .saveWorkflows _ => answer = .ok .done

variable {ring connectorName credentialName}

theorem set_apply (token : Option String) (connector name : String) :
    ring.set connectorName credentialName token connector name =
      if connector = connectorName ∧ name = credentialName then token else ring connector name := by
  unfold set
  by_cases hconnector : connector = connectorName
  · subst hconnector
    rw [Function.update_self, Function.update_apply]
    simp only [true_and]
  · rw [Function.update_of_ne hconnector, if_neg fun h => hconnector h.1]

theorem ensure_self (freshToken : String) :
    ring.ensure connectorName credentialName freshToken connectorName credentialName =
      some (ring.tokenOr connectorName credentialName freshToken) := by
  rw [ensure, set_apply, if_pos ⟨rfl, rfl⟩]

theorem ensure_of_some {token : String} (h : ring connectorName credentialName = some token)
    (freshToken : String) : ring.ensure connectorName credentialName freshToken = ring := by
  unfold ensure tokenOr set
  rw [h, Option.getD_some, ← h, Function.update_eq_self, Function.update_eq_self]

end Keyring

/-! ## The rows of a keyring -/

/-- The rows are active, and those of the tokens of the keyring. -/
def Rows (tokens : List CredentialToken) (ring : Keyring) : Prop :=
  ∀ row, row ∈ tokens ↔ row.isActive = true ∧ ring row.connectorName row.credentialName = some row.token

section Rows

variable {tokens : List CredentialToken} {ring : Keyring} (h : Rows tokens ring)
  (connectorName credentialName freshToken : String)

include h

theorem Rows.rowOf : rowOf tokens connectorName credentialName =
    (ring connectorName credentialName).map (⟨connectorName, credentialName, ·, true⟩) := by
  cases hrow : Gateway.rowOf tokens connectorName credentialName with
  | none =>
      cases htoken : ring connectorName credentialName with
      | none => rfl
      | some token =>
          have hmem := (h ⟨connectorName, credentialName, token, true⟩).mpr ⟨rfl, htoken⟩
          exact absurd (by simp) (List.find?_eq_none.mp hrow _ hmem)
  | some row =>
      have hkey := List.find?_some hrow
      simp only [Bool.and_eq_true, beq_iff_eq] at hkey
      obtain ⟨rfl, rfl⟩ := hkey
      obtain ⟨hactive, htoken⟩ := (h row).mp (List.mem_of_find?_eq_some hrow)
      rw [htoken, Option.map_some, ← hactive]

theorem Rows.ensure :
    Rows (getOrCreateToken tokens connectorName credentialName freshToken).1
        (ring.ensure connectorName credentialName freshToken) ∧
      (getOrCreateToken tokens connectorName credentialName freshToken).2.token =
        ring.tokenOr connectorName credentialName freshToken := by
  have hrow := h.rowOf connectorName credentialName
  unfold Gateway.rowOf at hrow
  unfold getOrCreateToken
  rw [hrow]
  cases htoken : ring connectorName credentialName with
  | some token =>
      rw [Keyring.ensure_of_some htoken, Keyring.tokenOr, htoken]
      exact ⟨h, rfl⟩
  | none =>
      rw [Keyring.ensure, Keyring.tokenOr, htoken]
      refine ⟨fun row => ?_, rfl⟩
      show row ∈ tokens ++ [_] ↔ _
      rw [List.mem_append, List.mem_singleton, h row, Keyring.set_apply]
      split
      · next hkey =>
        rw [hkey.1, hkey.2, htoken]
        obtain ⟨connector, name, token, active⟩ := row
        simp_all [eq_comm, and_comm]
      · next hkey =>
        refine or_iff_left fun heq => hkey ?_
        rw [heq]
        exact ⟨rfl, rfl⟩

theorem Rows.rename {oldName newName : String} (hne : oldName ≠ newName)
    (hfree : ring connectorName oldName = none ∨ ring connectorName newName = none) :
    Rows (renameToken tokens connectorName oldName newName)
      (ring.rename connectorName oldName newName) := by
  intro row
  unfold renameToken Keyring.rename
  rw [List.mem_map, Keyring.set_apply, Keyring.set_apply]
  constructor
  · rintro ⟨old, hold, rfl⟩
    obtain ⟨hactive, htoken⟩ := (h old).mp hold
    by_cases hkey : old.connectorName = connectorName ∧ old.credentialName = oldName
    · rw [if_pos hkey, if_pos ⟨hkey.1, rfl⟩, ← hkey.1, ← hkey.2, htoken]
      exact ⟨hactive, rfl⟩
    · rw [if_neg hkey, if_neg hkey]
      refine ⟨hactive, ?_⟩
      split
      · next hnew =>
        rw [hnew.1, hnew.2] at htoken
        rw [hfree.resolve_right (htoken ▸ Option.some_ne_none _), htoken]
        rfl
      · exact htoken
  · rintro ⟨hactive, htoken⟩
    by_cases hnew : row.connectorName = connectorName ∧ row.credentialName = newName
    · rw [if_pos hnew] at htoken
      cases hold : ring connectorName oldName with
      | some token =>
          rw [hold] at htoken
          cases Option.some.inj htoken
          refine ⟨⟨connectorName, oldName, row.token, true⟩, (h _).mpr ⟨rfl, hold⟩, ?_⟩
          rw [if_pos ⟨rfl, rfl⟩, ← hnew.1, ← hnew.2, ← hactive]
      | none =>
          rw [hold, Option.none_or, ← hnew.1, ← hnew.2] at htoken
          exact ⟨row, (h row).mpr ⟨hactive, htoken⟩, if_neg fun hkey => hne (hkey.2.symm.trans hnew.2)⟩
    · rw [if_neg hnew] at htoken
      by_cases hkey : row.connectorName = connectorName ∧ row.credentialName = oldName
      · rw [if_pos hkey] at htoken
        cases htoken
      · rw [if_neg hkey] at htoken
        exact ⟨row, (h row).mpr ⟨hactive, htoken⟩, if_neg hkey⟩

theorem Rows.regenerate :
    Rows (regenerateToken tokens connectorName credentialName freshToken).1
        (ring.set connectorName credentialName (some freshToken)) ∧
      (regenerateToken tokens connectorName credentialName freshToken).2 = freshToken := by
  unfold regenerateToken
  rw [h.rowOf]
  cases htoken : ring connectorName credentialName with
  | none =>
      have hensure := h.ensure connectorName credentialName freshToken
      rw [Keyring.ensure, Keyring.tokenOr, htoken] at hensure
      exact hensure
  | some token =>
      refine ⟨fun row => ?_, rfl⟩
      show row ∈ tokens.map _ ↔ _
      rw [List.mem_map, Keyring.set_apply]
      constructor
      · rintro ⟨old, hold, rfl⟩
        obtain ⟨hactive, holdToken⟩ := (h old).mp hold
        by_cases hkey : old.connectorName = connectorName ∧ old.credentialName = credentialName
        · rw [if_pos hkey, if_pos hkey]
          exact ⟨hactive, rfl⟩
        · rw [if_neg hkey, if_neg hkey]
          exact ⟨hactive, holdToken⟩
      · rintro ⟨hactive, hrow⟩
        by_cases hkey : row.connectorName = connectorName ∧ row.credentialName = credentialName
        · rw [if_pos hkey] at hrow
          refine ⟨⟨connectorName, credentialName, token, true⟩, (h _).mpr ⟨rfl, htoken⟩, ?_⟩
          rw [if_pos ⟨rfl, rfl⟩, Option.some.inj hrow, ← hkey.1, ← hkey.2, ← hactive]
        · rw [if_neg hkey] at hrow
          exact ⟨row, (h row).mpr ⟨hactive, hrow⟩, if_neg hkey⟩

theorem Rows.delete (name : Option String) {after : Keyring}
    (hafter : ∀ connector credential, after connector credential =
      if connector = connectorName ∧ name.all (credential == ·) = true then none
      else ring connector credential) :
    Rows (deleteToken tokens connectorName name) after := by
  intro row
  unfold deleteToken
  rw [List.mem_filter, h row, hafter]
  split
  · next hkey => simp [hkey.1, hkey.2]
  · next hkey =>
    refine and_iff_left ?_
    rwa [Bool.not_eq_true', Bool.and_eq_false_iff, ← Bool.not_eq_true, ← Bool.not_eq_true, beq_iff_eq,
      ← not_and_or]

end Rows

/-! ## The refinement -/

section Refinement

variable {state : TenantState} {freshToken : String}

theorem Rows.keyring {ring : Keyring} (h : Rows state.tokens ring) : state.keyring = ring := by
  funext connectorName credentialName
  unfold TenantState.keyring
  rw [h.rowOf]
  cases ring connectorName credentialName <;> rfl

theorem storeCredentials_rows (h : Rows state.tokens state.keyring) (freshToken : String)
    (body : CredentialStore) (hconflicts : ¬ body.conflicts state.keyring = true) :
    Rows (storeCredentials body freshToken state).1.tokens
        (state.keyring.after state.vault freshToken (.storeCredentials body)) ∧
      state.keyring.after state.vault freshToken (.storeCredentials body) body.connectorName
          body.credentialName = some (storeCredentials body freshToken state).2.1.token := by
  simp only [Keyring.after, if_neg hconflicts, Keyring.ensure_self]
  unfold storeCredentials
  cases hrenames : body.renames with
  | none =>
      have hensure := h.ensure body.connectorName body.credentialName freshToken
      exact ⟨hensure.1, congrArg some hensure.2.symm⟩
  | some oldName =>
      have hfree : state.keyring body.connectorName oldName = none ∨
          state.keyring body.connectorName body.credentialName = none := by
        rw [CredentialStore.conflicts, hrenames, Option.any_some, Bool.and_eq_true, not_and_or] at hconflicts
        exact hconflicts.imp Option.not_isSome_iff_eq_none.mp Option.not_isSome_iff_eq_none.mp
      have hensure := (h.rename body.connectorName (renames_ne hrenames) hfree).ensure
        body.connectorName body.credentialName freshToken
      exact ⟨hensure.1, congrArg some hensure.2.symm⟩

/-- A request is answered as from the keyring, and its rows are those of the keyring after it. -/
theorem CredentialRequest.serve_rows (request : CredentialRequest) (h : Rows state.tokens state.keyring) :
    state.keyring.Answers state.vault freshToken request (request.serve state freshToken).1 ∧
      Rows (request.serve state freshToken).2.tokens
        (state.keyring.after state.vault freshToken request) := by
  cases request with
  | storeCredentials body =>
      simp only [serve, Keyring.Answers]
      by_cases hconflicts : body.conflicts state.keyring = true
      · simp only [if_pos hconflicts, Keyring.after]
        exact ⟨trivial, h⟩
      · rw [if_neg hconflicts, if_neg hconflicts]
        have hstored := storeCredentials_rows h freshToken body hconflicts
        exact ⟨⟨_, _, rfl, hstored.2⟩, hstored.1⟩
  | getCredentials connectorName credentialName =>
      simp only [serve, Keyring.Answers, Keyring.after]
      by_cases hempty : (state.vault connectorName credentialName).entries.isEmpty = true
      · simp only [if_pos hempty]
        exact ⟨by rw [List.isEmpty_iff.mp hempty]; rfl, h⟩
      · simp only [if_neg hempty]
        have hensure := h.ensure connectorName credentialName freshToken
        exact ⟨by rw [hensure.2], hensure.1⟩
  | deleteCredentials connectorName credentialName =>
      refine ⟨⟨_, rfl⟩, h.delete _ _ fun connector credential => ?_⟩
      simp only [Keyring.after]
      cases deletedName credentialName with
      | some name => simp only [Keyring.set_apply, Option.all_some, beq_iff_eq]
      | none =>
          simp only [Function.update_apply, Option.all_none, and_true]
          split <;> rfl
  | regenerateCredentialToken connectorName credentialName =>
      simp only [serve, Keyring.Answers, Keyring.after]
      by_cases hempty : (state.vault connectorName credentialName).entries.isEmpty = true
      · simp only [if_pos hempty]
        exact ⟨trivial, h⟩
      · simp only [if_neg hempty]
        have hregenerated := h.regenerate connectorName credentialName freshToken
        exact ⟨by rw [hregenerated.2], hregenerated.1⟩
  | resolveCredentialToken token =>
      simp only [serve, Keyring.Answers, Keyring.after]
      cases hrow : tokenRow state.tokens token with
      | none =>
          refine ⟨.inr ⟨fun connectorName credentialName htoken => ?_, rfl⟩, h⟩
          have hmem := (h ⟨connectorName, credentialName, token, true⟩).mpr ⟨rfl, htoken⟩
          exact absurd (by simp) (List.find?_eq_none.mp hrow _ hmem)
      | some row =>
          have hfound := List.find?_some hrow
          simp only [Bool.and_eq_true, beq_iff_eq] at hfound
          have htoken := ((h row).mp (List.mem_of_find?_eq_some hrow)).2
          exact ⟨.inl ⟨_, _, htoken.trans (congrArg some hfound.1), rfl⟩, h⟩
  | store connectorName credentialName key value => exact ⟨rfl, h⟩
  | saveWorkflows workflows => exact ⟨rfl, h⟩

/-- The rows of each tenant are those of a keyring. -/
def Tenants.Sound (tenants : Tenants) : Prop :=
  ∀ tenantId, Rows (tenants tenantId).tokens (tenants tenantId).keyring

theorem Tenants.sound_initial : Tenants.initial.Sound := by
  intro tenantId row
  simp [Tenants.initial, TenantState.keyring, rowOf]

theorem CredentialCall.serve_self (call : CredentialCall) (tenants : Tenants) :
    (call.serve tenants).2 call.tenantId =
      (call.request.serve (tenants call.tenantId) call.freshToken).2 :=
  Function.update_self ..

theorem CredentialCall.serve_of_ne {call : CredentialCall} {tenantId : String} (h : tenantId ≠ call.tenantId)
    (tenants : Tenants) : (call.serve tenants).2 tenantId = tenants tenantId :=
  Function.update_of_ne h ..

variable {tenants : Tenants}

theorem Tenants.Sound.keyring (h : tenants.Sound) (call : CredentialCall) :
    ((call.serve tenants).2 call.tenantId).keyring =
      (tenants call.tenantId).keyring.after (tenants call.tenantId).vault call.freshToken call.request := by
  rw [call.serve_self]
  exact (call.request.serve_rows (h call.tenantId)).2.keyring

theorem Tenants.Sound.step (h : tenants.Sound) (call : CredentialCall) :
    (call.serve tenants).2.Sound := by
  intro tenantId
  by_cases htenant : tenantId = call.tenantId
  · subst htenant
    rw [h.keyring, call.serve_self]
    exact (call.request.serve_rows (h call.tenantId)).2
  · rw [call.serve_of_ne htenant]
    exact h tenantId

theorem Tenants.Sound.after (h : tenants.Sound) (calls : List CredentialCall) :
    (tenants.after calls).Sound := by
  induction calls generalizing tenants with
  | nil => exact h
  | cons call rest ih => exact ih (h.step call)

/-- After any calls of any tenants, a call is answered as from the keyring that its tenant has then, and the
rows of the tenant are those of the keyring that is to follow. -/
theorem answers_refine (calls : List CredentialCall) (call : CredentialCall) :
    let tenants := Tenants.initial.after calls
    let ring := (tenants call.tenantId).keyring
    let vault := (tenants call.tenantId).vault
    ring.Answers vault call.freshToken call.request (call.serve tenants).1 ∧
      ((call.serve tenants).2 call.tenantId).keyring = ring.after vault call.freshToken call.request ∧
      Rows ((call.serve tenants).2 call.tenantId).tokens
        (ring.after vault call.freshToken call.request) := by
  have hsound := Tenants.sound_initial.after calls
  obtain ⟨hanswer, hrows⟩ := call.request.serve_rows (hsound call.tenantId)
  refine ⟨hanswer, hsound.keyring call, ?_⟩
  rw [call.serve_self]
  exact hrows

end Refinement

/-! ## Tokens that stand for nothing -/

section Finality

variable {ring : Keyring} {connectorName credentialName freshToken token : String}

/-- The token stands for a set. -/
def Keyring.Holds (ring : Keyring) (token : String) : Prop :=
  ∃ connectorName credentialName, ring connectorName credentialName = some token

theorem Keyring.Holds.of_set {changed : Option String}
    (h : (ring.set connectorName credentialName changed).Holds token) :
    changed = some token ∨ ring.Holds token := by
  obtain ⟨connector, name, htoken⟩ := h
  rw [set_apply] at htoken
  split at htoken
  · exact .inl htoken
  · exact .inr ⟨connector, name, htoken⟩

theorem Keyring.Holds.of_ensure (h : (ring.ensure connectorName credentialName freshToken).Holds token) :
    token = freshToken ∨ ring.Holds token := by
  cases hold : ring connectorName credentialName with
  | none =>
      rw [ensure, tokenOr, hold] at h
      exact h.of_set.imp_left fun heq => (Option.some.inj heq).symm
  | some old =>
      rw [ensure_of_some hold] at h
      exact .inr h

theorem Keyring.Holds.of_rename {oldName newName : String}
    (h : (ring.rename connectorName oldName newName).Holds token) : ring.Holds token := by
  rcases h.of_set with hmoved | hkept
  · rcases Option.or_eq_some_iff.mp hmoved with hold | ⟨-, hnew⟩
    · exact ⟨_, _, hold⟩
    · exact ⟨_, _, hnew⟩
  · exact hkept.of_set.resolve_left fun heq => nomatch heq

theorem Keyring.Holds.of_after {vault : Vault} {request : CredentialRequest}
    (h : (ring.after vault freshToken request).Holds token) : token = freshToken ∨ ring.Holds token := by
  cases request with
  | storeCredentials body =>
      simp only [after] at h
      split at h
      · exact .inr h
      · refine h.of_ensure.imp_right fun hheld => ?_
        split at hheld
        · exact hheld.of_rename
        · exact hheld
  | getCredentials connectorName credentialName =>
      simp only [after] at h
      split at h
      · exact .inr h
      · exact h.of_ensure
  | deleteCredentials connectorName credentialName =>
      simp only [after] at h
      split at h
      · exact .inr (h.of_set.resolve_left fun heq => nomatch heq)
      · obtain ⟨connector, name, htoken⟩ := h
        rw [Function.update_apply] at htoken
        split at htoken
        · cases htoken
        · exact .inr ⟨connector, name, htoken⟩
  | regenerateCredentialToken connectorName credentialName =>
      simp only [after] at h
      split at h
      · exact .inr h
      · exact h.of_set.imp_left fun heq => (Option.some.inj heq).symm
  | resolveCredentialToken _ => exact .inr h
  | store connectorName credentialName key value => exact .inr h
  | saveWorkflows workflows => exact .inr h

variable {tenants : Tenants}

theorem Tenants.Sound.authenticates (h : tenants.Sound) {tenantId : String} :
    tenants.Authenticates token tenantId ↔ (tenants tenantId).keyring.Holds token := by
  constructor
  · intro hsome
    obtain ⟨row, hrow⟩ := Option.isSome_iff_exists.mp hsome
    have hfound := List.find?_some hrow
    simp only [Bool.and_eq_true, beq_iff_eq] at hfound
    exact ⟨_, _, hfound.1 ▸ ((h tenantId row).mp (List.mem_of_find?_eq_some hrow)).2⟩
  · rintro ⟨connectorName, credentialName, htoken⟩
    refine List.find?_isSome.mpr ⟨⟨connectorName, credentialName, token, true⟩, ?_, by simp⟩
    exact (h tenantId _).mpr ⟨rfl, htoken⟩

theorem authenticates_of_call (h : tenants.Sound) {call : CredentialCall}
    {tenantId : String} (hafter : (call.serve tenants).2.Authenticates token tenantId) :
    tenantId = call.tenantId ∧ token = call.freshToken ∨ tenants.Authenticates token tenantId := by
  by_cases htenant : tenantId = call.tenantId
  · subst htenant
    rw [(h.step call).authenticates, h.keyring] at hafter
    exact hafter.of_after.imp (fun heq => ⟨rfl, heq⟩) h.authenticates.mpr
  · rw [Tenants.Authenticates, call.serve_of_ne htenant] at hafter
    exact .inr hafter

/-- The tokens have been made, and each of them authenticates one tenant at most. -/
structure Tenants.Sealed (tenants : Tenants) (made : List String) : Prop where
  made : ∀ tenantId token, tenants.Authenticates token tenantId → token ∈ made
  tenant : ∀ token tenantId tenantId', tenants.Authenticates token tenantId →
    tenants.Authenticates token tenantId' → tenantId = tenantId'

theorem Tenants.sealed_initial : Tenants.initial.Sealed [] :=
  ⟨fun _ _ hholds => absurd hholds Bool.false_ne_true, fun _ _ _ hholds => absurd hholds Bool.false_ne_true⟩

theorem Tenants.Sealed.step {made : List String} (hsealed : tenants.Sealed made)
    (h : tenants.Sound) {call : CredentialCall} (hfresh : call.freshToken ∉ made) :
    (call.serve tenants).2.Sealed (made ++ [call.freshToken]) where
  made tenantId token hholds := by
    rw [List.mem_append, List.mem_singleton]
    rcases authenticates_of_call h hholds with ⟨-, heq⟩ | hheld
    · exact .inr heq
    · exact .inl (hsealed.made tenantId token hheld)
  tenant token tenantId tenantId' hfirst hsecond := by
    rcases authenticates_of_call h hfirst with ⟨htenant, rfl⟩ | hheld
    · rcases authenticates_of_call h hsecond with ⟨htenant', -⟩ | hheld'
      · exact htenant.trans htenant'.symm
      · exact absurd (hsealed.made _ _ hheld') hfresh
    · rcases authenticates_of_call h hsecond with ⟨-, rfl⟩ | hheld'
      · exact absurd (hsealed.made _ _ hheld) hfresh
      · exact hsealed.tenant token tenantId tenantId' hheld hheld'

theorem Tenants.Sealed.run {made : List String} (hsealed : tenants.Sealed made)
    (h : tenants.Sound) (calls : List CredentialCall)
    (hnodup : (made ++ calls.map (·.freshToken)).Nodup) :
    (tenants.after calls).Sealed (made ++ calls.map (·.freshToken)) ∧
      ∀ token ∈ made, ∀ tenantId, (tenants.after calls).Authenticates token tenantId →
        tenants.Authenticates token tenantId := by
  induction calls generalizing tenants made with
  | nil => exact ⟨by rwa [List.map_nil, List.append_nil], fun _ _ _ => id⟩
  | cons call rest ih =>
      rw [List.map_cons, List.append_cons] at hnodup ⊢
      have hfresh : call.freshToken ∉ made := fun hmade =>
        List.disjoint_of_nodup_append (List.nodup_append'.mp hnodup).1 hmade (List.mem_singleton_self _)
      obtain ⟨hafter, hheld⟩ := ih (hsealed.step h hfresh) (h.step call) hnodup
      refine ⟨hafter, fun token hmade tenantId hauthenticates => ?_⟩
      have hbefore := hheld token (List.mem_append_left _ hmade) tenantId hauthenticates
      refine (authenticates_of_call h hbefore).resolve_left ?_
      rintro ⟨-, rfl⟩
      exact hfresh hmade

/-- If the tokens that are made are distinct, then after any calls a token authenticates one tenant at most, and
a token that has been made authenticates later only a tenant that it authenticates now: once its set is deleted
or its token made anew, it never comes back. -/
theorem tokens_final (calls later : List CredentialCall)
    (hnodup : ((calls ++ later).map (·.freshToken)).Nodup) :
    (∀ token tenantId tenantId', (Tenants.initial.after calls).Authenticates token tenantId →
        (Tenants.initial.after calls).Authenticates token tenantId' → tenantId = tenantId') ∧
      ∀ token ∈ calls.map (·.freshToken), ∀ tenantId,
        ((Tenants.initial.after calls).after later).Authenticates token tenantId →
          (Tenants.initial.after calls).Authenticates token tenantId := by
  rw [List.map_append] at hnodup
  have hsealed := (Tenants.sealed_initial.run Tenants.sound_initial calls (List.nodup_append'.mp hnodup).1).1
  exact ⟨hsealed.tenant, (hsealed.run (Tenants.sound_initial.after calls) later hnodup).2⟩

end Finality

end Gateway

namespace Sample

open Gateway

def storing : CredentialRequest :=
  .storeCredentials ⟨"slack", "default", none, CredentialSet.empty.put "token" "secret"⟩

def deletion : List CredentialCall :=
  [⟨"tenant", storing, "ctok_a"⟩, ⟨"tenant", .deleteCredentials "slack" (some "default"), "ctok_b"⟩]

end Sample

/-- The token of a deleted set stays invalid when the set is stored again. -/
theorem tokens_final_deletion :
    ¬ ((Gateway.Tenants.initial.after Sample.deletion).after
      [⟨"tenant", Sample.storing, "ctok_c"⟩]).Authenticates "ctok_a" "tenant" := by
  intro hauthenticates
  have hbefore := (Gateway.tokens_final Sample.deletion _ (by decide)).2 "ctok_a" (by decide) "tenant"
    hauthenticates
  exact absurd hbefore (by decide)

end IntegrationPlatform
