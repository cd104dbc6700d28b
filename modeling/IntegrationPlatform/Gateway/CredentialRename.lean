import IntegrationPlatform.Gateway.CredentialLookups

/-!
# Renaming credentials

What becomes of the lookups of a credential set when the set is renamed. A node that names the set
is renamed with it. The name that a node leaves out and those of the actions of error handlers are
not, and the OAuth2 tokens stay under the old name.
-/

namespace IntegrationPlatform

namespace Gateway

section Transparency

variable (world : CredentialWorld) (body : CredentialStore) (oldName : String) (state after : TenantState)

/-- The values of the old set, overridden by the submitted ones. -/
def renamedSet : CredentialSet :=
  (state.vault body.connectorName oldName).merge (submittedCredentialValues body.credentials)

/-- What the lookups of the old set are to resolve to: its values, overridden by the submitted
ones, with the OAuth2 token of the old set. -/
def expectedCredentials (oauth2 : Bool) : CredentialSet :=
  sentCredentials world body.connectorName (state.accessToken world body.connectorName oldName)
    oauth2 (renamedSet body oldName state)

/-- The connector of a node: that of a think node is always the same. -/
def WorkflowNode.connector (node : WorkflowNode) : Value :=
  if node.type = "think" then .str "ai-agent" else node.connectorName

/-- A node is renamed transparently: what looked up the old set finds what is expected, and the
node is left alone if it is one of another connector. -/
structure NodeTransparent (node renamed : WorkflowNode) : Prop where
  lookups : List.Forall₂ (fun lookup lookup' : Lookup =>
      lookup.connectorName = body.connectorName → lookup.credentialName = oldName →
        (after.resolve world lookup').Same
          (expectedCredentials world body oldName state lookup.oauth2))
    (node.lookups world) (renamed.lookups world)
  other : node.connector ≠ .str body.connectorName → renamed = node

/-- A set is renamed transparently. -/
structure RenameTransparent : Prop where
  nodes : List.Forall₂ (fun workflow workflow' : Workflow =>
      List.Forall₂ (NodeTransparent world body oldName state after) workflow.nodes workflow'.nodes)
    state.workflows after.workflows
  oauth : ∀ config, after.accessToken world body.connectorName body.credentialName config =
    state.accessToken world body.connectorName oldName config
  token : ∀ token row, tokenRow state.tokens token = some row →
    row.connectorName = body.connectorName → row.credentialName = oldName →
      ∃ credentials, after.resolveToken token = some credentials ∧
        credentials.Same (renamedSet body oldName state)

/-- The new name is not in use. -/
structure TenantState.Unused (state : TenantState) (connectorName credentialName : String) : Prop where
  vault : state.vault connectorName credentialName = .empty
  tokens : ∀ row ∈ state.tokens,
    ¬ (row.connectorName = connectorName ∧ row.credentialName = credentialName)
  oauthTokens : state.oauthTokens connectorName credentialName = []

/-- There is nothing to look up: the old set has no values and none are submitted, up to the access
token where it comes from OAuth2. -/
def NoSecrets (oauth2 : Bool) : Prop :=
  ∀ key, (oauth2 = true → world.oauth2Config body.connectorName ≠ none → key ≠ "access_token") →
    (state.vault body.connectorName oldName).find key = none ∧
      (submittedCredentialValues body.credentials).find key = none

/-- The rename reaches all that refers to the old set: no OAuth2 token can be used under the old
name, all lookups of the set with secrets are those of nodes that name it, and no think node names
the connector, where that is another one than its own. -/
structure RenameReaches : Prop where
  token : ∀ config, state.accessToken world body.connectorName oldName config = none
  named : ∀ workflow ∈ state.workflows, ∀ node ∈ workflow.nodes, ∀ lookup ∈ node.lookups world,
    lookup.connectorName = body.connectorName → lookup.credentialName = oldName →
      (node.type ≠ "error_handler" ∧ node.config.has "credential_name" = true) ∨
        NoSecrets world body oldName state lookup.oauth2
  think : ∀ workflow ∈ state.workflows, ∀ node ∈ workflow.nodes, node.type = "think" →
    body.connectorName ≠ "ai-agent" → isText (some node.connectorName) body.connectorName = true →
      isText (node.config.find "credential_name") oldName = false

end Transparency

section Proofs

variable {world : CredentialWorld} {body : CredentialStore} {oldName : String}
  {state : TenantState} {node : WorkflowNode} {connectorName newName : String} {oauth2 : Bool}

/-- The lookups of the old set with secrets that the node makes are its own, if it names the set. -/
def NamedAlone (world : CredentialWorld) (body : CredentialStore) (oldName : String)
    (state : TenantState) (node : WorkflowNode) : Prop :=
  ∀ lookup ∈ node.lookups world, lookup.connectorName = body.connectorName →
    lookup.credentialName = oldName →
      (node.type ≠ "error_handler" ∧ node.config.has "credential_name" = true) ∨
        NoSecrets world body oldName state lookup.oauth2

/-- The node is no think node that names the connector, where that is another one than its own. -/
def ThinksAlone (connectorName oldName : String) (node : WorkflowNode) : Prop :=
  node.type = "think" → connectorName ≠ "ai-agent" →
    isText (some node.connectorName) connectorName = true →
      isText (node.config.find "credential_name") oldName = false

theorem noSecrets_iff
    (hnone : ∀ config, state.accessToken world body.connectorName oldName config = none) :
    (expectedCredentials world body oldName state oauth2).Same .empty ↔
      NoSecrets world body oldName state oauth2 := by
  refine (sentCredentials_same_empty hnone _).trans ?_
  refine forall_congr' fun key => imp_congr_right fun _ => ?_
  rw [renamedSet, CredentialSet.find_merge, Option.or_eq_none_iff]
  exact and_comm

/-! ## Renamed nodes -/

theorem find_renamed (node : WorkflowNode) {key : String} (hkey : key ≠ "credential_name") :
    (node.renamed connectorName oldName newName).config.find key = node.config.find key := by
  unfold WorkflowNode.renamed
  split
  · rw [Assoc.find_put, if_neg (Ne.symm hkey)]
  · rfl

theorem type_renamed (node : WorkflowNode) :
    (node.renamed connectorName oldName newName).type = node.type := by
  unfold WorkflowNode.renamed
  split <;> rfl

theorem usedConnector_renamed (node : WorkflowNode) :
    (node.renamed connectorName oldName newName).usedConnector = node.usedConnector := by
  unfold WorkflowNode.usedConnector WorkflowNode.hasValue WorkflowNode.connectorName
  rw [type_renamed, find_renamed node (by decide), find_renamed node (by decide),
    find_renamed node (by decide)]

theorem handlerLookups_renamed (node : WorkflowNode) :
    handlerLookups world (node.renamed connectorName oldName newName) =
      handlerLookups world node := by
  unfold handlerLookups
  rw [find_renamed node (by decide)]

theorem renamed_of_not_has (h : node.config.has "credential_name" = false) :
    node.renamed connectorName oldName newName = node := by
  have hnone : node.config.find "credential_name" = none := by
    unfold Assoc.has at h
    exact Option.not_isSome_iff_eq_none.mp (by simp [h])
  unfold WorkflowNode.renamed WorkflowNode.refersTo
  rw [hnone]
  rfl

theorem isText_iff {value : Option Value} {text : String} :
    isText value text = true ↔ value = some (.str text) := by
  cases value with
  | none => simp [isText]
  | some value => cases value <;> simp [isText]

theorem usedConnector_cases {used : Value} (h : node.usedConnector = some (used, oauth2)) :
    used = node.connectorName ∨ (node.type = "think" ∧ used = .str "ai-agent") := by
  unfold WorkflowNode.usedConnector at h
  split_ifs at h with haction _ hhttp _ hthink _ htrigger _ <;>
    simp only [Option.some.injEq, Prod.mk.injEq] at h
  · exact .inl h.1.symm
  · exact .inl h.1.symm
  · exact .inr ⟨hthink, h.1.symm⟩
  · exact .inl h.1.symm

variable {lookup : Lookup}

theorem mem_lookupOf {first second : Value} (h : lookup ∈ lookupOf first second oauth2) :
    first = .str lookup.connectorName ∧ second = .str lookup.credentialName := by
  unfold lookupOf at h
  split at h
  · cases List.mem_singleton.mp h
    exact ⟨rfl, rfl⟩
  · cases h

theorem lookups_renamed_of_not
    (h : ¬ (node.type ≠ "error_handler" ∧ node.config.has "credential_name" = true)) :
    (node.renamed connectorName oldName newName).lookups world = node.lookups world := by
  by_cases hhandler : node.type = "error_handler"
  · unfold WorkflowNode.lookups
    rw [type_renamed, if_pos hhandler, if_pos hhandler, handlerLookups_renamed]
  · have hhas : node.config.has "credential_name" = false := by
      simpa [hhandler] using h
    rw [renamed_of_not_has hhas]

theorem refersTo_of_lookup (hhandler : node.type ≠ "error_handler")
    (hhas : node.config.has "credential_name" = true) (hlookup : lookup ∈ node.lookups world) :
    node.refersTo lookup.connectorName lookup.credentialName = true := by
  unfold WorkflowNode.lookups at hlookup
  rw [if_neg hhandler] at hlookup
  cases hused : node.usedConnector with
  | none => simp [hused] at hlookup
  | some used =>
      obtain ⟨connector, oauth2⟩ := used
      simp only [hused] at hlookup
      obtain ⟨hconnector, hname⟩ := mem_lookupOf hlookup
      obtain ⟨name, hfind⟩ := Option.isSome_iff_exists.mp hhas
      have htext : isText (node.config.find "credential_name") lookup.credentialName = true := by
        rw [isText_iff, hfind]
        unfold WorkflowNode.credentialName at hname
        rw [hfind] at hname
        exact congrArg some hname
      unfold WorkflowNode.refersTo
      rw [htext, Bool.true_and, Bool.or_eq_true]
      rcases usedConnector_cases hused with hown | ⟨hthink, hagent⟩
      · left
        rw [isText_iff, ← hconnector, hown]
        rfl
      · right
        rw [hagent] at hconnector
        simp only [Value.str.injEq] at hconnector
        simp [hthink, ← hconnector]

theorem credentialName_renamed (newName : String) (h : node.refersTo connectorName oldName = true) :
    node.credentialName = .str oldName ∧
      (node.renamed connectorName oldName newName).credentialName = .str newName := by
  have hfind : node.config.find "credential_name" = some (.str oldName) :=
    isText_iff.mp (Bool.and_eq_true_iff.mp h).1
  constructor
  · rw [WorkflowNode.credentialName, hfind]
    rfl
  · unfold WorkflowNode.renamed
    rw [if_pos h]
    unfold WorkflowNode.credentialName
    rw [Assoc.find_put, if_pos rfl]
    rfl

theorem renamed_of_not (h : ¬ node.refersTo connectorName oldName = true) :
    node.renamed connectorName oldName newName = node :=
  if_neg h

/-! ## One node -/

section Node

variable {after : TenantState} (hold : after.vault body.connectorName oldName = .empty)
  (hnew : ∀ oauth2, (after.resolve world ⟨body.connectorName, newName, oauth2⟩).Same
    (expectedCredentials world body oldName state oauth2))
  (hnone : ∀ config, state.accessToken world body.connectorName oldName config = none)

include hold in
theorem resolve_old (hconnector : lookup.connectorName = body.connectorName)
    (hname : lookup.credentialName = oldName) : after.resolve world lookup = .empty := by
  unfold TenantState.resolve
  rw [hconnector, hname, hold, sentCredentials_empty]

include hold hnone in
theorem resolve_old_iff (hconnector : lookup.connectorName = body.connectorName)
    (hname : lookup.credentialName = oldName) :
    (after.resolve world lookup).Same
        (expectedCredentials world body oldName state lookup.oauth2) ↔
      NoSecrets world body oldName state lookup.oauth2 := by
  rw [resolve_old hold hconnector hname, ← noSecrets_iff hnone]
  exact ⟨fun h key => (h key).symm, fun h key => (h key).symm⟩

include hold hnew hnone in
/-- The lookups of a renamed node find what is expected. -/
theorem lookups_transparent
    (hnamed : NamedAlone world body oldName state node) :
    List.Forall₂ (fun lookup lookup' : Lookup =>
      lookup.connectorName = body.connectorName → lookup.credentialName = oldName →
        (after.resolve world lookup').Same
          (expectedCredentials world body oldName state lookup.oauth2))
      (node.lookups world)
      ((node.renamed body.connectorName oldName newName).lookups world) := by
  by_cases hown : node.type ≠ "error_handler" ∧ node.config.has "credential_name" = true
  · by_cases hrefers : node.refersTo body.connectorName oldName = true
    · obtain ⟨hbefore, hafter⟩ := credentialName_renamed newName hrefers
      unfold WorkflowNode.lookups
      rw [type_renamed, if_neg hown.1, if_neg hown.1, usedConnector_renamed, hbefore, hafter]
      cases node.usedConnector with
      | none => exact .nil
      | some used =>
          obtain ⟨connector, oauth2⟩ := used
          cases connector with
          | str name =>
              refine .cons ?_ .nil
              intro hconnector _
              have hname : name = body.connectorName := hconnector
              subst hname
              exact hnew oauth2
          | _ => exact .nil
    · rw [renamed_of_not hrefers, List.forall₂_same]
      intro lookup hlookup hconnector hname
      have hrefersTo := refersTo_of_lookup hown.1 hown.2 hlookup
      rw [hconnector, hname] at hrefersTo
      exact absurd hrefersTo hrefers
  · rw [lookups_renamed_of_not hown, List.forall₂_same]
    intro lookup hlookup hconnector hname
    exact (resolve_old_iff hold hnone hconnector hname).mpr
      ((hnamed lookup hlookup hconnector hname).resolve_left hown)

theorem renamed_other (hconnector : node.connector ≠ .str connectorName)
    (hthink : ThinksAlone connectorName oldName node) :
    node.renamed connectorName oldName newName = node := by
  refine renamed_of_not fun hrefers => ?_
  obtain ⟨hname, hmatches⟩ := Bool.and_eq_true_iff.mp hrefers
  unfold WorkflowNode.connector at hconnector
  by_cases htype : node.type = "think"
  · rw [if_pos htype] at hconnector
    have hagent : connectorName ≠ "ai-agent" := fun heq => hconnector (by rw [heq])
    rcases Bool.or_eq_true_iff.mp hmatches with hown | hboth
    · have hnot := hthink htype hagent hown
      rw [hname] at hnot
      cases hnot
    · simp [hagent] at hboth
  · rw [if_neg htype] at hconnector
    rcases Bool.or_eq_true_iff.mp hmatches with hown | hboth
    · exact hconnector (Option.some.inj (isText_iff.mp hown))
    · simp [htype] at hboth

include hold hnew hnone in
theorem nodeTransparent_iff (hne : oldName ≠ newName) :
    NodeTransparent world body oldName state after node
        (node.renamed body.connectorName oldName newName) ↔
      NamedAlone world body oldName state node ∧ ThinksAlone body.connectorName oldName node := by
  constructor
  · intro h
    refine ⟨?_, ?_⟩
    · intro lookup hlookup hconnector hname
      refine or_iff_not_imp_left.mpr fun hown => ?_
      have hsame := h.lookups
      rw [lookups_renamed_of_not hown, List.forall₂_same] at hsame
      exact (resolve_old_iff hold hnone hconnector hname).mp
        (hsame lookup hlookup hconnector hname)
    · intro htype hagent hconnector
      by_contra hname
      have hrefers : node.refersTo body.connectorName oldName = true := by
        unfold WorkflowNode.refersTo
        rw [Bool.and_eq_true_iff, Bool.or_eq_true_iff]
        exact ⟨by simpa using hname, .inl hconnector⟩
      have hother : node.connector ≠ .str body.connectorName := by
        unfold WorkflowNode.connector
        rw [if_pos htype]
        simpa using Ne.symm hagent
      obtain ⟨hbefore, hafter⟩ := credentialName_renamed newName hrefers
      rw [h.other hother, hbefore] at hafter
      exact hne (Value.str.inj hafter)
  · rintro ⟨hnamed, hthink⟩
    exact ⟨lookups_transparent hold hnew hnone hnamed, fun hconnector => renamed_other hconnector hthink⟩

end Node

/-! ## The request -/

theorem tokenRow_renameToken (tokens : List CredentialToken)
    (connectorName oldName newName token : String) :
    tokenRow (renameToken tokens connectorName oldName newName) token =
      (tokenRow tokens token).map fun row =>
        if row.connectorName = connectorName ∧ row.credentialName = oldName then
          { row with credentialName := newName }
        else row := by
  unfold tokenRow renameToken
  rw [List.find?_map]
  congr 2
  funext row
  show ((if _ then _ else row : CredentialToken).token == token &&
    (if _ then _ else row : CredentialToken).isActive) = _
  split <;> rfl

theorem tokenRow_getOrCreateToken {tokens : List CredentialToken} {token : String}
    {row : CredentialToken} (h : tokenRow tokens token = some row)
    (connectorName credentialName freshToken : String) :
    tokenRow (getOrCreateToken tokens connectorName credentialName freshToken).1 token =
      some row := by
  unfold getOrCreateToken
  split
  · exact h
  · unfold tokenRow at h ⊢
    rw [List.find?_append, h]
    rfl

theorem renames_ne (h : body.renames = some oldName) : oldName ≠ body.credentialName := by
  have hfilter := (Option.filter_eq_some_iff.mp h).2
  simp only [ne_eq, decide_not, Bool.and_eq_true, Bool.not_eq_true', decide_eq_false_iff_not]
    at hfilter
  exact hfilter.2

theorem storeCredentials_renames (h : body.renames = some oldName) (freshToken : String) :
    (storeCredentials body freshToken state).1 =
      { vault := (state.vault.storeAll body.connectorName body.credentialName
          (renamedSet body oldName state)).delete body.connectorName oldName
        tokens := (getOrCreateToken
          (renameToken state.tokens body.connectorName oldName body.credentialName)
          body.connectorName body.credentialName freshToken).1
        oauthTokens := state.oauthTokens
        workflows := state.workflows.map fun workflow => { workflow with
          nodes := workflow.nodes.map
            (·.renamed body.connectorName oldName body.credentialName) } } := by
  unfold storeCredentials
  rw [h]
  rfl

section Request

variable (hrenames : body.renames = some oldName)
  (hunused : state.Unused body.connectorName body.credentialName) (freshToken : String)

include hrenames in
theorem storeCredentials_old :
    (storeCredentials body freshToken state).1.vault body.connectorName oldName = .empty := by
  rw [storeCredentials_renames hrenames]
  exact Vault.set_self _

include hrenames hunused in
theorem storeCredentials_new :
    ((storeCredentials body freshToken state).1.vault body.connectorName
      body.credentialName).Same (renamedSet body oldName state) := by
  intro key
  rw [storeCredentials_renames hrenames]
  show (Vault.set (state.vault.storeAll body.connectorName body.credentialName
    (renamedSet body oldName state)) body.connectorName oldName .empty body.connectorName
      body.credentialName).find key = _
  rw [Vault.set_of_ne (renames_ne hrenames).symm, Vault.storeAll_eq, Vault.set_self, hunused.vault,
    CredentialSet.find_merge, CredentialSet.find_empty, Option.or_none]

include hrenames hunused in
theorem storeCredentials_accessToken (config : Dict) :
    (storeCredentials body freshToken state).1.accessToken world body.connectorName
      body.credentialName config = none := by
  rw [storeCredentials_renames hrenames]
  unfold TenantState.accessToken
  rw [hunused.oauthTokens]
  rfl

include hrenames hunused in
theorem storeCredentials_resolve
    (hnone : ∀ config, state.accessToken world body.connectorName oldName config = none)
    (oauth2 : Bool) :
    ((storeCredentials body freshToken state).1.resolve world
      ⟨body.connectorName, body.credentialName, oauth2⟩).Same
        (expectedCredentials world body oldName state oauth2) := by
  have htoken : (storeCredentials body freshToken state).1.accessToken world body.connectorName
      body.credentialName = state.accessToken world body.connectorName oldName := by
    funext config
    exact (storeCredentials_accessToken hrenames hunused freshToken config).trans
      (hnone config).symm
  unfold TenantState.resolve expectedCredentials
  rw [htoken]
  exact sentCredentials_same (storeCredentials_new hrenames hunused freshToken)

include hrenames hunused in
theorem storeCredentials_resolveToken {token : String} {row : CredentialToken}
    (hrow : tokenRow state.tokens token = some row) (hconnector : row.connectorName = body.connectorName)
    (hname : row.credentialName = oldName) :
    ∃ credentials, (storeCredentials body freshToken state).1.resolveToken token = some credentials ∧
      credentials.Same (renamedSet body oldName state) := by
  refine ⟨_, ?_, storeCredentials_new hrenames hunused freshToken⟩
  have hrenamed := tokenRow_renameToken state.tokens body.connectorName oldName
    body.credentialName token
  rw [hrow, Option.map_some, if_pos ⟨hconnector, hname⟩] at hrenamed
  have hkept := tokenRow_getOrCreateToken hrenamed body.connectorName body.credentialName freshToken
  rw [storeCredentials_renames hrenames]
  unfold TenantState.resolveToken
  rw [hkept, Option.map_some, hconnector]

include hrenames hunused in
theorem nodes_transparent_iff
    (hnone : ∀ config, state.accessToken world body.connectorName oldName config = none) :
    List.Forall₂ (fun workflow workflow' : Workflow =>
        List.Forall₂ (NodeTransparent world body oldName state
          (storeCredentials body freshToken state).1) workflow.nodes workflow'.nodes)
        state.workflows (storeCredentials body freshToken state).1.workflows ↔
      ∀ workflow ∈ state.workflows, ∀ node ∈ workflow.nodes,
        NamedAlone world body oldName state node ∧ ThinksAlone body.connectorName oldName node := by
  have hworkflows : (storeCredentials body freshToken state).1.workflows =
      state.workflows.map fun workflow => { workflow with
        nodes := workflow.nodes.map
          (·.renamed body.connectorName oldName body.credentialName) } :=
    congrArg TenantState.workflows (storeCredentials_renames hrenames freshToken)
  rw [hworkflows, List.forall₂_map_right_iff, List.forall₂_same]
  refine forall_congr' fun workflow => imp_congr_right fun _ => ?_
  rw [List.forall₂_map_right_iff, List.forall₂_same]
  refine forall_congr' fun node => imp_congr_right fun _ => ?_
  exact nodeTransparent_iff (storeCredentials_old hrenames freshToken)
    (storeCredentials_resolve hrenames hunused freshToken hnone) hnone (renames_ne hrenames)

include hrenames hunused in
theorem RenameTransparent.reaches
    (h : RenameTransparent world body oldName state (storeCredentials body freshToken state).1) :
    RenameReaches world body oldName state := by
  have hnone : ∀ config, state.accessToken world body.connectorName oldName config = none :=
    fun config => (h.oauth config).symm.trans
      (storeCredentials_accessToken hrenames hunused freshToken config)
  have hall := (nodes_transparent_iff hrenames hunused freshToken hnone).mp h.nodes
  exact ⟨hnone, fun workflow hworkflow node hnode => (hall workflow hworkflow node hnode).1,
    fun workflow hworkflow node hnode => (hall workflow hworkflow node hnode).2⟩

include hrenames hunused in
theorem RenameReaches.transparent (h : RenameReaches world body oldName state) :
    RenameTransparent world body oldName state (storeCredentials body freshToken state).1 where
  nodes := (nodes_transparent_iff hrenames hunused freshToken h.token).mpr
    fun workflow hworkflow node hnode =>
      ⟨h.named workflow hworkflow node hnode, h.think workflow hworkflow node hnode⟩
  oauth config := (storeCredentials_accessToken hrenames hunused freshToken config).trans
    (h.token config).symm
  token _ _ hrow hconnector hname :=
    storeCredentials_resolveToken hrenames hunused freshToken hrow hconnector hname

end Request

/-- A rename to a name that is not in use is transparent if and only if it reaches all that refers
to the old set. -/
theorem renameTransparent_iff (world : CredentialWorld) (body : CredentialStore)
    (state : TenantState) (freshToken : String) (hrenames : body.renames = some oldName)
    (hunused : state.Unused body.connectorName body.credentialName) :
    RenameTransparent world body oldName state (storeCredentials body freshToken state).1 ↔
      RenameReaches world body oldName state :=
  ⟨fun h => h.reaches hrenames hunused freshToken,
    fun h => h.transparent hrenames hunused freshToken⟩

end Proofs

end Gateway

namespace Sample

open Gateway

def credentialWorld : CredentialWorld where
  lowered value := match value with
    | .str text => text
    | _ => ""
  oauth2Config _ := none
  now := 0
  refresh _ _ := none

def rebranding : CredentialStore where
  connectorName := "slack"
  credentialName := "live"
  oldCredentialName := some "production"
  credentials := .empty

/-- A tenant with one set of credentials, and one workflow with this node. -/
def tenantWith (node : WorkflowNode) : TenantState where
  vault connectorName credentialName :=
    if connectorName = "slack" ∧ credentialName = "production" then
      CredentialSet.empty.put "token" "secret"
    else .empty
  tokens := []
  oauthTokens _ _ := []
  workflows := [{ tenantId := "tenant", name := "workflow", nodes := [node] }]

def sender : WorkflowNode where
  id := "send"
  type := "action"
  config := [("connector_name", .str "slack"), ("action", .str "message.send"),
    ("credential_name", .str "production")]

def notifier : WorkflowNode where
  id := "handler"
  type := "error_handler"
  config := [("actions", .list [.dict [("type", .str "notify"), ("connector_name", .str "slack"),
    ("credential_name", .str "production")]])]

theorem unused (node : WorkflowNode) : (tenantWith node).Unused "slack" "live" where
  vault := rfl
  tokens row hrow := by cases hrow
  oauthTokens := rfl

end Sample

/-- The lookup of an action that names the set finds it under the new name. -/
theorem sender_renamed :
    Gateway.RenameTransparent Sample.credentialWorld Sample.rebranding "production"
      (Sample.tenantWith Sample.sender)
      (Gateway.storeCredentials Sample.rebranding "ctok" (Sample.tenantWith Sample.sender)).1 := by
  refine (Gateway.renameTransparent_iff _ _ _ _ (by decide) (Sample.unused _)).mpr ⟨?_, ?_, ?_⟩
  · exact fun _ => rfl
  · intro workflow hworkflow node hnode lookup _ _ _
    cases List.mem_singleton.mp hworkflow
    cases List.mem_singleton.mp hnode
    exact .inl ⟨by decide, rfl⟩
  · intro workflow hworkflow node hnode htype
    cases List.mem_singleton.mp hworkflow
    cases List.mem_singleton.mp hnode
    exact absurd htype (by decide)

/-- The notification of an error handler still looks for the old set. -/
theorem notifier_forgotten :
    ¬ Gateway.RenameTransparent Sample.credentialWorld Sample.rebranding "production"
      (Sample.tenantWith Sample.notifier)
      (Gateway.storeCredentials Sample.rebranding "ctok" (Sample.tenantWith Sample.notifier)).1 := by
  intro htransparent
  have hreaches := htransparent.reaches (by decide) (Sample.unused _)
  rcases hreaches.named _ (List.mem_singleton_self _) _ (List.mem_singleton_self _)
    ⟨"slack", "production", true⟩ (List.mem_singleton_self _) rfl rfl with hown | hnothing
  · exact hown.1 rfl
  · have htoken := (hnothing "token" fun _ hconfig => absurd rfl hconfig).1
    exact absurd htoken (by decide)

end IntegrationPlatform
