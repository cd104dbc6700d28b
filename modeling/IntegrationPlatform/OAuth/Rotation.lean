import IntegrationPlatform.OAuth.Tokens

/-!
# Providers that rotate refresh tokens

A provider that issues a new refresh token whenever it is shown the valid one, and refuses all
others. A refresh is kept if the session in which it happens is committed. `rotation_iff` says along
which sequences the database has the valid refresh token.
-/

namespace IntegrationPlatform

namespace OAuth

open Gateway (CredentialSet OAuthToken)

/-! ## The provider -/

/-- What a provider issues, to the authorization first and then to one refresh after another. -/
structure Provider where
  issue : Nat → TokenData
  token : Nat → String
  issues : ∀ number, nonempty (issue number).refreshToken = some (token number)
  rotates : ∀ number, token (number + 1) ≠ token number

/-- The reply to a refresh after so many refreshes, and their number after it. -/
def Provider.reply (provider : Provider) (issued : Nat) (presented : String) (reachable : Bool) :
    Reply × Nat :=
  if !reachable then (.failed, issued)
  else if presented = provider.token issued then (.issued (provider.issue (issued + 1)), issued + 1)
  else (.refused, issued)

/-- The reply to a refresh, for which a row needs a refresh token. -/
def Provider.refresh (provider : Provider) (issued : Nat) (token : OAuthToken) (reachable : Bool) :
    Reply × Nat :=
  match token.refreshToken with
  | some presented => provider.reply issued presented reachable
  | none => (.failed, issued)

/-! ## Sessions -/

/-- The row of a credential set and the set in the vault, and those of other sets. -/
structure Database where
  token : OAuthToken
  vault : CredentialSet
  others : List (OAuthToken × CredentialSet)

/-- What is committed, and how many refreshes the provider has made for the row. -/
structure World where
  database : Database
  issued : Nat

/-- What happens to a credential set, at an instant. -/
inductive Occasion where
  /-- `_execute_connector_action` of a workflow, for a connector with or without OAuth2. -/
  | action (now : Int) (configured reachable : Bool)
  /-- `_refresh_expiring_tokens`, with the replies for the other rows. -/
  | cycle (now window : Int) (configured reachable : Bool) (replies : Nat → Reply)
  /-- `oauth2_manual_refresh`. -/
  | manual (now : Int) (reachable : Bool)

namespace World

variable (provider : Provider) (world : World)

/-- The session is closed, after a commit or without one. -/
def close (session : Database) (issued : Nat) (commits : Bool) : World :=
  ⟨if commits then session else world.database, issued⟩

/-- `_enrich_credentials_with_oauth2`: the session and the number of refreshes after it. Only an
expired token is refreshed. -/
def enrich (now : Int) (reachable : Bool) : Database × Nat :=
  let token := world.database.token
  let answer :=
    if token.status = "active" ∧ expired token now = true then
      provider.refresh world.issued token reachable
    else (.failed, world.issued)
  let after := getOrRefreshAccessToken token world.database.vault now true answer.1
  ({ world.database with token := after.1, vault := after.2.1 }, answer.2)

/-- `_execute_connector_action`, up to the dispatch. Its session is closed without a commit. -/
def action (now : Int) (configured reachable : Bool) : World :=
  if configured && !world.database.vault.entries.isEmpty then
    let session := world.enrich provider now reachable
    world.close session.1 session.2 false
  else world.close world.database world.issued false

/-- The background refresh of another row. An exception is caught. -/
def refreshOther (now window : Int) (row : OAuthToken × CredentialSet) (reply : Reply) :
    OAuthToken × CredentialSet :=
  if expiringSoon row.1 now window then
    let after := refreshToken row.1 row.2 now reply
    (after.1, after.2.1)
  else row

/-- `_refresh_expiring_tokens`. An exception is caught, and the session is committed at the end. -/
def cycle (now window : Int) (configured reachable : Bool) (replies : Nat → Reply) : World :=
  let others := world.database.others.mapIdx fun index row =>
    refreshOther now window row (replies index)
  let token := world.database.token
  if expiringSoon token now window && configured then
    let answer := provider.refresh world.issued token reachable
    let after := refreshToken token world.database.vault now answer.1
    world.close ⟨after.1, after.2.1, others⟩ answer.2 true
  else world.close { world.database with others } world.issued true

/-- `oauth2_manual_refresh`, which commits if the refresh returns. -/
def manual (now : Int) (reachable : Bool) : World :=
  let token := world.database.token
  let answer := provider.refresh world.issued token reachable
  let after := refreshToken token world.database.vault now answer.1
  world.close { world.database with token := after.1, vault := after.2.1 } answer.2 after.2.2

/-- The state after an occasion. -/
def step (provider : Provider) (world : World) : Occasion → World
  | .action now configured reachable => world.action provider now configured reachable
  | .cycle now window configured reachable replies =>
      world.cycle provider now window configured reachable replies
  | .manual now reachable => world.manual provider now reachable

/-- The state after an authorization. -/
def authorized (now : Int) (vault : CredentialSet) (others : List (OAuthToken × CredentialSet)) :
    World where
  database := ⟨(provider.issue 0).stored now, (provider.issue 0).store vault, others⟩
  issued := 0

/-- The database has the refresh token that the provider has issued, and the next refresh that
reaches the provider succeeds. -/
structure Kept (provider : Provider) (world : World) : Prop where
  contains : world.database.token.refreshToken = some (provider.token world.issued)
  succeeds : (provider.refresh world.issued world.database.token true).1 =
    .issued (provider.issue (world.issued + 1))

/-- No action of a workflow refreshes the token. -/
def Spares (world : World) : Occasion → Prop
  | .action now configured reachable =>
      ¬ (configured = true ∧ world.database.vault.entries.isEmpty = false ∧ reachable = true ∧
        world.database.token.status = "active" ∧ expired world.database.token now = true)
  | _ => True

/-! ## Refreshes that are kept -/

variable {provider : Provider} {world : World} {now : Int} {reachable : Bool}

theorem kept_iff : world.Kept provider ↔
    world.database.token.refreshToken = some (provider.token world.issued) := by
  constructor
  · intro h
    exact h.contains
  · intro h
    refine ⟨h, ?_⟩
    unfold Provider.refresh
    rw [h]
    unfold Provider.reply
    simp

theorem Kept.refresh (h : world.Kept provider) (reachable : Bool) :
    provider.refresh world.issued world.database.token reachable =
      if reachable then (.issued (provider.issue (world.issued + 1)), world.issued + 1)
      else (.failed, world.issued) := by
  unfold Provider.refresh
  rw [h.contains]
  unfold Provider.reply
  cases reachable <;> simp

theorem Kept.refreshToken (h : world.Kept provider) (now : Int) (vault : CredentialSet)
    (reachable : Bool) :
    OAuth.refreshToken world.database.token vault now
        (provider.refresh world.issued world.database.token reachable).1 =
      if reachable then
        ((provider.issue (world.issued + 1)).updated now world.database.token,
          (provider.issue (world.issued + 1)).store vault, true)
      else (world.database.token, vault, false) := by
  rw [h.refresh]
  unfold OAuth.refreshToken
  rw [h.contains]
  cases reachable <;> rfl

theorem refreshToken_updated (provider : Provider) (number : Nat) (now : Int) (token : OAuthToken) :
    ((provider.issue number).updated now token).refreshToken = some (provider.token number) := by
  unfold TokenData.updated
  rw [provider.issues]
  rfl

theorem Kept.manual (h : world.Kept provider) (now : Int) (reachable : Bool) :
    (world.manual provider now reachable).Kept provider := by
  rw [kept_iff]
  unfold World.manual World.close
  simp only [h.refreshToken]
  simp only [h.refresh]
  cases reachable with
  | false => exact h.contains
  | true => exact refreshToken_updated provider (world.issued + 1) now world.database.token

theorem Kept.cycle (h : world.Kept provider) (now window : Int) (configured reachable : Bool)
    (replies : Nat → Reply) :
    (world.cycle provider now window configured reachable replies).Kept provider := by
  rw [kept_iff]
  by_cases hdue : (expiringSoon world.database.token now window && configured) = true
  · simp only [World.cycle, World.close, hdue, if_true, h.refreshToken]
    simp only [h.refresh]
    cases reachable with
    | false => exact h.contains
    | true => exact refreshToken_updated provider (world.issued + 1) now world.database.token
  · simp only [World.cycle, World.close, hdue]
    exact h.contains

theorem Kept.action (h : world.Kept provider) (now : Int) (configured reachable : Bool) :
    (world.action provider now configured reachable).Kept provider ↔
      world.Spares (.action now configured reachable) := by
  rw [kept_iff]
  unfold World.action Spares
  by_cases hset : configured = true ∧ world.database.vault.entries.isEmpty = false
  · obtain ⟨rfl, hvault⟩ := hset
    simp only [hvault, Bool.not_false, Bool.and_self, if_true, World.close, enrich]
    by_cases hdue : world.database.token.status = "active" ∧ expired world.database.token now = true
    · simp only [if_pos hdue, h.refresh]
      cases reachable with
      | false => exact iff_of_true h.contains (by simp)
      | true =>
          -- The session is closed without a commit, and the provider knows the next token only.
          have hlost : ¬ world.database.token.refreshToken =
              some (provider.token (world.issued + 1)) := by
            rw [h.contains, Option.some.injEq]
            exact (provider.rotates world.issued).symm
          exact iff_of_false hlost (by simp [hdue])
    · simp only [if_neg hdue]
      refine iff_of_true h.contains ?_
      rintro ⟨-, -, -, hstatus, hexpired⟩
      exact hdue ⟨hstatus, hexpired⟩
  · have hclosed : (configured && !world.database.vault.entries.isEmpty) = false := by
      cases configured <;> simp_all
    simp only [hclosed]
    refine iff_of_true h.contains ?_
    rintro ⟨hconfigured, hvault, -⟩
    exact hset ⟨hconfigured, hvault⟩

theorem kept_step_iff (h : world.Kept provider) (occasion : Occasion) :
    (world.step provider occasion).Kept provider ↔ world.Spares occasion := by
  cases occasion with
  | action now configured reachable => exact h.action now configured reachable
  | cycle now window configured reachable replies =>
      exact iff_of_true (h.cycle now window configured reachable replies) trivial
  | manual now reachable => exact iff_of_true (h.manual now reachable) trivial

end World

/-- After an authorization, the database has the refresh token that the provider has issued last
after every occasion of a sequence if and only if no action of a workflow refreshes the token. -/
theorem rotation_iff (provider : Provider) (now : Int) (vault : CredentialSet)
    (others : List (OAuthToken × CredentialSet)) (occasions : List Occasion) :
    Along (World.step provider) (fun world occasion => (world.step provider occasion).Kept provider)
        (World.authorized provider now vault others) occasions ↔
      Along (World.step provider) World.Spares (World.authorized provider now vault others)
        occasions := by
  have hfirst : (World.authorized provider now vault others).Kept provider :=
    World.kept_iff.mpr (provider.issues 0)
  have hagree : ∀ (world : World) occasion, world.Kept provider →
      ((world.step provider occasion).Kept provider ↔ world.Spares occasion) :=
    fun _ occasion hkept => World.kept_step_iff hkept occasion
  exact along_iff hagree (fun _ _ _ hafter => hafter) hfirst occasions

/-- A provider whose refresh tokens grow. -/
def growing : Provider where
  issue number := ⟨"access", some (String.ofList (List.replicate (number + 1) 'r')), some 3600⟩
  token number := String.ofList (List.replicate (number + 1) 'r')
  issues number := by
    have hlength : String.ofList (List.replicate (number + 1) 'r') ≠ "" := by
      intro h
      have := congrArg String.length h
      simp at this
    simp [nonempty, Option.filter, hlength]
  rotates number h := by
    have := congrArg String.length h
    simp at this

/-- The refresh token that an action of a workflow has been issued is lost. -/
theorem refresh_lost :
    ¬ Along (World.step growing) (fun world occasion => (world.step growing occasion).Kept growing)
      (World.authorized growing 0 .empty []) [.action 3600 true true] := by
  rintro ⟨hkept, -⟩
  have hcontains := hkept.contains
  have hlost : (World.step growing (World.authorized growing 0 .empty [])
      (.action 3600 true true)).database.token.refreshToken ≠
        some (growing.token (World.step growing (World.authorized growing 0 .empty [])
          (.action 3600 true true)).issued) := by
    decide +kernel
  exact hlost hcontains

end OAuth

end IntegrationPlatform
