import IntegrationPlatform.Gateway.Credentials
import IntegrationPlatform.Transactions.Histories

/-!
# OAuth2 tokens of a credential set

How authorizations and refreshes change the token rows of a credential set and the tokens in the
vault. `liveTokens_iff` says along which sequences the vault has the tokens of the latest
authorization. What a provider replies is part of an operation.
-/

namespace IntegrationPlatform

namespace OAuth

open Gateway (CredentialSet OAuthToken)

/-! ## Tokens -/

/-- The reply of a provider that issues tokens. -/
structure TokenData where
  accessToken : String
  refreshToken : Option String
  expiresIn : Option Int

/-- The reply of a provider to a refresh, if there is one. -/
inductive Reply where
  /-- The request raises, or is not made. -/
  | failed
  /-- The status code is 400 or above. -/
  | refused
  | issued (data : TokenData)

/-- `expires_at` of new tokens, if they expire. -/
def TokenData.expiresAt (data : TokenData) (now : Int) : Option Int :=
  (data.expiresIn.filter (· ≠ 0)).map (now + ·)

/-- The row that `_store_token` adds. -/
def TokenData.stored (data : TokenData) (now : Int) : OAuthToken where
  accessToken := data.accessToken
  refreshToken := nonempty data.refreshToken
  expiresAt := data.expiresAt now
  status := "active"

/-- The row after `_update_token`. -/
def TokenData.updated (data : TokenData) (now : Int) (token : OAuthToken) : OAuthToken where
  accessToken := data.accessToken
  refreshToken := (nonempty data.refreshToken).or token.refreshToken
  expiresAt := (data.expiresAt now).or token.expiresAt
  status := "active"

/-- The set in the vault after `_store_token` or `_update_token`. -/
def TokenData.store (data : TokenData) (vault : CredentialSet) : CredentialSet :=
  let vault := vault.put "access_token" data.accessToken
  match nonempty data.refreshToken with
  | some refreshToken => vault.put "refresh_token" refreshToken
  | none => vault

/-- The row and the vault after `refresh_token`, and whether it has returned. Without a refresh token
`_decrypt` raises. -/
def refreshToken (token : OAuthToken) (vault : CredentialSet) (now : Int) (reply : Reply) :
    OAuthToken × CredentialSet × Bool :=
  match token.refreshToken, reply with
  | some _, .issued data => (data.updated now token, data.store vault, true)
  | some _, .refused => ({ token with status := "error" }, vault, false)
  | _, _ => (token, vault, false)

/-- The token has expired. -/
def expired (token : OAuthToken) (now : Int) : Bool :=
  token.expiresAt.any (· ≤ now)

/-- `get_or_refresh_access_token`: the row and the vault after it, and the access token. -/
def getOrRefreshAccessToken (token : OAuthToken) (vault : CredentialSet) (now : Int)
    (configured : Bool) (reply : Reply) : OAuthToken × CredentialSet × Option String :=
  if token.status ≠ "active" then (token, vault, none)
  else if !expired token now then (token, vault, some token.accessToken)
  else if configured && token.refreshToken.isSome then
    match refreshToken token vault now reply with
    | (token, vault, true) => (token, vault, some token.accessToken)
    | (token, vault, false) => ({ token with status := "expired" }, vault, none)
  else ({ token with status := "expired" }, vault, none)

/-- `get_tokens_expiring_soon` finds the row. -/
def expiringSoon (token : OAuthToken) (now window : Int) : Bool :=
  token.status == "active" && token.expiresAt.any (· ≤ now + window) && token.refreshToken.isSome

/-! ## Operations -/

/-- The token rows of a credential set, the latest first, and the set in the vault. -/
structure TokenSet where
  tokens : List OAuthToken
  vault : CredentialSet

/-- What is done with a credential set, at an instant. -/
inductive Operation where
  /-- `exchange_code`. -/
  | authorize (now : Int) (data : TokenData)
  /-- `oauth2_manual_refresh`. -/
  | manual (now : Int) (reply : Reply)
  /-- `get_or_refresh_access_token`, with or without a configuration, in a session that is committed
  or not. -/
  | inline (now : Int) (configured committed : Bool) (reply : Reply)
  /-- `_refresh_expiring_tokens` comes to the row with this index. -/
  | background (now window : Int) (index : Nat) (reply : Reply)

namespace TokenSet

variable (set : TokenSet)

/-- `oauth2_manual_refresh` of the latest row, which is committed if it returns. -/
def manualRefresh (now : Int) (reply : Reply) : TokenSet :=
  match set.tokens with
  | [] => set
  | token :: rest =>
      match refreshToken token set.vault now reply with
      | (token, vault, true) => ⟨token :: rest, vault⟩
      | (_, _, false) => set

/-- `get_or_refresh_access_token`, for the latest row. -/
def inlineRefresh (now : Int) (configured : Bool) (reply : Reply) : TokenSet :=
  match set.tokens with
  | [] => set
  | token :: rest =>
      let after := getOrRefreshAccessToken token set.vault now configured reply
      ⟨after.1 :: rest, after.2.1⟩

/-- The background refresh of a row. -/
def backgroundRefresh (now window : Int) (index : Nat) (reply : Reply) : TokenSet :=
  match set.tokens[index]? with
  | some token =>
      if expiringSoon token now window then
        let after := refreshToken token set.vault now reply
        ⟨set.tokens.set index after.1, after.2.1⟩
      else set
  | none => set

/-- The state after an operation. -/
def apply : Operation → TokenSet
  | .authorize now data => ⟨data.stored now :: set.tokens, data.store set.vault⟩
  | .manual now reply => set.manualRefresh now reply
  | .inline now configured committed reply =>
      if committed then set.inlineRefresh now configured reply else set
  | .background now window index reply => set.backgroundRefresh now window index reply

/-- The tokens in the vault are those of the latest row. -/
def Live : Prop :=
  ∀ token, set.tokens.head? = some token →
    set.vault.find "access_token" = some token.accessToken ∧
      set.vault.find "refresh_token" = token.refreshToken

/-- An authorization comes with a refresh token, or the vault has none; and the background refresh
of an older row fails, or issues the tokens of the latest row. -/
def Meets : Operation → Prop
  | .authorize _ data =>
      nonempty data.refreshToken ≠ none ∨ set.vault.find "refresh_token" = none
  | .background now window index reply =>
      ∀ token latest data, index ≠ 0 → set.tokens[index]? = some token →
        set.tokens.head? = some latest → expiringSoon token now window = true →
        reply = .issued data →
          data.accessToken = latest.accessToken ∧
            (nonempty data.refreshToken = none ∨ nonempty data.refreshToken = latest.refreshToken)
  | _ => True

end TokenSet

/-! ## The tokens in the vault -/

variable {set : TokenSet} {token : OAuthToken} {vault : CredentialSet} {data : TokenData} {now : Int}
  {reply : Reply}

@[simp] theorem find_store_accessToken (data : TokenData) (vault : CredentialSet) :
    (data.store vault).find "access_token" = some data.accessToken := by
  unfold TokenData.store
  cases nonempty data.refreshToken <;> simp

@[simp] theorem find_store_refreshToken (data : TokenData) (vault : CredentialSet) :
    (data.store vault).find "refresh_token" =
      (nonempty data.refreshToken).or (vault.find "refresh_token") := by
  unfold TokenData.store
  cases nonempty data.refreshToken <;> simp

/-- The vault has the tokens of a row. -/
def Holds (vault : CredentialSet) (token : OAuthToken) : Prop :=
  vault.find "access_token" = some token.accessToken ∧
    vault.find "refresh_token" = token.refreshToken

theorem Holds.updated (h : Holds vault token) (data : TokenData) (now : Int) :
    Holds (data.store vault) (data.updated now token) := by
  refine ⟨find_store_accessToken data vault, ?_⟩
  rw [find_store_refreshToken, h.2]
  rfl

theorem refreshToken_cases (token : OAuthToken) (vault : CredentialSet) (now : Int) (reply : Reply) :
    (∃ data, reply = .issued data ∧ token.refreshToken.isSome = true ∧
        refreshToken token vault now reply = (data.updated now token, data.store vault, true)) ∨
      (∀ data, reply = .issued data → token.refreshToken = none) ∧
        ∃ status, refreshToken token vault now reply = ({ token with status }, vault, false) := by
  obtain ⟨accessToken, kept, expiresAt, status⟩ := token
  cases kept with
  | none => exact .inr ⟨fun _ _ => rfl, status, rfl⟩
  | some kept =>
      cases reply with
      | failed => exact .inr ⟨fun _ hissued => (by cases hissued), status, rfl⟩
      | refused => exact .inr ⟨fun _ hissued => (by cases hissued), "error", rfl⟩
      | issued data => exact .inl ⟨data, rfl, rfl, rfl⟩

theorem Holds.refreshToken (h : Holds vault token) (now : Int) (reply : Reply) :
    Holds (refreshToken token vault now reply).2.1 (refreshToken token vault now reply).1 := by
  obtain ⟨data, -, -, hresult⟩ | ⟨-, status, hresult⟩ := refreshToken_cases token vault now reply
  · rw [hresult]
    exact h.updated data now
  · rw [hresult]
    exact h

theorem Holds.getOrRefresh (h : Holds vault token) (now : Int) (configured : Bool) (reply : Reply) :
    Holds (getOrRefreshAccessToken token vault now configured reply).2.1
      (getOrRefreshAccessToken token vault now configured reply).1 := by
  unfold getOrRefreshAccessToken
  split
  · exact h
  · split
    · exact h
    · split
      · obtain ⟨data, -, -, hresult⟩ | ⟨-, status, hresult⟩ := refreshToken_cases token vault now reply
        · rw [hresult]
          exact h.updated data now
        · rw [hresult]
          exact h
      · exact h

namespace TokenSet

theorem live_cons {rest : List OAuthToken} : Live ⟨token :: rest, vault⟩ ↔ Holds vault token := by
  constructor
  · intro h
    exact h token rfl
  · rintro h latest hlatest
    obtain rfl := Option.some.inj hlatest
    exact h

theorem live_nil : Live ⟨[], vault⟩ := by
  rintro latest hlatest
  cases hlatest

theorem Live.manualRefresh (h : set.Live) (now : Int) (reply : Reply) :
    (set.manualRefresh now reply).Live := by
  obtain ⟨tokens, vault⟩ := set
  cases tokens with
  | nil => exact h
  | cons token rest =>
      unfold TokenSet.manualRefresh
      obtain ⟨data, -, -, hresult⟩ | ⟨-, status, hresult⟩ := refreshToken_cases token vault now reply
      · simp only [hresult]
        exact live_cons.mpr ((live_cons.mp h).updated data now)
      · simp only [hresult]
        exact h

theorem Live.inlineRefresh (h : set.Live) (now : Int) (configured : Bool) (reply : Reply) :
    (set.inlineRefresh now configured reply).Live := by
  obtain ⟨tokens, vault⟩ := set
  cases tokens with
  | nil => exact h
  | cons token rest => exact live_cons.mpr ((live_cons.mp h).getOrRefresh now configured reply)

theorem live_authorize (data : TokenData) (now : Int) :
    Live ⟨data.stored now :: set.tokens, data.store set.vault⟩ ↔
      nonempty data.refreshToken ≠ none ∨ set.vault.find "refresh_token" = none := by
  rw [live_cons]
  unfold Holds
  rw [find_store_refreshToken]
  cases hissued : nonempty data.refreshToken with
  | none => simp [TokenData.stored, hissued]
  | some issued => simp [TokenData.stored, hissued]

theorem backgroundRefresh_eq {window : Int} {index : Nat} (hfound : set.tokens[index]? = some token)
    (hsoon : expiringSoon token now window = true) :
    set.backgroundRefresh now window index reply =
      ⟨set.tokens.set index (refreshToken token set.vault now reply).1,
        (refreshToken token set.vault now reply).2.1⟩ := by
  unfold TokenSet.backgroundRefresh
  simp only [hfound, hsoon]
  rfl

theorem backgroundRefresh_eq_self {window : Int} {index : Nat}
    (h : ∀ token, set.tokens[index]? = some token → expiringSoon token now window = false) :
    set.backgroundRefresh now window index reply = set := by
  unfold TokenSet.backgroundRefresh
  cases hfound : set.tokens[index]? with
  | none => rfl
  | some token =>
      simp only [h token hfound]
      rfl

/-- A background refresh of an older row. -/
theorem live_background_older {rest : List OAuthToken} {latest : OAuthToken} {window : Int}
    {index : Nat} (h : Holds vault latest) (hfound : rest[index]? = some token)
    (hsoon : expiringSoon token now window = true) :
    (backgroundRefresh ⟨latest :: rest, vault⟩ now window (index + 1) reply).Live ↔
      ∀ data, reply = .issued data → data.accessToken = latest.accessToken ∧
        (nonempty data.refreshToken = none ∨ nonempty data.refreshToken = latest.refreshToken) := by
  have hindex : (latest :: rest)[index + 1]? = some token := hfound
  rw [backgroundRefresh_eq hindex hsoon]
  have hkept : token.refreshToken ≠ none := by
    intro hnone
    simp [expiringSoon, hnone] at hsoon
  obtain ⟨data, rfl, -, hresult⟩ | ⟨hnone, status, hresult⟩ :=
    refreshToken_cases token vault now reply
  · -- The vault gets the tokens of the older row, and the latest row stays as it is.
    rw [hresult]
    show Live ⟨latest :: rest.set index (data.updated now token), data.store vault⟩ ↔ _
    rw [live_cons]
    unfold Holds
    rw [find_store_accessToken, find_store_refreshToken, h.2, Option.some.injEq]
    constructor
    · rintro ⟨haccess, hrefresh⟩ data' hdata
      obtain rfl := Reply.issued.inj hdata
      refine ⟨haccess, ?_⟩
      cases hissued : nonempty data.refreshToken with
      | none => exact .inl rfl
      | some issued =>
          rw [hissued] at hrefresh
          exact .inr hrefresh
    · intro hmeets
      obtain ⟨haccess, hrefresh⟩ := hmeets data rfl
      refine ⟨haccess, ?_⟩
      obtain hnone | hsame := hrefresh
      · rw [hnone]
        rfl
      · rw [hsame]
        cases latest.refreshToken <;> rfl
  · rw [hresult]
    refine iff_of_true ?_ fun data hdata => absurd (hnone data hdata) hkept
    show Live ⟨latest :: rest.set index { token with status }, vault⟩
    exact live_cons.mpr h

theorem live_background (h : set.Live) (now window : Int) (index : Nat) (reply : Reply) :
    (set.backgroundRefresh now window index reply).Live ↔
      set.Meets (.background now window index reply) := by
  by_cases hsoon : ∃ token, set.tokens[index]? = some token ∧ expiringSoon token now window = true
  · obtain ⟨token, hfound, hsoon⟩ := hsoon
    obtain ⟨tokens, vault⟩ := set
    cases tokens with
    | nil => cases hfound
    | cons latest rest =>
        cases index with
        | zero =>
            obtain rfl : latest = token := Option.some.inj hfound
            rw [backgroundRefresh_eq hfound hsoon]
            refine iff_of_true (live_cons.mpr ((live_cons.mp h).refreshToken now reply)) ?_
            intro _ _ _ hindex
            exact absurd rfl hindex
        | succ index =>
            have hrest : rest[index]? = some token := hfound
            rw [live_background_older (live_cons.mp h) hrest hsoon]
            constructor
            · intro hissued token' latest' data _ _ hlatest' _ hreply
              obtain rfl := Option.some.inj hlatest'
              exact hissued data hreply
            · intro hmeets data hreply
              exact hmeets token latest data (Nat.succ_ne_zero index) hfound rfl hsoon hreply
  · have hnone : ∀ token, set.tokens[index]? = some token →
        expiringSoon token now window = false :=
      fun token hfound => eq_false_of_ne_true fun hsoon' => hsoon ⟨token, hfound, hsoon'⟩
    rw [backgroundRefresh_eq_self hnone]
    refine iff_of_true h ?_
    intro token _ _ _ hfound _ hsoon'
    exact absurd ⟨token, hfound, hsoon'⟩ hsoon

theorem live_apply_iff (operation : Operation) (h : set.Live) :
    (set.apply operation).Live ↔ set.Meets operation := by
  cases operation with
  | authorize now data => exact live_authorize data now
  | manual now reply => exact iff_of_true (h.manualRefresh now reply) trivial
  | inline now configured committed reply =>
      cases committed with
      | false => exact iff_of_true h trivial
      | true => exact iff_of_true (h.inlineRefresh now configured reply) trivial
  | background now window index reply => exact live_background h now window index reply

end TokenSet

/-- From a credential set without authorizations, the vault has the tokens of the latest
authorization after every operation of a sequence if and only if every authorization comes with a
refresh token or finds none in the vault, and no background refresh of an older row issues other
tokens. -/
theorem liveTokens_iff (vault : CredentialSet) (operations : List Operation) :
    Along TokenSet.apply (fun set operation => (set.apply operation).Live) ⟨[], vault⟩ operations ↔
      Along TokenSet.apply TokenSet.Meets ⟨[], vault⟩ operations := by
  have hagree : ∀ (set : TokenSet) operation, set.Live →
      ((set.apply operation).Live ↔ set.Meets operation) :=
    fun _ operation hlive => TokenSet.live_apply_iff operation hlive
  exact along_iff hagree (fun _ _ _ hafter => hafter) TokenSet.live_nil operations

/-- Two authorizations. -/
def reauthorized : List Operation :=
  [.authorize 0 ⟨"access-1", some "refresh-1", some 3600⟩,
    .authorize 1800 ⟨"access-2", some "refresh-2", some 3600⟩]

/-- The background refresh of the row of an older authorization overwrites the tokens of the latest
one; and a new authorization without a refresh token leaves the one of the old authorization. -/
theorem tokens_overwritten :
    ¬ Along TokenSet.apply (fun set operation => (set.apply operation).Live) ⟨[], .empty⟩
        (reauthorized ++
          [.background 3500 300 1 (.issued ⟨"access-3", some "refresh-3", some 3600⟩)]) ∧
      ¬ Along TokenSet.apply (fun set operation => (set.apply operation).Live) ⟨[], .empty⟩
        (reauthorized ++ [.authorize 1900 ⟨"access-3", none, some 3600⟩]) := by
  constructor
  · rintro ⟨-, -, hlive, -⟩
    obtain ⟨haccess, -⟩ := hlive _ rfl
    exact absurd haccess (by decide +kernel)
  · rintro ⟨-, -, hlive, -⟩
    obtain ⟨-, hrefresh⟩ := hlive _ rfl
    exact absurd hrefresh (by decide +kernel)

end OAuth

end IntegrationPlatform
