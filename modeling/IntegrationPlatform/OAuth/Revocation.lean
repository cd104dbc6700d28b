import IntegrationPlatform.OAuth.Tokens
import IntegrationPlatform.Transactions.RowLocks

/-!
# Revocation of tokens

The sessions that authorize, look up, refresh and revoke tokens, as transactions at READ COMMITTED
that take their statements one by one and in any interleaving. A session keeps the row that it has
loaded as an object, may wait for the provider, and writes the columns that it has changed.
`revocation_final` says in which runs a revoked token is never active again and never returned.
-/

namespace IntegrationPlatform

namespace OAuth

namespace Revocation

open Gateway (OAuthToken)
open RowLocks Store

/-! ## Rows -/

/-- A row of `oauth_tokens`, with the tenant, the connector and the name of its credential set. -/
structure TokenRow where
  credentials : String × String × String
  createdAt : Int
  token : OAuthToken

/-- The table, whose rows and transactions are numbered. -/
abbrev Table := Store Nat TokenRow Nat

namespace TokenRow

variable (row : TokenRow) (loaded : OAuthToken)

/-- The row with a status, which an `UPDATE` writes if it is not the loaded one. -/
def assign (status : String) : TokenRow :=
  { row with
    token := { row.token with status := if loaded.status = status then row.token.status else status } }

/-- The row after `_update_token`. An `UPDATE` writes the columns whose values are not the loaded
ones; an encrypted token never is. -/
def refresh (data : TokenData) (now : Int) : TokenRow :=
  { row.assign loaded "active" with
    token := {
      accessToken := data.accessToken
      refreshToken := (nonempty data.refreshToken).or row.token.refreshToken
      expiresAt := ((data.expiresAt now).filter (some · ≠ loaded.expiresAt)).or row.token.expiresAt
      status := (row.assign loaded "active").token.status } }

end TokenRow

/-- `_get_token` finds the row: the transaction sees no newer one of the set. -/
structure Newest (table : Table) (tx : Nat) (credentials : String × String × String) (id : Nat)
    (row : TokenRow) : Prop where
  visible : table.visible tx id = some row
  belongs : row.credentials = credentials
  newest : ∀ other row', table.visible tx other = some row' → row'.credentials = credentials →
    row'.createdAt ≤ row.createdAt

/-! ## Sessions -/

/-- What a session does. -/
inductive Request where
  /-- `_store_token`, with the id and the time of the row. -/
  | exchange (credentials : String × String × String) (id : Nat) (createdAt now : Int) (data : TokenData)
  /-- `get_valid_access_token`. -/
  | lookup (credentials : String × String × String) (now : Int)
  /-- `get_or_refresh_access_token`. -/
  | inline (credentials : String × String × String) (now : Int)
  /-- `oauth2_manual_refresh`. -/
  | manual (credentials : String × String × String)
  /-- `_refresh_expiring_tokens`. -/
  | cycle (now window : Int)
  /-- `oauth2_revoke`. -/
  | revoke (credentials : String × String × String)

/-- Where a session is. -/
inductive Session where
  /-- Before its first statement. -/
  | started (request : Request)
  /-- The expired token of an inline refresh has been loaded. -/
  | inlining (id : Nat) (loaded : OAuthToken)
  /-- The token of a manual refresh has been loaded. -/
  | refreshing (id : Nat) (loaded : OAuthToken)
  /-- The tokens that expire soon have been loaded, and these are still to be refreshed. -/
  | cycling (pending : List (Nat × OAuthToken))
  /-- The token of a revoke has been loaded. -/
  | revoking (id : Nat) (loaded : OAuthToken)
  /-- A manual refresh has been flushed. It has set the status, or found it active. -/
  | refreshed (id : Nat) (reactivates : Bool)
  /-- A revoke has been flushed. -/
  | revoked (id : Nat)
  /-- Another change has been flushed. -/
  | written
  /-- An exception has been raised. -/
  | failed

/-- What a step is, where it matters for a revocation. -/
inductive Event where
  | silent
  /-- A lookup returns the token that it has found. -/
  | found (id : Nat) (accessToken : String)
  /-- The provider has issued tokens to an inline refresh, which returns the access token. -/
  | renewed (id : Nat) (accessToken : String)
  /-- A manual refresh that has set the status to active is committed. -/
  | reactivated (id : Nat)
  /-- A revoke is committed. -/
  | revoked (id : Nat)

/-- One step of a transaction, from the table and its session to the table and, unless it has ended,
its session. -/
inductive Session.Step (tx : Nat) (table : Table) :
    Session → Event → Table → Option Session → Prop where
  /-- A row is added. -/
  | insert {credentials id createdAt now data} : table.Free tx id → table.visible tx id = none →
      Step tx table (.started (.exchange credentials id createdAt now data)) .silent
        (table.write tx id (some ⟨credentials, createdAt, data.stored now⟩)) (some .written)
  /-- A lookup returns an active token that has not expired. -/
  | lookup {credentials now id row} : Newest table tx credentials id row → row.token.status = "active" →
      expired row.token now = false →
      Step tx table (.started (.lookup credentials now)) (.found id row.token.accessToken) table none
  /-- A lookup that could refresh the token need not do it. -/
  | valid {credentials now id row} : Newest table tx credentials id row → row.token.status = "active" →
      expired row.token now = false →
      Step tx table (.started (.inline credentials now)) (.found id row.token.accessToken) table none
  /-- The token that a lookup has found has expired. -/
  | loadInline {credentials now id row} : Newest table tx credentials id row → row.token.status = "active" →
      expired row.token now = true →
      Step tx table (.started (.inline credentials now)) .silent table (some (.inlining id row.token))
  /-- The token of a manual refresh is loaded, with any status. -/
  | loadManual {credentials id row} : Newest table tx credentials id row →
      Step tx table (.started (.manual credentials)) .silent table (some (.refreshing id row.token))
  /-- The tokens that expire soon are loaded. -/
  | loadCycle {now window pending} :
      (∀ entry ∈ pending, ∃ row, table.visible tx entry.1 = some row ∧ row.token = entry.2 ∧
        expiringSoon row.token now window = true) →
      Step tx table (.started (.cycle now window)) .silent table (some (.cycling pending))
  /-- The token of a revoke is loaded. -/
  | loadRevoke {credentials id row} : Newest table tx credentials id row →
      Step tx table (.started (.revoke credentials)) .silent table (some (.revoking id row.token))
  /-- The provider has issued tokens to an inline refresh, which returns the access token. -/
  | renew {id loaded row data now} : loaded.refreshToken.isSome = true → table.Free tx id →
      table.visible tx id = some row →
      Step tx table (.inlining id loaded) (.renewed id data.accessToken)
        (table.write tx id (some (row.refresh loaded data now))) (some .written)
  /-- An inline refresh is not possible, or has failed. -/
  | expire {id loaded row} : table.Free tx id → table.visible tx id = some row →
      Step tx table (.inlining id loaded) .silent
        (table.write tx id (some (row.assign loaded "expired"))) (some .written)
  /-- The provider has issued tokens to a manual refresh. -/
  | refresh {id loaded row data now} : loaded.refreshToken.isSome = true → table.Free tx id →
      table.visible tx id = some row →
      Step tx table (.refreshing id loaded) .silent
        (table.write tx id (some (row.refresh loaded data now)))
        (some (.refreshed id (loaded.status ≠ "active")))
  /-- The provider has refused a manual refresh. -/
  | refuse {id loaded row} : loaded.refreshToken.isSome = true → table.Free tx id →
      table.visible tx id = some row →
      Step tx table (.refreshing id loaded) .silent
        (table.write tx id (some (row.assign loaded "error"))) (some .failed)
  /-- The provider has issued tokens to the background refresh. -/
  | refreshNext {id loaded pending row data now} : loaded.refreshToken.isSome = true →
      table.Free tx id → table.visible tx id = some row →
      Step tx table (.cycling ((id, loaded) :: pending)) .silent
        (table.write tx id (some (row.refresh loaded data now))) (some (.cycling pending))
  /-- The provider has refused the background refresh. -/
  | refuseNext {id loaded pending row} : loaded.refreshToken.isSome = true → table.Free tx id →
      table.visible tx id = some row →
      Step tx table (.cycling ((id, loaded) :: pending)) .silent
        (table.write tx id (some (row.assign loaded "error"))) (some (.cycling pending))
  /-- The connector has no configuration any more, or the background refresh has failed. -/
  | skipNext {entry pending} :
      Step tx table (.cycling (entry :: pending)) .silent table (some (.cycling pending))
  /-- The status is written. -/
  -- An `UPDATE` waits for the lock, and then writes to the row that is committed by then.
  | revoke {id loaded row} : loaded.status ≠ "revoked" → table.Free tx id →
      table.visible tx id = some row →
      Step tx table (.revoking id loaded) .silent
        (table.write tx id (some (row.assign loaded "revoked"))) (some (.revoked id))
  /-- The status has been the loaded one, and is not written. -/
  | revokeAgain {id loaded} : loaded.status = "revoked" →
      Step tx table (.revoking id loaded) .silent table (some (.revoked id))
  /-- A manual refresh is committed. -/
  | commitRefreshed {id reactivates} :
      Step tx table (.refreshed id reactivates) (if reactivates then .reactivated id else .silent)
        (table.commit tx) none
  /-- A revoke is committed. -/
  | commitRevoked {id} :
      Step tx table (.revoked id) (.revoked id) (table.commit tx) none
  /-- A background cycle is committed. -/
  | commitCycle : Step tx table (.cycling []) .silent (table.commit tx) none
  /-- Another change is committed. -/
  | commitWritten : Step tx table .written .silent (table.commit tx) none
  /-- The transaction is rolled back, for an exception or for any other reason. -/
  | abort {session} : Step tx table session .silent (table.rollback tx) none

/-! ## Runs -/

/-- A token that has been returned, and whether a revoke of its row had been committed before. -/
structure Answer where
  id : Nat
  accessToken : String
  afterRevoke : Bool

/-- The rows whose revoke has been committed, after a step. -/
def Event.revocations (revoked : List Nat) : Event → List Nat
  | .revoked id => id :: revoked
  | _ => revoked

/-- The tokens that have been returned, after a step. -/
def Event.answers (revoked : List Nat) (answers : List Answer) : Event → List Answer
  | .found id accessToken => ⟨id, accessToken, decide (id ∈ revoked)⟩ :: answers
  | .renewed id accessToken => ⟨id, accessToken, decide (id ∈ revoked)⟩ :: answers
  | _ => answers

/-- The table and the sessions under way by their transactions, with the rows whose revoke has been
committed and the tokens that have been returned. -/
structure Traffic where
  table : Table
  sessions : Nat → Option Session
  revoked : List Nat
  answers : List Answer

namespace Traffic

/-- An empty table, and no session. -/
def initial : Traffic where
  table := ⟨fun _ => none, fun _ => none⟩
  sessions _ := none
  revoked := []
  answers := []

/-- The state after a step of the transaction `tx`. -/
def after (traffic : Traffic) (tx : Nat) (event : Event) (table : Table) (session : Option Session) :
    Traffic where
  table := table
  sessions := Function.update traffic.sessions tx session
  revoked := event.revocations traffic.revoked
  answers := event.answers traffic.revoked traffic.answers

/-- A step of the transaction `tx`. -/
inductive Step (tx : Nat) (traffic : Traffic) : Event → Traffic → Prop where
  /-- A transaction begins. -/
  | begin (request : Request) : traffic.sessions tx = none →
      Step tx traffic .silent (traffic.after tx .silent traffic.table (some (.started request)))
  /-- A transaction takes a step. -/
  | work {session event table session'} : traffic.sessions tx = some session →
      Session.Step tx traffic.table session event table session' →
      Step tx traffic event (traffic.after tx event table session')

/-- A run, in which every step meets a condition on the state before it and what the step is. -/
inductive Run (meets : Traffic → Event → Prop) (first : Traffic) : Traffic → Prop where
  | start : Run meets first first
  | step {traffic traffic' tx event} : Run meets first traffic → meets traffic event →
      Step tx traffic event traffic' → Run meets first traffic'

/-- The provider issues tokens to an inline refresh only while no revoke of its row has been
committed, and a manual refresh whose row was not active when it was loaded is committed only then. -/
def Meets (traffic : Traffic) : Event → Prop
  | .renewed id _ => id ∉ traffic.revoked
  | .reactivated id => id ∉ traffic.revoked
  | _ => True

/-- No row whose revoke has been committed is active, and the tokens that have been returned were
returned before a revoke. -/
structure Final (traffic : Traffic) : Prop where
  inactive : ∀ id ∈ traffic.revoked, ∀ row, traffic.table.committed id = some row →
    row.token.status ≠ "active"
  unreturned : ∀ answer ∈ traffic.answers, answer.afterRevoke = false

end Traffic

/-! ## Rows that are revoked -/

/-- A row agrees with the revokes that have been committed. -/
structure Settled (revoked : List Nat) (id : Nat) (row : TokenRow) : Prop where
  inactive : id ∈ revoked → row.token.status ≠ "active"
  recorded : row.token.status = "revoked" → id ∈ revoked

/-- A draft agrees with the revokes that have been committed, or its session is about to commit a
revoke or a manual refresh. -/
def Fits (revoked : List Nat) (session : Option Session) (id : Nat) (row : TokenRow) : Prop :=
  Settled revoked id row ∨ (row.token.status = "revoked" ∧ session = some (.revoked id)) ∨
    (row.token.status = "active" ∧ session = some (.refreshed id true))

/-- What holds of a session. -/
def SessionInvariant (table : Table) (revoked : List Nat) (tx : Nat) : Session → Prop
  | .inlining _ loaded => loaded.status = "active"
  | .cycling pending => ∀ entry ∈ pending, entry.2.status = "active"
  | .revoking id loaded => loaded.status = "revoked" → id ∈ revoked
  | .revoked id => id ∈ revoked ∨
      ∃ row : TokenRow, table.Holds tx id (some (some row)) ∧ row.token.status = "revoked"
  | _ => True

/-- What holds of the table, the sessions and the tokens that have been returned. -/
structure Traffic.Invariant (traffic : Traffic) : Prop where
  settled : ∀ id row, traffic.table.committed id = some row → Settled traffic.revoked id row
  exists_row : ∀ id ∈ traffic.revoked, traffic.table.committed id ≠ none
  drafts : ∀ tx id draft, traffic.table.Holds tx id draft →
    ∃ row, draft = some (some row) ∧ Fits traffic.revoked (traffic.sessions tx) id row
  sessions : ∀ tx session, traffic.sessions tx = some session →
    SessionInvariant traffic.table traffic.revoked tx session
  unreturned : ∀ answer ∈ traffic.answers, answer.afterRevoke = false

variable {revoked revoked' : List Nat} {table : Table} {tx tx' id : Nat} {row : TokenRow}
  {session session' : Session} {traffic traffic' : Traffic} {event : Event} {loaded : OAuthToken}

theorem Settled.assign (h : Settled revoked id row) (loaded : OAuthToken) {status : String}
    (hactive : status ≠ "active") (hrevoked : status ≠ "revoked") :
    Settled revoked id (row.assign loaded status) := by
  unfold TokenRow.assign
  split
  · exact h
  · exact ⟨fun _ => hactive, fun hstatus => absurd hstatus hrevoked⟩

theorem Settled.refresh (h : Settled revoked id row) (hloaded : loaded.status = "active")
    (data : TokenData) (now : Int) : Settled revoked id (row.refresh loaded data now) := by
  have hstatus : (row.refresh loaded data now).token.status = row.token.status := if_pos hloaded
  refine ⟨?_, ?_⟩
  · rw [hstatus]
    exact h.inactive
  · rw [hstatus]
    exact h.recorded

theorem Settled.of_not_mem (h : id ∉ revoked) (hstatus : row.token.status = "active") :
    Settled revoked id row where
  inactive hmem := absurd hmem h
  recorded hrevoked := by
    rw [hstatus] at hrevoked
    exact absurd hrevoked (by decide)

theorem Settled.fits_refresh (h : Settled revoked id row) (loaded : OAuthToken) (data : TokenData)
    (now : Int) :
    Fits revoked (some (.refreshed id (loaded.status ≠ "active"))) id
      (row.refresh loaded data now) := by
  by_cases hloaded : loaded.status = "active"
  · exact .inl (h.refresh hloaded data now)
  · have hstatus : (row.refresh loaded data now).token.status = "active" := if_neg hloaded
    refine .inr (.inr ⟨hstatus, ?_⟩)
    simp [hloaded]

theorem status_revoke (hloaded : loaded.status ≠ "revoked") (row : TokenRow) :
    (row.assign loaded "revoked").token.status = "revoked" :=
  if_neg hloaded

theorem Fits.settled {session : Option Session} (h : Fits revoked session id row)
    (hrevoked : session ≠ some (.revoked id)) (hrefreshed : session ≠ some (.refreshed id true)) :
    Settled revoked id row := by
  obtain h | ⟨-, hsession⟩ | ⟨-, hsession⟩ := h
  · exact h
  · exact absurd hsession hrevoked
  · exact absurd hsession hrefreshed

theorem Settled.mono (h : Settled revoked id row) (hsub : revoked ⊆ revoked')
    (hnew : id ∈ revoked' → id ∈ revoked) : Settled revoked' id row where
  inactive hmem := h.inactive (hnew hmem)
  recorded hstatus := hsub (h.recorded hstatus)

theorem Fits.mono {session : Option Session} (h : Fits revoked session id row)
    (hsub : revoked ⊆ revoked') (hnew : id ∈ revoked' → id ∈ revoked) :
    Fits revoked' session id row :=
  h.imp (fun hsettled => hsettled.mono hsub hnew) fun hsession => hsession

variable {table' : Table}

theorem SessionInvariant.frame (h : SessionInvariant table revoked tx session)
    (hframe : table.Frame tx' table') (hne : tx ≠ tx') (hsub : revoked ⊆ revoked') :
    SessionInvariant table' revoked' tx session := by
  cases session with
  | revoking id loaded => exact fun hstatus => hsub (h hstatus)
  | revoked id =>
      obtain hmem | ⟨row, hholds, hstatus⟩ := h
      · exact .inl (hsub hmem)
      · exact .inr ⟨row, (hframe.holds hne).mpr hholds, hstatus⟩
  | cycling pending => exact h
  | inlining id loaded => exact h
  | started => trivial
  | refreshing => trivial
  | refreshed => trivial
  | written => trivial
  | failed => trivial

theorem status_of_expiringSoon {token : OAuthToken} {now window : Int}
    (h : expiringSoon token now window = true) : token.status = "active" := by
  unfold expiringSoon at h
  rw [Bool.and_eq_true, Bool.and_eq_true] at h
  exact beq_iff_eq.mp h.1.1

/-! ## Steps -/

namespace Traffic.Invariant

/-- The transaction is not about to commit a revoke or a manual refresh. -/
def Plain (session : Option Session) : Prop :=
  ∀ id, session ≠ some (.revoked id) ∧ session ≠ some (.refreshed id true)

theorem visible (h : traffic.Invariant) (hplain : Plain (traffic.sessions tx))
    (hrow : traffic.table.visible tx id = some row) : Settled traffic.revoked id row := by
  obtain hwithout | ⟨draft, hholds⟩ := traffic.table.without_or_holds tx id
  · rw [hwithout.visible_eq] at hrow
    exact h.settled id row hrow
  · obtain ⟨row', rfl, hfits⟩ := h.drafts tx id draft hholds
    rw [hholds.visible_written] at hrow
    obtain rfl := Option.some.inj hrow
    exact hfits.settled (hplain id).1 (hplain id).2

variable {session' : Option Session}

/-- The invariant after a step, from what holds of the transaction that takes it. -/
theorem after (h : traffic.Invariant) (hframe : traffic.table.Frame tx table')
    (hsub : traffic.revoked ⊆ event.revocations traffic.revoked)
    (hnew : ∀ tx' other draft, tx' ≠ tx → traffic.table.Holds tx' other draft →
      other ∈ event.revocations traffic.revoked → other ∈ traffic.revoked)
    (hsettled : ∀ id row, table'.committed id = some row →
      Settled (event.revocations traffic.revoked) id row)
    (hexists : ∀ id ∈ event.revocations traffic.revoked, table'.committed id ≠ none)
    (hdrafts : ∀ id draft, table'.Holds tx id draft →
      ∃ row, draft = some (some row) ∧ Fits (event.revocations traffic.revoked) session' id row)
    (hsession : ∀ session, session' = some session →
      SessionInvariant table' (event.revocations traffic.revoked) tx session)
    (hreturned : ∀ answer ∈ event.answers traffic.revoked traffic.answers,
      answer.afterRevoke = false) :
    (traffic.after tx event table' session').Invariant where
  settled := hsettled
  exists_row := hexists
  drafts other id draft hholds := by
    show ∃ row, draft = some (some row) ∧ Fits _ (Function.update traffic.sessions tx session' other)
      id row
    by_cases hother : other = tx
    · subst hother
      rw [Function.update_self]
      exact hdrafts id draft hholds
    · rw [Function.update_of_ne hother]
      have hbefore := (hframe.holds hother).mp hholds
      obtain ⟨row, hdraft, hfits⟩ := h.drafts other id draft hbefore
      exact ⟨row, hdraft, hfits.mono hsub (hnew other id draft hother hbefore)⟩
  sessions other session hother := by
    replace hother : Function.update traffic.sessions tx session' other = some session := hother
    by_cases heq : other = tx
    · subst heq
      rw [Function.update_self] at hother
      exact hsession session hother
    · rw [Function.update_of_ne heq] at hother
      exact (h.sessions other session hother).frame hframe heq hsub
  unreturned := hreturned

/-- A step that commits nothing. -/
theorem uncommitted (h : traffic.Invariant) (hframe : traffic.table.Frame tx table')
    (hcommitted : table'.committed = traffic.table.committed)
    (hevent : event.revocations traffic.revoked = traffic.revoked)
    (hdrafts : ∀ id draft, table'.Holds tx id draft →
      ∃ row, draft = some (some row) ∧ Fits traffic.revoked session' id row)
    (hsession : ∀ session, session' = some session →
      SessionInvariant table' traffic.revoked tx session)
    (hreturned : ∀ answer ∈ event.answers traffic.revoked traffic.answers,
      answer.afterRevoke = false) :
    (traffic.after tx event table' session').Invariant := by
  refine h.after hframe ?_ ?_ ?_ ?_ ?_ ?_ hreturned
  · rw [hevent]
    exact fun _ hmem => hmem
  · rw [hevent]
    exact fun _ _ _ _ _ hmem => hmem
  · rw [hevent, hcommitted]
    exact h.settled
  · rw [hevent, hcommitted]
    exact h.exists_row
  · rw [hevent]
    exact hdrafts
  · rw [hevent]
    exact hsession

theorem goto (h : traffic.Invariant) (hplain : Plain (traffic.sessions tx))
    (hsession : SessionInvariant traffic.table traffic.revoked tx session) :
    (traffic.after tx .silent traffic.table (some session)).Invariant := by
  refine h.uncommitted .refl rfl rfl ?_ ?_ h.unreturned
  · intro id draft hholds
    obtain ⟨row, hdraft, hfits⟩ := h.drafts tx id draft hholds
    exact ⟨row, hdraft, .inl (hfits.settled (hplain id).1 (hplain id).2)⟩
  · intro session' hsession'
    obtain rfl := Option.some.inj hsession'
    exact hsession

theorem write (h : traffic.Invariant) (hplain : Plain (traffic.sessions tx))
    (hfree : traffic.table.Free tx id)
    (hevent : event.revocations traffic.revoked = traffic.revoked)
    (hfits : Fits traffic.revoked (some session) id row)
    (hsession : SessionInvariant (traffic.table.write tx id (some row)) traffic.revoked tx session)
    (hreturned : ∀ answer ∈ event.answers traffic.revoked traffic.answers,
      answer.afterRevoke = false) :
    (traffic.after tx event (traffic.table.write tx id (some row)) (some session)).Invariant := by
  refine h.uncommitted (.write hfree _) rfl hevent ?_ ?_ hreturned
  · intro other draft hholds
    by_cases hother : other = id
    · subst hother
      refine ⟨row, ?_, hfits⟩
      have hheld := hholds.symm.trans holds_write
      cases hheld
      rfl
    · have hbefore : traffic.table.Holds tx other draft :=
        (held_write_of_ne hother).symm.trans hholds
      obtain ⟨row', hdraft, hfits'⟩ := h.drafts tx other draft hbefore
      exact ⟨row', hdraft, .inl (hfits'.settled (hplain other).1 (hplain other).2)⟩
  · intro session' hsession'
    obtain rfl := Option.some.inj hsession'
    exact hsession

theorem rollback (h : traffic.Invariant) :
    (traffic.after tx .silent (traffic.table.rollback tx) none).Invariant := by
  refine h.uncommitted (.release _) rfl rfl ?_ ?_ h.unreturned
  · intro id draft hholds
    exact absurd without_rollback hholds.not_without
  · intro session hsession
    cases hsession

/-- A session is committed. The rows whose revoke is committed with it are its own. -/
theorem commit (h : traffic.Invariant)
    (hsub : traffic.revoked ⊆ event.revocations traffic.revoked)
    (hnew : ∀ id ∈ event.revocations traffic.revoked, id ∈ traffic.revoked ∨
      ∃ draft, traffic.table.Holds tx id draft)
    (hdrafts : ∀ id (row : TokenRow), traffic.table.Holds tx id (some (some row)) →
      Settled (event.revocations traffic.revoked) id row)
    (hreturned : ∀ answer ∈ event.answers traffic.revoked traffic.answers,
      answer.afterRevoke = false) :
    (traffic.after tx event (traffic.table.commit tx) none).Invariant := by
  -- A row that the transaction holds gets its draft, and every other one stays as it is.
  have hcase : ∀ id, traffic.table.Without tx id ∨
      ∃ row, traffic.table.Holds tx id (some (some row)) := by
    intro id
    obtain hwithout | ⟨draft, hholds⟩ := traffic.table.without_or_holds tx id
    · exact .inl hwithout
    · obtain ⟨row, rfl, -⟩ := h.drafts tx id draft hholds
      exact .inr ⟨row, hholds⟩
  refine h.after .commit hsub ?_ ?_ ?_ ?_ ?_ hreturned
  · intro tx' other draft hne hholds hmem
    obtain hmem | ⟨draft', hholds'⟩ := hnew other hmem
    · exact hmem
    · exact absurd (hholds.unique hholds') hne
  · intro id row hrow
    replace hrow : traffic.table.visible tx id = some row := hrow
    obtain hwithout | ⟨row', hholds⟩ := hcase id
    · rw [hwithout.visible_eq] at hrow
      refine (h.settled id row hrow).mono hsub fun hmem => ?_
      obtain hmem | ⟨draft, hholds⟩ := hnew id hmem
      · exact hmem
      · exact absurd hwithout hholds.not_without
    · rw [hholds.visible_written] at hrow
      obtain rfl := Option.some.inj hrow
      exact hdrafts id row' hholds
  · intro id hmem
    show traffic.table.visible tx id ≠ none
    obtain hwithout | ⟨row, hholds⟩ := hcase id
    · rw [hwithout.visible_eq]
      obtain hmem | ⟨draft, hholds⟩ := hnew id hmem
      · exact h.exists_row id hmem
      · exact absurd hwithout hholds.not_without
    · rw [hholds.visible_written]
      exact Option.some_ne_none row
  · intro id draft hholds
    exact absurd without_commit hholds.not_without
  · intro session hsession
    cases hsession

theorem not_mem_of_visible (h : traffic.Invariant) (hnone : traffic.table.visible tx id = none) :
    id ∉ traffic.revoked := by
  intro hmem
  obtain hwithout | ⟨draft, hholds⟩ := traffic.table.without_or_holds tx id
  · rw [hwithout.visible_eq] at hnone
    exact h.exists_row id hmem hnone
  · obtain ⟨row, rfl, -⟩ := h.drafts tx id draft hholds
    rw [hholds.visible_written] at hnone
    cases hnone

theorem unreturned_cons {answers : List Answer} {accessToken : String}
    (h : ∀ answer ∈ answers, answer.afterRevoke = false) (hid : id ∉ revoked) :
    ∀ answer ∈ (⟨id, accessToken, decide (id ∈ revoked)⟩ : Answer) :: answers,
      answer.afterRevoke = false := by
  intro answer hanswer
  obtain rfl | hanswer := List.mem_cons.mp hanswer
  · exact decide_eq_false hid
  · exact h answer hanswer

theorem found (h : traffic.Invariant) (hplain : Plain (traffic.sessions tx))
    (hrow : traffic.table.visible tx id = some row) (hstatus : row.token.status = "active")
    (accessToken : String) :
    (traffic.after tx (.found id accessToken) traffic.table none).Invariant := by
  have hid : id ∉ traffic.revoked := fun hmem => (h.visible hplain hrow).inactive hmem hstatus
  refine h.uncommitted .refl rfl rfl ?_ ?_ (unreturned_cons h.unreturned hid)
  · intro other draft hholds
    obtain ⟨row', rfl, -⟩ := h.drafts tx other draft hholds
    exact ⟨row', rfl, .inl (h.visible hplain hholds.visible_written)⟩
  · intro session hsession
    cases hsession

theorem commit_plain (h : traffic.Invariant) (hplain : Plain (traffic.sessions tx)) :
    (traffic.after tx .silent (traffic.table.commit tx) none).Invariant := by
  refine h.commit (fun _ hmem => hmem) (fun _ hmem => .inl hmem) ?_ h.unreturned
  intro id row hholds
  exact h.visible hplain hholds.visible_written

theorem commit_refreshed {reactivates : Bool} (h : traffic.Invariant)
    (hsession : traffic.sessions tx = some (.refreshed id reactivates))
    (hid : reactivates = true → id ∉ traffic.revoked) :
    (traffic.after tx (if reactivates then .reactivated id else .silent) (traffic.table.commit tx)
      none).Invariant := by
  -- An active draft of a revoked row is what the condition excludes.
  have hdrafts : ∀ other (row : TokenRow), traffic.table.Holds tx other (some (some row)) →
      Settled traffic.revoked other row := by
    intro other row hholds
    obtain ⟨row', hrow, hfits⟩ := h.drafts tx other _ hholds
    cases hrow
    rw [hsession] at hfits
    obtain hsettled | ⟨-, hrevoke⟩ | ⟨hstatus, hrefresh⟩ := hfits
    · exact hsettled
    · cases hrevoke
    · cases hrefresh
      exact .of_not_mem (hid rfl) hstatus
  cases reactivates with
  | false => exact h.commit (fun _ hmem => hmem) (fun _ hmem => .inl hmem) hdrafts h.unreturned
  | true => exact h.commit (fun _ hmem => hmem) (fun _ hmem => .inl hmem) hdrafts h.unreturned

theorem commit_revoked (h : traffic.Invariant)
    (hsession : traffic.sessions tx = some (.revoked id)) :
    (traffic.after tx (.revoked id) (traffic.table.commit tx) none).Invariant := by
  have hinv := h.sessions tx _ hsession
  refine h.commit (fun _ hmem => List.mem_cons_of_mem _ hmem) ?_ ?_ h.unreturned
  · intro other hother
    obtain rfl | hmem := List.mem_cons.mp hother
    · obtain hmem | ⟨row, hholds, -⟩ := hinv
      · exact .inl hmem
      · exact .inr ⟨_, hholds⟩
    · exact .inl hmem
  · intro other row hholds
    obtain ⟨row', hrow, hfits⟩ := h.drafts tx other _ hholds
    cases hrow
    rw [hsession] at hfits
    obtain hsettled | ⟨hstatus, hrevoke⟩ | ⟨-, hrefresh⟩ := hfits
    · refine ⟨fun hother => ?_, fun hstatus => List.mem_cons_of_mem _ (hsettled.recorded hstatus)⟩
      obtain rfl | hmem := List.mem_cons.mp hother
      · obtain hmem | ⟨row', hholds', hstatus⟩ := hinv
        · exact hsettled.inactive hmem
        · have hsame := hholds.symm.trans hholds'
          cases hsame
          rw [hstatus]
          decide
      · exact hsettled.inactive hmem
    · cases hrevoke
      refine ⟨fun _ => ?_, fun _ => List.mem_cons_self ..⟩
      rw [hstatus]
      decide
    · cases hrefresh

/-- A step of a session keeps the invariant. -/
theorem work (h : traffic.Invariant)
    (hmeets : traffic.Meets event) (hsession : traffic.sessions tx = some session)
    (hstep : Session.Step tx traffic.table session event table' session') :
    (traffic.after tx event table' session').Invariant := by
  have hinv := h.sessions tx session hsession
  have hplain : (∀ id, session ≠ .revoked id ∧ session ≠ .refreshed id true) →
      Plain (traffic.sessions tx) := by
    intro hne id
    rw [hsession]
    exact ⟨fun heq => (hne id).1 (Option.some.inj heq), fun heq => (hne id).2 (Option.some.inj heq)⟩
  have hsettled : ∀ id (row : TokenRow), (∀ id, session ≠ .revoked id ∧ session ≠ .refreshed id true) →
      traffic.table.visible tx id = some row → Settled traffic.revoked id row :=
    fun id row hne hrow => h.visible (hplain hne) hrow
  -- Only a manual refresh and a revoke hold drafts that do not agree with the committed revokes.
  cases hstep with
  | insert hfree hnone =>
      have hnew := h.not_mem_of_visible hnone
      exact h.write (hplain (by simp)) hfree rfl (.inl (.of_not_mem hnew rfl)) trivial h.unreturned
  | lookup hnewest hstatus => exact h.found (hplain (by simp)) hnewest.visible hstatus _
  | valid hnewest hstatus => exact h.found (hplain (by simp)) hnewest.visible hstatus _
  | loadInline hnewest hstatus => exact h.goto (hplain (by simp)) hstatus
  | loadManual => exact h.goto (hplain (by simp)) trivial
  | loadCycle hfound =>
      refine h.goto (hplain (by simp)) fun entry hentry => ?_
      obtain ⟨row, -, htoken, hsoon⟩ := hfound entry hentry
      rw [← htoken]
      exact status_of_expiringSoon hsoon
  | loadRevoke hnewest =>
      exact h.goto (hplain (by simp)) (hsettled _ _ (by simp) hnewest.visible).recorded
  | renew hkept hfree hrow =>
      -- The loaded token was active, so that the status stays as it is; the answer is the problem.
      refine h.write (hplain (by simp)) hfree rfl ?_ trivial ?_
      · exact .inl ((hsettled _ _ (by simp) hrow).refresh hinv _ _)
      · exact unreturned_cons h.unreturned hmeets
  | expire hfree hrow =>
      exact h.write (hplain (by simp)) hfree rfl
        (.inl ((hsettled _ _ (by simp) hrow).assign _ (by decide) (by decide))) trivial h.unreturned
  | refresh hkept hfree hrow =>
      exact h.write (hplain (by simp)) hfree rfl
        ((hsettled _ _ (by simp) hrow).fits_refresh _ _ _) trivial h.unreturned
  | refuse hkept hfree hrow =>
      exact h.write (hplain (by simp)) hfree rfl
        (.inl ((hsettled _ _ (by simp) hrow).assign _ (by decide) (by decide))) trivial h.unreturned
  | refreshNext hkept hfree hrow =>
      have hloaded := hinv _ (List.mem_cons_self ..)
      refine h.write (hplain (by simp)) hfree rfl ?_ ?_ h.unreturned
      · exact .inl ((hsettled _ _ (by simp) hrow).refresh hloaded _ _)
      · exact fun entry hentry => hinv entry (List.mem_cons_of_mem _ hentry)
  | refuseNext hkept hfree hrow =>
      refine h.write (hplain (by simp)) hfree rfl ?_ ?_ h.unreturned
      · exact .inl ((hsettled _ _ (by simp) hrow).assign _ (by decide) (by decide))
      · exact fun entry hentry => hinv entry (List.mem_cons_of_mem _ hentry)
  | skipNext =>
      exact h.goto (hplain (by simp)) fun entry hentry => hinv entry (List.mem_cons_of_mem _ hentry)
  | @revoke id loaded row hloaded hfree hrow =>
      have hstatus := status_revoke hloaded row
      exact h.write (hplain (by simp)) hfree rfl (.inr (.inl ⟨hstatus, rfl⟩))
        (.inr ⟨_, holds_write, hstatus⟩) h.unreturned
  | revokeAgain hloaded => exact h.goto (hplain (by simp)) (.inl (hinv hloaded))
  | @commitRefreshed id reactivates =>
      refine h.commit_refreshed hsession fun hreactivates => ?_
      rw [hreactivates] at hmeets
      exact hmeets
  | commitRevoked => exact h.commit_revoked hsession
  | commitCycle => exact h.commit_plain (hplain (by simp))
  | commitWritten => exact h.commit_plain (hplain (by simp))
  | abort => exact h.rollback

end Traffic.Invariant

/-! ## Runs -/

namespace Traffic

theorem invariant_initial : initial.Invariant where
  settled id row hrow := by cases hrow
  exists_row id hid := by cases hid
  drafts tx id draft hholds := by cases hholds
  sessions tx session hsession := by cases hsession
  unreturned answer hanswer := by cases hanswer

theorem Invariant.step (h : traffic.Invariant) (hmeets : traffic.Meets event)
    (hstep : Step tx traffic event traffic') : traffic'.Invariant := by
  cases hstep with
  | begin request hnone =>
      refine h.goto ?_ trivial
      intro id
      rw [hnone]
      exact ⟨nofun, nofun⟩
  | work hsession hstep => exact h.work hmeets hsession hstep

theorem Run.invariant (h : Run Meets initial traffic) : traffic.Invariant := by
  induction h with
  | start => exact invariant_initial
  | step hrun hmeets hstep ih => exact ih.step hmeets hstep

end Traffic

/-! ## Runs with one row -/

/-- A table with one row, which nobody holds. -/
def rows (row : TokenRow) : Table := ⟨Function.update (fun _ => none) 0 (some row), fun _ => none⟩

theorem commit_rows (row row' : TokenRow) (tx : Nat) :
    ((rows row).write tx 0 (some row')).commit tx = rows row' := by
  rw [commit_write fun _ => rfl]
  unfold rows
  rw [Function.update_idem]

theorem newest_rows (row : TokenRow) (tx : Nat) : Newest (rows row) tx row.credentials 0 row where
  visible := rfl
  belongs := rfl
  newest other row' hrow _ := by
    replace hrow : Function.update (fun _ => none) 0 (some row) other = some row' := hrow
    by_cases hother : other = 0
    · subst hother
      rw [Function.update_self] at hrow
      obtain rfl := Option.some.inj hrow
      exact Int.le_refl _
    · rw [Function.update_of_ne hother] at hrow
      cases hrow

namespace Traffic

variable {meets : Traffic → Event → Prop} {first : Traffic} {sessions : Nat → Option Session}
  {answers : List Answer}

theorem Run.begin (h : Run meets first traffic) (hmeets : meets traffic .silent)
    (hnone : traffic.sessions tx = none) (request : Request) :
    Run meets first (traffic.after tx .silent traffic.table (some (.started request))) :=
  h.step hmeets (.begin request hnone)

theorem Run.work {session' : Option Session} (h : Run meets first traffic)
    (hmeets : meets traffic event) (hsession : traffic.sessions tx = some session)
    (hstep : Session.Step tx traffic.table session event table' session') :
    Run meets first (traffic.after tx event table' session') :=
  h.step hmeets (.work hsession hstep)

theorem Run.exchange (hsilent : ∀ traffic, meets traffic .silent)
    (credentials : String × String × String) (createdAt now : Int) (data : TokenData) :
    Run meets initial ⟨rows ⟨credentials, createdAt, data.stored now⟩, fun _ => none, [], []⟩ := by
  have hstart : Run meets initial initial := .start
  have hstarted : Run meets initial (initial.after 0 .silent initial.table _) :=
    hstart.begin (hsilent _) rfl (.exchange credentials 0 createdAt now data)
  have hwritten := hstarted.work (hsilent _) (Function.update_self ..) (.insert (.of_none rfl) rfl)
  have hcommitted := hwritten.work (hsilent _) (Function.update_self ..) .commitWritten
  have hsessions : Function.update initial.sessions 0 none = fun _ => none :=
    Function.update_eq_self 0 initial.sessions
  have htable : (initial.table.write 0 0
      (some ⟨credentials, createdAt, data.stored now⟩)).commit 0 =
        rows ⟨credentials, createdAt, data.stored now⟩ := commit_write fun _ => rfl
  simp only [after, Function.update_idem, hsessions, htable] at hcommitted
  exact hcommitted

theorem Run.revoke (h : Run meets first ⟨rows row, sessions, revoked, answers⟩) (tx : Nat)
    (hmeets : ∀ traffic event, event = .silent ∨ event = .revoked 0 → meets traffic event)
    (hnone : sessions tx = none) (hstatus : row.token.status ≠ "revoked") :
    Run meets first ⟨rows (row.assign row.token "revoked"), sessions, 0 :: revoked, answers⟩ := by
  have hstarted := h.begin (hmeets _ _ (.inl rfl)) hnone (.revoke row.credentials)
  have hloaded := hstarted.work (hmeets _ _ (.inl rfl)) (Function.update_self ..)
    (.loadRevoke (newest_rows row tx))
  have hflushed := hloaded.work (hmeets _ _ (.inl rfl)) (Function.update_self ..)
    (.revoke hstatus (.of_none rfl) rfl)
  have hcommitted := hflushed.work (hmeets _ _ (.inr rfl)) (Function.update_self ..) .commitRevoked
  have hsessions : Function.update sessions tx none = sessions := by
    rw [← hnone, Function.update_eq_self]
  simp only [after, Function.update_idem, commit_rows, hsessions] at hcommitted
  exact hcommitted

theorem Run.loadManual (h : Run meets first ⟨rows row, sessions, revoked, answers⟩) (tx : Nat)
    (hsilent : ∀ traffic, meets traffic .silent) (hnone : sessions tx = none) :
    Run meets first ⟨rows row, Function.update sessions tx (some (.refreshing 0 row.token)), revoked,
      answers⟩ := by
  have hstarted := h.begin (hsilent _) hnone (.manual row.credentials)
  have hloaded := hstarted.work (hsilent _) (Function.update_self ..)
    (.loadManual (newest_rows row tx))
  simp only [after, Function.update_idem] at hloaded
  exact hloaded

theorem Run.loadInline (h : Run meets first ⟨rows row, sessions, revoked, answers⟩) (tx : Nat)
    (now : Int) (hsilent : ∀ traffic, meets traffic .silent) (hnone : sessions tx = none)
    (hstatus : row.token.status = "active") (hexpired : expired row.token now = true) :
    Run meets first ⟨rows row, Function.update sessions tx (some (.inlining 0 row.token)), revoked,
      answers⟩ := by
  have hstarted := h.begin (hsilent _) hnone (.inline row.credentials now)
  have hloaded := hstarted.work (hsilent _) (Function.update_self ..)
    (.loadInline (newest_rows row tx) hstatus hexpired)
  simp only [after, Function.update_idem] at hloaded
  exact hloaded

theorem Run.refresh (h : Run meets first ⟨rows row, sessions, revoked, answers⟩)
    (hsilent : ∀ traffic, meets traffic .silent)
    (hreactivated : loaded.status ≠ "active" → ∀ traffic, meets traffic (.reactivated 0))
    (hsession : sessions tx = some (.refreshing 0 loaded))
    (hkept : loaded.refreshToken.isSome = true) (data : TokenData) (now : Int) :
    Run meets first ⟨rows (row.refresh loaded data now), Function.update sessions tx none, revoked,
      answers⟩ := by
  have hstep : Session.Step tx (rows row) (.refreshing 0 loaded) .silent
      ((rows row).write tx 0 (some (row.refresh loaded data now)))
      (some (.refreshed 0 (loaded.status ≠ "active"))) :=
    .refresh hkept (.of_none rfl) rfl
  have hflushed := h.work (hsilent _) hsession hstep
  by_cases hactive : loaded.status = "active"
  · have hreactivates : decide (loaded.status ≠ "active") = false := by simp [hactive]
    rw [hreactivates] at hflushed
    have hcommitted := hflushed.work (hsilent _) (Function.update_self ..) .commitRefreshed
    simp only [after, Function.update_idem, commit_rows] at hcommitted
    exact hcommitted
  · have hreactivates : decide (loaded.status ≠ "active") = true := by simp [hactive]
    rw [hreactivates] at hflushed
    have hcommitted := hflushed.work (hreactivated hactive _) (Function.update_self ..)
      .commitRefreshed
    simp only [after, Function.update_idem, commit_rows] at hcommitted
    exact hcommitted

end Traffic

/-- In every run in which the provider issues no tokens to an inline refresh of a revoked row, and no
manual refresh that sets the status of such a row is committed, a row whose revoke has been committed
is never active again, and its token is never returned. -/
theorem revocation_final (h : Traffic.Run Traffic.Meets Traffic.initial traffic) : traffic.Final where
  inactive id hid row hrow := (h.invariant.settled id row hrow).inactive hid
  unreturned := h.invariant.unreturned

/-- The tokens of an authorization. -/
def firstTokens : TokenData := ⟨"access-1", some "refresh-1", some 3600⟩

/-- The tokens of a refresh. -/
def nextTokens : TokenData := ⟨"access-2", some "refresh-2", some 3600⟩

/-- The row of an authorization. -/
def authorized : TokenRow := ⟨("tenant", "shop", "default"), 0, firstTokens.stored 0⟩

/-- A manual refresh that has loaded an active token does not undo a revoke that is committed while
it waits for the provider. -/
theorem revocation_final_overlap :
    ∃ traffic, Traffic.Run Traffic.Meets Traffic.initial traffic ∧ 0 ∈ traffic.revoked ∧
      traffic.Final := by
  have hmeets : ∀ traffic event, event = .silent ∨ event = .revoked 0 →
      Traffic.Meets traffic event := by
    rintro traffic event (rfl | rfl)
    · trivial
    · trivial
  have hsilent : ∀ traffic, Traffic.Meets traffic .silent := fun _ => trivial
  have hauthorized := Traffic.Run.exchange hsilent authorized.credentials 0 0 firstTokens
  have hloaded := hauthorized.loadManual 1 hsilent rfl
  have hrevoked := hloaded.revoke 2 hmeets rfl (by decide)
  have hsession : Function.update (fun _ => none) 1
      (some (Session.refreshing 0 authorized.token)) 1 = some (.refreshing 0 authorized.token) := rfl
  have hrefreshed := hrevoked.refresh hsilent (fun hstatus => absurd rfl hstatus) hsession rfl
    nextTokens 10
  exact ⟨_, hrefreshed, List.mem_cons_self .., revocation_final hrefreshed⟩

/-- A manual refresh of a revoked token makes it active again, and an inline refresh that has loaded
the token before a revoke returns it after the revoke is committed. -/
theorem revocation_not_final :
    (∃ traffic, Traffic.Run (fun _ _ => True) Traffic.initial traffic ∧ ∃ id ∈ traffic.revoked,
        ∃ row, traffic.table.committed id = some row ∧ row.token.status = "active") ∧
      ∃ traffic, Traffic.Run (fun _ _ => True) Traffic.initial traffic ∧
        ∃ answer ∈ traffic.answers, answer.afterRevoke = true := by
  let meets : Traffic → Event → Prop := fun _ _ => True
  have hsilent : ∀ traffic, meets traffic .silent := fun _ => trivial
  have hmeets : ∀ traffic event, event = .silent ∨ event = .revoked 0 → meets traffic event :=
    fun _ _ _ => trivial
  have hauthorized := Traffic.Run.exchange hsilent authorized.credentials 0 0 firstTokens
  constructor
  · have hrevoked := hauthorized.revoke 1 hmeets rfl (by decide)
    have hloaded := hrevoked.loadManual 2 hsilent rfl
    have hsession : Function.update (fun _ => none) 2
        (some (Session.refreshing 0 (authorized.assign authorized.token "revoked").token)) 2 =
          some (.refreshing 0 (authorized.assign authorized.token "revoked").token) := rfl
    have hrefreshed := hloaded.refresh hsilent (fun _ _ => trivial) hsession rfl nextTokens 10
    exact ⟨_, hrefreshed, 0, List.mem_cons_self .., _, rfl, by decide⟩
  · have hloaded := hauthorized.loadInline 1 3600 hsilent rfl rfl (by decide)
    have hrevoked := hloaded.revoke 2 hmeets rfl (by decide)
    let revoked := authorized.assign authorized.token "revoked"
    have hstep : Session.Step 1 (rows revoked) (.inlining 0 authorized.token)
        (.renewed 0 nextTokens.accessToken)
        ((rows revoked).write 1 0 (some (revoked.refresh authorized.token nextTokens 3610)))
        (some .written) :=
      .renew rfl (.of_none rfl) rfl
    have hrenewed := hrevoked.work trivial rfl hstep
    exact ⟨_, hrenewed, _, List.mem_cons_self .., rfl⟩

end Revocation

end OAuth

end IntegrationPlatform
