import IntegrationPlatform.Transactions.Processes

/-!
# Token refreshes of Allegro

Requests of one account share its token pair, and each of them refreshes it on its own with the refresh
token that it has read before. A refused refresh deletes whatever pair is there by then. `pair_kept` says
which runs lose no pair that is still valid.
-/

namespace IntegrationPlatform

namespace AllegroAuth

/-! ## Requests -/

/-- A token pair: the number of the refresh that has issued it, and when it expires. -/
structure Pair where
  generation : Nat
  expiresAt : Nat
  deriving DecidableEq

/-- `_tokens` and `_expiry`, the row of `oauth_tokens`, and the number of refreshes that the provider has
made. Only the refresh token of the last one is valid. -/
structure Account where
  memory : Option Pair
  row : Option Pair
  issued : Nat

/-- What has called `refresh_token`: `get_access_token`, or the request after a 401. -/
inductive Caller where
  | getAccessToken
  | request

/-- What a refresh request comes to. -/
inductive Reply where
  | granted (generation expiresIn : Nat)
  | refused
  | failed

/-- Where a request is, with the number of its attempt: before `get_access_token`, at the API, asleep
after a 429, or in a refresh, which is sent, answered, and then deletes or saves the row. -/
inductive Phase where
  | attempt (number : Nat)
  | calling (number : Nat)
  | asleep (number : Nat)
  | posted (number : Nat) (caller : Caller) (generation : Nat)
  | answered (number : Nat) (caller : Caller) (generation : Nat) (reply : Reply)
  | deleting (number : Nat) (caller : Caller) (generation : Nat)
  | saving (number : Nat) (caller : Caller) (pair : Pair)
  | finished

/-- What happens next to a request: it checks its token, the API answers or fails, the provider handles
the refresh, loses its answer or does not get it, the answer arrives, the database writes or fails, or
the request wakes up. -/
inductive Choice where
  | check (now : Nat)
  | respond (status : Nat)
  | fail
  | handle (expiresIn : Nat)
  | lose
  | drop
  | resume (now : Nat)
  | write (succeeds : Bool)
  | wake

/-- The next attempt of a request, if there is one. -/
def nextAttempt (maxRetries number : Nat) : Phase :=
  if number + 1 < maxRetries then .attempt (number + 1) else .finished

/-- Where a request is after a refresh that raises. -/
def raised (maxRetries number : Nat) : Caller → Phase
  | .getAccessToken => .finished
  | .request => nextAttempt maxRetries number

/-- Where a request is after a refresh that returns. -/
def returned (maxRetries number : Nat) : Caller → Phase
  | .getAccessToken => .calling number
  | .request => nextAttempt maxRetries number

/-- The start of `refresh_token`, which reads the refresh token. -/
def refreshToken (maxRetries : Nat) (account : Account) (number : Nat) (caller : Caller) : Phase :=
  match account.memory with
  | none => raised maxRetries number caller
  | some current => .posted number caller current.generation

/-- One step of a request. -/
def step (maxRetries : Nat) (account : Account) : Phase → Choice → Option (Account × Phase)
  | .attempt number, .check now =>
      match account.memory with
      | none => some (account, .finished)
      | some current =>
          if now < current.expiresAt then some (account, .calling number)
          else some (account, refreshToken maxRetries account number .getAccessToken)
  | .calling number, .respond status =>
      if status = 401 then some (account, refreshToken maxRetries account number .request)
      else if status = 429 then some (account, .asleep number)
      else some (account, .finished)
  | .calling _, .fail => some (account, .finished)
  | .asleep number, .wake => some (account, nextAttempt maxRetries number)
  | .posted number caller generation, .handle expiresIn =>
      if generation = account.issued then
        some ({ account with issued := account.issued + 1 },
          .answered number caller generation (.granted (account.issued + 1) expiresIn))
      else some (account, .answered number caller generation .refused)
  | .posted number caller generation, .lose =>
      some ({ account with
        issued := if generation = account.issued then account.issued + 1 else account.issued },
        .answered number caller generation .failed)
  | .posted number caller generation, .drop =>
      some (account, .answered number caller generation .failed)
  | .answered number caller generation reply, .resume now =>
      match reply with
      | .granted issued expiresIn =>
          some ({ account with memory := some ⟨issued, now + expiresIn⟩ },
            .saving number caller ⟨issued, now + expiresIn⟩)
      | .refused => some ({ account with memory := none }, .deleting number caller generation)
      | .failed => some (account, raised maxRetries number caller)
  | .deleting number caller _, .write succeeds =>
      some ({ account with row := if succeeds then none else account.row },
        raised maxRetries number caller)
  | .saving number caller pair, .write succeeds =>
      some ({ account with row := if succeeds then some pair else account.row },
        if succeeds then returned maxRetries number caller else raised maxRetries number caller)
  | _, _ => none

/-- Requests of an account whose pair has been issued and stored. -/
def start (maxRetries expiresAt requests : Nat) : Processes Account Phase :=
  ⟨⟨some ⟨0, expiresAt⟩, some ⟨0, expiresAt⟩, 0⟩,
    List.replicate requests (if 0 < maxRetries then .attempt 0 else .finished)⟩

/-- A refresh ends only if no other request has stored a pair since it has read its refresh token: it is
refused while memory has the pair that it has read, and it writes the row over no later pair. -/
def Undisturbed (processes : Processes Account Phase) (id : Nat) (_ : Choice) : Bool :=
  match processes.phases[id]? with
  | some (.answered _ _ generation .refused) =>
      processes.shared.memory.all fun current => current.generation = generation
  | some (.deleting _ _ generation) =>
      processes.shared.row.all fun stored => stored.generation ≤ generation
  | some (.saving _ _ pair) =>
      processes.shared.row.all fun stored => stored.generation ≤ pair.generation
  | _ => true

/-- A pair whose refresh token is valid is neither deleted nor replaced by an older one. -/
def KeepsPair (issued : Nat) (before after : Option Pair) : Prop :=
  ∀ pair, before = some pair → pair.generation = issued →
    ∃ pair', after = some pair' ∧ pair.generation ≤ pair'.generation

/-! ## Generations -/

/-- The generation of the refresh token that a request has sent. -/
def Phase.sent : Phase → Option Nat
  | .posted _ _ generation => some generation
  | _ => none

/-- The generation of the refresh token with which a request was refused. -/
def Phase.refused : Phase → Option Nat
  | .answered _ _ generation .refused => some generation
  | .deleting _ _ generation => some generation
  | _ => none

/-- The generation of the pair that is on its way to a request. -/
def Phase.granted : Phase → Option Nat
  | .answered _ _ _ (.granted generation _) => some generation
  | _ => none

/-- A phase outside the refreshes, or in one that does not count. -/
def Phase.Idle (phase : Phase) : Prop :=
  phase.sent = none ∧ phase.refused = none ∧ phase.granted = none

section Steps

variable {maxRetries number : Nat} {account account' : Account} {phase phase' : Phase}
  {choice : Choice}

theorem nextAttempt_idle (maxRetries number : Nat) : (nextAttempt maxRetries number).Idle := by
  unfold nextAttempt
  split <;> exact ⟨rfl, rfl, rfl⟩

theorem raised_idle (maxRetries number : Nat) (caller : Caller) :
    (raised maxRetries number caller).Idle := by
  cases caller with
  | getAccessToken => exact ⟨rfl, rfl, rfl⟩
  | request => exact nextAttempt_idle maxRetries number

theorem returned_idle (maxRetries number : Nat) (caller : Caller) :
    (returned maxRetries number caller).Idle := by
  cases caller with
  | getAccessToken => exact ⟨rfl, rfl, rfl⟩
  | request => exact nextAttempt_idle maxRetries number

theorem refreshToken_cases (maxRetries : Nat) (account : Account) (number : Nat) (caller : Caller) :
    (refreshToken maxRetries account number caller).Idle ∨ ∃ current,
      account.memory = some current ∧
      refreshToken maxRetries account number caller = .posted number caller current.generation := by
  unfold refreshToken
  cases hmemory : account.memory with
  | none => exact .inl (raised_idle maxRetries number caller)
  | some current => exact .inr ⟨current, rfl, rfl⟩

/-- What a step does to the account, and what a request then waits for. -/
inductive Change (account : Account) (phase : Phase) : Account → Phase → Prop where
  /-- Nothing that concerns the pair. -/
  | idle {phase' : Phase} : phase'.Idle → Change account phase account phase'
  /-- The refresh token in memory is sent. -/
  | sends {number : Nat} {caller : Caller} {current : Pair} : account.memory = some current →
      Change account phase account (.posted number caller current.generation)
  /-- The provider grants a new pair, whose answer may be lost. -/
  | grants {phase' : Phase} : phase.sent = some account.issued → phase'.sent = none →
      phase'.refused = none →
      (∀ issued, phase'.granted = some issued → issued = account.issued + 1) →
      Change account phase { account with issued := account.issued + 1 } phase'
  /-- The provider refuses. -/
  | refuses {generation number : Nat} {caller : Caller} : phase.sent = some generation →
      generation ≠ account.issued →
      Change account phase account (.answered number caller generation .refused)
  /-- A new pair is stored in memory. -/
  | stores {pair : Pair} {phase' : Phase} : phase.granted = some pair.generation → phase'.Idle →
      Change account phase { account with memory := some pair } phase'
  /-- The pair in memory is dropped. -/
  | forgets {generation number : Nat} {caller : Caller} : phase.refused = some generation →
      (∃ number caller, phase = .answered number caller generation .refused) →
      Change account phase { account with memory := none } (.deleting number caller generation)
  /-- The row is deleted. -/
  | deletes {generation number : Nat} {caller : Caller} {phase' : Phase} :
      phase = .deleting number caller generation → phase'.Idle →
      Change account phase { account with row := none } phase'
  /-- The row is written. -/
  | saves {number : Nat} {caller : Caller} {pair : Pair} {phase' : Phase} :
      phase = .saving number caller pair → phase'.Idle →
      Change account phase { account with row := some pair } phase'

/-- Every step is one of these changes. -/
theorem change_of_step (h : step maxRetries account phase choice = some (account', phase')) :
    Change account phase account' phase' := by
  have hrefresh : ∀ number caller, Change account phase account
      (refreshToken maxRetries account number caller) := by
    intro number caller
    rcases refreshToken_cases maxRetries account number caller with hidle | ⟨current, hmemory, heq⟩
    · exact .idle hidle
    · rw [heq]
      exact .sends hmemory
  unfold step at h
  split at h
  · next number now =>
    split at h
    · cases h
      exact .idle ⟨rfl, rfl, rfl⟩
    · split at h
      · cases h
        exact .idle ⟨rfl, rfl, rfl⟩
      · cases h
        exact hrefresh number .getAccessToken
  · next number status =>
    split at h
    · cases h
      exact hrefresh number .request
    · split at h <;> cases h <;>
        exact .idle ⟨rfl, rfl, rfl⟩
  · cases h
    exact .idle ⟨rfl, rfl, rfl⟩
  · cases h
    exact .idle (nextAttempt_idle _ _)
  · next number caller generation expiresIn =>
    split at h
    · next hvalid =>
      cases h
      exact .grants (congrArg some hvalid) rfl rfl fun issued hissued => (Option.some.inj hissued).symm
    · next hvalid =>
      cases h
      exact .refuses rfl hvalid
  · next number caller generation =>
    cases h
    by_cases hvalid : generation = account.issued
    · rw [if_pos hvalid]
      exact .grants (congrArg some hvalid) rfl rfl fun _ hissued => (nomatch hissued)
    · rw [if_neg hvalid]
      exact .idle ⟨rfl, rfl, rfl⟩
  · cases h
    exact .idle ⟨rfl, rfl, rfl⟩
  · next number caller generation reply now =>
    split at h
    · cases h
      exact .stores rfl ⟨rfl, rfl, rfl⟩
    · cases h
      exact .forgets rfl ⟨number, caller, rfl⟩
    · cases h
      exact .idle (raised_idle _ _ _)
  · next number caller generation succeeds =>
    cases h
    cases succeeds with
    | true => exact .deletes rfl (raised_idle _ _ _)
    | false => exact .idle (raised_idle _ _ _)
  · next number caller pair succeeds =>
    cases h
    cases succeeds with
    | true => exact .saves rfl (returned_idle _ _ _)
    | false => exact .idle (raised_idle _ _ _)
  · cases h

end Steps

/-! ## Runs -/

/-- What holds in every reachable state. While a new pair is on its way to a request, it is the only one,
and no other request has sent its refresh token. -/
structure Sound (processes : Processes Account Phase) : Prop where
  memory_le : ∀ pair, processes.shared.memory = some pair →
    pair.generation ≤ processes.shared.issued
  sent_le : ∀ id phase generation, processes.At id phase → phase.sent = some generation →
    generation ≤ processes.shared.issued
  refused_lt : ∀ id phase generation, processes.At id phase → phase.refused = some generation →
    generation < processes.shared.issued
  granted_eq : ∀ id phase generation, processes.At id phase → phase.granted = some generation →
    generation = processes.shared.issued
  memory_lt : ∀ id phase generation pair, processes.At id phase → phase.granted = some generation →
    processes.shared.memory = some pair → pair.generation < processes.shared.issued
  sent_lt : ∀ id phase generation other phase' sent, processes.At id phase →
    phase.granted = some generation → processes.At other phase' → phase'.sent = some sent →
    sent < processes.shared.issued
  granted_unique : ∀ id phase generation other phase' generation', processes.At id phase →
    phase.granted = some generation → processes.At other phase' →
    phase'.granted = some generation' → other = id

section Runs

variable {maxRetries : Nat} {processes : Processes Account Phase} {id : Nat} {phase phase' : Phase}
  {shared : Account}

theorem at_before {kind : Phase → Option Nat} {other value : Nat} {found : Phase}
    (hphase : processes.At id phase) (hnone : kind phase' = none)
    (hfound : Processes.At ⟨shared, processes.phases.set id phase'⟩ other found)
    (hvalue : kind found = some value) : other ≠ id ∧ processes.At other found := by
  rcases hphase.of_set hfound with ⟨-, rfl⟩ | hother
  · rw [hnone] at hvalue
    cases hvalue
  · exact hother

/-- A step that sends no refresh token and grants no pair keeps what holds, if it leaves the number of
refreshes and drops no more than the pair in memory. -/
theorem Sound.quiet (h : Sound processes) (hphase : processes.At id phase)
    (hissued : shared.issued = processes.shared.issued)
    (hmemory : ∀ pair, shared.memory = some pair → processes.shared.memory = some pair)
    (hsent : phase'.sent = none) (hgranted : phase'.granted = none)
    (hrefused : ∀ generation, phase'.refused = some generation →
      generation < processes.shared.issued) :
    Sound ⟨shared, processes.phases.set id phase'⟩ := by
  constructor
  · intro pair hpair
    rw [hissued]
    exact h.memory_le pair (hmemory pair hpair)
  · intro other found generation hfound hvalue
    rw [hissued]
    exact h.sent_le other found generation (at_before hphase hsent hfound hvalue).2 hvalue
  · intro other found generation hfound hvalue
    rw [hissued]
    rcases hphase.of_set hfound with ⟨-, rfl⟩ | ⟨-, hother⟩
    · exact hrefused generation hvalue
    · exact h.refused_lt other found generation hother hvalue
  · intro other found generation hfound hvalue
    rw [hissued]
    exact h.granted_eq other found generation (at_before hphase hgranted hfound hvalue).2 hvalue
  · intro other found generation pair hfound hvalue hpair
    rw [hissued]
    exact h.memory_lt other found generation pair (at_before hphase hgranted hfound hvalue).2 hvalue
      (hmemory pair hpair)
  · intro other found generation other' found' sent hfound hvalue hfound' hvalue'
    rw [hissued]
    exact h.sent_lt other found generation other' found' sent
      (at_before hphase hgranted hfound hvalue).2 hvalue (at_before hphase hsent hfound' hvalue').2
      hvalue'
  · intro other found generation other' found' generation' hfound hvalue hfound' hvalue'
    exact h.granted_unique other found generation other' found' generation'
      (at_before hphase hgranted hfound hvalue).2 hvalue
      (at_before hphase hgranted hfound' hvalue').2 hvalue'

theorem Sound.sends {number : Nat} {caller : Caller} {current : Pair} (h : Sound processes)
    (hphase : processes.At id phase) (hmemory : processes.shared.memory = some current) :
    Sound ⟨processes.shared,
      processes.phases.set id (.posted number caller current.generation)⟩ := by
  constructor
  · exact h.memory_le
  · intro other found generation hfound hvalue
    rcases hphase.of_set hfound with ⟨-, rfl⟩ | ⟨-, hother⟩
    · obtain rfl := Option.some.inj hvalue
      exact h.memory_le current hmemory
    · exact h.sent_le other found generation hother hvalue
  · intro other found generation hfound hvalue
    exact h.refused_lt other found generation (at_before hphase rfl hfound hvalue).2 hvalue
  · intro other found generation hfound hvalue
    exact h.granted_eq other found generation (at_before hphase rfl hfound hvalue).2 hvalue
  · intro other found generation pair hfound hvalue hpair
    exact h.memory_lt other found generation pair (at_before hphase rfl hfound hvalue).2 hvalue hpair
  · intro other found generation other' found' sent hfound hvalue hfound' hvalue'
    have hother := (at_before hphase rfl hfound hvalue).2
    rcases hphase.of_set hfound' with ⟨-, rfl⟩ | ⟨-, hother'⟩
    · obtain rfl := Option.some.inj hvalue'
      exact h.memory_lt other found generation current hother hvalue hmemory
    · exact h.sent_lt other found generation other' found' sent hother hvalue hother' hvalue'
  · intro other found generation other' found' generation' hfound hvalue hfound' hvalue'
    exact h.granted_unique other found generation other' found' generation'
      (at_before hphase rfl hfound hvalue).2 hvalue (at_before hphase rfl hfound' hvalue').2 hvalue'

/-- The provider grants a pair only while none is on its way. -/
theorem Sound.grants (h : Sound processes) (hphase : processes.At id phase)
    (hsent : phase.sent = some processes.shared.issued) (hsent' : phase'.sent = none)
    (hrefused' : phase'.refused = none)
    (hgranted' : ∀ issued, phase'.granted = some issued → issued = processes.shared.issued + 1) :
    Sound ⟨{ processes.shared with issued := processes.shared.issued + 1 },
      processes.phases.set id phase'⟩ := by
  have hnone : ∀ other found generation, processes.At other found →
      found.granted = some generation → False := by
    intro other found generation hfound hvalue
    exact Nat.lt_irrefl _ (h.sent_lt other found generation id phase _ hfound hvalue hphase hsent)
  constructor
  · intro pair hpair
    exact Nat.le_succ_of_le (h.memory_le pair hpair)
  · intro other found generation hfound hvalue
    rcases hphase.of_set hfound with ⟨-, rfl⟩ | ⟨-, hother⟩
    · rw [hsent'] at hvalue
      cases hvalue
    · exact Nat.le_succ_of_le (h.sent_le other found generation hother hvalue)
  · intro other found generation hfound hvalue
    rcases hphase.of_set hfound with ⟨-, rfl⟩ | ⟨-, hother⟩
    · rw [hrefused'] at hvalue
      cases hvalue
    · exact Nat.lt_succ_of_lt (h.refused_lt other found generation hother hvalue)
  · intro other found generation hfound hvalue
    rcases hphase.of_set hfound with ⟨-, rfl⟩ | ⟨-, hother⟩
    · exact hgranted' generation hvalue
    · exact (hnone other found generation hother hvalue).elim
  · intro _ _ _ pair _ _ hpair
    exact Nat.lt_succ_of_le (h.memory_le pair hpair)
  · intro _ _ _ other found sent _ _ hfound hvalue
    rcases hphase.of_set hfound with ⟨-, rfl⟩ | ⟨-, hother⟩
    · rw [hsent'] at hvalue
      cases hvalue
    · exact Nat.lt_succ_of_le (h.sent_le other found sent hother hvalue)
  · intro other found generation other' found' generation' hfound hvalue hfound' hvalue'
    rcases hphase.of_set hfound with ⟨rfl, -⟩ | ⟨-, hother⟩
    · rcases hphase.of_set hfound' with ⟨rfl, -⟩ | ⟨-, hother'⟩
      · rfl
      · exact (hnone other' found' generation' hother' hvalue').elim
    · exact (hnone other found generation hother hvalue).elim

theorem Sound.stores {pair : Pair} (h : Sound processes) (hphase : processes.At id phase)
    (hgranted : phase.granted = some pair.generation) (hidle : phase'.Idle) :
    Sound ⟨{ processes.shared with memory := some pair }, processes.phases.set id phase'⟩ := by
  have hnone : ∀ other found generation,
      Processes.At ⟨{ processes.shared with memory := some pair },
        processes.phases.set id phase'⟩ other found → found.granted = some generation → False := by
    intro other found generation hfound hvalue
    obtain ⟨hne, hother⟩ := at_before hphase hidle.2.2 hfound hvalue
    exact hne (h.granted_unique id phase _ other found generation hphase hgranted hother hvalue)
  constructor
  · intro stored hstored
    obtain rfl := Option.some.inj hstored
    exact Nat.le_of_eq (h.granted_eq id phase _ hphase hgranted)
  · intro other found generation hfound hvalue
    exact h.sent_le other found generation (at_before hphase hidle.1 hfound hvalue).2 hvalue
  · intro other found generation hfound hvalue
    exact h.refused_lt other found generation (at_before hphase hidle.2.1 hfound hvalue).2 hvalue
  · intro other found generation hfound hvalue
    exact (hnone other found generation hfound hvalue).elim
  · intro other found generation _ hfound hvalue
    exact (hnone other found generation hfound hvalue).elim
  · intro other found generation _ _ _ hfound hvalue
    exact (hnone other found generation hfound hvalue).elim
  · intro other found generation _ _ _ hfound hvalue
    exact (hnone other found generation hfound hvalue).elim

theorem sound_change (h : Sound processes) (hphase : processes.At id phase)
    (hchange : Change processes.shared phase shared phase') :
    Sound ⟨shared, processes.phases.set id phase'⟩ := by
  cases hchange with
  | idle hidle =>
      refine h.quiet hphase rfl (fun _ hpair => hpair) hidle.1 hidle.2.2 fun generation hvalue => ?_
      rw [hidle.2.1] at hvalue
      cases hvalue
  | deletes _ hidle =>
      refine h.quiet hphase rfl (fun _ hpair => hpair) hidle.1 hidle.2.2 fun generation hvalue => ?_
      rw [hidle.2.1] at hvalue
      cases hvalue
  | saves _ hidle =>
      refine h.quiet hphase rfl (fun _ hpair => hpair) hidle.1 hidle.2.2 fun generation hvalue => ?_
      rw [hidle.2.1] at hvalue
      cases hvalue
  | forgets hrefused =>
      refine h.quiet hphase rfl (fun _ hpair => (nomatch hpair)) rfl rfl fun generation hvalue => ?_
      obtain rfl := Option.some.inj hvalue
      exact h.refused_lt id phase _ hphase hrefused
  | refuses hsent hne =>
      refine h.quiet hphase rfl (fun _ hpair => hpair) rfl rfl fun generation hvalue => ?_
      obtain rfl := Option.some.inj hvalue
      exact Nat.lt_of_le_of_ne (h.sent_le id phase _ hphase hsent) hne
  | sends hmemory => exact h.sends hphase hmemory
  | grants hsent hsent' hrefused' hgranted' => exact h.grants hphase hsent hsent' hrefused' hgranted'
  | stores hgranted hidle => exact h.stores hphase hgranted hidle

theorem sound_of_run {meets : Processes Account Phase → Nat → Choice → Bool}
    {expiresAt requests : Nat}
    (h : Processes.Run (step maxRetries) meets (start maxRetries expiresAt requests) processes) :
    Sound processes := by
  have hphases : ∀ id phase, (start maxRetries expiresAt requests).At id phase → phase.Idle := by
    intro id phase hphase
    obtain rfl := (List.mem_replicate.mp (List.mem_of_getElem? hphase)).2
    split <;> exact ⟨rfl, rfl, rfl⟩
  refine h.invariant ?_ fun before id choice phase shared phase' hsound _ hphase hstep =>
    sound_change hsound hphase (change_of_step hstep)
  have hnone : ∀ id phase (kind : Phase → Option Nat) generation,
      (start maxRetries expiresAt requests).At id phase → (phase.Idle → kind phase = none) →
      kind phase = some generation → False := by
    intro id phase kind generation hphase hidle hvalue
    rw [hidle (hphases id phase hphase)] at hvalue
    cases hvalue
  constructor
  · intro pair hpair
    obtain rfl := Option.some.inj hpair
    exact Nat.le_refl _
  · intro id phase generation hphase hvalue
    exact (hnone id phase _ generation hphase (fun hidle => hidle.1) hvalue).elim
  · intro id phase generation hphase hvalue
    exact (hnone id phase _ generation hphase (fun hidle => hidle.2.1) hvalue).elim
  · intro id phase generation hphase hvalue
    exact (hnone id phase _ generation hphase (fun hidle => hidle.2.2) hvalue).elim
  · intro id phase generation _ hphase hvalue
    exact (hnone id phase _ generation hphase (fun hidle => hidle.2.2) hvalue).elim
  · intro id phase generation _ _ _ hphase hvalue
    exact (hnone id phase _ generation hphase (fun hidle => hidle.2.2) hvalue).elim
  · intro id phase generation _ _ _ hphase hvalue
    exact (hnone id phase _ generation hphase (fun hidle => hidle.2.2) hvalue).elim

theorem keepsPair_self (issued : Nat) (pair : Option Pair) : KeepsPair issued pair pair :=
  fun found hfound _ => ⟨found, hfound, Nat.le_refl _⟩

/-- In every run in which refreshes end undisturbed, no step deletes a pair that is valid, or replaces it
by an older one, in memory or in the database. -/
theorem pair_kept {expiresAt requests : Nat} {processes' : Processes Account Phase} {choice : Choice}
    (hrun : Processes.Run (step maxRetries) Undisturbed (start maxRetries expiresAt requests) processes)
    (hundisturbed : Undisturbed processes id choice = true)
    (hstep : processes.advance (step maxRetries) id choice = some processes') :
    KeepsPair processes.shared.issued processes.shared.memory processes'.shared.memory ∧
      KeepsPair processes.shared.issued processes.shared.row processes'.shared.row := by
  have hsound := sound_of_run hrun
  obtain ⟨phase, shared, phase', hphase, hnext, rfl⟩ := Processes.advance_eq_some.mp hstep
  have hat : processes.phases[id]? = some phase := hphase
  unfold Undisturbed at hundisturbed
  rw [hat] at hundisturbed
  cases change_of_step hnext with
  | idle | sends | grants | refuses => exact ⟨keepsPair_self _ _, keepsPair_self _ _⟩
  | stores hgranted =>
      refine ⟨fun pair hpair _ => ⟨_, rfl, ?_⟩, keepsPair_self _ _⟩
      have hlt := hsound.memory_lt id phase _ pair hphase hgranted hpair
      have heq := hsound.granted_eq id phase _ hphase hgranted
      omega
  | forgets hrefused hanswered =>
      refine ⟨fun pair hpair hvalid => ?_, keepsPair_self _ _⟩
      have hlt := hsound.refused_lt id phase _ hphase hrefused
      obtain ⟨number, caller, rfl⟩ := hanswered
      simp only at hundisturbed
      rw [hpair, Option.all_some, decide_eq_true_iff] at hundisturbed
      omega
  | deletes hdeleting =>
      subst hdeleting
      refine ⟨keepsPair_self _ _, fun pair hpair hvalid => ?_⟩
      have hlt := hsound.refused_lt id _ _ hphase rfl
      simp only at hundisturbed
      rw [hpair, Option.all_some, decide_eq_true_iff] at hundisturbed
      omega
  | saves hsaving =>
      subst hsaving
      refine ⟨keepsPair_self _ _, fun pair hpair _ => ⟨_, rfl, ?_⟩⟩
      simp only at hundisturbed
      rw [hpair, Option.all_some, decide_eq_true_iff] at hundisturbed
      exact hundisturbed

end Runs

/-- Two requests have sent the refresh token of the expired pair. The second one has been refused and has deleted
that pair, and the first one is about to save its new pair. -/
def refreshing : Processes Account Phase :=
  ⟨⟨some ⟨1, 110⟩, none, 1⟩, [.saving 0 .getAccessToken ⟨1, 110⟩, .finished]⟩

/-- The same requests after the row has been written. -/
def refreshed : Processes Account Phase :=
  ⟨⟨some ⟨1, 110⟩, some ⟨1, 110⟩, 1⟩, [.calling 0, .finished]⟩

/-- A refresh keeps the new pair where one that overlaps it has been refused and has ended before. -/
theorem lone_refresh_kept :
    KeepsPair 1 refreshing.shared.memory refreshed.shared.memory ∧
      KeepsPair 1 refreshing.shared.row refreshed.shared.row := by
  have hplay : (start 3 5 2).play (step 3) Undisturbed
      [(0, .check 10), (1, .check 10), (0, .handle 100), (1, .handle 100), (1, .resume 10),
        (1, .write true), (0, .resume 10)] = some refreshing := rfl
  exact @pair_kept 3 refreshing 0 5 2 refreshed (.write true) (.play .start hplay) rfl rfl

/-- Two requests that have both sent the refresh token of the expired pair, of which the first one has
stored the new pair and the second one has been refused. -/
def overlapping : Processes Account Phase :=
  ⟨⟨some ⟨1, 110⟩, some ⟨1, 110⟩, 1⟩,
    [.calling 0, .answered 0 .getAccessToken 0 .refused]⟩

/-- The second request drops the new pair from memory and then from the database, where it is the valid
one. -/
theorem new_pair_deleted :
    Processes.Run (step 3) (fun _ _ _ => true) (start 3 5 2) overlapping ∧
    ∃ forgotten deleted, overlapping.advance (step 3) 1 (.resume 11) = some forgotten ∧
      ¬ KeepsPair overlapping.shared.issued overlapping.shared.memory forgotten.shared.memory ∧
      forgotten.advance (step 3) 1 (.write true) = some deleted ∧
      ¬ KeepsPair forgotten.shared.issued forgotten.shared.row deleted.shared.row := by
  have hplay : (start 3 5 2).play (step 3) (fun _ _ _ => true)
      [(0, .check 10), (1, .check 10), (0, .handle 100), (1, .handle 100), (0, .resume 10),
        (0, .write true)] = some overlapping := rfl
  refine ⟨Processes.Run.play .start hplay, _, _, rfl, ?_, rfl, ?_⟩
  · intro h
    obtain ⟨_, hnone, -⟩ := h ⟨1, 110⟩ rfl rfl
    cases hnone
  · intro h
    obtain ⟨_, hnone, -⟩ := h ⟨1, 110⟩ rfl rfl
    cases hnone

end AllegroAuth

end IntegrationPlatform
