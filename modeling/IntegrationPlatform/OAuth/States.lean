import IntegrationPlatform.Json.Value
import IntegrationPlatform.Stores.Expiring
import IntegrationPlatform.Transactions.Processes
import Mathlib.Algebra.Order.Ring.Rat

/-!
# States of authorizations

`generate_authorization_url` stores a state, and the verifier of the flow, in Redis, and
`oauth2_callback` consumes them. Both are modelled command by command, so that callbacks with one
state may overlap. `state_single_use` is about the runs in which no callback looks for a state that
another one has found and not deleted yet.
-/

namespace IntegrationPlatform

namespace OAuth

/-! ## Redis operations -/

/-- The key of a state. -/
def stateKey (state : String) : String := "oauth2:state:" ++ state

/-- The key of the verifier of a state. -/
def pkceKey (state : String) : String := "oauth2:pkce:" ++ state

def stateTtl : Rat := 600

def pkceTtl : Rat := 600

/-- The values under the keys. -/
abbrev Redis := Expiring String String Rat

/-- What `generate_authorization_url` stores, at one instant. -/
def generateAuthorizationUrl (redis : Redis) (now : Rat) (state : String) (verifier : Option String) :
    Redis :=
  let redis := match verifier with
    | some verifier => redis.set (pkceKey state) verifier (now + pkceTtl)
    | none => redis
  redis.set (stateKey state) "1" (now + stateTtl)

/-- `validate_and_consume_state`, at one instant. -/
def validateAndConsumeState (redis : Redis) (now : Rat) (state : String) : Bool × Redis :=
  match nonempty (redis.get now (stateKey state)) with
  | some _ => (true, redis.delete (stateKey state))
  | none => (false, redis)

/-- `retrieve_code_verifier`, at one instant. -/
def retrieveCodeVerifier (redis : Redis) (now : Rat) (state : String) : Option String × Redis :=
  match redis.get now (pkceKey state) with
  | some verifier =>
      if verifier ≠ "" then (some verifier, redis.delete (pkceKey state)) else (some verifier, redis)
  | none => (none, redis)

/-- The state of a callback has a tenant, a connector and a credential name. -/
def parses (isUuid : String → Bool) (state : String) : Bool :=
  let parts := state.toList.splitOn ':'
  decide (3 ≤ parts.length) && isUuid (String.ofList (parts.headD []))

/-! ## Commands -/

/-- Where an authorization or a callback is. -/
inductive Phase where
  /-- Nothing is stored. -/
  | authorizing (state : String) (verifier : Option String)
  /-- The verifier is stored. -/
  | storing (state verifier : String) (storedAt : Rat)
  /-- The state is stored. -/
  | authorized
  | callback (state : String)
  /-- The state is no valid one. -/
  | refused
  /-- The state has been found. -/
  | found (state : String)
  /-- The state has been deleted. -/
  | accepted (state : String)
  /-- The verifier has been found. -/
  | verifying (state verifier : String) (readAt : Rat)
  /-- The code is exchanged, with this verifier. -/
  | exchanging (state : String) (verifier : Option String) (readAt : Rat)
  /-- The connector is unknown or has no OAuth2. -/
  | aborted (state : String)

/-- A state that has been issued, with the instant at which the verifier was stored. -/
structure Issue where
  verifier : Option String
  storedAt : Rat

/-- The keys, and the states that have been issued. -/
structure Shared where
  redis : Redis
  issued : String → Option Issue

/-- What decides a command: its instant, and whether the callback is aborted. -/
structure Choice where
  instant : Rat
  aborts : Bool

/-- The state is stored. -/
def Shared.issue (shared : Shared) (state : String) (issue : Issue) (now : Rat) : Shared where
  redis := shared.redis.set (stateKey state) "1" (now + stateTtl)
  issued := Function.update shared.issued state (some issue)

/-- The next command of an authorization or a callback. -/
def step (isUuid : String → Bool) (shared : Shared) (phase : Phase) (choice : Choice) :
    Option (Shared × Phase) :=
  match phase with
  | .authorizing state (some verifier) =>
      some ({ shared with
          redis := shared.redis.set (pkceKey state) verifier (choice.instant + pkceTtl) },
        .storing state verifier choice.instant)
  | .authorizing state none =>
      some (shared.issue state ⟨none, choice.instant⟩ choice.instant, .authorized)
  | .storing state verifier storedAt =>
      some (shared.issue state ⟨some verifier, storedAt⟩ choice.instant, .authorized)
  | .callback state =>
      if parses isUuid state then
        match nonempty (shared.redis.get choice.instant (stateKey state)) with
        | some _ => some (shared, .found state)
        | none => some (shared, .refused)
      else some (shared, .refused)
  | .found state =>
      some ({ shared with redis := shared.redis.delete (stateKey state) }, .accepted state)
  | .accepted state =>
      if choice.aborts then some (shared, .aborted state)
      else
        match shared.redis.get choice.instant (pkceKey state) with
        | some verifier =>
            if verifier ≠ "" then some (shared, .verifying state verifier choice.instant)
            else some (shared, .exchanging state (some verifier) choice.instant)
        | none => some (shared, .exchanging state none choice.instant)
  | .verifying state verifier readAt =>
      some ({ shared with redis := shared.redis.delete (pkceKey state) },
        .exchanging state (some verifier) readAt)
  | _ => none

/-- An authorization to be made: its state and its verifier, if it has one. -/
abbrev Flow := String × Option String

/-- Authorizations and callbacks before the first command. -/
def initial (flows : List Flow) (states : List String) : Processes Shared Phase where
  shared := ⟨.empty, fun _ => none⟩
  phases := flows.map (fun flow => .authorizing flow.1 flow.2) ++ states.map .callback

/-- A callback with this state has found it and not deleted it yet. -/
def Phase.finds (state : String) : Phase → Bool
  | .found state' => state' = state
  | _ => false

/-- No callback looks for a state that another one has found and not deleted yet. -/
def careful (requests : Processes Shared Phase) (id : Nat) (_ : Choice) : Bool :=
  match requests.phases[id]? with
  | some (.callback state) => !requests.phases.any (Phase.finds state)
  | _ => true

/-! ## Single use -/

/-- The state that a callback has been accepted with. -/
def Phase.acceptedState : Phase → Option String
  | .accepted state => some state
  | .verifying state _ _ => some state
  | .exchanging state _ _ => some state
  | .aborted state => some state
  | _ => none

/-- Every issued state is accepted by one callback at most, nothing else is accepted, and the
accepted callback gets the verifier that is stored for the state, unless it has expired. -/
structure SingleUse (requests : Processes Shared Phase) : Prop where
  once : ∀ (id id' : Nat) (phase phase' : Phase) (state : String), requests.At id phase →
    requests.At id' phase' → phase.acceptedState = some state → phase'.acceptedState = some state →
      id = id'
  issued : ∀ (id : Nat) (phase : Phase) (state : String), requests.At id phase →
    phase.acceptedState = some state → ∃ issue, requests.shared.issued state = some issue
  verifier : ∀ (id : Nat) (state verifier : String) (readAt : Rat),
    requests.At id (.exchanging state (some verifier) readAt) →
      ∃ storedAt, requests.shared.issued state = some ⟨some verifier, storedAt⟩
  unverified : ∀ (id : Nat) (state verifier : String) (storedAt readAt : Rat),
    requests.At id (.exchanging state none readAt) →
      requests.shared.issued state = some ⟨some verifier, storedAt⟩ → storedAt + pkceTtl ≤ readAt

/-! ## One request for a state -/

/-- The state that an authorization stores or a callback has found. -/
def Phase.claim : Phase → Option String
  | .authorizing state _ => some state
  | .storing state _ _ => some state
  | .found state => some state
  | .accepted state => some state
  | .verifying state _ _ => some state
  | .exchanging state _ _ => some state
  | .aborted state => some state
  | _ => none

/-- The keys of a state after it is consumed. -/
def Consumed (shared : Shared) (state : String) : Prop :=
  shared.issued state ≠ none ∧ shared.redis (stateKey state) = none

/-- The keys of a state are where the request for it takes them to be. -/
def Fits (shared : Shared) : Phase → Prop
  | .authorizing state _ => shared.issued state = none ∧ shared.redis (pkceKey state) = none
  | .storing state verifier storedAt => shared.issued state = none ∧
      shared.redis (pkceKey state) = some (verifier, storedAt + pkceTtl)
  | .found state => shared.issued state ≠ none
  | .accepted state => Consumed shared state
  | .verifying state verifier _ => Consumed shared state ∧
      ∃ storedAt, shared.issued state = some ⟨some verifier, storedAt⟩
  | .exchanging state (some verifier) _ => Consumed shared state ∧
      ∃ storedAt, shared.issued state = some ⟨some verifier, storedAt⟩
  | .exchanging state none readAt => Consumed shared state ∧
      ∀ verifier storedAt, shared.issued state = some ⟨some verifier, storedAt⟩ →
        storedAt + pkceTtl ≤ readAt
  | .aborted state => Consumed shared state
  | _ => True

/-- Only an issued state has a key, and its verifier is stored until a callback has got it. -/
structure Stored (requests : Processes Shared Phase) (state : String) : Prop where
  unissued : requests.shared.issued state = none → requests.shared.redis (stateKey state) = none
  kept : ∀ issue, requests.shared.issued state = some issue →
    (requests.shared.redis (pkceKey state) =
        issue.verifier.map fun verifier => (verifier, issue.storedAt + pkceTtl)) ∨
      ∃ id verifier readAt, requests.At id (.exchanging state (some verifier) readAt)

/-- Every state is claimed by one request at most, which its keys fit. -/
structure Orderly (requests : Processes Shared Phase) : Prop where
  sole : ∀ (id id' : Nat) (phase phase' : Phase) (state : String), requests.At id phase →
    requests.At id' phase' → phase.claim = some state → phase'.claim = some state → id = id'
  fits : ∀ (id : Nat) (phase : Phase), requests.At id phase → Fits requests.shared phase
  stored : ∀ state, Stored requests state

/-- The keys of a state are the same, and so is what it was issued for. -/
structure Agree (state : String) (shared shared' : Shared) : Prop where
  issued : shared'.issued state = shared.issued state
  present : shared'.redis (stateKey state) = shared.redis (stateKey state)
  verifier : shared'.redis (pkceKey state) = shared.redis (pkceKey state)

variable {requests : Processes Shared Phase} {shared shared' : Shared} {id : Nat}
  {phase phase' : Phase} {state : String}

theorem Fits.agree (h : Fits shared phase)
    (hagree : ∀ state, phase.claim = some state → Agree state shared shared') :
    Fits shared' phase := by
  have hclaim : ∀ state, phase.claim = some state → shared'.issued state = shared.issued state ∧
      shared'.redis (stateKey state) = shared.redis (stateKey state) ∧
      shared'.redis (pkceKey state) = shared.redis (pkceKey state) :=
    fun state hstate => ⟨(hagree state hstate).issued, (hagree state hstate).present,
      (hagree state hstate).verifier⟩
  cases phase with
  | exchanging state verifier readAt =>
      obtain ⟨hissued, hstate, hpkce⟩ := hclaim state rfl
      cases verifier <;> simpa [Fits, Consumed, hissued, hstate, hpkce] using h
  | authorized => exact h
  | callback state => exact h
  | refused => exact h
  | _ =>
      obtain ⟨hissued, hstate, hpkce⟩ := hclaim _ rfl
      simpa [Fits, Consumed, hissued, hstate, hpkce] using h

theorem Stored.same (h : Stored requests state)
    (hphase : requests.At id phase)
    (hbusy : ∀ state verifier readAt, phase ≠ .exchanging state verifier readAt)
    (hissued : shared'.issued state = requests.shared.issued state)
    (hverifier : shared'.redis (pkceKey state) = requests.shared.redis (pkceKey state))
    (hpresent : shared'.issued state = none → shared'.redis (stateKey state) = none) :
    Stored ⟨shared', requests.phases.set id phase'⟩ state where
  unissued := hpresent
  kept issue hissue := by
    refine (h.kept issue (hissued.symm.trans hissue)).imp hverifier.trans ?_
    rintro ⟨other, verifier, readAt, hother⟩
    refine ⟨other, verifier, readAt, (Processes.at_set_of_ne ?_).mpr hother⟩
    rintro rfl
    exact hbusy state (some verifier) readAt (Option.some.inj (hphase.symm.trans hother))

/-- A request takes a command that changes the keys of its own state only. -/
theorem Orderly.go (h : Orderly requests) (hphase : requests.At id phase)
    (hbusy : ∀ state verifier readAt, phase ≠ .exchanging state verifier readAt)
    (hclaim : ∀ state, phase'.claim = some state → phase.claim = some state ∨
      ∀ other found, requests.At other found → found.claim ≠ some state)
    (hagree : ∀ state, phase.claim ≠ some state → Agree state requests.shared shared')
    (hfits : Fits shared' phase')
    (hstored : ∀ state, phase.claim = some state →
      Stored ⟨shared', requests.phases.set id phase'⟩ state) :
    Orderly ⟨shared', requests.phases.set id phase'⟩ := by
  constructor
  · intro first second found found' state hfound hfound' hstate hstate'
    -- A request that has taken no step claims what it has claimed before.
    obtain ⟨rfl, rfl⟩ | ⟨hid, hold⟩ := hphase.of_set hfound <;>
      obtain ⟨rfl, rfl⟩ | ⟨hid', hold'⟩ := hphase.of_set hfound'
    · rfl
    · obtain hown | hnone := hclaim state hstate
      · exact h.sole _ _ _ _ state hphase hold' hown hstate'
      · exact absurd hstate' (hnone second found' hold')
    · obtain hown | hnone := hclaim state hstate'
      · exact h.sole _ _ _ _ state hold hphase hstate hown
      · exact absurd hstate (hnone first found hold)
    · exact h.sole _ _ _ _ state hold hold' hstate hstate'
  · intro other found hfound
    obtain ⟨-, rfl⟩ | ⟨hid, hold⟩ := hphase.of_set hfound
    · exact hfits
    · refine (h.fits other found hold).agree fun state hstate => hagree state fun hown => ?_
      exact hid (h.sole _ _ _ _ state hold hphase hstate hown)
  · intro state
    by_cases hown : phase.claim = some state
    · exact hstored state hown
    · have hsame := hagree state hown
      exact (h.stored state).same hphase hbusy hsame.issued hsame.verifier fun hissued =>
        hsame.present.trans ((h.stored state).unissued (hsame.issued.symm.trans hissued))

/-! ## Commands on the keys -/

theorem stateKey_ne_pkceKey (state state' : String) : stateKey state ≠ pkceKey state' := by
  intro heq
  have hlist := congrArg String.toList heq
  simp [stateKey, pkceKey] at hlist

variable {state' : String}

theorem stateKey_ne (hne : state ≠ state') : stateKey state ≠ stateKey state' := by
  intro heq
  have hlist := congrArg String.toList heq
  simp only [stateKey, String.toList_append, List.append_cancel_left_eq] at hlist
  exact hne (String.toList_inj.mp hlist)

theorem pkceKey_ne (hne : state ≠ state') : pkceKey state ≠ pkceKey state' := by
  intro heq
  have hlist := congrArg String.toList heq
  simp only [pkceKey, String.toList_append, List.append_cancel_left_eq] at hlist
  exact hne (String.toList_inj.mp hlist)

theorem Agree.refl (state : String) (shared : Shared) : Agree state shared shared := ⟨rfl, rfl, rfl⟩

theorem agree_issue (hne : state ≠ state') (shared : Shared) (issue : Issue)
    (now : Rat) : Agree state shared (shared.issue state' issue now) where
  issued := Function.update_of_ne hne _ _
  present := Expiring.set_of_ne (stateKey_ne hne)
  verifier := by
    show shared.redis.set (stateKey state') "1" (now + stateTtl) (pkceKey state) = _
    exact Expiring.set_of_ne (stateKey_ne_pkceKey state' state).symm

theorem agree_set (hne : state ≠ state') (shared : Shared) (verifier : String) (expiry : Rat) :
    Agree state shared { shared with redis := shared.redis.set (pkceKey state') verifier expiry } where
  issued := rfl
  present := by
    show shared.redis.set (pkceKey state') verifier expiry (stateKey state) = _
    exact Expiring.set_of_ne (stateKey_ne_pkceKey state state')
  verifier := by
    show shared.redis.set (pkceKey state') verifier expiry (pkceKey state) = _
    exact Expiring.set_of_ne (pkceKey_ne hne)

theorem agree_delete_state (hne : state ≠ state') (shared : Shared) :
    Agree state shared { shared with redis := shared.redis.delete (stateKey state') } where
  issued := rfl
  present := Expiring.delete_of_ne (stateKey_ne hne)
  verifier := Expiring.delete_of_ne (stateKey_ne_pkceKey state' state).symm

theorem agree_delete_verifier (hne : state ≠ state') (shared : Shared) :
    Agree state shared { shared with redis := shared.redis.delete (pkceKey state') } where
  issued := rfl
  present := Expiring.delete_of_ne (stateKey_ne_pkceKey state state')
  verifier := Expiring.delete_of_ne (pkceKey_ne hne)

theorem ne_of_claim (h : some state' ≠ some state) : state ≠ state' :=
  fun heq => h (congrArg some heq.symm)

variable {isUuid : String → Bool} {choice : Choice}

theorem Orderly.authorizing {verifier : String} (h : Orderly requests)
    (hphase : requests.At id (.authorizing state (some verifier))) (now : Rat) :
    Orderly ⟨{ requests.shared with
      redis := requests.shared.redis.set (pkceKey state) verifier (now + pkceTtl) },
      requests.phases.set id (.storing state verifier now)⟩ := by
  obtain ⟨hissued, -⟩ := h.fits id _ hphase
  refine h.go hphase (by simp) (fun state' hstate' => .inl hstate') ?_ ?_ ?_
  · intro state' hother
    exact agree_set (ne_of_claim hother) _ _ _
  · exact ⟨hissued, Expiring.set_self⟩
  · rintro state' hstate'
    obtain rfl := Option.some.inj hstate'
    constructor
    · intro _
      show requests.shared.redis.set (pkceKey state) verifier (now + pkceTtl) (stateKey state) = none
      rw [Expiring.set_of_ne (stateKey_ne_pkceKey state state)]
      exact (h.stored state).unissued hissued
    · intro issue hissue
      exact absurd (hissued.symm.trans hissue) (by simp)

theorem Orderly.issue (verifier : Option String) (storedAt : Rat) (h : Orderly requests)
    (hphase : requests.At id phase) (hclaim : phase.claim = some state)
    (hbusy : ∀ state verifier readAt, phase ≠ .exchanging state verifier readAt)
    (hverifier : requests.shared.redis (pkceKey state) =
      verifier.map fun verifier => (verifier, storedAt + pkceTtl)) (now : Rat) :
    Orderly ⟨requests.shared.issue state ⟨verifier, storedAt⟩ now,
      requests.phases.set id .authorized⟩ := by
  refine h.go hphase hbusy (fun state' hstate' => by cases hstate') ?_ trivial ?_
  · intro state' hother
    rw [hclaim] at hother
    exact agree_issue (ne_of_claim hother) _ _ _
  · rintro state' hstate'
    obtain rfl := Option.some.inj (hclaim.symm.trans hstate')
    constructor
    · intro hissued
      exact absurd ((Function.update_self state _ _).symm.trans hissued) (by simp)
    · intro issue hissue
      obtain rfl := Option.some.inj ((Function.update_self state _ _).symm.trans hissue)
      refine .inl (Eq.trans ?_ hverifier)
      show requests.shared.redis.set (stateKey state) "1" (now + stateTtl) (pkceKey state) = _
      exact Expiring.set_of_ne (stateKey_ne_pkceKey state state).symm

theorem Orderly.idle (h : Orderly requests) (hphase : requests.At id phase)
    (hbusy : ∀ state verifier readAt, phase ≠ .exchanging state verifier readAt)
    (hclaim : ∀ state, phase'.claim = some state → phase.claim = some state ∨
      ∀ other found, requests.At other found → found.claim ≠ some state)
    (hfits : Fits requests.shared phase') :
    Orderly ⟨requests.shared, requests.phases.set id phase'⟩ :=
  h.go hphase hbusy hclaim (fun state _ => Agree.refl state _) hfits fun state _ =>
    (h.stored state).same hphase hbusy rfl rfl (h.stored state).unissued

theorem Orderly.unclaimed (h : Orderly requests) {now : Rat} {value : String}
    (hvalue : requests.shared.redis.get now (stateKey state) = some value)
    (hfinds : ∀ other, ¬ requests.At other (.found state)) :
    ∀ other found, requests.At other found → found.claim ≠ some state := by
  have hkey : requests.shared.redis (stateKey state) ≠ none := by
    intro hnone
    rw [Expiring.get_of_none hnone] at hvalue
    cases hvalue
  have hissued : requests.shared.issued state ≠ none := fun hnone =>
    hkey ((h.stored state).unissued hnone)
  intro other found hfound hclaim
  have hfits := h.fits other found hfound
  cases found with
  | authorized => cases hclaim
  | callback state => cases hclaim
  | refused => cases hclaim
  | authorizing state verifier =>
      obtain rfl := Option.some.inj hclaim
      exact hissued hfits.1
  | storing state verifier storedAt =>
      obtain rfl := Option.some.inj hclaim
      exact hissued hfits.1
  | found state =>
      obtain rfl := Option.some.inj hclaim
      exact hfinds other hfound
  | accepted state =>
      obtain rfl := Option.some.inj hclaim
      exact hkey hfits.2
  | verifying state verifier readAt =>
      obtain rfl := Option.some.inj hclaim
      exact hkey hfits.1.2
  | exchanging state verifier readAt =>
      obtain rfl := Option.some.inj hclaim
      cases verifier with
      | none => exact hkey hfits.1.2
      | some verifier => exact hkey hfits.1.2
  | aborted state =>
      obtain rfl := Option.some.inj hclaim
      exact hkey hfits.2

theorem Orderly.callback (h : Orderly requests) (hphase : requests.At id (.callback state))
    (hfinds : ∀ other, ¬ requests.At other (.found state))
    (hstep : step isUuid requests.shared (.callback state) choice = some (shared', phase')) :
    Orderly ⟨shared', requests.phases.set id phase'⟩ := by
  have hrefused : Orderly ⟨requests.shared, requests.phases.set id .refused⟩ :=
    h.idle hphase (by simp) (fun state hstate => by cases hstate) trivial
  simp only [step] at hstep
  split at hstep
  · split at hstep
    · next value hvalue =>
      -- The state is found: no request has consumed it, and none is about to.
      cases hstep
      have hget : requests.shared.redis.get choice.instant (stateKey state) = some value :=
        (Option.filter_eq_some_iff.mp hvalue).1
      have hnone := h.unclaimed hget hfinds
      refine h.idle hphase (by simp) (fun state' hstate' => .inr ?_) ?_
      · obtain rfl := Option.some.inj hstate'
        exact hnone
      · intro hunissued
        rw [Expiring.get_of_none ((h.stored state).unissued hunissued)] at hget
        cases hget
    · cases hstep
      exact hrefused
  · cases hstep
    exact hrefused

theorem Orderly.found (h : Orderly requests) (hphase : requests.At id (.found state)) :
    Orderly ⟨{ requests.shared with redis := requests.shared.redis.delete (stateKey state) },
      requests.phases.set id (.accepted state)⟩ := by
  have hissued : requests.shared.issued state ≠ none := h.fits id _ hphase
  refine h.go hphase (by simp) (fun state' hstate' => .inl hstate') ?_ ?_ ?_
  · intro state' hother
    exact agree_delete_state (ne_of_claim hother) _
  · exact ⟨hissued, Expiring.delete_self⟩
  · intro state' hstate'
    obtain rfl := Option.some.inj hstate'
    refine (h.stored state).same hphase (by simp) rfl ?_ (fun _ => Expiring.delete_self)
    show requests.shared.redis.delete (stateKey state) (pkceKey state) = _
    exact Expiring.delete_of_ne (stateKey_ne_pkceKey state state).symm

theorem Orderly.verifier (h : Orderly requests) (hphase : requests.At id (.accepted state)) :
    ∃ issue, requests.shared.issued state = some issue ∧
      requests.shared.redis (pkceKey state) =
        issue.verifier.map fun verifier => (verifier, issue.storedAt + pkceTtl) := by
  obtain ⟨hissued, -⟩ := h.fits id _ hphase
  obtain ⟨issue, hissue⟩ := Option.ne_none_iff_exists'.mp hissued
  obtain hkept | ⟨other, verifier, readAt, hother⟩ := (h.stored state).kept issue hissue
  · exact ⟨issue, hissue, hkept⟩
  · -- The request that has taken the verifier would be another one for the state.
    obtain rfl := h.sole _ _ _ _ state hphase hother rfl rfl
    cases Option.some.inj (hphase.symm.trans hother)

theorem Orderly.accepted (h : Orderly requests) (hphase : requests.At id (.accepted state))
    (hstep : step isUuid requests.shared (.accepted state) choice = some (shared', phase')) :
    Orderly ⟨shared', requests.phases.set id phase'⟩ := by
  have hconsumed : Consumed requests.shared state := h.fits id _ hphase
  obtain ⟨issue, hissue, hverifier⟩ := h.verifier hphase
  have hread : ∀ verifier,
      requests.shared.redis.get choice.instant (pkceKey state) = some verifier →
        ∃ storedAt, requests.shared.issued state = some ⟨some verifier, storedAt⟩ := by
    intro verifier hget
    obtain ⟨stored, storedAt⟩ := issue
    cases stored with
    | none =>
        rw [Expiring.get_of_none hverifier] at hget
        cases hget
    | some kept =>
        obtain rfl : kept = verifier := Expiring.value_of_get hverifier hget
        exact ⟨storedAt, hissue⟩
  simp only [step] at hstep
  split at hstep
  · cases hstep
    exact h.idle hphase (by simp) (fun state' hstate' => .inl hstate') hconsumed
  · split at hstep
    · next verifier hget =>
      split at hstep
      · cases hstep
        exact h.idle hphase (by simp) (fun state' hstate' => .inl hstate')
          ⟨hconsumed, hread verifier hget⟩
      · cases hstep
        exact h.idle hphase (by simp) (fun state' hstate' => .inl hstate')
          ⟨hconsumed, hread verifier hget⟩
    · next hget =>
      -- Nothing is read, although a verifier is stored: it has expired.
      cases hstep
      refine h.idle hphase (by simp) (fun state' hstate' => .inl hstate') ⟨hconsumed, ?_⟩
      intro verifier storedAt hissued
      obtain rfl := Option.some.inj (hissue.symm.trans hissued)
      by_contra hlive
      rw [Expiring.get_of_lt hverifier (not_le.mp hlive)] at hget
      cases hget

theorem Orderly.verifying {verifier : String} {readAt : Rat} (h : Orderly requests)
    (hphase : requests.At id (.verifying state verifier readAt)) :
    Orderly ⟨{ requests.shared with redis := requests.shared.redis.delete (pkceKey state) },
      requests.phases.set id (.exchanging state (some verifier) readAt)⟩ := by
  obtain ⟨⟨hissued, hpresent⟩, hverifier⟩ := h.fits id _ hphase
  have hpresent' : requests.shared.redis.delete (pkceKey state) (stateKey state) = none := by
    rw [Expiring.delete_of_ne (stateKey_ne_pkceKey state state)]
    exact hpresent
  refine h.go hphase (by simp) (fun state' hstate' => .inl hstate') ?_ ?_ ?_
  · intro state' hother
    exact agree_delete_verifier (ne_of_claim hother) _
  · exact ⟨⟨hissued, hpresent'⟩, hverifier⟩
  · intro state' hstate'
    obtain rfl := Option.some.inj hstate'
    exact ⟨fun _ => hpresent', fun _ _ => .inr ⟨id, verifier, readAt, hphase.set _⟩⟩

theorem Orderly.step (h : Orderly requests) (hcareful : careful requests id choice = true)
    (hphase : requests.At id phase)
    (hstep : OAuth.step isUuid requests.shared phase choice = some (shared', phase')) :
    Orderly ⟨shared', requests.phases.set id phase'⟩ := by
  cases phase with
  | authorizing state verifier =>
      cases verifier with
      | none =>
          cases hstep
          exact h.issue none choice.instant hphase rfl (by simp) (h.fits id _ hphase).2 choice.instant
      | some verifier =>
          cases hstep
          exact h.authorizing hphase choice.instant
  | storing state verifier storedAt =>
      cases hstep
      exact h.issue (some verifier) storedAt hphase rfl (by simp) (h.fits id _ hphase).2 choice.instant
  | callback state =>
      -- This is the command that the condition is about.
      refine h.callback hphase (fun other hother => ?_) hstep
      have hlooks : requests.phases[id]? = some (.callback state) := hphase
      have hfinds : requests.phases.any (Phase.finds state) = true :=
        List.any_eq_true.mpr ⟨_, List.mem_of_getElem? hother, by simp [Phase.finds]⟩
      simp only [careful, hlooks, hfinds] at hcareful
      cases hcareful
  | found state =>
      cases hstep
      exact h.found hphase
  | accepted state => exact h.accepted hphase hstep
  | verifying state verifier readAt =>
      cases hstep
      exact h.verifying hphase
  | authorized => cases hstep
  | refused => cases hstep
  | exchanging state verifier readAt => cases hstep
  | aborted state => cases hstep

theorem claim_initial {flows : List Flow} {states : List String}
    (hphase : (initial flows states).At id phase) (hclaim : phase.claim = some state) :
    (flows.map Prod.fst)[id]? = some state := by
  have hfound : (flows.map (fun flow => Phase.authorizing flow.1 flow.2) ++
      states.map Phase.callback)[id]? = some phase := hphase
  by_cases hid : id < flows.length
  · rw [List.getElem?_append_left (by simpa using hid), List.getElem?_map] at hfound
    obtain ⟨flow, hflow, rfl⟩ := Option.map_eq_some_iff.mp hfound
    rw [List.getElem?_map, hflow]
    exact hclaim
  · rw [List.getElem?_append_right (by simpa using hid), List.getElem?_map] at hfound
    obtain ⟨_, _, rfl⟩ := Option.map_eq_some_iff.mp hfound
    cases hclaim

theorem orderly_initial {flows : List Flow} (hfresh : (flows.map Prod.fst).Nodup)
    (states : List String) : Orderly (initial flows states) where
  sole id id' phase phase' state hphase hphase' hclaim hclaim' := by
    have hfirst := claim_initial hphase hclaim
    have hlength := (List.getElem?_eq_some_iff.mp hfirst).1
    exact (List.getElem?_inj hlength hfresh).mp (hfirst.trans (claim_initial hphase' hclaim').symm)
  fits id phase hphase := by
    obtain hauthorizing | hcallback := List.mem_append.mp (List.mem_of_getElem? hphase)
    · obtain ⟨flow, _, rfl⟩ := List.mem_map.mp hauthorizing
      exact ⟨rfl, rfl⟩
    · obtain ⟨state, _, rfl⟩ := List.mem_map.mp hcallback
      trivial
  stored state := ⟨fun _ => rfl, fun issue hissue => by cases hissue⟩

theorem Fits.consumed (h : Fits shared phase) (hstate : phase.acceptedState = some state) :
    phase.claim = some state ∧ Consumed shared state := by
  cases phase with
  | accepted state =>
      obtain rfl := Option.some.inj hstate
      exact ⟨rfl, h⟩
  | verifying state verifier readAt =>
      obtain rfl := Option.some.inj hstate
      exact ⟨rfl, h.1⟩
  | exchanging state verifier readAt =>
      obtain rfl := Option.some.inj hstate
      cases verifier with
      | none => exact ⟨rfl, h.1⟩
      | some verifier => exact ⟨rfl, h.1⟩
  | aborted state =>
      obtain rfl := Option.some.inj hstate
      exact ⟨rfl, h⟩
  | _ => cases hstate

theorem Orderly.singleUse (h : Orderly requests) : SingleUse requests where
  once id id' phase phase' state hphase hphase' hstate hstate' :=
    h.sole id id' phase phase' state hphase hphase' ((h.fits id phase hphase).consumed hstate).1
      ((h.fits id' phase' hphase').consumed hstate').1
  issued id phase _ hphase hstate :=
    Option.ne_none_iff_exists'.mp ((h.fits id phase hphase).consumed hstate).2.1
  verifier id _ _ _ hphase := (h.fits id _ hphase).2
  unverified id _ verifier storedAt _ hphase hissued :=
    (h.fits id _ hphase).2 verifier storedAt hissued

/-- In careful runs every issued state is used once. -/
theorem state_single_use (isUuid : String → Bool) {flows : List Flow}
    (hfresh : (flows.map Prod.fst).Nodup) {states : List String}
    (h : Processes.Run (step isUuid) careful (initial flows states) requests) :
    SingleUse requests := by
  have horderly : Orderly requests := h.invariant (orderly_initial hfresh states)
    fun before id choice phase shared phase' hbefore hcareful hphase hstep =>
      hbefore.step hcareful hphase hstep
  exact horderly.singleUse

/-! ## Commands one after the other -/

theorem play_eq_generate {verifier : Option String} (now : Rat)
    (hphase : requests.At id (.authorizing state verifier)) :
    ∃ number requests',
      requests.play (step isUuid) (fun _ _ _ => true) (List.replicate number (id, ⟨now, false⟩)) =
          some requests' ∧
        requests'.shared.redis = generateAuthorizationUrl requests.shared.redis now state verifier ∧
        requests'.At id .authorized := by
  cases verifier with
  | none =>
      refine ⟨1, ?_⟩
      rw [List.replicate, Processes.play_cons hphase rfl rfl]
      exact ⟨_, rfl, rfl, hphase.set _⟩
  | some verifier =>
      refine ⟨2, ?_⟩
      rw [List.replicate, Processes.play_cons hphase rfl rfl, List.replicate,
        Processes.play_cons (hphase.set _) rfl rfl]
      exact ⟨_, rfl, rfl, (hphase.set _).set _⟩

theorem play_eq_refused {now : Rat} (hparses : parses isUuid state = true)
    (hphase : requests.At id (.callback state))
    (hinvalid : (validateAndConsumeState requests.shared.redis now state).1 = false) :
    ∃ requests',
      requests.play (step isUuid) (fun _ _ _ => true) [(id, ⟨now, false⟩)] = some requests' ∧
        requests'.shared.redis = (validateAndConsumeState requests.shared.redis now state).2 ∧
        requests'.At id .refused := by
  unfold validateAndConsumeState at hinvalid ⊢
  cases hget : nonempty (requests.shared.redis.get now (stateKey state)) with
  | some value =>
      rw [hget] at hinvalid
      cases hinvalid
  | none =>
      have hstep : step isUuid requests.shared (.callback state) ⟨now, false⟩ =
          some (requests.shared, .refused) := by
        simp only [step, hparses, if_true, hget]
      rw [Processes.play_cons hphase rfl hstep]
      exact ⟨_, rfl, rfl, hphase.set _⟩

/-- A callback whose commands come one after the other is `validate_and_consume_state` and then
`retrieve_code_verifier`. -/
theorem play_eq_callback {now : Rat} (hparses : parses isUuid state = true)
    (hphase : requests.At id (.callback state))
    (hvalid : (validateAndConsumeState requests.shared.redis now state).1 = true) :
    ∃ number requests',
      requests.play (step isUuid) (fun _ _ _ => true) (List.replicate number (id, ⟨now, false⟩)) =
          some requests' ∧
        requests'.shared.redis = (retrieveCodeVerifier
          (validateAndConsumeState requests.shared.redis now state).2 now state).2 ∧
        requests'.At id (.exchanging state (retrieveCodeVerifier
          (validateAndConsumeState requests.shared.redis now state).2 now state).1 now) := by
  unfold validateAndConsumeState at hvalid ⊢
  cases hget : nonempty (requests.shared.redis.get now (stateKey state)) with
  | none =>
      rw [hget] at hvalid
      cases hvalid
  | some value =>
      have hfound : step isUuid requests.shared (.callback state) ⟨now, false⟩ =
          some (requests.shared, .found state) := by
        simp only [step, hparses, if_true, hget]
      unfold retrieveCodeVerifier
      have hat : Processes.At ⟨requests.shared, requests.phases.set id (.found state)⟩ id
          (.found state) := hphase.set _
      have haccepted : Processes.At
          ⟨{ requests.shared with redis := requests.shared.redis.delete (stateKey state) },
            (requests.phases.set id (.found state)).set id (.accepted state)⟩ id
          (.accepted state) := hat.set _
      cases hread : (requests.shared.redis.delete (stateKey state)).get now (pkceKey state) with
      | none =>
          refine ⟨3, ?_⟩
          rw [List.replicate, Processes.play_cons hphase rfl hfound, List.replicate,
            Processes.play_cons (hphase.set _) rfl rfl, List.replicate,
            Processes.play_cons haccepted rfl (by simp only [step, hread]; rfl)]
          exact ⟨_, rfl, rfl, haccepted.set _⟩
      | some verifier =>
          by_cases hempty : verifier = ""
          · refine ⟨3, ?_⟩
            rw [List.replicate, Processes.play_cons hphase rfl hfound, List.replicate,
              Processes.play_cons (hphase.set _) rfl rfl, List.replicate,
              Processes.play_cons haccepted rfl (by simp only [step, hread, hempty]; rfl)]
            simp only [hempty]
            exact ⟨_, rfl, rfl, haccepted.set _⟩
          · refine ⟨4, ?_⟩
            have hverifying : step isUuid
                { requests.shared with redis := requests.shared.redis.delete (stateKey state) }
                (.accepted state) ⟨now, false⟩ =
                  some ({ requests.shared with
                    redis := requests.shared.redis.delete (stateKey state) },
                    .verifying state verifier now) := by
              simp only [step, hread]
              exact if_pos hempty
            rw [List.replicate, Processes.play_cons hphase rfl hfound, List.replicate,
              Processes.play_cons (hphase.set _) rfl rfl, List.replicate,
              Processes.play_cons haccepted rfl hverifying, List.replicate,
              Processes.play_cons (haccepted.set _) rfl rfl]
            simp only [ne_eq, hempty, not_false_eq_true, if_true]
            exact ⟨_, rfl, rfl, (haccepted.set requests.shared).set _⟩

/-! ## Samples -/

namespace Sample

def flow : Flow := ("tenant:shop:default:x", some "verifier")

def twoCallbacks : Processes Shared Phase :=
  initial [flow] ["tenant:shop:default:x", "tenant:shop:default:x"]

def command (id : Nat) : Nat × Choice := (id, ⟨0, false⟩)

end Sample

/-- The second callback comes after the first one has deleted the state. -/
theorem state_single_use_once : ∃ requests,
    Sample.twoCallbacks.play (step fun _ => true) careful
        ([0, 0, 1, 1, 2, 1, 1].map Sample.command) = some requests ∧
      requests.phases =
          [.authorized, .exchanging "tenant:shop:default:x" (some "verifier") 0, .refused] ∧
        SingleUse requests := by
  have hphases : (Sample.twoCallbacks.play (step fun _ => true) careful
      ([0, 0, 1, 1, 2, 1, 1].map Sample.command)).map Processes.phases =
        some [.authorized, .exchanging "tenant:shop:default:x" (some "verifier") 0, .refused] := by
    with_unfolding_all rfl
  obtain ⟨requests, hplay, hrequests⟩ := Option.map_eq_some_iff.mp hphases
  exact ⟨requests, hplay, hrequests,
    state_single_use (fun _ => true) (by simp) (Processes.Run.start.play hplay)⟩

/-- Two callbacks that both look for their state before one of them deletes it are both accepted. -/
theorem state_used_twice : ∃ requests,
    Processes.Run (step fun _ => true) (fun _ _ _ => true) Sample.twoCallbacks requests ∧
      ¬ SingleUse requests := by
  have hphases : (Sample.twoCallbacks.play (step fun _ => true) (fun _ _ _ => true)
      ([0, 0, 1, 2, 1, 2].map Sample.command)).map Processes.phases =
        some [.authorized, .accepted "tenant:shop:default:x", .accepted "tenant:shop:default:x"] := by
    with_unfolding_all rfl
  obtain ⟨requests, hplay, hrequests⟩ := Option.map_eq_some_iff.mp hphases
  refine ⟨requests, Processes.Run.start.play hplay, fun hsingle => ?_⟩
  have hat : ∀ id, id = 1 ∨ id = 2 → requests.At id (.accepted "tenant:shop:default:x") := by
    rintro id (rfl | rfl)
    · show requests.phases[1]? = _
      rw [hrequests]
      rfl
    · show requests.phases[2]? = _
      rw [hrequests]
      rfl
  cases hsingle.once 1 2 _ _ _ (hat 1 (.inl rfl)) (hat 2 (.inr rfl)) rfl rfl

end OAuth

end IntegrationPlatform
