import IntegrationPlatform.Transactions.Histories
import IntegrationPlatform.Transactions.Processes

/-!
# Sessions of Symfonia

Concurrent requests of a client share one session. It is opened under a lock, with a second look at the
cache, but an answer of status 401 discards whatever session is cached when it arrives. `renewed_iff` says
in which interleavings no other session is discarded and one new session is enough.
-/

namespace IntegrationPlatform

namespace Symfonia

/-! ## The client -/

/-- `SessionManager`, the clock, and the server. A session token stands as the number of its session; the
server accepts those from `validFrom` on. Beside them stand the number of sessions that the client has
received, how many of these were opened after the last invalidation, and whether since then a cached session
was found too old. -/
structure Manager where
  sessionToken : Option Nat := none
  sessionCreatedAt : Nat := 0
  locked : Bool := false
  now : Nat := 0
  opened : Nat := 0
  validFrom : Nat := 0
  received : Nat := 0
  renewals : Nat := 0
  expired : Bool := false

/-- Where a request is, with the number of its attempt: before `get_session_token`, waiting for the lock,
with its request for a session on the way or the answer on its way back, or with its own request, sent with
a token, on the way or the answer on its way back. A request remembers how many sessions the client had
received when it was sent. The environment has a phase of its own. -/
inductive Phase where
  | environment
  | attempt (number : Nat)
  | waiting (number : Nat)
  | opening (number : Nat)
  | created (number token : Nat)
  | sent (number token seen : Nat)
  | answered (number token seen : Nat) (unauthorized : Bool)
  | finished

/-- What happens next: a request goes on, the server handles what it has sent, or this fails; the server
invalidates its sessions, or time passes. -/
inductive Choice where
  | proceed
  | handle
  | fail
  | invalidate
  | tick (seconds : Nat)

/-- `is_session_valid`, for sessions that are used for so many seconds. -/
def Manager.isSessionValid (lifetime : Int) (manager : Manager) : Bool :=
  manager.sessionToken.isSome && (manager.now - manager.sessionCreatedAt : Int) < lifetime

/-- A session that is cached and not valid has expired. -/
def Manager.noteExpiry (manager : Manager) : Manager :=
  { manager with expired := manager.expired || manager.sessionToken.isSome }

/-- The client while a session is requested. -/
def Manager.acquire (manager : Manager) : Manager :=
  { manager.noteExpiry with locked := true }

/-- The client after the request for a session. -/
def Manager.release (manager : Manager) : Manager :=
  { manager with locked := false }

/-- The client after it has received a session. -/
def Manager.receive (manager : Manager) (token : Nat) : Manager :=
  { manager.release with
    sessionToken := some token
    sessionCreatedAt := manager.now
    received := manager.received + 1
    renewals := if manager.validFrom ≤ token then manager.renewals + 1 else manager.renewals }

def Manager.invalidate (manager : Manager) : Manager :=
  { manager with sessionToken := none, sessionCreatedAt := 0 }

/-- `get_session_token` where the lock can be taken or need not be, up to its next await: the request is
sent with the cached token, or a session is requested. -/
def getSessionToken (lifetime : Int) (manager : Manager) (number : Nat) : Manager × Phase :=
  match manager.sessionToken with
  | some token =>
      if manager.isSessionValid lifetime then (manager, .sent number token manager.received)
      else (manager.acquire, .opening number)
  | none => (manager.acquire, .opening number)

/-- One step of a request or of the environment. -/
def step (maxRetries : Nat) (lifetime : Int) (manager : Manager) :
    Phase → Choice → Option (Manager × Phase)
  | .environment, .invalidate =>
      some ({ manager with validFrom := manager.opened, renewals := 0, expired := false }, .environment)
  | .environment, .tick seconds => some ({ manager with now := manager.now + seconds }, .environment)
  | .attempt number, .proceed =>
      if manager.locked && !manager.isSessionValid lifetime then
        some (manager.noteExpiry, .waiting number)
      else some (getSessionToken lifetime manager number)
  | .waiting number, .proceed =>
      -- The second look at the cache, under the lock.
      if manager.locked then none else some (getSessionToken lifetime manager number)
  | .opening number, .handle =>
      some ({ manager with opened := manager.opened + 1 }, .created number manager.opened)
  | .opening _, .fail => some (manager.release, .finished)
  | .created number token, .proceed =>
      some (manager.receive token, .sent number token (manager.received + 1))
  | .created _ _, .fail => some (manager.release, .finished)
  | .sent number token seen, .handle =>
      some (manager, .answered number token seen (token < manager.validFrom))
  | .sent _ _ _, .fail => some (manager, .finished)
  | .answered number _ _ unauthorized, .proceed =>
      if unauthorized && number + 1 < maxRetries then
        some (manager.invalidate, .attempt (number + 1))
      else some (manager, .finished)
  | .answered _ _ _ _, .fail => some (manager, .finished)
  | _, _ => none

/-- A new client and so many requests, beside the environment. -/
def start (maxRetries requests : Nat) : Processes Manager Phase where
  shared := {}
  phases := .environment ::
    List.replicate requests (if maxRetries = 0 then .finished else .attempt 0)

/-! ## Renewals -/

/-- An answer of status 401 discards no session but the one that its request was sent with. -/
def Keeps (maxRetries : Nat) (lifetime : Int) (before : Processes Manager Phase) (next : Nat × Choice) :
    Prop :=
  ∀ number token seen, before.At next.1 (.answered number token seen true) → next.2 = .proceed →
    ∀ cached, before.shared.sessionToken = some cached →
      (before.next (step maxRetries lifetime) next).shared.sessionToken = none → cached = token

/-- Since the last invalidation one new session has been enough, unless one has expired since then. -/
def OneSession (manager : Manager) : Prop :=
  manager.expired = false → manager.renewals ≤ 1

/-- When an answer of status 401 arrives that is not the last one, the client has received no session since
the request was sent, or none is cached. -/
def Current (maxRetries : Nat) (before : Processes Manager Phase) (next : Nat × Choice) : Prop :=
  ∀ number token seen, before.At next.1 (.answered number token seen true) → next.2 = .proceed →
    number + 1 < maxRetries →
      before.shared.sessionToken = none ∨ seen = before.shared.received

/-! ## Steps -/

/-- The phases in which a request holds the lock. -/
def Phase.holds : Phase → Bool
  | .opening _ => true
  | .created _ _ => true
  | _ => false

/-- The token of a request that has been sent, and the number of sessions that had been received. -/
def Phase.request : Phase → Option (Nat × Nat)
  | .sent _ token seen => some (token, seen)
  | .answered _ token seen _ => some (token, seen)
  | _ => none

section Steps

variable {maxRetries : Nat} {lifetime : Int} {manager manager' : Manager} {phase phase' : Phase}
  {choice : Choice} {before : Processes Manager Phase} {next : Nat × Choice}

/-- What a step does to the client, and where its request is then. -/
inductive Change (maxRetries : Nat) (manager : Manager) (phase : Phase) : Manager → Phase → Prop where
  /-- The server invalidates its sessions. -/
  | invalidates : phase = .environment → Change maxRetries manager phase
      { manager with validFrom := manager.opened, renewals := 0, expired := false } .environment
  /-- Time passes. -/
  | passes {seconds : Nat} : phase = .environment →
      Change maxRetries manager phase { manager with now := manager.now + seconds } .environment
  /-- A request is sent with the cached token. -/
  | sends {number token : Nat} : phase.holds = false → manager.sessionToken = some token →
      Change maxRetries manager phase manager (.sent number token manager.received)
  /-- A request waits for the lock. -/
  | waits {number : Nat} : phase.holds = false →
      Change maxRetries manager phase manager.noteExpiry (.waiting number)
  /-- A request takes the lock. -/
  | acquires {number : Nat} : phase.holds = false → manager.locked = false →
      Change maxRetries manager phase manager.acquire (.opening number)
  /-- The server opens a session. -/
  | opens {number : Nat} : phase = .opening number → Change maxRetries manager phase
      { manager with opened := manager.opened + 1 } (.created number manager.opened)
  /-- The request for a session fails. -/
  | releases : phase.holds = true → Change maxRetries manager phase manager.release .finished
  /-- A session is received, and a request is sent with it. -/
  | receives {number token : Nat} : phase = .created number token →
      Change maxRetries manager phase (manager.receive token) (.sent number token (manager.received + 1))
  /-- The server answers a request. -/
  | answers {number token seen : Nat} : phase = .sent number token seen →
      Change maxRetries manager phase manager
        (.answered number token seen (token < manager.validFrom))
  /-- An answer of status 401 discards the cached session. -/
  | discards {number token seen : Nat} : phase = .answered number token seen true →
      number + 1 < maxRetries →
        Change maxRetries manager phase manager.invalidate (.attempt (number + 1))
  /-- A request ends. -/
  | ends : phase.holds = false → Change maxRetries manager phase manager .finished

variable (lifetime) in
theorem change_of_getSessionToken {number : Nat} (hphase : phase.holds = false)
    (hfree : manager.isSessionValid lifetime = true ∨ manager.locked = false)
    (h : getSessionToken lifetime manager number = (manager', phase')) :
    Change maxRetries manager phase manager' phase' := by
  unfold getSessionToken at h
  cases htoken : manager.sessionToken with
  | none =>
      rw [htoken] at h
      obtain ⟨rfl, rfl⟩ := Prod.mk.inj h
      have hlocked : manager.locked = false := by
        rcases hfree with hvalid | hlocked
        · simp [Manager.isSessionValid, htoken] at hvalid
        · exact hlocked
      exact .acquires hphase hlocked
  | some token =>
      rw [htoken] at h
      replace h : (if manager.isSessionValid lifetime = true then
          (manager, Phase.sent number token manager.received)
        else (manager.acquire, .opening number)) = (manager', phase') := h
      by_cases hvalid : manager.isSessionValid lifetime = true
      · rw [if_pos hvalid] at h
        obtain ⟨rfl, rfl⟩ := Prod.mk.inj h
        exact .sends hphase htoken
      · rw [if_neg hvalid] at h
        obtain ⟨rfl, rfl⟩ := Prod.mk.inj h
        exact .acquires hphase (hfree.resolve_left hvalid)

theorem change_of_step (h : step maxRetries lifetime manager phase choice = some (manager', phase')) :
    Change maxRetries manager phase manager' phase' := by
  unfold step at h
  split at h
  · cases h
    exact .invalidates rfl
  · cases h
    exact .passes rfl
  · split at h
    · cases h
      exact .waits rfl
    · next hfree =>
      refine change_of_getSessionToken lifetime rfl ?_ (Option.some.inj h)
      cases hvalid : manager.isSessionValid lifetime with
      | true => exact .inl rfl
      | false => simpa [hvalid] using hfree
  · split at h
    · cases h
    · next hfree =>
      exact change_of_getSessionToken lifetime rfl (.inr (eq_false_of_ne_true hfree))
        (Option.some.inj h)
  · cases h
    exact .opens rfl
  · cases h
    exact .releases rfl
  · cases h
    exact .receives rfl
  · cases h
    exact .releases rfl
  · cases h
    exact .answers rfl
  · cases h
    exact .ends rfl
  · split at h
    · next hrenews =>
      cases h
      rw [Bool.and_eq_true, decide_eq_true_iff] at hrenews
      obtain ⟨rfl, hlast⟩ := hrenews
      exact .discards rfl hlast
    · cases h
      exact .ends rfl
  · cases h
    exact .ends rfl
  · cases h

/-! ## Tokens and the lock -/

/-- What is known of a request that was sent with this token, when so many sessions had been received: its
session is the cached one, if one is cached, exactly if none has been received since. -/
structure Carried (manager : Manager) (token seen : Nat) : Prop where
  opened : token < manager.opened
  counted : seen ≤ manager.received
  current : seen = manager.received → manager.sessionToken = none ∨ manager.sessionToken = some token
  former : seen < manager.received → manager.sessionToken ≠ some token

/-- One request holds the lock, if it is taken, and no session is in use before it is received. -/
structure Sound (processes : Processes Manager Phase) : Prop where
  holder : ∀ id phase, processes.At id phase → phase.holds = true →
    processes.shared.locked = true ∧ processes.Others (fun other => !other.holds) id
  cached : ∀ token, processes.shared.sessionToken = some token → token < processes.shared.opened
  created : ∀ id number token, processes.At id (.created number token) →
    token < processes.shared.opened ∧ processes.shared.sessionToken ≠ some token
  carried : ∀ id phase token seen, processes.At id phase → phase.request = some (token, seen) →
    Carried processes.shared token seen
  fresh : ∀ id number token other phase seen, processes.At id (.created number token) →
    processes.At other phase → phase.request ≠ some (token, seen)
  refused : ∀ id number token seen, processes.At id (.answered number token seen true) →
    token < processes.shared.validFrom
  valid : processes.shared.validFrom ≤ processes.shared.opened

theorem sound_start (maxRetries requests : Nat) : Sound (start maxRetries requests) := by
  have hphase : ∀ id phase, (start maxRetries requests).At id phase →
      phase.holds = false ∧ phase.request = none ∧ (∀ number token, phase ≠ .created number token) ∧
        ∀ number token seen unauthorized, phase ≠ .answered number token seen unauthorized := by
    intro id phase h
    rcases List.mem_cons.mp (List.mem_of_getElem? h) with rfl | hmem
    · exact ⟨rfl, rfl, by simp, by simp⟩
    · obtain ⟨-, rfl⟩ := List.mem_replicate.mp hmem
      split <;> exact ⟨rfl, rfl, by simp, by simp⟩
  refine ⟨fun id phase h hholds => ?_, fun token h => ?_, fun id number token h => ?_,
    fun id phase token seen h hrequest => ?_, fun id number token other phase seen h => ?_,
    fun id number token seen h => ?_, Nat.le_refl _⟩
  · rw [(hphase id phase h).1] at hholds
    cases hholds
  · cases h
  · exact absurd rfl ((hphase id _ h).2.2.1 number token)
  · rw [(hphase id phase h).2.1] at hrequest
    cases hrequest
  · exact absurd rfl ((hphase id _ h).2.2.1 number token)
  · exact absurd rfl ((hphase id _ h).2.2.2 number token seen true)

variable {id : Nat}

theorem holder_set (h : Sound before) (hphase : before.At id phase) (hafter : phase'.holds = false)
    (hlocked : manager'.locked = before.shared.locked) :
    ∀ other found, Processes.At ⟨manager', before.phases.set id phase'⟩ other found →
      found.holds = true → manager'.locked = true ∧
        Processes.Others ⟨manager', before.phases.set id phase'⟩ (fun other => !other.holds) other := by
  intro other found hfound hholds
  rcases hphase.of_set hfound with ⟨-, rfl⟩ | ⟨hne, hother⟩
  · rw [hafter] at hholds
    cases hholds
  · obtain ⟨htaken, hothers⟩ := h.holder other found hother hholds
    refine ⟨hlocked.trans htaken, fun third phase hthird hat => ?_⟩
    rcases hphase.of_set hat with ⟨-, rfl⟩ | ⟨-, hbefore⟩
    · simp [hafter]
    · exact hothers third phase hthird hbefore

theorem holder_held (h : Sound before) (hphase : before.At id phase)
    (hbefore : phase.holds = true) (hlocked : phase'.holds = true → manager'.locked = true) :
    ∀ other found, Processes.At ⟨manager', before.phases.set id phase'⟩ other found →
      found.holds = true → manager'.locked = true ∧
        Processes.Others ⟨manager', before.phases.set id phase'⟩ (fun other => !other.holds) other := by
  intro other found hfound hholds
  have hothers := (h.holder id phase hphase hbefore).2
  rcases hphase.of_set hfound with ⟨rfl, rfl⟩ | ⟨hne, hother⟩
  · exact ⟨hlocked hholds, hothers.set manager'⟩
  · have hnot : (!found.holds) = true := hothers other found hne hother
    rw [hholds] at hnot
    cases hnot

theorem Sound.not_holds (h : Sound before) (hlocked : before.shared.locked = false)
    (hphase : before.At id phase) : phase.holds = false := by
  cases hholds : phase.holds with
  | false => rfl
  | true =>
      have htaken := (h.holder id phase hphase hholds).1
      rw [hlocked] at htaken
      cases htaken

theorem Carried.mono {token seen : Nat} (h : Carried manager token seen)
    (hopened : manager.opened ≤ manager'.opened) (hreceived : manager'.received = manager.received)
    (hcached : manager'.sessionToken = manager.sessionToken ∨ manager'.sessionToken = none) :
    Carried manager' token seen := by
  refine ⟨Nat.lt_of_lt_of_le h.opened hopened, hreceived ▸ h.counted, fun hseen => ?_, fun hseen => ?_⟩
  · rcases hcached with hsame | hnone
    · rw [hsame]
      exact h.current (hreceived ▸ hseen)
    · exact .inl hnone
  · rcases hcached with hsame | hnone
    · rw [hsame]
      exact h.former (hreceived ▸ hseen)
    · rw [hnone]
      exact fun h => nomatch h

/-- A step that neither creates nor receives a session keeps what is known of tokens. -/
theorem sound_set (h : Sound before) (hphase : before.At id phase)
    (hholder : ∀ other found, Processes.At ⟨manager', before.phases.set id phase'⟩ other found →
      found.holds = true → manager'.locked = true ∧
        Processes.Others ⟨manager', before.phases.set id phase'⟩ (fun other => !other.holds) other)
    (hopened : manager'.opened = before.shared.opened)
    (hreceived : manager'.received = before.shared.received)
    (hcached : manager'.sessionToken = before.shared.sessionToken ∨ manager'.sessionToken = none)
    (hvalid : before.shared.validFrom ≤ manager'.validFrom ∧ manager'.validFrom ≤ manager'.opened)
    (hcreated : ∀ number token, phase' ≠ .created number token)
    (hrequest : ∀ token seen, phase'.request = some (token, seen) → phase.request = some (token, seen) ∨
      before.shared.sessionToken = some token ∧ seen = before.shared.received)
    (hrefused : ∀ number token seen, phase' = .answered number token seen true →
      token < manager'.validFrom) : Sound ⟨manager', before.phases.set id phase'⟩ := by
  have hformer : ∀ {other number token}, Processes.At ⟨manager', before.phases.set id phase'⟩ other
      (.created number token) → before.At other (.created number token) := by
    intro other number token hother
    rcases hphase.of_set hother with ⟨-, heq⟩ | ⟨-, hat⟩
    · exact absurd heq.symm (hcreated number token)
    · exact hat
  have hnew : ∀ {token seen : Nat}, before.shared.sessionToken = some token →
      seen = before.shared.received → Carried before.shared token seen := by
    rintro token seen hcached rfl
    exact ⟨h.cached token hcached, Nat.le_refl _, fun _ => .inr hcached,
      fun hlt => absurd hlt (Nat.lt_irrefl _)⟩
  refine ⟨hholder, fun token htoken => ?_, fun other number token hother => ?_,
    fun other found token seen hother hfound => ?_,
    fun other number token third found seen hother hthird hfound => ?_,
    fun other number token seen hother => ?_, hvalid.2⟩
  · rcases hcached with hsame | hnone
    · exact hopened ▸ h.cached token (hsame ▸ htoken)
    · cases hnone.symm.trans htoken
  · obtain ⟨hlt, hne⟩ := h.created other number token (hformer hother)
    refine ⟨hopened ▸ hlt, fun htoken => ?_⟩
    rcases hcached with hsame | hnone
    · exact hne (hsame ▸ htoken)
    · cases hnone.symm.trans htoken
  · have hcarried : Carried before.shared token seen := by
      rcases hphase.of_set hother with ⟨-, rfl⟩ | ⟨-, hat⟩
      · rcases hrequest token seen hfound with hsame | ⟨htoken, hseen⟩
        · exact h.carried id phase token seen hphase hsame
        · exact hnew htoken hseen
      · exact h.carried other found token seen hat hfound
    exact hcarried.mono (hopened ▸ Nat.le_refl _) hreceived hcached
  · have hbefore := hformer hother
    rcases hphase.of_set hthird with ⟨-, rfl⟩ | ⟨-, hat⟩
    · rcases hrequest token seen hfound with hsame | ⟨htoken, -⟩
      · exact h.fresh other number token id phase seen hbefore hphase hsame
      · exact (h.created other number token hbefore).2 htoken
    · exact h.fresh other number token third found seen hbefore hat hfound
  · rcases hphase.of_set hother with ⟨-, heq⟩ | ⟨-, hat⟩
    · exact hrefused number token seen heq.symm
    · exact Nat.lt_of_lt_of_le (h.refused other number token seen hat) hvalid.1

theorem sound_opens {id number : Nat} (h : Sound before) (hphase : before.At id (.opening number)) :
    Sound ⟨{ before.shared with opened := before.shared.opened + 1 },
      before.phases.set id (.created number before.shared.opened)⟩ := by
  refine ⟨holder_held h hphase rfl fun _ => (h.holder id _ hphase rfl).1,
    fun token htoken => Nat.lt_succ_of_lt (h.cached token htoken), fun other number' token hother => ?_,
    fun other found token seen hother hfound => ?_,
    fun other number' token third found seen hother hthird hfound => ?_,
    fun other number' token seen hother => ?_, Nat.le_succ_of_le h.valid⟩
  · rcases hphase.of_set hother with ⟨-, heq⟩ | ⟨-, hat⟩
    · obtain ⟨-, rfl⟩ := Phase.created.inj heq
      exact ⟨Nat.lt_succ_self _, fun htoken => Nat.lt_irrefl _ (h.cached _ htoken)⟩
    · obtain ⟨hlt, hne⟩ := h.created other number' token hat
      exact ⟨Nat.lt_succ_of_lt hlt, hne⟩
  · rcases hphase.of_set hother with ⟨-, rfl⟩ | ⟨-, hat⟩
    · cases hfound
    · exact (h.carried other found token seen hat hfound).mono (Nat.le_succ _) rfl (.inl rfl)
  · rcases hphase.of_set hthird with ⟨-, rfl⟩ | ⟨-, hat⟩
    · cases hfound
    · rcases hphase.of_set hother with ⟨-, heq⟩ | ⟨-, hbefore⟩
      · obtain ⟨-, rfl⟩ := Phase.created.inj heq
        exact Nat.lt_irrefl _ (h.carried third found _ seen hat hfound).opened
      · exact h.fresh other number' token third found seen hbefore hat hfound
  · rcases hphase.of_set hother with ⟨-, heq⟩ | ⟨-, hat⟩
    · cases heq
    · exact h.refused other number' token seen hat

theorem sound_receives {id number token : Nat} (h : Sound before)
    (hphase : before.At id (.created number token)) :
    Sound ⟨before.shared.receive token,
      before.phases.set id (.sent number token (before.shared.received + 1))⟩ := by
  have hnone : ∀ other number' token', ¬ Processes.At ⟨before.shared.receive token,
      before.phases.set id (.sent number token (before.shared.received + 1))⟩ other
        (.created number' token') := by
    intro other number' token' hother
    rcases hphase.of_set hother with ⟨-, heq⟩ | ⟨hne, hat⟩
    · cases heq
    · have hnot := (h.holder id _ hphase rfl).2 other _ hne hat
      cases hnot
  refine ⟨holder_held h hphase rfl (fun h => nomatch h), fun token' htoken => ?_,
    fun other number' token' hother => absurd hother (hnone other number' token'),
    fun other found token' seen hother hfound => ?_,
    fun other number' token' _ _ _ hother => absurd hother (hnone other number' token'),
    fun other number' token' seen hother => ?_, h.valid⟩
  · obtain rfl := Option.some.inj htoken
    exact (h.created id number _ hphase).1
  · rcases hphase.of_set hother with ⟨-, rfl⟩ | ⟨-, hat⟩
    · cases hfound
      exact ⟨(h.created id number _ hphase).1, Nat.le_refl _, fun _ => .inr rfl,
        fun hlt => absurd hlt (Nat.lt_irrefl _)⟩
    · have hcarried := h.carried other found token' seen hat hfound
      refine ⟨hcarried.opened, Nat.le_succ_of_le hcarried.counted, fun hseen => ?_, fun _ htoken => ?_⟩
      · exact absurd (hseen ▸ hcarried.counted) (Nat.not_succ_le_self _)
      · obtain rfl := Option.some.inj htoken
        exact h.fresh id number _ other found seen hphase hat hfound
  · rcases hphase.of_set hother with ⟨-, heq⟩ | ⟨-, hat⟩
    · cases heq
    · exact h.refused other number' token' seen hat

theorem holder_acquires {id number : Nat} (h : Sound before) (hphase : before.At id phase)
    (hlocked : before.shared.locked = false) : ∀ other found,
      Processes.At ⟨before.shared.acquire, before.phases.set id (.opening number)⟩ other found →
        found.holds = true → before.shared.acquire.locked = true ∧
          Processes.Others ⟨before.shared.acquire, before.phases.set id (.opening number)⟩
            (fun other => !other.holds) other := by
  intro other found hfound hholds
  rcases hphase.of_set hfound with ⟨rfl, rfl⟩ | ⟨hne, hother⟩
  · refine ⟨rfl, fun third phase hne hthird => ?_⟩
    have hnot := h.not_holds hlocked ((Processes.at_set_of_ne hne).mp hthird)
    simp [hnot]
  · rw [h.not_holds hlocked hother] at hholds
    cases hholds

theorem sound_next (h : Sound before) : Sound (before.next (step maxRetries lifetime) next) := by
  obtain ⟨id, choice⟩ := next
  refine Processes.next_keeps h fun phase manager' phase' hphase hstep => ?_
  have hsame := And.intro (Nat.le_refl before.shared.validFrom) h.valid
  cases change_of_step hstep with
  | invalidates hbefore =>
      exact sound_set h hphase (holder_set h hphase rfl rfl) rfl rfl (.inl rfl) ⟨h.valid, Nat.le_refl _⟩
        (by simp) (fun _ _ h => nomatch h) (by simp)
  | passes hbefore =>
      exact sound_set h hphase (holder_set h hphase rfl rfl) rfl rfl (.inl rfl) hsame
        (by simp) (fun _ _ h => nomatch h) (by simp)
  | sends hbefore htoken =>
      refine sound_set h hphase (holder_set h hphase rfl rfl) rfl rfl (.inl rfl) hsame (by simp)
        (fun token seen hrequest => ?_) (by simp)
      cases hrequest
      exact .inr ⟨htoken, rfl⟩
  | waits hbefore =>
      exact sound_set h hphase (holder_set h hphase rfl rfl) rfl rfl (.inl rfl) hsame
        (by simp) (fun _ _ h => nomatch h) (by simp)
  | acquires hbefore hlocked =>
      exact sound_set h hphase (holder_acquires h hphase hlocked) rfl rfl (.inl rfl) hsame
        (by simp) (fun _ _ h => nomatch h) (by simp)
  | opens hbefore =>
      subst hbefore
      exact sound_opens h hphase
  | releases hbefore =>
      exact sound_set h hphase (holder_held h hphase hbefore fun h => nomatch h) rfl rfl (.inl rfl) hsame
        (by simp) (fun _ _ h => nomatch h) (by simp)
  | receives hbefore =>
      subst hbefore
      exact sound_receives h hphase
  | answers hbefore =>
      subst hbefore
      refine sound_set h hphase (holder_set h hphase rfl rfl) rfl rfl (.inl rfl) hsame (by simp)
        (fun token seen hrequest => .inl hrequest) fun number token seen heq => ?_
      obtain ⟨-, rfl, -, hlt⟩ := Phase.answered.inj heq
      exact of_decide_eq_true hlt
  | discards hbefore =>
      exact sound_set h hphase (holder_set h hphase rfl rfl) rfl rfl (.inr rfl) hsame
        (by simp) (fun _ _ h => nomatch h) (by simp)
  | ends hbefore =>
      exact sound_set h hphase (holder_set h hphase rfl rfl) rfl rfl (.inl rfl) hsame
        (by simp) (fun _ _ h => nomatch h) (by simp)

/-! ## One renewal -/

/-- Once a session has been received that was opened after the last invalidation, it stays the cached one,
and no other one is requested, unless it expires. -/
def Renewed (processes : Processes Manager Phase) : Prop :=
  processes.shared.expired = false → processes.shared.renewals = 0 ∨
    processes.shared.renewals = 1 ∧
      (∃ token, processes.shared.sessionToken = some token ∧ processes.shared.validFrom ≤ token) ∧
      ∀ id phase, processes.At id phase → phase.holds = false

theorem renewed_set (h : Renewed before) (hphase : before.At id phase) (hafter : phase'.holds = false)
    (hexpired : manager'.expired = false → before.shared.expired = false)
    (hrenewals : manager'.renewals = before.shared.renewals)
    (hcached : manager'.sessionToken = before.shared.sessionToken)
    (hvalid : manager'.validFrom = before.shared.validFrom) :
    Renewed ⟨manager', before.phases.set id phase'⟩ := by
  intro hnot
  rcases h (hexpired hnot) with hzero | ⟨hone, hfresh, hnone⟩
  · exact .inl (hrenewals.trans hzero)
  · refine .inr ⟨hrenewals.trans hone, ?_, fun other found hother => ?_⟩
    · rw [show Processes.shared _ = manager' from rfl, hcached, hvalid]
      exact hfresh
    · rcases hphase.of_set hother with ⟨-, rfl⟩ | ⟨-, hat⟩
      · exact hafter
      · exact hnone other found hat

/-- A step that discards no session but the one of its request keeps the renewed one. -/
theorem renewed_next (h : Sound before) (hrenewed : Renewed before)
    (hkeeps : Keeps maxRetries lifetime before next) :
    Renewed (before.next (step maxRetries lifetime) next) := by
  obtain ⟨id, choice⟩ := next
  obtain hnext | ⟨phase, manager', phase', hphase, hstep, hnext⟩ :=
    Processes.next_cases (step maxRetries lifetime) before id choice
  · rw [hnext]
    exact hrenewed
  · rw [hnext]
    have hnote : before.shared.noteExpiry.expired = false → before.shared.expired = false :=
      fun hnot => (Bool.or_eq_false_iff.mp hnot).1
    have hholder : before.shared.expired = false → phase.holds = true → before.shared.renewals = 0 := by
      intro hnot hholds
      rcases hrenewed hnot with hzero | ⟨-, -, hnone⟩
      · exact hzero
      · rw [hnone id phase hphase] at hholds
        cases hholds
    cases change_of_step hstep with
    | invalidates hbefore => exact fun _ => .inl rfl
    | passes hbefore => exact renewed_set hrenewed hphase rfl (fun hnot => hnot) rfl rfl rfl
    | sends hbefore htoken => exact renewed_set hrenewed hphase rfl (fun hnot => hnot) rfl rfl rfl
    | waits hbefore => exact renewed_set hrenewed hphase rfl hnote rfl rfl rfl
    | acquires hbefore hlocked =>
        intro hnot
        -- The lock is taken only where no session is cached.
        obtain ⟨hnot, hnone⟩ := Bool.or_eq_false_iff.mp hnot
        rcases hrenewed hnot with hzero | ⟨-, ⟨token, htoken, -⟩, -⟩
        · exact .inl hzero
        · rw [htoken] at hnone
          cases hnone
    | opens hbefore =>
        subst hbefore
        exact fun hnot => .inl (hholder hnot rfl)
    | releases hbefore => exact renewed_set hrenewed hphase rfl (fun hnot => hnot) rfl rfl rfl
    | @receives number token hbefore =>
        subst hbefore
        intro hnot
        have hzero := hholder hnot rfl
        by_cases hfresh : before.shared.validFrom ≤ token
        · refine .inr ⟨?_, ⟨token, rfl, hfresh⟩, fun other found hother => ?_⟩
          · show (if before.shared.validFrom ≤ token then before.shared.renewals + 1
              else before.shared.renewals) = 1
            rw [if_pos hfresh, hzero]
          · rcases hphase.of_set hother with ⟨-, rfl⟩ | ⟨hne, hat⟩
            · rfl
            · have hfree : (!found.holds) = true := (h.holder id _ hphase rfl).2 other found hne hat
              simpa using hfree
        · refine .inl ?_
          show (if before.shared.validFrom ≤ token then before.shared.renewals + 1
            else before.shared.renewals) = 0
          rw [if_neg hfresh, hzero]
    | answers hbefore => exact renewed_set hrenewed hphase rfl (fun hnot => hnot) rfl rfl rfl
    | discards hbefore hlast =>
        subst hbefore
        -- The discarded session is the one of the request, which the server has refused.
        have hproceed : choice = .proceed := by
          cases choice with
          | proceed => rfl
          | fail =>
              obtain ⟨-, hfinished⟩ := Prod.mk.inj (Option.some.inj hstep)
              cases hfinished
          | _ => cases hstep
        intro hnot
        rcases hrenewed hnot with hzero | ⟨-, ⟨cached, hcached, hvalid⟩, -⟩
        · exact .inl hzero
        · have hsame := hkeeps _ _ _ hphase hproceed cached hcached (by rw [hnext]; rfl)
          have hlt := h.refused id _ _ _ hphase
          omega
    | ends hbefore => exact renewed_set hrenewed hphase rfl (fun hnot => hnot) rfl rfl rfl

theorem keeps_iff_current (h : Sound before) :
    Keeps maxRetries lifetime before next ↔ Current maxRetries before next := by
  obtain ⟨id, choice⟩ := next
  constructor
  · rintro hkeeps number token seen hphase rfl hlast
    cases hcached : before.shared.sessionToken with
    | none => exact .inl rfl
    | some cached =>
        have hstep : step maxRetries lifetime before.shared (.answered number token seen true) .proceed =
            some (before.shared.invalidate, .attempt (number + 1)) := by
          rw [step, Bool.true_and, if_pos (decide_eq_true hlast)]
        have hnone : (before.next (step maxRetries lifetime) (id, .proceed)).shared.sessionToken = none := by
          rw [Processes.next_of_step hphase hstep]
          rfl
        obtain rfl := hkeeps number token seen hphase rfl cached hcached hnone
        have hcarried := h.carried id _ _ seen hphase rfl
        rcases Nat.lt_or_eq_of_le hcarried.counted with hlt | heq
        · exact absurd hcached (hcarried.former hlt)
        · exact .inr heq
  · rintro hcurrent number token seen hphase rfl cached hcached hnone
    by_cases hlast : number + 1 < maxRetries
    · rcases hcurrent number token seen hphase rfl hlast with hnone' | hseen
      · cases hnone'.symm.trans hcached
      · rcases (h.carried id _ token seen hphase rfl).current hseen with hnone' | hsame
        · cases hnone'.symm.trans hcached
        · exact Option.some.inj (hcached.symm.trans hsame)
    · have hstep : step maxRetries lifetime before.shared (.answered number token seen true) .proceed =
          some (before.shared, .finished) := by
        rw [step, Bool.true_and, if_neg (by simpa using hlast)]
      rw [Processes.next_of_step hphase hstep] at hnone
      cases hnone.symm.trans hcached

end Steps

/-! ## Runs -/

/-- In every sequence of steps no answer of status 401 discards another session than the one of its request,
and after each invalidation one new session is enough, if and only if at each such answer, but the last one
of a request, no session has been received since the request was sent, or none is cached. -/
theorem renewed_iff (maxRetries : Nat) (lifetime : Int) (requests : Nat) (steps : List (Nat × Choice)) :
    Along (Processes.next (step maxRetries lifetime))
        (fun before next => Keeps maxRetries lifetime before next ∧
          OneSession (before.next (step maxRetries lifetime) next).shared)
        (start maxRetries requests) steps ↔
      Along (Processes.next (step maxRetries lifetime)) (Current maxRetries)
        (start maxRetries requests) steps := by
  have hrenewed : Renewed (start maxRetries requests) := fun _ => .inl rfl
  have hone : ∀ processes : Processes Manager Phase, Renewed processes → OneSession processes.shared := by
    intro processes h hnot
    rcases h hnot with hzero | ⟨hone, -⟩
    · exact hzero ▸ Nat.zero_le 1
    · exact Nat.le_of_eq hone
  refine along_iff (fun before next (h : Sound before ∧ Renewed before) => ?_)
    (fun before next h hnext => ?_) ⟨sound_start maxRetries requests, hrenewed⟩ steps
  · rw [← keeps_iff_current h.1]
    exact and_iff_left_of_imp fun hkeeps => hone _ (renewed_next h.1 h.2 hkeeps)
  · exact ⟨sound_next h.1, renewed_next h.1 h.2 hnext.1⟩

/-- Two requests are sent with one session, which the server invalidates. The answer of the second one
arrives when the first one has renewed the session. -/
def lateAnswer : List (Nat × Choice) :=
  [(1, .proceed), (1, .handle), (1, .proceed), (2, .proceed), (0, .invalidate), (1, .handle),
    (2, .handle), (1, .proceed), (1, .proceed), (1, .handle), (1, .proceed), (2, .proceed)]

/-- The second request gets a session of its own. -/
def thirdSession : List (Nat × Choice) :=
  lateAnswer ++ [(2, .proceed), (2, .handle), (2, .proceed)]

/-- The late answer discards the new session, and a third one is opened. -/
theorem lateAnswer_not_renewed :
    ¬ Along (Processes.next (step 3 1740))
        (fun before next => Keeps 3 1740 before next ∧ OneSession (before.next (step 3 1740) next).shared)
        (start 3 2) lateAnswer ∧
      ¬ OneSession (thirdSession.foldl (Processes.next (step 3 1740)) (start 3 2)).shared := by
  constructor
  · rintro ⟨-, -, -, -, -, -, -, -, -, -, -, ⟨hkeeps, -⟩, -⟩
    have hsame := hkeeps 0 0 1 rfl rfl 1 rfl rfl
    cases hsame
  · intro hone
    have hle := hone rfl
    exact absurd hle (by decide)

end Symfonia

end IntegrationPlatform
