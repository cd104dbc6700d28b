import Mathlib.Data.Nat.Basic
/-!
# The connection to Nexo

The agent has one connection, whose status only `connect` and `disconnect` change. A handle that an
outage of the ERP has cut off is noticed by `ping` and by the services, but its connection stays
`connected`, and nothing connects again. `reconnects_iff` says when the agent recovers.
-/

namespace IntegrationPlatform

namespace OnPremise

/-! ## The connection -/

inductive ConnectionStatus where
  | disconnected
  | connecting
  | connected
  | error
  deriving DecidableEq

/-- The ERP: whether it is up, and how many outages it has had. -/
structure Server where
  up : Bool
  outages : Nat

/-- What happens to the ERP. -/
inductive Weather where
  | outage
  | restored
  deriving DecidableEq

/-- `NexoConnection`. A handle is known by the number of outages before it was opened. -/
structure NexoConnection where
  sfera : Option Nat := none
  status : ConnectionStatus := .disconnected
  consecutiveFailures : Nat := 0

namespace Server

/-- The ERP after something has happened to it. -/
def weather (server : Server) : Weather → Server
  | .outage => ⟨false, server.outages + 1⟩
  | .restored => { server with up := true }

/-- The ERP after all this has happened to it. -/
def pass (server : Server) (happenings : List Weather) : Server := happenings.foldl weather server

/-- A handle can be used until the first outage after it was opened. -/
def accepts (server : Server) (handle : Nat) : Bool :=
  server.up && decide (handle = server.outages)

end Server

/-- The ERP and the connection of the agent. -/
structure Host where
  server : Server
  connection : NexoConnection

namespace Host

variable (host : Host)

def isConnected : Bool := host.connection.status = .connected

/-- Time passes in which this happens to the ERP. -/
def pass (happenings : List Weather) : Host := { host with server := host.server.pass happenings }

/-- The `except` clause of `connect`. -/
def connectFailed (sfera : Option Nat) : Host :=
  { host with
    connection := ⟨sfera, .error, host.connection.consecutiveFailures + 1⟩ }

/-- `connect`, with what happens to the ERP before each call of the SDK, and whether it returns. -/
def connect (before : Nat → List Weather) : Host × Bool :=
  if host.isConnected then (host, true)
  else
    -- `Polacz` opens a handle if the ERP is up, and `ZalogujOperatora` uses it.
    let opened := host.pass (before 0)
    if opened.server.up then
      let handle := opened.server.outages
      let entered := opened.pass (before 1)
      if entered.server.accepts handle then
        -- What `_setup_context` raises is caught.
        let ready := entered.pass (before 2)
        ({ ready with connection := ⟨some handle, .connected, 0⟩ }, true)
      else (entered.connectFailed (some handle), false)
    else (opened.connectFailed host.connection.sfera, false)

/-- The property `sfera`, and a call with the handle: whether it returns. -/
def calls : Bool :=
  match host.connection.sfera with
  | some handle => host.isConnected && host.server.accepts handle
  | none => false

def ping (before : List Weather) : Host :=
  let now := host.pass before
  { now with
    connection := { now.connection with
      consecutiveFailures := if now.calls then 0 else now.connection.consecutiveFailures + 1 } }

/-- `_send_heartbeat`, of the connection. -/
def heartbeat (before : Nat → List Weather) : Host :=
  if host.isConnected then host.ping (before 0) else host

/-- One of the three outbound syncs, which catch what their service raises. -/
def outboundSync (before : Nat → List Weather) : Host :=
  ((host.connect before).1).pass (before 3)

/-- `_run_sync_cycle`. -/
def syncCycle (before : Nat → List Weather) : Host :=
  if host.isConnected then
    ((host.outboundSync before).outboundSync fun call => before (call + 4)).outboundSync
      fun call => before (call + 8)
  else host

def health (before : Nat → List Weather) : Host := (host.connect before).1

def readiness (before : Nat → List Weather) : Host :=
  match host.connect before with
  | (host', true) => host'.ping (before 3)
  | (host', false) => host'

def connectionStatus (before : Nat → List Weather) : Host :=
  if host.isConnected then host.ping (before 0) else host

/-- A request to a service, which changes nothing in the connection. -/
def service (before : Nat → List Weather) : Host := host.pass (before 0)

end Host

/-- What runs in the agent. At the start it connects as `health` does. -/
inductive Activity where
  | heartbeat
  | syncCycle
  | health
  | readiness
  | connectionStatus
  | service
  deriving DecidableEq

/-- Something runs, and this happens to the ERP before each of its calls and after the last one. -/
structure Round where
  activity : Activity
  before : Nat → List Weather
  after : List Weather

namespace Host

/-- The agent and the ERP after a round. -/
def round (host : Host) (next : Round) : Host :=
  (match next.activity with
  | .heartbeat => host.heartbeat next.before
  | .syncCycle => host.syncCycle next.before
  | .health => host.health next.before
  | .readiness => host.readiness next.before
  | .connectionStatus => host.connectionStatus next.before
  | .service => host.service next.before).pass next.after

/-- The agent before it has started. -/
def initial (server : Server) : Host := ⟨server, {}⟩

/-- The connection has a handle that can be used. -/
def Recovered (host : Host) : Prop :=
  host.connection.status = .connected ∧
    ∃ handle, host.connection.sfera = some handle ∧ host.server.accepts handle = true

/-- The connection counts as connected, but an outage has cut its handle off. -/
def Stranded (host : Host) : Prop :=
  host.connection.status = .connected ∧
    ∀ handle, host.connection.sfera = some handle → handle < host.server.outages

end Host

/-- The ERP has no outage in a round. -/
def Round.Calm (next : Round) : Prop :=
  (∀ call, .outage ∉ next.before call) ∧ .outage ∉ next.after

/-! ## Outages -/

namespace Server

variable {server : Server} {happenings : List Weather}

theorem outages_le_pass : server.outages ≤ (server.pass happenings).outages := by
  induction happenings generalizing server with
  | nil => exact le_rfl
  | cons happening rest ih =>
      have hrest := @ih (server.weather happening)
      cases happening with
      | outage => exact Nat.le_trans (Nat.le_succ _) hrest
      | restored => exact hrest

theorem pass_of_calm (hup : server.up = true) (hcalm : .outage ∉ happenings) :
    server.pass happenings = server := by
  induction happenings with
  | nil => rfl
  | cons happening rest ih =>
      rw [List.mem_cons, not_or] at hcalm
      cases happening with
      | outage => exact absurd rfl hcalm.1
      | restored =>
          have hsame : server.weather .restored = server := by
            show { server with up := true } = server
            rw [← hup]
          show (server.weather .restored).pass rest = server
          rw [hsame]
          exact ih hcalm.2

end Server

namespace Host

variable {host : Host} {before : Nat → List Weather}

/-! ## Connections that are cut off -/

theorem Stranded.pass (h : host.Stranded) (happenings : List Weather) :
    (host.pass happenings).Stranded :=
  ⟨h.1, fun handle hsfera => Nat.lt_of_lt_of_le (h.2 handle hsfera) Server.outages_le_pass⟩

theorem isConnected_of (h : host.connection.status = .connected) : host.isConnected = true :=
  decide_eq_true h

theorem connect_of_connected (h : host.connection.status = .connected) :
    host.connect before = (host, true) :=
  if_pos (isConnected_of h)

theorem Stranded.ping (h : host.Stranded) (happenings : List Weather) :
    (host.ping happenings).Stranded :=
  h.pass happenings

theorem Stranded.outboundSync (h : host.Stranded) (before : Nat → List Weather) :
    (host.outboundSync before).Stranded := by
  unfold Host.outboundSync
  rw [connect_of_connected h.1]
  exact h.pass _

theorem Stranded.round (h : host.Stranded) (next : Round) : (host.round next).Stranded := by
  refine Stranded.pass ?_ next.after
  have hconnected := isConnected_of h.1
  cases next.activity with
  | heartbeat =>
      show (host.heartbeat next.before).Stranded
      unfold Host.heartbeat
      rw [if_pos hconnected]
      exact h.ping _
  | syncCycle =>
      show (host.syncCycle next.before).Stranded
      unfold Host.syncCycle
      rw [if_pos hconnected]
      exact ((h.outboundSync _).outboundSync _).outboundSync _
  | health =>
      show (host.connect next.before).1.Stranded
      rw [connect_of_connected h.1]
      exact h
  | readiness =>
      show (host.readiness next.before).Stranded
      unfold Host.readiness
      rw [connect_of_connected h.1]
      exact h.ping _
  | connectionStatus =>
      show (host.connectionStatus next.before).Stranded
      unfold Host.connectionStatus
      rw [if_pos hconnected]
      exact h.ping _
  | service => exact h.pass _

theorem Stranded.not_recovered (h : host.Stranded) : ¬ host.Recovered := by
  rintro ⟨-, handle, hsfera, haccepts⟩
  have hlt := h.2 handle hsfera
  have heq := of_decide_eq_true (Bool.and_eq_true_iff.mp haccepts).2
  omega

/-! ## Handles -/

/-- A handle was opened after no more outages than there have been. -/
def Dated (host : Host) : Prop :=
  ∀ handle, host.connection.sfera = some handle → handle ≤ host.server.outages

theorem Dated.pass (h : host.Dated) (happenings : List Weather) : (host.pass happenings).Dated :=
  fun handle hsfera => Nat.le_trans (h handle hsfera) Server.outages_le_pass

theorem Dated.ping (h : host.Dated) (happenings : List Weather) : (host.ping happenings).Dated :=
  h.pass happenings

theorem Dated.connect (h : host.Dated) (before : Nat → List Weather) :
    (host.connect before).1.Dated := by
  unfold Host.connect
  split
  · exact h
  · dsimp only
    split
    · split
      · intro handle hsfera
        cases hsfera
        exact Nat.le_trans Server.outages_le_pass Server.outages_le_pass
      · intro handle hsfera
        cases hsfera
        exact Server.outages_le_pass
    · exact h.pass _

theorem Dated.outboundSync (h : host.Dated) (before : Nat → List Weather) :
    (host.outboundSync before).Dated :=
  (h.connect before).pass _

theorem Dated.round (h : host.Dated) (next : Round) : (host.round next).Dated := by
  refine Dated.pass ?_ next.after
  cases next.activity with
  | heartbeat =>
      show (host.heartbeat next.before).Dated
      unfold Host.heartbeat
      split
      · exact h.ping _
      · exact h
  | syncCycle =>
      show (host.syncCycle next.before).Dated
      unfold Host.syncCycle
      split
      · exact ((h.outboundSync _).outboundSync _).outboundSync _
      · exact h
  | health => exact h.connect _
  | readiness =>
      show (host.readiness next.before).Dated
      unfold Host.readiness
      have hconnect := h.connect next.before
      split
      · next hresult =>
        rw [hresult] at hconnect
        exact hconnect.ping _
      · next hresult =>
        rw [hresult] at hconnect
        exact hconnect
  | connectionStatus =>
      show (host.connectionStatus next.before).Dated
      unfold Host.connectionStatus
      split
      · exact h.ping _
      · exact h
  | service => exact h.pass _

/-! ## An ERP that stays up -/

/-- The ERP is up, and a connection that counts as connected has a handle that can be used. -/
structure Sound (host : Host) : Prop where
  up : host.server.up = true
  handle : host.connection.status = .connected → host.Recovered

theorem sound_of_recovered (h : host.Recovered) : host.Sound := by
  refine ⟨?_, fun _ => h⟩
  obtain ⟨-, handle, -, haccepts⟩ := h
  exact (Bool.and_eq_true_iff.mp haccepts).1

theorem sound_of_not_stranded (hdated : host.Dated) (hup : host.server.up = true)
    (h : ¬ host.Stranded) : host.Sound := by
  refine ⟨hup, fun hconnected => ⟨hconnected, ?_⟩⟩
  by_contra hnone
  refine h ⟨hconnected, fun handle hsfera => Nat.lt_of_le_of_ne (hdated handle hsfera) fun heq => ?_⟩
  refine hnone ⟨handle, hsfera, ?_⟩
  unfold Server.accepts
  rw [hup, heq, decide_eq_true rfl]
  rfl

variable {happenings : List Weather}

theorem pass_of_calm (hup : host.server.up = true)
    (hcalm : .outage ∉ happenings) : host.pass happenings = host := by
  unfold Host.pass
  rw [Server.pass_of_calm hup hcalm]

theorem connect_of_calm (h : host.Sound) (hcalm : ∀ call, .outage ∉ before call) :
    ∃ host', host.connect before = (host', true) ∧ host'.Recovered := by
  by_cases hconnected : host.connection.status = .connected
  · exact ⟨host, connect_of_connected hconnected, h.handle hconnected⟩
  · have haccepts : host.server.accepts host.server.outages = true := by
      unfold Server.accepts
      rw [h.up, decide_eq_true rfl]
      rfl
    have hnot : host.isConnected = false := decide_eq_false hconnected
    refine ⟨⟨host.server, ⟨some host.server.outages, .connected, 0⟩⟩, ?_, rfl, _, rfl, haccepts⟩
    unfold Host.connect
    simp only [hnot, pass_of_calm h.up (hcalm _), h.up, haccepts, if_true, Bool.false_eq_true, if_false]

theorem Recovered.ping (h : host.Recovered)
    (hcalm : .outage ∉ happenings) : (host.ping happenings).Recovered := by
  unfold Host.ping
  rw [pass_of_calm (sound_of_recovered h).up hcalm]
  exact h

theorem Recovered.pass (h : host.Recovered)
    (hcalm : .outage ∉ happenings) : (host.pass happenings).Recovered := by
  rw [pass_of_calm (sound_of_recovered h).up hcalm]
  exact h

theorem Recovered.outboundSync (h : host.Recovered) (hcalm : ∀ call, .outage ∉ before call) :
    (host.outboundSync before).Recovered := by
  unfold Host.outboundSync
  rw [connect_of_connected h.1]
  exact h.pass (hcalm 3)

theorem Recovered.round (h : host.Recovered) {next : Round} (hcalm : next.Calm) :
    (host.round next).Recovered := by
  refine Recovered.pass ?_ hcalm.2
  have hconnected := isConnected_of h.1
  cases next.activity with
  | heartbeat =>
      show (host.heartbeat next.before).Recovered
      unfold Host.heartbeat
      rw [if_pos hconnected]
      exact h.ping (hcalm.1 0)
  | syncCycle =>
      show (host.syncCycle next.before).Recovered
      unfold Host.syncCycle
      rw [if_pos hconnected]
      exact ((h.outboundSync hcalm.1).outboundSync fun call => hcalm.1 (call + 4)).outboundSync
        fun call => hcalm.1 (call + 8)
  | health =>
      show (host.connect next.before).1.Recovered
      rw [connect_of_connected h.1]
      exact h
  | readiness =>
      show (host.readiness next.before).Recovered
      unfold Host.readiness
      rw [connect_of_connected h.1]
      exact h.ping (hcalm.1 3)
  | connectionStatus =>
      show (host.connectionStatus next.before).Recovered
      unfold Host.connectionStatus
      rw [if_pos hconnected]
      exact h.ping (hcalm.1 0)
  | service => exact h.pass (hcalm.1 0)

theorem Sound.readiness (h : host.Sound) {next : Round} (hcalm : next.Calm)
    (hactivity : next.activity = .readiness) : (host.round next).Recovered := by
  unfold Host.round
  rw [hactivity]
  refine Recovered.pass ?_ hcalm.2
  obtain ⟨host', hconnect, hrecovered⟩ := connect_of_calm h hcalm.1
  show (host.readiness next.before).Recovered
  unfold Host.readiness
  rw [hconnect]
  exact hrecovered.ping (hcalm.1 3)

theorem Sound.round (h : host.Sound) {next : Round} (hcalm : next.Calm) : (host.round next).Sound := by
  by_cases hconnected : host.connection.status = .connected
  · exact sound_of_recovered ((h.handle hconnected).round hcalm)
  · have hnot : host.isConnected = false := decide_eq_false hconnected
    have hsame : ∀ happenings : List Weather,
        .outage ∉ happenings → (host.pass happenings).Sound := by
      intro happenings hhappenings
      rw [pass_of_calm h.up hhappenings]
      exact h
    obtain ⟨host', hconnect, hrecovered⟩ := connect_of_calm h hcalm.1
    cases hactivity : next.activity with
    | readiness => exact sound_of_recovered (h.readiness hcalm hactivity)
    | health =>
        unfold Host.round Host.health
        rw [hactivity]
        dsimp only
        rw [hconnect]
        exact sound_of_recovered (hrecovered.pass hcalm.2)
    | heartbeat | syncCycle | connectionStatus =>
        unfold Host.round
        rw [hactivity]
        dsimp only [Host.heartbeat, Host.syncCycle, Host.connectionStatus]
        rw [if_neg (by rw [hnot]; exact Bool.false_ne_true)]
        exact hsame _ hcalm.2
    | service =>
        unfold Host.round Host.service
        rw [hactivity]
        dsimp only
        rw [pass_of_calm h.up (hcalm.1 0)]
        exact hsame _ hcalm.2

theorem Sound.recovered {rounds : List Round} (h : host.Sound) (hcalm : ∀ next ∈ rounds, next.Calm)
    (hready : host.Recovered ∨ ∃ next ∈ rounds, next.activity = .readiness) :
    (rounds.foldl Host.round host).Recovered := by
  induction rounds generalizing host with
  | nil =>
      rcases hready with hrecovered | ⟨next, hnext, -⟩
      · exact hrecovered
      · cases hnext
  | cons next rest ih =>
      have hnext := hcalm next List.mem_cons_self
      refine ih (h.round hnext) (fun later hlater => hcalm later (List.mem_cons_of_mem _ hlater)) ?_
      rcases hready with hrecovered | ⟨ready, hmem, hactivity⟩
      · exact .inl (hrecovered.round hnext)
      · rcases List.mem_cons.mp hmem with rfl | hlater
        · exact .inl (h.readiness hnext hactivity)
        · exact .inr ⟨ready, hlater, hactivity⟩

end Host

/-- When the ERP has come back for good, and heartbeats, sync cycles and readiness calls have run, the
connection has a handle that can be used if and only if no outage had cut off a connection that counted
as connected. -/
theorem reconnects_iff (server : Server) (before after : List Round)
    (hup : (before.foldl Host.round (Host.initial server)).server.up = true)
    (hcalm : ∀ next ∈ after, next.Calm)
    (hruns : ∀ activity ∈ [Activity.heartbeat, .syncCycle, .readiness],
      2 ≤ after.countP fun next => next.activity = activity) :
    ((before ++ after).foldl Host.round (Host.initial server)).Recovered ↔
      ¬ (before.foldl Host.round (Host.initial server)).Stranded := by
  rw [List.foldl_append]
  constructor
  · intro hrecovered hstranded
    exact (List.foldlRecOn after Host.round hstranded fun _ h next _ => h.round next).not_recovered
      hrecovered
  · intro hnot
    have hdated : (before.foldl Host.round (Host.initial server)).Dated :=
      List.foldlRecOn before Host.round (fun _ hsfera => by cases hsfera) fun _ h next _ => h.round next
    refine (Host.sound_of_not_stranded hdated hup hnot).recovered hcalm (.inr ?_)
    have hready := hruns .readiness (by decide)
    obtain ⟨next, hnext, hactivity⟩ :=
      List.countP_pos_iff.mp (Nat.lt_of_lt_of_le Nat.zero_lt_two hready)
    exact ⟨next, hnext, of_decide_eq_true hactivity⟩

/-- Something runs while nothing happens to the ERP. -/
def undisturbed (activity : Activity) : Round := ⟨activity, fun _ => [], []⟩

/-- Two heartbeats, two sync cycles and two readiness calls. -/
def checks : List Round :=
  [undisturbed .heartbeat, undisturbed .syncCycle, undisturbed .readiness, undisturbed .heartbeat,
    undisturbed .syncCycle, undisturbed .readiness]

theorem checks_calm : ∀ next ∈ checks, next.Calm := by
  simp [checks, undisturbed, Round.Calm]

/-- The agent starts in an outage, which ends then. -/
def startedDown : List Round := [⟨.health, fun _ => [], [.restored]⟩]

/-- An agent that has started in an outage recovers: it had no connection that could be cut off. -/
theorem started_down_recovers :
    ((startedDown ++ checks).foldl Host.round (Host.initial ⟨false, 1⟩)).Recovered :=
  (reconnects_iff ⟨false, 1⟩ startedDown checks rfl checks_calm (by decide)).mpr
    fun hstranded => nomatch hstranded.1

/-- The agent connects, and then there is an outage. -/
def cutOff : List Round := [undisturbed .health, ⟨.service, fun _ => [], [.outage, .restored]⟩]

/-- An agent whose connection has been cut off does not recover. -/
theorem cut_off_stays :
    ¬ ∀ (server : Server) (before after : List Round),
      (before.foldl Host.round (Host.initial server)).server.up = true →
      (∀ next ∈ after, next.Calm) →
      (∀ activity ∈ [Activity.heartbeat, .syncCycle, .readiness],
        2 ≤ after.countP fun next => next.activity = activity) →
      ((before ++ after).foldl Host.round (Host.initial server)).Recovered := by
  intro hall
  have hrecovered := hall ⟨true, 0⟩ cutOff checks rfl checks_calm (by decide)
  rw [List.foldl_append] at hrecovered
  have hstranded : (cutOff.foldl Host.round (Host.initial ⟨true, 0⟩)).Stranded := by
    refine ⟨rfl, fun handle hsfera => ?_⟩
    cases hsfera
    exact Nat.zero_lt_one
  exact (List.foldlRecOn checks Host.round hstranded fun _ h next _ => h.round next).not_recovered
    hrecovered

end OnPremise

end IntegrationPlatform
