import Mathlib.Data.List.Pairwise
import Mathlib.Order.Lattice
import IntegrationPlatform.Kafka.Publishing
import IntegrationPlatform.Transactions.Histories

/-!
# The message poller of Slack

A cycle lists the channels, and of each channel of which the bot is a member it reads one page of the
messages that are newer than its cursor, publishes them, oldest first, and moves the cursor to the newest
one. `covered_iff` says which cycles pass no message and leave out no channel.
-/

namespace IntegrationPlatform

namespace Slack

open Publishing

/-! ## Channels and messages -/

structure Channel where
  id : String
  isMember : Bool

/-- The channels as Slack lists them, the timestamps of their messages, oldest first, the rows of
`poller_state`, and the messages that Kafka has accepted. Beside the row of a channel stands the number
of its messages when it was first saved. -/
structure State (τ : Type) where
  channels : List Channel
  messages : String → List τ
  saved : String → Option τ
  since : String → Option Nat
  published : List (String × τ)

/-- What succeeds in a cycle: the list of channels, and of each channel the read of its cursor, the
request for its messages, their publications, and the write of its cursor. -/
structure Weather (τ : Type) where
  listed : Bool
  read : String → Bool
  history : String → Bool
  sends : String → τ → Outcome
  stored : String → Bool

/-- How the poll of a channel ends: the cycle goes on, a request has failed, or something else has
raised. -/
inductive Ending where
  | through
  | requestFailed
  | raised
  deriving DecidableEq

section Cycles

variable {τ : Type} [LinearOrder τ]

/-- The messages that are newer than a timestamp, oldest first. -/
def newer (messages : List τ) (oldest : Option τ) : List τ :=
  messages.filter fun ts => oldest.all (· < ts)

/-- `conversations.history`: the newest messages that are newer than `oldest`, newest first. -/
def conversationsHistory (messages : List τ) (limit : Nat) (oldest : Option τ) : List τ :=
  (newer messages oldest).reverse.take limit

/-- `limit` of the requests for messages. -/
def historyLimit : Nat := 20

/-- `limit` of the request for channels. -/
def listLimit : Nat := 100

/-- The loop over the messages of a page, oldest first: what Kafka accepts, and the newest timestamp, if
no publication raises. -/
def processMessages (sends : τ → Outcome) (lastTs : Option τ) :
    List τ → Option τ → List τ × Option (Option τ)
  | [], newestTs => ([], some newestTs)
  | ts :: rest, newestTs =>
      if lastTs.any (ts ≤ ·) then processMessages sends lastTs rest newestTs
      else
        match sends ts with
        | .returned =>
            let others := processMessages sends lastTs rest
              (if newestTs.all (· < ts) then some ts else newestTs)
            (ts :: others.1, others.2)
        | .raised accepted => (if accepted then [ts] else [], none)

/-- The state with more accepted messages of a channel. -/
def State.publish (state : State τ) (channel : String) (accepted : List τ) : State τ :=
  { state with published := accepted.map (Prod.mk channel) ++ state.published }

def State.saveTimestamp (state : State τ) (channel : String) (ts : τ) : State τ :=
  { state with
    saved := Function.update state.saved channel (some ts)
    since := Function.update state.since channel
      (some ((state.since channel).getD (state.messages channel).length)) }

/-- The body of the loop over the channels. -/
def pollChannel (weather : Weather τ) (state : State τ) (channel : String) : State τ × Ending :=
  if weather.read channel then
    if weather.history channel then
      let lastTs := state.saved channel
      let rawMessages := conversationsHistory (state.messages channel) historyLimit lastTs
      let processed := processMessages (weather.sends channel) lastTs rawMessages.reverse lastTs
      let after := state.publish channel processed.1
      match processed.2 with
      | none => (after, .raised)
      | some none => (after, .through)
      | some (some newestTs) =>
          if some newestTs ≠ lastTs then
            if weather.stored channel then (after.saveTimestamp channel newestTs, .through)
            else (after, .raised)
          else (after, .through)
    else (state, .requestFailed)
  else (state, .raised)

/-- The loop over the channels: the state after it, and the channels whose messages have been asked
for. -/
def pollChannels (weather : Weather τ) (state : State τ) : List String → State τ × List String
  | [] => (state, [])
  | channel :: rest =>
      let asked := if weather.read channel then [channel] else []
      let first := pollChannel weather state channel
      if first.2 = .through then
        let others := pollChannels weather first.1 rest
        (others.1, asked ++ others.2)
      else (first.1, asked)

/-- The channels of which the bot is a member. -/
def memberChannels (channels : List Channel) : List String :=
  (channels.filter Channel.isMember).map Channel.id

/-- `_poll_account`. `conversations.list` answers with one page. -/
def pollAccount (weather : Weather τ) (state : State τ) : State τ × List String :=
  if weather.listed then
    pollChannels weather state (memberChannels (state.channels.take listLimit))
  else (state, [])

/-- What happens: the list of channels changes, a message is posted, or a cycle runs. A message that is
posted during a cycle is posted before it or after it, as far as its channel is concerned. -/
inductive Event (τ : Type) where
  | list (channels : List Channel)
  | post (channel : String) (ts : τ)
  | cycle (weather : Weather τ)

/-- One step. A message is newer than all others of its channel. -/
def step (state : State τ) : Event τ → State τ
  | .list channels => { state with channels }
  | .post channel ts =>
      if ∀ other ∈ state.messages channel, other < ts then
        { state with
          messages := Function.update state.messages channel (state.messages channel ++ [ts]) }
      else state
  | .cycle weather => (pollAccount weather state).1

/-- An account whose cursors have never been saved. -/
def State.start : State τ := ⟨[], fun _ => [], fun _ => none, fun _ => none, []⟩

/-! ## What is promised -/

/-- No cursor is past a message that was posted after the cursor was first saved and that has not been
published. -/
def Safe (state : State τ) : Prop :=
  ∀ channel cursor count, state.saved channel = some cursor → state.since channel = some count →
    ∀ ts ∈ (state.messages channel).drop count, ts ≤ cursor → (channel, ts) ∈ state.published

/-- No request of the loop fails. -/
def RequestsSucceed (weather : Weather τ) : State τ → List String → Prop
  | _, [] => True
  | state, channel :: rest =>
      (weather.read channel = true → weather.history channel = true) ∧
        ((pollChannel weather state channel).2 = .through →
          RequestsSucceed weather (pollChannel weather state channel).1 rest)

/-- After a step no cursor is past an unpublished message, and a cycle in which no request fails asks
for the messages of every channel of which the bot is a member. -/
structure Covered (state : State τ) (event : Event τ) : Prop where
  safe : Safe (step state event)
  complete : ∀ weather, event = .cycle weather → weather.listed = true →
    RequestsSucceed weather state (memberChannels (state.channels.take listLimit)) →
    (pollAccount weather state).2 = memberChannels state.channels

/-! ## The condition -/

/-- The cursor of a channel can be read, all messages of its page are published, and the cursor is
written where there are any. -/
def Undisturbed (weather : Weather τ) (state : State τ) (channel : String) : Prop :=
  weather.read channel = true ∧
    ∀ ts ∈ conversationsHistory (state.messages channel) historyLimit (state.saved channel),
      weather.sends channel ts = .returned ∧ weather.stored channel = true

/-- Every message that is newer than the cursor of a channel is on its page, or has been published. -/
def Fits (state : State τ) (channel : String) : Prop :=
  ∀ cursor, state.saved channel = some cursor → ∀ ts ∈ state.messages channel, cursor < ts →
    ts ∈ conversationsHistory (state.messages channel) historyLimit (some cursor) ∨
      (channel, ts) ∈ state.published

/-- Every channel of the loop that is polled through fits its page. -/
def AllFit (weather : Weather τ) : State τ → List String → Prop
  | _, [] => True
  | state, channel :: rest =>
      weather.history channel = true → Undisturbed weather state channel →
        Fits state channel ∧ AllFit weather (pollChannel weather state channel).1 rest

/-- No channel of the loop that others follow is disturbed, and the cursor of the last one can be
read. -/
def Uninterrupted (weather : Weather τ) : State τ → List String → Prop
  | _, [] => True
  | _, [channel] => weather.read channel = true
  | state, channel :: next :: rest =>
      Undisturbed weather state channel ∧
        Uninterrupted weather (pollChannel weather state channel).1 (next :: rest)

/-- Every channel that a cycle polls through fits its page. If no request fails, then the channels of
which the bot is a member are all on the page of channels, and the cycle is not interrupted before its
last channel. -/
def Condition (state : State τ) (event : Event τ) : Prop :=
  ∀ weather, event = .cycle weather → weather.listed = true →
    AllFit weather state (memberChannels (state.channels.take listLimit)) ∧
    (RequestsSucceed weather state (memberChannels (state.channels.take listLimit)) →
      memberChannels (state.channels.drop listLimit) = [] ∧
      Uninterrupted weather state (memberChannels (state.channels.take listLimit)))

/-! ## A page -/

theorem reverse_conversationsHistory (messages : List τ) (limit : Nat) (oldest : Option τ) :
    (conversationsHistory messages limit oldest).reverse =
      (newer messages oldest).drop ((newer messages oldest).length - limit) := by
  unfold conversationsHistory
  rw [List.take_reverse, List.reverse_reverse]

theorem mem_of_history {messages : List τ} {limit : Nat} {oldest : Option τ} {ts : τ}
    (h : ts ∈ conversationsHistory messages limit oldest) :
    ts ∈ messages ∧ oldest.all (· < ts) = true :=
  List.mem_filter.mp (List.mem_reverse.mp (List.mem_of_mem_take h))

theorem le_newest {messages : List τ} {limit : Nat} {oldest : Option τ} {newest ts : τ}
    (hsorted : messages.Pairwise (· < ·))
    (hnewest : (conversationsHistory messages limit oldest).head? = some newest)
    (hts : ts ∈ messages) (hnewer : oldest.all (· < ts) = true) : ts ≤ newest := by
  have hlast : (newer messages oldest).getLast? = some newest := by
    unfold conversationsHistory at hnewest
    rw [List.head?_take] at hnewest
    split at hnewest
    · cases hnewest
    · rwa [List.head?_reverse] at hnewest
  obtain ⟨front, hfront⟩ := List.getLast?_eq_some_iff.mp hlast
  have hsorted' : (front ++ [newest]).Pairwise (· < ·) := hfront ▸ hsorted.filter _
  have hmem : ts ∈ front ++ [newest] := hfront ▸ List.mem_filter.mpr ⟨hts, hnewer⟩
  rcases List.mem_append.mp hmem with hbefore | hlast
  · exact ((List.pairwise_append.mp hsorted').2.2 ts hbefore newest
      (List.mem_singleton_self _)).le
  · exact (List.mem_singleton.mp hlast).le

theorem processMessages_subset (sends : τ → Outcome) (lastTs : Option τ) (page : List τ)
    (newestTs : Option τ) : (processMessages sends lastTs page newestTs).1 ⊆ page := by
  induction page generalizing newestTs with
  | nil => exact List.Subset.refl _
  | cons ts rest ih =>
      unfold processMessages
      split
      · exact List.Subset.trans (ih _) (List.subset_cons_self _ _)
      · split
        · exact List.cons_subset_cons _ (ih _)
        · split
          · exact List.cons_subset_cons _ (List.nil_subset _)
          · exact List.nil_subset _

/-- The loop over newer messages in their order gets to its end if and only if no publication raises,
and then it has published them all and ends with the last one. -/
theorem processMessages_spec (sends : τ → Outcome) {lastTs : Option τ} {page : List τ}
    {newestTs : Option τ} (hsorted : page.Pairwise (· < ·))
    (hnewer : ∀ ts ∈ page, lastTs.all (· < ts) = true)
    (hnewest : ∀ ts ∈ page, newestTs.all (· < ts) = true) :
    ((processMessages sends lastTs page newestTs).2.isSome ↔
        ∀ ts ∈ page, sends ts = .returned) ∧
      ((∀ ts ∈ page, sends ts = .returned) →
        processMessages sends lastTs page newestTs = (page, some (page.getLast?.or newestTs))) := by
  induction page generalizing newestTs with
  | nil => simp [processMessages]
  | cons ts rest ih =>
      obtain ⟨hfirst, hrest⟩ := List.pairwise_cons.mp hsorted
      have hskip : lastTs.any (ts ≤ ·) = false := by
        have hlast := hnewer ts List.mem_cons_self
        cases lastTs with
        | none => rfl
        | some last => simpa using hlast
      have hnewest' : ∀ other ∈ rest, (some ts).all (· < other) = true :=
        fun other hother => by simpa using hfirst other hother
      have hih := ih hrest (fun other hother => hnewer other (List.mem_cons_of_mem _ hother))
        hnewest'
      unfold processMessages
      rw [hskip, hnewest ts List.mem_cons_self]
      simp only [Bool.false_eq_true, if_false, if_true]
      cases hsend : sends ts with
      | returned =>
          simp only [List.forall_mem_cons, hsend, true_and]
          refine ⟨hih.1, fun hall => ?_⟩
          rw [hih.2 hall]
          cases rest with
          | nil => rfl
          | cons other others => simp [List.getLast?_cons]
      | raised accepted => simp [hsend]

/-! ## The poll of one channel -/

section Channels

variable {weather : Weather τ} {state : State τ} {channel : String}

/-- What holds in every reachable state: messages are in their order, and the messages from before the
first save of a cursor are not newer than the cursor, which is one of the messages. -/
structure Ordered (state : State τ) : Prop where
  sorted : ∀ channel, (state.messages channel).Pairwise (· < ·)
  unsaved : ∀ channel, state.saved channel = none → state.since channel = none
  saved : ∀ channel cursor, state.saved channel = some cursor →
    cursor ∈ state.messages channel ∧ ∃ count, state.since channel = some count ∧
      count ≤ (state.messages channel).length ∧
      ∀ ts ∈ (state.messages channel).take count, ts ≤ cursor

/-- The page of a channel, newest first. -/
def State.page (state : State τ) (channel : String) : List τ :=
  conversationsHistory (state.messages channel) historyLimit (state.saved channel)

theorem processMessages_page (h : Ordered state) (channel : String) (sends : τ → Outcome) :
    ((processMessages sends (state.saved channel) (state.page channel).reverse
        (state.saved channel)).2.isSome ↔ ∀ ts ∈ state.page channel, sends ts = .returned) ∧
      ((∀ ts ∈ state.page channel, sends ts = .returned) →
        processMessages sends (state.saved channel) (state.page channel).reverse
            (state.saved channel) =
          ((state.page channel).reverse,
            some ((state.page channel).head?.or (state.saved channel)))) := by
  have hnewer : ∀ ts ∈ (state.page channel).reverse, (state.saved channel).all (· < ts) = true :=
    fun ts hts => (mem_of_history (List.mem_reverse.mp hts)).2
  have hsorted : (state.page channel).reverse.Pairwise (· < ·) := by
    unfold State.page
    rw [reverse_conversationsHistory]
    exact ((h.sorted channel).filter _).drop
  have hspec := processMessages_spec sends hsorted hnewer hnewer
  simpa only [List.mem_reverse, List.getLast?_reverse] using hspec

/-- The poll of a channel saves the newest timestamp of its page, whose messages are then all published,
or it publishes some of them and changes nothing else. -/
theorem pollChannel_cases (h : Ordered state) (weather : Weather τ) (channel : String) :
    ((pollChannel weather state channel).2 = .through ↔
        weather.history channel = true ∧ Undisturbed weather state channel) ∧
      ((∃ newest, (state.page channel).head? = some newest ∧
          (pollChannel weather state channel).2 = .through ∧
          (pollChannel weather state channel).1 =
            (state.publish channel (state.page channel).reverse).saveTimestamp channel newest) ∨
        ∃ accepted ⊆ state.page channel,
          (pollChannel weather state channel).1 = state.publish channel accepted ∧
          ((pollChannel weather state channel).2 = .through → state.page channel = [])) := by
  have hnone : state = state.publish channel [] := rfl
  have hpage : conversationsHistory (state.messages channel) historyLimit (state.saved channel) =
      state.page channel := rfl
  obtain ⟨hends, hprocessed⟩ := processMessages_page h channel (weather.sends channel)
  have hsubset := List.Subset.trans
    (processMessages_subset (weather.sends channel) (state.saved channel)
      (state.page channel).reverse (state.saved channel))
    fun ts hts => List.mem_reverse.mp hts
  unfold pollChannel Undisturbed
  cases hread : weather.read channel with
  | false => exact ⟨by simp, .inr ⟨[], List.nil_subset _, hnone, by simp⟩⟩
  | true =>
      cases hhistory : weather.history channel with
      | false => exact ⟨by simp, .inr ⟨[], List.nil_subset _, hnone, by simp⟩⟩
      | true =>
          simp only [if_true, true_and, hpage]
          by_cases hsends : ∀ ts ∈ state.page channel, weather.sends channel ts = .returned
          · rw [hprocessed hsends]
            cases hhead : (state.page channel).head? with
            | none =>
                -- There is nothing to save.
                have hempty := List.head?_eq_none_iff.mp hhead
                rw [Option.none_or, hempty]
                cases hsaved : state.saved channel with
                | none => exact ⟨by simp, .inr ⟨[], List.Subset.refl _, rfl, fun _ => rfl⟩⟩
                | some cursor => exact ⟨by simp, .inr ⟨[], List.Subset.refl _, by simp, fun _ => rfl⟩⟩
            | some newest =>
                have hmem : newest ∈ state.page channel := List.mem_of_head? hhead
                have hne : some newest ≠ state.saved channel := by
                  intro heq
                  have hlt := (mem_of_history hmem).2
                  rw [← heq] at hlt
                  simp at hlt
                rw [Option.some_or]
                simp only [if_pos hne]
                cases hstored : weather.stored channel with
                | true =>
                    exact ⟨by simpa using hsends, .inl ⟨newest, rfl, rfl, rfl⟩⟩
                | false =>
                    refine ⟨?_, .inr ⟨(state.page channel).reverse, ?_, rfl, by simp⟩⟩
                    · simp only [Bool.false_eq_true, if_false, and_false, reduceCtorEq, false_iff]
                      exact fun hnever => hnever newest hmem
                    · exact fun ts hts => List.mem_reverse.mp hts
          · have hraises := Option.not_isSome_iff_eq_none.mp fun hsome => hsends (hends.mp hsome)
            rw [hraises]
            refine ⟨?_, .inr ⟨_, hsubset, rfl, by simp⟩⟩
            simp only [reduceCtorEq, false_iff]
            exact fun hall => hsends fun ts hts => (hall ts hts).1

theorem le_head (h : Ordered state) {newest ts : τ}
    (hnewest : (state.page channel).head? = some newest) (hts : ts ∈ state.messages channel)
    (hnewer : (state.saved channel).all (· < ts) = true) : ts ≤ newest :=
  le_newest (h.sorted channel) hnewest hts hnewer

theorem lt_head {newest cursor : τ} (hnewest : (state.page channel).head? = some newest)
    (hsaved : state.saved channel = some cursor) : cursor < newest := by
  have hnewer := (mem_of_history (List.mem_of_head? hnewest)).2
  rw [hsaved] at hnewer
  simpa using hnewer

theorem fits_of_page_eq_nil (h : state.page channel = []) : Fits state channel := by
  intro cursor hsaved ts hts hlt
  have hnewer : newer (state.messages channel) (some cursor) = [] := by
    have hpage : (newer (state.messages channel) (some cursor)).reverse.take historyLimit = [] := by
      rw [← hsaved]
      exact h
    rcases List.take_eq_nil_iff.mp hpage with hlimit | hnil
    · exact absurd hlimit (by decide)
    · exact List.reverse_eq_nil_iff.mp hnil
  have hmem : ts ∈ newer (state.messages channel) (some cursor) :=
    List.mem_filter.mpr ⟨hts, by simpa using hlt⟩
  rw [hnewer] at hmem
  exact absurd hmem List.not_mem_nil

theorem Ordered.publish (h : Ordered state) (channel : String) (accepted : List τ) :
    Ordered (state.publish channel accepted) :=
  ⟨h.sorted, h.unsaved, h.saved⟩

variable {newest : τ}

theorem Ordered.saveTimestamp (h : Ordered state) (hnewest : (state.page channel).head? = some newest) :
    Ordered (state.saveTimestamp channel newest) := by
  refine ⟨h.sorted, fun other hother => ?_, fun other cursor hcursor => ?_⟩
  · simp only [State.saveTimestamp] at hother ⊢
    by_cases hsame : other = channel
    · subst hsame
      simp at hother
    · rw [Function.update_of_ne hsame] at hother ⊢
      exact h.unsaved other hother
  · simp only [State.saveTimestamp] at hcursor ⊢
    by_cases hsame : other = channel
    · subst hsame
      rw [Function.update_self] at hcursor ⊢
      cases hcursor
      refine ⟨(mem_of_history (List.mem_of_head? hnewest)).1, _, rfl, ?_⟩
      cases hsaved : state.saved other with
      | none =>
          rw [h.unsaved other hsaved]
          refine ⟨Nat.le_refl _, fun ts hts => ?_⟩
          have hmem : ts ∈ state.messages other := List.mem_of_mem_take hts
          exact le_head h hnewest hmem (by rw [hsaved]; rfl)
      | some cursor =>
          obtain ⟨-, count, hcount, hle, htake⟩ := h.saved other cursor hsaved
          rw [hcount]
          exact ⟨hle, fun ts hts => (htake ts hts).trans (lt_head hnewest hsaved).le⟩
    · rw [Function.update_of_ne hsame] at hcursor ⊢
      exact h.saved other cursor hcursor

theorem Ordered.pollChannel (h : Ordered state) (weather : Weather τ) (channel : String) :
    Ordered (pollChannel weather state channel).1 := by
  rcases (pollChannel_cases h weather channel).2 with
    ⟨newest, hnewest, -, heq⟩ | ⟨accepted, -, heq, -⟩
  · rw [heq]
    have hpublished := h.publish channel (state.page channel).reverse
    exact hpublished.saveTimestamp hnewest
  · rw [heq]
    exact h.publish channel accepted

theorem safe_publish {accepted : List τ} (haccepted : accepted ⊆ state.page channel) :
    Safe (state.publish channel accepted) ↔ Safe state := by
  constructor
  · intro h other cursor count hsaved hcount ts hts hle
    rcases List.mem_append.mp (h other cursor count hsaved hcount ts hts hle) with hnow | hbefore
    · obtain ⟨ts', hts', heq⟩ := List.mem_map.mp hnow
      cases heq
      have hnewer := (mem_of_history (haccepted hts')).2
      rw [hsaved] at hnewer
      exact absurd (by simpa using hnewer) (not_lt.mpr hle)
    · exact hbefore
  · intro h other cursor count hsaved hcount ts hts hle
    exact List.mem_append_right _ (h other cursor count hsaved hcount ts hts hle)

theorem safe_of_saveTimestamp (hnewest : (state.page channel).head? = some newest)
    (hsafe : Safe ((state.publish channel (state.page channel).reverse).saveTimestamp channel newest)) :
    Safe (state.publish channel (state.page channel).reverse) := by
  intro other cursor count hsaved hcount ts hts hle
  by_cases hsame : other = channel
  · subst hsame
    refine hsafe other newest count (Function.update_self ..) ?_ ts hts
      (hle.trans (lt_head hnewest hsaved).le)
    have hcount' : state.since other = some count := hcount
    simp [State.saveTimestamp, State.publish, hcount']
  · refine hsafe other cursor count ?_ ?_ ts hts hle
    · exact (Function.update_of_ne hsame ..).trans hsaved
    · exact (Function.update_of_ne hsame ..).trans hcount

theorem fits_of_saveTimestamp (h : Ordered state) (hnewest : (state.page channel).head? = some newest)
    (hsafe : Safe ((state.publish channel (state.page channel).reverse).saveTimestamp channel newest)) :
    Fits state channel := by
  intro cursor hsaved ts hts hlt
  obtain ⟨-, count, hcount, -, htake⟩ := h.saved channel cursor hsaved
  have hdrop : ts ∈ (state.messages channel).drop count := by
    rw [← List.take_append_drop count (state.messages channel)] at hts
    exact (List.mem_append.mp hts).resolve_left fun hin => absurd (htake ts hin) (not_le.mpr hlt)
  have hle := le_head h hnewest hts (by rw [hsaved]; simpa using hlt)
  have hmem := hsafe channel newest count (Function.update_self ..)
    (by simp [State.saveTimestamp, State.publish, hcount]) ts hdrop hle
  rcases List.mem_append.mp hmem with hnow | hbefore
  · obtain ⟨ts', hts', heq⟩ := List.mem_map.mp hnow
    cases heq
    rw [← hsaved]
    exact .inl (List.mem_reverse.mp hts')
  · exact .inr hbefore

theorem Fits.safe_saveTimestamp (hfits : Fits state channel) (h : Ordered state)
    (hsafe : Safe (state.publish channel (state.page channel).reverse)) (newest : τ) :
    Safe ((state.publish channel (state.page channel).reverse).saveTimestamp channel newest) := by
  intro other cursor count hsaved hcount ts hts hle
  by_cases hsame : other = channel
  · subst hsame
    cases hbefore : state.saved other with
    | none =>
        -- The first save: nothing has been posted since.
        have hlength : count = (state.messages other).length := by
          simpa [State.saveTimestamp, State.publish, h.unsaved other hbefore] using hcount.symm
        rw [hlength] at hts
        simp [State.saveTimestamp, State.publish] at hts
    | some cursor' =>
        obtain ⟨-, count', hcount', -, -⟩ := h.saved other cursor' hbefore
        have hsame : count = count' := by
          simpa [State.saveTimestamp, State.publish, hcount'] using hcount.symm
        rw [hsame] at hts
        rcases le_or_gt ts cursor' with hold | hnew
        · exact hsafe other cursor' count' hbefore hcount' ts hts hold
        · rcases hfits cursor' hbefore ts (List.mem_of_mem_drop hts) hnew with hpage | hpublished
          · rw [← hbefore] at hpage
            refine List.mem_append_left _ (List.mem_map_of_mem ?_)
            exact List.mem_reverse.mpr hpage
          · exact List.mem_append_right _ hpublished
  · refine hsafe other cursor count ?_ ?_ ts hts hle
    · exact (Function.update_of_ne hsame ..).symm.trans hsaved
    · exact (Function.update_of_ne hsame ..).symm.trans hcount

theorem safe_saveTimestamp (h : Ordered state) (hnewest : (state.page channel).head? = some newest) :
    Safe ((state.publish channel (state.page channel).reverse).saveTimestamp channel newest) ↔
      Safe state ∧ Fits state channel := by
  have hpublish : Safe (state.publish channel (state.page channel).reverse) ↔ Safe state :=
    safe_publish fun ts hts => List.mem_reverse.mp hts
  rw [← hpublish]
  constructor
  · exact fun hsafe => ⟨safe_of_saveTimestamp hnewest hsafe, fits_of_saveTimestamp h hnewest hsafe⟩
  · exact fun ⟨hsafe, hfits⟩ => hfits.safe_saveTimestamp h hsafe newest

theorem safe_pollChannel (h : Ordered state) (weather : Weather τ) (channel : String) :
    Safe (pollChannel weather state channel).1 ↔ Safe state ∧
      (weather.history channel = true → Undisturbed weather state channel → Fits state channel) := by
  obtain ⟨hthrough, hcases⟩ := pollChannel_cases h weather channel
  rcases hcases with ⟨newest, hnewest, hends, heq⟩ | ⟨accepted, haccepted, heq, hempty⟩
  · obtain ⟨hhistory, hundisturbed⟩ := hthrough.mp hends
    rw [heq, safe_saveTimestamp h hnewest]
    exact and_congr_right fun _ =>
      ⟨fun hfits _ _ => hfits, fun hfits => hfits hhistory hundisturbed⟩
  · rw [heq, safe_publish haccepted]
    refine ⟨fun hsafe => ⟨hsafe, fun hhistory hundisturbed => ?_⟩, And.left⟩
    exact fits_of_page_eq_nil (hempty (hthrough.mpr ⟨hhistory, hundisturbed⟩))

end Channels

/-! ## A cycle -/

section Loops

variable {weather : Weather τ} {state : State τ}

theorem Ordered.pollChannels (h : Ordered state) (weather : Weather τ) (channels : List String) :
    Ordered (pollChannels weather state channels).1 := by
  induction channels generalizing state with
  | nil => exact h
  | cons channel rest ih =>
      simp only [Slack.pollChannels]
      split
      · exact ih (h.pollChannel weather channel)
      · exact h.pollChannel weather channel

theorem safe_pollChannels (h : Ordered state) (weather : Weather τ) (channels : List String) :
    Safe (pollChannels weather state channels).1 ↔ Safe state ∧ AllFit weather state channels := by
  induction channels generalizing state with
  | nil => exact (and_iff_left trivial).symm
  | cons channel rest ih =>
      have hfirst := safe_pollChannel h weather channel
      have hthrough := (pollChannel_cases h weather channel).1
      by_cases hends : (pollChannel weather state channel).2 = .through
      · obtain ⟨hhistory, hundisturbed⟩ := hthrough.mp hends
        simp only [pollChannels, if_pos hends, AllFit]
        rw [ih (h.pollChannel weather channel), hfirst]
        constructor
        · rintro ⟨⟨hsafe, hfits⟩, hrest⟩
          exact ⟨hsafe, fun _ _ => ⟨hfits hhistory hundisturbed, hrest⟩⟩
        · rintro ⟨hsafe, hall⟩
          obtain ⟨hfits, hrest⟩ := hall hhistory hundisturbed
          exact ⟨⟨hsafe, fun _ _ => hfits⟩, hrest⟩
      · simp only [pollChannels, if_neg hends, AllFit]
        rw [hfirst]
        refine and_congr_right fun _ =>
          ⟨fun _ hhistory hundisturbed => ?_, fun hall hhistory hundisturbed => ?_⟩
        · exact absurd (hthrough.mpr ⟨hhistory, hundisturbed⟩) hends
        · exact (hall hhistory hundisturbed).1

theorem length_pollChannels_le (weather : Weather τ) (state : State τ) (channels : List String) :
    (pollChannels weather state channels).2.length ≤ channels.length := by
  induction channels generalizing state with
  | nil => exact Nat.le_refl _
  | cons channel rest ih =>
      have hrest := ih (pollChannel weather state channel).1
      simp only [pollChannels]
      split <;> split <;> simp <;> omega

theorem pollChannels_eq_iff (h : Ordered state) {channels : List String}
    (hrequests : RequestsSucceed weather state channels) :
    (pollChannels weather state channels).2 = channels ↔ Uninterrupted weather state channels := by
  induction channels generalizing state with
  | nil => simp [pollChannels, Uninterrupted]
  | cons channel rest ih =>
      obtain ⟨hhistory, hothers⟩ := hrequests
      have hthrough := (pollChannel_cases h weather channel).1
      cases rest with
      | nil =>
          simp only [pollChannels, Uninterrupted]
          split <;> cases weather.read channel <;> simp
      | cons next rest =>
          by_cases hends : (pollChannel weather state channel).2 = .through
          · have hundisturbed := (hthrough.mp hends).2
            have hrest := ih (h.pollChannel weather channel) (hothers hends)
            unfold pollChannels Uninterrupted
            rw [if_pos hends, if_pos hundisturbed.1]
            simp only [List.singleton_append, List.cons.injEq, true_and]
            exact hrest.trans (and_iff_right hundisturbed).symm
          · constructor
            · intro heq
              unfold pollChannels at heq
              rw [if_neg hends] at heq
              cases hread : weather.read channel <;> simp [hread] at heq
            · rintro ⟨hundisturbed, -⟩
              exact absurd (hthrough.mpr ⟨hhistory hundisturbed.1, hundisturbed⟩) hends

theorem memberChannels_append (channels others : List Channel) :
    memberChannels (channels ++ others) = memberChannels channels ++ memberChannels others := by
  simp [memberChannels]

theorem pollAccount_eq_iff (hlisted : weather.listed = true) :
    (pollAccount weather state).2 = memberChannels state.channels ↔
      memberChannels (state.channels.drop listLimit) = [] ∧
        (pollChannels weather state (memberChannels (state.channels.take listLimit))).2 =
          memberChannels (state.channels.take listLimit) := by
  have hall : memberChannels state.channels =
      memberChannels (state.channels.take listLimit) ++
        memberChannels (state.channels.drop listLimit) := by
    rw [← memberChannels_append, List.take_append_drop]
  have hlength := length_pollChannels_le weather state
    (memberChannels (state.channels.take listLimit))
  unfold pollAccount
  rw [if_pos hlisted, hall]
  constructor
  · intro heq
    have hnil : memberChannels (state.channels.drop listLimit) = [] := by
      rw [heq, List.length_append] at hlength
      exact List.length_eq_zero_iff.mp (by omega)
    exact ⟨hnil, by rwa [hnil, List.append_nil] at heq⟩
  · rintro ⟨hnil, heq⟩
    rw [hnil, List.append_nil]
    exact heq

/-- The state in which a message has been posted. -/
def State.post (state : State τ) (channel : String) (ts : τ) : State τ :=
  { state with messages := Function.update state.messages channel (state.messages channel ++ [ts]) }

theorem Ordered.post (h : Ordered state) {channel : String} {ts : τ}
    (hnewest : ∀ other ∈ state.messages channel, other < ts) : Ordered (state.post channel ts) := by
  refine ⟨fun other => ?_, h.unsaved, fun other cursor hsaved => ?_⟩
  · show (Function.update state.messages channel _ other).Pairwise (· < ·)
    by_cases hsame : other = channel
    · subst hsame
      rw [Function.update_self]
      refine List.pairwise_append.mpr ⟨h.sorted other, List.pairwise_singleton _ _, ?_⟩
      exact fun older holder newest' hnew => List.mem_singleton.mp hnew ▸ hnewest older holder
    · rw [Function.update_of_ne hsame]
      exact h.sorted other
  · unfold State.post
    dsimp only
    obtain ⟨hmem, count, hcount, hle, htake⟩ := h.saved other cursor hsaved
    by_cases hsame : other = channel
    · subst hsame
      rw [Function.update_self]
      refine ⟨List.mem_append_left _ hmem, count, hcount, ?_, ?_⟩
      · rw [List.length_append]
        omega
      · rwa [List.take_append_of_le_length hle]
    · rw [Function.update_of_ne hsame]
      exact ⟨hmem, count, hcount, hle, htake⟩

theorem safe_post (h : Ordered state) (hsafe : Safe state) {channel : String} {ts : τ}
    (hnewest : ∀ other ∈ state.messages channel, other < ts) : Safe (state.post channel ts) := by
  intro other cursor count hsaved hcount ts' hts' hle
  unfold State.post at hts'
  dsimp only at hts'
  obtain ⟨hmem, count', hcount', hlength, -⟩ := h.saved other cursor hsaved
  by_cases hsame : other = channel
  · subst hsame
    cases hcount'.symm.trans hcount
    rw [Function.update_self, List.drop_append_of_le_length hlength] at hts'
    rcases List.mem_append.mp hts' with hbefore | hnew
    · exact hsafe other cursor count hsaved hcount ts' hbefore hle
    · cases List.mem_singleton.mp hnew
      exact absurd hle (not_le.mpr (hnewest cursor hmem))
  · rw [Function.update_of_ne hsame] at hts'
    exact hsafe other cursor count hsaved hcount ts' hts' hle

theorem Ordered.step (h : Ordered state) (event : Event τ) : Ordered (step state event) := by
  cases event with
  | list channels => exact ⟨h.sorted, h.unsaved, h.saved⟩
  | cycle weather =>
      simp only [Slack.step, pollAccount]
      split
      · exact h.pollChannels weather _
      · exact h
  | post channel ts =>
      unfold Slack.step
      dsimp only
      split
      · next hnewest => exact h.post hnewest
      · exact h

theorem safe_step (h : Ordered state) (hsafe : Safe state) (event : Event τ) :
    Safe (step state event) ↔ ∀ weather, event = .cycle weather → weather.listed = true →
      AllFit weather state (memberChannels (state.channels.take listLimit)) := by
  cases event with
  | list channels => exact iff_of_true hsafe fun _ heq => nomatch heq
  | cycle weather =>
      simp only [step, pollAccount, Event.cycle.injEq, forall_eq']
      split
      · next hlisted =>
        rw [safe_pollChannels h]
        exact ⟨fun hboth _ => hboth.2, fun hall => ⟨hsafe, hall hlisted⟩⟩
      · next hfailed => exact iff_of_true hsafe fun hlisted => absurd hlisted hfailed
  | post channel ts =>
      refine iff_of_true ?_ fun _ heq => nomatch heq
      unfold step
      dsimp only
      split
      · next hnewest => exact safe_post h hsafe hnewest
      · exact hsafe

theorem covered_iff_condition (h : Ordered state) (hsafe : Safe state) (event : Event τ) :
    Covered state event ↔ Condition state event := by
  have hcomplete : ∀ weather : Weather τ, weather.listed = true →
      RequestsSucceed weather state (memberChannels (state.channels.take listLimit)) →
      ((pollAccount weather state).2 = memberChannels state.channels ↔
        memberChannels (state.channels.drop listLimit) = [] ∧
          Uninterrupted weather state (memberChannels (state.channels.take listLimit))) := by
    intro weather hlisted hrequests
    rw [pollAccount_eq_iff hlisted, pollChannels_eq_iff h hrequests]
  constructor
  · rintro ⟨hsteps, hall⟩ weather hevent hlisted
    refine ⟨(safe_step h hsafe event).mp hsteps weather hevent hlisted, fun hrequests => ?_⟩
    exact (hcomplete weather hlisted hrequests).mp (hall weather hevent hlisted hrequests)
  · intro hcondition
    refine ⟨(safe_step h hsafe event).mpr fun weather hevent hlisted => ?_, ?_⟩
    · exact (hcondition weather hevent hlisted).1
    · intro weather hevent hlisted hrequests
      have hboth := (hcondition weather hevent hlisted).2 hrequests
      exact (hcomplete weather hlisted hrequests).mpr hboth

end Loops

/-! ## Runs -/

theorem ordered_start : Ordered (State.start : State τ) :=
  ⟨fun _ => .nil, fun _ _ => rfl, fun _ _ hsaved => nomatch hsaved⟩

theorem safe_start : Safe (State.start : State τ) :=
  fun _ _ _ hsaved => nomatch hsaved

/-- Whatever is posted and whatever fails, all steps of a run are covered if and only if they all meet
the condition. -/
theorem covered_iff (events : List (Event τ)) :
    Along step Covered State.start events ↔ Along step Condition State.start events := by
  have hagree : ∀ (state : State τ) event, Ordered state ∧ Safe state →
      (Covered state event ↔ Condition state event) :=
    fun state event hstate => covered_iff_condition hstate.1 hstate.2 event
  have hkeep : ∀ (state : State τ) event, Ordered state ∧ Safe state → Covered state event →
      Ordered (step state event) ∧ Safe (step state event) :=
    fun state event hstate hcovered => ⟨hstate.1.step event, hcovered.safe⟩
  exact along_iff hagree hkeep ⟨ordered_start, safe_start⟩ events

end Cycles

/-- A cycle in which nothing fails. -/
def fair : Weather Nat :=
  ⟨true, fun _ => true, fun _ => true, fun _ _ => .returned, fun _ => true⟩

/-- After the first cycle 21 messages are posted, before the next one. -/
def burst : List (Event Nat) :=
  [.list [⟨"C1", true⟩], .post "C1" 0, .cycle fair] ++
    (List.range 21).map (fun n => .post "C1" (n + 1)) ++ [.cycle fair]

/-- The oldest one of more messages than a page has is passed, although nothing fails. -/
theorem burst_not_covered : ¬ Along step Covered State.start burst := by
  intro h
  have hsafe : Safe (burst.foldl step State.start) :=
    h.foldl (fun _ _ _ hcovered => hcovered.safe) safe_start
  have hpublished := hsafe "C1" 21 1 (by decide) (by decide) 1 (by decide) (by decide)
  exact absurd hpublished (by decide)

end Slack

end IntegrationPlatform
