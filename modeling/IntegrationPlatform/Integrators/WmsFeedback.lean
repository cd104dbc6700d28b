import Mathlib.Data.List.Nodup
import Mathlib.Data.List.TakeWhile
import IntegrationPlatform.Json.Value
import IntegrationPlatform.Transactions.Histories
import IntegrationPlatform.Transactions.Processes

/-!
# Feedbacks of the WMS

`write_with_feedback` notes the feedbacks that are there, writes, and then takes the first new feedback
of its entity and action for its own. `attributed_iff` says when it is.
-/

namespace IntegrationPlatform

namespace WmsFeedback

/-! ## Calls and feedbacks -/

/-- The arguments of `write_with_feedback`. -/
structure Request where
  entity : String
  action : String
  path : String
  body : Value

/-- A feedback, with the number of the write that it is about, unless this write is older than all
calls. -/
structure Feedback where
  id : Nat
  entity : String
  action : String
  success : Bool
  errors : Assoc String
  responseMessages : Assoc String
  write : Option Nat
  deriving DecidableEq

/-- A write that the WMS has accepted and for which it has no feedback yet. -/
structure Pending where
  entity : String
  action : String
  write : Option Nat

/-- The feedbacks that the WMS has produced, the writes that it is at work on, and the number of writes
that it has accepted from the calls. -/
structure Wms where
  feedbacks : List Feedback
  pending : List Pending
  writes : Nat

structure WriteResult where
  accepted : Bool
  httpStatus : Nat
  apiResponse : Value
  confirmed : Option Bool := none
  feedbackId : Option Nat := none
  feedbackSuccess : Option Bool := none
  feedbackErrors : Assoc String := []
  feedbackMessages : Assoc String := []
  timedOut : Bool := false

/-- A write that has been accepted: the request, its number, and the answer of the WMS. -/
structure Accepted where
  request : Request
  write : Nat
  httpStatus : Nat
  apiResponse : Value

/-- Where a call is: at its snapshot, at its post, or at a poll with a number of polls behind it. The
WMS takes part as one more process. -/
inductive Phase where
  | wms
  | snapshot (request : Request)
  | posting (request : Request) (knownIds : List Nat)
  | polling (accepted : Accepted) (knownIds : List Nat) (attempt : Nat)
  | finished (result : Except String WriteResult)

/-- What happens next: a list of feedbacks arrives or none does, the WMS accepts a write, with an answer
that arrives or is lost, or answers an error status, the post fails, or the WMS produces a feedback. -/
inductive Choice where
  | listed (feedbacks : List Feedback)
  | failed (error : String)
  | accepted (httpStatus : Nat) (apiResponse : Value)
  | lost (error : String)
  | rejected (httpStatus : Nat) (apiResponse : Value)
  | produced (index id : Nat) (success : Bool) (errors responseMessages : Assoc String)

section Calls

variable (upper : String → String) (maxAttempts : Nat)

/-- The entity and the action of a feedback are those of the request. -/
def Feedback.isFor (feedback : Feedback) (request : Request) : Bool :=
  upper feedback.entity == upper request.entity && upper feedback.action == upper request.action

/-- The scan of a list for the first feedback that is not known and is for the request. -/
def scan (request : Request) (knownIds : List Nat) (feedbacks : List Feedback) : Option Feedback :=
  feedbacks.find? fun feedback =>
    decide (feedback.id ∉ knownIds) && feedback.isFor upper request

/-- The result with a feedback. -/
def Accepted.confirmedBy (accepted : Accepted) (feedback : Feedback) : WriteResult :=
  { accepted := true
    httpStatus := accepted.httpStatus
    apiResponse := accepted.apiResponse
    confirmed := some feedback.success
    feedbackId := some feedback.id
    feedbackSuccess := some feedback.success
    feedbackErrors := feedback.errors
    feedbackMessages := feedback.responseMessages }

/-- The result without one. -/
def Accepted.timeout (accepted : Accepted) : WriteResult :=
  { accepted := true
    httpStatus := accepted.httpStatus
    apiResponse := accepted.apiResponse
    timedOut := true }

/-- The next poll of a call, or its end. -/
def poll (accepted : Accepted) (knownIds : List Nat) (attempt : Nat) : Phase :=
  if attempt < maxAttempts then .polling accepted knownIds attempt
  else .finished (.ok accepted.timeout)

/-- The WMS with a write that it has accepted. -/
def Wms.accept (wms : Wms) (request : Request) : Wms :=
  { wms with
    pending := ⟨request.entity, request.action, some wms.writes⟩ :: wms.pending
    writes := wms.writes + 1 }

/-- One step of a call, or of the WMS. A list has all feedbacks that have been produced, in any order,
and a feedback gets an id that no other one has. -/
def step (wms : Wms) : Phase → Choice → Option (Wms × Phase)
  | .wms, .produced index id success errors responseMessages =>
      match wms.pending[index]? with
      | none => none
      | some pending =>
          if id ∈ wms.feedbacks.map Feedback.id then none
          else some ({ wms with
            feedbacks := wms.feedbacks ++ [⟨id, pending.entity, pending.action, success, errors,
              responseMessages, pending.write⟩]
            pending := wms.pending.eraseIdx index }, .wms)
  | .snapshot request, .listed feedbacks =>
      if feedbacks.isPerm wms.feedbacks then
        some (wms, .posting request (feedbacks.map Feedback.id))
      else none
  | .snapshot request, .failed _ => some (wms, .posting request [])
  | .posting request knownIds, .accepted httpStatus apiResponse =>
      if httpStatus < 400 then
        some (wms.accept request,
          poll maxAttempts ⟨request, wms.writes, httpStatus, apiResponse⟩ knownIds 0)
      else none
  | .posting request _, .lost error => some (wms.accept request, .finished (.error error))
  | .posting _ _, .rejected httpStatus apiResponse =>
      if 400 ≤ httpStatus then
        some (wms, .finished (.ok { accepted := false, httpStatus, apiResponse }))
      else none
  | .posting _ _, .failed error => some (wms, .finished (.error error))
  | .polling accepted knownIds attempt, .listed feedbacks =>
      if feedbacks.isPerm wms.feedbacks then
        some (wms, match scan upper accepted.request knownIds feedbacks with
          | some feedback => .finished (.ok (accepted.confirmedBy feedback))
          | none => poll maxAttempts accepted knownIds (attempt + 1))
      else none
  | .polling accepted knownIds attempt, .failed _ =>
      some (wms, poll maxAttempts accepted knownIds (attempt + 1))
  | _, _ => none

/-- Calls that have not begun, and a WMS with feedbacks and with older writes that it is at work on. -/
def start (feedbacks : List Feedback) (pending : List (String × String)) (requests : List Request) :
    Processes Wms Phase :=
  ⟨⟨feedbacks.map fun feedback => { feedback with write := none },
      pending.map fun write => ⟨write.1, write.2, none⟩, 0⟩,
    .wms :: requests.map Phase.snapshot⟩

/-! ## Whose feedback it is -/

/-- A call that ends with a feedback reports the one of its own write. -/
def Attributed (before : Processes Wms Phase) (next : Nat × Choice) : Prop :=
  ∀ accepted knownIds attempt result feedbackId,
    before.At next.1 (.polling accepted knownIds attempt) →
    (before.next (step upper maxAttempts) next).At next.1 (.finished (.ok result)) →
    result.feedbackId = some feedbackId →
    ∃ feedback ∈ before.shared.feedbacks, feedback.id = feedbackId ∧
      feedback.write = some accepted.write ∧ result = accepted.confirmedBy feedback

/-- Every feedback for the entity and the action of a call that a list has before the call's own one
was there at its snapshot. -/
def Unmistaken (before : Processes Wms Phase) (next : Nat × Choice) : Prop :=
  ∀ accepted knownIds attempt feedbacks,
    before.At next.1 (.polling accepted knownIds attempt) → next.2 = .listed feedbacks →
    feedbacks.isPerm before.shared.feedbacks = true →
    ∀ feedback ∈ feedbacks.takeWhile fun feedback => feedback.write != some accepted.write,
      feedback.isFor upper accepted.request = true → feedback.id ∈ knownIds

end Calls

/-! ## What the steps keep -/

/-- The feedbacks and the writes in progress of a call are for its request, and their ids are not among
those of its snapshot. -/
structure Own (wms : Wms) (accepted : Accepted) (knownIds : List Nat) : Prop where
  write_lt : accepted.write < wms.writes
  known : ∀ id ∈ knownIds, id ∈ wms.feedbacks.map Feedback.id
  unknown : ∀ feedback ∈ wms.feedbacks, feedback.write = some accepted.write →
    feedback.id ∉ knownIds ∧ feedback.entity = accepted.request.entity ∧
      feedback.action = accepted.request.action
  pending : ∀ pending ∈ wms.pending, pending.write = some accepted.write →
    pending.entity = accepted.request.entity ∧ pending.action = accepted.request.action

/-- What holds in every reachable state. -/
structure Sound (processes : Processes Wms Phase) : Prop where
  ids : (processes.shared.feedbacks.map Feedback.id).Nodup
  produced : ∀ feedback ∈ processes.shared.feedbacks, ∀ write, feedback.write = some write →
    write < processes.shared.writes
  pending : ∀ pending ∈ processes.shared.pending, ∀ write, pending.write = some write →
    write < processes.shared.writes
  posting : ∀ id request knownIds, processes.At id (.posting request knownIds) →
    ∀ known ∈ knownIds, known ∈ processes.shared.feedbacks.map Feedback.id
  polling : ∀ id accepted knownIds attempt, processes.At id (.polling accepted knownIds attempt) →
    Own processes.shared accepted knownIds

section Steps

variable {upper : String → String} {maxAttempts : Nat} {wms wms' : Wms} {phase phase' : Phase}
  {choice : Choice} {before : Processes Wms Phase} {next : Nat × Choice}

/-- What a step does to the WMS, and where the call is then. -/
inductive Change (wms : Wms) (phase : Phase) : Wms → Phase → Prop where
  /-- A feedback is produced. -/
  | produces {index : Nat} {pending : Pending} {feedback : Feedback} :
      wms.pending[index]? = some pending → feedback.id ∉ wms.feedbacks.map Feedback.id →
      feedback.entity = pending.entity → feedback.action = pending.action →
      feedback.write = pending.write →
      Change wms phase { wms with
        feedbacks := wms.feedbacks ++ [feedback]
        pending := wms.pending.eraseIdx index } .wms
  /-- The feedbacks that are there are noted, or none of them. -/
  | notes {request : Request} {knownIds : List Nat} :
      (∀ id ∈ knownIds, id ∈ wms.feedbacks.map Feedback.id) →
      Change wms phase wms (.posting request knownIds)
  /-- A write is accepted, and its call polls. -/
  | accepts {request : Request} {knownIds : List Nat} {httpStatus : Nat} {apiResponse : Value}
      {attempt : Nat} : phase = .posting request knownIds →
      Change wms phase (wms.accept request)
        (.polling ⟨request, wms.writes, httpStatus, apiResponse⟩ knownIds attempt)
  /-- A write is accepted, and its call ends. -/
  | abandons {request : Request} {result : Except String WriteResult} :
      Change wms phase (wms.accept request) (.finished result)
  /-- A call goes on polling. -/
  | polls {accepted : Accepted} {knownIds : List Nat} {attempt attempt' : Nat} :
      phase = .polling accepted knownIds attempt →
      Change wms phase wms (.polling accepted knownIds attempt')
  /-- A call ends. -/
  | ends {result : Except String WriteResult} : Change wms phase wms (.finished result)

theorem poll_cases (maxAttempts : Nat) (accepted : Accepted) (knownIds : List Nat) (attempt : Nat) :
    poll maxAttempts accepted knownIds attempt = .polling accepted knownIds attempt ∨
      poll maxAttempts accepted knownIds attempt = .finished (.ok accepted.timeout) := by
  unfold poll
  split
  · exact .inl rfl
  · exact .inr rfl

theorem change_of_step (h : step upper maxAttempts wms phase choice = some (wms', phase')) :
    Change wms phase wms' phase' := by
  have hpoll : ∀ accepted knownIds attempt attempt', phase = .polling accepted knownIds attempt →
      Change wms phase wms (poll maxAttempts accepted knownIds attempt') := by
    intro accepted knownIds attempt attempt' hphase
    rcases poll_cases maxAttempts accepted knownIds attempt' with heq | heq
    · exact heq ▸ .polls hphase
    · exact heq ▸ .ends
  unfold step at h
  split at h
  · split at h
    · cases h
    · next hpending =>
      split at h
      · cases h
      · next hid =>
        cases h
        exact .produces hpending hid rfl rfl rfl
  · split at h
    · next hperm =>
      cases h
      exact .notes fun id hid => ((List.isPerm_iff.mp hperm).map _).mem_iff.mp hid
    · cases h
  · cases h
    exact .notes fun _ hid => (nomatch hid)
  · split at h
    · cases h
      rcases poll_cases maxAttempts _ _ 0 with heq | heq
      · exact heq ▸ .accepts rfl
      · exact heq ▸ .abandons
    · cases h
  · cases h
    exact .abandons
  · split at h
    · cases h
      exact .ends
    · cases h
  · cases h
    exact .ends
  · split at h
    · cases h
      split
      · exact .ends
      · exact hpoll _ _ _ _ rfl
    · cases h
  · cases h
    exact hpoll _ _ _ _ rfl
  · cases h

variable {knownIds : List Nat} {accepted : Accepted}

theorem Own.accept (h : Own wms accepted knownIds)
    (request : Request) : Own (wms.accept request) accepted knownIds where
  write_lt := Nat.lt_succ_of_lt h.write_lt
  known := h.known
  unknown := h.unknown
  pending := by
    intro pending hpending hwrite
    rcases List.mem_cons.mp hpending with rfl | hbefore
    · exact absurd (Option.some.inj hwrite) h.write_lt.ne'
    · exact h.pending pending hbefore hwrite

theorem Own.produce (h : Own wms accepted knownIds)
    {index : Nat} {pending : Pending} {feedback : Feedback}
    (hpending : wms.pending[index]? = some pending)
    (hid : feedback.id ∉ wms.feedbacks.map Feedback.id) (hentity : feedback.entity = pending.entity)
    (haction : feedback.action = pending.action) (hwrite : feedback.write = pending.write) :
    Own { wms with
      feedbacks := wms.feedbacks ++ [feedback]
      pending := wms.pending.eraseIdx index } accepted knownIds where
  write_lt := h.write_lt
  known := by
    intro id hknown
    rw [List.map_append]
    exact List.mem_append_left _ (h.known id hknown)
  unknown := by
    intro found hfound hown
    rcases List.mem_append.mp hfound with hbefore | hnew
    · exact h.unknown found hbefore hown
    · obtain rfl := List.mem_singleton.mp hnew
      obtain ⟨hentity', haction'⟩ :=
        h.pending pending (List.mem_of_getElem? hpending) (hwrite.symm.trans hown)
      exact ⟨fun hknown => hid (h.known _ hknown), hentity.trans hentity', haction.trans haction'⟩
  pending := fun found hfound => h.pending found (List.mem_of_mem_eraseIdx hfound)

theorem Sound.accept_writes (h : Sound before) (request : Request) :
    (∀ feedback ∈ before.shared.feedbacks, ∀ write, feedback.write = some write →
        write < before.shared.writes + 1) ∧
      ∀ pending ∈ (before.shared.accept request).pending, ∀ write, pending.write = some write →
        write < before.shared.writes + 1 := by
  constructor
  · exact fun feedback hfeedback write heq =>
      Nat.lt_succ_of_lt (h.produced feedback hfeedback write heq)
  · intro pending hpending write heq
    rcases List.mem_cons.mp hpending with rfl | hbefore
    · exact Option.some.inj heq ▸ Nat.lt_succ_self _
    · exact Nat.lt_succ_of_lt (h.pending pending hbefore write heq)

theorem Sound.own_accept (h : Sound before) {request : Request} {httpStatus : Nat} {apiResponse : Value}
    (hknown : ∀ id ∈ knownIds, id ∈ before.shared.feedbacks.map Feedback.id) :
    Own (before.shared.accept request) ⟨request, before.shared.writes, httpStatus, apiResponse⟩
      knownIds where
  write_lt := Nat.lt_succ_self _
  known := hknown
  unknown := fun feedback hfeedback hwrite =>
    absurd (h.produced feedback hfeedback _ hwrite) (Nat.lt_irrefl _)
  pending := by
    intro pending hpending hwrite
    rcases List.mem_cons.mp hpending with rfl | hbefore
    · exact ⟨rfl, rfl⟩
    · exact absurd (h.pending pending hbefore _ hwrite) (Nat.lt_irrefl _)

/-- What holds after a step, from what it does to the WMS and to its call. -/
theorem Sound.set (h : Sound before) {id : Nat} (hphase : before.At id phase)
    (hids : (wms'.feedbacks.map Feedback.id).Nodup)
    (hproduced : ∀ feedback ∈ wms'.feedbacks, ∀ write, feedback.write = some write →
      write < wms'.writes)
    (hpending : ∀ pending ∈ wms'.pending, ∀ write, pending.write = some write →
      write < wms'.writes)
    (hgrows : ∀ known ∈ before.shared.feedbacks.map Feedback.id,
      known ∈ wms'.feedbacks.map Feedback.id)
    (hposting : ∀ request knownIds, phase' = .posting request knownIds →
      ∀ known ∈ knownIds, known ∈ wms'.feedbacks.map Feedback.id)
    (hkeeps : ∀ accepted knownIds, Own before.shared accepted knownIds →
      Own wms' accepted knownIds)
    (hpolling : ∀ accepted knownIds attempt, phase' = .polling accepted knownIds attempt →
      Own wms' accepted knownIds) :
    Sound ⟨wms', before.phases.set id phase'⟩ where
  ids := hids
  produced := hproduced
  pending := hpending
  posting := by
    intro other request knownIds hother
    rcases hphase.of_set hother with ⟨-, heq⟩ | ⟨-, hbefore⟩
    · exact hposting request knownIds heq.symm
    · exact fun known hknown =>
        hgrows known (h.posting other request knownIds hbefore known hknown)
  polling := by
    intro other accepted knownIds attempt hother
    rcases hphase.of_set hother with ⟨-, heq⟩ | ⟨-, hbefore⟩
    · exact hpolling accepted knownIds attempt heq.symm
    · exact hkeeps accepted knownIds (h.polling other accepted knownIds attempt hbefore)

theorem sound_next (h : Sound before) : Sound (before.next (step upper maxAttempts) next) := by
  obtain ⟨id, choice⟩ := next
  refine Processes.next_keeps h fun phase wms' phase' hphase hstep => ?_
  cases change_of_step hstep with
  | produces hpending hid hentity haction hwrite =>
      refine h.set hphase ?_ ?_ ?_ ?_ (fun _ _ heq => (nomatch heq))
        (fun _ _ hown => hown.produce hpending hid hentity haction hwrite)
        (fun _ _ _ heq => (nomatch heq))
      · rw [List.map_append]
        exact List.Nodup.append h.ids (List.nodup_singleton _)
          (List.disjoint_singleton.mpr hid)
      · intro feedback hfeedback write heq
        rcases List.mem_append.mp hfeedback with hbefore | hnew
        · exact h.produced feedback hbefore write heq
        · obtain rfl := List.mem_singleton.mp hnew
          exact h.pending _ (List.mem_of_getElem? hpending) write (hwrite.symm.trans heq)
      · exact fun pending hmem => h.pending pending (List.mem_of_mem_eraseIdx hmem)
      · intro known hknown
        rw [List.map_append]
        exact List.mem_append_left _ hknown
  | notes hknown =>
      refine h.set hphase h.ids h.produced h.pending (fun _ hid => hid) ?_ (fun _ _ hown => hown)
        (fun _ _ _ heq => (nomatch heq))
      rintro _ _ ⟨⟩
      exact hknown
  | accepts hposting =>
      obtain ⟨hproduced, hpending⟩ := h.accept_writes _
      refine h.set hphase h.ids hproduced hpending (fun _ hid => hid)
        (fun _ _ heq => (nomatch heq)) (fun _ _ hown => hown.accept _) ?_
      rintro _ _ _ ⟨⟩
      exact h.own_accept (h.posting id _ _ (hposting ▸ hphase))
  | abandons =>
      obtain ⟨hproduced, hpending⟩ := h.accept_writes _
      exact h.set hphase h.ids hproduced hpending (fun _ hid => hid)
        (fun _ _ heq => (nomatch heq)) (fun _ _ hown => hown.accept _)
        (fun _ _ _ heq => (nomatch heq))
  | polls hpolling =>
      refine h.set hphase h.ids h.produced h.pending (fun _ hid => hid)
        (fun _ _ heq => (nomatch heq)) (fun _ _ hown => hown) ?_
      rintro _ _ _ ⟨⟩
      exact h.polling id _ _ _ (hpolling ▸ hphase)
  | ends =>
      exact h.set hphase h.ids h.produced h.pending (fun _ hid => hid)
        (fun _ _ heq => (nomatch heq)) (fun _ _ hown => hown) (fun _ _ _ heq => (nomatch heq))

/-! ## The scan of a list -/

variable {feedbacks : List Feedback}

/-- The first feedback of a list that meets a test is the call's own one if and only if no feedback
before the call's own one meets it. -/
theorem scan_own {request : Request} {write : Nat}
    (hown : ∀ feedback ∈ feedbacks, feedback.write = some write →
      feedback.id ∉ knownIds ∧ feedback.isFor upper request = true) :
    (∀ feedback, scan upper request knownIds feedbacks = some feedback →
        feedback.write = some write) ↔
      ∀ feedback ∈ feedbacks.takeWhile fun feedback => feedback.write != some write,
        feedback.isFor upper request = true → feedback.id ∈ knownIds := by
  induction feedbacks with
  | nil => simp [scan]
  | cons first rest ih =>
      have hrest := ih fun feedback hfeedback => hown feedback (List.mem_cons_of_mem _ hfeedback)
      unfold scan at hrest ⊢
      by_cases hwrite : first.write = some write
      · obtain ⟨hid, hfor⟩ := hown first List.mem_cons_self hwrite
        simp [hwrite, hid, hfor]
      · rw [List.takeWhile_cons_of_pos (by simpa using hwrite)]
        by_cases hfor : first.isFor upper request = true
        · by_cases hid : first.id ∈ knownIds
          · simp only [List.find?_cons, hid, not_true_eq_false, decide_false, Bool.false_and,
              List.forall_mem_cons, implies_true, true_and]
            exact hrest
          · simp [hid, hfor, hwrite]
        · simp only [List.find?_cons, Bool.not_eq_true _ |>.mp hfor, Bool.and_false,
            List.forall_mem_cons, Bool.false_eq_true, false_implies, true_and]
          exact hrest

theorem scan_own_of_perm
    (hown : Own wms accepted knownIds) (hperm : feedbacks.isPerm wms.feedbacks = true) :
    (∀ feedback, scan upper accepted.request knownIds feedbacks = some feedback →
        feedback.write = some accepted.write) ↔
      ∀ feedback ∈ feedbacks.takeWhile fun feedback => feedback.write != some accepted.write,
        feedback.isFor upper accepted.request = true → feedback.id ∈ knownIds := by
  refine scan_own fun feedback hfeedback hwrite => ?_
  obtain ⟨hid, hentity, haction⟩ :=
    hown.unknown feedback ((List.isPerm_iff.mp hperm).mem_iff.mp hfeedback) hwrite
  refine ⟨hid, ?_⟩
  unfold Feedback.isFor
  rw [hentity, haction, beq_self_eq_true, beq_self_eq_true]
  rfl

theorem next_listed {id : Nat} {attempt : Nat}
    (hphase : before.At id (.polling accepted knownIds attempt))
    (hperm : feedbacks.isPerm before.shared.feedbacks = true) :
    before.next (step upper maxAttempts) (id, .listed feedbacks) =
      ⟨before.shared, before.phases.set id
        (match scan upper accepted.request knownIds feedbacks with
          | some feedback => .finished (.ok (accepted.confirmedBy feedback))
          | none => poll maxAttempts accepted knownIds (attempt + 1))⟩ := by
  refine Processes.next_of_step hphase ?_
  rw [step, if_pos hperm]

theorem poll_reports_none {attempt feedbackId : Nat} {result : WriteResult}
    (h : poll maxAttempts accepted knownIds attempt = .finished (.ok result))
    (hfeedback : result.feedbackId = some feedbackId) : False := by
  rcases poll_cases maxAttempts accepted knownIds attempt with heq | heq
  · rw [heq] at h
    cases h
  · obtain rfl := Except.ok.inj (Phase.finished.inj (heq.symm.trans h))
    cases hfeedback

/-- A call that ends with a feedback has found it in a complete list. -/
theorem reported_cases {id : Nat} {attempt : Nat} {result : WriteResult} {feedbackId : Nat}
    (hphase : before.At id (.polling accepted knownIds attempt))
    (hafter : (before.next (step upper maxAttempts) (id, choice)).At id (.finished (.ok result)))
    (hfeedback : result.feedbackId = some feedbackId) :
    ∃ feedbacks feedback, choice = .listed feedbacks ∧
      feedbacks.isPerm before.shared.feedbacks = true ∧
      scan upper accepted.request knownIds feedbacks = some feedback ∧
      result = accepted.confirmedBy feedback := by
  obtain hnext | ⟨phase, wms', phase', hphase', hstep, hnext⟩ :=
    Processes.next_cases (step upper maxAttempts) before id choice
  · rw [hnext] at hafter
    cases hphase.symm.trans hafter
  · obtain rfl := Option.some.inj (hphase.symm.trans hphase')
    rw [hnext] at hafter
    obtain rfl : Phase.finished (.ok result) = phase' :=
      Option.some.inj (hafter.symm.trans (hphase.set wms'))
    cases choice with
    | listed feedbacks =>
        rw [step] at hstep
        split at hstep
        · next hperm =>
          obtain ⟨-, heq⟩ := Prod.mk.inj (Option.some.inj hstep)
          cases hscan : scan upper accepted.request knownIds feedbacks with
          | some feedback =>
              rw [hscan] at heq
              exact ⟨feedbacks, feedback, rfl, hperm, hscan,
                (Except.ok.inj (Phase.finished.inj heq)).symm⟩
          | none =>
              rw [hscan] at heq
              exact (poll_reports_none heq hfeedback).elim
        · cases hstep
    | failed error =>
        obtain ⟨-, heq⟩ := Prod.mk.inj (Option.some.inj hstep)
        exact (poll_reports_none heq hfeedback).elim
    | accepted _ _ => cases hstep
    | lost _ => cases hstep
    | rejected _ _ => cases hstep
    | produced _ _ _ _ _ => cases hstep

theorem attributed_iff_unmistaken (h : Sound before) :
    Attributed upper maxAttempts before next ↔ Unmistaken upper before next := by
  obtain ⟨id, choice⟩ := next
  constructor
  · rintro hattributed accepted knownIds attempt feedbacks hphase rfl hperm
    refine (scan_own_of_perm (h.polling id accepted knownIds attempt hphase) hperm).mp ?_
    intro feedback hscan
    have hafter : (before.next (step upper maxAttempts) (id, .listed feedbacks)).At id
        (.finished (.ok (accepted.confirmedBy feedback))) := by
      rw [next_listed hphase hperm, hscan]
      exact hphase.set _
    obtain ⟨own, hown, hid, hwrite, -⟩ :=
      hattributed accepted knownIds attempt _ feedback.id hphase hafter rfl
    have hmem : feedback ∈ before.shared.feedbacks :=
      (List.isPerm_iff.mp hperm).mem_iff.mp (List.mem_of_find?_eq_some hscan)
    obtain rfl : own = feedback := List.inj_on_of_nodup_map h.ids hown hmem hid
    exact hwrite
  · intro hunmistaken accepted knownIds attempt result feedbackId hphase hafter hfeedback
    obtain ⟨feedbacks, feedback, rfl, hperm, hscan, rfl⟩ :=
      reported_cases hphase hafter hfeedback
    have hwrite := (scan_own_of_perm (h.polling id accepted knownIds attempt hphase) hperm).mpr
      (hunmistaken accepted knownIds attempt feedbacks hphase rfl hperm) feedback hscan
    exact ⟨feedback, (List.isPerm_iff.mp hperm).mem_iff.mp (List.mem_of_find?_eq_some hscan),
      Option.some.inj hfeedback, hwrite, rfl⟩

theorem sound_start (hids : (feedbacks.map Feedback.id).Nodup)
    (pending : List (String × String)) (requests : List Request) :
    Sound (start feedbacks pending requests) := by
  have hphases : ∀ id phase, (start feedbacks pending requests).At id phase →
      phase = .wms ∨ ∃ request, phase = .snapshot request := by
    intro id phase hphase
    rcases List.mem_cons.mp (List.mem_of_getElem? hphase) with rfl | hcall
    · exact .inl rfl
    · obtain ⟨request, -, rfl⟩ := List.mem_map.mp hcall
      exact .inr ⟨request, rfl⟩
  refine ⟨?_, ?_, ?_, ?_, ?_⟩
  · show ((feedbacks.map _).map Feedback.id).Nodup
    rw [List.map_map]
    exact hids
  · intro feedback hfeedback write hwrite
    obtain ⟨_, -, rfl⟩ := List.mem_map.mp hfeedback
    cases hwrite
  · intro feedback hfeedback write hwrite
    obtain ⟨_, -, rfl⟩ := List.mem_map.mp hfeedback
    cases hwrite
  · intro id request knownIds hphase
    rcases hphases id _ hphase with heq | ⟨_, heq⟩ <;> cases heq
  · intro id accepted knownIds attempt hphase
    rcases hphases id _ hphase with heq | ⟨_, heq⟩ <;> cases heq

end Steps

/-! ## Runs -/

/-- In every sequence of steps each call that reports a feedback reports the one of its own write if and
only if, whenever a call lists the feedbacks, each one of its entity and action before its own was there
at its snapshot. -/
theorem attributed_iff (upper : String → String) (maxAttempts : Nat) (feedbacks : List Feedback)
    (hids : (feedbacks.map Feedback.id).Nodup) (pending : List (String × String))
    (requests : List Request) (steps : List (Nat × Choice)) :
    Along (Processes.next (step upper maxAttempts)) (Attributed upper maxAttempts)
        (start feedbacks pending requests) steps ↔
      Along (Processes.next (step upper maxAttempts)) (Unmistaken upper)
        (start feedbacks pending requests) steps := by
  have hagree : ∀ (before : Processes Wms Phase) (next : Nat × Choice), Sound before →
      (Attributed upper maxAttempts before next ↔ Unmistaken upper before next) :=
    fun _ _ h => attributed_iff_unmistaken h
  have hkeep : ∀ (before : Processes Wms Phase) (next : Nat × Choice), Sound before →
      Attributed upper maxAttempts before next →
      Sound (before.next (step upper maxAttempts) next) := fun _ _ h _ => sound_next h
  exact along_iff hagree hkeep (sound_start hids pending requests) steps

/-- A write of an article, with whose feedback some call ends. -/
def saveArticle : Request := ⟨"ARTICLE", "SAVE", "/articles", .dict []⟩

/-- An older feedback, of a write that was rejected. -/
def olderFeedback : Feedback := ⟨1, "ARTICLE", "SAVE", true, [], [], none⟩

/-- A call notes the older feedback, writes, and lists both. -/
theorem new_feedback_reported :
    Along (Processes.next (step id 15)) (Attributed id 15) (start [olderFeedback] [] [saveArticle])
      [(1, .listed [olderFeedback]), (1, .accepted 200 .null),
        (0, .produced 0 2 false [("name", "missing")] []),
        (1, .listed [olderFeedback, ⟨2, "ARTICLE", "SAVE", false, [("name", "missing")], [],
          some 0⟩])] := by
  refine (attributed_iff id 15 [olderFeedback] (List.nodup_singleton 1) _ _ _).mpr
    ⟨?_, ?_, ?_, ?_, trivial⟩
  · rintro accepted knownIds attempt feedbacks hphase
    cases Option.some.inj hphase
  · rintro accepted knownIds attempt feedbacks hphase
    cases Option.some.inj hphase
  · rintro accepted knownIds attempt feedbacks hphase
    cases Option.some.inj hphase
  · rintro accepted knownIds attempt feedbacks hphase hlisted - feedback hfeedback -
    obtain ⟨rfl, rfl, -⟩ := Phase.polling.inj (Option.some.inj hphase)
    obtain rfl := Choice.listed.inj hlisted
    obtain rfl := List.mem_singleton.mp hfeedback
    exact List.mem_singleton_self _

/-- The snapshot fails, and the older feedback is reported for a write that has none yet. -/
theorem older_feedback_reported :
    ¬ Along (Processes.next (step id 15)) (Attributed id 15)
      (start [olderFeedback] [] [saveArticle])
      [(1, .failed "ReadTimeout"), (1, .accepted 200 .null), (1, .listed [olderFeedback])] := by
  rintro ⟨-, -, hattributed, -⟩
  obtain ⟨feedback, hfeedback, -, hwrite, -⟩ :=
    hattributed ⟨saveArticle, 0, 200, .null⟩ [] 0 _ 1 rfl rfl rfl
  obtain rfl := List.mem_singleton.mp hfeedback
  cases hwrite

end WmsFeedback

end IntegrationPlatform
