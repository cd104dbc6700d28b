import IntegrationPlatform.Transactions.Processes
import IntegrationPlatform.Webhooks.Ingestion

/-!
# Deliveries of one webhook at the same time

The deliveries of webhooks with one dedup key within the dedup window, step by step: each looks for
the mark, and then flushes its row, sets the mark and commits. Deliveries that overlap may all find
no mark, and a mark stays when the commit fails. `intake_once` is about the runs in which neither
happens.
-/

namespace IntegrationPlatform

namespace Webhooks

namespace Intake

/-! ## Steps -/

/-- A delivery with this key that has passed. -/
structure Webhook (key : String) where
  delivery : Delivery
  payload : Value
  sigValid : Option Bool
  externalId : Option String
  hasKey : Service.key delivery externalId = some key

/-- The row of the delivery. -/
def Webhook.row {key : String} (webhook : Webhook key) : WebhookEvent :=
  Service.row webhook.delivery webhook.payload webhook.sigValid webhook.externalId

/-- Where a delivery is. -/
inductive Phase (key : String) where
  | waiting (webhook : Webhook key)
  /-- No mark has been found. -/
  | unseen (webhook : Webhook key)
  /-- The row has been flushed. -/
  | flushed (webhook : Webhook key)
  /-- The mark has been set. -/
  | marked (webhook : Webhook key)
  /-- The row is committed, and the answer is `accepted`. -/
  | accepted
  /-- The commit of the row has failed. -/
  | lost
  /-- The mark has been found. -/
  | duplicate
  /-- The answer is `duplicate`. -/
  | answered
  /-- The commit has failed, without a row. -/
  | failed

variable {key : String}

/-- No mark was found for the delivery. -/
def Phase.admitted : Phase key → Bool
  | .unseen _ => true
  | .flushed _ => true
  | .marked _ => true
  | .accepted => true
  | .lost => true
  | _ => false

/-- The delivery is between the look for the mark and the mark. -/
def Phase.unmarked : Phase key → Bool
  | .unseen _ => true
  | .flushed _ => true
  | _ => false

/-- The commit of the row of the delivery has failed. -/
def Phase.isLost : Phase key → Bool
  | .lost => true
  | _ => false

/-- The delivery is not under way. -/
def Phase.finished : Phase key → Bool
  | .waiting _ => true
  | .accepted => true
  | .lost => true
  | .answered => true
  | .failed => true
  | _ => false

/-- The marks and the committed rows, whether a commit has failed, and whether a delivery has been
received after that. -/
structure Records where
  intake : Intake
  failed : Bool
  redelivered : Bool

/-- What decides a step: its instant, and whether the commit succeeds. -/
structure Choice where
  instant : Rat
  commits : Bool

/-- The next step of a delivery. -/
def step (records : Records) (phase : Phase key) (choice : Choice) : Option (Records × Phase key) :=
  match phase with
  | .waiting webhook =>
      let records := { records with redelivered := records.redelivered || records.failed }
      if Service.checkDedup records.intake.redis choice.instant key then some (records, .duplicate)
      else some (records, .unseen webhook)
  | .unseen webhook => some (records, .flushed webhook)
  | .flushed webhook =>
      some ({ records with
        intake.redis := Service.markDedup records.intake.redis choice.instant key }, .marked webhook)
  | .marked webhook =>
      if choice.commits then
        some ({ records with
          intake.events := records.intake.events ++ [webhook.row] }, .accepted)
      else some ({ records with failed := true }, .lost)
  | .duplicate =>
      if choice.commits then some (records, .answered)
      else some ({ records with failed := true }, .failed)
  | _ => none

/-- The deliveries before the first of them is received. -/
def initial (intake : Intake) (webhooks : List (Webhook key)) : Processes Records (Phase key) :=
  ⟨⟨intake, false, false⟩, webhooks.map .waiting⟩

/-- The step is within the dedup window. -/
def within (opened : Rat) (choice : Choice) : Bool :=
  decide (opened ≤ choice.instant ∧ choice.instant < opened + dedupTtl)

/-- A delivery is received only while no other one is between the look for the mark and the mark,
and if no commit of a row has failed. The commit of a row fails only if no delivery has been
received after a failed commit. -/
def permits (deliveries : Processes Records (Phase key)) (choice : Choice) : Phase key → Bool
  | .waiting _ => deliveries.phases.all fun phase => !phase.unmarked && !phase.isLost
  | .marked _ => choice.commits || !deliveries.shared.redelivered
  | _ => true

/-- The step is within the window and permitted. -/
def careful (opened : Rat) (deliveries : Processes Records (Phase key)) (id : Nat) (choice : Choice) :
    Bool :=
  within opened choice && deliveries.phases[id]?.all (permits deliveries choice)

/-- The number of rows with a key. -/
def copies (key : String) (events : List WebhookEvent) : Nat :=
  events.countP fun event => event.key = some key

/-- If a delivery is accepted, or one is received after a failed one, there is one row at the end. -/
def Once (deliveries : Processes Records (Phase key)) : Prop :=
  (∀ phase ∈ deliveries.phases, phase.finished = true) →
    .accepted ∈ deliveries.phases ∨ deliveries.shared.redelivered = true →
      copies key deliveries.shared.intake.events = 1

/-! ## One delivery is admitted -/

/-- What a look for the mark finds within the window. -/
def MarkIs (key : String) (opened : Rat) (intake : Intake) (found : Bool) : Prop :=
  ∀ instant, opened ≤ instant → instant < opened + dedupTtl →
    Service.checkDedup intake.redis instant key = found

/-- What the delivery that was admitted stands for. -/
def Stands (opened : Rat) (records : Records) : Phase key → Prop
  | .unseen _ => MarkIs key opened records.intake false ∧ copies key records.intake.events = 0
  | .flushed _ => MarkIs key opened records.intake false ∧ copies key records.intake.events = 0
  | .marked _ => MarkIs key opened records.intake true ∧ copies key records.intake.events = 0
  | .accepted => MarkIs key opened records.intake true ∧ copies key records.intake.events = 1
  | .lost => MarkIs key opened records.intake true ∧ records.redelivered = false
  | _ => False

/-- No delivery has been received, or only one was admitted. -/
inductive Orderly (opened : Rat) (deliveries : Processes Records (Phase key)) : Prop where
  | before (hwaiting : ∀ phase ∈ deliveries.phases, ∃ webhook, phase = .waiting webhook)
      (hmark : MarkIs key opened deliveries.shared.intake false)
      (hrows : copies key deliveries.shared.intake.events = 0)
      (hfailed : deliveries.shared.failed = false)
      (hredelivered : deliveries.shared.redelivered = false)
  | sole (id : Nat) (phase : Phase key) (hphase : deliveries.At id phase)
      (hstands : Stands opened deliveries.shared phase)
      (hothers : deliveries.Others (fun phase => !phase.admitted) id)

variable {opened : Rat} {records : Records} {phase : Phase key}

theorem Stands.admitted (h : Stands opened records phase) :
    phase.admitted = true := by
  cases phase with
  | waiting _ => exact h.elim
  | duplicate => exact h.elim
  | answered => exact h.elim
  | failed => exact h.elim
  | _ => rfl

theorem Stands.received (h : Stands opened records phase)
    (hclear : (!phase.unmarked && !phase.isLost) = true) :
    MarkIs key opened records.intake true ∧
      ∀ redelivered, Stands opened { records with redelivered } phase := by
  cases phase with
  | marked _ => exact ⟨h.1, fun _ => h⟩
  | accepted => exact ⟨h.1, fun _ => h⟩
  | unseen _ => cases hclear
  | flushed _ => cases hclear
  | lost => cases hclear
  | _ => exact h.elim

theorem Stands.fail (h : Stands opened records phase) :
    Stands opened { records with failed := true } phase := by
  cases phase <;> exact h

theorem markIs_markDedup {intake : Intake} {instant : Rat} (hopened : opened ≤ instant) :
    MarkIs key opened { intake with redis := Service.markDedup intake.redis instant key } true := by
  intro later _ hlater
  have hlive : later < instant + dedupTtl := hlater.trans_le (add_le_add_left hopened dedupTtl)
  exact (checkDedup_markDedup intake.redis instant later key).mpr hlive

theorem copies_append (events : List WebhookEvent) (webhook : Webhook key) :
    copies key (events ++ [webhook.row]) = copies key events + 1 := by
  have hkey : webhook.row.key = some key := webhook.hasKey
  simp [copies, List.countP_append, hkey]

variable {deliveries : Processes Records (Phase key)} {records : Records} {id : Nat} {choice : Choice}
  {phase phase' : Phase key}

theorem orderly_first (hwaiting : ∀ phase ∈ deliveries.phases, ∃ webhook, phase = .waiting webhook)
    (hmark : MarkIs key opened deliveries.shared.intake false)
    (hrows : copies key deliveries.shared.intake.events = 0) (hopened : opened ≤ choice.instant)
    (hinstant : choice.instant < opened + dedupTtl) (hphase : deliveries.At id phase)
    (hstep : step deliveries.shared phase choice = some (records, phase')) :
    Orderly opened ⟨records, deliveries.phases.set id phase'⟩ := by
  obtain ⟨webhook, rfl⟩ := hwaiting phase (List.mem_of_getElem? hphase)
  simp only [step, hmark choice.instant hopened hinstant] at hstep
  cases hstep
  refine .sole id _ (hphase.set _) ⟨hmark, hrows⟩ ?_
  have hothers : deliveries.Others (fun phase => !phase.admitted) id := by
    intro other found _ hfound
    obtain ⟨webhook, rfl⟩ := hwaiting found (List.mem_of_getElem? hfound)
    rfl
  exact hothers.set _

theorem orderly_sole (hpermits : permits deliveries choice phase = true)
    (hopened : opened ≤ choice.instant) (hphase : deliveries.At id phase)
    (hstands : Stands opened deliveries.shared phase)
    (hothers : deliveries.Others (fun phase => !phase.admitted) id)
    (hstep : step deliveries.shared phase choice = some (records, phase')) :
    Orderly opened ⟨records, deliveries.phases.set id phase'⟩ := by
  suffices hstands' : Stands opened records phase' from
    .sole id phase' (hphase.set _) hstands' (hothers.set _)
  cases phase with
  | unseen webhook =>
      cases hstep
      exact hstands
  | flushed webhook =>
      cases hstep
      exact ⟨markIs_markDedup hopened, hstands.2⟩
  | marked webhook =>
      -- The mark is set before the commit, and stays if the commit fails.
      by_cases hcommits : choice.commits = true
      · simp only [step, hcommits, if_true] at hstep
        cases hstep
        refine ⟨hstands.1, ?_⟩
        rw [copies_append, hstands.2]
      · simp only [step, hcommits] at hstep
        cases hstep
        have hredelivered : deliveries.shared.redelivered = false := by
          simpa [permits, hcommits] using hpermits
        exact ⟨hstands.1, hredelivered⟩
  | accepted => cases hstep
  | lost => cases hstep
  | _ => exact hstands.elim

theorem orderly_other {sole : Nat} {admitted : Phase key} (hsole : deliveries.At sole admitted)
    (hstands : Stands opened records admitted)
    (hothers : deliveries.Others (fun phase => !phase.admitted) sole) (hphase : deliveries.At id phase)
    (hne : sole ≠ id) (hphase' : phase'.admitted = false) :
    Orderly opened ⟨records, deliveries.phases.set id phase'⟩ := by
  refine .sole sole admitted ((Processes.at_set_of_ne hne).mpr hsole) hstands ?_
  intro other found hother hfound
  obtain ⟨-, rfl⟩ | ⟨-, hold⟩ := hphase.of_set hfound
  · simp [hphase']
  · exact hothers other found hother hold

theorem Orderly.step (h : Orderly opened deliveries)
    (hcareful : careful opened deliveries id choice = true) (hphase : deliveries.At id phase)
    (hstep : step deliveries.shared phase choice = some (records, phase')) :
    Orderly opened ⟨records, deliveries.phases.set id phase'⟩ := by
  obtain ⟨hwithin, hmeets⟩ := (Bool.and_eq_true _ _).mp hcareful
  obtain ⟨hopened, hinstant⟩ := of_decide_eq_true hwithin
  have hpermits : permits deliveries choice phase = true := by
    rw [show deliveries.phases[id]? = some phase from hphase] at hmeets
    exact hmeets
  cases h with
  | before hwaiting hmark hrows hfailed hredelivered =>
      exact orderly_first hwaiting hmark hrows hopened hinstant hphase hstep
  | sole sole admitted hsole hstands hothers =>
      by_cases hid : sole = id
      · subst hid
        obtain rfl := Option.some.inj (hsole.symm.trans hphase)
        exact orderly_sole hpermits hopened hphase hstands hothers hstep
      · have hquiet := hothers id phase (Ne.symm hid) hphase
        cases phase with
        | waiting webhook =>
            -- Another delivery finds the mark, and is a duplicate.
            have hclear := List.all_eq_true.mp hpermits admitted (List.mem_of_getElem? hsole)
            obtain ⟨hmark, hreceived⟩ := hstands.received hclear
            simp only [Intake.step, hmark choice.instant hopened hinstant] at hstep
            cases hstep
            exact orderly_other hsole (hreceived _) hothers hphase hid rfl
        | duplicate =>
            by_cases hcommits : choice.commits = true
            · simp only [Intake.step, hcommits, if_true] at hstep
              cases hstep
              exact orderly_other hsole hstands hothers hphase hid rfl
            · simp only [Intake.step, hcommits] at hstep
              cases hstep
              exact orderly_other hsole hstands.fail hothers hphase hid rfl
        | answered => cases hstep
        | failed => cases hstep
        | _ => cases hquiet

theorem orderly_run {intake : Intake} {webhooks : List (Webhook key)}
    (hmark : MarkIs key opened intake false) (hrows : copies key intake.events = 0)
    (h : Processes.Run step (careful opened) (initial intake webhooks) deliveries) :
    Orderly opened deliveries := by
  refine h.invariant (.before ?_ hmark hrows rfl rfl) ?_
  · intro phase hphase
    obtain ⟨webhook, _, rfl⟩ := List.mem_map.mp hphase
    exact ⟨webhook, rfl⟩
  · intro before id choice phase records phase' horderly hcareful hphase hstep
    exact horderly.step hcareful hphase hstep

theorem Orderly.once (h : Orderly opened deliveries) : Once deliveries := by
  intro hfinished hanswer
  cases h with
  | before hwaiting hmark hrows hfailed hredelivered =>
      obtain haccepted | hagain := hanswer
      · obtain ⟨_, hphase⟩ := hwaiting _ haccepted
        cases hphase
      · rw [hredelivered] at hagain
        cases hagain
  | sole id phase hphase hstands hothers =>
      have hdone := hfinished phase (List.mem_of_getElem? hphase)
      cases phase with
      | accepted => exact hstands.2
      | lost =>
          obtain haccepted | hagain := hanswer
          · obtain ⟨other, hother⟩ := List.mem_iff_getElem?.mp haccepted
            by_cases hid : other = id
            · subst hid
              cases Option.some.inj (hother.symm.trans hphase)
            · cases hothers other _ hid hother
          · rw [hstands.2] at hagain
            cases hagain
      | unseen _ => cases hdone
      | flushed _ => cases hdone
      | marked _ => cases hdone
      | _ => exact hstands.elim

/-- In careful runs within the dedup window, one row is committed at the end if some delivery is
accepted or one is received after a failed one. -/
theorem intake_once {intake : Intake} {webhooks : List (Webhook key)}
    (hmark : MarkIs key opened intake false) (hrows : copies key intake.events = 0)
    (h : Processes.Run step (careful opened) (initial intake webhooks) deliveries) :
    Once deliveries :=
  (orderly_run hmark hrows h).once

/-- A delivery whose steps come one after the other at its instant is that of `ingest_webhook`. -/
theorem play_eq_accept {webhook : Webhook key} (hphase : deliveries.At id (.waiting webhook)) :
    ∃ number deliveries',
      deliveries.play step (fun _ _ _ => true)
          (List.replicate number (id, ⟨webhook.delivery.instant, true⟩)) = some deliveries' ∧
        deliveries'.shared.intake = (Service.accept webhook.delivery deliveries.shared.intake
          webhook.payload webhook.sigValid webhook.externalId).2 ∧
        (deliveries'.At id .accepted ∨ deliveries'.At id .answered) := by
  by_cases hseen : Service.checkDedup deliveries.shared.intake.redis webhook.delivery.instant key = true
  · refine ⟨2, ?_⟩
    rw [List.replicate, Processes.play_cons hphase rfl (if_pos hseen), List.replicate,
      Processes.play_cons (hphase.set _) rfl rfl]
    refine ⟨_, rfl, ?_, .inr ((hphase.set _).set _)⟩
    simp only [Service.accept, webhook.hasKey, hseen, if_true]
  · refine ⟨4, ?_⟩
    rw [List.replicate, Processes.play_cons hphase rfl (if_neg hseen), List.replicate,
      Processes.play_cons (hphase.set _) rfl rfl, List.replicate,
      Processes.play_cons ((hphase.set _).set _) rfl rfl, List.replicate,
      Processes.play_cons (((hphase.set _).set _).set _) rfl rfl]
    refine ⟨_, rfl, ?_, .inl ((((hphase.set _).set _).set _).set _)⟩
    simp only [Service.accept, webhook.hasKey, hseen]
    rfl

/-! ## Samples -/

namespace Sample

def orderCreated : Webhook "webhook:dedup:shop:order.created:7" where
  delivery :=
    { connectorName := "shop"
      eventType := "order.created"
      body := .empty
      headers := [("x-webhook-id", "7")]
      tenantId := "tenant"
      instant := 0
      webhookId := "event" }
  payload := .dict []
  sigValid := none
  externalId := some "7"
  hasKey := by decide

def twice : Processes Records (Phase "webhook:dedup:shop:order.created:7") :=
  initial .empty [orderCreated, orderCreated]

def go (id : Nat) : Nat × Choice := (id, ⟨0, true⟩)

def fail (id : Nat) : Nat × Choice := (id, ⟨0, false⟩)

/-- What a state is about: the phases, the number of rows and whether there was a redelivery. -/
def summary (deliveries : Processes Records (Phase "webhook:dedup:shop:order.created:7")) :
    List (Phase "webhook:dedup:shop:order.created:7") × Nat × Bool :=
  (deliveries.phases, copies "webhook:dedup:shop:order.created:7" deliveries.shared.intake.events,
    deliveries.shared.redelivered)

end Sample

/-- The second delivery comes between the mark and the commit of the first one. -/
theorem intake_once_twice : ∃ deliveries,
    Sample.twice.play step (careful 0) ([0, 0, 0, 1, 0, 1].map Sample.go) = some deliveries ∧
      deliveries.phases = [.accepted, .answered] ∧ Once deliveries := by
  have hsummary : (Sample.twice.play step (careful 0) ([0, 0, 0, 1, 0, 1].map Sample.go)).map
      Sample.summary = some ([.accepted, .answered], 1, false) := by with_unfolding_all rfl
  obtain ⟨deliveries, hplay, hdeliveries⟩ := Option.map_eq_some_iff.mp hsummary
  exact ⟨deliveries, hplay, congrArg Prod.fst hdeliveries,
    intake_once (fun _ _ _ => rfl) rfl (Processes.Run.start.play hplay)⟩

/-- Two deliveries that both look for the mark before one of them sets it are both accepted; and a
delivery that follows one whose commit has failed finds its mark. -/
theorem intake_not_once :
    (∃ deliveries, Processes.Run step (fun _ _ choice => within 0 choice) Sample.twice deliveries ∧
      .accepted ∈ deliveries.phases ∧ ¬ Once deliveries) ∧
    ∃ deliveries, Processes.Run step (fun _ _ choice => within 0 choice) Sample.twice deliveries ∧
      deliveries.shared.redelivered = true ∧ ¬ Once deliveries := by
  constructor
  · have hsummary : (Sample.twice.play step (fun _ _ choice => within 0 choice)
        ([0, 1, 0, 1, 0, 1, 0, 1].map Sample.go)).map Sample.summary =
          some ([.accepted, .accepted], 2, false) := by with_unfolding_all rfl
    obtain ⟨deliveries, hplay, hdeliveries⟩ := Option.map_eq_some_iff.mp hsummary
    have hphases : deliveries.phases = [.accepted, .accepted] := congrArg Prod.fst hdeliveries
    have hrows : copies _ deliveries.shared.intake.events = 2 :=
      congrArg (fun summary => summary.2.1) hdeliveries
    have haccepted : .accepted ∈ deliveries.phases := by simp [hphases]
    refine ⟨deliveries, Processes.Run.start.play hplay, haccepted, fun honce => ?_⟩
    have hone := honce (by simp [hphases, Phase.finished]) (.inl haccepted)
    rw [hrows] at hone
    cases hone
  · have hsummary : (Sample.twice.play step (fun _ _ choice => within 0 choice)
        ([0, 0, 0].map Sample.go ++ [Sample.fail 0, Sample.go 1, Sample.go 1])).map Sample.summary =
          some ([.lost, .answered], 0, true) := by with_unfolding_all rfl
    obtain ⟨deliveries, hplay, hdeliveries⟩ := Option.map_eq_some_iff.mp hsummary
    have hphases : deliveries.phases = [.lost, .answered] := congrArg Prod.fst hdeliveries
    have hrows : copies _ deliveries.shared.intake.events = 0 :=
      congrArg (fun summary => summary.2.1) hdeliveries
    have hagain : deliveries.shared.redelivered = true :=
      congrArg (fun summary => summary.2.2) hdeliveries
    refine ⟨deliveries, Processes.Run.start.play hplay, hagain, fun honce => ?_⟩
    have hone := honce (by simp [hphases, Phase.finished]) (.inr hagain)
    rw [hrows] at hone
    cases hone

end Intake

end Webhooks

end IntegrationPlatform
