import IntegrationPlatform.Transactions.Histories
import Mathlib.Data.List.Basic

/-!
# The poller of SkanujFakture

A poll lists the scanned documents of an account and publishes those that are not recorded yet, to Kafka
and to the platform. A delivery that is refused leaves its document for the next poll, but one that raises
ends the loop. `independent_iff` says in which sequences of polls every document is delivered independently
of the others.
-/

namespace IntegrationPlatform

namespace SkanujFakture

/-! ## A poll -/

/-- What becomes of the request to the platform. -/
inductive PlatformReply where
  | accepted
  | refused
  | unreachable
deriving DecidableEq

/-- A listed document, and how its delivery fares: whether Kafka takes it, what the platform answers, and
whether its id can be stored. -/
structure Document where
  id : Option Int
  kafka : Bool
  platform : PlatformReply
  stored : Bool

/-- Whether there is a producer for Kafka, and `platform_event_notify`. -/
structure Config where
  kafka : Bool
  platformEventNotify : Bool

/-- How a call ends. -/
inductive Published where
  | raised
  | returned (success : Bool)

def notifyPlatform (reply : PlatformReply) : Bool :=
  reply = .accepted

def publishDocumentEvent (config : Config) (document : Document) : Published :=
  if config.kafka && !document.kafka then .raised
  else if config.platformEventNotify then .returned (notifyPlatform document.platform)
  else .returned true

/-- What happens to a document in a poll. -/
inductive Event where
  | attempted (id : Int)
  | delivered (id : Int)
  | recorded (id : Int)
deriving DecidableEq

/-- The loop over the new documents. -/
def publishAll (config : Config) : List Document → List Event
  | [] => []
  | document :: rest =>
      match document.id with
      | none => publishAll config rest
      | some id =>
          .attempted id ::
            match publishDocumentEvent config document with
            | .raised => []
            | .returned false => publishAll config rest
            | .returned true =>
                .delivered id :: if document.stored then .recorded id :: publishAll config rest else []

/-- A poll of an account: the documents, if they can be listed, and whether the recorded ids can be
read. -/
structure Poll where
  account : String
  listing : Option (List Document)
  readable : Bool

/-- The table `known_documents`, and what has happened so far. -/
structure State where
  known : List (String × Int) := []
  log : List (String × Event) := []

def State.loadKnownDocumentIds (state : State) (account : String) : List Int :=
  (state.known.filter fun row => row.1 = account).map Prod.snd

def saveDocumentId (account : String) (known : List (String × Int)) : Event → List (String × Int)
  | .recorded id => if (account, id) ∈ known then known else known ++ [(account, id)]
  | _ => known

/-- The listed documents whose ids are not known. -/
def newDocs (knownIds : List Int) (documents : List Document) : List Document :=
  documents.filter fun document => document.id.all (· ∉ knownIds)

/-- What happens in a poll. -/
def events (config : Config) (state : State) (poll : Poll) : List Event :=
  match poll.listing with
  | none => []
  | some documents =>
      if poll.readable then
        publishAll config (newDocs (state.loadKnownDocumentIds poll.account) documents)
      else []

def pollAccount (config : Config) (state : State) (poll : Poll) : State where
  known := (events config state poll).foldl (saveDocumentId poll.account) state.known
  log := state.log ++ (events config state poll).map (Prod.mk poll.account)

/-- The state after some polls. -/
def run (config : Config) (polls : List Poll) : State :=
  polls.foldl (pollAccount config) {}

/-! ## Independence -/

/-- A poll whose listing succeeds attempts every listed document that is not recorded. -/
def Attempts (config : Config) (state : State) (poll : Poll) : Prop :=
  ∀ documents, poll.listing = some documents → ∀ document ∈ documents, ∀ id, document.id = some id →
    (poll.account, id) ∉ state.known → .attempted id ∈ events config state poll

/-- A document is recorded directly after its own delivery. -/
def RecordedDelivered (log : List (String × Event)) : Prop :=
  ∀ before after account id, log = before ++ (account, .recorded id) :: after →
    before.getLast? = some (account, .delivered id)

/-- A document that is recorded is not published again. -/
def NeverAgain (log : List (String × Event)) : Prop :=
  log.Pairwise fun entry later => ∀ id, entry.2 = .recorded id → later ≠ (entry.1, .attempted id)

/-- In some polls, documents are delivered independently of each other. -/
structure Independent (config : Config) (polls : List Poll) : Prop where
  attempts : Along (pollAccount config) (Attempts config) {} polls
  delivered : RecordedDelivered (run config polls).log
  once : NeverAgain (run config polls).log

/-! ## The condition -/

/-- The id of a document gets recorded if its turn comes. -/
def Records (config : Config) (document : Document) : Bool :=
  !(config.kafka && !document.kafka) &&
    (!config.platformEventNotify || document.platform = .accepted) && document.stored

/-- The turn of a document ends the loop: Kafka does not take it, or its id cannot be stored. -/
def Raises (config : Config) (document : Document) : Bool :=
  document.id.isSome &&
    (config.kafka && !document.kafka ||
      (!config.platformEventNotify || document.platform = .accepted) && !document.stored)

/-- The documents up to the first one that ends the loop. -/
def reached (config : Config) : List Document → List Document
  | [] => []
  | document :: rest =>
      document :: if Raises config document then [] else reached config rest

/-- What a poll needs to deliver its documents independently: the recorded ids can be read if there is a
new document, an id that is new is listed up to the first document that raises, and no id is listed again,
up to there, after a document that gets recorded. -/
structure Fine (config : Config) (state : State) (poll : Poll) : Prop where
  readable : ∀ documents, poll.listing = some documents → poll.readable = false →
    ∀ document ∈ newDocs (state.loadKnownDocumentIds poll.account) documents, document.id = none
  inTurn : ∀ documents, poll.listing = some documents → poll.readable = true →
    ∀ document ∈ newDocs (state.loadKnownDocumentIds poll.account) documents, document.id.isSome →
      ∃ other ∈ reached config (newDocs (state.loadKnownDocumentIds poll.account) documents),
        other.id = document.id
  single : ∀ documents, poll.listing = some documents → poll.readable = true →
    (reached config (newDocs (state.loadKnownDocumentIds poll.account) documents)).Pairwise
      fun document later => document.id.isSome → Records config document = true →
        later.id ≠ document.id

section Polls

variable {config : Config} {state : State} {poll : Poll} {documents : List Document}

variable (config) in
/-- The three ways in which the turn of a document with an id ends. -/
theorem publishAll_cons {document : Document} {id : Int} (hid : document.id = some id)
    (rest : List Document) :
    Raises config document = true ∧
        (publishAll config (document :: rest) = [.attempted id] ∨
          publishAll config (document :: rest) = [.attempted id, .delivered id]) ∧
        Records config document = false ∨
      Raises config document = false ∧ Records config document = false ∧
        publishAll config (document :: rest) = .attempted id :: publishAll config rest ∨
      Raises config document = false ∧ Records config document = true ∧
        publishAll config (document :: rest) =
          .attempted id :: .delivered id :: .recorded id :: publishAll config rest := by
  unfold Raises Records
  rw [publishAll, hid]
  unfold publishDocumentEvent notifyPlatform
  cases config.kafka <;> cases document.kafka <;> cases config.platformEventNotify <;>
    cases document.stored <;> cases document.platform <;> simp

variable (config) in
theorem publishAll_none {document : Document} (hid : document.id = none) (rest : List Document) :
    Raises config document = false ∧ publishAll config (document :: rest) = publishAll config rest := by
  unfold Raises
  rw [publishAll, hid]
  exact ⟨rfl, rfl⟩

theorem attempted_mem {id : Int} : .attempted id ∈ publishAll config documents ↔
    ∃ document ∈ reached config documents, document.id = some id := by
  induction documents with
  | nil => simp [publishAll, reached]
  | cons document rest ih =>
      cases hid : document.id with
      | none =>
          obtain ⟨hraises, hevents⟩ := publishAll_none config hid rest
          rw [hevents, ih, reached, hraises]
          simp [hid]
      | some id' =>
          rcases publishAll_cons config hid rest with
            ⟨hraises, hevents, -⟩ | ⟨hraises, -, hevents⟩ | ⟨hraises, -, hevents⟩
          · rw [reached, hraises]
            rcases hevents with hevents | hevents <;> simp [hevents, hid, eq_comm]
          · rw [hevents, reached, hraises]
            simp [ih, hid, eq_comm]
          · rw [hevents, reached, hraises]
            simp [ih, hid, eq_comm]

/-- No document is attempted after it has been recorded. -/
def Once (events : List Event) : Prop :=
  events.Pairwise fun event later => ∀ id, event = .recorded id → later ≠ .attempted id

theorem once_publishAll : Once (publishAll config documents) ↔
    (reached config documents).Pairwise fun document later =>
      document.id.isSome → Records config document = true → later.id ≠ document.id := by
  unfold Once
  induction documents with
  | nil => simp [publishAll, reached]
  | cons document rest ih =>
      cases hid : document.id with
      | none =>
          obtain ⟨hraises, hevents⟩ := publishAll_none config hid rest
          rw [hevents, ih, reached, hraises]
          simp [hid]
      | some id =>
          rcases publishAll_cons config hid rest with
            ⟨hraises, hevents, -⟩ | ⟨hraises, hrecords, hevents⟩ | ⟨hraises, hrecords, hevents⟩
          · rw [reached, hraises]
            rcases hevents with hevents | hevents <;> simp [hevents]
          · rw [hevents, reached, hraises]
            simp [ih, hrecords]
          · rw [hevents, reached, hraises]
            have hlater : (∀ later ∈ publishAll config rest, later ≠ .attempted id) ↔
                ∀ document ∈ reached config rest, document.id ≠ some id := by
              constructor
              · intro h document hdocument hsame
                exact h _ (attempted_mem.mpr ⟨document, hdocument, hsame⟩) rfl
              · rintro h _ hlater rfl
                obtain ⟨document, hdocument, hsame⟩ := attempted_mem.mp hlater
                exact h document hdocument hsame
            simp [ih, hrecords, hid, hlater]

theorem mem_newDocs {account : String} {document : Document} {id : Int} (hid : document.id = some id) :
    document ∈ newDocs (state.loadKnownDocumentIds account) documents ↔
      document ∈ documents ∧ (account, id) ∉ state.known := by
  have hknown : id ∈ state.loadKnownDocumentIds account ↔ (account, id) ∈ state.known := by
    unfold State.loadKnownDocumentIds
    simp
  unfold newDocs
  rw [List.mem_filter, hid, ← hknown]
  simp

theorem reached_subset : reached config documents ⊆ documents := by
  induction documents with
  | nil => exact List.Subset.refl _
  | cons document rest ih =>
      rw [reached]
      split
      · exact List.cons_subset_cons _ (List.nil_subset _)
      · exact List.cons_subset_cons _ ih

theorem not_known_of_attempted {id : Int} (h : .attempted id ∈ events config state poll) :
    (poll.account, id) ∉ state.known := by
  unfold events at h
  split at h
  · cases h
  · split at h
    · obtain ⟨document, hdocument, hid⟩ := attempted_mem.mp h
      exact ((mem_newDocs hid).mp (reached_subset hdocument)).2
    · cases h

/-- A poll attempts everything and publishes nothing twice exactly if it is fine. -/
theorem attempts_once_iff : Attempts config state poll ∧ Once (events config state poll) ↔
    Fine config state poll := by
  cases hlisting : poll.listing with
  | none =>
      have hevents : events config state poll = [] := by
        unfold events
        rw [hlisting]
      refine iff_of_true ⟨fun documents h => ?_, ?_⟩ ⟨fun documents h => ?_, fun documents h => ?_,
        fun documents h => ?_⟩
      · cases hlisting.symm.trans h
      · rw [hevents]
        exact .nil
      all_goals cases hlisting.symm.trans h
  | some documents =>
      have hdocuments : ∀ {documents' : List Document}, poll.listing = some documents' →
          documents' = documents := fun h => Option.some.inj (h.symm.trans hlisting)
      -- The recorded ids are read before the new documents are known.
      cases hreadable : poll.readable with
      | false =>
          have hevents : events config state poll = [] := by
            unfold events
            rw [hlisting, hreadable]
            rfl
          constructor
          · rintro ⟨hattempts, -⟩
            refine ⟨fun documents' h _ document hdocument => ?_, fun _ _ h => ?_, fun _ _ h => ?_⟩
            · obtain rfl := hdocuments h
              cases hid : document.id with
              | none => rfl
              | some id =>
                  obtain ⟨hmem, hnot⟩ := (mem_newDocs hid).mp hdocument
                  have hattempted := hattempts documents' h document hmem id hid hnot
                  rw [hevents] at hattempted
                  cases hattempted
            · cases hreadable.symm.trans h
            · cases hreadable.symm.trans h
          · intro hfine
            refine ⟨fun documents' h document hmem id hid hnot => ?_, ?_⟩
            · have hnone := hfine.readable documents' h hreadable document
                ((mem_newDocs hid).mpr ⟨hmem, hnot⟩)
              cases hid.symm.trans hnone
            · rw [hevents]
              exact .nil
      | true =>
          have hevents : events config state poll =
              publishAll config (newDocs (state.loadKnownDocumentIds poll.account) documents) := by
            unfold events
            rw [hlisting, hreadable]
            rfl
          rw [hevents, once_publishAll]
          constructor
          · rintro ⟨hattempts, honce⟩
            refine ⟨fun _ _ h => ?_, fun documents' h _ document hdocument hsome => ?_,
              fun documents' h _ => ?_⟩
            · cases hreadable.symm.trans h
            · obtain rfl := hdocuments h
              obtain ⟨id, hid⟩ := Option.isSome_iff_exists.mp hsome
              obtain ⟨hmem, hnot⟩ := (mem_newDocs hid).mp hdocument
              have hattempted := hattempts documents' h document hmem id hid hnot
              rw [hevents] at hattempted
              obtain ⟨other, hother, hsame⟩ := attempted_mem.mp hattempted
              exact ⟨other, hother, hsame.trans hid.symm⟩
            · obtain rfl := hdocuments h
              exact honce
          · intro hfine
            refine ⟨fun documents' h document hmem id hid hnot => ?_,
              hfine.single documents hlisting hreadable⟩
            obtain rfl := hdocuments h
            obtain ⟨other, hother, hsame⟩ := hfine.inTurn documents' h hreadable document
              ((mem_newDocs hid).mpr ⟨hmem, hnot⟩) (hid ▸ rfl)
            rw [hevents]
            exact attempted_mem.mpr ⟨other, hother, hsame.trans hid⟩

end Polls

/-! ## Runs -/

section Runs

variable {config : Config} {state : State} {poll : Poll} {log log' : List (String × Event)}

theorem RecordedDelivered.cons {entry : String × Event} (hentry : ∀ id, entry.2 ≠ .recorded id)
    (h : RecordedDelivered log) : RecordedDelivered (entry :: log) := by
  intro before after account id hlog
  cases before with
  | nil =>
      obtain ⟨rfl, -⟩ := List.cons.inj hlog
      exact absurd rfl (hentry id)
  | cons first before =>
      obtain ⟨rfl, hrest⟩ := List.cons.inj hlog
      rw [List.getLast?_cons, h before after account id hrest]
      rfl

theorem RecordedDelivered.delivery (account : String) (id : Int) (h : RecordedDelivered log) :
    RecordedDelivered ((account, .delivered id) :: (account, .recorded id) :: log) := by
  rintro (_ | ⟨first, _ | ⟨second, before⟩⟩) after account' id' hlog
  · cases hlog
  · cases hlog
    rfl
  · obtain ⟨-, hsecond⟩ := List.cons.inj hlog
    obtain ⟨-, hrest⟩ := List.cons.inj hsecond
    rw [List.getLast?_cons, List.getLast?_cons, h before after account' id' hrest]
    rfl

theorem RecordedDelivered.append (h : RecordedDelivered log) (h' : RecordedDelivered log') :
    RecordedDelivered (log ++ log') := by
  intro before after account id hlog
  rcases List.append_eq_append_iff.mp hlog with ⟨middle, rfl, hmiddle⟩ | ⟨middle, rfl, hmiddle⟩
  · rw [List.getLast?_append, h' middle after account id hmiddle]
    rfl
  · cases middle with
    | nil =>
        have hnone := h' [] after account id hmiddle.symm
        cases hnone
    | cons first middle =>
        obtain ⟨rfl, -⟩ := List.cons.inj hmiddle
        exact h before middle account id rfl

variable (config) in
theorem recordedDelivered_publishAll (account : String) (documents : List Document) :
    RecordedDelivered ((publishAll config documents).map (Prod.mk account)) := by
  have hnil : RecordedDelivered [] := by
    rintro (_ | ⟨first, before⟩) after account id hlog <;> cases hlog
  have hattempted : ∀ id' id, ((account, .attempted id') : String × Event).2 ≠ .recorded id :=
    fun _ _ h => nomatch h
  have hdelivered : ∀ id' id, ((account, .delivered id') : String × Event).2 ≠ .recorded id :=
    fun _ _ h => nomatch h
  induction documents with
  | nil => exact hnil
  | cons document rest ih =>
      cases hid : document.id with
      | none =>
          rw [(publishAll_none config hid rest).2]
          exact ih
      | some id =>
          rcases publishAll_cons config hid rest with
            ⟨-, hevents | hevents, -⟩ | ⟨-, -, hevents⟩ | ⟨-, -, hevents⟩
          · rw [hevents]
            exact hnil.cons (hattempted id)
          · rw [hevents]
            exact (hnil.cons (hdelivered id)).cons (hattempted id)
          · rw [hevents]
            exact ih.cons (hattempted id)
          · rw [hevents]
            exact (ih.delivery account id).cons (hattempted id)

theorem recordedDelivered_events :
    RecordedDelivered ((events config state poll).map (Prod.mk poll.account)) := by
  unfold events
  split
  · exact recordedDelivered_publishAll config poll.account []
  · split
    · exact recordedDelivered_publishAll config poll.account _
    · exact recordedDelivered_publishAll config poll.account []

/-- The table has the documents that have been recorded. -/
def Recorded (state : State) : Prop :=
  ∀ account id, (account, id) ∈ state.known ↔ (account, .recorded id) ∈ state.log

theorem mem_saveDocumentIds {account account' : String} {id : Int} {known : List (String × Int)}
    {events : List Event} : (account', id) ∈ events.foldl (saveDocumentId account) known ↔
      (account', id) ∈ known ∨ account' = account ∧ .recorded id ∈ events := by
  induction events generalizing known with
  | nil => simp
  | cons event events ih =>
      rw [List.foldl_cons, ih]
      cases event with
      | attempted => simp [saveDocumentId]
      | delivered => simp [saveDocumentId]
      | recorded id' =>
          have hsave : saveDocumentId account known (.recorded id') =
              if (account, id') ∈ known then known else known ++ [(account, id')] := rfl
          rw [hsave]
          split
          · next hmem =>
            constructor
            · rintro (h | ⟨h, h'⟩)
              · exact .inl h
              · exact .inr ⟨h, List.mem_cons_of_mem _ h'⟩
            · rintro (h | ⟨rfl, h⟩)
              · exact .inl h
              · rcases List.mem_cons.mp h with heq | h
                · obtain rfl := Event.recorded.inj heq
                  exact .inl hmem
                · exact .inr ⟨rfl, h⟩
          · simp only [List.mem_append, Prod.mk.injEq, List.mem_cons,
              Event.recorded.injEq]
            tauto

theorem Recorded.pollAccount (h : Recorded state) : Recorded (pollAccount config state poll) := by
  intro account id
  show (account, id) ∈ (events config state poll).foldl (saveDocumentId poll.account) state.known ↔
    (account, Event.recorded id) ∈ state.log ++ (events config state poll).map (Prod.mk poll.account)
  rw [mem_saveDocumentIds, h account id, List.mem_append, List.mem_map]
  simp only [Prod.mk.injEq, ↓existsAndEq, and_true]
  tauto

theorem neverAgain_pollAccount (h : Recorded state) : NeverAgain (pollAccount config state poll).log ↔
    NeverAgain state.log ∧ Once (events config state poll) := by
  show NeverAgain (state.log ++ (events config state poll).map (Prod.mk poll.account)) ↔ _
  unfold NeverAgain Once
  rw [List.pairwise_append, List.pairwise_map]
  have hcross : ∀ entry ∈ state.log, ∀ later ∈ (events config state poll).map (Prod.mk poll.account),
      ∀ id, entry.2 = .recorded id → later ≠ (entry.1, .attempted id) := by
    rintro ⟨account, event⟩ hentry later hlater id rfl rfl
    obtain ⟨event, hevent, heq⟩ := List.mem_map.mp hlater
    obtain ⟨haccount, rfl⟩ := Prod.mk.inj heq
    have haccount : poll.account = account := haccount
    subst haccount
    exact not_known_of_attempted hevent ((h _ id).mpr hentry)
  have hsame : (events config state poll).Pairwise (fun event later => ∀ id,
      (poll.account, event).2 = .recorded id →
        (poll.account, later) ≠ ((poll.account, event).1, Event.attempted id)) ↔
      (events config state poll).Pairwise
        fun event later => ∀ id, event = .recorded id → later ≠ .attempted id := by
    refine List.Pairwise.iff fun event later => forall₂_congr fun id hrecorded => ?_
    exact not_congr ⟨fun heq => (Prod.mk.inj heq).2, congrArg _⟩
  rw [hsame]
  exact ⟨fun h => ⟨h.1, h.2.1⟩, fun h => ⟨h.1, h.2, hcross⟩⟩

theorem neverAgain_foldl (h : Recorded state) (polls : List Poll) :
    NeverAgain (polls.foldl (pollAccount config) state).log ↔ NeverAgain state.log ∧
      Along (pollAccount config) (fun state poll => Once (events config state poll)) state polls := by
  induction polls generalizing state with
  | nil => exact (and_iff_left trivial).symm
  | cons poll polls ih =>
      rw [List.foldl_cons, ih h.pollAccount, neverAgain_pollAccount h, and_assoc]
      exact Iff.rfl

theorem recordedDelivered_foldl (h : RecordedDelivered state.log) (polls : List Poll) :
    RecordedDelivered (polls.foldl (pollAccount config) state).log := by
  induction polls generalizing state with
  | nil => exact h
  | cons poll polls ih => exact ih (h.append recordedDelivered_events)

/-- In a sequence of polls the documents are delivered independently of each other exactly if every poll is
fine. -/
theorem independent_iff (config : Config) (polls : List Poll) :
    Independent config polls ↔ Along (pollAccount config) (Fine config) {} polls := by
  have hrecorded : Recorded {} := fun _ _ => iff_of_false List.not_mem_nil List.not_mem_nil
  have hdelivered : RecordedDelivered (run config polls).log := by
    refine recordedDelivered_foldl ?_ polls
    rintro (_ | ⟨first, before⟩) after account id hlog <;> cases hlog
  have hboth : Along (pollAccount config)
      (fun state poll => Attempts config state poll ∧ Once (events config state poll)) {} polls ↔
        Along (pollAccount config) (Fine config) {} polls :=
    along_iff (fun state poll (_ : True) => attempts_once_iff) (fun _ _ _ _ => trivial) trivial polls
  rw [← hboth]
  constructor
  · intro h
    exact h.attempts.and ((neverAgain_foldl hrecorded polls).mp h.once).2
  · intro h
    refine ⟨?_, hdelivered, (neverAgain_foldl hrecorded polls).mpr ⟨.nil, ?_⟩⟩
    · exact h.mono (fun _ _ (_ : True) h => h.1) (fun _ _ _ _ => trivial) trivial
    · exact h.mono (fun _ _ (_ : True) h => h.2) (fun _ _ _ _ => trivial) trivial

end Runs

/-! ## Samples -/

/-- A document that Kafka does not take, for it is too large, listed before one that it would take. -/
def oversizedFirst : Poll where
  account := "main"
  listing := some [⟨some 1, false, .accepted, true⟩, ⟨some 2, true, .accepted, true⟩]
  readable := true

/-- However often the account is polled, the second document is not attempted. -/
theorem oversized_not_independent :
    ¬ Independent ⟨true, true⟩ [oversizedFirst] ∧
      ¬ Independent ⟨true, true⟩ [oversizedFirst, oversizedFirst, oversizedFirst] := by
  have hnever : ∀ polls, ¬ Independent ⟨true, true⟩ (oversizedFirst :: polls) := by
    intro polls h
    have hattempted := h.attempts.1 _ rfl ⟨some 2, true, .accepted, true⟩ (by simp) 2 rfl List.not_mem_nil
    have hevents : events ⟨true, true⟩ {} oversizedFirst = [.attempted 1] := by decide
    rw [hevents] at hattempted
    simp at hattempted
  exact ⟨hnever _, hnever _⟩

end SkanujFakture

end IntegrationPlatform
