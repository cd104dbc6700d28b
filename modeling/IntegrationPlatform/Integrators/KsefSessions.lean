import IntegrationPlatform.Json.Value
import IntegrationPlatform.Transactions.Histories
import IntegrationPlatform.Transactions.Processes

/-!
# Sessions of KSeF

One client opens sessions, closes them and sends invoices, and keeps a key, an initialization vector and
a session reference in three fields. The calls interleave at their awaits. `encrypted_iff` says when an
invoice is encrypted with the pair under which its session was opened.
-/

namespace IntegrationPlatform

namespace Ksef

/-! ## The client -/

/-- A session at KSeF: the pair that was submitted in the request that opened it, and the number of
pairs that the client had generated when that request was sent. -/
structure Opening (κ ν : Type) where
  reference : String
  aesKey : κ
  iv : ν
  generated : Nat

/-- An invoice that is posted, and the pair with which it is encrypted. -/
structure Posting (κ ν : Type) where
  endpoint : String
  reference : String
  invoiceXml : String
  aesKey : κ
  iv : ν

/-- `_session_aes_key`, `_session_iv` and `_session_reference`. Beside them stand the number of pairs
that have been generated, the sessions that KSeF has opened for the client and the invoices that have
been posted. -/
structure Client (κ ν : Type) where
  sessionAesKey : Option κ
  sessionIv : Option ν
  sessionReference : Option String
  generated : Nat
  opened : List (Opening κ ν)
  posted : List (Posting κ ν)

/-- Where a call is: before the authentication, at the public key, with its request on the way to KSeF
or the answer on its way back, or at its end, with the text of what it has raised. -/
inductive Phase (κ ν : Type) where
  | openSession (sessionType : String)
  | keyed (sessionType : String)
  | submitted (aesKey : κ) (iv : ν) (generated : Nat)
  | opened (reference : String)
  | closeSession (referenceNumber : Option String)
  | closing (reference : String)
  | sendInvoice (invoiceXml : String) (referenceNumber : Option String) (sessionType : String)
  | finished (error : Option String)

/-- What happens next to a call: what it waits for succeeds or fails, or KSeF opens the session that it
has asked for. -/
inductive Choice where
  | proceed
  | accept (reference : String)
  | fail (error : String)

variable {κ ν : Type}

/-- `reference_number or self._session_reference`, if it is not empty. -/
def Client.reference (client : Client κ ν) (referenceNumber : Option String) : Option String :=
  nonempty ((nonempty referenceNumber).or client.sessionReference)

/-- The endpoint of a session type. -/
def endpoint (sessionType : String) : String :=
  if sessionType = "online" then "online" else "batch"

/-- The post of `send_invoice`, or the text of the `ValueError`. -/
def sendInvoice (ivs : Nat → ν) (client : Client κ ν) (invoiceXml : String)
    (referenceNumber : Option String) (sessionType : String) : Except String (Posting κ ν) :=
  match client.reference referenceNumber, client.sessionAesKey with
  | none, _ => .error "No session reference. Open a session first."
  | some _, none => .error "No session encryption key. Open a session first."
  | some reference, some aesKey =>
      .ok ⟨endpoint sessionType, reference, invoiceXml, aesKey,
        client.sessionIv.getD (ivs client.generated)⟩

/-- One step of a call. `keys` and `ivs` are what `generate_aes_key` and `generate_iv` return, one after
the other. KSeF gives each session a reference of its own. -/
def step (keys : Nat → κ) (ivs : Nat → ν) (client : Client κ ν) :
    Phase κ ν → Choice → Option (Client κ ν × Phase κ ν)
  | .openSession sessionType, .proceed =>
      some ({ client with
        sessionAesKey := some (keys client.generated)
        sessionIv := some (ivs client.generated)
        generated := client.generated + 1 }, .keyed sessionType)
  | .keyed _, .proceed =>
      -- The fields are read again after the await.
      match client.sessionAesKey, client.sessionIv with
      | some aesKey, some iv => some (client, .submitted aesKey iv client.generated)
      | _, _ => some (client, .finished (some "TypeError"))
  | .submitted aesKey iv generated, .accept reference =>
      if reference ∈ client.opened.map Opening.reference then none
      else some ({ client with opened := ⟨reference, aesKey, iv, generated⟩ :: client.opened },
        .opened reference)
  | .opened reference, .proceed =>
      some ({ client with sessionReference := some reference }, .finished none)
  | .closeSession referenceNumber, .proceed =>
      match client.reference referenceNumber with
      | none => some (client, .finished (some "No session reference number provided or stored"))
      | some reference => some (client, .closing reference)
  | .closing reference, .proceed =>
      if some reference = client.sessionReference then
        some ({ client with sessionReference := none, sessionAesKey := none }, .finished none)
      else some (client, .finished none)
  | .sendInvoice invoiceXml referenceNumber sessionType, .proceed =>
      match sendInvoice ivs client invoiceXml referenceNumber sessionType with
      | .ok posting => some ({ client with posted := posting :: client.posted }, .finished none)
      | .error message => some (client, .finished (some message))
  | .finished _, _ => none
  | _, .fail error => some (client, .finished (some error))
  | _, _ => none

/-- A call of the client. -/
inductive Call where
  | openSession (sessionType : String)
  | closeSession (referenceNumber : Option String)
  | sendInvoice (invoiceXml : String) (referenceNumber : Option String) (sessionType : String)

/-- The start of a call. -/
def Call.phase : Call → Phase κ ν
  | .openSession sessionType => .openSession sessionType
  | .closeSession referenceNumber => .closeSession referenceNumber
  | .sendInvoice invoiceXml referenceNumber sessionType =>
      .sendInvoice invoiceXml referenceNumber sessionType

/-- A new client, with the calls that will be made of it. -/
def start (calls : List Call) : Processes (Client κ ν) (Phase κ ν) :=
  ⟨⟨none, none, none, 0, [], []⟩, calls.map Call.phase⟩

/-! ## Invoices and their sessions -/

/-- The session of an invoice was opened with the pair that encrypts the invoice. -/
def Posting.Matches (opened : List (Opening κ ν)) (posting : Posting κ ν) : Prop :=
  ∃ opening ∈ opened, opening.reference = posting.reference ∧
    opening.aesKey = posting.aesKey ∧ opening.iv = posting.iv

/-- A step posts no invoice whose session was opened with another pair, and a call of `send_invoice`
that posts nothing raises. -/
structure Encrypted (keys : Nat → κ) (ivs : Nat → ν) (before : Processes (Client κ ν) (Phase κ ν))
    (next : Nat × Choice) : Prop where
  posted : ∀ posting,
    (before.next (step keys ivs) next).shared.posted = posting :: before.shared.posted →
    posting.Matches before.shared.opened
  raised : ∀ invoiceXml referenceNumber sessionType,
    before.At next.1 (.sendInvoice invoiceXml referenceNumber sessionType) → next.2 = .proceed →
    (before.next (step keys ivs) next).shared.posted = before.shared.posted →
    ∃ error, (before.next (step keys ivs) next).At next.1 (.finished (some error))

/-- An invoice that can be sent goes to a session that the client has opened, and the client has
generated no pair since it sent the request that opened this session. -/
def Current (before : Processes (Client κ ν) (Phase κ ν)) (next : Nat × Choice) : Prop :=
  ∀ invoiceXml referenceNumber sessionType reference,
    before.At next.1 (.sendInvoice invoiceXml referenceNumber sessionType) → next.2 = .proceed →
    before.shared.reference referenceNumber = some reference →
    before.shared.sessionAesKey.isSome →
    ∃ opening ∈ before.shared.opened, opening.reference = reference ∧
      opening.generated = before.shared.generated

/-! ## Pairs -/

/-- This is the last one of the pairs that had been generated. -/
def LastOf (keys : Nat → κ) (ivs : Nat → ν) (generated : Nat) (aesKey : κ) (iv : ν) : Prop :=
  ∃ number, generated = number + 1 ∧ aesKey = keys number ∧ iv = ivs number

/-- Where the pairs of the client, of the requests and of the sessions come from. -/
structure Sourced (keys : Nat → κ) (ivs : Nat → ν) (processes : Processes (Client κ ν) (Phase κ ν)) :
    Prop where
  held : ∀ aesKey, processes.shared.sessionAesKey = some aesKey →
    ∃ iv, processes.shared.sessionIv = some iv ∧
      LastOf keys ivs processes.shared.generated aesKey iv
  submitted : ∀ id aesKey iv generated, processes.At id (.submitted aesKey iv generated) →
    LastOf keys ivs generated aesKey iv
  opened : ∀ opening ∈ processes.shared.opened,
    LastOf keys ivs opening.generated opening.aesKey opening.iv

section Steps

variable {keys : Nat → κ} {ivs : Nat → ν} {client client' : Client κ ν} {phase phase' : Phase κ ν}
  {choice : Choice} {before : Processes (Client κ ν) (Phase κ ν)} {next : Nat × Choice}

/-- What a step of a call does to the client, and where the call is then. -/
inductive Change (keys : Nat → κ) (ivs : Nat → ν) (client : Client κ ν) (phase : Phase κ ν) :
    Client κ ν → Phase κ ν → Prop where
  /-- Nothing, or something that concerns no pair. -/
  | idle {client' : Client κ ν} {phase' : Phase κ ν} :
      client'.sessionAesKey = client.sessionAesKey ∨ client'.sessionAesKey = none →
      client'.sessionIv = client.sessionIv → client'.generated = client.generated →
      client'.opened = client.opened → client'.posted = client.posted →
      (∀ aesKey iv generated, phase' ≠ .submitted aesKey iv generated) →
      (∀ invoiceXml referenceNumber sessionType,
        phase = .sendInvoice invoiceXml referenceNumber sessionType →
        ∃ error, phase' = .finished (some error)) →
      Change keys ivs client phase client' phase'
  /-- A pair is generated. -/
  | generates {sessionType : String} : phase = .openSession sessionType →
      Change keys ivs client phase { client with
        sessionAesKey := some (keys client.generated)
        sessionIv := some (ivs client.generated)
        generated := client.generated + 1 } (.keyed sessionType)
  /-- The pair of the client is submitted. -/
  | submits {sessionType : String} {aesKey : κ} {iv : ν} : phase = .keyed sessionType →
      client.sessionAesKey = some aesKey → client.sessionIv = some iv →
      Change keys ivs client phase client (.submitted aesKey iv client.generated)
  /-- A session is opened. -/
  | opens {aesKey : κ} {iv : ν} {generated : Nat} {reference : String} :
      phase = .submitted aesKey iv generated →
      Change keys ivs client phase
        { client with opened := ⟨reference, aesKey, iv, generated⟩ :: client.opened }
        (.opened reference)
  /-- An invoice is posted. -/
  | posts {invoiceXml : String} {referenceNumber : Option String} {sessionType : String}
      {posting : Posting κ ν} : phase = .sendInvoice invoiceXml referenceNumber sessionType →
      sendInvoice ivs client invoiceXml referenceNumber sessionType = .ok posting →
      Change keys ivs client phase { client with posted := posting :: client.posted }
        (.finished none)

theorem change_of_step (h : step keys ivs client phase choice = some (client', phase')) :
    Change keys ivs client phase client' phase' := by
  have hidle : ∀ {phase' : Phase κ ν},
      (∀ aesKey iv generated, phase' ≠ .submitted aesKey iv generated) →
      (∀ invoiceXml referenceNumber sessionType,
        phase = .sendInvoice invoiceXml referenceNumber sessionType →
        ∃ error, phase' = .finished (some error)) →
      Change keys ivs client phase client phase' :=
    fun hphase hsend => .idle (.inl rfl) rfl rfl rfl rfl hphase hsend
  unfold step at h
  split at h
  · cases h
    exact .generates rfl
  · split at h
    · next hkey hiv =>
      cases h
      exact .submits rfl hkey hiv
    · cases h
      exact hidle (by simp) (by simp)
  · split at h
    · cases h
    · cases h
      exact .opens rfl
  · cases h
    exact .idle (.inl rfl) rfl rfl rfl rfl (by simp) (by simp)
  · split at h <;> cases h <;>
      exact hidle (by simp) (by simp)
  · split at h
    · cases h
      exact .idle (.inr rfl) rfl rfl rfl rfl (by simp) (by simp)
    · cases h
      exact hidle (by simp) (by simp)
  · split at h
    · next hposting =>
      cases h
      exact .posts rfl hposting
    · cases h
      exact hidle (by simp) (by simp)
  · cases h
  · cases h
    exact hidle (by simp) (by simp)
  · cases h

theorem sendInvoice_ok {invoiceXml : String} {referenceNumber : Option String}
    {sessionType : String} {posting : Posting κ ν} :
    sendInvoice ivs client invoiceXml referenceNumber sessionType = .ok posting ↔
      ∃ reference aesKey, client.reference referenceNumber = some reference ∧
        client.sessionAesKey = some aesKey ∧
        posting = ⟨endpoint sessionType, reference, invoiceXml, aesKey,
          client.sessionIv.getD (ivs client.generated)⟩ := by
  unfold sendInvoice
  cases client.reference referenceNumber with
  | none => simp
  | some reference =>
      cases client.sessionAesKey with
      | none => simp
      | some aesKey =>
          constructor
          · intro h
            exact ⟨reference, aesKey, rfl, rfl, (Except.ok.inj h).symm⟩
          · rintro ⟨_, _, hreference, haesKey, rfl⟩
            obtain rfl := Option.some.inj hreference
            obtain rfl := Option.some.inj haesKey
            rfl

theorem sourced_start (calls : List Call) : Sourced keys ivs (start calls) := by
  refine ⟨fun _ h => (nomatch h), fun id aesKey iv generated h => ?_, fun _ h => (nomatch h)⟩
  obtain ⟨call, -, hphase⟩ := List.mem_map.mp (List.mem_of_getElem? h)
  cases call <;> cases hphase

theorem sourced_next (h : Sourced keys ivs before) :
    Sourced keys ivs (before.next (step keys ivs) next) := by
  obtain ⟨id, choice⟩ := next
  refine Processes.next_keeps h fun phase client' phase' hphase hstep => ?_
  have hothers : ∀ {client' : Client κ ν} {phase' : Phase κ ν},
      (∀ aesKey iv generated, phase' = .submitted aesKey iv generated →
        LastOf keys ivs generated aesKey iv) →
      ∀ other aesKey iv generated,
        Processes.At ⟨client', before.phases.set id phase'⟩ other (.submitted aesKey iv generated) →
        LastOf keys ivs generated aesKey iv := by
    intro client' phase' hphase' other aesKey iv generated hother
    rcases hphase.of_set hother with ⟨-, heq⟩ | ⟨-, hbefore⟩
    · exact hphase' aesKey iv generated heq.symm
    · exact h.submitted other aesKey iv generated hbefore
  cases change_of_step hstep with
  | idle hkey hiv hgenerated hopened hposted hphase' hsend =>
      refine ⟨fun aesKey haesKey => ?_, hothers fun aesKey iv generated heq =>
        absurd heq (hphase' aesKey iv generated), fun opening hopening => ?_⟩
      · rcases hkey with hkey | hkey
        · obtain ⟨iv, hiv', hlast⟩ := h.held aesKey (hkey ▸ haesKey)
          exact ⟨iv, hiv.trans hiv', hgenerated ▸ hlast⟩
        · rw [show Processes.shared _ = client' from rfl, hkey] at haesKey
          cases haesKey
      · exact h.opened opening (hopened ▸ hopening)
  | generates hphase' =>
      refine ⟨fun aesKey haesKey => ?_, hothers fun _ _ _ heq => (nomatch heq), h.opened⟩
      obtain rfl := Option.some.inj haesKey
      exact ⟨_, rfl, _, rfl, rfl, rfl⟩
  | submits hphase' hkey hiv =>
      refine ⟨h.held, hothers fun aesKey iv generated heq => ?_, h.opened⟩
      obtain ⟨rfl, rfl, rfl⟩ := Phase.submitted.inj heq
      obtain ⟨iv', hiv', hlast⟩ := h.held _ hkey
      obtain rfl := Option.some.inj (hiv.symm.trans hiv')
      exact hlast
  | opens hphase' =>
      refine ⟨h.held, hothers fun _ _ _ heq => (nomatch heq), fun opening hopening => ?_⟩
      rcases List.mem_cons.mp hopening with rfl | hbefore
      · exact h.submitted id _ _ _ (hphase' ▸ hphase)
      · exact h.opened opening hbefore
  | posts hphase' hposting => exact ⟨h.held, hothers fun _ _ _ heq => (nomatch heq), h.opened⟩

/-- A step posts the invoice of a call of `send_invoice`, or nothing. -/
theorem posted_next (keys : Nat → κ) (ivs : Nat → ν) (before : Processes (Client κ ν) (Phase κ ν))
    (next : Nat × Choice) :
    (before.next (step keys ivs) next).shared.posted = before.shared.posted ∨
      ∃ invoiceXml referenceNumber sessionType posting,
        before.At next.1 (.sendInvoice invoiceXml referenceNumber sessionType) ∧
        next.2 = .proceed ∧
        sendInvoice ivs before.shared invoiceXml referenceNumber sessionType = .ok posting ∧
        (before.next (step keys ivs) next).shared.posted = posting :: before.shared.posted := by
  obtain ⟨id, choice⟩ := next
  obtain hnext | ⟨phase, client', phase', hphase, hstep, hnext⟩ :=
    Processes.next_cases (step keys ivs) before id choice
  · exact .inl (by rw [hnext])
  · rw [hnext]
    cases change_of_step hstep with
    | idle _ _ _ _ hposted _ _ => exact .inl hposted
    | generates _ => exact .inl rfl
    | submits _ _ _ => exact .inl rfl
    | opens _ => exact .inl rfl
    | posts hsend hposting =>
        subst hsend
        refine .inr ⟨_, _, _, _, hphase, ?_, hposting, rfl⟩
        cases choice with
        | proceed => rfl
        | accept reference => cases hstep
        | fail error =>
            obtain ⟨-, hphase'⟩ := Prod.mk.inj (Option.some.inj hstep)
            cases hphase'

theorem next_sendInvoice {invoiceXml : String} {referenceNumber : Option String}
    {sessionType : String} {id : Nat}
    (hphase : before.At id (.sendInvoice invoiceXml referenceNumber sessionType)) :
    before.next (step keys ivs) (id, .proceed) =
      match sendInvoice ivs before.shared invoiceXml referenceNumber sessionType with
      | .ok posting => ⟨{ before.shared with posted := posting :: before.shared.posted },
          before.phases.set id (.finished none)⟩
      | .error message => ⟨before.shared, before.phases.set id (.finished (some message))⟩ := by
  cases hposting : sendInvoice ivs before.shared invoiceXml referenceNumber sessionType with
  | ok posting =>
      refine Processes.next_of_step hphase ?_
      rw [step, hposting]
  | error message =>
      refine Processes.next_of_step hphase ?_
      rw [step, hposting]

/-- An invoice is encrypted with the pair of its session if and only if the client has generated no
pair since. -/
theorem encrypted_iff_current (hfresh : Function.Injective fun number => (keys number, ivs number))
    (h : Sourced keys ivs before) : Encrypted keys ivs before next ↔ Current before next := by
  obtain ⟨id, choice⟩ := next
  constructor
  · rintro ⟨hposted, -⟩ invoiceXml referenceNumber sessionType reference hphase rfl hreference hheld
    obtain ⟨aesKey, haesKey⟩ := Option.isSome_iff_exists.mp hheld
    obtain ⟨iv, hiv, number, hgenerated, rfl, rfl⟩ := h.held aesKey haesKey
    have hposting : sendInvoice ivs before.shared invoiceXml referenceNumber sessionType = .ok _ :=
      sendInvoice_ok.mpr ⟨reference, _, hreference, haesKey, rfl⟩
    obtain ⟨opening, hopening, hsame, hkey, hiv'⟩ := hposted _ (by
      rw [next_sendInvoice hphase, hposting])
    obtain ⟨other, hother, hkey', hotherIv⟩ := h.opened opening hopening
    refine ⟨opening, hopening, hsame, ?_⟩
    have hpair : (keys other, ivs other) = (keys number, ivs number) := by
      rw [hiv] at hiv'
      exact Prod.ext (hkey'.symm.trans hkey) (hotherIv.symm.trans hiv')
    rw [hother, hgenerated, hfresh hpair]
  · intro hcurrent
    constructor
    · intro posting hposted
      rcases posted_next keys ivs before (id, choice) with hsame | ⟨invoiceXml, referenceNumber,
        sessionType, posting', hphase, hproceed, hposting, hnext⟩
      · rw [hsame] at hposted
        exact absurd hposted.symm (List.cons_ne_self _ _)
      · obtain rfl : posting' = posting := (List.cons.inj (hnext.symm.trans hposted)).1
        obtain ⟨reference, aesKey, hreference, haesKey, rfl⟩ := sendInvoice_ok.mp hposting
        obtain ⟨opening, hopening, hsame, hgenerated⟩ := hcurrent _ _ _ reference hphase hproceed
          hreference (Option.isSome_iff_exists.mpr ⟨aesKey, haesKey⟩)
        obtain ⟨iv, hiv, number, hnumber, rfl, rfl⟩ := h.held aesKey haesKey
        obtain ⟨other, hother, hkey, hiv'⟩ := h.opened opening hopening
        obtain rfl : other = number :=
          Nat.succ.inj (hother.symm.trans (hgenerated.trans hnumber))
        refine ⟨opening, hopening, hsame, hkey, ?_⟩
        rw [hiv, hiv']
        rfl
    · rintro invoiceXml referenceNumber sessionType hphase rfl hposted
      rw [next_sendInvoice hphase] at hposted ⊢
      cases hposting : sendInvoice ivs before.shared invoiceXml referenceNumber sessionType with
      | ok posting =>
          rw [hposting] at hposted
          exact absurd hposted (List.cons_ne_self _ _)
      | error message => exact ⟨message, hphase.set _⟩

end Steps

/-! ## Runs -/

/-- In every sequence of steps each invoice is encrypted with the pair of its session if and only if
each invoice that can be sent goes to a session since whose opening the client has generated no pair. -/
theorem encrypted_iff (keys : Nat → κ) (ivs : Nat → ν)
    (hfresh : Function.Injective fun number => (keys number, ivs number)) (calls : List Call)
    (steps : List (Nat × Choice)) :
    Along (Processes.next (step keys ivs)) (Encrypted keys ivs) (start calls) steps ↔
      Along (Processes.next (step keys ivs)) Current (start calls) steps :=
  along_iff (fun _ _ h => encrypted_iff_current hfresh h) (fun _ _ h _ => sourced_next h)
    (sourced_start calls) steps

theorem numbers_fresh : Function.Injective fun number : Nat => (number, number) :=
  fun _ _ h => (Prod.mk.inj h).1

/-- A session is opened, and an invoice is sent to it. -/
theorem sent_to_its_session :
    Along (Processes.next (step id id)) (Encrypted id id)
      (start [.openSession "online", .sendInvoice "<Faktura/>" none "online"])
      [(0, .proceed), (0, .proceed), (0, .accept "R1"), (0, .proceed), (1, .proceed)] := by
  refine (encrypted_iff id id numbers_fresh _ _).mpr ?_
  refine ⟨?_, ?_, ?_, ?_, ?_, trivial⟩
  · rintro invoiceXml referenceNumber sessionType reference hphase
    cases Option.some.inj hphase
  · rintro invoiceXml referenceNumber sessionType reference hphase
    cases Option.some.inj hphase
  · rintro invoiceXml referenceNumber sessionType reference hphase
    cases Option.some.inj hphase
  · rintro invoiceXml referenceNumber sessionType reference hphase
    cases Option.some.inj hphase
  · rintro invoiceXml referenceNumber sessionType reference hphase - hreference -
    obtain ⟨rfl, rfl, rfl⟩ := Phase.sendInvoice.inj (Option.some.inj hphase)
    exact ⟨⟨"R1", 0, 0, 1⟩, List.mem_singleton_self _, Option.some.inj hreference, rfl⟩

/-- A second session cannot be opened, and an invoice is sent to the first one. -/
theorem sent_with_another_key :
    ¬ Along (Processes.next (step id id)) (Encrypted id id)
      (start [.openSession "online", .openSession "online",
        .sendInvoice "<Faktura/>" none "online"])
      [(0, .proceed), (0, .proceed), (0, .accept "R1"), (0, .proceed), (1, .proceed),
        (1, .fail "500"), (2, .proceed)] := by
  rintro ⟨-, -, -, -, -, -, ⟨hposted, -⟩, -⟩
  obtain ⟨opening, hopening, -, hkey, -⟩ :=
    hposted ⟨"online", "R1", "<Faktura/>", 1, 1⟩ rfl
  obtain rfl := List.mem_singleton.mp hopening
  cases hkey

end Ksef

end IntegrationPlatform
