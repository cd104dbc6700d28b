import IntegrationPlatform.Json.Value
import IntegrationPlatform.Transactions.Unending
import Mathlib.Data.List.Basic

/-!
# The email poller

A poll searches a folder for messages without `\Seen`, fetches them, which sets the flag, and hands them
to Kafka or the platform. What decides whether a mail is offered again are the flag, the timestamp of
the last poll and the set of the keys that were handed over. `every_mail_delivered` says which polls lose
no mail.
-/

namespace IntegrationPlatform

namespace Email

/-! ## Mails -/

/-- The fields of a parsed mail that its key is built from. -/
structure EmailMessage where
  messageId : String
  subject : String
  sender : Option (String × String)
  date : Option Nat

/-- A mail in the folder: the day of its internal date, what `_parse_email_message` makes of it, if it does
not raise, and its `\Seen` flag. -/
structure Mail where
  internalDate : Nat
  parsed : Option EmailMessage
  seen : Bool

/-- How the connector is set up: whether there is a producer for Kafka and a client for the platform,
`polling_max_emails`, and the hexadecimal digest of a text. -/
structure Config where
  kafka : Bool
  http : Bool
  maxEmails : Int
  sha256 : String → String

/-- `_derive_message_key`. An address or a date is no text that `join` takes. -/
def deriveMessageKey (config : Config) (message : EmailMessage) : Except String String :=
  if message.messageId ≠ "" then .ok message.messageId
  else if message.sender.isSome then
    .error "sequence item 1: expected str instance, EmailAddress found"
  else if message.date.isSome then
    .error "sequence item 2: expected str instance, datetime.datetime found"
  else .ok ("sha256:" ++ config.sha256 (message.subject ++ "||"))

/-! ## A poll -/

/-- What a connection comes to before a page is fetched: it raises, or the search is refused or
answered. -/
inductive Reach where
  | raised
  | refused
  | answered

/-- What a `FETCH` comes to: it is answered, the server does not take it, or its answer is lost. -/
inductive Fetch where
  | answered
  | refused
  | lost
  deriving DecidableEq

/-- How a mail is handed over: whether Kafka takes it, and what the platform answers, if it does. -/
structure Delivery where
  kafka : Bool
  platform : Option Nat

/-- What a poll meets: the time, and how the requests fare that it makes for each mail. -/
structure Poll where
  now : Nat
  reach : Reach
  fetches : Nat → Fetch
  deliveries : Nat → Delivery
  marks : Nat → Bool
  saves : Bool

/-- The folder, the poller and its database. Timestamps are in seconds, and the stored keys stand in the
order of their age. Beside them stand the mails that have been handed over. -/
structure Poller where
  folder : List Mail
  last : Option Nat
  lastStored : Option Nat
  seen : List String
  seenStored : List String
  delivered : List Nat

/-- The day of a time. -/
def day (time : Nat) : Nat := time / 86400

def notifyPlatform (config : Config) (delivery : Delivery) : Bool :=
  if config.http then
    match delivery.platform with
    | some status => status < 300
    | none => false
  else true

/-- A mail is handed over: to Kafka if there is a producer, and to the platform otherwise. -/
def handsOver (config : Config) (delivery : Delivery) : Bool :=
  if config.kafka then delivery.kafka else notifyPlatform config delivery

/-- `ids[-max_count:]`. -/
def lastIds (ids : List Nat) (maxCount : Int) : List Nat :=
  ids.drop (if 0 < maxCount then ids.length - maxCount.toNat else (-maxCount).toNat)

namespace Poller

/-- A folder without mails, and a poller without timestamps. -/
def start : Poller := ⟨[], none, none, [], [], []⟩

/-- A mail is offered to a search: it has no `\Seen` flag, and it is not older than the day of the
timestamp. -/
def isOffered (poller : Poller) (id : Nat) : Bool :=
  match poller.folder[id]? with
  | some mail => !mail.seen && poller.last.all fun last => day last ≤ mail.internalDate
  | none => false

/-- The mails that a poll fetches. -/
def ids (config : Config) (poller : Poller) : List Nat :=
  lastIds ((List.range poller.folder.length).filter poller.isOffered) config.maxEmails

/-- The mails that a poll marks as seen. -/
def marked (config : Config) (poller : Poller) (poll : Poll) : List Nat :=
  (poller.ids config).filter fun id => poll.fetches id ≠ .refused

/-- The folder after a page has been fetched. -/
def fetchedFolder (config : Config) (poller : Poller) (poll : Poll) : List Mail :=
  poller.folder.mapIdx fun id mail =>
    if id ∈ poller.marked config poll then { mail with seen := true } else mail

/-- The page of `fetch_emails`. -/
def emails (config : Config) (poller : Poller) (poll : Poll) : List (Nat × EmailMessage) :=
  (poller.ids config).filterMap fun id =>
    if poll.fetches id = .answered then
      (poller.folder[id]?.bind Mail.parsed).map fun message => (id, message)
    else none

def saveTimestamp (poller : Poller) (poll : Poll) : Poller :=
  { poller with
    last := some poll.now
    lastStored := if poll.saves then some poll.now else poller.lastStored }

/-- `INSERT OR IGNORE`. -/
def insertKey (keys : List String) (key : String) : List String :=
  if key ∈ keys then keys else key :: keys

/-- The loop over the new mails, and `all_notified` if nothing raises. -/
def deliverAll (config : Config) (poll : Poll) :
    Poller → List (Nat × String) → Poller × Option Bool
  | poller, [] => (poller, some true)
  | poller, (id, key) :: rest =>
      if handsOver config (poll.deliveries id) then
        let handed := { poller with
          delivered := id :: poller.delivered
          seen := key :: poller.seen }
        if poll.marks id then
          deliverAll config poll
            { handed with seenStored := insertKey handed.seenStored key } rest
        else (handed, none)
      else
        let next := deliverAll config poll poller rest
        (next.1, next.2.map fun _ => false)

def pollAccount (config : Config) (poller : Poller) (poll : Poll) : Poller :=
  match poll.reach with
  | .raised => poller
  | .refused => poller.saveTimestamp poll
  | .answered =>
      let page := poller.emails config poll
      let fetched := { poller with folder := poller.fetchedFolder config poll }
      if page.isEmpty then fetched.saveTimestamp poll
      else
        match page.mapM fun email =>
          (deriveMessageKey config email.2).map fun key => (email.1, key) with
        | .error _ => fetched
        | .ok keyed =>
            let newEmails := keyed.filter fun email => email.2 ∉ poller.seen
            if newEmails.isEmpty then fetched.saveTimestamp poll
            else
              match fetched.deliverAll config poll newEmails with
              | (after, some true) => after.saveTimestamp poll
              | (after, _) => after

def seenCacheLimit : Nat := 1000

/-- `start`, when the process is started again. -/
def restart (poller : Poller) : Poller :=
  { poller with last := poller.lastStored, seen := poller.seenStored.take seenCacheLimit }

end Poller

/-- What happens: a mail arrives, the account is polled, or the process is started again. -/
inductive Event where
  | arrive (internalDate : Nat) (parsed : Option EmailMessage)
  | poll (poll : Poll)
  | restart

def step (config : Config) (poller : Poller) : Event → Poller
  | .arrive internalDate parsed =>
      { poller with folder := poller.folder ++ [⟨internalDate, parsed, false⟩] }
  | .poll poll => poller.pollAccount config poll
  | .restart => poller.restart

/-! ## What a poll leaves -/

section Polls

variable {config : Config} {poller : Poller} {poll : Poll} {emails : List (Nat × String)}

theorem deliverAll_frame (config : Config) (poll : Poll) (poller : Poller)
    (emails : List (Nat × String)) :
    (poller.deliverAll config poll emails).1.folder = poller.folder ∧
      (poller.deliverAll config poll emails).1.last = poller.last := by
  induction emails generalizing poller with
  | nil => exact ⟨rfl, rfl⟩
  | cons email rest ih =>
      obtain ⟨id, key⟩ := email
      rw [Poller.deliverAll]
      split
      · split
        · exact ih _
        · exact ⟨rfl, rfl⟩
      · exact ih poller

theorem delivered_subset_deliverAll (config : Config) (poll : Poll) (poller : Poller)
    (emails : List (Nat × String)) :
    poller.delivered ⊆ (poller.deliverAll config poll emails).1.delivered := by
  induction emails generalizing poller with
  | nil => exact List.Subset.refl _
  | cons email rest ih =>
      obtain ⟨id, key⟩ := email
      rw [Poller.deliverAll]
      split
      · split
        · exact fun found hfound => ih _ (List.mem_cons_of_mem _ hfound)
        · exact List.subset_cons_self _ _
      · exact ih poller

theorem mem_of_deliverAll {poller : Poller} {id : Nat}
    (h : id ∈ (poller.deliverAll config poll emails).1.delivered) :
    id ∈ poller.delivered ∨ id ∈ emails.map Prod.fst := by
  induction emails generalizing poller with
  | nil => exact .inl h
  | cons email rest ih =>
      obtain ⟨next, key⟩ := email
      have hnext : id ∈ next :: poller.delivered ∨ id ∈ rest.map Prod.fst →
          id ∈ poller.delivered ∨ id ∈ ((next, key) :: rest).map Prod.fst := by
        rw [List.map_cons, List.mem_cons, List.mem_cons]
        tauto
      rw [Poller.deliverAll] at h
      split at h
      · split at h
        · exact hnext (ih h)
        · exact hnext (.inl h)
      · exact (ih h).imp_right (List.mem_cons_of_mem _)

/-- The loop over mails that are all handed over, and whose keys are stored but for the last one. -/
theorem deliverAll_spec (poller : Poller)
    (hall : ∀ email ∈ emails, handsOver config (poll.deliveries email.1) = true)
    (hmarks : ∀ id ∈ (emails.map Prod.fst).dropLast, poll.marks id = true) :
    (∀ email ∈ emails, email.1 ∈ (poller.deliverAll config poll emails).1.delivered) ∧
      ((poller.deliverAll config poll emails).2 = some true ↔
        ∀ id ∈ emails.map Prod.fst, poll.marks id = true) := by
  induction emails generalizing poller with
  | nil => exact ⟨fun _ h => (nomatch h), fun _ _ h => (nomatch h), fun _ => rfl⟩
  | cons email rest ih =>
      obtain ⟨id, key⟩ := email
      obtain ⟨hfirst, hrest⟩ := List.forall_mem_cons.mp hall
      rw [Poller.deliverAll, if_pos hfirst]
      by_cases hmark : poll.marks id = true
      · have hdrop : ∀ id ∈ (rest.map Prod.fst).dropLast, poll.marks id = true := by
          intro other hother
          refine hmarks other ?_
          cases rest with
          | nil => cases hother
          | cons next rest => exact List.mem_cons_of_mem _ hother
        simp only
        rw [if_pos hmark]
        obtain ⟨hdelivered, hnotified⟩ := ih { poller with
          delivered := id :: poller.delivered
          seen := key :: poller.seen
          seenStored := Poller.insertKey poller.seenStored key } hrest hdrop
        refine ⟨?_, ?_⟩
        · rw [List.forall_mem_cons]
          exact ⟨delivered_subset_deliverAll _ _ _ _ List.mem_cons_self, hdelivered⟩
        · rw [List.map_cons, List.forall_mem_cons, hnotified]
          exact ⟨fun h => ⟨hmark, h⟩, fun h => h.2⟩
      · -- Only the last mail may fail to be stored.
        have hlast : rest = [] := by
          cases rest with
          | nil => rfl
          | cons next rest => exact absurd (hmarks id List.mem_cons_self) hmark
        subst hlast
        simp only
        rw [if_neg hmark]
        refine ⟨?_, ?_⟩
        · rw [List.forall_mem_cons]
          exact ⟨List.mem_cons_self, fun _ h => (nomatch h)⟩
        · rw [List.map_cons, List.forall_mem_cons]
          exact ⟨fun h => (nomatch h), fun h => absurd h.1 hmark⟩

theorem mapM_keys {page : List (Nat × EmailMessage)}
    (h : ∀ email ∈ page, ∃ key, deriveMessageKey config email.2 = .ok key) :
    ∃ keyed, (page.mapM fun email => (deriveMessageKey config email.2).map fun key =>
        (email.1, key)) = .ok keyed ∧ keyed.map Prod.fst = page.map Prod.fst ∧
      ∀ found ∈ keyed, ∃ email ∈ page, email.1 = found.1 ∧
        deriveMessageKey config email.2 = .ok found.2 := by
  induction page with
  | nil => exact ⟨[], rfl, rfl, fun _ h => (nomatch h)⟩
  | cons email rest ih =>
      obtain ⟨⟨key, hkey⟩, hrest⟩ := List.forall_mem_cons.mp h
      obtain ⟨keyed, hkeyed, hids, hfound⟩ := ih hrest
      refine ⟨(email.1, key) :: keyed, ?_, ?_, ?_⟩
      · rw [List.mapM_cons, hkey, hkeyed]
        rfl
      · rw [List.map_cons, List.map_cons, hids]
      · rw [List.forall_mem_cons]
        refine ⟨⟨email, List.mem_cons_self, rfl, hkey⟩, fun found hmem => ?_⟩
        obtain ⟨other, hother, heq⟩ := hfound found hmem
        exact ⟨other, List.mem_cons_of_mem _ hother, heq⟩

theorem fetchedFolder_getElem? (config : Config) (poller : Poller) (poll : Poll) (id : Nat) :
    (poller.fetchedFolder config poll)[id]? = (poller.folder[id]?).map fun mail =>
      if id ∈ poller.marked config poll then { mail with seen := true } else mail := by
  unfold Poller.fetchedFolder
  rw [List.getElem?_mapIdx]

theorem mem_ids_of_keyed {keyed : List (Nat × String)} {email : Nat × String}
    (h : ((poller.emails config poll).mapM fun email =>
      (deriveMessageKey config email.2).map fun key => (email.1, key)) = .ok keyed)
    (hemail : email ∈ keyed) : email.1 ∈ poller.ids config := by
  have hfst : email.1 ∈ (poller.emails config poll).map Prod.fst := by
    generalize poller.emails config poll = page at h
    induction page generalizing keyed with
    | nil =>
        obtain rfl := Except.ok.inj h
        cases hemail
    | cons next rest ih =>
        rw [List.mapM_cons] at h
        obtain ⟨pair, hpair, hrest⟩ := bind_eq_ok.mp h
        obtain ⟨others, hothers, hkeyed⟩ := bind_eq_ok.mp hrest
        obtain rfl := Except.ok.inj hkeyed
        rw [List.map_cons, List.mem_cons]
        rcases List.mem_cons.mp hemail with rfl | hmem
        · cases hkey : deriveMessageKey config next.2 with
          | error message =>
              rw [hkey] at hpair
              cases hpair
          | ok key =>
              rw [hkey] at hpair
              obtain rfl := Except.ok.inj hpair
              exact .inl rfl
        · exact .inr (ih hmem hothers)
  obtain ⟨found, hfound, heq⟩ := List.mem_map.mp hfst
  obtain ⟨id, hid, hsome⟩ := List.mem_filterMap.mp hfound
  split at hsome
  · obtain ⟨message, -, rfl⟩ := Option.map_eq_some_iff.mp hsome
    exact heq ▸ hid
  · cases hsome

theorem isOffered_of_mem_ids {id : Nat} (h : id ∈ poller.ids config) : poller.isOffered id = true :=
  (List.mem_filter.mp (List.mem_of_mem_drop h)).2

end Polls

/-! ## Polls that lose no mail -/

/-- The mails without the flag, but for some, are not older than the day of a time. -/
def Poller.UnseenSince (poller : Poller) (time : Nat) (others : List Nat) : Prop :=
  ∀ id mail, poller.folder[id]? = some mail → mail.seen = false → id ∉ others →
    day time ≤ mail.internalDate

/-- A mail is fetched and parsed, has a key that is new, and is handed over. -/
def HandedOver (config : Config) (poller : Poller) (poll : Poll) (id : Nat) : Prop :=
  poll.fetches id = .answered ∧ handsOver config (poll.deliveries id) = true ∧
    ∃ message key, (poller.folder[id]?.bind Mail.parsed) = some message ∧
      deriveMessageKey config message = .ok key ∧ key ∉ poller.seen

/-- A step loses no mail. A poll hands over what it marks as seen, stores the keys but for the last one,
and does not save a timestamp on a later day than that of a mail that it leaves. -/
def Keeps (config : Config) (poller : Poller) : Event → Prop
  | .arrive internalDate _ => ∀ last, poller.last = some last → day last ≤ internalDate
  | .restart => ∀ stored, poller.lastStored = some stored → poller.UnseenSince stored []
  | .poll poll =>
      match poll.reach with
      | .raised => True
      | .refused => poller.UnseenSince poll.now []
      | .answered =>
          (∀ id ∈ poller.marked config poll, HandedOver config poller poll id) ∧
          (∀ id ∈ (poller.marked config poll).dropLast, poll.marks id = true) ∧
          ((∀ id ∈ poller.marked config poll, poll.marks id = true) →
            poller.UnseenSince poll.now (poller.marked config poll))

/-- Every mail has been handed over, or it has no flag and is not older than the day of the
timestamp. -/
def Kept (poller : Poller) : Prop :=
  ∀ id mail, poller.folder[id]? = some mail → id ∈ poller.delivered ∨
    (mail.seen = false ∧ ∀ last, poller.last = some last → day last ≤ mail.internalDate)

section Keeping

variable {config : Config} {poller : Poller} {poll : Poll}

theorem pollAccount_folder (config : Config) (poller : Poller) (poll : Poll) :
    (poller.pollAccount config poll).folder = poller.folder ∨
      (poller.pollAccount config poll).folder = poller.fetchedFolder config poll := by
  unfold Poller.pollAccount
  split
  · exact .inl rfl
  · exact .inl rfl
  · simp only
    split
    · exact .inr rfl
    · split
      · exact .inr rfl
      · next keyed _ =>
        split
        · exact .inr rfl
        · obtain ⟨hsame, -⟩ := deliverAll_frame config poll
            { poller with folder := poller.fetchedFolder config poll }
            (keyed.filter fun email => email.2 ∉ poller.seen)
          split
          · next after heq =>
            rw [heq] at hsame
            exact .inr hsame
          · next after result _ heq =>
            rw [heq] at hsame
            exact .inr hsame

theorem delivered_pollAccount {id : Nat} (h : id ∈ (poller.pollAccount config poll).delivered) :
    id ∈ poller.delivered ∨ id ∈ poller.ids config := by
  unfold Poller.pollAccount at h
  split at h
  · exact .inl h
  · exact .inl h
  · simp only at h
    split at h
    · exact .inl h
    · split at h
      · exact .inl h
      · next keyed hkeyed =>
        split at h
        · exact .inl h
        · have hloop : id ∈ (Poller.deliverAll config poll
              { poller with folder := poller.fetchedFolder config poll }
              (keyed.filter fun email => email.2 ∉ poller.seen)).1.delivered := by
            split at h
            · next after heq =>
              rw [heq]
              exact h
            · next after result _ heq =>
              rw [heq]
              exact h
          rcases mem_of_deliverAll hloop with hold | hnow
          · exact .inl hold
          · obtain ⟨email, hemail, rfl⟩ := List.mem_map.mp hnow
            exact .inr (mem_ids_of_keyed hkeyed (List.mem_filter.mp hemail).1)

theorem emails_eq (h : ∀ id ∈ poller.marked config poll, HandedOver config poller poll id) :
    (poller.emails config poll).map Prod.fst = poller.marked config poll ∧
      ∀ email ∈ poller.emails config poll, ∃ key,
        deriveMessageKey config email.2 = .ok key ∧ key ∉ poller.seen := by
  have hhanded : ∀ id ∈ poller.ids config, poll.fetches id ≠ .refused →
      HandedOver config poller poll id := by
    intro id hid hfetch
    exact h id (List.mem_filter.mpr ⟨hid, decide_eq_true hfetch⟩)
  constructor
  · unfold Poller.emails Poller.marked
    generalize poller.ids config = ids at hhanded
    induction ids with
    | nil => rfl
    | cons id rest ih =>
        obtain ⟨hid, hrest⟩ := List.forall_mem_cons.mp hhanded
        by_cases hfetch : poll.fetches id = .refused
        · have hnot : ¬ poll.fetches id = .answered := by
            rw [hfetch]
            decide
          rw [List.filterMap_cons, if_neg hnot, List.filter_cons_of_neg (by simp [hfetch])]
          exact ih hrest
        · obtain ⟨hanswered, -, message, -, hmessage, -⟩ := hid hfetch
          rw [List.filterMap_cons, if_pos hanswered, hmessage,
            List.filter_cons_of_pos (by simp [hfetch])]
          exact congrArg (id :: ·) (ih hrest)
  · intro email hemail
    unfold Poller.emails at hemail
    obtain ⟨id, hid, hfound⟩ := List.mem_filterMap.mp hemail
    split at hfound
    · next hanswered =>
      obtain ⟨-, -, message, key, hmessage, hkey, hnew⟩ := hhanded id hid (by rw [hanswered]; decide)
      rw [hmessage, Option.map_some] at hfound
      obtain rfl := Option.some.inj hfound
      exact ⟨key, hkey, hnew⟩
    · cases hfound

/-- A poll whose mails are all handed over delivers what it marks, and saves its time if the keys of all
of them are stored. -/
theorem pollAccount_spec (hreach : poll.reach = .answered)
    (hhanded : ∀ id ∈ poller.marked config poll, HandedOver config poller poll id)
    (hmarks : ∀ id ∈ (poller.marked config poll).dropLast, poll.marks id = true) :
    (poller.pollAccount config poll).folder = poller.fetchedFolder config poll ∧
      poller.delivered ⊆ (poller.pollAccount config poll).delivered ∧
      (∀ id ∈ poller.marked config poll, id ∈ (poller.pollAccount config poll).delivered) ∧
      (((∀ id ∈ poller.marked config poll, poll.marks id = true) ∧
          (poller.pollAccount config poll).last = some poll.now) ∨
        (poller.pollAccount config poll).last = poller.last) := by
  obtain ⟨hids, hkeys⟩ := emails_eq hhanded
  obtain ⟨keyed, hkeyed, hfst, hfound⟩ := mapM_keys fun email hemail =>
    (hkeys email hemail).imp fun _ h => h.1
  have hnew : (keyed.filter fun email => email.2 ∉ poller.seen) = keyed := by
    rw [List.filter_eq_self]
    intro email hemail
    obtain ⟨other, hother, -, hkey⟩ := hfound email hemail
    obtain ⟨key, hkey', hnotin⟩ := hkeys other hother
    rw [hkey'] at hkey
    obtain rfl := Except.ok.inj hkey
    exact decide_eq_true hnotin
  rw [hids] at hfst
  unfold Poller.pollAccount
  rw [hreach]
  simp only
  by_cases hempty : (poller.emails config poll).isEmpty = true
  · have hnil : poller.marked config poll = [] := by
      rw [← hids, List.isEmpty_iff.mp hempty, List.map_nil]
    rw [if_pos hempty, hnil]
    exact ⟨rfl, List.Subset.refl _, fun _ h => (nomatch h), .inl ⟨fun _ h => (nomatch h), rfl⟩⟩
  · rw [if_neg hempty, hkeyed]
    simp only
    rw [hnew]
    have hsome : keyed.isEmpty = false := by
      cases keyed with
      | nil =>
          rw [List.map_nil, ← hids] at hfst
          exact absurd (List.isEmpty_iff.mpr (List.map_eq_nil_iff.mp hfst.symm)) hempty
      | cons _ _ => rfl
    rw [hsome]
    simp only [Bool.false_eq_true, if_false]
    have hall : ∀ email ∈ keyed, handsOver config (poll.deliveries email.1) = true := by
      intro email hemail
      have hmem : email.1 ∈ poller.marked config poll := hfst ▸ List.mem_map_of_mem hemail
      exact (hhanded _ hmem).2.1
    obtain ⟨hdelivered, hnotified⟩ := deliverAll_spec
      { poller with folder := poller.fetchedFolder config poll } hall (hfst ▸ hmarks)
    obtain ⟨hfolder, hlast⟩ := deliverAll_frame config poll
      { poller with folder := poller.fetchedFolder config poll } keyed
    have hsubset := delivered_subset_deliverAll config poll
      { poller with folder := poller.fetchedFolder config poll } keyed
    have hmarked : ∀ id ∈ poller.marked config poll, id ∈ (Poller.deliverAll config poll
        { poller with folder := poller.fetchedFolder config poll } keyed).1.delivered := by
      intro id hid
      rw [← hfst] at hid
      obtain ⟨email, hemail, rfl⟩ := List.mem_map.mp hid
      exact hdelivered email hemail
    rw [hfst] at hnotified
    split
    · next after heq =>
      rw [heq] at hfolder hsubset hmarked hnotified
      exact ⟨hfolder, hsubset, hmarked, .inl ⟨hnotified.mp rfl, rfl⟩⟩
    · next after result _ heq =>
      rw [heq] at hfolder hsubset hmarked hlast
      exact ⟨hfolder, hsubset, hmarked, .inr hlast⟩

/-- A step that loses no mail keeps every mail. -/
theorem kept_step {event : Event} (h : Kept poller) (hkeeps : Keeps config poller event) :
    Kept (step config poller event) := by
  cases event with
  | arrive internalDate parsed =>
      intro id mail hmail
      replace hmail :
          (poller.folder ++ [(⟨internalDate, parsed, false⟩ : Mail)])[id]? = some mail := hmail
      rcases Nat.lt_or_ge id poller.folder.length with hlt | hge
      · rw [List.getElem?_append_left hlt] at hmail
        exact h id mail hmail
      · rw [List.getElem?_append_right hge] at hmail
        obtain rfl := List.mem_singleton.mp (List.mem_of_getElem? hmail)
        exact .inr ⟨rfl, hkeeps⟩
  | restart =>
      intro id mail hmail
      rcases h id mail hmail with hdelivered | ⟨hseen, -⟩
      · exact .inl hdelivered
      · exact .inr ⟨hseen, fun stored hstored =>
          hkeeps stored hstored id mail hmail hseen (List.not_mem_nil)⟩
  | poll poll =>
      show Kept (poller.pollAccount config poll)
      have hpoll := hkeeps
      unfold Keeps at hpoll
      simp only at hpoll
      cases hreach : poll.reach with
      | raised =>
          unfold Poller.pollAccount
          rw [hreach]
          exact h
      | refused =>
          rw [hreach] at hpoll
          unfold Poller.pollAccount
          rw [hreach]
          intro id mail hmail
          rcases h id mail hmail with hdelivered | ⟨hseen, -⟩
          · exact .inl hdelivered
          · refine .inr ⟨hseen, fun last hlast => ?_⟩
            obtain rfl := Option.some.inj hlast
            exact hpoll id mail hmail hseen List.not_mem_nil
      | answered =>
          rw [hreach] at hpoll
          obtain ⟨hhanded, hmarks, hleft⟩ := hpoll
          obtain ⟨hfolder, hsubset, hdelivered, hlast⟩ := pollAccount_spec hreach hhanded hmarks
          intro id mail hmail
          rw [hfolder, fetchedFolder_getElem?, Option.map_eq_some_iff] at hmail
          obtain ⟨before, hbefore, hmail⟩ := hmail
          by_cases hid : id ∈ poller.marked config poll
          · exact .inl (hdelivered id hid)
          · rw [if_neg hid] at hmail
            obtain rfl := hmail
            rcases h id before hbefore with hold | ⟨hseen, hdate⟩
            · exact .inl (hsubset hold)
            · refine .inr ⟨hseen, fun last hsome => ?_⟩
              rcases hlast with ⟨hstored, hnow⟩ | hsame
              · rw [hnow] at hsome
                obtain rfl := Option.some.inj hsome
                exact hleft hstored id before hbefore hseen hid
              · rw [hsame] at hsome
                exact hdate last hsome

theorem stays_step {id internalDate : Nat} {parsed : Option EmailMessage}
    (h : ∃ seen, poller.folder[id]? = some ⟨internalDate, parsed, seen⟩) (event : Event) :
    ∃ seen, (step config poller event).folder[id]? = some ⟨internalDate, parsed, seen⟩ := by
  obtain ⟨seen, hmail⟩ := h
  cases event with
  | arrive internalDate' parsed' =>
      obtain ⟨hlt, -⟩ := List.getElem?_eq_some_iff.mp hmail
      refine ⟨seen, ?_⟩
      show (poller.folder ++ [_])[id]? = _
      rw [List.getElem?_append_left hlt]
      exact hmail
  | restart => exact ⟨seen, hmail⟩
  | poll poll =>
      show ∃ seen, (poller.pollAccount config poll).folder[id]? = _
      rcases pollAccount_folder config poller poll with hsame | hfetched
      · rw [hsame]
        exact ⟨seen, hmail⟩
      · rw [hfetched, fetchedFolder_getElem?, hmail, Option.map_some]
        by_cases hid : id ∈ poller.marked config poll
        · rw [if_pos hid]
          exact ⟨true, rfl⟩
        · rw [if_neg hid]
          exact ⟨seen, rfl⟩

theorem lost_step {id : Nat} {mail : Mail} (hmail : poller.folder[id]? = some mail)
    (hseen : mail.seen = true) (hdelivered : id ∉ poller.delivered) (event : Event) :
    (step config poller event).folder[id]? = some mail ∧
      id ∉ (step config poller event).delivered := by
  cases event with
  | arrive internalDate parsed =>
      refine ⟨?_, hdelivered⟩
      obtain ⟨hlt, -⟩ := List.getElem?_eq_some_iff.mp hmail
      show (poller.folder ++ _)[id]? = some mail
      rw [List.getElem?_append_left hlt]
      exact hmail
  | restart => exact ⟨hmail, hdelivered⟩
  | poll poll =>
      have hoffered : id ∉ poller.ids config := by
        intro hid
        have hoffer := isOffered_of_mem_ids hid
        unfold Poller.isOffered at hoffer
        rw [hmail] at hoffer
        simp [hseen] at hoffer
      constructor
      · show (poller.pollAccount config poll).folder[id]? = some mail
        have hmarked : id ∉ poller.marked config poll :=
          fun h => hoffered (List.mem_filter.mp h).1
        rcases pollAccount_folder config poller poll with hsame | hfetched
        · rw [hsame]
          exact hmail
        · rw [hfetched, fetchedFolder_getElem?, hmail, Option.map_some, if_neg hmarked]
      · intro hmem
        rcases delivered_pollAccount hmem with hold | hnow
        · exact hdelivered hold
        · exact hoffered hnow

/-- A poll that reaches the server and at which no request fails. -/
def Succeeds (config : Config) (poll : Poll) : Prop :=
  poll.reach = .answered ∧ poll.saves = true ∧ ∀ id, poll.fetches id = .answered ∧
    handsOver config (poll.deliveries id) = true ∧ poll.marks id = true

/-- Every mail that arrives is handed over. -/
def AllDelivered (config : Config) (events : Nat → Event) : Prop :=
  ∀ number internalDate parsed, events number = .arrive internalDate parsed →
    ∃ later, number < later ∧ (stateAt (step config) .start events number).folder.length ∈
      (stateAt (step config) .start events later).delivered

/-- Every mail is delivered if no step loses one, polls go on with their clock, and they succeed from
some point on. -/
theorem every_mail_delivered (config : Config) (events : Nat → Event) (start : Nat)
    (hkeeps : ∀ number, Keeps config (stateAt (step config) .start events number) (events number))
    (hclock : ∀ bound, ∃ number poll,
      bound ≤ number ∧ events number = .poll poll ∧ bound ≤ poll.now)
    (hsucceeds : ∀ number, start ≤ number → ∀ poll, events number = .poll poll →
      Succeeds config poll) :
    AllDelivered config events := by
  intro number internalDate parsed harrive
  have hkept : ∀ number, Kept (stateAt (step config) .start events number) := by
    intro number
    induction number with
    | zero => exact fun id mail hmail => (nomatch hmail)
    | succ number ih => exact kept_step ih (hkeeps number)
  -- The mail stays in the folder.
  have hthere : ∀ later, number + 1 ≤ later → ∃ seen, (stateAt (step config) .start events
      later).folder[(stateAt (step config) .start events number).folder.length]? =
        some ⟨internalDate, parsed, seen⟩ := by
    intro later hlater
    have hstays : ∀ (poller : Poller) (event : Event),
        (∃ seen, poller.folder[(stateAt (step config) .start events number).folder.length]? =
          some ⟨internalDate, parsed, seen⟩) →
        ∃ seen, (step config poller event).folder[(stateAt (step config) .start events
          number).folder.length]? = some ⟨internalDate, parsed, seen⟩ :=
      fun poller event h => stays_step h event
    refine stateAt_keeps hstays hlater ⟨false, ?_⟩
    show (step config _ (events number)).folder[_]? = _
    rw [harrive]
    show (_ ++ [_])[_]? = _
    rw [List.getElem?_append_right (Nat.le_refl _), Nat.sub_self]
    rfl
  -- The first poll that succeeds after the day of the mail.
  obtain ⟨later, poll, hlater, hpoll, hnow⟩ :=
    hclock (max (max start (number + 1)) ((internalDate + 1) * 86400))
  obtain ⟨seen, hmail⟩ := hthere later (by omega)
  obtain ⟨hreach, -, hfine⟩ := hsucceeds later (by omega) poll hpoll
  have hkeep := hkeeps later
  rw [hpoll] at hkeep
  unfold Keeps at hkeep
  simp only at hkeep
  rw [hreach] at hkeep
  obtain ⟨hhanded, hmarks, hleft⟩ := hkeep
  obtain ⟨-, hsubset, hdelivered, -⟩ := pollAccount_spec hreach hhanded hmarks
  refine ⟨later + 1, by omega, ?_⟩
  show _ ∈ (step config _ (events later)).delivered
  rw [hpoll]
  by_cases hmarked : (stateAt (step config) .start events number).folder.length ∈
      (stateAt (step config) .start events later).marked config poll
  · exact hdelivered _ hmarked
  · rcases hkept later _ _ hmail with hold | ⟨hunseen, -⟩
    · exact hsubset hold
    · have hday := hleft (fun id _ => (hfine id).2.2) _ _ hmail hunseen hmarked
      unfold day at hday
      simp only at hday
      omega

end Keeping

/-- An account with a producer for Kafka and fifty mails in a page. -/
def shopConfig : Config := ⟨true, true, 50, fun _ => ""⟩

/-- A poll at which only Kafka may fail. -/
def shopPoll (taken : Bool) (now : Nat) : Poll :=
  ⟨now, .answered, fun _ => .answered, fun _ => ⟨taken, none⟩, fun _ => true, true⟩

/-- One mail, and polls of which the first one meets a Kafka that takes it or does not. -/
def shopEvents (taken : Bool) : Nat → Event
  | 0 => .arrive 0 (some ⟨"<1@shop>", "Order", none, none⟩)
  | 1 => .poll (shopPoll taken 0)
  | number + 2 => .poll (shopPoll true (number + 1))

theorem shopEvents_clock (taken : Bool) (bound : Nat) :
    ∃ number poll, bound ≤ number ∧ shopEvents taken number = .poll poll ∧ bound ≤ poll.now :=
  ⟨bound + 2, _, Nat.le_add_right _ _, rfl, Nat.le_succ _⟩

theorem shopEvents_succeeds (taken : Bool) {number : Nat} (h : 2 ≤ number) {poll : Poll}
    (hpoll : shopEvents taken number = .poll poll) : Succeeds shopConfig poll := by
  obtain ⟨number, rfl⟩ := Nat.exists_eq_add_of_le' h
  obtain rfl := Event.poll.inj hpoll
  exact ⟨rfl, rfl, fun _ => ⟨rfl, rfl, rfl⟩⟩

/-- Two mails, two polls that do not reach the folder, and polls that succeed. -/
def delayedEvents : Nat → Event
  | 0 => .arrive 0 (some ⟨"<1@shop>", "Order", none, none⟩)
  | 1 => .arrive 0 (some ⟨"<2@shop>", "Order", none, none⟩)
  | 2 => .poll { shopPoll true 0 with reach := .raised }
  | 3 => .poll { shopPoll true 0 with reach := .refused }
  | 4 => .poll (shopPoll true 0)
  | number + 5 => .poll (shopPoll true (number + 1))

theorem delayedEvents_succeeds {number : Nat} (h : 4 ≤ number) {poll : Poll}
    (hpoll : delayedEvents number = .poll poll) : Succeeds shopConfig poll := by
  obtain ⟨number, rfl⟩ := Nat.exists_eq_add_of_le' h
  cases number <;> (obtain rfl := Event.poll.inj hpoll; exact ⟨rfl, rfl, fun _ => ⟨rfl, rfl, rfl⟩⟩)

/-- After the first poll that gets to the folder, it holds the two mails, which have the flag. -/
theorem delayedEvents_folder (number : Nat) :
    (stateAt (step shopConfig) .start delayedEvents (number + 5)).folder =
      [⟨0, some ⟨"<1@shop>", "Order", none, none⟩, true⟩,
        ⟨0, some ⟨"<2@shop>", "Order", none, none⟩, true⟩] := by
  induction number with
  | zero => rfl
  | succ number ih =>
      show (Poller.pollAccount shopConfig _ (shopPoll true (number + 1))).folder = _
      rcases pollAccount_folder shopConfig (stateAt (step shopConfig) .start delayedEvents
        (number + 5)) (shopPoll true (number + 1)) with hsame | hfetched
      · rw [hsame, ih]
      · rw [hfetched, Poller.fetchedFolder, ih, List.mapIdx_cons, List.mapIdx_cons]
        split <;> split <;> rfl

theorem delayedEvents_seen {number id : Nat} {mail : Mail}
    (hmail : (stateAt (step shopConfig) .start delayedEvents (number + 5)).folder[id]? = some mail) :
    mail.seen = true := by
  rw [delayedEvents_folder number] at hmail
  rcases List.mem_cons.mp (List.mem_of_getElem? hmail) with rfl | hmem
  · rfl
  · obtain rfl := List.mem_singleton.mp hmem
    rfl

theorem not_mem_ids_delayedEvents (number id : Nat) :
    id ∉ (stateAt (step shopConfig) .start delayedEvents (number + 5)).ids shopConfig := by
  intro hid
  have hoffered := isOffered_of_mem_ids hid
  unfold Poller.isOffered at hoffered
  split at hoffered
  · next mail hmail => simp [delayedEvents_seen hmail] at hoffered
  · cases hoffered

/-- Both mails are handed over by the first poll that gets to the folder. -/
theorem shop_mail_delivered : AllDelivered shopConfig delayedEvents := by
  refine every_mail_delivered shopConfig delayedEvents 4 ?_
    (fun bound => ⟨bound + 5, _, Nat.le_add_right _ _, rfl, Nat.le_succ _⟩)
    fun number hnumber poll hpoll => delayedEvents_succeeds hnumber hpoll
  intro number
  match number with
  | 0 => exact fun last hlast => (nomatch hlast)
  | 1 => exact fun last hlast => (nomatch hlast)
  | 2 => trivial
  | 3 => exact fun _ _ _ _ _ => (Nat.zero_div _).le.trans (Nat.zero_le _)
  | 4 =>
      refine ⟨?_, fun _ _ => rfl, ?_⟩
      · intro id hid
        rcases List.mem_cons.mp hid with rfl | hid
        · exact ⟨rfl, rfl, _, _, rfl, rfl, List.not_mem_nil⟩
        · obtain rfl := List.mem_singleton.mp hid
          exact ⟨rfl, rfl, _, _, rfl, rfl, List.not_mem_nil⟩
      · intro _ id mail hmail _ hnot
        match id with
        | 0 => exact absurd List.mem_cons_self hnot
        | 1 => exact absurd (List.mem_cons_of_mem _ List.mem_cons_self) hnot
        | id + 2 => exact (nomatch hmail)
  | number + 5 =>
      refine ⟨?_, fun _ _ => rfl, ?_⟩
      · intro id hid
        exact absurd (List.mem_filter.mp hid).1 (not_mem_ids_delayedEvents number id)
      · intro _ id mail hmail hunseen
        rw [delayedEvents_seen hmail] at hunseen
        cases hunseen

/-- A mail that Kafka does not take at the first poll is never handed over, although all later polls
succeed. -/
theorem shop_mail_lost :
    (∀ bound, ∃ number poll, bound ≤ number ∧ shopEvents false number = .poll poll ∧
      bound ≤ poll.now) ∧
    (∀ number, 2 ≤ number → ∀ poll, shopEvents false number = .poll poll →
      Succeeds shopConfig poll) ∧
    ¬ AllDelivered shopConfig (shopEvents false) := by
  refine ⟨shopEvents_clock false,
    fun number hnumber poll hpoll => shopEvents_succeeds false hnumber hpoll, fun h => ?_⟩
  obtain ⟨later, hlater, hdelivered⟩ := h 0 _ _ rfl
  have hlost : ∀ (poller : Poller) (event : Event),
      ((∃ mail : Mail, poller.folder[0]? = some mail ∧ mail.seen = true) ∧ 0 ∉ poller.delivered) →
      ((∃ mail : Mail, (step shopConfig poller event).folder[0]? = some mail ∧ mail.seen = true) ∧
        0 ∉ (step shopConfig poller event).delivered) := by
    rintro poller event ⟨⟨mail, hmail, hseen⟩, hnot⟩
    have hstep := @lost_step shopConfig _ _ _ hmail hseen hnot event
    exact ⟨⟨mail, hstep.1, hseen⟩, hstep.2⟩
  have hsecond : (∃ mail : Mail, (stateAt (step shopConfig) .start (shopEvents false)
      2).folder[0]? = some mail ∧ mail.seen = true) ∧
      0 ∉ (stateAt (step shopConfig) .start (shopEvents false) 2).delivered :=
    ⟨⟨_, rfl, rfl⟩, by decide⟩
  rcases Nat.lt_or_ge later 2 with hlt | hge
  · obtain rfl : later = 1 := by omega
    exact absurd hdelivered (by decide)
  · exact (stateAt_keeps hlost hge hsecond).2 hdelivered

end Email

end IntegrationPlatform
