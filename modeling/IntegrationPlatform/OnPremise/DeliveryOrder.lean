import IntegrationPlatform.OnPremise.OfflineQueue
import Mathlib.Data.List.Nodup

/-!
# The order of delivery

Rows are sent in the order of their ids, but a row that is refused stays behind while newer rows of
its entity are accepted. `last_write_wins` says which flushes keep the order of each entity.
-/

namespace IntegrationPlatform

namespace OnPremise

variable {κ : Type}

/-! ## Runs of the queue -/

/-- What happens to the queue: something is queued, or the queue is sent. -/
inductive Happening where
  | enqueue (entry : Entry)
  | flush (reply : Nat → Reply)

namespace Agent

/-- The agent of a new database. -/
def fresh : Agent := ⟨.empty, []⟩

/-- The agent after something has happened. -/
def react (agent : Agent) : Happening → Agent
  | .enqueue entry => { agent with queue := agent.queue.enqueue entry }
  | .flush reply => agent.flushQueue reply

/-- The ids of the rows of an entity, in the order in which they were queued. -/
def enqueued [DecidableEq κ] (entity : Entry → κ) (agent : Agent) (key : κ) : List Nat :=
  (agent.queue.items.filter fun item => entity item.entry = key).map QueueItem.id

/-- The ids of the rows of an entity that the platform has accepted, in the order in which it has. -/
def accepted [DecidableEq κ] (entity : Entry → κ) (agent : Agent) (key : κ) : List Nat :=
  agent.sent.filter fun id => id ∈ agent.enqueued entity key

/-- The platform has accepted the rows of each entity in the order in which they were queued, and
once nothing is left to send, the last one that it has accepted is the newest. -/
structure LastWriteWins [DecidableEq κ] (entity : Entry → κ) (agent : Agent) : Prop where
  inOrder : ∀ key, (agent.accepted entity key).Pairwise (· < ·)
  last : agent.queue.due = [] →
    ∀ key, (agent.accepted entity key).getLast? = (agent.enqueued entity key).getLast?

end Agent

/-- The rows that a flush sends and the platform accepts. -/
def acceptedItems (reply : Nat → Reply) : List QueueItem → List QueueItem
  | [] => []
  | item :: rest =>
      match reply item.id with
      | .response statusCode _ =>
          if statusCode < 300 then item :: acceptedItems reply rest else acceptedItems reply rest
      | .requestError _ => []

/-- The rows that a flush sends in vain. -/
def failedItems (reply : Nat → Reply) : List QueueItem → List QueueItem
  | [] => []
  | item :: rest =>
      match reply item.id with
      | .response statusCode _ =>
          if statusCode < 300 then failedItems reply rest else item :: failedItems reply rest
      | .requestError _ => [item]

namespace Agent

/-- A flush accepts no row over an older one of its entity that fails and is sent again, and no
entity loses its newest row with the last attempt. -/
structure OrderlyFlush (entity : Entry → κ) (agent : Agent) (reply : Nat → Reply) : Prop where
  noOvertaking : ∀ failed ∈ failedItems reply (agent.queue.getPending flushLimit),
    ∀ newer ∈ acceptedItems reply (agent.queue.getPending flushLimit),
      entity newer.entry = entity failed.entry → failed.id < newer.id →
        failed.maxAttempts ≤ failed.attempts + 1
  keepsNewest : ∀ failed ∈ failedItems reply (agent.queue.getPending flushLimit),
    failed.maxAttempts ≤ failed.attempts + 1 →
      ∃ newer ∈ agent.queue.items, entity newer.entry = entity failed.entry ∧ failed.id < newer.id

/-- Every flush is orderly. -/
def Orderly (entity : Entry → κ) (agent : Agent) : Happening → Prop
  | .enqueue _ => True
  | .flush reply => agent.OrderlyFlush entity reply

/-! ## Rows of one entity -/

/-- The rows of each entity are accepted in order: those that are still pending come after those
that were accepted, and a dead one has a newer one. -/
structure InOrder [DecidableEq κ] (entity : Entry → κ) (agent : Agent) : Prop where
  sent_iff : ∀ id, id ∈ agent.sent ↔
    ∃ item ∈ agent.queue.items, item.id = id ∧ item.status = .processed
  inOrder : ∀ key, (agent.accepted entity key).Pairwise (· < ·)
  attempts : ∀ item ∈ agent.queue.items, item.status = .pending → item.attempts < item.maxAttempts
  waiting : ∀ item ∈ agent.queue.items, item.status = .pending →
    ∀ old ∈ agent.queue.items, old.status = .processed →
      entity old.entry = entity item.entry → old.id < item.id
  dead : ∀ item ∈ agent.queue.items, item.status = .deadLetter →
    ∃ newer ∈ agent.queue.items, entity newer.entry = entity item.entry ∧ item.id < newer.id

end Agent

variable {entity : Entry → κ} {queue : OfflineQueue} {agent : Agent} {item : QueueItem}
  {change : QueueItem → QueueItem}

theorem eq_of_id {other : QueueItem} (hitem : item ∈ queue.items) (hother : other ∈ queue.items)
    (hid : item.id = other.id) : item = other := by
  have hids : (queue.items.map QueueItem.id).Nodup :=
    List.pairwise_map.mpr (queue.ordered.imp fun hlt => hlt.ne)
  exact List.inj_on_of_nodup_map hids hitem hother hid

variable {found : QueueItem}

theorem mem_update (hitem : item ∈ queue.items) (hid : ∀ item, (change item).id = item.id) :
    found ∈ (queue.update item.id change hid).items ↔
      found = change item ∨ found ∈ queue.items ∧ found.id ≠ item.id := by
  show found ∈ queue.items.map _ ↔ _
  rw [List.mem_map]
  constructor
  · rintro ⟨old, hold, rfl⟩
    split
    · next hsame =>
      rw [eq_of_id hold hitem hsame]
      exact .inl rfl
    · next hne => exact .inr ⟨hold, hne⟩
  · rintro (rfl | ⟨hfound, hne⟩)
    · exact ⟨item, hitem, if_pos rfl⟩
    · exact ⟨found, hfound, if_neg hne⟩

theorem mem_markProcessed (hitem : item ∈ queue.items) :
    found ∈ (queue.markProcessed item.id).items ↔
      found = item.processed ∨ found ∈ queue.items ∧ found.id ≠ item.id :=
  mem_update hitem _

theorem mem_markFailed {error : String} (hitem : item ∈ queue.items) :
    found ∈ (queue.markFailed item.id error).items ↔
      found = item.failed error ∨ found ∈ queue.items ∧ found.id ≠ item.id :=
  mem_update hitem _

theorem exists_newer_update (change : QueueItem → QueueItem) (hitem : item ∈ queue.items)
    (hid : ∀ item, (change item).id = item.id)
    (hentry : (change item).entry = item.entry) {key : κ} {id : Nat}
    (h : ∃ newer ∈ queue.items, entity newer.entry = key ∧ id < newer.id) :
    ∃ newer ∈ (queue.update item.id change hid).items, entity newer.entry = key ∧ id < newer.id := by
  obtain ⟨newer, hnewer, hkey, hlt⟩ := h
  by_cases hsame : newer.id = item.id
  · obtain rfl := eq_of_id hnewer hitem hsame
    exact ⟨change newer, (mem_update hitem hid).mpr (.inl rfl), by rw [hentry]; exact hkey,
      by rw [hid]; exact hlt⟩
  · exact ⟨newer, (mem_update hitem hid).mpr (.inr ⟨hnewer, hsame⟩), hkey, hlt⟩

theorem getLast?_eq_some_of_le {ids : List Nat} {newest : Nat} (hsorted : ids.Pairwise (· < ·))
    (hmem : newest ∈ ids) (hle : ∀ id ∈ ids, id ≤ newest) : ids.getLast? = some newest := by
  obtain ⟨before, after, rfl⟩ := List.append_of_mem hmem
  cases after with
  | nil => exact List.getLast?_concat
  | cons next rest =>
      have hlt := List.rel_of_pairwise_cons (List.pairwise_append.mp hsorted).2.1 List.mem_cons_self
      have hnext := hle next (List.mem_append_right _ (List.mem_cons_of_mem _ List.mem_cons_self))
      exact absurd hlt hnext.not_gt

namespace Agent

variable [DecidableEq κ]

theorem enqueued_update (id : Nat) (change : QueueItem → QueueItem)
    (hid : ∀ item, (change item).id = item.id)
    (hentry : ∀ item, (change item).entry = item.entry) (sent : List Nat) (key : κ) :
    enqueued entity ⟨agent.queue.update id change hid, sent⟩ key = agent.enqueued entity key := by
  unfold enqueued OfflineQueue.update
  rw [List.filter_map, List.map_map]
  have hids : QueueItem.id ∘ (fun item => if item.id = id then change item else item) =
      QueueItem.id := by
    funext item
    show (if item.id = id then change item else item).id = item.id
    split
    · exact hid item
    · rfl
  rw [hids]
  congr 1
  refine List.filter_congr fun item _ => ?_
  show decide (entity (if item.id = id then change item else item).entry = key) = _
  split
  · rw [hentry]
  · rfl

theorem mem_enqueued {key : κ} {id : Nat} :
    id ∈ agent.enqueued entity key ↔
      ∃ item ∈ agent.queue.items, entity item.entry = key ∧ item.id = id := by
  unfold enqueued
  simp [and_assoc]

theorem accepted_enqueue (h : agent.InOrder entity) (entry : Entry) (key : κ) :
    (agent.react (.enqueue entry)).accepted entity key = agent.accepted entity key := by
  refine List.filter_congr fun id hid => decide_eq_decide.mpr ?_
  obtain ⟨item, hitem, rfl, -⟩ := (h.sent_iff id).mp hid
  rw [mem_enqueued, mem_enqueued]
  constructor
  · rintro ⟨found, hfound, hkey, hsame⟩
    rcases List.mem_append.mp hfound with hfound | hnew
    · exact ⟨found, hfound, hkey, hsame⟩
    · rw [List.mem_singleton.mp hnew] at hsame
      exact absurd hsame (agent.queue.below item hitem).ne'
  · rintro ⟨found, hfound, hkey, hsame⟩
    exact ⟨found, List.mem_append_left _ hfound, hkey, hsame⟩

theorem InOrder.enqueue (h : agent.InOrder entity) (entry : Entry) :
    (agent.react (.enqueue entry)).InOrder entity where
  sent_iff id := by
    refine (h.sent_iff id).trans ⟨?_, ?_⟩
    · rintro ⟨item, hitem, hid, hstatus⟩
      exact ⟨item, List.mem_append_left _ hitem, hid, hstatus⟩
    · rintro ⟨item, hitem, hid, hstatus⟩
      rcases List.mem_append.mp hitem with hitem | hnew
      · exact ⟨item, hitem, hid, hstatus⟩
      · rw [List.mem_singleton.mp hnew] at hstatus
        cases hstatus
  inOrder key := by
    rw [accepted_enqueue h entry key]
    exact h.inOrder key
  attempts item hitem hstatus := by
    rcases List.mem_append.mp hitem with hitem | hnew
    · exact h.attempts item hitem hstatus
    · rw [List.mem_singleton.mp hnew]
      exact Nat.zero_lt_succ 4
  waiting item hitem hstatus old hold hprocessed hkey := by
    rcases List.mem_append.mp hold with hold | hnew
    · rcases List.mem_append.mp hitem with hitem | hnew
      · exact h.waiting item hitem hstatus old hold hprocessed hkey
      · rw [List.mem_singleton.mp hnew]
        exact agent.queue.below old hold
    · rw [List.mem_singleton.mp hnew] at hprocessed
      cases hprocessed
  dead item hitem hstatus := by
    rcases List.mem_append.mp hitem with hitem | hnew
    · obtain ⟨newer, hnewer, hkey, hlt⟩ := h.dead item hitem hstatus
      exact ⟨newer, List.mem_append_left _ hnewer, hkey, hlt⟩
    · rw [List.mem_singleton.mp hnew] at hstatus
      cases hstatus

/-- A row is accepted when no older one of its entity is pending. -/
theorem InOrder.processed (h : agent.InOrder entity) (hitem : item ∈ agent.queue.items)
    (hpending : item.status = .pending)
    (hfirst : ∀ other ∈ agent.queue.items, other.status = .pending →
      entity other.entry = entity item.entry → item.id ≤ other.id) :
    InOrder entity ⟨agent.queue.markProcessed item.id, agent.sent ++ [item.id]⟩ where
  sent_iff id := by
    show id ∈ agent.sent ++ [item.id] ↔
      ∃ found ∈ (agent.queue.markProcessed item.id).items, found.id = id ∧ found.status = .processed
    rw [List.mem_append, List.mem_singleton, h.sent_iff id]
    constructor
    · rintro (⟨old, hold, rfl, hstatus⟩ | rfl)
      · refine ⟨old, (mem_markProcessed hitem).mpr (.inr ⟨hold, fun hsame => ?_⟩), rfl, hstatus⟩
        rw [eq_of_id hold hitem hsame, hpending] at hstatus
        cases hstatus
      · exact ⟨item.processed, (mem_markProcessed hitem).mpr (.inl rfl), rfl, rfl⟩
    · rintro ⟨found, hfound, rfl, hstatus⟩
      rcases (mem_markProcessed hitem).mp hfound with rfl | ⟨hold, -⟩
      · exact .inr rfl
      · exact .inl ⟨found, hold, rfl, hstatus⟩
  inOrder key := by
    have hsame : accepted entity ⟨agent.queue.markProcessed item.id, agent.sent ++ [item.id]⟩ key =
        agent.accepted entity key ++
          [item.id].filter fun id => id ∈ agent.enqueued entity key := by
      unfold accepted
      rw [show enqueued entity ⟨agent.queue.markProcessed item.id, agent.sent ++ [item.id]⟩ key =
        agent.enqueued entity key from
          enqueued_update _ .processed (fun _ => rfl) (fun _ => rfl) _ key, List.filter_append]
    rw [hsame, List.pairwise_append]
    refine ⟨h.inOrder key, (List.pairwise_singleton _ _).filter _, ?_⟩
    intro id hid last hlast
    obtain ⟨hsent, hmem⟩ := List.mem_filter.mp hid
    obtain ⟨hlast, hmem'⟩ := List.mem_filter.mp hlast
    rw [List.mem_singleton.mp hlast] at hmem' ⊢
    -- Both rows belong to the entity, and the first one was accepted before.
    obtain ⟨old, hold, hkey, rfl⟩ := mem_enqueued.mp (of_decide_eq_true hmem)
    obtain ⟨found, hfound, hkey', hid'⟩ := mem_enqueued.mp (of_decide_eq_true hmem')
    obtain ⟨row, hrow, hrowid, hprocessed⟩ := (h.sent_iff old.id).mp hsent
    rw [eq_of_id hfound hitem hid'] at hkey'
    rw [eq_of_id hrow hold hrowid] at hprocessed
    exact h.waiting item hitem hpending old hold hprocessed (hkey.trans hkey'.symm)
  attempts found hfound hstatus := by
    rcases (mem_markProcessed hitem).mp hfound with rfl | ⟨hold, -⟩
    · cases hstatus
    · exact h.attempts found hold hstatus
  waiting found hfound hstatus old hold hprocessed hkey := by
    rcases (mem_markProcessed hitem).mp hfound with rfl | ⟨hfound, hne⟩
    · cases hstatus
    · rcases (mem_markProcessed hitem).mp hold with rfl | ⟨hold, -⟩
      · exact lt_of_le_of_ne (hfirst found hfound hstatus hkey.symm) hne.symm
      · exact h.waiting found hfound hstatus old hold hprocessed hkey
  dead found hfound hstatus := by
    rcases (mem_markProcessed hitem).mp hfound with rfl | ⟨hold, -⟩
    · cases hstatus
    · exact exists_newer_update .processed hitem (fun _ => rfl) rfl (h.dead found hold hstatus)

/-- A row fails that is sent again, or is not the newest of its entity. -/
theorem InOrder.failed (h : agent.InOrder entity) (hitem : item ∈ agent.queue.items)
    (hpending : item.status = .pending) (error : String)
    (hnewest : item.maxAttempts ≤ item.attempts + 1 →
      ∃ newer ∈ agent.queue.items, entity newer.entry = entity item.entry ∧ item.id < newer.id) :
    InOrder entity { agent with queue := agent.queue.markFailed item.id error } where
  sent_iff id := by
    refine (h.sent_iff id).trans ⟨?_, ?_⟩
    · rintro ⟨old, hold, rfl, hstatus⟩
      refine ⟨old, (mem_markFailed hitem).mpr (.inr ⟨hold, fun hsame => ?_⟩), rfl, hstatus⟩
      rw [eq_of_id hold hitem hsame, hpending] at hstatus
      cases hstatus
    · rintro ⟨found, hfound, rfl, hstatus⟩
      rcases (mem_markFailed hitem).mp hfound with rfl | ⟨hold, -⟩
      · unfold QueueItem.failed at hstatus
        split at hstatus <;> cases hstatus
      · exact ⟨found, hold, rfl, hstatus⟩
  inOrder key := by
    show (agent.sent.filter fun id => id ∈ enqueued entity
      ⟨agent.queue.markFailed item.id error, agent.sent⟩ key).Pairwise (· < ·)
    rw [show enqueued entity ⟨agent.queue.markFailed item.id error, agent.sent⟩ key =
      agent.enqueued entity key from enqueued_update _ (.failed error) (fun _ => rfl) (fun _ => rfl) _ key]
    exact h.inOrder key
  attempts found hfound hstatus := by
    rcases (mem_markFailed hitem).mp hfound with rfl | ⟨hold, -⟩
    · unfold QueueItem.failed at hstatus ⊢
      split at hstatus
      · cases hstatus
      · next hleft => exact not_le.mp hleft
    · exact h.attempts found hold hstatus
  waiting found hfound hstatus old hold hprocessed hkey := by
    rcases (mem_markFailed hitem).mp hold with rfl | ⟨hold, -⟩
    · unfold QueueItem.failed at hprocessed
      split at hprocessed <;> cases hprocessed
    · rcases (mem_markFailed hitem).mp hfound with rfl | ⟨hfound, -⟩
      · exact h.waiting item hitem hpending old hold hprocessed hkey
      · exact h.waiting found hfound hstatus old hold hprocessed hkey
  dead found hfound hstatus := by
    rcases (mem_markFailed hitem).mp hfound with rfl | ⟨hold, -⟩
    · refine exists_newer_update (.failed error) hitem (fun _ => rfl) rfl (hnewest ?_)
      unfold QueueItem.failed at hstatus
      split at hstatus
      · next hlast => exact hlast
      · cases hstatus
    · exact exists_newer_update (.failed error) hitem (fun _ => rfl) rfl (h.dead found hold hstatus)

/-! ## Flushes -/

omit [DecidableEq κ] in
theorem acceptedItems_subset (reply : Nat → Reply) (items : List QueueItem) :
    acceptedItems reply items ⊆ items := by
  induction items with
  | nil => exact List.Subset.refl _
  | cons item rest ih =>
      unfold acceptedItems
      split
      · split
        · exact List.cons_subset_cons _ ih
        · exact List.Subset.trans ih (List.subset_cons_self _ _)
      · exact List.nil_subset _

/-- An orderly flush keeps the order, when the older rows of what it accepts are sent before. -/
theorem InOrder.flushItems (h : agent.InOrder entity) {reply : Nat → Reply} {items : List QueueItem}
    (hrows : ∀ item ∈ items, item ∈ agent.queue.items ∧ item.status = .pending)
    (hsorted : items.Pairwise fun first second => first.id < second.id)
    (hahead : ∀ newer ∈ acceptedItems reply items, ∀ old ∈ agent.queue.items,
      old.status = .pending → entity old.entry = entity newer.entry → old.id < newer.id →
        old ∈ items)
    (hover : ∀ failed ∈ failedItems reply items, ∀ newer ∈ acceptedItems reply items,
      entity newer.entry = entity failed.entry → failed.id < newer.id →
        failed.maxAttempts ≤ failed.attempts + 1)
    (hkeeps : ∀ failed ∈ failedItems reply items, failed.maxAttempts ≤ failed.attempts + 1 →
      ∃ newer ∈ agent.queue.items,
        entity newer.entry = entity failed.entry ∧ failed.id < newer.id) :
    (flushItems reply items agent).InOrder entity := by
  induction items generalizing agent with
  | nil => exact h
  | cons item rest ih =>
      obtain ⟨hitem, hpending⟩ := hrows item List.mem_cons_self
      obtain ⟨hfirst, hrest⟩ := List.pairwise_cons.mp hsorted
      have hrest_ne : ∀ other ∈ rest, other.id ≠ item.id :=
        fun other hother => (hfirst other hother).ne'
      have hbehind : ∀ old, old ∈ item :: rest → old.id ≠ item.id → old ∈ rest := by
        intro old hold hne
        rcases List.mem_cons.mp hold with rfl | hold
        · exact absurd rfl hne
        · exact hold
      unfold flushItems
      unfold acceptedItems at hahead hover
      unfold failedItems at hover hkeeps
      cases hreply : reply item.id with
      | response statusCode text =>
          simp only [hreply] at hahead hover hkeeps ⊢
          by_cases haccepted : statusCode < 300
          · simp only [if_pos haccepted] at hahead hover hkeeps ⊢
            refine ih (h.processed hitem hpending ?_) ?_ hrest ?_ ?_ ?_
            · -- An older row of the entity would be sent later in this flush.
              intro old hold hwaiting hkey
              by_contra hlt
              rcases List.mem_cons.mp (hahead item List.mem_cons_self old hold hwaiting hkey
                (not_le.mp hlt)) with rfl | hlater
              · exact hlt le_rfl
              · exact hlt (hfirst old hlater).le
            · intro other hother
              obtain ⟨hmem, hstatus⟩ := hrows other (List.mem_cons_of_mem _ hother)
              exact ⟨(mem_markProcessed hitem).mpr (.inr ⟨hmem, hrest_ne other hother⟩), hstatus⟩
            · intro newer hnewer old hold hwaiting hkey hlt
              rcases (mem_markProcessed hitem).mp hold with rfl | ⟨hold, hne⟩
              · cases hwaiting
              · exact hbehind old (hahead newer (List.mem_cons_of_mem _ hnewer) old hold hwaiting hkey
                  hlt) hne
            · exact fun failed hfailed newer hnewer =>
                hover failed hfailed newer (List.mem_cons_of_mem _ hnewer)
            · exact fun failed hfailed hlast => exists_newer_update .processed hitem (fun _ => rfl) rfl
                (hkeeps failed hfailed hlast)
          · simp only [if_neg haccepted] at hahead hover hkeeps ⊢
            refine ih (h.failed hitem hpending _ (hkeeps item List.mem_cons_self)) ?_ hrest ?_ ?_ ?_
            · intro other hother
              obtain ⟨hmem, hstatus⟩ := hrows other (List.mem_cons_of_mem _ hother)
              exact ⟨(mem_markFailed hitem).mpr (.inr ⟨hmem, hrest_ne other hother⟩), hstatus⟩
            · intro newer hnewer old hold hwaiting hkey hlt
              rcases (mem_markFailed hitem).mp hold with rfl | ⟨hold, hne⟩
              · -- The row that has just failed is dead if a newer one of its entity is accepted.
                have hlast := hover item List.mem_cons_self newer hnewer hkey.symm hlt
                unfold QueueItem.failed at hwaiting
                rw [if_pos hlast] at hwaiting
                cases hwaiting
              · exact hbehind old (hahead newer hnewer old hold hwaiting hkey hlt) hne
            · exact fun failed hfailed => hover failed (List.mem_cons_of_mem _ hfailed)
            · exact fun failed hfailed hlast => exists_newer_update (.failed _) hitem (fun _ => rfl) rfl
                (hkeeps failed (List.mem_cons_of_mem _ hfailed) hlast)
      | requestError message =>
          simp only [hreply] at hkeeps ⊢
          exact h.failed hitem hpending _ (hkeeps item (List.mem_singleton_self _))

theorem mem_getPending {old newer : QueueItem} {limit : Nat}
    (hold : old ∈ agent.queue.due) (hnewer : newer ∈ agent.queue.getPending limit)
    (hlt : old.id < newer.id) : old ∈ agent.queue.getPending limit := by
  have hsorted : agent.queue.due.Pairwise fun first second => first.id < second.id :=
    agent.queue.ordered.filter _
  rw [← List.take_append_drop limit agent.queue.due] at hold hsorted
  rcases List.mem_append.mp hold with hold | hold
  · exact hold
  · have hlater := (List.pairwise_append.mp hsorted).2.2 newer hnewer old hold
    exact absurd hlt hlater.not_gt

theorem InOrder.flushQueue (h : agent.InOrder entity) {reply : Nat → Reply}
    (horderly : agent.OrderlyFlush entity reply) : (agent.flushQueue reply).InOrder entity := by
  have hdue : ∀ item ∈ agent.queue.getPending flushLimit, item ∈ agent.queue.due :=
    fun item hitem => List.mem_of_mem_take hitem
  refine h.flushItems ?_ ?_ ?_ horderly.noOvertaking horderly.keepsNewest
  · intro item hitem
    obtain ⟨hmem, hitem⟩ := List.mem_filter.mp (hdue item hitem)
    exact ⟨hmem, of_decide_eq_true (Bool.and_eq_true_iff.mp hitem).1⟩
  · exact (agent.queue.ordered.filter _).sublist (List.take_sublist _ _)
  · intro newer hnewer old hold hpending hkey hlt
    refine mem_getPending (List.mem_filter.mpr ⟨hold, ?_⟩) (acceptedItems_subset _ _ hnewer) hlt
    unfold QueueItem.due
    rw [hpending, decide_eq_true (h.attempts old hold hpending)]
    rfl

/-! ## Whole runs -/

theorem InOrder.react (h : agent.InOrder entity) {happening : Happening}
    (horderly : agent.Orderly entity happening) : (agent.react happening).InOrder entity := by
  cases happening with
  | enqueue entry => exact h.enqueue entry
  | flush reply => exact h.flushQueue horderly

theorem inOrder_fresh : fresh.InOrder entity where
  sent_iff _ := iff_of_false List.not_mem_nil fun ⟨_, hitem, _⟩ => List.not_mem_nil hitem
  inOrder _ := List.Pairwise.nil
  attempts _ hitem := absurd hitem List.not_mem_nil
  waiting _ hitem := absurd hitem List.not_mem_nil
  dead _ hitem := absurd hitem List.not_mem_nil

/-- When the rows of each entity are accepted in order and none is pending, the newest one of an
entity was accepted last. -/
theorem InOrder.lastWriteWins (h : agent.InOrder entity) : agent.LastWriteWins entity where
  inOrder := h.inOrder
  last hdrained key := by
    have hsorted : (agent.enqueued entity key).Pairwise (· < ·) :=
      List.pairwise_map.mpr (agent.queue.ordered.filter _)
    cases hlast : (agent.enqueued entity key).getLast? with
    | none =>
        have hnone : agent.enqueued entity key = [] := List.getLast?_eq_none_iff.mp hlast
        unfold accepted
        simp [hnone]
    | some id =>
        obtain ⟨before, hbefore⟩ := List.getLast?_eq_some_iff.mp hlast
        have hid : id ∈ agent.enqueued entity key := by
          rw [hbefore]
          exact List.mem_append_right _ (List.mem_singleton_self _)
        have hnewest : ∀ other ∈ agent.enqueued entity key, other ≤ id := by
          rw [hbefore] at hsorted ⊢
          intro other hother
          rcases List.mem_append.mp hother with hother | hother
          · exact ((List.pairwise_append.mp hsorted).2.2 other hother id
              (List.mem_singleton_self _)).le
          · exact (List.mem_singleton.mp hother).le
        obtain ⟨newest, hnewestmem, hkey, rfl⟩ := mem_enqueued.mp hid
        have hprocessed : newest.status = .processed := by
          cases hstatus : newest.status with
          | processed => rfl
          | pending =>
              have hdue : newest ∈ agent.queue.due := by
                refine List.mem_filter.mpr ⟨hnewestmem, ?_⟩
                unfold QueueItem.due
                rw [hstatus, decide_eq_true (h.attempts newest hnewestmem hstatus)]
                rfl
              rw [hdrained] at hdue
              exact absurd hdue List.not_mem_nil
          | deadLetter =>
              obtain ⟨newer, hnewer, hsame, hlt⟩ := h.dead newest hnewestmem hstatus
              have hle := hnewest newer.id
                (mem_enqueued.mpr ⟨newer, hnewer, hsame.trans hkey, rfl⟩)
              exact absurd hlt hle.not_gt
        refine getLast?_eq_some_of_le (h.inOrder key) ?_ ?_
        · exact List.mem_filter.mpr
            ⟨(h.sent_iff _).mpr ⟨newest, hnewestmem, rfl, hprocessed⟩, decide_eq_true hid⟩
        · exact fun other hother => hnewest other (of_decide_eq_true (List.mem_filter.mp hother).2)

end Agent

/-- The platform accepts the rows of each entity in order, and the newest one last, in every run
whose flushes accept no row over an older one of its entity that is sent again, and drop no newest
row of an entity. -/
theorem last_write_wins [DecidableEq κ] (entity : Entry → κ) (run : List Happening)
    (horderly : Along Agent.react (Agent.Orderly entity) Agent.fresh run) :
    (run.foldl Agent.react Agent.fresh).LastWriteWins entity :=
  (horderly.foldl (fun _ _ h => Agent.InOrder.react h) Agent.inOrder_fresh).lastWriteWins

/-- The contractor or product that a payload of `sync` describes. -/
def syncedEntity (entry : Entry) : String × Option String :=
  (entry.entityType,
    match entry.payload with
    | .dict fields =>
        match Assoc.find fields "symbol" with
        | some (.str symbol) => some symbol
        | _ => none
    | _ => none)

/-- A contractor under this name. -/
def contractorNamed (name : String) : Happening :=
  .enqueue ⟨"contractor", "sync", .dict [("symbol", .str "K1"), ("short_name", .str name)]⟩

/-- Every send gets this status, apart from that of one row. -/
def replies (statusCode other id : Nat) : Happening :=
  .flush fun sent => .response (if sent = id then other else statusCode) ""

/-- A payload is refused and then accepted, before a newer one is queued. -/
def retriedFirst : List Happening :=
  [contractorNamed "old", replies 500 500 1, contractorNamed "new", replies 200 200 1]

/-- The newer payload arrives last. -/
theorem retried_in_order :
    (retriedFirst.foldl Agent.react Agent.fresh).LastWriteWins syncedEntity := by
  refine last_write_wins syncedEntity retriedFirst ⟨trivial, ?_, trivial, ?_, trivial⟩
  · exact ⟨by decide +kernel, by decide +kernel⟩
  · exact ⟨by decide +kernel, by decide +kernel⟩

/-- The older of two payloads is refused, and accepted in the next flush. -/
def overtaken : List Happening :=
  [contractorNamed "old", contractorNamed "new", replies 200 500 1, replies 200 200 1]

/-- The older payload arrives last. -/
theorem older_payload_wins :
    ¬ ∀ run : List Happening, (run.foldl Agent.react Agent.fresh).LastWriteWins syncedEntity := by
  intro hall
  have horder := (hall overtaken).inOrder ("contractor", some "K1")
  have haccepted : (overtaken.foldl Agent.react Agent.fresh).accepted syncedEntity
      ("contractor", some "K1") = [2, 1] := by decide +kernel
  rw [haccepted] at horder
  exact absurd horder (by decide)

end OnPremise

end IntegrationPlatform
