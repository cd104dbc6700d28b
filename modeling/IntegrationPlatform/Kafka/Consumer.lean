import IntegrationPlatform.Json.Value
import IntegrationPlatform.Transactions.Histories
import Mathlib.Order.Lattice

/-!
# The Kafka consumer

`consume` and `consume_batches` fetch messages, call the handlers of their topics and commit. A commit
stores the position in every partition, so that it covers all messages that have been fetched before,
also those whose handlers have raised. `uncovered_iff` says in which runs no such message is covered.
-/

namespace IntegrationPlatform

namespace Kafka

/-! ## Messages and positions -/

structure TopicPartition where
  topic : String
  partition : Nat
  deriving DecidableEq

/-- The place of a message. -/
structure Record where
  tp : TopicPartition
  offset : Nat
  deriving DecidableEq

/-- A message: what its value decodes to if it is JSON, and its key. -/
structure Message where
  json : Option Value
  key : Option String

/-- `msg.value`, as `_safe_value_deserializer` returns it. A JSON `null` is `None`, too. -/
def Message.value (message : Message) : Option Value :=
  match message.json with
  | some .null => none
  | json => json

/-- The messages of all partitions. Offsets may be left out. -/
abbrev Log := Record → Option Message

/-- The topics for which handlers are registered. -/
structure Handlers where
  single : List String
  batch : List String

/-- How a call of a handler ends: it returns or raises, or the process dies in it. -/
inductive Outcome where
  | returned
  | raised
  | killed

/-- A call of a handler for some messages. -/
structure Call where
  records : List Record
  outcome : Outcome

/-- The positions of a consumer and those that the broker stores, and whether the process is running.
Beside them stand the messages whose handler has raised and has not returned since, and those whose
handler has been called since the last start. -/
structure Consumer where
  position : TopicPartition → Nat
  committed : TopicPartition → Nat
  running : Bool
  failed : List Record
  called : List Record

namespace Consumer

/-- A consumer that starts where its group is. -/
def start (committed : TopicPartition → Nat) : Consumer := ⟨committed, committed, true, [], []⟩

/-- The process is started again. -/
def restart (consumer : Consumer) : Consumer :=
  { consumer with position := consumer.committed, running := true, called := [] }

/-- A message is the next one of its partition. -/
def Next (log : Log) (consumer : Consumer) (record : Record) : Prop :=
  consumer.position record.tp ≤ record.offset ∧ (log record).isSome ∧
    ∀ offset < record.offset, consumer.position record.tp ≤ offset →
      (log ⟨record.tp, offset⟩).isNone

instance (log : Log) (consumer : Consumer) (record : Record) : Decidable (consumer.Next log record) :=
  inferInstanceAs (Decidable (_ ∧ _))

/-- A message is fetched. -/
def fetch (consumer : Consumer) (record : Record) : Consumer :=
  { consumer with
    position := fun tp => if tp = record.tp then record.offset + 1 else consumer.position tp }

/-- Messages are fetched, which come in the order of their partitions. -/
def fetchAll (log : Log) : Consumer → List Record → Option Consumer
  | consumer, [] => some consumer
  | consumer, record :: rest =>
      if consumer.Next log record then fetchAll log (consumer.fetch record) rest else none

/-- A handler is called. Messages that are not JSON do not count as failed. -/
def call (log : Log) (consumer : Consumer) (call : Call) : Consumer :=
  { consumer with
    called := call.records ++ consumer.called
    running := match call.outcome with
      | .killed => false
      | _ => consumer.running
    failed := match call.outcome with
      | .returned => consumer.failed.filter (· ∉ call.records)
      | .raised => (call.records.filter fun record =>
          ((log record).bind Message.json).isSome) ++ consumer.failed
      | .killed => consumer.failed }

/-- Handlers are called one after the other. The flag is `has_error`. -/
def runCalls (log : Log) : Consumer → List Call → Consumer × Bool
  | consumer, [] => (consumer, false)
  | consumer, next :: rest =>
      match next.outcome with
      | .returned => runCalls log (consumer.call log next) rest
      | .raised => ((runCalls log (consumer.call log next) rest).1, true)
      | .killed => (consumer.call log next, false)

/-- `commit()`, which stores the positions in all partitions or raises. -/
def commit (consumer : Consumer) (stored : Bool) : Consumer :=
  if stored then { consumer with committed := consumer.position } else { consumer with running := false }

end Consumer

/-! ## The two loops -/

/-- What one round of `consume` meets: a message, how its handler ends, and whether a commit is
stored. -/
structure Fetched where
  record : Record
  outcome : Outcome
  stored : Bool

/-- A round of `consume`. -/
def consume (log : Log) (handlers : Handlers) (consumer : Consumer) (input : Fetched) : Consumer :=
  match consumer.fetchAll log [input.record] with
  | none => consumer
  | some fetched =>
      match (log input.record).bind Message.value with
      | none => fetched.commit input.stored
      | some _ =>
          if input.record.tp.topic ∈ handlers.single then
            let called := fetched.call log ⟨[input.record], input.outcome⟩
            match input.outcome with
            | .returned => called.commit input.stored
            | _ => called
          else fetched

/-- The messages of one partition in a batch, and how the handlers end: that of the batch, or those of
the messages. -/
structure Part where
  tp : TopicPartition
  offsets : List Nat
  batchOutcome : Outcome
  outcomes : Nat → Outcome

/-- The messages of one partition. -/
def Part.records (part : Part) : List Record := part.offsets.map fun offset => ⟨part.tp, offset⟩

/-- The calls for one partition. -/
def Part.calls (handlers : Handlers) (part : Part) : List Call :=
  if part.tp.topic ∈ handlers.batch then [⟨part.records, part.batchOutcome⟩]
  else if part.tp.topic ∈ handlers.single then
    part.offsets.map fun offset => ⟨[⟨part.tp, offset⟩], part.outcomes offset⟩
  else []

/-- What one round of `consume_batches` meets. -/
structure Batch where
  parts : List Part
  stored : Bool

/-- A round of `consume_batches`. -/
def consumeBatches (log : Log) (handlers : Handlers) (consumer : Consumer) (input : Batch) : Consumer :=
  match consumer.fetchAll log (input.parts.flatMap Part.records) with
  | none => consumer
  | some fetched =>
      if input.parts.isEmpty then fetched
      else
        let (called, hasError) := fetched.runCalls log (input.parts.flatMap (Part.calls handlers))
        if called.running && !hasError then called.commit input.stored else called

/-- The two loops. -/
inductive Loop where
  | consume
  | consumeBatches

/-- What a round of a loop meets. -/
def Loop.Input : Loop → Type
  | .consume => Fetched
  | .consumeBatches => Batch

/-- A round of a loop. -/
def Loop.round (log : Log) (handlers : Handlers) : (loop : Loop) → Consumer → loop.Input → Consumer
  | .consume => Kafka.consume log handlers
  | .consumeBatches => Kafka.consumeBatches log handlers

/-- What happens: a round of the loop, or the process is started again. -/
inductive Event (loop : Loop) where
  | next (input : loop.Input)
  | restart

/-- A process that has ended does nothing until it is started again. -/
def step (log : Log) (handlers : Handlers) (loop : Loop) (consumer : Consumer) :
    Event loop → Consumer
  | .next input => if consumer.running then loop.round log handlers consumer input else consumer
  | .restart => consumer.restart

/-! ## What a round comes to -/

/-- What a round fetches and calls, whether it commits when no call raises, and whether that is
stored. -/
structure Plan where
  records : List Record
  calls : List Call
  commits : Bool
  stored : Bool

/-- The plan of a round of `consume`. -/
def Fetched.plan (log : Log) (handlers : Handlers) (input : Fetched) : Plan where
  records := [input.record]
  calls :=
    if ((log input.record).bind Message.value).isSome ∧ input.record.tp.topic ∈ handlers.single
    then [⟨[input.record], input.outcome⟩] else []
  commits := ((log input.record).bind Message.value).isNone ||
    decide (input.record.tp.topic ∈ handlers.single)
  stored := input.stored

/-- The plan of a round of `consume_batches`. -/
def Batch.plan (handlers : Handlers) (input : Batch) : Plan where
  records := input.parts.flatMap Part.records
  calls := input.parts.flatMap (Part.calls handlers)
  commits := !input.parts.isEmpty
  stored := input.stored

/-- The plan of a round. -/
def Loop.plan (log : Log) (handlers : Handlers) : (loop : Loop) → loop.Input → Plan
  | .consume => Fetched.plan log handlers
  | .consumeBatches => Batch.plan handlers

/-- A round that follows its plan. -/
def Consumer.follow (log : Log) (consumer : Consumer) (plan : Plan) : Consumer :=
  match consumer.fetchAll log plan.records with
  | none => consumer
  | some fetched =>
      let (called, hasError) := fetched.runCalls log plan.calls
      if called.running && !hasError && plan.commits then called.commit plan.stored else called

/-- The messages for which a loop calls a handler. -/
def Loop.Handles (log : Log) (handlers : Handlers) (record : Record) : Loop → Prop
  | .consume => ((log record).bind Message.value).isSome ∧ record.tp.topic ∈ handlers.single
  | .consumeBatches => record.tp.topic ∈ handlers.batch ∨ record.tp.topic ∈ handlers.single

section Plans

variable {log : Log} {handlers : Handlers} {loop : Loop} {consumer fetched : Consumer}

theorem fetchAll_eq {consumer : Consumer} {records : List Record}
    (h : consumer.fetchAll log records = some fetched) :
    fetched = { consumer with position := fetched.position } := by
  induction records generalizing consumer with
  | nil =>
      obtain rfl := Option.some.inj h
      rfl
  | cons record rest ih =>
      rw [Consumer.fetchAll] at h
      split at h
      · have hrest := ih h
        exact hrest
      · cases h

theorem fetchAll_frame {records : List Record} (h : consumer.fetchAll log records = some fetched) :
    fetched.committed = consumer.committed ∧ fetched.running = consumer.running ∧
      fetched.failed = consumer.failed ∧ fetched.called = consumer.called := by
  rw [fetchAll_eq h]
  exact ⟨rfl, rfl, rfl, rfl⟩

theorem consume_eq (hrunning : consumer.running = true) (input : Fetched) :
    consume log handlers consumer input = consumer.follow log (input.plan log handlers) := by
  unfold consume Consumer.follow Fetched.plan
  cases hfetch : consumer.fetchAll log [input.record] with
  | none => rfl
  | some fetched =>
      have hfetched : fetched.running = true := (fetchAll_frame hfetch).2.1.trans hrunning
      cases (log input.record).bind Message.value with
      | none => simp [Consumer.runCalls, hfetched]
      | some value =>
          by_cases htopic : input.record.tp.topic ∈ handlers.single
          · cases houtcome : input.outcome <;>
              simp [Consumer.runCalls, Consumer.call, htopic, hfetched]
          · simp [Consumer.runCalls, htopic]

theorem consumeBatches_eq (input : Batch) :
    consumeBatches log handlers consumer input = consumer.follow log (input.plan handlers) := by
  unfold consumeBatches Consumer.follow Batch.plan
  cases consumer.fetchAll log (input.parts.flatMap Part.records) with
  | none => rfl
  | some fetched =>
      cases hparts : input.parts with
      | nil => simp [Consumer.runCalls]
      | cons part rest => simp

theorem round_eq (hrunning : consumer.running = true) (input : loop.Input) :
    loop.round log handlers consumer input = consumer.follow log (loop.plan log handlers input) := by
  cases loop with
  | consume => exact consume_eq hrunning input
  | consumeBatches => exact consumeBatches_eq input

variable {record : Record}

theorem Part.tp_of_mem {part : Part} (h : record ∈ part.records) :
    record.tp = part.tp := by
  obtain ⟨offset, -, rfl⟩ := List.mem_map.mp h
  rfl

theorem Part.called_iff {part : Part} :
    (∃ call ∈ part.calls handlers, record ∈ call.records) ↔
      record ∈ part.records ∧
        (record.tp.topic ∈ handlers.batch ∨ record.tp.topic ∈ handlers.single) := by
  unfold Part.calls
  split
  · next hbatch =>
    simp only [List.mem_singleton, exists_eq_left]
    exact ⟨fun h => ⟨h, .inl (Part.tp_of_mem h ▸ hbatch)⟩, fun h => h.1⟩
  · next hbatch =>
    split
    · next hsingle =>
      constructor
      · rintro ⟨call, hcall, hrecord⟩
        obtain ⟨offset, hoffset, rfl⟩ := List.mem_map.mp hcall
        obtain rfl := List.mem_singleton.mp hrecord
        exact ⟨List.mem_map.mpr ⟨offset, hoffset, rfl⟩, .inr hsingle⟩
      · rintro ⟨hrecord, -⟩
        obtain ⟨offset, hoffset, rfl⟩ := List.mem_map.mp hrecord
        exact ⟨_, List.mem_map.mpr ⟨offset, hoffset, rfl⟩, List.mem_singleton_self _⟩
    · next hsingle =>
      constructor
      · rintro ⟨call, hcall, -⟩
        cases hcall
      · rintro ⟨hrecord, hhandles⟩
        rw [Part.tp_of_mem hrecord] at hhandles
        exact absurd hhandles (not_or.mpr ⟨hbatch, hsingle⟩)

theorem mem_calls_iff {input : loop.Input} :
    (∃ call ∈ (loop.plan log handlers input).calls, record ∈ call.records) ↔
      record ∈ (loop.plan log handlers input).records ∧ loop.Handles log handlers record := by
  cases loop with
  | consume =>
      show (∃ call ∈ (Fetched.plan log handlers input).calls, _) ↔
        record ∈ [Fetched.record input] ∧ _
      unfold Fetched.plan Loop.Handles
      simp only
      split
      · next h =>
        constructor
        · rintro ⟨call, hcall, hrecord⟩
          obtain rfl := List.mem_singleton.mp hcall
          obtain rfl := List.mem_singleton.mp hrecord
          exact ⟨List.mem_singleton_self _, h⟩
        · rintro ⟨hrecord, -⟩
          exact ⟨_, List.mem_singleton_self _, hrecord⟩
      · next h =>
        constructor
        · rintro ⟨call, hcall, -⟩
          cases hcall
        · rintro ⟨hrecord, hhandles⟩
          obtain rfl := List.mem_singleton.mp hrecord
          exact absurd hhandles h
  | consumeBatches =>
      show (∃ call ∈ (Batch.parts input).flatMap (Part.calls handlers), _) ↔
        record ∈ (Batch.parts input).flatMap Part.records ∧ _
      simp only [Loop.Handles, List.mem_flatMap]
      constructor
      · rintro ⟨call, ⟨part, hmem, hcall⟩, hrecord⟩
        obtain ⟨hrecord, hhandles⟩ := Part.called_iff.mp ⟨call, hcall, hrecord⟩
        exact ⟨⟨part, hmem, hrecord⟩, hhandles⟩
      · rintro ⟨⟨part, hmem, hrecord⟩, hhandles⟩
        obtain ⟨call, hcall, hrecord⟩ := Part.called_iff.mpr ⟨hrecord, hhandles⟩
        exact ⟨call, ⟨part, hmem, hcall⟩, hrecord⟩

end Plans

/-! ## Fetching and calling -/

section Rounds

variable {log : Log} {handlers : Handlers} {loop : Loop} {consumer fetched : Consumer}
  {records : List Record} {calls : List Call} {record : Record}

variable {consumer : Consumer}

theorem position_le_fetch (h : consumer.Next log record) (tp : TopicPartition) :
    consumer.position tp ≤ (consumer.fetch record).position tp := by
  unfold Consumer.fetch
  simp only
  split
  · next htp =>
    subst htp
    exact Nat.le_succ_of_le h.1
  · exact Nat.le_refl _

theorem position_fetch_self (consumer : Consumer) (record : Record) :
    (consumer.fetch record).position record.tp = record.offset + 1 := if_pos rfl

theorem position_fetch_of_ne (consumer : Consumer) {tp : TopicPartition} (h : tp ≠ record.tp) :
    (consumer.fetch record).position tp = consumer.position tp := if_neg h

theorem position_le_fetchAll (h : consumer.fetchAll log records = some fetched)
    (tp : TopicPartition) : consumer.position tp ≤ fetched.position tp := by
  induction records generalizing consumer with
  | nil =>
      obtain rfl := Option.some.inj h
      exact Nat.le_refl _
  | cons next rest ih =>
      rw [Consumer.fetchAll] at h
      split at h
      · next hnext => exact Nat.le_trans (position_le_fetch hnext tp) (ih h)
      · cases h

theorem bounds_of_fetchAll (h : consumer.fetchAll log records = some fetched)
    (hrecord : record ∈ records) : (log record).isSome ∧
      consumer.position record.tp ≤ record.offset ∧ record.offset < fetched.position record.tp := by
  induction records generalizing consumer with
  | nil => cases hrecord
  | cons next rest ih =>
      rw [Consumer.fetchAll] at h
      split at h
      · next hnext =>
        rcases List.mem_cons.mp hrecord with rfl | hrest
        · refine ⟨hnext.2.1, hnext.1, ?_⟩
          have hle := position_le_fetchAll h record.tp
          rw [position_fetch_self] at hle
          omega
        · obtain ⟨hsome, hle, hlt⟩ := ih h hrest
          exact ⟨hsome, Nat.le_trans (position_le_fetch hnext record.tp) hle, hlt⟩
      · cases h

theorem mem_of_fetchAll (h : consumer.fetchAll log records = some fetched)
    (hsome : (log record).isSome) (hle : consumer.position record.tp ≤ record.offset)
    (hlt : record.offset < fetched.position record.tp) : record ∈ records := by
  induction records generalizing consumer with
  | nil =>
      obtain rfl := Option.some.inj h
      omega
  | cons next rest ih =>
      rw [Consumer.fetchAll] at h
      split at h
      · next hnext =>
        by_cases hpassed : (consumer.fetch next).position record.tp ≤ record.offset
        · exact List.mem_cons_of_mem _ (ih h hpassed)
        · by_cases htp : record.tp = next.tp
          · -- The message lies between the position and the one that is fetched, or it is this one.
            rcases Nat.lt_or_ge record.offset next.offset with hbefore | hafter
            · have hnone := hnext.2.2 record.offset hbefore (htp ▸ hle)
              rw [← htp, Option.isNone_iff_eq_none] at hnone
              rw [hnone] at hsome
              cases hsome
            · rw [htp, position_fetch_self] at hpassed
              have heq : record = next := by
                cases record
                cases next
                simp only [Record.mk.injEq] at htp ⊢
                exact ⟨htp, by simp only at hpassed hafter; omega⟩
              exact heq ▸ List.mem_cons_self
          · rw [position_fetch_of_ne consumer htp] at hpassed
            exact absurd hle hpassed
      · cases h

theorem runCalls_positions (log : Log) (consumer : Consumer) (calls : List Call) :
    (consumer.runCalls log calls).1.position = consumer.position ∧
      (consumer.runCalls log calls).1.committed = consumer.committed := by
  induction calls generalizing consumer with
  | nil => exact ⟨rfl, rfl⟩
  | cons next rest ih =>
      rw [Consumer.runCalls]
      split
      · exact ih (consumer.call log next)
      · exact ih (consumer.call log next)
      · exact ⟨rfl, rfl⟩

theorem mem_called_of_mem (log : Log) (calls : List Call)
    (h : record ∈ consumer.called) : record ∈ (consumer.runCalls log calls).1.called := by
  induction calls generalizing consumer with
  | nil => exact h
  | cons next rest ih =>
      have hnext : record ∈ (consumer.call log next).called := List.mem_append_right _ h
      rw [Consumer.runCalls]
      split
      · exact ih hnext
      · exact ih hnext
      · exact hnext

theorem mem_called (h : record ∈ (consumer.runCalls log calls).1.called) :
    record ∈ consumer.called ∨ ∃ call ∈ calls, record ∈ call.records := by
  induction calls generalizing consumer with
  | nil => exact .inl h
  | cons next rest ih =>
      have hcall : record ∈ (consumer.call log next).called →
          record ∈ consumer.called ∨ ∃ call ∈ next :: rest, record ∈ call.records := by
        intro hcalled
        rcases List.mem_append.mp hcalled with hnow | hbefore
        · exact .inr ⟨next, List.mem_cons_self, hnow⟩
        · exact .inl hbefore
      have hrest : record ∈ ((consumer.call log next).runCalls log rest).1.called →
          record ∈ consumer.called ∨ ∃ call ∈ next :: rest, record ∈ call.records := by
        intro hcalled
        rcases ih hcalled with hbefore | ⟨call, hmem, hrecord⟩
        · exact hcall hbefore
        · exact .inr ⟨call, List.mem_cons_of_mem _ hmem, hrecord⟩
      rw [Consumer.runCalls] at h
      split at h
      · exact hrest h
      · exact hrest h
      · exact hcall h

theorem called_of_running (hrunning : (consumer.runCalls log calls).1.running = true)
    (hrecord : ∃ call ∈ calls, record ∈ call.records) :
    record ∈ (consumer.runCalls log calls).1.called := by
  induction calls generalizing consumer with
  | nil =>
      obtain ⟨call, hcall, -⟩ := hrecord
      cases hcall
  | cons next rest ih =>
      have hrest : ((consumer.call log next).runCalls log rest).1.running = true →
          record ∈ ((consumer.call log next).runCalls log rest).1.called := by
        intro hrunning
        obtain ⟨call, hcall, hmem⟩ := hrecord
        rcases List.mem_cons.mp hcall with rfl | hcall
        · exact mem_called_of_mem log rest (List.mem_append_left _ hmem)
        · exact ih hrunning ⟨call, hcall, hmem⟩
      rw [Consumer.runCalls] at hrunning ⊢
      split at hrunning
      · exact hrest hrunning
      · exact hrest hrunning
      · next hkilled =>
        unfold Consumer.call at hrunning
        rw [hkilled] at hrunning
        cases hrunning

theorem mem_failed (h : record ∈ (consumer.runCalls log calls).1.failed) :
    record ∈ consumer.failed ∨ (∃ call ∈ calls, record ∈ call.records) ∧
      record ∈ (consumer.runCalls log calls).1.called := by
  induction calls generalizing consumer with
  | nil => exact .inl h
  | cons next rest ih =>
      have hcall : record ∈ (consumer.call log next).failed →
          record ∈ consumer.failed ∨ record ∈ next.records := by
        intro hfailed
        unfold Consumer.call at hfailed
        simp only at hfailed
        split at hfailed
        · exact .inl (List.mem_filter.mp hfailed).1
        · rcases List.mem_append.mp hfailed with hnow | hbefore
          · exact .inr (List.mem_filter.mp hnow).1
          · exact .inl hbefore
        · exact .inl hfailed
      have hrest : record ∈ ((consumer.call log next).runCalls log rest).1.failed →
          record ∈ consumer.failed ∨ (∃ call ∈ next :: rest, record ∈ call.records) ∧
            record ∈ ((consumer.call log next).runCalls log rest).1.called := by
        intro hfailed
        rcases ih hfailed with hbefore | ⟨⟨call, hmem, hrecord⟩, hcalled⟩
        · rcases hcall hbefore with hbefore | hnow
          · exact .inl hbefore
          · exact .inr ⟨⟨next, List.mem_cons_self, hnow⟩,
              mem_called_of_mem log rest (List.mem_append_left _ hnow)⟩
        · exact .inr ⟨⟨call, List.mem_cons_of_mem _ hmem, hrecord⟩, hcalled⟩
      rw [Consumer.runCalls] at h ⊢
      split at h
      · exact hrest h
      · exact hrest h
      · rcases hcall h with hbefore | hnow
        · exact .inl hbefore
        · exact .inr ⟨⟨next, List.mem_cons_self, hnow⟩, List.mem_append_left _ hnow⟩

theorem runCalls_returned_iff (log : Log) (hrunning : consumer.running = true)
    (calls : List Call) : ((consumer.runCalls log calls).1.running = true ∧
      (consumer.runCalls log calls).2 = false) ↔ ∀ call ∈ calls, call.outcome = .returned := by
  induction calls generalizing consumer with
  | nil =>
      constructor
      · intro _ call hcall
        cases hcall
      · intro _
        exact ⟨hrunning, rfl⟩
  | cons next rest ih =>
      rw [List.forall_mem_cons, Consumer.runCalls]
      cases hnext : next.outcome with
      | returned =>
          have hcall : (consumer.call log next).running = true := by
            unfold Consumer.call
            rw [hnext]
            exact hrunning
          rw [← ih hcall]
          exact ⟨fun h => ⟨rfl, h⟩, fun h => h.2⟩
      | raised =>
          constructor
          · rintro ⟨-, h⟩
            cases h
          · rintro ⟨h, -⟩
            cases h
      | killed =>
          constructor
          · rintro ⟨h, -⟩
            unfold Consumer.call at h
            rw [hnext] at h
            cases h
          · rintro ⟨h, -⟩
            cases h

theorem mem_failed_of_returned (h : ∀ call ∈ calls, call.outcome = .returned) :
    record ∈ (consumer.runCalls log calls).1.failed ↔
      record ∈ consumer.failed ∧ ¬ ∃ call ∈ calls, record ∈ call.records := by
  induction calls generalizing consumer with
  | nil =>
      constructor
      · intro hfailed
        exact ⟨hfailed, fun ⟨_, hcall, _⟩ => nomatch hcall⟩
      · exact fun hfailed => hfailed.1
  | cons next rest ih =>
      obtain ⟨hnext, hrest⟩ := List.forall_mem_cons.mp h
      have hcall : (consumer.call log next).failed =
          consumer.failed.filter (· ∉ next.records) := by
        unfold Consumer.call
        rw [hnext]
      rw [Consumer.runCalls, hnext]
      simp only
      rw [ih hrest, hcall, List.mem_filter, decide_eq_true_iff]
      constructor
      · rintro ⟨⟨hfailed, hnot⟩, hothers⟩
        refine ⟨hfailed, ?_⟩
        rintro ⟨call, hmem, hrecord⟩
        rcases List.mem_cons.mp hmem with rfl | hmem
        · exact hnot hrecord
        · exact hothers ⟨call, hmem, hrecord⟩
      · rintro ⟨hfailed, hnone⟩
        exact ⟨⟨hfailed, fun hrecord => hnone ⟨next, List.mem_cons_self, hrecord⟩⟩,
          fun ⟨call, hmem, hrecord⟩ => hnone ⟨call, List.mem_cons_of_mem _ hmem, hrecord⟩⟩

end Rounds

/-! ## At least once -/

/-- No stored position covers a message whose handler has raised and has not returned since, and a
process gets past such a message only by calling its handler again. -/
structure Delivers (consumer : Consumer) : Prop where
  uncovered : ∀ record ∈ consumer.failed, consumer.committed record.tp ≤ record.offset
  again : consumer.running = true → ∀ record ∈ consumer.failed,
    consumer.position record.tp ≤ record.offset ∨ record ∈ consumer.called

/-- A round ends with a commit that is stored: its messages can be fetched, and every handler that it
calls returns. -/
def Commits (log : Log) (consumer : Consumer) (plan : Plan) : Prop :=
  consumer.running = true ∧ (consumer.fetchAll log plan.records).isSome ∧
    (∀ call ∈ plan.calls, call.outcome = .returned) ∧ plan.commits = true ∧ plan.stored = true

/-- Nothing is committed any more once a handler has raised, until the process is started again. -/
def Quiet (log : Log) (handlers : Handlers) (loop : Loop) (consumer : Consumer) : Event loop → Prop
  | .next input => (∃ record ∈ consumer.failed, record ∈ consumer.called) →
      ¬ Commits log consumer (loop.plan log handlers input)
  | .restart => True

/-- What holds in every reachable state. -/
structure Sound (log : Log) (handlers : Handlers) (loop : Loop) (consumer : Consumer) : Prop where
  committed_le : ∀ tp, consumer.committed tp ≤ consumer.position tp
  called_lt : ∀ record ∈ consumer.called, record.offset < consumer.position record.tp
  failed_handled : ∀ record ∈ consumer.failed,
    (log record).isSome ∧ loop.Handles log handlers record

section Steps

variable {log : Log} {handlers : Handlers} {loop : Loop} {consumer : Consumer} {fetched : Consumer}

theorem follow_cases (plan : Plan) (hrunning : consumer.running = true)
    (hfetch : consumer.fetchAll log plan.records = some fetched) :
    (Commits log consumer plan ∧ consumer.follow log plan =
      { (fetched.runCalls log plan.calls).1 with
        committed := (fetched.runCalls log plan.calls).1.position }) ∨
    (¬ Commits log consumer plan ∧
      (consumer.follow log plan = { (fetched.runCalls log plan.calls).1 with running := false } ∨
        consumer.follow log plan = (fetched.runCalls log plan.calls).1)) := by
  have hfetched : fetched.running = true := (fetchAll_frame hfetch).2.1.trans hrunning
  have hreturned := runCalls_returned_iff log hfetched plan.calls
  unfold Consumer.follow
  rw [hfetch]
  simp only
  by_cases hif : ((fetched.runCalls log plan.calls).1.running &&
      !(fetched.runCalls log plan.calls).2 && plan.commits) = true
  · rw [if_pos hif]
    simp only [Bool.and_eq_true, Bool.not_eq_true'] at hif
    unfold Consumer.commit
    cases hstored : plan.stored with
    | true =>
        exact .inl ⟨⟨hrunning, by rw [hfetch]; rfl, hreturned.mp hif.1, hif.2, hstored⟩, rfl⟩
    | false =>
        refine .inr ⟨fun hcommits => ?_, .inl rfl⟩
        have htrue := hcommits.2.2.2.2
        rw [hstored] at htrue
        cases htrue
  · rw [if_neg hif]
    refine .inr ⟨fun hcommits => hif ?_, .inr rfl⟩
    obtain ⟨hsurvives, herror⟩ := hreturned.mpr hcommits.2.2.1
    rw [hsurvives, herror, hcommits.2.2.2.1]
    rfl

theorem delivers_runCalls {input : loop.Input}
    (hsound : Sound log handlers loop consumer) (h : Delivers consumer)
    (hrunning : consumer.running = true)
    (hfetch : consumer.fetchAll log (loop.plan log handlers input).records = some fetched) :
    Delivers (fetched.runCalls log (loop.plan log handlers input).calls).1 := by
  obtain ⟨hcommitted, -, hfailed, hcalled⟩ := fetchAll_frame hfetch
  obtain ⟨hposition, hstored⟩ := runCalls_positions log fetched (loop.plan log handlers input).calls
  constructor
  · intro record hrecord
    rw [hstored, hcommitted]
    rcases mem_failed hrecord with hbefore | ⟨hnow, -⟩
    · exact h.uncovered record (hfailed ▸ hbefore)
    · exact Nat.le_trans (hsound.committed_le record.tp)
        (bounds_of_fetchAll hfetch (mem_calls_iff.mp hnow).1).2.1
  · intro hsurvives record hrecord
    rcases mem_failed hrecord with hbefore | ⟨-, hnow⟩
    · rw [hfailed] at hbefore
      rw [hposition]
      rcases h.again hrunning record hbefore with hle | hcalledBefore
      · rcases Nat.lt_or_ge record.offset (fetched.position record.tp) with hlt | hge
        · obtain ⟨hsome, hhandles⟩ := hsound.failed_handled record hbefore
          have hmem := mem_of_fetchAll hfetch hsome hle hlt
          exact .inr (called_of_running hsurvives (mem_calls_iff.mpr ⟨hmem, hhandles⟩))
        · exact .inl hge
      · exact .inr (mem_called_of_mem log _ (hcalled ▸ hcalledBefore))
    · exact .inr hnow

/-- A commit covers no failed message exactly if no handler has raised since the last start. -/
theorem delivers_commit_iff {input : loop.Input}
    (hsound : Sound log handlers loop consumer) (h : Delivers consumer)
    (hrunning : consumer.running = true)
    (hfetch : consumer.fetchAll log (loop.plan log handlers input).records = some fetched)
    (hreturned : ∀ call ∈ (loop.plan log handlers input).calls, call.outcome = .returned) :
    (∀ record ∈ (fetched.runCalls log (loop.plan log handlers input).calls).1.failed,
      fetched.position record.tp ≤ record.offset) ↔
      ¬ ∃ record ∈ consumer.failed, record ∈ consumer.called := by
  obtain ⟨-, -, hfailed, -⟩ := fetchAll_frame hfetch
  constructor
  · rintro hle ⟨record, hrecord, hcalled⟩
    have hpassed := hsound.called_lt record hcalled
    have hforward := position_le_fetchAll hfetch record.tp
    have hnot : ¬ ∃ call ∈ (loop.plan log handlers input).calls, record ∈ call.records := by
      intro hnow
      have hbounds := (bounds_of_fetchAll hfetch (mem_calls_iff.mp hnow).1).2.1
      omega
    have hstill := hle record ((mem_failed_of_returned hreturned).mpr ⟨hfailed ▸ hrecord, hnot⟩)
    omega
  · intro hnone record hrecord
    obtain ⟨hbefore, hnot⟩ := (mem_failed_of_returned hreturned).mp hrecord
    rw [hfailed] at hbefore
    have hle := (h.again hrunning record hbefore).resolve_right
      fun hcalled => hnone ⟨record, hbefore, hcalled⟩
    by_contra hlt
    obtain ⟨hsome, hhandles⟩ := hsound.failed_handled record hbefore
    have hmem := mem_of_fetchAll hfetch hsome hle (Nat.lt_of_not_le hlt)
    exact hnot (mem_calls_iff.mpr ⟨hmem, hhandles⟩)

theorem delivers_step_iff (hsound : Sound log handlers loop consumer) (h : Delivers consumer)
    (event : Event loop) :
    Delivers (step log handlers loop consumer event) ↔ Quiet log handlers loop consumer event := by
  cases event with
  | restart =>
      exact ⟨fun _ => trivial, fun _ => ⟨h.uncovered, fun _ record hrecord =>
        .inl (h.uncovered record hrecord)⟩⟩
  | next input =>
      show Delivers (if consumer.running = true then _ else _) ↔ (_ → ¬ Commits _ _ _)
      by_cases hrunning : consumer.running = true
      · rw [if_pos hrunning, round_eq hrunning]
        cases hfetch : consumer.fetchAll log (loop.plan log handlers input).records with
        | none =>
            have hsame : consumer.follow log (loop.plan log handlers input) = consumer := by
              unfold Consumer.follow
              rw [hfetch]
            rw [hsame]
            refine ⟨fun _ _ hcommits => ?_, fun _ => h⟩
            have hsome := hcommits.2.1
            rw [hfetch] at hsome
            cases hsome
        | some fetched =>
            have hcalls := delivers_runCalls hsound h hrunning hfetch
            obtain ⟨hposition, -⟩ :=
              runCalls_positions log fetched (loop.plan log handlers input).calls
            rcases follow_cases _ hrunning hfetch with ⟨hcommits, heq⟩ | ⟨hnot, heq | heq⟩
            · have hiff := delivers_commit_iff hsound h hrunning hfetch hcommits.2.2.1
              rw [heq]
              constructor
              · intro hdelivers hraised _
                have huncovered := hdelivers.uncovered
                simp only [hposition] at huncovered
                exact hiff.mp huncovered hraised
              · intro hquiet
                refine ⟨?_, hcalls.again⟩
                simp only [hposition]
                exact hiff.mpr fun hraised => hquiet hraised hcommits
            · rw [heq]
              exact ⟨fun _ _ => hnot, fun _ => ⟨hcalls.uncovered, fun hfalse => nomatch hfalse⟩⟩
            · rw [heq]
              exact ⟨fun _ _ => hnot, fun _ => hcalls⟩
      · rw [if_neg hrunning]
        exact ⟨fun _ _ hcommits => hrunning hcommits.1, fun _ => h⟩

theorem sound_step (hsound : Sound log handlers loop consumer) (event : Event loop) :
    Sound log handlers loop (step log handlers loop consumer event) := by
  cases event with
  | restart => exact ⟨fun _ => Nat.le_refl _, fun _ h => (nomatch h), hsound.failed_handled⟩
  | next input =>
      show Sound log handlers loop (if consumer.running = true then _ else _)
      by_cases hrunning : consumer.running = true
      · rw [if_pos hrunning, round_eq hrunning]
        cases hfetch : consumer.fetchAll log (loop.plan log handlers input).records with
        | none =>
            unfold Consumer.follow
            rw [hfetch]
            exact hsound
        | some fetched =>
            obtain ⟨hcommitted, -, hfailed, hcalled⟩ := fetchAll_frame hfetch
            obtain ⟨hposition, hstored⟩ :=
              runCalls_positions log fetched (loop.plan log handlers input).calls
            have hresult : Sound log handlers loop
                (fetched.runCalls log (loop.plan log handlers input).calls).1 := by
              refine ⟨?_, ?_, ?_⟩
              · intro tp
                rw [hposition, hstored, hcommitted]
                exact Nat.le_trans (hsound.committed_le tp) (position_le_fetchAll hfetch tp)
              · intro record hrecord
                rw [hposition]
                rcases mem_called hrecord with hbefore | hnow
                · exact Nat.lt_of_lt_of_le (hsound.called_lt record (hcalled ▸ hbefore))
                    (position_le_fetchAll hfetch record.tp)
                · exact (bounds_of_fetchAll hfetch (mem_calls_iff.mp hnow).1).2.2
              · intro record hrecord
                rcases mem_failed hrecord with hbefore | ⟨hnow, -⟩
                · exact hsound.failed_handled record (hfailed ▸ hbefore)
                · obtain ⟨hmem, hhandles⟩ := mem_calls_iff.mp hnow
                  exact ⟨(bounds_of_fetchAll hfetch hmem).1, hhandles⟩
            rcases follow_cases _ hrunning hfetch with ⟨-, heq⟩ | ⟨-, heq | heq⟩
            · rw [heq]
              exact ⟨fun _ => Nat.le_refl _, hresult.called_lt, hresult.failed_handled⟩
            · rw [heq]
              exact ⟨hresult.committed_le, hresult.called_lt, hresult.failed_handled⟩
            · rw [heq]
              exact hresult
      · rw [if_neg hrunning]
        exact hsound

/-- In every state that a run reaches no failed message is covered, if and only if nothing is committed
between a handler that raises and the next start. -/
theorem uncovered_iff (log : Log) (handlers : Handlers) (loop : Loop)
    (committed : TopicPartition → Nat) (events : List (Event loop)) :
    Along (step log handlers loop)
        (fun consumer event => Delivers (step log handlers loop consumer event)) (.start committed)
        events ↔
      Along (step log handlers loop) (Quiet log handlers loop) (.start committed) events := by
  have hagree : ∀ consumer event, Sound log handlers loop consumer ∧ Delivers consumer →
      (Delivers (step log handlers loop consumer event) ↔ Quiet log handlers loop consumer event) :=
    fun consumer event hinv => delivers_step_iff hinv.1 hinv.2 event
  have hstart : Sound log handlers loop (.start committed) ∧ Delivers (.start committed) :=
    ⟨⟨fun _ => Nat.le_refl _, fun _ h => (nomatch h), fun _ h => (nomatch h)⟩,
      ⟨fun _ h => (nomatch h), fun _ _ h => (nomatch h)⟩⟩
  exact along_iff hagree (fun consumer event hinv hdelivers =>
    ⟨sound_step hinv.1 event, hdelivers⟩) hstart events

end Steps

/-- Two messages of one partition, with a handler for their topic. -/
def orders (offset : Nat) : Record := ⟨⟨"orders", 0⟩, offset⟩

/-- The two messages. -/
def ordersLog : Log := fun record =>
  if record = orders 0 ∨ record = orders 1 then some ⟨some (.dict []), none⟩ else none

/-- The commit for the second message covers the first one, whose handler has raised: in `consume`, and
in two batches of `consume_batches`. -/
theorem failed_message_covered :
    ¬ Along (step ordersLog ⟨["orders"], []⟩ .consume)
      (fun consumer event => Delivers (step ordersLog ⟨["orders"], []⟩ .consume consumer event))
      (.start fun _ => 0)
      [.next (Fetched.mk (orders 0) .raised true), .next (Fetched.mk (orders 1) .returned true)] ∧
    ¬ Along (step ordersLog ⟨["orders"], []⟩ .consumeBatches)
      (fun consumer event =>
        Delivers (step ordersLog ⟨["orders"], []⟩ .consumeBatches consumer event))
      (.start fun _ => 0)
      [.next (Batch.mk [⟨⟨"orders", 0⟩, [0], .returned, fun _ => .raised⟩] true),
        .next (Batch.mk [⟨⟨"orders", 0⟩, [1], .returned, fun _ => .returned⟩] true)] := by
  constructor
  · rintro ⟨-, h, -⟩
    exact absurd (h.uncovered (orders 0) (by decide)) (by decide)
  · rintro ⟨-, h, -⟩
    exact absurd (h.uncovered (orders 0) (by decide)) (by decide)

end Kafka

end IntegrationPlatform
