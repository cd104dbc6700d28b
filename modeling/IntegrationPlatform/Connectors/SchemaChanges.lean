import IntegrationPlatform.Connectors.Schemas

/-!
# Changes of an observed schema

A refresh cycle compares the payload that it builds with the one in the cache, and calls the mapping
invalidator where their fields differ. The payload in the cache is the one that is served, whichever
request has put it there, and it is gone when its time to live has passed. `invalidations_iff` says in
which cycles the invalidator is called exactly if the served fields have changed.
-/

namespace IntegrationPlatform

namespace Schemas

open Connectors

/-- A connector, an action and a tenant. -/
structure Subject where
  connectorName : String
  action : String
  tenantId : Option String

namespace Subject

/-- A request for the schema of the subject. -/
def request (subject : Subject) (version : Option String) : Request where
  connectorName := subject.connectorName
  action := subject.action
  connectorVersion := version
  tenantId := subject.tenantId

/-- The key of the subject. -/
def key (subject : Subject) : String :=
  cacheKey subject.connectorName subject.action subject.tenantId

end Subject

/-- A request for the schema of the subject, or a refresh cycle. -/
inductive Event where
  | get (version : Option String) (forceRefresh : Bool) (moment : Moment)
  | refresh (moment : Moment)

/-- The fields of a payload differ from those that were served before it. -/
def changedFrom (served : Option Payload) (payload : Payload) : Bool :=
  match served with
  | none => false
  | some previous => (SchemaRegistry.diffSchemas (some previous) payload).changed

/-- A payload has a field with a name. -/
def Payload.named (payload : Payload) : Bool :=
  (payload.schema.inputFields.any fun field => field.field ≠ "") ||
    payload.schema.outputFields.any fun field => field.field ≠ ""

/-- The world, the payload that was served last, and whether the served fields have changed since the
last refresh cycle. -/
structure Monitor where
  world : World := {}
  served : Option Payload := none
  pending : Bool := false

section Steps

variable (schemas : SchemaRegistry) (subject : Subject) (monitor : Monitor)

/-- The payload that a refresh cycle puts into the cache for the subject. -/
def Monitor.fresh (moment : Moment) : Option Payload :=
  (monitor.world.observed.find subject.key).bind fun descriptor =>
    (schemas.getActionSchema monitor.world descriptor true moment).1.toOption

/-- The changes that a refresh cycle finds. -/
def Monitor.events (moment : Moment) : List SchemaRegistry.ChangeEvent :=
  (schemas.refreshObservedSchemas monitor.world fun _ => moment).1

/-- What is served and whether it has changed, after an event. -/
def Monitor.step : Event → Monitor
  | .get version forceRefresh moment =>
      let (answer, world) :=
        schemas.getActionSchema monitor.world (subject.request version) forceRefresh moment
      match answer with
      | .ok payload =>
          ⟨world, some payload, monitor.pending || changedFrom monitor.served payload⟩
      | .error _ => { monitor with world }
  | .refresh moment =>
      let world := (schemas.refreshObservedSchemas monitor.world fun _ => moment).2
      match monitor.fresh schemas subject moment with
      | some payload => ⟨world, some payload, false⟩
      | none => { monitor with world }

/-- A refresh cycle calls the invalidator for the connector exactly if it puts a payload into the
cache and the served fields have changed since the last cycle, or change with this payload. -/
def Monitor.Right : Event → Prop
  | .get _ _ _ => True
  | .refresh moment =>
      ((monitor.events schemas moment).any fun event =>
          event.descriptor.connectorName = subject.connectorName) = true ↔
        ∃ payload, monitor.fresh schemas subject moment = some payload ∧
          (monitor.pending = true ∨ changedFrom monitor.served payload = true)

/-- While the cached payload lives, the served fields have not changed since the last cycle unless
they change again; and when it is gone, the payload of the cycle has a field exactly if the served
fields have changed. -/
def Monitor.Meets : Event → Prop
  | .get _ _ _ => True
  | .refresh moment => ∀ payload, monitor.fresh schemas subject moment = some payload →
      if (monitor.world.redis.get moment.now subject.key).isSome then
        monitor.pending = true → changedFrom monitor.served payload = true
      else
        payload.named = true ↔ monitor.pending = true ∨ changedFrom monitor.served payload = true

end Steps

/-! ## Differences -/

theorem diffSchemas_congr {previous previous' : Payload} (h : previous.schema = previous'.schema)
    (current : Payload) :
    SchemaRegistry.diffSchemas (some previous) current =
      SchemaRegistry.diffSchemas (some previous') current := by
  unfold SchemaRegistry.diffSchemas
  simp only [Option.map_some, Option.getD_some, h]

theorem putFields_isEmpty (fields : List Field) (merged : Assoc Field) :
    (putFields merged fields).isEmpty = (merged.isEmpty && fields.isEmpty) := by
  induction fields generalizing merged with
  | nil => simp [putFields]
  | cons field rest ih =>
      show (putFields (merged.put field.field field) rest).isEmpty = _
      rw [ih]
      cases merged with
      | nil => rfl
      | cons entry others =>
          obtain ⟨key, value⟩ := entry
          simp only [Assoc.put]
          split <;> rfl

theorem diffFieldSets_nil (current : List Field) :
    (SchemaRegistry.diffFieldSets [] current).changed =
      current.any fun field => field.field ≠ "" := by
  have hchanged : (SchemaRegistry.diffFieldSets [] current).changed =
      !(SchemaRegistry.byName current).isEmpty := by
    simp [SchemaRegistry.diffFieldSets, SchemaRegistry.byName, putFields, Assoc.has, Assoc.find]
  rw [hchanged, SchemaRegistry.byName, putFields_isEmpty]
  clear hchanged
  induction current with
  | nil => rfl
  | cons field rest ih =>
      by_cases hname : field.field = ""
      · simpa [hname] using ih
      · simp [hname]

theorem diffSchemas_none (current : Payload) :
    (SchemaRegistry.diffSchemas none current).changed = current.named := by
  show ((SchemaRegistry.diffFieldSets [] current.schema.inputFields).changed ||
    (SchemaRegistry.diffFieldSets [] current.schema.outputFields).changed) = _
  rw [diffFieldSets_nil, diffFieldSets_nil]
  rfl

/-! ## The invariant -/

/-- Nothing was served, and nothing is in the cache; or the fields in the cache are those that were
served last. -/
def Cached (subject : Subject) (monitor : Monitor) : Prop :=
  monitor.served = none ∧ monitor.world.redis subject.key = none ∨
    ∃ served kept expiry, monitor.served = some served ∧
      monitor.world.redis subject.key = some (kept, expiry) ∧ kept.schema = served.schema

/-- The subject is the only schema that is observed, in a version that its name is resolved to. -/
def Observed (schemas : SchemaRegistry) (subject : Subject) (observed : Assoc Request) : Prop :=
  observed = [] ∨ ∃ version manifest,
    schemas.registry.getByNameVersion subject.connectorName version = .ok (some manifest) ∧
      observed = [(subject.key, subject.request (some manifest.version))]

/-- What is known of a monitor in a run. -/
structure Monitor.Kept (schemas : SchemaRegistry) (subject : Subject) (monitor : Monitor) : Prop where
  cached : Cached subject monitor
  observed : Observed schemas subject monitor.world.observed

variable {schemas : SchemaRegistry} {subject : Subject} {monitor : Monitor} {moment : Moment}
  {manifest : ConnectorManifest} {version : Option String}

theorem observe_observed (world : World)
    (hobserved : world.observed = [] ∨ ∃ descriptor, world.observed = [(subject.key, descriptor)]) :
    (SchemaRegistry.observe world (subject.request version) manifest).observed =
      [(subject.key, subject.request (some manifest.version))] := by
  show world.observed.put subject.key (subject.request (some manifest.version)) = _
  obtain hnone | ⟨descriptor, hone⟩ := hobserved
  · rw [hnone]
    rfl
  · rw [hone]
    simp [Assoc.put]

theorem Observed.one {observed : Assoc Request} (h : Observed schemas subject observed) :
    observed = [] ∨ ∃ descriptor, observed = [(subject.key, descriptor)] := by
  obtain hnone | ⟨version, manifest, -, hone⟩ := h
  · exact .inl hnone
  · exact .inr ⟨_, hone⟩

theorem getActionSchema_observed {world : World} (moment : Moment)
    (hresolved : schemas.registry.getByNameVersion (subject.request version).connectorName
      (subject.request version).connectorVersion = .ok (some manifest))
    (hone : world.observed = [(subject.key, subject.request (some manifest.version))]) :
    schemas.getActionSchema world (subject.request (some manifest.version)) true moment =
      schemas.build world (subject.request (some manifest.version)) manifest moment := by
  have hagain : schemas.registry.getByNameVersion
      (subject.request (some manifest.version)).connectorName
      (subject.request (some manifest.version)).connectorVersion = .ok (some manifest) :=
    resolved_again hresolved
  -- The descriptor stays what it was.
  have hobserve : SchemaRegistry.observe world (subject.request (some manifest.version)) manifest =
      world := by
    have hsame : (SchemaRegistry.observe world (subject.request (some manifest.version))
        manifest).observed = [(subject.key, subject.request (some manifest.version))] :=
      observe_observed world (.inr ⟨_, hone⟩)
    rw [← hone] at hsame
    exact congrArg (fun observed => { world with observed }) hsame
  rw [getActionSchema_of_forced world moment hagain, hobserve]

/-- A refresh cycle puts no payload into the cache and finds no change, or it puts the payload of the
observed version into the cache and compares it with the one that was there. -/
theorem Monitor.Kept.refresh (h : monitor.Kept schemas subject) (moment : Moment) :
    (monitor.fresh schemas subject moment = none ∧ monitor.events schemas moment = [] ∧
        (schemas.refreshObservedSchemas monitor.world fun _ => moment).2 = monitor.world) ∨
      ∃ payload, monitor.fresh schemas subject moment = some payload ∧
        ((monitor.events schemas moment).any fun event =>
            event.descriptor.connectorName = subject.connectorName) =
          (SchemaRegistry.diffSchemas (monitor.world.redis.get moment.now subject.key) payload).changed ∧
        (schemas.refreshObservedSchemas monitor.world fun _ => moment).2.redis subject.key =
          some (payload, moment.now + schemas.timeToLive) ∧
        (schemas.refreshObservedSchemas monitor.world fun _ => moment).2.observed =
          monitor.world.observed := by
  obtain hnone | ⟨version, manifest, hresolved, hone⟩ := h.observed
  · refine .inl ⟨?_, ?_, ?_⟩
    · unfold Monitor.fresh
      rw [hnone]
      rfl
    · unfold Monitor.events SchemaRegistry.refreshObservedSchemas
      rw [hnone]
      rfl
    · unfold SchemaRegistry.refreshObservedSchemas
      rw [hnone]
      rfl
  · have hanswer := getActionSchema_observed moment hresolved hone
    have hfresh : monitor.fresh schemas subject moment =
        (schemas.getActionSchema monitor.world (subject.request (some manifest.version)) true
          moment).1.toOption := by
      unfold Monitor.fresh
      rw [hone]
      simp [Assoc.find]
    have hrefresh : schemas.refreshObservedSchemas monitor.world (fun _ => moment) =
        schemas.refreshAll (fun _ => moment)
          [(subject.key, subject.request (some manifest.version))] monitor.world := by
      unfold SchemaRegistry.refreshObservedSchemas
      rw [hone]
    unfold SchemaRegistry.refreshAll SchemaRegistry.refreshKey at hrefresh
    rw [hanswer] at hfresh hrefresh
    unfold Monitor.events
    cases hbuild : buildSchemaPayload schemas.str manifest subject.action subject.tenantId
        moment.fetched with
    | error message =>
        have herror : schemas.build monitor.world (subject.request (some manifest.version)) manifest
            moment = _ := build_of_error monitor.world hbuild
        rw [herror] at hfresh hrefresh
        rw [hrefresh]
        exact .inl ⟨hfresh, rfl, rfl⟩
    | ok payload =>
        have hok : schemas.build monitor.world (subject.request (some manifest.version)) manifest
            moment = _ := build_of_ok monitor.world hbuild
        rw [hok] at hfresh hrefresh
        rw [hrefresh]
        refine .inr ⟨payload, hfresh, ?_, Expiring.set_self, rfl⟩
        generalize monitor.world.redis.get moment.now subject.key = cached
        show List.any ((if (SchemaRegistry.diffSchemas cached payload).changed then
          [(⟨subject.request (some manifest.version), SchemaRegistry.diffSchemas cached payload⟩ :
            SchemaRegistry.ChangeEvent)]
          else []) ++ []) _ = _
        cases (SchemaRegistry.diffSchemas cached payload).changed with
        | true => simp [Subject.request]
        | false => rfl

/-- The answer to a request is served, and is in the cache; or it is an error. -/
theorem Monitor.Kept.get (h : monitor.Kept schemas subject) (version : Option String)
    (forceRefresh : Bool) (moment : Moment) :
    (∃ error world, schemas.getActionSchema monitor.world (subject.request version) forceRefresh moment =
        (.error error, world) ∧ world.redis = monitor.world.redis ∧
          Observed schemas subject world.observed) ∨
      ∃ payload world, schemas.getActionSchema monitor.world (subject.request version) forceRefresh
          moment = (.ok payload, world) ∧
        (∃ kept expiry, world.redis subject.key = some (kept, expiry) ∧ kept.schema = payload.schema) ∧
          Observed schemas subject world.observed := by
  obtain ⟨error, hanswer⟩ | ⟨manifest, hresolved, hanswer⟩ :=
    getActionSchema_cases schemas monitor.world (subject.request version) forceRefresh moment
  · exact .inl ⟨error, monitor.world, hanswer, rfl, h.observed⟩
  have hobserved : Observed schemas subject
      (SchemaRegistry.observe monitor.world (subject.request version) manifest).observed :=
    .inr ⟨version, manifest, hresolved, observe_observed monitor.world h.observed.one⟩
  obtain ⟨payload, -, hcached, hanswer⟩ | ⟨-, hanswer⟩ := hanswer
  · obtain ⟨expiry, hkept, -⟩ := Expiring.kept_of_get hcached
    exact .inr ⟨_, _, hanswer, ⟨payload, expiry, hkept, rfl⟩, hobserved⟩
  · cases hbuild : buildSchemaPayload schemas.str manifest subject.action subject.tenantId
        moment.fetched with
    | error message =>
        rw [build_of_error _ hbuild] at hanswer
        exact .inl ⟨_, _, hanswer, rfl, hobserved⟩
    | ok payload =>
        rw [build_of_ok _ hbuild] at hanswer
        exact .inr ⟨payload, _, hanswer, ⟨payload, _, Expiring.set_self, rfl⟩, hobserved⟩

theorem Monitor.Kept.step (h : monitor.Kept schemas subject) (event : Event) :
    (monitor.step schemas subject event).Kept schemas subject := by
  cases event with
  | get version forceRefresh moment =>
      obtain ⟨error, world, hanswer, hredis, hobserved⟩ | ⟨payload, world, hanswer, hkept, hobserved⟩ :=
        h.get version forceRefresh moment
      · simp only [Monitor.step, hanswer]
        refine ⟨?_, hobserved⟩
        show monitor.served = none ∧ world.redis subject.key = none ∨ ∃ served kept expiry,
          monitor.served = some served ∧ world.redis subject.key = some (kept, expiry) ∧ _
        rw [hredis]
        exact h.cached
      · obtain ⟨kept, expiry, hkept, hschema⟩ := hkept
        simp only [Monitor.step, hanswer]
        exact ⟨.inr ⟨payload, kept, expiry, rfl, hkept, hschema⟩, hobserved⟩
  | refresh moment =>
      obtain ⟨hfresh, -, hworld⟩ | ⟨payload, hfresh, -, hkept, hobserved⟩ := h.refresh moment
      · simp only [Monitor.step, hfresh, hworld]
        exact h
      · simp only [Monitor.step, hfresh]
        refine ⟨.inr ⟨payload, payload, _, rfl, hkept, rfl⟩, ?_⟩
        show Observed schemas subject
          (schemas.refreshObservedSchemas monitor.world fun _ => moment).2.observed
        rw [hobserved]
        exact h.observed

/-- The cycles in which the invalidator is called exactly if the served fields have changed. -/
theorem Monitor.Kept.right_iff (h : monitor.Kept schemas subject) (event : Event) :
    monitor.Right schemas subject event ↔ monitor.Meets schemas subject event := by
  cases event with
  | get version forceRefresh moment => exact Iff.rfl
  | refresh moment =>
      obtain ⟨hfresh, hevents, -⟩ | ⟨payload, hfresh, hevents, -⟩ := h.refresh moment
      · refine iff_of_true ?_ fun payload hpayload => ?_
        · show (monitor.events schemas moment).any _ = true ↔ _
          rw [hevents, hfresh]
          simp
        · rw [hfresh] at hpayload
          cases hpayload
      · have hright : monitor.Right schemas subject (.refresh moment) ↔
            ((SchemaRegistry.diffSchemas (monitor.world.redis.get moment.now subject.key)
                payload).changed = true ↔
              monitor.pending = true ∨ changedFrom monitor.served payload = true) := by
          show ((monitor.events schemas moment).any _ = true ↔ _) ↔ _
          rw [hevents, hfresh]
          simp
        have hmeets : monitor.Meets schemas subject (.refresh moment) ↔
            if (monitor.world.redis.get moment.now subject.key).isSome then
              monitor.pending = true → changedFrom monitor.served payload = true
            else
              payload.named = true ↔
                monitor.pending = true ∨ changedFrom monitor.served payload = true := by
          show (∀ payload, monitor.fresh schemas subject moment = some payload → _) ↔ _
          rw [hfresh]
          simp
        rw [hright, hmeets]
        cases hcached : monitor.world.redis.get moment.now subject.key with
        | none =>
            rw [diffSchemas_none]
            exact Iff.rfl
        | some cached =>
            -- The payload in the cache has the fields that were served last.
            have hserved : (SchemaRegistry.diffSchemas (some cached) payload).changed =
                changedFrom monitor.served payload := by
              obtain ⟨expiry, hredis, -⟩ := Expiring.kept_of_get hcached
              obtain ⟨-, hnone⟩ | ⟨served, kept, expiry', hserved, hkept, hschema⟩ := h.cached
              · rw [hnone] at hredis
                cases hredis
              · rw [hkept] at hredis
                obtain ⟨rfl, -⟩ := Prod.mk.inj (Option.some.inj hredis)
                rw [hserved, diffSchemas_congr hschema]
                rfl
            rw [hserved]
            simp

/-- The fields of an action with these names, as a service reports them. -/
def reported (names : List String) : Option Dict :=
  some [("input_fields", .list (names.map fun name => .dict [("field", .str name)]))]

/-- The rates of the courier. -/
def rates : Subject where
  connectorName := "inpost"
  action := "rates.get"
  tenantId := none

/-- A field is added after the first request. The payload has expired when the second request comes,
which puts the new fields into the cache, so that the refresh cycle finds no change. -/
def expiredChange : List Event :=
  [.get (some "1.0.0") false ⟨0, reported ["weight"]⟩,
    .get (some "1.0.0") false ⟨4000, reported ["weight", "service"]⟩,
    .refresh ⟨4001, reported ["weight", "service"]⟩]

end Schemas

end IntegrationPlatform
