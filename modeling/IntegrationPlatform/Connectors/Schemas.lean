import IntegrationPlatform.Connectors.Registry
import IntegrationPlatform.Stores.Expiring
import IntegrationPlatform.Transactions.Histories
import Mathlib.Algebra.Order.Ring.Rat

/-!
# The schemas of the actions

`SchemaRegistry.get_action_schema` answers with the fields of an action: those of the manifest, and
those that the service of the connector reports. A payload is cached in Redis under the connector,
the action and the tenant. `schemas_coherent` says when every payload is that of the manifest that
its request is resolved to.
-/

namespace IntegrationPlatform

namespace Schemas

open Connectors

/-! ## Fields -/

/-- A normalized field. -/
structure Field where
  field : String
  label : String
  type : String
  required : Bool
  description : Value

/-- `==` on normalized fields. -/
def Field.pyEq (left right : Field) : Bool :=
  left.field = right.field && left.label = right.label && left.type = right.type &&
    left.required = right.required && left.description.pyEq right.description

/-- `for item in value`. -/
def iterate : Value → Except String (List Value)
  | .list items => .ok items
  | .dict fields => .ok (fields.map fun field => .str field.1)
  | .str text => .ok (text.toList.map fun letter => .str (String.ofList [letter]))
  | value => .error ("'" ++ value.typeName ++ "' object is not iterable")

section Texts

-- `str(value)`.
variable (str : Value → String)

/-- One field of `_normalize_fields`, unless it is skipped. -/
def normalizeField : Value → Option Field
  | .dict fields =>
      let name := (Assoc.find fields "field").getD .null
      let label := (Assoc.find fields "label").getD .null
      if name.truthy then
        some {
          field := str name
          label := str (if label.truthy then label else name)
          type := str ((Assoc.find fields "type").getD (.str "string"))
          required := ((Assoc.find fields "required").getD (.bool false)).truthy
          description := (Assoc.find fields "description").getD .null }
      else none
  | _ => none

def normalizeFields (fields : Value) : Except String (List Field) :=
  (iterate fields).map fun items => items.filterMap (normalizeField str)

/-- The fields of one kind that a service reports, if it reports a schema. -/
def dynamicFields (key : String) : Option Dict → Except String (List Field)
  | none => .ok []
  | some [] => .ok []
  | some payload => normalizeFields str ((Assoc.find payload key).getD (.list []))

/-- `{field["field"]: field for field in fields}`, into some fields. -/
def putFields (merged : Assoc Field) (fields : List Field) : Assoc Field :=
  fields.foldl (fun merged field => merged.put field.field field) merged

/-- `_merge_fields`. Normalized fields have the same keys, so that one replaces the other. -/
def mergeFields (static dynamic : List Field) : List Field :=
  (putFields (putFields [] static) dynamic).map (·.2)

/-! ## Payloads -/

/-- The part of a schema payload that depends on the manifest, the action and the service. -/
structure SchemaFields where
  source : String
  inputFields : List Field
  outputFields : List Field

/-- A schema payload. -/
structure Payload where
  connectorName : String
  connectorVersion : String
  tenantId : Option String
  action : String
  cached : Bool
  schema : SchemaFields

/-- The fields of `_build_schema_payload`, with the schema that was fetched. -/
def buildFields (manifest : ConnectorManifest) (action : String) (fetched : Option Dict) :
    Except String SchemaFields := do
  let staticInput ← normalizeFields str ((manifest.actionFields.find action).getD (.list []))
  let staticOutput ← normalizeFields str ((manifest.outputFields.find action).getD (.list []))
  let dynamicInput ← dynamicFields str "input_fields" fetched
  let dynamicOutput ← dynamicFields str "output_fields" fetched
  let static := staticInput.isEmpty && staticOutput.isEmpty
  return {
    source :=
      match fetched with
      | none => "static"
      | some [] => "static"
      | some _ => if static then "dynamic" else "merged"
    inputFields := mergeFields staticInput dynamicInput
    outputFields := mergeFields staticOutput dynamicOutput }

def buildSchemaPayload (manifest : ConnectorManifest) (action : String) (tenantId : Option String)
    (fetched : Option Dict) : Except String Payload :=
  (buildFields str manifest action fetched).map fun schema => {
    connectorName := manifest.name
    connectorVersion := manifest.version
    tenantId
    action
    cached := false
    schema }

end Texts

/-- The address of the schema of an action. -/
def schemaUrl (baseUrl action : String) : String :=
  baseUrl ++ "/schema/" ++ action.map fun letter => if letter = '.' then '/' else letter

def cacheKey (connectorName action : String) (tenantId : Option String) : String :=
  "schema:" ++ connectorName ++ ":" ++ action ++ ":" ++ (nonempty tenantId).getD "global"

/-! ## Requests -/

/-- The arguments of `get_action_schema`. -/
structure Request where
  connectorName : String
  action : String
  connectorVersion : Option String := none
  tenantId : Option String := none

/-- What `get_action_schema` raises: the `LookupError` of an unknown connector, or another error. -/
inductive SchemaError where
  | lookup (message : String)
  | other (message : String)

/-- The clock of a request, and the schema that the service reports to it. -/
structure Moment where
  now : Rat
  fetched : Option Dict

/-- A payload that was built, under which key and of what. -/
structure Build where
  key : String
  manifest : ConnectorManifest
  action : String
  fetched : Option Dict

/-- The cache, the observed schemas, and the payloads that were built, the last one first. -/
structure World where
  redis : Expiring String Payload Rat := .empty
  observed : Assoc Request := []
  builds : List Build := []

structure SchemaRegistry where
  registry : ConnectorRegistry
  str : Value → String
  timeToLive : Rat

namespace SchemaRegistry

variable (schemas : SchemaRegistry)

/-- The descriptor of an observed schema. -/
def descriptor (request : Request) (manifest : ConnectorManifest) : Request where
  connectorName := request.connectorName
  action := request.action
  connectorVersion := some manifest.version
  tenantId := request.tenantId

/-- The key of a request. -/
def key (request : Request) : String :=
  cacheKey request.connectorName request.action request.tenantId

/-- The request is observed. -/
def observe (world : World) (request : Request) (manifest : ConnectorManifest) : World :=
  { world with observed := world.observed.put (key request) (descriptor request manifest) }

/-- The payload is built, and cached. -/
def build (world : World) (request : Request) (manifest : ConnectorManifest) (moment : Moment) :
    Except SchemaError Payload × World :=
  match buildSchemaPayload schemas.str manifest request.action request.tenantId moment.fetched with
  | .error message => (.error (.other message), world)
  | .ok payload =>
      (.ok payload,
        { world with
          redis := world.redis.set (key request) payload (moment.now + schemas.timeToLive)
          builds := ⟨key request, manifest, request.action, moment.fetched⟩ :: world.builds })

def getActionSchema (world : World) (request : Request) (forceRefresh : Bool) (moment : Moment) :
    Except SchemaError Payload × World :=
  match schemas.registry.getByNameVersion request.connectorName request.connectorVersion with
  | .error message => (.error (.other message), world)
  | .ok none => (.error (.lookup ("Connector '" ++ request.connectorName ++ "' not found")), world)
  | .ok (some manifest) =>
      match world.redis.get moment.now (key request), forceRefresh with
      | some payload, false => (.ok { payload with cached := true }, observe world request manifest)
      | _, _ => schemas.build (observe world request manifest) request manifest moment

/-! ## Refreshes -/

/-- The result of `_diff_field_sets`. -/
structure FieldSetDiff where
  added : List String
  removed : List String
  changedFields : List String
  changed : Bool

/-- The fields that have a name, by their names. -/
def byName (fields : List Field) : Assoc Field :=
  putFields [] (fields.filter fun field => field.field ≠ "")

/-- Texts in the order of `sorted`. -/
def sorted (texts : List String) : List String :=
  texts.mergeSort fun left right => decide (left ≤ right)

def diffFieldSets (previousFields currentFields : List Field) : FieldSetDiff :=
  let previous := byName previousFields
  let current := byName currentFields
  let added := (current.map (·.1)).filter fun name => !previous.has name
  let removed := (previous.map (·.1)).filter fun name => !current.has name
  let changed := (current.filter fun entry =>
    match previous.find entry.1 with
    | some field => !entry.2.pyEq field
    | none => false).map (·.1)
  { added := sorted added
    removed := sorted removed
    changedFields := sorted changed
    changed := !(added.isEmpty && removed.isEmpty && changed.isEmpty) }

/-- The result of `diff_schemas`. -/
structure SchemaDiff where
  inputFields : FieldSetDiff
  outputFields : FieldSetDiff
  changed : Bool

/-- `diff_schemas`, with a previous payload or none. -/
def diffSchemas (previous : Option Payload) (current : Payload) : SchemaDiff :=
  let inputFields :=
    diffFieldSets ((previous.map (·.schema.inputFields)).getD []) current.schema.inputFields
  let outputFields :=
    diffFieldSets ((previous.map (·.schema.outputFields)).getD []) current.schema.outputFields
  { inputFields, outputFields, changed := inputFields.changed || outputFields.changed }

/-- The event of a change, for which the mapping invalidator and the change handler are called. -/
structure ChangeEvent where
  descriptor : Request
  diff : SchemaDiff

/-- One observed schema in `refresh_observed_schemas`. A connector that is not found is skipped. -/
def refreshKey (world : World) (cacheKey : String) (descriptor : Request) (moment : Moment) :
    Except SchemaError (List ChangeEvent) × World :=
  let cached := world.redis.get moment.now cacheKey
  let (answer, after) := schemas.getActionSchema world descriptor true moment
  match answer with
  | .error (.lookup _) => (.ok [], after)
  | .error (.other message) => (.error (.other message), after)
  | .ok fresh =>
      let diff := diffSchemas cached fresh
      (.ok (if diff.changed then [⟨descriptor, diff⟩] else []), after)

/-- The observed schemas are refreshed one after the other, until an error is raised: the events so
far, and the world. -/
def refreshAll (moments : String → Moment) : Assoc Request → World → List ChangeEvent × World
  | [], world => ([], world)
  | (cacheKey, descriptor) :: rest, world =>
      match schemas.refreshKey world cacheKey descriptor (moments cacheKey) with
      | (.error _, after) => ([], after)
      | (.ok events, after) =>
          let (others, last) := refreshAll moments rest after
          (events ++ others, last)

def refreshObservedSchemas (world : World) (moments : String → Moment) : List ChangeEvent × World :=
  schemas.refreshAll moments world.observed world

end SchemaRegistry

/-! ## Coherence -/

/-- A request for a schema, or a refresh of the observed ones. -/
inductive Operation where
  | get (request : Request) (forceRefresh : Bool) (moment : Moment)
  | refresh (moments : String → Moment)

/-- The world after an operation. -/
def SchemaRegistry.step (schemas : SchemaRegistry) (world : World) : Operation → World
  | .get request forceRefresh moment => (schemas.getActionSchema world request forceRefresh moment).2
  | .refresh moments => (schemas.refreshObservedSchemas world moments).2

/-- The payload has the version of the manifest, and its fields: those of the manifest, merged with a
schema that was fetched from its service. -/
structure Payload.Of (str : Value → String) (builds : List Build) (manifest : ConnectorManifest)
    (action : String) (payload : Payload) : Prop where
  version : payload.connectorVersion = manifest.version
  fields : ∃ build ∈ builds,
    schemaUrl build.manifest.baseUrl build.action = schemaUrl manifest.baseUrl action ∧
      buildFields str manifest action build.fetched = .ok payload.schema

/-- A payload that a request is answered with is that of the manifest that the request is resolved
to. -/
def SchemaRegistry.Coherent (schemas : SchemaRegistry) (world : World) : Operation → Prop
  | .get request forceRefresh moment => ∀ manifest payload,
      schemas.registry.getByNameVersion request.connectorName request.connectorVersion =
        .ok (some manifest) →
      (schemas.getActionSchema world request forceRefresh moment).1 = .ok payload →
      payload.Of schemas.str (schemas.getActionSchema world request forceRefresh moment).2.builds
        manifest request.action
  | .refresh _ => True

/-- A request that finds a payload in the cache finds one that was last built for the manifest that
the request is resolved to, and for its action. -/
def SchemaRegistry.Matches (schemas : SchemaRegistry) (world : World) : Operation → Prop
  | .get request false moment => ∀ manifest build,
      schemas.registry.getByNameVersion request.connectorName request.connectorVersion =
        .ok (some manifest) →
      (world.redis.get moment.now (SchemaRegistry.key request)).isSome = true →
      world.builds.find? (fun build => build.key = SchemaRegistry.key request) = some build →
      build.manifest = manifest ∧ build.action = request.action
  | _ => True

/-- Each payload in the cache is the last one that was built under its key. -/
def Backed (str : Value → String) (world : World) : Prop :=
  ∀ key payload expiry, world.redis key = some (payload, expiry) →
    ∃ build, world.builds.find? (fun build => build.key = key) = some build ∧
      payload.Of str world.builds build.manifest build.action

variable {schemas : SchemaRegistry} {world : World} {request : Request} {forceRefresh : Bool}
  {moment : Moment} {manifest : ConnectorManifest} {payload : Payload} {str : Value → String}
  {tenantId : Option String}

variable {action : String}

theorem Payload.Of.mono {builds builds' : List Build}
    (h : payload.Of str builds manifest action) (hsub : ∀ build ∈ builds, build ∈ builds') :
    payload.Of str builds' manifest action where
  version := h.version
  fields := by
    obtain ⟨build, hmem, hfields⟩ := h.fields
    exact ⟨build, hsub build hmem, hfields⟩

theorem buildSchemaPayload_eq_ok {fetched : Option Dict}
    (h : buildSchemaPayload str manifest action tenantId fetched = .ok payload) :
    payload.connectorName = manifest.name ∧ payload.connectorVersion = manifest.version ∧
      buildFields str manifest action fetched = .ok payload.schema := by
  unfold buildSchemaPayload at h
  cases hfields : buildFields str manifest action fetched with
  | error message =>
      rw [hfields] at h
      cases h
  | ok schema =>
      rw [hfields] at h
      obtain rfl := Except.ok.inj h
      exact ⟨rfl, rfl, rfl⟩

theorem of_build {fetched : Option Dict} {builds : List Build} {key : String}
    (h : buildSchemaPayload str manifest action tenantId fetched = .ok payload) :
    payload.Of str (⟨key, manifest, action, fetched⟩ :: builds) manifest action := by
  obtain ⟨-, hversion, hfields⟩ := buildSchemaPayload_eq_ok h
  exact ⟨hversion, _, List.mem_cons_self, rfl, hfields⟩

theorem build_of_error (world : World) {message : String}
    (h : buildSchemaPayload schemas.str manifest request.action request.tenantId moment.fetched =
      .error message) :
    schemas.build world request manifest moment = (.error (.other message), world) := by
  unfold SchemaRegistry.build
  rw [h]

theorem build_fails_iff (world : World) :
    (schemas.build world request manifest moment).1.toOption = none ↔
      ∃ error, buildFields schemas.str manifest request.action moment.fetched = .error error := by
  unfold SchemaRegistry.build buildSchemaPayload
  cases buildFields schemas.str manifest request.action moment.fetched with
  | error message => simp [Except.map, Except.toOption]
  | ok fields => simp [Except.map, Except.toOption]

theorem build_of_ok (world : World)
    (h : buildSchemaPayload schemas.str manifest request.action request.tenantId moment.fetched =
      .ok payload) :
    schemas.build world request manifest moment =
      (.ok payload,
        { world with
          redis := world.redis.set (SchemaRegistry.key request) payload
            (moment.now + schemas.timeToLive)
          builds := ⟨SchemaRegistry.key request, manifest, request.action, moment.fetched⟩ ::
            world.builds }) := by
  unfold SchemaRegistry.build
  rw [h]

theorem build_names (h : (schemas.build world request manifest moment).1 = .ok payload) :
    payload.connectorName = manifest.name ∧ payload.connectorVersion = manifest.version := by
  cases hbuild : buildSchemaPayload schemas.str manifest request.action request.tenantId
      moment.fetched with
  | error message =>
      rw [build_of_error _ hbuild] at h
      cases h
  | ok built =>
      rw [build_of_ok _ hbuild] at h
      obtain rfl := Except.ok.inj h
      exact ⟨(buildSchemaPayload_eq_ok hbuild).1, (buildSchemaPayload_eq_ok hbuild).2.1⟩

theorem Backed.build (h : Backed schemas.str world) (request : Request) (manifest : ConnectorManifest)
    (moment : Moment) :
    Backed schemas.str (schemas.build world request manifest moment).2 ∧
      ∀ payload, (schemas.build world request manifest moment).1 = .ok payload →
        payload.Of schemas.str (schemas.build world request manifest moment).2.builds manifest
          request.action := by
  cases hbuild : buildSchemaPayload schemas.str manifest request.action request.tenantId
      moment.fetched with
  | error message =>
      rw [build_of_error _ hbuild]
      exact ⟨h, fun payload hpayload => by cases hpayload⟩
  | ok built =>
      rw [build_of_ok _ hbuild]
      refine ⟨fun key payload expiry hkey => ?_, fun payload hpayload => ?_⟩
      · replace hkey : world.redis.set (SchemaRegistry.key request) built
            (moment.now + schemas.timeToLive) key = some (payload, expiry) := hkey
        by_cases hsame : key = SchemaRegistry.key request
        · -- The payload of this key was built last of all.
          subst hsame
          rw [Expiring.set_self] at hkey
          obtain ⟨rfl, -⟩ := Prod.mk.inj (Option.some.inj hkey)
          exact ⟨_, List.find?_cons_of_pos (decide_eq_true rfl), of_build hbuild⟩
        · rw [Expiring.set_of_ne hsame] at hkey
          obtain ⟨build, hfound, hof⟩ := h key payload expiry hkey
          refine ⟨build, ?_, hof.mono fun other => List.mem_cons_of_mem _⟩
          rw [List.find?_cons_of_neg]
          · exact hfound
          · exact fun hkey => hsame (of_decide_eq_true hkey).symm
      · obtain rfl := Except.ok.inj hpayload
        exact of_build hbuild

/-- A request is answered from the cache, or with a payload that is built, or with an error. -/
theorem getActionSchema_cases (schemas : SchemaRegistry) (world : World) (request : Request)
    (forceRefresh : Bool) (moment : Moment) :
    (∃ error, schemas.getActionSchema world request forceRefresh moment = (.error error, world)) ∨
      ∃ manifest,
        schemas.registry.getByNameVersion request.connectorName request.connectorVersion =
          .ok (some manifest) ∧
        ((∃ payload, forceRefresh = false ∧
            world.redis.get moment.now (SchemaRegistry.key request) = some payload ∧
            schemas.getActionSchema world request forceRefresh moment =
              (.ok { payload with cached := true },
                SchemaRegistry.observe world request manifest)) ∨
          ((forceRefresh = true ∨
              world.redis.get moment.now (SchemaRegistry.key request) = none) ∧
            schemas.getActionSchema world request forceRefresh moment =
              schemas.build (SchemaRegistry.observe world request manifest) request manifest
                moment)) := by
  unfold SchemaRegistry.getActionSchema
  cases hresolved :
      schemas.registry.getByNameVersion request.connectorName request.connectorVersion with
  | error message => exact .inl ⟨_, rfl⟩
  | ok resolved =>
      cases resolved with
      | none => exact .inl ⟨_, rfl⟩
      | some manifest =>
          refine .inr ⟨manifest, rfl, ?_⟩
          cases hcached : world.redis.get moment.now (SchemaRegistry.key request) with
          | none => exact .inr ⟨.inr rfl, rfl⟩
          | some payload =>
              cases forceRefresh with
              | false => exact .inl ⟨payload, rfl, rfl, rfl⟩
              | true => exact .inr ⟨.inl rfl, rfl⟩

theorem getActionSchema_of_cached (moment : Moment)
    (hresolved : schemas.registry.getByNameVersion request.connectorName request.connectorVersion =
      .ok (some manifest))
    (hcached : world.redis.get moment.now (SchemaRegistry.key request) = some payload) :
    schemas.getActionSchema world request false moment =
      (.ok { payload with cached := true }, SchemaRegistry.observe world request manifest) := by
  unfold SchemaRegistry.getActionSchema
  rw [hresolved]
  simp only [hcached]

theorem getActionSchema_of_forced (world : World) (moment : Moment)
    (hresolved : schemas.registry.getByNameVersion request.connectorName request.connectorVersion =
      .ok (some manifest)) :
    schemas.getActionSchema world request true moment =
      schemas.build (SchemaRegistry.observe world request manifest) request manifest moment := by
  unfold SchemaRegistry.getActionSchema
  rw [hresolved]
  cases world.redis.get moment.now (SchemaRegistry.key request) <;> rfl

theorem Backed.getActionSchema (h : Backed schemas.str world) (request : Request)
    (forceRefresh : Bool) (moment : Moment) :
    Backed schemas.str (schemas.getActionSchema world request forceRefresh moment).2 := by
  obtain ⟨error, hanswer⟩ | ⟨manifest, -, ⟨payload, -, -, hanswer⟩ | ⟨-, hanswer⟩⟩ :=
    getActionSchema_cases schemas world request forceRefresh moment
  · rw [hanswer]
    exact h
  · rw [hanswer]
    exact h
  · rw [hanswer]
    have hobserved : Backed schemas.str (SchemaRegistry.observe world request manifest) := h
    exact (hobserved.build request manifest moment).1

theorem refreshKey_world (schemas : SchemaRegistry) (world : World) (cacheKey : String)
    (descriptor : Request) (moment : Moment) :
    (schemas.refreshKey world cacheKey descriptor moment).2 =
      (schemas.getActionSchema world descriptor true moment).2 := by
  unfold SchemaRegistry.refreshKey
  obtain ⟨answer, after⟩ := schemas.getActionSchema world descriptor true moment
  obtain (message | message) | fresh := answer <;> rfl

theorem Backed.refreshAll (moments : String → Moment) (observed : Assoc Request)
    (h : Backed schemas.str world) :
    Backed schemas.str (schemas.refreshAll moments observed world).2 := by
  induction observed generalizing world with
  | nil => exact h
  | cons entry rest ih =>
      obtain ⟨cacheKey, descriptor⟩ := entry
      have hafter : Backed schemas.str
          (schemas.refreshKey world cacheKey descriptor (moments cacheKey)).2 := by
        rw [refreshKey_world]
        exact h.getActionSchema descriptor true _
      unfold SchemaRegistry.refreshAll
      generalize schemas.refreshKey world cacheKey descriptor (moments cacheKey) = result at hafter ⊢
      obtain ⟨error | events, after⟩ := result
      · exact hafter
      · exact ih hafter

theorem Backed.step (h : Backed schemas.str world) (operation : Operation) :
    Backed schemas.str (schemas.step world operation) := by
  cases operation with
  | get request forceRefresh moment => exact h.getActionSchema request forceRefresh moment
  | refresh moments => exact h.refreshAll moments world.observed

theorem Backed.coherent (h : Backed schemas.str world) {operation : Operation}
    (hmatches : schemas.Matches world operation) : schemas.Coherent world operation := by
  cases operation with
  | refresh moments => exact trivial
  | get request forceRefresh moment =>
      intro manifest payload hmanifest hpayload
      obtain ⟨error, hanswer⟩ | ⟨resolved, hresolved, ⟨cached, hforce, hcached, hanswer⟩ | ⟨-, hanswer⟩⟩ :=
        getActionSchema_cases schemas world request forceRefresh moment
      · rw [hanswer] at hpayload
        cases hpayload
      · -- The payload comes from the cache.
        obtain rfl := Option.some.inj (Except.ok.inj (hresolved.symm.trans hmanifest))
        rw [hanswer] at hpayload ⊢
        obtain rfl := Except.ok.inj hpayload
        subst hforce
        obtain ⟨expiry, hkept, -⟩ := Expiring.kept_of_get hcached
        obtain ⟨build, hfound, hof⟩ := h _ _ _ hkept
        obtain ⟨rfl, haction⟩ :=
          hmatches resolved build hresolved (by rw [hcached]; rfl) hfound
        rw [haction] at hof
        exact ⟨hof.version, hof.fields⟩
      · -- The payload is built.
        obtain rfl := Option.some.inj (Except.ok.inj (hresolved.symm.trans hmanifest))
        rw [hanswer] at hpayload ⊢
        have hobserved : Backed schemas.str (SchemaRegistry.observe world request resolved) := h
        exact (hobserved.build request resolved moment).2 payload hpayload

/-- In every sequence of requests and refreshes in which each request that finds a payload in the
cache finds one of its manifest and its action, each payload is that of the manifest that its request
is resolved to. -/
theorem schemas_coherent (schemas : SchemaRegistry) (operations : List Operation)
    (hmatches : Along schemas.step schemas.Matches {} operations) :
    Along schemas.step schemas.Coherent {} operations := by
  have hbacked : Backed schemas.str {} := fun key payload expiry hkey => by cases hkey
  exact hmatches.mono (fun world operation h hstep => h.coherent hstep)
    (fun world operation h _ => h.step operation) hbacked

/-- A connector that is installed in two versions. -/
def courier (version : String) : ConnectorManifest where
  name := "inpost"
  category := "courier"
  version

/-- The registry of its schemas. -/
def courierSchemas : SchemaRegistry where
  registry := ⟨asciiNumerals, [courier "1.0.0", courier "2.0.0"]⟩
  str
    | .str text => text
    | _ => ""
  timeToLive := 3600

/-- A request for the schema of one version. -/
def ratesRequest (version : String) : Request where
  connectorName := "inpost"
  action := "rates.get"
  connectorVersion := some version

theorem courier_resolved {version : String} (hversion : version = "1.0.0" ∨ version = "2.0.0") :
    courierSchemas.registry.getByNameVersion "inpost" (some version) = .ok (some (courier version)) := by
  obtain rfl | rfl := hversion <;> rfl

/-- Two requests that name the first version, of which the second one is answered from the cache. -/
theorem same_version_served :
    Along courierSchemas.step courierSchemas.Coherent {}
      [.get (ratesRequest "1.0.0") false ⟨0, none⟩, .get (ratesRequest "1.0.0") false ⟨1, none⟩] := by
  refine schemas_coherent courierSchemas _ ⟨fun _ _ _ hcached => (nomatch hcached), ?_, trivial⟩
  intro manifest build hresolved _ hfound
  obtain rfl := Option.some.inj (Except.ok.inj ((courier_resolved (.inl rfl)).symm.trans hresolved))
  obtain rfl : (⟨SchemaRegistry.key (ratesRequest "1.0.0"), courier "1.0.0", "rates.get", none⟩ : Build) =
    build := Option.some.inj hfound
  exact ⟨rfl, rfl⟩

/-- The payload of the first version. -/
def firstPayload : Payload where
  connectorName := "inpost"
  connectorVersion := "1.0.0"
  tenantId := none
  action := "rates.get"
  cached := false
  schema := ⟨"static", [], []⟩

/-- A request that names the second version is answered with the schema of the first one, which
another request has left in the cache. -/
theorem other_version_served :
    ¬ Along courierSchemas.step courierSchemas.Coherent {}
      [.get (ratesRequest "1.0.0") false ⟨0, none⟩, .get (ratesRequest "2.0.0") false ⟨1, none⟩] := by
  rintro ⟨-, hcoherent, -⟩
  have hkept : (courierSchemas.step {} (.get (ratesRequest "1.0.0") false ⟨0, none⟩)).redis =
      Expiring.empty.set (SchemaRegistry.key (ratesRequest "2.0.0")) firstPayload (0 + 3600) := rfl
  have hcached : (courierSchemas.step {} (.get (ratesRequest "1.0.0") false ⟨0, none⟩)).redis.get 1
      (SchemaRegistry.key (ratesRequest "2.0.0")) = some firstPayload := by
    rw [hkept]
    exact Expiring.get_of_lt Expiring.set_self (by decide +kernel)
  have hanswer := getActionSchema_of_cached ⟨1, none⟩ (courier_resolved (.inr rfl)) hcached
  have hof := hcoherent (courier "2.0.0") { firstPayload with cached := true }
    (courier_resolved (.inr rfl)) (congrArg Prod.fst hanswer)
  exact absurd hof.version (by decide)

end Schemas

end IntegrationPlatform
