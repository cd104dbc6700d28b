import IntegrationPlatform.Connectors.Schemas
import IntegrationPlatform.Rates.ManifestLimits

/-!
# Requests that name a version

The dispatcher of actions, the rate limiter and the registry of schemas resolve the version that a
request names with `get_by_name_version`. `pinned_iff` says when a request is served by the manifest
of exactly this version.
-/

namespace IntegrationPlatform

namespace Connectors

open RateLimiter

/-! ## The dispatcher -/

/-- A character of `[a-z0-9]`. -/
def isNameStart (letter : Char) : Bool :=
  decide ('a' ≤ letter ∧ letter ≤ 'z') || decide ('0' ≤ letter ∧ letter ≤ '9')

/-- `_CONNECTOR_NAME_RE.match(name)`. The end of the pattern matches before a last newline, too. -/
def validName (name : String) : Bool :=
  let text := if name.toList.getLast? = some '\n' then name.toList.dropLast else name.toList
  match text with
  | [] => false
  | first :: rest =>
      isNameStart first && decide (rest.length ≤ 62) &&
        rest.all fun letter => isNameStart letter || letter == '-'

/-- What `dispatch_action` uses: the registry, and the rate limiter if one is set. -/
structure Dispatcher where
  registry : Option ConnectorRegistry
  limits : Option ManifestLimits
  /-- `repr(text)`. -/
  repr : String → String

/-- What the request to the service of a connector is made of. -/
structure Plan where
  manifest : Option ConnectorManifest
  baseUrl : String
  limits : Option RateLimitConfig
  route : Option Value

namespace Dispatcher

variable (dispatcher : Dispatcher) (connectorName : String) (connectorVersion : Option String)

/-- The manifest that the registry finds, if there is one. -/
def manifest : Except String (Option ConnectorManifest) :=
  match dispatcher.registry with
  | none => .ok none
  | some registry => registry.getByNameVersion connectorName connectorVersion

def resolveServiceUrl : Except String String :=
  if validName connectorName then
    (dispatcher.manifest connectorName connectorVersion).map fun manifest =>
      match manifest with
      | some manifest => manifest.baseUrl
      | none => serviceUrl (defaultServiceName connectorName)
  else .error ("Invalid connector_name: " ++ dispatcher.repr connectorName)

/-- The limits of the check of the rate limiter. -/
def checkedLimits (action : String) : Except String (Option RateLimitConfig) :=
  match dispatcher.limits with
  | none => .ok none
  | some limits => (limits.getLimits connectorName (some action) connectorVersion).map some

/-- `dispatch_action`, up to the request to the service. `allowed` is what the rate limiter says. -/
def dispatchAction (action : String) (allowed : Bool) : Except String Plan :=
  (dispatcher.manifest connectorName connectorVersion).bind fun manifest =>
    let address : Except String String :=
      match manifest with
      | some manifest => .ok manifest.baseUrl
      | none => dispatcher.resolveServiceUrl connectorName connectorVersion
    address.bind fun baseUrl =>
      (dispatcher.checkedLimits connectorName connectorVersion action).bind fun limits =>
        if limits.isSome && !allowed then
          .error ("Rate limit exceeded for " ++ connectorName ++ "/" ++ action)
        else
          .ok {
            manifest
            baseUrl
            limits
            route := manifest.bind fun manifest => manifest.actionRoutes.find action }

end Dispatcher

/-! ## Requests -/

/-- The parts of the platform that resolve versions, over one registry. -/
structure Platform where
  registry : ConnectorRegistry
  /-- A rate limiter is set. -/
  limited : Bool
  texts : RateTexts
  defaultConfig : RateLimitConfig
  repr : String → String
  str : Value → String
  timeToLive : Rat

/-- A request that names a version: for an action, for the limits of an action, or for a schema. -/
inductive VersionRequest where
  | action (action : String) (allowed : Bool)
  | limits (action : Option String)
  | schema (action : String) (tenantId : Option String) (forceRefresh : Bool)
      (moment : Schemas.Moment)

/-- What a request is answered with. -/
inductive Answer where
  | action (plan : Plan)
  | limits (config : RateLimitConfig)
  | schema (payload : Schemas.Payload)

namespace Platform

variable (platform : Platform)

/-- The limits of the rate limiter. -/
def manifestLimits : ManifestLimits :=
  ⟨some platform.registry, platform.texts, platform.defaultConfig⟩

/-- The dispatcher. -/
def dispatcher : Dispatcher where
  registry := some platform.registry
  limits := if platform.limited then some platform.manifestLimits else none
  repr := platform.repr

/-- The registry of the schemas. -/
def schemas : Schemas.SchemaRegistry :=
  ⟨platform.registry, platform.str, platform.timeToLive⟩

variable (world : Schemas.World) (name version : String)

/-- The answer to a request, unless it fails. -/
def serve : VersionRequest → Option Answer
  | .action action allowed =>
      (platform.dispatcher.dispatchAction name (some version) action allowed).toOption.map .action
  | .limits action => (platform.manifestLimits.getLimits name action (some version)).toOption.map .limits
  | .schema action tenantId forceRefresh moment =>
      (platform.schemas.getActionSchema world ⟨name, action, some version, tenantId⟩ forceRefresh
        moment).1.toOption.map .schema

/-- The answer uses the address, the routes, the limits or the schema of a manifest. -/
def Uses (manifest : ConnectorManifest) : VersionRequest → Answer → Prop
  | .action action _, .action plan =>
      plan.manifest = some manifest ∧ plan.baseUrl = manifest.baseUrl ∧
        plan.route = manifest.actionRoutes.find action ∧
        ∀ config, plan.limits = some config →
          limitsOf platform.texts platform.defaultConfig manifest.rateLimits (some action) = .ok config
  | .limits action, .limits config =>
      limitsOf platform.texts platform.defaultConfig manifest.rateLimits action = .ok config
  | .schema _ _ _ _, .schema payload =>
      payload.connectorName = manifest.name ∧ payload.connectorVersion = manifest.version
  | _, _ => False

/-- The request fails, or is served by a manifest of exactly the version that it names. -/
def Pinned (request : VersionRequest) : Prop :=
  ∀ answer, platform.serve world name version request = some answer →
    ∃ manifest ∈ platform.registry.connectors, manifest.name = name ∧ manifest.version = version ∧
      platform.Uses manifest request answer

/-- The request fails: nothing is resolved that could serve it, its limits cannot be read or are
exceeded, or its schema cannot be built. -/
def Refuses : VersionRequest → Prop
  | .action action allowed =>
      match platform.registry.getByNameVersion name (some version) with
      | .error _ => True
      | .ok none => validName name = false ∨ platform.limited = true ∧ allowed = false
      | .ok (some manifest) => platform.limited = true ∧
          (allowed = false ∨ ∃ error,
            limitsOf platform.texts platform.defaultConfig manifest.rateLimits (some action) =
              .error error)
  | .limits action =>
      match platform.registry.getByNameVersion name (some version) with
      | .error _ => True
      | .ok none => False
      | .ok (some manifest) => ∃ error,
          limitsOf platform.texts platform.defaultConfig manifest.rateLimits action = .error error
  | .schema action tenantId forceRefresh moment =>
      match platform.registry.getByNameVersion name (some version) with
      | .ok (some manifest) =>
          (forceRefresh = true ∨
            world.redis.get moment.now (Schemas.cacheKey name action tenantId) = none) ∧
          ∃ error, Schemas.buildFields platform.str manifest action moment.fetched = .error error
      | _ => True

/-- A schema that is found in the cache was built for this version. -/
def CachedVersion : VersionRequest → Prop
  | .schema action tenantId false moment => ∀ payload,
      world.redis.get moment.now (Schemas.cacheKey name action tenantId) = some payload →
        payload.connectorName = name ∧ payload.connectorVersion = version
  | _ => True

end Platform

variable {platform : Platform} {world : Schemas.World} {name version : String}
  {manifest : ConnectorManifest}

variable {action : Option String}

theorem limits_of_resolved
    (hresolved : platform.registry.getByNameVersion name (some version) = .ok (some manifest)) :
    platform.manifestLimits.getLimits name action (some version) =
      limitsOf platform.texts platform.defaultConfig manifest.rateLimits action := by
  show (platform.registry.getByNameVersion name (some version)).bind _ = _
  rw [hresolved]
  rfl

theorem limits_of_none (hresolved : platform.registry.getByNameVersion name (some version) = .ok none) :
    platform.manifestLimits.getLimits name action (some version) = .ok platform.defaultConfig := by
  show (platform.registry.getByNameVersion name (some version)).bind _ = _
  rw [hresolved]
  rfl

theorem checkedLimits_eq (platform : Platform) (name version action : String) :
    platform.dispatcher.checkedLimits name (some version) action =
      if platform.limited then
        (platform.manifestLimits.getLimits name (some action) (some version)).map some
      else .ok none := by
  unfold Dispatcher.checkedLimits Platform.dispatcher
  cases platform.limited <;> rfl

theorem uses_of_dispatchAction {action : String} {allowed : Bool} {plan : Plan}
    (hresolved : platform.registry.getByNameVersion name (some version) = .ok (some manifest))
    (hplan : platform.dispatcher.dispatchAction name (some version) action allowed = .ok plan) :
    platform.Uses manifest (.action action allowed) (.action plan) := by
  obtain ⟨found, hfound, hplan⟩ := bind_eq_ok.mp hplan
  obtain rfl : some manifest = found := Except.ok.inj (hresolved.symm.trans hfound)
  obtain ⟨baseUrl, hbase, hplan⟩ := bind_eq_ok.mp hplan
  obtain rfl : manifest.baseUrl = baseUrl := Except.ok.inj hbase
  obtain ⟨limits, hlimits, hplan⟩ := bind_eq_ok.mp hplan
  split at hplan
  · cases hplan
  obtain rfl := Except.ok.inj hplan
  refine ⟨rfl, rfl, rfl, fun config (hconfig : limits = some config) => ?_⟩
  subst hconfig
  rw [checkedLimits_eq, limits_of_resolved hresolved] at hlimits
  split at hlimits
  · cases hread : limitsOf platform.texts platform.defaultConfig manifest.rateLimits (some action) with
    | error message =>
        rw [hread] at hlimits
        cases hlimits
    | ok read =>
        rw [hread] at hlimits
        rw [Option.some.inj (Except.ok.inj hlimits)]
  · cases hlimits

/-! ## Requests that fail -/

theorem dispatcher_manifest :
    platform.dispatcher.manifest name (some version) =
      platform.registry.getByNameVersion name (some version) := rfl

theorem serve_action_eq_none {action : String} {allowed : Bool} :
    platform.serve world name version (.action action allowed) = none ↔
      platform.Refuses world name version (.action action allowed) := by
  unfold Platform.serve Platform.Refuses Dispatcher.dispatchAction
  simp only [dispatcher_manifest]
  cases hresolved : platform.registry.getByNameVersion name (some version) with
  | error message => simp [Except.bind, Except.toOption]
  | ok found =>
      cases found with
      | none =>
          -- The request goes to the default address of the name.
          have hurl : platform.dispatcher.resolveServiceUrl name (some version) =
              if validName name then .ok (serviceUrl (defaultServiceName name))
              else .error ("Invalid connector_name: " ++ platform.repr name) := by
            unfold Dispatcher.resolveServiceUrl
            rw [dispatcher_manifest, hresolved]
            rfl
          simp only [hurl, checkedLimits_eq, limits_of_none hresolved]
          cases validName name <;> cases platform.limited <;> cases allowed <;>
            simp [Except.bind, Except.map, Except.toOption]
      | some manifest =>
          simp only [checkedLimits_eq, limits_of_resolved hresolved]
          cases platform.limited with
          | false => simp [Except.bind, Except.toOption]
          | true =>
              cases limitsOf platform.texts platform.defaultConfig manifest.rateLimits (some action) with
              | error message => simp [Except.bind, Except.map, Except.toOption]
              | ok config => cases allowed <;> simp [Except.bind, Except.map, Except.toOption]

theorem serve_limits_eq_none :
    platform.serve world name version (.limits action) = none ↔
      platform.Refuses world name version (.limits action) := by
  unfold Platform.serve Platform.Refuses
  cases hresolved : platform.registry.getByNameVersion name (some version) with
  | error message =>
      have hfails : platform.manifestLimits.getLimits name action (some version) = .error message := by
        show (platform.registry.getByNameVersion name (some version)).bind _ = _
        rw [hresolved]
        rfl
      simp [hfails, Except.toOption]
  | ok found =>
      cases found with
      | none => simp [limits_of_none hresolved, Except.toOption]
      | some manifest =>
          simp only [limits_of_resolved hresolved]
          cases limitsOf platform.texts platform.defaultConfig manifest.rateLimits action <;>
            simp [Except.toOption]

theorem serve_schema_eq_none {action : String} {tenantId : Option String} {forceRefresh : Bool}
    {moment : Schemas.Moment} :
    platform.serve world name version (.schema action tenantId forceRefresh moment) = none ↔
      platform.Refuses world name version (.schema action tenantId forceRefresh moment) := by
  have hserve : platform.serve world name version (.schema action tenantId forceRefresh moment) =
      (platform.schemas.getActionSchema world ⟨name, action, some version, tenantId⟩ forceRefresh
        moment).1.toOption.map .schema := rfl
  have hregistry : platform.schemas.registry = platform.registry := rfl
  rw [hserve, Option.map_eq_none_iff]
  unfold Platform.Refuses Schemas.SchemaRegistry.getActionSchema
  rw [hregistry]
  cases platform.registry.getByNameVersion name (some version) with
  | error message => exact iff_of_true rfl trivial
  | ok found =>
      cases found with
      | none => exact iff_of_true rfl trivial
      | some manifest =>
          have hkey : Schemas.SchemaRegistry.key ⟨name, action, some version, tenantId⟩ =
              Schemas.cacheKey name action tenantId := rfl
          have hbuild : ∀ world', (platform.schemas.build world' ⟨name, action, some version, tenantId⟩
              manifest moment).1.toOption = none ↔
                ∃ error, Schemas.buildFields platform.str manifest action moment.fetched =
                  .error error := Schemas.build_fails_iff
          simp only [hkey]
          cases world.redis.get moment.now (Schemas.cacheKey name action tenantId) with
          | none =>
              simp only [or_true, true_and]
              exact hbuild _
          | some payload =>
              cases forceRefresh with
              | true =>
                  simp only [true_or, true_and]
                  exact hbuild _
              | false => simp [Except.toOption]

theorem serve_eq_none (request : VersionRequest) :
    platform.serve world name version request = none ↔
      platform.Refuses world name version request := by
  cases request with
  | action action allowed => exact serve_action_eq_none
  | limits action => exact serve_limits_eq_none
  | schema action tenantId forceRefresh moment => exact serve_schema_eq_none

/-! ## Requests that are served -/

/-- A request is answered by the manifest that is resolved, if a schema that is found in the cache was
built for its version. -/
theorem uses_of_resolved {request : VersionRequest} {answer : Answer}
    (hresolved : platform.registry.getByNameVersion name (some version) = .ok (some manifest))
    (hversion : manifest.version = version)
    (hcached : Platform.CachedVersion world name version request)
    (hserved : platform.serve world name version request = some answer) :
    platform.Uses manifest request answer := by
  have hname := (mem_of_resolved hresolved).2
  cases request with
  | action action allowed =>
      obtain ⟨plan, hplan, rfl⟩ := Option.map_eq_some_iff.mp hserved
      exact uses_of_dispatchAction hresolved (toOption_eq_some.mp hplan)
  | limits action =>
      obtain ⟨config, hconfig, rfl⟩ := Option.map_eq_some_iff.mp hserved
      rw [limits_of_resolved hresolved] at hconfig
      exact toOption_eq_some.mp hconfig
  | schema action tenantId forceRefresh moment =>
      obtain ⟨payload, hpayload, rfl⟩ := Option.map_eq_some_iff.mp hserved
      have hanswer := toOption_eq_some.mp hpayload
      obtain ⟨error, hcase⟩ | ⟨found, hfound, ⟨kept, rfl, hkept, hcase⟩ | ⟨-, hcase⟩⟩ :=
        Schemas.getActionSchema_cases platform.schemas world ⟨name, action, some version, tenantId⟩
          forceRefresh moment
      · rw [hcase] at hanswer
        cases hanswer
      · rw [hcase] at hanswer
        obtain rfl := Except.ok.inj hanswer
        obtain ⟨hkeptName, hkeptVersion⟩ := hcached kept hkept
        exact ⟨hkeptName.trans hname.symm, hkeptVersion.trans hversion.symm⟩
      · obtain rfl : manifest = found :=
          Option.some.inj (Except.ok.inj (hresolved.symm.trans hfound))
        rw [hcase] at hanswer
        exact Schemas.build_names hanswer

/-- A request that names a version is served by a manifest of exactly this version, or fails, if and
only if it is refused, or the version is installed and a schema that it finds in the cache was built
for this version. -/
theorem pinned_iff (platform : Platform) (world : Schemas.World) (name version : String)
    (hversion : version ≠ "") (request : VersionRequest) :
    platform.Pinned world name version request ↔
      platform.Refuses world name version request ∨
        platform.registry.Installed name version ∧
          Platform.CachedVersion world name version request := by
  rw [← serve_eq_none]
  constructor
  · intro hpinned
    cases hserved : platform.serve world name version request with
    | none => exact .inl rfl
    | some answer =>
        obtain ⟨manifest, hmem, hname, hmanifest, -⟩ := hpinned answer hserved
        have hinstalled : platform.registry.Installed name version :=
          ⟨manifest, hmem, hname, hmanifest⟩
        refine .inr ⟨hinstalled, ?_⟩
        cases request with
        | action action allowed => exact trivial
        | limits action => exact trivial
        | schema action tenantId forceRefresh moment =>
            cases forceRefresh with
            | true => exact trivial
            | false =>
                intro payload hcached
                obtain ⟨found, hresolved, -⟩ := resolved_of_installed hversion hinstalled
                have hfound : platform.schemas.getActionSchema world
                    ⟨name, action, some version, tenantId⟩ false moment = _ :=
                  Schemas.getActionSchema_of_cached moment hresolved hcached
                obtain ⟨other, -, hotherName, hotherVersion, huses⟩ :=
                  hpinned (.schema { payload with cached := true }) (by
                    show (Except.toOption _).map _ = _
                    rw [hfound]
                    rfl)
                exact ⟨huses.1.trans hotherName, huses.2.trans hotherVersion⟩
  · rintro (hrefused | ⟨hinstalled, hcached⟩) answer hanswer
    · rw [hrefused] at hanswer
      cases hanswer
    · obtain ⟨manifest, hresolved, hmanifest⟩ := resolved_of_installed hversion hinstalled
      obtain ⟨hmem, hname⟩ := mem_of_resolved hresolved
      exact ⟨manifest, hmem, hname, hmanifest,
        uses_of_resolved hresolved hmanifest hcached hanswer⟩

/-- A platform on which only the first version of a connector is installed. -/
def courierPlatform : Platform where
  registry := ⟨asciiNumerals, [Schemas.courier "1.0.0"]⟩
  limited := false
  texts := asciiTexts
  defaultConfig := ⟨600, 60⟩
  repr text := "'" ++ text ++ "'"
  str := Schemas.courierSchemas.str
  timeToLive := 3600

/-- An action of the version that is installed. -/
theorem installed_version_pinned :
    courierPlatform.Pinned {} "inpost" "1.0.0" (.action "rates.get" true) :=
  (pinned_iff courierPlatform {} "inpost" "1.0.0" (by decide) _).mpr
    (.inr ⟨⟨Schemas.courier "1.0.0", List.mem_cons_self, rfl, rfl⟩, trivial⟩)

/-- An action of a version that is not installed is dispatched to the first version. -/
theorem missing_version_served :
    ¬ courierPlatform.Pinned {} "inpost" "2.0.0" (.action "rates.get" true) := by
  intro hpinned
  obtain ⟨answer, hanswer⟩ := Option.isSome_iff_exists.mp (by decide +kernel :
    (courierPlatform.serve {} "inpost" "2.0.0" (.action "rates.get" true)).isSome = true)
  obtain ⟨manifest, hmem, -, hversion, -⟩ := hpinned answer hanswer
  obtain rfl := List.mem_singleton.mp hmem
  exact absurd hversion (by decide)

end Connectors

end IntegrationPlatform
