import IntegrationPlatform.Rates.ManifestLimits

/-!
# The rate limits of a connector

A connector of the SDK limits its actions by the entries of `Config.rate_limits`, one for each action
and one for the others. `generate_manifest` hands the same entries to the platform, which looks for
other ones. `limits_agree_iff` says when both have the same limits.
-/

namespace IntegrationPlatform

namespace Sdk

open Connectors RateLimiter

/-! ## Specs -/

/-- The arguments of a `_TokenBucket`. -/
structure TokenBucket where
  rate : Rat
  burst : Int
  deriving DecidableEq

/-- `divisors` of `_parse_rate_spec`. -/
def divisors : Assoc Nat :=
  [("s", 1), ("sec", 1), ("second", 1), ("seconds", 1),
    ("m", 60), ("min", 60), ("minute", 60), ("minutes", 60),
    ("h", 3600), ("hr", 3600), ("hour", 3600), ("hours", 3600)]

section Texts

variable (texts : RateTexts)

/-- The seconds of a unit. One that is unknown counts as a minute. -/
def divisor (unit : List Char) : Nat :=
  (divisors.find (texts.lower (String.ofList (strip texts unit)))).getD 60

/-- `_parse_rate_spec`, unless `int` raises a `ValueError`. -/
def parseRateSpec (spec : String) : Option TokenBucket :=
  match (strip texts spec.toList).splitOn '/' with
  | [count, unit] =>
      (texts.int (String.ofList (strip texts count))).map fun (requests : Int) =>
        { rate := requests / divisor texts unit, burst := requests }
  | _ => some { rate := 10, burst := 10 }

/-! ## Buckets -/

/-- The bucket of one entry. That of `default` is there before. -/
def addBucket (buckets : Assoc TokenBucket) (entry : String × String) : Option (Assoc TokenBucket) :=
  if entry.1 = "default" then some buckets
  else (parseRateSpec texts entry.2).map fun bucket => buckets.put entry.1 bucket

/-- The bucket of `default`, if there is this entry. -/
def defaultBuckets (rateLimits : Assoc String) : Option (Assoc TokenBucket) :=
  match rateLimits.find "default" with
  | none => some []
  | some spec => (parseRateSpec texts spec).map fun bucket => [("__default__", bucket)]

/-- The buckets of `_register_rate_limiting`, unless an entry is not accepted. -/
def registerRateLimiting (rateLimits : Assoc String) : Option (Assoc TokenBucket) :=
  (defaultBuckets texts rateLimits).bind fun buckets => rateLimits.foldlM (addBucket texts) buckets

end Texts

/-- The part of a path after the first `/actions/`. -/
def afterActions : List Char → Option (List Char)
  | [] => none
  | letter :: rest =>
      if "/actions/".toList.isPrefixOf (letter :: rest) then some ((letter :: rest).drop 9)
      else afterActions rest

/-- The `action_key` of a path, if it is that of an action. -/
def actionKey (path : String) : Option String :=
  (afterActions path.toList).map fun rest =>
    String.ofList (rest.map fun letter => if letter = '/' then '.' else letter)

/-- The bucket of a request to a path. -/
def bucketOf (buckets : Assoc TokenBucket) (path : String) : Option TokenBucket :=
  (actionKey path).bind fun key => (buckets.find key).or (buckets.find "__default__")

/-! ## Connectors -/

/-- The metadata of a `ConnectorApp` that its manifest uses. The keys of its rate limits differ. -/
structure ConnectorApp where
  name : String
  category : String
  version : String
  actions : List String
  rateLimits : Assoc String
  nodup : (rateLimits.map (·.1)).Nodup

/-- The path of an action. -/
def actionPath (action : String) : String :=
  "/actions/" ++ String.ofList (action.toList.map fun letter => if letter = '.' then '/' else letter)

def ConnectorApp.generateManifest (app : ConnectorApp) : ConnectorManifest where
  name := app.name
  category := app.category
  version := app.version
  actionRoutes := app.actions.map fun action =>
    (action, .dict [("method", .str "POST"), ("path", .str (actionPath action))])
  serviceName := "connector-" ++ app.name
  rateLimits := app.rateLimits.map fun entry => (entry.1, .str entry.2)
  healthEndpoint := "/health"

/-! ## Agreement -/

/-- The platform limits the actions of the connector as the buckets do that are applied to them. -/
def ConnectorApp.Agrees (app : ConnectorApp) (limits : ManifestLimits) (buckets : Assoc TokenBucket) :
    Prop :=
  ∀ action bucket, bucketOf buckets (actionPath action) = some bucket →
    ∃ config, limits.getLimits app.name (some action) (some app.version) = .ok config ∧
      config.refillRate = bucket.rate ∧ (config.requests : Int) = bucket.burst

/-- A spec spells a limit: its count is that of the limit, and its unit has the seconds of the window.
A spec without a unit spells ten requests in a second. -/
inductive Spells (texts : RateTexts) (spec : String) (config : RateLimitConfig) : Prop where
  | rate (count unit : List Char) : (strip texts spec.toList).splitOn '/' = [count, unit] →
      texts.int (String.ofList (strip texts count)) = some (config.requests : Int) →
      (config.requests = 0 ∨ divisor texts unit = config.windowSeconds) → Spells texts spec config
  | other : ((strip texts spec.toList).splitOn '/').length ≠ 2 → config.requests = 10 →
      config.windowSeconds = 1 → Spells texts spec config

/-- An entry that is applied to some action. -/
structure Applied (rateLimits : Assoc String) (key spec : String) : Prop where
  entry : rateLimits.find key = some spec
  noSlash : '/' ∉ key.toList
  notReplaced : key = "default" → rateLimits.find "__default__" = none

/-- The limit that the platform finds in entries for every action. -/
def globalLimit (limits : ManifestLimits) (rateLimits : Assoc String) :
    Except String RateLimitConfig :=
  (rateOf limits.texts (((rateLimits.find "global").map Value.str).getD .null)).map fun rate =>
    rate.getD limits.defaultConfig

/-- No entry has the name under which the platform looks for those of actions, and each entry that is
applied to an action spells the one limit of the platform. -/
structure ConnectorApp.Uniform (app : ConnectorApp) (limits : ManifestLimits) : Prop where
  perAction : app.rateLimits.find "per_action" = none
  applied : ∀ key spec, Applied app.rateLimits key spec →
    ∃ config, globalLimit limits app.rateLimits = .ok config ∧ Spells limits.texts spec config

variable {texts : RateTexts} {spec key action : String} {bucket : TokenBucket}
  {buckets result : Assoc TokenBucket} {rateLimits : Assoc String}

/-! ## What a spec says -/

theorem divisor_pos (texts : RateTexts) (unit : List Char) : 0 < divisor texts unit := by
  have hall : ∀ entry ∈ divisors, 0 < entry.2 := by decide
  unfold divisor
  cases hfound : divisors.find (texts.lower (String.ofList (strip texts unit))) with
  | none => decide
  | some seconds => exact hall _ (Assoc.mem_of_find hfound)

theorem rate_eq_iff {requests seconds window : Nat} (hpos : 0 < seconds) :
    (requests / window : Rat) = requests / seconds ↔ requests = 0 ∨ seconds = window := by
  have hseconds : (seconds : Rat) ≠ 0 := Nat.cast_ne_zero.mpr hpos.ne'
  constructor
  · intro hrate
    by_cases hrequests : requests = 0
    · exact .inl hrequests
    · right
      have hnonzero : (requests : Rat) ≠ 0 := Nat.cast_ne_zero.mpr hrequests
      rw [div_eq_mul_inv, div_eq_mul_inv] at hrate
      have hinv := inv_injective (mul_left_cancel₀ hnonzero hrate)
      exact (Nat.cast_injective hinv).symm
  · rintro (rfl | rfl)
    · simp
    · rfl

/-- A spec spells the limits that its bucket has. -/
theorem spells_iff (h : parseRateSpec texts spec = some bucket) (config : RateLimitConfig) :
    Spells texts spec config ↔
      config.refillRate = bucket.rate ∧ (config.requests : Int) = bucket.burst := by
  unfold parseRateSpec at h
  split at h
  · next count unit hparts =>
    obtain ⟨requests, hint, rfl⟩ := Option.map_eq_some_iff.mp h
    constructor
    · intro hspells
      cases hspells with
      | rate count' unit' hparts' hint' hwindow =>
          rw [hparts] at hparts'
          obtain ⟨rfl, rfl⟩ : count = count' ∧ unit = unit' := by simpa using hparts'
          obtain rfl : requests = config.requests := Option.some.inj (hint.symm.trans hint')
          exact ⟨(rate_eq_iff (divisor_pos texts unit)).mpr hwindow, rfl⟩
      | other hlength _ _ =>
          rw [hparts] at hlength
          exact absurd rfl hlength
    · rintro ⟨hrate, rfl⟩
      exact .rate count unit hparts hint ((rate_eq_iff (divisor_pos texts unit)).mp hrate)
  · next hparts =>
    obtain rfl := Option.some.inj h
    have hlength : ((strip texts spec.toList).splitOn '/').length ≠ 2 := by
      intro hlength
      obtain ⟨count, unit, htwo⟩ := List.length_eq_two.mp hlength
      exact hparts count unit htwo
    constructor
    · intro hspells
      cases hspells with
      | rate count unit htwo _ _ =>
          rw [htwo] at hlength
          exact absurd rfl hlength
      | other _ hrequests hwindow =>
          unfold RateLimitConfig.refillRate
          rw [hrequests, hwindow]
          exact ⟨by norm_num, rfl⟩
    · -- Ten requests at ten in a second leave a window of one second only.
      rintro ⟨hrate, hburst⟩
      replace hburst : (config.requests : Int) = 10 := hburst
      have hrequests : config.requests = 10 := by omega
      unfold RateLimitConfig.refillRate at hrate
      rw [hrequests] at hrate
      refine .other hlength hrequests ?_
      have hten : ((10 : Nat) / config.windowSeconds : Rat) = (10 : Nat) / (1 : Nat) := by
        rw [hrate]
        norm_num
      obtain hzero | hone := (rate_eq_iff Nat.one_pos).mp hten
      · exact absurd hzero (by decide)
      · exact hone.symm

/-! ## The buckets of the entries -/

theorem find_foldlM_of_none (h : rateLimits.foldlM (addBucket texts) buckets = some result)
    (hnone : key = "default" ∨ rateLimits.find key = none) : result.find key = buckets.find key := by
  induction rateLimits generalizing buckets with
  | nil =>
      obtain rfl := Option.some.inj h
      rfl
  | cons entry rest ih =>
      obtain ⟨next, hnext, hrest⟩ := Option.bind_eq_some_iff.mp h
      have hrestNone : key = "default" ∨ Assoc.find rest key = none := by
        refine hnone.imp_right fun hfind => ?_
        unfold Assoc.find at hfind
        split at hfind
        · cases hfind
        · exact hfind
      rw [ih hrest hrestNone]
      unfold addBucket at hnext
      split at hnext
      · obtain rfl := Option.some.inj hnext
        rfl
      · next hentry =>
        obtain ⟨bucket, -, rfl⟩ := Option.map_eq_some_iff.mp hnext
        have hne : entry.1 ≠ key := by
          rintro rfl
          obtain hdefault | hfind := hnone
          · exact hentry hdefault
          · simp [Assoc.find] at hfind
        rw [Assoc.find_put, if_neg hne]

theorem find_foldlM_of_some (h : rateLimits.foldlM (addBucket texts) buckets = some result)
    (hnodup : (rateLimits.map (·.1)).Nodup) (hne : key ≠ "default")
    (hsome : rateLimits.find key = some spec) :
    ∃ bucket, parseRateSpec texts spec = some bucket ∧ result.find key = some bucket := by
  induction rateLimits generalizing buckets with
  | nil => cases hsome
  | cons entry rest ih =>
      obtain ⟨hfirst, hrestNodup⟩ := List.nodup_cons.mp hnodup
      obtain ⟨next, hnext, hrest⟩ := Option.bind_eq_some_iff.mp h
      unfold Assoc.find at hsome
      split at hsome
      · next hentry =>
        obtain rfl := Option.some.inj hsome
        unfold addBucket at hnext
        rw [if_neg (by rwa [hentry])] at hnext
        obtain ⟨bucket, hparse, rfl⟩ := Option.map_eq_some_iff.mp hnext
        refine ⟨bucket, hparse, ?_⟩
        -- No later entry has this key.
        rw [find_foldlM_of_none hrest (.inr (Assoc.find_eq_none (hentry ▸ hfirst))),
          Assoc.find_put, if_pos hentry]
      · exact ih hrest hrestNodup hsome

/-- The spec of the bucket of a key: that of its entry, or that of the others. -/
def specOf (rateLimits : Assoc String) (key : String) : Option String :=
  (if key = "default" then none else rateLimits.find key).or
    ((rateLimits.find "__default__").or (rateLimits.find "default"))

theorem find_defaultBuckets (h : defaultBuckets texts rateLimits = some buckets) :
    (rateLimits.find "default" = none ∧ buckets = []) ∨
      ∃ spec bucket, rateLimits.find "default" = some spec ∧ parseRateSpec texts spec = some bucket ∧
        buckets = [("__default__", bucket)] := by
  unfold defaultBuckets at h
  split at h
  · next hnone => exact .inl ⟨hnone, (Option.some.inj h).symm⟩
  · next spec hsome =>
    obtain ⟨bucket, hparse, rfl⟩ := Option.map_eq_some_iff.mp h
    exact .inr ⟨spec, bucket, hsome, hparse, rfl⟩

theorem find_others (h : registerRateLimiting texts rateLimits = some result)
    (hnodup : (rateLimits.map (·.1)).Nodup) :
    match (rateLimits.find "__default__").or (rateLimits.find "default") with
    | none => result.find "__default__" = none
    | some spec => ∃ bucket, parseRateSpec texts spec = some bucket ∧
        result.find "__default__" = some bucket := by
  obtain ⟨buckets, hbuckets, hfold⟩ := Option.bind_eq_some_iff.mp h
  cases hown : rateLimits.find "__default__" with
  | some spec => exact find_foldlM_of_some hfold hnodup (by decide) hown
  | none =>
      have hkept := find_foldlM_of_none hfold (.inr hown)
      obtain ⟨hnone, rfl⟩ | ⟨spec, bucket, hsome, hparse, rfl⟩ := find_defaultBuckets hbuckets
      · rw [hnone]
        exact hkept
      · rw [hsome]
        exact ⟨bucket, hparse, hkept⟩

/-- The bucket that is applied under a key is that of the spec of the key. -/
theorem find_applied (h : registerRateLimiting texts rateLimits = some result)
    (hnodup : (rateLimits.map (·.1)).Nodup) (key : String) :
    match specOf rateLimits key with
    | none => (result.find key).or (result.find "__default__") = none
    | some spec => ∃ bucket, parseRateSpec texts spec = some bucket ∧
        (result.find key).or (result.find "__default__") = some bucket := by
  have hothers := find_others h hnodup
  obtain ⟨buckets, hbuckets, hfold⟩ := Option.bind_eq_some_iff.mp h
  unfold specOf
  cases hown : (if key = "default" then none else rateLimits.find key) with
  | some spec =>
      have hne : key ≠ "default" := by
        rintro rfl
        cases hown
      rw [if_neg hne] at hown
      obtain ⟨bucket, hparse, hfind⟩ := find_foldlM_of_some hfold hnodup hne hown
      exact ⟨bucket, hparse, by rw [hfind]; rfl⟩
  | none =>
      have hnone : key = "default" ∨ rateLimits.find key = none := by
        by_cases hkey : key = "default"
        · exact .inl hkey
        · rw [if_neg hkey] at hown
          exact .inr hown
      by_cases hkey : key = "__default__"
      · -- The bucket of the others is asked for by its own key.
        subst hkey
        rw [Option.none_or, Option.or_self]
        exact hothers
      · have hbucket : result.find key = none := by
          rw [find_foldlM_of_none hfold hnone]
          obtain ⟨-, rfl⟩ | ⟨_, _, -, -, rfl⟩ := find_defaultBuckets hbuckets
          · rfl
          · exact if_neg (Ne.symm hkey)
        rw [hbucket, Option.none_or, Option.none_or]
        exact hothers

/-! ## The key of an action -/

/-- The name of an action with dots for slashes. -/
def dotted (action : String) : String :=
  String.ofList (action.toList.map fun letter => if letter = '/' then '.' else letter)

theorem actionKey_actionPath (action : String) :
    actionKey (actionPath action) = some (dotted action) := by
  have hafter : ∀ rest : List Char, afterActions ("/actions/".toList ++ rest) = some rest := by
    intro rest
    show (if "/actions/".toList.isPrefixOf ("/actions/".toList ++ rest) then _ else _) = _
    rw [if_pos (List.isPrefixOf_iff_prefix.mpr (List.prefix_append _ _))]
    rfl
  unfold actionKey actionPath dotted
  rw [String.toList_append, hafter, Option.map_some, String.toList_ofList, List.map_map]
  congr 3
  funext letter
  show (if (if letter = '.' then '/' else letter) = '/' then '.' else
    (if letter = '.' then '/' else letter)) = _
  by_cases hdot : letter = '.'
  · simp [hdot]
  · simp [hdot]

theorem bucketOf_actionPath (buckets : Assoc TokenBucket) (action : String) :
    bucketOf buckets (actionPath action) =
      (buckets.find (dotted action)).or (buckets.find "__default__") := by
  unfold bucketOf
  rw [actionKey_actionPath]
  rfl

theorem slash_not_mem_dotted (action : String) : '/' ∉ (dotted action).toList := by
  unfold dotted
  rw [String.toList_ofList, List.mem_map]
  rintro ⟨letter, -, hletter⟩
  split at hletter
  · exact absurd hletter (by decide)
  · next hne => exact hne hletter

theorem dotted_of_noSlash (h : '/' ∉ key.toList) : dotted key = key := by
  have hsame : (key.toList.map fun letter => if letter = '/' then '.' else letter) = key.toList := by
    refine (List.map_congr_left fun letter hletter => ?_).trans (List.map_id _)
    refine if_neg ?_
    rintro rfl
    exact h hletter
  unfold dotted
  rw [hsame, String.ofList_toList]

/-! ## Entries that are applied -/

theorem applied_of_specOf (h : specOf rateLimits (dotted action) = some spec) :
    ∃ key, Applied rateLimits key spec := by
  unfold specOf at h
  obtain hown | ⟨-, hothers⟩ := Option.or_eq_some_iff.mp h
  · split at hown
    · cases hown
    · next hne => exact ⟨dotted action, hown, slash_not_mem_dotted action, fun hkey => absurd hkey hne⟩
  · obtain hfirst | ⟨hnone, hdefault⟩ := Option.or_eq_some_iff.mp hothers
    · exact ⟨"__default__", hfirst, by decide, fun hkey => absurd hkey (by decide)⟩
    · exact ⟨"default", hdefault, by decide, fun _ => hnone⟩

theorem Applied.specOf_eq (h : Applied rateLimits key spec) :
    specOf rateLimits (dotted key) = some spec := by
  rw [dotted_of_noSlash h.noSlash]
  unfold specOf
  by_cases hkey : key = "default"
  · rw [if_pos hkey, h.notReplaced hkey, Option.none_or, Option.none_or, ← hkey]
    exact h.entry
  · rw [if_neg hkey, h.entry]
    rfl

/-! ## The limit of the platform -/

theorem getLimits_generated {app : ConnectorApp} {limits : ManifestLimits}
    {registry : ConnectorRegistry} (hregistry : limits.registry = some registry)
    (hresolved : registry.getByNameVersion app.name (some app.version) = .ok (some app.generateManifest))
    (action : Option String) :
    limits.getLimits app.name action (some app.version) =
      limitsOf limits.texts limits.defaultConfig app.generateManifest.rateLimits action := by
  unfold ManifestLimits.getLimits
  rw [hregistry]
  show (registry.getByNameVersion app.name (some app.version)).bind _ = _
  rw [hresolved]
  rfl

theorem limitsOf_generated (limits : ManifestLimits) (hnone : rateLimits.find "per_action" = none)
    (action : String) :
    limitsOf limits.texts limits.defaultConfig (rateLimits.map fun entry => (entry.1, .str entry.2))
        (some action) = globalLimit limits rateLimits := by
  have hrate : actionRate limits.texts (rateLimits.map fun entry => (entry.1, .str entry.2))
      (some action) = .ok none := by
    unfold actionRate
    split
    · rfl
    · rw [find_map_text, hnone]
      rfl
  unfold limitsOf globalLimit
  split
  · next hempty =>
    obtain rfl : rateLimits = [] := by simpa using hempty
    rfl
  · rw [hrate]
    show (rateOf limits.texts ((Assoc.find _ "global").getD .null)).map _ = _
    rw [find_map_text]

theorem limitsOf_perAction (limits : ManifestLimits) (hsome : rateLimits.find "per_action" = some spec) :
    ∃ message, limitsOf limits.texts limits.defaultConfig
      (rateLimits.map fun entry => (entry.1, .str entry.2)) (some "per_action") = .error message := by
  unfold limitsOf
  split
  · next hempty =>
    obtain rfl : rateLimits = [] := by simpa using hempty
    cases hsome
  · have hrate : actionRate limits.texts (rateLimits.map fun entry => (entry.1, .str entry.2))
        (some "per_action") = .error "'str' object has no attribute 'get'" := by
      show Except.bind (Value.get ((Assoc.find _ "per_action").getD _) "per_action" .null) _ = _
      rw [find_map_text, hsome]
      rfl
    rw [hrate]
    exact ⟨_, rfl⟩

/-! ## The limits of both -/

/-- The platform limits every action of a generated manifest as the SDK does, exactly if no entry is
named `per_action`, and every entry that is applied to an action spells the limit of the entry
`global`, or else the default one. -/
theorem limits_agree_iff (app : ConnectorApp) (limits : ManifestLimits) (registry : ConnectorRegistry)
    (buckets : Assoc TokenBucket) (hregistry : limits.registry = some registry)
    (hresolved : registry.getByNameVersion app.name (some app.version) = .ok (some app.generateManifest))
    (haccepted : registerRateLimiting limits.texts app.rateLimits = some buckets) :
    app.Agrees limits buckets ↔ app.Uniform limits := by
  have happlied := find_applied haccepted app.nodup
  constructor
  · intro hagrees
    -- The action of the key of an applied entry has its bucket.
    have hbucket : ∀ key spec, Applied app.rateLimits key spec → ∃ bucket config,
        parseRateSpec limits.texts spec = some bucket ∧
        limitsOf limits.texts limits.defaultConfig app.generateManifest.rateLimits (some key) =
          .ok config ∧
        config.refillRate = bucket.rate ∧ (config.requests : Int) = bucket.burst := by
      intro key spec hentry
      have hfound := happlied (dotted key)
      rw [hentry.specOf_eq] at hfound
      obtain ⟨bucket, hparse, hfound⟩ := hfound
      obtain ⟨config, hconfig, hsame⟩ := hagrees key bucket (by rw [bucketOf_actionPath, hfound])
      rw [getLimits_generated hregistry hresolved] at hconfig
      exact ⟨bucket, config, hparse, hconfig, hsame⟩
    -- An entry of this name has a bucket, and the platform cannot read it.
    have hnone : app.rateLimits.find "per_action" = none := by
      by_contra hsome
      obtain ⟨spec, hspec⟩ := Option.ne_none_iff_exists'.mp hsome
      obtain ⟨_, config, -, hconfig, -⟩ := hbucket "per_action" spec
        ⟨hspec, by decide, fun hkey => absurd hkey (by decide)⟩
      obtain ⟨message, herror⟩ := limitsOf_perAction limits hspec
      cases hconfig.symm.trans herror
    refine ⟨hnone, fun key spec hentry => ?_⟩
    obtain ⟨bucket, config, hparse, hconfig, hsame⟩ := hbucket key spec hentry
    exact ⟨config, (limitsOf_generated limits hnone key).symm.trans hconfig,
      (spells_iff hparse config).mpr hsame⟩
  · intro huniform action bucket hbucket
    have hfound := happlied (dotted action)
    rw [bucketOf_actionPath] at hbucket
    rw [hbucket] at hfound
    cases hspec : specOf app.rateLimits (dotted action) with
    | none =>
        rw [hspec] at hfound
        cases hfound
    | some spec =>
        rw [hspec] at hfound
        obtain ⟨bucket', hparse, hbucket'⟩ := hfound
        obtain rfl := Option.some.inj hbucket'
        obtain ⟨key, hentry⟩ := applied_of_specOf hspec
        obtain ⟨config, hlimit, hspells⟩ := huniform.applied key spec hentry
        refine ⟨config, ?_, (spells_iff hparse config).mp hspells⟩
        rw [getLimits_generated hregistry hresolved]
        exact (limitsOf_generated limits huniform.perAction action).trans hlimit

/-- A connector with one limit for all its actions. -/
def limitedApp (spec : String) : ConnectorApp where
  name := "inpost"
  category := "courier"
  version := "1.0.0"
  actions := ["rates.get"]
  rateLimits := [("default", spec)]
  nodup := List.pairwise_singleton _ _

/-- A platform on which it is installed. -/
def limitedPlatform (spec : String) : ManifestLimits where
  registry := some ⟨asciiNumerals, [(limitedApp spec).generateManifest]⟩
  texts := asciiTexts
  defaultConfig := ⟨600, 60⟩

/-- The limit of the connector is the default one of the platform. -/
theorem default_limit_agrees :
    (limitedApp "600/min").Agrees (limitedPlatform "600/min") [("__default__", ⟨10, 600⟩)] := by
  refine (limits_agree_iff (limitedApp "600/min") (limitedPlatform "600/min")
    ⟨asciiNumerals, [(limitedApp "600/min").generateManifest]⟩ _ rfl rfl (by decide +kernel)).mpr
    ⟨by decide, ?_⟩
  rintro key spec ⟨hentry, -, -⟩
  have hmem := Assoc.mem_of_find hentry
  obtain ⟨rfl, rfl⟩ : key = "default" ∧ spec = "600/min" := by
    simpa [limitedApp] using hmem
  exact ⟨⟨600, 60⟩, rfl, .rate "600".toList "min".toList (by decide +kernel) (by decide +kernel)
    (.inr (by decide +kernel))⟩

/-- The limit of the connector is ten requests in a second, and the platform has its default. -/
theorem limit_ignored :
    registerRateLimiting asciiTexts (limitedApp "10/s").rateLimits = some [("__default__", ⟨10, 10⟩)] ∧
      ¬ (limitedApp "10/s").Agrees (limitedPlatform "10/s") [("__default__", ⟨10, 10⟩)] := by
  refine ⟨by decide +kernel, fun hagrees => ?_⟩
  obtain ⟨config, hconfig, -, hrequests⟩ := hagrees "rates.get" ⟨10, 10⟩ (by decide +kernel)
  obtain rfl : (⟨600, 60⟩ : RateLimitConfig) = config := Except.ok.inj hconfig
  exact absurd hrequests (by decide)

end Sdk

end IntegrationPlatform
