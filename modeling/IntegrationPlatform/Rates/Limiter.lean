import IntegrationPlatform.Json.Value
import IntegrationPlatform.Rates.TokenBucket
import IntegrationPlatform.Stores.Expiring
import Mathlib.Data.Rat.Floor

/-!
# The rate limiter of the connectors

`ConnectorRateLimiter.check` keeps the tokens of a bucket and the instant of their last change under
two keys that expire after two windows. `Stands` says which level of an ideal bucket the keys stand
for, and `checks_refine` that checks made one at a time are answered as an ideal bucket answers
them. Floats are exact rationals.
-/

namespace IntegrationPlatform

namespace RateLimiter

/-! ## Limits -/

structure RateLimitConfig where
  requests : Nat
  windowSeconds : Nat

/-- The rate of a configuration is positive. -/
structure RateLimitConfig.Positive (config : RateLimitConfig) : Prop where
  requests : 0 < config.requests
  window : 0 < config.windowSeconds

def RateLimitConfig.refillRate (config : RateLimitConfig) : Rat :=
  config.requests / config.windowSeconds

/-- `rate_limits` of a manifest. -/
structure RateLimits where
  perAction : Assoc String := []
  globalRate : Option String := none

/-- `ConnectorRateLimiter`, with the limits of the manifests that its registry finds. -/
structure Limiter where
  enabled : Bool := true
  defaultConfig : RateLimitConfig
  /-- `rate_limits` of `get_by_name_version`. -/
  rateLimits : String → Option String → Option RateLimits
  /-- `_parse_rate`, unless it raises a `ValueError`. -/
  parseRate : String → Option RateLimitConfig

/-- The arguments of `check`. -/
structure Call where
  connectorName : String
  action : Option String := none
  tenantId : Option String := none
  connectorVersion : Option String := none

def Limiter.getLimits (limiter : Limiter) (call : Call) : RateLimitConfig :=
  match limiter.rateLimits call.connectorName call.connectorVersion with
  | none => limiter.defaultConfig
  | some limits =>
      let actionRate := (nonempty call.action).bind fun action =>
        (nonempty (limits.perAction.find action)).bind limiter.parseRate
      let globalRate := (nonempty limits.globalRate).bind limiter.parseRate
      (actionRate.or globalRate).getD limiter.defaultConfig

/-! ## Checks -/

def Call.bucketKey (call : Call) : String :=
  "rate_limit:" ++ call.connectorName ++ ":" ++ (nonempty call.connectorVersion).getD "latest" ++
    ":" ++ (nonempty call.action).getD "global" ++ ":" ++ (nonempty call.tenantId).getD "shared"

def tokensKey (bucketKey : String) : String := bucketKey ++ ":tokens"

def lastKey (bucketKey : String) : String := bucketKey ++ ":last"

/-- `int(number)`. -/
def truncate (number : Rat) : Int :=
  if 0 ≤ number then ⌊number⌋ else ⌈number⌉

/-- The nearest integer, and the even one of two. -/
def roundHalfEven (number : Rat) : Int :=
  let below := ⌊number⌋
  let rest := number - below
  if rest < 1 / 2 ∨ (rest = 1 / 2 ∧ below % 2 = 0) then below else below + 1

/-- `round(number, 2)`. -/
def roundTwoDigits (number : Rat) : Rat :=
  roundHalfEven (number * 100) / 100

/-- What a check has computed when it writes the bucket back. -/
structure Decision where
  allowed : Bool
  tokens : Rat
  remaining : Int
  retryAfter : Option Rat

/-- The decision of a check, from what it has read. -/
def decision (config : RateLimitConfig) (now : Rat) (rawTokens rawLast : Option Rat) : Decision :=
  let lastRefill := rawLast.getD now
  let elapsed := max 0 (now - lastRefill)
  let tokens := min (config.requests : Rat) (rawTokens.getD config.requests + elapsed * config.refillRate)
  if 1 ≤ tokens then
    { allowed := true
      tokens := tokens - 1
      remaining := max 0 (truncate (tokens - 1))
      retryAfter := none }
  else
    { allowed := false
      tokens
      remaining := 0
      retryAfter := some (max (roundTwoDigits ((1 - tokens) / config.refillRate)) (1 / 10)) }

structure RateLimitResult where
  allowed : Bool
  remaining : Int
  retryAfter : Option Rat
  limit : Nat
  windowSeconds : Nat

/-- The result of a decision. -/
def Decision.result (decision : Decision) (config : RateLimitConfig) : RateLimitResult where
  allowed := decision.allowed
  remaining := decision.remaining
  retryAfter := decision.retryAfter
  limit := config.requests
  windowSeconds := config.windowSeconds

/-- The keys and their values, with the instants at which they expire. -/
abbrev Redis := Expiring String Rat Rat

/-- The time to live of both keys. -/
def RateLimitConfig.timeToLive (config : RateLimitConfig) : Rat :=
  config.windowSeconds * 2

/-- The decision of a check that reads the bucket at some instant, with the clock as it was. -/
def decisionAt (config : RateLimitConfig) (bucketKey : String) (now instant : Rat) (redis : Redis) :
    Decision :=
  decision config now (redis.get instant (tokensKey bucketKey)) (redis.get instant (lastKey bucketKey))

/-- `check`, at one instant. -/
def Limiter.check (limiter : Limiter) (call : Call) (now : Rat) (redis : Redis) :
    RateLimitResult × Redis :=
  let config := limiter.getLimits call
  if limiter.enabled then
    let decided := decisionAt config call.bucketKey now now redis
    (decided.result config,
      (redis.set (tokensKey call.bucketKey) decided.tokens (now + config.timeToLive)).set
        (lastKey call.bucketKey) now (now + config.timeToLive))
  else
    ({ allowed := true
       remaining := config.requests
       retryAfter := none
       limit := config.requests
       windowSeconds := config.windowSeconds }, redis)

/-- Checks one after the other: the instant and the result of each. -/
def Limiter.checks (limiter : Limiter) (call : Call) : List Rat → Redis → List (Rat × RateLimitResult)
  | [], _ => []
  | now :: rest, redis =>
      let checked := limiter.check call now redis
      (now, checked.1) :: limiter.checks call rest checked.2

/-! ## The ideal bucket -/

/-- The ideal bucket of a configuration. -/
def RateLimitConfig.bucket (config : RateLimitConfig) : TokenBucket Rat where
  capacity := config.requests
  rate := config.refillRate
  capacity_nonneg := Nat.cast_nonneg _
  rate_nonneg := div_nonneg (Nat.cast_nonneg _) (Nat.cast_nonneg _)

/-- A full bucket. -/
def RateLimitConfig.full (config : RateLimitConfig) (instant : Rat) : TokenBucket.Level Rat where
  tokens := config.requests
  instant

variable {config : RateLimitConfig} {bucketKey : String} {redis : Redis}
  {level : TokenBucket.Level Rat} {now instant : Rat}

theorem full_fits : (config.full instant).Fits config.bucket where
  nonneg := Nat.cast_nonneg _
  le := le_rfl

theorem window_mul_refillRate (hpositive : config.Positive) :
    config.windowSeconds * config.refillRate = (config.requests : Rat) := by
  have hwindow : (config.windowSeconds : Rat) ≠ 0 := Nat.cast_ne_zero.mpr hpositive.window.ne'
  unfold RateLimitConfig.refillRate
  field_simp

theorem lastKey_ne_tokensKey : lastKey bucketKey ≠ tokensKey bucketKey := by
  intro heq
  have hlist := congrArg String.toList heq
  simp [lastKey, tokensKey] at hlist

/-- The keys stand for a level of the ideal bucket: either they were never set and it is full, or
they hold it, and the instant at which they expire is at least two windows after that of the level. -/
def Stands (config : RateLimitConfig) (bucketKey : String) (redis : Redis)
    (level : TokenBucket.Level Rat) : Prop :=
  (redis (tokensKey bucketKey) = none ∧ redis (lastKey bucketKey) = none ∧
      level.tokens = config.requests) ∨
    ∃ tokensExpiry lastExpiry,
      redis (tokensKey bucketKey) = some (level.tokens, tokensExpiry) ∧
        redis (lastKey bucketKey) = some (level.instant, lastExpiry) ∧
        level.instant + config.timeToLive ≤ tokensExpiry ∧ tokensExpiry ≤ lastExpiry

/-- What the decision is made on is the level of the ideal bucket, if the bucket is read within a
window after the clock: keys that have expired by then stood for a level that has filled up. -/
theorem tokens_eq_refilled (hpositive : config.Positive) (h : Stands config bucketKey redis level)
    (hfits : level.Fits config.bucket) (hlate : level.instant ≤ now)
    (hwindow : instant ≤ now + config.windowSeconds) :
    min (config.requests : Rat)
        ((redis.get instant (tokensKey bucketKey)).getD config.requests +
          max 0 (now - (redis.get instant (lastKey bucketKey)).getD now) * config.refillRate) =
      config.bucket.refilled level now := by
  have hrate : 0 ≤ config.refillRate := config.bucket.rate_nonneg
  have hfull : ∀ elapsed : Rat, min (config.requests : Rat)
      (config.requests + max 0 elapsed * config.refillRate) = config.requests := by
    intro elapsed
    exact min_eq_left (le_add_of_nonneg_right (mul_nonneg (le_max_left _ _) hrate))
  rcases h with ⟨htokens, hlast, hlevel⟩ | ⟨tokensExpiry, lastExpiry, htokens, hlast, hexpiry, horder⟩
  · -- A bucket that was never used is full.
    rw [Expiring.get_of_none htokens, Option.getD_none, hfull]
    unfold TokenBucket.refilled
    refine (min_eq_left ?_).symm
    rw [hlevel]
    exact le_add_of_nonneg_right (mul_nonneg (sub_nonneg.mpr hlate) hrate)
  · by_cases hlive : instant < tokensExpiry
    · rw [Expiring.get_of_lt htokens hlive, Expiring.get_of_lt hlast (hlive.trans_le horder),
        Option.getD_some, Option.getD_some, max_eq_right (sub_nonneg.mpr hlate)]
      rfl
    · -- The keys have expired. They do not before a window has filled the bucket up.
      rw [Expiring.get_of_le htokens (not_lt.mp hlive), Option.getD_none, hfull]
      refine (TokenBucket.refilled_eq_capacity hfits ?_).symm
      show (config.requests : Rat) ≤ (now - level.instant) * config.refillRate
      have hlong : (config.windowSeconds : Rat) ≤ now - level.instant := by
        have hgone := not_lt.mp hlive
        unfold RateLimitConfig.timeToLive at hexpiry
        linarith
      rw [← window_mul_refillRate hpositive]
      exact mul_le_mul_of_nonneg_right hlong hrate

theorem decisionAt_eq (hpositive : config.Positive) (h : Stands config bucketKey redis level)
    (hfits : level.Fits config.bucket) (hlate : level.instant ≤ now)
    (hwindow : instant ≤ now + config.windowSeconds) :
    (decisionAt config bucketKey now instant redis).allowed = config.bucket.admits level now ∧
      (decisionAt config bucketKey now instant redis).tokens =
        (config.bucket.after level now).tokens := by
  have htokens := tokens_eq_refilled hpositive h hfits hlate hwindow
  unfold decisionAt decision TokenBucket.admits TokenBucket.after
  simp only [htokens]
  by_cases henough : 1 ≤ config.bucket.refilled level now
  · simp [henough]
  · simp [henough]

theorem stands_written {tokensInstant lastInstant : Rat} (htokens : now ≤ tokensInstant)
    (hlast : tokensInstant ≤ lastInstant) (hnow : level.instant = now) :
    Stands config bucketKey
      ((redis.set (tokensKey bucketKey) level.tokens (tokensInstant + config.timeToLive)).set
        (lastKey bucketKey) now (lastInstant + config.timeToLive)) level := by
  refine .inr ⟨tokensInstant + config.timeToLive, lastInstant + config.timeToLive, ?_, ?_, ?_, ?_⟩
  · rw [Expiring.set_of_ne lastKey_ne_tokensKey.symm, Expiring.set_self]
  · rw [Expiring.set_self, hnow]
  · rw [hnow]
    linarith
  · linarith

theorem checks_eq_log (limiter : Limiter) (call : Call) (henabled : limiter.enabled = true)
    (hpositive : (limiter.getLimits call).Positive) {instants : List Rat}
    (hsorted : instants.Pairwise (· ≤ ·)) (hlate : ∀ now ∈ instants, level.instant ≤ now)
    (hfits : level.Fits (limiter.getLimits call).bucket)
    (h : Stands (limiter.getLimits call) call.bucketKey redis level) :
    (limiter.checks call instants redis).map (fun check => (check.1, check.2.allowed)) =
      (limiter.getLimits call).bucket.log level instants := by
  induction instants generalizing level redis with
  | nil => rfl
  | cons now rest ih =>
      obtain ⟨hfirst, hrest⟩ := List.pairwise_cons.mp hsorted
      have hnow : level.instant ≤ now := hlate now List.mem_cons_self
      have hwindow : now ≤ now + (limiter.getLimits call).windowSeconds :=
        le_add_of_nonneg_right (Nat.cast_nonneg _)
      obtain ⟨hallowed, htokens⟩ := decisionAt_eq hpositive h hfits hnow hwindow
      have hchecked : limiter.check call now redis = (_, _) := if_pos henabled
      have hstands : Stands (limiter.getLimits call) call.bucketKey (limiter.check call now redis).2
          ((limiter.getLimits call).bucket.after level now) := by
        rw [hchecked]
        show Stands _ _ (Expiring.set (Expiring.set _ _ (decisionAt _ _ _ _ _).tokens _) _ _ _) _
        rw [htokens]
        exact stands_written le_rfl le_rfl rfl
      rw [Limiter.checks, TokenBucket.log, List.map_cons, ih hrest hfirst (hfits.after hnow) hstands]
      congr 2
      rw [hchecked]
      exact hallowed

theorem countP_log_le (hfits : level.Fits config.bucket) {instants : List Rat}
    (hsorted : instants.Pairwise (· ≤ ·)) (hlate : ∀ now ∈ instants, level.instant ≤ now)
    {first last : Rat} (hinterval : first ≤ last) :
    ((config.bucket.log level instants).countP (TokenBucket.admittedWithin first last) : Rat) ≤
      config.requests + config.requests * (last - first) / config.windowSeconds := by
  have hbound := TokenBucket.countP_log_le hfits hinterval hsorted hlate
  have hrate : (last - first) * config.refillRate =
      config.requests * (last - first) / config.windowSeconds := by
    unfold RateLimitConfig.refillRate
    ring
  rw [← hrate]
  exact hbound

/-- Checks of a bucket, made one at a time at instants that do not decrease, are answered as an
ideal bucket answers them that is full at first and never forgets its state, and in any interval no
more of them are allowed than the bucket holds and what is refilled meanwhile. -/
theorem checks_refine (limiter : Limiter) (call : Call) (henabled : limiter.enabled = true)
    (hpositive : (limiter.getLimits call).Positive) {instants : List Rat}
    (hsorted : instants.Pairwise (· ≤ ·)) {start : Rat} (hstart : ∀ now ∈ instants, start ≤ now)
    {redis : Redis} (htokens : redis (tokensKey call.bucketKey) = none)
    (hlast : redis (lastKey call.bucketKey) = none) :
    (limiter.checks call instants redis).map (fun check => (check.1, check.2.allowed)) =
        (limiter.getLimits call).bucket.log ((limiter.getLimits call).full start) instants ∧
      ∀ first last, first ≤ last →
        ((limiter.checks call instants redis).countP
            (fun check => check.2.allowed && decide (first ≤ check.1 ∧ check.1 ≤ last)) : Rat) ≤
          (limiter.getLimits call).requests +
            (limiter.getLimits call).requests * (last - first) /
              (limiter.getLimits call).windowSeconds := by
  have hlog := checks_eq_log limiter call henabled hpositive hsorted hstart full_fits
    (.inl ⟨htokens, hlast, rfl⟩)
  refine ⟨hlog, fun first last hinterval => ?_⟩
  have hfull : ((limiter.getLimits call).full start).Fits (limiter.getLimits call).bucket := full_fits
  have hbound := countP_log_le hfull hsorted hstart hinterval
  rw [← hlog, List.countP_map] at hbound
  exact hbound

/-! ## A sample -/

namespace Sample

def limiter : Limiter where
  defaultConfig := ⟨2, 1⟩
  rateLimits _ _ := none
  parseRate _ := none

def call : Call where
  connectorName := "courier"

/-- Three calls at once, one after a quarter of a second and one after a minute. -/
def burst : List Rat := [0, 0, 0, 1 / 4, 60]

end Sample

/-- The third and the fourth call of the burst are denied. -/
theorem checks_refine_burst :
    ((Sample.limiter.checks Sample.call Sample.burst .empty).map
        (fun check => (check.1, check.2.allowed)) =
      (Sample.limiter.getLimits Sample.call).bucket.log
        ((Sample.limiter.getLimits Sample.call).full 0) Sample.burst ∧
      ∀ first last, first ≤ last →
        ((Sample.limiter.checks Sample.call Sample.burst .empty).countP
            (fun check => check.2.allowed && decide (first ≤ check.1 ∧ check.1 ≤ last)) : Rat) ≤
          (Sample.limiter.getLimits Sample.call).requests +
            (Sample.limiter.getLimits Sample.call).requests * (last - first) /
              (Sample.limiter.getLimits Sample.call).windowSeconds) ∧
      (Sample.limiter.checks Sample.call Sample.burst .empty).map (fun check => check.2.allowed) =
        [true, true, false, false, true] := by
  have hsorted : Sample.burst.Pairwise (· ≤ ·) := by decide +kernel
  have hstart : ∀ now ∈ Sample.burst, (0 : Rat) ≤ now := by decide +kernel
  have hpositive : (Sample.limiter.getLimits Sample.call).Positive := ⟨by decide, by decide⟩
  exact ⟨checks_refine Sample.limiter Sample.call rfl hpositive hsorted hstart rfl rfl,
    by decide +kernel⟩

end RateLimiter

end IntegrationPlatform
