import IntegrationPlatform.Rates.ManifestLimits

/-!
# Waiting after a denied check

A check that is denied says after how many seconds to try again. The seconds are rounded to two
digits, so that they may be fewer than the bucket needs for its next token, and a limit of no requests
is divided by. `retrySufficient_iff` says for which buckets the seconds are enough.
-/

namespace IntegrationPlatform

namespace RateLimiter

/-! ## Rounding -/

/-- The hundredths of a number are not rounded down. -/
def RoundsUp (number : Rat) : Prop :=
  Int.fract (number * 100) = 0 ∨ 1 / 2 < Int.fract (number * 100) ∨
    (Int.fract (number * 100) = 1 / 2 ∧ ⌊number * 100⌋ % 2 = 1)

theorem le_roundHalfEven_iff {number : Rat} : number ≤ roundHalfEven number ↔
    Int.fract number = 0 ∨ 1 / 2 < Int.fract number ∨ (Int.fract number = 1 / 2 ∧ ⌊number⌋ % 2 = 1) := by
  have hparts : (⌊number⌋ : Rat) + Int.fract number = number := Int.floor_add_fract number
  have hnonneg : 0 ≤ Int.fract number := Int.fract_nonneg number
  have hlt : Int.fract number < 1 := Int.fract_lt_one number
  have hrest : number - ⌊number⌋ = Int.fract number := Int.self_sub_floor number
  unfold roundHalfEven
  dsimp only
  rw [hrest]
  split
  · next hdown =>
    -- The number is rounded down, which is enough only for a whole one.
    constructor
    · intro hle
      exact .inl (le_antisymm (by linarith) hnonneg)
    · rintro (hzero | hhalf | ⟨hhalf, hodd⟩)
      · linarith
      · rcases hdown with hless | ⟨heq, -⟩ <;> linarith
      · rcases hdown with hless | ⟨-, heven⟩
        · linarith
        · omega
  · next hup =>
    obtain ⟨hge, hodd⟩ := not_or.mp hup
    constructor
    · intro _
      rcases (not_lt.mp hge).lt_or_eq with hgt | heq
      · exact .inr (.inl hgt)
      · refine .inr (.inr ⟨heq.symm, ?_⟩)
        have hparity : ¬ ⌊number⌋ % 2 = 0 := fun heven => hodd ⟨heq.symm, heven⟩
        omega
    · intro _
      push_cast
      linarith

theorem le_roundHalfEven_of_even {bound : Int} (heven : bound % 2 = 0) (number : Rat) :
    bound ≤ roundHalfEven number ↔ (bound : Rat) - 1 / 2 ≤ number := by
  have hparts : (⌊number⌋ : Rat) + Int.fract number = number := Int.floor_add_fract number
  have hlt : Int.fract number < 1 := Int.fract_lt_one number
  have hnonneg : 0 ≤ Int.fract number := Int.fract_nonneg number
  have hrest : number - ⌊number⌋ = Int.fract number := Int.self_sub_floor number
  unfold roundHalfEven
  dsimp only
  rw [hrest]
  split
  · next hdown =>
    constructor
    · intro hle
      have hcast : (bound : Rat) ≤ ⌊number⌋ := Int.cast_le.mpr hle
      linarith
    · intro hle
      by_contra hlow
      -- The floor is below the bound, so that it is the odd number just before it.
      have hbelow : (⌊number⌋ : Rat) ≤ bound - 1 := by
        have hint : ⌊number⌋ ≤ bound - 1 := by omega
        exact_mod_cast hint
      rcases hdown with hless | ⟨hhalf, heven'⟩
      · linarith
      · have heq : ⌊number⌋ = bound - 1 := by
          have hcast : (bound : Rat) - 1 ≤ ⌊number⌋ := by linarith
          have hint : bound - 1 ≤ ⌊number⌋ := by exact_mod_cast hcast
          omega
        omega
  · next hup =>
    obtain ⟨hge, -⟩ := not_or.mp hup
    constructor
    · intro hle
      have hcast : (bound : Rat) ≤ ⌊number⌋ + 1 := by exact_mod_cast hle
      linarith
    · intro hle
      have hcast : (bound : Rat) - 1 < ⌊number⌋ + 1 := by linarith
      have hint : bound - 1 < ⌊number⌋ + 1 := by exact_mod_cast hcast
      omega

theorem le_roundTwoDigits_iff {number : Rat} : number ≤ roundTwoDigits number ↔ RoundsUp number := by
  unfold roundTwoDigits RoundsUp
  rw [le_div_iff₀ (by norm_num)]
  exact le_roundHalfEven_iff

theorem whole_le_roundTwoDigits_iff {seconds : Int} {number : Rat} :
    (2 * seconds : Rat) ≤ roundTwoDigits number ↔ 2 * (seconds : Rat) - 1 / 200 ≤ number := by
  have heven : 200 * seconds % 2 = 0 := by omega
  have hbound := le_roundHalfEven_of_even heven (number * 100)
  unfold roundTwoDigits
  rw [le_div_iff₀ (by norm_num)]
  have hcast : (2 * (seconds : Rat)) * 100 ≤ roundHalfEven (number * 100) ↔
      200 * seconds ≤ roundHalfEven (number * 100) := by
    rw [← Int.cast_le (R := Rat)]
    push_cast
    constructor <;> intro hle <;> linarith
  rw [hcast, hbound]
  push_cast
  constructor <;> intro hle <;> linarith

/-! ## Checks that may divide by zero -/

/-- The tokens that a check finds in a bucket. -/
def found (config : RateLimitConfig) (bucketKey : String) (now : Rat) (redis : Redis) : Rat :=
  min (config.requests : Rat)
    ((redis.get now (tokensKey bucketKey)).getD config.requests +
      max 0 (now - (redis.get now (lastKey bucketKey)).getD now) * config.refillRate)

/-- `check`. The quotient is taken only when the check is denied, and before anything is written. -/
def Limiter.tryCheck (limiter : Limiter) (call : Call) (now : Rat) (redis : Redis) :
    Except String (RateLimitResult × Redis) :=
  let config := limiter.getLimits call
  if limiter.enabled = true ∧ found config call.bucketKey now redis < 1 ∧ config.refillRate = 0 then
    .error "float division by zero"
  else .ok (limiter.check call now redis)

/-- `wait_if_needed`, which `asyncio.sleep` delays by some time more than it is asked to. -/
def Limiter.waitIfNeeded (limiter : Limiter) (call : Call) (now overslept : Rat) (redis : Redis) :
    Except String (RateLimitResult × Redis) :=
  (limiter.tryCheck call now redis).bind fun checked =>
    if checked.1.allowed then .ok checked
    else
      let wait := min ((checked.1.retryAfter.filter (· ≠ 0)).getD 1) 30
      limiter.tryCheck call (now + wait + overslept) checked.2

/-- The time in which a bucket gets the part of a token that it lacks. -/
def lack (config : RateLimitConfig) (tokens : Rat) : Rat :=
  (1 - tokens) / config.refillRate

/-- The seconds after which a denied check says to try again. -/
def retryAfter (config : RateLimitConfig) (tokens : Rat) : Rat :=
  max (roundTwoDigits (lack config tokens)) (1 / 10)

/-- What a check leaves in the bucket. -/
def written (config : RateLimitConfig) (bucketKey : String) (tokens now : Rat) (redis : Redis) : Redis :=
  (redis.set (tokensKey bucketKey) tokens (now + config.timeToLive)).set (lastKey bucketKey) now
    (now + config.timeToLive)

/-- The seconds of a denied check are enough, whenever the next check is made. -/
structure RetrySufficient (limiter : Limiter) (call : Call) (now : Rat) (redis : Redis) : Prop where
  divides : ∃ checked, limiter.tryCheck call now redis = .ok checked
  later : ∀ checked, limiter.tryCheck call now redis = .ok checked → ∀ seconds,
    checked.1.allowed = false → checked.1.retryAfter = some seconds → ∀ next, now + seconds ≤ next →
      ∃ again, limiter.tryCheck call next checked.2 = .ok again ∧ again.1.allowed = true
  waits : ∀ checked, limiter.tryCheck call now redis = .ok checked →
    (∀ seconds, checked.1.retryAfter = some seconds → seconds ≤ 30) → ∀ overslept, 0 ≤ overslept →
      ∃ waited, limiter.waitIfNeeded call now overslept redis = .ok waited ∧ waited.1.allowed = true

/-- The bucket has a token, or the time in which it gets one is not rounded down, is at most the tenth
of a second that is waited anyway, or is so long that the keys expire before. -/
def Affords (config : RateLimitConfig) (tokens : Rat) : Prop :=
  0 < config.requests ∧
    (1 ≤ tokens ∨ lack config tokens ≤ 1 / 10 ∨ RoundsUp (lack config tokens) ∨
      2 * (config.windowSeconds : Rat) - 1 / 200 ≤ lack config tokens)

theorem windowSeconds_pos_of_parseRate {texts : RateTexts} {rate : String} {config : RateLimitConfig}
    (h : parseRate texts rate = .ok config) : 0 < config.windowSeconds := by
  unfold parseRate at h
  split at h
  · cases h
  · split at h
    · cases h
    · dsimp only at h
      split at h
      · cases h
      · next hunit =>
        obtain rfl := Except.ok.inj h
        have hseconds : ∀ unit ∈ unitSeconds, 0 < unit.2 := by decide
        exact hseconds _ (Assoc.mem_of_find hunit)

section Checks

variable {limiter : Limiter} {call : Call} {config : RateLimitConfig} {bucketKey : String}
  {now next tokens : Rat} {redis : Redis}

theorem check_eq (henabled : limiter.enabled = true) :
    limiter.check call now redis =
      ((decisionAt (limiter.getLimits call) call.bucketKey now now redis).result (limiter.getLimits call),
        written (limiter.getLimits call) call.bucketKey
          (decisionAt (limiter.getLimits call) call.bucketKey now now redis).tokens now redis) :=
  if_pos henabled

theorem decisionAt_of_le (h : 1 ≤ found config bucketKey now redis) :
    (decisionAt config bucketKey now now redis).allowed = true := by
  unfold found at h
  unfold decisionAt decision
  dsimp only
  rw [if_pos h]

theorem decisionAt_of_lt (h : found config bucketKey now redis < 1) :
    decisionAt config bucketKey now now redis =
      { allowed := false
        tokens := found config bucketKey now redis
        remaining := 0
        retryAfter := some (retryAfter config (found config bucketKey now redis)) } := by
  unfold found at h
  unfold decisionAt decision
  dsimp only
  rw [if_neg (not_le.mpr h)]
  rfl

theorem tryCheck_of_ne_zero (h : (limiter.getLimits call).refillRate ≠ 0) :
    limiter.tryCheck call now redis = .ok (limiter.check call now redis) :=
  if_neg fun hzero => h hzero.2.2

theorem written_tokensKey : written config bucketKey tokens now redis (tokensKey bucketKey) =
    some (tokens, now + config.timeToLive) := by
  unfold written
  rw [Expiring.set_of_ne lastKey_ne_tokensKey.symm, Expiring.set_self]

theorem written_lastKey : written config bucketKey tokens now redis (lastKey bucketKey) =
    some (now, now + config.timeToLive) :=
  Expiring.set_self

theorem found_written_of_lt (hlate : now ≤ next) (hlive : next < now + config.timeToLive) :
    found config bucketKey next (written config bucketKey tokens now redis) =
      min (config.requests : Rat) (tokens + (next - now) * config.refillRate) := by
  unfold found
  rw [Expiring.get_of_lt written_tokensKey hlive, Expiring.get_of_lt written_lastKey hlive, Option.getD_some,
    Option.getD_some, max_eq_right (sub_nonneg.mpr hlate)]

theorem found_written_of_le (hgone : now + config.timeToLive ≤ next) :
    found config bucketKey next (written config bucketKey tokens now redis) = config.requests := by
  unfold found
  rw [Expiring.get_of_le written_tokensKey hgone, Expiring.get_of_le written_lastKey hgone]
  simp

/-- The next check finds a token, whenever it is made, if the seconds are as many as the bucket needs
for one, or as many as the keys live. -/
theorem forall_found_iff (hrequests : 0 < config.requests) (hrate : 0 < config.refillRate)
    (seconds : Rat) (hseconds : 0 ≤ seconds) :
    (∀ next, now + seconds ≤ next →
        1 ≤ found config bucketKey next (written config bucketKey tokens now redis)) ↔
      lack config tokens ≤ seconds ∨ config.timeToLive ≤ seconds := by
  have hone : (1 : Rat) ≤ config.requests := by exact_mod_cast hrequests
  constructor
  · intro h
    rcases lt_or_ge seconds config.timeToLive with hlive | hgone
    · have hfound := h (now + seconds) le_rfl
      rw [found_written_of_lt (by linarith) (by linarith)] at hfound
      have hrefilled := (le_min_iff.mp hfound).2
      have helapsed : now + seconds - now = seconds := by ring
      rw [helapsed] at hrefilled
      exact .inl ((div_le_iff₀ hrate).mpr (by linarith))
    · exact .inr hgone
  · intro h next hnext
    rcases lt_or_ge next (now + config.timeToLive) with hlive | hgone
    · rw [found_written_of_lt (by linarith) hlive]
      rcases h with henough | hlong
      · have hneeded : 1 - tokens ≤ seconds * config.refillRate := (div_le_iff₀ hrate).mp henough
        have hmore : seconds * config.refillRate ≤ (next - now) * config.refillRate :=
          mul_le_mul_of_nonneg_right (by linarith) hrate.le
        exact le_min hone (by linarith)
      · linarith
    · rw [found_written_of_le hgone]
      exact hone

theorem retryAfter_enough_iff (hwindow : 0 < config.windowSeconds) :
    lack config tokens ≤ retryAfter config tokens ∨ config.timeToLive ≤ retryAfter config tokens ↔
      lack config tokens ≤ 1 / 10 ∨ RoundsUp (lack config tokens) ∨
        2 * (config.windowSeconds : Rat) - 1 / 200 ≤ lack config tokens := by
  have hone : (1 : Rat) ≤ config.windowSeconds := by exact_mod_cast hwindow
  have hrounded : config.timeToLive ≤ roundTwoDigits (lack config tokens) ↔
      2 * (config.windowSeconds : Rat) - 1 / 200 ≤ lack config tokens := by
    have hwhole := @whole_le_roundTwoDigits_iff config.windowSeconds (lack config tokens)
    rw [Int.cast_natCast] at hwhole
    rw [← hwhole, RateLimitConfig.timeToLive, mul_comm]
  have hexpiry : ¬ config.timeToLive ≤ 1 / 10 := by
    unfold RateLimitConfig.timeToLive
    intro hle
    linarith
  unfold retryAfter
  rw [le_max_iff, le_max_iff, le_roundTwoDigits_iff, hrounded]
  tauto

theorem allowed_of_le_found (henabled : limiter.enabled = true)
    (h : 1 ≤ found (limiter.getLimits call) call.bucketKey now redis) :
    (limiter.check call now redis).1.allowed = true := by
  rw [check_eq henabled]
  exact decisionAt_of_le h

theorem check_of_found_lt (henabled : limiter.enabled = true)
    (h : found (limiter.getLimits call) call.bucketKey now redis < 1) :
    (limiter.check call now redis).1.allowed = false ∧
      (limiter.check call now redis).1.retryAfter =
        some (retryAfter (limiter.getLimits call)
          (found (limiter.getLimits call) call.bucketKey now redis)) ∧
      (limiter.check call now redis).2 = written (limiter.getLimits call) call.bucketKey
        (found (limiter.getLimits call) call.bucketKey now redis) now redis := by
  rw [check_eq henabled, decisionAt_of_lt h]
  exact ⟨rfl, rfl, rfl⟩

theorem retrySufficient_of_allowed (hchecked : limiter.tryCheck call now redis =
      .ok (limiter.check call now redis))
    (hallowed : (limiter.check call now redis).1.allowed = true) :
    RetrySufficient limiter call now redis where
  divides := ⟨_, hchecked⟩
  later checked heq seconds hdenied := by
    obtain rfl := Except.ok.inj (hchecked.symm.trans heq)
    rw [hallowed] at hdenied
    cases hdenied
  waits checked _ _ overslept _ := by
    refine ⟨_, ?_, hallowed⟩
    unfold Limiter.waitIfNeeded
    rw [hchecked]
    exact if_pos hallowed

/-- A check that is denied, where the rate is not zero: its seconds are enough if any later check finds
a token. -/
theorem retrySufficient_iff_found (henabled : limiter.enabled = true)
    (hrate : (limiter.getLimits call).refillRate ≠ 0)
    (hlow : found (limiter.getLimits call) call.bucketKey now redis < 1) :
    RetrySufficient limiter call now redis ↔
      ∀ next, now + retryAfter (limiter.getLimits call)
          (found (limiter.getLimits call) call.bucketKey now redis) ≤ next →
        1 ≤ found (limiter.getLimits call) call.bucketKey next
          (written (limiter.getLimits call) call.bucketKey
            (found (limiter.getLimits call) call.bucketKey now redis) now redis) := by
  obtain ⟨hdenied, hseconds, hstore⟩ := check_of_found_lt henabled hlow
  have hchecked : limiter.tryCheck call now redis = .ok (limiter.check call now redis) :=
    tryCheck_of_ne_zero hrate
  constructor
  · intro h next hnext
    obtain ⟨again, hagain, hallowed⟩ := h.later _ hchecked _ hdenied hseconds next hnext
    rw [tryCheck_of_ne_zero hrate] at hagain
    obtain rfl := Except.ok.inj hagain
    by_contra hnone
    obtain ⟨hdeniedAgain, -, -⟩ := check_of_found_lt henabled (not_le.mp fun hle => hnone (hstore ▸ hle))
    rw [hallowed] at hdeniedAgain
    cases hdeniedAgain
  · intro h
    refine ⟨⟨_, hchecked⟩, ?_, ?_⟩
    · intro checked heq seconds _ hsome next hnext
      obtain rfl := Except.ok.inj (hchecked.symm.trans heq)
      obtain rfl := Option.some.inj (hseconds.symm.trans hsome)
      refine ⟨_, tryCheck_of_ne_zero hrate, allowed_of_le_found henabled ?_⟩
      rw [hstore]
      exact h next hnext
    · intro checked heq hshort overslept hoverslept
      obtain rfl := Except.ok.inj (hchecked.symm.trans heq)
      have hle := hshort _ hseconds
      have hpos : 0 < retryAfter (limiter.getLimits call)
          (found (limiter.getLimits call) call.bucketKey now redis) :=
        lt_of_lt_of_le (by norm_num) (le_max_right _ _)
      -- The wait is what the check says, for that is neither zero nor above thirty seconds.
      have hwait : min (((limiter.check call now redis).1.retryAfter.filter (· ≠ 0)).getD 1) 30 =
          retryAfter (limiter.getLimits call)
            (found (limiter.getLimits call) call.bucketKey now redis) := by
        rw [hseconds]
        simp [Option.filter, hpos.ne', hle]
      unfold Limiter.waitIfNeeded
      rw [hchecked]
      show ∃ waited, (if (limiter.check call now redis).1.allowed = true then _ else _) = _ ∧ _
      rw [hdenied, if_neg Bool.false_ne_true, hwait]
      refine ⟨_, tryCheck_of_ne_zero hrate, allowed_of_le_found henabled ?_⟩
      rw [hstore]
      exact h _ (by linarith)

end Checks

/-- The seconds of a denied check are enough exactly if the limiter is switched off, or the limit is
not zero and the bucket has a token or one that it gets in a time that is not rounded down. -/
theorem retrySufficient_iff {texts : RateTexts} {rate : String} {config : RateLimitConfig}
    (hrate : parseRate texts rate = .ok config) {limiter : Limiter} {call : Call}
    (hlimits : limiter.getLimits call = config) (now : Rat) (redis : Redis) :
    RetrySufficient limiter call now redis ↔
      limiter.enabled = false ∨ Affords config (found config call.bucketKey now redis) := by
  subst hlimits
  have hwindow := windowSeconds_pos_of_parseRate hrate
  have hseconds : (0 : Rat) < (limiter.getLimits call).windowSeconds := by exact_mod_cast hwindow
  cases henabled : limiter.enabled with
  | false =>
      have hchecked : limiter.tryCheck call now redis = .ok (limiter.check call now redis) :=
        if_neg fun htrue => Bool.false_ne_true (henabled.symm.trans htrue.1)
      have hallowed : (limiter.check call now redis).1.allowed = true := by
        unfold Limiter.check
        dsimp only
        rw [henabled, if_neg Bool.false_ne_true]
      exact iff_of_true (retrySufficient_of_allowed hchecked hallowed) (.inl rfl)
  | true =>
      rw [or_iff_right Bool.false_ne_true.symm]
      rcases Nat.eq_zero_or_pos (limiter.getLimits call).requests with hzero | hrequests
      · -- No requests: no token is found, and the rate that the lack is divided by is zero.
        have hrefill : (limiter.getLimits call).refillRate = 0 := by
          unfold RateLimitConfig.refillRate
          rw [hzero, Nat.cast_zero, zero_div]
        have hlow : found (limiter.getLimits call) call.bucketKey now redis < 1 := by
          have hle : found (limiter.getLimits call) call.bucketKey now redis ≤
              (limiter.getLimits call).requests := min_le_left _ _
          rw [hzero, Nat.cast_zero] at hle
          linarith
        have hraises : limiter.tryCheck call now redis = .error "float division by zero" :=
          if_pos ⟨henabled, hlow, hrefill⟩
        refine iff_of_false ?_ ?_
        · intro h
          obtain ⟨checked, hchecked⟩ := h.divides
          cases hraises.symm.trans hchecked
        · intro h
          have hpos := h.1
          omega
      · have hpos : 0 < (limiter.getLimits call).refillRate :=
          div_pos (by exact_mod_cast hrequests) hseconds
        unfold Affords
        rw [and_iff_right hrequests]
        rcases le_or_gt 1 (found (limiter.getLimits call) call.bucketKey now redis) with hle | hlow
        · exact iff_of_true (retrySufficient_of_allowed (tryCheck_of_ne_zero hpos.ne')
            (allowed_of_le_found henabled hle)) (.inl hle)
        · have htenth : 0 ≤ retryAfter (limiter.getLimits call)
              (found (limiter.getLimits call) call.bucketKey now redis) :=
            le_trans (by norm_num) (le_max_right _ _)
          rw [retrySufficient_iff_found henabled hpos.ne' hlow,
            forall_found_iff hrequests hpos _ htenth, retryAfter_enough_iff hwindow,
            or_iff_right (not_le.mpr hlow)]

/-! ## Samples -/

namespace Sample

def perSecond (requests : Nat) : Limiter where
  defaultConfig := ⟨requests, 1⟩
  rateLimits _ _ := none
  parseRate _ := none

def afterChecks (limiter : Limiter) : Nat → Redis
  | 0 => .empty
  | count + 1 => (limiter.check call 0 (afterChecks limiter count)).2

end Sample

theorem parseRate_perSecond (rate : String) (count : List Char) (requests : Int)
    (hmatch : matchRate asciiTexts (strip asciiTexts rate.toList) = some (count, ['s']))
    (hint : asciiTexts.int (String.ofList count) = some requests) :
    parseRate asciiTexts rate = .ok ⟨requests.toNat, 1⟩ := by
  have hlower : asciiTexts.lower (String.ofList ['s']) = "s" := by decide +kernel
  unfold parseRate
  simp only [hmatch, hint, hlower]
  rfl

/-- Of two requests a second, the third is told to wait for half a second, which is enough. -/
theorem retrySufficient_half :
    RetrySufficient (Sample.perSecond 2) Sample.call 0 (Sample.afterChecks (Sample.perSecond 2) 2) ∧
      ((Sample.perSecond 2).check Sample.call 0
        (Sample.afterChecks (Sample.perSecond 2) 2)).1.retryAfter = some (1 / 2) := by
  have hrate : parseRate asciiTexts "2/s" = .ok ⟨2, 1⟩ :=
    parseRate_perSecond "2/s" ['2'] 2 (by decide +kernel) rfl
  have hlack : lack ⟨2, 1⟩ (found ⟨2, 1⟩ Sample.call.bucketKey 0
      (Sample.afterChecks (Sample.perSecond 2) 2)) = 1 / 2 := by decide +kernel
  refine ⟨(retrySufficient_iff hrate rfl _ _).mpr (.inr ⟨by decide, .inr (.inr (.inl ?_))⟩),
    by decide +kernel⟩
  rw [hlack]
  exact .inl (by decide +kernel)

/-- Of three requests a second, the fourth is told to wait for 0.33 seconds and denied again after
them. Of no requests a second, the first divides by zero. -/
theorem retry_denied_again :
    (parseRate asciiTexts "3/s" = .ok ((Sample.perSecond 3).getLimits Sample.call) ∧
      ¬ RetrySufficient (Sample.perSecond 3) Sample.call 0
        (Sample.afterChecks (Sample.perSecond 3) 3)) ∧
      parseRate asciiTexts "0/s" = .ok ((Sample.perSecond 0).getLimits Sample.call) ∧
      ¬ RetrySufficient (Sample.perSecond 0) Sample.call 0 .empty := by
  refine ⟨⟨parseRate_perSecond "3/s" ['3'] 3 (by decide +kernel) rfl, ?_⟩,
    parseRate_perSecond "0/s" ['0'] 0 (by decide +kernel) rfl, ?_⟩
  · intro h
    have hrate : ((Sample.perSecond 3).getLimits Sample.call).refillRate ≠ 0 := by decide +kernel
    obtain ⟨again, hagain, hallowed⟩ := h.later _ (tryCheck_of_ne_zero hrate) (33 / 100)
      (by decide +kernel) (by decide +kernel) (33 / 100) (by norm_num)
    rw [tryCheck_of_ne_zero hrate] at hagain
    obtain rfl := Except.ok.inj hagain
    have hdenied : ((Sample.perSecond 3).check Sample.call (33 / 100)
        ((Sample.perSecond 3).check Sample.call 0
          (Sample.afterChecks (Sample.perSecond 3) 3)).2).1.allowed = false := by decide +kernel
    rw [hallowed] at hdenied
    cases hdenied
  · intro h
    obtain ⟨checked, hchecked⟩ := h.divides
    have hraises : (Sample.perSecond 0).tryCheck Sample.call 0 .empty =
        .error "float division by zero" := if_pos ⟨rfl, by decide +kernel, by decide +kernel⟩
    cases hraises.symm.trans hchecked

end RateLimiter

end IntegrationPlatform
