import IntegrationPlatform.Sdk.RateLimits

/-!
# Limited actions

What `_RateLimitMiddleware` lets through. Each of its buckets answers as the ideal bucket would that sees the
requests of its own key alone, which limits them over every interval (`actions_limited`).
-/

namespace IntegrationPlatform

namespace Sdk

open IntegrationPlatform.TokenBucket (Level admittedWithin)

/-- `allow`, at this instant. -/
def TokenBucket.allow (bucket : TokenBucket) (level : Level Rat) (now : Rat) : Bool × Level Rat :=
  let tokens := min (bucket.burst : Rat) (level.tokens + (now - level.instant) * bucket.rate)
  if 1 ≤ tokens then (true, ⟨tokens - 1, now⟩) else (false, ⟨tokens, now⟩)

/-- The levels of the buckets, by their keys. -/
abbrev Levels := String → Level Rat

/-- The levels after `__init__`. -/
def fullLevels (buckets : Assoc TokenBucket) (now : Rat) : Levels :=
  fun key => ⟨((buckets.find key).map fun bucket => (bucket.burst : Rat)).getD 0, now⟩

section Middleware

variable (buckets : Assoc TokenBucket)

/-- The bucket of a request to a path, with its key. -/
def bucketFor (path : String) : Option (String × TokenBucket) :=
  (actionKey path).bind fun key =>
    match buckets.find key with
    | some bucket => some (key, bucket)
    | none => (buckets.find "__default__").map fun bucket => ("__default__", bucket)

/-- `dispatch`: whether a request is passed on, and the levels after it. -/
def dispatch (levels : Levels) (path : String) (now : Rat) : Bool × Levels :=
  match bucketFor buckets path with
  | none => (true, levels)
  | some (key, bucket) =>
      let allowed := bucket.allow (levels key) now
      (allowed.1, Function.update levels key allowed.2)

/-- Requests to paths at some instants, each with whether it is passed on. -/
def passed (levels : Levels) : List (String × Rat) → List (String × Rat × Bool)
  | [] => []
  | (path, now) :: rest =>
      let dispatched := dispatch buckets levels path now
      (path, now, dispatched.1) :: passed dispatched.2 rest

/-- A request to the path asks the bucket with this key. -/
def asks (key path : String) : Bool :=
  (bucketFor buckets path).any (·.1 == key)

variable {buckets} {key : String} {bucket : TokenBucket}

theorem find_bucketFor {path : String} (h : bucketFor buckets path = some (key, bucket)) :
    buckets.find key = some bucket := by
  obtain ⟨action, -, hbucket⟩ := Option.bind_eq_some_iff.mp h
  cases haction : buckets.find action with
  | some own =>
      simp only [haction, Option.some.injEq, Prod.mk.injEq] at hbucket
      rw [← hbucket.1, haction, hbucket.2]
  | none =>
      simp only [haction, Option.map_eq_some_iff, Prod.mk.injEq] at hbucket
      obtain ⟨default, hdefault, rfl, rfl⟩ := hbucket
      exact hdefault

/-- The ideal bucket with the same arguments. -/
def TokenBucket.ideal (bucket : TokenBucket) (hburst : 0 ≤ bucket.burst) (hrate : 0 ≤ bucket.rate) :
    IntegrationPlatform.TokenBucket Rat where
  capacity := bucket.burst
  rate := bucket.rate
  capacity_nonneg := Int.cast_nonneg hburst
  rate_nonneg := hrate

variable (hburst : 0 ≤ bucket.burst) (hrate : 0 ≤ bucket.rate)

theorem allow_eq (level : Level Rat) (now : Rat) : bucket.allow level now =
    ((bucket.ideal hburst hrate).admits level now, (bucket.ideal hburst hrate).after level now) := by
  unfold TokenBucket.allow IntegrationPlatform.TokenBucket.admits IntegrationPlatform.TokenBucket.after
  by_cases hholds : 1 ≤ (bucket.ideal hburst hrate).refilled level now
  · rw [decide_eq_true hholds, if_pos hholds]
    exact if_pos hholds
  · rw [decide_eq_false hholds, if_neg hholds]
    exact if_neg hholds

/-- The requests that ask a bucket are answered as by the ideal bucket that sees no others. -/
theorem passed_refines (hkey : buckets.find key = some bucket) (levels : Levels)
    (requests : List (String × Rat)) :
    ((passed buckets levels requests).filter fun entry => asks buckets key entry.1).map Prod.snd =
      (bucket.ideal hburst hrate).log (levels key)
        ((requests.filter fun request => asks buckets key request.1).map Prod.snd) := by
  induction requests generalizing levels with
  | nil => rfl
  | cons request rest ih =>
      obtain ⟨path, now⟩ := request
      have ihnext := ih (dispatch buckets levels path now).2
      rw [passed]
      cases hfor : bucketFor buckets path with
      | none =>
          have hother : asks buckets key path = false := by rw [asks, hfor]; rfl
          have hsame : (dispatch buckets levels path now).2 = levels := by rw [dispatch, hfor]
          rw [hsame] at ihnext
          simp only [List.filter_cons, hother, Bool.false_eq_true, if_false, hsame, ihnext]
      | some found =>
          obtain ⟨askedKey, asked⟩ := found
          by_cases hsame : askedKey = key
          · subst hsame
            obtain rfl : asked = bucket := Option.some.inj ((find_bucketFor hfor).symm.trans hkey)
            have hown : asks buckets askedKey path = true := by simp [asks, hfor]
            have hpassed : (dispatch buckets levels path now).1 =
                (asked.ideal hburst hrate).admits (levels askedKey) now := by
              simp only [dispatch, hfor, allow_eq hburst hrate]
            have hlevel : (dispatch buckets levels path now).2 askedKey =
                (asked.ideal hburst hrate).after (levels askedKey) now := by
              simp only [dispatch, hfor, allow_eq hburst hrate, Function.update_self]
            rw [hlevel] at ihnext
            simp only [List.filter_cons, hown, if_true, List.map_cons, ihnext, hpassed]
            rfl
          · have hother : asks buckets key path = false := by simp [asks, hfor, hsame]
            have hlevel : (dispatch buckets levels path now).2 key = levels key := by
              simp only [dispatch, hfor]
              exact Function.update_of_ne (Ne.symm hsame) _ _
            rw [hlevel] at ihnext
            simp only [List.filter_cons, hother, Bool.false_eq_true, if_false, ihnext]

end Middleware

section Limits

variable {texts : RateLimiter.RateTexts} {buckets : Assoc TokenBucket} {key : String} {bucket : TokenBucket}

theorem rate_nonneg_of_parse {spec : String} (h : parseRateSpec texts spec = some bucket)
    (hburst : 0 ≤ bucket.burst) : 0 ≤ bucket.rate := by
  unfold parseRateSpec at h
  split at h
  · obtain ⟨requests, -, rfl⟩ := Option.map_eq_some_iff.mp h
    exact div_nonneg (Int.cast_nonneg hburst) (Nat.cast_nonneg _)
  · cases Option.some.inj h
    norm_num

theorem exists_parse {rateLimits : Assoc String} {result : Assoc TokenBucket}
    (h : rateLimits.foldlM (addBucket texts) buckets = some result)
    (hbuckets : ∀ key bucket, buckets.find key = some bucket → ∃ spec, parseRateSpec texts spec = some bucket)
    (hkey : result.find key = some bucket) : ∃ spec, parseRateSpec texts spec = some bucket := by
  induction rateLimits generalizing buckets with
  | nil =>
      cases Option.some.inj h
      exact hbuckets key bucket hkey
  | cons entry rest ih =>
      rw [List.foldlM_cons] at h
      obtain ⟨next, hnext, hrest⟩ := Option.bind_eq_some_iff.mp h
      refine ih hrest fun key' bucket' hkey' => ?_
      unfold addBucket at hnext
      split at hnext
      · cases Option.some.inj hnext
        exact hbuckets key' bucket' hkey'
      · obtain ⟨added, hadded, rfl⟩ := Option.map_eq_some_iff.mp hnext
        rw [Assoc.find_put] at hkey'
        split at hkey'
        · cases Option.some.inj hkey'
          exact ⟨_, hadded⟩
        · exact hbuckets key' bucket' hkey'

/-- Of the requests that ask a bucket whose count is not negative, whatever other requests there are, no more
are passed on in any interval than its burst and what flows in during the interval. -/
theorem actions_limited {rateLimits : Assoc String}
    (hbuckets : registerRateLimiting texts rateLimits = some buckets) (hkey : buckets.find key = some bucket)
    (hburst : 0 ≤ bucket.burst) (start : Rat) (requests : List (String × Rat))
    (hsorted : (requests.map Prod.snd).Pairwise (· ≤ ·)) (hlate : ∀ request ∈ requests, start ≤ request.2)
    (first last : Rat) (hinterval : first ≤ last) :
    ((passed buckets (fullLevels buckets start) requests).countP fun entry =>
        admittedWithin first last entry.2 && asks buckets key entry.1 : Rat) ≤
      bucket.burst + (last - first) * bucket.rate := by
  obtain ⟨initial, hinitial, hadded⟩ := Option.bind_eq_some_iff.mp hbuckets
  have hparsed : ∃ spec, parseRateSpec texts spec = some bucket := by
    refine exists_parse hadded (fun key' bucket' hkey' => ?_) hkey
    unfold defaultBuckets at hinitial
    split at hinitial
    · cases Option.some.inj hinitial
      cases hkey'
    · obtain ⟨made, hmade, rfl⟩ := Option.map_eq_some_iff.mp hinitial
      rw [Assoc.find] at hkey'
      split at hkey'
      · cases Option.some.inj hkey'
        exact ⟨_, hmade⟩
      · cases hkey'
  have hrate := hparsed.elim fun _ hparse => rate_nonneg_of_parse hparse hburst
  have hfits : (fullLevels buckets start key).Fits (bucket.ideal hburst hrate) := by
    rw [fullLevels, hkey]
    exact ⟨Int.cast_nonneg hburst, le_rfl⟩
  have hlater : ∀ now ∈ (requests.filter fun request => asks buckets key request.1).map Prod.snd,
      start ≤ now := by
    intro now hnow
    obtain ⟨request, hrequest, rfl⟩ := List.mem_map.mp hnow
    exact hlate request (List.mem_of_mem_filter hrequest)
  have hcount := IntegrationPlatform.TokenBucket.countP_log_le hfits hinterval
    (hsorted.sublist (List.filter_sublist.map Prod.snd)) hlater
  rw [← passed_refines hburst hrate hkey, List.countP_map, List.countP_filter] at hcount
  exact hcount

end Limits

/-- Two calls of one action, limited by the default. -/
theorem actions_limited_default :
    ((passed [("__default__", ⟨10, 10⟩)] (fullLevels [("__default__", ⟨10, 10⟩)] 0)
        [("/actions/rates/get", 0), ("/actions/rates/get", 1)]).countP fun entry =>
          admittedWithin 0 1 entry.2 && asks [("__default__", ⟨10, 10⟩)] "__default__" entry.1 : Rat) ≤
      (10 : Int) + (1 - 0) * 10 := by
  have hbuckets : registerRateLimiting RateLimiter.asciiTexts (limitedApp "10/s").rateLimits =
      some [("__default__", ⟨10, 10⟩)] := by decide +kernel
  have hkey : Assoc.find [("__default__", (⟨10, 10⟩ : TokenBucket))] "__default__" = some ⟨10, 10⟩ := rfl
  exact actions_limited hbuckets hkey (by decide) 0 [("/actions/rates/get", 0), ("/actions/rates/get", 1)]
    (by decide +kernel) (by decide +kernel) 0 1 (by decide +kernel)

end Sdk

end IntegrationPlatform
