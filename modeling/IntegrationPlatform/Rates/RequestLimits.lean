import IntegrationPlatform.Json.Fields
import IntegrationPlatform.Rates.Limiter

/-!
# The rate limit of the API

`RateLimiterMiddleware.dispatch` keeps the requests of an identifier in a sorted set, under the text of the
time, and answers for itself when there are too many of them in a window. `limits_iff` says for which
sequences of requests it does what it is there for.
-/

namespace IntegrationPlatform

namespace RequestLimits

open RateLimiter (truncate)

/-! ## Requests -/

/-- The settings of the limit. -/
structure Settings where
  rateLimitRequests : Int := 1000
  rateLimitWindowSeconds : Int := 60

/-- What Python makes of texts and times: `str(now)`, `float(text)` and the hexadecimal SHA-256 digest. -/
structure Texts where
  str : Rat → String
  float : String → Option Rat
  sha256 : String → String

/-- What the middleware reads of a request: its path, the header `X-API-Key` and the host of the client. -/
structure Request where
  path : String
  apiKey : Option String
  client : Option String

def bypassPaths : List String :=
  ["/health", "/readiness", "/metrics", "/docs", "/openapi.json"]

def sensitivePathPrefixes : List String :=
  ["/api/v1/tenants", "/api/v1/webhooks/", "/api/v1/demo/register", "/api/v1/workflows/"]

/-- The limit of a request: the identifier that it counts for, and how many of its requests are passed on in
a window of so many seconds. -/
structure Limit where
  identifier : String
  window : Int
  maxRequests : Int
deriving DecidableEq

/-- The key of the sorted set. -/
def Limit.key (limit : Limit) : String :=
  "ratelimit:" ++ limit.identifier

variable (settings : Settings) (texts : Texts)

/-- The limit of a request, unless its path bypasses the middleware. -/
def limitOf (request : Request) : Option Limit :=
  if request.path ∈ bypassPaths then none
  else
    let identifier :=
      match nonempty request.apiKey with
      | some apiKey => String.ofList ((texts.sha256 apiKey).toList.take 32)
      | none => "ip:" ++ request.client.getD "unknown"
    if sensitivePathPrefixes.any fun path => path.toList.isPrefixOf request.path.toList then
      some { identifier := "sensitive:" ++ identifier, window := 60, maxRequests := 30 }
    else
      some {
        identifier
        window := settings.rateLimitWindowSeconds
        maxRequests := settings.rateLimitRequests }

/-! ## The sorted set -/

def zremrangebyscore (entries : Assoc Rat) (low high : Rat) : Assoc Rat :=
  entries.filter fun entry => !(decide (low ≤ entry.2) && decide (entry.2 ≤ high))

/-- `ZRANGE key 0 0`: the member with the least score. -/
def zrangeFirst (entries : Assoc Rat) : List String :=
  ((entries.mergeSort fun left right =>
    decide (left.2 < right.2) || (decide (left.2 = right.2) && decide (left.1 ≤ right.1))).take 1).map
      Prod.fst

/-- The keys of Redis. -/
abbrev Redis := Expiring String (Assoc Rat) Rat

/-- `EXPIRE`, of a sorted set that has been written. A key without time left is deleted. -/
def expire (redis : Redis) (key : String) (entries : Assoc Rat) (now : Rat) (seconds : Int) : Redis :=
  if 0 < seconds then redis.set key entries (now + seconds) else redis.delete key

/-! ## Answers -/

/-- `float(value)`, of a text or a list. -/
def pyFloat : Value → Except String Rat
  | .str text =>
      match texts.float text with
      | some number => .ok number
      | none => .error ("could not convert string to float: '" ++ text ++ "'")
  | value => .error ("float() argument must be a string or a real number, not '" ++ value.typeName ++ "'")

/-- `value[0]`, of a number. -/
def firstOf (_number : Rat) : Except String Rat :=
  .error "'float' object is not subscriptable"

/-- `retry_after`: `int(window - (now - float(oldest or [str(now)])[0])) or 1`, in which `float` takes the
whole list and its result is subscripted. -/
def retryAfter (window : Int) (now : Rat) (oldest : List String) : Except String Int := do
  let members := if oldest.isEmpty then [texts.str now] else oldest
  let score ← pyFloat texts (.list (members.map Value.str))
  let first ← firstOf score
  let seconds := truncate (window - (now - first))
  .ok (if seconds = 0 then 1 else seconds)

/-- What the middleware answers: it passes the request on and adds `X-RateLimit-Limit` and
`X-RateLimit-Remaining`, or answers 429 or 503 with the text of the error. -/
inductive Answer where
  | passed (headers : Option (Int × Int))
  | limited (message : String) (retryAfter limit remaining reset : Int)
  | unavailable (message : String)

/-- The request is passed on. -/
def Answer.isPassed : Answer → Bool
  | .passed _ => true
  | _ => false

/-- `dispatch`, at some time. Every exception but those of the application itself is caught. -/
def dispatch (now : Rat) (redis : Redis) (request : Request) : Answer × Redis :=
  match limitOf settings texts request with
  | none => (.passed none, redis)
  | some limit =>
      let kept := zremrangebyscore ((redis.get now limit.key).getD []) 0 (now - limit.window)
      let entries := kept.put (texts.str now) now
      let redis := expire redis limit.key entries now limit.window
      let currentCount : Int := entries.length
      if currentCount > limit.maxRequests then
        match retryAfter texts limit.window now (zrangeFirst ((redis.get now limit.key).getD [])) with
        | .ok seconds =>
            (.limited ("Rate limit exceeded: " ++ toString limit.maxRequests ++ " requests per " ++
              toString limit.window ++ "s") seconds limit.maxRequests 0 (truncate now + seconds), redis)
        | .error _ => (.unavailable "Rate limiter backend unavailable", redis)
      else (.passed (some (limit.maxRequests, max 0 (limit.maxRequests - currentCount))), redis)

/-- Requests one after the other, each with the time at which it comes in, and their answers. -/
def answers : List (Rat × Request) → Redis → List (Rat × Answer)
  | [], _ => []
  | (now, request) :: rest, redis =>
      let answered := dispatch settings texts now redis request
      (now, answered.1) :: answers rest answered.2

/-! ## The limit -/

/-- The time falls into the window that ends at some instant. -/
def inWindow (window : Int) (instant time : Rat) : Bool :=
  decide (instant - window < time) && decide (time ≤ instant)

/-- The answers keep to a limit: no window has more requests that are passed on, every other request is
answered 429 with a time to wait of at most the window, and none 503. -/
structure Limits (limit : Limit) (answered : List (Rat × Answer)) : Prop where
  passed_le : ∀ instant, (((answered.filter fun entry => entry.2.isPassed).countP fun entry =>
    inWindow limit.window instant entry.1 : Nat) : Int) ≤ limit.maxRequests
  limited : ∀ entry ∈ answered, entry.2.isPassed = false → ∃ message seconds max remaining reset,
    entry.2 = .limited message seconds max remaining reset ∧ 1 ≤ seconds ∧ seconds ≤ limit.window
  available : ∀ entry ∈ answered, ∀ message, entry.2 ≠ .unavailable message

/-- No window has more requests than the limit, which is positive if there is a request at all. -/
def Sparse (limit : Limit) (times : List Rat) : Prop :=
  (∀ instant, ((times.countP fun time => inWindow limit.window instant time : Nat) : Int) ≤
    limit.maxRequests) ∧
  (times ≠ [] → 1 ≤ limit.maxRequests)

variable {settings texts} {limit : Limit} {redis : Redis} {now : Rat} {request : Request}

/-! ## One request -/

/-- The requests that are counted with one at some time. -/
def counted (texts : Texts) (limit : Limit) (redis : Redis) (now : Rat) : Assoc Rat :=
  (zremrangebyscore ((redis.get now limit.key).getD []) 0 (now - limit.window)).put (texts.str now) now

theorem dispatch_eq (h : limitOf settings texts request = some limit) :
    dispatch settings texts now redis request =
      (if (counted texts limit redis now).length > limit.maxRequests then
          .unavailable "Rate limiter backend unavailable"
        else .passed (some (limit.maxRequests,
          max 0 (limit.maxRequests - (counted texts limit redis now).length))),
        expire redis limit.key (counted texts limit redis now) now limit.window) := by
  rw [dispatch, h]
  show (if ((counted texts limit redis now).length : Int) > limit.maxRequests then _ else _) = _
  split
  · rfl
  · rfl

/-- The entries of the sorted set are requests that have come in, each at most once. -/
def Counts (limit : Limit) (redis : Redis) (earlier : List Rat) : Prop :=
  ∀ now, List.Subperm (((redis.get now limit.key).getD []).map Prod.snd) earlier

theorem subperm_put (entries : Assoc Rat) (member : String) (score : Rat) :
    List.Subperm ((entries.put member score).map Prod.snd) (score :: entries.map Prod.snd) := by
  induction entries with
  | nil => exact List.Subperm.refl _
  | cons entry rest ih =>
      rw [Assoc.put]
      split
      · exact (List.subperm_cons score).mpr (List.sublist_cons_self entry.2 _).subperm
      · exact ((List.subperm_cons entry.2).mpr ih).trans (List.Perm.swap score entry.2 _).subperm

variable {earlier : List Rat}

theorem subperm_counted (h : Counts limit redis earlier) (texts : Texts) (now : Rat) :
    List.Subperm ((counted texts limit redis now).map Prod.snd) (now :: earlier) := by
  refine (subperm_put _ _ _).trans ((List.subperm_cons now).mpr ?_)
  exact (List.filter_sublist.map Prod.snd).subperm.trans (h now)

theorem counts_dispatch (h : Counts limit redis earlier)
    (hlimit : limitOf settings texts request = some limit) (now : Rat) :
    Counts limit (dispatch settings texts now redis request).2 (now :: earlier) := by
  intro later
  rw [dispatch_eq hlimit]
  show List.Subperm (((Expiring.get (expire redis limit.key (counted texts limit redis now) now
    limit.window) later limit.key).getD []).map Prod.snd) _
  unfold expire
  split
  · rcases lt_or_ge later (now + limit.window) with hlive | hgone
    · rw [Expiring.get_of_lt Expiring.set_self hlive]
      exact subperm_counted h texts now
    · rw [Expiring.get_of_le Expiring.set_self hgone]
      exact List.nil_subperm
  · rw [Expiring.get_of_none Expiring.delete_self]
    exact List.nil_subperm

theorem length_counted_le (h : Counts limit redis earlier) (texts : Texts)
    (hearlier : ∀ time ∈ earlier, 0 ≤ time ∧ time ≤ now) :
    (counted texts limit redis now).length ≤
      (earlier.countP fun time => inWindow limit.window now time) + 1 := by
  unfold counted
  have hput := (subperm_put (zremrangebyscore ((redis.get now limit.key).getD []) 0 (now - limit.window))
    (texts.str now) now).length_le
  rw [List.length_map, List.length_cons, List.length_map] at hput
  refine hput.trans (Nat.succ_le_succ ?_)
  have hscores : ((redis.get now limit.key).getD []).countP (fun entry =>
      inWindow limit.window now entry.2) ≤ earlier.countP fun time => inWindow limit.window now time := by
    have hcount := (h now).countP_le fun time => inWindow limit.window now time
    rwa [List.countP_map] at hcount
  refine le_trans (le_of_eq ?_) hscores
  rw [List.countP_eq_length_filter, zremrangebyscore]
  refine congrArg List.length (List.filter_congr fun entry hentry => ?_)
  obtain ⟨hpositive, hle⟩ := hearlier entry.2
    ((h now).subset (List.mem_map.mpr ⟨entry, hentry, rfl⟩))
  simp only [inWindow, hpositive, hle, decide_true, Bool.true_and, Bool.and_true]
  rw [← decide_not, decide_eq_decide, not_le]

theorem length_counted_pos (texts : Texts) (limit : Limit) (redis : Redis) (now : Rat) :
    1 ≤ (counted texts limit redis now).length := by
  unfold counted
  cases zremrangebyscore ((redis.get now limit.key).getD []) 0 (now - limit.window) with
  | nil => exact Nat.le_refl 1
  | cons entry rest =>
      rw [Assoc.put]
      split <;> exact Nat.succ_le_succ (Nat.zero_le _)

/-! ## Sequences of requests -/

section Sequences

variable {requests : List (Rat × Request)}

theorem times_answers (settings : Settings) (texts : Texts) (requests : List (Rat × Request))
    (redis : Redis) : (answers settings texts requests redis).map Prod.fst = requests.map Prod.fst := by
  induction requests generalizing redis with
  | nil => rfl
  | cons entry rest ih => rw [answers, List.map_cons, List.map_cons, ih]

theorem not_limited (hlimit : ∀ entry ∈ requests, limitOf settings texts entry.2 = some limit)
    {redis : Redis} {answered : Rat × Answer} (h : answered ∈ answers settings texts requests redis) :
    answered.2.isPassed = true ∨ ∃ message, answered.2 = .unavailable message := by
  induction requests generalizing redis with
  | nil => cases h
  | cons entry rest ih =>
      rw [answers] at h
      rcases List.mem_cons.mp h with rfl | hrest
      · rw [dispatch_eq (hlimit entry List.mem_cons_self)]
        dsimp only
        split
        · exact .inr ⟨_, rfl⟩
        · exact .inl rfl
      · exact ih (fun later hlater => hlimit later (List.mem_cons_of_mem _ hlater)) hrest

/-- Sparse requests are all passed on. -/
theorem all_passed (hcounts : Counts limit redis earlier)
    (hlimit : ∀ entry ∈ requests, limitOf settings texts entry.2 = some limit)
    (hsorted : (earlier.reverse ++ requests.map Prod.fst).Pairwise (· ≤ ·))
    (hpositive : ∀ time ∈ earlier.reverse ++ requests.map Prod.fst, 0 ≤ time)
    (hsparse : Sparse limit (earlier.reverse ++ requests.map Prod.fst)) :
    ∀ answered ∈ answers settings texts requests redis, answered.2.isPassed = true := by
  induction requests generalizing redis earlier with
  | nil => exact fun _ h => by cases h
  | cons entry rest ih =>
      have hentry := hlimit entry List.mem_cons_self
      have hbefore : ∀ time ∈ earlier, 0 ≤ time ∧ time ≤ entry.1 := by
        intro time htime
        have hmem := List.mem_reverse.mpr htime
        exact ⟨hpositive time (List.mem_append_left _ hmem),
          (List.pairwise_append.mp hsorted).2.2 time hmem entry.1 List.mem_cons_self⟩
      have hshift : earlier.reverse ++ (entry :: rest).map Prod.fst =
          (entry.1 :: earlier).reverse ++ rest.map Prod.fst := by
        rw [List.reverse_cons, List.append_assoc, List.map_cons, List.singleton_append]
      have hfits : ¬ ((counted texts limit redis entry.1).length : Int) > limit.maxRequests := by
        have hle := length_counted_le hcounts texts hbefore
        have hmax := hsparse.2 (by simp)
        have hwindow := hsparse.1 entry.1
        rw [List.countP_append, List.countP_reverse, List.map_cons, List.countP_cons] at hwindow
        rcases lt_or_ge 0 limit.window with hopen | hempty
        · -- the request itself falls into the window that ends with it
          have hself : inWindow limit.window entry.1 entry.1 = true := by
            have hrat : (0 : Rat) < limit.window := by exact_mod_cast hopen
            simp [inWindow, hrat]
          rw [if_pos hself] at hwindow
          omega
        · -- no time falls into a window of no length
          have hnone : (earlier.countP fun time => inWindow limit.window entry.1 time) = 0 := by
            rw [List.countP_eq_zero]
            intro time htime hin
            have hrat : (limit.window : Rat) ≤ 0 := by exact_mod_cast hempty
            simp only [inWindow, Bool.and_eq_true, decide_eq_true_eq] at hin
            linarith [hin.1, hin.2]
          omega
      intro answered hanswered
      rw [answers] at hanswered
      rcases List.mem_cons.mp hanswered with rfl | hrest
      · rw [dispatch_eq hentry]
        dsimp only
        rw [if_neg hfits]
        rfl
      · rw [hshift] at hsorted hpositive hsparse
        exact ih (counts_dispatch hcounts hentry entry.1)
          (fun later hlater => hlimit later (List.mem_cons_of_mem _ hlater)) hsorted hpositive hsparse
          answered hrest

theorem countP_passed (hpassed : ∀ answered ∈ answers settings texts requests redis,
    answered.2.isPassed = true) (instant : Rat) :
    ((answers settings texts requests redis).filter fun entry => entry.2.isPassed).countP
        (fun entry => inWindow limit.window instant entry.1) =
      (requests.map Prod.fst).countP fun time => inWindow limit.window instant time := by
  rw [List.filter_eq_self.mpr hpassed, ← times_answers settings texts requests redis, List.countP_map]
  rfl

theorem maxRequests_pos (hlimit : ∀ entry ∈ requests, limitOf settings texts entry.2 = some limit)
    (hpassed : ∀ answered ∈ answers settings texts requests redis, answered.2.isPassed = true)
    (hsome : requests.map Prod.fst ≠ []) : 1 ≤ limit.maxRequests := by
  cases requests with
  | nil => exact absurd rfl hsome
  | cons entry rest =>
      have hfirst := hpassed _ (by rw [answers]; exact List.mem_cons_self)
      rw [dispatch_eq (hlimit entry List.mem_cons_self)] at hfirst
      have hcounted := length_counted_pos texts limit redis entry.1
      dsimp only at hfirst
      split at hfirst
      · cases hfirst
      · omega

/-- **The middleware keeps to its limit if and only if no window has more requests than it allows.** A
request beyond the limit is answered 503. -/
theorem limits_iff (settings : Settings) (texts : Texts) (limit : Limit) (redis : Redis)
    (requests : List (Rat × Request)) (hredis : redis limit.key = none)
    (hlimit : ∀ entry ∈ requests, limitOf settings texts entry.2 = some limit)
    (hsorted : (requests.map Prod.fst).Pairwise (· ≤ ·))
    (hpositive : ∀ time ∈ requests.map Prod.fst, 0 ≤ time) :
    Limits limit (answers settings texts requests redis) ↔ Sparse limit (requests.map Prod.fst) := by
  constructor
  · intro h
    have hpassed : ∀ answered ∈ answers settings texts requests redis, answered.2.isPassed = true := by
      intro answered hanswered
      refine (not_limited hlimit hanswered).resolve_right ?_
      rintro ⟨message, hmessage⟩
      exact h.available answered hanswered message hmessage
    refine ⟨fun instant => ?_, maxRequests_pos hlimit hpassed⟩
    rw [← countP_passed hpassed]
    exact h.passed_le instant
  · intro hsparse
    have hcounts : Counts limit redis [] := fun now => by
      rw [Expiring.get_of_none hredis]
      exact List.nil_subperm
    have hpassed := all_passed hcounts hlimit hsorted hpositive hsparse
    refine ⟨fun instant => ?_, ?_, ?_⟩
    · rw [countP_passed hpassed]
      exact hsparse.1 instant
    · intro entry hentry hnot
      rw [hpassed entry hentry] at hnot
      cases hnot
    · intro entry hentry message hmessage
      have h := hpassed entry hentry
      rw [hmessage] at h
      cases h

end Sequences

/-! ## A burst -/

/-- What Python makes of whole times. -/
def wholeTexts : Texts where
  str now := toString now.num ++ ".0"
  float _ := none
  sha256 _ := ""

/-- Requests for a tenant from one host, at these times. -/
def tenantRequests (times : List Rat) : List (Rat × Request) :=
  times.map fun time => (time, ⟨"/api/v1/tenants", none, some "10.0.0.1"⟩)

/-- The limit of these requests. -/
def tenantLimit : Limit := ⟨"sensitive:ip:10.0.0.1", 60, 30⟩

theorem limitOf_tenantRequests (times : List Rat) :
    ∀ entry ∈ tenantRequests times, limitOf {} wholeTexts entry.2 = some tenantLimit := by
  intro entry hentry
  obtain ⟨time, -, rfl⟩ := List.mem_map.mp hentry
  show limitOf {} wholeTexts ⟨"/api/v1/tenants", none, some "10.0.0.1"⟩ = some tenantLimit
  decide +kernel

/-- Two requests in a minute are passed on. -/
theorem two_requests_passed :
    Limits tenantLimit (answers {} wholeTexts (tenantRequests [100, 130]) .empty) := by
  refine (limits_iff {} wholeTexts tenantLimit .empty (tenantRequests [100, 130]) rfl
    (limitOf_tenantRequests _) ?_ ?_).mpr ?_
  · decide +kernel
  · decide +kernel
  · refine ⟨fun instant => ?_, fun _ => by decide⟩
    have hle := List.countP_le_length (p := fun time => inWindow tenantLimit.window instant time)
      (l := (tenantRequests [100, 130]).map Prod.fst)
    have htwo : ((tenantRequests [100, 130]).map Prod.fst).length = 2 := rfl
    show ((_ : Nat) : Int) ≤ 30
    omega

/-- Of 31 requests in a minute the last one is answered 503; if they come in at one reading of the clock,
all of them are passed on. -/
theorem burst_not_limited :
    ¬ Limits tenantLimit (answers {} wholeTexts
        (tenantRequests ((List.range 31).map fun second => (second : Rat) + 100)) .empty) ∧
      ¬ Limits tenantLimit (answers {} wholeTexts (tenantRequests (List.replicate 31 100)) .empty) := by
  constructor
  · intro h
    have hlast : ((answers {} wholeTexts (tenantRequests ((List.range 31).map fun second =>
        (second : Rat) + 100)) .empty)[30]?.map fun entry => entry.2.isPassed) = some false := by
      decide +kernel
    obtain ⟨entry, hentry, hnot⟩ := Option.map_eq_some_iff.mp hlast
    have hmem := List.mem_of_getElem? hentry
    rcases not_limited (limitOf_tenantRequests _) hmem with hpassed | ⟨message, hmessage⟩
    · rw [hnot] at hpassed
      cases hpassed
    · exact h.available entry hmem message hmessage
  · intro h
    have hall : ((answers {} wholeTexts (tenantRequests (List.replicate 31 100)) .empty).filter
        fun entry => entry.2.isPassed).countP (fun entry => inWindow tenantLimit.window 100 entry.1) =
        31 := by
      decide +kernel
    have hle := h.passed_le 100
    rw [hall] at hle
    exact absurd hle (by decide)

end RequestLimits

end IntegrationPlatform
