import IntegrationPlatform.Rates.Limiter

/-!
# Checks of a bucket at the same time

The checks of one bucket by several workers, command by command: each reads the clock, reads both
keys with one `MGET`, and writes them with two `SET`s. Checks that overlap may read the same tokens.
`allowed_bounded` bounds the allowed calls of the runs in which no check begins while another one is
under way.
-/

namespace IntegrationPlatform

namespace RateLimiter

/-- Where a check is, with the clock that it has read. -/
inductive Phase where
  | waiting
  /-- The clock has been read. -/
  | clocked (now : Rat)
  /-- The bucket has been read. -/
  | decided (now : Rat) (decision : Decision)
  /-- The tokens have been written. -/
  | writing (now : Rat) (decision : Decision)
  | answered

/-- The check is not under way. -/
def Phase.idle : Phase → Bool
  | .waiting => true
  | .answered => true
  | _ => false

/-- The clock of Redis and of the workers, the keys, the checks, and the answers so far, each with
the clock that its check has read. -/
structure Traffic where
  instant : Rat
  redis : Redis
  checks : List Phase
  answers : List (Rat × Bool)

namespace Traffic

/-- The check with this number goes on with this phase. -/
def goto (traffic : Traffic) (id : Nat) (phase : Phase) : Traffic :=
  { traffic with checks := traffic.checks.set id phase }

variable (config : RateLimitConfig) (bucketKey : String)

/-- The next command of a check. -/
def advance (traffic : Traffic) (id : Nat) : Option Traffic :=
  match traffic.checks[id]? with
  | some .waiting => some (traffic.goto id (.clocked traffic.instant))
  | some (.clocked now) =>
      some (traffic.goto id
        (.decided now (decisionAt config bucketKey now traffic.instant traffic.redis)))
  | some (.decided now decision) =>
      some { traffic.goto id (.writing now decision) with
        redis := traffic.redis.set (tokensKey bucketKey) decision.tokens
          (traffic.instant + config.timeToLive) }
  | some (.writing now decision) =>
      some { traffic.goto id .answered with
        redis := traffic.redis.set (lastKey bucketKey) now (traffic.instant + config.timeToLive)
        answers := traffic.answers ++ [(now, decision.allowed)] }
  | _ => none

/-- Some checks of a bucket whose keys are not set. -/
def initial (instant : Rat) (redis : Redis) (number : Nat) : Traffic where
  instant
  redis
  checks := List.replicate number .waiting
  answers := []

/-- A run: time passes, and checks take their commands, each of which meets a condition on the
state before it and the check. -/
inductive Run (meets : Traffic → Nat → Bool) (first : Traffic) : Traffic → Prop where
  | start : Run meets first first
  | tick {traffic} (later : Rat) : Run meets first traffic → traffic.instant ≤ later →
      Run meets first { traffic with instant := later }
  | command {traffic traffic'} (id : Nat) : Run meets first traffic → meets traffic id = true →
      traffic.advance config bucketKey id = some traffic' → Run meets first traffic'

/-- The commands of these checks, one after the other at one instant, as long as they meet a
condition. -/
def commands (meets : Traffic → Nat → Bool) (traffic : Traffic) : List Nat → Option Traffic
  | [] => some traffic
  | id :: rest =>
      if meets traffic id then
        (traffic.advance config bucketKey id).bind fun traffic' => commands meets traffic' rest
      else none

/-- A check does not begin while another one is under way, and reads the bucket within a window
after the clock. -/
def undisturbed (traffic : Traffic) (id : Nat) : Bool :=
  match traffic.checks[id]? with
  | some .waiting => traffic.checks.all Phase.idle
  | some (.clocked now) => decide (traffic.instant ≤ now + config.windowSeconds)
  | _ => true

/-- In any interval, no more calls are allowed than the bucket holds and what is refilled
meanwhile. -/
def Bounded (traffic : Traffic) : Prop :=
  ∀ first last, first ≤ last →
    (traffic.answers.countP (TokenBucket.admittedWithin first last) : Rat) ≤
      config.requests + config.requests * (last - first) / config.windowSeconds

/-! ## Checks that do not overlap -/

variable {config bucketKey} {traffic : Traffic}

/-- The level of the ideal bucket after the answers so far. -/
def level (config : RateLimitConfig) (start : Rat) (traffic : Traffic) : TokenBucket.Level Rat :=
  config.bucket.final (config.full start) (traffic.answers.map Prod.fst)

/-- The check under way is where the ideal bucket would be. -/
def Agrees (config : RateLimitConfig) (bucketKey : String) (start : Rat) (traffic : Traffic) :
    Phase → Prop
  | .clocked now => (level config start traffic).instant ≤ now ∧ now ≤ traffic.instant ∧
      Stands config bucketKey traffic.redis (level config start traffic)
  | .decided now decision => (level config start traffic).instant ≤ now ∧ now ≤ traffic.instant ∧
      decision.allowed = config.bucket.admits (level config start traffic) now ∧
      decision.tokens = (config.bucket.after (level config start traffic) now).tokens
  | .writing now decision => (level config start traffic).instant ≤ now ∧ now ≤ traffic.instant ∧
      decision.allowed = config.bucket.admits (level config start traffic) now ∧
      ∃ expiry, traffic.redis (tokensKey bucketKey) =
          some ((config.bucket.after (level config start traffic) now).tokens, expiry) ∧
        now + config.timeToLive ≤ expiry ∧ expiry ≤ traffic.instant + config.timeToLive
  | _ => False

/-- Only this check may be under way. -/
def OthersIdle (traffic : Traffic) (id : Nat) : Prop :=
  ∀ (other : Nat) (phase : Phase), other ≠ id → traffic.checks[other]? = some phase →
    phase.idle = true

/-- The answers are those of the ideal bucket so far, and at most one check is under way, which is
where the ideal bucket would be. -/
structure Faithful (config : RateLimitConfig) (bucketKey : String) (start : Rat) (traffic : Traffic) :
    Prop where
  answers : traffic.answers =
    config.bucket.log (config.full start) (traffic.answers.map Prod.fst)
  sorted : (traffic.answers.map Prod.fst).Pairwise (· ≤ ·)
  late : ∀ now ∈ traffic.answers.map Prod.fst, start ≤ now
  past : ∀ now ∈ traffic.answers.map Prod.fst, now ≤ (level config start traffic).instant
  fits : (level config start traffic).Fits config.bucket
  began : start ≤ (level config start traffic).instant
  passed : (level config start traffic).instant ≤ traffic.instant
  checks : ((∀ phase ∈ traffic.checks, phase.idle = true) ∧
      Stands config bucketKey traffic.redis (level config start traffic)) ∨
    ∃ id phase, traffic.checks[id]? = some phase ∧ Agrees config bucketKey start traffic phase ∧
      traffic.OthersIdle id

variable {start : Rat} {phase : Phase}

theorem Agrees.not_idle (h : Agrees config bucketKey start traffic phase) :
    phase.idle = false := by
  cases phase with
  | waiting => exact h.elim
  | answered => exact h.elim
  | clocked now => rfl
  | decided now decision => rfl
  | writing now decision => rfl

variable {id : Nat}

theorem Faithful.agrees (h : Faithful config bucketKey start traffic)
    (hphase : traffic.checks[id]? = some phase) (hbusy : phase.idle = false) :
    Agrees config bucketKey start traffic phase ∧ traffic.OthersIdle id := by
  rcases h.checks with ⟨hidle, -⟩ | ⟨id', phase', hphase', hagrees, hothers⟩
  · rw [hidle phase (List.mem_of_getElem? hphase)] at hbusy
    cases hbusy
  · by_cases hid : id = id'
    · subst hid
      obtain rfl := Option.some.inj (hphase.symm.trans hphase')
      exact ⟨hagrees, hothers⟩
    · rw [hothers id phase hid hphase] at hbusy
      cases hbusy

theorem checks_goto (phase' : Phase) (hphase : traffic.checks[id]? = some phase)
    (hothers : traffic.OthersIdle id) :
    (traffic.goto id phase').checks[id]? = some phase' ∧ (traffic.goto id phase').OthersIdle id := by
  have hlength : id < traffic.checks.length := (List.getElem?_eq_some_iff.mp hphase).1
  refine ⟨List.getElem?_set_self hlength, fun other phase'' hne hother => ?_⟩
  rw [goto, List.getElem?_set_ne hne.symm] at hother
  exact hothers other phase'' hne hother

theorem Faithful.tick (h : Faithful config bucketKey start traffic) {later : Rat}
    (hlater : traffic.instant ≤ later) :
    Faithful config bucketKey start { traffic with instant := later } where
  answers := h.answers
  sorted := h.sorted
  late := h.late
  past := h.past
  fits := h.fits
  began := h.began
  passed := h.passed.trans hlater
  checks := by
    refine h.checks.imp_right fun ⟨id, phase, hphase, hagrees, hothers⟩ => ⟨id, phase, hphase, ?_, hothers⟩
    cases phase with
    | waiting => exact hagrees
    | answered => exact hagrees
    | clocked now =>
        obtain ⟨hlevel, hnow, hstands⟩ := hagrees
        exact ⟨hlevel, hnow.trans hlater, hstands⟩
    | decided now decision =>
        obtain ⟨hlevel, hnow, hdecision⟩ := hagrees
        exact ⟨hlevel, hnow.trans hlater, hdecision⟩
    | writing now decision =>
        obtain ⟨hlevel, hnow, hallowed, expiry, hwritten, hlong, hexpiry⟩ := hagrees
        exact ⟨hlevel, hnow.trans hlater, hallowed, expiry, hwritten, hlong,
          hexpiry.trans (add_le_add_left hlater _)⟩

theorem level_answer (traffic' : Traffic) {now : Rat} {allowed : Bool}
    (hanswers : traffic'.answers = traffic.answers ++ [(now, allowed)]) :
    level config start traffic' = config.bucket.after (level config start traffic) now := by
  unfold level
  rw [hanswers, List.map_append]
  exact TokenBucket.final_append ..

theorem idle_answered (hphase : traffic.checks[id]? = some phase) (hothers : traffic.OthersIdle id) :
    ∀ phase ∈ (traffic.goto id .answered).checks, phase.idle = true := by
  intro phase hmem
  obtain ⟨other, hother⟩ := List.mem_iff_getElem?.mp hmem
  obtain ⟨hself, hidle⟩ := checks_goto .answered hphase hothers
  by_cases hid : other = id
  · subst hid
    obtain rfl := Option.some.inj (hself.symm.trans hother)
    rfl
  · exact hidle other phase hid hother

/-- A check that gives its answer gives that of the ideal bucket. -/
theorem Faithful.answer (h : Faithful config bucketKey start traffic) {now : Rat}
    {decision : Decision} (hphase : traffic.checks[id]? = some (.writing now decision)) :
    Faithful config bucketKey start
      { traffic.goto id .answered with
        redis := traffic.redis.set (lastKey bucketKey) now (traffic.instant + config.timeToLive)
        answers := traffic.answers ++ [(now, decision.allowed)] } := by
  obtain ⟨⟨hlevel, hnow, hallowed, expiry, hwritten, hlong, hexpiry⟩, hothers⟩ :=
    h.agrees hphase rfl
  have hmap : (traffic.answers ++ [(now, decision.allowed)]).map Prod.fst =
      traffic.answers.map Prod.fst ++ [now] := by
    rw [List.map_append]
    rfl
  have hpast : ∀ earlier ∈ traffic.answers.map Prod.fst, earlier ≤ now :=
    fun earlier hearlier => (h.past earlier hearlier).trans hlevel
  refine ⟨?_, ?_, ?_, ?_, ?_, ?_, ?_, .inl ⟨idle_answered hphase hothers, ?_⟩⟩
  · show traffic.answers ++ [(now, decision.allowed)] = _
    rw [hmap, TokenBucket.log_append, ← h.answers, hallowed]
    rfl
  · rw [hmap]
    refine List.pairwise_append.mpr ⟨h.sorted, List.pairwise_singleton _ _,
      fun earlier hearlier later hlater => ?_⟩
    rw [List.mem_singleton.mp hlater]
    exact hpast earlier hearlier
  · intro answered hanswered
    rw [hmap, List.mem_append, List.mem_singleton] at hanswered
    rcases hanswered with hanswered | rfl
    · exact h.late answered hanswered
    · exact h.began.trans hlevel
  · intro answered hanswered
    rw [level_answer _ rfl]
    rw [hmap, List.mem_append, List.mem_singleton] at hanswered
    rcases hanswered with hanswered | rfl
    · exact hpast answered hanswered
    · exact le_rfl
  · rw [level_answer _ rfl]
    exact h.fits.after hlevel
  · rw [level_answer _ rfl]
    exact h.began.trans hlevel
  · rw [level_answer _ rfl]
    exact hnow
  · rw [level_answer _ rfl]
    refine .inr ⟨expiry, traffic.instant + config.timeToLive, ?_, ?_, hlong, hexpiry⟩
    · exact (Expiring.set_of_ne lastKey_ne_tokensKey.symm).trans hwritten
    · exact Expiring.set_self

/-- A command of a check keeps to the ideal bucket, if it is undisturbed. -/
theorem Faithful.command (hpositive : config.Positive) (h : Faithful config bucketKey start traffic)
    {traffic' : Traffic} (hmeets : traffic.undisturbed config id = true)
    (hcommand : traffic.advance config bucketKey id = some traffic') :
    Faithful config bucketKey start traffic' := by
  unfold advance at hcommand
  unfold undisturbed at hmeets
  split at hcommand
  · next hphase =>
    -- No other check is under way, so that the keys stand for the level.
    obtain rfl := Option.some.inj hcommand
    rw [hphase] at hmeets
    have hstands : Stands config bucketKey traffic.redis (level config start traffic) := by
      rcases h.checks with ⟨-, hstands⟩ | ⟨other, phase, hother, hagrees, -⟩
      · exact hstands
      · have hidle := List.all_eq_true.mp hmeets phase (List.mem_of_getElem? hother)
        rw [hagrees.not_idle] at hidle
        cases hidle
    have hothers : traffic.OthersIdle id :=
      fun other phase _ hother => List.all_eq_true.mp hmeets phase (List.mem_of_getElem? hother)
    obtain ⟨hself, hidle⟩ := checks_goto (.clocked traffic.instant) hphase hothers
    exact ⟨h.answers, h.sorted, h.late, h.past, h.fits, h.began, h.passed,
      .inr ⟨id, _, hself, ⟨h.passed, le_rfl, hstands⟩, hidle⟩⟩
  · next now hphase =>
    obtain rfl := Option.some.inj hcommand
    rw [hphase] at hmeets
    obtain ⟨⟨hlevel, hnow, hstands⟩, hothers⟩ := h.agrees hphase rfl
    have hdecision := decisionAt_eq hpositive hstands h.fits hlevel (of_decide_eq_true hmeets)
    obtain ⟨hself, hidle⟩ := checks_goto _ hphase hothers
    exact ⟨h.answers, h.sorted, h.late, h.past, h.fits, h.began, h.passed,
      .inr ⟨id, _, hself, ⟨hlevel, hnow, hdecision⟩, hidle⟩⟩
  · next now decision hphase =>
    obtain rfl := Option.some.inj hcommand
    obtain ⟨⟨hlevel, hnow, hallowed, htokens⟩, hothers⟩ := h.agrees hphase rfl
    obtain ⟨hself, hidle⟩ := checks_goto _ hphase hothers
    refine ⟨h.answers, h.sorted, h.late, h.past, h.fits, h.began, h.passed,
      .inr ⟨id, _, hself, ⟨hlevel, hnow, hallowed, traffic.instant + config.timeToLive, ?_, ?_, le_rfl⟩,
        hidle⟩⟩
    · exact htokens ▸ Expiring.set_self
    · exact add_le_add_left hnow _
  · next now decision hphase =>
    obtain rfl := Option.some.inj hcommand
    exact h.answer hphase
  · cases hcommand

theorem faithful_initial {redis : Redis} (htokens : redis (tokensKey bucketKey) = none)
    (hlast : redis (lastKey bucketKey) = none) (number : Nat) :
    Faithful config bucketKey start (initial start redis number) where
  answers := rfl
  sorted := List.Pairwise.nil
  late _ hmem := nomatch hmem
  past _ hmem := nomatch hmem
  fits := full_fits
  began := le_rfl
  passed := le_rfl
  checks := .inl ⟨fun phase hmem => by rw [List.eq_of_mem_replicate hmem]; rfl,
    .inl ⟨htokens, hlast, rfl⟩⟩

theorem Run.faithful (hpositive : config.Positive) {redis : Redis}
    (htokens : redis (tokensKey bucketKey) = none) (hlast : redis (lastKey bucketKey) = none)
    {number : Nat}
    (h : Run config bucketKey (undisturbed config) (initial start redis number) traffic) :
    Faithful config bucketKey start traffic := by
  induction h with
  | start => exact faithful_initial htokens hlast number
  | tick later _ hlater ih => exact ih.tick hlater
  | command id _ hmeets hcommand ih => exact ih.command hpositive hmeets hcommand

/-- Whenever no check begins while another one is under way, and each reads the bucket within a
window after the clock, the allowed calls of any interval are bounded. -/
theorem allowed_bounded (hpositive : config.Positive) {redis : Redis}
    (htokens : redis (tokensKey bucketKey) = none) (hlast : redis (lastKey bucketKey) = none)
    {number : Nat}
    (h : Run config bucketKey (undisturbed config) (initial start redis number) traffic) :
    traffic.Bounded config := by
  intro first last hinterval
  have hfaithful := h.faithful hpositive htokens hlast
  rw [hfaithful.answers]
  exact countP_log_le full_fits hfaithful.sorted hfaithful.late hinterval

theorem Run.commands {meets : Traffic → Nat → Bool} {first traffic' : Traffic} {ids : List Nat}
    (h : Run config bucketKey meets first traffic)
    (hcommands : traffic.commands config bucketKey meets ids = some traffic') :
    Run config bucketKey meets first traffic' := by
  induction ids generalizing traffic with
  | nil => exact Option.some.inj hcommands ▸ h
  | cons id rest ih =>
      unfold Traffic.commands at hcommands
      split at hcommands
      · next hmeets =>
        obtain ⟨mid, hmid, hrest⟩ := Option.bind_eq_some_iff.mp hcommands
        exact ih (h.command id hmeets hmid) hrest
      · cases hcommands

theorem commands_eq_check (limiter : Limiter) (call : Call) (henabled : limiter.enabled = true)
    (hphase : traffic.checks[id]? = some .waiting) :
    traffic.commands (limiter.getLimits call) call.bucketKey (fun _ _ => true) [id, id, id, id] =
      some { traffic.goto id .answered with
        redis := (limiter.check call traffic.instant traffic.redis).2
        answers := traffic.answers ++
          [(traffic.instant, (limiter.check call traffic.instant traffic.redis).1.allowed)] } := by
  have hlength : id < traffic.checks.length := (List.getElem?_eq_some_iff.mp hphase).1
  have hchecked : limiter.check call traffic.instant traffic.redis = (_, _) := if_pos henabled
  rw [hchecked]
  simp only [Traffic.commands, advance, goto, hphase, if_true, Option.bind_some, List.getElem?_set_self,
    hlength, List.set_set, Decision.result]

/-! ## Samples -/

namespace Sample

def single : RateLimitConfig := ⟨1, 1⟩

def pair : Traffic := initial 0 .empty 2

def serial : Option Traffic :=
  pair.commands single "rate_limit:courier" (undisturbed single) [0, 0, 0, 0, 1, 1, 1, 1]

def overlapping : Option Traffic :=
  pair.commands single "rate_limit:courier" (fun _ _ => true) [0, 1, 0, 1, 0, 0, 1, 1]

end Sample

/-- The second of two checks that do not overlap is denied. -/
theorem allowed_bounded_serial : ∃ traffic, Sample.serial = some traffic ∧
    traffic.answers = [(0, true), (0, false)] ∧ traffic.Bounded Sample.single := by
  have hanswers : Sample.serial.map answers = some [(0, true), (0, false)] := by decide +kernel
  obtain ⟨traffic, hserial, htraffic⟩ := Option.map_eq_some_iff.mp hanswers
  exact ⟨traffic, hserial, htraffic,
    allowed_bounded ⟨by decide, by decide⟩ rfl rfl (Run.start.commands hserial)⟩

/-- Two checks that read the bucket before one of them writes it are both allowed, although it holds
one token. -/
theorem overlap_unbounded : ∃ traffic,
    Run Sample.single "rate_limit:courier" (fun _ _ => true) Sample.pair traffic ∧
      ¬ traffic.Bounded Sample.single := by
  have hanswers : Sample.overlapping.map answers = some [(0, true), (0, true)] := by decide +kernel
  obtain ⟨traffic, hoverlapping, htraffic⟩ := Option.map_eq_some_iff.mp hanswers
  refine ⟨traffic, Run.start.commands hoverlapping, fun hbounded => ?_⟩
  have hcount := hbounded 0 0 le_rfl
  rw [htraffic] at hcount
  revert hcount
  decide +kernel

end Traffic

end RateLimiter

end IntegrationPlatform
