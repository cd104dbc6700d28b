import Mathlib.Algebra.Order.Field.Basic
import Mathlib.Tactic.Linarith
import Mathlib.Tactic.Ring

/-!
# Token buckets

A bucket of some capacity into which tokens flow at a constant rate, over an ordered field. A call
at some instant is admitted if the bucket holds a token, which it takes. `countP_log_le` bounds how
many calls are admitted in any interval, when the instants of the calls do not decrease.
-/

namespace IntegrationPlatform

variable {K : Type} [Field K] [LinearOrder K]

/-- The capacity of a bucket, and how many tokens flow into it in a unit of time. -/
structure TokenBucket (K : Type) [Zero K] [LE K] where
  capacity : K
  rate : K
  capacity_nonneg : 0 ≤ capacity
  rate_nonneg : 0 ≤ rate

namespace TokenBucket

/-- How many tokens a bucket held at some instant. -/
structure Level (K : Type) where
  tokens : K
  instant : K

variable (bucket : TokenBucket K) (level : Level K) (now : K)

/-- The tokens in the bucket at a later instant. -/
def refilled : K :=
  min bucket.capacity (level.tokens + (now - level.instant) * bucket.rate)

/-- Whether a call is admitted. -/
def admits : Bool :=
  decide (1 ≤ bucket.refilled level now)

/-- The level after a call. -/
def after : Level K where
  tokens := if 1 ≤ bucket.refilled level now then bucket.refilled level now - 1
    else bucket.refilled level now
  instant := now

/-- The calls at these instants, each with whether it is admitted. -/
def log (level : Level K) : List K → List (K × Bool)
  | [] => []
  | now :: rest => (now, bucket.admits level now) :: log (bucket.after level now) rest

/-- The level after calls at these instants. -/
def final (instants : List K) : Level K :=
  instants.foldl bucket.after level

/-- The calls in an interval that are admitted. -/
def admittedWithin (first last : K) (call : K × Bool) : Bool :=
  call.2 && decide (first ≤ call.1 ∧ call.1 ≤ last)

/-- The level is one that the bucket can have. -/
structure Level.Fits (bucket : TokenBucket K) (level : Level K) : Prop where
  nonneg : 0 ≤ level.tokens
  le : level.tokens ≤ bucket.capacity

variable {bucket level now} {instants : List K}

@[simp] theorem map_fst_log : (bucket.log level instants).map Prod.fst = instants := by
  induction instants generalizing level with
  | nil => rfl
  | cons now rest ih => rw [log, List.map_cons, ih]

theorem log_append (now : K) : bucket.log level (instants ++ [now]) =
    bucket.log level instants ++ [(now, bucket.admits (bucket.final level instants) now)] := by
  induction instants generalizing level with
  | nil => rfl
  | cons first rest ih =>
      show (first, _) :: bucket.log _ (rest ++ [now]) = _
      rw [ih]
      rfl

@[simp] theorem final_append (now : K) : bucket.final level (instants ++ [now]) =
    bucket.after (bucket.final level instants) now := by
  rw [final, List.foldl_append]
  rfl

theorem refilled_le : bucket.refilled level now ≤ bucket.capacity :=
  min_le_left _ _

theorem tokens_after_of_admits (h : bucket.admits level now = true) :
    (bucket.after level now).tokens = bucket.refilled level now - 1 :=
  if_pos (of_decide_eq_true h)

theorem countP_log_eq_zero {first last : K} (hlate : ∀ now ∈ instants, last < now) :
    (bucket.log level instants).countP (admittedWithin first last) = 0 := by
  rw [List.countP_eq_zero]
  intro call hcall hwithin
  have hmem : call.1 ∈ instants := by
    have hmap : call.1 ∈ (bucket.log level instants).map Prod.fst := List.mem_map_of_mem hcall
    rwa [map_fst_log] at hmap
  have hlast := hlate call.1 hmem
  simp only [admittedWithin, Bool.and_eq_true, decide_eq_true_eq] at hwithin
  exact absurd hwithin.2.2 (not_le.mpr hlast)

theorem countP_log_cons_eq_zero (bucket : TokenBucket K) (level : Level K) (first : K) {last : K} {rest : List K}
    (hlast : last < now) (hrest : ∀ later ∈ rest, now ≤ later) :
    (bucket.log level (now :: rest)).countP (admittedWithin first last) = 0 := by
  refine countP_log_eq_zero fun later hlater => ?_
  rcases List.mem_cons.mp hlater with rfl | hlater
  · exact hlast
  · exact hlast.trans_le (hrest later hlater)

variable [IsStrictOrderedRing K]

theorem refilled_nonneg (h : level.Fits bucket) (hlate : level.instant ≤ now) :
    0 ≤ bucket.refilled level now := by
  have hinflow : 0 ≤ (now - level.instant) * bucket.rate :=
    mul_nonneg (sub_nonneg.mpr hlate) bucket.rate_nonneg
  exact le_min bucket.capacity_nonneg (add_nonneg h.nonneg hinflow)

theorem Level.Fits.after (h : level.Fits bucket) (hlate : level.instant ≤ now) :
    (bucket.after level now).Fits bucket := by
  have hnonneg := refilled_nonneg h hlate
  have hle : bucket.refilled level now ≤ bucket.capacity := refilled_le
  unfold TokenBucket.after
  split
  · exact ⟨by simpa, by simp; linarith⟩
  · exact ⟨hnonneg, hle⟩

theorem refilled_eq_capacity (h : level.Fits bucket)
    (hlong : bucket.capacity ≤ (now - level.instant) * bucket.rate) :
    bucket.refilled level now = bucket.capacity := by
  refine min_eq_left ?_
  linarith [h.nonneg]

theorem tokens_after_le : (bucket.after level now).tokens ≤ bucket.refilled level now := by
  unfold after
  split
  · simp
  · exact le_rfl

/-- Whether or not a call is admitted, it is accounted for by the level after it. -/
theorem admitted_add_tokens (bucket : TokenBucket K) (level : Level K) (now : K) :
    (if bucket.admits level now = true then 1 else 0) + (bucket.after level now).tokens ≤
      bucket.refilled level now := by
  by_cases hadmits : bucket.admits level now = true
  · rw [if_pos hadmits, tokens_after_of_admits hadmits]
    linarith
  · rw [if_neg hadmits, zero_add]
    exact tokens_after_le

/-- From a level at some instant of the interval, the calls that are admitted up to its end are
paid for by the tokens there are and those that flow in. -/
theorem countP_log_le_level (first last : K) (h : level.Fits bucket)
    (hlevel : level.instant ≤ last) (hsorted : instants.Pairwise (· ≤ ·))
    (hlate : ∀ now ∈ instants, level.instant ≤ now) :
    ((bucket.log level instants).countP (admittedWithin first last) : K) ≤
      level.tokens + (last - level.instant) * bucket.rate := by
  induction instants generalizing level with
  | nil =>
      have hinflow : 0 ≤ (last - level.instant) * bucket.rate :=
        mul_nonneg (sub_nonneg.mpr hlevel) bucket.rate_nonneg
      simpa [log] using add_nonneg h.nonneg hinflow
  | cons now rest ih =>
      obtain ⟨hfirst, hrest⟩ := List.pairwise_cons.mp hsorted
      have hnow : level.instant ≤ now := hlate now List.mem_cons_self
      by_cases hlast : now ≤ last
      · -- The call is paid for by what has flowed in before it, the others by the rest.
        have hbelow := ih (h.after hnow) hlast hrest hfirst
        have hpaid := admitted_add_tokens bucket level now
        have hrefilled : bucket.refilled level now ≤
            level.tokens + (now - level.instant) * bucket.rate := min_le_right _ _
        have hcount : (((bucket.log level (now :: rest)).countP (admittedWithin first last) : Nat) : K) ≤
            (bucket.log (bucket.after level now) rest).countP (admittedWithin first last) +
              (if bucket.admits level now = true then 1 else 0) := by
          rw [log, List.countP_cons, Nat.cast_add, admittedWithin]
          gcongr
          by_cases hadmits : bucket.admits level now = true
          · rw [if_pos hadmits]
            split <;> simp
          · simp [hadmits]
        have hinstant : (bucket.after level now).instant = now := rfl
        rw [hinstant] at hbelow
        have hinflow : (last - level.instant) * bucket.rate =
            (now - level.instant) * bucket.rate + (last - now) * bucket.rate := by ring
        linarith
      · have hnone := bucket.countP_log_cons_eq_zero level first (not_le.mp hlast) hfirst
        have hinflow : 0 ≤ (last - level.instant) * bucket.rate :=
          mul_nonneg (sub_nonneg.mpr hlevel) bucket.rate_nonneg
        rw [hnone, Nat.cast_zero]
        exact add_nonneg h.nonneg hinflow

/-- In any interval no more calls are admitted than the bucket holds when it is full and what
flows in during the interval. -/
theorem countP_log_le {first last : K} (h : level.Fits bucket) (hinterval : first ≤ last)
    (hsorted : instants.Pairwise (· ≤ ·)) (hlate : ∀ now ∈ instants, level.instant ≤ now) :
    ((bucket.log level instants).countP (admittedWithin first last) : K) ≤
      bucket.capacity + (last - first) * bucket.rate := by
  have hnonneg : 0 ≤ bucket.capacity + (last - first) * bucket.rate :=
    add_nonneg bucket.capacity_nonneg (mul_nonneg (sub_nonneg.mpr hinterval) bucket.rate_nonneg)
  induction instants generalizing level with
  | nil => simpa [log] using hnonneg
  | cons now rest ih =>
      obtain ⟨hfirst, hrest⟩ := List.pairwise_cons.mp hsorted
      have hnow : level.instant ≤ now := hlate now List.mem_cons_self
      -- The interval begins after this call, with it or before it.
      by_cases hearly : now < first
      · have hbelow := ih (h.after hnow) hrest hfirst
        have hout : admittedWithin first last (now, bucket.admits level now) = false := by
          simp [admittedWithin, not_le.mpr hearly]
        rw [log, List.countP_cons, hout]
        simpa using hbelow
      · have hwithin : first ≤ now := not_lt.mp hearly
        by_cases hlast : now ≤ last
        · -- The level just before the call is that of a full bucket at most.
          have hbelow := countP_log_le_level first last (h.after hnow) hlast hrest hfirst
          have hpaid := admitted_add_tokens bucket level now
          have hle : bucket.refilled level now ≤ bucket.capacity := refilled_le
          have hinstant : (bucket.after level now).instant = now := rfl
          rw [hinstant] at hbelow
          have hcount : admittedWithin first last (now, bucket.admits level now) =
              bucket.admits level now := by
            simp [admittedWithin, hwithin, hlast]
          have hinflow : (last - now) * bucket.rate ≤ (last - first) * bucket.rate := by
            gcongr
            exact bucket.rate_nonneg
          rw [log, List.countP_cons, hcount, Nat.cast_add, Nat.cast_ite, Nat.cast_one, Nat.cast_zero]
          linarith
        · have hnone := bucket.countP_log_cons_eq_zero level first (not_le.mp hlast) hfirst
          rw [hnone, Nat.cast_zero]
          exact hnonneg

end TokenBucket

end IntegrationPlatform
