import IntegrationPlatform.Resumption.Step

/-!
# Contracts of cooperative tasks

A `Contract` says what a task may rely on and what it must respect at every suspension: an
invariant of the shared state, the queries it may ask, and the replies it may receive.
`Meets contract post step` says that `step` respects the contract at each suspension and
establishes `post` when it finishes, whatever the replies, whatever the scheduler picks, and
whatever the other tasks do to the state within the invariant.

Interference is built in, so the rules for pools (`meets_interleave`) need nothing but the
contracts of the single tasks. `Ends` is the strongest such postcondition: the results that a
task can have under interference.
-/

namespace IntegrationPlatform.Resumption

variable {Q : Type} {R : Q → Type} {S T α β ι : Type}

/-- What holds at every suspension of a task. -/
structure Contract (Q : Type) (R : Q → Type) (S : Type) where
  /-- What the shared state satisfies at every suspension. -/
  inv : S → Prop
  /-- The queries that may be asked. -/
  asks : Q → Prop
  /-- The replies that may come back. -/
  replies : (query : Q) → R query → Prop

/-- The contract that requires and promises nothing. -/
def Contract.any : Contract Q R S where
  inv _ := True
  asks _ := True
  replies _ _ := True

namespace Step

/-- `step` respects the contract at every suspension and finishes in `post`. -/
def Meets (c : Contract Q R S) (post : α → Prop) : Step Q R S α → Prop
  | .done state value => c.inv state ∧ post value
  | .ask state query resume => c.inv state ∧ c.asks query ∧
      ∀ reply, c.replies query reply → ∀ state', c.inv state' → (resume reply state').Meets c post
  | .choose state _ resume => c.inv state ∧
      ∀ pick state', c.inv state' → (resume pick state').Meets c post

variable {c : Contract Q R S} {post : α → Prop} {step : Step Q R S α}

theorem Meets.inv (h : step.Meets c post) : c.inv step.state := by
  cases step with
  | done state value => exact h.1
  | ask state query resume => exact h.1
  | choose state width resume => exact h.1

theorem Meets.mono {post' : α → Prop} (h : step.Meets c post)
    (hpost : ∀ value, post value → post' value) : step.Meets c post' := by
  induction step with
  | done state value => exact ⟨h.1, hpost _ h.2⟩
  | ask state query resume ih =>
      exact ⟨h.1, h.2.1, fun reply hreply state' hs => ih _ _ (h.2.2 reply hreply state' hs)⟩
  | choose state width resume ih =>
      exact ⟨h.1, fun pick state' hs => ih _ _ (h.2 pick state' hs)⟩

theorem Meets.weaken {inv : S → Prop} {asks asks' : Q → Prop}
    {replies replies' : (query : Q) → R query → Prop}
    (h : step.Meets ⟨inv, asks, replies⟩ post) (hasks : ∀ query, asks query → asks' query)
    (hreplies : ∀ query reply, replies' query reply → replies query reply) :
    step.Meets ⟨inv, asks', replies'⟩ post := by
  induction step with
  | done state value => exact h
  | ask state query resume ih =>
      exact ⟨h.1, hasks query h.2.1, fun reply hreply state' hs =>
        ih _ _ (h.2.2 reply (hreplies query reply hreply) state' hs)⟩
  | choose state width resume ih => exact ⟨h.1, fun pick state' hs => ih _ _ (h.2 pick state' hs)⟩

theorem Meets.and {post' : α → Prop} (h : step.Meets c post)
    (h' : step.Meets c post') : step.Meets c fun value => post value ∧ post' value := by
  induction step with
  | done state value => exact ⟨h.1, h.2, h'.2⟩
  | ask state query resume ih =>
      exact ⟨h.1, h.2.1, fun reply hreply state' hs =>
        ih _ _ (h.2.2 reply hreply state' hs) (h'.2.2 reply hreply state' hs)⟩
  | choose state width resume ih =>
      exact ⟨h.1, fun pick state' hs => ih _ _ (h.2 pick state' hs) (h'.2 pick state' hs)⟩

theorem Meets.bind {post' : β → Prop} {next : α → Task Q R S β} (h : step.Meets c post)
    (hnext : ∀ value state, post value → c.inv state → (next value state).Meets c post') :
    (step.bind next).Meets c post' := by
  induction step with
  | done state value => exact hnext _ _ h.2 h.1
  | ask state query resume ih =>
      exact ⟨h.1, h.2.1, fun reply hreply state' hs => ih _ _ (h.2.2 reply hreply state' hs)⟩
  | choose state width resume ih =>
      exact ⟨h.1, fun pick state' hs => ih _ _ (h.2 pick state' hs)⟩

variable {state : S}

theorem Meets.launch {task : Task Q R S α} (hs : c.inv state)
    (h : ∀ state, c.inv state → (task state).Meets c post) : (launch state task).Meets c post :=
  ⟨hs, fun _ state' hs' => h state' hs'⟩

theorem Meets.isolate {inv : T → Prop} {step : Step Q R T α}
    (h : step.Meets ⟨inv, c.asks, c.replies⟩ post) (hs : c.inv state) :
    (step.isolate state).Meets c post := by
  induction step generalizing state with
  | done inner value => exact ⟨hs, h.2⟩
  | ask inner query resume ih =>
      exact ⟨hs, h.2.1, fun reply hreply state' hs' =>
        ih reply inner (h.2.2 reply hreply inner h.1) hs'⟩
  | choose inner width resume ih =>
      exact ⟨hs, fun pick state' hs' => ih pick inner (h.2 pick inner h.1) hs'⟩

theorem Meets.run {value : α} (h : step.Meets c post)
    (hrun : Run c.replies step state value) : c.inv state ∧ post value := by
  induction hrun with
  | done state value => exact h
  | ask state query resume reply hreply _ ih => exact ih (h.2.2 reply hreply state h.1)
  | choose state width resume pick _ ih => exact ih (h.2 pick state h.1)

/-! ## Results -/

/-- Under interference within the contract, `step` can end with this result. -/
inductive Ends (c : Contract Q R S) : Step Q R S α → α → Prop where
  | done (state value) : Ends c (.done state value) value
  | ask {state query resume} (reply state') {value : α} : c.replies query reply → c.inv state' →
      Ends c (resume reply state') value → Ends c (.ask state query resume) value
  | choose {state width resume} (pick state') {value : α} : c.inv state' →
      Ends c (resume pick state') value → Ends c (.choose state width resume) value

theorem Meets.of_ends {value : α} (h : step.Meets c post) (hends : Ends c step value) : post value := by
  induction hends with
  | done state value => exact h.2
  | ask reply state' hreply hs _ ih => exact ih (h.2.2 reply hreply state' hs)
  | choose pick state' hs _ ih => exact ih (h.2 pick state' hs)

theorem Meets.ends (h : step.Meets c post) : step.Meets c (Ends c step) := by
  induction step with
  | done state value => exact ⟨h.1, .done state value⟩
  | ask state query resume ih =>
      exact ⟨h.1, h.2.1, fun reply hreply state' hs =>
        (ih _ _ (h.2.2 reply hreply state' hs)).mono fun _ => .ask reply state' hreply hs⟩
  | choose state width resume ih =>
      exact ⟨h.1, fun pick state' hs =>
        (ih _ _ (h.2 pick state' hs)).mono fun _ => .choose pick state' hs⟩

theorem meets_replies (replies : (query : Q) → R query → Prop) (step : Step Q R S α) :
    step.Meets ⟨fun _ => True, fun _ => True, replies⟩ fun _ => True := by
  induction step with
  | done state value => exact ⟨trivial, trivial⟩
  | ask state query resume ih =>
      exact ⟨trivial, trivial, fun reply _ state' _ => ih reply state'⟩
  | choose state width resume ih => exact ⟨trivial, fun pick state' _ => ih pick state'⟩

theorem Meets.ends_of_run {value : α} (h : step.Meets c post)
    (hrun : Run c.replies step state value) : Ends c step value :=
  (h.ends.run hrun).2

/-! ## Pools -/

theorem result?_eq_some {value : α} :
    step.result? = some (state, value) ↔ step = .done state value := by
  cases step <;> simp [result?]

theorem map_fst_set (pool : Pool Q R S ι α) (index : Nat) (h : index < pool.length)
    (rest : Step Q R S α) :
    (pool.set index (pool[index].1, rest)).map Prod.fst = pool.map Prod.fst := by
  rw [List.map_set]
  have hlength : index < (pool.map Prod.fst).length := by simpa using h
  have hkey : pool[index].1 = (pool.map Prod.fst)[index] := by simp
  simp only [hkey, List.set_getElem_self]

theorem map_fst_eraseIdx (pool : Pool Q R S ι α) (index : Nat) :
    (pool.eraseIdx index).map Prod.fst = (pool.map Prod.fst).eraseIdx index :=
  (List.eraseIdx_map _ _ _).symm

/-- `Invariant` relates the keys that are left to the results so far, and is kept whenever a task
that the scheduler may pick finishes. -/
def KeptByFinishing (width : Nat) (P : ι → α → Prop) (Invariant : List ι → List (ι × α) → Prop) :
    Prop :=
  ∀ keys finished index value (h : index < keys.length), index ≤ width → Invariant keys finished →
    P keys[index] value → Invariant (keys.eraseIdx index) (finished ++ [(keys[index], value)])

/-- A pool of tasks that meet a contract meets it under every schedule, and an invariant of the
keys that are left and the results so far holds in the end. -/
theorem meets_interleave_of (c : Contract Q R S) {width : Nat} {P : ι → α → Prop}
    {Invariant : List ι → List (ι × α) → Prop} (hkept : KeptByFinishing width P Invariant)
    (pool : Pool Q R S ι α) (state : S) (finished : List (ι × α)) (hs : c.inv state)
    (hpool : ∀ entry ∈ pool, entry.2.Meets c (P entry.1))
    (hinvariant : Invariant (pool.map Prod.fst) finished) :
    (interleave width state pool finished).Meets c (Invariant []) := by
  -- Induction on the tasks left: each resumption replaces one task by what it becomes.
  induction hsize : poolSteps pool using poolWellFounded.wf.induction
    generalizing pool state finished with
  | _ size ih =>
    subst hsize
    rw [interleave]
    split
    · next hempty =>
      have hnil : pool = [] := List.length_eq_zero_iff.mp hempty
      subst hnil
      exact ⟨hs, hinvariant⟩
    · next hne =>
      refine ⟨hs, fun index state' hs' => ?_⟩
      have hindex : index.val < pool.length := by omega
      have hmem : pool[index.val] ∈ pool := List.getElem_mem hindex
      have hkeep := hpool _ hmem
      have hrest : ∀ entry ∈ pool.eraseIdx index.val, entry.2.Meets c (P entry.1) :=
        fun entry he => hpool entry (List.mem_of_mem_eraseIdx he)
      -- A task that has finished leaves the pool, and any other one stays where it was.
      have hfinish : ∀ (final : S) (value : α), c.inv final → P pool[index.val].1 value →
          (interleave width final (pool.eraseIdx index.val)
            (finished ++ [(pool[index.val].1, value)])).Meets c (Invariant []) := by
        intro final value hfinal hvalue
        have hkeys : index.val < (pool.map Prod.fst).length := by simpa using hindex
        have hleft := hkept (pool.map Prod.fst) finished index.val value hkeys (by omega) hinvariant
          (by simpa using hvalue)
        refine ih _ (poolSteps_eraseIdx_lt pool index.val hindex) _ final _ hfinal hrest ?_ rfl
        rw [map_fst_eraseIdx]
        simpa using hleft
      have hsettle : ∀ rest : Step Q R S α, Sub rest pool[index.val].2 →
          rest.Meets c (P pool[index.val].1) → ∀ settled : Step Q R S (List (ι × α)),
          (∀ final value, rest.result? = some (final, value) →
            settled = interleave width final (pool.eraseIdx index.val)
              (finished ++ [(pool[index.val].1, value)])) →
          (rest.result? = none →
            settled = interleave width rest.state
              (pool.set index.val (pool[index.val].1, rest)) finished) →
          settled.Meets c (Invariant []) := by
        intro rest hsub hmeets settled hdone hleft
        cases hresult : rest.result? with
        | some result =>
            rw [hdone result.1 result.2 hresult]
            obtain rfl := result?_eq_some.mp hresult
            exact hfinish result.1 result.2 hmeets.1 hmeets.2
        | none =>
            rw [hleft hresult]
            have hall : ∀ entry ∈ pool.set index.val (pool[index.val].1, rest),
                entry.2.Meets c (P entry.1) := by
              intro entry he
              rcases List.mem_or_eq_of_mem_set he with he | rfl
              · exact hpool entry he
              · exact hmeets
            refine ih _ (poolSteps_set_lt pool index.val hindex _ rest hsub) _ rest.state _
              hmeets.inv hall ?_ rfl
            rwa [map_fst_set pool index.val hindex]
      dsimp only
      split
      · next stale value hpick =>
        rw [hpick] at hkeep
        exact hfinish state' value hs' hkeep.2
      · next stale query resume hpick =>
        rw [hpick] at hkeep
        exact ⟨hs', hkeep.2.1, fun reply hreply state'' hs'' =>
          hsettle _ (hpick ▸ .ask ..) (hkeep.2.2 reply hreply state'' hs'') _
            (fun final value hresult => by simp only [hresult]) fun hresult => by simp only [hresult]⟩
      · next stale width' resume hpick =>
        rw [hpick] at hkeep
        exact ⟨hs', fun pick state'' hs'' =>
          hsettle _ (hpick ▸ .choose ..) (hkeep.2 pick state'' hs'') _
            (fun final value hresult => by simp only [hresult]) fun hresult => by simp only [hresult]⟩

/-- The results of a pool: one for each key, and each as `P` says. -/
def Delivers (P : ι → α → Prop) (keys : List ι) (results : List (ι × α)) : Prop :=
  (∀ entry ∈ results, P entry.1 entry.2) ∧ (results.map Prod.fst).Perm keys

theorem meets_interleave (c : Contract Q R S) (width : Nat) (P : ι → α → Prop)
    (pool : Pool Q R S ι α) (state : S) (finished : List (ι × α)) (hs : c.inv state)
    (hpool : ∀ entry ∈ pool, entry.2.Meets c (P entry.1))
    (hfinished : ∀ entry ∈ finished, P entry.1 entry.2) :
    (interleave width state pool finished).Meets c
      (Delivers P (finished.map Prod.fst ++ pool.map Prod.fst)) := by
  have hkept : KeptByFinishing width P fun keys results =>
      (∀ entry ∈ results, P entry.1 entry.2) ∧
        (results.map Prod.fst ++ keys).Perm (finished.map Prod.fst ++ pool.map Prod.fst) := by
    intro keys results index value hindex _ hinvariant hvalue
    refine ⟨List.forall_mem_append.mpr ⟨hinvariant.1, by simpa using hvalue⟩, ?_⟩
    rw [List.map_append, List.append_assoc]
    exact ((List.getElem_cons_eraseIdx_perm hindex).append_left _).trans hinvariant.2
  refine (meets_interleave_of c hkept pool state finished hs hpool ⟨hfinished, .refl _⟩).mono ?_
  exact fun results h => ⟨h.1, by simpa using h.2⟩

theorem meets_interleave_zero (c : Contract Q R S) {result : ι → α} (pool : Pool Q R S ι α)
    (state : S) (hs : c.inv state) (hpool : ∀ entry ∈ pool, entry.2.Meets c (· = result entry.1)) :
    (interleave 0 state pool []).Meets c (· = pool.map fun entry => (entry.1, result entry.1)) := by
  have hkept : KeptByFinishing 0 (fun key value => value = result key) fun keys results =>
      results ++ keys.map (fun key => (key, result key)) =
        pool.map fun entry => (entry.1, result entry.1) := by
    intro keys results index value hindex hzero hinvariant hvalue
    obtain rfl := Nat.le_zero.mp hzero
    obtain ⟨key, rest, rfl⟩ := List.exists_cons_of_length_pos hindex
    obtain rfl : value = result key := hvalue
    simpa using hinvariant
  exact (meets_interleave_of c hkept pool state [] hs hpool (by simp)).mono fun results h => by
    simpa using h

end Step

end IntegrationPlatform.Resumption
