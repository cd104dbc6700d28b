import IntegrationPlatform.Calendars.Gregorian
import IntegrationPlatform.Gateway.Scheduler

/-!
# Cron schedules

`_register_if_scheduled` gives the five fields of a crontab expression to `CronTrigger` as they are. The two
count the days of the week from different days, and combine the day fields by different rules.
`agreeing_iff` says which expressions mean the same to both.
-/

namespace IntegrationPlatform

namespace Gateway

namespace Cron

open Calendar

/-! ## Crontab expressions -/

/-- An item of a field: `*`, `*/step`, a number, a range, or a range with a step. -/
inductive Item where
  | every (step : Option Nat)
  | range (first last : Nat) (step : Option Nat)
  deriving DecidableEq

/-- A field: items in a list. -/
abbrev Field := List Item

/-- The fields of an expression. -/
structure Fields where
  minute : Field
  hour : Field
  day : Field
  month : Field
  dayOfWeek : Field

/-- The item names a number of a field with these bounds. -/
def Item.names (low high number : Nat) : Item → Bool
  | .every step => low ≤ number && number ≤ high && (number - low) % step.getD 1 = 0
  | .range first last step => first ≤ number && number ≤ last && (number - first) % step.getD 1 = 0

/-- The field names a number. -/
def Field.names (field : Field) (low high number : Nat) : Bool :=
  field.any (Item.names low high number)

/-- The item keeps to the bounds of its field. -/
def Item.Valid (low high : Nat) : Item → Prop
  | .every step => step ≠ some 0
  | .range first last step => low ≤ first ∧ first ≤ last ∧ last ≤ high ∧ step ≠ some 0

/-- The field has items, and they keep to its bounds. -/
def Field.Valid (field : Field) (low high : Nat) : Prop :=
  field ≠ [] ∧ ∀ item ∈ field, item.Valid low high

/-- The item mentions 7. -/
def Item.hasSeven : Item → Bool
  | .every _ => false
  | .range _ last _ => last = 7

/-- A valid expression. Its days of the week are counted from 0 to 7. -/
structure Crontab extends Fields where
  minute_valid : minute.Valid 0 59
  hour_valid : hour.Valid 0 23
  day_valid : day.Valid 1 31
  month_valid : month.Valid 1 12
  dayOfWeek_valid : dayOfWeek.Valid 0 7

/-! ### Texts of expressions -/

/-- A number in decimal digits. -/
def readNumber (letters : List Char) : Option Nat :=
  if letters ≠ [] ∧ letters.all Char.isDigit then
    some (letters.foldl (fun number letter => 10 * number + (letter.toNat - 48)) 0)
  else none

/-- What stands before the step of an item. -/
def readBase (letters : List Char) (step : Option Nat) : Option Item :=
  match letters.splitOn '-' with
  | [['*']] => some (.every step)
  | [number] =>
      if step.isNone then (readNumber number).map fun number => .range number number none else none
  | [first, last] =>
      (readNumber first).bind fun first => (readNumber last).map fun last => .range first last step
  | _ => none

/-- An item. -/
def readItem (letters : List Char) : Option Item :=
  match letters.splitOn '/' with
  | [base] => readBase base none
  | [base, step] => (readNumber step).bind fun step => readBase base (some step)
  | _ => none

/-- A field. -/
def readField (text : String) : Option Field :=
  (text.toList.splitOn ',').mapM readItem

/-- The text spells these fields. -/
def Fields.Spelled (fields : Fields) (text : String) : Prop :=
  (splitWords text).mapM readField =
    some [fields.minute, fields.hour, fields.day, fields.month, fields.dayOfWeek]

/-! ## What the fields mean -/

/-- The crontab means this day of the week, from 0 for Sunday, which is 7, too. -/
def Fields.namesWeekday (fields : Fields) (weekday : Nat) : Bool :=
  fields.dayOfWeek.names 0 7 weekday || (weekday = 0 && fields.dayOfWeek.names 0 7 7)

section Meaning

-- Which fields count as restricted. A star does not, and a field without one does; the manual pages of
-- `crontab(5)` differ on the others.
variable (restricted : Field → Bool)

/-- The fields mean this day of the month on this day of the week: both day fields do, or one of them if both
are restricted. -/
def Fields.denotesDay (fields : Fields) (day weekday : Nat) : Prop :=
  if restricted fields.day ∧ restricted fields.dayOfWeek then
    fields.day.names 1 31 day ∨ fields.namesWeekday weekday
  else fields.day.names 1 31 day ∧ fields.namesWeekday weekday

instance (fields : Fields) (day weekday : Nat) :
    Decidable (fields.denotesDay restricted day weekday) := by
  unfold Fields.denotesDay
  infer_instance

/-- The minutes that the fields denote by `crontab(5)`. -/
def Fields.Denotes (fields : Fields) (moment : Moment) : Prop :=
  fields.minute.names 0 59 moment.minute ∧ fields.hour.names 0 23 moment.hour ∧
    fields.month.names 1 12 moment.date.month ∧
    fields.denotesDay restricted moment.date.day moment.date.fromSunday

instance (fields : Fields) (moment : Moment) : Decidable (fields.Denotes restricted moment) :=
  inferInstanceAs (Decidable (_ ∧ _ ∧ _ ∧ _))

end Meaning

/-- The minutes that all fields match, where the days of the week are counted from 0 for Monday to 6. -/
def Fields.Matches (fields : Fields) (moment : Moment) : Prop :=
  fields.minute.names 0 59 moment.minute ∧ fields.hour.names 0 23 moment.hour ∧
    fields.day.names 1 31 moment.date.day ∧ fields.month.names 1 12 moment.date.month ∧
    fields.dayOfWeek.names 0 6 moment.date.fromMonday

instance (fields : Fields) (moment : Moment) : Decidable (fields.Matches moment) :=
  inferInstanceAs (Decidable (_ ∧ _ ∧ _ ∧ _ ∧ _))

/-! ## Registered triggers -/

section Registered

variable {Trigger : Type}

/-- What is known of the APScheduler: a trigger fires when all of its fields match, and none is made of a day
of the week that mentions 7. The minutes are those of the time zone of the trigger. -/
structure Documented (cronTrigger : CronTrigger Trigger) (fires : Trigger → Moment → Prop) : Prop where
  fires_iff : ∀ {fields : Fields} {minute hour day month dayOfWeek : String} {timezone : Value}
    {trigger : Trigger}, [minute, hour, day, month, dayOfWeek].mapM readField =
      some [fields.minute, fields.hour, fields.day, fields.month, fields.dayOfWeek] →
    cronTrigger.ofFields minute hour day month dayOfWeek timezone = some trigger →
    ∀ moment, fires trigger moment ↔ fields.Matches moment
  seven : ∀ {fields : Fields} {minute hour day month dayOfWeek : String} {timezone : Value},
    [minute, hour, day, month, dayOfWeek].mapM readField =
      some [fields.minute, fields.hour, fields.day, fields.month, fields.dayOfWeek] →
    fields.dayOfWeek.any Item.hasSeven = true →
    cronTrigger.ofFields minute hour day month dayOfWeek timezone = none

/-- The scheduler has a job of the workflow that fires at this minute. -/
def FiresAt (scheduler : Scheduler Trigger) (fires : Trigger → Moment → Prop) (workflowId : String)
    (moment : Moment) : Prop :=
  ∃ job, scheduler.store (jobId workflowId) = some job ∧ fires job.trigger moment

end Registered

/-- Every month of the expression has its days all named. -/
def Fields.EveryDay (fields : Fields) : Prop :=
  ∀ month day, InMonth month day → fields.month.names 1 12 month → fields.day.names 1 31 day

/-- No month of the expression has a day that is named. -/
def Fields.NoDay (fields : Fields) : Prop :=
  ∀ month day, InMonth month day → fields.month.names 1 12 month → ¬fields.day.names 1 31 day

/-- All days of the week are named. -/
def Fields.EveryWeekday (fields : Fields) : Prop :=
  ∀ weekday < 7, fields.namesWeekday weekday

/-- The expressions that mean the same: all days of the week are named and, if both day fields are restricted,
all days of the months; or not both are restricted, and no day is named at all. -/
def Fields.Agreeing (restricted : Field → Bool) (fields : Fields) (accepted : Prop) : Prop :=
  if restricted fields.day ∧ restricted fields.dayOfWeek then
    accepted ∧ fields.EveryDay ∧ fields.EveryWeekday
  else fields.NoDay ∨ accepted ∧ fields.EveryWeekday

/-! ## Results -/

theorem Field.Valid.exists_names {field : Field} {low high : Nat} (h : field.Valid low high)
    (hbounds : low ≤ high) : ∃ number, (low ≤ number ∧ number ≤ high) ∧ field.names low high number := by
  obtain ⟨item, items, rfl⟩ := List.exists_cons_of_ne_nil h.1
  have hitem := h.2 item List.mem_cons_self
  cases item with
  | every step => exact ⟨low, ⟨Nat.le_refl _, hbounds⟩, by simp [names, Item.names, hbounds]⟩
  | range first last step =>
      obtain ⟨hfirst, hle, hlast, -⟩ := hitem
      exact ⟨first, ⟨hfirst, Nat.le_trans hle hlast⟩, by simp [names, Item.names, hle]⟩

section Weekdays

variable {fields : Fields}

theorem Item.names_six (item : Item) {number : Nat} (h : number < 7) :
    item.names 0 6 number = item.names 0 7 number := by
  have hsix : number ≤ 6 := by omega
  have hseven : number ≤ 7 := by omega
  cases item with
  | every step => simp [names, hsix, hseven]
  | range first last step => rfl

theorem Item.names_zero {item : Item} (hvalid : item.Valid 0 7) (hseven : item.hasSeven = false)
    (h : item.names 0 7 7 = true) : item.names 0 7 0 = true := by
  cases item with
  | every step => simp [names]
  | range first last step =>
      simp only [hasSeven, decide_eq_false_iff_not] at hseven
      obtain ⟨-, -, hlast, -⟩ := hvalid
      simp only [names, Bool.and_eq_true, decide_eq_true_eq] at h
      omega

theorem namesWeekday_eq (hvalid : fields.dayOfWeek.Valid 0 7)
    (hseven : fields.dayOfWeek.any Item.hasSeven = false) {weekday : Nat} (h : weekday < 7) :
    fields.namesWeekday weekday = fields.dayOfWeek.names 0 6 weekday := by
  have hsix : fields.dayOfWeek.names 0 6 weekday = fields.dayOfWeek.names 0 7 weekday := by
    unfold Field.names
    exact congrArg fields.dayOfWeek.any (funext fun item => Item.names_six item h)
  rw [hsix, Fields.namesWeekday, Bool.or_eq_left_iff_imp]
  intro hsunday
  simp only [Bool.and_eq_true, decide_eq_true_eq] at hsunday
  obtain ⟨rfl, hnames⟩ := hsunday
  obtain ⟨item, hitem, hnames⟩ := List.any_eq_true.mp hnames
  have hplain : item.hasSeven = false := by simpa using List.any_eq_false.mp hseven item hitem
  exact List.any_eq_true.mpr ⟨item, hitem, Item.names_zero (hvalid.2 item hitem) hplain hnames⟩

theorem exists_namesWeekday (hvalid : fields.dayOfWeek.Valid 0 7) :
    ∃ weekday < 7, fields.namesWeekday weekday = true := by
  obtain ⟨number, ⟨-, hle⟩, hnames⟩ := hvalid.exists_names (by decide)
  by_cases hseven : number = 7
  · subst hseven
    exact ⟨0, by decide, by simp [Fields.namesWeekday, hnames]⟩
  · exact ⟨number, by omega, by simp [Fields.namesWeekday, hnames]⟩

theorem everyWeekday_of_back {named : Nat → Prop} (hback : ∀ weekday < 7, named weekday →
    named ((weekday + 6) % 7)) {first : Nat} (hfirst : first < 7) (h : named first) :
    ∀ weekday < 7, named weekday := by
  have hrun : ∀ count, named ((first + 6 * count) % 7) := by
    intro count
    induction count with
    | zero => rwa [Nat.mul_zero, Nat.add_zero, Nat.mod_eq_of_lt hfirst]
    | succ count ih =>
        have hnext := hback _ (Nat.mod_lt _ (by decide)) ih
        have heq : ((first + 6 * count) % 7 + 6) % 7 = (first + 6 * (count + 1)) % 7 := by omega
        rwa [heq] at hnext
  intro weekday hweekday
  have heq : (first + 6 * (first + 7 - weekday)) % 7 = weekday := by omega
  exact heq ▸ hrun (first + 7 - weekday)

end Weekdays

section Agreement

variable {restricted : Field → Bool} {accepted : Prop}

/-- The fields agree on all minutes if they agree on all days of the months that are named. -/
theorem forall_moment_iff {crontab : Crontab}
    (hseven : accepted → crontab.dayOfWeek.any Item.hasSeven = false) :
    (∀ moment, accepted ∧ crontab.toFields.Matches moment ↔ crontab.toFields.Denotes restricted moment) ↔
      ∀ month day, InMonth month day → crontab.month.names 1 12 month = true → ∀ weekday < 7,
        (accepted ∧ crontab.day.names 1 31 day = true ∧
            crontab.toFields.namesWeekday ((weekday + 6) % 7) = true ↔
          crontab.toFields.denotesDay restricted day weekday) := by
  have hweekday : accepted → ∀ date : Date,
      crontab.dayOfWeek.names 0 6 date.fromMonday =
        crontab.toFields.namesWeekday ((date.fromSunday + 6) % 7) := by
    intro haccepted date
    rw [date.fromMonday_eq, namesWeekday_eq crontab.dayOfWeek_valid (hseven haccepted)
      (Nat.mod_lt _ (by decide))]
  constructor
  · intro h month day hday hmonth weekday hlt
    obtain ⟨date, rfl, rfl, rfl⟩ := exists_date hday hlt
    obtain ⟨minute, ⟨-, hminute⟩, hnames⟩ := crontab.minute_valid.exists_names (by decide)
    obtain ⟨hour, ⟨-, hhour⟩, hnames'⟩ := crontab.hour_valid.exists_names (by decide)
    have hmoment := h ⟨date, hour, minute, by omega, by omega⟩
    simp only [Fields.Matches, Fields.Denotes, hnames, hnames', hmonth, true_and] at hmoment
    rw [← hmoment]
    constructor
    · rintro ⟨haccepted, hnamed, hbefore⟩
      exact ⟨haccepted, hnamed, by rwa [hweekday haccepted]⟩
    · rintro ⟨haccepted, hnamed, hbefore⟩
      exact ⟨haccepted, hnamed, by rwa [← hweekday haccepted]⟩
  · intro h moment
    have hall := fun hmonth => h _ _ moment.date.inMonth hmonth _ moment.date.fromSunday_lt
    constructor
    · rintro ⟨haccepted, hminute, hhour, hday, hmonth, hmonday⟩
      rw [hweekday haccepted] at hmonday
      exact ⟨hminute, hhour, hmonth, (hall hmonth).mp ⟨haccepted, hday, hmonday⟩⟩
    · rintro ⟨hminute, hhour, hmonth, hday⟩
      obtain ⟨haccepted, hday, hmonday⟩ := (hall hmonth).mpr hday
      rw [← hweekday haccepted] at hmonday
      exact ⟨haccepted, hminute, hhour, hday, hmonth, hmonday⟩

theorem exists_inMonth (crontab : Crontab) :
    ∃ month day, InMonth month day ∧ crontab.month.names 1 12 month = true := by
  obtain ⟨month, hmonth, hnames⟩ := crontab.month_valid.exists_names (by decide)
  refine ⟨month, 1, ⟨hmonth, Nat.le_refl _, ?_⟩, hnames⟩
  unfold monthLength
  split
  · decide
  · split <;> decide

theorem agreeing_iff {crontab : Crontab}
    (hseven : accepted → crontab.dayOfWeek.any Item.hasSeven = false) :
    (∀ moment, accepted ∧ crontab.toFields.Matches moment ↔ crontab.toFields.Denotes restricted moment) ↔
      crontab.toFields.Agreeing restricted accepted := by
  obtain ⟨first, hfirst, hnamed⟩ := exists_namesWeekday crontab.dayOfWeek_valid
  rw [forall_moment_iff hseven, Fields.Agreeing]
  by_cases hboth : restricted crontab.day = true ∧ restricted crontab.dayOfWeek = true
  · simp only [Fields.denotesDay, if_pos hboth]
    constructor
    · intro h
      obtain ⟨month, day, hday, hmonth⟩ := exists_inMonth crontab
      have haccepted := ((h month day hday hmonth first hfirst).mpr (.inr hnamed)).1
      refine ⟨haccepted, fun month day hday hmonth => ?_, ?_⟩
      · exact ((h month day hday hmonth first hfirst).mpr (.inr hnamed)).2.1
      · refine everyWeekday_of_back (fun weekday hlt hnamed => ?_) hfirst hnamed
        exact ((h month day hday hmonth weekday hlt).mpr (.inr hnamed)).2.2
    · rintro ⟨haccepted, hdays, hweekdays⟩ month day hday hmonth weekday hlt
      have hnamed := hdays month day hday hmonth
      exact iff_of_true ⟨haccepted, hnamed, hweekdays _ (Nat.mod_lt _ (by decide))⟩ (.inl hnamed)
  · simp only [Fields.denotesDay, if_neg hboth]
    constructor
    · intro h
      by_cases hnone : crontab.toFields.NoDay
      · exact .inl hnone
      · unfold Fields.NoDay at hnone
        push Not at hnone
        obtain ⟨month, day, hday, hmonth, hnamed'⟩ := hnone
        have hback := fun weekday hlt hweekday =>
          (h month day hday hmonth weekday hlt).mpr ⟨hnamed', hweekday⟩
        exact .inr ⟨(hback first hfirst hnamed).1, everyWeekday_of_back
          (fun weekday hlt hweekday => (hback weekday hlt hweekday).2.2) hfirst hnamed⟩
    · rintro (hnone | ⟨haccepted, hweekdays⟩) month day hday hmonth weekday hlt
      · have hnot := hnone month day hday hmonth
        exact iff_of_false (fun h => hnot h.2.1) fun h => hnot h.1
      · have hnow := hweekdays weekday hlt
        have hbefore := hweekdays _ (Nat.mod_lt (weekday + 6) (show 7 > 0 by decide))
        simp [haccepted, hnow, hbefore]

end Agreement

section Schedules

variable {Trigger : Type} {cronTrigger : CronTrigger Trigger} {fires : Trigger → Moment → Prop}
  {scheduler : Scheduler Trigger} {jobOf : String → Option (Job Trigger)} {workflowId : String}
  {workflow : Workflow} {config : Dict} {text : String} {crontab : Crontab} {restricted : Field → Bool}

theorem length_mapM {α β : Type} {f : α → Option β} {items : List α} {results : List β}
    (h : items.mapM f = some results) : items.length = results.length := by
  induction items generalizing results with
  | nil =>
      obtain rfl : [] = results := by simpa using h
      rfl
  | cons item items ih =>
      rw [List.mapM_cons] at h
      obtain ⟨result, -, h⟩ := Option.bind_eq_some_iff.mp h
      obtain ⟨rest, hrest, h⟩ := Option.bind_eq_some_iff.mp h
      obtain rfl := Option.some.inj h
      rw [List.length_cons, List.length_cons, ih hrest]

variable {fields : Fields}

theorem Fields.Spelled.ofText (h : fields.Spelled text)
    (cronTrigger : CronTrigger Trigger) (timezone : Value) :
    ∃ minute hour day month dayOfWeek, [minute, hour, day, month, dayOfWeek].mapM readField =
        some [fields.minute, fields.hour, fields.day, fields.month, fields.dayOfWeek] ∧
      cronTrigger.ofText text timezone =
        cronTrigger.ofFields minute hour day month dayOfWeek timezone := by
  have hlength : (splitWords text).length = 5 := length_mapM h
  obtain ⟨minute, hour, day, month, dayOfWeek, hwords⟩ :
      ∃ minute hour day month dayOfWeek, splitWords text = [minute, hour, day, month, dayOfWeek] := by
    match splitWords text, hlength with
    | [minute, hour, day, month, dayOfWeek], _ => exact ⟨minute, hour, day, month, dayOfWeek, rfl⟩
  refine ⟨minute, hour, day, month, dayOfWeek, hwords ▸ h, ?_⟩
  rw [CronTrigger.ofText, hwords]

theorem Fields.Spelled.ne_empty (h : fields.Spelled text) : text ≠ "" := by
  rintro rfl
  have hlength : (splitWords "").length = 5 := length_mapM h
  cases hlength

theorem firesAt_register (hruns : scheduler.Runs jobOf) (henabled : workflow.isEnabled = true)
    (hconfig : getScheduleConfig workflow.nodes = some config)
    (hcron : config.find "cron" = some (.str text)) (hempty : text ≠ "") (moment : Moment) :
    FiresAt (scheduler.registerWorkflow cronTrigger workflowId workflow) fires workflowId moment ↔
      ∃ trigger, cronTrigger.ofText text ((config.find "timezone").getD (.str "UTC")) = some trigger ∧
        fires trigger moment := by
  have hstore : ∀ job, (scheduler.registerWorkflow cronTrigger workflowId workflow).store
      (jobId workflowId) = some job ↔ workflow.job cronTrigger workflowId = some job := by
    intro job
    rw [(hruns.register workflow).store]
    constructor
    · rintro ⟨workflowId', hid, hjob⟩
      rwa [← jobId_injective hid, Function.update_self] at hjob
    · intro hjob
      exact ⟨workflowId, rfl, by rwa [Function.update_self]⟩
  constructor
  · rintro ⟨job, hjob, hfires⟩
    obtain ⟨-, config', text', trigger, hconfig', hcron', -, htrigger, rfl⟩ :=
      (Workflow.job_eq_some cronTrigger).mp ((hstore job).mp hjob)
    obtain rfl := Option.some.inj (hconfig.symm.trans hconfig')
    obtain rfl := Value.str.inj (Option.some.inj (hcron.symm.trans hcron'))
    exact ⟨trigger, htrigger, hfires⟩
  · rintro ⟨trigger, htrigger, hfires⟩
    exact ⟨_, (hstore _).mpr ((Workflow.job_eq_some cronTrigger).mpr
      ⟨henabled, config, text, trigger, hconfig, hcron, hempty, htrigger, rfl⟩), hfires⟩

theorem firesAt_iff (hdocumented : Documented cronTrigger fires) (hruns : scheduler.Runs jobOf)
    (henabled : workflow.isEnabled = true) (hconfig : getScheduleConfig workflow.nodes = some config)
    (hcron : config.find "cron" = some (.str text)) (hspelled : fields.Spelled text)
    (moment : Moment) :
    FiresAt (scheduler.registerWorkflow cronTrigger workflowId workflow) fires workflowId moment ↔
      (cronTrigger.ofText text ((config.find "timezone").getD (.str "UTC"))).isSome = true ∧
        fields.Matches moment := by
  obtain ⟨minute, hour, day, month, dayOfWeek, hwords, htext⟩ :=
    hspelled.ofText cronTrigger ((config.find "timezone").getD (.str "UTC"))
  rw [firesAt_register hruns henabled hconfig hcron hspelled.ne_empty, Option.isSome_iff_exists]
  constructor
  · rintro ⟨trigger, htrigger, hfires⟩
    rw [htext] at htrigger
    exact ⟨⟨trigger, htext ▸ htrigger⟩, (hdocumented.fires_iff hwords htrigger moment).mp hfires⟩
  · rintro ⟨⟨trigger, htrigger⟩, hmatches⟩
    have hmade := htrigger
    rw [htext] at hmade
    exact ⟨trigger, htrigger, (hdocumented.fires_iff hwords hmade moment).mpr hmatches⟩

/-- **The job that is registered for a valid expression fires at exactly the minutes that the expression
denotes if and only if a trigger is made of it, all days of the week are named and, where both day fields are
restricted, all days of the months, or it denotes nothing.** -/
theorem schedule_agrees_iff (hdocumented : Documented cronTrigger fires) (hruns : scheduler.Runs jobOf)
    (henabled : workflow.isEnabled = true) (hconfig : getScheduleConfig workflow.nodes = some config)
    (hcron : config.find "cron" = some (.str text)) (hspelled : crontab.Spelled text) :
    (∀ moment,
      FiresAt (scheduler.registerWorkflow cronTrigger workflowId workflow) fires workflowId moment ↔
        crontab.Denotes restricted moment) ↔
      crontab.Agreeing restricted
        ((cronTrigger.ofText text ((config.find "timezone").getD (.str "UTC"))).isSome = true) := by
  have hseven : (cronTrigger.ofText text ((config.find "timezone").getD (.str "UTC"))).isSome = true →
      crontab.dayOfWeek.any Item.hasSeven = false := by
    obtain ⟨minute, hour, day, month, dayOfWeek, hwords, htext⟩ :=
      hspelled.ofText cronTrigger ((config.find "timezone").getD (.str "UTC"))
    intro hsome
    by_contra hany
    rw [htext, hdocumented.seven hwords (by simpa using hany)] at hsome
    cases hsome
  rw [← agreeing_iff hseven]
  exact forall_congr' fun moment => iff_congr
    (firesAt_iff hdocumented hruns henabled hconfig hcron hspelled moment) Iff.rfl

end Schedules

/-! ## Samples -/

namespace Sample

/-- A library that makes a trigger of any fields, if there is no 7 among the days of the week. -/
def cronTrigger : CronTrigger Fields where
  ofFields minute hour day month dayOfWeek _ :=
    match [minute, hour, day, month, dayOfWeek].mapM readField with
    | some [minute, hour, day, month, dayOfWeek] =>
        if dayOfWeek.any Item.hasSeven then none else some ⟨minute, hour, day, month, dayOfWeek⟩
    | _ => none
  fromCrontab _ _ := none

theorem documented : Documented cronTrigger Fields.Matches where
  fires_iff := by
    intro fields minute hour day month dayOfWeek timezone trigger hwords htrigger moment
    simp only [cronTrigger, hwords] at htrigger
    split at htrigger
    · cases htrigger
    · obtain rfl := Option.some.inj htrigger
      rfl
  seven := by
    intro fields minute hour day month dayOfWeek timezone hwords hseven
    simp only [cronTrigger, hwords, hseven, if_pos]

def scheduler : Scheduler Fields :=
  ⟨fun _ => none, fun _ => none⟩

theorem runs : scheduler.Runs fun _ => none where
  store id job := by simp [scheduler]
  jobs workflowId id := by simp [scheduler]

def config (cron : String) : Dict :=
  [("trigger_type", .str "schedule"), ("cron", .str cron)]

def workflow (cron : String) : Workflow :=
  { tenantId := "t1", name := "nightly", isEnabled := true,
    nodes := [{ id := "n1", type := "trigger", config := config cron }] }

def restricted (field : Field) : Bool :=
  field ≠ [.every none]

def daily : Crontab where
  minute := [.range 0 0 none]
  hour := [.range 6 6 none]
  day := [.every none]
  month := [.every none]
  dayOfWeek := [.every none]
  minute_valid := ⟨by decide, by simp [Item.Valid]⟩
  hour_valid := ⟨by decide, by simp [Item.Valid]⟩
  day_valid := ⟨by decide, by simp [Item.Valid]⟩
  month_valid := ⟨by decide, by simp [Item.Valid]⟩
  dayOfWeek_valid := ⟨by decide, by simp [Item.Valid]⟩

def mondays : Crontab where
  minute := [.range 0 0 none]
  hour := [.range 9 9 none]
  day := [.every none]
  month := [.every none]
  dayOfWeek := [.range 1 1 none]
  minute_valid := ⟨by decide, by simp [Item.Valid]⟩
  hour_valid := ⟨by decide, by simp [Item.Valid]⟩
  day_valid := ⟨by decide, by simp [Item.Valid]⟩
  month_valid := ⟨by decide, by simp [Item.Valid]⟩
  dayOfWeek_valid := ⟨by decide, by simp [Item.Valid]⟩

def monday : Moment :=
  ⟨⟨2026, 1, 5, by decide, by decide⟩, 9, 0, by decide, by decide⟩

end Sample

open Sample in
/-- A schedule for every day fires every day. -/
theorem daily_agrees :
    daily.Spelled "0 6 * * *" ∧ ∀ moment,
      FiresAt (scheduler.registerWorkflow cronTrigger "w1" (workflow "0 6 * * *")) Fields.Matches
        "w1" moment ↔ daily.Denotes restricted moment := by
  have hspelled : daily.Spelled "0 6 * * *" := rfl
  refine ⟨hspelled, ?_⟩
  refine (schedule_agrees_iff documented runs rfl rfl rfl hspelled).mpr ?_
  have hweekdays : ∀ weekday < 7, daily.namesWeekday weekday = true := by decide
  rw [Fields.Agreeing, if_neg (by decide)]
  exact .inr ⟨rfl, hweekdays⟩

open Sample in
/-- A schedule for Mondays does not fire on a Monday. -/
theorem mondays_disagree :
    (mondays.Denotes restricted monday ∧
      ¬FiresAt (scheduler.registerWorkflow cronTrigger "w1" (workflow "0 9 * * 1")) Fields.Matches "w1"
        monday) ∧
    ¬∀ moment,
      FiresAt (scheduler.registerWorkflow cronTrigger "w1" (workflow "0 9 * * 1")) Fields.Matches "w1"
        moment ↔ mondays.Denotes restricted moment := by
  have hspelled : mondays.Spelled "0 9 * * 1" := rfl
  have hdenotes : mondays.Denotes restricted monday := by decide
  have hnot : ¬FiresAt (scheduler.registerWorkflow cronTrigger "w1" (workflow "0 9 * * 1")) Fields.Matches
      "w1" monday := by
    intro h
    have hmatches := ((firesAt_iff documented runs rfl rfl rfl hspelled monday).mp h).2
    exact absurd hmatches (by decide)
  exact ⟨⟨hdenotes, hnot⟩, fun h => hnot ((h monday).mpr hdenotes)⟩

end Cron

end Gateway

end IntegrationPlatform
