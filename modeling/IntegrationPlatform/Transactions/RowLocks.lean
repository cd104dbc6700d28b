import Mathlib.Logic.Function.Basic

/-!
# Rows under locks

A table of rows by their unique keys, as concurrent transactions at READ COMMITTED see it. A
transaction that locks, updates, deletes or inserts a row holds its key until it ends, and what
it wrote is a draft that nobody else sees before the commit. `Frame` says that a transaction
leaves alone what the others hold: every invariant of a transaction that speaks of the keys it
holds is therefore kept by the steps of the others.
-/

set_option linter.unusedSectionVars false

namespace IntegrationPlatform.RowLocks

/-- The hold of a transaction on a key: what it has written there, if it has, where `none` is
the deletion of the row. -/
structure Hold (ρ τ : Type) where
  owner : τ
  draft : Option (Option ρ)

/-- A table: the committed rows, and who holds which keys. -/
structure Store (κ ρ τ : Type) where
  committed : κ → Option ρ
  held : κ → Option (Hold ρ τ)

namespace Store

variable {κ ρ τ : Type} [DecidableEq κ] [DecidableEq τ] (store : Store κ ρ τ) (tx : τ) (key : κ)

/-- Nobody else holds the key. -/
def Free : Prop :=
  ∀ hold, store.held key = some hold → hold.owner = tx

/-- The transaction holds the key, with this draft. -/
def Holds (draft : Option (Option ρ)) : Prop :=
  store.held key = some ⟨tx, draft⟩

/-- The transaction does not hold the key. -/
def Without : Prop :=
  ∀ hold, store.held key = some hold → hold.owner ≠ tx

/-- The row of a key that a transaction sees: its own draft, or the committed one. -/
def visible : Option ρ :=
  match store.held key with
  | some ⟨owner, some draft⟩ => if owner = tx then draft else store.committed key
  | _ => store.committed key

/-- An `INSERT` of this key fails: a row is there, and nobody is about to delete it. -/
def Taken : Prop :=
  store.committed key ≠ none ∧ ∀ hold, store.held key = some hold → hold.draft ≠ some none

/-- The transaction locks the row of a key. -/
def lock : Store κ ρ τ :=
  match store.held key with
  | some _ => store
  | none => { store with held := Function.update store.held key (some ⟨tx, none⟩) }

/-- The transaction inserts, updates or deletes the row of a key. -/
def write (row : Option ρ) : Store κ ρ τ :=
  { store with held := Function.update store.held key (some ⟨tx, some row⟩) }

/-- The transaction gives up what it holds of these keys, as in a rollback to a savepoint. -/
def release (keys : κ → Bool) : Store κ ρ τ :=
  { store with
    held := fun key => (store.held key).filter fun hold => ¬ (hold.owner = tx ∧ keys key = true) }

/-- The transaction gives up all that it holds. -/
def rollback : Store κ ρ τ :=
  store.release tx fun _ => true

/-- The transaction commits its drafts. -/
def commit : Store κ ρ τ :=
  { store.rollback tx with committed := store.visible tx }

/-- What a step of a transaction leaves alone: the keys that others hold, which stay theirs, and
the others get no more. -/
structure Frame (after : Store κ ρ τ) : Prop where
  committed : ∀ key hold, store.held key = some hold → hold.owner ≠ tx →
    after.committed key = store.committed key
  held : ∀ key hold, hold.owner ≠ tx →
    (after.held key = some hold ↔ store.held key = some hold)

variable {store tx key} {key' : κ} {row : Option ρ} {draft : Option (Option ρ)} {keys : κ → Bool}
  {after : Store κ ρ τ}

/-! ## Holding -/

variable {tx' : τ}

theorem Holds.unique {draft' : Option (Option ρ)} (h : store.Holds tx key draft)
    (h' : store.Holds tx' key draft') : tx = tx' := by
  have heq := h.symm.trans h'
  exact congrArg Hold.owner (Option.some.inj heq)

theorem Holds.draft_unique {draft' : Option (Option ρ)} (h : store.Holds tx key draft)
    (h' : store.Holds tx key draft') : draft = draft' := by
  have heq := h.symm.trans h'
  exact congrArg Hold.draft (Option.some.inj heq)

theorem Holds.free (h : store.Holds tx key draft) : store.Free tx key := by
  intro hold hhold
  rw [h] at hhold
  rw [← Option.some.inj hhold]

theorem Free.of_none (h : store.held key = none) : store.Free tx key := by
  intro hold hhold
  rw [h] at hhold
  cases hhold

theorem Without.held_eq_none (h : store.Without tx key) (hfree : store.Free tx key) :
    store.held key = none := by
  cases hheld : store.held key with
  | none => rfl
  | some hold => exact absurd (hfree hold hheld) (h hold hheld)

theorem Without.of_none (h : store.held key = none) : store.Without tx key := by
  intro hold hhold
  rw [h] at hhold
  cases hhold

theorem Holds.not_without (h : store.Holds tx key draft) : ¬ store.Without tx key :=
  fun hwithout => hwithout _ h rfl

theorem Holds.without_of_ne (h : store.Holds tx key draft) (hne : tx' ≠ tx) :
    store.Without tx' key := by
  intro hold hhold howner
  rw [h] at hhold
  rw [← Option.some.inj hhold] at howner
  exact hne howner.symm

theorem without_or_holds (store : Store κ ρ τ) (tx : τ) (key : κ) :
    store.Without tx key ∨ ∃ draft, store.Holds tx key draft := by
  cases hheld : store.held key with
  | none => exact .inl (.of_none hheld)
  | some hold =>
      by_cases howner : hold.owner = tx
      · subst howner
        exact .inr ⟨hold.draft, hheld⟩
      · refine .inl fun hold' hhold' => ?_
        rw [hheld] at hhold'
        rw [← Option.some.inj hhold']
        exact howner

theorem Without.visible_eq (h : store.Without tx key) :
    store.visible tx key = store.committed key := by
  unfold visible
  split
  · next owner draft hheld => rw [if_neg (h _ hheld)]
  · rfl

theorem Holds.visible_locked (h : store.Holds tx key none) :
    store.visible tx key = store.committed key := by
  unfold visible
  rw [h]

theorem Holds.visible_written (h : store.Holds tx key (some row)) :
    store.visible tx key = row := by
  unfold visible
  rw [h]
  exact if_pos rfl

/-! ## Steps -/

@[simp] theorem committed_lock : (store.lock tx key).committed = store.committed := by
  unfold lock
  split <;> rfl

@[simp] theorem committed_write : (store.write tx key row).committed = store.committed := rfl

theorem holds_lock (h : store.held key = none) : (store.lock tx key).Holds tx key none := by
  unfold lock Holds
  rw [h]
  exact Function.update_self key _ _

theorem held_lock_of_ne (h : key' ≠ key) : (store.lock tx key).held key' = store.held key' := by
  unfold lock
  split
  · rfl
  · exact Function.update_of_ne h _ _

theorem holds_write : (store.write tx key row).Holds tx key (some row) :=
  Function.update_self key _ _

theorem held_write_of_ne (h : key' ≠ key) :
    (store.write tx key row).held key' = store.held key' :=
  Function.update_of_ne h _ _

theorem Without.lock (h : store.Without tx key') (hne : key' ≠ key) :
    (store.lock tx key).Without tx key' := by
  intro hold hhold
  rw [held_lock_of_ne hne] at hhold
  exact h hold hhold

theorem Without.write (h : store.Without tx key') (hne : key' ≠ key) :
    (store.write tx key row).Without tx key' := by
  intro hold hhold
  rw [held_write_of_ne hne] at hhold
  exact h hold hhold

theorem held_release {hold : Hold ρ τ} : (store.release tx keys).held key = some hold ↔
    store.held key = some hold ∧ ¬ (hold.owner = tx ∧ keys key = true) := by
  show (store.held key).filter _ = some hold ↔ _
  rw [Option.filter_eq_some_iff, decide_eq_true_eq]

theorem holds_release : (store.release tx keys).Holds tx key draft ↔
    store.Holds tx key draft ∧ keys key = false := by
  refine held_release.trans (and_congr_right fun _ => ?_)
  simp

theorem Without.release (h : store.Without tx key) : (store.release tx keys).Without tx key :=
  fun hold hhold => h hold (held_release.mp hhold).1

theorem without_rollback : (store.rollback tx).Without tx key :=
  fun _ hhold howner => (held_release.mp hhold).2 ⟨howner, rfl⟩

theorem without_commit : (store.commit tx).Without tx key :=
  without_rollback

theorem commit_committed_of_without (h : store.Without tx key) :
    (store.commit tx).committed key = store.committed key :=
  h.visible_eq

theorem commit_write (h : ∀ key, store.held key = none) :
    (store.write tx key row).commit tx =
      ⟨Function.update store.committed key row, fun _ => none⟩ := by
  have hcommitted : (store.write tx key row).visible tx =
      Function.update store.committed key row := by
    funext other
    by_cases hother : other = key
    · subst hother
      rw [Function.update_self]
      exact holds_write.visible_written
    · rw [Function.update_of_ne hother]
      exact ((Without.of_none (h other)).write hother).visible_eq
  have hheld : ((store.write tx key row).commit tx).held = fun _ => none := by
    funext other
    cases hhold : ((store.write tx key row).commit tx).held other with
    | none => rfl
    | some hold =>
        replace hhold : ((store.write tx key row).rollback tx).held other = some hold := hhold
        obtain ⟨hbefore, hkept⟩ := held_release.mp hhold
        by_cases hother : other = key
        · subst hother
          rw [holds_write] at hbefore
          obtain rfl := Option.some.inj hbefore
          exact absurd ⟨rfl, rfl⟩ hkept
        · rw [held_write_of_ne hother, h other] at hbefore
          cases hbefore
  show Store.mk _ _ = _
  rw [← hheld, ← hcommitted]
  rfl

/-! ## Frames -/

theorem Frame.refl : store.Frame tx store where
  committed _ _ _ _ := rfl
  held _ _ _ := Iff.rfl

theorem Frame.update (hfree : store.Free tx key) (draft : Option (Option ρ)) :
    store.Frame tx { store with held := Function.update store.held key (some ⟨tx, draft⟩) } where
  committed _ _ _ _ := rfl
  held key' hold howner := by
    by_cases hkey : key' = key
    · subst hkey
      show Function.update store.held key' (some ⟨tx, draft⟩) key' = some hold ↔ _
      rw [Function.update_self]
      constructor
      · intro heq
        exact absurd (congrArg Hold.owner (Option.some.inj heq)).symm howner
      · intro hheld
        exact absurd (hfree hold hheld) howner
    · show Function.update store.held key (some ⟨tx, draft⟩) key' = some hold ↔ _
      rw [Function.update_of_ne hkey]

theorem Frame.lock (hfree : store.Free tx key) : store.Frame tx (store.lock tx key) := by
  unfold Store.lock
  split
  · exact .refl
  · exact .update hfree none

theorem Frame.write (hfree : store.Free tx key) (row : Option ρ) :
    store.Frame tx (store.write tx key row) :=
  .update hfree (some row)

theorem Frame.release (keys : κ → Bool) : store.Frame tx (store.release tx keys) where
  committed _ _ _ _ := rfl
  held key' hold howner := by
    rw [held_release]
    exact and_iff_left fun hgiven => howner hgiven.1

theorem Frame.commit : store.Frame tx (store.commit tx) where
  committed key' hold hheld howner := by
    have hwithout : store.Without tx key' := by
      intro hold' hhold'
      rw [hheld] at hhold'
      rw [← Option.some.inj hhold']
      exact howner
    exact hwithout.visible_eq
  held := (Frame.release fun _ => true).held

theorem Frame.holds (h : store.Frame tx after) (hne : tx' ≠ tx) :
    after.Holds tx' key draft ↔ store.Holds tx' key draft :=
  h.held key ⟨tx', draft⟩ hne

theorem Frame.without (h : store.Frame tx after) (hne : tx' ≠ tx) :
    after.Without tx' key ↔ store.Without tx' key := by
  constructor
  · intro hwithout hold hhold howner
    have hafter := (h.held key hold (howner ▸ hne)).mpr hhold
    exact hwithout hold hafter howner
  · intro hwithout hold hhold howner
    have hbefore := (h.held key hold (howner ▸ hne)).mp hhold
    exact hwithout hold hbefore howner

theorem Frame.committed_of_holds (h : store.Frame tx after) (hne : tx' ≠ tx)
    (hholds : store.Holds tx' key draft) : after.committed key = store.committed key :=
  h.committed key ⟨tx', draft⟩ hholds hne

end Store

end IntegrationPlatform.RowLocks
