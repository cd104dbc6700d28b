import Mathlib.Order.Lattice
/-!
# Stores with keys that expire

A store in which every key is kept up to some instant. A key that has expired reads as one that was
never set.
-/

namespace IntegrationPlatform

/-- The values under the keys, each with the instant at which the key expires. -/
def Expiring (κ ν T : Type) : Type := κ → Option (ν × T)

namespace Expiring

variable {κ ν T : Type}

/-- The store without keys. -/
def empty : Expiring κ ν T := fun _ => none

section Reading

variable [LinearOrder T]

/-- `GET`: the value under a key that has not expired. -/
def get (store : Expiring κ ν T) (now : T) (key : κ) : Option ν :=
  (store key).bind fun entry => if now < entry.2 then some entry.1 else none

variable {store : Expiring κ ν T} {now expiry : T} {key : κ} {value : ν}

theorem get_of_none (h : store key = none) : store.get now key = none := by
  unfold get
  rw [h, Option.bind_none]

theorem get_of_lt (h : store key = some (value, expiry)) (hlive : now < expiry) :
    store.get now key = some value := by
  unfold get
  rw [h, Option.bind_some]
  exact if_pos hlive

theorem get_of_le (h : store key = some (value, expiry)) (hgone : expiry ≤ now) :
    store.get now key = none := by
  unfold get
  rw [h, Option.bind_some]
  exact if_neg (not_lt.mpr hgone)

theorem kept_of_get (hget : store.get now key = some value) :
    ∃ expiry, store key = some (value, expiry) ∧ now < expiry := by
  obtain ⟨⟨kept, expiry⟩, hkept, hlive⟩ := Option.bind_eq_some_iff.mp hget
  split at hlive
  · next hlt =>
    obtain rfl := Option.some.inj hlive
    exact ⟨expiry, hkept, hlt⟩
  · cases hlive

theorem value_of_get {value' : ν} (h : store key = some (value, expiry))
    (hget : store.get now key = some value') : value = value' := by
  rcases lt_or_ge now expiry with hlive | hgone
  · exact Option.some.inj ((get_of_lt h hlive).symm.trans hget)
  · rw [get_of_le h hgone] at hget
    cases hget

end Reading

section Writing

variable [DecidableEq κ]

/-- `SET` with the instant at which the key expires. -/
def set (store : Expiring κ ν T) (key : κ) (value : ν) (expiry : T) : Expiring κ ν T :=
  Function.update store key (some (value, expiry))

/-- `DEL`. -/
def delete (store : Expiring κ ν T) (key : κ) : Expiring κ ν T :=
  Function.update store key none

variable {store : Expiring κ ν T} {expiry : T} {key key' : κ} {value : ν}

@[simp] theorem set_self : store.set key value expiry key = some (value, expiry) :=
  Function.update_self key _ _

theorem set_of_ne (h : key' ≠ key) : store.set key value expiry key' = store key' :=
  Function.update_of_ne h _ _

@[simp] theorem delete_self : store.delete key key = none :=
  Function.update_self key _ _

theorem delete_of_ne (h : key' ≠ key) : store.delete key key' = store key' :=
  Function.update_of_ne h _ _

end Writing

end Expiring

end IntegrationPlatform
