import Mathlib.Data.List.Basic

/-!
# Versions of items

A store keeps the newest version of each of its items, and the time of its last change. A version is
covered by a publication of the same version or of a newer one.
-/

namespace IntegrationPlatform

namespace Versions

/-- An item, with the number of its version and the time of its last change. -/
structure Item where
  id : Nat
  version : Nat
  time : Nat
  deriving DecidableEq

/-- A published version of an item, and whether it was published with all that belongs to it. -/
structure Publication where
  id : Nat
  version : Nat
  complete : Bool
  deriving DecidableEq

/-- The version of an item or a newer one has been published completely. -/
def Covered (published : List Publication) (id version : Nat) : Prop :=
  ∃ publication ∈ published,
    publication.id = id ∧ version ≤ publication.version ∧ publication.complete = true

/-- A store has this version of an item, or a newer one. -/
def Has (items : List Item) (id version : Nat) : Prop :=
  ∃ item ∈ items, item.id = id ∧ version ≤ item.version

/-- A change of an item, which may be its creation. -/
def change (items : List Item) (id time : Nat) : List Item :=
  if items.any (·.id == id) then
    items.map fun item => if item.id = id then { item with version := item.version + 1, time } else item
  else items ++ [⟨id, 1, time⟩]

section

variable {items : List Item} {item : Item} {published : List Publication} {id version time : Nat}

theorem Covered.mono {more : List Publication} (h : Covered published id version)
    (hsubset : published ⊆ more) : Covered more id version := by
  obtain ⟨publication, hmem, hpublication⟩ := h
  exact ⟨publication, hsubset hmem, hpublication⟩

theorem Covered.of_le {newer : Nat} (h : Covered published id newer) (hle : version ≤ newer) :
    Covered published id version := by
  obtain ⟨publication, hmem, hid, hversion, hcomplete⟩ := h
  exact ⟨publication, hmem, hid, Nat.le_trans hle hversion, hcomplete⟩

theorem covered_of_mem {accepted : List Item} (h : item ∈ accepted) {complete : Item → Bool}
    (hcomplete : complete item = true) (published : List Publication) :
    Covered (accepted.map (fun item => ⟨item.id, item.version, complete item⟩) ++ published)
      item.id item.version :=
  ⟨⟨item.id, item.version, complete item⟩, List.mem_append_left _ (List.mem_map_of_mem h), rfl,
    Nat.le_refl _, hcomplete⟩

theorem mem_of_mem_change (h : item ∈ change items id time) :
    item ∈ items ∨ item.id = id ∧ item.time = time := by
  unfold change at h
  split at h
  · obtain ⟨before, hbefore, heq⟩ := List.mem_map.mp h
    split at heq
    · next hid => exact .inr (heq ▸ ⟨hid, rfl⟩)
    · exact .inl (heq ▸ hbefore)
  · rcases List.mem_append.mp h with hbefore | hnew
    · exact .inl hbefore
    · exact .inr (List.mem_singleton.mp hnew ▸ ⟨rfl, rfl⟩)

theorem mem_change_of_ne (h : item ∈ items) (hne : item.id ≠ id) : item ∈ change items id time := by
  unfold change
  split
  · exact List.mem_map.mpr ⟨item, h, if_neg hne⟩
  · exact List.mem_append_left _ h

theorem Has.change (h : Has items id version) (other time : Nat) :
    Has (change items other time) id version := by
  obtain ⟨item, hitem, hid, hversion⟩ := h
  by_cases hsame : item.id = other
  · have hany : items.any (·.id == other) = true :=
      List.any_eq_true.mpr ⟨item, hitem, beq_iff_eq.mpr hsame⟩
    unfold Versions.change
    rw [if_pos hany]
    refine ⟨_, List.mem_map_of_mem hitem, ?_, ?_⟩
    · rw [if_pos hsame]
      exact hid
    · rw [if_pos hsame]
      exact Nat.le_succ_of_le hversion
  · exact ⟨item, mem_change_of_ne hitem hsame, hid, hversion⟩

theorem map_id_change : (change items id time).map Item.id =
    if items.any (·.id == id) then items.map Item.id else items.map Item.id ++ [id] := by
  unfold change
  split
  · rw [List.map_map]
    refine List.map_congr_left fun item _ => ?_
    show Item.id (if item.id = id then _ else item) = item.id
    split
    · rfl
    · rfl
  · rw [List.map_append]
    rfl

theorem time_of_mem_change (h : item ∈ change items id time) (hid : item.id = id) :
    item.time = time := by
  unfold change at h
  split at h
  · obtain ⟨before, -, heq⟩ := List.mem_map.mp h
    split at heq
    · exact heq ▸ rfl
    · next hne => exact absurd (heq ▸ hid) hne
  · next hnone =>
    rcases List.mem_append.mp h with hbefore | hnew
    · have hany : items.any (·.id == id) = true :=
        List.any_eq_true.mpr ⟨item, hbefore, beq_iff_eq.mpr hid⟩
      exact absurd hany hnone
    · exact List.mem_singleton.mp hnew ▸ rfl

theorem exists_newer {items : Nat → List Item} {due : Nat → Item → Prop}
    (hstep : ∀ number, ∀ item ∈ items number, due number item →
      ∃ newer ∈ items (number + 1), newer.id = item.id ∧ item.version ≤ newer.version ∧
        due (number + 1) newer)
    {number later : Nat} (hle : number ≤ later) (hitem : item ∈ items number)
    (hdue : due number item) :
    ∃ newer ∈ items later, newer.id = item.id ∧ item.version ≤ newer.version ∧ due later newer := by
  induction hle with
  | refl => exact ⟨item, hitem, rfl, Nat.le_refl _, hdue⟩
  | step _ ih =>
      obtain ⟨newer, hnewer, hid, hversion, hdue'⟩ := ih
      obtain ⟨newest, hnewest, hid', hversion', hdue''⟩ := hstep _ newer hnewer hdue'
      exact ⟨newest, hnewest, hid'.trans hid, Nat.le_trans hversion hversion', hdue''⟩

end

end Versions

end IntegrationPlatform
