import IntegrationPlatform.Json.Value
import Mathlib.Data.List.Induction

/-!
# Snapshots by key

What is left of a list when each item is put under its key, and what a comparison with it finds to have
changed. `changes_eq_iff` says when that is what has changed in the list.
-/

namespace IntegrationPlatform

namespace Snapshots

variable {α κ γ : Type} [DecidableEq κ] [DecidableEq γ]

/-- The last item with a key. -/
def latest (key : α → κ) (items : List α) (wanted : κ) : Option α :=
  items.reverse.find? fun item => key item = wanted

/-- The items whose content is not the one of the last old item with their key. -/
def changes (key : α → κ) (content : α → γ) (old items : List α) : List α :=
  items.filter fun item => (latest key old (key item)).map content ≠ some (content item)

variable {key : α → κ} {content : α → γ} {old items : List α} {item : α} {wanted : κ}

theorem latest_spec (h : latest key items wanted = some item) : item ∈ items ∧ key item = wanted := by
  unfold latest at h
  exact ⟨List.mem_reverse.mp (List.mem_of_find?_eq_some h), by simpa using List.find?_some h⟩

theorem latest_append (key : α → κ) (items : List α) (item : α) (wanted : κ) :
    latest key (items ++ [item]) wanted =
      if key item = wanted then some item else latest key items wanted := by
  unfold latest
  rw [List.reverse_append, List.reverse_singleton, List.singleton_append, List.find?_cons]
  by_cases h : key item = wanted <;> simp [h]

theorem exists_latest (key : α → κ) (h : item ∈ items) :
    ∃ found, latest key items (key item) = some found := by
  cases hfound : latest key items (key item) with
  | some found => exact ⟨found, rfl⟩
  | none =>
      have hnot := List.find?_eq_none.mp hfound item (List.mem_reverse.mpr h)
      exact absurd (decide_eq_true rfl) hnot

theorem exists_latest_append (key : α → κ) (before : List α) (item : α) (behind : List α) :
    ∃ found ∈ item :: behind, latest key (before ++ item :: behind) (key item) = some found := by
  induction behind using List.reverseRecOn with
  | nil => exact ⟨item, List.mem_singleton_self _, by rw [latest_append, if_pos rfl]⟩
  | append_singleton behind last ih =>
      have hsplit : before ++ item :: (behind ++ [last]) = (before ++ item :: behind) ++ [last] := by
        rw [List.append_assoc, List.cons_append]
      rw [hsplit, latest_append]
      by_cases h : key last = key item
      · exact ⟨last, List.mem_cons_of_mem _ (List.mem_append_right _ (List.mem_singleton_self _)),
          if_pos h⟩
      · obtain ⟨found, hmem, hfound⟩ := ih
        refine ⟨found, ?_, by rw [if_neg h, hfound]⟩
        rcases List.mem_cons.mp hmem with rfl | hbehind
        · exact List.mem_cons_self
        · exact List.mem_cons_of_mem _ (List.mem_append_left _ hbehind)

theorem filter_eq_iff {keep keep' : α → Bool} :
    items.filter keep = items.filter keep' ↔ ∀ item ∈ items, keep item = keep' item := by
  constructor
  · intro h item hitem
    rw [Bool.eq_iff_iff]
    have hmem : item ∈ items.filter keep ↔ item ∈ items.filter keep' := by rw [h]
    rw [List.mem_filter, List.mem_filter] at hmem
    exact ⟨fun hkeep => (hmem.mp ⟨hitem, hkeep⟩).2, fun hkeep => (hmem.mpr ⟨hitem, hkeep⟩).2⟩
  · exact List.filter_congr

theorem changes_eq_iff : changes key content old items =
    items.filter (fun item => ∀ previous ∈ old, content previous ≠ content item) ↔
      ∀ item ∈ items, (∃ previous ∈ old, content previous = content item) →
        (latest key old (key item)).map content = some (content item) := by
  unfold changes
  rw [filter_eq_iff]
  refine forall₂_congr fun item hitem => ?_
  rw [Bool.eq_iff_iff, decide_eq_true_iff, decide_eq_true_iff]
  constructor
  · rintro h ⟨previous, hprevious, hcontent⟩
    by_contra hne
    exact h.mp hne previous hprevious hcontent
  · intro h
    constructor
    · intro hne previous hprevious hcontent
      exact hne (h ⟨previous, hprevious, hcontent⟩)
    · intro hnone heq
      obtain ⟨found, hfound, hcontent⟩ := Option.map_eq_some_iff.mp heq
      exact hnone found (latest_spec hfound).1 hcontent

end Snapshots

theorem Assoc.find_foldl_put {α β : Type} (key : α → String) (content : α → β) (fields : Assoc β)
    (items : List α) (wanted : String) :
    Assoc.find (items.foldl (fun fields item => fields.put (key item) (content item)) fields) wanted =
      ((Snapshots.latest key items wanted).map content).or (fields.find wanted) := by
  induction items using List.reverseRecOn with
  | nil => rfl
  | append_singleton items item ih =>
      rw [List.foldl_append, List.foldl_cons, List.foldl_nil, Assoc.find_put, ih,
        Snapshots.latest_append]
      by_cases h : key item = wanted
      · rw [if_pos h, if_pos h, Option.map_some, Option.some_or]
      · rw [if_neg h, if_neg h]

end IntegrationPlatform
