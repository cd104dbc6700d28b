import Mathlib.Init

/-!
# Loops that publish

A loop over some items publishes one after the other and ends at the first publication that raises.
-/

namespace IntegrationPlatform

namespace Publishing

/-- How a publication ends: it returns, or it raises, after Kafka has accepted the message or before. -/
inductive Outcome where
  | returned
  | raised (accepted : Bool)

variable {α : Type} {sends : α → Outcome} {items : List α}

/-- The loop over some items: what Kafka accepts, and whether the loop gets to its end. -/
def publishAll (sends : α → Outcome) : List α → List α × Bool
  | [] => ([], true)
  | item :: rest =>
      match sends item with
      | .returned =>
          let others := publishAll sends rest
          (item :: others.1, others.2)
      | .raised accepted => (if accepted then [item] else [], false)

theorem publishAll_subset (sends : α → Outcome) (items : List α) :
    (publishAll sends items).1 ⊆ items := by
  induction items with
  | nil => exact List.Subset.refl _
  | cons item rest ih =>
      unfold publishAll
      split
      · exact List.cons_subset_cons _ ih
      · split
        · exact List.cons_subset_cons _ (List.nil_subset _)
        · exact List.nil_subset _

theorem publishAll_ends_iff :
    (publishAll sends items).2 = true ↔ ∀ item ∈ items, sends item = .returned := by
  induction items with
  | nil => exact iff_of_true rfl fun _ hitem => absurd hitem List.not_mem_nil
  | cons item rest ih =>
      unfold publishAll
      rw [List.forall_mem_cons]
      cases hsend : sends item with
      | returned => exact ih.trans (and_iff_right rfl).symm
      | raised accepted => exact iff_of_false Bool.false_ne_true fun h => nomatch h.1

theorem publishAll_of_ends (h : (publishAll sends items).2 = true) :
    (publishAll sends items).1 = items := by
  induction items with
  | nil => rfl
  | cons item rest ih =>
      unfold publishAll at h ⊢
      split at h
      · exact congrArg (item :: ·) (ih h)
      · cases h

end Publishing

end IntegrationPlatform
