import Mathlib.Data.List.Basic

/-!
# Pages of a list

A list is read page by page. What the last page and the pages before it do not have is not in the list.
-/

namespace IntegrationPlatform

namespace Pages

variable {α : Type} {size number : Nat} {items : List α} {item : α}

/-- A page, counted from 0. -/
def page (size : Nat) (items : List α) (number : Nat) : List α :=
  (items.drop (number * size)).take size

/-- The number of pages. -/
def pageCount (size : Nat) (items : List α) : Nat :=
  (items.length + size - 1) / size

theorem take_append_page : items.take (number * size) ++ page size items number =
    items.take ((number + 1) * size) := by
  unfold page
  rw [Nat.succ_mul, List.take_add]

theorem mem_of_last (hsize : 0 < size) (hlast : pageCount size items ≤ number + 1) (h : item ∈ items) :
    item ∈ items.take (number * size) ∨ item ∈ page size items number := by
  have hlength : items.length ≤ (number + 1) * size := by
    unfold pageCount at hlast
    have hlt := (Nat.div_lt_iff_lt_mul hsize).mp (Nat.lt_succ_of_le hlast)
    rw [Nat.succ_mul (number + 1)] at hlt
    omega
  rw [← List.mem_append, take_append_page, List.take_of_length_le hlength]
  exact h

theorem mem_of_page_eq_nil (hsize : 0 < size) (hpage : page size items number = []) (h : item ∈ items) :
    item ∈ items.take (number * size) := by
  rcases List.take_eq_nil_iff.mp hpage with hzero | hdrop
  · omega
  · rwa [List.take_of_length_le (List.drop_eq_nil_iff.mp hdrop)]

end Pages

end IntegrationPlatform
