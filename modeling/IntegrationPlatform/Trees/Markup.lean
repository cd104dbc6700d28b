import Mathlib.Data.List.Pairwise

/-!
# Markup

Trees whose nodes and leaves have tags, as documents in markup languages are. The leaves of a tree come
with the tags that lead to them. Children come in groups of the same tag, and `pairwise_groups` says that
they are in order when their groups are.
-/

namespace IntegrationPlatform.Trees

/-- A tree of tags, with contents at its leaves. -/
inductive Markup (τ α : Type) where
  | leaf (tag : τ) (content : α)
  | node (tag : τ) (children : List (Markup τ α))

namespace Markup

variable {τ α : Type}

/-- The tag of the root. -/
def tag : Markup τ α → τ
  | .leaf tag _ => tag
  | .node tag _ => tag

/-! ## Leaves -/

mutual

/-- The contents, each with the tags from the root to its leaf. -/
def leaves : Markup τ α → List (List τ × α)
  | .leaf tag content => [([tag], content)]
  | .node tag children => (leavesAll children).map fun leaf => (tag :: leaf.1, leaf.2)

/-- The contents of trees beside each other. -/
def leavesAll : List (Markup τ α) → List (List τ × α)
  | [] => []
  | tree :: rest => tree.leaves ++ leavesAll rest

end

theorem leavesAll_eq (trees : List (Markup τ α)) : leavesAll trees = trees.flatMap leaves := by
  induction trees with
  | nil => rfl
  | cons tree rest ih => rw [leavesAll, List.flatMap_cons, ih]

theorem leavesAll_append (first second : List (Markup τ α)) :
    leavesAll (first ++ second) = leavesAll first ++ leavesAll second := by
  simp only [leavesAll_eq, List.flatMap_append]

theorem perm_leavesAll {first second : List (Markup τ α)} (h : first.Perm second) :
    (leavesAll first).Perm (leavesAll second) := by
  simp only [leavesAll_eq]
  exact h.flatMap_right leaves

/-! ## Order -/

section Order

variable (rank : τ → τ → Nat)

mutual

/-- The children of every node are in the order of the ranks below its tag. -/
def Ordered : Markup τ α → Prop
  | .leaf _ _ => True
  | .node tag children =>
      ((children.map Markup.tag).Pairwise fun first second => rank tag first ≤ rank tag second) ∧
        OrderedAll children

/-- Every tree of several is in order. -/
def OrderedAll : List (Markup τ α) → Prop
  | [] => True
  | tree :: rest => tree.Ordered ∧ OrderedAll rest

end

variable {rank}

theorem orderedAll_iff {trees : List (Markup τ α)} :
    OrderedAll rank trees ↔ ∀ tree ∈ trees, tree.Ordered rank := by
  induction trees with
  | nil => simp [OrderedAll]
  | cons tree rest ih => rw [OrderedAll, ih, List.forall_mem_cons]

end Order

theorem pairwise_groups {groups : List (τ × List (Markup τ α))} {r : τ → τ → Prop} (hrefl : ∀ tag, r tag tag)
    (htags : ∀ group ∈ groups, ∀ tree ∈ group.2, tree.tag = group.1)
    (hgroups : groups.Pairwise fun first second => r first.1 second.1) :
    ((groups.flatMap Prod.snd).map Markup.tag).Pairwise r := by
  rw [List.pairwise_map, List.pairwise_flatMap]
  constructor
  · intro group hgroup
    refine List.pairwise_of_forall_mem_list fun first hfirst second hsecond => ?_
    rw [htags group hgroup first hfirst, htags group hgroup second hsecond]
    exact hrefl group.1
  · refine hgroups.imp_of_mem fun hfirst hsecond hr tree htree tree' htree' => ?_
    rw [htags _ hfirst tree htree, htags _ hsecond tree' htree']
    exact hr

end Markup

end IntegrationPlatform.Trees
