import Mathlib.Data.List.Nodup

/-!
# Ordered forests

Forests of labelled trees, their labels in depth-first preorder, and the paths that lead to the
labels. A path names, on each level, the position among the trees that stand beside each other.
The preorder lists the labels of all paths, each path once.
-/

namespace IntegrationPlatform.Trees

/-- An ordered forest: no tree, or a first tree, by its root and what is below the root, and the
trees beside it. -/
inductive Forest (α : Type) where
  | empty
  | tree (root : α) (below beside : Forest α)

namespace Forest

variable {α : Type}

/-- The labels, depth first: each root before what is below it. -/
def preorder : Forest α → List α
  | .empty => []
  | .tree root below beside => root :: (below.preorder ++ beside.preorder)

/-- The label to which a path leads. -/
def find : Forest α → List Nat → Option α
  | .tree root _ _, [0] => some root
  | .tree _ below _, 0 :: rest => below.find rest
  | .tree _ _ beside, (index + 1) :: rest => beside.find (index :: rest)
  | _, _ => none

/-- A path, counted from one tree further to the left. -/
def shift : List Nat → List Nat
  | [] => []
  | index :: rest => (index + 1) :: rest

/-- The paths to all labels, in preorder. -/
def paths : Forest α → List (List Nat)
  | .empty => []
  | .tree _ below beside => [0] :: (below.paths.map (0 :: ·) ++ beside.paths.map shift)

variable {path : List Nat}

theorem ne_nil_of_mem_paths {forest : Forest α} (h : path ∈ forest.paths) :
    path ≠ [] := by
  induction forest generalizing path with
  | empty => simp [paths] at h
  | tree root below beside _ ih =>
      simp only [paths, List.mem_cons, List.mem_append, List.mem_map] at h
      rcases h with rfl | ⟨path, _, rfl⟩ | ⟨path, hpath, rfl⟩
      · simp
      · simp
      · cases path with
        | nil => exact absurd rfl (ih hpath)
        | cons index rest => simp [shift]

theorem find_below (root : α) (below beside : Forest α) (h : path ≠ []) :
    (tree root below beside).find (0 :: path) = below.find path := by
  cases path with
  | nil => exact absurd rfl h
  | cons index rest => rfl

theorem find_beside (root : α) (below beside : Forest α) (h : path ≠ []) :
    (tree root below beside).find (shift path) = beside.find path := by
  cases path with
  | nil => exact absurd rfl h
  | cons index rest => rfl

theorem map_find_paths (forest : Forest α) :
    forest.paths.map forest.find = forest.preorder.map some := by
  induction forest with
  | empty => rfl
  | tree root below beside ihbelow ihbeside =>
      have hbelow : (below.paths.map (0 :: ·)).map (tree root below beside).find =
          below.paths.map below.find := by
        rw [List.map_map]
        exact List.map_congr_left fun path hpath => find_below _ _ _ (ne_nil_of_mem_paths hpath)
      have hbeside : (beside.paths.map shift).map (tree root below beside).find =
          beside.paths.map beside.find := by
        rw [List.map_map]
        exact List.map_congr_left fun path hpath => find_beside _ _ _ (ne_nil_of_mem_paths hpath)
      rw [paths, preorder, List.map_cons, List.map_append, hbelow, hbeside, ihbelow, ihbeside,
        List.map_cons, List.map_append]
      rfl

theorem shift_injective : Function.Injective shift := by
  intro path path' h
  cases path <;> cases path' <;> simp_all [shift]

theorem nodup_paths (forest : Forest α) : forest.paths.Nodup := by
  induction forest with
  | empty => exact List.nodup_nil
  | tree root below beside ihbelow ihbeside =>
      refine List.nodup_cons.mpr ⟨fun hmem => ?_, ?_⟩
      · rcases List.mem_append.mp hmem with h | h
        · obtain ⟨path, hpath, heq⟩ := List.mem_map.mp h
          exact ne_nil_of_mem_paths hpath (List.cons.inj heq).2
        · obtain ⟨path, _, heq⟩ := List.mem_map.mp h
          cases path <;> simp [shift] at heq
      · refine List.Nodup.append (ihbelow.map fun _ _ h => (List.cons.inj h).2)
          (ihbeside.map shift_injective) fun path hbelow hbeside => ?_
        obtain ⟨path, _, rfl⟩ := List.mem_map.mp hbelow
        obtain ⟨path', _, heq⟩ := List.mem_map.mp hbeside
        cases path' <;> simp [shift] at heq

theorem countP_preorder (forest : Forest α) (kind : α → Bool) :
    forest.preorder.countP kind = forest.paths.countP fun path => (forest.find path).any kind := by
  calc forest.preorder.countP kind
      = (forest.preorder.map some).countP (Option.any kind) := by
        rw [List.countP_map]
        rfl
    _ = (forest.paths.map forest.find).countP (Option.any kind) := by rw [map_find_paths]
    _ = forest.paths.countP fun path => (forest.find path).any kind := by
        rw [List.countP_map]
        rfl

end Forest

end IntegrationPlatform.Trees
