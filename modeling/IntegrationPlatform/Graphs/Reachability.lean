import Mathlib.Data.Finset.Card
/-!
# Reachability

What paths lead to. Where steps have no cycle, a path is shorter than the list of what it can visit
(`Walk.lt_length`). `search` looks for what a vertex leads to along the edges of a finite graph, with a queue,
and finds exactly that (`mem_search_iff`).
-/

namespace IntegrationPlatform

open Relation

/-! ## Paths -/

/-- A path of so many steps leads to a vertex. -/
inductive Walk {α : Type} (step : α → α → Prop) (start : α → Prop) : Nat → α → Prop where
  | start {vertex} : start vertex → Walk step start 0 vertex
  | step {length vertex next} : Walk step start length vertex → step vertex next →
      Walk step start (length + 1) next

section Paths

variable {α : Type} {step : α → α → Prop} {start : α → Prop} {length : Nat} {vertex : α}

theorem Walk.exists_visited (hacyclic : ∀ vertex, ¬ TransGen step vertex vertex)
    (h : Walk step start length vertex) :
    ∃ visited : List α, visited.length = length + 1 ∧ visited.Nodup ∧
      ∀ earlier ∈ visited, ReflTransGen step earlier vertex ∧ ∃ length, Walk step start length earlier := by
  induction h with
  | @start vertex hstart =>
      refine ⟨[vertex], rfl, List.nodup_singleton _, fun earlier hearlier => ?_⟩
      obtain rfl := List.mem_singleton.mp hearlier
      exact ⟨.refl, 0, .start hstart⟩
  | @step length vertex next hleads hstep ih =>
      obtain ⟨visited, hlength, hnodup, hvisited⟩ := ih
      have hnew : next ∉ visited := fun hmem =>
        hacyclic next (TransGen.tail' (hvisited next hmem).1 hstep)
      refine ⟨next :: visited, by rw [List.length_cons, hlength], List.nodup_cons.mpr ⟨hnew, hnodup⟩, ?_⟩
      intro earlier hearlier
      rcases List.mem_cons.mp hearlier with rfl | hmem
      · exact ⟨.refl, length + 1, hleads.step hstep⟩
      · exact ⟨(hvisited earlier hmem).1.tail hstep, (hvisited earlier hmem).2⟩

theorem Walk.lt_length (hacyclic : ∀ vertex, ¬ TransGen step vertex vertex) {vertices : List α}
    (hvertices : ∀ length vertex, Walk step start length vertex → vertex ∈ vertices)
    (h : Walk step start length vertex) : length < vertices.length := by
  obtain ⟨visited, hlength, hnodup, hvisited⟩ := h.exists_visited hacyclic
  have hsubset : visited ⊆ vertices := fun earlier hmem => by
    obtain ⟨-, length', hleads⟩ := hvisited earlier hmem
    exact hvertices length' earlier hleads
  have hle := (hnodup.subperm hsubset).length_le
  omega

end Paths

/-! ## Search -/

/-- The vertices that a search has found, and those whose edges it has still to look at. -/
structure Frontier (α : Type) where
  found : List α
  queue : List α

section Search

variable {α : Type} [DecidableEq α]

/-- An edge is looked at: where it begins at the vertex, its end is queued when it is found. -/
def Frontier.look (vertex : α) (frontier : Frontier α) (edge : α × α) : Frontier α :=
  if edge.1 = vertex ∧ edge.2 ∉ frontier.found then
    ⟨frontier.found ++ [edge.2], frontier.queue ++ [edge.2]⟩
  else frontier

/-- All edges are looked at for one vertex. -/
def Frontier.scan (edges : List (α × α)) (vertex : α) (frontier : Frontier α) : Frontier α :=
  edges.foldl (Frontier.look vertex) frontier

/-- The ends of edges that have not been found, and what is in the queue. -/
def Frontier.weight (edges : List (α × α)) (frontier : Frontier α) : Nat :=
  ((edges.map Prod.snd).toFinset \ frontier.found.toFinset).card + frontier.queue.length

variable {edges : List (α × α)} {vertex : α}

theorem Frontier.weight_look (frontier : Frontier α) {edge : α × α} (hedge : edge ∈ edges) :
    (frontier.look vertex edge).weight edges ≤ frontier.weight edges := by
  unfold Frontier.look
  split
  · next hnew =>
    have hmem : edge.2 ∈ (edges.map Prod.snd).toFinset \ frontier.found.toFinset := by
      rw [Finset.mem_sdiff, List.mem_toFinset, List.mem_toFinset]
      exact ⟨List.mem_map_of_mem hedge, hnew.2⟩
    have hunseen : (edges.map Prod.snd).toFinset \ (frontier.found ++ [edge.2]).toFinset =
        ((edges.map Prod.snd).toFinset \ frontier.found.toFinset).erase edge.2 := by
      ext other
      simp only [Finset.mem_sdiff, Finset.mem_erase, List.mem_toFinset, List.mem_append, List.mem_singleton]
      tauto
    have hcard := Finset.card_erase_lt_of_mem hmem
    simp only [weight, hunseen, List.length_append, List.length_singleton]
    omega
  · exact le_rfl

theorem Frontier.weight_foldl (vertex : α) (frontier : Frontier α) {looked : List (α × α)}
    (hlooked : looked ⊆ edges) :
    (looked.foldl (Frontier.look vertex) frontier).weight edges ≤ frontier.weight edges := by
  induction looked generalizing frontier with
  | nil => exact le_rfl
  | cons edge rest ih =>
      obtain ⟨hedge, hrest⟩ := List.cons_subset.mp hlooked
      exact (ih (frontier.look vertex edge) hrest).trans (frontier.weight_look hedge)

/-- The vertices that are found from a frontier. -/
def search (edges : List (α × α)) : Frontier α → List α
  | ⟨found, []⟩ => found
  | ⟨found, vertex :: rest⟩ => search edges ((⟨found, rest⟩ : Frontier α).scan edges vertex)
termination_by frontier => frontier.weight edges
decreasing_by
  have hle := Frontier.weight_foldl vertex ⟨found, rest⟩ (List.Subset.refl edges)
  simp only [Frontier.scan, Frontier.weight, List.length_cons] at hle ⊢
  omega

theorem Frontier.mem_look (vertex : α) (frontier : Frontier α) (edge : α × α) (other : α) :
    (other ∈ (frontier.look vertex edge).found ↔ other ∈ frontier.found ∨ (vertex, other) = edge) ∧
      (other ∈ (frontier.look vertex edge).queue ↔
        other ∈ frontier.queue ∨ other ∉ frontier.found ∧ (vertex, other) = edge) := by
  obtain ⟨first, second⟩ := edge
  unfold Frontier.look
  split
  · next hnew =>
    obtain ⟨rfl, hnot⟩ := hnew
    simp only [List.mem_append, List.mem_singleton, Prod.mk.injEq, true_and]
    exact or_congr_right ⟨fun heq => ⟨heq ▸ hnot, heq⟩, And.right⟩
  · next hold =>
    have hseen : (vertex, other) = (first, second) → other ∈ frontier.found := by
      rintro ⟨⟩
      exact by_contra fun hnot => hold ⟨rfl, hnot⟩
    constructor
    · exact ⟨.inl, fun h => h.elim id hseen⟩
    · exact ⟨.inl, fun h => h.elim id fun hnew => absurd (hseen hnew.2) hnew.1⟩

theorem Frontier.mem_scan (edges : List (α × α)) (frontier : Frontier α) (other : α) :
    (other ∈ (frontier.scan edges vertex).found ↔ other ∈ frontier.found ∨ (vertex, other) ∈ edges) ∧
      (other ∈ (frontier.scan edges vertex).queue ↔
        other ∈ frontier.queue ∨ other ∉ frontier.found ∧ (vertex, other) ∈ edges) := by
  induction edges generalizing frontier with
  | nil => simp [Frontier.scan]
  | cons edge rest ih =>
      obtain ⟨hfound, hqueue⟩ := ih (frontier.look vertex edge)
      obtain ⟨hlooked, hqueued⟩ := frontier.mem_look vertex edge other
      have hscan : frontier.scan (edge :: rest) vertex = (frontier.look vertex edge).scan rest vertex := rfl
      rw [hscan, hfound, hqueue, hlooked, hqueued, List.mem_cons]
      exact ⟨or_assoc, by tauto⟩

/-- A search from a vertex: what is found is reached, and only the edges from vertices in the queue have not
been looked at. -/
structure Frontier.Explores (edges : List (α × α)) (origin : α) (frontier : Frontier α) : Prop where
  sound : ∀ vertex ∈ frontier.found, TransGen (fun first second => (first, second) ∈ edges) origin vertex
  queued : ∀ vertex ∈ frontier.queue, vertex = origin ∨ vertex ∈ frontier.found
  closed : ∀ vertex, vertex = origin ∨ vertex ∈ frontier.found → vertex ∉ frontier.queue →
    ∀ next, (vertex, next) ∈ edges → next ∈ frontier.found

theorem Frontier.Explores.scan {origin : α} {found rest : List α}
    (h : Frontier.Explores edges origin ⟨found, vertex :: rest⟩) :
    ((⟨found, rest⟩ : Frontier α).scan edges vertex).Explores edges origin where
  sound other hother := by
    rcases ((Frontier.mem_scan edges _ other).1).mp hother with hold | hedge
    · exact h.sound other hold
    · rcases h.queued vertex List.mem_cons_self with rfl | hfound
      · exact .single hedge
      · exact (h.sound vertex hfound).tail hedge
  queued other hother := by
    rw [(Frontier.mem_scan edges _ other).1]
    rcases ((Frontier.mem_scan edges _ other).2).mp hother with hold | hnew
    · exact (h.queued other (List.mem_cons_of_mem _ hold)).imp_right .inl
    · exact .inr (.inr hnew.2)
  closed other hother hqueue next hedge := by
    rw [(Frontier.mem_scan edges _ next).1]
    rw [(Frontier.mem_scan edges _ other).1] at hother
    rw [(Frontier.mem_scan edges _ other).2, not_or] at hqueue
    by_cases hvertex : other = vertex
    · exact .inr (hvertex ▸ hedge)
    · -- A vertex that has been found just now is in the queue.
      have hold : other = origin ∨ other ∈ found := by
        rcases hother with horigin | hfound | hnew
        · exact .inl horigin
        · exact .inr hfound
        · exact .inr (by_contra fun hnot => hqueue.2 ⟨hnot, hnew⟩)
      have hbefore : other ∉ vertex :: rest := by
        rw [List.mem_cons, not_or]
        exact ⟨hvertex, hqueue.1⟩
      exact .inl (h.closed other hold hbefore next hedge)

theorem Frontier.Explores.mem_search {origin : α} {frontier : Frontier α} (h : frontier.Explores edges origin)
    (other : α) :
    other ∈ search edges frontier ↔ TransGen (fun first second => (first, second) ∈ edges) origin other := by
  fun_induction search edges frontier with
  | case1 found =>
      refine ⟨h.sound other, fun hreach => ?_⟩
      induction hreach with
      | single hedge => exact h.closed origin (.inl rfl) List.not_mem_nil _ hedge
      | tail _ hedge ih => exact h.closed _ (.inr ih) List.not_mem_nil _ hedge
  | case2 found vertex rest ih => exact ih h.scan

theorem mem_search_iff (edges : List (α × α)) (origin other : α) :
    other ∈ search edges ⟨[], [origin]⟩ ↔
      TransGen (fun first second => (first, second) ∈ edges) origin other := by
  have hstart : Frontier.Explores edges origin ⟨[], [origin]⟩ := by
    refine ⟨fun _ h => absurd h List.not_mem_nil, fun vertex h => ?_, fun vertex h hqueue => ?_⟩
    · exact .inl (List.mem_singleton.mp h)
    · obtain rfl : vertex = origin := h.resolve_right List.not_mem_nil
      exact absurd (List.mem_singleton_self vertex) hqueue
  exact hstart.mem_search other

end Search

end IntegrationPlatform
