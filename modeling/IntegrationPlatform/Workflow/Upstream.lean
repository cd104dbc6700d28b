import IntegrationPlatform.Gateway.Records
import IntegrationPlatform.Graphs.Reachability

/-!
# Upstream nodes

The workflow editor offers the outputs of the nodes upstream of a node as sources of its fields, and looks for
them along the edges with a queue. Whatever the edges, with cycles too, it finds exactly the nodes from which a
path leads to the node, and stops (`mem_sourceActions`).
-/

namespace IntegrationPlatform

namespace Editor

open Gateway

variable (edges : List WorkflowEdge) {nodeId other : String}

/-- `getUpstreamNodeIds`, in the order in which the nodes are found. -/
def getUpstreamNodeIds (nodeId : String) : List String :=
  search (edges.map fun edge => (edge.target, edge.source)) ⟨[], [nodeId]⟩

/-- The action nodes whose output fields `getSourceFieldsForNode` offers to a node. -/
def sourceActions (nodes : List WorkflowNode) (nodeId : String) : List WorkflowNode :=
  nodes.filter fun node => node.type == "action" && node.id != nodeId &&
    (getUpstreamNodeIds edges nodeId).contains node.id

/-- An edge leads from one node to the other. -/
def Flows (source target : String) : Prop :=
  ∃ edge ∈ edges, edge.source = source ∧ edge.target = target

theorem mem_getUpstreamNodeIds :
    other ∈ getUpstreamNodeIds edges nodeId ↔ Relation.TransGen (Flows edges) other nodeId := by
  rw [getUpstreamNodeIds, mem_search_iff, ← Relation.transGen_swap]
  have hstep : ∀ first second, (first, second) ∈ edges.map (fun edge => (edge.target, edge.source)) ↔
      Function.swap (Flows edges) first second := by
    intro first second
    rw [List.mem_map]
    refine exists_congr fun edge => and_congr_right fun _ => ?_
    rw [Prod.mk.injEq, and_comm]
  simp only [hstep]

/-- The actions whose fields are offered to a node are the other ones from which a path leads to it. -/
theorem mem_sourceActions (nodes : List WorkflowNode) (nodeId : String) (node : WorkflowNode) :
    node ∈ sourceActions edges nodes nodeId ↔
      node ∈ nodes ∧ node.type = "action" ∧ node.id ≠ nodeId ∧
        Relation.TransGen (Flows edges) node.id nodeId := by
  rw [sourceActions, List.mem_filter, Bool.and_eq_true, Bool.and_eq_true, beq_iff_eq, bne_iff_ne,
    List.contains_iff_mem, mem_getUpstreamNodeIds, and_assoc]

end Editor

end IntegrationPlatform
