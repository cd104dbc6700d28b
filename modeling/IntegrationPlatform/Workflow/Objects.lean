import IntegrationPlatform.Json.Targets
import IntegrationPlatform.Workflow.Graph

/-!
# Objects that are changed in place

Contexts are modelled by their values. In the engine they refer to objects, and some nodes change objects
in place that are part of something else as well: a mapping that goes on into what an earlier rule has
assigned, an aggregation that marks the products of the branches, an error handler that writes into the
data which a response node has put out. A node can also put an object of its configuration into the
context, which all its activations share.
-/

namespace IntegrationPlatform

/-! ## Mapping rules -/

/-- `rule.get(key)`. -/
def ruleField (rule : Value) (key : String) : Value :=
  match rule with
  | .dict fields => (Assoc.find fields key).getD .null
  | _ => .null

/-- The target of a mapping rule. -/
def ruleTarget (rule : Value) : String :=
  match ruleField rule "to" with
  | .str target =>
      if target = "__custom__" then
        match ruleField rule "to_custom" with
        | .str target => target
        | _ => ""
      else target
  | _ => ""

-- The second rule writes a country into the address that the first one has mapped.
example : ¬ Value.Separate ([.dict [("from", .str "address"), ("to", .str "dest")],
    .dict [("from", .str "vars.code"), ("to", .str "dest.country")]].map ruleTarget) := by decide

/-- The values of an object. -/
def entriesOf : Value → List Value
  | .dict fields => fields.map Prod.snd
  | _ => []

/-- The values of a mapping rule that it may assign as they are. -/
def ruleValues (rule : Value) : List Value :=
  ruleField rule "from_custom" :: (Value.listed (ruleField rule "transform")).flatMap fun step =>
    [ruleField step "default_value", ruleField step "default"] ++
      entriesOf (ruleField step "values") ++ entriesOf (ruleField step "table")

/-! ## Nodes -/

/-- An action of an error handler that writes into `ctx.data`. -/
def HandlerAction.writesData : HandlerAction → Bool
  | .transform _ => true
  | _ => false

/-- The values of an action of an error handler that it may assign as they are. -/
def HandlerAction.values : HandlerAction → List Value
  | .setVariable _ value => value.toList
  | .transform mappings => (mappings.getD []).map Prod.snd
  | _ => []

namespace Node

/-- The values of its configuration that a node may put into the context as they are, or into that of its
sub-workflow. -/
def handsOut (node : Node) : List Value :=
  match node.type with
  | .action => (node.config.fieldMapping.getD []).flatMap ruleValues
  | .transform =>
      (node.config.mappings.getD []).flatMap ruleValues ++ (node.config.expressions.getD []).map Prod.snd
  | .switch =>
      node.config.defaultHandle.toList ++ (node.config.cases.getD []).filterMap SwitchCase.handle
  | .subWorkflow => (node.config.inputMapping.getD []).map Prod.snd
  | .errorHandler => (node.config.actions.getD []).flatMap HandlerAction.values
  | _ => []

/-- The node changes in place only objects that it has made itself. -/
def KeepsObjects (workflow : Workflow) (node : Node) : Prop :=
  match node.type with
  | .action => Value.Separate ((node.config.fieldMapping.getD []).map ruleTarget)
  | .transform => Value.Separate ((node.config.mappings.getD []).map ruleTarget)
  | .aggregate => False
  | .errorHandler =>
      (∀ action ∈ node.config.actions.getD [], action.writesData = false) ∨
        ∀ other ∈ workflow.nodes, other.type = .response → (other.config.body.getD .null).truthy = true
  | _ => True

instance (workflow : Workflow) (node : Node) : Decidable (node.KeepsObjects workflow) := by
  unfold KeepsObjects
  split <;> infer_instance

end Node

end IntegrationPlatform
