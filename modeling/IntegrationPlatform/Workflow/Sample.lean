import IntegrationPlatform.Workflow.Runs

/-!
# A small engine

An engine for concrete runs. Its helpers compute what the helpers of the source do on texts
without placeholders, on paths that are plain keys of the data, and on empty mappings, and the
sample workflows use no others.
-/

namespace IntegrationPlatform.Sample

open Resumption

def engine (workflows : List Workflow) : WorkflowEngine where
  workflows := workflows
  resolveValue path scope := (scope.data.find path).getD .null
  interpolateString text _ := text
  interpolateDict value _ := value
  evaluateCondition _ _ := .ok false
  applyFieldMapping _ _ := .ok []
  aggregate _ source := (.ok [], source)
  buildMockOutput _ := .ok []
  collectFieldPaths _ := []
  redactByPaths value _ := value
  classifyPrompt _ := ""
  safeTruncate value := value
  toStr value :=
    match value with
    | .str text => text
    | _ => ""
  jsonLoads _ := none
  strip text := text
  lower text := text
  upper text := text

/-- The world outside: the action `get` returns, and every other call of a connector raises. -/
def answer : (request : Request) → Reply request
  | .action call =>
      if call.action = "get" then .ok (.dict [("got", .str call.connectorName)])
      else .error ⟨"connector error", none⟩
  | .credentials .. => .ok (none, "http://connector:8000")
  | .http _ => .error ⟨"connection refused", none⟩
  | .sleep _ => ()
  | .newExecution workflowId => "run of " ++ workflowId

def first (width : Nat) : Fin (width + 1) := 0

def last (width : Nat) : Fin (width + 1) := Fin.last width

def trigger : Node where
  id := "start"
  type := .trigger

def action (id name : String) (onError : Option OnError) (maxRetries : Option Int) : Node where
  id := id
  type := .action
  config := { connectorName := some "api", action := some name, onError, maxRetries }

theorem answer_any (request : Request) : anyReply request (answer request) :=
  trivial

theorem absent (test : Event → Bool) {trace : List Event} (h : trace.any test = false) {event : Event}
    (hevent : test event = true) : event ∉ trace :=
  fun hmem => List.any_eq_false.mp h event hmem hevent

end IntegrationPlatform.Sample
