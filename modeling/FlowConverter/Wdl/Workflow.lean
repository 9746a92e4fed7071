import FlowConverter.Wdl.Task

/-! Workflows, taken from records. A workflow calls tasks in its steps and further workflows in its
subworkflows. -/
namespace FlowConverter.Wdl

structure StepInput where
  id : Value
  value : Value

def StepInput.ofRecord (r : Value) : Except Fault StepInput := do
  pure { id := ← r.get "id", value := ← r.get "value" }

structure StepOutput where
  id : Value

def StepOutput.ofRecord (r : Value) : Except Fault StepOutput := do
  pure { id := ← r.get "id" }

/-- A call of a task, with the task's definition if it is known. -/
structure Step where
  taskId : Value
  definition : Option Task
  importStatement : Value
  inputs : List StepInput
  outputs : List StepOutput
  scatter : Value

def Step.ofRecord (r : Value) : Except Fault Step := do
  pure {
    taskId := ← r.get "task_id"
    definition := ← do
      match ← r.get "task_definition" with
      | .null => pure none
      | task => pure (some (← Task.ofRecord task))
    importStatement := ← r.getOr "import_statement" (.str "")
    inputs := ← ofRecords StepInput.ofRecord (← r.get "inputs")
    outputs := ← ofRecords StepOutput.ofRecord (← r.get "outputs")
    scatter := ← r.getOr "scatter" (.list []) }

/-- A call of something that is itself made of `W`. -/
structure SubCall (W : Type) where
  taskId : Value
  definition : W
  inputs : List StepInput
  outputs : List StepOutput
  scatter : Value

structure Workflow where
  name : Value
  inputs : List Input
  outputs : List Output
  steps : List Step
  subworkflows : List (SubCall Workflow)
  requirements : List Requirement

abbrev SubWorkflow := SubCall Workflow

/-- A call of a workflow, given how its definition is read. -/
def SubCall.ofRecord {W : Type} (definition : Value → Except Fault W) (r : Value) :
    Except Fault (SubCall W) := do
  pure {
    taskId := ← r.get "id"
    definition := ← definition (← r.get "definition")
    inputs := ← ofRecords StepInput.ofRecord (← r.get "inputs")
    outputs := ← ofRecords StepOutput.ofRecord (← r.get "outputs")
    scatter := ← r.getOr "scatter" (.list []) }

/-- A workflow whose record is nested `depth` deep at most. A value without any depth is no record. -/
def Workflow.ofRecordWithin : Nat → Value → Except Fault Workflow
  | 0, _ => throw .wrongKind
  | depth + 1, r => do
    pure {
      name := ← r.get "name"
      inputs := ← ofRecords Input.ofRecord (← r.get "inputs")
      outputs := ← ofRecords Output.ofRecord (← r.get "outputs")
      steps := ← ofRecords Step.ofRecord (← r.get "steps")
      subworkflows := ← ofRecords (SubCall.ofRecord (ofRecordWithin depth))
        (← r.getOr "subworkflows" (.list []))
      requirements := ← ofRecords Requirement.ofRecord (← r.get "requirements") }

def Workflow.ofRecord (r : Value) : Except Fault Workflow := ofRecordWithin r.depth r

def SubWorkflow.ofRecord (r : Value) : Except Fault SubWorkflow :=
  SubCall.ofRecord Workflow.ofRecord r

mutual

/-- The workflow with every task in it changed, at any depth. -/
def Workflow.mapTasks (f : Task → Task) : Workflow → Workflow
  | ⟨name, inputs, outputs, steps, subworkflows, requirements⟩ =>
    ⟨name, inputs, outputs, steps.map fun s => { s with definition := s.definition.map f },
      mapTasksOfCalls f subworkflows, requirements⟩

def mapTasksOfCalls (f : Task → Task) : List (SubCall Workflow) → List (SubCall Workflow)
  | [] => []
  | s :: rest => mapTasksOfCall f s :: mapTasksOfCalls f rest

def mapTasksOfCall (f : Task → Task) : SubCall Workflow → SubCall Workflow
  | ⟨taskId, definition, inputs, outputs, scatter⟩ =>
    ⟨taskId, definition.mapTasks f, inputs, outputs, scatter⟩

end

/-- Sets the separation of arguments in the task of every step; subworkflows are left alone. -/
def Workflow.setSeparate (flags : List Value) (w : Workflow) : Workflow :=
  { w with steps := w.steps.map fun s =>
    { s with definition := s.definition.map (Task.setSeparate flags) } }

end FlowConverter.Wdl
