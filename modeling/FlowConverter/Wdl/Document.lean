import FlowConverter.Wdl.Workflow

/-! Whole documents, taken from records: some tasks, a workflow, or both. -/
namespace FlowConverter.Wdl

structure Document where
  tasks : Option (List Task)
  workflow : Option Workflow

/-- The tasks of a record; every one has to be a mapping before any is read. -/
def readTasks : Value → Except Fault (Option (List Task))
  | .null => pure none
  | .list tasks =>
    if tasks.all (·.isMapping) then do pure (some (← tasks.mapM Task.ofRecord))
    else throw .misshapenDocument
  | _ => throw .misshapenDocument

def readWorkflow : Value → Except Fault (Option Workflow)
  | .null => pure none
  | .mapping fields => do pure (some (← Workflow.ofRecord (.mapping fields)))
  | _ => throw .misshapenDocument

/-- A record without tasks is asked for `workflows`, which is another key than `workflow`. -/
def Document.ofRecord (r : Value) : Except Fault Document := do
  let tasks ← r.get "tasks"
  if tasks.isNull then
    if (← r.get "workflows").isNull then throw .emptyDocument
  let tasks ← readTasks tasks
  pure { tasks := tasks, workflow := ← readWorkflow (← r.get "workflow") }

end FlowConverter.Wdl
