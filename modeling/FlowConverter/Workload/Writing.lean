import FlowConverter.Wdl.Document
import FlowConverter.Wdl.WorkflowText
import FlowConverter.Workload.Reading

/-! Workloads that take sample records in, and that write them out. -/
namespace FlowConverter.Workload

private def names (vs : List Value) : Yield := .value (.list vs)

/-- What a document names: its tasks, the inputs of these, its workflow and the calls of that. -/
def documentSummary (d : Wdl.Document) : Yield :=
  let tasks := d.tasks.getD []
  .several [names (tasks.map (·.name)),
    names (tasks.flatMap fun t => t.inputs.map fun i => .list [i.name, i.type]),
    .value ((d.workflow.map (·.name)).getD .null),
    .value ((d.workflow.map fun w => Value.list (w.steps.map (·.taskId))).getD .null)]

private def documentRecord (tasks workflow : Value) : Value :=
  .mapping [("tasks", tasks), ("workflow", workflow), ("workflows", workflow)]

/-- Takes in documents of every shape, faulty ones among them, and then single parts. -/
def takeRecords (n : Int) : Except Fault Yield := do
  let task := taskRecord n
  let tasks := Value.list [task, task, task]
  let w ← workflowRecord (share 2 n 8) true task stepNames
  let documents := [documentRecord tasks w, documentRecord tasks .null,
    documentRecord (.list []) w, documentRecord .null .null,
    documentRecord (.str "no list") .null, documentRecord (.list [.str "no mapping"]) .null,
    documentRecord tasks (.str "no mapping")]
  let single := task.set "baseCommand" (.str "single")
  pure (.several (documents.map (fun r => .ofOutcome documentSummary (Wdl.Document.ofRecord r)) ++
    [.ofOutcome (fun t => .value t.name) (Wdl.Task.ofRecord task),
     .ofOutcome (fun t => .value t.command.base) (Wdl.Task.ofRecord single),
     .ofOutcome (fun w => .value w.name) (Wdl.Workflow.ofRecord w)]))

/-- Lets the value of every argument stand apart from its flag. -/
def separated (t : Wdl.Task) : Wdl.Task :=
  t.setSeparate (t.command.arguments.map fun _ => .bool true)

/-- Writes a task. -/
def writeTask (n : Int) : Except Fault Yield := do
  pure (.text (← (separated (← Wdl.Task.ofRecord (taskRecord n))).text))

/-- Writes a workflow with a subworkflow. -/
def writeWorkflow (n : Int) : Except Fault Yield := do
  let w ← Wdl.Workflow.ofRecord (← workflowRecord n true (taskRecord 24) stepNames)
  pure (.text (← (w.mapTasks separated).text))

end FlowConverter.Workload
