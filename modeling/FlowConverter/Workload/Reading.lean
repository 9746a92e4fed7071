import FlowConverter.Cwl.Document
import FlowConverter.Workload.Samples
import FlowConverter.Workload.Yield

/-! Workloads that read sample documents. All files of a sample lie in one directory. -/
namespace FlowConverter.Workload

/-- The directory of the sample files. -/
def sampleDirectory : List String := ["samples"]

/-- A workspace that runs in the sample directory and holds the given files there. -/
def sampleWorkspace (files : List (String × Value)) : Workspace :=
  { files := files.map fun (name, v) => (sampleDirectory ++ [name], v)
    directory := sampleDirectory }

private def sampleSource : Value := .str (Path.ofLocation sampleDirectory)

/-- A share of a size that never falls below a least number. -/
def share (least size parts : Int) : Int := max least (Int.fdiv size parts)

private def described (kind : String) : Value := .mapping [("type", .str kind)]

private def image (key name : String) : Value :=
  .mapping [("class", .str "DockerRequirement"), (key, .str name)]

private def importedFiles : List (String × Value) :=
  [("imported.yml", .list [image "dockerPull" "imported:1"]),
   ("single.yml", image "dockerImageId" "single:1")]

private def refusedTypes : List Value :=
  [described "enum", described "record", .list [.str "null", described "enum"],
   .list [.str "null", described "record"], .str "totally-unknown-type"]

private def decidedTypes : List Value :=
  [.str "null", described "File", .list [.str "File", .str "string"]]

private def unlistedArguments : List Value :=
  [.mapping [("arguments", .str "just-a-string")], .mapping [("arguments", .mapping [])]]

/-- Reads a tool of every variant, then parameter types and arguments in their rarer forms. The last
part stands for an expression: none is converted. -/
def readTools (n : Int) : Except Fault Yield := do
  let ws := sampleWorkspace importedFiles
  let tools := [tool n (share 4 n 4) 0 (.str "imported.yml") .null,
    tool n (share 4 n 4) 1 .null (.str "single.yml"), tool n (share 4 n 4) 2 .null .null]
  pure (.several (
    tools.map (fun t => .ofReport (fun r => .value r.toRecord)
      (Cwl.Tool.read ws Cwl.nestingBound sampleSource t)) ++
    refusedTypes.map (fun t => Yield.message (Cwl.ParameterType.read t)) ++
    decidedTypes.map (fun t => .ofOutcome (fun b => .value (.bool b)) (Cwl.isRequired t)) ++
    unlistedArguments.map (fun a =>
      .ofOutcome (fun args => .value (.list (args.map (·.toRecord)))) (Cwl.Argument.readAll a)) ++
    [.value .null]))

/-- Lets the step at an index run something else. -/
def setRun (index : Nat) (run w : Value) : Except Fault Value := do
  let steps ← (← w.get "steps").items
  match steps[index]? with
  | some s => pure (w.set "steps" (.list (steps.set index (s.set "run" run))))
  | none => throw .outOfRange

/-- The name of a workflow, how many steps it has, how many values it names, and what its first step
calls. The values are its inputs, and each step with its outputs. -/
def workflowSummary (w : Cwl.Workflow) : List Yield :=
  let values := w.steps.foldl (fun n s => n + 1 + s.outputs.length) w.inputs.length
  [.text w.name, .value (.int w.steps.length), .value (.int values),
   .value (.ofText? (w.steps.head?.map (·.taskId)))]

private def readSampleWorkflow (w : Value) : Report Cwl.Workflow :=
  let ws := sampleWorkspace [("steptool.cwl", tool 2 1 2 .null .null)]
  let inner (file : String) : Report (Option (List Cwl.Tool)) := do
    pure (← Cwl.Document.read ws Cwl.nestingBound file).tasks
  Cwl.Workflow.read ws Cwl.nestingBound inner sampleSource "parentfile" w

private def summarised (w : Value) : List Yield :=
  match (readSampleWorkflow w).outcome with
  | .ok w => workflowSummary w
  | .error f => [.fault f]

/-- Reads a workflow of every variant, and two that cannot be read: they fail in the second step. -/
def readWorkflows (n : Int) : Except Fault Yield := do
  let runs : Value := .list [.str "#inlineA", .str "#inlineB"]
  let whole ← [0, 1, 2, 3].mapM (workflow n runs)
  let broken ← [Value.mapping [("import", .str "steptool.cwl")], .str "missing.cwl"].mapM
    fun run => do setRun 1 run (← workflow n runs 3)
  let first ← setRun 0 (.str "steptool.cwl") (← workflow n runs 0)
  pure (.several ((first :: whole.drop 1 ++ broken).flatMap summarised))

private def readSample (name : String) (v : Value) : Report Cwl.Document :=
  Cwl.Document.read (sampleWorkspace [(name, v)]) Cwl.nestingBound name

private def readOrExplain (name : String) (v : Value) : Yield :=
  match (readSample name v).outcome with
  | .ok d => .value d.toRecord
  | .error f => .several [.text "err", .value (.ofText? f.message)]

/-- Reads a tool, a workflow, both packed into one file, and two files that are no documents. -/
def readDocuments (n : Int) : Except Fault Yield := do
  let sampleTool := tool n (share 4 n 4) 2 .null .null
  let steps ← workflow (share 4 n 4) (.list [.str "#inlineA", .str "#inlineB"]) 3
  let packed ← workflow 2 (.list [.str "#inline"]) 3
  pure (.several [readOrExplain "tool.yaml" sampleTool, readOrExplain "wf.yaml" steps,
    readOrExplain "combo.yaml" (.list [sampleTool, packed]),
    readOrExplain "odd.yaml" (.mapping [("class", .str "SomethingElse")]),
    readOrExplain "text.yaml" (.str "no document")])

end FlowConverter.Workload
