import FlowConverter.Cwl.Tool

/-! Workflows and their steps. A step runs something by name, or the tools of a file; how such a file
is read is a parameter here. -/
namespace FlowConverter.Cwl

structure StepInput where
  id : String
  value : Option String

def StepInput.toRecord (i : StepInput) : Value :=
  .mapping [("id", .str i.id), ("value", .ofText? i.value)]

structure Step where
  taskId : String
  inputs : List StepInput
  /-- Each output as it stands, its id without marks. -/
  outputs : List Value
  /-- The tools of the file that the step runs. -/
  definition : Option (List Tool)
  importStatement : Option String

def Step.toRecord (s : Step) : Value :=
  .mapping [("task_id", .str s.taskId), ("inputs", .list (s.inputs.map (·.toRecord))),
    ("outputs", .list s.outputs),
    ("task_definition",
      match s.definition with
      | some tools => .list (tools.map (·.toRecord))
      | none => .null),
    ("import_statement", .ofText? s.importStatement)]

structure Workflow where
  name : String
  inputs : List InputParameter
  outputs : List OutputParameter
  steps : List Step
  requirements : List Requirement

def Workflow.toRecord (w : Workflow) : Value :=
  .mapping [("name", .str w.name), ("inputs", .list (w.inputs.map (·.toRecord))),
    ("outputs", .list (w.outputs.map (·.toRecord))),
    ("steps", .list (w.steps.map (·.toRecord))),
    ("requirements", .list (w.requirements.map (·.toRecord)))]

/-- The ending of the files that a step can run. -/
def runEnding : String := ".cwl"

def runsFile (run : String) : Bool := runEnding.toList.isSuffixOf run.toList

/-- The file name of what a step runs, without ending and marks. -/
def taskIdOf (run : String) : String := Text.deleteWords [runEnding, "#"] (Path.baseName run)

/-- What a step runs, as a text. No run with an import in it is understood. -/
def readRun (step : Value) : Except Fault String := do
  let run ← step.get "run"
  if ← run.has "import" then throw .wrongKind
  match run with
  | .str s => pure s
  | _ => throw .notText

/-- The value of a step input: several sources stand side by side. -/
def readStepValue : Value → Except Fault (Option String)
  | .null => pure none
  | .list sources => do pure (some (" ".intercalate (← sources.mapM (·.stripMarks))))
  | v => pure (some (Text.strip '#' v.text))

def StepInput.read (input : Value) : Except Fault StepInput := do
  let id ← (← input.get "id").stripMarks
  let value ←
    if ← input.has "source" then input.get "source" else input.getOrNull "default"
  pure { id := id, value := ← readStepValue value }

def StepInput.readAll (inputs : Value) : Except Fault (List StepInput) := do
  (← inputs.items).mapM StepInput.read

def readStepOutput (output : Value) : Except Fault Value := do
  let id ← (← output.get "id").stripMarks
  pure (output.set "id" (.str id))

def readStepOutputs (outputs : Value) : Except Fault (List Value) := do
  (← outputs.items).mapM readStepOutput

/-- The tools of the file at `run`, if it is a file. -/
def readDefinition (ws : Workspace) (inner : String → Report (Option (List Tool)))
    (sourceDir : Value) (run : String) : Report (Option (List Tool)) := do
  if runsFile run then
    match ← ws.locate sourceDir run with
    | some file => inner file
    | none => Logged.fail (.runNotFound run)
  else pure none

/-- One step; `inner` reads the tools of a file. -/
def Step.read (ws : Workspace) (inner : String → Report (Option (List Tool)))
    (sourceDir step : Value) : Report Step := do
  let run ← readRun step
  let definition ← readDefinition ws inner sourceDir run
  let inputs ← StepInput.readAll (← step.get "inputs")
  let outputs ← readStepOutputs (← step.get "outputs")
  pure {
    taskId := taskIdOf run
    inputs := inputs
    outputs := outputs
    definition := definition
    importStatement := if runsFile run then some ("import " ++ run) else none }

def Step.readAll (ws : Workspace) (inner : String → Report (Option (List Tool)))
    (sourceDir steps : Value) : Report (List Step) := do
  (← steps.items).mapM (Step.read ws inner sourceDir)

/-- A workflow without label and id has the name `fileName`. -/
def Workflow.read (ws : Workspace) (bound : Nat) (inner : String → Report (Option (List Tool)))
    (sourceDir : Value) (fileName : String) (workflow : Value) : Report Workflow := do
  let name ← partName workflow (pure fileName)
  let inputs ← InputParameter.readAll (← workflow.get "inputs")
  let outputs ← OutputParameter.readAll (← workflow.get "outputs")
  let steps ← Step.readAll ws inner sourceDir (← workflow.get "steps")
  let requirements ← Requirement.readPart ws bound sourceDir workflow
  pure {
    name := name
    inputs := inputs
    outputs := outputs
    steps := steps
    requirements := requirements }

end FlowConverter.Cwl
