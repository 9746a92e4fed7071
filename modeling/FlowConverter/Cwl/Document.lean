import FlowConverter.Cwl.Workflow

/-! Whole documents: a tool, a workflow, or a list of both packed into one file. A document whose
steps run other files is read together with them, nested as deep as the bound allows. -/
namespace FlowConverter.Cwl

structure Document where
  tasks : Option (List Tool)
  workflow : Option Workflow

def Document.toRecord (d : Document) : Value :=
  .mapping [
    ("tasks",
      match d.tasks with
      | some tools => .list (tools.map (·.toRecord))
      | none => .null),
    ("workflow",
      match d.workflow with
      | some w => w.toRecord
      | none => .null)]

/-- Reads the parts of one class, in order. -/
def readParts {α : Type} (className : String) (read : Value → Report α) (parts : List Value) :
    Report (List α) :=
  parts |> Logged.gather fun part => do
    if (← part.get "class").equals (.str className) then pure [← read part] else pure []

/-- The name that a file lends to its workflow. -/
def fileLabel (path : String) : String := Text.deleteWords [".yaml"] (Path.baseName path)

/-- The document that a value describes, given how its parts are read. Of several workflows in a
list the first counts, and a list needs one. -/
def Document.ofValue (tool : Value → Report Tool) (workflow : Value → Report Workflow) :
    Value → Report Document
  | .list parts => do
    let tools ← readParts "CommandLineTool" tool parts
    let workflows ← readParts "Workflow" workflow parts
    match workflows with
    | first :: _ => pure ⟨some tools, some first⟩
    | [] => Logged.fail .outOfRange
  | .mapping fields => do
    let name ← (Value.mapping fields).get "class"
    if name.equals (.str "CommandLineTool") then
      pure ⟨some [← tool (.mapping fields)], none⟩
    else if name.equals (.str "Workflow") then
      pure ⟨none, some (← workflow (.mapping fields))⟩
    else Logged.fail (.unrecognizedClass name)
  | _ => Logged.fail .notADocument

/-- The document at a path, with imports nested `bound` deep at most. -/
def Document.read (ws : Workspace) : Nat → String → Report Document
  | 0, _ => Logged.fail .nestingTooDeep
  | bound + 1, path => do
    let value ← ws.read path
    let sourceDir := Value.str (ws.directoryOf path)
    let inner (file : String) : Report (Option (List Tool)) := do
      pure (← Document.read ws bound file).tasks
    Document.ofValue (Tool.read ws bound sourceDir)
      (Workflow.read ws bound inner sourceDir (fileLabel path)) value

/-- The bound that conversions use. -/
def nestingBound : Nat := 330

end FlowConverter.Cwl
