import FlowConverter.Cwl.Parameter
import FlowConverter.Cwl.Requirement

/-! Command-line tools. -/
namespace FlowConverter.Cwl

structure Tool where
  name : String
  baseCommand : Value
  arguments : List Argument
  inputs : List InputParameter
  outputs : List OutputParameter
  requirements : List Requirement
  stdin : Option String
  stdout : Option String

def Tool.toRecord (t : Tool) : Value :=
  .mapping [("name", .str t.name), ("baseCommand", t.baseCommand),
    ("arguments", .list (t.arguments.map (·.toRecord))),
    ("inputs", .list (t.inputs.map (·.toRecord))),
    ("outputs", .list (t.outputs.map (·.toRecord))),
    ("requirements", .list (t.requirements.map (·.toRecord))),
    ("stdin", .ofText? t.stdin), ("stdout", .ofText? t.stdout)]

/-- A stream of a tool, if it names one; `clean` is for texts. -/
def readStream (tool : Value) (stream : Stream) (clean : String → String) :
    Report (Option String) := do
  if ← tool.has stream.name then
    match ← tool.get stream.name with
    | .str s => pure (some (clean s))
    | v =>
      Report.warn (.streamExpression v stream)
      pure (some v.text)
  else pure none

/-- A tool without label and id is named by its base command. -/
def Tool.read (ws : Workspace) (bound : Nat) (sourceDir tool : Value) : Report Tool := do
  let name ← partName tool (do (← tool.get "baseCommand").join "_")
  let arguments ← Argument.readOf tool
  let baseCommand ← tool.get "baseCommand"
  let inputs ← InputParameter.readAll (← tool.get "inputs")
  let outputs ← OutputParameter.readAll (← tool.get "outputs")
  let requirements ← Requirement.readPart ws bound sourceDir tool
  let stdout ← readStream tool .stdout fun s => safeName (dropReference s)
  let stdin ← readStream tool .stdin id
  pure {
    name := name
    baseCommand := baseCommand
    arguments := arguments
    inputs := inputs
    outputs := outputs
    requirements := requirements
    stdin := stdin
    stdout := stdout }

end FlowConverter.Cwl
