import FlowConverter.CommandLine.Run
import FlowConverter.Workload.Reading

/-! A workload of command lines over a sample tool, and over a smaller tool packed together with a
workflow. Neither tool has hints, so the texts have no runtime section. -/
namespace FlowConverter.Workload

private def withoutHints : Value → Value
  | .mapping fields => .mapping (fields.filter fun f => f.1 != "hints")
  | v => v

/-- A tool without outputs, whose inputs take turns in the first four kinds only. -/
def plainTool (n : Int) : Value :=
  (withoutHints (tool 0 0 2 .null .null)).set "inputs"
    (.list ((below n).map fun i => inputParameter i (Int.fmod i 4)))

/-- A small tool and a workflow in one document. Every other step calls the task that the ids of its
inputs begin with. -/
def packedDocument (n : Int) : Except Fault Value := do
  let small := withoutHints (tool (share 2 n 8) (share 2 n 8) 2 .null .null)
  let steps ← workflow (share 2 n 4) (.list [.str "#t", .str "#other"]) 1
  pure (.list [small, steps])

/-- Refuses every text with a workflow in it. -/
def taskValidator : CommandLine.Validator := fun _ text =>
  if Value.occursIn "workflow".toList text.toList then .error (.invalidText "workflow")
  else .ok "AST"

private def commandLines : List (List String) :=
  [["tool.yaml"], ["tool.yaml", "--validate"], ["tool.yaml", "-f", "ast"], ["packed.yaml"],
   ["missing.yaml"], ["packed.yaml", "--validate"]]

private def endingOf (t : CommandLine.Transcript) : Yield :=
  match t.ending with
  | .failed f => .fault f
  | _ => .text "ok"

/-- How each command line ends, and how many characters all of them print. -/
def runCommandLines (n : Int) : Except Fault Yield := do
  let ws := sampleWorkspace [("tool.yaml", plainTool n), ("packed.yaml", ← packedDocument n)]
  let runs := commandLines.map (CommandLine.run ws Cwl.nestingBound taskValidator)
  let printed := runs.foldl (fun n t => n + t.stdout.length + t.stderr.length) 0
  pure (.several (runs.map endingOf ++ [.value (.int printed)]))

end FlowConverter.Workload
