import FlowConverter.Cwl.Document
import FlowConverter.Proofs.Outcome
import FlowConverter.Wdl.Document

/-! Records between the two sides. What has been read from a document is handed over as records; here
each kind of record is read back, field by field, on the other side. Only two things can fail:
a plain argument, whose record has no position, and a definition, which is a list of records
where a single one is asked for. -/
namespace FlowConverter

namespace Cwl

def InputParameter.toInput (p : InputParameter) : Wdl.Input where
  name := .str p.name
  flag := p.flag
  position := p.position
  separator := p.separator
  default := .ofText? p.default
  type := .str p.type.text
  required := .bool p.required
  separate := .bool true

def OutputParameter.toOutput (p : OutputParameter) : Wdl.Output where
  name := .str p.name
  source := p.source
  type := .str p.type.text
  required := .bool p.required

def Requirement.toRequirement : Requirement → Wdl.Requirement
  | docker image => ⟨.str "docker", image⟩
  | environment settings =>
    ⟨.str "envVar", .list (settings.map fun v => .list [v.1, v.2])⟩

/-- The argument of a binding. Nothing says whether its flag stands apart. -/
def Binding.toArgument (b : Binding) : Wdl.Argument where
  flag := b.flag
  position := b.position
  value := b.value
  separate := none

def Tool.toTask (t : Tool) (base : Value) (arguments : List Wdl.Argument) : Wdl.Task where
  name := .str t.name
  command := ⟨base, arguments, t.inputs.map (·.toInput)⟩
  inputs := t.inputs.map (·.toInput)
  outputs := t.outputs.map (·.toOutput)
  requirements := t.requirements.map (·.toRequirement)
  stdin := .ofText? t.stdin
  stdout := .ofText? t.stdout

def StepInput.toStepInput (i : StepInput) : Wdl.StepInput := ⟨.str i.id, .ofText? i.value⟩

def Step.toStep (s : Step) (outputs : List Wdl.StepOutput) : Wdl.Step where
  taskId := .str s.taskId
  definition := none
  importStatement := .ofText? s.importStatement
  inputs := s.inputs.map (·.toStepInput)
  outputs := outputs
  scatter := .list []

/-- The workflow with given calls. It never calls another workflow. -/
def Workflow.toWorkflow (w : Workflow) (steps : List Wdl.Step) : Wdl.Workflow where
  name := .str w.name
  inputs := w.inputs.map (·.toInput)
  outputs := w.outputs.map (·.toOutput)
  steps := steps
  subworkflows := []
  requirements := w.requirements.map (·.toRequirement)

end Cwl

namespace Wdl

theorem ofRecords_list {α β : Type} (f : Value → Except Fault β) (g : α → Value) (xs : List α) :
    ofRecords f (.list (xs.map g)) = xs.mapM fun x => f (g x) := by
  rw [ofRecords, Value.items, pure_bind, List.mapM_map]
  rfl

theorem ofRecords_list_eq_ok {α β : Type} {f : Value → Except Fault β} {g : α → Value} {k : α → β}
    (h : ∀ x, f (g x) = .ok (k x)) (xs : List α) :
    ofRecords f (.list (xs.map g)) = .ok (xs.map k) := by
  rw [ofRecords_list]
  exact mapM_eq_ok_map fun x _ => h x

theorem Input.ofRecord_toRecord (p : Cwl.InputParameter) :
    Input.ofRecord p.toRecord = .ok p.toInput := rfl

theorem Output.ofRecord_toRecord (p : Cwl.OutputParameter) :
    Output.ofRecord p.toRecord = .ok p.toOutput := rfl

theorem Requirement.ofRecord_toRecord (r : Cwl.Requirement) :
    Requirement.ofRecord r.toRecord = .ok r.toRequirement := by
  cases r <;> rfl

theorem Argument.ofRecord_bound (b : Cwl.Binding) :
    Argument.ofRecord (Cwl.Argument.bound b).toRecord = .ok b.toArgument := rfl

theorem Argument.ofRecord_plain (v : Value) :
    Argument.ofRecord (Cwl.Argument.plain v).toRecord = .error (.missingKey (.str "position")) := rfl

theorem StepInput.ofRecord_toRecord (i : Cwl.StepInput) :
    StepInput.ofRecord i.toRecord = .ok i.toStepInput := rfl

/-- Of the record of a tool, only the base command and the arguments can be refused. -/
theorem Task.ofRecord_toRecord (t : Cwl.Tool) :
    Task.ofRecord t.toRecord = (do
      let base ← Command.readBase t.baseCommand
      let arguments ← t.arguments.mapM fun a => Argument.ofRecord a.toRecord
      pure (t.toTask base arguments)) := by
  have hname : t.toRecord.get "name" = .ok (.str t.name) := rfl
  have hbase : t.toRecord.get "baseCommand" = .ok t.baseCommand := rfl
  have hargs : t.toRecord.get "arguments" = .ok (.list (t.arguments.map (·.toRecord))) := rfl
  have hins : t.toRecord.get "inputs" = .ok (.list (t.inputs.map (·.toRecord))) := rfl
  have houts : t.toRecord.get "outputs" = .ok (.list (t.outputs.map (·.toRecord))) := rfl
  have hreqs : t.toRecord.get "requirements" = .ok (.list (t.requirements.map (·.toRecord))) := rfl
  have hin : t.toRecord.get "stdin" = .ok (.ofText? t.stdin) := rfl
  have hout : t.toRecord.get "stdout" = .ok (.ofText? t.stdout) := rfl
  simp only [Task.ofRecord, hname, hbase, hargs, hins, houts, hreqs, hin, hout, ok_bind,
    Command.ofParts, bind_assoc, pure_bind, ofRecords_list,
    ofRecords_list_eq_ok Input.ofRecord_toRecord, ofRecords_list_eq_ok Output.ofRecord_toRecord,
    ofRecords_list_eq_ok Requirement.ofRecord_toRecord]
  rfl

theorem Step.ofRecord_toRecord {s : Cwl.Step} (h : s.definition = none) :
    Step.ofRecord s.toRecord = (do
      let outputs ← s.outputs.mapM StepOutput.ofRecord
      pure (s.toStep outputs)) := by
  have hdefinition : s.toRecord.get "task_definition" = .ok .null := by
    rw [Cwl.Step.toRecord, h]
    rfl
  have hid : s.toRecord.get "task_id" = .ok (.str s.taskId) := rfl
  have himport : s.toRecord.getOr "import_statement" (.str "") =
    .ok (.ofText? s.importStatement) := rfl
  have hins : s.toRecord.get "inputs" = .ok (.list (s.inputs.map (·.toRecord))) := rfl
  have houts : s.toRecord.get "outputs" = .ok (.list s.outputs) := rfl
  have hscatter : s.toRecord.getOr "scatter" (.list []) = .ok (.list []) := rfl
  simp only [Step.ofRecord, hdefinition, hid, himport, hins, houts, hscatter, ok_bind, pure_bind,
    ofRecords_list_eq_ok StepInput.ofRecord_toRecord]
  rfl

/-- A definition is a list of tools, and a list is no task. -/
theorem Step.ofRecord_of_definition {s : Cwl.Step} (h : s.definition ≠ none) :
    Step.ofRecord s.toRecord = .error .wrongKind := by
  obtain ⟨tools, h⟩ := Option.ne_none_iff_exists'.mp h
  have hdefinition :
      s.toRecord.get "task_definition" = .ok (.list (tools.map (·.toRecord))) := by
    rw [Cwl.Step.toRecord, h]
    rfl
  have hid : s.toRecord.get "task_id" = .ok (.str s.taskId) := rfl
  rw [Step.ofRecord, hid, ok_bind, hdefinition]
  rfl

/-- Of the record of a workflow, only the steps can be refused. -/
theorem Workflow.ofRecord_toRecord (w : Cwl.Workflow) :
    Workflow.ofRecord w.toRecord = (do
      let steps ← w.steps.mapM fun s => Step.ofRecord s.toRecord
      pure (w.toWorkflow steps)) := by
  have hname : w.toRecord.get "name" = .ok (.str w.name) := rfl
  have hins : w.toRecord.get "inputs" = .ok (.list (w.inputs.map (·.toRecord))) := rfl
  have houts : w.toRecord.get "outputs" = .ok (.list (w.outputs.map (·.toRecord))) := rfl
  have hsteps : w.toRecord.get "steps" = .ok (.list (w.steps.map (·.toRecord))) := rfl
  have hsub : w.toRecord.getOr "subworkflows" (.list []) = .ok (.list []) := rfl
  have hreqs : w.toRecord.get "requirements" = .ok (.list (w.requirements.map (·.toRecord))) := rfl
  obtain ⟨depth, hdepth⟩ : ∃ depth, w.toRecord.depth = depth + 1 := ⟨_, rfl⟩
  rw [Workflow.ofRecord, hdepth]
  simp only [Workflow.ofRecordWithin, hname, hins, houts, hsteps, hsub, hreqs, ok_bind,
    ofRecords_list, ofRecords_list_eq_ok Input.ofRecord_toRecord,
    ofRecords_list_eq_ok Output.ofRecord_toRecord,
    ofRecords_list_eq_ok Requirement.ofRecord_toRecord]
  rfl

end Wdl

end FlowConverter
