import FlowConverter.Proofs.Reading
import FlowConverter.Proofs.Script

/-! The scripts of the readers. A document determines by itself what its reading asks for, in what
order, and what is made of the replies. Each reader runs the script of its part, with the files of
a workspace for answers, nested as deep as the bound allows. -/
namespace FlowConverter.Cwl

/-- What a request gets: the reading of the file it leads to, or what is said about a file that is
nowhere. -/
def answer (ws : Workspace) (bound : Nat) : (q : Request) → Report q.role.Reply
  | ⟨.requirements, sourceDir, path⟩ => do
    match ← ws.locate sourceDir path with
    | some file => Requirement.expand ws bound (importedEntries (← ws.read file))
    | none =>
      Report.warn (.requirementNotFound path)
      pure []
  | ⟨.document, sourceDir, path⟩ => do
    match ← ws.locate sourceDir path with
    | some file => toolsOfFile ws bound file
    | none => Logged.fail (.runNotFound path)

variable {ws : Workspace} {bound : Nat}

/-! ### Requirements -/

def Requirement.importScript (sourceDir : Value) (path : String) : Script (List Requirement) :=
  Script.request ⟨.requirements, sourceDir, path⟩

def Requirement.entryScript (sourceDir entry : Value) : Script (List Requirement) := do
  if ← entry.has "class" then readClass entry
  else if (← entry.has "import") || (← entry.has "$import") then
    importScript sourceDir (← importedPath entry)
  else
    Report.warn (.requirement entry)
    pure []

def Requirement.script (sourceDir : Value) (entries : List Value) : Script (List Requirement) :=
  Script.gather (entryScript sourceDir) entries

def Requirement.entriesOf (part : Value) : Except Fault (List Value) := do
  let required ← part.has "requirements"
  let hinted ← part.has "hints"
  match required, hinted with
  | true, true => (← Value.append (← part.get "requirements") (← part.get "hints")).items
  | true, false => (← part.get "requirements").items
  | false, true => (← part.get "hints").items
  | false, false => pure []

theorem Requirement.run_importScript (sourceDir : Value) (path : String) :
    (importScript sourceDir path).run (answer ws bound) =
      answer ws bound ⟨.requirements, sourceDir, path⟩ :=
  Script.run_request _

theorem Requirement.run_entryScript (sourceDir entry : Value) :
    (entryScript sourceDir entry).run (answer ws bound) =
      readEntry ws (expand ws bound) sourceDir entry := by
  simp only [entryScript, readEntry, Script.run_bind, Script.run_lift_outcome, Script.run_ite,
    Script.run_lift, Script.run_pure, run_importScript]
  rfl

theorem Requirement.run_script (sourceDir : Value) (entries : List Value) :
    (script sourceDir entries).run (answer ws bound) =
      Logged.gather (readEntry ws (expand ws bound) sourceDir) entries := by
  simp only [script, Script.run_gather, run_entryScript]

theorem Requirement.expand_succ (entries : List Value) :
    expand ws (bound + 1) entries = (script .null entries).run (answer ws bound) := by
  rw [run_script, expand]

theorem Requirement.readAll_list (sourceDir : Value) (entries : List Value) :
    readAll ws bound sourceDir (.list entries) =
      (script sourceDir entries).run (answer ws bound) := by
  rw [run_script]
  exact pure_bind entries _

theorem Requirement.readPart_eq (sourceDir part : Value) :
    readPart ws bound sourceDir part = (do
      let entries ← entriesOf part
      (script sourceDir entries).run (answer ws bound)) := by
  simp only [readPart, entriesOf, readAll, run_script, Logged.lift_bind, bind_assoc]
  congr 1
  funext required
  congr 1
  funext hinted
  cases required <;> cases hinted <;>
    simp only [Logged.lift_bind, bind_assoc, pure_eq_ok, Logged.lift_ok, pure_bind, Logged.gather]

/-! ### Tools and workflows -/

def Tool.script (sourceDir tool : Value) : Script Tool := do
  let name ← partName tool (do (← tool.get "baseCommand").join "_")
  let arguments ← Argument.readOf tool
  let baseCommand ← tool.get "baseCommand"
  let inputs ← InputParameter.readAll (← tool.get "inputs")
  let outputs ← OutputParameter.readAll (← tool.get "outputs")
  let requirements ← Requirement.script sourceDir (← Requirement.entriesOf tool)
  let stdout ← readStream tool .stdout fun s => safeName (dropReference s)
  let stdin ← readStream tool .stdin id
  pure {
    name := name
    baseCommand := baseCommand
    arguments := arguments
    inputs := inputs
    outputs := outputs
    requirements := requirements
    stdin := stdin
    stdout := stdout }

/-- Asks for the tools that a step runs, if it runs a file. -/
def definitionScript (sourceDir : Value) (run : String) : Script (Option (List Tool)) :=
  if runsFile run then Script.request ⟨.document, sourceDir, run⟩ else pure none

def Step.script (sourceDir step : Value) : Script Step := do
  let run ← readRun step
  let definition ← definitionScript sourceDir run
  let inputs ← StepInput.readAll (← step.get "inputs")
  let outputs ← readStepOutputs (← step.get "outputs")
  pure {
    taskId := taskIdOf run
    inputs := inputs
    outputs := outputs
    definition := definition
    importStatement := if runsFile run then some ("import " ++ run) else none }

def Workflow.script (sourceDir : Value) (fileName : String) (workflow : Value) :
    Script Workflow := do
  let name ← partName workflow (pure fileName)
  let inputs ← InputParameter.readAll (← workflow.get "inputs")
  let outputs ← OutputParameter.readAll (← workflow.get "outputs")
  let items ← (← workflow.get "steps").items
  let steps ← Script.gather (fun step => do pure [← Step.script sourceDir step]) items
  let requirements ← Requirement.script sourceDir (← Requirement.entriesOf workflow)
  pure {
    name := name
    inputs := inputs
    outputs := outputs
    steps := steps
    requirements := requirements }

theorem Tool.run_script (sourceDir tool : Value) :
    (Tool.script sourceDir tool).run (answer ws bound) = Tool.read ws bound sourceDir tool := by
  simp only [Tool.script, Tool.read, Script.run_bind, Script.run_lift_outcome, Script.run_lift,
    Script.run_pure, Requirement.readPart_eq, bind_assoc]

theorem run_definitionScript (sourceDir : Value) (run : String) :
    (definitionScript sourceDir run).run (answer ws bound) =
      readDefinition ws (toolsOfFile ws bound) sourceDir run := by
  rw [definitionScript, readDefinition, Script.run_ite]
  split
  · exact Script.run_request _
  · rfl

theorem Step.run_script (sourceDir step : Value) :
    (Step.script sourceDir step).run (answer ws bound) =
      Step.read ws (toolsOfFile ws bound) sourceDir step := by
  simp only [Step.script, Step.read, Script.run_bind, Script.run_lift_outcome, Script.run_pure,
    run_definitionScript]

theorem Workflow.run_script (sourceDir : Value) (fileName : String) (workflow : Value) :
    (Workflow.script sourceDir fileName workflow).run (answer ws bound) =
      Workflow.read ws bound (toolsOfFile ws bound) sourceDir fileName workflow := by
  simp only [Workflow.script, Workflow.read, Step.readAll, Script.run_bind,
    Script.run_lift_outcome, Script.run_lift, Script.run_pure, Script.run_gather, Step.run_script,
    Requirement.readPart_eq, Logged.mapM_eq_gather, bind_assoc]

/-! ### Documents -/

/-- Asks on behalf of the parts of one class, in order. -/
def partsScript {α : Type} (className : String) (script : Value → Script α)
    (parts : List Value) : Script (List α) :=
  parts |> Script.gather fun part => do
    if (← part.get "class").equals (.str className) then pure [← script part] else pure []

def Document.script (sourceDir : Value) (fileName : String) : Value → Script Document
  | .list parts => do
    let tools ← partsScript "CommandLineTool" (Tool.script sourceDir) parts
    let workflows ← partsScript "Workflow" (Workflow.script sourceDir fileName) parts
    match workflows with
    | first :: _ => pure ⟨some tools, some first⟩
    | [] => (Logged.fail .outOfRange : Report Document)
  | .mapping fields => do
    let name ← (Value.mapping fields).get "class"
    if name.equals (.str "CommandLineTool") then
      pure ⟨some [← Tool.script sourceDir (.mapping fields)], none⟩
    else if name.equals (.str "Workflow") then
      pure ⟨none, some (← Workflow.script sourceDir fileName (.mapping fields))⟩
    else (Logged.fail (.unrecognizedClass name) : Report Document)
  | _ => (Logged.fail .notADocument : Report Document)

theorem run_partsScript {α : Type} {className : String} {script : Value → Script α}
    {read : Value → Report α} (h : ∀ part, (script part).run (answer ws bound) = read part)
    (parts : List Value) :
    (partsScript className script parts).run (answer ws bound) =
      readParts className read parts := by
  simp only [partsScript, readParts, Script.run_gather, Script.run_bind, Script.run_lift_outcome,
    Script.run_ite, Script.run_pure, h]

theorem Document.run_script (sourceDir : Value) (fileName : String) (value : Value) :
    (Document.script sourceDir fileName value).run (answer ws bound) =
      Document.ofValue (Tool.read ws bound sourceDir)
        (Workflow.read ws bound (toolsOfFile ws bound) sourceDir fileName) value := by
  cases value with
  | list parts =>
    simp only [Document.script, Document.ofValue, Script.run_bind,
      run_partsScript (Tool.run_script sourceDir),
      run_partsScript (Workflow.run_script sourceDir fileName)]
    congr 1
    funext tools
    congr 1
    funext workflows
    cases workflows <;> rfl
  | mapping fields =>
    simp only [Document.script, Document.ofValue, Script.run_bind, Script.run_lift_outcome,
      Script.run_ite, Script.run_pure, Script.run_lift, Tool.run_script, Workflow.run_script]
  | _ => rfl

/-- Reading a document is running the script of what its file holds. -/
theorem Document.read_succ (path : String) :
    Document.read ws (bound + 1) path = (do
      let value ← ws.read path
      (Document.script (.str (ws.directoryOf path)) (fileLabel path) value).run
        (answer ws bound)) := by
  simp only [Document.run_script]
  rfl

/-! ### Larger bounds -/

/-- What answers make of the readings of files. -/
theorem answer_approximates {bound' : Nat}
    (hrequirements : ∀ entries,
      (Requirement.expand ws bound entries).Approximates (Requirement.expand ws bound' entries))
    (hdocument : ∀ path,
      (Document.read ws bound path).Approximates (Document.read ws bound' path)) (q : Request) :
    (answer ws bound q).Approximates (answer ws bound' q) := by
  rcases q with ⟨_ | _, sourceDir, path⟩
  · refine (Logged.Approximates.refl _).bind fun found => ?_
    cases found with
    | none => exact .refl _
    | some file => exact (hdocument file).bind fun _ => .refl _
  · refine (Logged.Approximates.refl _).bind fun found => ?_
    cases found with
    | none => exact .refl _
    | some file => exact (Logged.Approximates.refl _).bind fun _ => hrequirements _

/-- Answers are the same under a larger bound, unless the bound stopped them. -/
theorem answer_ascending (ws : Workspace) (q : Request) :
    Logged.Ascending fun n => answer ws n q := by
  intro n
  induction n generalizing q with
  | zero =>
    refine answer_approximates (fun entries => ?_) (fun path => ?_) q
    · exact .inl rfl
    · exact .inl rfl
  | succ n ih =>
    refine answer_approximates (fun entries => ?_) (fun path => ?_) q
    · rw [Requirement.expand_succ, Requirement.expand_succ]
      exact Script.run_approximates ih _
    · rw [Document.read_succ, Document.read_succ]
      exact (Logged.Approximates.refl _).bind fun _ => Script.run_approximates ih _

theorem Script.run_ascending {α : Type} (ws : Workspace) (s : Script α) :
    Logged.Ascending fun n => s.run (answer ws n) :=
  fun n => s.run_approximates fun q => answer_ascending ws q n

end FlowConverter.Cwl
