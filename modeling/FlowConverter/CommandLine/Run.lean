import FlowConverter.CommandLine.Options
import FlowConverter.Cwl.Document
import FlowConverter.Wdl.Document
import FlowConverter.Wdl.WorkflowText

/-! A run of the command line, as a function from files and words to all that the run leaves behind.
The validator of generated texts is a parameter: it may answer differently every time. -/
namespace FlowConverter.CommandLine

/-- The answer to the `n`-th text given to the validator: a written syntax tree, or a fault. -/
abbrev Validator := Nat → String → Except Fault String

inductive Ending where
  | returned
  | exited (code : Nat)
  | failed (fault : Fault)

structure Transcript where
  ending : Ending
  stdout : String
  stderr : String
  /-- The texts given to the validator. -/
  validated : List String
  warnings : List Warning

/-- The texts of all tasks of a document and then of its workflow. -/
def documentTexts (document : Wdl.Document) : Except Fault (List String) := do
  let tasks ← (document.tasks.getD []).mapM (·.text)
  match document.workflow with
  | some workflow => pure (tasks ++ [← workflow.text])
  | none => pure tasks

/-- The generated text for the file at a path. -/
def convert (ws : Workspace) (bound : Nat) (path : String) : Report String := do
  if !ws.contains path then Logged.fail (.inputNotFound path)
  let document ← Cwl.Document.read ws bound path
  let texts ← documentTexts (← Wdl.Document.ofRecord document.toRecord)
  pure ("\n".intercalate texts)

/-- Prints a generated text, or its syntax tree, which the validator gives. -/
def print (validator : Validator) (calls : Nat) (format : Format) (text : String) :
    List String × List Warning × Except Fault String :=
  match format with
  | .wdl => ([], [], .ok (text ++ "\n"))
  | .ast => ([text], [.treeImpliesValidation], (validator calls text).map (· ++ "\n"))

/-- Validates a generated text, if that is wanted, and prints it. -/
def deliver (validator : Validator) (options : Options) (text : String) :
    List String × List Warning × Except Fault String :=
  if options.validate then
    match validator 0 text with
    | .error f => ([text], [], .error f)
    | .ok _ =>
      let (validated, warnings, printed) := print validator 1 options.format text
      (text :: validated, warnings, printed)
  else print validator 0 options.format text

/-- The run of a conversion. Nothing is printed before the very end. -/
def runConversion (ws : Workspace) (bound : Nat) (validator : Validator) (options : Options) :
    Transcript :=
  let converted := convert ws bound options.file
  match converted.outcome with
  | .error f => ⟨.failed f, "", "", [], converted.log⟩
  | .ok text =>
    let (validated, warnings, printed) := deliver validator options text
    match printed with
    | .error f => ⟨.failed f, "", "", validated, converted.log ++ warnings⟩
    | .ok out => ⟨.returned, out, "", validated, converted.log ++ warnings⟩

/-- The run for the words of a command line. -/
def run (ws : Workspace) (bound : Nat) (validator : Validator) (words : List String) :
    Transcript :=
  match read words with
  | .error e => ⟨.exited 2, "", e.text, [], []⟩
  | .ok .help => ⟨.exited 0, helpText, "", [], []⟩
  | .ok .version => ⟨.exited 0, versionText, "", [], []⟩
  | .ok (.convert options) => runConversion ws bound validator options

end FlowConverter.CommandLine
