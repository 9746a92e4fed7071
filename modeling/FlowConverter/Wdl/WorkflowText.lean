import FlowConverter.Logged
import FlowConverter.Text.Pattern.Reader
import FlowConverter.Wdl.TaskText
import FlowConverter.Wdl.Workflow

/-! The text of a workflow: declarations of its inputs, its calls, its outputs, and after it the texts
of all definitions that its calls bring along. A `Generator` writes the same workflow again and
again and keeps what it has collected, so each text repeats the definitions of those before. -/
namespace FlowConverter.Wdl

/-- What a call leaves behind in a generator. -/
inductive Event where
  | called (taskId : Value)
  | defined (text : String)

/-- One clause of a scatter. -/
def scatterClause (pair : Value) : Except Fault String := do
  match ← pair.items with
  | [item, source] => pure (item.text ++ " in " ++ source.text)
  | _ => throw .notAPair

/-- A body inside a scatter over the given pairs; each of its lines moves in by two spaces. -/
def scatterText (scatter : Value) (body : String) : Except Fault String := do
  let lines := (Text.lines body).map fun l => "  " ++ l
  let clauses ← (← scatter.items).mapM scatterClause
  pure ("\n    scatter (" ++ "\n             ".intercalate clauses ++ ") \x7b\n" ++
    "\n".intercalate lines ++ "\n    \x7d\n")

/-- A body, inside a scatter if there is something to scatter over. -/
def scatterBody (scatter body : Value) : Except Fault Value :=
  if scatter.truthy then
    match body with
    | .str s => do pure (.str (← scatterText scatter s))
    | _ => throw .notText
  else pure body

/-- The pattern of what stands before the names of a call's inputs: the task id, itself read as a
pattern, and a point. -/
def callPattern (taskId : Value) : Except Fault Text.Pattern := do
  match Text.Pattern.read? ((← taskId.asText) ++ "\\.") with
  | some p => pure p
  | none => throw .badPattern

/-- One input of a call; `pad` moves it below the first. -/
def StepInput.line (taskId : Value) (pad : String) (i : StepInput) : Except Fault String := do
  let pattern ← callPattern taskId
  pure (pad ++ pattern.delete (← i.id.asText) ++ "=" ++ i.value.text)

/-- The inputs of a call, one below the other. -/
def inputLines (taskId : Value) : List StepInput → Except Fault (List String)
  | [] => pure []
  | first :: rest => do
    let line ← first.line taskId ""
    pure (line :: (← rest.mapM (·.line taskId "          ")))

/-- The text of a call without its definition. -/
def callText (taskId : Value) (inputs : List StepInput) (scatter : Value) :
    Except Fault String := do
  let body ←
    if inputs.isEmpty then pure ("call " ++ taskId.text)
    else do
      let lines ← inputLines taskId inputs
      pure ("\n    call " ++ taskId.text ++ " \x7b\n        input: " ++
        ", \n".intercalate lines ++ "\n    \x7d\n")
  if scatter.truthy then scatterText scatter body else pure body

/-- The call of a task. -/
def Step.write (s : Step) : Logged Event String := do
  Logged.note (.called s.taskId)
  match s.definition with
  | some task => Logged.note (.defined (← task.text))
  | none => pure ()
  callText s.taskId s.inputs s.scatter

/-- The outputs of a workflow. Without any, a word stands in their place. -/
def outputNames (outputs : List Output) : Except Fault String := do
  if outputs.isEmpty then pure "None"
  else
    let names ← outputs.mapM (·.name.asText)
    pure ("\n   output \x7b\n     " ++ "\n     ".intercalate names ++ "\n")

/-- The definitions in a log. -/
def definitions (log : List Event) : List String :=
  log.filterMap fun
    | .called _ => none
    | .defined text => some text

/-- The task ids in a log. -/
def calledIds (log : List Event) : List Value :=
  log.filterMap fun
    | .called id => some id
    | .defined _ => none

/-- A workflow and the definitions below it. -/
def withDefinitions (workflow : String) (texts : List String) : String :=
  workflow ++ "\n".intercalate texts ++ "\n"

mutual

/-- The text of a workflow up to the definitions. -/
def Workflow.write : Workflow → Logged Event String
  | ⟨name, inputs, outputs, steps, subworkflows, _⟩ => do
    let declared ← declarations inputs
    let calls ← steps.mapM Step.write
    let more ← writeSubworkflows subworkflows
    let names ← outputNames outputs
    pure ("\nworkflow " ++ name.text ++ " \x7b\n    " ++ declared ++ "\n    " ++
      "\n".intercalate (calls ++ more) ++ "\n    " ++ names ++ "\n\x7d\n")

def writeSubworkflows : List (SubCall Workflow) → Logged Event (List String)
  | [] => pure []
  | s :: rest => do
    let call ← writeSubworkflow s
    pure (call :: (← writeSubworkflows rest))

/-- The call of a workflow. Its definition is written afresh. -/
def writeSubworkflow : SubCall Workflow → Logged Event String
  | ⟨taskId, definition, inputs, _, scatter⟩ => do
    Logged.note (.called taskId)
    let inner := definition.write
    let text ← inner.outcome
    Logged.note (.defined (withDefinitions text (definitions inner.log)))
    callText taskId inputs scatter

end

/-- A workflow with what has been collected by writing it. -/
structure Generator where
  workflow : Workflow
  taskIds : List Value
  definitions : List String

def Generator.new (w : Workflow) : Generator := ⟨w, [], []⟩

/-- Writes the workflow once more. What was collected before a fault stays. -/
def Generator.next (g : Generator) : Except Fault String × Generator :=
  let run := g.workflow.write
  let all := g.definitions ++ Wdl.definitions run.log
  let g' : Generator := ⟨g.workflow, g.taskIds ++ calledIds run.log, all⟩
  match run.outcome with
  | .ok text => (.ok (withDefinitions text all), g')
  | .error f => (.error f, g')

/-- The first text of a workflow. -/
def Workflow.text (w : Workflow) : Except Fault String := (Generator.new w).next.1

end FlowConverter.Wdl
