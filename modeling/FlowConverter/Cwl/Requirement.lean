import FlowConverter.Report
import FlowConverter.Workspace

/-! Requirements and hints. A docker image and environment settings are kept; an entry that imports
a file stands for the entries of that file; all else is reported and left out. How deep imports
may nest is bounded: `Requirement.expand` counts the bound down and stops at zero. -/
namespace FlowConverter.Cwl

inductive Requirement where
  | docker (image : Value)
  | environment (settings : List (Value × Value))

def Requirement.toRecord : Requirement → Value
  | docker image => .mapping [("requirement_type", .str "docker"), ("value", image)]
  | environment settings =>
    .mapping [("requirement_type", .str "envVar"),
      ("value", .list (settings.map fun v => .list [v.1, v.2]))]

/-- The keys of a mapping that start with `docker`. -/
def dockerKeys : Value → List String
  | .mapping fields => (fields.map (·.1)).filter fun k => "docker".toList.isPrefixOf k.toList
  | _ => []

/-- One variable and its value. -/
def readVariable (v : Value) : Except Fault (Value × Value) := do
  pure (← v.get "envName", ← v.get "envValue")

def readVariables (definitions : Value) : Except Fault (List (Value × Value)) := do
  (← definitions.items).mapM readVariable

/-- A requirement that says its class. -/
def Requirement.readClass (entry : Value) : Report (List Requirement) := do
  let name ← entry.get "class"
  if name.equals (.str "DockerRequirement") then
    if ← entry.has "dockerImageId" then pure [docker (← entry.get "dockerImageId")]
    else if ← entry.has "dockerPull" then pure [docker (← entry.get "dockerPull")]
    else
      Report.warn (.dockerKind (dockerKeys entry))
      pure []
  else if name.equals (.str "EnvVarRequirement") then
    pure [environment (← readVariables (← entry.get "envDef"))]
  else
    Report.warn <|
      if name.equals (.str "ResourceRequirement") then .resources
      else if name.equals (.str "InlineJavascriptRequirement") then .inlineScript
      else .requirementClass name
    pure []

/-- The file that an entry imports. The plain key wins over the one with a dollar sign. -/
def importedPath (entry : Value) : Except Fault String := do
  let path ←
    match entry.get "import" with
    | .ok v => pure v
    | .error _ => entry.get "$import"
  path.asText

/-- The entries of an imported file: a list of them, or a single one. -/
def importedEntries : Value → List Value
  | .list entries => entries
  | v => [v]

/-- One entry; `inner` reads the entries of an imported file. -/
def Requirement.readEntry (ws : Workspace) (inner : List Value → Report (List Requirement))
    (sourceDir entry : Value) : Report (List Requirement) := do
  if ← entry.has "class" then readClass entry
  else if (← entry.has "import") || (← entry.has "$import") then
    let path ← importedPath entry
    match ← ws.locate sourceDir path with
    | some file => inner (importedEntries (← ws.read file))
    | none =>
      Report.warn (.requirementNotFound path)
      pure []
  else
    Report.warn (.requirement entry)
    pure []

/-- The entries of imported files, nested `bound` deep at most. They know no source directory. -/
def Requirement.expand (ws : Workspace) : Nat → List Value → Report (List Requirement)
  | 0, _ => Logged.fail .nestingTooDeep
  | bound + 1, entries => Logged.gather (readEntry ws (expand ws bound) .null) entries

/-- The requirements of a list of entries. -/
def Requirement.readAll (ws : Workspace) (bound : Nat) (sourceDir entries : Value) :
    Report (List Requirement) := do
  Logged.gather (readEntry ws (expand ws bound) sourceDir) (← entries.items)

/-- The requirements of a part: those it requires, then those it hints at. -/
def Requirement.readPart (ws : Workspace) (bound : Nat) (sourceDir part : Value) :
    Report (List Requirement) := do
  let required ← part.has "requirements"
  let hinted ← part.has "hints"
  match required, hinted with
  | true, true =>
    let entries ← Value.append (← part.get "requirements") (← part.get "hints")
    readAll ws bound sourceDir entries
  | true, false => readAll ws bound sourceDir (← part.get "requirements")
  | false, true => readAll ws bound sourceDir (← part.get "hints")
  | false, false => pure []

end FlowConverter.Cwl
