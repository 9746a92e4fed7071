import FlowConverter.Cwl.Binding
import FlowConverter.Cwl.Naming
import FlowConverter.Cwl.ParameterType
import FlowConverter.Report

/-! Input and output parameters of tools and workflows. -/
namespace FlowConverter.Cwl

structure InputParameter where
  name : String
  type : ParameterType
  required : Bool
  flag : Value
  position : Value
  separator : Value
  default : Option String

def InputParameter.toRecord (p : InputParameter) : Value :=
  .mapping [("name", .str p.name), ("variable_type", .str p.type.text),
    ("is_required", .bool p.required), ("prefix", p.flag), ("position", p.position),
    ("separator", p.separator), ("default", .ofText? p.default)]

/-- The name of a parameter: its id without marks. -/
def parameterName (parameter : Value) : Except Fault String := do
  pure (safeName (← (← parameter.get "id").stripMarks))

/-- The default of an input: its own, or else the value of its binding. -/
def readDefault (parameter : Value) (binding : Binding) : Report (Option String) := do
  if ← parameter.has "default" then pure (some (← parameter.get "default").text)
  else
    match binding.value with
    | .null => pure none
    | .str s => pure (some s)
    | v =>
      Report.warn .valueExpression
      pure (some v.text)

/-- One input. The items of an array are divided by a space unless the binding says otherwise. -/
def InputParameter.read (parameter : Value) : Report InputParameter := do
  let name ← parameterName parameter
  let required ← isRequired (← parameter.get "type")
  let type ← ParameterType.read (← parameter.get "type")
  let binding ← Binding.readOf parameter
  let separator :=
    if type.isArray && binding.separator.isNull then .str " " else binding.separator
  let default ← readDefault parameter binding
  pure {
    name := name
    type := type
    required := required
    flag := binding.flag
    position := binding.position
    separator := separator
    default := default }

def InputParameter.readAll (parameters : Value) : Report (List InputParameter) := do
  (← parameters.items).mapM InputParameter.read

structure OutputParameter where
  name : String
  type : ParameterType
  required : Bool
  source : Value

def OutputParameter.toRecord (p : OutputParameter) : Value :=
  .mapping [("name", .str p.name), ("variable_type", .str p.type.text),
    ("is_required", .bool p.required), ("output", p.source)]

/-- The expression that collects the files a text names. -/
def globExpression (s : String) : Value := .str ("glob('$\x7b" ++ s ++ "\x7d')")

/-- Where an output comes from. -/
def readSource (parameter : Value) : Report Value := do
  if ← parameter.has "outputBinding" then
    let binding ← parameter.get "outputBinding"
    if ← binding.has "glob" then
      match ← binding.get "glob" with
      | .str s => pure (globExpression (safeName (dropReference s)))
      | v =>
        Report.warn .globExpression
        pure (globExpression v.text)
    else
      Report.warn (.outputBinding binding)
      pure binding
  else
    Report.warn (.outputWithoutBinding parameter)
    pure .null

def OutputParameter.read (parameter : Value) : Report OutputParameter := do
  let name ← parameterName parameter
  let required ← isRequired (← parameter.get "type")
  let type ← ParameterType.read (← parameter.get "type")
  let source ← readSource parameter
  pure { name := name, type := type, required := required, source := source }

def OutputParameter.readAll (parameters : Value) : Report (List OutputParameter) := do
  (← parameters.items).mapM OutputParameter.read

end FlowConverter.Cwl
