import FlowConverter.Wdl.Task

/-! The command section of a task: environment settings, then the base command, arguments and inputs
in the order of their positions, then the redirection of the output. Null is the last position,
and parts of equal position keep their order. -/
namespace FlowConverter.Wdl

/-- A reference to a value: `$` and the expression in braces. -/
def reference (expression : String) : String := "$\x7b" ++ expression ++ "\x7d"

/-- A part of the command with its position. -/
structure Part where
  position : Value
  text : Value

/-- An argument: its flag, if it has one, and its value. -/
def Argument.part (a : Argument) : Except Fault Part := do
  let value := if a.value.isNull then "" else a.value.text
  let text ←
    if a.flag.isNull then pure value
    else match a.separate with
      | none => throw .separationUnset
      | some separate =>
        pure (a.flag.text ++ (if separate.truthy then " " else "") ++ value)
  pure ⟨a.position, .str text⟩

/-- Inputs that the command does not mention: a Boolean that is off or has no flag, and the file
that the output goes to. -/
def Input.isOmitted (stdout : Value) (i : Input) : Bool :=
  (i.type.equals (.str "Boolean") && (i.default.equals (.str "False") || i.flag.isNull)) ||
    i.name.equals stdout

/-- Whether a type is that of an array, by the start of its name. -/
def isArrayType : Value → Except Fault Bool
  | .str s => pure ("Array".toList.isPrefixOf s.toList)
  | _ => throw .notText

/-- The name of an input after its separator and its default. -/
def Input.expression (i : Input) : Except Fault String := do
  let separator :=
    if ← isArrayType i.type then "sep='" ++ i.separator.text ++ "' " else ""
  let default := if i.default.isNull then "" else "default='" ++ i.default.text ++ "' "
  pure (separator ++ default ++ (← i.name.asText))

/-- An input. The flag of one that may be missing stands inside the reference. -/
def Input.part (i : Input) : Except Fault Part := do
  let expression ← i.expression
  let text :=
    if i.flag.isNull then reference expression
    else if i.required.truthy then
      i.flag.text ++ (if i.separate.truthy then " " else "") ++ reference expression
    else reference (i.flag.text ++ " + " ++ expression)
  pure ⟨i.position, .str text⟩

/-- The parts in their first order. The base command has position 0. -/
def Task.parts (t : Task) : Except Fault (List Part) := do
  let arguments ← t.command.arguments.mapM (·.part)
  let inputs ← (t.command.inputs.filter (!·.isOmitted t.stdout)).mapM (·.part)
  pure (⟨.int 0, t.command.base⟩ :: arguments ++ inputs)

/-- Whether a position comes before another. Null comes after everything else. -/
def positionLess : Value → Value → Except Fault Bool
  | .null, _ => pure false
  | _, .null => pure true
  | v, w => if v.equals w then pure false else v.less w

/-- Puts a part before the first one that it has to precede. -/
def insertPart (p : Part) : List Part → Except Fault (List Part)
  | [] => pure [p]
  | q :: rest => do
    if ← positionLess p.position q.position then pure (p :: q :: rest)
    else pure (q :: (← insertPart p rest))

/-- The texts of the parts in the order of their positions; a comparison of positions may fail. -/
def orderParts (parts : List Part) : Except Fault (List Value) := do
  let placed ← parts.foldlM (fun placed p => insertPart p placed) []
  pure (placed.map (·.text))

/-- The setting of one environment variable, given as its name and its value. -/
def setting (pair : Value) : Except Fault String := do
  pure ((← pair.getAt 0).text ++ "='" ++ (← pair.getAt 1).text ++ "'")

/-- The settings that a requirement asks for, side by side. -/
def Requirement.settings (r : Requirement) : Except Fault (Option Value) := do
  if r.kind.equals (.str "envVar") then
    let texts ← (← r.value.items).mapM setting
    pure (some (.str (" ".intercalate texts)))
  else pure none

/-- What divides the parts of a command: a line continued on the next. -/
def partSeparator : String := " \\\n        "

/-- The command section. Settings of later requirements come first. -/
def Task.commandSection (t : Task) : Except Fault String := do
  let ordered ← orderParts (← t.parts)
  let settings := (← t.requirements.mapM (·.settings)).filterMap id
  let redirection := if t.stdout.isNull then [] else [.str ("> " ++ reference t.stdout.text)]
  Value.join partSeparator (.list (settings.reverse ++ ordered ++ redirection))

end FlowConverter.Wdl
