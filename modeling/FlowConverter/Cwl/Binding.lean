import FlowConverter.Value.Access

/-! Bindings: how a value gets onto the command line. Arguments are bindings too, or plain texts. -/
namespace FlowConverter.Cwl

structure Binding where
  flag : Value
  position : Value
  separator : Value
  value : Value

/-- The binding of a value that has none. -/
def Binding.empty : Binding := ⟨.null, .null, .null, .null⟩

def Binding.read (v : Value) : Except Fault Binding := do
  pure {
    flag := ← v.getOrNull "prefix"
    position := ← v.getOrNull "position"
    separator := ← v.getOrNull "itemSeparator"
    value := ← v.getOrNull "valueFrom" }

/-- The binding of a parameter that may have none. -/
def Binding.readOf (parameter : Value) : Except Fault Binding := do
  if ← parameter.has "inputBinding" then read (← parameter.get "inputBinding") else pure empty

def Binding.toRecord (b : Binding) : Value :=
  .mapping [("prefix", b.flag), ("position", b.position), ("separator", b.separator),
    ("value", b.value)]

inductive Argument where
  | plain (value : Value)
  | bound (binding : Binding)

/-- The record of a plain argument spells its position in its own way, so it has no `position`. -/
def Argument.toRecord : Argument → Value
  | plain value =>
    .mapping [("prefix", .null), ("postion", .null), ("separator", .null), ("value", value)]
  | bound binding => binding.toRecord

/-- One item of a list of arguments; only texts and mappings are arguments. -/
def Argument.readItem : Value → Except Fault (Option Argument)
  | .str s => pure (some (plain (.str s)))
  | .mapping fields => do pure (some (bound (← Binding.read (.mapping fields))))
  | _ => pure none

/-- The arguments of a tool: a list of them, or a mapping that is one itself. -/
def Argument.readAll : Value → Except Fault (List Argument)
  | .list items => do pure ((← items.mapM readItem).filterMap id)
  | v => do
    match ← v.get "arguments" with
    | .str _ => pure [plain v]
    | .mapping _ => pure [bound (← Binding.read v)]
    | _ => pure []

/-- The arguments of a tool that may have none. -/
def Argument.readOf (tool : Value) : Except Fault (List Argument) := do
  if ← tool.has "arguments" then readAll (← tool.get "arguments") else pure []

end FlowConverter.Cwl
