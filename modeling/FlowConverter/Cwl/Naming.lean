import FlowConverter.Value.Access

/-! Names in the generated text. A reserved word gets the ending `_variable`, a name taken from a
label or an id has no space and no point, and a reference such as `$(inputs.x)` becomes `x`. -/
namespace FlowConverter.Cwl

/-- Words that no declaration may use. -/
def reservedWords : List String :=
  ["call", "task", "workflow", "import", "input", "output", "as", "if", "while", "runtime",
   "scatter", "command", "parameter_meta", "meta", "default", "sep", "prefix"]

/-- The name itself, or a name in place of a reserved word. -/
def safeName (name : String) : String :=
  if reservedWords.contains name then name ++ "_variable" else name

/-- `safeName` on texts; other values stay. -/
def safeValue : Value → Value
  | .str s => .str (safeName s)
  | v => v

/-- The length of what a reference has around its name: `inputs.` anywhere, and a closing bracket
at the end or before a last line feed. -/
def wrappingLength? (cs : List Char) : Option Nat :=
  if "inputs.".toList.isPrefixOf cs then some 7
  else if cs == [')'] || cs == [')', '\n'] then some 1
  else none

/-- A reference without the brackets around it. -/
def dropReference (s : String) : String :=
  let cs := s.toList
  String.ofList
    (Text.deleteAll wrappingLength? (if ['$', '('].isPrefixOf cs then cs.drop 2 else cs))

/-- A label or an id as a name, with `_` for spaces and points. -/
def underscored (v : Value) : Except Fault String := do
  pure (Text.replaceChars (fun c => c == ' ' || c == '.') '_' (← v.asText))

/-- The name of a tool or a workflow: its label, else its id, else what `other` gives. -/
def partName (part : Value) (other : Except Fault String) : Except Fault String := do
  let name ←
    if ← part.has "label" then underscored (← part.get "label")
    else if ← part.has "id" then
      pure (Text.strip '#' (← underscored (← part.get "id")))
    else other
  pure (safeName name)

end FlowConverter.Cwl
