import FlowConverter.Text.Blank
import FlowConverter.Wdl.CommandSection

/-! The text of a task: declarations of its inputs, command, outputs and runtime. A task without
runtime lines has no runtime section. -/
namespace FlowConverter.Wdl

/-- The type with a question mark at its end, and before a last line feed too. -/
def optionalMark : List Char → List Char
  | [] => ['?']
  | c :: rest => if c == '\n' && rest.isEmpty then ['?', '\n', '?'] else c :: optionalMark rest

/-- Type and name of an input. -/
def Input.declaration (i : Input) : Except Fault String := do
  let type ←
    if i.required.truthy then pure i.type.text
    else pure (String.ofList (optionalMark (← i.type.asText).toList))
  pure (type ++ " " ++ i.name.text)

def declarations (inputs : List Input) : Except Fault String := do
  pure ("\n    ".intercalate (← inputs.mapM (·.declaration)))

def Output.line (o : Output) : String :=
  o.type.text ++ " " ++ o.name.text ++ " = " ++ o.source.text

def Task.outputSection (t : Task) : String := "\n        ".intercalate (t.outputs.map (·.line))

/-- A requirement as a line of the runtime section; settings of the environment are none. -/
def Requirement.line? (r : Requirement) : Option String :=
  if r.kind.isNull || r.value.isNull || r.kind.equals (.str "envVar") then none
  else some (r.kind.text ++ ": '" ++ r.value.text ++ "'")

def Task.runtimeLines (t : Task) : List String := t.requirements.filterMap (·.line?)

/-- The sections of a task put together. -/
def taskText (name declarations command outputs runtime : String) : String :=
  "\ntask " ++ name ++ " \x7b\n    " ++ declarations ++
  "\n\n    command \x7b\n        " ++ command ++
  "\n    \x7d\n\n    output \x7b\n        " ++ outputs ++
  "\n    \x7d\n\n    runtime \x7b\n        " ++ runtime ++
  "\n    \x7d\n\x7d\n"

/-- The length of an empty runtime section at the start of a text, with the blanks before it. -/
def emptyRuntimeLength? (s : List Char) : Option Nat :=
  let before := s.takeWhile Text.isBlank
  match "runtime \x7b".toList.isPrefixOf? (s.dropWhile Text.isBlank) with
  | none => none
  | some rest =>
    let inside := rest.takeWhile Text.isBlank
    match rest.dropWhile Text.isBlank with
    | c :: _ =>
      if c == '\x7d' && !before.isEmpty && !inside.isEmpty then
        some (before.length + 9 + inside.length + 1)
      else none
    | [] => none

/-- Deletes empty runtime sections wherever they stand. -/
def dropEmptyRuntime (s : List Char) : List Char := Text.deleteAll emptyRuntimeLength? s

/-- The text of a task. -/
def Task.text (t : Task) : Except Fault String := do
  let inputs ← declarations t.inputs
  let command ← t.commandSection
  let lines := t.runtimeLines
  let text := taskText t.name.text inputs command t.outputSection ("\n        ".intercalate lines)
  pure (if lines.isEmpty then String.ofList (dropEmptyRuntime text.toList) else text)

end FlowConverter.Wdl
