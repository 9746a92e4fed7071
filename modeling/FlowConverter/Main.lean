import FlowConverter.CommandLine.Run
import FlowConverter.Cwl.References
import FlowConverter.Json.Reader

/-! The command line. Documents are read from the disk as JSON. No validator is at hand, so whatever
asks for one ends with a fault. -/

open FlowConverter

namespace FlowConverter.Main

/-- The document at a path, if there is one. -/
def load? (path : String) : IO (Option Value) := do
  try
    pure (Json.read? (← IO.FS.readFile path))
  catch _ => pure none

/-- Adds the documents at the given paths, and all that these name, to a workspace. -/
partial def gatherFiles (ws : Workspace) : List String → IO Workspace
  | [] => pure ws
  | path :: rest => do
    let place := Path.normalize ws.directory path
    if (ws.files.lookup place).isSome then gatherFiles ws rest
    else
      match ← load? path with
      | none => gatherFiles ws rest
      | some document =>
        let named := Cwl.references document
        let below := named.map (Path.join (ws.directoryOf path))
        gatherFiles { ws with files := (place, document) :: ws.files } (named ++ below ++ rest)

def noValidator : CommandLine.Validator := fun _ _ => .error (.invalidText "no validator")

/-- What is written about a fault. -/
def faultLine (f : Fault) : String := (f.message.getD "malformed document") ++ "\n"

end FlowConverter.Main

open FlowConverter.Main in
def main (words : List String) : IO UInt32 := do
  let here := Path.normalize [] (toString (← IO.currentDir))
  let ws ← gatherFiles ⟨[], here⟩ words
  let t := CommandLine.run ws Cwl.nestingBound noValidator words
  for w in t.warnings do
    IO.eprintln w.text
  IO.print t.stdout
  IO.eprint t.stderr
  match t.ending with
  | .returned => pure 0
  | .exited code => pure (UInt32.ofNat code)
  | .failed f => do
    IO.eprint (faultLine f)
    pure 1
