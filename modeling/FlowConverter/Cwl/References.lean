import FlowConverter.Value

/-! The files that a document may name: what its steps run and what its requirements import. Reading
the document may need fewer of them, never more. -/
namespace FlowConverter.Cwl

/-- The keys under which a file can be named. -/
def fileKeys : List String := ["run", "import", "$import"]

private def namedFile (key : String) : Value → List String
  | .str s => if fileKeys.contains key then [s] else []
  | _ => []

mutual

def references : Value → List String
  | .list items => referencesOfItems items
  | .mapping fields => referencesOfFields fields
  | _ => []

def referencesOfItems : List Value → List String
  | [] => []
  | v :: rest => references v ++ referencesOfItems rest

def referencesOfFields : List (String × Value) → List String
  | [] => []
  | (key, v) :: rest => namedFile key v ++ references v ++ referencesOfFields rest

end

end FlowConverter.Cwl
