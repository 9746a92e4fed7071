import FlowConverter.Number.Shortest
import FlowConverter.Text.Quoted
import FlowConverter.Value

/-! The text of a value. A text stands for itself at the top and is quoted inside a list or a
mapping; all else is written the same in both places. -/
namespace FlowConverter.Value

mutual

/-- The form of a value inside a list or a mapping. -/
def quoted : Value → String
  | null => "None"
  | bool b => if b then "True" else "False"
  | int i => toString i
  | float x => x.text
  | str s => Text.quoted s
  | list items => "[" ++ ", ".intercalate (quotedItems items) ++ "]"
  | mapping fields => "\x7b" ++ ", ".intercalate (quotedFields fields) ++ "\x7d"

def quotedItems : List Value → List String
  | [] => []
  | v :: rest => v.quoted :: quotedItems rest

def quotedFields : List (String × Value) → List String
  | [] => []
  | (k, v) :: rest => (Text.quoted k ++ ": " ++ v.quoted) :: quotedFields rest

end

/-- The form of a value that stands alone. -/
def text : Value → String
  | str s => s
  | v => v.quoted

end FlowConverter.Value
