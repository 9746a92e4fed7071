import FlowConverter.Number.Shortest
import FlowConverter.Text.Quoted
import FlowConverter.Value

/-! Writing values as JSON text in ASCII, without spaces, keys in their order. -/
namespace FlowConverter.Json

/-- A character by one or two code units. -/
private def unitEscape (c : Char) : List Char :=
  let n := c.toNat
  if n < 0x10000 then '\\' :: 'u' :: Text.hex 4 n
  else
    let m := n - 0x10000
    '\\' :: 'u' :: Text.hex 4 (0xd800 + m / 0x400) ++
      '\\' :: 'u' :: Text.hex 4 (0xdc00 + m % 0x400)

private def writeChar (c : Char) : List Char :=
  if c == '\x22' || c == '\\' then ['\\', c]
  else if 0x20 ≤ c.toNat && c.toNat < 0x7f then [c]
  else unitEscape c

def writeText (s : String) : String :=
  String.ofList ('\x22' :: s.toList.flatMap writeChar ++ ['\x22'])

mutual

def write : Value → String
  | .null => "null"
  | .bool b => if b then "true" else "false"
  | .int i => toString i
  | .float x => x.text
  | .str s => writeText s
  | .list items => "[" ++ ",".intercalate (writeItems items) ++ "]"
  | .mapping fields => "\x7b" ++ ",".intercalate (writeFields fields) ++ "\x7d"

def writeItems : List Value → List String
  | [] => []
  | v :: rest => write v :: writeItems rest

def writeFields : List (String × Value) → List String
  | [] => []
  | (k, v) :: rest => (writeText k ++ ":" ++ write v) :: writeFields rest

end

end FlowConverter.Json
