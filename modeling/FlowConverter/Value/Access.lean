import FlowConverter.Fault
import FlowConverter.Text.Edit

/-! Access to values of unknown shape. Each operation is defined on some kinds of value and stops
with a fault on the others. -/
namespace FlowConverter.Value

/-- Whether `part` occurs in `s` as a run of characters. -/
def occursIn (part : List Char) : List Char → Bool
  | [] => part.isEmpty
  | c :: rest => part.isPrefixOf (c :: rest) || occursIn part rest

/-- A key of a mapping, an item of a list, or a part of a text. -/
def has (key : String) : Value → Except Fault Bool
  | mapping fields => pure (fields.any fun f => f.1 == key)
  | list items => pure (items.any fun v => v.equals (str key))
  | str s => pure (occursIn key.toList s.toList)
  | _ => throw .wrongKind

/-- What a mapping holds under a key. -/
def get (key : String) : Value → Except Fault Value
  | mapping fields =>
    match fields.lookup key with
    | some v => pure v
    | none => throw (.missingKey (str key))
  | _ => throw .wrongKind

/-- What a mapping holds under a key, or null if the key is absent. -/
def getOrNull (key : String) (v : Value) : Except Fault Value := do
  if ← v.has key then v.get key else pure null

/-- What a mapping holds under a key, or `other` if the key is absent. -/
def getOr (v : Value) (key : String) (other : Value) : Except Fault Value :=
  match v with
  | mapping fields => pure ((fields.lookup key).getD other)
  | _ => throw .notText

/-- The items of a list, the characters of a text, or the keys of a mapping. -/
def items : Value → Except Fault (List Value)
  | list items => pure items
  | str s => pure (s.toList.map fun c => str c.toString)
  | mapping fields => pure (fields.map fun f => str f.1)
  | _ => throw .wrongKind

/-- The item at a place, counted from zero. -/
def getAt (i : Nat) : Value → Except Fault Value
  | list items =>
    match items[i]? with
    | some v => pure v
    | none => throw .outOfRange
  | str s =>
    match s.toList[i]? with
    | some c => pure (str c.toString)
    | none => throw .outOfRange
  | mapping _ => throw (.missingKey (int i))
  | _ => throw .wrongKind

/-- The value itself, if it is a text. -/
def asText : Value → Except Fault String
  | str s => pure s
  | _ => throw .wrongKind

/-- All items joined to one text; every item has to be a text. -/
def join (sep : String) (v : Value) : Except Fault String := do
  let parts ← (← v.items).mapM asText
  pure (sep.intercalate parts)

/-- The text without the marks `#` at its ends. -/
def stripMarks : Value → Except Fault String
  | str s => pure (Text.strip '#' s)
  | _ => throw .notText

/-- Two lists, or two texts, one after the other. -/
def append : Value → Value → Except Fault Value
  | list xs, list ys => pure (list (xs ++ ys))
  | str s, str t => pure (str (s ++ t))
  | _, _ => throw .wrongKind

mutual

/-- Whether a value comes before another: numbers by their magnitude, texts by their characters,
lists by the first items that differ. Nothing else has an order. -/
def less : Value → Value → Except Fault Bool
  | str s, str t => pure (decide (s < t))
  | list xs, list ys => itemsLess xs ys
  | v, w =>
    match v.magnitude?, w.magnitude? with
    | some a, some b => pure !(b.le a)
    | _, _ => throw .wrongKind

def itemsLess : List Value → List Value → Except Fault Bool
  | _, [] => pure false
  | [], _ :: _ => pure true
  | v :: vs, w :: ws => if v.equals w then itemsLess vs ws else v.less w

end

/-- The mapping with another value under a key that it has. -/
def set (v : Value) (key : String) (new : Value) : Value :=
  match v with
  | mapping fields => mapping (fields.map fun f => if f.1 == key then (f.1, new) else f)
  | v => v

end FlowConverter.Value
