import FlowConverter.Number.Double

/-! Document values. A document is a value, and so is every part of it; nothing is assumed about
its shape, and mappings keep the order of their keys. -/
namespace FlowConverter

inductive Value where
  | null
  | bool (b : Bool)
  | int (i : Int)
  | float (x : Double)
  | str (s : String)
  | list (items : List Value)
  | mapping (fields : List (String × Value))

namespace Value

instance : Inhabited Value := ⟨null⟩

/-- A text, or null for none. -/
def ofText? : Option String → Value
  | some s => str s
  | none => null

def isNull : Value → Bool
  | null => true
  | _ => false

def isList : Value → Bool
  | list _ => true
  | _ => false

def isMapping : Value → Bool
  | mapping _ => true
  | _ => false

def text? : Value → Option String
  | str s => some s
  | _ => none

/-- The number that a value stands for; truth values count as 0 and 1. -/
def magnitude? : Value → Option Magnitude
  | bool b => some (.point (if b then 1 else 0))
  | int i => some (.point i)
  | float x => some x.magnitude
  | _ => none

/-- Null, zero and everything empty are false. -/
def truthy : Value → Bool
  | null => false
  | bool b => b
  | int i => i != 0
  | float x => !x.isZero
  | str s => !s.isEmpty
  | list items => !items.isEmpty
  | mapping fields => !fields.isEmpty

mutual

/-- How deep lists and mappings are nested; 0 for all else. -/
def depth : Value → Nat
  | list items => itemsDepth items + 1
  | mapping fields => fieldsDepth fields + 1
  | _ => 0

def itemsDepth : List Value → Nat
  | [] => 0
  | v :: rest => max v.depth (itemsDepth rest)

def fieldsDepth : List (String × Value) → Nat
  | [] => 0
  | (_, v) :: rest => max v.depth (fieldsDepth rest)

end

mutual

/-- Equality as a document means it: numbers by their magnitude, mappings without regard to the
order of their keys. -/
def equals : Value → Value → Bool
  | null, null => true
  | str s, str t => s == t
  | list xs, list ys => itemsEqual xs ys
  | mapping fs, mapping gs => fs.length == gs.length && fieldsWithin fs gs
  | v, w =>
    match v.magnitude?, w.magnitude? with
    | some a, some b => a == b
    | _, _ => false

def itemsEqual : List Value → List Value → Bool
  | [], [] => true
  | v :: vs, w :: ws => v.equals w && itemsEqual vs ws
  | _, _ => false

/-- Every field of the first list has an equal one in the second. -/
def fieldsWithin : List (String × Value) → List (String × Value) → Bool
  | [], _ => true
  | (k, v) :: rest, gs =>
    match gs.lookup k with
    | some w => v.equals w && fieldsWithin rest gs
    | none => false

end

end Value

end FlowConverter
