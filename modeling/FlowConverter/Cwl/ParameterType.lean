import FlowConverter.Value.Access

/-! Types of parameters: a name, an array description, or a list of alternatives in which `null`
makes the parameter optional. Only some of them have a counterpart. -/
namespace FlowConverter.Cwl

inductive BaseType where
  | file
  | string
  | boolean
  | int
  | float
deriving DecidableEq, Repr

inductive ParameterType where
  | single (base : BaseType)
  | array (base : BaseType)
deriving DecidableEq, Repr

def BaseType.text : BaseType → String
  | file => "File"
  | string => "String"
  | boolean => "Boolean"
  | int => "Int"
  | float => "Float"

def ParameterType.text : ParameterType → String
  | single base => base.text
  | array base => "Array[" ++ base.text ++ "]"

def ParameterType.isArray : ParameterType → Bool
  | single _ => false
  | array _ => true

/-- The types by name; the items of an array follow `array-`. -/
def typeNames : List (String × ParameterType) :=
  [("File", .single .file), ("string", .single .string), ("boolean", .single .boolean),
   ("int", .single .int), ("long", .single .float), ("float", .single .float),
   ("double", .single .float), ("array-File", .array .file), ("array-string", .array .string),
   ("array-int", .array .int), ("array-long", .array .float), ("array-float", .array .float),
   ("array-double", .array .float)]

/-- The type of a name. Lists and mappings are no names at all. -/
def typeOfName : Value → Except Fault ParameterType
  | .str s =>
    match typeNames.lookup s with
    | some t => pure t
    | none => throw (.unrecognizedType (.str s))
  | .list _ => throw .wrongKind
  | .mapping _ => throw .wrongKind
  | v => throw (.unrecognizedType v)

/-- The name that a mapping describes a type by; none if it describes no array, enumeration or
record. Enumerations and records have no counterpart. -/
def describedName? (v : Value) : Except Fault (Option String) := do
  let kind ← v.get "type"
  if kind.equals (.str "array") then
    pure (some ("array-" ++ (← (← v.get "items").asText)))
  else if kind.equals (.str "enum") then throw (.unsupportedType "enum")
  else if kind.equals (.str "record") then throw (.unsupportedType "record")
  else pure none

/-- The type of a parameter. Of a list with `null` the first other alternative counts; a list
without it decides nothing. -/
def ParameterType.read : Value → Except Fault ParameterType
  | .str s => typeOfName (.str s)
  | .list items => do
    if items.any (·.equals (.str "null")) then
      match items.find? fun v => !v.equals (.str "null") with
      | none => throw .outOfRange
      | some (.mapping fields) =>
        match ← describedName? (.mapping fields) with
        | some name => typeOfName (.str name)
        | none => typeOfName (.mapping fields)
      | some v => typeOfName v
    else throw .undecided
  | .mapping fields => do
    match ← describedName? (.mapping fields) with
    | some name => typeOfName (.str name)
    | none => throw .undecided
  | _ => throw .undecided

mutual

/-- Whether a parameter has to be given: not if `null` is an alternative. A mapping is asked for its
own type. -/
def isRequired : Value → Except Fault Bool
  | .list items => pure !(items.any (·.equals (.str "null")))
  | .mapping fields => isRequiredField fields
  | .str s => pure (s != "null")
  | _ => throw .undecided

def isRequiredField : List (String × Value) → Except Fault Bool
  | [] => throw (.missingKey (.str "type"))
  | (key, v) :: rest => if key == "type" then isRequired v else isRequiredField rest

end

end FlowConverter.Cwl
