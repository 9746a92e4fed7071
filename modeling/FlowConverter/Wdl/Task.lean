import FlowConverter.Value.Access

/-! Tasks and their parts, taken from records. A record may hold any value in any field; what is asked
for here is only that the fields are there and that lists can be gone through. -/
namespace FlowConverter.Wdl

structure Input where
  name : Value
  flag : Value
  position : Value
  separator : Value
  default : Value
  type : Value
  required : Value
  /-- Whether flag and value stand apart; so they do unless the record says otherwise. -/
  separate : Value

def Input.ofRecord (r : Value) : Except Fault Input := do
  pure {
    name := ← r.get "name"
    flag := ← r.get "prefix"
    position := ← r.get "position"
    separator := ← r.get "separator"
    default := ← r.get "default"
    type := ← r.get "variable_type"
    required := ← r.get "is_required"
    separate := ← r.getOr "separate" (.bool true) }

structure Output where
  name : Value
  source : Value
  type : Value
  required : Value

def Output.ofRecord (r : Value) : Except Fault Output := do
  pure {
    name := ← r.get "name"
    source := ← r.get "output"
    type := ← r.get "variable_type"
    required := ← r.get "is_required" }

structure Argument where
  flag : Value
  position : Value
  value : Value
  /-- Whether flag and value stand apart. No record says so: it has to be set. -/
  separate : Option Value

def Argument.ofRecord (r : Value) : Except Fault Argument := do
  pure {
    flag := ← r.get "prefix"
    position := ← r.get "position"
    value := ← r.get "value"
    separate := none }

structure Requirement where
  kind : Value
  value : Value

def Requirement.ofRecord (r : Value) : Except Fault Requirement := do
  pure {
    kind := ← r.get "requirement_type"
    value := ← r.get "value" }

structure Command where
  base : Value
  arguments : List Argument
  inputs : List Input

/-- Goes through a list of records. -/
def ofRecords {α : Type} (f : Value → Except Fault α) (records : Value) :
    Except Fault (List α) := do
  (← records.items).mapM f

/-- A base command of several words is joined by spaces. -/
def Command.readBase (base : Value) : Except Fault Value :=
  if base.isList then do pure (.str (← base.join " ")) else pure base

def Command.ofParts (base arguments inputs : Value) : Except Fault Command := do
  pure {
    base := ← readBase base
    arguments := ← ofRecords Argument.ofRecord arguments
    inputs := ← ofRecords Input.ofRecord inputs }

structure Task where
  name : Value
  command : Command
  inputs : List Input
  outputs : List Output
  requirements : List Requirement
  stdin : Value
  stdout : Value

def Task.ofRecord (r : Value) : Except Fault Task := do
  pure {
    name := ← r.get "name"
    command := ← do
      let base ← r.get "baseCommand"
      let arguments ← r.get "arguments"
      Command.ofParts base arguments (← r.get "inputs")
    inputs := ← ofRecords Input.ofRecord (← r.get "inputs")
    outputs := ← ofRecords Output.ofRecord (← r.get "outputs")
    requirements := ← ofRecords Requirement.ofRecord (← r.get "requirements")
    stdin := ← r.get "stdin"
    stdout := ← r.get "stdout" }

/-- Sets the separation of arguments one by one; null leaves an argument as it is. -/
def Argument.setSeparate : List Value → List Argument → List Argument
  | flag :: flags, a :: rest =>
    (if flag.isNull then a else { a with separate := some flag }) :: setSeparate flags rest
  | _, arguments => arguments

def Task.setSeparate (flags : List Value) (t : Task) : Task :=
  { t with command :=
    { t.command with arguments := Argument.setSeparate flags t.command.arguments } }

end FlowConverter.Wdl
