import FlowConverter.Value.Access

/-! Sample documents and records of adjustable size, in which the kinds of parameters, outputs and
requirements take turns. Remainders are never negative, and negative sizes give empty lists. -/
namespace FlowConverter.Workload

/-- The numbers below a size. -/
def below (n : Int) : List Int := (List.range n.toNat).map Int.ofNat

private def texts (ss : List String) : Value := .list (ss.map .str)

private def optionalOf (type : Value) : Value := .list [.str "null", type]

private def arrayOf (item : String) : Value :=
  .mapping [("type", .str "array"), ("items", .str item)]

private def script (code : String) : Value :=
  .mapping [("engine", .str "js"), ("script", .str code)]

private def docker (key image : String) : Value :=
  .mapping [("class", .str "DockerRequirement"), (key, .str image)]

private def ofClass (name : String) : Value := .mapping [("class", .str name)]

/-- An input parameter of one of ten kinds. -/
def inputParameter (i kind : Int) : Value :=
  let id := ("id", Value.str ("#in" ++ toString i))
  let binding (fields : List (String × Value)) := ("inputBinding", Value.mapping fields)
  let position := ("position", Value.int i)
  .mapping <|
    match (Int.fmod kind 10).toNat with
    | 0 => [id, ("type", .str "File"), binding [("prefix", .str "-I"), position]]
    | 1 => [id, ("type", optionalOf (.str "string")),
        binding [("prefix", .str "--s"), position, ("itemSeparator", .str ",")]]
    | 2 => [id, ("type", arrayOf "File"), binding [position]]
    | 3 => [id, ("type", optionalOf (arrayOf "int"))]
    | 4 => [id, ("type", .str "boolean"), ("default", .bool false),
        binding [("prefix", .str "-b")]]
    | 5 => [id, ("type", .str "boolean"), ("default", .bool true),
        binding [("prefix", .str "-t")]]
    | 6 => [id, ("type", .str "int"), binding [position, ("valueFrom", .str "42")]]
    | 7 => [id, ("type", .str "float"),
        binding [position, ("valueFrom", .mapping [("expr", .int 1)])]]
    | 8 => [("id", .str "#output"), ("type", .str "string"), ("default", .str "out.txt")]
    | _ => [id, ("type", optionalOf (.str "File")), ("default", .str "/tmp/x"),
        binding [("prefix", .str "-f")]]

/-- An output parameter of one of four kinds. -/
def outputParameter (i kind : Int) : Value :=
  let id := ("id", Value.str ("#out" ++ toString i))
  let binding (key : String) (v : Value) := ("outputBinding", Value.mapping [(key, v)])
  .mapping <|
    match (Int.fmod kind 4).toNat with
    | 0 => [id, ("type", .str "File"), binding "glob" (.str ("result" ++ toString i ++ ".txt"))]
    | 1 => [id, ("type", optionalOf (.str "File")), binding "glob" (script "x")]
    | 2 => [id, ("type", .str "string"), binding "loadContents" (.bool true)]
    | _ => [id, ("type", arrayOf "File")]

/-- Requirements of every kind, and imports of the two files that are not null. -/
def requirements (first second : Value) : Value :=
  let setting (name value : String) : Value :=
    .mapping [("envName", .str name), ("envValue", .str value)]
  let fixed : List Value :=
    [docker "dockerImageId" "img:1", docker "dockerPull" "repo/img:2",
     docker "dockerLoad" "x.tar",
     .mapping [("class", .str "EnvVarRequirement"),
       ("envDef", .list [setting "PATH" "/bin", setting "TMP" "/tmp"])],
     .mapping [("class", .str "ResourceRequirement"), ("coresMin", .int 1)],
     ofClass "InlineJavascriptRequirement", ofClass "SomeUnknownRequirement",
     .mapping [("someKey", .str "neither class nor import")],
     .mapping [("import", .str "definitely/does/not/exist.yml")]]
  let imported (key : String) (file : Value) : List Value :=
    if file.isNull then [] else [.mapping [(key, file)]]
  .list (fixed ++ imported "$import" first ++ imported "import" second)

/-- A tool of one of three variants. -/
def tool (inputs outputs variant : Int) (first second : Value) : Value :=
  let common : List (String × Value) :=
    [("class", .str "CommandLineTool"), ("baseCommand", texts ["tool", "sub"]),
     ("inputs", .list ((below inputs).map fun i => inputParameter i i)),
     ("outputs", .list ((below outputs).map fun i => outputParameter i i))]
  let arguments : String × Value :=
    ("arguments", .list [.str "plain-arg",
      .mapping [("prefix", .str "-x"), ("position", .int 0), ("valueFrom", .str "v")],
      .mapping [("position", .int 1)]])
  let required := ("requirements", requirements first second)
  .mapping <| common ++
    match (Int.fmod variant 3).toNat with
    | 0 => [("label", .str ("My.Tool " ++ toString variant)), arguments, required,
        ("hints", .list [docker "dockerPull" "h:1"]), ("stdout", .str "$(inputs.output)"),
        ("stdin", .str "in.txt")]
    | 1 => [("id", .str ("#tool" ++ toString variant)), arguments, required,
        ("stdout", script "x"), ("stdin", script "y")]
    | _ => [("hints", .list [docker "dockerImageId" "z"])]

/-- The item of a list, or the character of a text, that takes its turn at `i`. -/
def inTurn (choices : Value) (i : Int) : Except Fault Value := do
  let items ← choices.items
  if items.isEmpty then throw .emptyChoice
  choices.getAt (Int.fmod i items.length).toNat

/-- The `i`-th step of a sample workflow. -/
def step (runs : Value) (i : Int) : Except Fault Value := do
  let run ← inTurn runs i
  let input (name : String) (fields : List (String × Value)) : Value :=
    .mapping (("id", .str ("#t." ++ toString i ++ "." ++ name)) :: fields)
  let id := "#step" ++ toString i
  pure (.mapping [("id", .str id), ("run", run),
    ("inputs", .list [input "a" [("source", .str "#wf_in0")],
      input "b" [("source", texts ["#wf_in0", "#wf_in1"])],
      input "c" [("default", .int 7)], input "d" []]),
    ("outputs", .list [.mapping [("id", .str (id ++ ".out"))]])])

/-- A workflow of one of four variants; its steps run the given things in turn. -/
def workflow (size : Int) (runs : Value) (variant : Int) : Except Fault Value := do
  let steps ← (below size).mapM (step runs)
  let common : List (String × Value) :=
    [("class", .str "Workflow"),
     ("inputs", .list [.mapping [("id", .str "#wf_in0"), ("type", .str "File")],
       .mapping [("id", .str "#wf_in1"), ("type", optionalOf (.str "string"))]]),
     ("outputs", .list [.mapping [("id", .str "#wf_out"), ("type", .str "File"),
       ("outputBinding", .mapping [("glob", .str "*.txt")])]]),
     ("steps", .list steps)]
  pure <| .mapping <| common ++
    match (Int.fmod variant 4).toNat with
    | 0 => [("label", .str "My Workflow"), ("requirements", .list [docker "dockerPull" "x"]),
        ("hints", .list [ofClass "ResourceRequirement"])]
    | 1 => [("id", .str "#wfid"), ("requirements", .list [ofClass "InlineJavascriptRequirement"])]
    | 2 => [("hints", .list [docker "dockerImageId" "h"])]
    | _ => []

private def inputRecord (name type : String) (required : Bool)
    (flag position separator default : Value) : Value :=
  .mapping [("name", .str name), ("variable_type", .str type), ("is_required", .bool required),
    ("prefix", flag), ("position", position), ("separator", separator), ("default", default)]

/-- The `i`-th input record of a sample task. -/
def taskInput (i : Nat) : Value :=
  let type := ["File", "String", "Array[File]", "Boolean", "Int"].getD (i % 5) ""
  inputRecord ("inp" ++ toString i) type (i % 2 == 0)
    (if i % 3 = 0 then .null else .str ("-p" ++ toString i))
    (if i % 4 = 0 then .null else .int i)
    (if type == "Array[File]" then .str "," else .null)
    (if i % 3 = 1 then .str ("d" ++ toString i)
      else if type == "Boolean" then .str "False" else .null)

private def outputRecord (name source : String) : Value :=
  .mapping [("name", .str name), ("variable_type", .str "File"), ("is_required", .bool true),
    ("output", .str source)]

private def requirementRecord (kind value : Value) : Value :=
  .mapping [("requirement_type", kind), ("value", value)]

/-- A task record with `size` inputs and one more. -/
def taskRecord (size : Int) : Value :=
  let argument (position : Int) (flag value : Value) : Value :=
    .mapping [("position", .int position), ("prefix", flag), ("value", value)]
  let outputs := max 1 (Int.fdiv size 4)
  .mapping [("name", .str ("task_n" ++ toString size)),
    ("baseCommand", texts ["base", "cmd"]),
    ("arguments", .list [argument 0 .null (.str "argv"), argument 1 (.str "-a") .null,
      argument 2 (.str "-b") (.str "bb")]),
    ("inputs", .list ((List.range size.toNat).map taskInput ++
      [inputRecord "bool_noprefix" "Boolean" true .null .null .null .null])),
    ("outputs", .list ((below outputs).map fun i =>
      outputRecord ("out" ++ toString i) ("glob('*." ++ toString i ++ "')"))),
    ("requirements", .list [requirementRecord (.str "docker") (.str "img:1"),
      requirementRecord (.str "envVar")
        (.list [texts ["PATH", "/bin"], texts ["TMP", "/tmp"]]),
      requirementRecord .null .null]),
    ("stdin", .str "stdin.txt"), ("stdout", .str "inp0")]

/-- The task names that a sample workflow record uses if it is given none. -/
def stepNames : Value := texts ["sA", "sB", "sC"]

private def inputValues (name : String) (values : List (String × Value)) : Value :=
  .list (values.map fun (key, v) => .mapping [("id", .str (name ++ "." ++ key)), ("value", v)])

/-- The `i`-th step record; every other step has a definition. -/
def stepRecord (definition names : Value) (i : Nat) : Except Fault Value := do
  let name ← inTurn names i
  pure (.mapping [("task_id", name),
    ("task_definition", if i % 2 = 0 then definition else .null),
    ("import_statement", .str "import s.wdl"),
    ("inputs", if i % 3 = 0 then .list []
      else inputValues name.text [("x", .str "wf_in0"), ("y", .null)]),
    ("outputs", .list [.mapping [("id", .str (name.text ++ ".out"))]]),
    ("scatter", if i % 4 = 1 then .list [texts ["item", "items"]] else .list [])])

/-- A workflow record with `size` steps and, if wanted, a subworkflow that repeats the first. A false
definition stands for a small task. -/
def workflowRecord (size : Int) (nested : Bool) (definition names : Value) :
    Except Fault Value := do
  let definition := if definition.truthy then definition else taskRecord 4
  let steps ← (List.range size.toNat).mapM (stepRecord definition names)
  let inputs := Value.list [inputRecord "wf_in0" "File" true .null .null .null .null,
    inputRecord "wf_in1" "String" false .null .null .null .null]
  let outputs := Value.list [outputRecord "wf_out" "s0.out"]
  let inner := Value.mapping [("name", .str "subwf"), ("inputs", inputs), ("outputs", outputs),
    ("steps", .list (steps.take 1)), ("requirements", .list [])]
  let call := Value.mapping [("id", .str "subwf0"), ("definition", inner),
    ("inputs", inputValues "subwf0" [("x", .str "wf_in0")]),
    ("outputs", .list [.mapping [("id", .str "subwf0.out")]]),
    ("scatter", .list [texts ["i", "arr"]])]
  pure (.mapping ([("name", .str ("wf_n" ++ toString size)), ("inputs", inputs),
    ("outputs", outputs), ("steps", .list steps),
    ("requirements", .list [requirementRecord (.str "docker") (.str "img")])] ++
    (if nested then [("subworkflows", .list [call])] else [])))

end FlowConverter.Workload
