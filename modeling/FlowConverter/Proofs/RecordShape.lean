import Mathlib.Data.List.DropRight
import FlowConverter.Proofs.StepDefinitions

/-! The records of a document. What stands in them is described against the document they were read
from: one record for each element and in the same order, clean names, types from a fixed list,
separators for arrays, texts for defaults, and requirements of two kinds. The same holds of the
tools that a step takes from another file. Main statement: every document that can be read has
such a record. -/
namespace FlowConverter

/-! ### Names -/

theorem Text.head?_stripChars (m : Char) (s : List Char) : (stripChars m s).head? ≠ some m := by
  obtain ⟨dropped, hdropped⟩ : stripChars m s <+: s.dropWhile (· == m) :=
    List.rdropWhile_prefix _ _
  intro h
  have hfirst := List.head?_dropWhile_not (· == m) s
  rw [← hdropped, List.head?_append, h] at hfirst
  simp at hfirst

theorem Text.getLast?_stripChars (m : Char) (s : List Char) :
    (stripChars m s).getLast? ≠ some m := by
  rw [stripChars, List.getLast?_reverse]
  intro h
  have hfirst := List.head?_dropWhile_not (· == m) (s.dropWhile (· == m)).reverse
  rw [h] at hfirst
  simp at hfirst

theorem Value.stripMarks_eq_ok {v : Value} {t : String} (h : v.stripMarks = .ok t) :
    ∃ s, v = .str s ∧ t = Text.strip '#' s := by
  cases v with
  | str s => exact ⟨s, rfl, (Except.ok.inj h).symm⟩
  | _ => cases h

namespace Cwl

/-- A name without marks at its ends that is no reserved word. -/
structure CleanName (name : String) : Prop where
  first : name.toList.head? ≠ some '#'
  last : name.toList.getLast? ≠ some '#'
  free : name ∉ reservedWords

theorem CleanName.safeName {name : String} (hfirst : name.toList.head? ≠ some '#')
    (hlast : name.toList.getLast? ≠ some '#') : CleanName (safeName name) := by
  have hwords : ∀ word ∈ reservedWords, (word ++ "_variable").toList.head? ≠ some '#' ∧
      (word ++ "_variable").toList.getLast? ≠ some '#' ∧
      word ++ "_variable" ∉ reservedWords := by decide
  rw [Cwl.safeName]
  split
  next h =>
    obtain ⟨hf, hl, hfree⟩ := hwords name (List.contains_iff_mem.mp h)
    exact ⟨hf, hl, hfree⟩
  next h => exact ⟨hfirst, hlast, fun hmem => h (List.contains_iff_mem.mpr hmem)⟩

theorem CleanName.safeName_strip (id : String) : CleanName (Cwl.safeName (Text.strip '#' id)) := by
  refine .safeName ?_ ?_
  · rw [Text.strip, String.toList_ofList]
    exact Text.head?_stripChars _ _
  · rw [Text.strip, String.toList_ofList]
    exact Text.getLast?_stripChars _ _

/-! ### Types -/

def singleTypes : List String := ["File", "String", "Boolean", "Int", "Float"]

def arrayTypes : List String := ["Array[File]", "Array[String]", "Array[Int]", "Array[Float]"]

theorem mem_typeNames_of_lookup {s : String} {t : ParameterType}
    (h : typeNames.lookup s = some t) : (s, t) ∈ typeNames := by
  obtain ⟨l, r, hnames, -⟩ := List.lookup_eq_some_iff.mp h
  rw [hnames]
  simp

theorem typeOfName_eq_ok_iff {v : Value} {t : ParameterType} :
    typeOfName v = .ok t ↔ ∃ s, v = .str s ∧ typeNames.lookup s = some t := by
  cases v with
  | str s =>
    rw [typeOfName]
    cases h : typeNames.lookup s <;> simp [h, pure_eq_ok, throw_eq_error]
  | _ => simp [typeOfName, throw_eq_error]

theorem typeOfName_mem {v : Value} {t : ParameterType} (h : typeOfName v = .ok t) :
    t ∈ typeNames.map (·.2) := by
  obtain ⟨s, -, hs⟩ := typeOfName_eq_ok_iff.mp h
  exact List.mem_map.mpr ⟨(s, t), mem_typeNames_of_lookup hs, rfl⟩

theorem ParameterType.read_mem {v : Value} {t : ParameterType} (h : ParameterType.read v = .ok t) :
    t ∈ typeNames.map (·.2) := by
  rcases ParameterType.read_cases v with ⟨w, hw⟩ | ⟨w, e, -, hv⟩ | hv | hv
  · exact typeOfName_mem (hw.symm.trans h)
  · cases hv.symm.trans h
  · cases hv.symm.trans h
  · cases hv.symm.trans h

theorem ParameterType.text_mem {v : Value} {t : ParameterType} (h : ParameterType.read v = .ok t) :
    t.text ∈ singleTypes ++ arrayTypes := by
  have hnames : ∀ t ∈ typeNames.map (·.2), t.text ∈ singleTypes ++ arrayTypes := by decide
  exact hnames t (read_mem h)

theorem ParameterType.isArray_of_mem {t : ParameterType} (h : t.text ∈ arrayTypes) :
    t.isArray = true := by
  rcases t with base | base
  · revert h
    cases base <;> decide
  · rfl

/-! ### Parameters and requirements -/

/-- What the records of inputs and of outputs share. -/
structure ParameterRecord (source record : Value) : Prop where
  name : ∃ id name, source.get "id" = .ok (.str id) ∧ record.get "name" = .ok (.str name) ∧
    name = safeName (Text.strip '#' id) ∧ CleanName name
  type : ∃ type ∈ singleTypes ++ arrayTypes, record.get "variable_type" = .ok (.str type)

structure InputRecord (source record : Value) : Prop extends ParameterRecord source record where
  separator : ∀ type ∈ arrayTypes, record.get "variable_type" = .ok (.str type) →
    ∃ separator, record.get "separator" = .ok separator ∧ separator.isNull = false
  default : record.get "default" = .ok .null ∨ ∃ s, record.get "default" = .ok (.str s)

/-- An image, or settings that pair a variable with its value. -/
def RequirementRecord (record : Value) : Prop :=
  record.get "requirement_type" = .ok (.str "docker") ∨
  record.get "requirement_type" = .ok (.str "envVar") ∧
    ∃ settings, record.get "value" = .ok (.list settings) ∧
      ∀ setting ∈ settings, ∃ name value, setting = .list [name, value]

theorem parameterName_eq_ok {parameter : Value} {name : String}
    (h : parameterName parameter = .ok name) :
    ∃ id, parameter.get "id" = .ok (.str id) ∧ name = safeName (Text.strip '#' id) := by
  obtain ⟨v, hv, h⟩ := bind_eq_ok_iff.mp h
  obtain ⟨stripped, hstripped, h⟩ := bind_eq_ok_iff.mp h
  obtain ⟨id, rfl, rfl⟩ := Value.stripMarks_eq_ok hstripped
  exact ⟨id, hv, (Except.ok.inj h).symm⟩

/-- A parameter with its name and its type has a record of its own. -/
theorem ParameterRecord.of_read {source record type : Value} {name : String} {t : ParameterType}
    (hname : parameterName source = .ok name) (htype : ParameterType.read type = .ok t)
    (hrecordName : record.get "name" = .ok (.str name))
    (hrecordType : record.get "variable_type" = .ok (.str t.text)) :
    ParameterRecord source record := by
  obtain ⟨id, hid, rfl⟩ := parameterName_eq_ok hname
  exact ⟨⟨id, _, hid, hrecordName, rfl, .safeName_strip id⟩, _, t.text_mem htype, hrecordType⟩

theorem InputParameter.read_eq_ok {source : Value} {p : InputParameter}
    (h : (InputParameter.read source).outcome = .ok p) :
    parameterName source = .ok p.name ∧
      (∃ type, ParameterType.read type = .ok p.type) ∧
      (p.type.isArray = true → p.separator.isNull = false) := by
  simp only [InputParameter.read, Logged.outcome_bind, Logged.outcome_lift,
    Logged.outcome_pure] at h
  obtain ⟨name, hname, h⟩ := bind_eq_ok_iff.mp h
  obtain ⟨_, -, h⟩ := bind_eq_ok_iff.mp h
  obtain ⟨required, -, h⟩ := bind_eq_ok_iff.mp h
  obtain ⟨source', -, h⟩ := bind_eq_ok_iff.mp h
  obtain ⟨type, htype, h⟩ := bind_eq_ok_iff.mp h
  obtain ⟨binding, -, h⟩ := bind_eq_ok_iff.mp h
  obtain ⟨default, -, h⟩ := bind_eq_ok_iff.mp h
  obtain rfl := Except.ok.inj h
  refine ⟨hname, ⟨source', htype⟩, ?_⟩
  intro harray
  cases hnull : binding.separator.isNull with
  | true => simp [harray, Value.isNull]
  | false => simp [hnull]

theorem InputParameter.record_of_read {source : Value} {p : InputParameter}
    (h : (InputParameter.read source).outcome = .ok p) : InputRecord source p.toRecord := by
  obtain ⟨hname, ⟨type, htype⟩, hseparator⟩ := read_eq_ok h
  refine ⟨.of_read hname htype rfl rfl, ?_, ?_⟩
  · intro text hmem htext
    obtain rfl : p.type.text = text := Value.str.inj (Except.ok.inj htext)
    exact ⟨p.separator, rfl, hseparator (ParameterType.isArray_of_mem hmem)⟩
  · cases hdefault : p.default with
    | none => exact .inl (congrArg (Except.ok ∘ Value.ofText?) hdefault)
    | some s => exact .inr ⟨s, congrArg (Except.ok ∘ Value.ofText?) hdefault⟩

theorem OutputParameter.read_eq_ok {source : Value} {p : OutputParameter}
    (h : (OutputParameter.read source).outcome = .ok p) :
    parameterName source = .ok p.name ∧ ∃ type, ParameterType.read type = .ok p.type := by
  simp only [OutputParameter.read, Logged.outcome_bind, Logged.outcome_lift,
    Logged.outcome_pure] at h
  obtain ⟨name, hname, h⟩ := bind_eq_ok_iff.mp h
  obtain ⟨_, -, h⟩ := bind_eq_ok_iff.mp h
  obtain ⟨required, -, h⟩ := bind_eq_ok_iff.mp h
  obtain ⟨source', -, h⟩ := bind_eq_ok_iff.mp h
  obtain ⟨type, htype, h⟩ := bind_eq_ok_iff.mp h
  obtain ⟨output, -, h⟩ := bind_eq_ok_iff.mp h
  obtain rfl := Except.ok.inj h
  exact ⟨hname, source', htype⟩

theorem OutputParameter.record_of_read {source : Value} {p : OutputParameter}
    (h : (OutputParameter.read source).outcome = .ok p) : ParameterRecord source p.toRecord := by
  obtain ⟨hname, type, htype⟩ := read_eq_ok h
  exact .of_read hname htype rfl rfl

theorem Requirement.record (r : Requirement) : RequirementRecord r.toRecord := by
  cases r with
  | docker image => exact .inl rfl
  | environment settings =>
    refine .inr ⟨rfl, _, rfl, ?_⟩
    intro setting hmem
    obtain ⟨v, -, rfl⟩ := List.mem_map.mp hmem
    exact ⟨v.1, v.2, rfl⟩

theorem Requirement.records (requirements : List Requirement) :
    ∀ r ∈ requirements.map (·.toRecord), RequirementRecord r := by
  intro r hr
  obtain ⟨requirement, -, rfl⟩ := List.mem_map.mp hr
  exact requirement.record

/-! ### Lists of records -/

/-- Under the key, the record has one record for each element of the source, in the same order. -/
def Lists (key : String) (Fits : Value → Value → Prop) (source record : Value) : Prop :=
  ∃ listed elements records, source.get key = .ok listed ∧ listed.items = .ok elements ∧
    record.get key = .ok (.list records) ∧ List.Forall₂ Fits elements records

theorem Lists.of_read {α : Type} {key : String} {Fits : Value → Value → Prop}
    {source record listed : Value} {read : Value → Except Fault α} {toRecord : α → Value}
    {xs : List α} (hsource : source.get key = .ok listed)
    (hread : (listed.items >>= fun elements => elements.mapM read) = .ok xs)
    (hrecord : record.get key = .ok (.list (xs.map toRecord)))
    (h : ∀ element x, read element = .ok x → Fits element (toRecord x)) :
    Lists key Fits source record := by
  obtain ⟨elements, helements, hread⟩ := bind_eq_ok_iff.mp hread
  refine ⟨listed, elements, _, hsource, helements, hrecord, ?_⟩
  rw [List.forall₂_map_right_iff]
  exact ((mapM_eq_ok_iff _ _ _).mp hread).imp h

/-- What the records of tools and of workflows share. -/
structure PartRecord (source record : Value) : Prop where
  inputs : Lists "inputs" InputRecord source record
  outputs : Lists "outputs" ParameterRecord source record
  requirements : ∃ records, record.get "requirements" = .ok (.list records) ∧
    ∀ r ∈ records, RequirementRecord r

section

variable {source record : Value}

theorem Lists.inputs {inputs : List InputParameter}
    (h : ∃ v, source.get "inputs" = .ok v ∧ (InputParameter.readAll v).outcome = .ok inputs)
    (hrecord : record.get "inputs" = .ok (.list (inputs.map (·.toRecord)))) :
    Lists "inputs" InputRecord source record := by
  obtain ⟨v, hv, hread⟩ := h
  simp only [InputParameter.readAll, Logged.outcome_bind, Logged.outcome_lift,
    Logged.outcome_mapM] at hread
  exact .of_read hv hread hrecord fun _ _ => InputParameter.record_of_read

theorem Lists.outputs {outputs : List OutputParameter}
    (h : ∃ v, source.get "outputs" = .ok v ∧ (OutputParameter.readAll v).outcome = .ok outputs)
    (hrecord : record.get "outputs" = .ok (.list (outputs.map (·.toRecord)))) :
    Lists "outputs" ParameterRecord source record := by
  obtain ⟨v, hv, hread⟩ := h
  simp only [OutputParameter.readAll, Logged.outcome_bind, Logged.outcome_lift,
    Logged.outcome_mapM] at hread
  exact .of_read hv hread hrecord fun _ _ => OutputParameter.record_of_read

end

theorem Tool.record_of_read {ws : Workspace} {bound : Nat} {sourceDir source : Value} {t : Tool}
    (h : (Tool.read ws bound sourceDir source).outcome = .ok t) : PartRecord source t.toRecord := by
  obtain ⟨-, -, -, hinputs, houtputs, -⟩ := Tool.read_eq_ok_iff.mp h
  exact ⟨.inputs hinputs rfl, .outputs houtputs rfl, _, rfl, Requirement.records _⟩

/-! ### Classes of parts -/

def isOfClass (className : String) (part : Value) : Bool :=
  match part.get "class" with
  | .ok v => v.equals (.str className)
  | .error _ => false

theorem isOfClass_mapping_iff {className : String} {fields : List (String × Value)} :
    isOfClass className (.mapping fields) = true ↔
      fields.lookup "class" = some (.str className) := by
  rw [isOfClass, ← Value.get_mapping_eq_ok_iff]
  cases (Value.mapping fields).get "class" with
  | error e => simp
  | ok v => simp [Value.equals_str_iff]

/-- The parts of one class are read in order, and each of them is. -/
theorem readParts_eq_ok {α : Type} {className : String} {read : Value → Report α}
    {parts : List Value} {xs : List α} (h : (readParts className read parts).outcome = .ok xs) :
    List.Forall₂ (fun part x => (read part).outcome = .ok x)
      (parts.filter (isOfClass className)) xs := by
  induction parts generalizing xs with
  | nil =>
    cases h
    exact .nil
  | cons part rest ih =>
    simp only [readParts, Logged.gather, Logged.outcome_bind, Logged.outcome_lift,
      Logged.outcome_ite, Logged.outcome_pure] at h
    obtain ⟨found, hfound, h⟩ := bind_eq_ok_iff.mp h
    obtain ⟨more, hmore, h⟩ := bind_eq_ok_iff.mp h
    cases h
    obtain ⟨v, hv, hfound⟩ := bind_eq_ok_iff.mp hfound
    rw [List.filter_cons, isOfClass, hv]
    split at hfound
    next hclass =>
      obtain ⟨x, hx, hfound⟩ := bind_eq_ok_iff.mp hfound
      cases hfound
      simp only [hclass, if_true]
      exact .cons hx (ih hmore)
    next hclass =>
      cases hfound
      simp only [hclass]
      exact ih hmore

/-- The tools of a document; a workflow that is a document of its own has no list of them. -/
def toolParts? : Value → Option (List Value)
  | .list parts => some (parts.filter (isOfClass "CommandLineTool"))
  | v => if isOfClass "CommandLineTool" v then some [v] else none

/-- The workflow of a document: the first of them counts. -/
def workflowPart? : Value → Option Value
  | .list parts => parts.find? (isOfClass "Workflow")
  | v => if isOfClass "Workflow" v then some v else none

section

variable {tool : Value → Report Tool} {workflow : Value → Report Workflow} {source : Value}
  {d : Document}

/-- Each tool of a document is read, in order. -/
theorem Document.tasks_of_ofValue (h : (Document.ofValue tool workflow source).outcome = .ok d) :
    Option.Rel (List.Forall₂ fun part t => (tool part).outcome = .ok t) (toolParts? source)
      d.tasks := by
  rcases Document.ofValue_eq_ok h with ⟨parts, tools, first, rest, rfl, htools, -, rfl⟩ |
    ⟨fields, t, rfl, hclass, htool, rfl⟩ | ⟨fields, w, rfl, hclass, -, rfl⟩
  · exact .some (readParts_eq_ok htools)
  · have hself : toolParts? (.mapping fields) = some [.mapping fields] := by
      rw [toolParts?, if_pos (isOfClass_mapping_iff.mpr hclass)]
      simp
    rw [hself]
    exact .some (.cons htool .nil)
  · have hnone : toolParts? (.mapping fields) = none := by
      rw [toolParts?, if_neg]
      · rw [isOfClass_mapping_iff, hclass]
        simp
      · simp
    rw [hnone]
    exact .none

end

/-- The list of tools is null, or has a record for each tool of the document. -/
def TasksRecord (source tasks : Value) : Prop :=
  match toolParts? source with
  | some parts => ∃ records, tasks = .list records ∧ List.Forall₂ PartRecord parts records
  | none => tasks = .null

/-! ### Steps and workflows -/

def PortRecord (source record : Value) : Prop :=
  ∃ id, source.get "id" = .ok (.str id) ∧ record.get "id" = .ok (.str (Text.strip '#' id))

/-- A step that runs a file has the tools of that file. -/
structure StepRecord (ws : Workspace) (sourceDir source record : Value) : Prop where
  inputs : Lists "inputs" PortRecord source record
  outputs : Lists "outputs" PortRecord source record
  definition : ∃ run tasks, source.get "run" = .ok (.str run) ∧
    record.get "task_definition" = .ok tasks ∧
    if runsFile run then ∃ file document, ws.locate sourceDir run = .ok (some file) ∧
      ws.read file = .ok document ∧ TasksRecord document tasks
    else tasks = .null

structure WorkflowRecord (ws : Workspace) (sourceDir source record : Value) : Prop
    extends PartRecord source record where
  steps : Lists "steps" (StepRecord ws sourceDir) source record

/-- The record of a document has its tools and its workflow. -/
def DocumentRecord (ws : Workspace) (sourceDir source record : Value) : Prop :=
  ∃ tasks workflow, record = .mapping [("tasks", tasks), ("workflow", workflow)] ∧
    TasksRecord source tasks ∧
    match workflowPart? source with
    | some part => WorkflowRecord ws sourceDir part workflow
    | none => workflow = .null

def tasksValue : Option (List Tool) → Value
  | some tools => .list (tools.map (·.toRecord))
  | none => .null

section

variable {ws : Workspace} {depth : Nat} {sourceDir source : Value}

theorem TasksRecord.of_ofValue {workflow : Value → Report Workflow} {d : Document}
    (h : (Document.ofValue (Tool.read ws depth sourceDir) workflow source).outcome = .ok d) :
    TasksRecord source (tasksValue d.tasks) := by
  have htasks := Document.tasks_of_ofValue h
  rw [TasksRecord]
  generalize toolParts? source = parts at htasks
  generalize d.tasks = tasks at htasks
  cases htasks with
  | none => rfl
  | some htools =>
    refine ⟨_, rfl, ?_⟩
    rw [List.forall₂_map_right_iff]
    exact htools.imp fun _ _ => Tool.record_of_read

/-- The tools that are read from a file are the tools of the document in it. -/
theorem TasksRecord.of_toolsOfFile {bound : Nat} {path : String} {tools : Option (List Tool)}
    (h : (toolsOfFile ws bound path).outcome = .ok tools) :
    ∃ document, ws.read path = .ok document ∧ TasksRecord document (tasksValue tools) := by
  rw [toolsOfFile, Logged.outcome_bind] at h
  obtain ⟨d, hd, h⟩ := bind_eq_ok_iff.mp h
  cases h
  obtain ⟨depth, document, -, hdocument, hd⟩ := Document.read_eq_ok hd
  exact ⟨document, hdocument, .of_ofValue hd⟩

theorem StepInput.record_of_read {i : StepInput} (h : StepInput.read source = .ok i) :
    PortRecord source i.toRecord := by
  obtain ⟨v, hv, h⟩ := bind_eq_ok_iff.mp h
  obtain ⟨id, hid, h⟩ := bind_eq_ok_iff.mp h
  obtain ⟨hasSource, -, h⟩ := bind_eq_ok_iff.mp h
  have hname : i.id = id := by
    split at h
    all_goals
      obtain ⟨value, -, h⟩ := bind_eq_ok_iff.mp h
      obtain ⟨text, -, h⟩ := bind_eq_ok_iff.mp h
      cases h
      rfl
  obtain ⟨s, rfl, rfl⟩ := Value.stripMarks_eq_ok hid
  exact ⟨s, hv, congrArg (Except.ok ∘ Value.str) hname⟩

theorem record_of_readStepOutput {output : Value} (h : readStepOutput source = .ok output) :
    PortRecord source output := by
  obtain ⟨v, hv, h⟩ := bind_eq_ok_iff.mp h
  obtain ⟨id, hid, h⟩ := bind_eq_ok_iff.mp h
  obtain ⟨s, rfl, rfl⟩ := Value.stripMarks_eq_ok hid
  obtain rfl := Except.ok.inj h
  exact ⟨s, hv, Value.get_set ⟨_, hv⟩⟩

theorem Step.record_of_read {s : Step}
    (h : (Step.read ws (toolsOfFile ws depth) sourceDir source).outcome = .ok s) :
    StepRecord ws sourceDir source s.toRecord := by
  obtain ⟨run, hrun, -, -, ⟨ins, hins, hinputs⟩, ⟨outs, houts, houtputs⟩, hdefinition⟩ :=
    Step.read_eq_ok h
  refine ⟨?_, ?_, run, tasksValue s.definition, hrun, rfl, ?_⟩
  · exact .of_read hins hinputs rfl fun _ _ => StepInput.record_of_read
  · refine .of_read houts houtputs ?_ fun _ _ => record_of_readStepOutput
    exact (List.map_id _).symm ▸ rfl
  · rw [readDefinition] at hdefinition
    split at hdefinition
    next hfile =>
      rw [if_pos hfile]
      rw [Logged.outcome_bind, Logged.outcome_lift] at hdefinition
      obtain ⟨found, hfound, hdefinition⟩ := bind_eq_ok_iff.mp hdefinition
      cases found with
      | none => cases hdefinition
      | some file =>
        obtain ⟨document, hdocument, htasks⟩ := TasksRecord.of_toolsOfFile hdefinition
        exact ⟨file, document, hfound, hdocument, htasks⟩
    next hfile =>
      rw [if_neg hfile]
      rw [← Except.ok.inj hdefinition]
      rfl

theorem Workflow.record_of_read {bound : Nat} {fileName : String} {w : Workflow}
    (h : (Workflow.read ws bound (toolsOfFile ws depth) sourceDir fileName source).outcome =
      .ok w) :
    WorkflowRecord ws sourceDir source w.toRecord := by
  obtain ⟨-, hinputs, houtputs, steps, items, hsteps, hitems, hread⟩ := Workflow.read_eq_ok h
  refine ⟨⟨.inputs hinputs rfl, .outputs houtputs rfl, _, rfl, Requirement.records _⟩, ?_⟩
  exact .of_read hsteps (bind_eq_ok_iff.mpr ⟨items, hitems, hread⟩) rfl
    fun _ _ => Step.record_of_read

end

/-- Whatever can be read, from whatever files, has a record of its document. -/
theorem Document.record_describes_source {ws : Workspace} {bound : Nat} {path : String}
    {d : Document} (h : (Document.read ws bound path).outcome = .ok d) :
    ∃ source, ws.read path = .ok source ∧
      DocumentRecord ws (.str (ws.directoryOf path)) source d.toRecord := by
  obtain ⟨depth, source, -, hsource, h⟩ := Document.read_eq_ok h
  refine ⟨source, hsource, tasksValue d.tasks, _, rfl, .of_ofValue h, ?_⟩
  rcases Document.ofValue_eq_ok h with ⟨parts, tools, first, rest, rfl, -, hworkflows, rfl⟩ |
    ⟨fields, t, rfl, hclass, -, rfl⟩ | ⟨fields, w, rfl, hclass, hworkflow, rfl⟩
  · obtain ⟨part, others, hpart, -, hparts⟩ :=
      List.forall₂_cons_right_iff.mp (readParts_eq_ok hworkflows)
    have hfirst : workflowPart? (.list parts) = some part := by
      rw [workflowPart?, ← List.head?_filter, hparts]
      rfl
    rw [hfirst]
    exact Workflow.record_of_read hpart
  · have hnone : workflowPart? (.mapping fields) = none := by
      rw [workflowPart?, if_neg]
      · rw [isOfClass_mapping_iff, hclass]
        simp
      · simp
    rw [hnone]
  · have hself : workflowPart? (.mapping fields) = some (.mapping fields) := by
      rw [workflowPart?, if_pos (isOfClass_mapping_iff.mpr hclass)]
      simp
    rw [hself]
    exact Workflow.record_of_read hworkflow

def markedSample : Workspace where
  files := [
    (["p.cwl"], .list [
      .mapping [("class", .str "Workflow"),
        ("inputs", .list [.mapping [("id", .str "#in"), ("type", .str "File"),
          ("default", .int 3)]]),
        ("outputs", .list []),
        ("steps", .list [.mapping [("run", .str "t.cwl"),
          ("inputs", .list [.mapping [("id", .str "#a")]]),
          ("outputs", .list [.mapping [("id", .str "b#")]])]])],
      .mapping [("class", .str "CommandLineTool"), ("baseCommand", .str "ls"),
        ("inputs", .list []),
        ("outputs", .list [.mapping [("id", .str "#output#"), ("type", .str "long")]])]]),
    (["t.cwl"], .mapping [("class", .str "CommandLineTool"), ("baseCommand", .str "ls"),
      ("inputs", .list [.mapping [("id", .str "##task"), ("type", .mapping [
        ("type", .str "array"), ("items", .str "int")])]]),
      ("outputs", .list []),
      ("hints", .list [.mapping [("class", .str "EnvVarRequirement"), ("envDef", .list [
        .mapping [("envName", .str "N"), ("envValue", .str "1")]])]])])]
  directory := []

theorem Document.record_markedSample : ∃ d,
    (Document.read markedSample 2 "p.cwl").outcome = .ok d ∧
    ∃ source, markedSample.read "p.cwl" = .ok source ∧
      DocumentRecord markedSample (.str "/") source d.toRecord := by
  refine ⟨_, rfl, ?_⟩
  exact @Document.record_describes_source markedSample 2 "p.cwl" _ rfl

end Cwl

end FlowConverter
