import FlowConverter.Cwl.Document
import FlowConverter.Proofs.Outcome

/-! What a document that could be read must have held. For each reader, a result determines which
branch was taken and what every part of it was read from. -/
namespace FlowConverter

theorem Value.equals_str_iff {v : Value} {s : String} : v.equals (.str s) = true ↔ v = .str s := by
  cases v <;> simp [equals, magnitude?]

theorem Value.get_mapping_eq_ok_iff {fields : List (String × Value)} {key : String} {v : Value} :
    (Value.mapping fields).get key = .ok v ↔ fields.lookup key = some v := by
  rw [get]
  cases fields.lookup key <;> simp [pure_eq_ok, throw_eq_error]

theorem Value.has_mapping (key : String) (fields : List (String × Value)) :
    (Value.mapping fields).has key = .ok (fields.lookup key).isSome := by
  have h : (fields.any fun f => f.1 == key) = (fields.lookup key).isSome := by
    rw [Bool.eq_iff_iff, List.any_eq_true, List.lookup_isSome_iff]
    exact exists_congr fun f => and_congr_right fun _ => by rw [beq_iff_eq, beq_iff_eq, eq_comm]
  rw [has, pure_eq_ok, h]

theorem Value.has_of_get {key : String} {v w : Value} (h : v.get key = .ok w) :
    v.has key = .ok true := by
  cases v with
  | mapping fields => rw [has_mapping, get_mapping_eq_ok_iff.mp h, Option.isSome_some]
  | _ => cases h

theorem Value.lookup_of_not_has {key : String} {fields : List (String × Value)}
    (h : (Value.mapping fields).has key = .ok false) : fields.lookup key = none := by
  rw [has_mapping, Except.ok.injEq, Option.isSome_eq_false_iff] at h
  exact Option.isNone_iff_eq_none.mp h

namespace Cwl

/-- A type is read from a name in the end, or not at all. -/
theorem ParameterType.read_cases (v : Value) :
    (∃ w, ParameterType.read v = typeOfName w) ∨
    (∃ w e, describedName? w = .error e ∧ ParameterType.read v = .error e) ∨
    ParameterType.read v = .error .outOfRange ∨ ParameterType.read v = .error .undecided := by
  cases v with
  | str s => exact .inl ⟨.str s, by rw [read]⟩
  | list items =>
    rw [read]
    split
    · split
      next => exact .inr (.inr (.inl rfl))
      next fields _ =>
        cases h : describedName? (.mapping fields) with
        | error e => exact .inr (.inl ⟨_, e, h, rfl⟩)
        | ok name =>
          cases name with
          | none => exact .inl ⟨.mapping fields, rfl⟩
          | some name => exact .inl ⟨.str name, rfl⟩
      next w _ _ => exact .inl ⟨w, rfl⟩
    · exact .inr (.inr (.inr rfl))
  | mapping fields =>
    rw [read]
    cases h : describedName? (.mapping fields) with
    | error e => exact .inr (.inl ⟨_, e, h, rfl⟩)
    | ok name =>
      cases name with
      | none => exact .inr (.inr (.inr rfl))
      | some name => exact .inl ⟨.str name, rfl⟩
  | _ => exact .inr (.inr (.inr rfl))

/-- A part is named by its label, else by its id, else in another way. -/
theorem partName_eq_ok {part : Value} {other : Except Fault String} {name : String}
    (h : partName part other = .ok name) :
    ∃ chosen, name = safeName chosen ∧
      ((∃ v, part.get "label" = .ok v ∧ underscored v = .ok chosen) ∨
        (∃ v s, part.get "id" = .ok v ∧ underscored v = .ok s ∧ chosen = Text.strip '#' s) ∨
        part.has "label" = .ok false ∧ part.has "id" = .ok false ∧ other = .ok chosen) := by
  obtain ⟨labelled, hlabelled, h⟩ := bind_eq_ok_iff.mp h
  obtain ⟨identified, hidentified, h⟩ := bind_eq_ok_iff.mp h
  cases labelled with
  | true =>
    obtain ⟨v, hv, h⟩ := bind_eq_ok_iff.mp h
    obtain ⟨chosen, hchosen, h⟩ := bind_eq_ok_iff.mp h
    exact ⟨chosen, (Except.ok.inj h).symm, .inl ⟨v, hv, hchosen⟩⟩
  | false =>
    cases identified with
    | true =>
      obtain ⟨v, hv, h⟩ := bind_eq_ok_iff.mp h
      obtain ⟨s, hs, h⟩ := bind_eq_ok_iff.mp h
      exact ⟨_, (Except.ok.inj h).symm, .inr (.inl ⟨v, s, hv, hs, rfl⟩)⟩
    | false =>
      obtain ⟨chosen, hchosen, h⟩ := bind_eq_ok_iff.mp h
      exact ⟨chosen, (Except.ok.inj h).symm, .inr (.inr ⟨hlabelled, hidentified, hchosen⟩)⟩

/-- What an input takes from its binding. -/
theorem InputParameter.binding_of_read {source : Value} {p : InputParameter}
    (h : (InputParameter.read source).outcome = .ok p) :
    ∃ binding, Binding.readOf source = .ok binding ∧ p.flag = binding.flag ∧
      p.position = binding.position ∧
      (p.separator = .str " " ∨ p.separator = binding.separator) ∧
      (readDefault source binding).outcome = .ok p.default := by
  simp only [InputParameter.read, Logged.outcome_bind, Logged.outcome_lift,
    Logged.outcome_pure] at h
  obtain ⟨name, -, h⟩ := bind_eq_ok_iff.mp h
  obtain ⟨_, -, h⟩ := bind_eq_ok_iff.mp h
  obtain ⟨required, -, h⟩ := bind_eq_ok_iff.mp h
  obtain ⟨_, -, h⟩ := bind_eq_ok_iff.mp h
  obtain ⟨type, -, h⟩ := bind_eq_ok_iff.mp h
  obtain ⟨binding, hbinding, h⟩ := bind_eq_ok_iff.mp h
  obtain ⟨default, hdefault, h⟩ := bind_eq_ok_iff.mp h
  obtain rfl := Except.ok.inj h
  refine ⟨binding, hbinding, rfl, rfl, ?_, hdefault⟩
  cases type.isArray && binding.separator.isNull with
  | true => exact .inl rfl
  | false => exact .inr rfl

theorem OutputParameter.source_of_read {source : Value} {p : OutputParameter}
    (h : (OutputParameter.read source).outcome = .ok p) :
    (readSource source).outcome = .ok p.source := by
  simp only [OutputParameter.read, Logged.outcome_bind, Logged.outcome_lift,
    Logged.outcome_pure] at h
  obtain ⟨name, -, h⟩ := bind_eq_ok_iff.mp h
  obtain ⟨_, -, h⟩ := bind_eq_ok_iff.mp h
  obtain ⟨required, -, h⟩ := bind_eq_ok_iff.mp h
  obtain ⟨_, -, h⟩ := bind_eq_ok_iff.mp h
  obtain ⟨type, -, h⟩ := bind_eq_ok_iff.mp h
  obtain ⟨v, hv, h⟩ := bind_eq_ok_iff.mp h
  obtain rfl := Except.ok.inj h
  exact hv

/-- Every part of a tool comes from its own place in the document. -/
theorem Tool.read_eq_ok_iff {ws : Workspace} {bound : Nat} {sourceDir tool : Value} {t : Tool} :
    (Tool.read ws bound sourceDir tool).outcome = .ok t ↔
      partName tool (do (← tool.get "baseCommand").join "_") = .ok t.name ∧
      Argument.readOf tool = .ok t.arguments ∧
      tool.get "baseCommand" = .ok t.baseCommand ∧
      (∃ v, tool.get "inputs" = .ok v ∧ (InputParameter.readAll v).outcome = .ok t.inputs) ∧
      (∃ v, tool.get "outputs" = .ok v ∧ (OutputParameter.readAll v).outcome = .ok t.outputs) ∧
      (Requirement.readPart ws bound sourceDir tool).outcome = .ok t.requirements ∧
      (readStream tool .stdout fun s => safeName (dropReference s)).outcome = .ok t.stdout ∧
      (readStream tool .stdin id).outcome = .ok t.stdin := by
  simp only [Tool.read, Logged.outcome_bind, Logged.outcome_lift, Logged.outcome_pure,
    bind_eq_ok_iff, Except.ok.injEq]
  constructor
  · rintro ⟨_, hn, _, ha, _, hb, v, hv, _, hi, w, hw, _, ho, _, hr, _, hs, _, ht, rfl⟩
    exact ⟨hn, ha, hb, ⟨v, hv, hi⟩, ⟨w, hw, ho⟩, hr, hs, ht⟩
  · rintro ⟨hn, ha, hb, ⟨v, hv, hi⟩, ⟨w, hw, ho⟩, hr, hs, ht⟩
    exact ⟨_, hn, _, ha, _, hb, v, hv, _, hi, w, hw, _, ho, _, hr, _, hs, _, ht, rfl⟩

/-- The tools of the document at a path, as a step that runs the file gets them. -/
def toolsOfFile (ws : Workspace) (bound : Nat) (path : String) : Report (Option (List Tool)) := do
  pure (← Document.read ws bound path).tasks

/-- A document is a packed list, a tool, or a workflow. -/
theorem Document.ofValue_eq_ok {tool : Value → Report Tool} {workflow : Value → Report Workflow}
    {v : Value} {d : Document} (h : (Document.ofValue tool workflow v).outcome = .ok d) :
    (∃ parts tools first rest, v = .list parts ∧
      (readParts "CommandLineTool" tool parts).outcome = .ok tools ∧
      (readParts "Workflow" workflow parts).outcome = .ok (first :: rest) ∧
      d = ⟨some tools, some first⟩) ∨
    (∃ fields t, v = .mapping fields ∧ fields.lookup "class" = some (.str "CommandLineTool") ∧
      (tool v).outcome = .ok t ∧ d = ⟨some [t], none⟩) ∨
    (∃ fields w, v = .mapping fields ∧ fields.lookup "class" = some (.str "Workflow") ∧
      (workflow v).outcome = .ok w ∧ d = ⟨none, some w⟩) := by
  cases v with
  | list parts =>
    left
    simp only [ofValue, Logged.outcome_bind, bind_eq_ok_iff] at h
    obtain ⟨tools, ht, workflows, hw, h⟩ := h
    cases workflows with
    | nil => cases h
    | cons first rest =>
      cases h
      exact ⟨parts, tools, first, rest, rfl, ht, hw, rfl⟩
  | mapping fields =>
    right
    simp only [ofValue, Logged.outcome_bind, Logged.outcome_lift, bind_eq_ok_iff,
      Value.get_mapping_eq_ok_iff, Logged.outcome_ite] at h
    obtain ⟨name, hn, h⟩ := h
    split at h
    next hc =>
      obtain rfl := Value.equals_str_iff.mp hc
      obtain ⟨t, ht, h⟩ := bind_eq_ok_iff.mp h
      cases h
      exact .inl ⟨fields, t, rfl, hn, ht, rfl⟩
    next =>
      split at h
      next hc =>
        obtain rfl := Value.equals_str_iff.mp hc
        obtain ⟨w, hw, h⟩ := bind_eq_ok_iff.mp h
        cases h
        exact .inr ⟨fields, w, rfl, hn, hw, rfl⟩
      next => cases h
  | _ => cases h

theorem Document.read_eq_ok {ws : Workspace} {bound : Nat} {path : String} {d : Document}
    (h : (Document.read ws bound path).outcome = .ok d) :
    ∃ depth v, bound = depth + 1 ∧ ws.read path = .ok v ∧
      (Document.ofValue (Tool.read ws depth (.str (ws.directoryOf path)))
        (Workflow.read ws depth (toolsOfFile ws depth) (.str (ws.directoryOf path))
          (fileLabel path)) v).outcome = .ok d := by
  cases bound with
  | zero => cases h
  | succ depth =>
    rw [Document.read, Logged.outcome_bind, Logged.outcome_lift] at h
    obtain ⟨v, hv, h⟩ := bind_eq_ok_iff.mp h
    exact ⟨depth, v, rfl, hv, h⟩

/-- A file that holds a tool is a document of that one tool. -/
theorem Document.read_tool_eq_ok {ws : Workspace} {bound : Nat} {path : String}
    {fields : List (String × Value)} {d : Document} (hfile : ws.read path = .ok (.mapping fields))
    (hclass : fields.lookup "class" = some (.str "CommandLineTool"))
    (h : (Document.read ws bound path).outcome = .ok d) :
    ∃ t depth, d = ⟨some [t], none⟩ ∧
      (Tool.read ws depth (.str (ws.directoryOf path)) (.mapping fields)).outcome = .ok t := by
  obtain ⟨depth, v, rfl, hv, h⟩ := Document.read_eq_ok h
  cases hfile.symm.trans hv
  rcases Document.ofValue_eq_ok h with ⟨parts, tools, first, rest, hl, -⟩ |
    ⟨fields', t, -, -, ht, rfl⟩ | ⟨fields', w, hm, hc, -⟩
  · cases hl
  · exact ⟨t, depth, rfl, ht⟩
  · cases hm
    simp [hclass] at hc

/-- Only a workflow that is a document of its own comes without tasks. -/
theorem Document.tasks_eq_none_iff {ws : Workspace} {bound : Nat} {path : String} {d : Document}
    (h : (Document.read ws bound path).outcome = .ok d) :
    d.tasks = none ↔ ∃ fields, ws.read path = .ok (.mapping fields) ∧
      fields.lookup "class" = some (.str "Workflow") := by
  obtain ⟨depth, v, rfl, hv, h⟩ := Document.read_eq_ok h
  rw [hv]
  rcases Document.ofValue_eq_ok h with ⟨parts, tools, first, rest, rfl, -, -, rfl⟩ |
    ⟨fields, t, rfl, hc, -, rfl⟩ | ⟨fields, w, rfl, hc, -, rfl⟩
  · simp
  · simp [hc]
  · simp [hc]

theorem readRun_eq_ok {step : Value} {run : String} (h : readRun step = .ok run) :
    step.get "run" = .ok (.str run) := by
  obtain ⟨v, hv, h⟩ := bind_eq_ok_iff.mp h
  obtain ⟨imported, -, h⟩ := bind_eq_ok_iff.mp h
  cases imported with
  | true => cases h
  | false =>
    cases v with
    | str s =>
      cases h
      exact hv
    | _ => cases h

section

variable {ws : Workspace} {inner : String → Report (Option (List Tool))} {sourceDir : Value}

/-- All of a step but its definition comes from the step alone. -/
theorem Step.read_eq_ok {step : Value} {s : Step}
    (h : (Step.read ws inner sourceDir step).outcome = .ok s) :
    ∃ run, step.get "run" = .ok (.str run) ∧ s.taskId = taskIdOf run ∧
      s.importStatement = (if runsFile run then some ("import " ++ run) else none) ∧
      (∃ v, step.get "inputs" = .ok v ∧ StepInput.readAll v = .ok s.inputs) ∧
      (∃ v, step.get "outputs" = .ok v ∧ readStepOutputs v = .ok s.outputs) ∧
      (readDefinition ws inner sourceDir run).outcome = .ok s.definition := by
  simp only [Step.read, Logged.outcome_bind, Logged.outcome_lift, Logged.outcome_pure] at h
  obtain ⟨run, hrun, h⟩ := bind_eq_ok_iff.mp h
  obtain ⟨definition, hdefinition, h⟩ := bind_eq_ok_iff.mp h
  obtain ⟨ins, hins, h⟩ := bind_eq_ok_iff.mp h
  obtain ⟨inputs, hinputs, h⟩ := bind_eq_ok_iff.mp h
  obtain ⟨outs, houts, h⟩ := bind_eq_ok_iff.mp h
  obtain ⟨outputs, houtputs, h⟩ := bind_eq_ok_iff.mp h
  cases h
  exact ⟨run, readRun_eq_ok hrun, rfl, rfl, ⟨ins, hins, hinputs⟩, ⟨outs, houts, houtputs⟩,
    hdefinition⟩

/-- All of a workflow but its requirements and the definitions in its steps comes from the workflow
alone. -/
theorem Workflow.read_eq_ok {bound : Nat} {fileName : String} {source : Value} {w : Workflow}
    (h : (Workflow.read ws bound inner sourceDir fileName source).outcome = .ok w) :
    partName source (pure fileName) = .ok w.name ∧
    (∃ v, source.get "inputs" = .ok v ∧ (InputParameter.readAll v).outcome = .ok w.inputs) ∧
    (∃ v, source.get "outputs" = .ok v ∧ (OutputParameter.readAll v).outcome = .ok w.outputs) ∧
    ∃ steps items, source.get "steps" = .ok steps ∧ steps.items = .ok items ∧
      items.mapM (fun item => (Step.read ws inner sourceDir item).outcome) = .ok w.steps := by
  simp only [Workflow.read, Step.readAll, Logged.outcome_bind, Logged.outcome_lift,
    Logged.outcome_pure, Logged.outcome_mapM] at h
  obtain ⟨name, hname, h⟩ := bind_eq_ok_iff.mp h
  obtain ⟨ins, hins, h⟩ := bind_eq_ok_iff.mp h
  obtain ⟨inputs, hinputs, h⟩ := bind_eq_ok_iff.mp h
  obtain ⟨outs, houts, h⟩ := bind_eq_ok_iff.mp h
  obtain ⟨outputs, houtputs, h⟩ := bind_eq_ok_iff.mp h
  obtain ⟨steps, hsteps, h⟩ := bind_eq_ok_iff.mp h
  obtain ⟨read, hread, h⟩ := bind_eq_ok_iff.mp h
  obtain ⟨items, hitems, hread⟩ := bind_eq_ok_iff.mp hread
  obtain ⟨requirements, -, h⟩ := bind_eq_ok_iff.mp h
  cases h
  exact ⟨hname, ⟨ins, hins, hinputs⟩, ⟨outs, houts, houtputs⟩, steps, items, hsteps, hitems, hread⟩

end

end Cwl

end FlowConverter
