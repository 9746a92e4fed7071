import FlowConverter.Proofs.ReaderScripts

/-! Faults of single parts. Only imports can nest too deep; whatever is read from a part alone stops
for reasons of its own. So no script names the bound, and a reading that the bound stops has
been stopped at one of its questions. -/
namespace FlowConverter

theorem mapM_ne_error {α β : Type} {f : α → Except Fault β} {e : Fault}
    (h : ∀ x, f x ≠ .error e) (xs : List α) : xs.mapM f ≠ .error e := by
  intro he
  obtain ⟨x, -, hx⟩ := exists_of_mapM_eq_error he
  exact h x hx

namespace Value

@[simp] theorem has_ne_nesting (key : String) (v : Value) : v.has key ≠ .error .nestingTooDeep := by
  cases v <;> simp [has, pure_eq_ok, throw_eq_error]

@[simp] theorem get_ne_nesting (key : String) (v : Value) : v.get key ≠ .error .nestingTooDeep := by
  cases v with
  | mapping fields => cases h : fields.lookup key <;> simp [get, h, pure_eq_ok, throw_eq_error]
  | _ => simp [get, throw_eq_error]

@[simp] theorem getOrNull_ne_nesting (key : String) (v : Value) :
    v.getOrNull key ≠ .error .nestingTooDeep := by
  simp [getOrNull, bind_eq_error_iff, ite_eq_iff, pure_eq_ok]

@[simp] theorem items_ne_nesting (v : Value) : v.items ≠ .error .nestingTooDeep := by
  cases v <;> simp [items, pure_eq_ok, throw_eq_error]

@[simp] theorem asText_ne_nesting (v : Value) : v.asText ≠ .error .nestingTooDeep := by
  cases v <;> simp [asText, pure_eq_ok, throw_eq_error]

@[simp] theorem stripMarks_ne_nesting (v : Value) : v.stripMarks ≠ .error .nestingTooDeep := by
  cases v <;> simp [stripMarks, pure_eq_ok, throw_eq_error]

@[simp] theorem append_ne_nesting (v w : Value) : v.append w ≠ .error .nestingTooDeep := by
  cases v <;> cases w <;> simp [append, pure_eq_ok, throw_eq_error]

@[simp] theorem join_ne_nesting (sep : String) (v : Value) :
    v.join sep ≠ .error .nestingTooDeep := by
  simp [join, bind_eq_error_iff, pure_eq_ok, mapM_ne_error]

end Value

namespace Workspace

variable (ws : Workspace)

theorem follow_ne_nesting (place names : List String) :
    ws.follow place names ≠ .error .nestingTooDeep := by
  induction names generalizing place with
  | nil => simp [follow, pure_eq_ok]
  | cons name rest ih =>
    rw [follow]
    split
    · exact ih place
    · split
      · exact ih _
      · split
        · simp [throw_eq_error]
        · exact ih _
        · split <;> simp [pure_eq_ok, throw_eq_error]

@[simp] theorem read_ne_nesting (path : String) : ws.read path ≠ .error .nestingTooDeep := by
  have hfind : ws.find path ≠ .error .nestingTooDeep := by
    rw [find]
    split
    · simp [throw_eq_error]
    · split
      · simp [throw_eq_error]
      · exact ws.follow_ne_nesting _ _
  rw [read, ne_eq, bind_eq_error_iff]
  rintro (h | ⟨entry, -, h⟩)
  · exact hfind h
  · cases entry <;> cases h

@[simp] theorem locate_ne_nesting (sourceDir : Value) (path : String) :
    ws.locate sourceDir path ≠ .error .nestingTooDeep := by
  rw [locate]
  split <;> simp [bind_eq_error_iff, pure_eq_ok]

end Workspace

namespace Cwl

@[simp] theorem partName_ne_nesting {part : Value} {other : Except Fault String}
    (h : other ≠ .error .nestingTooDeep) : partName part other ≠ .error .nestingTooDeep := by
  simp [partName, underscored, bind_eq_error_iff, ite_eq_iff, pure_eq_ok, h]

@[simp] theorem Binding.read_ne_nesting (v : Value) :
    Binding.read v ≠ .error .nestingTooDeep := by
  simp [Binding.read, bind_eq_error_iff, pure_eq_ok]

@[simp] theorem Argument.readAll_ne_nesting (v : Value) :
    Argument.readAll v ≠ .error .nestingTooDeep := by
  have hitem (item : Value) : Argument.readItem item ≠ .error .nestingTooDeep := by
    cases item <;> simp [Argument.readItem, bind_eq_error_iff, pure_eq_ok]
  cases v with
  | list items => simp [Argument.readAll, bind_eq_error_iff, pure_eq_ok, mapM_ne_error, hitem]
  | _ =>
    intro h
    rcases bind_eq_error_iff.mp h with h | ⟨held, -, h⟩
    · exact Value.get_ne_nesting _ _ h
    · cases held <;> simp [bind_eq_error_iff, pure_eq_ok] at h

@[simp] theorem Argument.readOf_ne_nesting (tool : Value) :
    Argument.readOf tool ≠ .error .nestingTooDeep := by
  simp [Argument.readOf, bind_eq_error_iff, ite_eq_iff, pure_eq_ok]

@[simp] theorem typeOfName_ne_nesting (v : Value) : typeOfName v ≠ .error .nestingTooDeep := by
  cases v with
  | str s => cases h : typeNames.lookup s <;> simp [typeOfName, h, pure_eq_ok, throw_eq_error]
  | _ => simp [typeOfName, throw_eq_error]

@[simp] theorem describedName_ne_nesting (v : Value) :
    describedName? v ≠ .error .nestingTooDeep := by
  simp [describedName?, bind_eq_error_iff, ite_eq_iff, pure_eq_ok, throw_eq_error]

@[simp] theorem ParameterType.read_ne_nesting (v : Value) :
    ParameterType.read v ≠ .error .nestingTooDeep := by
  intro h
  rcases ParameterType.read_cases v with ⟨w, hw⟩ | ⟨w, e, he, hv⟩ | hv | hv
  · exact typeOfName_ne_nesting w (hw.symm.trans h)
  · cases hv.symm.trans h
    exact describedName_ne_nesting w he
  · cases hv.symm.trans h
  · cases hv.symm.trans h

mutual

theorem isRequired_ne_nesting : (v : Value) → isRequired v ≠ .error .nestingTooDeep
  | .mapping fields => by
    rw [isRequired]
    exact isRequiredField_ne_nesting fields
  | .list _ => by simp [isRequired, pure_eq_ok]
  | .str _ => by simp [isRequired, pure_eq_ok]
  | .null => by simp [isRequired, throw_eq_error]
  | .bool _ => by simp [isRequired, throw_eq_error]
  | .int _ => by simp [isRequired, throw_eq_error]
  | .float _ => by simp [isRequired, throw_eq_error]

theorem isRequiredField_ne_nesting :
    (fields : List (String × Value)) → isRequiredField fields ≠ .error .nestingTooDeep
  | [] => by simp [isRequiredField, throw_eq_error]
  | (key, v) :: rest => by
    rw [isRequiredField]
    split
    · exact isRequired_ne_nesting v
    · exact isRequiredField_ne_nesting rest

end

@[simp] theorem parameterName_ne_nesting (parameter : Value) :
    parameterName parameter ≠ .error .nestingTooDeep := by
  simp [parameterName, bind_eq_error_iff, pure_eq_ok]

theorem readDefault_ne_nesting (parameter : Value) (binding : Binding) :
    (readDefault parameter binding).outcome ≠ .error .nestingTooDeep := by
  rw [readDefault, Logged.outcome_bind, Logged.outcome_lift, ne_eq, bind_eq_error_iff]
  rintro (h | ⟨given, -, h⟩)
  · exact parameter.has_ne_nesting "default" h
  · cases given with
    | true => simp [-bind_pure_comp, bind_eq_error_iff] at h
    | false =>
      revert h
      cases binding.value <;> simp [-bind_pure_comp, Report.warn]

theorem InputParameter.readAll_ne_nesting (v : Value) :
    (InputParameter.readAll v).outcome ≠ .error .nestingTooDeep := by
  have hread (item : Value) : (InputParameter.read item).outcome ≠ .error .nestingTooDeep := by
    simp [-bind_pure_comp, InputParameter.read, Binding.readOf, bind_eq_error_iff, ite_eq_iff,
      pure_eq_ok, isRequired_ne_nesting, readDefault_ne_nesting]
  simp [InputParameter.readAll, bind_eq_error_iff, Logged.outcome_mapM, mapM_ne_error, hread]

theorem readSource_ne_nesting (parameter : Value) :
    (readSource parameter).outcome ≠ .error .nestingTooDeep := by
  simp only [readSource, Report.warn, Logged.outcome_bind, Logged.outcome_lift, Logged.outcome_ite,
    Logged.outcome_note, Logged.outcome_pure, ok_bind, ne_eq, bind_eq_error_iff, ite_eq_iff,
    Value.has_ne_nesting, Value.get_ne_nesting, reduceCtorEq, and_false, or_false, false_or,
    not_exists, not_and]
  intro _ _ _ binding _ _ _ _ glob _
  cases glob <;> nofun

theorem OutputParameter.readAll_ne_nesting (v : Value) :
    (OutputParameter.readAll v).outcome ≠ .error .nestingTooDeep := by
  have hread (item : Value) : (OutputParameter.read item).outcome ≠ .error .nestingTooDeep := by
    simp [-bind_pure_comp, OutputParameter.read, bind_eq_error_iff, isRequired_ne_nesting,
      readSource_ne_nesting]
  simp [OutputParameter.readAll, bind_eq_error_iff, Logged.outcome_mapM, mapM_ne_error, hread]

theorem readStream_ne_nesting (tool : Value) (stream : Stream) (clean : String → String) :
    (readStream tool stream clean).outcome ≠ .error .nestingTooDeep := by
  simp only [readStream, Logged.outcome_bind, Logged.outcome_lift, Logged.outcome_ite,
    Logged.outcome_pure, ne_eq, bind_eq_error_iff, ite_eq_iff, Value.has_ne_nesting,
    Value.get_ne_nesting, reduceCtorEq, and_false, or_false, false_or, not_exists, not_and]
  intro _ _ _ v _
  cases v <;> nofun

theorem Requirement.readClass_ne_nesting (entry : Value) :
    (readClass entry).outcome ≠ .error .nestingTooDeep := by
  have hvariable (v : Value) : readVariable v ≠ .error .nestingTooDeep := by
    simp [readVariable, bind_eq_error_iff, pure_eq_ok]
  have hvariables (v : Value) : readVariables v ≠ .error .nestingTooDeep := by
    simp [readVariables, bind_eq_error_iff, mapM_ne_error, hvariable]
  simp [-bind_pure_comp, readClass, Report.warn, bind_eq_error_iff, ite_eq_iff, hvariables]

theorem importedPath_ne_nesting (entry : Value) :
    importedPath entry ≠ .error .nestingTooDeep := by
  rw [importedPath]
  split
  · simp
  · simp [bind_eq_error_iff]

theorem Requirement.entriesOf_ne_nesting (part : Value) :
    entriesOf part ≠ .error .nestingTooDeep := by
  rw [entriesOf, ne_eq, bind_eq_error_iff]
  rintro (h | ⟨required, -, h⟩)
  · exact part.has_ne_nesting _ h
  · obtain h | ⟨hinted, -, h⟩ := bind_eq_error_iff.mp h
    · exact part.has_ne_nesting _ h
    · cases required <;> cases hinted <;> simp [bind_eq_error_iff, pure_eq_ok] at h

theorem readRun_ne_nesting (step : Value) : readRun step ≠ .error .nestingTooDeep := by
  rw [readRun, ne_eq, bind_eq_error_iff]
  rintro (h | ⟨run, -, h⟩)
  · exact step.get_ne_nesting _ h
  · obtain h | ⟨imported, -, h⟩ := bind_eq_error_iff.mp h
    · exact run.has_ne_nesting _ h
    · cases imported <;> cases run <;> cases h

theorem StepInput.readAll_ne_nesting (v : Value) :
    StepInput.readAll v ≠ .error .nestingTooDeep := by
  have hvalue (v : Value) : readStepValue v ≠ .error .nestingTooDeep := by
    cases v <;> simp [readStepValue, bind_eq_error_iff, pure_eq_ok, mapM_ne_error]
  have hread (item : Value) : StepInput.read item ≠ .error .nestingTooDeep := by
    simp [StepInput.read, bind_eq_error_iff, ite_eq_iff, pure_eq_ok, hvalue]
  simp [StepInput.readAll, bind_eq_error_iff, mapM_ne_error, hread]

theorem readStepOutputs_ne_nesting (v : Value) :
    readStepOutputs v ≠ .error .nestingTooDeep := by
  have hread (item : Value) : readStepOutput item ≠ .error .nestingTooDeep := by
    simp [readStepOutput, bind_eq_error_iff, pure_eq_ok]
  simp [readStepOutputs, bind_eq_error_iff, mapM_ne_error, hread]

/-! ### Scripts -/

namespace Script

variable {α : Type}

theorem Unbounded.lift {r : Report α} (h : r.outcome ≠ .error .nestingTooDeep) :
    (liftM r : Script α).Unbounded := h

theorem Unbounded.outcome {r : Except Fault α} (h : r ≠ .error .nestingTooDeep) :
    (liftM r : Script α).Unbounded := h

end Script

theorem Requirement.script_unbounded (sourceDir : Value) (entries : List Value) :
    (script sourceDir entries).Unbounded := by
  refine .gather (fun entry => ?_) entries
  refine .bind (.outcome (entry.has_ne_nesting _)) fun classed => ?_
  split
  · exact .lift (readClass_ne_nesting entry)
  · refine .bind (.outcome (entry.has_ne_nesting _)) fun plain => ?_
    refine .bind (.outcome (entry.has_ne_nesting _)) fun dollar => ?_
    split
    · exact .bind (.outcome (importedPath_ne_nesting entry)) fun path => .request _
    · exact .bind (.lift (by simp [Report.warn])) fun _ => .pure []

theorem Tool.script_unbounded (sourceDir tool : Value) :
    (Tool.script sourceDir tool).Unbounded := by
  refine .bind (.outcome (partName_ne_nesting ?_)) fun name => ?_
  · simp [bind_eq_error_iff]
  refine .bind (.outcome (Argument.readOf_ne_nesting tool)) fun arguments => ?_
  refine .bind (.outcome (tool.get_ne_nesting _)) fun baseCommand => ?_
  refine .bind (.outcome (tool.get_ne_nesting _)) fun ins => ?_
  refine .bind (.lift (InputParameter.readAll_ne_nesting ins)) fun inputs => ?_
  refine .bind (.outcome (tool.get_ne_nesting _)) fun outs => ?_
  refine .bind (.lift (OutputParameter.readAll_ne_nesting outs)) fun outputs => ?_
  refine .bind (.outcome (Requirement.entriesOf_ne_nesting tool)) fun entries => ?_
  refine .bind (Requirement.script_unbounded sourceDir entries) fun requirements => ?_
  refine .bind (.lift (readStream_ne_nesting tool _ _)) fun stdout => ?_
  exact .bind (.lift (readStream_ne_nesting tool _ _)) fun stdin => .pure _

theorem Step.script_unbounded (sourceDir step : Value) :
    (Step.script sourceDir step).Unbounded := by
  refine .bind (.outcome (readRun_ne_nesting step)) fun run => ?_
  refine .bind ?_ fun definition => ?_
  · rw [definitionScript]
    split
    · exact .request _
    · exact .pure none
  refine .bind (.outcome (step.get_ne_nesting _)) fun ins => ?_
  refine .bind (.outcome (StepInput.readAll_ne_nesting ins)) fun inputs => ?_
  refine .bind (.outcome (step.get_ne_nesting _)) fun outs => ?_
  exact .bind (.outcome (readStepOutputs_ne_nesting outs)) fun outputs => .pure _

theorem Workflow.script_unbounded (sourceDir : Value) (fileName : String) (workflow : Value) :
    (Workflow.script sourceDir fileName workflow).Unbounded := by
  refine .bind (.outcome (partName_ne_nesting (by simp [pure_eq_ok]))) fun name => ?_
  refine .bind (.outcome (workflow.get_ne_nesting _)) fun ins => ?_
  refine .bind (.lift (InputParameter.readAll_ne_nesting ins)) fun inputs => ?_
  refine .bind (.outcome (workflow.get_ne_nesting _)) fun outs => ?_
  refine .bind (.lift (OutputParameter.readAll_ne_nesting outs)) fun outputs => ?_
  refine .bind (.outcome (workflow.get_ne_nesting _)) fun steps => ?_
  refine .bind (.outcome steps.items_ne_nesting) fun items => ?_
  refine .bind (.gather (fun step => ?_) items) fun steps => ?_
  · exact .bind (Step.script_unbounded sourceDir step) fun s => .pure [s]
  refine .bind (.outcome (Requirement.entriesOf_ne_nesting workflow)) fun entries => ?_
  exact .bind (Requirement.script_unbounded sourceDir entries) fun requirements => .pure _

theorem partsScript_unbounded {α : Type} {className : String} {script : Value → Script α}
    (h : ∀ part, (script part).Unbounded) (parts : List Value) :
    (partsScript className script parts).Unbounded := by
  refine .gather (fun part => ?_) parts
  refine .bind (.outcome (part.get_ne_nesting _)) fun name => ?_
  split
  · exact .bind (h part) fun a => .pure [a]
  · exact .pure []

theorem Document.script_unbounded (sourceDir : Value) (fileName : String) (value : Value) :
    (Document.script sourceDir fileName value).Unbounded := by
  cases value with
  | list parts =>
    refine .bind (partsScript_unbounded (Tool.script_unbounded sourceDir) parts) fun tools => ?_
    refine .bind (partsScript_unbounded (Workflow.script_unbounded sourceDir fileName) parts)
      fun workflows => ?_
    cases workflows with
    | nil => exact nofun
    | cons first rest => exact .pure _
  | mapping fields =>
    refine .bind (.outcome (Value.get_ne_nesting _ _)) fun name => ?_
    split
    · exact .bind (Tool.script_unbounded sourceDir _) fun tool => .pure _
    · split
      · exact .bind (Workflow.script_unbounded sourceDir fileName _) fun workflow => .pure _
      · exact nofun
  | _ => exact nofun

end Cwl

end FlowConverter
