import FlowConverter.Proofs.GeneratorCalls
import FlowConverter.Proofs.Reading
import FlowConverter.Proofs.Records

/-! Steps that run files. The tools of such a file are handed over as a list, where a single task is
asked for, so a workflow with tools in one of its steps is always refused. What is accepted
has brought nothing along, and its texts are the same whatever the files hold. -/
namespace FlowConverter

theorem Value.get_set {v new : Value} {key : String} (h : ∃ old, v.get key = .ok old) :
    (v.set key new).get key = .ok new := by
  obtain ⟨old, h⟩ := h
  cases v with
  | mapping fields =>
    rw [Value.get_mapping_eq_ok_iff] at h
    rw [Value.set, Value.get_mapping_eq_ok_iff]
    induction fields with
    | nil => cases h
    | cons f rest ih =>
      rcases f with ⟨name, value⟩
      by_cases hname : name = key
      · simp [hname]
      · have hkey : (key == name) = false := beq_false_of_ne (Ne.symm hname)
        rw [List.lookup_cons, hkey] at h
        simpa [List.lookup_cons, hname, hkey] using ih h
  | _ => cases h

namespace Wdl

theorem Step.definition_of_ofRecord {s : Cwl.Step} {v : Step}
    (h : Step.ofRecord s.toRecord = .ok v) : v.definition = none := by
  have hd : s.definition = none := by
    by_contra hd
    cases h.symm.trans (Step.ofRecord_of_definition hd)
  rw [Step.ofRecord_toRecord hd] at h
  obtain ⟨outputs, -, h⟩ := bind_eq_ok_iff.mp h
  cases h
  rfl

/-- An accepted workflow never brings a definition along, however often it is written. -/
theorem Workflow.definitions_calls_of_ofRecord {w : Cwl.Workflow} {v : Workflow}
    (h : Workflow.ofRecord w.toRecord = .ok v) {n : Nat} {call : Except Fault String × Generator}
    (hcall : call ∈ (Generator.new v).calls n) : call.2.definitions = [] := by
  rw [Workflow.ofRecord_toRecord] at h
  obtain ⟨steps, hsteps, h⟩ := bind_eq_ok_iff.mp h
  cases h
  have hnone : ∀ s ∈ steps, s.definition = none := by
    intro s hs
    obtain ⟨s', -, hs'⟩ := exists_of_mem_mapM hsteps hs
    exact Step.definition_of_ofRecord hs'
  obtain ⟨k, hk⟩ := List.mem_iff_getElem?.mp hcall
  rw [(Generator.calls_repeats hk).definitions_eq, Generator.next_new_definitions,
    Workflow.definitions_write_eq_nil hnone rfl]
  simp

end Wdl

namespace Cwl

variable {ws ws' : Workspace} {bound bound' depth : Nat}
  {inner inner' : String → Report (Option (List Tool))} {sourceDir sourceDir' : Value}
  {fileName : String} {source : Value}

/-- What a step runs is no file, or a file that is a workflow of its own. -/
def NamesNoTools (ws : Workspace) (sourceDir : Value) (run : String) : Prop :=
  runsFile run = false ∨ ∃ file fields, ws.locate sourceDir run = .ok (some file) ∧
    ws.read file = .ok (.mapping fields) ∧ fields.lookup "class" = some (.str "Workflow")

def RunsNoTools (ws : Workspace) (sourceDir step : Value) : Prop :=
  ∃ run, step.get "run" = .ok (.str run) ∧ NamesNoTools ws sourceDir run

theorem readDefinition_eq_none_iff {run : String} {tools : Option (List Tool)}
    (h : (readDefinition ws (toolsOfFile ws depth) sourceDir run).outcome = .ok tools) :
    tools = none ↔ NamesNoTools ws sourceDir run := by
  rw [readDefinition] at h
  cases hrun : runsFile run with
  | false =>
    rw [hrun] at h
    cases h
    exact ⟨fun _ => .inl hrun, fun _ => rfl⟩
  | true =>
    rw [hrun, if_pos rfl, Logged.outcome_bind, Logged.outcome_lift] at h
    obtain ⟨found, hfound, h⟩ := bind_eq_ok_iff.mp h
    cases found with
    | none => cases h
    | some file =>
      obtain ⟨d, hd, h⟩ := bind_eq_ok_iff.mp (Logged.outcome_bind _ _ ▸ h)
      cases h
      rw [Document.tasks_eq_none_iff hd]
      constructor
      · rintro ⟨fields, hread, hclass⟩
        exact .inr ⟨file, fields, hfound, hread, hclass⟩
      · rintro (hno | ⟨file', fields, hfound', hread, hclass⟩)
        · cases hrun.symm.trans hno
        · cases hfound.symm.trans hfound'
          exact ⟨fields, hread, hclass⟩

theorem Step.definition_eq_none_iff {step : Value} {s : Step}
    (h : (Step.read ws (toolsOfFile ws depth) sourceDir step).outcome = .ok s) :
    s.definition = none ↔ RunsNoTools ws sourceDir step := by
  obtain ⟨run, hrun, -, -, -, -, hdefinition⟩ := Step.read_eq_ok h
  rw [readDefinition_eq_none_iff hdefinition]
  constructor
  · intro hno
    exact ⟨run, hrun, hno⟩
  · rintro ⟨run', hrun', hno⟩
    cases hrun.symm.trans hrun'
    exact hno

/-- Whatever the outputs of a step were, they have ids when they have been read. -/
theorem exists_ofRecord_of_readStepOutputs {v : Value} {outputs : List Value}
    (h : readStepOutputs v = .ok outputs) :
    ∃ outs, outputs.mapM Wdl.StepOutput.ofRecord = .ok outs := by
  obtain ⟨items, -, h⟩ := bind_eq_ok_iff.mp h
  refine (exists_mapM_eq_ok_iff _ _).mpr ?_
  intro o ho
  obtain ⟨output, -, hread⟩ := exists_of_mem_mapM h ho
  obtain ⟨old, hold, hread⟩ := bind_eq_ok_iff.mp hread
  obtain ⟨id, -, hread⟩ := bind_eq_ok_iff.mp hread
  cases hread
  rw [Wdl.StepOutput.ofRecord, Value.get_set ⟨old, hold⟩]
  exact ⟨_, rfl⟩

theorem Step.exists_ofRecord_iff {step : Value} {s : Step}
    (h : (Step.read ws inner sourceDir step).outcome = .ok s) :
    (∃ v, Wdl.Step.ofRecord s.toRecord = .ok v) ↔ s.definition = none := by
  constructor
  · rintro ⟨v, hv⟩
    by_contra hd
    rw [Wdl.Step.ofRecord_of_definition hd] at hv
    cases hv
  · intro hd
    obtain ⟨-, -, -, -, -, ⟨v, -, houtputs⟩, -⟩ := Step.read_eq_ok h
    obtain ⟨outs, houts⟩ := exists_ofRecord_of_readStepOutputs houtputs
    rw [Wdl.Step.ofRecord_toRecord hd, houts]
    exact ⟨_, rfl⟩

theorem Workflow.exists_ofRecord_iff {w : Workflow}
    (h : (Workflow.read ws bound inner sourceDir fileName source).outcome = .ok w) :
    (∃ v, Wdl.Workflow.ofRecord w.toRecord = .ok v) ↔ ∀ s ∈ w.steps, s.definition = none := by
  obtain ⟨-, -, -, steps, items, -, -, hread⟩ := Workflow.read_eq_ok h
  have hsteps : (∃ vs, (w.steps.mapM fun s => Wdl.Step.ofRecord s.toRecord) = .ok vs) ↔
      ∀ s ∈ w.steps, s.definition = none := by
    rw [exists_mapM_eq_ok_iff]
    refine forall₂_congr ?_
    intro s hs
    obtain ⟨item, -, hitem⟩ := exists_of_mem_mapM hread hs
    exact Step.exists_ofRecord_iff hitem
  rw [Wdl.Workflow.ofRecord_toRecord, ← hsteps]
  constructor
  · rintro ⟨v, hv⟩
    obtain ⟨vs, hvs, -⟩ := bind_eq_ok_iff.mp hv
    exact ⟨vs, hvs⟩
  · rintro ⟨vs, hvs⟩
    rw [hvs]
    exact ⟨_, rfl⟩

/-- A refused workflow is refused for a list in the place of a task. -/
theorem Workflow.ofRecord_eq_wrongKind {w : Workflow}
    (h : (Workflow.read ws bound inner sourceDir fileName source).outcome = .ok w)
    (hno : ¬ ∀ s ∈ w.steps, s.definition = none) :
    Wdl.Workflow.ofRecord w.toRecord = .error .wrongKind := by
  rw [← Workflow.exists_ofRecord_iff h] at hno
  obtain ⟨-, -, -, steps, items, -, -, hread⟩ := Workflow.read_eq_ok h
  rw [Wdl.Workflow.ofRecord_toRecord] at hno ⊢
  cases hsteps : w.steps.mapM fun s => Wdl.Step.ofRecord s.toRecord with
  | ok vs =>
    rw [hsteps] at hno
    exact absurd ⟨_, rfl⟩ hno
  | error f =>
    obtain ⟨s, hs, hf⟩ := exists_of_mapM_eq_error hsteps
    obtain ⟨item, -, hitem⟩ := exists_of_mem_mapM hread hs
    have hd : s.definition ≠ none := by
      intro hd
      obtain ⟨v, hv⟩ := (Step.exists_ofRecord_iff hitem).mpr hd
      cases hf.symm.trans hv
    cases hf.symm.trans (Wdl.Step.ofRecord_of_definition hd)
    rfl

/-- Two steps that were read from one place differ in their definitions only. -/
theorem Step.eq_of_read {step : Value} {s s' : Step}
    (h : (Step.read ws inner sourceDir step).outcome = .ok s)
    (h' : (Step.read ws' inner' sourceDir' step).outcome = .ok s')
    (hd : s.definition = s'.definition) : s = s' := by
  obtain ⟨run, hrun, hid, himport, ⟨i, hi, hinputs⟩, ⟨o, ho, houtputs⟩, -⟩ := Step.read_eq_ok h
  obtain ⟨run', hrun', hid', himport', ⟨i', hi', hinputs'⟩, ⟨o', ho', houtputs'⟩, -⟩ :=
    Step.read_eq_ok h'
  cases hrun.symm.trans hrun'
  cases hi.symm.trans hi'
  cases ho.symm.trans ho'
  have hids : s.taskId = s'.taskId := hid.trans hid'.symm
  have hins : s.inputs = s'.inputs := Except.ok.inj (hinputs.symm.trans hinputs')
  have houts : s.outputs = s'.outputs := Except.ok.inj (houtputs.symm.trans houtputs')
  have himports : s.importStatement = s'.importStatement := himport.trans himport'.symm
  cases s
  cases s'
  rw [Step.mk.injEq]
  exact ⟨hids, hins, houts, hd, himports⟩

/-- The text of an accepted workflow comes from the workflow alone. -/
theorem Workflow.text_eq_of_read {w w' : Workflow} {v v' : Wdl.Workflow}
    (h : (Workflow.read ws bound inner sourceDir fileName source).outcome = .ok w)
    (h' : (Workflow.read ws' bound' inner' sourceDir' fileName source).outcome = .ok w')
    (hv : Wdl.Workflow.ofRecord w.toRecord = .ok v)
    (hv' : Wdl.Workflow.ofRecord w'.toRecord = .ok v') : v'.text = v.text := by
  have hnone := (Workflow.exists_ofRecord_iff h).mp ⟨v, hv⟩
  have hnone' := (Workflow.exists_ofRecord_iff h').mp ⟨v', hv'⟩
  obtain ⟨hname, ⟨i, hi, hinputs⟩, ⟨o, ho, houtputs⟩, s, items, hs, hitems, hsteps⟩ :=
    Workflow.read_eq_ok h
  obtain ⟨hname', ⟨i', hi', hinputs'⟩, ⟨o', ho', houtputs'⟩, s', items', hs', hitems', hsteps'⟩ :=
    Workflow.read_eq_ok h'
  cases hi.symm.trans hi'
  cases ho.symm.trans ho'
  cases hs.symm.trans hs'
  cases hitems.symm.trans hitems'
  have heq : w.steps = w'.steps := by
    refine eq_of_mapM hsteps hsteps' ?_
    intro item s hs s' hs' hread hread'
    exact Step.eq_of_read hread hread' ((hnone s hs).trans (hnone' s' hs').symm)
  have hname : w.name = w'.name := Except.ok.inj (hname.symm.trans hname')
  have hins : w.inputs = w'.inputs := Except.ok.inj (hinputs.symm.trans hinputs')
  have houts : w.outputs = w'.outputs := Except.ok.inj (houtputs.symm.trans houtputs')
  rw [Wdl.Workflow.ofRecord_toRecord] at hv hv'
  obtain ⟨steps, hsteps, hv⟩ := bind_eq_ok_iff.mp hv
  obtain ⟨steps', hsteps', hv'⟩ := bind_eq_ok_iff.mp hv'
  cases hv
  cases hv'
  cases hsteps.symm.trans (heq ▸ hsteps')
  have hwrite : (w'.toWorkflow steps).write = (w.toWorkflow steps).write := by
    rw [toWorkflow, toWorkflow, Wdl.Workflow.write, Wdl.Workflow.write, hname, hins, houts]
  rw [Wdl.Workflow.text_eq, Wdl.Workflow.text_eq, hwrite]

/-- A workflow is accepted exactly if no step has brought tools along, that is, if every step runs no
file or a workflow. Otherwise it is refused for the kind of a value. What is accepted collects
no definitions, and its text is the same wherever the workflow is read. -/
theorem Workflow.accepted_iff_runs_no_tools {ws : Workspace} {bound depth : Nat}
    {sourceDir : Value} {fileName : String} {source : Value} {w : Workflow}
    (h : (Workflow.read ws bound (toolsOfFile ws depth) sourceDir fileName source).outcome =
      .ok w) :
    ((∃ v, Wdl.Workflow.ofRecord w.toRecord = .ok v) ↔ ∀ s ∈ w.steps, s.definition = none) ∧
    ((∀ s ∈ w.steps, s.definition = none) ↔
      ∃ steps items, source.get "steps" = .ok steps ∧ steps.items = .ok items ∧
        ∀ step ∈ items, RunsNoTools ws sourceDir step) ∧
    ((¬ ∀ s ∈ w.steps, s.definition = none) →
      Wdl.Workflow.ofRecord w.toRecord = .error .wrongKind) ∧
    ∀ v, Wdl.Workflow.ofRecord w.toRecord = .ok v →
      (∀ n, ∀ call ∈ (Wdl.Generator.new v).calls n, call.2.definitions = []) ∧
      ∀ ws' bound' depth' sourceDir' w' v',
        (Workflow.read ws' bound' (toolsOfFile ws' depth') sourceDir' fileName source).outcome =
          .ok w' →
        Wdl.Workflow.ofRecord w'.toRecord = .ok v' → v'.text = v.text := by
  refine ⟨Workflow.exists_ofRecord_iff h, ?_, Workflow.ofRecord_eq_wrongKind h, ?_⟩
  · obtain ⟨-, -, -, steps, items, hsteps, hitems, hread⟩ := Workflow.read_eq_ok h
    constructor
    · intro hnone
      refine ⟨steps, items, hsteps, hitems, ?_⟩
      intro item hitem
      obtain ⟨s, hs, hread⟩ := exists_mem_of_mapM hread hitem
      exact (Step.definition_eq_none_iff hread).mp (hnone s hs)
    · rintro ⟨steps', items', hsteps', hitems', hruns⟩ s hs
      cases hsteps.symm.trans hsteps'
      cases hitems.symm.trans hitems'
      obtain ⟨item, hitem, hread⟩ := exists_of_mem_mapM hread hs
      exact (Step.definition_eq_none_iff hread).mpr (hruns item hitem)
  · intro v hv
    refine ⟨?_, ?_⟩
    · intro n call hcall
      exact Wdl.Workflow.definitions_calls_of_ofRecord hv hcall
    · intro ws' bound' depth' sourceDir' w' v' h' hv'
      exact Workflow.text_eq_of_read h h' hv hv'

def filesSample : Workspace where
  files := [
    (["t.cwl"], .mapping [("class", .str "CommandLineTool"), ("baseCommand", .str "ls"),
      ("inputs", .list []), ("outputs", .list [])]),
    (["w.cwl"], .mapping [("class", .str "Workflow"), ("inputs", .list []), ("outputs", .list []),
      ("steps", .list [])])]
  directory := []

def runningSample (run : String) : Value :=
  .mapping [("inputs", .list []), ("outputs", .list []), ("steps", .list [.mapping [
    ("run", .str run), ("inputs", .list []), ("outputs", .list [.mapping [("id", .str "#o")]])]])]

theorem Workflow.accepted_runningSample : ∃ called refused,
    (Workflow.read filesSample 1 (toolsOfFile filesSample 1) (.str "") "s"
      (runningSample "w.cwl")).outcome = .ok called ∧
    (Workflow.read filesSample 1 (toolsOfFile filesSample 1) (.str "") "s"
      (runningSample "t.cwl")).outcome = .ok refused ∧
    (∃ v, Wdl.Workflow.ofRecord called.toRecord = .ok v) ∧
    Wdl.Workflow.ofRecord refused.toRecord = .error .wrongKind := by
  refine ⟨_, _, rfl, rfl, ?_, ?_⟩
  · refine (@Workflow.accepted_iff_runs_no_tools filesSample 1 1 (.str "") "s"
      (runningSample "w.cwl") _ rfl).1.mpr ?_
    intro s hs
    rw [List.mem_singleton.mp hs]
  · refine (@Workflow.accepted_iff_runs_no_tools filesSample 1 1 (.str "") "s"
      (runningSample "t.cwl") _ rfl).2.2.1 ?_
    intro hnone
    cases hnone _ (List.mem_singleton_self _)

end Cwl

end FlowConverter
