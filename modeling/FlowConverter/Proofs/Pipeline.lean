import FlowConverter.CommandLine.Run
import FlowConverter.Proofs.Reading
import FlowConverter.Proofs.Records

/-! The command line against the stages it is made of. Each tool and the workflow of a document have
texts of their own, made by their own records alone. A run prints these texts one below the
other, except for a document without tasks, which is refused before any text is made. -/
namespace FlowConverter

/-- The text of a tool: its record as a task, and the text of that task. -/
def Cwl.Tool.wdl (t : Cwl.Tool) : Except Fault String := do
  (← Wdl.Task.ofRecord t.toRecord).text

def Cwl.Workflow.wdl (w : Cwl.Workflow) : Except Fault String := do
  (← Wdl.Workflow.ofRecord w.toRecord).text

def Cwl.Document.wdl (d : Cwl.Document) : Except Fault (List String) := do
  let tasks ← (d.tasks.getD []).mapM (·.wdl)
  let workflow ← d.workflow.toList.mapM (·.wdl)
  pure (tasks ++ workflow)

theorem Cwl.Document.exists_wdl {d : Cwl.Document}
    (htasks : ∀ tool ∈ d.tasks.getD [], ∃ text, tool.wdl = .ok text)
    (hworkflow : ∀ w, d.workflow = some w → ∃ text, w.wdl = .ok text) :
    ∃ texts, d.wdl = .ok texts := by
  obtain ⟨tasks, ht⟩ := (exists_mapM_eq_ok_iff _ _).mpr htasks
  obtain ⟨workflow, hw⟩ := (exists_mapM_eq_ok_iff Cwl.Workflow.wdl d.workflow.toList).mpr
    fun w hw => hworkflow w (Option.mem_toList.mp hw)
  rw [Cwl.Document.wdl, ht, ok_bind, hw]
  exact ⟨_, rfl⟩

namespace Wdl

theorem readTasks_toRecord (tools : List Cwl.Tool) :
    readTasks (.list (tools.map (·.toRecord))) =
      (do pure (some (← tools.mapM fun t => Task.ofRecord t.toRecord))) := by
  have hall : (tools.map (·.toRecord)).all (·.isMapping) = true := by
    rw [List.all_map, List.all_eq_true]
    exact fun _ _ => rfl
  rw [readTasks, if_pos hall, List.mapM_map]
  rfl

theorem Document.ofRecord_without_tasks (workflow : Option Cwl.Workflow) :
    Document.ofRecord (Cwl.Document.toRecord ⟨none, workflow⟩) =
      .error (.missingKey (.str "workflows")) := rfl

theorem Document.ofRecord_tools (tools : List Cwl.Tool) :
    Document.ofRecord (Cwl.Document.toRecord ⟨some tools, none⟩) = (do
      let tasks ← tools.mapM fun t => Task.ofRecord t.toRecord
      pure ⟨some tasks, none⟩) := by
  have h : Document.ofRecord (Cwl.Document.toRecord ⟨some tools, none⟩) =
      readTasks (.list (tools.map (·.toRecord))) >>= fun tasks => pure ⟨tasks, none⟩ := rfl
  rw [h, readTasks_toRecord, bind_assoc]
  rfl

theorem Document.ofRecord_packed (tools : List Cwl.Tool) (w : Cwl.Workflow) :
    Document.ofRecord (Cwl.Document.toRecord ⟨some tools, some w⟩) = (do
      let tasks ← tools.mapM fun t => Task.ofRecord t.toRecord
      let workflow ← Workflow.ofRecord w.toRecord
      pure ⟨some tasks, some workflow⟩) := by
  have h : Document.ofRecord (Cwl.Document.toRecord ⟨some tools, some w⟩) =
      readTasks (.list (tools.map (·.toRecord))) >>= fun tasks =>
        (do pure (some (← Workflow.ofRecord w.toRecord))) >>= fun workflow =>
          pure ⟨tasks, workflow⟩ := rfl
  simp only [h, readTasks_toRecord, bind_assoc, pure_bind]

end Wdl

namespace CommandLine

/-- A document with tasks is written as its parts are: the order in which the stages take the parts
up makes no difference to a text. -/
theorem documentTexts_eq_ok_iff {tools : List Cwl.Tool} {workflow : Option Cwl.Workflow}
    {texts : List String} :
    (do documentTexts (← Wdl.Document.ofRecord (Cwl.Document.toRecord ⟨some tools, workflow⟩))) =
      .ok texts ↔ Cwl.Document.wdl ⟨some tools, workflow⟩ = .ok texts := by
  have htools (taskTexts : List String) :
      (∃ tasks, (tools.mapM fun t => Wdl.Task.ofRecord t.toRecord) = .ok tasks ∧
        tasks.mapM (·.text) = .ok taskTexts) ↔ tools.mapM (·.wdl) = .ok taskTexts :=
    mapM_mapM_eq_ok_iff
  cases workflow with
  | none =>
    rw [Wdl.Document.ofRecord_tools, Cwl.Document.wdl]
    simp only [documentTexts, bind_assoc, pure_bind, Option.getD_some, Option.toList_none,
      List.mapM_nil, List.append_nil]
    simp only [bind_eq_ok_iff, ← htools]
    constructor
    · rintro ⟨tasks, ht, taskTexts, hx, h⟩
      exact ⟨taskTexts, ⟨tasks, ht, hx⟩, h⟩
    · rintro ⟨taskTexts, ⟨tasks, ht, hx⟩, h⟩
      exact ⟨tasks, ht, taskTexts, hx, h⟩
  | some w =>
    rw [Wdl.Document.ofRecord_packed, Cwl.Document.wdl]
    simp only [documentTexts, Cwl.Workflow.wdl, bind_assoc, pure_bind, Option.getD_some,
      Option.toList_some, List.mapM_cons, List.mapM_nil]
    simp only [bind_eq_ok_iff, ← htools]
    constructor
    · rintro ⟨tasks, ht, v, hv, taskTexts, hx, text, hw, h⟩
      exact ⟨taskTexts, ⟨tasks, ht, hx⟩, v, hv, text, hw, h⟩
    · rintro ⟨taskTexts, ⟨tasks, ht, hx⟩, v, hv, text, hw, h⟩
      exact ⟨tasks, ht, v, hv, taskTexts, hx, text, hw, h⟩

theorem contains_of_read {ws : Workspace} {path : String} {v : Value}
    (h : ws.read path = .ok v) : ws.contains path = true := by
  obtain ⟨entry, he, -⟩ := bind_eq_ok_iff.mp h
  rw [Workspace.contains, he]

/-- The stages after reading give no warnings. -/
theorem convert_of_read {ws : Workspace} {bound : Nat} {path : String} {document : Cwl.Document}
    (hread : (Cwl.Document.read ws bound path).outcome = .ok document) :
    convert ws bound path = ⟨(Cwl.Document.read ws bound path).log,
      (do documentTexts (← Wdl.Document.ofRecord document.toRecord)) >>= fun texts =>
        pure ("\n".intercalate texts)⟩ := by
  obtain ⟨depth, v, rfl, hv, -⟩ := Cwl.Document.read_eq_ok hread
  rw [convert, contains_of_read hv]
  generalize Cwl.Document.read ws (depth + 1) path = r at hread
  obtain ⟨log, outcome⟩ := r
  cases hread
  cases h : Wdl.Document.ofRecord document.toRecord with
  | error f => simp [Logged.bind_def, Logged.bind, h]
  | ok d => cases ht : documentTexts d <;> simp [Logged.bind_def, Logged.bind, h, ht]

variable {ws : Workspace} {bound : Nat} {validator : Validator} {words : List String}
  {path : String}

/-- A run with default options over a document that could be read: what decides are the stages after
reading, and the warnings are those of reading. -/
theorem run_of_read {document : Cwl.Document}
    (hwords : read words = .ok (.convert ⟨path, .wdl, false⟩))
    (hread : (Cwl.Document.read ws bound path).outcome = .ok document) :
    run ws bound validator words =
      match (do documentTexts (← Wdl.Document.ofRecord document.toRecord)) with
      | .ok texts => ⟨.returned, "\n".intercalate texts ++ "\n", "", [],
          (Cwl.Document.read ws bound path).log⟩
      | .error f => ⟨.failed f, "", "", [], (Cwl.Document.read ws bound path).log⟩ := by
  simp only [run, hwords, runConversion, convert_of_read hread]
  generalize (do documentTexts (← Wdl.Document.ofRecord document.toRecord)) = stages
  cases stages with
  | error f => rfl
  | ok texts => simp [pure_eq_ok, deliver, print]

theorem run_eq_returned_of_wdl {tools : List Cwl.Tool} {workflow : Option Cwl.Workflow}
    {texts : List String} (hwords : read words = .ok (.convert ⟨path, .wdl, false⟩))
    (hread : (Cwl.Document.read ws bound path).outcome = .ok ⟨some tools, workflow⟩)
    (htexts : Cwl.Document.wdl ⟨some tools, workflow⟩ = .ok texts) :
    run ws bound validator words =
      ⟨.returned, "\n".intercalate texts ++ "\n", "", [],
        (Cwl.Document.read ws bound path).log⟩ := by
  rw [run_of_read hwords hread, documentTexts_eq_ok_iff.mpr htexts]

theorem run_without_tasks {workflow : Option Cwl.Workflow}
    (hwords : read words = .ok (.convert ⟨path, .wdl, false⟩))
    (hread : (Cwl.Document.read ws bound path).outcome = .ok ⟨none, workflow⟩) :
    run ws bound validator words = ⟨.failed (.missingKey (.str "workflows")), "", "", [],
      (Cwl.Document.read ws bound path).log⟩ := by
  rw [run_of_read hwords hread, Wdl.Document.ofRecord_without_tasks, error_bind]

/-- If every part of a document has a text, a run prints these texts exactly if the document has
tasks. One that is a workflow and nothing else has none; its run asks for a key that no document
has, and prints nothing. -/
theorem run_prints_parts_iff_tasks {document : Cwl.Document}
    (hwords : read words = .ok (.convert ⟨path, .wdl, false⟩))
    (hread : (Cwl.Document.read ws bound path).outcome = .ok document)
    (htasks : ∀ tool ∈ document.tasks.getD [], ∃ text, tool.wdl = .ok text)
    (hworkflow : ∀ w, document.workflow = some w → ∃ text, w.wdl = .ok text) :
    ∃ texts, document.wdl = .ok texts ∧
      (run ws bound validator words = ⟨.returned, "\n".intercalate texts ++ "\n", "", [],
        (Cwl.Document.read ws bound path).log⟩ ↔ document.tasks ≠ none) ∧
      (document.tasks = none →
        run ws bound validator words = ⟨.failed (.missingKey (.str "workflows")), "", "", [],
          (Cwl.Document.read ws bound path).log⟩) ∧
      (document.tasks = none ↔ ∃ fields, ws.read path = .ok (.mapping fields) ∧
        fields.lookup "class" = some (.str "Workflow")) := by
  obtain ⟨texts, htexts⟩ := Cwl.Document.exists_wdl htasks hworkflow
  refine ⟨texts, htexts, ?_, ?_, Cwl.Document.tasks_eq_none_iff hread⟩
  · obtain ⟨tasks, workflow⟩ := document
    cases tasks with
    | none => simp [run_without_tasks hwords hread]
    | some tools => simp [run_eq_returned_of_wdl hwords hread htexts]
  · obtain ⟨tasks, workflow⟩ := document
    rintro rfl
    exact run_without_tasks hwords hread

def packedSample : Workspace where
  files := [(["p.cwl"], .list [
    .mapping [("class", .str "CommandLineTool"), ("id", .str "#t"), ("baseCommand", .str "ls"),
      ("inputs", .list []), ("outputs", .list [])],
    .mapping [("class", .str "Workflow"), ("id", .str "#w"), ("inputs", .list []),
      ("outputs", .list []), ("steps", .list [])]])]
  directory := []

def packedDocument : Cwl.Document where
  tasks := some [⟨"t", .str "ls", [], [], [], [], none, none⟩]
  workflow := some ⟨"w", [], [], [], []⟩

theorem run_packedSample : ∃ task workflow,
    packedDocument.wdl = .ok [task, workflow] ∧
      run packedSample 1 (fun _ text => .ok text) ["p.cwl"] =
        ⟨.returned, task ++ "\n" ++ workflow ++ "\n", "", [], []⟩ := by
  have htool : ∀ tool ∈ packedDocument.tasks.getD [], ∃ text, tool.wdl = .ok text := by
    intro tool hmem
    rw [List.mem_singleton.mp hmem]
    exact ⟨_, rfl⟩
  have hworkflow : ∀ w, packedDocument.workflow = some w → ∃ text, w.wdl = .ok text := by
    rintro w ⟨⟩
    exact ⟨_, rfl⟩
  obtain ⟨texts, htexts, hrun, -⟩ := @run_prints_parts_iff_tasks packedSample 1
    (fun _ text => .ok text) ["p.cwl"] "p.cwl" packedDocument rfl rfl htool hworkflow
  obtain ⟨task, workflow, rfl⟩ : ∃ task workflow, texts = [task, workflow] :=
    ⟨_, _, Except.ok.inj htexts.symm⟩
  refine ⟨task, workflow, htexts, ?_⟩
  rw [hrun.mpr (by simp [packedDocument]), String.intercalate_cons_cons,
    String.intercalate_singleton]
  rfl

def workflowSample : Workspace where
  files := [(["w.cwl"], .mapping [("class", .str "Workflow"), ("inputs", .list []),
    ("outputs", .list []), ("steps", .list [])])]
  directory := []

/-- Such a workflow has a text, and no run prints it. -/
theorem run_workflowSample :
    (∃ document, (Cwl.Document.read workflowSample 1 "w.cwl").outcome = .ok document ∧
      document.wdl = .ok ["\nworkflow w.cwl \x7b\n    \n    \n    None\n\x7d\n\n"]) ∧
    (run workflowSample 1 (fun _ text => .ok text) ["w.cwl"]).ending =
      .failed (.missingKey (.str "workflows")) :=
  ⟨⟨_, rfl, rfl⟩, rfl⟩

end CommandLine

end FlowConverter
