import FlowConverter.Proofs.Bounds
import FlowConverter.Proofs.Deletion
import FlowConverter.Proofs.Reading

/-! Steps that run files by their paths. Before the path is looked at, it is searched for `import`,
which is a key of a mapping but any six letters of a text. Main statement: a step that runs a file
that can be found and read has the tools of that file and is named after it, unless `import` occurs
somewhere in the path; then the step is refused and the file is not even opened. -/
namespace FlowConverter

theorem Value.occursIn_iff {part s : List Char} : occursIn part s = true ↔ part <:+: s := by
  induction s with
  | nil => rw [occursIn, List.isEmpty_iff, List.infix_nil]
  | cons c rest ih =>
    rw [occursIn, Bool.or_eq_true, List.isPrefixOf_iff_prefix, ih, List.infix_cons_iff]

/-! ### Words left out of a text -/

namespace Text

variable {words : List (List Char)}

/-- Going through a text from its start, each of `words` is left out and all else is kept. -/
def Without (words : List (List Char)) : List Char → List Char → Prop := LeftOut (· ∈ words)

theorem finds_words (hwords : [] ∉ words) : Finds (· ∈ words) (wordLength? words) where
  sound {s n} h := by
    obtain ⟨w, hw, rfl⟩ := Option.map_eq_some_iff.mp h
    have hstarts := List.find?_some hw
    rw [Bool.and_eq_true, List.isPrefixOf_iff_prefix] at hstarts
    obtain ⟨rest, hrest⟩ := hstarts.2
    exact ⟨w, rest, List.mem_of_find?_eq_some hw, hrest.symm, rfl⟩
  complete {w} hw rest := by
    have hne : w ≠ [] := fun hnil => hwords (hnil ▸ hw)
    rw [wordLength?, ne_eq, Option.map_eq_none_iff, List.find?_eq_none]
    intro hnone
    exact hnone w hw (by simp [hne])
  ne_nil {w} hw := fun hnil => hwords (hnil ▸ hw)

theorem wordLength?_singleton {w : List Char} (hw : w ≠ []) (s : List Char) :
    wordLength? [w] s = if w.isPrefixOf s then some w.length else none := by
  have hempty : w.isEmpty = false := List.isEmpty_eq_false_iff.mpr hw
  rw [wordLength?, List.find?_singleton, hempty]
  cases w.isPrefixOf s with
  | true => rfl
  | false => rfl

theorem without_deleteAll (hwords : [] ∉ words) (s : List Char) :
    Without words s (deleteAll (wordLength? words) s) :=
  leftOut_deleteAll (finds_words hwords) s

end Text

/-! ### The last name of a path -/

namespace Path

/-- `base` is what follows the last slash of `path`, or all of it if there is none. -/
def IsBaseName (path base : List Char) : Prop :=
  '/' ∉ base ∧ (path = base ∨ ∃ front, path = front ++ '/' :: base)

theorem exists_isBaseName (path : List Char) : ∃ base, IsBaseName path base := by
  induction path with
  | nil => exact ⟨[], List.not_mem_nil, .inl rfl⟩
  | cons c rest ih =>
    obtain ⟨base, hbase, rfl | ⟨front, rfl⟩⟩ := ih
    · by_cases hc : c = '/'
      · exact ⟨rest, hbase, .inr ⟨[], by rw [hc]; rfl⟩⟩
      · exact ⟨c :: rest, by simp [Ne.symm hc, hbase], .inl rfl⟩
    · exact ⟨base, hbase, .inr ⟨c :: front, rfl⟩⟩

theorem partsOf_ne_nil (path : List Char) : partsOf path ≠ [] := by
  cases path with
  | nil => simp [partsOf]
  | cons c rest =>
    rw [partsOf]
    split
    · simp
    · split <;> simp

theorem partsOf_of_no_slash {path : List Char} (h : '/' ∉ path) : partsOf path = [path] := by
  induction path with
  | nil => rfl
  | cons c rest ih =>
    obtain ⟨hc, hrest⟩ := List.ne_and_not_mem_of_not_mem_cons h
    rw [partsOf, if_neg (by simpa using Ne.symm hc), ih hrest]

theorem partsOf_append_slash (front rest : List Char) :
    partsOf (front ++ '/' :: rest) = partsOf front ++ partsOf rest := by
  induction front with
  | nil => rfl
  | cons c front ih =>
    rw [List.cons_append, partsOf, partsOf, ih]
    split
    · rfl
    · cases hparts : partsOf front with
      | nil => exact absurd hparts (partsOf_ne_nil front)
      | cons p ps => rfl

theorem baseName_of_isBaseName {path : String} {base : List Char}
    (h : IsBaseName path.toList base) : baseName path = String.ofList base := by
  obtain ⟨hbase, hpath | ⟨front, hpath⟩⟩ := h
  · rw [baseName, parts, hpath, partsOf_of_no_slash hbase]
    rfl
  · rw [baseName, parts, hpath, partsOf_append_slash, partsOf_of_no_slash hbase, List.map_append,
      List.map_singleton, List.getLastD_concat]

/-- The last name of a path with words left out. -/
theorem exists_without_baseName {words : List String} (hwords : "" ∉ words) (path : String) :
    ∃ base kept, IsBaseName path.toList base ∧ Text.Without (words.map String.toList) base kept ∧
      Text.deleteWords words (baseName path) = String.ofList kept := by
  obtain ⟨base, hbase⟩ := exists_isBaseName path.toList
  have hwords' : [] ∉ words.map String.toList := by simpa using hwords
  refine ⟨base, _, hbase, Text.without_deleteAll hwords' base, ?_⟩
  rw [baseName_of_isBaseName hbase, Text.deleteWords, String.toList_ofList]

end Path

/-- What a path leads to: the path itself, seen from the current directory, or else the path below
`dir`. -/
inductive Workspace.Finds (ws : Workspace) (dir path : String) : String → Prop where
  | here (h : ws.contains path = true) : ws.Finds dir path path
  | below (h : ws.contains path = false) (hbelow : ws.contains (Path.join dir path) = true) :
    ws.Finds dir path (Path.join dir path)

theorem Workspace.Finds.locate {ws : Workspace} {dir path file : String}
    (h : ws.Finds dir path file) : ws.locate (.str dir) path = .ok (some file) := by
  cases h with
  | here h =>
    rw [Workspace.locate, h]
    rfl
  | below h hbelow =>
    simp only [Workspace.locate, h, Value.asText, pure_bind, hbelow]
    rfl

namespace Cwl

theorem exists_taskIdOf (run : String) :
    ∃ base id, Path.IsBaseName run.toList base ∧
      Text.Without [".cwl".toList, "#".toList] base id ∧ taskIdOf run = String.ofList id :=
  @Path.exists_without_baseName [runEnding, "#"] (by decide) run

theorem readRun_of_text {step : Value} {run : String} (h : step.get "run" = .ok (.str run)) :
    readRun step = if Value.occursIn "import".toList run.toList then .error .wrongKind
      else .ok run := by
  rw [readRun, h, ok_bind, Value.has, pure_bind]
  cases Value.occursIn "import".toList run.toList with
  | true => rfl
  | false => rfl

section

variable {ws : Workspace} {bound : Nat} {dir run file : String} {step : Value} {d : Document}

theorem readDefinition_of_finds (hends : ".cwl".toList <:+ run.toList)
    (hfile : ws.Finds dir run file) (hread : (Document.read ws bound file).outcome = .ok d) :
    readDefinition ws (toolsOfFile ws bound) (.str dir) run =
      ⟨(Document.read ws bound file).log, .ok d.tasks⟩ := by
  have hruns : runsFile run = true := List.isSuffixOf_iff_suffix.mpr hends
  have htools : toolsOfFile ws bound file = ⟨(Document.read ws bound file).log, .ok d.tasks⟩ := by
    simp [toolsOfFile, Logged.bind_of_ok hread]
  rw [readDefinition, if_pos hruns, hfile.locate, Logged.lift_ok, pure_bind]
  exact htools

/-- A step that runs a file and passes nothing on, if nothing in the path looks like an import. -/
theorem Step.read_of_finds (hrun : step.get "run" = .ok (.str run))
    (hinputs : step.get "inputs" = .ok (.list [])) (houtputs : step.get "outputs" = .ok (.list []))
    (hends : ".cwl".toList <:+ run.toList) (hfile : ws.Finds dir run file)
    (hread : (Document.read ws bound file).outcome = .ok d)
    (himport : ¬ "import".toList <:+: run.toList) :
    Step.read ws (toolsOfFile ws bound) (.str dir) step =
      ⟨(Document.read ws bound file).log,
        .ok ⟨taskIdOf run, [], [], d.tasks, some ("import " ++ run)⟩⟩ := by
  have hruns : runsFile run = true := List.isSuffixOf_iff_suffix.mpr hends
  have hdefinition := readDefinition_of_finds hends hfile hread
  rw [← Value.occursIn_iff] at himport
  rw [Step.read, readRun_of_text hrun, if_neg himport, Logged.lift_ok, pure_bind, hdefinition,
    Logged.bind_of_ok rfl, hinputs, houtputs, hruns]
  simp [StepInput.readAll, readStepOutputs, Value.items, pure_eq_ok]

end

/-- A step that runs a file becomes a step that is named after the file and has its tools, if
`import` does not occur in the path. Otherwise the step cannot be read. -/
theorem Step.file_run_unless_import {ws : Workspace} {bound : Nat} {dir run file : String}
    {step : Value} {d : Document} (hrun : step.get "run" = .ok (.str run))
    (hinputs : step.get "inputs" = .ok (.list [])) (houtputs : step.get "outputs" = .ok (.list []))
    (hends : ".cwl".toList <:+ run.toList) (hfile : ws.Finds dir run file)
    (hread : (Document.read ws bound file).outcome = .ok d) :
    ∃ base id, Path.IsBaseName run.toList base ∧
      Text.Without [".cwl".toList, "#".toList] base id ∧
      (¬ "import".toList <:+: run.toList →
        Step.readAll ws (toolsOfFile ws bound) (.str dir) (.list [step]) =
          ⟨(Document.read ws bound file).log,
            .ok [⟨String.ofList id, [], [], d.tasks, some ("import " ++ run)⟩]⟩) ∧
      ("import".toList <:+: run.toList →
        Step.readAll ws (toolsOfFile ws bound) (.str dir) (.list [step]) =
          Logged.fail .wrongKind) := by
  obtain ⟨base, id, hbase, hid, htaskId⟩ := exists_taskIdOf run
  have hall : Step.readAll ws (toolsOfFile ws bound) (.str dir) (.list [step]) =
      Step.read ws (toolsOfFile ws bound) (.str dir) step >>= fun s => pure [s] := by
    simp [Step.readAll, Value.items, pure_eq_ok]
  refine ⟨base, id, hbase, hid, ?_, ?_⟩
  · intro himport
    rw [hall, Step.read_of_finds hrun hinputs houtputs hends hfile hread himport,
      Logged.bind_of_ok rfl, htaskId]
    simp
  · intro himport
    rw [hall, Step.read, readRun_of_text hrun, if_pos (Value.occursIn_iff.mpr himport)]
    rfl

def runningStep (run : String) : Value :=
  .mapping [("run", .str run), ("inputs", .list []), ("outputs", .list [])]

def toolFile (place : List String) : Workspace where
  files := [("d" :: place, .mapping [("class", .str "CommandLineTool"), ("id", .str "#t"),
    ("baseCommand", .str "ls"), ("inputs", .list []), ("outputs", .list [])])]
  directory := ["c"]

/-- The ending occurs twice in the path and the mark once; the file is found beside the workflow. -/
theorem Step.file_run_doubleSample : ∃ base id tool,
    Path.IsBaseName "sub/a#.cwl.cwl".toList base ∧
      Text.Without [".cwl".toList, "#".toList] base id ∧ String.ofList id = "a" ∧
      (Document.read (toolFile ["sub", "a#.cwl.cwl"]) 1 "/d/sub/a#.cwl.cwl").outcome =
        .ok ⟨some [tool], none⟩ ∧
      Step.readAll (toolFile ["sub", "a#.cwl.cwl"])
        (toolsOfFile (toolFile ["sub", "a#.cwl.cwl"]) 1) (.str "/d")
        (.list [runningStep "sub/a#.cwl.cwl"]) =
          ⟨[], .ok [⟨String.ofList id, [], [], some [tool], some "import sub/a#.cwl.cwl"⟩]⟩ := by
  obtain ⟨base, id, hbase, hid, hstep, -⟩ :=
    @Step.file_run_unless_import (toolFile ["sub", "a#.cwl.cwl"]) 1 "/d" "sub/a#.cwl.cwl"
      "/d/sub/a#.cwl.cwl" (runningStep "sub/a#.cwl.cwl") _ rfl rfl rfl ⟨"sub/a#.cwl".toList, rfl⟩
      (.below rfl rfl) rfl
  have hplain : ¬ "import".toList <:+: "sub/a#.cwl.cwl".toList := by
    rw [← Value.occursIn_iff]
    decide
  have hread := congrArg Logged.outcome (hstep hplain)
  have hname : String.ofList id = "a" :=
    (Step.mk.inj (List.cons.inj (Except.ok.inj hread)).1).1.symm
  exact ⟨base, id, _, hbase, hid, hname, rfl, hstep hplain⟩

/-- A path in which the letters of `import` occur. The file is there and can be read, and the step
that runs it cannot. -/
theorem Step.file_run_fails_importedSample :
    ".cwl".toList <:+ "imported.cwl".toList ∧
      (toolFile ["imported.cwl"]).Finds "/d" "imported.cwl" "/d/imported.cwl" ∧
      ∀ n, (∃ d, (Document.read (toolFile ["imported.cwl"]) (n + 1) "/d/imported.cwl").outcome =
          .ok d) ∧
        (Step.readAll (toolFile ["imported.cwl"]) (toolsOfFile (toolFile ["imported.cwl"]) (n + 1))
          (.str "/d") (.list [runningStep "imported.cwl"])).outcome = .error .wrongKind :=
  ⟨⟨"imported".toList, rfl⟩, .below rfl rfl, fun _ => ⟨⟨_, rfl⟩, rfl⟩⟩

end Cwl

end FlowConverter
