import FlowConverter.Proofs.CommandDomain
import FlowConverter.Proofs.Pipeline

/-! Which tools are converted. A tool that could be read may still be refused: by an argument that is
a plain text or has a flag, by a base command that is not made of texts, or by a position that is
neither null nor a number. Nothing else refuses it. -/
namespace FlowConverter

namespace Cwl

/-- Whether arguments hold one that is a plain text: an item of a list, or what a mapping has under
its own key `arguments`. -/
def holdsText : Value → Bool
  | .list items => items.any (·.isText)
  | .mapping fields => (fields.lookup "arguments").any (·.isText)
  | _ => false

def isCommand : Value → Bool
  | .list words => words.all (·.isText)
  | v => v.isText

/-- Whether the command leaves an input out: a Boolean that is off or has no flag, and the file
that the output goes to. -/
def InputParameter.isLeftOut (stdout : Option String) (p : InputParameter) : Bool :=
  (p.type == .single .boolean && (p.default == some "False" || p.flag.isNull)) ||
    stdout == some p.name

theorem Argument.readItem_eq_plain_iff {v : Value} :
    (∃ a, Argument.readItem v = .ok (some (.plain a))) ↔ v.isText := by
  cases v with
  | mapping fields =>
    simp only [readItem, bind_eq_ok_iff, Value.isText, Value.text?]
    simp [pure_eq_ok]
  | _ => simp [readItem, pure_eq_ok, Value.isText, Value.text?]

theorem Argument.exists_plain_iff {v : Value} {args : List Argument}
    (h : Argument.readAll v = .ok args) : (∃ a, .plain a ∈ args) ↔ holdsText v := by
  cases v with
  | list items =>
    obtain ⟨found, hf, h⟩ := bind_eq_ok_iff.mp h
    cases h
    simp only [List.mem_filterMap, id_eq, exists_eq_right, holdsText, List.any_eq_true,
      ← readItem_eq_plain_iff]
    constructor
    · rintro ⟨a, ha⟩
      obtain ⟨item, hm, he⟩ := exists_of_mem_mapM hf ha
      exact ⟨item, hm, a, he⟩
    · rintro ⟨item, hm, a, he⟩
      obtain ⟨y, hy, he'⟩ := exists_mem_of_mapM hf hm
      cases he.symm.trans he'
      exact ⟨a, hy⟩
  | mapping fields =>
    obtain ⟨inner, hi, h⟩ := bind_eq_ok_iff.mp h
    rw [holdsText, Value.get_mapping_eq_ok_iff.mp hi, Option.any_some]
    cases inner with
    | str s =>
      cases h
      simp [Value.isText, Value.text?]
    | mapping more =>
      obtain ⟨b, -, h⟩ := bind_eq_ok_iff.mp h
      cases h
      simp [Value.isText, Value.text?]
    | _ =>
      cases h
      simp [Value.isText, Value.text?]
  | _ => cases h

/-- A tool has a plain argument exactly if its arguments hold a text. -/
theorem Argument.exists_plain_readOf_iff {fields : List (String × Value)} {args : List Argument}
    (h : Argument.readOf (.mapping fields) = .ok args) :
    (∃ a, .plain a ∈ args) ↔
      ∃ v, (Value.mapping fields).get "arguments" = .ok v ∧ holdsText v := by
  rw [readOf, Value.has_mapping, ok_bind] at h
  simp only [Value.get_mapping_eq_ok_iff]
  cases hl : fields.lookup "arguments" with
  | none =>
    rw [hl] at h
    cases h
    simp
  | some v =>
    rw [hl, Option.isSome_some, if_pos rfl, Value.get_mapping_eq_ok_iff.mpr hl, ok_bind] at h
    simp [exists_plain_iff h]

theorem exists_readBase_iff {v : Value} :
    (∃ base, Wdl.Command.readBase v = .ok base ∧ base.isText) ↔ isCommand v := by
  cases v with
  | list words =>
    rw [isCommand, List.all_eq_true, ← Value.exists_join_list_iff " "]
    constructor
    · rintro ⟨base, h, -⟩
      obtain ⟨s, hs, -⟩ := bind_eq_ok_iff.mp h
      exact ⟨s, hs⟩
    · rintro ⟨s, hs⟩
      exact ⟨.str s, bind_eq_ok_iff.mpr ⟨s, hs, rfl⟩, rfl⟩
  | _ => simp [Wdl.Command.readBase, Value.isList, isCommand, pure_eq_ok]

theorem ParameterType.text_eq_boolean_iff (t : ParameterType) :
    t.text = "Boolean" ↔ t = .single .boolean := by
  cases t with
  | single base => cases base <;> decide
  | array base => cases base <;> decide

theorem InputParameter.isOmitted_toInput (stdout : Option String) (p : InputParameter) :
    p.toInput.isOmitted (.ofText? stdout) = p.isLeftOut stdout := by
  have htype : (Value.str p.type.text).equals (.str "Boolean") = (p.type == .single .boolean) := by
    rw [Bool.eq_iff_iff, Value.equals_str_iff, beq_iff_eq, Value.str.injEq,
      ParameterType.text_eq_boolean_iff]
  have hdefault : (Value.ofText? p.default).equals (.str "False") = (p.default == some "False") := by
    rw [Bool.eq_iff_iff, Value.equals_str_iff, beq_iff_eq]
    cases p.default <;> simp [Value.ofText?]
  have hname : (Value.str p.name).equals (.ofText? stdout) = (stdout == some p.name) := by
    cases stdout with
    | none => rfl
    | some s => simp [Value.ofText?, Value.equals, eq_comm]
  rw [Wdl.Input.isOmitted, isLeftOut, ← htype, ← hdefault, ← hname]
  rfl

theorem exists_declarations (inputs : List InputParameter) :
    ∃ s, Wdl.declarations (inputs.map (·.toInput)) = .ok s := by
  have h : ∀ i ∈ inputs.map (·.toInput), ∃ s, i.declaration = .ok s := by
    rw [List.forall_mem_map]
    intro p _
    cases hr : p.required with
    | true => exact ⟨_, by rw [Wdl.Input.declaration, InputParameter.toInput, hr]; rfl⟩
    | false => exact ⟨_, by rw [Wdl.Input.declaration, InputParameter.toInput, hr]; rfl⟩
  obtain ⟨lines, hl⟩ := (exists_mapM_eq_ok_iff _ _).mpr h
  exact ⟨_, bind_eq_ok_iff.mpr ⟨lines, hl, rfl⟩⟩

/-- The variables that a requirement sets, names with values, both as printed. -/
def Requirement.assignments? : Requirement → Option (List (String × String))
  | docker _ => none
  | environment settings => some (settings.map fun v => (v.1.text, v.2.text))

def assignmentsText (assignments : List (String × String)) : String :=
  " ".intercalate (assignments.map fun a => a.1 ++ "='" ++ a.2 ++ "'")

theorem Requirement.settings_toRequirement (r : Requirement) :
    r.toRequirement.settings = .ok (r.assignments?.map fun a => .str (assignmentsText a)) := by
  cases r with
  | docker image => rfl
  | environment settings =>
    have htexts : (settings.map fun v => Value.list [v.1, v.2]).mapM Wdl.setting =
        .ok (settings.map fun v => v.1.text ++ "='" ++ v.2.text ++ "'") := by
      rw [List.mapM_map]
      exact mapM_eq_ok_map fun v _ => rfl
    have hs : (environment settings).toRequirement.settings = (do
        let texts ← (settings.map fun v => Value.list [v.1, v.2]).mapM Wdl.setting
        pure (some (.str (" ".intercalate texts)))) := rfl
    rw [hs, htexts, assignments?, Option.map_some, assignmentsText, List.map_map]
    rfl

theorem Tool.mem_mentioned_iff (t : Tool) (base : Value) (arguments : List Wdl.Argument)
    (i : Wdl.Input) :
    i ∈ (t.toTask base arguments).mentioned ↔
      ∃ p ∈ t.inputs, p.isLeftOut t.stdout = false ∧ p.toInput = i := by
  simp only [Wdl.Task.mentioned, toTask, List.mem_filter, List.mem_map, Bool.not_eq_true']
  constructor
  · rintro ⟨⟨p, hp, rfl⟩, ho⟩
    exact ⟨p, hp, InputParameter.isOmitted_toInput _ p ▸ ho, rfl⟩
  · rintro ⟨p, hp, ho, rfl⟩
    exact ⟨⟨p, hp, rfl⟩, (InputParameter.isOmitted_toInput _ p).trans ho⟩

/-- A task made of a tool has a text if no argument has a flag, all positions can be ordered and the
base command is a text. -/
theorem Tool.exists_toTask_text_iff (t : Tool) (base : Value) (bindings : List Binding) :
    (∃ s, (t.toTask base (bindings.map (·.toArgument))).text = .ok s) ↔
      (∀ b ∈ bindings, b.flag.isNull ∧ b.position.isPosition) ∧ base.isText ∧
        ∀ p ∈ t.inputs, p.isLeftOut t.stdout = false → p.position.isPosition := by
  have hnamed : ∀ i ∈ (t.toTask base (bindings.map (·.toArgument))).mentioned, i.isNamed := by
    intro i hi
    obtain ⟨p, -, -, rfl⟩ := (t.mem_mentioned_iff base _ i).mp hi
    rfl
  have hsettings : ∀ r ∈ (t.toTask base (bindings.map (·.toArgument))).requirements,
      ∃ v, r.settings = .ok v :=
    List.forall_mem_map.mpr fun r _ => ⟨_, r.settings_toRequirement⟩
  have hflags : (∀ a ∈ (t.toTask base (bindings.map (·.toArgument))).command.arguments,
      a.flag.isNull ∨ a.separate.isSome) ↔ ∀ b ∈ bindings, b.flag.isNull := by
    simp [toTask, Binding.toArgument]
  have hpositions : (∀ v ∈ (t.toTask base (bindings.map (·.toArgument))).positions, v.isPosition) ↔
      (∀ b ∈ bindings, b.position.isPosition) ∧
        ∀ p ∈ t.inputs, p.isLeftOut t.stdout = false → p.position.isPosition := by
    rw [Wdl.Task.positions, List.forall_mem_append, List.forall_mem_map, List.forall_mem_map]
    refine and_congr List.forall_mem_map ⟨?_, ?_⟩
    · intro h p hp ho
      exact h p.toInput ((t.mem_mentioned_iff base _ _).mpr ⟨p, hp, ho, rfl⟩)
    · intro h i hi
      obtain ⟨p, hp, ho, rfl⟩ := (t.mem_mentioned_iff base _ i).mp hi
      exact h p hp ho
  rw [Wdl.Task.exists_text_iff, Wdl.Task.exists_commandSection_iff, Wdl.Task.exists_parts_iff,
    hflags, hpositions]
  constructor
  · rintro ⟨-, ⟨hf, -⟩, ⟨hb, hi⟩, -, hbase⟩
    exact ⟨fun b hm => ⟨hf b hm, hb b hm⟩, hbase, hi⟩
  · rintro ⟨hb, hbase, hi⟩
    exact ⟨exists_declarations t.inputs, ⟨fun b hm => (hb b hm).1, hnamed⟩,
      ⟨fun b hm => (hb b hm).2, hi⟩, hsettings, hbase⟩

/-- Arguments that are accepted are bindings, all of them. -/
theorem exists_bindings_of_mapM {args : List Argument} {result : List Wdl.Argument}
    (h : (args.mapM fun a => Wdl.Argument.ofRecord a.toRecord) = .ok result) :
    ∃ bindings : List Binding,
      args = bindings.map .bound ∧ result = bindings.map (·.toArgument) := by
  induction args generalizing result with
  | nil =>
    cases h
    exact ⟨[], rfl, rfl⟩
  | cons a rest ih =>
    rw [List.mapM_cons] at h
    obtain ⟨first, hf, h⟩ := bind_eq_ok_iff.mp h
    obtain ⟨more, hm, h⟩ := bind_eq_ok_iff.mp h
    obtain ⟨bindings, rfl, rfl⟩ := ih hm
    cases h
    cases a with
    | plain v =>
      rw [Wdl.Argument.ofRecord_plain] at hf
      cases hf
    | bound b =>
      rw [Wdl.Argument.ofRecord_bound] at hf
      cases hf
      exact ⟨b :: bindings, rfl, rfl⟩

/-- The record of a tool is accepted only as its task. -/
theorem Tool.eq_toTask_of_ofRecord {t : Tool} {task : Wdl.Task}
    (h : Wdl.Task.ofRecord t.toRecord = .ok task) :
    ∃ base, ∃ bindings : List Binding, Wdl.Command.readBase t.baseCommand = .ok base ∧
      t.arguments = bindings.map .bound ∧ task = t.toTask base (bindings.map (·.toArgument)) := by
  rw [Wdl.Task.ofRecord_toRecord] at h
  obtain ⟨base, hbase, h⟩ := bind_eq_ok_iff.mp h
  obtain ⟨arguments, harguments, h⟩ := bind_eq_ok_iff.mp h
  obtain ⟨bindings, hbindings, rfl⟩ := exists_bindings_of_mapM harguments
  exact ⟨base, bindings, hbase, hbindings, (Except.ok.inj h).symm⟩

/-- The tools that have a text. -/
theorem Tool.exists_wdl_iff (t : Tool) :
    (∃ text, t.wdl = .ok text) ↔
      (∀ a ∈ t.arguments, ∃ b, a = .bound b ∧ b.flag.isNull ∧ b.position.isPosition) ∧
        isCommand t.baseCommand ∧
        ∀ p ∈ t.inputs, p.isLeftOut t.stdout = false → p.position.isPosition := by
  rw [← exists_readBase_iff]
  constructor
  · rintro ⟨text, h⟩
    obtain ⟨task, ht, h⟩ := bind_eq_ok_iff.mp h
    obtain ⟨base, bindings, hb, hargs, rfl⟩ := Tool.eq_toTask_of_ofRecord ht
    obtain ⟨hbind, hbase, hin⟩ := (t.exists_toTask_text_iff base bindings).mp ⟨text, h⟩
    refine ⟨?_, ⟨base, hb, hbase⟩, hin⟩
    rw [hargs, List.forall_mem_map]
    exact fun b hm => ⟨b, rfl, hbind b hm⟩
  · rintro ⟨hargs, ⟨base, hb, hbase⟩, hin⟩
    have haccept : ∀ a ∈ t.arguments, ∃ y, Wdl.Argument.ofRecord a.toRecord = .ok y := by
      intro a ha
      obtain ⟨b, rfl, -⟩ := hargs a ha
      exact ⟨_, Wdl.Argument.ofRecord_bound b⟩
    obtain ⟨arguments, ha⟩ := (exists_mapM_eq_ok_iff _ _).mpr haccept
    obtain ⟨bindings, hb', rfl⟩ := exists_bindings_of_mapM ha
    rw [hb', List.forall_mem_map] at hargs
    have hbind : ∀ b ∈ bindings, b.flag.isNull ∧ b.position.isPosition := by
      intro b hm
      obtain ⟨_, ⟨⟩, h⟩ := hargs b hm
      exact h
    obtain ⟨text, htext⟩ := (t.exists_toTask_text_iff base bindings).mpr ⟨hbind, hbase, hin⟩
    refine ⟨text, ?_⟩
    rw [Tool.wdl, Wdl.Task.ofRecord_toRecord, hb, ok_bind, ha]
    exact htext

/-- What a tool must hold to be converted; `source` is its place in the document. -/
structure Tool.Convertible (source : Value) (t : Tool) : Prop where
  noText : ∀ v, source.get "arguments" = .ok v → holdsText v = false
  noFlag : ∀ b, .bound b ∈ t.arguments → b.flag = .null
  command : ∃ v, source.get "baseCommand" = .ok v ∧ isCommand v
  argumentPosition : ∀ b, .bound b ∈ t.arguments → b.position.isPosition
  inputPosition : ∀ p ∈ t.inputs, p.isLeftOut t.stdout = false → p.position.isPosition

theorem Tool.exists_wdl_iff_convertible {ws : Workspace} {bound : Nat} {sourceDir : Value}
    {fields : List (String × Value)} {t : Tool}
    (h : (Tool.read ws bound sourceDir (.mapping fields)).outcome = .ok t) :
    (∃ text, t.wdl = .ok text) ↔ t.Convertible (.mapping fields) := by
  obtain ⟨-, hargs, hbase, -⟩ := Tool.read_eq_ok_iff.mp h
  have hplain := Argument.exists_plain_readOf_iff hargs
  rw [t.exists_wdl_iff]
  constructor
  · rintro ⟨hall, hcommand, hinputs⟩
    have hbound : ∀ b, .bound b ∈ t.arguments → b.flag.isNull ∧ b.position.isPosition := by
      intro b hb
      obtain ⟨_, ⟨⟩, hb⟩ := hall _ hb
      exact hb
    refine ⟨?_, fun b hb => Value.isNull_iff.mp (hbound b hb).1, ⟨_, hbase, hcommand⟩,
      fun b hb => (hbound b hb).2, hinputs⟩
    intro v hv
    cases hh : holdsText v with
    | false => rfl
    | true =>
      obtain ⟨a, ha⟩ := hplain.mpr ⟨v, hv, hh⟩
      obtain ⟨b, hb, -⟩ := hall _ ha
      cases hb
  · rintro ⟨htext, hflag, ⟨v, hv, hcommand⟩, hposition, hinputs⟩
    cases hbase.symm.trans hv
    refine ⟨?_, hcommand, hinputs⟩
    intro a ha
    cases a with
    | plain a =>
      obtain ⟨v, hv, hh⟩ := hplain.mp ⟨a, ha⟩
      rw [htext v hv] at hh
      cases hh
    | bound b => exact ⟨b, rfl, Value.isNull_iff.mpr (hflag b ha), hposition b ha⟩

theorem Tool.document_wdl_iff (t : Tool) {texts : List String} :
    Document.wdl ⟨some [t], none⟩ = .ok texts ↔ ∃ text, t.wdl = .ok text ∧ texts = [text] := by
  have h : Document.wdl ⟨some [t], none⟩ = t.wdl >>= fun text => .ok [text] := by
    simp [Document.wdl, pure_eq_ok]
  rw [h, bind_eq_ok_iff]
  simp only [Except.ok.injEq, eq_comm]

end Cwl

namespace CommandLine

variable {ws : Workspace} {bound : Nat} {validator : Validator} {words : List String}
  {path : String}

theorem run_failed_of_no_wdl {tools : List Cwl.Tool} {workflow : Option Cwl.Workflow}
    (hwords : read words = .ok (.convert ⟨path, .wdl, false⟩))
    (hread : (Cwl.Document.read ws bound path).outcome = .ok ⟨some tools, workflow⟩)
    (hn : ¬∃ texts, Cwl.Document.wdl ⟨some tools, workflow⟩ = .ok texts) :
    ∃ fault, run ws bound validator words =
      ⟨.failed fault, "", "", [], (Cwl.Document.read ws bound path).log⟩ := by
  rw [run_of_read hwords hread]
  split
  next texts htexts => exact absurd ⟨texts, documentTexts_eq_ok_iff.mp htexts⟩ hn
  next fault _ => exact ⟨fault, rfl⟩

/-- For a file that holds a tool and could be read, a run with default options prints the text of
the tool if the tool is convertible, and fails without printing anything if it is not. -/
theorem run_prints_tool_iff_convertible {fields : List (String × Value)}
    {document : Cwl.Document} (hwords : read words = .ok (.convert ⟨path, .wdl, false⟩))
    (hfile : ws.read path = .ok (.mapping fields))
    (hclass : fields.lookup "class" = some (.str "CommandLineTool"))
    (hread : (Cwl.Document.read ws bound path).outcome = .ok document) :
    ∃ tool, document = ⟨some [tool], none⟩ ∧
      ((∃ text, tool.wdl = .ok text ∧ run ws bound validator words =
        ⟨.returned, text ++ "\n", "", [], (Cwl.Document.read ws bound path).log⟩) ↔
          tool.Convertible (.mapping fields)) ∧
      (¬tool.Convertible (.mapping fields) → ∃ fault, run ws bound validator words =
        ⟨.failed fault, "", "", [], (Cwl.Document.read ws bound path).log⟩) := by
  obtain ⟨tool, depth, rfl, htool⟩ := Cwl.Document.read_tool_eq_ok hfile hclass hread
  refine ⟨tool, rfl, ?_, ?_⟩
  · rw [← Cwl.Tool.exists_wdl_iff_convertible htool]
    constructor
    · rintro ⟨text, htext, -⟩
      exact ⟨text, htext⟩
    · rintro ⟨text, htext⟩
      have hdoc : Cwl.Document.wdl ⟨some [tool], none⟩ = .ok [text] :=
        tool.document_wdl_iff.mpr ⟨text, htext, rfl⟩
      refine ⟨text, htext, ?_⟩
      rw [run_eq_returned_of_wdl hwords hread hdoc, String.intercalate_singleton]
  · intro hn
    apply run_failed_of_no_wdl hwords hread
    rintro ⟨texts, htexts⟩
    obtain ⟨text, htext, -⟩ := tool.document_wdl_iff.mp htexts
    exact hn ((Cwl.Tool.exists_wdl_iff_convertible htool).mp ⟨text, htext⟩)

def toolFields : List (String × Value) :=
  [("class", .str "CommandLineTool"), ("id", .str "#count"),
   ("baseCommand", .list [.str "sort", .str "-u"]),
   ("arguments", .list [.mapping [("valueFrom", .str "-r"), ("position", .int 1)]]),
   ("inputs", .list [
     .mapping [("id", .str "#lines"), ("type", .str "File"),
       ("inputBinding", .mapping [("prefix", .str "-i"), ("position", .bool true)])],
     .mapping [("id", .str "#fast"), ("type", .str "boolean"),
       ("inputBinding", .mapping [("position", .str "last")])]]),
   ("outputs", .list [])]

def toolSample : Workspace := ⟨[(["t.cwl"], .mapping toolFields)], []⟩

def sampleTool : Cwl.Tool where
  name := "count"
  baseCommand := .list [.str "sort", .str "-u"]
  arguments := [.bound ⟨.null, .int 1, .null, .str "-r"⟩]
  inputs := [⟨"lines", .single .file, true, .str "-i", .bool true, .null, none⟩,
    ⟨"fast", .single .boolean, true, .null, .str "last", .null, none⟩]
  outputs := []
  requirements := []
  stdin := none
  stdout := none

theorem run_toolSample : sampleTool.Convertible (.mapping toolFields) ∧ ∃ text,
    run toolSample 1 (fun _ text => .ok text) ["t.cwl"] =
      ⟨.returned, text ++ "\n", "", [], []⟩ := by
  obtain ⟨tool, hdocument, hprints, -⟩ := @run_prints_tool_iff_convertible toolSample 1
    (fun _ text => .ok text) ["t.cwl"] "t.cwl" toolFields ⟨some [sampleTool], none⟩ rfl rfl rfl rfl
  cases hdocument
  have hconvertible : sampleTool.Convertible (.mapping toolFields) := by
    refine ⟨?_, ?_, ⟨_, rfl, rfl⟩, ?_, ?_⟩
    · rintro v ⟨⟩
      rfl
    · intro b hb
      cases List.mem_singleton.mp hb
      rfl
    · intro b hb
      cases List.mem_singleton.mp hb
      rfl
    · intro p hp hkept
      rcases List.mem_pair.mp hp with rfl | rfl
      · rfl
      · cases hkept
  obtain ⟨text, -, hrun⟩ := hprints.mpr hconvertible
  exact ⟨hconvertible, text, hrun⟩

end CommandLine

end FlowConverter
