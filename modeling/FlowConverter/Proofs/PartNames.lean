import FlowConverter.Proofs.RecordShape
import FlowConverter.Proofs.RunFiles

/-! The names of tools and workflows. A reserved word gets an ending, wherever it was taken from, but
spaces and points are replaced in labels and ids alone. Main statement: no name in a document that
can be read is a reserved word, and a name has a space or a point exactly if it is taken from a base
command with one in its words, or from a file with one in its name. -/
namespace FlowConverter

theorem Value.eq_str_of_asText {v : Value} {s : String} (h : v.asText = .ok s) : v = .str s := by
  cases v with
  | str t => rw [Except.ok.inj h]
  | _ => cases h

/-- Values that join to a text are texts. -/
theorem Value.join_eq_ok {sep s : String} {v : Value} (h : v.join sep = .ok s) :
    ∃ words : List String, v.items = .ok (words.map .str) ∧ s = sep.intercalate words := by
  obtain ⟨items, hitems, h⟩ := bind_eq_ok_iff.mp h
  obtain ⟨words, hwords, h⟩ := bind_eq_ok_iff.mp h
  have htexts : words.map .str = items.map id :=
    map_eq_map_of_mapM hwords fun _ _ hitem => (eq_str_of_asText hitem).symm
  rw [List.map_id] at htexts
  exact ⟨words, htexts ▸ hitems, (Except.ok.inj h).symm⟩

namespace Cwl

/-! ### Names without spaces and points -/

def Unbroken (s : String) : Prop := ' ' ∉ s.toList ∧ '.' ∉ s.toList

/-- A name that can be declared, as far as spaces, points and reserved words go. -/
structure UsableName (name : String) : Prop where
  unbroken : Unbroken name
  free : name ∉ reservedWords

theorem unbroken_append_iff {s t : String} : Unbroken (s ++ t) ↔ Unbroken s ∧ Unbroken t := by
  simp only [Unbroken, String.toList_append, List.mem_append, not_or]
  exact and_and_and_comm

theorem unbroken_intercalate_iff {words : List String} :
    Unbroken ("_".intercalate words) ↔ ∀ word ∈ words, Unbroken word := by
  induction words with
  | nil => simp [Unbroken]
  | cons word rest ih =>
    rw [List.forall_mem_cons, ← ih]
    cases rest with
    | nil => simp [Unbroken]
    | cons next rest =>
      have hline : Unbroken "_" := ⟨by decide, by decide⟩
      rw [String.intercalate_cons_cons, unbroken_append_iff, unbroken_append_iff]
      simp [hline]

theorem unbroken_underscored {v : Value} {s : String} (h : underscored v = .ok s) : Unbroken s := by
  obtain ⟨text, -, h⟩ := bind_eq_ok_iff.mp h
  obtain rfl := Except.ok.inj h
  have hreplaced : ∀ c, (c == ' ' || c == '.') = true →
      c ∉ (Text.replaceChars (fun c => c == ' ' || c == '.') '_' text).toList := by
    intro c hc hmem
    rw [Text.replaceChars, String.toList_ofList] at hmem
    obtain ⟨old, -, hold⟩ := List.mem_map.mp hmem
    split at hold
    next =>
      subst hold
      cases hc
    next hkept => exact hkept (hold ▸ hc)
  exact ⟨hreplaced ' ' rfl, hreplaced '.' rfl⟩

theorem Unbroken.strip {s : String} (h : Unbroken s) (m : Char) : Unbroken (Text.strip m s) := by
  have hsub : (Text.strip m s).toList.Sublist s.toList := by
    rw [Text.strip, String.toList_ofList, Text.stripChars]
    have hinner := (List.dropWhile_sublist (l := (s.toList.dropWhile (· == m)).reverse) (· == m)).reverse
    rw [List.reverse_reverse] at hinner
    exact hinner.trans (List.dropWhile_sublist _)
  exact ⟨fun hmem => h.1 (hsub.subset hmem), fun hmem => h.2 (hsub.subset hmem)⟩

/-- The ending makes a free name of a reserved word, and brings no space and no point. -/
theorem safeName_spec (name : String) :
    safeName name ∉ reservedWords ∧ (Unbroken (safeName name) ↔ Unbroken name) := by
  have hwords : ∀ word ∈ reservedWords, word ++ "_variable" ∉ reservedWords ∧
      ' ' ∉ word.toList ∧ '.' ∉ word.toList := by decide
  have hending : Unbroken "_variable" := ⟨by decide, by decide⟩
  rw [safeName]
  split
  next hreserved =>
    obtain ⟨hfree, hspace, hpoint⟩ := hwords name (List.contains_iff_mem.mp hreserved)
    have hname : Unbroken name := ⟨hspace, hpoint⟩
    exact ⟨hfree, by simp [unbroken_append_iff, hname, hending]⟩
  next hfree => exact ⟨fun hmem => hfree (List.contains_iff_mem.mpr hmem), Iff.rfl⟩

theorem usableName_safeName_iff {name : String} : UsableName (safeName name) ↔ Unbroken name := by
  obtain ⟨hfree, hunbroken⟩ := safeName_spec name
  exact ⟨fun h => hunbroken.mp h.unbroken, fun h => ⟨hunbroken.mpr h, hfree⟩⟩

/-! ### What a part is named after -/

def Labelled (part : Value) : Prop :=
  (∃ v, part.get "label" = .ok v) ∨ ∃ v, part.get "id" = .ok v

/-- What holds of the name of a part: it is never a reserved word, and it is usable if the part has
a label or an id, and otherwise if and only if `other` says so. -/
structure Named (part : Value) (other : Prop) (name : String) : Prop where
  free : name ∉ reservedWords
  usable_iff : UsableName name ↔ Labelled part ∨ other

theorem Labelled.not_without {part : Value} (h : Labelled part)
    (hlabel : part.has "label" = .ok false) (hid : part.has "id" = .ok false) : False := by
  rcases h with ⟨v, hv⟩ | ⟨v, hv⟩
  · cases hlabel.symm.trans (Value.has_of_get hv)
  · cases hid.symm.trans (Value.has_of_get hv)

theorem named_of_partName {part : Value} {other : Except Fault String} {name : String} {P : Prop}
    (h : partName part other = .ok name)
    (hother : ∀ chosen, other = .ok chosen → (Unbroken chosen ↔ P)) : Named part P name := by
  obtain ⟨chosen, rfl, hchosen⟩ := partName_eq_ok h
  refine ⟨(safeName_spec chosen).1, ?_⟩
  rw [usableName_safeName_iff]
  rcases hchosen with ⟨v, hv, hunderscored⟩ | ⟨v, s, hv, hs, rfl⟩ | ⟨hlabel, hid, hchosen⟩
  · exact iff_of_true (unbroken_underscored hunderscored) (.inl (.inl ⟨v, hv⟩))
  · exact iff_of_true ((unbroken_underscored hs).strip '#') (.inl (.inr ⟨v, hv⟩))
  · rw [hother chosen hchosen, or_iff_right fun hlabelled => hlabelled.not_without hlabel hid]

/-- The words of the base command, after which a tool without label and id is named. -/
def BaseWords (part : Value) (words : List String) : Prop :=
  ∃ base, part.get "baseCommand" = .ok base ∧ base.items = .ok (words.map .str)

theorem Tool.named_of_read {ws : Workspace} {bound : Nat} {sourceDir part : Value} {t : Tool}
    (h : (Tool.read ws bound sourceDir part).outcome = .ok t) :
    Named part (∃ words, BaseWords part words ∧ ∀ word ∈ words, Unbroken word) t.name := by
  refine named_of_partName (Tool.read_eq_ok_iff.mp h).1 fun chosen hchosen => ?_
  obtain ⟨base, hbase, hjoin⟩ := bind_eq_ok_iff.mp hchosen
  obtain ⟨words, hwords, rfl⟩ := Value.join_eq_ok hjoin
  rw [unbroken_intercalate_iff]
  constructor
  · intro hunbroken
    exact ⟨words, ⟨base, hbase, hwords⟩, hunbroken⟩
  · rintro ⟨words', ⟨base', hbase', hwords'⟩, hunbroken⟩
    cases hbase.symm.trans hbase'
    have hsame : words = words' :=
      List.map_injective_iff.mpr (fun _ _ => Value.str.inj)
        (Except.ok.inj (hwords.symm.trans hwords'))
    exact hsame ▸ hunbroken

/-- A workflow without label and id is named after its file. -/
def WorkflowNamed (path : String) (part : Value) (w : Workflow) : Prop :=
  ∃ base label, Path.IsBaseName path.toList base ∧ Text.Without [".yaml".toList] base label ∧
    Named part (Unbroken (String.ofList label)) w.name

theorem Workflow.named_of_read {ws : Workspace} {bound : Nat}
    {inner : String → Report (Option (List Tool))} {sourceDir part : Value} {path : String}
    {w : Workflow}
    (h : (Workflow.read ws bound inner sourceDir (fileLabel path) part).outcome = .ok w) :
    WorkflowNamed path part w := by
  obtain ⟨base, label, hbase, hlabel, hfile⟩ :=
    @Path.exists_without_baseName [".yaml"] (by decide) path
  refine ⟨base, label, hbase, hlabel, ?_⟩
  refine named_of_partName (Workflow.read_eq_ok h).1 fun chosen hchosen => ?_
  rw [← Except.ok.inj hchosen, fileLabel, hfile]

/-! ### All names of a document -/

/-- The tools are those of the document, in its order, and each is named after its own part. -/
def ToolsNamed (document : Value) (tools : Option (List Tool)) : Prop :=
  Option.Rel (List.Forall₂ fun part (t : Tool) =>
    Named part (∃ words, BaseWords part words ∧ ∀ word ∈ words, Unbroken word) t.name)
    (toolParts? document) tools

theorem ToolsNamed.only {document part : Value} {t : Tool} (h : ToolsNamed document (some [t]))
    (hpart : toolParts? document = some [part]) :
    Named part (∃ words, BaseWords part words ∧ ∀ word ∈ words, Unbroken word) t.name := by
  rw [ToolsNamed, hpart] at h
  cases h with
  | some htools => exact (List.forall₂_cons.mp htools).1

section

variable {ws : Workspace} {bound : Nat} {path : String} {d : Document}

theorem Document.toolsNamed_of_read (h : (Document.read ws bound path).outcome = .ok d) :
    ∃ source, ws.read path = .ok source ∧ ToolsNamed source d.tasks := by
  obtain ⟨depth, source, -, hsource, h⟩ := Document.read_eq_ok h
  have htasks := Document.tasks_of_ofValue h
  refine ⟨source, hsource, ?_⟩
  rw [ToolsNamed]
  generalize toolParts? source = parts at htasks
  generalize d.tasks = tools at htasks
  cases htasks with
  | none => exact .none
  | some htools => exact .some (htools.imp fun _ _ => Tool.named_of_read)

theorem Document.workflow_of_ofValue {tool : Value → Report Tool}
    {workflow : Value → Report Workflow} {source : Value} {w : Workflow}
    (h : (Document.ofValue tool workflow source).outcome = .ok d) (hw : d.workflow = some w) :
    ∃ part, workflowPart? source = some part ∧ (workflow part).outcome = .ok w := by
  rcases Document.ofValue_eq_ok h with ⟨parts, tools, first, rest, rfl, -, hworkflows, rfl⟩ |
    ⟨fields, t, rfl, -, -, rfl⟩ | ⟨fields, first, rfl, hclass, hworkflow, rfl⟩
  · cases hw
    obtain ⟨part, others, hpart, -, hparts⟩ :=
      List.forall₂_cons_right_iff.mp (readParts_eq_ok hworkflows)
    refine ⟨part, ?_, hpart⟩
    rw [workflowPart?, ← List.head?_filter, hparts]
    rfl
  · cases hw
  · cases hw
    refine ⟨.mapping fields, ?_, hworkflow⟩
    rw [workflowPart?, if_pos (isOfClass_mapping_iff.mpr hclass)]
    simp

/-- Tools that a step has come from the file that it imports. -/
theorem Step.toolsNamed_of_read {depth : Nat} {sourceDir step : Value} {s : Step}
    {tools : List Tool} (h : (Step.read ws (toolsOfFile ws depth) sourceDir step).outcome = .ok s)
    (htools : s.definition = some tools) :
    ∃ run file document, s.importStatement = some ("import " ++ run) ∧
      ws.locate sourceDir run = .ok (some file) ∧ ws.read file = .ok document ∧
      ToolsNamed document (some tools) := by
  obtain ⟨run, -, -, himport, -, -, hdefinition⟩ := Step.read_eq_ok h
  rw [htools, readDefinition] at hdefinition
  split at hdefinition
  next hruns =>
    rw [Logged.outcome_bind, Logged.outcome_lift] at hdefinition
    obtain ⟨found, hfound, hdefinition⟩ := bind_eq_ok_iff.mp hdefinition
    cases found with
    | none => cases hdefinition
    | some file =>
      obtain ⟨d, hd, hdefinition⟩ := bind_eq_ok_iff.mp (Logged.outcome_bind _ _ ▸ hdefinition)
      obtain ⟨document, hdocument, hnamed⟩ := Document.toolsNamed_of_read hd
      rw [Except.ok.inj hdefinition] at hnamed
      rw [if_pos hruns] at himport
      exact ⟨run, file, document, himport, hfound, hdocument, hnamed⟩
  next => cases hdefinition

end

/-- No name is a reserved word, whether it is that of a tool or of the workflow of a document, or of
a tool that a step has taken from another file. A name has no space and no point if its part has a
label or an id, and otherwise exactly if the words of the base command have none, or for a workflow
the name of its file. -/
theorem Document.names_usable_iff {ws : Workspace} {bound : Nat} {path : String} {d : Document}
    (h : (Document.read ws bound path).outcome = .ok d) :
    ∃ source, ws.read path = .ok source ∧ ToolsNamed source d.tasks ∧
      ∀ w, d.workflow = some w →
        (∃ part, workflowPart? source = some part ∧ WorkflowNamed path part w) ∧
        ∀ s ∈ w.steps, ∀ tools, s.definition = some tools →
          ∃ run file document, s.importStatement = some ("import " ++ run) ∧
            ws.locate (.str (ws.directoryOf path)) run = .ok (some file) ∧
            ws.read file = .ok document ∧ ToolsNamed document (some tools) := by
  obtain ⟨source, hsource, htools⟩ := Document.toolsNamed_of_read h
  obtain ⟨depth, source', -, hsource', hdocument⟩ := Document.read_eq_ok h
  cases hsource.symm.trans hsource'
  refine ⟨source, hsource, htools, ?_⟩
  intro w hw
  obtain ⟨part, hpart, hread⟩ := Document.workflow_of_ofValue hdocument hw
  refine ⟨⟨part, hpart, Workflow.named_of_read hread⟩, ?_⟩
  intro s hs tools hdefinition
  obtain ⟨-, -, -, steps, items, -, -, hsteps⟩ := Workflow.read_eq_ok hread
  obtain ⟨item, -, hitem⟩ := exists_of_mem_mapM hsteps hs
  exact Step.toolsNamed_of_read hitem hdefinition

def labelledTool : Value :=
  .mapping [("class", .str "CommandLineTool"), ("label", .str "sort . x"),
    ("baseCommand", .str "sort"), ("inputs", .list []), ("outputs", .list [])]

def commandTool (words : List String) : Value :=
  .mapping [("class", .str "CommandLineTool"), ("baseCommand", .list (words.map .str)),
    ("inputs", .list []), ("outputs", .list [])]

def namedSample : Workspace where
  files := [
    (["p.yaml"], .list [labelledTool, .mapping [("class", .str "Workflow"), ("inputs", .list []),
      ("outputs", .list []), ("steps", .list [runningStep "t.cwl"])]]),
    (["t.cwl"], commandTool ["input"])]
  directory := []

theorem Document.names_usable_namedSample : ∃ d tool w s nested base label,
    (Document.read namedSample 2 "p.yaml").outcome = .ok d ∧ d.tasks = some [tool] ∧
      d.workflow = some w ∧ w.steps = [s] ∧ s.definition = some [nested] ∧
      UsableName tool.name ∧ UsableName nested.name ∧ Path.IsBaseName "p.yaml".toList base ∧
      Text.Without [".yaml".toList] base label ∧
      (UsableName w.name ↔ Unbroken (String.ofList label)) := by
  obtain ⟨source, hsource, htools, hworkflow⟩ :=
    @Document.names_usable_iff namedSample 2 "p.yaml" _ rfl
  cases hsource
  obtain ⟨⟨part, hpart, base, label, hbase, hlabel, hname⟩, hsteps⟩ := hworkflow _ rfl
  obtain ⟨run, file, document, himport, hfile, hdocument, hnested⟩ :=
    hsteps _ (List.mem_singleton_self _) _ rfl
  have hrun : "import " ++ "t.cwl" = "import " ++ run := Option.some.inj himport
  obtain rfl := (String.append_right_inj _).mp hrun
  cases hfile
  cases hdocument
  have htool := @ToolsNamed.only _ labelledTool _ htools rfl
  have hcommand := @ToolsNamed.only _ (commandTool ["input"]) _ hnested rfl
  have hunlabelled : ¬ Labelled part := by
    cases hpart
    rintro (⟨v, hv⟩ | ⟨v, hv⟩)
    · cases hv
    · cases hv
  refine ⟨_, _, _, _, _, base, label, rfl, rfl, rfl, rfl, rfl, ?_, ?_, hbase, hlabel, ?_⟩
  · exact htool.usable_iff.mpr (.inl (.inl ⟨_, rfl⟩))
  · refine hcommand.usable_iff.mpr (.inr ⟨["input"], ⟨_, rfl, rfl⟩, ?_⟩)
    rw [List.forall_mem_singleton]
    exact ⟨by decide, by decide⟩
  · rw [hname.usable_iff, or_iff_right hunlabelled]

def brokenSample : Workspace where
  files := [(["t.cwl"], commandTool ["java", "-jar", "alea.jar"])]
  directory := []

/-- The name is made of the words as they are. -/
theorem Document.name_broken_brokenSample :
    ∃ tool, (∀ n, (Document.read brokenSample (n + 1) "t.cwl").outcome = .ok ⟨some [tool], none⟩) ∧
      tool.name = "java_-jar_alea.jar" ∧ ¬ UsableName tool.name := by
  refine ⟨_, fun _ => rfl, rfl, ?_⟩
  rintro ⟨⟨-, hpoint⟩, -⟩
  exact hpoint (by decide)

end Cwl

end FlowConverter
