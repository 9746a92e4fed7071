import FlowConverter.Proofs.GeneratorCalls
import FlowConverter.Proofs.Reading
import FlowConverter.Proofs.TaskBraces

/-! Braces in the text of a workflow. Calls, scatters and definitions close what they open; the
outputs of a workflow open a brace that nothing closes. Main statement: if no text of a record
holds a brace, the text of its workflow leaves as many braces open as there are workflows with
outputs in it, at any depth of nesting. -/
namespace FlowConverter

/-! ### Values without braces -/

namespace Value

namespace AllTexts

variable {v w : Value}

theorem of_char {s : String} (h : (str s).Braceless) {c : Char} (hc : c ∈ s.toList) :
    (str c.toString).Braceless := by
  intro t ht x hx
  rw [List.mem_singleton.mp ht] at hx
  rw [show x = c by simpa using hx]
  exact h s List.mem_cons_self c hc

theorem items (h : v.Braceless) {elements : List Value} (he : v.items = .ok elements) :
    ∀ w ∈ elements, w.Braceless := by
  intro w hw
  cases v with
  | list items =>
    cases he
    exact allTexts_list_iff.mp h w hw
  | str s =>
    cases he
    obtain ⟨c, hc, rfl⟩ := List.mem_map.mp hw
    exact h.of_char hc
  | mapping fields =>
    cases he
    obtain ⟨f, hf, rfl⟩ := List.mem_map.mp hw
    exact h.of_key hf
  | _ => cases he

theorem getAt (h : v.Braceless) {i : Nat} (hw : v.getAt i = .ok w) : w.Braceless := by
  cases v with
  | list items =>
    simp only [Value.getAt] at hw
    split at hw
    next u hu =>
      cases hw
      exact allTexts_list_iff.mp h _ (List.mem_of_getElem? hu)
    next => cases hw
  | str s =>
    simp only [Value.getAt] at hw
    split at hw
    next c hc =>
      cases hw
      exact h.of_char (List.mem_of_getElem? hc)
    next => cases hw
  | _ => cases hw

end AllTexts

end Value

namespace Wdl

open Text

/-! ### Records without braces -/

section

variable {r : Value} (hr : r.Braceless)
include hr

theorem forall_of_ofRecords {α : Type} {f : Value → Except Fault α} {Q : α → Prop} {xs : List α}
    (h : ofRecords f r = .ok xs) (hf : ∀ {v}, v.Braceless → ∀ {x}, f v = .ok x → Q x) :
    ∀ x ∈ xs, Q x := by
  obtain ⟨items, hitems, h⟩ := bind_eq_ok_iff.mp h
  intro x hx
  obtain ⟨v, hv, hfv⟩ := exists_of_mem_mapM h hx
  exact hf (hr.items hitems v hv) hfv

theorem Input.balanced_of_record {i : Input} (h : Input.ofRecord r = .ok i) : i.Balanced := by
  simp only [Input.ofRecord, bind_eq_ok_iff, pure_eq_ok, Except.ok.injEq] at h
  obtain ⟨_, hname, _, hflag, _, -, _, hseparator, _, hdefault, _, htype, _, -, _, -, rfl⟩ := h
  exact ⟨(hr.get hname).opens_text, (hr.get hflag).opens_text, (hr.get hseparator).opens_text,
    (hr.get hdefault).opens_text, (hr.get htype).opens_text⟩

theorem Output.balanced_of_record {o : Output} (h : Output.ofRecord r = .ok o) : o.Balanced := by
  simp only [Output.ofRecord, bind_eq_ok_iff, pure_eq_ok, Except.ok.injEq] at h
  obtain ⟨_, hname, _, hsource, _, htype, _, -, rfl⟩ := h
  exact ⟨(hr.get hname).opens_text, (hr.get hsource).opens_text, (hr.get htype).opens_text⟩

theorem Argument.balanced_of_record {a : Argument} (h : Argument.ofRecord r = .ok a) :
    a.Balanced := by
  simp only [Argument.ofRecord, bind_eq_ok_iff, pure_eq_ok, Except.ok.injEq] at h
  obtain ⟨_, hflag, _, -, _, hvalue, rfl⟩ := h
  exact ⟨(hr.get hflag).opens_text, (hr.get hvalue).opens_text⟩

theorem opens_setting {s : String} (h : setting r = .ok s) : Opens 0 s := by
  obtain ⟨name, hname, h⟩ := bind_eq_ok_iff.mp h
  obtain ⟨value, hvalue, h⟩ := bind_eq_ok_iff.mp h
  cases h
  exact (((hr.getAt hname).opens_text.beside fun _ => rfl).beside
    (hr.getAt hvalue).opens_text).beside fun _ => rfl

theorem Requirement.balanced_of_record {q : Requirement} (h : Requirement.ofRecord r = .ok q) :
    q.Balanced := by
  simp only [Requirement.ofRecord, bind_eq_ok_iff, pure_eq_ok, Except.ok.injEq] at h
  obtain ⟨kind, hkind, value, hvalue, rfl⟩ := h
  refine ⟨(hr.get hkind).opens_text, (hr.get hvalue).opens_text, ?_⟩
  intro v hv
  rw [Requirement.settings] at hv
  split at hv
  · obtain ⟨items, hitems, hv⟩ := bind_eq_ok_iff.mp hv
    obtain ⟨texts, htexts, hv⟩ := bind_eq_ok_iff.mp hv
    cases hv
    refine .intercalate rfl ?_
    intro text htext
    obtain ⟨item, hitem, hset⟩ := exists_of_mem_mapM htexts htext
    exact opens_setting ((hr.get hvalue).items hitems item hitem) hset
  · cases hv

theorem Command.opens_readBase {base : Value} (h : Command.readBase r = .ok base) :
    Opens 0 base.text := by
  cases r with
  | list items =>
    obtain ⟨s, hs, h⟩ := bind_eq_ok_iff.mp h
    cases h
    exact opens_join rfl (fun v hv => (Value.allTexts_list_iff.mp hr v hv).opens_text) hs
  | _ =>
    cases h
    exact hr.opens_text

theorem Task.balanced_of_record {t : Task} (h : Task.ofRecord r = .ok t) : t.Balanced := by
  simp only [Task.ofRecord, Command.ofParts, bind_eq_ok_iff, pure_eq_ok, Except.ok.injEq] at h
  obtain ⟨_, hname, _, hbase, _, harguments, _, hinputs, _,
    ⟨_, hbase', _, harguments', _, hinputs', rfl⟩, _, hins, _, hins', _, houts, _, houts',
    _, hreqs, _, hreqs', _, -, _, hstdout, rfl⟩ := h
  exact {
    name := (hr.get hname).opens_text
    base := Command.opens_readBase (hr.get hbase) hbase'
    arguments := forall_of_ofRecords (hr.get harguments) harguments'
      Argument.balanced_of_record
    commandInputs := forall_of_ofRecords (hr.get hinputs) hinputs'
      Input.balanced_of_record
    inputs := forall_of_ofRecords (hr.get hins) hins' Input.balanced_of_record
    outputs := forall_of_ofRecords (hr.get houts) houts' Output.balanced_of_record
    requirements := forall_of_ofRecords (hr.get hreqs) hreqs'
      Requirement.balanced_of_record
    stdout := (hr.get hstdout).opens_text }

/-- A call whose id, inputs and scatter hold no brace. -/
structure BracelessCall (taskId : Value) (inputs : List StepInput) (scatter : Value) : Prop where
  taskId : taskId.Braceless
  inputs : ∀ i ∈ inputs, i.id.Braceless ∧ i.value.Braceless
  scatter : scatter.Braceless

theorem StepInput.braceless_of_record {i : StepInput} (h : StepInput.ofRecord r = .ok i) :
    i.id.Braceless ∧ i.value.Braceless := by
  simp only [StepInput.ofRecord, bind_eq_ok_iff, pure_eq_ok, Except.ok.injEq] at h
  obtain ⟨_, hid, _, hvalue, rfl⟩ := h
  exact ⟨hr.get hid, hr.get hvalue⟩

theorem Step.braceless_of_record {s : Step} (h : Step.ofRecord r = .ok s) :
    BracelessCall s.taskId s.inputs s.scatter ∧ ∀ t, s.definition = some t → t.Balanced := by
  obtain ⟨taskId, hid, h⟩ := bind_eq_ok_iff.mp h
  obtain ⟨definition, hdefinition, h⟩ := bind_eq_ok_iff.mp h
  split at h
  · simp only [bind_eq_ok_iff, pure_eq_ok, Except.ok.injEq] at h
    obtain ⟨_, rfl, _, -, _, hins, _, hinputs, _, -, _, -, _, hscatter, rfl⟩ := h
    refine ⟨⟨hr.get hid, ?_, hr.getOr (by decide) hscatter⟩, by simp⟩
    exact forall_of_ofRecords (hr.get hins) hinputs StepInput.braceless_of_record
  · simp only [bind_eq_ok_iff, pure_eq_ok, Except.ok.injEq] at h
    obtain ⟨task, htask, _, rfl, _, -, _, hins, _, hinputs, _, -, _, -, _, hscatter, rfl⟩ := h
    refine ⟨⟨hr.get hid, ?_, hr.getOr (by decide) hscatter⟩, ?_⟩
    · exact forall_of_ofRecords (hr.get hins) hinputs StepInput.braceless_of_record
    · rintro t ⟨⟩
      exact Task.balanced_of_record (hr.get hdefinition) htask

end

/-! ### The workflows of a workflow -/

mutual

/-- A workflow and all workflows that it calls, at any depth. -/
def Workflow.tree : Workflow → List Workflow
  | ⟨name, inputs, outputs, steps, subworkflows, requirements⟩ =>
    ⟨name, inputs, outputs, steps, subworkflows, requirements⟩ :: treeOfCalls subworkflows

def treeOfCalls : List (SubCall Workflow) → List Workflow
  | [] => []
  | s :: rest => treeOfCall s ++ treeOfCalls rest

def treeOfCall : SubCall Workflow → List Workflow
  | ⟨_, definition, _, _, _⟩ => definition.tree

end

theorem treeOfCalls_eq (calls : List (SubCall Workflow)) :
    treeOfCalls calls = calls.flatMap (·.definition.tree) := by
  induction calls with
  | nil => rw [treeOfCalls, List.flatMap_nil]
  | cons s rest ih =>
    obtain ⟨taskId, definition, inputs, outputs, scatter⟩ := s
    rw [treeOfCalls, treeOfCall, ih, List.flatMap_cons]

theorem Workflow.tree_eq (w : Workflow) :
    w.tree = w :: w.subworkflows.flatMap (·.definition.tree) := by
  obtain ⟨name, inputs, outputs, steps, subworkflows, requirements⟩ := w
  rw [Workflow.tree, treeOfCalls_eq]

/-- What passes from the workflows that a workflow calls to the workflow itself holds of all. -/
@[elab_as_elim]
theorem Workflow.inductionOnCalls {P : Workflow → Prop} (w : Workflow)
    (step : ∀ w : Workflow, (∀ s ∈ w.subworkflows, P s.definition) → P w) : P w :=
  step w fun s _hs => inductionOnCalls s.definition step
termination_by sizeOf w
decreasing_by
  obtain ⟨name, inputs, outputs, steps, subworkflows, requirements⟩ := w
  have hmem := List.sizeOf_lt_of_mem _hs
  obtain ⟨taskId, definition, ins, outs, scatter⟩ := s
  simp only [Workflow.mk.sizeOf_spec, SubCall.mk.sizeOf_spec] at hmem ⊢
  omega

/-- The values of a workflow hold no brace; nothing is said of the workflows that it calls. -/
structure Workflow.Braceless (w : Workflow) : Prop where
  name : w.name.Braceless
  inputs : ∀ i ∈ w.inputs, i.Balanced
  outputs : ∀ o ∈ w.outputs, o.Balanced
  steps : ∀ s ∈ w.steps, BracelessCall s.taskId s.inputs s.scatter ∧
    ∀ t, s.definition = some t → t.Balanced
  calls : ∀ s ∈ w.subworkflows, BracelessCall s.taskId s.inputs s.scatter

theorem SubCall.braceless_of_record {W : Type} {read : Value → Except Fault W} {Q : W → Prop}
    {r : Value} (hr : r.Braceless) (hread : ∀ {v}, v.Braceless → ∀ {w}, read v = .ok w → Q w)
    {s : SubCall W} (h : SubCall.ofRecord read r = .ok s) :
    BracelessCall s.taskId s.inputs s.scatter ∧ Q s.definition := by
  simp only [SubCall.ofRecord, bind_eq_ok_iff, pure_eq_ok, Except.ok.injEq] at h
  obtain ⟨_, hid, _, hdefinition, _, hdefinition', _, hins, _, hinputs, _, -, _, -, _, hscatter,
    rfl⟩ := h
  refine ⟨⟨hr.get hid, ?_, hr.getOr (by decide) hscatter⟩, ?_⟩
  · exact forall_of_ofRecords (hr.get hins) hinputs StepInput.braceless_of_record
  · exact hread (hr.get hdefinition) hdefinition'

/-- The induction is on the depth to which a record is read. -/
theorem Workflow.braceless_of_recordWithin {depth : Nat} {r : Value} (hr : r.Braceless)
    {w : Workflow} (h : Workflow.ofRecordWithin depth r = .ok w) : ∀ v ∈ w.tree, v.Braceless := by
  induction depth generalizing r w with
  | zero => cases h
  | succ depth ih =>
    simp only [Workflow.ofRecordWithin, bind_eq_ok_iff, pure_eq_ok, Except.ok.injEq] at h
    obtain ⟨_, hname, _, hins, _, hinputs, _, houts, _, houtputs, _, hsteps, _, hsteps', _, hsubs,
      subs, hsubs', _, -, _, -, rfl⟩ := h
    have hcalls := forall_of_ofRecords (hr.getOr (by decide) hsubs) hsubs'
      fun hv => SubCall.braceless_of_record hv ih
    intro v hv
    rw [Workflow.tree_eq, List.mem_cons, List.mem_flatMap] at hv
    rcases hv with rfl | ⟨s, hs, hv⟩
    · exact {
        name := hr.get hname
        inputs := forall_of_ofRecords (hr.get hins) hinputs Input.balanced_of_record
        outputs := forall_of_ofRecords (hr.get houts) houtputs Output.balanced_of_record
        steps := forall_of_ofRecords (hr.get hsteps) hsteps' Step.braceless_of_record
        calls := fun s hs => (hcalls s hs).1 }
    · exact (hcalls s hs).2 v hv

/-! ### Calls -/

theorem filter_linesOf (cs : List Char) :
    (linesOf cs).flatMap (·.filter isBrace) = cs.filter isBrace := by
  induction cs with
  | nil => rfl
  | cons c rest ih =>
    rw [linesOf]
    split
    next h =>
      rw [beq_iff_eq.mp h, List.flatMap_cons, ih]
      rfl
    next =>
      cases hl : linesOf rest with
      | nil =>
        rw [hl] at ih
        rw [List.filter_cons, ← ih]
        cases hc : isBrace c <;> simp [hc]
      | cons l ls =>
        rw [hl, List.flatMap_cons] at ih
        rw [List.filter_cons, ← ih]
        cases hc : isBrace c <;> simp [hc]

/-- Moving the lines of a text in keeps its braces. -/
theorem braces_indented (body : String) :
    braces ("\n".intercalate ((lines body).map fun l => "  " ++ l)) = braces body := by
  have hline : ∀ l : List Char, braces ("  " ++ String.ofList l) = l.filter isBrace := by
    intro l
    simp [braces, isBrace]
  rw [braces_intercalate rfl, lines, List.map_map, List.flatMap_map, braces, ← filter_linesOf]
  simp only [Function.comp, hline]

theorem opens_scatterText {scatter : Value} (hscatter : scatter.Braceless) {body s : String}
    (hbody : Opens 0 body) (h : scatterText scatter body = .ok s) : Opens 0 s := by
  obtain ⟨items, hitems, h⟩ := bind_eq_ok_iff.mp h
  obtain ⟨clauses, hclauses, h⟩ := bind_eq_ok_iff.mp h
  cases h
  have hpairs : Opens 0 ("\n             ".intercalate clauses) := by
    refine .intercalate rfl ?_
    intro clause hclause
    obtain ⟨pair, hpair, hclause⟩ := exists_of_mem_mapM hclauses hclause
    obtain ⟨parts, hparts, hclause⟩ := bind_eq_ok_iff.mp hclause
    have hp := (hscatter.items hitems pair hpair).items hparts
    split at hclause
    next item source =>
      cases hclause
      exact ((hp item (by simp)).opens_text.beside fun _ => rfl).beside
        (hp source (by simp)).opens_text
    next => cases hclause
  have hlines := Opens.of_braces_eq (braces_indented body) hbody
  have start : Leads 0 0 "\n    scatter (" := fun _ => rfl
  have opened : Leads 0 1 ") \x7b\n" := fun _ => rfl
  have closed : Leads 1 0 "\n    \x7d\n" := fun _ => rfl
  exact (((start.append (hpairs.leads 0)).append opened).append (hlines.leads 1)).append closed

/-- Whatever is deleted, no brace comes in. -/
theorem braceless_delete (p : Pattern) {s : String} (h : Text.Braceless s) :
    Text.Braceless (p.delete s) := by
  intro c hc
  rw [Pattern.delete, String.toList_ofList] at hc
  exact h c ((deleteMatches_sublist _ none 0 s.toList).subset hc)

theorem StepInput.opens_line {i : StepInput} (hid : i.id.Braceless) (hvalue : i.value.Braceless)
    {taskId : Value} {pad s : String} (hpad : Opens 0 pad) (h : i.line taskId pad = .ok s) :
    Opens 0 s := by
  obtain ⟨pattern, -, h⟩ := bind_eq_ok_iff.mp h
  obtain ⟨id, hid', h⟩ := bind_eq_ok_iff.mp h
  cases h
  have hname : Text.Braceless id := by
    obtain ⟨id', hv, rfl⟩ : ∃ s, i.id = .str s ∧ s = id := by
      cases hi : i.id with
      | str s =>
        rw [hi] at hid'
        exact ⟨s, rfl, Except.ok.inj hid'⟩
      | _ =>
        rw [hi] at hid'
        cases hid'
    rw [hv] at hid
    exact hid id' List.mem_cons_self
  have hdeleted : Opens 0 (pattern.delete id) := .of_braceless (braceless_delete pattern hname)
  exact ((hpad.beside hdeleted).beside fun _ => rfl).beside hvalue.opens_text

theorem opens_inputLines {taskId : Value} {inputs : List StepInput}
    (hinputs : ∀ i ∈ inputs, i.id.Braceless ∧ i.value.Braceless) {lines : List String}
    (h : inputLines taskId inputs = .ok lines) : ∀ s ∈ lines, Opens 0 s := by
  cases inputs with
  | nil =>
    cases h
    simp
  | cons first rest =>
    rw [List.forall_mem_cons] at hinputs
    obtain ⟨line, hline, h⟩ := bind_eq_ok_iff.mp h
    obtain ⟨more, hmore, h⟩ := bind_eq_ok_iff.mp h
    cases h
    rw [List.forall_mem_cons]
    constructor
    · exact StepInput.opens_line hinputs.1.1 hinputs.1.2 (fun _ => rfl) hline
    · intro s hs
      obtain ⟨i, hi, hs⟩ := exists_of_mem_mapM hmore hs
      obtain ⟨hid, hvalue⟩ := hinputs.2 i hi
      exact StepInput.opens_line hid hvalue (fun _ => rfl) hs

theorem opens_callText {taskId : Value} {inputs : List StepInput} {scatter : Value}
    (hcall : BracelessCall taskId inputs scatter) {s : String}
    (h : callText taskId inputs scatter = .ok s) : Opens 0 s := by
  have hid := hcall.taskId.opens_text
  have hbody : ∀ body, Opens 0 body →
      (if scatter.truthy then scatterText scatter body else pure body) = .ok s → Opens 0 s := by
    intro body hbody h
    split at h
    · exact opens_scatterText hcall.scatter hbody h
    · cases h
      exact hbody
  rw [callText] at h
  split at h
  · exact hbody _ (Opens.beside (fun _ => rfl) hid) h
  · obtain ⟨lines, hlines, h⟩ := bind_eq_ok_iff.mp h
    have hinputs : Opens 0 (", \n".intercalate lines) :=
      .intercalate rfl (opens_inputLines hcall.inputs hlines)
    have start : Leads 0 0 "\n    call " := fun _ => rfl
    have opened : Leads 0 1 " \x7b\n        input: " := fun _ => rfl
    have closed : Leads 1 0 "\n    \x7d\n" := fun _ => rfl
    exact hbody _ ((((start.append (hid.leads 0)).append opened).append
      (hinputs.leads 1)).append closed) h

theorem Step.text_of_defined {s : Step} {text : String} (h : .defined text ∈ s.write.log) :
    ∃ task, s.definition = some task ∧ task.text = .ok text := by
  cases hd : s.definition with
  | none => exact absurd hd (Step.definition_of_defined h)
  | some task =>
    simp [Step.write, hd, Logged.mem_log_bind] at h
    exact ⟨task, rfl, h⟩

theorem Step.callText_of_write {s : Step} {call : String} (h : s.write.outcome = .ok call) :
    callText s.taskId s.inputs s.scatter = .ok call := by
  cases hd : s.definition with
  | none => simpa [Step.write, hd] using h
  | some task =>
    simp only [Step.write, hd, Logged.outcome_bind, Logged.outcome_note, Logged.outcome_lift,
      ok_bind] at h
    obtain ⟨text, -, h⟩ := bind_eq_ok_iff.mp h
    exact h

/-! ### Workflows -/

def Workflow.hasOutputs (w : Workflow) : Bool := !w.outputs.isEmpty

/-- The outputs open a brace and do not close it. -/
theorem opens_outputNames {outputs : List Output} (houtputs : ∀ o ∈ outputs, o.Balanced)
    {names : String} (h : outputNames outputs = .ok names) :
    Opens (if outputs.isEmpty then 0 else 1) names := by
  rw [outputNames] at h
  split at h
  next hempty =>
    cases h
    rw [if_pos hempty]
    exact fun _ => rfl
  next hsome =>
    obtain ⟨parts, hparts, h⟩ := bind_eq_ok_iff.mp h
    cases h
    rw [if_neg hsome]
    have hjoined : Opens 0 ("\n     ".intercalate parts) := by
      refine .intercalate rfl ?_
      intro part hpart
      obtain ⟨o, ho, hname⟩ := exists_of_mem_mapM hparts hpart
      rw [← Value.text_of_asText hname]
      exact (houtputs o ho).name
    have opened : Leads 0 1 "\n   output \x7b\n     " := fun _ => rfl
    exact (opened.append (hjoined.leads 1)).append fun _ => rfl

theorem opens_steps {steps : List Step}
    (hsteps : ∀ s ∈ steps, BracelessCall s.taskId s.inputs s.scatter ∧
      ∀ t, s.definition = some t → t.Balanced) {calls : List String}
    (h : (steps.mapM Step.write).outcome = .ok calls) :
    (∀ call ∈ calls, Opens 0 call) ∧
      ∀ text ∈ definitions (steps.mapM Step.write).log, Opens 0 text := by
  rw [Logged.outcome_mapM] at h
  constructor
  · intro call hcall
    obtain ⟨s, hs, hwrite⟩ := exists_of_mem_mapM h hcall
    exact opens_callText (hsteps s hs).1 (Step.callText_of_write hwrite)
  · intro text htext
    obtain ⟨s, hs, hdefined⟩ := Logged.exists_of_mem_log_mapM (mem_definitions.mp htext)
    obtain ⟨task, htask, htext⟩ := Step.text_of_defined hdefined
    exact Task.opens_text ((hsteps s hs).2 task htask) htext

theorem opens_workflowText {n : Nat} {name declared body names : String} (hname : Opens 0 name)
    (hdeclared : Opens 0 declared) (hbody : Opens 0 body) (hnames : Opens n names) :
    Opens n ("\nworkflow " ++ name ++ " \x7b\n    " ++ declared ++ "\n    " ++ body ++ "\n    " ++
      names ++ "\n\x7d\n") := by
  have start : Leads 0 0 "\nworkflow " := fun _ => rfl
  have opened : Leads 0 1 " \x7b\n    " := fun _ => rfl
  have line : Leads 1 1 "\n    " := fun _ => rfl
  have closed : Leads (1 + n) n "\n\x7d\n" := by
    intro d
    rw [← Nat.add_assoc, Nat.add_right_comm]
    rfl
  have hhead := (((start.append (hname.leads 0)).append opened).append (hdeclared.leads 1)).append line
  exact (((hhead.append (hbody.leads 1)).append line).append (hnames.leads 1)).append closed

/-- The text of a workflow together with all that it brings along. -/
def Workflow.OpensOutputs (w : Workflow) : Prop :=
  ∀ text, w.write.outcome = .ok text →
    Opens (w.tree.countP (·.hasOutputs)) (withDefinitions text (definitions w.write.log))

theorem opens_subworkflows {calls : List (SubCall Workflow)}
    (hcalls : ∀ s ∈ calls, BracelessCall s.taskId s.inputs s.scatter)
    (hopens : ∀ s ∈ calls, s.definition.OpensOutputs) {texts : List String}
    (h : (writeSubworkflows calls).outcome = .ok texts) :
    (∀ text ∈ texts, Opens 0 text) ∧
      Opens ((calls.flatMap (·.definition.tree)).countP (·.hasOutputs))
        ("\n".intercalate (definitions (writeSubworkflows calls).log)) := by
  induction calls generalizing texts with
  | nil =>
    rw [writeSubworkflows] at h ⊢
    cases h
    exact ⟨by simp, fun _ => rfl⟩
  | cons s rest ih =>
    rw [List.forall_mem_cons] at hcalls hopens
    simp only [writeSubworkflows, Logged.outcome_bind, Logged.outcome_pure] at h
    obtain ⟨call, hcall, h⟩ := bind_eq_ok_iff.mp h
    obtain ⟨more, hmore, h⟩ := bind_eq_ok_iff.mp h
    cases h
    obtain ⟨text, htext, hcallText, hdefinitions⟩ := writeSubworkflow_eq_ok hcall
    obtain ⟨hmoreTexts, hmoreDefinitions⟩ := ih hcalls.2 hopens.2 hmore
    constructor
    · rw [List.forall_mem_cons]
      exact ⟨opens_callText hcalls.1 hcallText, hmoreTexts⟩
    · rw [writeSubworkflows, Logged.bind_of_ok hcall, Logged.bind_of_ok hmore, Logged.log_pure,
        List.append_nil, definitions_append, hdefinitions, List.flatMap_cons, List.countP_append]
      exact .intercalate_cons rfl (hopens.1 text htext) hmoreDefinitions

theorem Workflow.opensOutputs (w : Workflow) (h : ∀ v ∈ w.tree, v.Braceless) :
    w.OpensOutputs := by
  induction w using Workflow.inductionOnCalls with
  | step w ih =>
    rw [Workflow.tree_eq, List.forall_mem_cons] at h
    obtain ⟨hw, hcalled⟩ := h
    intro text htext
    obtain ⟨declared, calls, more, names, hdeclared, hcalls, hmore, hnames, rfl, hlog⟩ :=
      Workflow.write_eq_ok htext
    have hopens : ∀ s ∈ w.subworkflows, s.definition.OpensOutputs := fun s hs =>
      ih s hs fun v hv => hcalled v (List.mem_flatMap.mpr ⟨s, hs, hv⟩)
    obtain ⟨hcallTexts, hcallDefinitions⟩ := opens_steps hw.steps hcalls
    obtain ⟨hmoreTexts, hmoreDefinitions⟩ := opens_subworkflows hw.calls hopens hmore
    have hbody : Opens 0 ("\n".intercalate (calls ++ more)) :=
      .intercalate rfl fun s hs => (List.mem_append.mp hs).elim (hcallTexts s) (hmoreTexts s)
    have hdefinitions : Opens ((w.subworkflows.flatMap (·.definition.tree)).countP (·.hasOutputs))
        ("\n".intercalate (definitions w.write.log)) := by
      have hall := Opens.intercalate_append rfl (.intercalate rfl hcallDefinitions) hmoreDefinitions
      rwa [← definitions_append, ← hlog, Nat.zero_add] at hall
    have htext := opens_workflowText hw.name.opens_text (opens_declarations hw.inputs hdeclared)
      hbody (opens_outputNames hw.outputs hnames)
    have hall := (htext.append hdefinitions).append (n := 0) (t := "\n") fun _ => rfl
    rw [Workflow.tree_eq, List.countP_cons, Nat.add_comm]
    simpa [Workflow.hasOutputs, withDefinitions] using hall

/-- A workflow whose values hold no brace leaves one brace open for itself and for each workflow it
calls, at any depth, that has outputs. -/
theorem Workflow.text_opens_brace_per_outputs {r : Value} (hr : r.Braceless) {w : Workflow}
    (hw : Workflow.ofRecord r = .ok w) {text : String} (htext : w.text = .ok text) :
    (text.toList.count '\x7b' : Int) - text.toList.count '\x7d' =
        w.tree.countP (·.hasOutputs) ∧
      (Text.Balanced text ↔ ∀ v ∈ w.tree, v.outputs = []) := by
  have htree := Workflow.braceless_of_recordWithin hr hw
  rw [Workflow.text_eq] at htext
  obtain ⟨body, hbody, rfl⟩ := map_eq_ok_iff.mp htext
  have hopens := Workflow.opensOutputs w htree body hbody
  constructor
  · have hcount := hopens.count_eq
    omega
  · rw [hopens.balanced_iff, List.countP_eq_zero]
    simp [Workflow.hasOutputs]

def nestedSample : Value :=
  .mapping [("name", .str "outer"), ("inputs", .list []), ("outputs", .list []),
    ("steps", .list []), ("requirements", .list []), ("subworkflows", .list [.mapping [
      ("id", .str "inner"), ("inputs", .list []), ("outputs", .list []),
      ("definition", .mapping [("name", .str "inner"), ("inputs", .list []), ("steps", .list []),
        ("outputs", .list [.mapping [("name", .str "bam"), ("variable_type", .str "File"),
          ("output", .str "x.bam"), ("is_required", .bool true)]]),
        ("requirements", .list [])])]])]

theorem Workflow.nestedSample_opens_brace : ∃ w text,
    nestedSample.Braceless ∧ Workflow.ofRecord nestedSample = .ok w ∧ w.text = .ok text ∧
    (text.toList.count '\x7b' : Int) - text.toList.count '\x7d' = 1 ∧ ¬ Text.Balanced text := by
  have hr : nestedSample.Braceless := by decide
  refine ⟨_, _, hr, rfl, rfl, ?_⟩
  obtain ⟨hcount, hbalanced⟩ := Workflow.text_opens_brace_per_outputs hr rfl rfl
  constructor
  · rw [hcount]
    simp [Workflow.tree, treeOfCalls, treeOfCall, Workflow.hasOutputs]
  · rw [hbalanced]
    simp [Workflow.tree, treeOfCalls, treeOfCall]

end Wdl

end FlowConverter
