import FlowConverter.Proofs.Deletion
import FlowConverter.Proofs.GeneratorCalls
import FlowConverter.Proofs.StepDefinitions
import FlowConverter.Proofs.ToolDomain

/-! Which workflows have a text. A call with inputs reads the id of its task as a pattern; nothing else
in the writing of a workflow that has been read can fail. The id comes from what the step runs, so
any character of a file name can get into the pattern. Main statement: for ids that keep to the
forms of patterns that are read, a text exists exactly if the ids are patterns; it always exists if
no step runs a text with a sign of patterns in it. -/
namespace FlowConverter

namespace Text.Pattern

/-- The characters that may keep a text from being a pattern. -/
def isSign (c : Char) : Bool := ['\\', '[', '(', ')', '*', '+', '?', '\x7b'].contains c

/-- Whether what starts with `c` keeps to the forms that are read: groups that only bracket, escapes
without numbers and names, and counts of fewer than ten characters. -/
def keepsFormAt (c : Char) (rest : List Char) : Bool :=
  match c with
  | '(' => rest.head? != some '?' || (rest.drop 1).head? == some ':'
  | '\\' => !rest.head?.any fun d => d.isDigit || ['N', 'u', 'U'].contains d
  | '\x7b' => (rest.takeWhile fun d => d.isDigit || d == ',').length < 10
  | _ => true

def keepsForm : List Char → Bool
  | [] => true
  | c :: rest => keepsFormAt c rest && keepsForm rest

/-- Of the forms that are read throughout, with at most a hundred brackets opened. -/
def isReadable (s : String) : Bool := keepsForm s.toList && s.toList.count '(' ≤ 100

theorem repetition?_of_not_isSign {c : Char} (h : isSign c = false) (rest : List Char) :
    repetition? c rest = none := by
  unfold repetition?
  split
  · cases h
  · cases h
  · cases h
  · cases h
  · rfl

theorem exists_atom?_of_not_isSign {c : Char} (h : isSign c = false) (fuel : Nat)
    (rest : List Char) : ∃ p, atom? (fuel + 1) c rest = some (p, rest) := by
  unfold atom?
  split
  · exact ⟨_, rfl⟩
  · exact ⟨_, rfl⟩
  · exact ⟨_, rfl⟩
  · cases h
  · cases h
  · cases h
  · exact ⟨_, rfl⟩

/-- An item that starts with neither a sign nor a bar is put before those read so far. -/
theorem items?_of_atom? {c : Char} (hsign : isSign c = false) (hbar : c ≠ '|') {fuel : Nat}
    {rest : List Char} {p : Pattern} (hatom : atom? (fuel + 1) c rest = some (p, rest))
    (acc : List Pattern) : items? (fuel + 2) acc (c :: rest) = items? (fuel + 1) (p :: acc) rest := by
  have hstop : (c == '|' || c == ')') = false := by
    have hclose : c ≠ ')' := by
      rintro rfl
      cases hsign
    simp [hbar, hclose]
  rw [items?, hstop, repetition?_of_not_isSign hsign]
  simp [hatom]

/-- Without signs, items go on to the next bar or to the end. -/
theorem items?_of_plain {cs : List Char} (hcs : ∀ c ∈ cs, isSign c = false) {fuel : Nat}
    (hfuel : cs.length + 4 ≤ fuel) (acc : List Pattern) :
    ∃ p, items? fuel acc (cs ++ ['\\', '.']) = some (p, []) ∨
      ∃ rest, ('|' :: rest) <:+ cs ∧
        items? fuel acc (cs ++ ['\\', '.']) = some (p, '|' :: (rest ++ ['\\', '.'])) := by
  induction cs generalizing fuel acc with
  | nil =>
    obtain ⟨fuel, rfl⟩ := Nat.exists_eq_add_of_le' hfuel
    exact ⟨_, .inl rfl⟩
  | cons c cs ih =>
    rw [List.forall_mem_cons] at hcs
    rw [List.length_cons] at hfuel
    obtain ⟨fuel, rfl⟩ : ∃ k, fuel = k + 2 := ⟨fuel - 2, by omega⟩
    by_cases hbar : c = '|'
    · subst hbar
      exact ⟨_, .inr ⟨cs, List.suffix_rfl, rfl⟩⟩
    · obtain ⟨a, hatom⟩ := exists_atom?_of_not_isSign hcs.1 fuel (cs ++ ['\\', '.'])
      rw [List.cons_append, items?_of_atom? hcs.1 hbar hatom]
      have hless : cs.length + 4 ≤ fuel + 1 := by omega
      obtain ⟨p, hend | ⟨rest, hrest, hnext⟩⟩ := ih hcs.2 hless (a :: acc)
      · exact ⟨p, .inl hend⟩
      · exact ⟨p, .inr ⟨rest, hrest.trans (List.suffix_cons c cs), hnext⟩⟩

/-- Each bar starts the next alternative; the last one ends with the text. -/
theorem alternatives?_of_plain {cs : List Char} (hcs : ∀ c ∈ cs, isSign c = false) {fuel : Nat}
    (hfuel : cs.length + 5 ≤ fuel) :
    ∃ p, alternatives? fuel (cs ++ ['\\', '.']) = some (p, []) := by
  induction fuel generalizing cs with
  | zero => omega
  | succ fuel ih =>
    obtain ⟨p, hend | ⟨rest, hrest, hbar⟩⟩ := items?_of_plain hcs (Nat.le_of_succ_le_succ hfuel) []
    · exact ⟨p, by rw [alternatives?, hend]⟩
    · have hlength := hrest.length_le
      rw [List.length_cons] at hlength
      have hplain : ∀ c ∈ rest, isSign c = false := fun c hc =>
        hcs c (hrest.subset (List.mem_cons_of_mem _ hc))
      obtain ⟨q, hq⟩ := ih hplain (by omega)
      exact ⟨.alt p q, by simp only [alternatives?, hbar, hq, Option.map_some]⟩

/-- A text without signs, and a point after it, is a pattern. -/
theorem exists_read?_of_plain {s : String} (hs : ∀ c ∈ s.toList, isSign c = false) :
    ∃ p, read? (s ++ "\\.") = some p := by
  have htext : (s ++ "\\.").toList = s.toList ++ ['\\', '.'] := String.toList_append
  have hfuel : s.toList.length + 5 ≤ 4 * (s.toList ++ ['\\', '.']).length + 4 := by
    simp only [List.length_append, List.length_cons, List.length_nil]
    omega
  obtain ⟨p, hp⟩ := alternatives?_of_plain hs hfuel
  exact ⟨p, by simp only [read?, htext, hp]⟩

end Text.Pattern

theorem Path.sublist_of_mem_partsOf {cs p : List Char} (h : p ∈ partsOf cs) : p.Sublist cs := by
  induction cs generalizing p with
  | nil =>
    rw [List.mem_singleton.mp h]
  | cons c rest ih =>
    rw [partsOf] at h
    split at h
    · rcases List.mem_cons.mp h with rfl | h
      · exact List.nil_sublist _
      · exact (ih h).cons c
    · cases hrest : partsOf rest with
      | nil =>
        rw [hrest] at h
        rw [List.mem_singleton.mp h]
        exact (List.nil_sublist rest).cons_cons c
      | cons q qs =>
        rw [hrest] at h ih
        rcases List.mem_cons.mp h with rfl | h
        · exact (ih List.mem_cons_self).cons_cons c
        · exact (ih (List.mem_cons_of_mem q h)).cons c

theorem Path.baseName_sublist (path : String) : (baseName path).toList.Sublist path.toList := by
  rw [baseName, List.getLastD_eq_getLast?]
  cases hlast : (parts path).getLast? with
  | none => exact List.nil_sublist _
  | some name =>
    obtain ⟨p, hp, rfl⟩ := List.mem_map.mp (List.mem_of_getLast? hlast)
    rw [Option.getD_some, String.toList_ofList]
    exact Path.sublist_of_mem_partsOf hp

/-- A task id takes all its characters from what the step runs. -/
theorem Cwl.taskIdOf_sublist (run : String) : (taskIdOf run).toList.Sublist run.toList := by
  rw [taskIdOf, Text.deleteWords, String.toList_ofList]
  exact (Text.deleteAll_sublist _ _).trans (Path.baseName_sublist run)

namespace Wdl

theorem callPattern_of_read? {id : String} {p : Text.Pattern}
    (h : Text.Pattern.read? (id ++ "\\.") = some p) : callPattern (.str id) = .ok p := by
  rw [callPattern]
  simp only [Value.asText, pure_bind, h]
  rfl

theorem callPattern_of_read?_eq_none {id : String}
    (h : Text.Pattern.read? (id ++ "\\.") = none) : callPattern (.str id) = .error .badPattern := by
  rw [callPattern]
  simp only [Value.asText, pure_bind, h]
  rfl

theorem StepInput.line_eq_ok {id : String} {p : Text.Pattern}
    (h : Text.Pattern.read? (id ++ "\\.") = some p) (pad : String) (i : Cwl.StepInput) :
    i.toStepInput.line (.str id) pad =
      .ok (pad ++ p.delete i.id ++ "=" ++ (Value.ofText? i.value).text) := by
  rw [StepInput.line, callPattern_of_read? h]
  rfl

/-- The call of a step that has been read, without a definition. -/
def callOf (s : Cwl.Step) : Except Fault String :=
  callText (.str s.taskId) (s.inputs.map (·.toStepInput)) (.list [])

theorem exists_callOf_of_no_inputs {s : Cwl.Step} (h : s.inputs = []) :
    ∃ text, callOf s = .ok text := by
  rw [callOf, h]
  exact ⟨_, rfl⟩

theorem exists_callOf_of_read? {s : Cwl.Step} {p : Text.Pattern}
    (h : Text.Pattern.read? (s.taskId ++ "\\.") = some p) : ∃ text, callOf s = .ok text := by
  cases hinputs : s.inputs with
  | nil => exact exists_callOf_of_no_inputs hinputs
  | cons i rest =>
    have hmore : ∀ i ∈ rest.map (·.toStepInput), ∃ line, StepInput.line (.str s.taskId)
        "          " i = .ok line := by
      rw [List.forall_mem_map]
      exact fun i _ => ⟨_, StepInput.line_eq_ok h _ i⟩
    obtain ⟨more, hmore⟩ := (exists_mapM_eq_ok_iff _ _).mpr hmore
    rw [callOf, hinputs, List.map_cons, callText, inputLines, StepInput.line_eq_ok h, ok_bind, hmore]
    exact ⟨_, rfl⟩

theorem callOf_eq_error {s : Cwl.Step} (hinputs : s.inputs ≠ [])
    (h : Text.Pattern.read? (s.taskId ++ "\\.") = none) : callOf s = .error .badPattern := by
  obtain ⟨i, rest, hcons⟩ := List.exists_cons_of_ne_nil hinputs
  rw [callOf, hcons, List.map_cons, callText, inputLines, StepInput.line,
    callPattern_of_read?_eq_none h]
  rfl

theorem exists_callOf_iff {s : Cwl.Step} :
    (∃ text, callOf s = .ok text) ↔
      (s.inputs ≠ [] → ∃ p, Text.Pattern.read? (s.taskId ++ "\\.") = some p) := by
  constructor
  · rintro ⟨text, htext⟩ hinputs
    cases h : Text.Pattern.read? (s.taskId ++ "\\.") with
    | some p => exact ⟨p, rfl⟩
    | none =>
      rw [callOf_eq_error hinputs h] at htext
      cases htext
  · intro h
    by_cases hinputs : s.inputs = []
    · exact exists_callOf_of_no_inputs hinputs
    · obtain ⟨p, hp⟩ := h hinputs
      exact exists_callOf_of_read? hp

theorem badPattern_of_callOf {s : Cwl.Step} {f : Fault} (h : callOf s = .error f) :
    f = .badPattern := by
  by_cases hinputs : s.inputs = []
  · obtain ⟨text, htext⟩ := exists_callOf_of_no_inputs hinputs
    cases htext.symm.trans h
  · cases hp : Text.Pattern.read? (s.taskId ++ "\\.") with
    | some p =>
      obtain ⟨text, htext⟩ := exists_callOf_of_read? hp
      cases htext.symm.trans h
    | none => exact Except.error.inj (h.symm.trans (callOf_eq_error hinputs hp))

/-- The names of outputs that have been read are texts. -/
theorem exists_outputNames (outputs : List Cwl.OutputParameter) :
    ∃ names, outputNames (outputs.map (·.toOutput)) = .ok names := by
  have hnames : ∀ o ∈ outputs.map (·.toOutput), ∃ name, o.name.asText = .ok name := by
    rw [List.forall_mem_map]
    exact fun o _ => ⟨o.name, rfl⟩
  obtain ⟨names, hnames⟩ := (exists_mapM_eq_ok_iff _ _).mpr hnames
  rw [outputNames]
  split
  · exact ⟨_, rfl⟩
  · rw [hnames]
    exact ⟨_, rfl⟩

theorem Step.write_eq_callOf {s : Cwl.Step} {v : Step} (h : Step.ofRecord s.toRecord = .ok v) :
    v.write.outcome = callOf s := by
  have hnone : s.definition = none := by
    by_contra hd
    cases h.symm.trans (Step.ofRecord_of_definition hd)
  rw [Step.ofRecord_toRecord hnone] at h
  obtain ⟨outputs, -, h⟩ := bind_eq_ok_iff.mp h
  cases h
  rfl

/-- Whether an accepted workflow has a text depends on its calls alone. -/
theorem Workflow.text_of_callOf {w : Cwl.Workflow} {v : Workflow}
    (h : Workflow.ofRecord w.toRecord = .ok v) :
    ∃ assemble : List String → String, v.text = (w.steps.mapM callOf).map assemble := by
  rw [Workflow.ofRecord_toRecord] at h
  obtain ⟨steps, hsteps, h⟩ := bind_eq_ok_iff.mp h
  cases h
  have hcalls : steps.mapM (·.write.outcome) = w.steps.mapM callOf := by
    have hmap := map_eq_map_of_mapM hsteps fun _ _ => Step.write_eq_callOf
    calc steps.mapM (·.write.outcome)
      _ = (steps.map (·.write.outcome)).mapM id := by rw [List.mapM_map]; rfl
      _ = (w.steps.map callOf).mapM id := by rw [hmap]
      _ = w.steps.mapM callOf := by rw [List.mapM_map]; rfl
  obtain ⟨declared, hdeclared⟩ := Cwl.exists_declarations w.inputs
  obtain ⟨names, hnames⟩ := exists_outputNames w.outputs
  have hwrite : (w.toWorkflow steps).write.outcome = (do
      let calls ← w.steps.mapM callOf
      pure ("\nworkflow " ++ w.name ++ " \x7b\n    " ++ declared ++ "\n    " ++
        "\n".intercalate calls ++ "\n    " ++ names ++ "\n\x7d\n")) := by
    simp only [Cwl.Workflow.toWorkflow, Workflow.write, writeSubworkflows, Logged.outcome_bind,
      Logged.outcome_lift, Logged.outcome_pure, Logged.outcome_mapM, hdeclared, hnames, hcalls,
      ok_bind, List.append_nil, Value.text, pure_eq_ok]
  rw [Workflow.text_eq, hwrite]
  exact ⟨_, map_bind_pure ..⟩

end Wdl

namespace Cwl

/-- An accepted workflow whose task ids are readable has a text exactly if the id of each task that
is called with inputs is a pattern; otherwise the fault is the pattern. Whatever the ids, there is
a text if no step runs a text with a sign in it. -/
theorem Workflow.text_exists_iff_patterns {ws : Workspace} {bound : Nat}
    {inner : String → Report (Option (List Tool))} {sourceDir source : Value} {fileName : String}
    {w : Workflow} {v : Wdl.Workflow}
    (hw : (Workflow.read ws bound inner sourceDir fileName source).outcome = .ok w)
    (hv : Wdl.Workflow.ofRecord w.toRecord = .ok v) :
    ((∀ s ∈ w.steps, s.inputs ≠ [] → Text.Pattern.isReadable s.taskId = true) →
      ((∃ text, v.text = .ok text) ↔ ∀ s ∈ w.steps, s.inputs ≠ [] →
        ∃ p, Text.Pattern.read? (s.taskId ++ "\\.") = some p) ∧
      ∀ f, v.text = .error f → f = .badPattern) ∧
    ((∀ steps items step run, source.get "steps" = .ok steps → steps.items = .ok items →
      step ∈ items → step.get "run" = .ok (.str run) →
      ∀ c ∈ run.toList, Text.Pattern.isSign c = false) → ∃ text, v.text = .ok text) := by
  obtain ⟨assemble, htext⟩ := Wdl.Workflow.text_of_callOf hv
  have hexists : (∃ text, v.text = .ok text) ↔ ∀ s ∈ w.steps, s.inputs ≠ [] →
      ∃ p, Text.Pattern.read? (s.taskId ++ "\\.") = some p := by
    calc (∃ text, v.text = .ok text)
      _ ↔ ∃ calls, w.steps.mapM Wdl.callOf = .ok calls := by
        simp [htext, map_eq_ok_iff]
      _ ↔ ∀ s ∈ w.steps, ∃ text, Wdl.callOf s = .ok text := exists_mapM_eq_ok_iff _ _
      _ ↔ _ := forall₂_congr fun s _ => Wdl.exists_callOf_iff
  refine ⟨fun _ => ⟨hexists, ?_⟩, ?_⟩
  · intro f hf
    rw [htext, map_eq_error_iff] at hf
    obtain ⟨s, -, hs⟩ := exists_of_mapM_eq_error hf
    exact Wdl.badPattern_of_callOf hs
  · intro hplain
    rw [hexists]
    intro s hs _
    obtain ⟨-, -, -, steps, items, hsteps, hitems, hread⟩ := Workflow.read_eq_ok hw
    obtain ⟨step, hstep, hread⟩ := exists_of_mem_mapM hread hs
    obtain ⟨run, hrun, hid, -⟩ := Step.read_eq_ok hread
    rw [hid]
    refine Text.Pattern.exists_read?_of_plain ?_
    intro c hc
    exact hplain steps items step run hsteps hitems hstep hrun c ((taskIdOf_sublist run).subset hc)

def callingStepSample (run : String) : Value :=
  .mapping [("inputs", .list []), ("outputs", .list []), ("steps", .list [.mapping [
    ("run", .str run), ("inputs", .list [.mapping [("id", .str "#x")]]), ("outputs", .list [])]])]

/-- Signs do no harm where they make up a pattern: here, a character to be repeated. -/
theorem Workflow.text_exists_callingStepSample : ∃ w v,
    (Workflow.read filesSample 1 (toolsOfFile filesSample 1) (.str "") "w.cwl"
      (callingStepSample "#c++")).outcome = .ok w ∧
    Wdl.Workflow.ofRecord w.toRecord = .ok v ∧ ∃ text, v.text = .ok text := by
  refine ⟨_, _, rfl, rfl, ?_⟩
  have hpatterns := @Workflow.text_exists_iff_patterns filesSample 1 (toolsOfFile filesSample 1)
    (.str "") (callingStepSample "#c++") "w.cwl" _ _ rfl rfl
  refine (hpatterns.1 ?_).1.mpr ?_
  · intro s hs _
    rw [List.mem_singleton.mp hs]
    decide
  · intro s hs _
    rw [List.mem_singleton.mp hs]
    exact ⟨_, rfl⟩

/-- A sign with nothing before it to repeat: the workflow is accepted and has no text. -/
theorem Workflow.no_text_callingStepSample : ∃ w v,
    (Workflow.read filesSample 1 (toolsOfFile filesSample 1) (.str "") "w.cwl"
      (callingStepSample "#+strand")).outcome = .ok w ∧
    Wdl.Workflow.ofRecord w.toRecord = .ok v ∧ v.text = .error .badPattern :=
  ⟨_, _, rfl, rfl, rfl⟩

end Cwl

end FlowConverter
