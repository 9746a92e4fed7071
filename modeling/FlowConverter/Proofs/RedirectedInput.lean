import FlowConverter.Proofs.CommandLayout
import FlowConverter.Proofs.Deletion
import FlowConverter.Proofs.InputReferences
import FlowConverter.Proofs.Records

/-! Tools that write to a file named by one of their inputs. The input is declared under its id, and
the redirection and the glob of an output refer to it by an expression; the three are cleaned in
ways of their own. Main statement: all three come to the same name, whatever characters are in the
id, and the command uses the input for the redirection and for nothing else. -/
namespace FlowConverter

namespace Text

/-- Without marks at its ends, a text stays as it is. -/
theorem strip_of_no_marks {m : Char} {s : String} (hfirst : s.toList.head? ≠ some m)
    (hlast : s.toList.getLast? ≠ some m) : strip m s = s := by
  have hkeep : ∀ cs : List Char, cs.head? ≠ some m → cs.dropWhile (· == m) = cs := by
    intro cs hcs
    cases cs with
    | nil => rfl
    | cons c cs =>
      have hc : c ≠ m := by simpa using hcs
      rw [List.dropWhile_cons_of_neg (by simpa using hc)]
  have hreverse : s.toList.reverse.head? ≠ some m := by rwa [List.head?_reverse]
  rw [strip, stripChars, hkeep _ hfirst, hkeep _ hreverse, List.reverse_reverse,
    String.ofList_toList]

theorem strip_mark_append (m : Char) (s : String) : strip m (m.toString ++ s) = strip m s := by
  have hchars : (m.toString ++ s).toList = m :: s.toList := by simp
  rw [strip, strip, hchars, stripChars, stripChars, List.dropWhile_cons, beq_self_eq_true,
    if_pos rfl]

end Text

namespace Cwl

/-! ### Expressions -/

def inputExpression (x : String) : String := "$(inputs." ++ x ++ ")"

/-- A text that holds no `inputs.` only loses the bracket behind it. -/
theorem deleteAll_wrapping_closed {cs : List Char} (h : ¬ "inputs.".toList <:+: cs) :
    Text.deleteAll wrappingLength? (cs ++ [')']) = cs := by
  induction cs with
  | nil => decide
  | cons c cs ih =>
    have hlast : (c :: (cs ++ [')'])).getLast? = some ')' := by
      rw [← List.cons_append, List.getLast?_concat]
    have hword : ¬ "inputs.".toList <+: c :: (cs ++ [')']) := by
      intro hstarts
      rw [← List.cons_append, List.prefix_concat_iff] at hstarts
      rcases hstarts with heq | hstarts
      · have hpoint := congrArg List.getLast? heq
        rw [List.getLast?_concat] at hpoint
        cases hpoint
      · exact h hstarts.isInfix
    have hclosed : c :: (cs ++ [')']) ≠ [')'] ∧ c :: (cs ++ [')']) ≠ [')', '\n'] := by
      refine ⟨by simp, ?_⟩
      intro heq
      rw [heq] at hlast
      cases hlast
    have hnone : wrappingLength? (c :: (cs ++ [')'])) = none := by
      rw [wrappingLength?, if_neg (by rwa [List.isPrefixOf_iff_prefix]),
        if_neg (by simpa using hclosed)]
    rw [List.cons_append, Text.deleteAll_cons_of_none hnone,
      ih fun hinfix => h (List.infix_cons hinfix)]

/-- The expression for an input comes down to the id of the input. -/
theorem dropReference_inputExpression {x : String} (h : ¬ "inputs.".toList <:+: x.toList) :
    dropReference (inputExpression x) = x := by
  have hchars : (inputExpression x).toList =
      ['$', '('] ++ ("inputs.".toList ++ (x.toList ++ [')'])) := by
    simp [inputExpression]
  have hword : wrappingLength? ("inputs.".toList ++ (x.toList ++ [')'])) =
      some "inputs.".toList.length := rfl
  have hstart : ['$', '('].isPrefixOf
      (['$', '('] ++ ("inputs.".toList ++ (x.toList ++ [')']))) = true :=
    List.isPrefixOf_iff_prefix.mpr (List.prefix_append _ _)
  simp only [dropReference, hchars, hstart, if_true]
  rw [List.drop_left' (by rfl), Text.deleteAll_append (by simp) hword, deleteAll_wrapping_closed h,
    String.ofList_toList]

/-! ### Declarations and references -/

/-- The input has the id `x`, with or without a mark before it. -/
def HasId (input : Value) (x : String) : Prop :=
  input.get "id" = .ok (.str x) ∨ input.get "id" = .ok (.str ("#" ++ x))

def CollectedBy (output : Value) (glob : String) : Prop :=
  ∃ binding, output.get "outputBinding" = .ok binding ∧ binding.get "glob" = .ok (.str glob)

theorem InputParameter.name_of_hasId {source : Value} {p : InputParameter} {x : String}
    (h : (InputParameter.read source).outcome = .ok p) (hid : HasId source x)
    (hfirst : x.toList.head? ≠ some '#') (hlast : x.toList.getLast? ≠ some '#') :
    p.name = safeName x := by
  have hstrip := Text.strip_of_no_marks hfirst hlast
  rcases hid with hid | hid
  · rw [name_of_id h hid, hstrip]
  · have hmark : "#" ++ x = '#'.toString ++ x := rfl
    rw [name_of_id h hid, hmark, Text.strip_mark_append, hstrip]

theorem source_of_collectedBy {output v : Value} {glob : String} (hglob : CollectedBy output glob)
    (h : (readSource output).outcome = .ok v) :
    v = globExpression (safeName (dropReference glob)) := by
  obtain ⟨binding, hbinding, hglob⟩ := hglob
  simp only [readSource, Value.has_of_get hbinding, hbinding, Value.has_of_get hglob, hglob,
    Logged.lift_ok, pure_bind, if_true, Logged.outcome_pure] at h
  exact (Except.ok.inj h).symm

theorem readStream_of_text {tool : Value} (stream : Stream) {clean : String → String} {s : String}
    (h : tool.get stream.name = .ok (.str s)) :
    readStream tool stream clean = pure (some (clean s)) := by
  simp only [readStream, Value.has_of_get h, h, Logged.lift_ok, pure_bind, if_true]

end Cwl

/-! ### Commands -/

namespace Wdl

/-- The command section `s` ends in the redirection to `name`. All parts before it are settings of
the environment, the base command, arguments, and inputs that have other names. -/
def Task.RedirectsOnly (t : Task) (name s : String) : Prop :=
  ∃ (settings : List String) (arguments : List Part) (kept : List Input) (inputs : List Part)
    (ordered : List Value),
    List.Forall₂ (fun r s => r.settings = .ok (some (.str s)))
      (t.requirements.filter (·.isEnvironment)) settings ∧
    t.command.arguments.mapM (·.part) = .ok arguments ∧
    kept.Sublist t.command.inputs ∧ (∀ i ∈ kept, i.name ≠ .str name) ∧
    kept.mapM (·.part) = .ok inputs ∧
    ordered.Perm (t.command.base :: (arguments ++ inputs).map (·.text)) ∧
    s = partSeparator.intercalate (settings.reverse ++ ordered.map (·.text) ++
      ["> $\x7b" ++ name ++ "\x7d"])

theorem Task.redirectsOnly_of_stdout {t : Task} {name s : String} (hstdout : t.stdout = .str name)
    (h : t.commandSection = .ok s) : t.RedirectsOnly name s := by
  obtain ⟨parts, ordered, settings, hparts, hordered, -, hsettings, hs⟩ := commandSection_eq_ok h
  obtain ⟨arguments, harguments, hparts⟩ := bind_eq_ok_iff.mp hparts
  obtain ⟨inputs, hinputs, hparts⟩ := bind_eq_ok_iff.mp hparts
  obtain rfl := Except.ok.inj hparts
  refine ⟨settings, arguments, t.mentioned, inputs, ordered, hsettings, harguments,
    List.filter_sublist, ?_, hinputs, orderParts_perm hordered, ?_⟩
  · intro i hi hname
    obtain ⟨-, hkept⟩ := List.mem_filter.mp hi
    have hequal : i.name.equals t.stdout = true := by
      rw [hname, hstdout, Value.equals_str_iff]
    rw [Input.isOmitted, hequal, Bool.or_true] at hkept
    cases hkept
  · rw [hstdout] at hs
    exact hs

end Wdl

namespace Cwl

/-- A tool that redirects its output to the value of an input, and collects an output by it, does so
under the name that the input is declared under, and has no other use for the input. -/
theorem Tool.redirection_names_input {ws : Workspace} {bound : Nat} {sourceDir tool : Value}
    {t : Tool} {task : Wdl.Task} {text : String} {input output : Value} {i j : Nat} {x : String}
    (hread : (Tool.read ws bound sourceDir tool).outcome = .ok t)
    (htask : Wdl.Task.ofRecord t.toRecord = .ok task) (htext : task.text = .ok text)
    (hfirst : x.toList.head? ≠ some '#') (hlast : x.toList.getLast? ≠ some '#')
    (hplain : ¬ "inputs.".toList <:+: x.toList)
    (hinput : tool.ElementAt "inputs" i input) (hid : HasId input x)
    (hstdout : tool.get "stdout" = .ok (.str (inputExpression x)))
    (houtput : tool.ElementAt "outputs" j output) (hglob : CollectedBy output (inputExpression x)) :
    ∃ p o command, t.inputs[i]? = some p ∧ t.outputs[j]? = some o ∧
      t.stdout = some p.name ∧ o.source = .str ("glob('$\x7b" ++ p.name ++ "\x7d')") ∧
      task.commandSection = .ok command ∧ task.RedirectsOnly p.name command := by
  obtain ⟨-, -, -, ⟨declared, hdeclared, hinputs⟩, ⟨listed, hlisted, houtputs⟩, -, hstream, -⟩ :=
    Tool.read_eq_ok_iff.mp hread
  simp only [InputParameter.readAll, Logged.outcome_bind, Logged.outcome_lift,
    Logged.outcome_mapM] at hinputs
  simp only [OutputParameter.readAll, Logged.outcome_bind, Logged.outcome_lift,
    Logged.outcome_mapM] at houtputs
  obtain ⟨p, hp, hpread⟩ := hinput.exists_read hdeclared hinputs
  obtain ⟨o, ho, horead⟩ := houtput.exists_read hlisted houtputs
  have hname := InputParameter.name_of_hasId hpread hid hfirst hlast
  have hdrop := dropReference_inputExpression hplain
  have hsource := source_of_collectedBy hglob (OutputParameter.source_of_read horead)
  have hstdout' : t.stdout = some p.name := by
    rw [readStream_of_text .stdout hstdout, Logged.outcome_pure, hdrop, ← hname] at hstream
    exact (Except.ok.inj hstream).symm
  have htaskStdout : task.stdout = .str p.name := by
    rw [Wdl.Task.ofRecord_toRecord] at htask
    obtain ⟨base, -, htask⟩ := bind_eq_ok_iff.mp htask
    obtain ⟨arguments, -, htask⟩ := bind_eq_ok_iff.mp htask
    obtain rfl := Except.ok.inj htask
    rw [Tool.toTask, hstdout']
    rfl
  obtain ⟨-, command, hcommand⟩ := (Wdl.Task.exists_text_iff task).mp ⟨text, htext⟩
  refine ⟨p, o, command, hp, ho, hstdout', ?_, hcommand,
    Wdl.Task.redirectsOnly_of_stdout htaskStdout hcommand⟩
  rw [hsource, hdrop, ← hname, globExpression]

def sortingSample : Value :=
  .mapping [("baseCommand", .str "sort"),
    ("inputs", .list [
      .mapping [("id", .str "#lines"), ("type", .str "File"),
        ("inputBinding", .mapping [("position", .int 1)])],
      .mapping [("id", .str "#output"), ("type", .str "string")]]),
    ("outputs", .list [.mapping [("id", .str "#sorted"), ("type", .str "File"),
      ("outputBinding", .mapping [("glob", .str "$(inputs.output)")])]]),
    ("stdout", .str "$(inputs.output)")]

theorem Tool.redirection_sortingSample : ∃ t task command p o,
    (Tool.read ⟨[], []⟩ 1 (.str "") sortingSample).outcome = .ok t ∧
    Wdl.Task.ofRecord t.toRecord = .ok task ∧ task.commandSection = .ok command ∧
    t.inputs[1]? = some p ∧ t.outputs[0]? = some o ∧ p.name = "output_variable" ∧
    t.stdout = some p.name ∧ o.source = .str ("glob('$\x7b" ++ p.name ++ "\x7d')") ∧
    task.RedirectsOnly p.name command := by
  obtain ⟨p, o, command, hp, ho, hstdout, hsource, hcommand, honly⟩ :=
    @Tool.redirection_names_input ⟨[], []⟩ 1 (.str "") sortingSample _ _ _ _ _ 1 0 "output" rfl rfl
      rfl (by decide) (by decide) (by decide) ⟨_, _, rfl, rfl, rfl⟩ (.inr rfl) rfl
      ⟨_, _, rfl, rfl, rfl⟩ ⟨_, rfl, rfl⟩
  cases hp
  exact ⟨_, _, command, _, o, rfl, rfl, hcommand, rfl, ho, rfl, hstdout, hsource, honly⟩

end Cwl

end FlowConverter
