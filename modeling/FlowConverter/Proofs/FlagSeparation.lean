import FlowConverter.Proofs.BasePlace
import FlowConverter.Proofs.InputReferences
import FlowConverter.Proofs.WarningCount

/-! Flags and the references behind them. A binding may ask for its flag to stand right at the value,
and a command can be written so, but the record of an input that has been read does not pass the
wish on. Main statement: the flag of a required input stands apart from its reference whatever the
binding asks for, so it stands as asked if and only if nothing else was asked. -/
namespace FlowConverter

/-! ### What a binding asks for -/

/-- A flag and the reference behind it, with a space between them unless they are joined. -/
def flagged (joined : Bool) (flag expression : String) : String :=
  flag ++ (if joined then "" else " ") ++ "$\x7b" ++ expression ++ "\x7d"

/-- The space makes a difference, even where the flag is empty. -/
theorem flagged_eq_apart_iff {joined : Bool} {flag expression : String} :
    flagged false flag expression = flagged joined flag expression ↔ joined = false := by
  constructor
  · intro h
    cases joined with
    | false => rfl
    | true =>
      have hlength := congrArg String.length h
      simp [flagged, String.length_append] at hlength
  · rintro rfl
    rfl

namespace Wdl

/-- The part of a required input with a flag follows what the input says about separation. -/
theorem Input.part_of_flag {i : Input} {part : Part} (h : i.part = .ok part)
    (hflag : i.flag ≠ .null) (hrequired : i.required.truthy = true) :
    ∃ expression, i.expression = .ok expression ∧
      part.text = .str (flagged (!i.separate.truthy) i.flag.text expression) := by
  have hnull : i.flag.isNull = false := by
    rw [Bool.eq_false_iff, ne_eq, Value.isNull_iff]
    exact hflag
  obtain ⟨expression, hexpression, h⟩ := bind_eq_ok_iff.mp h
  obtain rfl := Except.ok.inj h
  refine ⟨expression, hexpression, ?_⟩
  simp only [hnull, hrequired, if_true, Bool.false_eq_true, if_false, flagged, reference,
    String.append_assoc]
  cases i.separate.truthy with
  | true => rfl
  | false => rfl

/-- Every input that the command mentions has its part there. -/
theorem Task.BaseCut.exists_part {t : Task} (c : t.BaseCut) {i : Input} (hi : i ∈ t.mentioned) :
    ∃ part ∈ c.before ++ c.behind, i.part = .ok part := by
  obtain ⟨part, hpart, hi⟩ := exists_mem_of_mapM c.inputs_of hi
  exact ⟨part, c.perm.mem_iff.mpr (List.mem_append_right _ hpart), hi⟩

end Wdl

namespace Cwl

def asksJoined (binding : Value) : Bool :=
  match binding.field? "separate" with
  | some (.bool false) => true
  | _ => false

/-- A flag comes from a binding. -/
theorem InputParameter.binding_of_flag {source : Value} {p : InputParameter}
    (h : (InputParameter.read source).outcome = .ok p) (hflag : p.flag ≠ .null) :
    ∃ binding, source.field? "inputBinding" = some binding ∧
      binding.field? "prefix" = some p.flag := by
  obtain ⟨b, hb, hsame, -⟩ := InputParameter.binding_of_read h
  have hfield : p.flag = boundField source "prefix" := by
    rw [hsame, Binding.eq_of_readOf hb]
  rw [hfield, boundField] at hflag ⊢
  cases hbinding : source.field? "inputBinding" with
  | none =>
    rw [hbinding] at hflag
    exact absurd rfl hflag
  | some binding =>
    rw [hbinding, Option.bind_some] at hflag
    refine ⟨binding, rfl, ?_⟩
    cases hheld : binding.field? "prefix" with
    | none =>
      rw [hheld] at hflag
      exact absurd rfl hflag
    | some flag => rw [Option.bind_some, hheld, Option.getD_some]

/-- The flag of a required input that the command mentions stands apart from the reference, and so as
its binding asks for exactly if the binding does not ask for the two to be joined. -/
theorem Tool.flags_stand_apart {ws : Workspace} {bound : Nat} {sourceDir tool : Value} {t : Tool}
    {text : String} {source : Value} {i : Nat} {p : InputParameter}
    (hread : (Tool.read ws bound sourceDir tool).outcome = .ok t) (htext : t.wdl = .ok text)
    (hsource : tool.ElementAt "inputs" i source) (hp : t.inputs[i]? = some p)
    (hrequired : p.required = true) (hkept : p.isLeftOut t.stdout = false)
    (hflag : p.flag ≠ .null) :
    ∃ binding task expression, ∃ c : task.BaseCut, ∃ part ∈ c.before ++ c.behind,
      source.field? "inputBinding" = some binding ∧ binding.field? "prefix" = some p.flag ∧
      Wdl.Task.ofRecord t.toRecord = .ok task ∧ task.commandSection = .ok c.text ∧
      p.toInput.part = .ok part ∧ p.toInput.expression = .ok expression ∧
      part.text = .str (flagged false p.flag.text expression) ∧
      (part.text = .str (flagged (asksJoined binding) p.flag.text expression) ↔
        asksJoined binding = false) := by
  obtain ⟨-, -, -, ⟨declared, hdeclared, hinputs⟩, -⟩ := Tool.read_eq_ok_iff.mp hread
  simp only [InputParameter.readAll, Logged.outcome_bind, Logged.outcome_lift,
    Logged.outcome_mapM] at hinputs
  obtain ⟨p', hp', hpread⟩ := hsource.exists_read hdeclared hinputs
  cases hp.symm.trans hp'
  obtain ⟨binding, hbinding, hgiven⟩ := InputParameter.binding_of_flag hpread hflag
  obtain ⟨base, s, bindings, -, -, htask, hs⟩ := Tool.exists_task_of_wdl htext
  obtain ⟨c, rfl⟩ := Wdl.Task.exists_baseCut hs
  have hmentioned : p.toInput ∈ (t.toTask (.str base) (bindings.map (·.toArgument))).mentioned :=
    (t.mem_mentioned_iff _ _ _).mpr ⟨p, List.mem_of_getElem? hp, hkept, rfl⟩
  obtain ⟨part, hplace, hpart⟩ := c.exists_part hmentioned
  obtain ⟨expression, hexpression, hpartText⟩ := Wdl.Input.part_of_flag hpart hflag hrequired
  refine ⟨binding, _, expression, c, part, hplace, hbinding, hgiven, htask, hs, hpart,
    hexpression, hpartText, ?_⟩
  rw [hpartText, Value.str.injEq]
  exact flagged_eq_apart_iff

def flagSample (more : List (String × Value)) : Value :=
  .mapping [("id", .str "t"), ("baseCommand", .str "ls"),
    ("inputs", .list [.mapping [("id", .str "#a"),
      ("type", .mapping [("type", .str "array"), ("items", .str "int")]), ("default", .int 3),
      ("inputBinding", .mapping (("prefix", .str "--in=") :: more))]]),
    ("outputs", .list [])]

/-- Without a wish, the flag stands apart as it should. -/
theorem Tool.flags_apart_flagSample : ∃ t text task,
    (Tool.read ⟨[], []⟩ 1 (.str "") (flagSample [])).outcome = .ok t ∧ t.wdl = .ok text ∧
    Wdl.Task.ofRecord t.toRecord = .ok task ∧ ∃ c : task.BaseCut, ∃ part ∈ c.before ++ c.behind,
      part.text = .str "--in= $\x7bsep=' ' default='3' a\x7d" := by
  obtain ⟨binding, task, expression, c, part, hplace, -, -, htask, -, -, hexpression, htext, -⟩ :=
    @Tool.flags_stand_apart ⟨[], []⟩ 1 (.str "") (flagSample []) _ _ _ 0 _ rfl rfl
      ⟨_, _, rfl, rfl, rfl⟩ rfl rfl rfl (fun hnull => by cases hnull)
  cases hexpression
  exact ⟨_, _, task, rfl, rfl, htask, c, part, hplace, htext⟩

/-- Where it asks to be joined, the flag stands apart all the same. -/
theorem Tool.flag_not_joined_flagSample : ∃ source binding t text task,
    (flagSample [("separate", .bool false)]).ElementAt "inputs" 0 source ∧
    source.field? "inputBinding" = some binding ∧ asksJoined binding = true ∧
    (Tool.read ⟨[], []⟩ 1 (.str "") (flagSample [("separate", .bool false)])).outcome = .ok t ∧
    t.wdl = .ok text ∧ Wdl.Task.ofRecord t.toRecord = .ok task ∧
    task.commandSection =
      .ok (" \\\n        ".intercalate ["ls", "--in= $\x7bsep=' ' default='3' a\x7d"]) :=
  ⟨_, _, _, _, _, ⟨_, _, rfl, rfl, rfl⟩, rfl, rfl, rfl, rfl, rfl, rfl⟩

end Cwl

end FlowConverter
