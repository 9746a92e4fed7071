import FlowConverter.Proofs.CommandLayout
import FlowConverter.Proofs.ToolDomain

/-! Where the base command stands. It is ordered by position like every other part, its position
being zero, and of the parts at zero it is the first. Main statement: before the base command stand
exactly the arguments and inputs with a position below zero, so it leads the command if and only if
there are none. -/
namespace FlowConverter

/-! ### Positions below zero -/

def Magnitude.isNegative : Magnitude → Bool
  | below => true
  | point q => decide (q < 0)
  | above => false

def Value.isNegative (v : Value) : Bool := v.magnitude?.any (·.isNegative)

theorem Magnitude.zero_le (m : Magnitude) : (point 0).le m = !m.isNegative := by
  cases m with
  | point q =>
    rw [le, isNegative, ← decide_not, decide_eq_decide]
    exact Rat.not_lt.symm
  | _ => rfl

theorem Value.zero_atMost (v : Value) : (Value.int 0).atMost v = !v.isNegative := by
  rw [atMost, isNegative]
  cases v.magnitude? with
  | none => rfl
  | some m => exact m.zero_le

namespace Wdl

/-- The part that comes first stands before all others of its position: only parts with lower
positions precede it. -/
theorem Arranged.split_first {first : Part} {rest ordered : List Part}
    (h : Arranged (first :: rest) ordered) :
    ∃ before behind, ordered = before ++ first :: behind ∧
      (∀ p ∈ before, first.position.atMost p.position = false) ∧
      ∀ p ∈ behind, first.position.atMost p.position = true := by
  obtain ⟨before, behind, rfl, hfirst⟩ :=
    List.eq_append_cons_of_mem (h.perm.mem_iff.mpr List.mem_cons_self)
  obtain ⟨-, hfrom, hacross⟩ := List.pairwise_append.mp h.ascending
  refine ⟨before, behind, rfl, ?_, (List.pairwise_cons.mp hfrom).1⟩
  intro p hp
  rw [Bool.eq_false_iff]
  intro hle
  have hsame : first.position.magnitude? = p.position.magnitude? :=
    Value.magnitude?_eq_of_atMost hle (hacross p hp first List.mem_cons_self)
  have hstable := h.stable first.position.magnitude?
  rw [List.filter_append, List.filter_cons_of_pos (by simp), List.filter_cons_of_pos (by simp)]
    at hstable
  cases hfilter : before.filter (·.position.magnitude? = first.position.magnitude?) with
  | nil =>
    have hmem : p ∈ before.filter (·.position.magnitude? = first.position.magnitude?) :=
      List.mem_filter.mpr ⟨hp, by simp [hsame]⟩
    rw [hfilter] at hmem
    cases hmem
  | cons q more =>
    rw [hfilter] at hstable
    obtain rfl : q = first := (List.cons.inj hstable).1
    have hmem : q ∈ before.filter (·.position.magnitude? = q.position.magnitude?) := by
      rw [hfilter]
      exact List.mem_cons_self
    exact hfirst (List.mem_filter.mp hmem).1

/-- A command section cut at its base command: the settings of the environment, the parts of
arguments and inputs on both sides of the base command, and the redirection. -/
structure Task.BaseCut (t : Task) where
  settings : List String
  arguments : List Part
  inputs : List Part
  before : List Part
  behind : List Part
  settings_of : List.Forall₂ (fun r s => r.settings = .ok (some (.str s)))
    (t.requirements.filter (·.isEnvironment)) settings
  arguments_of : t.command.arguments.mapM (·.part) = .ok arguments
  inputs_of : t.mentioned.mapM (·.part) = .ok inputs
  perm : (before ++ behind).Perm (arguments ++ inputs)
  before_negative : ∀ p ∈ before, p.position.isNegative = true
  behind_not_negative : ∀ p ∈ behind, p.position.isNegative = false

def Task.BaseCut.text {t : Task} (c : t.BaseCut) : String :=
  " \\\n        ".intercalate (c.settings.reverse ++ c.before.map (·.text.text) ++
    t.command.base.text :: c.behind.map (·.text.text) ++
    if t.stdout.isNull then [] else ["> $\x7b" ++ t.stdout.text ++ "\x7d"])

theorem Task.BaseCut.positions_eq {t : Task} (c : t.BaseCut) :
    (c.arguments ++ c.inputs).map (·.position) = t.positions := by
  rw [List.map_append, map_eq_map_of_mapM c.arguments_of fun _ _ h => (Argument.part_eq_ok h).1,
    map_eq_map_of_mapM c.inputs_of fun _ _ h => (Input.part_eq_ok h).1]
  rfl

/-- The base command leads exactly if no position is below zero. -/
theorem Task.BaseCut.before_eq_nil_iff {t : Task} (c : t.BaseCut) :
    c.before = [] ↔ ∀ v ∈ t.positions, v.isNegative = false := by
  rw [← c.positions_eq, List.forall_mem_map, List.eq_nil_iff_forall_not_mem]
  constructor
  · intro hnone p hp
    rcases List.mem_append.mp (c.perm.mem_iff.mpr hp) with hbefore | hbehind
    · exact absurd hbefore (hnone p)
    · exact c.behind_not_negative p hbehind
  · intro hnone p hp
    have hp' := hnone p (c.perm.mem_iff.mp (List.mem_append_left _ hp))
    rw [c.before_negative p hp] at hp'
    cases hp'

theorem Task.exists_baseCut {t : Task} {s : String} (h : t.commandSection = .ok s) :
    ∃ c : t.BaseCut, s = c.text := by
  obtain ⟨parts, texts, settings, hparts, htexts, -, hsettings, rfl⟩ := commandSection_eq_ok h
  obtain ⟨arguments, harguments, hparts⟩ := bind_eq_ok_iff.mp hparts
  obtain ⟨inputs, hinputs, hparts⟩ := bind_eq_ok_iff.mp hparts
  obtain rfl := Except.ok.inj hparts
  obtain ⟨ordered, harranged, rfl⟩ := arranged_of_orderParts rfl htexts
  obtain ⟨before, behind, rfl, hbefore, hbehind⟩ := harranged.split_first
  simp only [Value.zero_atMost, Bool.not_eq_false', Bool.not_eq_true'] at hbefore hbehind
  have hperm : (before ++ behind).Perm (arguments ++ inputs) :=
    (List.perm_middle.symm.trans harranged.perm).cons_inv
  refine ⟨⟨settings, arguments, inputs, before, behind, hsettings, harguments, hinputs, hperm,
    hbefore, hbehind⟩, ?_⟩
  simp only [BaseCut.text, List.map_map, List.map_append, List.map_cons, List.append_assoc]
  rfl

end Wdl

namespace Cwl

/-! ### Commands of tools -/

/-- The text of a base command: a text itself, or words side by side. -/
inductive CommandText : Value → String → Prop where
  | text (s : String) : CommandText (.str s) s
  | words {items : List Value} (h : ∀ v ∈ items, v.isText) :
    CommandText (.list items) (" ".intercalate (items.map (·.text)))

theorem commandText_of_readBase {v base : Value} (h : Wdl.Command.readBase v = .ok base)
    (hbase : base.isText) : ∃ s, base = .str s ∧ CommandText v s := by
  cases v with
  | list items =>
    obtain ⟨s, hs, h⟩ := bind_eq_ok_iff.mp h
    obtain ⟨htexts, rfl⟩ := Value.join_list_eq_ok hs
    exact ⟨_, (Except.ok.inj h).symm, .words htexts⟩
  | str s => exact ⟨s, (Except.ok.inj h).symm, .text s⟩
  | _ =>
    cases h
    cases hbase

def Argument.position? : Argument → Option Value
  | plain _ => none
  | bound b => some b.position

/-- The positions of the arguments and of the inputs that are not left out of the command. -/
def Tool.positions (t : Tool) : List Value :=
  t.arguments.filterMap (·.position?) ++
    (t.inputs.filter fun p => !p.isLeftOut t.stdout).map (·.position)

theorem Tool.positions_toTask {t : Tool} {base : Value} {bindings : List Binding}
    (h : t.arguments = bindings.map .bound) :
    (t.toTask base (bindings.map (·.toArgument))).positions = t.positions := by
  have harguments : t.arguments.filterMap (·.position?) = bindings.map (·.position) := by
    rw [h, List.filterMap_map]
    exact congrFun (@List.filterMap_eq_map _ _ Binding.position) bindings
  have hmentioned : (t.toTask base (bindings.map (·.toArgument))).mentioned =
      (t.inputs.filter fun p => !p.isLeftOut t.stdout).map (·.toInput) := by
    simp only [Wdl.Task.mentioned, toTask, List.filter_map, Function.comp_def,
      InputParameter.isOmitted_toInput]
  rw [Wdl.Task.positions, hmentioned, positions, harguments, toTask, List.map_map, List.map_map]
  rfl

/-- A tool with a text is a task whose arguments are bindings, and the task has a command. -/
theorem Tool.exists_task_of_wdl {t : Tool} {text : String} (h : t.wdl = .ok text) :
    ∃ base s, ∃ bindings : List Binding, t.arguments = bindings.map .bound ∧ CommandText t.baseCommand base ∧
      Wdl.Task.ofRecord t.toRecord = .ok (t.toTask (.str base) (bindings.map (·.toArgument))) ∧
      (t.toTask (.str base) (bindings.map (·.toArgument))).commandSection = .ok s := by
  obtain ⟨task, htask, h⟩ := bind_eq_ok_iff.mp h
  obtain ⟨-, s, hs⟩ := task.exists_text_iff.mp ⟨text, h⟩
  obtain ⟨base, bindings, hbase, hbindings, rfl⟩ := Tool.eq_toTask_of_ofRecord htask
  obtain ⟨-, -, -, hisText⟩ := (Wdl.Task.exists_commandSection_iff _).mp ⟨s, hs⟩
  obtain ⟨base, rfl, hcommand⟩ := commandText_of_readBase hbase hisText
  exact ⟨base, s, bindings, hbindings, hcommand, htask, hs⟩

/-- In the command of a tool, the arguments and inputs with positions below zero stand between the
settings of the environment and the base command. It leads if and only if there are none. -/
theorem Tool.negative_positions_precede_base {ws : Workspace} {bound : Nat}
    {sourceDir tool : Value} {t : Tool} {text : String}
    (hread : (Tool.read ws bound sourceDir tool).outcome = .ok t) (htext : t.wdl = .ok text) :
    ∃ command base task, tool.get "baseCommand" = .ok command ∧ CommandText command base ∧
      Wdl.Task.ofRecord t.toRecord = .ok task ∧ task.command.base = .str base ∧
      ∃ c : task.BaseCut, task.commandSection = .ok c.text ∧
        (c.before = [] ↔ ∀ v ∈ t.positions, v.isNegative = false) := by
  obtain ⟨-, -, hcommand, -⟩ := Tool.read_eq_ok_iff.mp hread
  obtain ⟨base, s, bindings, hbindings, hbase, htask, hs⟩ := Tool.exists_task_of_wdl htext
  obtain ⟨c, rfl⟩ := Wdl.Task.exists_baseCut hs
  have hbefore := c.before_eq_nil_iff
  rw [Tool.positions_toTask hbindings] at hbefore
  exact ⟨_, base, _, hcommand, hbase, htask, rfl, c, hs, hbefore⟩

def placingSample : Value :=
  .mapping [("id", .str "t"), ("baseCommand", .list [.str "sort", .str "-u"]),
    ("arguments", .list [.mapping [("valueFrom", .str "-r"), ("position", .null)]]),
    ("inputs", .list [
      .mapping [("id", .str "#a"), ("type", .str "File"),
        ("inputBinding", .mapping [("position", .float (.finite true 1 (-1)))])],
      .mapping [("id", .str "#b"), ("type", .str "boolean"),
        ("inputBinding", .mapping [("position", .int (-7))])]]),
    ("outputs", .list []),
    ("requirements", .list [.mapping [("class", .str "EnvVarRequirement"),
      ("envDef", .list [.mapping [("envName", .str "A"), ("envValue", .int 1)]])]])]

theorem Tool.negative_positions_placingSample : ∃ t task,
    (Tool.read ⟨[], []⟩ 1 (.str "") placingSample).outcome = .ok t ∧
    (∃ text, t.wdl = .ok text) ∧ Wdl.Task.ofRecord t.toRecord = .ok task ∧
    ∃ c : task.BaseCut, c.before ≠ [] ∧
      c.text = " \\\n        ".intercalate ["A='1'", "$\x7ba\x7d", "sort -u", "-r"] := by
  obtain ⟨command, base, task, -, -, htask, -, c, hs, hbefore⟩ :=
    @Tool.negative_positions_precede_base ⟨[], []⟩ 1 (.str "") placingSample _ _ rfl rfl
  refine ⟨_, task, rfl, ⟨_, rfl⟩, htask, c, ?_, ?_⟩
  · rw [ne_eq, hbefore]
    intro hnone
    cases hnone (.float (.finite true 1 (-1))) (List.mem_cons_of_mem _ List.mem_cons_self)
  · cases htask
    exact (Except.ok.inj hs).symm

def leadingSample : Value :=
  .mapping [("id", .str "t"), ("baseCommand", .str "ls"),
    ("inputs", .list [.mapping [("id", .str "#a"), ("type", .str "File"),
      ("inputBinding", .mapping [("position", .int (-1))])]]),
    ("outputs", .list [])]

/-- The input stands before the base command. -/
theorem Tool.base_preceded_leadingSample : ∃ t text task,
    (Tool.read ⟨[], []⟩ 1 (.str "") leadingSample).outcome = .ok t ∧ t.wdl = .ok text ∧
    Wdl.Task.ofRecord t.toRecord = .ok task ∧
    task.commandSection = .ok (" \\\n        ".intercalate ["$\x7ba\x7d", "ls"]) :=
  ⟨_, _, _, rfl, rfl, rfl, rfl⟩

end Cwl

end FlowConverter
