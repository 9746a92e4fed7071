import FlowConverter.Proofs.CommandDomain
import FlowConverter.Proofs.RequirementLeaves

/-! How many warnings a tool gives. Expressions that take the place of a text, outputs that are not
collected by a text, and leaves of requirements that have no counterpart are reported once each,
and nothing else is. -/
namespace FlowConverter

namespace Value

def field? (key : String) : Value → Option Value
  | mapping fields => fields.lookup key
  | _ => none

def isExpression (v : Value) : Bool := !v.isNull && !v.isText

theorem field?_of_get {key : String} {v w : Value} (h : v.get key = .ok w) :
    v.field? key = some w := by
  cases v with
  | mapping fields => exact get_mapping_eq_ok_iff.mp h
  | _ => cases h

theorem field?_of_not_has {key : String} {v : Value} (h : v.has key = .ok false) :
    v.field? key = none := by
  cases v with
  | mapping fields => exact lookup_of_not_has h
  | _ => rfl

theorem getOrNull_eq_ok {key : String} {v w : Value} (h : v.getOrNull key = .ok w) :
    w = (v.field? key).getD .null := by
  obtain ⟨found, hfound, h⟩ := bind_eq_ok_iff.mp h
  cases found with
  | true => rw [field?_of_get h, Option.getD_some]
  | false => rw [field?_of_not_has hfound, Option.getD_none, Except.ok.inj h]

end Value

namespace Logged

variable {ε α β : Type}

/-- A walk that comes to its end logs as often as a test picks out an item, if each item logs so. -/
theorem length_log_mapM {f : α → Logged ε β} {p : α → Bool}
    (hp : ∀ x y, (f x).outcome = .ok y → (f x).log.length = if p x then 1 else 0)
    {xs : List α} {ys : List β} (h : (xs.mapM f).outcome = .ok ys) :
    (xs.mapM f).log.length = xs.countP p := by
  induction xs generalizing ys with
  | nil => rfl
  | cons x xs ih =>
    rw [List.mapM_cons, outcome_bind] at h
    obtain ⟨y, hy, h⟩ := bind_eq_ok_iff.mp h
    rw [outcome_bind] at h
    obtain ⟨rest, hrest, -⟩ := bind_eq_ok_iff.mp h
    rw [List.mapM_cons, bind_of_ok hy, bind_of_ok hrest, List.countP_cons, List.length_append,
      hp x y hy, List.length_append, ih hrest, log_pure]
    simp [Nat.add_comm]

end Logged

namespace Cwl

/-- An input without a default of its own whose binding takes the value from an expression. -/
def takesExpression (input : Value) : Bool :=
  (input.field? "default").isNone &&
    ((input.field? "inputBinding").bind (·.field? "valueFrom")).any (·.isExpression)

/-- An output that is collected by the files that a text names. -/
def collectsText (output : Value) : Bool :=
  ((output.field? "outputBinding").bind (·.field? "glob")).any (·.isText)

/-- A stream that is named, but not by a text. -/
def namesExpression (stream : Stream) (tool : Value) : Bool :=
  (tool.field? stream.name).any (!·.isText)

/-! ### Inputs -/

/-- What the binding of an input holds under a key; null if there is nothing. -/
def boundField (input : Value) (key : String) : Value :=
  ((input.field? "inputBinding").bind (·.field? key)).getD .null

theorem Binding.eq_of_readOf {source : Value} {b : Binding} (h : Binding.readOf source = .ok b) :
    b = ⟨boundField source "prefix", boundField source "position",
      boundField source "itemSeparator", boundField source "valueFrom"⟩ := by
  obtain ⟨found, hfound, h⟩ := bind_eq_ok_iff.mp h
  cases found with
  | true =>
    obtain ⟨v, hv, h⟩ := bind_eq_ok_iff.mp h
    obtain ⟨flag, hflag, h⟩ := bind_eq_ok_iff.mp h
    obtain ⟨position, hposition, h⟩ := bind_eq_ok_iff.mp h
    obtain ⟨separator, hseparator, h⟩ := bind_eq_ok_iff.mp h
    obtain ⟨value, hvalue, h⟩ := bind_eq_ok_iff.mp h
    cases h
    simp only [boundField, Value.field?_of_get hv, Option.bind_some, Value.getOrNull_eq_ok hflag,
      Value.getOrNull_eq_ok hposition, Value.getOrNull_eq_ok hseparator,
      Value.getOrNull_eq_ok hvalue]
  | false =>
    cases h
    simp only [boundField, Value.field?_of_not_has hfound]
    rfl

theorem Binding.value_of_readOf {source : Value} {b : Binding} (h : Binding.readOf source = .ok b) :
    b.value = ((source.field? "inputBinding").bind (·.field? "valueFrom")).getD .null := by
  rw [eq_of_readOf h]
  rfl

theorem length_log_readDefault {source : Value} {b : Binding} {default : Option String}
    (h : (readDefault source b).outcome = .ok default) :
    (readDefault source b).log.length =
      if (source.field? "default").isNone && b.value.isExpression then 1 else 0 := by
  refine Logged.of_lift_bind (·.log.length = _) h fun found hfound h => ?_
  cases found with
  | true =>
    refine Logged.of_lift_bind (·.log.length = _) h fun v hv _ => ?_
    rw [Value.field?_of_get hv]
    rfl
  | false =>
    rw [Value.field?_of_not_has hfound]
    cases b.value <;> rfl

theorem InputParameter.length_log_read {source : Value} {p : InputParameter}
    (h : (InputParameter.read source).outcome = .ok p) :
    (InputParameter.read source).log.length = if takesExpression source then 1 else 0 := by
  refine Logged.of_lift_bind (·.log.length = _) h fun name _ h => ?_
  refine Logged.of_lift_bind (·.log.length = _) h fun _ _ h => ?_
  refine Logged.of_lift_bind (·.log.length = _) h fun required _ h => ?_
  refine Logged.of_lift_bind (·.log.length = _) h fun _ _ h => ?_
  refine Logged.of_lift_bind (·.log.length = _) h fun type _ h => ?_
  refine Logged.of_lift_bind (·.log.length = _) h fun binding hbinding h => ?_
  rw [Logged.outcome_bind] at h
  obtain ⟨default, hdefault, -⟩ := bind_eq_ok_iff.mp h
  rw [Logged.bind_of_ok hdefault, Logged.log_pure, List.append_nil, length_log_readDefault hdefault,
    Binding.value_of_readOf hbinding, takesExpression]
  cases (source.field? "inputBinding").bind (·.field? "valueFrom") <;> rfl

/-! ### Outputs -/

theorem length_log_readSource {source v : Value} (h : (readSource source).outcome = .ok v) :
    (readSource source).log.length = if !collectsText source then 1 else 0 := by
  refine Logged.of_lift_bind (·.log.length = _) h fun bound hbound h => ?_
  cases bound with
  | false =>
    rw [collectsText, Value.field?_of_not_has hbound]
    rfl
  | true =>
    refine Logged.of_lift_bind (·.log.length = _) h fun binding hbinding h => ?_
    refine Logged.of_lift_bind (·.log.length = _) h fun globbed hglobbed h => ?_
    rw [collectsText, Value.field?_of_get hbinding, Option.bind_some]
    cases globbed with
    | false =>
      rw [Value.field?_of_not_has hglobbed]
      rfl
    | true =>
      refine Logged.of_lift_bind (·.log.length = _) h fun glob hglob _ => ?_
      rw [Value.field?_of_get hglob]
      cases glob <;> rfl

theorem OutputParameter.length_log_read {source : Value} {p : OutputParameter}
    (h : (OutputParameter.read source).outcome = .ok p) :
    (OutputParameter.read source).log.length = if !collectsText source then 1 else 0 := by
  refine Logged.of_lift_bind (·.log.length = _) h fun name _ h => ?_
  refine Logged.of_lift_bind (·.log.length = _) h fun _ _ h => ?_
  refine Logged.of_lift_bind (·.log.length = _) h fun required _ h => ?_
  refine Logged.of_lift_bind (·.log.length = _) h fun _ _ h => ?_
  refine Logged.of_lift_bind (·.log.length = _) h fun type _ h => ?_
  rw [Logged.outcome_bind] at h
  obtain ⟨v, hv, -⟩ := bind_eq_ok_iff.mp h
  rw [Logged.bind_of_ok hv, Logged.log_pure, List.append_nil, length_log_readSource hv]

/-! ### Streams -/

theorem length_log_readStream {tool : Value} {stream : Stream} {clean : String → String}
    {name : Option String} (h : (readStream tool stream clean).outcome = .ok name) :
    (readStream tool stream clean).log.length = if namesExpression stream tool then 1 else 0 := by
  refine Logged.of_lift_bind (·.log.length = _) h fun named hnamed h => ?_
  cases named with
  | false =>
    rw [namesExpression, Value.field?_of_not_has hnamed]
    rfl
  | true =>
    refine Logged.of_lift_bind (·.log.length = _) h fun v hv _ => ?_
    rw [namesExpression, Value.field?_of_get hv]
    cases v <;> rfl

/-! ### Requirements -/

/-- Leaves that give one requirement or one warning each give as many of both as they are. -/
theorem length_gather_leaves {ws : Workspace} {leaves : List Leaf}
    (hone : ∀ leaf ∈ leaves, GivesOne (leaf.read ws)) {found : List Requirement}
    (h : (Logged.gather (Leaf.read ws) leaves).outcome = .ok found) :
    (Logged.gather (Leaf.read ws) leaves).log.length + found.length = leaves.length := by
  induction leaves generalizing found with
  | nil =>
    cases h
    rfl
  | cons leaf leaves ih =>
    obtain ⟨hleaf, hrest⟩ := List.forall_mem_cons.mp hone
    obtain ⟨first, more, hfirst, hmore, rfl⟩ := Logged.outcome_gather_cons h
    have hsingle : (leaf.read ws).log.length + first.length = 1 := by
      rcases hleaf with ⟨requirement, hread⟩ | ⟨warning, hread⟩
      · rw [hread] at hfirst ⊢
        cases hfirst
        rfl
      · rw [hread] at hfirst ⊢
        cases hfirst
        rfl
    have hcount := ih hrest hmore
    rw [Logged.gather, Logged.bind_of_ok hfirst, Logged.bind_of_ok hmore]
    simp only [List.length_append, List.length_cons, Logged.log_pure, List.length_nil]
    omega

/-! ### Tools -/

/-- What a tool that can be read reports: its inputs, its outputs, its requirements and its streams,
in this order. -/
theorem Tool.log_read {ws : Workspace} {bound : Nat} {sourceDir tool : Value} {t : Tool}
    (h : (Tool.read ws bound sourceDir tool).outcome = .ok t) :
    ∃ inputs outputs,
      listedUnder "inputs" tool = .ok inputs ∧ listedUnder "outputs" tool = .ok outputs ∧
      (inputs.mapM InputParameter.read).outcome = .ok t.inputs ∧
      (outputs.mapM OutputParameter.read).outcome = .ok t.outputs ∧
      (Tool.read ws bound sourceDir tool).log =
        (inputs.mapM InputParameter.read).log ++ ((outputs.mapM OutputParameter.read).log ++
          ((Requirement.readPart ws bound sourceDir tool).log ++
            ((readStream tool .stdout fun s => safeName (dropReference s)).log ++
              (readStream tool .stdin id).log))) := by
  obtain ⟨hname, harguments, hbase, ⟨v, hv, hinputs⟩, ⟨w, hw, houtputs⟩, hrequirements, hstdout,
    hstdin⟩ := Tool.read_eq_ok_iff.mp h
  rw [InputParameter.readAll, Logged.outcome_bind, Logged.outcome_lift] at hinputs
  rw [OutputParameter.readAll, Logged.outcome_bind, Logged.outcome_lift] at houtputs
  obtain ⟨inputs, hlisted, hinputs⟩ := bind_eq_ok_iff.mp hinputs
  obtain ⟨outputs, hlisted', houtputs⟩ := bind_eq_ok_iff.mp houtputs
  refine ⟨inputs, outputs, (listedUnder_of_get hv).trans hlisted,
    (listedUnder_of_get hw).trans hlisted', hinputs, houtputs, ?_⟩
  rw [Tool.read, hname]
  simp only [InputParameter.readAll, OutputParameter.readAll, harguments, hbase, hv, hw, hlisted,
    hlisted', Logged.lift_ok, pure_bind, Logged.bind_of_ok hinputs, Logged.bind_of_ok houtputs,
    Logged.bind_of_ok hrequirements, Logged.bind_of_ok hstdout, Logged.bind_of_ok hstdin,
    Logged.log_pure, List.append_nil]

/-- The warnings of a tool that can be read: one for each input that takes an expression, for each
output that no text collects, for each leaf that gives no requirement, and for each stream that is
named by an expression. -/
theorem Tool.length_warnings {ws : Workspace} {bound : Nat} {sourceDir tool : Value} {t : Tool}
    (h : (Tool.read ws bound sourceDir tool).outcome = .ok t) :
    ∃ inputs outputs required hinted leaves,
      listedUnder "inputs" tool = .ok inputs ∧ listedUnder "outputs" tool = .ok outputs ∧
      listedUnder "requirements" tool = .ok required ∧ listedUnder "hints" tool = .ok hinted ∧
      Leaves ws sourceDir (required ++ hinted) leaves ∧
      (∀ other, Leaves ws sourceDir (required ++ hinted) other → other = leaves) ∧
      (∀ leaf ∈ leaves, GivesOne (leaf.read ws)) ∧
      (Logged.gather (Leaf.read ws) leaves).outcome = .ok t.requirements ∧
      (Logged.gather (Leaf.read ws) leaves).log <:+: (Tool.read ws bound sourceDir tool).log ∧
      t.requirements.length ≤ leaves.length ∧
      (Tool.read ws bound sourceDir tool).log.length =
        inputs.countP takesExpression + outputs.countP (!collectsText ·) +
          (leaves.length - t.requirements.length) +
          (if namesExpression .stdout tool then 1 else 0) +
          if namesExpression .stdin tool then 1 else 0 := by
  obtain ⟨-, -, -, -, -, hrequirements, hstdout, hstdin⟩ := Tool.read_eq_ok_iff.mp h
  obtain ⟨inputs, outputs, hinputs, houtputs, hreadInputs, hreadOutputs, hlog⟩ := Tool.log_read h
  obtain ⟨required, hinted, hrequired, hhinted, hpart⟩ :=
    Requirement.readPart_eq_readAll hrequirements
  rw [hpart] at hrequirements hlog
  obtain ⟨leaves, hleaves, hgather, hreports⟩ := Requirement.readsLeaves_readAll hrequirements
  rw [hgather] at hrequirements hlog
  have hone : ∀ leaf ∈ leaves, GivesOne (leaf.read ws) := fun leaf hleaf =>
    (hreports leaf hleaf).givesOne
  have hcount := length_gather_leaves hone hrequirements
  refine ⟨inputs, outputs, required, hinted, leaves, hinputs, houtputs, hrequired, hhinted, hleaves,
    fun other hother => hother.unique hleaves, hone, hrequirements, ?_, by omega, ?_⟩
  · rw [hlog]
    exact ((List.prefix_append _ _).isInfix.trans (List.suffix_append _ _).isInfix).trans
      (List.suffix_append _ _).isInfix
  · have hlengthInputs :
        (inputs.mapM InputParameter.read).log.length = inputs.countP takesExpression :=
      Logged.length_log_mapM (fun _ _ => InputParameter.length_log_read) hreadInputs
    have hlengthOutputs :
        (outputs.mapM OutputParameter.read).log.length = outputs.countP (!collectsText ·) :=
      Logged.length_log_mapM (fun _ _ => OutputParameter.length_log_read) hreadOutputs
    rw [hlog, List.length_append, List.length_append, List.length_append, List.length_append,
      hlengthInputs, hlengthOutputs, length_log_readStream hstdout, length_log_readStream hstdin]
    omega

def requirementFiles : Workspace where
  files := [(["a.cwl"],
      .list [Requirement.importing "b.cwl", .mapping [("class", .str "DockerRequirement")]]),
    (["b.cwl"], .mapping [("class", .str "EnvVarRequirement"), ("envDef", .list [])])]
  directory := []

def untranslatedSample : Value :=
  .mapping [("baseCommand", .str "sort"),
    ("inputs", .list [
      .mapping [("id", .str "kept"), ("type", .str "int"), ("default", .int 1),
        ("inputBinding", .mapping [("valueFrom", .int 2)])],
      .mapping [("id", .str "given"), ("type", .str "File"),
        ("inputBinding", .mapping [("valueFrom", .mapping [])])]]),
    ("outputs", .list [
      .mapping [("id", .str "lost"), ("type", .str "File")],
      .mapping [("id", .str "found"), ("type", .str "File"),
        ("outputBinding", .mapping [("glob", .str "found.txt")])]]),
    ("requirements", .list [Requirement.importing "a.cwl", Requirement.importing "missing.cwl"]),
    ("hints", .list [.mapping [("class", .str "DockerRequirement"), ("dockerPull", .str "alpine")],
      .mapping [("coresMin", .int 4)]]),
    ("stdout", .null), ("stdin", .str "in.txt")]

theorem Tool.length_warnings_untranslatedSample :
    ∃ t required hinted leaves,
      (Tool.read requirementFiles 2 (.str "d") untranslatedSample).outcome = .ok t ∧
      listedUnder "requirements" untranslatedSample = .ok required ∧
      listedUnder "hints" untranslatedSample = .ok hinted ∧
      Leaves requirementFiles (.str "d") (required ++ hinted) leaves ∧
      leaves.length = 5 ∧ t.requirements.length = 2 ∧
      (Tool.read requirementFiles 2 (.str "d") untranslatedSample).log.length =
        1 + 1 + (leaves.length - t.requirements.length) + 1 + 0 := by
  obtain ⟨inputs, outputs, required, hinted, leaves, hinputs, houtputs, hrequired, hhinted, hleaves,
    -, -, -, -, -, hcount⟩ :=
    @Tool.length_warnings requirementFiles 2 (.str "d") untranslatedSample _ rfl
  cases hinputs
  cases houtputs
  have hlength : (Tool.read requirementFiles 2 (.str "d") untranslatedSample).log.length = 6 := rfl
  have hsix : 6 = 1 + 1 + (leaves.length - 2) + 1 + 0 := hlength.symm.trans hcount
  exact ⟨_, required, hinted, leaves, rfl, hrequired, hhinted, hleaves, by omega, rfl, hcount⟩

end Cwl

end FlowConverter
