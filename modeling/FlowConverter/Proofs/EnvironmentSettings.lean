import FlowConverter.Proofs.CommandLayout
import FlowConverter.Proofs.RequirementLeaves
import FlowConverter.Proofs.ToolDomain

/-! Which value an environment variable gets. A command starts with assignments, and of the
assignments to one name the last is in effect. A tool lists its requirements before its hints and the
command turns their order round, so that the first requirement that defines a variable has the last
word, and no hint has one. -/
namespace FlowConverter.Cwl

/-- The value of a variable after assignments are made from left to right. -/
def inEffect (name : String) (assignments : List (String × String)) : Option String :=
  assignments.foldl (fun current a => if a.1 = name then some a.2 else current) none

theorem foldl_assign (name : String) (assignments : List (String × String))
    (current : Option String) :
    assignments.foldl (fun current a => if a.1 = name then some a.2 else current) current =
      (inEffect name assignments).or current := by
  induction assignments generalizing current with
  | nil => rfl
  | cons a rest ih =>
    rw [inEffect, List.foldl_cons, List.foldl_cons, ih, ih, Option.or_assoc]
    split
    · rfl
    · rfl

/-- Later assignments override earlier ones. -/
theorem inEffect_append (name : String) (earlier later : List (String × String)) :
    inEffect name (earlier ++ later) = (inEffect name later).or (inEffect name earlier) := by
  rw [inEffect, List.foldl_append, foldl_assign]
  rfl

theorem inEffect_cons (name : String) (a : String × String) (rest : List (String × String)) :
    inEffect name (a :: rest) =
      (inEffect name rest).or (if a.1 = name then some a.2 else none) := by
  rw [inEffect, List.foldl_cons, foldl_assign]

theorem inEffect_eq_none_iff {name : String} {assignments : List (String × String)} :
    inEffect name assignments = none ↔ name ∉ assignments.map (·.1) := by
  induction assignments with
  | nil => simp [inEffect]
  | cons a rest ih =>
    rw [inEffect_cons, Option.or_eq_none_iff, ih, List.map_cons, List.mem_cons, not_or, and_comm]
    refine and_congr_left' ?_
    split
    next h => simp [h]
    next h => simp [Ne.symm h]

/-- The value in effect is that of the last assignment. -/
theorem exists_last_of_inEffect {name value : String} {assignments : List (String × String)}
    (h : inEffect name assignments = some value) :
    ∃ earlier later, assignments = earlier ++ (name, value) :: later ∧ name ∉ later.map (·.1) := by
  induction assignments with
  | nil => cases h
  | cons a rest ih =>
    rw [inEffect_cons] at h
    cases hrest : inEffect name rest with
    | some v =>
      rw [hrest, Option.some_or] at h
      obtain ⟨earlier, later, rfl, hlater⟩ := ih (hrest.trans h)
      exact ⟨a :: earlier, later, rfl, hlater⟩
    | none =>
      rw [hrest, Option.none_or, Option.ite_none_right_eq_some] at h
      obtain ⟨rfl, h⟩ := h
      cases h
      exact ⟨[], rest, rfl, inEffect_eq_none_iff.mp hrest⟩

/-- If groups of assignments are made in the opposite order, the first group that assigns to a name
decides. -/
theorem inEffect_reverse (name : String) (groups : List (List (String × String))) :
    inEffect name groups.reverse.flatten = groups.findSome? (inEffect name) := by
  induction groups with
  | nil => rfl
  | cons group groups ih =>
    rw [List.reverse_cons, List.flatten_append, inEffect_append, ih, List.flatten_singleton,
      List.findSome?_cons]
    cases inEffect name group <;> rfl

/-- If some group assigns to a name, the last assignment in the first such group decides. -/
theorem exists_deciding_assignment {name : String} {groups : List (List (String × String))}
    (h : ∃ group ∈ groups, name ∈ group.map (·.1)) :
    ∃ before group after earlier value later,
      groups = before ++ group :: after ∧ (∀ other ∈ before, name ∉ other.map (·.1)) ∧
      group = earlier ++ (name, value) :: later ∧ name ∉ later.map (·.1) ∧
      groups.findSome? (inEffect name) = some value := by
  obtain ⟨group, hgroup, hname⟩ := h
  have hassigned : groups.findSome? (inEffect name) ≠ none := by
    intro hnone
    exact inEffect_eq_none_iff.mp (List.findSome?_eq_none_iff.mp hnone group hgroup) hname
  obtain ⟨value, hvalue⟩ := Option.ne_none_iff_exists'.mp hassigned
  obtain ⟨before, first, after, hsplit, hfirst, hbefore⟩ := List.findSome?_eq_some_iff.mp hvalue
  obtain ⟨earlier, later, hlast, hlater⟩ := exists_last_of_inEffect hfirst
  exact ⟨before, first, after, earlier, value, later, hsplit,
    fun other hother => inEffect_eq_none_iff.mp (hbefore other hother), hlast, hlater, hvalue⟩

/-! ### What requirements define -/

/-- The names and values that an environment requirement lists, as they are printed. -/
def Defines (entry : Value) (definitions : List (String × String)) : Prop :=
  ∃ listed items, entry.get "envDef" = .ok listed ∧ listed.items = .ok items ∧
    List.Forall₂ (fun item d => ∃ name value, item.get "envName" = .ok name ∧
      item.get "envValue" = .ok value ∧ d = (name.text, value.text)) items definitions

theorem Defines.unique {entry : Value} {definitions other : List (String × String)}
    (h : Defines entry definitions) (h' : Defines entry other) : definitions = other := by
  obtain ⟨listed, items, hlisted, hitems, h⟩ := h
  obtain ⟨listed', items', hlisted', hitems', h'⟩ := h'
  obtain rfl := Except.ok.inj (hlisted.symm.trans hlisted')
  obtain rfl := Except.ok.inj (hitems.symm.trans hitems')
  refine List.right_unique_forall₂' ?_ h h'
  rintro item _ _ ⟨name, value, hname, hvalue, rfl⟩ ⟨name', value', hname', hvalue', rfl⟩
  obtain rfl := Except.ok.inj (hname.symm.trans hname')
  obtain rfl := Except.ok.inj (hvalue.symm.trans hvalue')
  rfl

def Leaf.isEnvironment (leaf : Leaf) : Bool := isOfClass "EnvVarRequirement" leaf.entry

theorem defines_of_readVariables {entry listed : Value} {settings : List (Value × Value)}
    (hlisted : entry.get "envDef" = .ok listed) (h : readVariables listed = .ok settings) :
    Defines entry (settings.map fun v => (v.1.text, v.2.text)) := by
  obtain ⟨items, hitems, h⟩ := bind_eq_ok_iff.mp h
  refine ⟨listed, items, hlisted, hitems, ?_⟩
  rw [List.forall₂_map_right_iff]
  refine ((mapM_eq_ok_iff _ _ _).mp h).imp fun item v hv => ?_
  obtain ⟨name, hname, hv⟩ := bind_eq_ok_iff.mp hv
  obtain ⟨value, hvalue, hv⟩ := bind_eq_ok_iff.mp hv
  cases hv
  exact ⟨name, value, hname, hvalue, rfl⟩

/-- Of all leaves, the environment requirements are those that give assignments, and they give what
they define. -/
theorem defines_of_leaves {ws : Workspace} {leaves : List Leaf} {found : List Requirement}
    (hreports : ∀ leaf ∈ leaves, LeafReport leaf.entry (leaf.read ws))
    (h : (Logged.gather (Leaf.read ws) leaves).outcome = .ok found) :
    List.Forall₂ (fun leaf definitions => Defines leaf.entry definitions)
      (leaves.filter (·.isEnvironment)) (found.filterMap (·.assignments?)) := by
  induction leaves generalizing found with
  | nil =>
    cases h
    exact .nil
  | cons leaf leaves ih =>
    obtain ⟨hleaf, hrest⟩ := List.forall_mem_cons.mp hreports
    obtain ⟨first, more, hfirst, hmore, rfl⟩ := Logged.outcome_gather_cons h
    rw [List.filterMap_append, List.filter_cons, Leaf.isEnvironment]
    generalize leaf.read ws = report at hleaf hfirst
    cases hleaf with
    | environment hclass hlisted hsettings =>
      cases hfirst
      rw [if_pos hclass]
      exact .cons (defines_of_readVariables hlisted hsettings) (ih hrest hmore)
    | image hclass =>
      cases hfirst
      rw [hclass]
      exact ih hrest hmore
    | warning hclass =>
      cases hfirst
      rw [hclass]
      exact ih hrest hmore

/-! ### What commands assign -/

/-- The assignments at the head of the command of a tool, in groups: those of later requirements come
first. -/
def Tool.assignments (t : Tool) : List (List (String × String)) :=
  (t.requirements.filterMap (·.assignments?)).reverse

theorem Requirement.settings_eq_assignments {requirements : List Requirement}
    {settings : List String}
    (h : List.Forall₂ (fun (r : Wdl.Requirement) s => r.settings = .ok (some (.str s)))
      ((requirements.map (·.toRequirement)).filter (·.isEnvironment)) settings) :
    settings = (requirements.filterMap (·.assignments?)).map assignmentsText := by
  induction requirements generalizing settings with
  | nil =>
    cases h
    rfl
  | cons r requirements ih =>
    cases r with
    | docker image => exact ih h
    | environment listed =>
      obtain ⟨s, rest, hs, hrest, rfl⟩ := List.forall₂_cons_left_iff.mp h
      rw [settings_toRequirement] at hs
      cases hs
      rw [ih hrest]
      rfl

/-- Of the assignments that a command starts with, the one in effect for a name that some requirement
defines is the last definition of the name in the first such requirement. -/
theorem Tool.requirements_override_hints {ws : Workspace} {bound : Nat} {sourceDir tool : Value}
    {t : Tool} {task : Wdl.Task} {s : String}
    (hread : (Tool.read ws bound sourceDir tool).outcome = .ok t)
    (htask : Wdl.Task.ofRecord t.toRecord = .ok task) (hsection : task.commandSection = .ok s) :
    ∃ required leaves definitions ordered,
      listedUnder "requirements" tool = .ok required ∧ Leaves ws sourceDir required leaves ∧
      List.Forall₂ (fun leaf ds => Defines leaf.entry ds) (leaves.filter (·.isEnvironment))
        definitions ∧
      (task.parts >>= Wdl.orderParts) = .ok ordered ∧
      s = Wdl.partSeparator.intercalate (t.assignments.map assignmentsText ++ ordered.map (·.text) ++
        if task.stdout.isNull then [] else ["> $\x7b" ++ task.stdout.text ++ "\x7d"]) ∧
      ∀ name, (∃ ds ∈ definitions, name ∈ ds.map (·.1)) →
        ∃ before ds after earlier value later,
          definitions = before ++ ds :: after ∧ (∀ other ∈ before, name ∉ other.map (·.1)) ∧
          ds = earlier ++ (name, value) :: later ∧ name ∉ later.map (·.1) ∧
          inEffect name t.assignments.flatten = some value := by
  obtain ⟨-, -, -, -, -, hrequirements, -, -⟩ := Tool.read_eq_ok_iff.mp hread
  obtain ⟨required, hinted, hrequired, -, hpart⟩ := Requirement.readPart_eq_readAll hrequirements
  rw [hpart, Requirement.readAll_append, Logged.outcome_bind] at hrequirements
  obtain ⟨first, hfirst, hrequirements⟩ := bind_eq_ok_iff.mp hrequirements
  rw [Logged.outcome_bind] at hrequirements
  obtain ⟨second, -, hrequirements⟩ := bind_eq_ok_iff.mp hrequirements
  obtain ⟨leaves, hleaves, hgather, hreports⟩ := Requirement.readsLeaves_readAll hfirst
  rw [hgather] at hfirst
  rw [Wdl.Task.ofRecord_toRecord] at htask
  obtain ⟨base, -, htask⟩ := bind_eq_ok_iff.mp htask
  obtain ⟨arguments, -, htask⟩ := bind_eq_ok_iff.mp htask
  obtain rfl := Except.ok.inj htask
  obtain ⟨parts, ordered, settings, hparts, hordered, -, hsettings, rfl⟩ :=
    Wdl.Task.commandSection_eq_ok hsection
  refine ⟨required, leaves, first.filterMap (·.assignments?), ordered, hrequired, hleaves,
    defines_of_leaves hreports hfirst, bind_eq_ok_iff.mpr ⟨parts, hparts, hordered⟩, ?_, ?_⟩
  · rw [Requirement.settings_eq_assignments hsettings, Tool.assignments, List.map_reverse]
  · intro name hname
    obtain ⟨before, ds, after, earlier, value, later, hsplit, hbefore, hlast, hlater, hvalue⟩ :=
      exists_deciding_assignment hname
    refine ⟨before, ds, after, earlier, value, later, hsplit, hbefore, hlast, hlater, ?_⟩
    rw [Tool.assignments, inEffect_reverse, ← Except.ok.inj hrequirements, List.filterMap_append,
      List.findSome?_append, hvalue, Option.some_or]

def defining (definitions : List (String × Value)) : Value :=
  .mapping [("class", .str "EnvVarRequirement"), ("envDef", .list (definitions.map fun d =>
    .mapping [("envName", .str d.1), ("envValue", d.2)]))]

theorem defines_defining (definitions : List (String × Value)) :
    Defines (defining definitions) (definitions.map fun d => (d.1, d.2.text)) := by
  refine ⟨_, _, rfl, rfl, ?_⟩
  rw [List.forall₂_map_left_iff, List.forall₂_map_right_iff, List.forall₂_same]
  exact fun d _ => ⟨.str d.1, d.2, rfl, rfl, rfl⟩

def definingFiles : Workspace where
  files := [(["a.cwl"], .list [Requirement.importing "b.cwl"]), (["b.cwl"], defining [("B", .int 7)])]
  directory := []

def overridingSample : Value :=
  .mapping [("baseCommand", .str "env"), ("inputs", .list []), ("outputs", .list []),
    ("requirements", .list [Requirement.importing "a.cwl",
      defining [("A", .int 1), ("A", .int 2), ("B", .null)]]),
    ("hints", .list [defining [("A", .int 3), ("C", .int 4)]])]

def overridingLeaves : List Leaf :=
  [⟨.null, defining [("B", .int 7)]⟩,
    ⟨.str "d", defining [("A", .int 1), ("A", .int 2), ("B", .null)]⟩]

theorem leaves_overridingSample :
    Leaves definingFiles (.str "d") [Requirement.importing "a.cwl",
      defining [("A", .int 1), ("A", .int 2), ("B", .null)]] overridingLeaves := by
  have hclassed : ∀ definitions sourceDir path file, Imports (defining definitions) path →
      definingFiles.locate sourceDir path ≠ .ok (some file) := by
    rintro definitions sourceDir path file ⟨hclass, -⟩
    cases hclass
  have hfirst : definingFiles.read "a.cwl" = .ok (.list [Requirement.importing "b.cwl"]) := rfl
  have hsecond : definingFiles.read "b.cwl" = .ok (defining [("B", .int 7)]) := rfl
  have hnested : Leaves definingFiles .null [Requirement.importing "b.cwl"]
      [⟨.null, defining [("B", .int 7)]⟩] :=
    Leaves.imported (imports_mapping (.inr rfl) "b.cwl") rfl hsecond
      (.leaf (hclassed _ _) .nil) .nil
  exact Leaves.imported (imports_mapping (.inr rfl) "a.cwl") rfl hfirst hnested
    (.leaf (hclassed _ _) .nil)

theorem Tool.requirements_override_hints_overridingSample :
    ∃ t task s before after earlier later,
      (Tool.read definingFiles 2 (.str "d") overridingSample).outcome = .ok t ∧
      Wdl.Task.ofRecord t.toRecord = .ok task ∧ task.commandSection = .ok s ∧
      [[("B", "7")], [("A", "1"), ("A", "2"), ("B", "None")]] =
        before ++ (earlier ++ ("A", "2") :: later) :: after ∧
      (∀ other ∈ before, "A" ∉ other.map (·.1)) ∧ "A" ∉ later.map (·.1) ∧
      inEffect "A" t.assignments.flatten = some "2" := by
  obtain ⟨required, leaves, definitions, ordered, hrequired, hleaves, hdefines, -, -, hin⟩ :=
    @Tool.requirements_override_hints definingFiles 2 (.str "d") overridingSample _ _ _ rfl rfl rfl
  cases hrequired
  obtain rfl := hleaves.unique leaves_overridingSample
  have hlisted : List.Forall₂ (fun (leaf : Leaf) ds => Defines leaf.entry ds) overridingLeaves
      [[("B", "7")], [("A", "1"), ("A", "2"), ("B", "None")]] :=
    .cons (defines_defining _) (.cons (defines_defining _) .nil)
  have hdefinitions : definitions = [[("B", "7")], [("A", "1"), ("A", "2"), ("B", "None")]] :=
    List.right_unique_forall₂' (fun leaf _ _ => @Defines.unique leaf.entry _ _) hdefines hlisted
  obtain ⟨before, _, after, earlier, value, later, hsplit, hbefore, rfl, hlater, hvalue⟩ :=
    hin "A" (by simp [hdefinitions])
  cases hvalue
  exact ⟨_, _, _, before, after, earlier, later, rfl, rfl, rfl, hdefinitions.symm.trans hsplit,
    hbefore, hlater, rfl⟩

end FlowConverter.Cwl
