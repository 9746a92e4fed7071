import Mathlib.Data.List.Nodup
import Mathlib.Data.List.Perm.Basic
import FlowConverter.Proofs.BasePlace

/-! When the order of declaration does not matter. The parts of a command are ordered by position,
and only parts of one position keep the order they came in. Main statement: if the positions of a
tool are numbers, all of them different and none of them that of the base command, then its inputs
and its arguments may be listed in any order, and the command stays the same. -/
namespace FlowConverter

/-- What is read from a list in another order is the same in another order. -/
theorem exists_perm_mapM {α β : Type} {f : α → Except Fault β} {xs xs' : List α} {ys : List β}
    (h : xs.Perm xs') (hread : xs.mapM f = .ok ys) :
    ∃ ys', ys.Perm ys' ∧ xs'.mapM f = .ok ys' := by
  obtain ⟨ys', hread', hperm⟩ := List.perm_comp_forall₂ h.symm ((mapM_eq_ok_iff _ _ _).mp hread)
  exact ⟨ys', hperm.symm, (mapM_eq_ok_iff _ _ _).mpr hread'⟩

namespace Wdl

/-! ### Positions that decide -/

/-- Positions that leave nothing to the order of declaration: numbers other than zero, no two of
them equal. -/
structure Decisive (positions : List Value) : Prop where
  numbers : ∀ v ∈ positions, v.isNumber
  nonzero : ∀ v ∈ positions, v.equals (.int 0) = false
  distinct : positions.Pairwise fun v w => v.equals w = false

theorem Decisive.nodup {positions : List Value} (h : Decisive positions) :
    ((Value.int 0 :: positions).map (·.magnitude?)).Nodup := by
  have hequal : ∀ v ∈ positions, ∀ w, v.magnitude? = w.magnitude? → v.equals w = true := by
    intro v hv w heq
    obtain ⟨m, hm⟩ := Option.isSome_iff_exists.mp (h.numbers v hv)
    rw [Value.equals_eq_beq hm (heq ▸ hm), beq_self_eq_true]
  rw [List.map_cons, List.nodup_cons]
  constructor
  · intro hzero
    obtain ⟨v, hv, heq⟩ := List.mem_map.mp hzero
    have hne := h.nonzero v hv
    rw [hequal v hv _ heq] at hne
    cases hne
  · refine List.pairwise_map.mpr (h.distinct.imp_of_mem fun {v w} hv _ hne heq => ?_)
    rw [hequal v hv w heq] at hne
    cases hne

/-- Parts of different positions have one arrangement only. -/
theorem Arranged.eq_of_perm {parts parts' ordered ordered' : List Part}
    (h : Arranged parts ordered) (h' : Arranged parts' ordered') (hperm : parts.Perm parts')
    (hdistinct : (parts.map (·.position.magnitude?)).Nodup) : ordered = ordered' := by
  refine List.Perm.eq_of_pairwise ?_ h.ascending h'.ascending
    (h.perm.trans (hperm.trans h'.perm.symm))
  intro p q hp hq hpq hqp
  have hp' : p ∈ parts := h.perm.mem_iff.mp hp
  have hq' : q ∈ parts := hperm.mem_iff.mpr (h'.perm.mem_iff.mp hq)
  exact List.inj_on_of_nodup_map hdistinct hp' hq' (Value.magnitude?_eq_of_atMost hpq hqp)

theorem orderParts_of_perm {first : Part} {rest rest' : List Part} {texts : List Value}
    (hfirst : first.position.isNumber) (hperm : rest.Perm rest')
    (hdistinct : ((first :: rest).map (·.position.magnitude?)).Nodup)
    (h : orderParts (first :: rest) = .ok texts) : orderParts (first :: rest') = .ok texts := by
  have hpositions := (exists_orderParts_iff hfirst).mp ⟨texts, h⟩
  obtain ⟨texts', h'⟩ := (exists_orderParts_iff hfirst).mpr fun p hp =>
    hpositions p (hperm.mem_iff.mpr hp)
  obtain ⟨ordered, harranged, rfl⟩ := arranged_of_orderParts hfirst h
  obtain ⟨ordered', harranged', rfl⟩ := arranged_of_orderParts hfirst h'
  rw [h', harranged.eq_of_perm harranged' (hperm.cons first) hdistinct]

/-- Two tasks whose commands consist of the same parts. -/
structure Task.Rearranged (t t' : Task) : Prop where
  base : t.command.base = t'.command.base
  arguments : t.command.arguments.Perm t'.command.arguments
  inputs : t.command.inputs.Perm t'.command.inputs
  requirements : t.requirements = t'.requirements
  stdout : t.stdout = t'.stdout

theorem Task.Rearranged.parts {t t' : Task} {parts : List Part} (h : t.Rearranged t')
    (hparts : t.parts = .ok parts) :
    ∃ rest rest', rest.Perm rest' ∧ rest.map (·.position) = t.positions ∧
      parts = ⟨.int 0, t.command.base⟩ :: rest ∧
      t'.parts = .ok (⟨.int 0, t.command.base⟩ :: rest') := by
  obtain ⟨rest, rfl, -, hpositions⟩ := parts_eq_ok hparts
  obtain ⟨arguments, harguments, hparts⟩ := bind_eq_ok_iff.mp hparts
  obtain ⟨inputs, hinputs, hparts⟩ := bind_eq_ok_iff.mp hparts
  obtain rfl := (List.cons.inj (Except.ok.inj hparts)).2
  obtain ⟨arguments', hperm, harguments'⟩ := exists_perm_mapM h.arguments harguments
  obtain ⟨inputs', hperm', hinputs'⟩ := exists_perm_mapM (h.inputs.filter _) hinputs
  refine ⟨_, arguments' ++ inputs', hperm.append hperm', hpositions, rfl, ?_⟩
  rw [Task.parts, harguments', ok_bind, ← h.stdout, hinputs', ok_bind, ← h.base]
  rfl

/-- Arguments and inputs in another order make the same command. -/
theorem Task.Rearranged.commandSection {t t' : Task} {s : String} (h : t.Rearranged t')
    (hdecisive : Decisive t.positions) (hs : t.commandSection = .ok s) :
    t'.commandSection = .ok s := by
  obtain ⟨parts, hparts, hs⟩ := bind_eq_ok_iff.mp hs
  obtain ⟨ordered, hordered, hjoined⟩ := bind_eq_ok_iff.mp hs
  obtain ⟨rest, rest', hperm, hpositions, rfl, hparts'⟩ := h.parts hparts
  have hdistinct : ((⟨.int 0, t.command.base⟩ :: rest).map (·.position.magnitude?)).Nodup := by
    have hnodup := hdecisive.nodup
    rw [← hpositions, List.map_cons, List.map_map] at hnodup
    exact hnodup
  have hordered' := orderParts_of_perm rfl hperm hdistinct hordered
  rw [Task.commandSection, hparts', ok_bind, hordered', ok_bind, ← h.requirements, ← h.stdout]
  exact hjoined

end Wdl

/-! ### Tools with the same declarations -/

/-- A list in another order, or the value itself. -/
inductive Value.Reordered : Value → Value → Prop where
  | same (v : Value) : Reordered v v
  | list {items items' : List Value} (h : items.Perm items') : Reordered (.list items) (.list items')

theorem Value.Reordered.exists_read {α : Type} {read : Value → Except Fault α} {v v' : Value}
    {xs : List α} (h : v.Reordered v') (hread : (v.items >>= (·.mapM read)) = .ok xs) :
    ∃ xs', xs.Perm xs' ∧ (v'.items >>= (·.mapM read)) = .ok xs' := by
  cases h with
  | same => exact ⟨xs, .refl xs, hread⟩
  | list h => exact exists_perm_mapM h hread

namespace Cwl

/-- Fields of a tool that differ in the order of inputs and arguments only. -/
structure Redeclared (fields fields' : List (String × Value)) : Prop where
  inputs : Option.Rel Value.Reordered (fields.lookup "inputs") (fields'.lookup "inputs")
  arguments : Option.Rel Value.Reordered (fields.lookup "arguments") (fields'.lookup "arguments")
  others : ∀ key, key ∉ ["inputs", "arguments"] → fields.lookup key = fields'.lookup key

theorem Argument.readOf_mapping (fields : List (String × Value)) :
    readOf (.mapping fields) = (fields.lookup "arguments").elim (.ok []) readAll := by
  rw [readOf, Value.has_mapping, ok_bind, Value.get]
  cases fields.lookup "arguments" with
  | none => rfl
  | some v => rfl

theorem Argument.exists_readAll_of_reordered {v v' : Value} {arguments : List Argument}
    (h : v.Reordered v') (hread : readAll v = .ok arguments) :
    ∃ arguments', arguments.Perm arguments' ∧ readAll v' = .ok arguments' := by
  cases h with
  | same => exact ⟨arguments, .refl _, hread⟩
  | list h =>
    obtain ⟨found, hfound, hread⟩ := bind_eq_ok_iff.mp hread
    obtain rfl := Except.ok.inj hread
    obtain ⟨found', hperm, hfound'⟩ := exists_perm_mapM h hfound
    refine ⟨found'.filterMap id, hperm.filterMap id, ?_⟩
    rw [readAll, hfound', ok_bind, pure_eq_ok]

namespace Redeclared

variable {fields fields' : List (String × Value)} (h : Redeclared fields fields')

include h

theorem get {key : String} (hkey : key ∉ ["inputs", "arguments"]) :
    (Value.mapping fields').get key = (Value.mapping fields).get key := by
  rw [Value.get, Value.get, h.others key hkey]

theorem has {key : String} (hkey : key ∉ ["inputs", "arguments"]) :
    (Value.mapping fields').has key = (Value.mapping fields).has key := by
  rw [Value.has_mapping, Value.has_mapping, h.others key hkey]

theorem exists_readInputs {v : Value} {inputs : List InputParameter}
    (hv : (Value.mapping fields).get "inputs" = .ok v)
    (hread : (InputParameter.readAll v).outcome = .ok inputs) :
    ∃ inputs' v', inputs.Perm inputs' ∧ (Value.mapping fields').get "inputs" = .ok v' ∧
      (InputParameter.readAll v').outcome = .ok inputs' := by
  have hinputs := h.inputs
  rw [Value.get_mapping_eq_ok_iff.mp hv] at hinputs
  cases hv' : fields'.lookup "inputs" with
  | none =>
    rw [hv'] at hinputs
    cases hinputs
  | some v' =>
    rw [hv'] at hinputs
    obtain ⟨hreordered⟩ := hinputs
    simp only [InputParameter.readAll, Logged.outcome_bind, Logged.outcome_lift,
      Logged.outcome_mapM] at hread ⊢
    obtain ⟨inputs', hperm, hread'⟩ := hreordered.exists_read hread
    exact ⟨inputs', v', hperm, Value.get_mapping_eq_ok_iff.mpr hv', hread'⟩

theorem exists_readArguments {arguments : List Argument}
    (hread : Argument.readOf (.mapping fields) = .ok arguments) :
    ∃ arguments', arguments.Perm arguments' ∧
      Argument.readOf (.mapping fields') = .ok arguments' := by
  have harguments := h.arguments
  rw [Argument.readOf_mapping] at hread ⊢
  generalize fields.lookup "arguments" = v at hread harguments
  generalize fields'.lookup "arguments" = v' at harguments
  cases harguments with
  | none => exact ⟨arguments, .refl _, hread⟩
  | some hreordered => exact Argument.exists_readAll_of_reordered hreordered hread

/-- Redeclared fields are read to the same tool, except for the order of inputs and arguments. -/
theorem exists_read {ws : Workspace} {bound : Nat} {sourceDir : Value} {t : Tool}
    (hread : (Tool.read ws bound sourceDir (.mapping fields)).outcome = .ok t) :
    ∃ inputs arguments, t.inputs.Perm inputs ∧ t.arguments.Perm arguments ∧
      (Tool.read ws bound sourceDir (.mapping fields')).outcome =
        .ok { t with inputs := inputs, arguments := arguments } := by
  obtain ⟨hname, harguments, hbase, ⟨v, hv, hinputs⟩, ⟨w, hw, houtputs⟩, hrequirements, hstdout,
    hstdin⟩ := Tool.read_eq_ok_iff.mp hread
  obtain ⟨inputs, v', hperm, hv', hinputs'⟩ := h.exists_readInputs hv hinputs
  obtain ⟨arguments, hperm', harguments'⟩ := h.exists_readArguments harguments
  refine ⟨inputs, arguments, hperm, hperm', Tool.read_eq_ok_iff.mpr ⟨?_, harguments', ?_,
    ⟨v', hv', hinputs'⟩, ⟨w, ?_, houtputs⟩, ?_, ?_, ?_⟩⟩
  · rw [← hname, partName, partName, h.has (by decide), h.get (by decide), h.has (by decide),
      h.get (by decide), h.get (by decide)]
  · rw [h.get (by decide), hbase]
  · rw [h.get (by decide), hw]
  · rw [← hrequirements, Requirement.readPart, Requirement.readPart, h.has (by decide),
      h.has (by decide), h.get (by decide), h.get (by decide)]
  · rw [← hstdout, readStream, readStream, h.has (by decide), h.get (by decide)]
  · rw [← hstdin, readStream, readStream, h.has (by decide), h.get (by decide)]

end Redeclared

def Tool.commandSection (t : Tool) : Except Fault String := do
  (← Wdl.Task.ofRecord t.toRecord).commandSection

theorem Tool.exists_wdl_of_perm {t : Tool} {text : String} {inputs : List InputParameter}
    {arguments : List Argument} (hinputs : t.inputs.Perm inputs)
    (harguments : t.arguments.Perm arguments) (h : t.wdl = .ok text) :
    ∃ text', { t with inputs := inputs, arguments := arguments : Tool }.wdl = .ok text' := by
  obtain ⟨hbound, hcommand, hpositions⟩ := t.exists_wdl_iff.mp ⟨text, h⟩
  exact (Tool.exists_wdl_iff _).mpr ⟨fun a ha => hbound a (harguments.mem_iff.mpr ha), hcommand,
    fun p hp => hpositions p (hinputs.mem_iff.mpr hp)⟩

theorem Tool.rearranged_of_perm {t : Tool} {inputs : List InputParameter} {base base' : Value}
    {bindings bindings' : List Binding} (hinputs : t.inputs.Perm inputs)
    (hbindings : (bindings.map Argument.bound).Perm (bindings'.map Argument.bound))
    (hbase : Wdl.Command.readBase t.baseCommand = .ok base)
    (hbase' : Wdl.Command.readBase t.baseCommand = .ok base') :
    (t.toTask base (bindings.map (·.toArgument))).Rearranged
      ({ t with inputs := inputs, arguments := bindings'.map .bound : Tool }.toTask base'
        (bindings'.map (·.toArgument))) where
  base := Except.ok.inj (hbase.symm.trans hbase')
  arguments := ((List.map_perm_map_iff fun _ _ => Argument.bound.inj).mp hbindings).map _
  inputs := hinputs.map _
  requirements := rfl
  stdout := rfl

/-- A tool that converts still converts with its inputs and arguments listed in another order, and
to the same command if its positions decide. -/
theorem Tool.command_of_redeclared {ws : Workspace} {bound : Nat} {sourceDir : Value}
    {fields fields' : List (String × Value)} {t : Tool} {text : String}
    (hread : (Tool.read ws bound sourceDir (.mapping fields)).outcome = .ok t)
    (htext : t.wdl = .ok text) (hfields : Redeclared fields fields')
    (hdecisive : Wdl.Decisive t.positions) :
    ∃ t' text' s, (Tool.read ws bound sourceDir (.mapping fields')).outcome = .ok t' ∧
      t'.wdl = .ok text' ∧ t.commandSection = .ok s ∧ t'.commandSection = .ok s := by
  obtain ⟨inputs, arguments, hinputs, harguments, hread'⟩ := hfields.exists_read hread
  obtain ⟨text', htext'⟩ := Tool.exists_wdl_of_perm hinputs harguments htext
  obtain ⟨task, htask, hwritten⟩ := bind_eq_ok_iff.mp htext
  obtain ⟨-, s, hs⟩ := task.exists_text_iff.mp ⟨text, hwritten⟩
  obtain ⟨task', htask', -⟩ := bind_eq_ok_iff.mp htext'
  refine ⟨_, text', s, hread', htext', bind_eq_ok_iff.mpr ⟨task, htask, hs⟩,
    bind_eq_ok_iff.mpr ⟨task', htask', ?_⟩⟩
  obtain ⟨base, bindings, hbase, hbindings, rfl⟩ := Tool.eq_toTask_of_ofRecord htask
  obtain ⟨base', bindings', hbase', rfl, rfl⟩ := Tool.eq_toTask_of_ofRecord htask'
  rw [← Tool.positions_toTask hbindings] at hdecisive
  rw [hbindings] at harguments
  exact (Tool.rearranged_of_perm hinputs harguments hbase hbase').commandSection hdecisive hs

def declaringFields (arguments inputs : List Value) : List (String × Value) :=
  [("id", .str "t"), ("baseCommand", .str "sort"), ("arguments", .list arguments),
    ("inputs", .list inputs), ("outputs", .list [])]

def declaredArguments : List Value :=
  [.mapping [("valueFrom", .str "-r"), ("position", .bool true)], .null]

def declaredInputs : List Value :=
  [.mapping [("id", .str "#a"), ("type", .str "File"),
      ("inputBinding", .mapping [("position", .int 3)])],
    .mapping [("id", .str "#b"), ("type", .str "boolean"),
      ("inputBinding", .mapping [("position", .int 3)])],
    .mapping [("id", .str "#c"), ("type", .str "File"),
      ("inputBinding", .mapping [("position", .float (.finite false 5 (-1)))])],
    .mapping [("id", .str "#d"), ("type", .str "File"),
      ("inputBinding", .mapping [("position", .int (-2))])]]

theorem redeclared_declaringFields {arguments arguments' inputs inputs' : List Value}
    (harguments : arguments.Perm arguments') (hinputs : inputs.Perm inputs') :
    Redeclared (declaringFields arguments inputs) (declaringFields arguments' inputs') where
  inputs := .some (.list hinputs)
  arguments := .some (.list harguments)
  others key hkey := by
    rw [List.mem_pair, not_or] at hkey
    simp only [declaringFields, List.lookup_cons, beq_false_of_ne hkey.1, beq_false_of_ne hkey.2]

theorem Tool.command_declaringFields : ∃ t t' text',
    (Tool.read ⟨[], []⟩ 1 (.str "")
      (.mapping (declaringFields declaredArguments declaredInputs))).outcome = .ok t ∧
    (∃ text, t.wdl = .ok text) ∧ Wdl.Decisive t.positions ∧
    (Tool.read ⟨[], []⟩ 1 (.str "")
      (.mapping (declaringFields declaredArguments.reverse declaredInputs.reverse))).outcome =
        .ok t' ∧
    t'.wdl = .ok text' ∧ t'.commandSection = .ok (" \\\n        ".intercalate
      ["$\x7bd\x7d", "sort", "-r", "$\x7bc\x7d", "$\x7ba\x7d"]) := by
  have hdecisive : Wdl.Decisive [.bool true, .int 3, .float (.finite false 5 (-1)), .int (-2)] :=
    ⟨by decide, by decide, by decide⟩
  obtain ⟨t', text', s, hread', htext', hs, hs'⟩ := @Tool.command_of_redeclared ⟨[], []⟩ 1 (.str "")
    (declaringFields declaredArguments declaredInputs) _ _ _ rfl rfl
    (redeclared_declaringFields (List.reverse_perm _).symm (List.reverse_perm _).symm) hdecisive
  cases hs
  exact ⟨_, t', text', rfl, ⟨_, rfl⟩, hdecisive, hread', htext', hs'⟩

end Cwl

end FlowConverter
