import FlowConverter.Proofs.Braces
import FlowConverter.Proofs.CommandDomain
import FlowConverter.Proofs.Deletion

/-! Braces in the text of a task. Every template of a task closes the braces that it opens, and
deleting an empty runtime section takes one brace of each kind away, so a task whose values print
without open braces has a text without open braces. Nothing is said here about where the values
come from. -/
namespace FlowConverter.Wdl

open Text

/-! ### Empty runtime sections -/

theorem not_isBrace_of_isBlank {c : Char} (h : isBlank c = true) : isBrace c = false := by
  cases hb : isBrace c with
  | false => rfl
  | true =>
    simp only [isBrace, Bool.or_eq_true, beq_iff_eq] at hb
    rcases hb with rfl | rfl <;> revert h <;> decide

/-- A runtime section with nothing but blanks in it, and the blanks before it. -/
def emptyRuntime (before inside : List Char) : List Char :=
  before ++ "runtime \x7b".toList ++ inside ++ ['\x7d']

/-- Both stretches of blanks hold at least one. -/
def IsEmptyRuntime (s : List Char) : Prop :=
  ∃ before inside, before ≠ [] ∧ inside ≠ [] ∧ (∀ c ∈ before, isBlank c = true) ∧
    (∀ c ∈ inside, isBlank c = true) ∧ s = emptyRuntime before inside

theorem IsEmptyRuntime.ne_nil {s : List Char} (h : IsEmptyRuntime s) : s ≠ [] := by
  obtain ⟨before, inside, -, -, -, -, rfl⟩ := h
  simp [emptyRuntime]

theorem emptyRuntimeLength?_eq_some {s : List Char} {n : Nat}
    (h : emptyRuntimeLength? s = some n) :
    ∃ found rest, IsEmptyRuntime found ∧ s = found ++ rest ∧ n = found.length := by
  simp only [emptyRuntimeLength?] at h
  split at h
  next => cases h
  next rest hrest =>
    have hs : s = s.takeWhile isBlank ++ "runtime \x7b".toList ++ rest := by
      rw [List.append_assoc, List.isPrefixOf?_eq_some_iff_append_eq.mp hrest,
        List.takeWhile_append_dropWhile]
    split at h
    next c after hafter =>
      split at h
      next hc =>
        simp only [Bool.and_eq_true, beq_iff_eq, Bool.not_eq_true', List.isEmpty_eq_false_iff] at hc
        obtain ⟨⟨rfl, hbefore⟩, hinside⟩ := hc
        refine ⟨emptyRuntime (s.takeWhile isBlank) (rest.takeWhile isBlank), after,
          ⟨_, _, hbefore, hinside, List.all_eq_true.mp List.all_takeWhile,
            List.all_eq_true.mp List.all_takeWhile, rfl⟩, ?_, ?_⟩
        · have hinside : rest = rest.takeWhile isBlank ++ '\x7d' :: after := by
            rw [← hafter, List.takeWhile_append_dropWhile]
          calc s = s.takeWhile isBlank ++ "runtime \x7b".toList ++ rest := hs
            _ = s.takeWhile isBlank ++ "runtime \x7b".toList ++
                (rest.takeWhile isBlank ++ '\x7d' :: after) := by rw [← hinside]
            _ = _ := by simp [emptyRuntime]
        · cases h
          simp [emptyRuntime]
          omega
      next => cases h
    next => cases h

/-- An empty section opens one brace and closes it. -/
theorem IsEmptyRuntime.depthFrom {s : List Char} (h : IsEmptyRuntime s) (d : Nat) :
    Text.depthFrom d s = some d := by
  obtain ⟨before, inside, -, -, hbefore, hinside, rfl⟩ := h
  have hblank : ∀ (e : Nat) (cs : List Char), (∀ c ∈ cs, isBlank c = true) →
      Text.depthFrom e cs = some e := by
    intro e cs hcs
    induction cs with
    | nil => rfl
    | cons c cs ih =>
      rw [List.forall_mem_cons] at hcs
      rw [depthFrom_cons_of_not_isBrace (not_isBrace_of_isBlank hcs.1), ih hcs.2]
  simp [emptyRuntime, depthFrom_append, Text.depthFrom, hblank _ _ hbefore, hblank _ _ hinside]

theorem takeWhile_isBlank_append {blanks : List Char} {c : Char}
    (hblanks : ∀ b ∈ blanks, isBlank b = true) (hc : isBlank c = false) (rest : List Char) :
    (blanks ++ c :: rest).takeWhile isBlank = blanks ∧
      (blanks ++ c :: rest).dropWhile isBlank = c :: rest := by
  rw [List.takeWhile_append_of_pos hblanks, List.dropWhile_append_of_pos hblanks,
    List.takeWhile_cons_of_neg (by simp [hc]), List.dropWhile_cons_of_neg (by simp [hc]),
    List.append_nil]
  exact ⟨rfl, rfl⟩

theorem emptyRuntimeLength?_append {s : List Char} (h : IsEmptyRuntime s) (rest : List Char) :
    emptyRuntimeLength? (s ++ rest) = some s.length := by
  obtain ⟨before, inside, hbefore, hinside, hblank, hblank', rfl⟩ := h
  have hs : emptyRuntime before inside ++ rest =
      before ++ 'r' :: ("untime \x7b".toList ++ (inside ++ '\x7d' :: rest)) := by
    simp [emptyRuntime]
  have hletter : isBlank 'r' = false := by decide
  have hclosed : isBlank '\x7d' = false := by decide
  obtain ⟨htake, hdrop⟩ := takeWhile_isBlank_append hblank hletter
    ("untime \x7b".toList ++ (inside ++ '\x7d' :: rest))
  obtain ⟨htake', hdrop'⟩ := takeWhile_isBlank_append hblank' hclosed rest
  have hword : "runtime \x7b".toList.isPrefixOf?
      ('r' :: ("untime \x7b".toList ++ (inside ++ '\x7d' :: rest))) =
      some (inside ++ '\x7d' :: rest) :=
    List.isPrefixOf?_eq_some_iff_append_eq.mpr (by simp)
  have hlength : (emptyRuntime before inside).length = before.length + 9 + inside.length + 1 := by
    simp [emptyRuntime]
    omega
  simp only [emptyRuntimeLength?, hs, htake, hdrop, hword, htake', hdrop']
  rw [if_pos (by simp [hbefore, hinside]), hlength]

theorem finds_emptyRuntime : Finds IsEmptyRuntime emptyRuntimeLength? where
  sound := emptyRuntimeLength?_eq_some
  complete hfound rest := by simp [emptyRuntimeLength?_append hfound rest]
  ne_nil := IsEmptyRuntime.ne_nil

/-- Going through a text from its start, every empty runtime section is left out and all else is
kept. -/
def Deleted : List Char → List Char → Prop := LeftOut IsEmptyRuntime

theorem deleted_dropEmptyRuntime (s : List Char) : Deleted s (dropEmptyRuntime s) :=
  leftOut_deleteAll finds_emptyRuntime s

theorem Deleted.depthFrom_eq {s kept : List Char} (h : Deleted s kept) (d : Nat) :
    Text.depthFrom d kept = Text.depthFrom d s := by
  induction h generalizing d with
  | nil => rfl
  | @keep c rest kept _ _ ih =>
    have hfirst (more : List Char) : Text.depthFrom d (c :: more) =
        (Text.depthFrom d [c]).bind fun e => Text.depthFrom e more := depthFrom_append d [c] more
    rw [hfirst kept, hfirst rest]
    simp only [ih]
  | @delete found rest kept hfound _ ih =>
    rw [depthFrom_append, hfound.depthFrom, ih]
    rfl

/-! ### Sections of a task -/

structure Input.Balanced (i : Input) : Prop where
  name : Opens 0 i.name.text
  flag : Opens 0 i.flag.text
  separator : Opens 0 i.separator.text
  default : Opens 0 i.default.text
  type : Opens 0 i.type.text

structure Output.Balanced (o : Output) : Prop where
  name : Opens 0 o.name.text
  source : Opens 0 o.source.text
  type : Opens 0 o.type.text

structure Argument.Balanced (a : Argument) : Prop where
  flag : Opens 0 a.flag.text
  value : Opens 0 a.value.text

structure Requirement.Balanced (r : Requirement) : Prop where
  kind : Opens 0 r.kind.text
  value : Opens 0 r.value.text
  settings : ∀ v, r.settings = .ok (some v) → Opens 0 v.text

/-- Whatever a task prints closes the braces that it opens. -/
structure Task.Balanced (t : Task) : Prop where
  name : Opens 0 t.name.text
  base : Opens 0 t.command.base.text
  arguments : ∀ a ∈ t.command.arguments, a.Balanced
  commandInputs : ∀ i ∈ t.command.inputs, i.Balanced
  inputs : ∀ i ∈ t.inputs, i.Balanced
  outputs : ∀ o ∈ t.outputs, o.Balanced
  requirements : ∀ r ∈ t.requirements, r.Balanced
  stdout : Opens 0 t.stdout.text

theorem opens_reference {s : String} (h : Opens 0 s) : Opens 0 (reference s) := by
  have hopen : Leads 0 1 "$\x7b" := fun _ => rfl
  exact (hopen.append (h.leads 1)).append fun _ => rfl

theorem Argument.opens_part {a : Argument} (ha : a.Balanced) {p : Part} (h : a.part = .ok p) :
    Opens 0 p.text.text := by
  have hvalue : Opens 0 (if a.value.isNull then "" else a.value.text) := by
    split
    · exact fun _ => rfl
    · exact ha.value
  rw [Argument.part] at h
  split at h
  · cases h
    exact hvalue
  · split at h
    · cases h
    · cases h
      refine (ha.flag.beside ?_).beside hvalue
      split <;> exact fun _ => rfl

theorem Input.opens_expression {i : Input} (hi : i.Balanced) {s : String}
    (h : i.expression = .ok s) : Opens 0 s := by
  rw [Input.expression] at h
  obtain ⟨array, -, h⟩ := bind_eq_ok_iff.mp h
  obtain ⟨name, hname, h⟩ := bind_eq_ok_iff.mp h
  cases h
  refine (Opens.beside ?_ ?_).beside ?_
  · split
    · exact (Opens.beside (fun _ => rfl) hi.separator).beside fun _ => rfl
    · exact fun _ => rfl
  · split
    · exact fun _ => rfl
    · exact (Opens.beside (fun _ => rfl) hi.default).beside fun _ => rfl
  · rw [← Value.text_of_asText hname]
    exact hi.name

theorem Input.opens_part {i : Input} (hi : i.Balanced) {p : Part} (h : i.part = .ok p) :
    Opens 0 p.text.text := by
  rw [Input.part] at h
  obtain ⟨expression, hexpression, h⟩ := bind_eq_ok_iff.mp h
  have hinner := opens_expression hi hexpression
  cases h
  simp only [Value.text]
  split
  · exact opens_reference hinner
  · split
    · refine (hi.flag.beside ?_).beside (opens_reference hinner)
      split <;> exact fun _ => rfl
    · exact opens_reference ((hi.flag.beside fun _ => rfl).beside hinner)

theorem Task.opens_parts {t : Task} (ht : t.Balanced) {parts : List Part} (h : t.parts = .ok parts) :
    ∀ p ∈ parts, Opens 0 p.text.text := by
  obtain ⟨arguments, harguments, h⟩ := bind_eq_ok_iff.mp h
  obtain ⟨inputs, hinputs, h⟩ := bind_eq_ok_iff.mp h
  cases h
  intro p hp
  simp only [List.cons_append, List.mem_cons, List.mem_append] at hp
  rcases hp with rfl | hp | hp
  · exact ht.base
  · obtain ⟨a, ha, hpart⟩ := exists_of_mem_mapM harguments hp
    exact Argument.opens_part (ht.arguments a ha) hpart
  · obtain ⟨i, hi, hpart⟩ := exists_of_mem_mapM hinputs hp
    exact Input.opens_part (ht.commandInputs i (List.mem_of_mem_filter hi)) hpart

theorem opens_join {sep : String} (hsep : braces sep = []) {items : List Value}
    (hitems : ∀ v ∈ items, Opens 0 v.text) {s : String}
    (h : (Value.list items).join sep = .ok s) : Opens 0 s := by
  rw [(Value.join_list_eq_ok h).2]
  exact .intercalate hsep (List.forall_mem_map.mpr hitems)

theorem Task.opens_commandSection {t : Task} (ht : t.Balanced) {s : String}
    (h : t.commandSection = .ok s) : Opens 0 s := by
  obtain ⟨parts, hparts, h⟩ := bind_eq_ok_iff.mp h
  obtain ⟨ordered, hordered, h⟩ := bind_eq_ok_iff.mp h
  obtain ⟨settings, hsettings, h⟩ := bind_eq_ok_iff.mp h
  refine opens_join rfl ?_ h
  intro v hv
  simp only [List.mem_append, List.mem_reverse, List.mem_filterMap, id_eq, exists_eq_right] at hv
  rcases hv with (hv | hv) | hv
  · obtain ⟨r, hr, hset⟩ := exists_of_mem_mapM hsettings hv
    exact (ht.requirements r hr).settings v hset
  · rw [(orderParts_perm hordered).mem_iff] at hv
    obtain ⟨p, hp, rfl⟩ := List.mem_map.mp hv
    exact Task.opens_parts ht hparts p hp
  · split at hv
    · cases hv
    · rw [List.mem_singleton.mp hv]
      exact Opens.beside (fun _ => rfl) (opens_reference ht.stdout)

theorem braces_optionalMark (cs : List Char) :
    (optionalMark cs).filter isBrace = cs.filter isBrace := by
  induction cs with
  | nil => rfl
  | cons c rest ih =>
    rw [optionalMark]
    split
    next h =>
      simp only [Bool.and_eq_true, beq_iff_eq, List.isEmpty_iff] at h
      obtain ⟨rfl, rfl⟩ := h
      rfl
    next => rw [List.filter_cons, List.filter_cons, ih]

theorem Input.opens_declaration {i : Input} (hi : i.Balanced) {s : String}
    (h : i.declaration = .ok s) : Opens 0 s := by
  rw [Input.declaration] at h
  split at h
  · cases h
    exact (hi.type.beside fun _ => rfl).beside hi.name
  · obtain ⟨type, htype, h⟩ := bind_eq_ok_iff.mp h
    cases h
    have hmarked : Opens 0 (String.ofList (optionalMark type.toList)) := by
      refine .of_braces_eq ?_ (Value.text_of_asText htype ▸ hi.type)
      simp [braces, braces_optionalMark]
    exact (hmarked.beside fun _ => rfl).beside hi.name

theorem opens_declarations {inputs : List Input} (hinputs : ∀ i ∈ inputs, i.Balanced) {s : String}
    (h : declarations inputs = .ok s) : Opens 0 s := by
  obtain ⟨lines, hlines, h⟩ := bind_eq_ok_iff.mp h
  cases h
  refine .intercalate rfl ?_
  intro line hline
  obtain ⟨i, hi, hdeclaration⟩ := exists_of_mem_mapM hlines hline
  exact Input.opens_declaration (hinputs i hi) hdeclaration

theorem Task.opens_outputSection {t : Task} (ht : t.Balanced) : Opens 0 t.outputSection := by
  refine .intercalate rfl (List.forall_mem_map.mpr ?_)
  intro o ho
  obtain ⟨hname, hsource, htype⟩ := ht.outputs o ho
  exact (((htype.beside fun _ => rfl).beside hname).beside fun _ => rfl).beside hsource

theorem Task.opens_runtimeLines {t : Task} (ht : t.Balanced) : ∀ s ∈ t.runtimeLines, Opens 0 s := by
  intro s hs
  obtain ⟨r, hr, hline⟩ := List.mem_filterMap.mp hs
  obtain ⟨hkind, hvalue, -⟩ := ht.requirements r hr
  rw [Requirement.line?] at hline
  split at hline
  · cases hline
  · cases hline
    exact ((hkind.beside fun _ => rfl).beside hvalue).beside fun _ => rfl

/-- The template of a task closes what it opens. -/
theorem opens_taskText {name declarations command outputs runtime : String} (hname : Opens 0 name)
    (hdeclarations : Opens 0 declarations) (hcommand : Opens 0 command) (houtputs : Opens 0 outputs)
    (hruntime : Opens 0 runtime) :
    Opens 0 (taskText name declarations command outputs runtime) := by
  have start : Leads 0 0 "\ntask " := fun _ => rfl
  have opened : Leads 0 1 " \x7b\n    " := fun _ => rfl
  have toCommand : Leads 1 2 "\n\n    command \x7b\n        " := fun _ => rfl
  have toOutput : Leads 2 2 "\n    \x7d\n\n    output \x7b\n        " := fun _ => rfl
  have toRuntime : Leads 2 2 "\n    \x7d\n\n    runtime \x7b\n        " := fun _ => rfl
  have closed : Leads 2 0 "\n    \x7d\n\x7d\n" := fun _ => rfl
  have upToCommand :=
    (((start.append (hname.leads 0)).append opened).append (hdeclarations.leads 1)).append toCommand
  have upToRuntime :=
    (((upToCommand.append (hcommand.leads 2)).append toOutput).append (houtputs.leads 2)).append
      toRuntime
  exact (upToRuntime.append (hruntime.leads 2)).append closed

/-- A task whose values print without open braces has a text without open braces. -/
theorem Task.opens_text {t : Task} (ht : t.Balanced) {s : String} (h : t.text = .ok s) :
    Opens 0 s := by
  obtain ⟨inputs, hinputs, h⟩ := bind_eq_ok_iff.mp h
  obtain ⟨command, hcommand, h⟩ := bind_eq_ok_iff.mp h
  cases h
  have hruntime : Opens 0 ("\n        ".intercalate t.runtimeLines) :=
    .intercalate rfl (Task.opens_runtimeLines ht)
  have htext := opens_taskText ht.name (opens_declarations ht.inputs hinputs)
    (Task.opens_commandSection ht hcommand) (Task.opens_outputSection ht) hruntime
  split
  · intro d
    rw [String.toList_ofList, (deleted_dropEmptyRuntime _).depthFrom_eq]
    exact htext d
  · exact htext

end FlowConverter.Wdl
