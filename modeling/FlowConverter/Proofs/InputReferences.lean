import FlowConverter.Proofs.RecordShape

/-! References from the steps of a workflow to its inputs. A declared input gives way to reserved
words, and a reference to it does not: so an input with a reserved word for its id is declared
under a name that no step mentions. -/
namespace FlowConverter

/-- `e` stands at place `i` of what `v` lists under the key. -/
def Value.ElementAt (v : Value) (key : String) (i : Nat) (e : Value) : Prop :=
  ∃ listed elements, v.get key = .ok listed ∧ listed.items = .ok elements ∧
    elements[i]? = some e

/-- A list that is read element by element keeps its places. -/
theorem Value.ElementAt.exists_read {α : Type} {v listed e : Value} {key : String} {i : Nat}
    {read : Value → Except Fault α} {xs : List α} (he : v.ElementAt key i e)
    (hlisted : v.get key = .ok listed)
    (hread : (listed.items >>= fun elements => elements.mapM read) = .ok xs) :
    ∃ x, xs[i]? = some x ∧ read e = .ok x := by
  obtain ⟨listed', elements, hlisted', helements, hi⟩ := he
  cases hlisted.symm.trans hlisted'
  rw [helements, ok_bind] at hread
  exact getElem?_of_mapM hread hi

namespace Cwl

theorem safeName_of_mem {name : String} (h : name ∈ reservedWords) :
    safeName name = name ++ "_variable" := by
  rw [safeName, if_pos (List.contains_iff_mem.mpr h)]

theorem safeName_of_not_mem {name : String} (h : name ∉ reservedWords) : safeName name = name := by
  rw [safeName, if_neg fun hmem => h (List.contains_iff_mem.mp hmem)]

/-- No parameter is declared under a reserved word. -/
theorem InputParameter.name_not_reserved {source : Value} {p : InputParameter}
    (h : (InputParameter.read source).outcome = .ok p) : p.name ∉ reservedWords := by
  obtain ⟨id, -, hname⟩ := parameterName_eq_ok (InputParameter.read_eq_ok h).1
  rw [hname]
  exact (CleanName.safeName_strip id).free

theorem InputParameter.name_of_id {source : Value} {p : InputParameter} {x : String}
    (h : (InputParameter.read source).outcome = .ok p) (hx : source.get "id" = .ok (.str x)) :
    p.name = safeName (Text.strip '#' x) := by
  obtain ⟨id, hid, hname⟩ := parameterName_eq_ok (InputParameter.read_eq_ok h).1
  cases hx.symm.trans hid
  exact hname

theorem StepInput.value_of_source {source : Value} {r : StepInput} {x : String}
    (h : StepInput.read source = .ok r) (hx : source.get "source" = .ok (.str x)) :
    r.value = some (Text.strip '#' x) := by
  simp only [StepInput.read, Value.has_of_get hx, ok_bind, if_true, hx] at h
  obtain ⟨id, -, h⟩ := bind_eq_ok_iff.mp h
  obtain ⟨stripped, -, h⟩ := bind_eq_ok_iff.mp h
  cases h
  rfl

/-- A step refers to an input by its id without marks, and the input is declared under that name
unless it is a reserved word. Then it is declared under another name, and the reference names no
input at all. -/
theorem Workflow.reference_names_input_iff {ws : Workspace} {bound : Nat}
    {inner : String → Report (Option (List Tool))} {sourceDir source : Value} {fileName : String}
    {w : Workflow} {input step stepInput : Value} {i j k : Nat} {x y : String}
    (hw : (Workflow.read ws bound inner sourceDir fileName source).outcome = .ok w)
    (hinput : source.ElementAt "inputs" i input) (hid : input.get "id" = .ok (.str x))
    (hstep : source.ElementAt "steps" j step) (hstepInput : step.ElementAt "inputs" k stepInput)
    (hsource : stepInput.get "source" = .ok (.str y))
    (hsame : Text.strip '#' x = Text.strip '#' y) :
    ∃ p s r, w.inputs[i]? = some p ∧ w.steps[j]? = some s ∧ s.inputs[k]? = some r ∧
      p.name = safeName (Text.strip '#' x) ∧ r.value = some (Text.strip '#' x) ∧
      (r.value = some p.name ↔ Text.strip '#' x ∉ reservedWords) ∧
      (Text.strip '#' x ∈ reservedWords →
        p.name = Text.strip '#' x ++ "_variable" ∧ ∀ q ∈ w.inputs, r.value ≠ some q.name) := by
  obtain ⟨-, ⟨declared, hdeclared, hinputs⟩, -, steps, items, hsteps, hitems, hread⟩ :=
    Workflow.read_eq_ok hw
  simp only [InputParameter.readAll, Logged.outcome_bind, Logged.outcome_lift,
    Logged.outcome_mapM] at hinputs
  obtain ⟨p, hp, hpread⟩ := hinput.exists_read hdeclared hinputs
  have hsteps' : (steps.items >>= fun items =>
      items.mapM fun item => (Step.read ws inner sourceDir item).outcome) = .ok w.steps := by
    rw [hitems, ok_bind, hread]
  obtain ⟨s, hs, hsread⟩ := hstep.exists_read hsteps hsteps'
  obtain ⟨run, -, -, -, ⟨v, hv, hstepInputs⟩, -⟩ := Step.read_eq_ok hsread
  obtain ⟨r, hr, hrread⟩ := hstepInput.exists_read hv hstepInputs
  have hname := InputParameter.name_of_id hpread hid
  have hvalue := StepInput.value_of_source hrread hsource
  rw [← hsame] at hvalue
  have hfree : ∀ q ∈ w.inputs, q.name ∉ reservedWords := by
    intro q hq
    obtain ⟨elements, -, hinputs⟩ := bind_eq_ok_iff.mp hinputs
    obtain ⟨element, -, hqread⟩ := exists_of_mem_mapM hinputs hq
    exact InputParameter.name_not_reserved hqread
  have hdangling : Text.strip '#' x ∈ reservedWords → ∀ q ∈ w.inputs, r.value ≠ some q.name := by
    intro hreserved q hq heq
    rw [hvalue, Option.some.injEq] at heq
    exact hfree q hq (heq ▸ hreserved)
  refine ⟨p, s, r, hp, hs, hr, hname, hvalue, ⟨?_, ?_⟩, ?_⟩
  · intro heq hreserved
    exact hdangling hreserved p (List.mem_of_getElem? hp) heq
  · intro hplain
    rw [hvalue, hname, safeName_of_not_mem hplain]
  · intro hreserved
    exact ⟨hname.trans (safeName_of_mem hreserved), hdangling hreserved⟩

def referringSample (id source : String) : Value :=
  .mapping [("inputs", .list [.mapping [("id", .str id), ("type", .str "File")]]),
    ("outputs", .list []), ("steps", .list [.mapping [("run", .str "#t"),
      ("inputs", .list [.mapping [("id", .str "#t.a"), ("source", .str source)]]),
      ("outputs", .list [])]])]

theorem Workflow.reference_names_input_referringSample : ∃ w p s r,
    (Workflow.read ⟨[], []⟩ 1 (fun _ => pure none) (.str "") "w.cwl"
      (referringSample "#bam" "bam")).outcome = .ok w ∧
    w.inputs[0]? = some p ∧ w.steps[0]? = some s ∧ s.inputs[0]? = some r ∧
    r.value = some p.name := by
  obtain ⟨p, s, r, hp, hs, hr, -, -, hiff, -⟩ := @Workflow.reference_names_input_iff ⟨[], []⟩ 1
    (fun _ => pure none) (.str "") (referringSample "#bam" "bam") "w.cwl" _ _ _ _ 0 0 0 _ _ rfl
    ⟨_, _, rfl, rfl, rfl⟩ rfl ⟨_, _, rfl, rfl, rfl⟩ ⟨_, _, rfl, rfl, rfl⟩ rfl rfl
  exact ⟨_, p, s, r, rfl, hp, hs, hr, hiff.mpr (by decide)⟩

/-- An input with a reserved word for its id, and a reference to it that names nothing. -/
theorem Workflow.reference_dangles_referringSample : ∃ w p s r,
    (Workflow.read ⟨[], []⟩ 1 (fun _ => pure none) (.str "") "w.cwl"
      (referringSample "#input" "#input")).outcome = .ok w ∧
    w.inputs[0]? = some p ∧ w.steps[0]? = some s ∧ s.inputs[0]? = some r ∧
    p.name = "input_variable" ∧ r.value = some "input" :=
  ⟨_, _, _, _, rfl, rfl, rfl, rfl, rfl, rfl⟩

end Cwl

end FlowConverter
