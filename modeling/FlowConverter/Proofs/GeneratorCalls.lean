import FlowConverter.Proofs.Bounds
import FlowConverter.Wdl.WorkflowText

/-! A generator that is asked again and again. Every call writes the same workflow, so every call
succeeds or fails like the first and adds the same task ids and definitions once more, also
those that were collected before a fault. Only the block of definitions below a text grows. -/
namespace FlowConverter.Wdl

theorem mem_definitions {log : List Event} {text : String} :
    text ∈ definitions log ↔ .defined text ∈ log := by
  rw [definitions, List.mem_filterMap]
  constructor
  · rintro ⟨e, he, h⟩
    cases e with
    | called id => cases h
    | defined t =>
      cases h
      exact he
  · intro h
    exact ⟨.defined text, h, rfl⟩

theorem definitions_eq_nil_iff {log : List Event} :
    definitions log = [] ↔ ∀ text, .defined text ∉ log := by
  simp only [List.eq_nil_iff_forall_not_mem, mem_definitions]

theorem definitions_append (log more : List Event) :
    definitions (log ++ more) = definitions log ++ definitions more := List.filterMap_append

theorem Step.definition_of_defined {s : Step} {text : String}
    (h : .defined text ∈ s.write.log) : s.definition ≠ none := by
  intro hd
  simp [Step.write, hd, Logged.mem_log_bind] at h

theorem Step.exists_defined {s : Step} {call : String} (h : s.write.outcome = .ok call)
    (hd : s.definition ≠ none) : ∃ text, .defined text ∈ s.write.log := by
  obtain ⟨task, hd⟩ := Option.ne_none_iff_exists'.mp hd
  simp only [Step.write, hd, Logged.outcome_bind, Logged.outcome_note, ok_bind,
    Logged.outcome_lift] at h
  obtain ⟨text, ht, -⟩ := bind_eq_ok_iff.mp h
  exact ⟨text, by simp [Step.write, hd, Logged.mem_log_bind, ht]⟩

/-- A call of a workflow that is written has written the workflow and collected its text. -/
theorem writeSubworkflow_eq_ok {s : SubCall Workflow} {call : String}
    (h : (writeSubworkflow s).outcome = .ok call) :
    ∃ text, s.definition.write.outcome = .ok text ∧
      callText s.taskId s.inputs s.scatter = .ok call ∧
      definitions (writeSubworkflow s).log =
        [withDefinitions text (definitions s.definition.write.log)] := by
  obtain ⟨taskId, w, inputs, outputs, scatter⟩ := s
  simp only [writeSubworkflow, Logged.outcome_bind, Logged.outcome_note, ok_bind,
    Logged.outcome_lift] at h
  obtain ⟨text, htext, h⟩ := bind_eq_ok_iff.mp h
  refine ⟨text, htext, h, ?_⟩
  unfold writeSubworkflow
  dsimp only
  rw [htext, h]
  rfl

theorem exists_defined_subworkflows {calls : List (SubCall Workflow)} {texts : List String}
    (h : (writeSubworkflows calls).outcome = .ok texts) (hc : calls ≠ []) :
    ∃ text, .defined text ∈ (writeSubworkflows calls).log := by
  obtain ⟨s, rest, rfl⟩ := List.exists_cons_of_ne_nil hc
  rw [writeSubworkflows, Logged.outcome_bind] at h
  obtain ⟨call, h, -⟩ := bind_eq_ok_iff.mp h
  obtain ⟨text, -, -, hdefinitions⟩ := writeSubworkflow_eq_ok h
  refine ⟨withDefinitions text (definitions s.definition.write.log), ?_⟩
  rw [writeSubworkflows, Logged.mem_log_bind, ← mem_definitions, hdefinitions]
  exact .inl List.mem_cons_self

/-- Without definitions and calls of workflows, nothing is collected, not even before a fault. -/
theorem Workflow.definitions_write_eq_nil {w : Workflow} (hs : ∀ s ∈ w.steps, s.definition = none)
    (hw : w.subworkflows = []) : definitions w.write.log = [] := by
  rcases w with ⟨name, inputs, outputs, steps, subworkflows, requirements⟩
  cases hw
  rw [definitions_eq_nil_iff]
  intro text h
  simp only [Workflow.write, writeSubworkflows, Logged.mem_log_bind, Logged.log_lift,
    Logged.log_pure, List.not_mem_nil, and_false, exists_false, or_false, false_or] at h
  obtain ⟨_, -, h⟩ := h
  obtain ⟨s, hmem, h⟩ := Logged.exists_of_mem_log_mapM h
  exact Step.definition_of_defined h (hs s hmem)

/-- A workflow that is written, and what its parts have given. All that its steps and its calls of
workflows collect is collected, and nothing else. -/
theorem Workflow.write_eq_ok {w : Workflow} {text : String} (h : w.write.outcome = .ok text) :
    ∃ declared calls more names, declarations w.inputs = .ok declared ∧
      (w.steps.mapM Step.write).outcome = .ok calls ∧
      (writeSubworkflows w.subworkflows).outcome = .ok more ∧
      outputNames w.outputs = .ok names ∧
      text = "\nworkflow " ++ w.name.text ++ " \x7b\n    " ++ declared ++ "\n    " ++
        "\n".intercalate (calls ++ more) ++ "\n    " ++ names ++ "\n\x7d\n" ∧
      w.write.log = (w.steps.mapM Step.write).log ++ (writeSubworkflows w.subworkflows).log := by
  obtain ⟨name, inputs, outputs, steps, subworkflows, requirements⟩ := w
  simp only [Workflow.write, Logged.outcome_bind, Logged.outcome_lift, Logged.outcome_pure] at h
  obtain ⟨declared, hdeclared, h⟩ := bind_eq_ok_iff.mp h
  obtain ⟨calls, hcalls, h⟩ := bind_eq_ok_iff.mp h
  obtain ⟨more, hmore, h⟩ := bind_eq_ok_iff.mp h
  obtain ⟨names, hnames, h⟩ := bind_eq_ok_iff.mp h
  cases h
  refine ⟨declared, calls, more, names, hdeclared, hcalls, hmore, hnames, rfl, ?_⟩
  rw [Workflow.write, hdeclared, Logged.lift_ok, pure_bind, Logged.bind_of_ok hcalls,
    Logged.bind_of_ok hmore, hnames, Logged.lift_ok, pure_bind]
  simp

/-- A workflow that is written collects nothing only if there is nothing to collect. -/
theorem Workflow.definitions_write_eq_nil_iff {w : Workflow} {text : String}
    (h : w.write.outcome = .ok text) :
    definitions w.write.log = [] ↔
      (∀ s ∈ w.steps, s.definition = none) ∧ w.subworkflows = [] := by
  constructor
  · intro hnil
    rw [definitions_eq_nil_iff] at hnil
    obtain ⟨-, calls, more, -, -, hcalls, hmore, -, -, hlog⟩ := Workflow.write_eq_ok h
    rw [hlog] at hnil
    constructor
    · intro s hs
      by_contra hd
      obtain ⟨call, -, hcall⟩ := exists_mem_of_mapM (Logged.outcome_mapM _ _ ▸ hcalls) hs
      obtain ⟨text, ht⟩ := Step.exists_defined hcall hd
      exact hnil text (List.mem_append_left _ (Logged.mem_log_mapM_of_ok hcalls hs ht))
    · by_contra hw
      obtain ⟨text, ht⟩ := exists_defined_subworkflows hmore hw
      exact hnil text (List.mem_append_right _ ht)
  · rintro ⟨hs, hw⟩
    exact definitions_write_eq_nil hs hw

/-- Outcome and state of each of `n` calls of one generator. -/
def Generator.calls : Nat → Generator → List (Except Fault String × Generator)
  | 0, _ => []
  | n + 1, g => g.next :: g.next.2.calls n

theorem Generator.length_calls (n : Nat) (g : Generator) : (g.calls n).length = n := by
  induction n generalizing g with
  | zero => rfl
  | succ n ih => rw [Generator.calls, List.length_cons, ih]

/-- One call adds what writing the workflow collects. -/
theorem Generator.next_state (g : Generator) :
    g.next.2 = ⟨g.workflow, g.taskIds ++ calledIds g.workflow.write.log,
      g.definitions ++ Wdl.definitions g.workflow.write.log⟩ := by
  rw [Generator.next]
  cases g.workflow.write.outcome <;> rfl

/-- One call gives what writing the workflow gives, with all definitions so far. -/
theorem Generator.next_outcome (g : Generator) :
    g.next.1 = g.workflow.write.outcome.map (withDefinitions · g.next.2.definitions) := by
  rw [Generator.next]
  cases g.workflow.write.outcome <;> rfl

/-- What the call after `k` others leaves and gives. -/
theorem Generator.calls_eq {n k : Nat} {g : Generator} {call : Except Fault String × Generator}
    (h : (g.calls n)[k]? = some call) :
    call.2.taskIds =
      g.taskIds ++ (List.replicate (k + 1) (calledIds g.workflow.write.log)).flatten ∧
    call.2.definitions =
      g.definitions ++ (List.replicate (k + 1) (Wdl.definitions g.workflow.write.log)).flatten ∧
    call.1 = g.workflow.write.outcome.map (withDefinitions · call.2.definitions) := by
  induction k generalizing n g with
  | zero =>
    cases n with
    | zero => cases h
    | succ n =>
      cases h
      refine ⟨?_, ?_, g.next_outcome⟩
      · simp [g.next_state]
      · simp [g.next_state]
  | succ k ih =>
    cases n with
    | zero => cases h
    | succ n =>
      -- The later calls are those of the generator that the first call leaves.
      obtain ⟨hids, hdefinitions, houtcome⟩ := ih h
      rw [g.next_state] at hids hdefinitions houtcome
      refine ⟨?_, ?_, houtcome⟩
      · rw [hids, List.append_assoc, List.replicate_succ (n := k + 1), List.flatten_cons]
      · rw [hdefinitions, List.append_assoc, List.replicate_succ (n := k + 1), List.flatten_cons]

/-- What call number `count` of a generator shares with the first. -/
structure Generator.Repeats (first : Except Fault String × Generator) (count : Nat)
    (call : Except Fault String × Generator) : Prop where
  succeeds_iff : (∃ text, call.1 = .ok text) ↔ ∃ text, first.1 = .ok text
  fails_iff : ∀ f, call.1 = .error f ↔ first.1 = .error f
  taskIds_eq : call.2.taskIds = (List.replicate count first.2.taskIds).flatten
  definitions_eq : call.2.definitions = (List.replicate count first.2.definitions).flatten
  text_eq : ∀ text, first.1 = .ok text → ∃ head,
    text = head ++ "\n".intercalate first.2.definitions ++ "\n" ∧
    call.1 = .ok (head ++
      "\n".intercalate (List.replicate count first.2.definitions).flatten ++ "\n")

theorem Generator.next_new_taskIds (w : Workflow) :
    (Generator.new w).next.2.taskIds = calledIds w.write.log := by
  rw [Generator.next_state]
  rfl

theorem Generator.next_new_definitions (w : Workflow) :
    (Generator.new w).next.2.definitions = Wdl.definitions w.write.log := by
  rw [Generator.next_state]
  rfl

theorem Workflow.text_eq (w : Workflow) :
    w.text = w.write.outcome.map (withDefinitions · (definitions w.write.log)) := by
  rw [Workflow.text, Generator.next_outcome, Generator.next_new_definitions]
  rfl

section

variable {n k : Nat} {w : Workflow} {call : Except Fault String × Generator}

/-- A call of a new generator, by the definitions that the first call collects. -/
theorem Generator.calls_new_outcome (h : ((Generator.new w).calls n)[k]? = some call) :
    call.1 = w.write.outcome.map (withDefinitions ·
      (List.replicate (k + 1) (Generator.new w).next.2.definitions).flatten) := by
  obtain ⟨-, hdefinitions, houtcome⟩ := Generator.calls_eq h
  rw [houtcome, hdefinitions, Generator.next_new_definitions]
  rfl

theorem Generator.calls_repeats (h : ((Generator.new w).calls n)[k]? = some call) :
    Repeats (Generator.new w).next (k + 1) call := by
  obtain ⟨hids, hdefinitions, -⟩ := Generator.calls_eq h
  have hcall := Generator.calls_new_outcome h
  have hfirst : (Generator.new w).next.1 = w.write.outcome.map
      (withDefinitions · (Generator.new w).next.2.definitions) := Generator.next_outcome _
  have hids' : call.2.taskIds =
      (List.replicate (k + 1) (Generator.new w).next.2.taskIds).flatten := by
    rw [Generator.next_new_taskIds, hids]
    rfl
  have hdefinitions' : call.2.definitions =
      (List.replicate (k + 1) (Generator.new w).next.2.definitions).flatten := by
    rw [Generator.next_new_definitions, hdefinitions]
    rfl
  cases hw : w.write.outcome with
  | error f =>
    replace hcall : call.1 = .error f := by rw [hcall, hw]; rfl
    replace hfirst : (Generator.new w).next.1 = .error f := by rw [hfirst, hw]; rfl
    refine ⟨by rw [hcall, hfirst], fun f' => by rw [hcall, hfirst], hids', hdefinitions', ?_⟩
    intro text htext
    rw [hfirst] at htext
    cases htext
  | ok head =>
    replace hcall : call.1 = .ok (withDefinitions head
        (List.replicate (k + 1) (Generator.new w).next.2.definitions).flatten) := by
      rw [hcall, hw]; rfl
    replace hfirst : (Generator.new w).next.1 =
        .ok (withDefinitions head (Generator.new w).next.2.definitions) := by
      rw [hfirst, hw]; rfl
    refine ⟨⟨fun _ => ⟨_, hfirst⟩, fun _ => ⟨_, hcall⟩⟩, ?_, hids', hdefinitions', ?_⟩
    · intro f
      simp [hcall, hfirst]
    · intro text htext
      rw [hfirst] at htext
      cases htext
      exact ⟨head, rfl, hcall⟩

end

/-- Once more the same definitions make a longer text. -/
theorem withDefinitions_replicate_succ (head : String) (texts : List String) (k : Nat) :
    withDefinitions head (List.replicate (k + 1) texts).flatten =
      withDefinitions head (List.replicate (k + 2) texts).flatten ↔ texts = [] := by
  constructor
  · intro h
    by_contra hne
    have hne' : (List.replicate (k + 1) texts).flatten ≠ [] := by simp [hne]
    have hlength := congrArg String.length h
    rw [List.replicate_succ' (n := k + 1), List.flatten_concat, withDefinitions, withDefinitions,
      String.intercalate_append_of_ne_nil hne' hne] at hlength
    simp only [String.length_append] at hlength
    have hnewline : "\n".length = 1 := rfl
    omega
  · rintro rfl
    simp

/-- Every call of a generator succeeds or fails as the first did, and collects the same once more.
Two texts in a row are the same only if the workflow brings no definitions along. -/
theorem Generator.calls_repeat_first (w : Workflow) (n : Nat) :
    ((Generator.new w).calls n).length = n ∧
    ∀ k call, ((Generator.new w).calls n)[k]? = some call →
      Repeats (Generator.new w).next (k + 1) call ∧
      ∀ later text text', ((Generator.new w).calls n)[k + 1]? = some later →
        call.1 = .ok text → later.1 = .ok text' →
        (text = text' ↔ (∀ s ∈ w.steps, s.definition = none) ∧ w.subworkflows = []) := by
  refine ⟨Generator.length_calls n _, ?_⟩
  intro k call hcall
  refine ⟨Generator.calls_repeats hcall, ?_⟩
  intro later text text' hlater htext htext'
  rw [Generator.calls_new_outcome hcall] at htext
  rw [Generator.calls_new_outcome hlater] at htext'
  cases hw : w.write.outcome with
  | error f =>
    rw [hw] at htext
    cases htext
  | ok head =>
    rw [hw] at htext htext'
    cases htext
    cases htext'
    rw [withDefinitions_replicate_succ, Generator.next_new_definitions,
      Workflow.definitions_write_eq_nil_iff hw]

def callingSample : Workflow :=
  ⟨.str "outer", [], [], [], [⟨.str "inner", ⟨.str "inner", [], [], [], [], []⟩, [], [], .null⟩], []⟩

theorem Generator.calls_callingSample : ∃ first second text text',
    (Generator.new callingSample).calls 2 = [first, second] ∧
    Repeats (Generator.new callingSample).next 2 second ∧
    first.1 = .ok text ∧ second.1 = .ok text' ∧ text ≠ text' := by
  refine ⟨_, _, _, _, rfl, ?_, rfl, rfl, ?_⟩
  · exact ((Generator.calls_repeat_first callingSample 2).2 1 _ rfl).1
  · intro h
    have hiff := ((Generator.calls_repeat_first callingSample 2).2 0 _ rfl).2 _ _ _ rfl rfl rfl
    cases (hiff.mp h).2

end FlowConverter.Wdl
