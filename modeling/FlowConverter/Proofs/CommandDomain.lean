import FlowConverter.Proofs.PartOrder
import FlowConverter.Wdl.TaskText

/-! Which tasks have a text. A command section fails only at an argument with a flag whose separation
is not set, at an input without a text for a name or a type, at a position that cannot be
ordered, at settings that are no pairs, and at a base command that is no text. -/
namespace FlowConverter

def Value.isText (v : Value) : Bool := v.text?.isSome

theorem Value.exists_asText_iff {v : Value} : (∃ s, v.asText = .ok s) ↔ v.isText := by
  cases v <;> simp [isText, text?, asText, pure_eq_ok, throw_eq_error]

theorem Value.text_of_asText {v : Value} {s : String} (h : v.asText = .ok s) : v.text = s := by
  cases v with
  | str t => exact Except.ok.inj h
  | _ => cases h

theorem Value.join_list_eq_ok {sep s : String} {items : List Value}
    (h : (Value.list items).join sep = .ok s) :
    (∀ v ∈ items, v.isText) ∧ s = sep.intercalate (items.map (·.text)) := by
  obtain ⟨_, ⟨⟩, h⟩ := bind_eq_ok_iff.mp h
  obtain ⟨parts, hparts, h⟩ := bind_eq_ok_iff.mp h
  have htexts : parts.map id = items.map (·.text) :=
    map_eq_map_of_mapM hparts fun _ _ htext => (text_of_asText htext).symm
  rw [List.map_id] at htexts
  refine ⟨?_, htexts ▸ (Except.ok.inj h).symm⟩
  simp only [← exists_asText_iff]
  exact (exists_mapM_eq_ok_iff _ _).mp ⟨parts, hparts⟩

theorem Value.exists_join_list_iff (sep : String) (items : List Value) :
    (∃ s, (Value.list items).join sep = .ok s) ↔ ∀ v ∈ items, v.isText := by
  constructor
  · rintro ⟨s, h⟩
    exact (join_list_eq_ok h).1
  · intro h
    simp only [← exists_asText_iff, ← exists_mapM_eq_ok_iff] at h
    obtain ⟨parts, hp⟩ := h
    exact ⟨sep.intercalate parts, bind_eq_ok_iff.mpr ⟨items, rfl, by rw [hp]; rfl⟩⟩

namespace Wdl

theorem Argument.exists_part_iff (a : Argument) :
    (∃ p, a.part = .ok p) ↔ a.flag.isNull ∨ a.separate.isSome := by
  rw [Argument.part]
  cases a.flag.isNull with
  | true => simp [pure_eq_ok]
  | false => cases a.separate <;> simp [pure_eq_ok, throw_eq_error]

theorem Argument.part_eq_ok {a : Argument} {p : Part} (h : a.part = .ok p) :
    p.position = a.position ∧ p.text.isText := by
  rw [Argument.part] at h
  split at h
  · cases h
    exact ⟨rfl, rfl⟩
  · split at h
    · cases h
    · cases h
      exact ⟨rfl, rfl⟩

def Input.isNamed (i : Input) : Bool := i.type.isText && i.name.isText

theorem Input.exists_expression_iff (i : Input) : (∃ s, i.expression = .ok s) ↔ i.isNamed := by
  rw [Input.expression, Input.isNamed]
  cases i.type <;> cases i.name <;>
    simp [isArrayType, Value.asText, Value.isText, Value.text?, pure_eq_ok, throw_eq_error]

theorem Input.exists_part_iff (i : Input) : (∃ p, i.part = .ok p) ↔ i.isNamed := by
  rw [← Input.exists_expression_iff]
  constructor
  · rintro ⟨p, h⟩
    obtain ⟨s, hs, -⟩ := bind_eq_ok_iff.mp h
    exact ⟨s, hs⟩
  · rintro ⟨s, hs⟩
    rw [Input.part, hs]
    exact ⟨_, rfl⟩

theorem Input.part_eq_ok {i : Input} {p : Part} (h : i.part = .ok p) :
    p.position = i.position ∧ p.text.isText := by
  rw [Input.part] at h
  obtain ⟨s, -, h⟩ := bind_eq_ok_iff.mp h
  cases h
  exact ⟨rfl, rfl⟩

def Task.mentioned (t : Task) : List Input := t.command.inputs.filter (!·.isOmitted t.stdout)

theorem Task.exists_parts_iff (t : Task) :
    (∃ parts, t.parts = .ok parts) ↔
      (∀ a ∈ t.command.arguments, a.flag.isNull ∨ a.separate.isSome) ∧
        ∀ i ∈ t.mentioned, i.isNamed := by
  simp only [← Argument.exists_part_iff, ← Input.exists_part_iff, ← exists_mapM_eq_ok_iff]
  constructor
  · rintro ⟨parts, h⟩
    obtain ⟨as, ha, h⟩ := bind_eq_ok_iff.mp h
    obtain ⟨is, hi, -⟩ := bind_eq_ok_iff.mp h
    exact ⟨⟨as, ha⟩, is, hi⟩
  · rintro ⟨⟨as, ha⟩, is, hi⟩
    exact ⟨_, bind_eq_ok_iff.mpr ⟨as, ha, bind_eq_ok_iff.mpr ⟨is, hi, rfl⟩⟩⟩

def Task.positions (t : Task) : List Value :=
  t.command.arguments.map (·.position) ++ t.mentioned.map (·.position)

/-- The base command leads the parts; all others are texts and keep their positions. -/
theorem Task.parts_eq_ok {t : Task} {parts : List Part} (h : t.parts = .ok parts) :
    ∃ rest, parts = ⟨.int 0, t.command.base⟩ :: rest ∧ (∀ p ∈ rest, p.text.isText) ∧
      rest.map (·.position) = t.positions := by
  obtain ⟨as, ha, h⟩ := bind_eq_ok_iff.mp h
  obtain ⟨is, hi, h⟩ := bind_eq_ok_iff.mp h
  cases h
  refine ⟨as ++ is, rfl, ?_, ?_⟩
  · intro p hp
    rcases List.mem_append.mp hp with hp | hp
    · obtain ⟨a, -, he⟩ := exists_of_mem_mapM ha hp
      exact (Argument.part_eq_ok he).2
    · obtain ⟨i, -, he⟩ := exists_of_mem_mapM hi hp
      exact (Input.part_eq_ok he).2
  · rw [List.map_append, map_eq_map_of_mapM ha fun _ _ he => (Argument.part_eq_ok he).1,
      map_eq_map_of_mapM hi fun _ _ he => (Input.part_eq_ok he).1]
    rfl

theorem Requirement.settings_isText {r : Requirement} {v : Value} (h : r.settings = .ok (some v)) :
    v.isText := by
  rw [Requirement.settings] at h
  split at h
  · obtain ⟨items, -, h⟩ := bind_eq_ok_iff.mp h
    obtain ⟨texts, -, h⟩ := bind_eq_ok_iff.mp h
    cases h
    rfl
  · cases h

/-- What is joined to a command section can be joined if the base command is a text. -/
theorem Task.joined_isText {t : Task} {ordered : List Value} {settings : List (Option Value)}
    {rest : List Part} (ho : ordered.Perm (t.command.base :: rest.map (·.text)))
    (hr : ∀ p ∈ rest, p.text.isText) (hs : t.requirements.mapM (·.settings) = .ok settings) :
    (∀ v ∈ (settings.filterMap id).reverse ++ ordered ++
      (if t.stdout.isNull then [] else [.str ("> " ++ reference t.stdout.text)]), v.isText) ↔
      t.command.base.isText := by
  constructor
  · intro h
    exact h _ (by simp [ho.mem_iff])
  · intro h v hv
    simp only [List.mem_append, List.mem_reverse, List.mem_filterMap, id_eq, exists_eq_right,
      ho.mem_iff, List.mem_cons, List.mem_map] at hv
    rcases hv with (hv | rfl | ⟨p, hp, rfl⟩) | hv
    · obtain ⟨r, -, he⟩ := exists_of_mem_mapM hs hv
      exact Requirement.settings_isText he
    · exact h
    · exact hr p hp
    · split at hv
      · cases hv
      · rw [List.mem_singleton.mp hv]
        rfl

/-- Exactly these tasks have a command section. -/
theorem Task.exists_commandSection_iff (t : Task) :
    (∃ s, t.commandSection = .ok s) ↔
      (∃ parts, t.parts = .ok parts) ∧ (∀ v ∈ t.positions, v.isPosition) ∧
        (∀ r ∈ t.requirements, ∃ v, r.settings = .ok v) ∧ t.command.base.isText := by
  constructor
  · rintro ⟨s, h⟩
    obtain ⟨parts, hp, h⟩ := bind_eq_ok_iff.mp h
    obtain ⟨ordered, ho, h⟩ := bind_eq_ok_iff.mp h
    obtain ⟨settings, hs, hjoin⟩ := bind_eq_ok_iff.mp h
    obtain ⟨rest, rfl, htext, hpos⟩ := Task.parts_eq_ok hp
    refine ⟨⟨_, hp⟩, ?_, ?_, ?_⟩
    · rw [← hpos]
      exact List.forall_mem_map.mpr ((exists_orderParts_iff rfl).mp ⟨ordered, ho⟩)
    · exact (exists_mapM_eq_ok_iff _ _).mp ⟨settings, hs⟩
    · exact (Task.joined_isText (orderParts_perm ho) htext hs).mp
        ((Value.exists_join_list_iff _ _).mp ⟨s, hjoin⟩)
  · rintro ⟨⟨parts, hp⟩, hpos, hset, hbase⟩
    obtain ⟨rest, rfl, htext, hpos'⟩ := Task.parts_eq_ok hp
    rw [← hpos'] at hpos
    have hparts : ∀ p ∈ rest, p.position.isPosition := List.forall_mem_map.mp hpos
    have hfirst : (Part.mk (.int 0) t.command.base).position.isNumber := rfl
    obtain ⟨ordered, ho⟩ := (exists_orderParts_iff hfirst).mpr hparts
    obtain ⟨settings, hs⟩ := (exists_mapM_eq_ok_iff _ _).mpr hset
    obtain ⟨s, hjoin⟩ := (Value.exists_join_list_iff partSeparator _).mpr
      ((Task.joined_isText (orderParts_perm ho) htext hs).mpr hbase)
    refine ⟨s, ?_⟩
    rw [Task.commandSection, hp, ok_bind, ho, ok_bind, hs, ok_bind]
    exact hjoin

theorem Task.exists_text_iff (t : Task) :
    (∃ s, t.text = .ok s) ↔
      (∃ s, declarations t.inputs = .ok s) ∧ ∃ s, t.commandSection = .ok s := by
  constructor
  · rintro ⟨s, h⟩
    obtain ⟨d, hd, h⟩ := bind_eq_ok_iff.mp h
    obtain ⟨c, hc, -⟩ := bind_eq_ok_iff.mp h
    exact ⟨⟨d, hd⟩, c, hc⟩
  · rintro ⟨⟨d, hd⟩, c, hc⟩
    rw [Task.text, hd, ok_bind, hc, ok_bind]
    exact ⟨_, rfl⟩

end Wdl

end FlowConverter
