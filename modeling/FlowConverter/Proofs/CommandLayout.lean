import FlowConverter.Proofs.CommandDomain
import FlowConverter.Proofs.Reading

/-! What a command section consists of. Its parts are the settings of the environment, the base
command with all arguments and the inputs that are not left out, and the redirection of the output.
Main statement: a section that can be written is made of these parts, each of them once, with the
settings of later requirements first and the middle in the order of positions. -/
namespace FlowConverter.Wdl

/-- An input that gets no part: a Boolean that is off or has no flag, and the file that the output
goes to. -/
def Input.LeftOut (stdout : Value) (i : Input) : Prop :=
  i.type = .str "Boolean" ∧ (i.default = .str "False" ∨ i.flag = .null) ∨ i.name.equals stdout

theorem Input.isOmitted_iff {stdout : Value} {i : Input} :
    i.isOmitted stdout = true ↔ i.LeftOut stdout := by
  simp only [isOmitted, LeftOut, Bool.or_eq_true, Bool.and_eq_true, Value.equals_str_iff,
    Value.isNull_iff]

instance (stdout : Value) (i : Input) : Decidable (i.LeftOut stdout) :=
  decidable_of_iff _ Input.isOmitted_iff

theorem Task.mentioned_eq (t : Task) :
    t.mentioned = t.command.inputs.filter fun i => ¬i.LeftOut t.stdout := by
  refine List.filter_congr fun i _ => ?_
  rw [Bool.eq_iff_iff, decide_eq_true_iff, ← Input.isOmitted_iff, Bool.not_eq_true',
    Bool.not_eq_true]

def Requirement.isEnvironment (r : Requirement) : Bool := r.kind.equals (.str "envVar")

/-- The parts of a command section. There is a part for each environment requirement, for each
argument and for each input that is not left out; `ordered` is all but the settings. -/
structure Task.Layout (t : Task) where
  settings : List String
  arguments : List Part
  inputs : List Part
  ordered : List Part
  settings_of : List.Forall₂ (fun r s => r.settings = .ok (some (.str s)))
    (t.requirements.filter (·.isEnvironment)) settings
  arguments_of : List.Forall₂ (fun a p => a.part = .ok p ∧ p.position = a.position)
    t.command.arguments arguments
  inputs_of : List.Forall₂ (fun i p => i.part = .ok p ∧ p.position = i.position)
    (t.command.inputs.filter fun i => ¬i.LeftOut t.stdout) inputs
  arranged : Arranged (⟨.int 0, t.command.base⟩ :: arguments ++ inputs) ordered
  texts : ∀ p ∈ ordered, p.text.isText

/-- The parts joined: the settings of the last requirement come first, and the redirection last. -/
def Task.Layout.text {t : Task} (l : t.Layout) : String :=
  " \\\n        ".intercalate (l.settings.reverse ++ l.ordered.map (·.text.text) ++
    if t.stdout.isNull then [] else ["> $\x7b" ++ t.stdout.text ++ "\x7d"])

theorem Requirement.settings_eq_ok {r : Requirement} {found : Option Value}
    (h : r.settings = .ok found) :
    if r.isEnvironment then ∃ s, found = some (.str s) else found = none := by
  rw [Requirement.settings, ← isEnvironment] at h
  split at h
  next hkind =>
    obtain ⟨items, -, h⟩ := bind_eq_ok_iff.mp h
    obtain ⟨texts, -, h⟩ := bind_eq_ok_iff.mp h
    rw [if_pos hkind]
    exact ⟨_, (Except.ok.inj h).symm⟩
  next hkind =>
    rw [if_neg hkind]
    exact (Except.ok.inj h).symm

/-- The environment requirements have settings, one text each, and the others have none. -/
theorem exists_settings_of_mapM {requirements : List Requirement} {found : List (Option Value)}
    (h : requirements.mapM (·.settings) = .ok found) :
    ∃ settings : List String, found.filterMap id = settings.map .str ∧
      List.Forall₂ (fun r s => r.settings = .ok (some (.str s)))
        (requirements.filter (·.isEnvironment)) settings := by
  rw [mapM_eq_ok_iff] at h
  induction h with
  | nil => exact ⟨[], rfl, .nil⟩
  | @cons r found rs founds hr _ ih =>
    obtain ⟨settings, hsettings, hof⟩ := ih
    have hcases := Requirement.settings_eq_ok hr
    split at hcases
    next hkind =>
      obtain ⟨s, rfl⟩ := hcases
      rw [List.filter_cons, if_pos hkind]
      refine ⟨s :: settings, ?_, .cons hr hof⟩
      rw [List.filterMap_cons, List.map_cons, ← hsettings]
      rfl
    next hkind =>
      rw [hcases, List.filter_cons, if_neg hkind]
      exact ⟨settings, hsettings, hof⟩

/-- A command section that can be written is the settings, the parts in their order and the
redirection, all of them texts. -/
theorem Task.commandSection_eq_ok {t : Task} {s : String} (h : t.commandSection = .ok s) :
    ∃ parts ordered settings, t.parts = .ok parts ∧ orderParts parts = .ok ordered ∧
      (∀ v ∈ ordered, v.isText) ∧
      List.Forall₂ (fun r s => r.settings = .ok (some (.str s)))
        (t.requirements.filter (·.isEnvironment)) settings ∧
      s = partSeparator.intercalate (settings.reverse ++ ordered.map (·.text) ++
        if t.stdout.isNull then [] else ["> $\x7b" ++ t.stdout.text ++ "\x7d"]) := by
  obtain ⟨parts, hparts, h⟩ := bind_eq_ok_iff.mp h
  obtain ⟨ordered, hordered, h⟩ := bind_eq_ok_iff.mp h
  obtain ⟨found, hfound, h⟩ := bind_eq_ok_iff.mp h
  obtain ⟨settings, hsettings, settings_of⟩ := exists_settings_of_mapM hfound
  obtain ⟨htexts, rfl⟩ := Value.join_list_eq_ok h
  have hordered' : ∀ v ∈ ordered, v.isText := fun v hv =>
    htexts v (List.mem_append_left _ (List.mem_append_right _ hv))
  refine ⟨parts, ordered, settings, hparts, hordered, hordered', settings_of, ?_⟩
  have hjoined : settings.reverse.map ((·.text) ∘ Value.str) = settings.reverse := List.map_id _
  rw [hsettings, ← List.map_reverse, List.map_append, List.map_append, List.map_map, hjoined]
  split
  · rfl
  · rfl

/-- A command section that can be written has a layout and is its text. -/
theorem Task.commandSection_has_layout {t : Task} {s : String} (h : t.commandSection = .ok s) :
    ∃ l : t.Layout, s = l.text := by
  obtain ⟨parts, middle, settings, hparts, hmiddle, htexts, settings_of, rfl⟩ :=
    commandSection_eq_ok h
  obtain ⟨arguments, harguments, hparts⟩ := bind_eq_ok_iff.mp hparts
  obtain ⟨inputs, hinputs, hparts⟩ := bind_eq_ok_iff.mp hparts
  obtain rfl := Except.ok.inj hparts
  obtain ⟨ordered, arranged, rfl⟩ := arranged_of_orderParts rfl hmiddle
  have arguments_of : List.Forall₂ (fun a p => a.part = .ok p ∧ p.position = a.position)
      t.command.arguments arguments :=
    ((mapM_eq_ok_iff _ _ _).mp harguments).imp fun _ _ h => ⟨h, (Argument.part_eq_ok h).1⟩
  have inputs_of : List.Forall₂ (fun i p => i.part = .ok p ∧ p.position = i.position)
      (t.command.inputs.filter fun i => ¬i.LeftOut t.stdout) inputs := by
    rw [← t.mentioned_eq]
    exact ((mapM_eq_ok_iff _ _ _).mp hinputs).imp fun _ _ h => ⟨h, (Input.part_eq_ok h).1⟩
  have texts : ∀ p ∈ ordered, p.text.isText := fun p hp => htexts p.text (List.mem_map_of_mem hp)
  refine ⟨⟨settings, arguments, inputs, ordered, settings_of, arguments_of, inputs_of, arranged,
    texts⟩, ?_⟩
  rw [Layout.text, List.map_map]
  rfl

def mixedSample : Task where
  name := .str "t"
  command := {
    base := .str "sort"
    arguments := [⟨.null, .null, .str "last", none⟩, ⟨.null, .bool true, .str "one", none⟩,
      ⟨.str "-k", .int (-1), .int 2, some (.bool true)⟩]
    inputs := [
      ⟨.str "a", .null, .float (.finite false 1 0), .null, .null, .str "File", .bool true, .bool true⟩,
      ⟨.str "b", .null, .float (.finite false 1 (-1)), .null, .str "False", .str "Boolean",
        .bool true, .bool true⟩,
      ⟨.str "c", .str "-c", .float (.finite false 1 (-1)), .str ",", .null, .str "Array[Int]",
        .bool false, .bool true⟩,
      ⟨.str "out", .null, .int 3, .null, .null, .str "String", .bool true, .bool true⟩,
      ⟨.str "d", .null, .bool false, .null, .str "0", .str "Int", .bool true, .bool true⟩] }
  inputs := []
  outputs := []
  requirements := [
    ⟨.str "envVar", .list [.list [.str "A", .int 1], .list [.str "B", .int 2]]⟩,
    ⟨.str "docker", .str "alpine"⟩, ⟨.str "envVar", .list [.list [.str "A", .int 3]]⟩]
  stdin := .null
  stdout := .str "out"

theorem commandSection_mixedSample : ∃ l : mixedSample.Layout, l.text =
    " \\\n        ".intercalate ["A='3'", "A='1' B='2'", "-k 2", "sort", "$\x7bdefault='0' d\x7d",
      "$\x7b-c + sep=',' c\x7d", "one", "$\x7ba\x7d", "last", "> $\x7bout\x7d"] := by
  obtain ⟨l, hl⟩ := @Task.commandSection_has_layout mixedSample _ rfl
  exact ⟨l, hl.symm⟩

end FlowConverter.Wdl
