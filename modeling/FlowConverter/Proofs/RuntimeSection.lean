import FlowConverter.Proofs.Reading
import FlowConverter.Proofs.TaskBraces

/-! Tasks without a runtime section. The empty section is deleted from the finished text, and every
text that looks like it is deleted too, wherever it stands. Main statement: the text of a task
without runtime lines is its name, declarations, command and outputs in the template, less the
empty runtime sections among them; it is all of them if and only if none is there. -/
namespace FlowConverter.Wdl

open Text

/-! ### Deletion -/

/-- A section is closed by its last character and not before. -/
theorem IsEmptyRuntime.notMem_dropLast {s : List Char} (h : IsEmptyRuntime s) :
    '\x7d' ∉ s.dropLast := by
  obtain ⟨before, inside, -, -, hbefore, hinside, rfl⟩ := h
  have hblank : ∀ blanks : List Char, (∀ c ∈ blanks, isBlank c = true) → '\x7d' ∉ blanks := by
    intro blanks hblanks hmem
    exact absurd (hblanks _ hmem) (by decide)
  rw [emptyRuntime, List.dropLast_concat, List.mem_append, List.mem_append]
  rintro ((hmem | hmem) | hmem)
  · exact hblank before hbefore hmem
  · exact absurd hmem (by decide)
  · exact hblank inside hinside hmem

theorem IsEmptyRuntime.word_infix {s : List Char} (h : IsEmptyRuntime s) :
    "runtime".toList <:+: s := by
  obtain ⟨before, inside, -, -, -, -, rfl⟩ := h
  exact ⟨before, " \x7b".toList ++ inside ++ ['\x7d'], by simp [emptyRuntime]⟩

namespace Deleted

variable {s kept : List Char}

theorem eq_dropEmptyRuntime (h : Deleted s kept) : kept = dropEmptyRuntime s :=
  h.eq_deleteAll finds_emptyRuntime emptyRuntimeLength?_append

/-- A text that ends with a brace can be gone through on its own: no section reaches beyond it. -/
theorem append {s' kept' : List Char} (h : Deleted s kept)
    (hlast : ∀ c, s.getLast? = some c → c = '\x7d') (h' : Deleted s' kept') :
    Deleted (s ++ s') (kept ++ kept') := by
  induction h with
  | nil => exact h'
  | @keep c rest kept hc _ ih =>
    refine .keep ?_ (ih fun x hx => hlast x (by simp [List.getLast?_cons, hx]))
    intro found hfound hprefix
    rcases List.prefix_or_prefix_of_prefix hprefix (List.prefix_append (c :: rest) s') with
      hshort | ⟨more, hmore⟩
    · exact hc found hfound hshort
    · by_cases hnil : more = []
      · rw [hnil, List.append_nil] at hmore
        exact hc found hfound ⟨[], by simp [hmore]⟩
      -- The brace that ends the first text would stand inside the section.
      · have hclosed : '\x7d' ∈ c :: rest := by
          rw [← hlast _ (List.getLast?_eq_some_getLast (List.cons_ne_nil c rest))]
          exact List.getLast_mem _
        refine hfound.notMem_dropLast ?_
        rw [← hmore, List.dropLast_append_of_ne_nil hnil]
        exact List.mem_append_left _ hclosed
  | @delete found rest kept hfound _ ih =>
    rw [List.append_assoc]
    exact .delete hfound (ih fun x hx => hlast x (by simp [hx]))

end Deleted

/-! ### Sections of a task -/

/-- The template of a task up to the end of its outputs. -/
def sectionsText (name declarations command outputs : String) : String :=
  "\ntask " ++ name ++ " \x7b\n    " ++ declarations ++
  "\n\n    command \x7b\n        " ++ command ++
  "\n    \x7d\n\n    output \x7b\n        " ++ outputs ++ "\n    \x7d"

theorem taskText_without_runtime (name declarations command outputs : String) :
    taskText name declarations command outputs "" =
      sectionsText name declarations command outputs ++
        "\n\n    runtime \x7b\n        \n    \x7d\n\x7d\n" := by
  have hend (start : String) : start ++ "\n    \x7d\n\n    runtime \x7b\n        " ++ "" ++
      "\n    \x7d\n\x7d\n" =
      start ++ "\n    \x7d" ++ "\n\n    runtime \x7b\n        \n    \x7d\n\x7d\n" := by
    rw [String.append_empty, String.append_assoc, String.append_assoc]
    rfl
  exact hend _

/-- Of the template, the empty section and the blanks before it are deleted. -/
theorem dropEmptyRuntime_taskText (name declarations command outputs : String) :
    ∃ kept, Deleted (sectionsText name declarations command outputs).toList kept ∧
      dropEmptyRuntime (taskText name declarations command outputs "").toList =
        kept ++ "\n\x7d\n".toList := by
  have hlast (start : String) (c : Char) (hc : (start ++ "\n    \x7d").toList.getLast? = some c) :
      c = '\x7d' := by
    rw [String.toList_append, List.getLast?_append] at hc
    exact (Option.some.inj hc).symm
  have hend : Deleted "\n\n    runtime \x7b\n        \n    \x7d\n\x7d\n".toList
    "\n\x7d\n".toList := deleted_dropEmptyRuntime _
  refine ⟨_, deleted_dropEmptyRuntime _, ?_⟩
  rw [taskText_without_runtime, String.toList_append]
  exact ((deleted_dropEmptyRuntime _).append (hlast _) hend).eq_dropEmptyRuntime.symm

/-- A word that cannot go over the border between two texts stands in one of them. -/
theorem infix_of_append {w xs ys : String} (h : w.toList <:+: (xs ++ ys).toList)
    (hborder : (∃ c, xs.toList.getLast? = some c ∧ c ∉ w.toList) ∨
      ∃ c, ys.toList.head? = some c ∧ c ∉ w.toList) :
    w.toList <:+: xs.toList ∨ w.toList <:+: ys.toList := by
  rw [String.toList_append] at h
  rcases List.infix_append_iff.mp h with h | h | ⟨first, second, hw, hxs, hys⟩
  · exact .inl h
  · exact .inr h
  · rw [hw] at hborder ⊢
    rcases hborder with ⟨c, hc, hnot⟩ | ⟨c, hc, hnot⟩
    · cases first with
      | nil => exact .inr hys.isInfix
      | cons x first =>
        obtain ⟨before, hxs⟩ := hxs
        rw [← hxs, List.getLast?_append_of_ne_nil _ (List.cons_ne_nil x first)] at hc
        exact absurd (List.mem_append_left second (List.mem_of_getLast? hc)) hnot
    · cases second with
      | nil => exact .inl (by rw [List.append_nil]; exact hxs.isInfix)
      | cons x second =>
        obtain ⟨after, hys⟩ := hys
        rw [← hys] at hc
        cases hc
        exact absurd (by simp) hnot

/-- A word stands in no text that lacks one of its characters. -/
theorem not_infix_of_notMem {w s : String} {c : Char} (hc : c ∈ w.toList) (hs : c ∉ s.toList) :
    ¬ w.toList <:+: s.toList :=
  fun h => hs (h.subset hc)

/-- The same with a gap between the texts that the word can neither enter nor fill. -/
theorem infix_of_gap {w xs gap ys : String} (h : w.toList <:+: (xs ++ gap ++ ys).toList)
    (hgap : ¬ w.toList <:+: gap.toList) (hfirst : ∃ c, gap.toList.head? = some c ∧ c ∉ w.toList)
    (hlast : ∃ c, gap.toList.getLast? = some c ∧ c ∉ w.toList) :
    w.toList <:+: xs.toList ∨ w.toList <:+: ys.toList := by
  obtain ⟨c, hc, hnot⟩ := hlast
  have hend : (xs ++ gap).toList.getLast? = some c := by
    rw [String.toList_append, List.getLast?_append, hc, Option.some_or]
  rcases infix_of_append h (.inl ⟨c, hend, hnot⟩) with h | h
  · rcases infix_of_append h (.inr hfirst) with h | h
    · exact .inl h
    · exact absurd h hgap
  · exact .inr h

/-- The template itself does not hold the word, and blanks stand around all that is put into it. -/
theorem word_infix_sectionsText {name declarations command outputs : String}
    (h : "runtime".toList <:+: (sectionsText name declarations command outputs).toList) :
    ∃ s ∈ [name, declarations, command, outputs], "runtime".toList <:+: s.toList := by
  have hspace : ' ' ∉ "runtime".toList := by decide
  have hfeed : '\n' ∉ "runtime".toList := by decide
  have hletter : 'r' ∈ "runtime".toList := by decide
  rcases infix_of_append h (.inr ⟨'\n', rfl, hfeed⟩) with h | h
  · rcases infix_of_gap h (not_infix_of_notMem hletter (by decide)) ⟨'\n', rfl, hfeed⟩
      ⟨' ', rfl, hspace⟩ with h | h
    · rcases infix_of_gap h (not_infix_of_notMem hletter (by decide)) ⟨'\n', rfl, hfeed⟩
        ⟨' ', rfl, hspace⟩ with h | h
      · rcases infix_of_gap h (not_infix_of_notMem hletter (by decide)) ⟨' ', rfl, hspace⟩
          ⟨' ', rfl, hspace⟩ with h | h
        · rcases infix_of_append h (.inl ⟨' ', rfl, hspace⟩) with h | h
          · exact absurd h (not_infix_of_notMem hletter (by decide))
          · exact ⟨name, by simp, h⟩
        · exact ⟨declarations, by simp, h⟩
      · exact ⟨command, by simp, h⟩
    · exact ⟨outputs, by simp, h⟩
  · exact absurd h (not_infix_of_notMem hletter (by decide))

/-! ### Tasks -/

theorem Requirement.line?_eq_none_iff (r : Requirement) :
    r.line? = none ↔ r.kind = .null ∨ r.value = .null ∨ r.kind = .str "envVar" := by
  rw [line?, ← Value.isNull_iff, ← Value.isNull_iff, ← Value.equals_str_iff]
  split
  next h => simpa [or_assoc] using h
  next h => simpa [or_assoc] using h

theorem Task.runtimeLines_eq_nil_iff (t : Task) :
    t.runtimeLines = [] ↔
      ∀ r ∈ t.requirements, r.kind = .null ∨ r.value = .null ∨ r.kind = .str "envVar" := by
  simp only [runtimeLines, List.filterMap_eq_nil_iff, Requirement.line?_eq_none_iff]

/-- A task none of whose requirements makes a runtime line is written without a runtime section. Of
its other sections the text holds what is left once the empty runtime sections are deleted from
them: all of it, if and only if there are none, as is the case where nobody writes the word. -/
theorem Task.text_without_runtime {t : Task} {text : String}
    (hlines : ∀ r ∈ t.requirements, r.kind = .null ∨ r.value = .null ∨ r.kind = .str "envVar")
    (h : t.text = .ok text) :
    ∃ declared command, declarations t.inputs = .ok declared ∧ t.commandSection = .ok command ∧
      (∃ kept, Deleted (sectionsText t.name.text declared command t.outputSection).toList kept ∧
        text = String.ofList kept ++ "\n\x7d\n") ∧
      (text = sectionsText t.name.text declared command t.outputSection ++ "\n\x7d\n" ↔
        ∀ found, IsEmptyRuntime found →
          ¬ found <:+: (sectionsText t.name.text declared command t.outputSection).toList) ∧
      ((∀ s ∈ [t.name.text, declared, command, t.outputSection],
          ¬ "runtime".toList <:+: s.toList) →
        text = sectionsText t.name.text declared command t.outputSection ++ "\n\x7d\n") := by
  obtain ⟨declared, hdeclared, h⟩ := bind_eq_ok_iff.mp h
  obtain ⟨command, hcommand, h⟩ := bind_eq_ok_iff.mp h
  obtain ⟨kept, hkept, hdrop⟩ :=
    dropEmptyRuntime_taskText t.name.text declared command t.outputSection
  have htext : text = String.ofList kept ++ "\n\x7d\n" := by
    rw [(Task.runtimeLines_eq_nil_iff t).mpr hlines] at h
    calc text = String.ofList (dropEmptyRuntime
          (taskText t.name.text declared command t.outputSection "").toList) :=
          (Except.ok.inj h).symm
      _ = String.ofList kept ++ "\n\x7d\n" := by
        rw [hdrop, String.ofList_append, String.ofList_toList]
  have hiff : text = sectionsText t.name.text declared command t.outputSection ++ "\n\x7d\n" ↔
      ∀ found, IsEmptyRuntime found →
        ¬ found <:+: (sectionsText t.name.text declared command t.outputSection).toList := by
    rw [← hkept.eq_iff fun _ => IsEmptyRuntime.ne_nil, htext, String.append_left_inj,
      ← String.toList_inj, String.toList_ofList]
  refine ⟨declared, command, hdeclared, hcommand, ⟨kept, hkept, htext⟩, hiff, ?_⟩
  intro hword
  refine hiff.mpr fun found hfound hin => ?_
  obtain ⟨s, hs, hin⟩ := word_infix_sectionsText (hfound.word_infix.trans hin)
  exact hword s hs hin

def homeSample : Task where
  name := .str "list"
  command := ⟨.str "ls", [], []⟩
  inputs := []
  outputs := [⟨.str "found", .str "stdout()", .str "File", .bool true⟩]
  requirements := [⟨.str "envVar", .list [.list [.str "HOME", .str "/"]]⟩, ⟨.str "docker", .null⟩]
  stdin := .null
  stdout := .null

theorem Task.text_homeSample :
    (∀ r ∈ homeSample.requirements,
      r.kind = .null ∨ r.value = .null ∨ r.kind = .str "envVar") ∧
      homeSample.text = .ok (sectionsText "list" "" "HOME='/' \\\n        ls"
        "File found = stdout()" ++ "\n\x7d\n") := by
  have hlines : ∀ r ∈ homeSample.requirements,
      r.kind = .null ∨ r.value = .null ∨ r.kind = .str "envVar" := by
    intro r hr
    rcases List.mem_pair.mp hr with rfl | rfl
    · exact .inr (.inr rfl)
    · exact .inr (.inl rfl)
  refine ⟨hlines, ?_⟩
  obtain ⟨text, htext⟩ : ∃ text, homeSample.text = .ok text := ⟨_, rfl⟩
  obtain ⟨declared, command, hdeclared, hcommand, -, -, hwhole⟩ :=
    Task.text_without_runtime hlines htext
  cases hdeclared
  cases hcommand
  rw [htext, hwhole]
  · rfl
  · have hletter : ∀ s ∈ ["list", "", "HOME='/' \\\n        ls", "File found = stdout()"],
        'm' ∉ s.toList := by decide
    exact fun s hs => not_infix_of_notMem (by decide) (hletter s hs)

def echoSample : Task where
  name := .str "t"
  command := ⟨.str "echo runtime \x7b \x7d", [], []⟩
  inputs := []
  outputs := []
  requirements := []
  stdin := .null
  stdout := .null

/-- The command loses all but its first word. -/
theorem Task.text_cuts_echoSample :
    echoSample.commandSection = .ok "echo runtime \x7b \x7d" ∧
      echoSample.text = .ok (sectionsText "t" "" "echo" "" ++ "\n\x7d\n") ∧
      sectionsText "t" "" "echo" "" ≠ sectionsText "t" "" "echo runtime \x7b \x7d" "" := by
  have hdeleted : String.ofList (dropEmptyRuntime
      (taskText "t" "" "echo runtime \x7b \x7d" "" "").toList) =
      sectionsText "t" "" "echo" "" ++ "\n\x7d\n" := by decide +kernel
  exact ⟨rfl, congrArg Except.ok hdeleted, by decide⟩

end FlowConverter.Wdl
