import FlowConverter.Proofs.Outcome
import FlowConverter.Wdl.WorkflowText

/-! Bodies inside scatters. The lines of a body move in by two spaces, below a head with one line for
each clause and above a closing brace. Main statement: the lines of the text are those of the head,
the body and the closing, each in its place, so the body can be read back from the text, and bodies
that differ stay different however often they are put into scatters. -/
namespace FlowConverter

/-! ### Lines -/

namespace Text

theorem linesOf_eq_splitOn (cs : List Char) : linesOf cs = cs.splitOn '\n' := by
  induction cs with
  | nil => rfl
  | cons c rest ih =>
    rw [linesOf, List.splitOn_cons_eq_if_modifyHead, ih]
    cases hrest : rest.splitOn '\n' with
    | nil => exact absurd hrest (List.splitOn_ne_nil _ _)
    | cons l ls => rfl

theorem map_toList_lines (s : String) : (lines s).map String.toList = s.toList.splitOn '\n' := by
  have hsame : String.toList ∘ String.ofList = id := funext fun _ => String.toList_ofList
  rw [lines, List.map_map, hsame, List.map_id, linesOf_eq_splitOn]

theorem lines_ne_nil (s : String) : lines s ≠ [] := by
  intro hnil
  have hlines := map_toList_lines s
  rw [hnil] at hlines
  exact List.splitOn_ne_nil _ _ hlines.symm

/-- A text is its lines, joined again. -/
theorem intercalate_lines (s : String) : "\n".intercalate (lines s) = s := by
  rw [← String.toList_inj, String.toList_intercalate, map_toList_lines]
  exact List.intercalate_splitOn '\n'

/-- Lines are read back from the text that they are joined to. -/
theorem lines_intercalate {ls : List String} (hne : ls ≠ []) (hls : ∀ l ∈ ls, '\n' ∉ l.toList) :
    lines ("\n".intercalate ls) = ls := by
  have hjoined : ("\n".intercalate ls).toList = ['\n'].intercalate (ls.map String.toList) :=
    String.toList_intercalate
  have hsplit : (['\n'].intercalate (ls.map String.toList)).splitOn '\n' = ls.map String.toList :=
    List.splitOn_intercalate '\n' (List.forall_mem_map.mpr hls) (by simpa using hne)
  refine List.map_injective_iff.mpr (fun _ _ => String.toList_inj.mp) ?_
  rw [map_toList_lines, hjoined, hsplit]

theorem feed_notMem_of_mem_splitOn {cs l : List Char} (hl : l ∈ cs.splitOn '\n') : '\n' ∉ l := by
  induction cs generalizing l with
  | nil =>
    rw [List.mem_singleton.mp hl]
    exact List.not_mem_nil
  | cons c rest ih =>
    rw [List.splitOn_cons_eq_if_modifyHead] at hl
    obtain ⟨first, more, hrest⟩ := List.exists_cons_of_ne_nil (List.splitOn_ne_nil '\n' rest)
    rw [hrest] at hl ih
    split at hl
    · rcases List.mem_cons.mp hl with rfl | hl
      · exact List.not_mem_nil
      · exact ih hl
    next hc =>
      rcases List.mem_cons.mp hl with rfl | hl
      · rw [List.mem_cons, not_or]
        exact ⟨fun heq => hc (by rw [heq, beq_self_eq_true]), ih List.mem_cons_self⟩
      · exact ih (List.mem_cons_of_mem first hl)

/-- No line holds a line feed. -/
theorem feed_notMem_of_mem_lines {s l : String} (hl : l ∈ lines s) : '\n' ∉ l.toList := by
  have hmem : l.toList ∈ s.toList.splitOn '\n' := by
    rw [← map_toList_lines]
    exact List.mem_map_of_mem hl
  exact feed_notMem_of_mem_splitOn hmem

theorem notMem_toList_append {c : Char} {s t : String} :
    c ∉ (s ++ t).toList ↔ c ∉ s.toList ∧ c ∉ t.toList := by
  rw [String.toList_append, List.mem_append, not_or]

end Text

/-! ### Scatters -/

namespace Wdl

open Text

def ClauseOf (pair : Value) (clause : String) : Prop :=
  ∃ item source, pair.items = .ok [item, source] ∧ clause = item.text ++ " in " ++ source.text

/-- What a body can be scattered over: pairs, at least one of them, that are printed without line
feeds. -/
structure IsScatter (pairs : List Value) : Prop where
  nonempty : pairs ≠ []
  printed : ∀ pair ∈ pairs, ∃ item source, pair.items = .ok [item, source] ∧
    '\n' ∉ item.text.toList ∧ '\n' ∉ source.text.toList

/-- The lines of a head: the clauses in brackets, one below the other. -/
def headLines (lead : String) : List String → List String
  | [] => []
  | [clause] => [lead ++ clause ++ ") \x7b"]
  | clause :: next :: rest => (lead ++ clause) :: headLines "             " (next :: rest)

/-- The lines of a body inside a scatter with the given clauses. -/
def scatterLines (clauses : List String) (body : String) : List String :=
  "" :: headLines "    scatter (" clauses ++ (lines body).map ("  " ++ ·) ++ ["    \x7d", ""]

/-- The body that is read back from a text, given the number of clauses: the lines between the head
and the last two, moved out again. -/
def scatteredBody (k : Nat) (text : String) : String :=
  let inner := ((lines text).drop (k + 1)).take ((lines text).length - (k + 3))
  "\n".intercalate (inner.map fun l => String.ofList (l.toList.drop 2))

theorem scatterClause_eq_ok_iff {pair : Value} {clause : String} :
    scatterClause pair = .ok clause ↔ ClauseOf pair clause := by
  constructor
  · intro h
    obtain ⟨items, hitems, h⟩ := bind_eq_ok_iff.mp h
    split at h
    next item source => exact ⟨item, source, hitems, (Except.ok.inj h).symm⟩
    next => cases h
  · rintro ⟨item, source, hitems, rfl⟩
    rw [scatterClause, hitems]
    rfl

theorem IsScatter.exists_clauses {pairs : List Value} (h : IsScatter pairs) :
    ∃ clauses, pairs.mapM scatterClause = .ok clauses ∧ clauses ≠ [] ∧
      ∀ c ∈ clauses, '\n' ∉ c.toList := by
  have hpairs : ∀ pair ∈ pairs, ∃ clause, scatterClause pair = .ok clause := by
    intro pair hpair
    obtain ⟨item, source, hitems, -⟩ := h.printed pair hpair
    exact ⟨_, scatterClause_eq_ok_iff.mpr ⟨item, source, hitems, rfl⟩⟩
  obtain ⟨clauses, hclauses⟩ := (exists_mapM_eq_ok_iff _ _).mpr hpairs
  have hlength : clauses.length = pairs.length :=
    ((mapM_eq_ok_iff _ _ _).mp hclauses).length_eq.symm
  refine ⟨clauses, hclauses, ?_, ?_⟩
  · rw [← List.length_pos_iff, hlength, List.length_pos_iff]
    exact h.nonempty
  · intro clause hclause
    obtain ⟨pair, hpair, hclause⟩ := exists_of_mem_mapM hclauses hclause
    obtain ⟨item, source, hitems, rfl⟩ := scatterClause_eq_ok_iff.mp hclause
    obtain ⟨item', source', hitems', hitem, hsource⟩ := h.printed pair hpair
    cases hitems.symm.trans hitems'
    rw [notMem_toList_append, notMem_toList_append]
    exact ⟨⟨hitem, by decide⟩, hsource⟩

theorem length_headLines (lead : String) (clauses : List String) :
    (headLines lead clauses).length = clauses.length := by
  induction clauses generalizing lead with
  | nil => rfl
  | cons clause rest ih =>
    cases rest with
    | nil => rfl
    | cons next rest => rw [headLines, List.length_cons, List.length_cons, ih]

theorem headLines_ne_nil (lead : String) {clauses : List String} (h : clauses ≠ []) :
    headLines lead clauses ≠ [] := by
  rw [← List.length_pos_iff, length_headLines, List.length_pos_iff]
  exact h

/-- The head is written by joining its clauses with a separator that starts a line. -/
theorem intercalate_headLines (lead : String) {clauses : List String} (h : clauses ≠ []) :
    "\n".intercalate (headLines lead clauses) =
      lead ++ "\n             ".intercalate clauses ++ ") \x7b" := by
  induction clauses generalizing lead with
  | nil => exact absurd rfl h
  | cons clause rest ih =>
    cases rest with
    | nil => rw [headLines, String.intercalate_singleton, String.intercalate_singleton]
    | cons next rest =>
      have hnext := List.cons_ne_nil next rest
      have hfeed : "\n             " = "\n" ++ "             " := rfl
      rw [headLines, String.intercalate_cons_of_ne_nil (headLines_ne_nil _ hnext), ih _ hnext,
        String.intercalate_cons_cons, hfeed]
      simp only [String.append_assoc]

theorem feed_notMem_headLines {lead : String} (hlead : '\n' ∉ lead.toList)
    {clauses : List String} (hclauses : ∀ c ∈ clauses, '\n' ∉ c.toList) :
    ∀ l ∈ headLines lead clauses, '\n' ∉ l.toList := by
  induction clauses generalizing lead with
  | nil =>
    intro l hl
    cases hl
  | cons clause rest ih =>
    rw [List.forall_mem_cons] at hclauses
    have hstart : '\n' ∉ (lead ++ clause).toList := notMem_toList_append.mpr ⟨hlead, hclauses.1⟩
    cases rest with
    | nil =>
      rw [headLines, List.forall_mem_singleton, notMem_toList_append]
      exact ⟨hstart, by decide⟩
    | cons next rest =>
      rw [headLines, List.forall_mem_cons]
      exact ⟨hstart, ih (by decide) hclauses.2⟩

theorem feed_notMem_scatterLines {clauses : List String} (hclauses : ∀ c ∈ clauses, '\n' ∉ c.toList)
    (body : String) : ∀ l ∈ scatterLines clauses body, '\n' ∉ l.toList := by
  have hlead : '\n' ∉ "    scatter (".toList := by decide
  have hindented : ∀ l ∈ (lines body).map ("  " ++ ·), '\n' ∉ l.toList := by
    rw [List.forall_mem_map]
    intro l hl
    rw [notMem_toList_append]
    exact ⟨by decide, feed_notMem_of_mem_lines hl⟩
  have hclosing : ∀ l ∈ ["    \x7d", ""], '\n' ∉ l.toList := by simp
  rw [scatterLines, List.forall_mem_append, List.cons_append, List.forall_mem_cons,
    List.forall_mem_append]
  exact ⟨⟨by decide, feed_notMem_headLines hlead hclauses, hindented⟩, hclosing⟩

theorem length_scatterLines (clauses : List String) (body : String) :
    (scatterLines clauses body).length = clauses.length + (lines body).length + 3 := by
  simp only [scatterLines, List.length_append, List.length_cons, length_headLines, List.length_map,
    List.length_nil]
  omega

/-- The joined lines are the text, with every line feed at the end of a line. -/
theorem scatterText_eq_lines {pairs : List Value} {clauses : List String}
    (hclauses : pairs.mapM scatterClause = .ok clauses) (hne : clauses ≠ []) (body : String) :
    scatterText (.list pairs) body = .ok ("\n".intercalate (scatterLines clauses body)) := by
  have hindented : (lines body).map ("  " ++ ·) ≠ [] := by simpa using lines_ne_nil body
  have hlead : "\n    scatter (" = "\n" ++ "    scatter (" := rfl
  have hopened : ") \x7b\n" = ") \x7b" ++ "\n" := rfl
  have hclosed : "\n    \x7d\n" = "\n" ++ "    \x7d" ++ "\n" := rfl
  have hjoined : "\n".intercalate (scatterLines clauses body) =
      "\n    scatter (" ++ "\n             ".intercalate clauses ++ ") \x7b\n" ++
        "\n".intercalate ((lines body).map ("  " ++ ·)) ++ "\n    \x7d\n" := by
    rw [scatterLines, String.intercalate_append_of_ne_nil (by simp) (by simp),
      String.intercalate_append_of_ne_nil (by simp) hindented,
      String.intercalate_cons_of_ne_nil (headLines_ne_nil _ hne), intercalate_headLines _ hne,
      String.intercalate_cons_cons, String.intercalate_singleton, hlead, hopened, hclosed]
    simp only [String.append_assoc, String.empty_append, String.append_empty]
  rw [hjoined, scatterText, Value.items, pure_bind, hclauses]
  rfl

theorem head_scatterLines (clauses : List String) (body : String) :
    ((scatterLines clauses body).drop 1).take clauses.length =
      headLines "    scatter (" clauses := by
  rw [scatterLines, List.append_assoc, List.cons_append, List.drop_one, List.tail_cons,
    List.take_left' (length_headLines _ _)]

theorem body_scatterLines (clauses : List String) (body : String) :
    ((scatterLines clauses body).drop (clauses.length + 1)).take (lines body).length =
      (lines body).map ("  " ++ ·) := by
  have hhead : ("" :: headLines "    scatter (" clauses).length = clauses.length + 1 := by
    rw [List.length_cons, length_headLines]
  rw [scatterLines, List.append_assoc, List.drop_left' hhead, List.take_left' (List.length_map _)]

/-- The body is read back from its place among the lines. -/
theorem scatteredBody_of_lines {clauses : List String} {text body : String}
    (h : lines text = scatterLines clauses body) : scatteredBody clauses.length text = body := by
  have hmoved : ∀ l : String, String.ofList (("  " ++ l).toList.drop 2) = l := by
    intro l
    rw [String.toList_append, List.drop_left' (by rfl), String.ofList_toList]
  have hcount : clauses.length + (lines body).length + 3 - (clauses.length + 3) =
      (lines body).length := by omega
  simp only [scatteredBody, h, length_scatterLines, hcount, body_scatterLines, List.map_map,
    Function.comp_def, hmoved, List.map_id']
  exact intercalate_lines body

theorem IsScatter.exists_text {pairs : List Value} (h : IsScatter pairs) (body : String) :
    ∃ clauses text, List.Forall₂ ClauseOf pairs clauses ∧
      scatterBody (.list pairs) (.str body) = .ok (.str text) ∧
      lines text = scatterLines clauses body := by
  obtain ⟨clauses, hclauses, hne, hfeed⟩ := h.exists_clauses
  have htruthy : (Value.list pairs).truthy = true := by
    simpa [Value.truthy] using h.nonempty
  have hlines : scatterLines clauses body ≠ [] := by
    rw [← List.length_pos_iff, length_scatterLines]
    omega
  refine ⟨clauses, _, ?_, ?_, lines_intercalate hlines (feed_notMem_scatterLines hfeed body)⟩
  · exact ((mapM_eq_ok_iff _ _ _).mp hclauses).imp fun _ _ => scatterClause_eq_ok_iff.mp
  · rw [scatterBody, if_pos htruthy, scatterText_eq_lines hclauses hne]
    rfl

/-! ### Scatters inside scatters -/

/-- A body inside several scatters, the first of them innermost. -/
def nestScatters (scatters : List (List Value)) (body : String) : Except Fault Value :=
  scatters.foldlM (fun body pairs => scatterBody (.list pairs) body) (.str body)

/-- Scatters are taken off from the outermost to the innermost. -/
theorem exists_nestScatters {scatters : List (List Value)} (h : ∀ pairs ∈ scatters, IsScatter pairs)
    (body : String) :
    ∃ text, nestScatters scatters body = .ok (.str text) ∧
      scatters.foldr (fun pairs text => scatteredBody pairs.length text) text = body := by
  induction scatters generalizing body with
  | nil => exact ⟨body, rfl, rfl⟩
  | cons pairs outer ih =>
    rw [List.forall_mem_cons] at h
    obtain ⟨clauses, inner, hclauses, hinner, hlines⟩ := h.1.exists_text body
    obtain ⟨text, htext, hback⟩ := ih h.2 inner
    refine ⟨text, ?_, ?_⟩
    · rw [nestScatters, List.foldlM_cons, hinner, ok_bind]
      exact htext
    · rw [List.foldr_cons, hback, hclauses.length_eq]
      exact scatteredBody_of_lines hlines

theorem nestScatters_injective {scatters : List (List Value)}
    (h : ∀ pairs ∈ scatters, IsScatter pairs) : Function.Injective (nestScatters scatters) := by
  intro body body' heq
  obtain ⟨text, htext, hback⟩ := exists_nestScatters h body
  obtain ⟨text', htext', hback'⟩ := exists_nestScatters h body'
  cases htext.symm.trans (heq.trans htext')
  rw [← hback, hback']

/-- A body inside a scatter: one line for each clause comes before its lines, which are moved in and
are read back from there. Inside this scatter and any number of others around it, no two bodies
look alike. -/
theorem scatterBody_keeps_body {pairs : List Value} (h : IsScatter pairs) :
    (∀ body, ∃ clauses text, List.Forall₂ ClauseOf pairs clauses ∧
      scatterBody (.list pairs) (.str body) = .ok (.str text) ∧
      (lines text).length = pairs.length + (lines body).length + 3 ∧
      ((lines text).drop 1).take pairs.length = headLines "    scatter (" clauses ∧
      ((lines text).drop (pairs.length + 1)).take (lines body).length =
        (lines body).map ("  " ++ ·) ∧
      lines text = scatterLines clauses body ∧ scatteredBody pairs.length text = body) ∧
    ∀ outer : List (List Value), (∀ around ∈ outer, IsScatter around) →
      Function.Injective (nestScatters (pairs :: outer)) := by
  constructor
  · intro body
    obtain ⟨clauses, text, hclauses, htext, hlines⟩ := h.exists_text body
    refine ⟨clauses, text, hclauses, htext, ?_, ?_, ?_, hlines, ?_⟩
    · rw [hlines, length_scatterLines, hclauses.length_eq]
    · rw [hlines, hclauses.length_eq, head_scatterLines]
    · rw [hlines, hclauses.length_eq, body_scatterLines]
    · rw [hclauses.length_eq]
      exact scatteredBody_of_lines hlines
  · intro outer houter
    exact nestScatters_injective (List.forall_mem_cons.mpr ⟨h, houter⟩)

def scatterSample : List Value :=
  [.list [.str "x", .list [.int 1]], .str "yz", .mapping [("a", .null), ("b", .null)]]

theorem isScatter_scatterSample : IsScatter scatterSample where
  nonempty := List.cons_ne_nil _ _
  printed := by
    intro pair hpair
    simp only [scatterSample, List.mem_cons, List.not_mem_nil, or_false] at hpair
    rcases hpair with rfl | rfl | rfl
    · exact ⟨_, _, rfl, by decide, by decide⟩
    · exact ⟨_, _, rfl, by decide, by decide⟩
    · exact ⟨_, _, rfl, by decide, by decide⟩

theorem scatterBody_scatterSample :
    IsScatter scatterSample ∧
    (∃ text, scatterBody (.list scatterSample) (.str "call t\n\n") = .ok (.str text) ∧
      lines text = ["", "    scatter (x in [1]", "             y in z", "             a in b) \x7b",
        "  call t", "  ", "  ", "    \x7d", ""]) ∧
    Function.Injective (nestScatters [scatterSample, scatterSample]) := by
  obtain ⟨hlayout, hinjective⟩ := scatterBody_keeps_body isScatter_scatterSample
  obtain ⟨clauses, text, hclauses, htext, -, -, -, hlines, -⟩ := hlayout "call t\n\n"
  refine ⟨isScatter_scatterSample, ⟨text, htext, ?_⟩, hinjective _ ?_⟩
  · obtain _ | @⟨_, first, _, _, ⟨_, _, ⟨⟩, rfl⟩, hclauses⟩ := hclauses
    obtain _ | @⟨_, second, _, _, ⟨_, _, ⟨⟩, rfl⟩, hclauses⟩ := hclauses
    obtain _ | @⟨_, third, _, _, ⟨_, _, ⟨⟩, rfl⟩, hclauses⟩ := hclauses
    cases hclauses
    rw [hlines]
    rfl
  · intro around haround
    rw [List.mem_singleton.mp haround]
    exact isScatter_scatterSample

end Wdl

end FlowConverter
